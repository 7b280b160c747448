import Ngotag.BulkIssuance
import Mathlib.Logic.Equiv.Basic

/-!
Ids as they are really spelled. Stored ids are lower-case UUIDs; an id of a
query is read without the blanks around it and in any letter case. With a digest
that has no collisions this is a naming, so what is assumed of namings can be
met.
-/
namespace Ngotag.Spelling
open Await BulkStore BulkIssuance

/-- The characters `trim` removes. -/
def blank (c : Char) : Bool :=
  c.isWhitespace || c.val == 0xb || c.val == 0xc || c.val == 0xa0 || c.val == 0xfeff || c.val == 0x1680 ||
    (0x2000 ≤ c.val && c.val ≤ 0x200a) || c.val == 0x2028 || c.val == 0x2029 || c.val == 0x202f || c.val == 0x205f ||
    c.val == 0x3000
/-- `value.trim().toLowerCase()`, for the letters that ids have. -/
def identity (value : String) : String :=
  String.ofList ((((value.toList.dropWhile blank).reverse.dropWhile blank).reverse).map Char.toLower)
/-- The last group of a UUID, padded to twelve digits. -/
def group (u : Uuid) : List Char :=
  List.replicate (12 - (Nat.toDigits 10 u).length) '0' ++ Nat.toDigits 10 u
def leading : List Char := "00000000-0000-4000-8000-".toList
def text (u : Uuid) : String := String.ofList (leading ++ group u)
def uuid (value : String) : Option Uuid :=
  let u := Nat.ofDigitChars 10 ((identity value).toList.drop leading.length) 0
  if text u = identity value then some u else none
theorem ofDigitChars_zeros (k : Nat) (rest : List Char) :
    Nat.ofDigitChars 10 (List.replicate k '0' ++ rest) 0 = Nat.ofDigitChars 10 rest 0 := by
  induction k with
  | zero => rfl
  | succ k ih => exact ih
theorem group_read (u : Uuid) : Nat.ofDigitChars 10 (group u) 0 = u := by
  rw [group,ofDigitChars_zeros]
  simp
/-- A character that stays as it is, also at the ends of an id. -/
def Plain (c : Char) : Prop := blank c = false ∧ c.toLower = c
instance (c : Char) : Decidable (Plain c) := inferInstanceAs (Decidable (_ ∧ _))

theorem plain_of_isDigit {c : Char} (digit : c.isDigit = true) : Plain c := by
  simp only [Char.isDigit,ge_iff_le,Bool.and_eq_true,decide_eq_true_eq,UInt32.le_iff_toNat_le] at digit
  obtain ⟨low,high⟩ := digit
  have ten : ∀ k : Fin 10, Plain (Char.ofNat (48 + k)) := by decide
  have value : c = Char.ofNat (48 + (c.toNat - 48)) := by
    rw [Nat.add_sub_cancel' (show 48 ≤ c.toNat from low),Char.ofNat_toNat]
  have small : c.toNat - 48 < 10 := by
    have top : c.toNat ≤ 57 := high
    omega
  rw [value]
  exact ten ⟨_,small⟩

theorem dropWhile_plain {cs : List Char} (plain : ∀ c ∈ cs, Plain c) : cs.dropWhile blank = cs := by
  cases cs with
  | nil => rfl
  | cons c rest => rw [List.dropWhile_cons_of_neg (by simp [(plain c List.mem_cons_self).1])]
theorem identity_plain {cs : List Char} (plain : ∀ c ∈ cs, Plain c) :
    identity (String.ofList cs) = String.ofList cs := by
  have reversed : ∀ c ∈ cs.reverse, Plain c := fun c member => plain c (List.mem_reverse.mp member)
  have lower : cs.map Char.toLower = cs := by
    rw [List.map_congr_left fun c member => (plain c member).2,List.map_id']
  simp only [identity,String.toList_ofList,dropWhile_plain plain,dropWhile_plain reversed,List.reverse_reverse,lower]
theorem text_plain (u : Uuid) : ∀ c ∈ leading ++ group u, Plain c := by
  intro c member
  rcases List.mem_append.mp member with front | back
  · have each : leading.all (fun c => decide (Plain c)) = true := by decide
    exact of_decide_eq_true (List.all_eq_true.mp each c front)
  · refine plain_of_isDigit ?_
    rcases List.mem_append.mp back with pad | digit
    · rw [List.eq_of_mem_replicate pad]; rfl
    · exact Nat.isDigit_of_mem_toDigits (by decide) (by decide) digit
theorem identity_text (u : Uuid) : identity (text u) = text u := identity_plain (text_plain u)
theorem text_read (u : Uuid) : Nat.ofDigitChars 10 ((text u).toList.drop leading.length) 0 = u := by
  rw [text,String.toList_ofList,List.drop_left,group_read]
theorem uuid_text (u : Uuid) : uuid (text u) = some u := by
  simp only [uuid,identity_text,text_read,if_true]
theorem uuid_eq_some {value : String} {u : Uuid} (read : uuid value = some u) : text u = identity value := by
  simp only [uuid] at read
  split at read
  · rename_i same
    rw [← Option.some.inj read]
    exact same
  · cases read

/-- The naming of stored ids with the given digest. -/
def naming (digest : String → String) (injective : Function.Injective digest) : Naming where
  identity := identity
  uuid := uuid
  text := text
  digest := digest
  uuid_text := uuid_text
  uuid_empty := by
    have differ : ∀ u, text u ≠ identity "" := by
      intro u same
      have lengths := congrArg (·.toList.length) same
      rw [text,String.toList_ofList,List.length_append] at lengths
      have front : leading.length = 24 := by decide
      have none : (identity "").toList.length = 0 := by decide
      omega
    simp only [uuid,differ,if_false]
  uuid_identity a b u v readA readB same := by
    have texts : text u = text v := by rw [uuid_eq_some readA,uuid_eq_some readB,same]
    rw [← text_read u,← text_read v,texts]
  digest_injective := injective

/-- SHA-256 as it is on the ids of the row 20 of the file 10 of the organization 1,
    and without collisions elsewhere. -/
def digest : Equiv.Perm String :=
  Equiv.swap
    "[\"00000000-0000-4000-8000-000000000001\",\"00000000-0000-4000-8000-000000000010\",\"00000000-0000-4000-8000-000000000020\"]"
    "a5b7ecef5127c1f1d14c252286da9a377328ab080420e264a1b68fc324936389"

def spelled : Naming := naming digest digest.injective
def rowJob (request : Nat) (isRetry : Bool) : Job :=
  ⟨spelled.text 20,spelled.text request,spelled.text 10,spelled.text 1,1,isRetry⟩
def goesOn (process calls : Nat) : List (Action Choice Input Env) := List.replicate calls (.advance process {})
/-- The request 0 stores the file 10 with its row and starts its batch. -/
def uploads : List (Action Choice Input Env) :=
  [.start 0 (.issue (spelled.text 1) 1),.advance 0 {},.advance 0 { fresh := 10 },.advance 0 { fresh := 20 },.advance 0 {},
    .advance 0 {}]
/-- The chain of a request queues the job of the row, and a worker takes it. -/
def delivers (chain worker : Nat) (job : Job) : List (Action Choice Input Env) :=
  [.start chain (.chain [job]),.advance chain {},.start worker (.job job)]
/-- A file of one row is issued, and its worker writes the final status. -/
def oneRow : List (Action Choice Input Env) := [uploads,goesOn 0 1,delivers 1 2 (rowJob 0 false),goesOn 2 19].flatten
def retries (request : Nat) : List (Action Choice Input Env) :=
  .start request (.retry (spelled.text 10) (spelled.text 1)) :: goesOn request 4

end Ngotag.Spelling
