import Mathlib

/-!
Network addresses and their texts, and patterns on texts. An IPv6 address is written with its
eight words in hexadecimal, where the first longest run of zeros is left out, and an embedded IPv4
address is written as one (`text`). A pattern is a list of conditions on the characters in turn: on
a text whose parts end with a separator it is read part by part (`matchesPrefix_part`).
-/
namespace Ngotag.NetworkAddresses

abbrev Byte := Fin 256
abbrev Word := Fin 65536
instance byte_ne : NeZero 256 := ⟨by decide⟩
instance word_ne : NeZero 65536 := ⟨by decide⟩
structure V4 where
  a : Byte
  b : Byte
  c : Byte
  d : Byte
  deriving DecidableEq

structure V6 where
  words : List Word
  eight : words.length = 8
  deriving DecidableEq
inductive Address where
  | v4 (address : V4)
  | v6 (address : V6)
  deriving DecidableEq
def decimal (byte : Byte) : List Char := Nat.toDigits 10 byte.val
def hexDigit (n : Nat) : Char := if n < 10 then Char.ofNat (48 + n) else Char.ofNat (87 + n)

def hex (word : Word) : List Char :=
  let n := word.val
  if n < 16 then [hexDigit n]
  else if n < 256 then [hexDigit (n / 16),hexDigit (n % 16)]
  else if n < 4096 then [hexDigit (n / 256),hexDigit (n / 16 % 16),hexDigit (n % 16)]
  else [hexDigit (n / 4096),hexDigit (n / 256 % 16),hexDigit (n / 16 % 16),hexDigit (n % 16)]

def V4.text (address : V4) : List Char :=
  decimal address.a ++ '.' :: (decimal address.b ++ '.' :: (decimal address.c ++ '.' :: decimal address.d))
def joined : List Word → List Char
  | [] => []
  | [word] => hex word
  | word :: rest => hex word ++ ':' :: joined rest
/-- The length of the run of zeros that begins at a position. -/
def runAt (words : List Word) (i : Nat) : Nat := ((words.drop i).takeWhile (· = 0)).length
/-- The longest run found, or the run at a position where it is longer. -/
def longer (words : List Word) (found : Nat × Nat) (i : Nat) : Nat × Nat :=
  if found.2 < runAt words i then (i,runAt words i) else found
/-- The first longest run of zeros that begins at one of the first positions: its position and its
    length. -/
def bestBelow (words : List Word) (n : Nat) : Nat × Nat := (List.range n).foldl (longer words) (0,0)
def best (words : List Word) : Nat × Nat := bestBelow words words.length

def embedded (high low : Word) : V4 where
  a := ⟨high.val / 256,by have := high.isLt; omega⟩
  b := ⟨high.val % 256,by omega⟩
  c := ⟨low.val / 256,by have := low.isLt; omega⟩
  d := ⟨low.val % 256,by omega⟩
def wordsText (words : List Word) : List Char :=
  let (base,length) := best words
  if length < 2 then joined words
  else match base, length, words.drop length with
    | 0, 6, [high,low] => ':' :: ':' :: (embedded high low).text
    | 0, 5, [65535,high,low] => ':' :: ':' :: (hex 65535 ++ ':' :: (embedded high low).text)
    | _, _, _ => joined (words.take base) ++ ':' :: ':' :: joined (words.drop (base + length))

/-- `inet_ntop` -/
def Address.text : Address → List Char
  | .v4 address => address.text
  | .v6 address => wordsText address.words
def is (c : Char) : Char → Bool := fun x => x = c
def lit (s : String) : List (Char → Bool) := s.toList.map is
/-- Whatever the case of the letters. -/
def litI (s : String) : List (Char → Bool) := s.toList.map fun c x => x.toLower = c
def range (low high : Char) : Char → Bool := fun x => low ≤ x && x ≤ high
def matchesPrefix : List (Char → Bool) → List Char → Bool
  | [],_ => true
  | _ :: _,[] => false
  | test :: rest,c :: text => test c && matchesPrefix rest text
def matchesAll : List (Char → Bool) → List Char → Bool
  | [],[] => true
  | test :: rest,c :: text => test c && matchesAll rest text
  | _,_ => false
def starts (alternatives : List (List (Char → Bool))) (text : List Char) : Bool :=
  alternatives.any fun pattern => matchesPrefix pattern text
example : (wordsText [0,0,0,0,0,65535,32512,1],wordsText [8193,3512,0,0,1,0,0,1]) =
    ("::ffff:127.0.0.1".toList,"2001:db8::1:0:0:1".toList) := by decide

section
variable {p q : List (Char → Bool)} {xs ys text : List Char} {separator : Char}

/-- A part of the text without separators is matched by the part of the pattern that matches none. -/
theorem matchesPrefix_part (plain : separator ∉ xs) (without : ∀ test ∈ p, test separator = false) :
    matchesPrefix (p ++ is separator :: q) (xs ++ separator :: ys) = (matchesAll p xs && matchesPrefix q ys) := by
  induction p generalizing xs with
  | nil =>
    cases xs with
    | nil => simp [matchesPrefix,matchesAll,is]
    | cons x rest =>
      have different : x ≠ separator := fun same => plain (same ▸ List.mem_cons_self)
      simp [matchesPrefix,matchesAll,is,different]
  | cons test p ih =>
    cases xs with
    | nil => simp [matchesPrefix,matchesAll,without test List.mem_cons_self]
    | cons x rest =>
      have plain_rest : separator ∉ rest := fun there => plain (List.mem_cons_of_mem _ there)
      have later := ih plain_rest fun test there => without test (List.mem_cons_of_mem _ there)
      simp only [List.cons_append,matchesPrefix,matchesAll,later,Bool.and_assoc]

theorem matchesPrefix_needs (asked : is separator ∈ p) (matched : matchesPrefix p text = true) : separator ∈ text := by
  induction p generalizing text with
  | nil => cases asked
  | cons test p ih =>
    cases text with
    | nil => cases matched
    | cons c text =>
      simp only [matchesPrefix,Bool.and_eq_true] at matched
      rcases List.mem_cons.mp asked with rfl | later
      · have same : c = separator := by simpa [is] using matched.1
        exact same ▸ List.mem_cons_self
      · exact List.mem_cons_of_mem c (ih later matched.2)

end
section
variable {words : List Word} {n : Nat}

variable (words n) in
theorem bestBelow_spec : (∀ i < n, runAt words i ≤ (bestBelow words n).2) ∧
    (bestBelow words n = (0,0) ∨ runAt words (bestBelow words n).1 = (bestBelow words n).2 ∧
      (bestBelow words n).1 < n ∧ ∀ i < (bestBelow words n).1, runAt words i < (bestBelow words n).2) := by
  induction n with
  | zero => exact ⟨fun i below => absurd below (Nat.not_lt_zero i),.inl rfl⟩
  | succ n ih =>
    obtain ⟨longest,found⟩ := ih
    have next : bestBelow words (n + 1) = longer words (bestBelow words n) n := by
      simp only [bestBelow,List.range_succ,List.foldl_append,List.foldl_cons,List.foldl_nil]
    rw [next,longer]
    by_cases more : (bestBelow words n).2 < runAt words n
    · rw [if_pos more]
      refine ⟨fun i below => ?_,.inr ⟨rfl,Nat.lt_succ_self n,fun i below => Nat.lt_of_le_of_lt (longest i below) more⟩⟩
      rcases Nat.lt_succ_iff_lt_or_eq.mp below with earlier | rfl
      · exact Nat.le_of_lt (Nat.lt_of_le_of_lt (longest i earlier) more)
      · exact Nat.le_refl _
    · rw [if_neg more]
      refine ⟨fun i below => ?_,?_⟩
      · rcases Nat.lt_succ_iff_lt_or_eq.mp below with earlier | rfl
        · exact longest i earlier
        · exact Nat.le_of_not_lt more
      · rcases found with none_ | ⟨same,below,first⟩
        · exact .inl none_
        · exact .inr ⟨same,Nat.lt_succ_of_lt below,first⟩

theorem take_runAt {length : Nat} (run : runAt words 0 = length) :
    words = List.replicate length 0 ++ words.drop length := by
  subst run
  have zeros : ∀ word ∈ words.takeWhile (· = 0), word = 0 :=
      fun word there => by simpa using List.mem_takeWhile_imp there
  have begins : words.takeWhile (· = 0) = List.replicate (runAt words 0) 0 := List.eq_replicate_of_mem zeros
  have taken : words.takeWhile (· = 0) = words.take (runAt words 0) :=
    List.prefix_iff_eq_take.mp (List.takeWhile_prefix _)
  rw [← begins,taken,List.take_append_drop]

theorem run_ends {length : Nat} (run : runAt words 0 = length) : (words.drop length).head? ≠ some 0 := by
  subst run
  have rest : words.drop (runAt words 0) = words.dropWhile (· = 0) := by
    have both := List.takeWhile_append_dropWhile (p := (· = (0 : Word))) (l := words)
    calc
      words.drop (runAt words 0) = (words.takeWhile (· = 0) ++ words.dropWhile (· = 0)).drop (runAt words 0) := by rw [both]
      _ = words.dropWhile (· = 0) := List.drop_left
  rw [rest]
  intro zero
  have kept := List.head?_dropWhile_not (· = (0 : Word)) words
  rw [zero] at kept
  cases kept

theorem run_unique {k n : Nat} {rest last : List Word} (ends : rest.head? ≠ some 0) (ends' : last.head? ≠ some 0)
    (same : List.replicate k 0 ++ rest = List.replicate n 0 ++ last) : rest = last := by
  induction k generalizing n with
  | zero =>
    cases n with
    | zero => exact same
    | succ n => exact absurd (by rw [show rest = _ from same]; rfl) ends
  | succ k ih =>
    cases n with
    | zero => exact absurd (by rw [← show _ = last from same]; rfl) ends'
    | succ n => exact ih (List.cons.inj same).2

end

theorem hexDigit_facts : ∀ d : Fin 16, hexDigit d.val ≠ '.' ∧ hexDigit d.val ≠ ':' ∧
    (hexDigit d.val = '0' ↔ d = 0) ∧ (hexDigit d.val = '1' ↔ d = 1) ∧ ((hexDigit d.val).toLower = 'f' ↔ d = 15) ∧
    ((hexDigit d.val).toLower = 'e' ↔ d = 14) ∧ ((hexDigit d.val).toLower = '8' ↔ d = 8) ∧
    ((hexDigit d.val).toLower = '0' ↔ d = 0) ∧ ((hexDigit d.val).toLower = 'c' ↔ d = 12) ∧
    ((hexDigit d.val).toLower = 'd' ↔ d = 13) := by decide

variable {word : Word} {words : List Word}
variable (word) in
theorem hex_cases : (∃ d : Fin 16, word.val = d ∧ hex word = [hexDigit d]) ∨
    (∃ c d : Fin 16, word.val = 16 * c + d ∧ 0 < c.val ∧ hex word = [hexDigit c,hexDigit d]) ∨
    (∃ b c d : Fin 16, word.val = 256 * b + 16 * c + d ∧ 0 < b.val ∧ hex word = [hexDigit b,hexDigit c,hexDigit d]) ∨
    ∃ a b c d : Fin 16, word.val = 4096 * a + 256 * b + 16 * c + d ∧ 0 < a.val ∧
      hex word = [hexDigit a,hexDigit b,hexDigit c,hexDigit d] := by
  have bound := word.isLt
  unfold hex
  dsimp only
  split
  · exact .inl ⟨⟨word.val,by omega⟩,rfl,rfl⟩
  · split
    · exact .inr (.inl ⟨⟨word.val / 16,by omega⟩,⟨word.val % 16,by omega⟩,by dsimp only; omega,by dsimp only; omega,rfl⟩)
    · split
      · exact .inr (.inr (.inl ⟨⟨word.val / 256,by omega⟩,⟨word.val / 16 % 16,by omega⟩,⟨word.val % 16,by omega⟩,
          by dsimp only; omega,by dsimp only; omega,rfl⟩))
      · exact .inr (.inr (.inr ⟨⟨word.val / 4096,by omega⟩,⟨word.val / 256 % 16,by omega⟩,⟨word.val / 16 % 16,by omega⟩,
          ⟨word.val % 16,by omega⟩,by dsimp only; omega,by dsimp only; omega,rfl⟩))

theorem hex_digits {c : Char} (there : c ∈ hex word) : ∃ d : Fin 16, c = hexDigit d := by
  rcases hex_cases word with ⟨d,-,same⟩ | ⟨_,d,-,-,same⟩ | ⟨_,_,d,-,-,same⟩ | ⟨_,_,_,d,-,-,same⟩ <;>
    (rw [same] at there; simp only [List.mem_cons,List.not_mem_nil,or_false] at there)
  · exact ⟨d,there⟩
  · rcases there with same | same <;> exact ⟨_,same⟩
  · rcases there with same | same | same <;> exact ⟨_,same⟩
  · rcases there with same | same | same | same <;> exact ⟨_,same⟩
theorem hex_ne_nil : hex word ≠ [] := by
  rcases hex_cases word with ⟨_,_,same⟩ | ⟨_,_,_,_,same⟩ | ⟨_,_,_,_,_,same⟩ | ⟨_,_,_,_,_,_,same⟩ <;> simp [same]
theorem hex_dot : '.' ∉ hex word := by
  intro there
  obtain ⟨d,same⟩ := hex_digits there
  exact (hexDigit_facts d).1 same.symm
theorem hex_colon : ':' ∉ hex word := by
  intro there
  obtain ⟨d,same⟩ := hex_digits there
  exact (hexDigit_facts d).2.1 same.symm
theorem joined_dot : '.' ∉ joined words := by
  induction words with
  | nil => exact fun there => nomatch there
  | cons word rest ih =>
    cases rest with
    | nil => exact hex_dot
    | cons next rest => simp [joined,hex_dot,ih]

theorem part_eq {separator : Char} {xs xs' ys ys' : List Char} (plain : separator ∉ xs) (plain' : separator ∉ xs')
    (same : xs ++ separator :: ys = xs' ++ separator :: ys') : xs = xs' ∧ ys = ys' := by
  induction xs generalizing xs' with
  | nil =>
    cases xs' with
    | nil => exact ⟨rfl,(List.cons.inj same).2⟩
    | cons x rest => exact absurd (List.cons.inj same).1 fun begins => plain' (begins ▸ List.mem_cons_self)
  | cons x rest ih =>
    cases xs' with
    | nil => exact absurd (List.cons.inj same).1 fun begins => plain (begins ▸ List.mem_cons_self)
    | cons x' rest' =>
      obtain ⟨rfl,later⟩ := List.cons.inj same
      obtain ⟨rfl,rfl⟩ := ih (fun there => plain (List.mem_cons_of_mem _ there))
        (fun there => plain' (List.mem_cons_of_mem _ there)) later
      exact ⟨rfl,rfl⟩

theorem joined_cons {first second : Word} :
    joined (first :: second :: words) = hex first ++ ':' :: joined (second :: words) :=
  rfl

inductive Written (words : List Word) : Prop where
  | compatible (high low : Word) (nonzero : high ≠ 0) (is : words = [0,0,0,0,0,0,high,low])
      (text : wordsText words = ':' :: ':' :: (embedded high low).text)
  | mapped (high low : Word) (is : words = [0,0,0,0,0,0xffff,high,low])
      (text : wordsText words = ':' :: ':' :: (hex 0xffff ++ ':' :: (embedded high low).text))
  | begins (length : Nat) (rest : List Word) (long : 2 ≤ length) (is : words = List.replicate length 0 ++ rest)
      (ends : rest.head? ≠ some 0) (unmapped : ∀ high low, words ≠ [0,0,0,0,0,0xffff,high,low])
      (text : wordsText words = ':' :: ':' :: joined rest)
  | plain (short : (best words).2 < 2) (text : wordsText words = joined words)
  | compressed (inner : 0 < (best words).1) (text : wordsText words =
      joined (words.take (best words).1) ++ ':' :: ':' :: joined (words.drop ((best words).1 + (best words).2)))

theorem best_mapped {high low : Word} : best [0,0,0,0,0,0xffff,high,low] = (0,5) := by
  by_cases zero : high = 0 <;> by_cases zero' : low = 0 <;>
    simp [best,bestBelow,longer,runAt,List.range_succ,zero,zero']

theorem written (eight : words.length = 8) : Written words := by
  by_cases short : (best words).2 < 2
  · refine .plain short ?_
    simp only [wordsText,short,if_true]
  by_cases inner : 0 < (best words).1
  · refine .compressed inner ?_
    have different : (best words).1 ≠ 0 := Nat.pos_iff_ne_zero.mp inner
    simp only [wordsText,short,if_false]
    split
    · next same _ _ => exact absurd same different
    · next same _ _ => exact absurd same different
    · rfl
  -- The longest run begins the words.
  have start : (best words).1 = 0 := Nat.eq_zero_of_not_pos inner
  have run : runAt words 0 = (best words).2 := by
    rcases (bestBelow_spec words words.length).2 with none_ | ⟨same,-,-⟩
    · exact absurd (show (best words).2 < 2 by rw [best,none_]; decide) short
    · change runAt words (best words).1 = (best words).2 at same
      rwa [start] at same
  have is := take_runAt run
  by_cases six : (best words).2 = 6
  · rw [six] at is run
    have two : (words.drop 6).length = 2 := by rw [List.length_drop,eight]
    obtain ⟨high,low,last⟩ := List.length_eq_two.mp two
    rw [last] at is
    have nonzero : high ≠ 0 := by
      rintro rfl
      rw [is] at run
      by_cases zero : low = 0 <;> simp [runAt,List.replicate,zero] at run
    refine .compatible high low nonzero is ?_
    simp only [wordsText,start,six,last]
    rfl
  by_cases mapped : ∃ high low, words = [0,0,0,0,0,0xffff,high,low]
  · obtain ⟨high,low,rfl⟩ := mapped
    refine .mapped high low rfl ?_
    simp only [wordsText,best_mapped]
    rfl
  refine .begins (best words).2 _ (Nat.le_of_not_lt short) is (run_ends run)
      (fun high low same => mapped ⟨high,low,same⟩) ?_
  simp only [wordsText,short,if_false,start]
  split
  · next same _ => exact absurd same six
  · next high low _ five last =>
    rw [last,five] at is
    exact absurd ⟨_,_,is⟩ mapped
  · rw [Nat.zero_add]
    rfl

end Ngotag.NetworkAddresses
