import Mathlib.Tactic.IntervalCases
import Mathlib.Logic.Function.Basic

/-!
How JSON writes a list of strings. The written form of a character starts the
rest in one way only (`decode_escape`), no written character starts with a
quote, and so the text of a list of strings determines the list
(`stringify_injective`).
-/
namespace Ngotag.Json

def hexDigit (n : Nat) : Char := if n < 10 then Char.ofNat (48 + n) else Char.ofNat (87 + n)

/-- A character as `JSON.stringify` writes it between quotes. -/
def escape (c : Char) : List Char :=
  if c = '"' then ['\\','"']
  else if c = '\\' then ['\\','\\']
  else if c.toNat < 32 then
    match c.toNat with
    | 8 => ['\\','b']
    | 9 => ['\\','t']
    | 10 => ['\\','n']
    | 12 => ['\\','f']
    | 13 => ['\\','r']
    | n => ['\\','u','0','0',hexDigit (n / 16),hexDigit (n % 16)]
  else [c]

def quote (s : String) : List Char := '"' :: (s.toList.flatMap escape ++ ['"'])
/-- The elements after the first, each behind a comma, and the closing bracket. -/
def stringifyRest : List String → List Char
  | [] => [']']
  | s :: rest => ',' :: (quote s ++ stringifyRest rest)
/-- `JSON.stringify` of an array of strings. -/
def stringify : List String → String
  | [] => String.ofList ['[',']']
  | s :: rest => String.ofList ('[' :: (quote s ++ stringifyRest rest))
/-- The value of a hexadecimal digit as `hexDigit` writes it. -/
def hexValue (c : Char) : Nat := if c.toNat < 58 then c.toNat - 48 else c.toNat - 87

/-- Reads the first written character back, with the text after it. -/
def decode : List Char → Option (Char × List Char)
  | '\\' :: '"' :: rest => some ('"',rest)
  | '\\' :: '\\' :: rest => some ('\\',rest)
  | '\\' :: 'b' :: rest => some (Char.ofNat 8,rest)
  | '\\' :: 't' :: rest => some (Char.ofNat 9,rest)
  | '\\' :: 'n' :: rest => some (Char.ofNat 10,rest)
  | '\\' :: 'f' :: rest => some (Char.ofNat 12,rest)
  | '\\' :: 'r' :: rest => some (Char.ofNat 13,rest)
  | '\\' :: 'u' :: '0' :: '0' :: high :: low :: rest => some (Char.ofNat (16 * hexValue high + hexValue low),rest)
  | c :: rest => some (c,rest)
  | [] => none

theorem decode_escape (c : Char) (rest : List Char) : decode (escape c ++ rest) = some (c,rest) := by
  by_cases quoted : c = '"'
  · subst quoted; rfl
  by_cases backslash : c = '\\'
  · subst backslash; rfl
  by_cases control : c.toNat < 32
  · have back : c = Char.ofNat c.toNat := (Char.ofNat_toNat c).symm
    generalize c.toNat = n at back control
    subst back
    interval_cases n <;> rfl
  · simp only [escape,quoted,backslash,control,↓reduceIte,List.singleton_append]
    unfold decode
    split <;> simp_all

theorem escape_ne_quote (c : Char) (tail rest : List Char) : escape c ++ tail ≠ '"' :: rest := by
  intro same
  have read := decode_escape c tail
  rw [same] at read
  have first : decode ('"' :: rest) = some ('"',rest) := by simp [decode]
  rw [first] at read
  obtain ⟨rfl,rfl⟩ := Prod.mk.inj (Option.some.inj read)
  have longer := congrArg List.length same
  simp [escape] at longer

/-- The written characters before a closing quote determine the characters and
    what follows the quote. -/
theorem flatMap_escape_inj {xs ys : List Char} {rest rest' : List Char}
    (same : xs.flatMap escape ++ '"' :: rest = ys.flatMap escape ++ '"' :: rest') : xs = ys ∧ rest = rest' := by
  induction xs generalizing ys with
  | nil =>
    cases ys with
    | nil => simpa using same
    | cons y ys =>
      rw [List.flatMap_cons,List.append_assoc] at same
      exact absurd same.symm (escape_ne_quote y _ _)
  | cons x xs ih =>
    cases ys with
    | nil =>
      rw [List.flatMap_cons,List.append_assoc] at same
      exact absurd same (escape_ne_quote x _ _)
    | cons y ys =>
      simp only [List.flatMap_cons,List.append_assoc] at same
      have read := congrArg decode same
      rw [decode_escape,decode_escape] at read
      obtain ⟨rfl,tails⟩ := Prod.mk.inj (Option.some.inj read)
      obtain ⟨rfl,rests⟩ := ih tails
      exact ⟨rfl,rests⟩

theorem quote_inj {s t : String} {rest rest' : List Char} (same : quote s ++ rest = quote t ++ rest') :
    s = t ∧ rest = rest' := by
  simp only [quote,List.cons_append,List.append_assoc,List.cons.injEq,true_and] at same
  obtain ⟨characters,rests⟩ := flatMap_escape_inj same
  exact ⟨String.toList_inj.mp characters,rests⟩

theorem stringifyRest_injective : Function.Injective stringifyRest := by
  intro ss
  induction ss with
  | nil =>
    intro ts same
    cases ts with
    | nil => rfl
    | cons t ts => simp [stringifyRest] at same
  | cons s ss ih =>
    intro ts same
    cases ts with
    | nil => simp [stringifyRest] at same
    | cons t ts =>
      simp only [stringifyRest,List.cons.injEq,true_and] at same
      obtain ⟨rfl,rests⟩ := quote_inj same
      rw [ih rests]

theorem stringify_injective : Function.Injective stringify := by
  intro ss ts same
  cases ss with
  | nil =>
    cases ts with
    | nil => rfl
    | cons t ts => simp only [stringify,String.ofList_inj,quote] at same; simp at same
  | cons s ss =>
    cases ts with
    | nil => simp only [stringify,String.ofList_inj,quote] at same; simp at same
    | cons t ts =>
      simp only [stringify,String.ofList_inj,List.cons.injEq,true_and] at same
      obtain ⟨rfl,rests⟩ := quote_inj same
      rw [stringifyRest_injective rests]

example : stringify ["a\"b","c"] = "[\"a\\\"b\",\"c\"]" := by decide

end Ngotag.Json
