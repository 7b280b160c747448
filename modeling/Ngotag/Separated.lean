import Mathlib.Data.List.DropRight

/-!
Lists as their parts between separators. The parts of a list do not count empty ones at its end
(`parts_eq`), so that the parts of one list begin those of another exactly when, both without
separators at the end, it is empty, the same, or followed by a separator there (`parts_prefix`).
-/
namespace Ngotag.Separated

variable {α : Type} [BEq α] [LawfulBEq α] {sep : α} {xs ys : List α}
/-- The list without separators at its end. -/
def stripped (sep : α) (xs : List α) : List α := xs.rdropWhile (· == sep)
/-- The parts between separators, without empty ones at the end. -/
def parts (sep : α) (xs : List α) : List (List α) := (xs.splitOn sep).rdropWhile List.isEmpty
theorem splitOn_snoc : (xs ++ [sep]).splitOn sep = xs.splitOn sep ++ [[]] := by
  rw [List.splitOn_append_cons_self,List.splitOn_nil]

omit [BEq α] [LawfulBEq α] in
theorem intercalate_append {l m : List (List α)} (before : l ≠ []) (after : m ≠ []) :
    [sep].intercalate (l ++ m) = [sep].intercalate l ++ sep :: [sep].intercalate m := by
  induction l with
  | nil => exact absurd rfl before
  | cons part rest ih =>
    cases rest with
    | nil =>
      rw [List.singleton_append,List.intercalate_cons_of_ne_nil after,List.intercalate_singleton,List.append_assoc]
      rfl
    | cons next rest =>
      have more : next :: rest ++ m ≠ [] := List.cons_ne_nil _ _
      rw [List.cons_append,List.intercalate_cons_of_ne_nil more,ih (List.cons_ne_nil _ _),
        List.intercalate_cons_of_ne_nil (List.cons_ne_nil next rest)]
      simp only [List.append_assoc]

variable (xs) in
theorem last_part {x : α} (other : x ≠ sep) : ∃ before last, last ≠ [] ∧ (xs ++ [x]).splitOn sep = before ++ [last] := by
  obtain ⟨before,last,split_⟩ :=
      List.eq_nil_or_concat ((xs ++ [x]).splitOn sep) |>.resolve_left (List.splitOn_ne_nil _ _)
  rw [List.concat_eq_append] at split_
  refine ⟨before,last,?_,split_⟩
  rintro rfl
  have whole : [sep].intercalate (before ++ [[]]) = xs ++ [x] := split_ ▸ List.intercalate_splitOn sep
  cases before with
  | nil => exact absurd whole.symm (by simp)
  | cons part rest =>
    rw [intercalate_append (List.cons_ne_nil _ _) (List.cons_ne_nil _ _)] at whole
    have last := congrArg List.getLast? whole
    simp only [List.intercalate_singleton,List.getLast?_append,List.getLast?_singleton,Option.some_or,
        Option.some.injEq] at last
    exact other last.symm

theorem parts_eq : parts sep xs = if stripped sep xs = [] then [] else (stripped sep xs).splitOn sep := by
  induction xs using List.reverseRecOn with
  | nil => simp [parts,stripped]
  | append_singleton xs x ih =>
    by_cases ends : x = sep
    · subst ends
      have same : stripped x (xs ++ [x]) = stripped x xs := List.rdropWhile_concat_pos _ _ _ (by simp)
      have fewer : parts x (xs ++ [x]) = parts x xs := by
        rw [parts,splitOn_snoc]
        exact List.rdropWhile_concat_pos _ _ _ rfl
      rw [same,fewer,ih]
    · have whole : stripped sep (xs ++ [x]) = xs ++ [x] := List.rdropWhile_concat_neg _ _ _ (by simpa using ends)
      obtain ⟨before,last,full,split_⟩ := last_part xs ends
      have kept : parts sep (xs ++ [x]) = before ++ [last] := by
        rw [parts,split_]
        exact List.rdropWhile_concat_neg _ _ _ (by simpa using full)
      rw [whole,if_neg (by simp),kept,split_]

theorem splitOn_begins : xs.splitOn sep <+: ys.splitOn sep ↔ xs = ys ∨ xs ++ [sep] <+: ys := by
  constructor
  · rintro ⟨more,begins⟩
    have whole : [sep].intercalate (xs.splitOn sep ++ more) = ys := begins ▸ List.intercalate_splitOn sep
    by_cases none_ : more = []
    · left
      rwa [none_,List.append_nil,List.intercalate_splitOn] at whole
    · right
      rw [intercalate_append (List.splitOn_ne_nil _ _) none_,List.intercalate_splitOn] at whole
      exact ⟨[sep].intercalate more,by rw [← whole]; simp⟩
  · rintro (rfl | ⟨rest,rfl⟩)
    · exact List.prefix_refl _
    · rw [List.append_assoc,List.singleton_append,List.splitOn_append_cons_self]
      exact List.prefix_append _ _

theorem parts_prefix : parts sep xs <+: parts sep ys ↔
    stripped sep xs = [] ∨ stripped sep ys = stripped sep xs ∨ stripped sep xs ++ [sep] <+: stripped sep ys := by
  rw [parts_eq,parts_eq]
  by_cases empty : stripped sep xs = []
  · simp [empty]
  · by_cases none_ : stripped sep ys = []
    · have other : [] ≠ stripped sep xs := Ne.symm empty
      simp [empty,none_,other,List.splitOn_ne_nil]
    · rw [if_neg empty,if_neg none_,splitOn_begins,or_iff_right empty,eq_comm]

end Ngotag.Separated
