import Mathlib.Data.List.Nodup

/-!
Items grouped by a key: the groups stand in the order of their first items, each with its items in
order. What a list of pairs is looked up for.
-/
namespace Ngotag.Grouping

variable {Key Item : Type} [DecidableEq Key]
/-- The item comes last in its group, or opens one. -/
def push (k : Key) (item : Item) : List (Key × List Item) → List (Key × List Item)
  | [] => [(k,[item])]
  | (k',group) :: rest => if k' = k then (k',group ++ [item]) :: rest else (k',group) :: push k item rest
def groupBy (key : Item → Key) (items : List Item) : List (Key × List Item) :=
  items.foldl (fun groups item => push (key item) item groups) []

variable {V : Type} {l : List (Key × V)} {k : Key} {v : V}
theorem lookup_of_mem (distinct : (l.map Prod.fst).Nodup)
    (there : (k,v) ∈ l) : l.lookup k = some v := by
  induction l with
  | nil => simp at there
  | cons entry rest ih =>
    obtain ⟨alone,distinct⟩ := List.nodup_cons.mp distinct
    rcases List.mem_cons.mp there with rfl | later
    · simp
    · have apart : k ≠ entry.1 := fun same => alone (same ▸ List.mem_map_of_mem later)
      rw [List.lookup_cons,beq_false_of_ne apart]
      exact ih distinct later

theorem mem_of_lookup (found : l.lookup k = some v) : (k,v) ∈ l := by
  obtain ⟨front,back,split,_⟩ := List.lookup_eq_some_iff.mp found
  rw [split]
  simp

end Ngotag.Grouping
