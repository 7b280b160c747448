import Mathlib.Data.List.AList
import Ngotag.Runs

/-!
What answers tell of what is hidden. Two states are alike for someone when they
differ only in what does not concern him. A call is discreet in a state when it
is answered alike in every state that is alike; calls that are, and that leave
states alike that were, are answered alike one after another (`Unwinding.answers`).
Where tables are concerned, alike is to have the same rows of one's own, in the
same order (`shown_of_own`).
-/
namespace Ngotag.Disclosure
open Runs
universe u v w

section
variable {State : Type u} {Call : Type v} {Answer : Type w} (respond : State → Call → Answer × State)
  (alike : State → State → Prop)

def step (s : State) (call : Call) : Option State := some (respond s call).2
/-- The answers to the calls, made one after another. -/
def answers : State → List Call → List Answer
  | _,[] => []
  | s,call :: rest => (respond s call).1 :: answers (respond s call).2 rest
def Discreet (s : State) (call : Call) : Prop := ∀ s', alike s s' → (respond s' call).1 = (respond s call).1
/-- Calls that meet the condition are answered alike and leave alike what was. -/
structure Unwinding (meets : State → Call → Prop) : Prop where
  discreet : ∀ s call, meets s call → Discreet respond alike s call
  keeps : ∀ s s' call, alike s s' → meets s call → alike (respond s call).2 (respond s' call).2

variable {respond alike} {meets : State → Call → Prop}
theorem Unwinding.answers (unwinding : Unwinding respond alike meets) {s s' : State} {calls : List Call}
    (close : alike s s')
    (along : Along (step respond) meets s calls) :
    Disclosure.answers respond s' calls = Disclosure.answers respond s calls := by
  induction calls generalizing s s' with
  | nil => rfl
  | cons call rest ih =>
    have first := unwinding.discreet s call along.1 s' close
    have others := ih (unwinding.keeps s s' call close along.1) (along.2 _ rfl)
    rw [Disclosure.answers,Disclosure.answers,first,others]

end
section
variable {α : Type u} {shown own : α → Bool} {rows rows' : List α}

/-- Whatever is shown of one's own rows only is the same where these are. -/
theorem shown_of_own (within : ∀ row, shown row = true → own row = true) (same : rows'.filter own = rows.filter own) :
    rows'.filter shown = rows.filter shown := by
  have through (l : List α) : l.filter shown = (l.filter own).filter shown := by
    rw [List.filter_filter]
    refine List.filter_congr fun row _ => ?_
    cases seen : shown row with
    | false => rfl
    | true => rw [within row seen,Bool.and_self]
  rw [through rows',same,← through rows]

end
variable {Key : Type u} {Row : Type v} [DecidableEq Key] {table table' : AList fun _ : Key => Row} {key : Key}
  {row : Row}

theorem entries_insert :
    (table.insert key row).entries = ⟨key,row⟩ :: table.entries.filter fun entry => entry.1 ≠ key := by
  have erased (l : List (Sigma fun _ : Key => Row)) (nodup : l.NodupKeys) :
      l.kerase key = l.filter fun entry => entry.1 ≠ key := by
    induction l with
    | nil => rfl
    | cons entry rest ih =>
      obtain ⟨fresh,rest'⟩ := List.nodupKeys_cons.mp nodup
      by_cases same : key = entry.1
      · rw [List.kerase_cons_eq same,List.filter_cons_of_neg (by simp [same])]
        refine (List.filter_eq_self.mpr fun other listed => decide_eq_true ?_).symm
        rintro rfl
        exact fresh (same ▸ List.mem_keys_of_mem listed)
      · rw [List.kerase_cons_ne same,List.filter_cons_of_pos (by simpa using Ne.symm same),ih rest']
  rw [AList.entries_insert,erased _ table.nodupKeys]

variable {own : (Sigma fun _ : Key => Row) → Bool}
theorem lookup_of_own (same : table'.entries.filter own = table.entries.filter own) (mine : own ⟨key,row⟩ = true) :
    table'.lookup key = some row ↔ table.lookup key = some row := by
  have listed (t : AList fun _ : Key => Row) : t.lookup key = some row ↔ ⟨key,row⟩ ∈ t.entries.filter own := by
    rw [List.mem_filter,← Option.mem_def,AList.mem_lookup_iff]
    exact (and_iff_left mine).symm
  rw [listed,listed,same]
theorem own_insert_foreign (foreign : own ⟨key,row⟩ = false)
    (before : ∀ old, table.lookup key = some old → own ⟨key,old⟩ = false) :
    (table.insert key row).entries.filter own = table.entries.filter own := by
  rw [entries_insert,List.filter_cons_of_neg (by simp [foreign]),List.filter_filter]
  refine List.filter_congr fun entry listed => ?_
  by_cases same : entry.1 = key
  · have found : table.lookup key = some entry.2 := AList.mem_lookup_iff.mpr (by rw [← same]; exact listed)
    have hidden := before _ found
    rw [← same] at hidden
    rw [show own entry = false from hidden,Bool.false_and]
  · rw [decide_eq_true same,Bool.and_true]
theorem own_insert (same : table'.entries.filter own = table.entries.filter own) :
    (table'.insert key row).entries.filter own = (table.insert key row).entries.filter own := by
  have others : (table'.entries.filter fun entry => entry.1 ≠ key).filter own =
      (table.entries.filter fun entry => entry.1 ≠ key).filter own := by
    simp only [List.filter_filter,Bool.and_comm (own _)]
    rw [← List.filter_filter,same,List.filter_filter]
  rw [entries_insert,entries_insert,List.filter_cons,List.filter_cons,others]

end Ngotag.Disclosure
