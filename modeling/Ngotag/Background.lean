import Mathlib

/-!
Asynchronous steps that a process starts without awaiting them one by one. They run until each
of them is settled, in any order; a process may wait for some of its own together, which ends
with the first rejection or when all of them are resolved.
-/
namespace Ngotag.Background

section
variable {Work : Type}

structure Task (Work : Type) where
  process : Nat
  work : Work
structure Settled (Work : Type) where
  task : Task Work
  result : Option Nat
structure Tasks (Work : Type) where
  running : List (Task Work)
  /-- The latest first. -/
  settled : List (Settled Work)
def Tasks.none : Tasks Work := ⟨[],[]⟩

variable (t : Tasks Work) (process : Nat)
def Tasks.start (works : List Work) : Tasks Work :=
  { t with running := t.running ++ works.map (Task.mk process) }
/-- The task at the index ends with a result, or with an error. -/
def Tasks.settle (index : Nat) (task : Task Work) (result : Option Nat) : Tasks Work :=
  ⟨t.running.eraseIdx index,⟨task,result⟩ :: t.settled⟩
def Tasks.Started (work : Work) : Prop :=
  ⟨process,work⟩ ∈ t.running ∨ ∃ s ∈ t.settled, s.task = ⟨process,work⟩
def Tasks.works : List Work := t.settled.map (fun s => s.task.work) ++ t.running.map Task.work
def Tasks.Rejected (work : Work) : Prop := ⟨⟨process,work⟩,.none⟩ ∈ t.settled

variable {t process} {other index : Nat} {task one : Task Work} {result : Option Nat} {work : Work} {works : List Work}
theorem mem_start :
    one ∈ (t.start process works).running ↔ one ∈ t.running ∨ one.process = process ∧ one.work ∈ works := by
  simp only [Tasks.start,List.mem_append,List.mem_map]
  constructor
  · rintro (there | ⟨work,listed,rfl⟩)
    · exact .inl there
    · exact .inr ⟨rfl,listed⟩
  · rintro (there | ⟨rfl,listed⟩)
    · exact .inl there
    · exact .inr ⟨one.work,listed,rfl⟩
theorem started_start (listed : work ∈ works) : (t.start process works).Started process work :=
  .inl (mem_start.mpr (.inr ⟨rfl,listed⟩))
theorem started_mono (started : t.Started process work) : (t.start other works).Started process work := by
  rcases started with runs | settled
  · exact .inl (mem_start.mpr (.inl runs))
  · exact .inr settled
theorem running_settle (at_ : t.running[index]? = some task) (runs : one ∈ t.running) :
    one ∈ (t.settle index task result).running ∨ one = task := by
  obtain ⟨position,found⟩ := List.mem_iff_getElem?.mp runs
  by_cases same : position = index
  · subst same
    exact .inr (Option.some.inj (found.symm.trans at_))
  · exact .inl (List.mem_eraseIdx_iff_getElem?.mpr ⟨position,same,found⟩)
theorem mem_settle (runs : one ∈ (t.settle index task result).running) : one ∈ t.running :=
  List.mem_of_mem_eraseIdx runs
theorem started_settle (at_ : t.running[index]? = some task) (started : t.Started process work) :
    (t.settle index task result).Started process work := by
  rcases started with runs | ⟨s,settled,same⟩
  · rcases running_settle at_ runs with still | rfl
    · exact .inl still
    · exact .inr ⟨_,List.mem_cons_self,rfl⟩
  · exact .inr ⟨s,List.mem_cons_of_mem _ settled,same⟩
theorem rejected_settle (rejected : t.Rejected process work) : (t.settle index task result).Rejected process work :=
  List.mem_cons_of_mem _ rejected
theorem rejected_cases (rejected : (t.settle index task result).Rejected process work) :
    t.Rejected process work ∨ task = ⟨process,work⟩ ∧ result = none := by
  rcases List.mem_cons.mp rejected with new | old
  · cases new
    exact .inr ⟨rfl,rfl⟩
  · exact .inl old
theorem started_cases (at_ : t.running[index]? = some task)
    (started : (t.settle index task result).Started process work) : t.Started process work := by
  rcases started with runs | ⟨s,settled,same⟩
  · exact .inl (mem_settle runs)
  · rcases List.mem_cons.mp settled with rfl | old
    · exact .inl (same ▸ List.mem_of_getElem? at_)
    · exact .inr ⟨s,old,same⟩
theorem works_start : (t.start process works).works = t.works ++ works := by
  have same : (works.map (Task.mk process)).map Task.work = works := by
    rw [List.map_map]
    exact List.map_id works
  simp only [Tasks.works,Tasks.start,List.map_append,same,List.append_assoc]
/-- Every task is settled once. -/
theorem works_settle (at_ : t.running[index]? = some task) : (t.settle index task result).works.Perm t.works := by
  obtain ⟨bound,rfl⟩ := List.getElem?_eq_some_iff.mp at_
  have moved := (List.getElem_cons_eraseIdx_perm bound).map Task.work
  simp only [Tasks.works,Tasks.settle,List.map_cons] at moved ⊢
  exact List.perm_middle.symm.trans (List.Perm.append_left _ moved)

end
variable {Work : Type} [DecidableEq Work] (t : Tasks Work) (process : Nat)

def Tasks.mine (works : List Work) : List (Settled Work) :=
  t.settled.filter fun s => s.task.process = process ∧ s.task.work ∈ works
/-- `Promise.all`, with the sum of the counts: nothing while it waits, and nothing inside where
    it is rejected. -/
def Tasks.all (works : List Work) : Option (Option Nat) :=
  if (t.mine process works).any (fun s => s.result.isNone) = true then some .none
  else if t.running.any (fun task => task.process = process ∧ task.work ∈ works) = true then .none
  else some (some ((t.mine process works).filterMap Settled.result).sum)

variable {t process} {work : Work} {works : List Work}
/-- `Promise.all` rejects with a task of its own. -/
theorem all_rejected (ended : t.all process works = some none) : ∃ work ∈ works, t.Rejected process work := by
  unfold Tasks.all at ended
  split at ended
  · rename_i failed
    obtain ⟨s,found,none_⟩ := List.any_eq_true.mp failed
    obtain ⟨settled,same⟩ := List.mem_filter.mp found
    obtain ⟨⟨owner,work⟩,result⟩ := s
    obtain ⟨rfl,listed⟩ := of_decide_eq_true same
    cases result with
    | none => exact ⟨work,listed,settled⟩
    | some count => cases none_
  · split at ended
    · cases ended
    · cases ended

/-- Where `Promise.all` resolves each of its tasks has. -/
theorem all_resolved {count : Nat} (ended : t.all process works = some (some count)) (listed : work ∈ works) :
    ¬t.Rejected process work ∧ ⟨process,work⟩ ∉ t.running := by
  unfold Tasks.all at ended
  split at ended
  · cases ended
  · rename_i none_
    split at ended
    · cases ended
    · rename_i done
      constructor
      · intro rejected
        refine none_ (List.any_eq_true.mpr ⟨_,List.mem_filter.mpr ⟨rejected,?_⟩,rfl⟩)
        simpa using listed
      · intro runs
        refine done (List.any_eq_true.mpr ⟨_,runs,?_⟩)
        simpa using listed

theorem all_counts {total count : Nat} (ended : t.all process works = some (some total))
    (settled : ⟨⟨process,work⟩,some count⟩ ∈ t.settled) (listed : work ∈ works) : count ≤ total := by
  unfold Tasks.all at ended
  split at ended
  · cases ended
  · split at ended
    · cases ended
    · cases ended
      apply List.single_le_sum (fun _ _ => Nat.zero_le _)
      refine List.mem_filterMap.mpr ⟨_,List.mem_filter.mpr ⟨settled,?_⟩,rfl⟩
      simpa using listed

end Ngotag.Background
