import Mathlib.Logic.Relation

/-!
Runs of a partial step function. A step is taken by an action and may be
refused; a run takes a list of actions in order. What every step keeps every run
keeps (`run_keeps`), also when each step is known to meet a condition in the
state before it (`run_keeps_along`).
-/
namespace Ngotag.Runs
universe u v

variable {State : Type u} {Action : Type v} (step : State → Action → Option State)
/-- The state after the actions in order, when no step is refused. -/
def run : State → List Action → Option State
  | s, [] => some s
  | s, a :: rest => (step s a).bind fun next => run next rest
/-- Every step of the run meets the condition, judged in the state before it. -/
def Along (meets : State → Action → Prop) : State → List Action → Prop
  | _, [] => True
  | s, a :: rest => meets s a ∧ ∀ next, step s a = some next → Along meets next rest

/-- Whether every step of a run meets a condition can be followed step by step. -/
instance decidableAlong (meets : State → Action → Prop) [∀ s a, Decidable (meets s a)] :
    (s : State) → (actions : List Action) → Decidable (Along step meets s actions)
  | _, [] => isTrue trivial
  | s, a :: rest =>
    match taken : step s a with
    | none => decidable_of_iff (meets s a) ⟨fun holds => ⟨holds,by simp [taken]⟩,fun along => along.1⟩
    | some next =>
      have := decidableAlong meets next rest
      decidable_of_iff (meets s a ∧ Along step meets next rest)
        ⟨fun both => ⟨both.1,by simpa [taken] using both.2⟩,fun along => ⟨along.1,along.2 next taken⟩⟩

variable {step}
variable {s t : State}
theorem run_cons {a : Action} {rest : List Action} :
    run step s (a :: rest) = some t ↔ ∃ next, step s a = some next ∧ run step next rest = some t := by
  simp only [run,Option.bind_eq_some_iff]

variable {first second : List Action}
/-- A run through two lists is a run through the first and then the second. -/
theorem run_append :
    run step s (first ++ second) = some t ↔
      ∃ middle, run step s first = some middle ∧ run step middle second = some t := by
  induction first generalizing s with
  | nil => simp [run]
  | cons a rest ih =>
    rw [List.cons_append,run_cons]
    constructor
    · rintro ⟨next,taken,later⟩
      obtain ⟨middle,reached,final⟩ := ih.mp later
      exact ⟨middle,run_cons.mpr ⟨next,taken,reached⟩,final⟩
    · rintro ⟨middle,reached,final⟩
      obtain ⟨next,taken,later⟩ := run_cons.mp reached
      exact ⟨next,taken,ih.mpr ⟨middle,later,final⟩⟩

/-- Where every step can be taken, every run is. -/
theorem run_total (total : ∀ s a, (step s a).isSome) (s : State) (actions : List Action) :
    ∃ t, run step s actions = some t := by
  induction actions generalizing s with
  | nil => exact ⟨s,rfl⟩
  | cons a rest ih =>
    obtain ⟨next,taken⟩ := Option.isSome_iff_exists.mp (total s a)
    obtain ⟨t,later⟩ := ih next
    exact ⟨t,run_cons.mpr ⟨next,taken,later⟩⟩

variable {meets : State → Action → Prop}
theorem along_cons {s next : State} {a : Action} {rest : List Action} (now : meets s a)
    (taken : step s a = some next) (later : Along step meets next rest) : Along step meets s (a :: rest) :=
  ⟨now,fun _ other => Option.some.inj (taken.symm.trans other) ▸ later⟩
theorem along_append {s middle : State}
    (reached : run step s first = some middle) (along : Along step meets s (first ++ second)) :
    Along step meets middle second := by
  induction first generalizing s with
  | nil => simp only [run,Option.some.injEq] at reached; exact reached ▸ along
  | cons a rest ih =>
    obtain ⟨next,taken,later⟩ := run_cons.mp reached
    exact ih later (along.2 next taken)
theorem along_first {s : State} (along : Along step meets s (first ++ second)) : Along step meets s first := by
  induction first generalizing s with
  | nil => trivial
  | cons a rest ih => exact ⟨along.1,fun next taken => ih (along.2 next taken)⟩

variable {actions : List Action}
theorem along_mono {meets weaker : State → Action → Prop} (implies : ∀ s a, meets s a → weaker s a) {s : State}
    (along : Along step meets s actions) : Along step weaker s actions := by
  induction actions generalizing s with
  | nil => trivial
  | cons a rest ih => exact ⟨implies s a along.1,fun next taken => ih (along.2 next taken)⟩
theorem along_of_forall {s : State} (each : ∀ s, ∀ a ∈ actions, meets s a) : Along step meets s actions := by
  induction actions generalizing s with
  | nil => trivial
  | cons a rest ih =>
    exact ⟨each s a List.mem_cons_self,fun _ _ => ih fun s b later => each s b (List.mem_cons_of_mem a later)⟩
/-- What every step that meets the condition keeps, a run of such steps keeps. -/
theorem run_keeps_along {keeps : State → Prop}
    (preserved : ∀ s a next, keeps s → meets s a → step s a = some next → keeps next)
    (holds : keeps s) (along : Along step meets s actions)
    (reached : run step s actions = some t) : keeps t := by
  induction actions generalizing s with
  | nil => simp only [run,Option.some.injEq] at reached; exact reached ▸ holds
  | cons a rest ih =>
    obtain ⟨next,taken,later⟩ := run_cons.mp reached
    exact ih (preserved s a next holds along.1 taken) (along.2 next taken) later
/-- What each step keeps, a run keeps. -/
theorem run_keeps {keeps : State → Prop} (preserved : ∀ s a next, keeps s → step s a = some next → keeps next)
    (holds : keeps s) (reached : run step s actions = some t) :
    keeps t := by
  induction actions generalizing s with
  | nil => simp only [run,Option.some.injEq] at reached; exact reached ▸ holds
  | cons a rest ih =>
    obtain ⟨next,taken,later⟩ := run_cons.mp reached
    exact ih (preserved s a next holds taken) later
theorem run_reflects {K : State → Prop} (reflected : ∀ s a next, step s a = some next → K next → K s)
    (holds : K t) (reached : run step s actions = some t) : K s := by
  induction actions generalizing s with
  | nil => exact Option.some.inj reached ▸ holds
  | cons a rest ih =>
    obtain ⟨next,taken,later⟩ := run_cons.mp reached
    exact reflected s a next taken (ih later)

/-- Where a step keeps the invariant exactly when it meets a condition, a run keeps it
    all along exactly when all its steps meet the condition. -/
theorem always_iff_along {I : State → Prop} (exact_ : ∀ s a next, I s → step s a = some next → (I next ↔ meets s a))
    (holds : I s) (reached : run step s actions = some t) :
    (∀ first rest u, actions = first ++ rest → run step s first = some u → I u) ↔ Along step meets s actions := by
  induction actions generalizing s with
  | nil =>
    refine ⟨fun _ => trivial,?_⟩
    rintro - first rest u split_ now
    obtain ⟨rfl,-⟩ := List.append_eq_nil_iff.mp split_.symm
    exact Option.some.inj now ▸ holds
  | cons a rest ih =>
    obtain ⟨next,taken,later⟩ := run_cons.mp reached
    have one : run step s [a] = some next := run_cons.mpr ⟨next,taken,rfl⟩
    constructor
    · intro always
      have kept := always [a] rest next rfl one
      refine ⟨(exact_ s a next holds taken).mp kept,fun other same => ?_⟩
      obtain rfl := Option.some.inj (taken.symm.trans same)
      exact (ih kept later).mp fun first after u split_ now =>
        always (a :: first) after u (by rw [split_]; rfl) (run_cons.mpr ⟨next,taken,now⟩)
    · rintro ⟨now,along⟩ first after u split_ begun
      have kept := (exact_ s a next holds taken).mpr now
      cases first with
      | nil => exact Option.some.inj begun ▸ holds
      | cons b first =>
        obtain ⟨rfl,same_rest⟩ := List.cons.inj split_
        obtain ⟨other,same,begun⟩ := run_cons.mp begun
        obtain rfl := Option.some.inj (taken.symm.trans same)
        exact (ih kept later).mpr (along next taken) first after u same_rest begun

/-- Where the steps that meet a condition keep an invariant, and the others spoil what is wanted of
    every state, a run is as wanted all along exactly when all its steps meet the condition. -/
theorem wanted_iff_along {I G : State → Prop} (good : ∀ s, I s → G s)
    (kept : ∀ s a next, I s → step s a = some next → meets s a → I next)
    (spoils : ∀ s a next, I s → step s a = some next → ¬meets s a → ¬G next)
    (holds : I s) (reached : run step s actions = some t) :
    (∀ first rest u, actions = first ++ rest → run step s first = some u → G u) ↔ Along step meets s actions := by
  have exact_ : ∀ s a next, I s → step s a = some next → (I next ↔ meets s a) := by
    intro s a next holds taken
    exact ⟨fun kept => Classical.byContradiction fun other => spoils s a next holds taken other (good next kept),
        kept s a next holds taken⟩
  constructor
  · intro always
    induction actions generalizing s with
    | nil => trivial
    | cons a rest ih =>
      obtain ⟨next,taken,later⟩ := run_cons.mp reached
      have one : run step s [a] = some next := run_cons.mpr ⟨next,taken,rfl⟩
      have met : meets s a := Classical.byContradiction fun other => spoils s a next holds taken other
          (always [a] rest next rfl one)
      refine ⟨met,fun other same => ?_⟩
      obtain rfl := Option.some.inj (taken.symm.trans same)
      exact ih (kept s a next holds taken met) later fun first after u split_ now =>
        always (a :: first) after u (by rw [split_]; rfl) (run_cons.mpr ⟨next,taken,now⟩)
  · intro along first rest u split_ now
    exact good u ((always_iff_along exact_ holds reached).mpr along first rest u split_ now)

end Ngotag.Runs
