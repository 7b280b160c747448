import Ngotag.Await

/-!
Runs with a memory. What is noted of the steps so far stands beside the state, and no
step looks at it, so that a condition on a step may speak of what came before. Over
asynchronous functions the memory is one of each process: what the function was called
with, and what its commands were answered. `Recalls` says that a function awaits what is
right by that memory, whatever it is answered.
-/
namespace Ngotag.Recall
open Runs Await

section
universe u v w
variable {State : Type u} {Act : Type v} {Memory : Type w}

/-- A step, and what is noted of it beside the state. -/
def noting (step : State → Act → Option State) (note : State → Act → State → Memory → Memory)
    (s : State × Memory) (a : Act) : Option (State × Memory) :=
  (step s.1 a).map fun next => (next,note s.1 a next s.2)

variable {step : State → Act → Option State} {note : State → Act → State → Memory → Memory}
theorem noting_cases {s next : State × Memory} {a : Act} (taken : noting step note s a = some next) :
    step s.1 a = some next.1 ∧ next.2 = note s.1 a next.1 s.2 := by
  obtain ⟨t,stepped,rfl⟩ := Option.map_eq_some_iff.mp taken
  exact ⟨stepped,rfl⟩
theorem noting_of_step {s : State × Memory} {t : State} {a : Act} (taken : step s.1 a = some t) :
    noting step note s a = some (t,note s.1 a t s.2) := by
  rw [noting,taken,Option.map_some]

/-- Along a run, a condition on what was noted is one on the states wherever an
    invariant ties the memory to the state. -/
theorem along_noting {I : State × Memory → Prop} {noted : State × Memory → Act → Prop} {meets : State → Act → Prop}
    (same : ∀ s a, I s → (step s.1 a).isSome → (noted s a ↔ meets s.1 a))
    (kept : ∀ s a next, I s → noted s a → noting step note s a = some next → I next)
    {s : State × Memory} {t : State} {actions : List Act} (holds : I s) (reached : run step s.1 actions = some t) :
    Along (noting step note) noted s actions ↔ Along step meets s.1 actions := by
  induction actions generalizing s with
  | nil => exact Iff.rfl
  | cons a rest ih =>
    obtain ⟨next,taken,later⟩ := run_cons.mp reached
    have same_ := same s a holds (by rw [taken]; rfl)
    have noted_ : noting step note s a = some (next,note s.1 a next s.2) := noting_of_step taken
    constructor
    · rintro ⟨now,along⟩
      exact along_cons (same_.mp now) taken
        ((ih (kept s a _ holds now noted_) later).mp (along _ noted_))
    · rintro ⟨now,along⟩
      exact along_cons (same_.mpr now) noted_
        ((ih (kept s a _ holds (same_.mpr now) noted_) later).mpr (along next taken))
/-- The same, where the condition on what was noted is enough. -/
theorem along_of_noting {I : State × Memory → Prop} {noted : State × Memory → Act → Prop} {meets : State → Act → Prop}
    (gives : ∀ s a, I s → noted s a → meets s.1 a)
    (kept : ∀ s a next, I s → noted s a → noting step note s a = some next → I next)
    {s : State × Memory} {actions : List Act} (holds : I s) (along : Along (noting step note) noted s actions) :
    Along step meets s.1 actions := by
  induction actions generalizing s with
  | nil => trivial
  | cons a rest ih =>
    refine ⟨gives s a holds along.1,fun next taken => ?_⟩
    have noted_ : noting step note s a = some (next,note s.1 a next s.2) := noting_of_step taken
    exact ih (kept s a _ holds along.1 noted_) (along.2 _ noted_)
end

variable {Cmd : Type} {Ret : Cmd → Type} {ε α β γ World Choice Input Env Memory : Type}

/-- What a process was told, when `begins` is what it is called with and `hears` what
    an answer adds to it. -/
def told (sys : System Cmd Ret ε α World Choice Input Env) (begins : Nat → Input → Memory)
    (hears : (c : Cmd) → Except ε (Ret c) → Memory → Memory) (m : Machine Cmd Ret ε α World) :
    Action Choice Input Env → (Nat → Memory) → Nat → Memory
  | .start process input,memory => Function.update memory process (begins process input)
  | .advance process choice,memory =>
    match m.thread process with
    | .live (.await command _) =>
      match sys.handle process command choice m.world with
      | some (_,answer) => Function.update memory process (hears command answer (memory process))
      | none => memory
    | _ => memory
  | _,memory => memory
/-- The steps of a system, with what each process was told. -/
def hearing (sys : System Cmd Ret ε α World Choice Input Env) (begins : Nat → Input → Memory)
    (hears : (c : Cmd) → Except ε (Ret c) → Memory → Memory) :
    Machine Cmd Ret ε α World × (Nat → Memory) → Action Choice Input Env →
      Option (Machine Cmd Ret ε α World × (Nat → Memory)) :=
  noting (step sys) fun m a _ => told sys begins hears m a

/-- Whatever its commands are answered, the function awaits what is right by what it was
    told, and ends as it should. -/
def Recalls (hears : (c : Cmd) → Except ε (Ret c) → Memory → Memory) (right : Memory → Cmd → Prop)
    (ends : Except ε β → Memory → Prop) : Prog Cmd Ret ε β → Memory → Prop
  | .ret value,memory => ends (.ok value) memory
  | .fail error,memory => ends (.error error) memory
  | .await command resume,memory =>
    right memory command ∧ ∀ answer, Recalls hears right ends (resume answer) (hears command answer memory)

section
variable {hears : (c : Cmd) → Except ε (Ret c) → Memory → Memory} {right : Memory → Cmd → Prop} {memory : Memory}

@[simp] theorem recalls_ret (value : β) (ends : Except ε β → Memory → Prop) :
    Recalls hears right ends (.ret value : Prog Cmd Ret ε β) memory ↔ ends (.ok value) memory := Iff.rfl
@[simp] theorem recalls_fail (error : ε) (ends : Except ε β → Memory → Prop) :
    Recalls hears right ends (.fail error : Prog Cmd Ret ε β) memory ↔ ends (.error error) memory := Iff.rfl
theorem recalls_mono {ends ends' : Except ε β → Memory → Prop}
    (weaker : ∀ result memory, ends result memory → ends' result memory)
    {p : Prog Cmd Ret ε β} (holds : Recalls hears right ends p memory) : Recalls hears right ends' p memory := by
  induction p generalizing memory with
  | ret value => exact weaker _ _ holds
  | fail error => exact weaker _ _ holds
  | await command resume ih => exact ⟨holds.1,fun answer => ih answer (holds.2 answer)⟩
@[simp] theorem recalls_call (command : Cmd) (ends : Except ε (Ret command) → Memory → Prop) :
    Recalls hears right ends (call command : Prog Cmd Ret ε (Ret command)) memory ↔
      right memory command ∧ ∀ answer, ends answer (hears command answer memory) := by
  constructor
  · rintro ⟨now,later⟩
    refine ⟨now,?_⟩
    rintro (error | value)
    · exact later (.error error)
    · exact later (.ok value)
  · rintro ⟨now,later⟩
    refine ⟨now,?_⟩
    rintro (error | value)
    · exact later (.error error)
    · exact later (.ok value)
@[simp] theorem recalls_bind (p : Prog Cmd Ret ε β) (f : β → Prog Cmd Ret ε γ) (ends : Except ε γ → Memory → Prop) :
    Recalls hears right ends (p >>= f) memory ↔ Recalls hears right (fun result memory => match result with
      | .ok value => Recalls hears right ends (f value) memory
      | .error error => ends (.error error) memory) p memory := by
  change Recalls hears right ends (p.bind f) memory ↔ _
  induction p generalizing memory with
  | ret value => exact Iff.rfl
  | fail error => exact Iff.rfl
  | await command resume ih => simp only [Prog.bind,Recalls,ih]
@[simp] theorem recalls_tryCatch (p : Prog Cmd Ret ε β) (handler : ε → Prog Cmd Ret ε β)
    (ends : Except ε β → Memory → Prop) :
    Recalls hears right ends (p.tryCatch handler) memory ↔ Recalls hears right (fun result memory => match result with
      | .ok value => ends (.ok value) memory
      | .error error => Recalls hears right ends (handler error) memory) p memory := by
  induction p generalizing memory with
  | ret value => exact Iff.rfl
  | fail error => exact Iff.rfl
  | await command resume ih => simp only [Prog.tryCatch,Recalls,ih]

@[simp] theorem recalls_ensure (p : Prog Cmd Ret ε β) (cleanup : Except ε β → Prog Cmd Ret ε Unit)
    (ends : Except ε β → Memory → Prop) :
    Recalls hears right ends (p.ensure cleanup) memory ↔ Recalls hears right (fun result memory =>
      Recalls hears right (fun cleaned memory => match cleaned with
        | .ok _ => ends result memory
        | .error error => ends (.error error) memory) (cleanup result) memory) p memory := by
  induction p generalizing memory with
  | ret value =>
    change Recalls hears right ends (cleanup (.ok value) >>= fun _ => .ret value) memory ↔ _
    rw [recalls_bind,recalls_ret]
    constructor <;> exact recalls_mono (by rintro (_ | _) _ ends <;> exact ends)
  | fail error =>
    change Recalls hears right ends (cleanup (.error error) >>= fun _ => .fail error) memory ↔ _
    rw [recalls_bind,recalls_fail]
    constructor <;> exact recalls_mono (by rintro (_ | _) _ ends <;> exact ends)
  | await command resume ih => simp only [Prog.ensure,Recalls,ih]

/-- Where nothing is asked of the end, it is enough that each part is right. -/
theorem recalls_then {p : Prog Cmd Ret ε β} {f : β → Prog Cmd Ret ε γ}
    (first : Recalls hears right (fun _ _ => True) p memory)
    (second : ∀ value memory, Recalls hears right (fun _ _ => True) (f value) memory) :
    Recalls hears right (fun _ _ => True) (p >>= f) memory := by
  refine (recalls_bind _ _ _).mpr (recalls_mono ?_ first)
  rintro (error | value) memory -
  · trivial
  · exact second value memory
theorem recalls_caught {p : Prog Cmd Ret ε β} {handler : ε → Prog Cmd Ret ε β}
    (body : Recalls hears right (fun _ _ => True) p memory)
    (caught : ∀ error memory, Recalls hears right (fun _ _ => True) (handler error) memory) :
    Recalls hears right (fun _ _ => True) (p.tryCatch handler) memory := by
  refine (recalls_tryCatch _ _ _).mpr (recalls_mono ?_ body)
  rintro (error | value) memory -
  · exact caught error memory
  · trivial
theorem recalls_finally {p : Prog Cmd Ret ε β} {cleanup : Except ε β → Prog Cmd Ret ε Unit}
    (body : Recalls hears right (fun _ _ => True) p memory)
    (last : ∀ result memory, Recalls hears right (fun _ _ => True) (cleanup result) memory) :
    Recalls hears right (fun _ _ => True) (p.ensure cleanup) memory := by
  refine (recalls_ensure _ _ _).mpr (recalls_mono ?_ body)
  rintro result memory -
  refine recalls_mono ?_ (last result memory)
  rintro (error | ⟨⟩) _ - <;> trivial

/-- Commands that add nothing leave the memory as it is. -/
theorem recalls_only {silent : Cmd → Prop} (nothing : ∀ c, silent c → ∀ answer memory, hears c answer memory = memory)
    (fits : ∀ c, silent c → ∀ memory, right memory c) {ends : Except ε β → Memory → Prop} {p : Prog Cmd Ret ε β}
    (only : Only silent p) (ended : ∀ result, ends result memory) : Recalls hears right ends p memory := by
  induction p with
  | ret value => exact ended _
  | fail error => exact ended _
  | await command resume ih =>
    refine ⟨fits command only.1 memory,fun answer => ?_⟩
    rw [nothing command only.1]
    exact ih answer (only.2 answer)
end

variable {sys : System Cmd Ret ε α World Choice Input Env} {begins : Nat → Input → Memory}
  {hears : (c : Cmd) → Except ε (Ret c) → Memory → Memory} {right : Memory → Cmd → Prop}

theorem told_advance {m : Machine Cmd Ret ε α World} {memory : Nat → Memory} {process : Nat} {choice : Choice}
    {command : Cmd}
    {resume : Except ε (Ret command) → Prog Cmd Ret ε α} {after : World} {answer : Except ε (Ret command)}
    (stood : m.thread process = .live (.await command resume))
    (handled : sys.handle process command choice m.world = some (after,answer)) :
    told sys begins hears m (.advance process choice) memory =
      Function.update memory process (hears command answer (memory process)) := by
  simp only [told,stood,handled]

/-- Every process awaits what is right by what it was told. -/
def Recalling (hears : (c : Cmd) → Except ε (Ret c) → Memory → Memory) (right : Memory → Cmd → Prop)
    (s : Machine Cmd Ret ε α World × (Nat → Memory)) : Prop :=
  ∀ process p, s.1.thread process = .live p → Recalls hears right (fun _ _ => True) p (s.2 process)

theorem recalling_initial (world : World) (memory : Nat → Memory) :
    Recalling hears right ((Machine.initial world : Machine Cmd Ret ε α World),memory) :=
  fun _ _ at_ => by cases at_
theorem right_of_recalling {s : Machine Cmd Ret ε α World × (Nat → Memory)} (recalling : Recalling hears right s)
    {process : Nat} {command : Cmd} (awaited : (s.1.thread process).awaited = some command) :
    right (s.2 process) command := by
  cases at_ : s.1.thread process with
  | unused => rw [at_] at awaited; cases awaited
  | crashed => rw [at_] at awaited; cases awaited
  | live p =>
    rw [at_] at awaited
    cases p with
    | ret value => cases awaited
    | fail error => cases awaited
    | await other resume => cases awaited; exact (recalling process _ at_).1

/-- A step keeps it, whatever it is answered, once every function is right from its start. -/
theorem step_recalling (starts : ∀ process input a b, sys.arrive process input a = some b →
      Recalls hears right (fun _ _ => True) (sys.program process input) (begins process input))
    {s next : Machine Cmd Ret ε α World × (Nat → Memory)} {a : Action Choice Input Env}
    (recalling : Recalling hears right s) (taken : hearing sys begins hears s a = some next) :
    Recalling hears right next := by
  obtain ⟨stepped,noted⟩ := noting_cases taken
  intro other p at_
  rw [noted]
  cases a with
  | start process input =>
    obtain ⟨-,world,arrived,same⟩ := step_start stepped
    rw [same] at at_
    dsimp only [told] at at_ ⊢
    by_cases mine : other = process
    · subst mine
      rw [Function.update_self] at at_ ⊢
      cases at_
      exact starts other input _ _ arrived
    · rw [Function.update_of_ne mine] at at_ ⊢
      exact recalling other p at_
  | advance process choice =>
    obtain ⟨command,resume,world,answer,stood,handled,same⟩ := step_advance stepped
    rw [same] at at_
    rw [told_advance stood handled]
    dsimp only at at_ ⊢
    by_cases mine : other = process
    · subst mine
      rw [Function.update_self] at at_ ⊢
      cases at_
      exact (recalling other _ stood).2 answer
    · rw [Function.update_of_ne mine] at at_ ⊢
      exact recalling other p at_
  | crash process =>
    obtain ⟨-,same⟩ := step_crash stepped
    rw [same] at at_
    dsimp only [told] at at_ ⊢
    by_cases mine : other = process
    · subst mine
      rw [Function.update_self] at at_
      cases at_
    · rw [Function.update_of_ne mine] at at_
      exact recalling other p at_
  | environment event =>
    obtain ⟨world,-,same⟩ := step_environment stepped
    rw [same] at at_
    exact recalling other p at_

end Ngotag.Recall
