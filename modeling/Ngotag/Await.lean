import Ngotag.Runs
import Mathlib.Logic.Function.Basic

/-!
Asynchronous functions and their interleavings. A function ends with a value or
an exception, or awaits a command and goes on with what the command resolves to
or rejects with. A system runs any number of such functions over one world, and
a function may be cut off anywhere.

The rules are those of rely and guarantee. A contract names an invariant of the
world and, for each process, what it may rely on the others to keep; `wp` says
that a function keeps its side and ends as wanted. Where all functions keep a
contract, every run keeps the invariant (`run_safe`). Where a step outside the
contract spoils what is wanted, the runs in which it is wanted are the runs
within the contract (`exact_along`).
-/
namespace Ngotag.Await
open Runs

/-- An asynchronous function over the commands `Cmd`, where awaiting `c` yields
    a `Ret c` or an exception. -/
inductive Prog (Cmd : Type) (Ret : Cmd → Type) (ε α : Type) : Type where
  | ret (value : α)
  | fail (error : ε)
  | await (command : Cmd) (resume : Except ε (Ret command) → Prog Cmd Ret ε α)

section
variable {Cmd : Type} {Ret : Cmd → Type} {ε α β : Type}

def Prog.bind : Prog Cmd Ret ε α → (α → Prog Cmd Ret ε β) → Prog Cmd Ret ε β
  | .ret value, next => next value
  | .fail error, _ => .fail error
  | .await command resume, next => .await command fun answer => (resume answer).bind next
/-- `try { body } catch (error) { handler(error) }` -/
def Prog.tryCatch : Prog Cmd Ret ε α → (ε → Prog Cmd Ret ε α) → Prog Cmd Ret ε α
  | .ret value, _ => .ret value
  | .fail error, handler => handler error
  | .await command resume, handler => .await command fun answer => (resume answer).tryCatch handler
/-- `try { body } finally { cleanup }`, where the cleanup may look at how the
    body ended, and an exception of the cleanup replaces that end. -/
def Prog.ensure : Prog Cmd Ret ε α → (Except ε α → Prog Cmd Ret ε Unit) → Prog Cmd Ret ε α
  | .ret value, cleanup => (cleanup (.ok value)).bind fun _ => .ret value
  | .fail error, cleanup => (cleanup (.error error)).bind fun _ => .fail error
  | .await command resume, cleanup => .await command fun answer => (resume answer).ensure cleanup
/-- `await command`, its exception passed on. -/
def call (command : Cmd) : Prog Cmd Ret ε (Ret command) :=
  .await command fun
    | .ok value => .ret value
    | .error error => .fail error
instance : Monad (Prog Cmd Ret ε) where
  pure := .ret
  bind := .bind

instance : MonadExcept ε (Prog Cmd Ret ε) where
  throw := .fail
  tryCatch := .tryCatch
end

/-- What became of a process: it was never started, it stands somewhere in its
    function (possibly at its end), or it was cut off. -/
inductive Thread (Cmd : Type) (Ret : Cmd → Type) (ε α : Type) : Type where
  | unused
  | live (at_ : Prog Cmd Ret ε α)
  | crashed
def Thread.awaited {Cmd : Type} {Ret : Cmd → Type} {ε α : Type} : Thread Cmd Ret ε α → Option Cmd
  | .live (.await command _) => some command
  | _ => none
theorem awaited_some {Cmd : Type} {Ret : Cmd → Type} {ε α : Type} {thread : Thread Cmd Ret ε α} {command : Cmd} :
    thread.awaited = some command ↔ ∃ resume, thread = .live (.await command resume) := by
  constructor
  · intro awaited
    cases thread with
    | unused => cases awaited
    | crashed => cases awaited
    | live p =>
      cases p with
      | ret value => cases awaited
      | fail error => cases awaited
      | await other resume => cases awaited; exact ⟨resume,rfl⟩
  · rintro ⟨resume,rfl⟩
    rfl
def Thread.ended {Cmd : Type} {Ret : Cmd → Type} {ε α : Type} : Thread Cmd Ret ε α → Option (Except ε α)
  | .live (.ret value) => some (.ok value)
  | .live (.fail error) => some (.error error)
  | _ => none
theorem ended_ret {Cmd : Type} {Ret : Cmd → Type} {ε α : Type} {p : Prog Cmd Ret ε α} {value : α}
    (ended : (Thread.live p).ended = some (.ok value)) : p = .ret value := by
  cases p with
  | ret other => cases ended; rfl
  | fail error => cases ended
  | await command resume => cases ended
/-- A world and the processes over it. `handle` carries out an awaited command,
    or refuses while the command has to wait; `arrive` says which inputs may
    start a process; `environment` is what else may happen. -/
structure System (Cmd : Type) (Ret : Cmd → Type) (ε α World Choice Input Env : Type) where
  handle : Nat → (c : Cmd) → Choice → World → Option (World × Except ε (Ret c))
  arrive : Nat → Input → World → Option World
  program : Nat → Input → Prog Cmd Ret ε α
  environment : Env → World → Option World
structure Machine (Cmd : Type) (Ret : Cmd → Type) (ε α World : Type) where
  world : World
  thread : Nat → Thread Cmd Ret ε α
inductive Action (Choice Input Env : Type) where
  | start (process : Nat) (input : Input)
  | advance (process : Nat) (choice : Choice)
  | crash (process : Nat)
  | environment (event : Env)

variable {Cmd : Type} {Ret : Cmd → Type} {ε α World Choice Input Env : Type}
def Machine.initial (world : World) : Machine Cmd Ret ε α World := ⟨world,fun _ => .unused⟩

def step (sys : System Cmd Ret ε α World Choice Input Env) (m : Machine Cmd Ret ε α World) :
    Action Choice Input Env → Option (Machine Cmd Ret ε α World)
  | .start process input =>
    match m.thread process with
    | .unused => (sys.arrive process input m.world).map fun world =>
        ⟨world,Function.update m.thread process (.live (sys.program process input))⟩
    | _ => none
  | .advance process choice =>
    match m.thread process with
    | .live (.await command resume) => (sys.handle process command choice m.world).map fun outcome =>
        ⟨outcome.1,Function.update m.thread process (.live (resume outcome.2))⟩
    | _ => none
  | .crash process =>
    match m.thread process with
    | .live _ => some ⟨m.world,Function.update m.thread process .crashed⟩
    | _ => none
  | .environment event => (sys.environment event m.world).map fun world => ⟨world,m.thread⟩

variable {sys : System Cmd Ret ε α World Choice Input Env} {m next : Machine Cmd Ret ε α World}
/-- A start is of a process that was not used, and gives it the program of its input. -/
theorem step_start {process : Nat} {input : Input} (taken : step sys m (.start process input) = some next) :
    m.thread process = .unused ∧ ∃ world, sys.arrive process input m.world = some world ∧
      next = ⟨world,Function.update m.thread process (.live (sys.program process input))⟩ := by
  simp only [step] at taken
  cases at_ : m.thread process with
  | unused =>
    rw [at_] at taken
    obtain ⟨world,arrived,rfl⟩ := Option.map_eq_some_iff.mp taken
    exact ⟨rfl,world,arrived,rfl⟩
  | live p => rw [at_] at taken; cases taken
  | crashed => rw [at_] at taken; cases taken

/-- An advance answers what the process awaits, and resumes it there. -/
theorem step_advance {process : Nat} {choice : Choice} (taken : step sys m (.advance process choice) = some next) :
    ∃ command resume world answer, m.thread process = .live (.await command resume) ∧
      sys.handle process command choice m.world = some (world,answer) ∧
      next = ⟨world,Function.update m.thread process (.live (resume answer))⟩ := by
  simp only [step] at taken
  split at taken
  · rename_i command resume at_
    obtain ⟨⟨world,answer⟩,handled,rfl⟩ := Option.map_eq_some_iff.mp taken
    exact ⟨command,resume,world,answer,at_,handled,rfl⟩
  · cases taken
/-- A command that leaves the world as it is: the value, or a failure. -/
def lookedUp {β : Type} (fails : Bool) (failure : ε) (w : World) (value : Except ε β) : Option (World × Except ε β) :=
  some (w,if fails then .error failure else value)
theorem lookedUp_eq {β : Type} {fails : Bool} {failure : ε} {w after : World} {value answer : Except ε β}
    (handled : lookedUp fails failure w value = some (after,answer)) :
    after = w ∧ answer = if fails then .error failure else value := by
  obtain ⟨rfl,rfl⟩ := Prod.mk.inj (Option.some.inj handled)
  exact ⟨rfl,rfl⟩
theorem lookedUp_cases {β : Type} {fails : Bool} {failure : ε} {w after : World} {value answer : Except ε β}
    (handled : lookedUp fails failure w value = some (after,answer)) :
    after = w ∧ (answer = .error failure ∨ answer = value) := by
  obtain ⟨same,rfl⟩ := lookedUp_eq handled
  refine ⟨same,?_⟩
  split
  · exact .inl rfl
  · exact .inr rfl
theorem step_of_handle {process : Nat} {choice : Choice} {command : Cmd}
    {resume : Except ε (Ret command) → Prog Cmd Ret ε α}
    {world : World} {answer : Except ε (Ret command)} (stood : m.thread process = .live (.await command resume))
    (handled : sys.handle process command choice m.world = some (world,answer)) :
    step sys m (.advance process choice) = some ⟨world,Function.update m.thread process (.live (resume answer))⟩ := by
  simp only [step,stood,handled,Option.map_some]
/-- A crash takes the process away and leaves the world. -/
theorem step_crash {process : Nat} (taken : step sys m (.crash process) = some next) :
    (∃ p, m.thread process = .live p) ∧ next = ⟨m.world,Function.update m.thread process .crashed⟩ := by
  simp only [step] at taken
  split at taken
  · rename_i p at_
    exact ⟨⟨p,at_⟩,(Option.some.inj taken).symm⟩
  · cases taken
theorem step_environment {event : Env} (taken : step sys m (.environment event) = some next) :
    ∃ world, sys.environment event m.world = some world ∧ next = ⟨world,m.thread⟩ := by
  obtain ⟨world,happened,rfl⟩ := Option.map_eq_some_iff.mp taken
  exact ⟨world,happened,rfl⟩
def Action.process {Choice Input Env : Type} : Action Choice Input Env → Option Nat
  | .start process _ => some process
  | .advance process _ => some process
  | .crash process => some process
  | .environment _ => none

variable {actions : List (Action Choice Input Env)}
/-- A process stands where it stood, in a run without an action of its own. -/
theorem run_thread {process : Nat}
    (others : ∀ a ∈ actions, a.process ≠ some process) (reached : run (step sys) m actions = some next) :
    next.thread process = m.thread process := by
  induction actions generalizing m with
  | nil => rw [Option.some.inj reached]
  | cons a rest ih =>
    obtain ⟨middle,taken,later⟩ := run_cons.mp reached
    rw [ih (fun b there => others b (List.mem_cons_of_mem a there)) later]
    have apart := others a List.mem_cons_self
    have other : ∀ {mine thread}, a.process = some mine →
        Function.update m.thread mine thread process = m.thread process := by
      intro mine thread same
      exact Function.update_of_ne (by rintro rfl; exact apart same) _ _
    cases a with
    | start mine input =>
      obtain ⟨-,world,-,rfl⟩ := step_start taken
      exact other rfl
    | advance mine choice =>
      obtain ⟨command,resume,world,answer,-,-,rfl⟩ := step_advance taken
      exact other rfl
    | crash mine =>
      obtain ⟨-,rfl⟩ := step_crash taken
      exact other rfl
    | environment event =>
      obtain ⟨world,-,rfl⟩ := step_environment taken
      rfl

/-- What a run keeps: an invariant of the world, for each process what the steps
    of the others keep for it, and what holds of a process as long as it is not
    started. The two conditions restrict the runs considered: how a command may
    be carried out, and what else may happen. -/
structure Contract (Cmd World Choice Env : Type) where
  inv : World → Prop
  rely : Nat → World → World → Prop
  idle : Nat → World → Prop
  allowed : Nat → Cmd → Choice → World → Prop
  happens : Env → World → Prop

/-- Wherever the function awaits, and whatever the others did meanwhile within
    what the process relies on, the awaited command keeps the invariant and
    what the others rely on; at its end the wanted condition holds. -/
def wp (sys : System Cmd Ret ε α World Choice Input Env) (con : Contract Cmd World Choice Env) (process : Nat)
    {β : Type} : Prog Cmd Ret ε β → (Except ε β → World → Prop) → World → Prop
  | .ret value, wanted, w => wanted (.ok value) w
  | .fail error, wanted, w => wanted (.error error) w
  | .await command resume, wanted, w =>
    ∀ before, con.rely process w before → con.inv before →
      ∀ choice after answer, con.allowed process command choice before →
        sys.handle process command choice before = some (after,answer) →
        con.inv after ∧ (∀ other, other ≠ process → con.rely other before after) ∧
          wp sys con process (resume answer) wanted after

variable {con : Contract Cmd World Choice Env} {process : Nat} {β γ : Type}
@[simp] theorem wp_ret (value : β) (wanted : Except ε β → World → Prop) (w : World) :
    wp sys con process (.ret value) wanted w ↔ wanted (.ok value) w := Iff.rfl
@[simp] theorem wp_fail (error : ε) (wanted : Except ε β → World → Prop) (w : World) :
    wp sys con process (.fail error) wanted w ↔ wanted (.error error) w := Iff.rfl

variable {w : World}
theorem wp_mono {p : Prog Cmd Ret ε β} {Q Q' : Except ε β → World → Prop}
    (weaker : ∀ result w, Q result w → Q' result w) (holds : wp sys con process p Q w) :
    wp sys con process p Q' w := by
  induction p generalizing w with
  | ret value => exact weaker _ _ holds
  | fail error => exact weaker _ _ holds
  | await command resume ih =>
    intro before relied inv choice after answer allowed handled
    obtain ⟨keeps,others,rest⟩ := holds before relied inv choice after answer allowed handled
    exact ⟨keeps,others,ih answer rest⟩

/-- A sequence is safe when its first part ends where its second part is safe. -/
@[simp] theorem wp_bind (p : Prog Cmd Ret ε β) (f : β → Prog Cmd Ret ε γ) (wanted : Except ε γ → World → Prop)
    (w : World) :
    wp sys con process (p >>= f) wanted w ↔
      wp sys con process p (fun result w => match result with
        | .ok value => wp sys con process (f value) wanted w
        | .error error => wanted (.error error) w) w := by
  change wp sys con process (p.bind f) wanted w ↔ _
  induction p generalizing w with
  | ret value => exact Iff.rfl
  | fail error => exact Iff.rfl
  | await command resume ih => simp only [Prog.bind,wp,ih]

@[simp] theorem wp_tryCatch (p : Prog Cmd Ret ε β) (handler : ε → Prog Cmd Ret ε β)
    (wanted : Except ε β → World → Prop) (w : World) :
    wp sys con process (p.tryCatch handler) wanted w ↔
      wp sys con process p (fun result w => match result with
        | .ok value => wanted (.ok value) w
        | .error error => wp sys con process (handler error) wanted w) w := by
  induction p generalizing w with
  | ret value => exact Iff.rfl
  | fail error => exact Iff.rfl
  | await command resume ih => simp only [Prog.tryCatch,wp,ih]

@[simp] theorem wp_ensure (p : Prog Cmd Ret ε β) (cleanup : Except ε β → Prog Cmd Ret ε Unit)
    (wanted : Except ε β → World → Prop) (w : World) :
    wp sys con process (p.ensure cleanup) wanted w ↔
      wp sys con process p (fun result w =>
        wp sys con process (cleanup result) (fun cleaned w => match cleaned with
          | .ok _ => wanted result w
          | .error error => wanted (.error error) w) w) w := by
  induction p generalizing w with
  | ret value =>
    change wp sys con process (cleanup (.ok value) >>= fun _ => .ret value) wanted w ↔ _
    rw [wp_bind,wp_ret]
    constructor <;> exact wp_mono (by rintro (_ | _) _ ends <;> exact ends)
  | fail error =>
    change wp sys con process (cleanup (.error error) >>= fun _ => .fail error) wanted w ↔ _
    rw [wp_bind,wp_fail]
    constructor <;> exact wp_mono (by rintro (_ | _) _ ends <;> exact ends)
  | await command resume ih => simp only [Prog.ensure,wp,ih]

theorem wp_call {command : Cmd} {wanted : Except ε (Ret command) → World → Prop}
    (carried : ∀ before, con.rely process w before → con.inv before →
      ∀ choice after answer, con.allowed process command choice before →
        sys.handle process command choice before = some (after,answer) →
        con.inv after ∧ (∀ other, other ≠ process → con.rely other before after) ∧ wanted answer after) :
    wp sys con process (call command) wanted w := by
  intro before relied inv choice after answer allowed handled
  obtain ⟨keeps,others,ends⟩ := carried before relied inv choice after answer allowed handled
  refine ⟨keeps,others,?_⟩
  cases answer with
  | ok value => exact ends
  | error error => exact ends

theorem wp_rely (transitive : ∀ a b c, con.rely process a b → con.rely process b c → con.rely process a c)
    {wanted : Except ε β → World → Prop}
    (stable : ∀ result a b, wanted result a → con.rely process a b → con.inv b → wanted result b)
    {p : Prog Cmd Ret ε β} {w w' : World} (holds : wp sys con process p wanted w)
    (relied : con.rely process w w') (inv : con.inv w') : wp sys con process p wanted w' := by
  cases p with
  | ret value => exact stable _ _ _ holds relied inv
  | fail error => exact stable _ _ _ holds relied inv
  | await command resume =>
    intro before later
    exact holds before (transitive _ _ _ relied later)

def Only (condition : Cmd → Prop) {β : Type} : Prog Cmd Ret ε β → Prop
  | .ret _ => True
  | .fail _ => True
  | .await command resume => condition command ∧ ∀ answer, Only condition (resume answer)

section
variable {condition : Cmd → Prop}

theorem only_mono {weaker : Cmd → Prop} (implies : ∀ c, condition c → weaker c) {p : Prog Cmd Ret ε β}
    (only : Only condition p) : Only weaker p := by
  induction p with
  | ret value => trivial
  | fail error => trivial
  | await command resume ih => exact ⟨implies command only.1,fun answer => ih answer (only.2 answer)⟩
@[simp] theorem only_pure (value : β) : Only condition (pure value : Prog Cmd Ret ε β) := trivial
@[simp] theorem only_throw (error : ε) : Only condition (throw error : Prog Cmd Ret ε β) := trivial
@[simp] theorem only_call (command : Cmd) :
    Only condition (call command : Prog Cmd Ret ε (Ret command)) ↔ condition command := by
  constructor
  · exact fun only => only.1
  · intro holds
    refine ⟨holds,?_⟩
    rintro (_ | _) <;> trivial
theorem only_bind {p : Prog Cmd Ret ε β} {f : β → Prog Cmd Ret ε γ} (first : Only condition p)
    (second : ∀ value, Only condition (f value)) : Only condition (p >>= f) := by
  change Only condition (p.bind f)
  induction p with
  | ret value => exact second value
  | fail error => trivial
  | await command resume ih => exact ⟨first.1,fun answer => ih answer (first.2 answer)⟩
theorem only_tryCatch {p : Prog Cmd Ret ε β} {handler : ε → Prog Cmd Ret ε β} (body : Only condition p)
    (caught : ∀ error, Only condition (handler error)) : Only condition (p.tryCatch handler) := by
  induction p with
  | ret value => trivial
  | fail error => exact caught error
  | await command resume ih => exact ⟨body.1,fun answer => ih answer (body.2 answer)⟩
theorem only_ensure {p : Prog Cmd Ret ε β} {cleanup : Except ε β → Prog Cmd Ret ε Unit}
    (body : Only condition p) (last : ∀ result, Only condition (cleanup result)) :
    Only condition (p.ensure cleanup) := by
  induction p with
  | ret value => exact only_bind (last (.ok value)) (fun _ => trivial)
  | fail error => exact only_bind (last (.error error)) (fun _ => trivial)
  | await command resume ih => exact ⟨body.1,fun answer => ih answer (body.2 answer)⟩

end

/-- Carrying out the command disturbs nobody, not even the process itself. -/
def Steady (sys : System Cmd Ret ε α World Choice Input Env) (con : Contract Cmd World Choice Env) (command : Cmd) :
    Prop :=
  ∀ process before choice after answer, con.inv before → con.allowed process command choice before →
    sys.handle process command choice before = some (after,answer) →
    con.inv after ∧ ∀ other, con.rely other before after
theorem wp_steady (transitive : ∀ a b c, con.rely process a b → con.rely process b c → con.rely process a c)
    {command : Cmd} (steady : Steady sys con command) {wanted : Except ε (Ret command) → World → Prop}
    (ends : ∀ after answer, con.rely process w after → con.inv after → wanted answer after) :
    wp sys con process (call command) wanted w := by
  apply wp_call
  intro before relied inv choice after answer allowed handled
  obtain ⟨keeps,everyone⟩ := steady process before choice after answer inv allowed handled
  exact ⟨keeps,fun other _ => everyone other,
    ends after answer (transitive _ _ _ relied (everyone process)) keeps⟩

theorem wp_each {C : Cmd → Prop} {P : World → Prop} (stable : ∀ a b, P a → con.rely process a b → con.inv b → P b)
    (kept : ∀ command, C command → ∀ before choice after answer, con.inv before → P before →
      con.allowed process command choice before → sys.handle process command choice before = some (after,answer) →
      con.inv after ∧ (∀ other, other ≠ process → con.rely other before after) ∧ P after)
    {p : Prog Cmd Ret ε β} (only : Only C p) (now : P w) :
    wp sys con process p (fun _ w => P w) w := by
  induction p generalizing w with
  | ret value => exact now
  | fail error => exact now
  | await command resume ih =>
    intro before relied inv choice after answer allowed handled
    obtain ⟨keeps,others,later⟩ := kept command only.1 before choice after answer inv (stable w before now relied inv)
      allowed handled
    exact ⟨keeps,others,ih answer (only.2 answer) later⟩

theorem wp_only {holds : World → Prop} (stable : ∀ a b, holds a → con.rely process a b → con.inv b → holds b)
    {p : Prog Cmd Ret ε β} (only : Only (Steady sys con) p) (now : holds w) :
    wp sys con process p (fun _ w => holds w) w := by
  refine wp_each stable ?_ only now
  intro command steady before choice after answer inv held allowed handled
  obtain ⟨keeps,everyone⟩ := steady process before choice after answer inv allowed handled
  exact ⟨keeps,fun other _ => everyone other,stable before after held (everyone process) keeps⟩
/-- The function is safe wherever it is called, and promises nothing. -/
def Harmless (sys : System Cmd Ret ε α World Choice Input Env) (con : Contract Cmd World Choice Env) (process : Nat)
    {β : Type} (p : Prog Cmd Ret ε β) : Prop :=
  ∀ w, wp sys con process p (fun _ _ => True) w

section
variable {p : Prog Cmd Ret ε β}

theorem harmless_ret (value : β) : Harmless sys con process (.ret value : Prog Cmd Ret ε β) := fun _ => trivial
theorem harmless_fail (error : ε) : Harmless sys con process (.fail error : Prog Cmd Ret ε β) := fun _ => trivial
theorem harmless_only (only : Only (Steady sys con) p) : Harmless sys con process p :=
  fun _ => wp_only (fun _ _ _ _ _ => trivial) only trivial
theorem wp_then {f : β → Prog Cmd Ret ε γ} {w : World} (first : wp sys con process p (fun _ _ => True) w)
    (second : ∀ value, Harmless sys con process (f value)) : wp sys con process (p >>= f) (fun _ _ => True) w := by
  rw [wp_bind]
  refine wp_mono ?_ first
  rintro (error | value) w' _
  · trivial
  · exact second value w'
theorem wp_caught {handler : ε → Prog Cmd Ret ε β} {w : World} (body : wp sys con process p (fun _ _ => True) w)
    (caught : ∀ error, Harmless sys con process (handler error)) :
    wp sys con process (p.tryCatch handler) (fun _ _ => True) w := by
  rw [wp_tryCatch]
  refine wp_mono ?_ body
  rintro (error | value) w' _
  · exact caught error w'
  · trivial

variable {cleanup : Except ε β → Prog Cmd Ret ε Unit}
theorem wp_finally {ends : Except ε β → World → Prop} {w : World} (body : wp sys con process p ends w)
    (last : ∀ result w, ends result w → wp sys con process (cleanup result) (fun _ _ => True) w) :
    wp sys con process (p.ensure cleanup) (fun _ _ => True) w := by
  rw [wp_ensure]
  refine wp_mono ?_ body
  intro result w' ended
  refine wp_mono ?_ (last result w' ended)
  rintro (error | ⟨⟩) _ _ <;> trivial
theorem harmless_bind {f : β → Prog Cmd Ret ε γ} (first : Harmless sys con process p)
    (second : ∀ value, Harmless sys con process (f value)) : Harmless sys con process (p >>= f) :=
  fun w => wp_then (first w) second
theorem harmless_tryCatch {handler : ε → Prog Cmd Ret ε β} (body : Harmless sys con process p)
    (caught : ∀ error, Harmless sys con process (handler error)) :
    Harmless sys con process (p.tryCatch handler) :=
  fun w => wp_caught (body w) caught
theorem harmless_ensure (body : Harmless sys con process p)
    (last : ∀ result, Harmless sys con process (cleanup result)) : Harmless sys con process (p.ensure cleanup) :=
  fun w => wp_finally (body w) fun result w _ => last result w
end

/-- The functions of a system keep a contract and end as `wanted` says. -/
structure Keeps (sys : System Cmd Ret ε α World Choice Input Env) (con : Contract Cmd World Choice Env)
    (wanted : Nat → Except ε α → World → Prop) : Prop where
  reflexive : ∀ process a, con.rely process a a
  transitive : ∀ process a b c, con.rely process a b → con.rely process b c → con.rely process a c
  stable : ∀ process result a b, wanted process result a → con.rely process a b → con.inv b →
    wanted process result b
  idles : ∀ process a b, con.idle process a → con.rely process a b → con.inv b → con.idle process b
  arrives : ∀ process input a b, con.inv a → con.idle process a → sys.arrive process input a = some b →
    con.inv b ∧ (∀ other, other ≠ process → con.rely other a b) ∧
      wp sys con process (sys.program process input) (wanted process) b
  moves : ∀ event a b, con.inv a → con.happens event a → sys.environment event a = some b →
    con.inv b ∧ ∀ process, con.rely process a b

def Considered (con : Contract Cmd World Choice Env) (m : Machine Cmd Ret ε α World) :
    Action Choice Input Env → Prop
  | .start _ _ => True
  | .advance process choice => ∀ command resume, m.thread process = .live (.await command resume) →
      con.allowed process command choice m.world
  | .crash _ => True
  | .environment event => con.happens event m.world
theorem considered_free (allowed : ∀ process c choice w, con.allowed process c choice w)
    (happens : ∀ event w, con.happens event w)
    {a : Action Choice Input Env} : Considered con m a := by
  cases a with
  | start process input => trivial
  | advance process choice => exact fun _ _ _ => allowed _ _ _ _
  | crash process => trivial
  | environment event => exact happens event _

theorem considered_advance {process : Nat} {choice : Choice} :
    Considered con m (.advance process choice : Action Choice Input Env) ↔
      ∀ c ∈ (m.thread process).awaited.toList, con.allowed process c choice m.world := by
  simp only [Option.mem_toList]
  constructor
  · intro considered c awaited
    obtain ⟨resume,stood⟩ := awaited_some.mp awaited
    exact considered c resume stood
  · intro allowed c resume stood
    exact allowed c (awaited_some.mpr ⟨resume,stood⟩)
instance decidableConsidered [∀ process c choice w, Decidable (con.allowed process c choice w)]
    [∀ event w, Decidable (con.happens event w)] : (a : Action Choice Input Env) → Decidable (Considered con m a)
  | .start _ _ => isTrue trivial
  | .advance _ _ => decidable_of_iff' _ considered_advance
  | .crash _ => isTrue trivial
  | .environment event => inferInstanceAs (Decidable (con.happens event m.world))

/-- Where every event is considered, only a command can break the contract. -/
theorem unconsidered {a : Action Choice Input Env} (happens : ∀ event, con.happens event m.world)
    (taken : step sys m a = some next) (lost : ¬Considered con m a) :
    ∃ process choice c resume world answer, a = .advance process choice ∧ m.thread process = .live (.await c resume) ∧
      sys.handle process c choice m.world = some (world,answer) ∧ ¬con.allowed process c choice m.world ∧
      next = ⟨world,Function.update m.thread process (.live (resume answer))⟩ := by
  cases a with
  | start process input => exact absurd trivial lost
  | crash process => exact absurd trivial lost
  | environment event => exact absurd (happens event) lost
  | advance process choice =>
    obtain ⟨c,resume,world,answer,stood,handled,rfl⟩ := step_advance taken
    refine ⟨process,choice,c,resume,world,answer,rfl,stood,handled,fun allowed => lost fun c' resume' stood' => ?_,rfl⟩
    cases stood.symm.trans stood'
    exact allowed

/-- The invariant holds, every process still running is safe, and nothing yet is
    known to be of the others. -/
structure Safe (sys : System Cmd Ret ε α World Choice Input Env) (con : Contract Cmd World Choice Env)
    (wanted : Nat → Except ε α → World → Prop) (m : Machine Cmd Ret ε α World) : Prop where
  inv : con.inv m.world
  idle : ∀ process, m.thread process = .unused → con.idle process m.world
  live : ∀ process p, m.thread process = .live p → wp sys con process p (wanted process) m.world

variable {wanted : Nat → Except ε α → World → Prop}
/-- A considered step of any process keeps the contract of all. -/
theorem step_safe (keeps : Keeps sys con wanted) {a : Action Choice Input Env} (safe : Safe sys con wanted m)
    (considered : Considered con m a) (taken : step sys m a = some next) : Safe sys con wanted next := by
  -- The others are safe again once the world moved as they may rely on.
  have others : ∀ process world thread, con.inv world →
      (∀ other, other ≠ process → con.rely other m.world world) → thread ≠ .unused →
      (∀ p, thread = .live p → wp sys con process p (wanted process) world) →
      Safe sys con wanted ⟨world,Function.update m.thread process thread⟩ := by
    intro process world thread keeping relied started own
    refine ⟨keeping,?_,?_⟩
    · intro other at_
      dsimp only at at_ ⊢
      by_cases same : other = process
      · subst same
        rw [Function.update_self] at at_
        exact absurd at_ started
      · rw [Function.update_of_ne same] at at_
        exact keeps.idles other _ _ (safe.idle other at_) (relied other same) keeping
    · intro other p at_
      dsimp only at at_ ⊢
      by_cases same : other = process
      · subst same
        rw [Function.update_self] at at_
        exact own p at_
      · rw [Function.update_of_ne same] at at_
        exact wp_rely (keeps.transitive other) (keeps.stable other) (safe.live other p at_) (relied other same)
          keeping
  cases a with
  | start process input =>
    obtain ⟨unused,world,arrived,rfl⟩ := step_start taken
    obtain ⟨keeping,relied,own⟩ := keeps.arrives process input _ _ safe.inv (safe.idle process unused) arrived
    exact others process world _ keeping relied (by rintro ⟨⟩) (by rintro p ⟨⟩; exact own)
  | advance process choice =>
    obtain ⟨command,resume,world,answer,at_,handled,rfl⟩ := step_advance taken
    -- Nothing happened since the last step, so the process finds the world it left.
    obtain ⟨keeping,relied,own⟩ := safe.live process _ at_ m.world (keeps.reflexive process _) safe.inv choice world
      answer (considered command resume at_) handled
    exact others process world _ keeping relied (by rintro ⟨⟩) (by rintro p ⟨⟩; exact own)
  | crash process =>
    obtain ⟨-,rfl⟩ := step_crash taken
    exact others process m.world _ safe.inv (fun other _ => keeps.reflexive other _) (by rintro ⟨⟩) (by rintro _ ⟨⟩)
  | environment event =>
    obtain ⟨world,happened,rfl⟩ := step_environment taken
    obtain ⟨keeping,relied⟩ := keeps.moves event _ _ safe.inv considered happened
    exact ⟨keeping,fun process at_ => keeps.idles process _ _ (safe.idle process at_) (relied process) keeping,
      fun process p at_ =>
        wp_rely (keeps.transitive process) (keeps.stable process) (safe.live process p at_) (relied process) keeping⟩

/-- A run of considered steps keeps the contract. -/
theorem run_safe (keeps : Keeps sys con wanted)
    (safe : Safe sys con wanted m) (considered : Along (step sys) (Considered con) m actions)
    (reached : run (step sys) m actions = some next) : Safe sys con wanted next :=
  run_keeps_along (fun _ _ _ safe considered taken => step_safe keeps safe considered taken) safe considered reached

/-- A process that has ended has what was wanted of it. -/
theorem safe_ended (safe : Safe sys con wanted m) {process : Nat} {result : Except ε α}
    (ended : (m.thread process).ended = some result) : wanted process result m.world := by
  cases at_ : m.thread process with
  | unused => rw [at_] at ended; cases ended
  | crashed => rw [at_] at ended; cases ended
  | live p =>
    have ends := safe.live process p at_
    rw [at_] at ended
    cases p with
    | ret value => cases ended; exact ends
    | fail error => cases ended; exact ends
    | await command resume => cases ended

theorem safe_initial {world : World} (inv : con.inv world) (idle : ∀ process, con.idle process world) :
    Safe sys con wanted (Machine.initial world) :=
  ⟨inv,fun process _ => idle process,fun _ _ live => by cases live⟩
/-- Wherever a command is answered, what the function goes on with is as it should be. -/
def Each (holds : (c : Cmd) → Except ε (Ret c) → Prog Cmd Ret ε α → Prop) : Prog Cmd Ret ε α → Prop
  | .ret _ => True
  | .fail _ => True
  | .await command resume => ∀ answer, holds command answer (resume answer) ∧ Each holds (resume answer)

theorem each_step {holds : (c : Cmd) → Except ε (Ret c) → Prog Cmd Ret ε α → Prop} {command : Cmd}
    {f : Ret command → Prog Cmd Ret ε α} :
    Each holds (call command >>= f) ↔
      (∀ value, holds command (.ok value) (f value) ∧ Each holds (f value)) ∧
        ∀ error, holds command (.error error) (.fail error) := by
  constructor
  · intro each
    exact ⟨fun value => each (.ok value),fun error => (each (.error error)).1⟩
  · rintro ⟨goes,fails⟩ answer
    cases answer with
    | ok value => exact goes value
    | error error => exact ⟨fails error,trivial⟩

section
variable {holds : (c : Cmd) → Except ε (Ret c) → Prog Cmd Ret ε γ → Prop}

/-- Commands after which nothing is asked. -/
theorem each_only {free : Cmd → Prop} (asks : ∀ c, free c → ∀ answer rest, holds c answer rest) {p : Prog Cmd Ret ε γ}
    (only : Only free p) : Each holds p := by
  induction p with
  | ret value => trivial
  | fail error => trivial
  | await command resume ih => exact fun answer => ⟨asks command only.1 answer _,ih answer (only.2 answer)⟩
theorem each_bind {p : Prog Cmd Ret ε β} {f : β → Prog Cmd Ret ε γ}
    (first : Each (fun c answer rest => holds c answer (rest.bind f)) p) (second : ∀ value, Each holds (f value)) :
    Each holds (p.bind f) := by
  induction p with
  | ret value => exact second value
  | fail error => trivial
  | await command resume ih => exact fun answer => ⟨(first answer).1,ih answer (first answer).2⟩
theorem each_tryCatch {p : Prog Cmd Ret ε γ} {handler : ε → Prog Cmd Ret ε γ}
    (body : Each (fun c answer rest => holds c answer (rest.tryCatch handler)) p)
    (caught : ∀ error, Each holds (handler error)) : Each holds (p.tryCatch handler) := by
  induction p with
  | ret value => trivial
  | fail error => exact caught error
  | await command resume ih => exact fun answer => ⟨(body answer).1,ih answer (body answer).2⟩
theorem each_ensure {p : Prog Cmd Ret ε γ} {cleanup : Except ε γ → Prog Cmd Ret ε Unit}
    (body : Each (fun c answer rest => holds c answer (rest.ensure cleanup)) p)
    (returned : ∀ value, Each holds ((cleanup (.ok value)).bind fun _ => .ret value))
    (threw : ∀ error, Each holds ((cleanup (.error error)).bind fun _ => .fail error)) :
        Each holds (p.ensure cleanup) := by
  induction p with
  | ret value => exact returned value
  | fail error => exact threw error
  | await command resume ih => exact fun answer => ⟨(body answer).1,ih answer (body answer).2⟩
end

/-- The world remembers with which input each process was called. -/
structure Traced (sys : System Cmd Ret ε α World Choice Input Env) (calls : World → Nat → Option Input) : Prop where
  arrives : ∀ process input a b, sys.arrive process input a = some b →
    calls b = Function.update (calls a) process (some input)
  handles : ∀ process command choice a b answer, sys.handle process command choice a = some (b,answer) →
    calls b = calls a
  moves : ∀ event a b, sys.environment event a = some b → calls b = calls a
/-- Each live process has the shape that its input asks for. -/
def Following (calls : World → Nat → Option Input) (shape : Input → Prog Cmd Ret ε α → Prop)
    (m : Machine Cmd Ret ε α World) : Prop :=
  ∀ process p, m.thread process = .live p → ∃ input, calls m.world process = some input ∧ shape input p

section
variable {calls : World → Nat → Option Input} {shape : Input → Prog Cmd Ret ε α → Prop}

theorem step_following (traced : Traced sys calls)
    (begins : ∀ process input a b, sys.arrive process input a = some b → shape input (sys.program process input))
    (goes : ∀ input command process choice resume a b answer, sys.handle process command choice a = some (b,answer) →
      shape input (.await command resume) → shape input (resume answer))
    {a : Action Choice Input Env} (following : Following calls shape m) (taken : step sys m a = some next) :
    Following calls shape next := by
  intro other p at_
  cases a with
  | start process input =>
    obtain ⟨-,world,arrived,rfl⟩ := step_start taken
    dsimp only at at_ ⊢
    rw [traced.arrives process input _ _ arrived]
    by_cases same : other = process
    · subst same
      rw [Function.update_self] at at_ ⊢
      cases at_
      exact ⟨input,rfl,begins other input _ _ arrived⟩
    · rw [Function.update_of_ne same] at at_ ⊢
      exact following other p at_
  | advance process choice =>
    obtain ⟨command,resume,world,answer,stood,handled,rfl⟩ := step_advance taken
    dsimp only at at_ ⊢
    rw [traced.handles process command choice _ _ _ handled]
    by_cases same : other = process
    · subst same
      rw [Function.update_self] at at_
      cases at_
      obtain ⟨input,called,shaped⟩ := following other _ stood
      exact ⟨input,called,goes input command other choice resume _ _ answer handled shaped⟩
    · rw [Function.update_of_ne same] at at_
      exact following other p at_
  | crash process =>
    obtain ⟨-,rfl⟩ := step_crash taken
    dsimp only at at_ ⊢
    by_cases same : other = process
    · subst same
      rw [Function.update_self] at at_
      cases at_
    · rw [Function.update_of_ne same] at at_
      exact following other p at_
  | environment event =>
    obtain ⟨world,happened,rfl⟩ := step_environment taken
    dsimp only at at_ ⊢
    rw [traced.moves event _ _ happened]
    exact following other p at_

theorem following_initial (world : World) : Following calls shape (Machine.initial world) :=
  fun _ _ at_ => by cases at_
theorem run_following (traced : Traced sys calls)
    (begins : ∀ process input a b, sys.arrive process input a = some b → shape input (sys.program process input))
    (goes : ∀ input command process choice resume a b answer, sys.handle process command choice a = some (b,answer) →
      shape input (.await command resume) → shape input (resume answer))
    {actions : List (Action Choice Input Env)} (following : Following calls shape m)
    (reached : run (step sys) m actions = some next) : Following calls shape next :=
  run_keeps (fun _ _ _ following taken => step_following traced begins goes following taken) following reached

end

/-- Where safe states are good, and a step that is not considered makes a safe state a
    bad one, a run is good all along exactly when all its steps are considered. -/
theorem exact_along (keeps : Keeps sys con wanted) {G : Machine Cmd Ret ε α World → Prop}
    (good : ∀ m, Safe sys con wanted m → G m)
    (spoils : ∀ m a next, Safe sys con wanted m → step sys m a = some next → ¬Considered con m a → ¬G next)
    (safe : Safe sys con wanted m)
    (reached : run (step sys) m actions = some next) :
    (∀ first rest u, actions = first ++ rest → run (step sys) m first = some u → G u) ↔
      Along (step sys) (Considered con) m actions := by
  induction actions generalizing m with
  | nil =>
    refine ⟨fun _ => trivial,?_⟩
    rintro - first rest u same now
    obtain ⟨rfl,-⟩ := List.append_eq_nil_iff.mp same.symm
    exact Option.some.inj now ▸ good m safe
  | cons a rest ih =>
    obtain ⟨next,taken,later⟩ := run_cons.mp reached
    constructor
    · intro always
      have considered : Considered con m a := by
        by_contra other
        exact spoils m a next safe taken other (always [a] rest next rfl (run_cons.mpr ⟨next,taken,rfl⟩))
      refine ⟨considered,fun other same => ?_⟩
      obtain rfl := Option.some.inj (taken.symm.trans same)
      exact (ih (step_safe keeps safe considered taken) later).mp fun first after u same now =>
        always (a :: first) after u (by rw [same]; rfl) (run_cons.mpr ⟨next,taken,now⟩)
    · rintro ⟨considered,along⟩ first after u same begun
      cases first with
      | nil => exact Option.some.inj begun ▸ good m safe
      | cons b first =>
        obtain ⟨rfl,tail⟩ := List.cons.inj same
        obtain ⟨other,taken',now⟩ := run_cons.mp begun
        obtain rfl := Option.some.inj (taken.symm.trans taken')
        exact (ih (step_safe keeps safe considered taken) later).mpr (along next taken) first after u tail now

theorem along_of_safe (keeps : Keeps sys con wanted) {meets : Machine Cmd Ret ε α World → Action Choice Input Env → Prop}
    (given : ∀ m a, Safe sys con wanted m → meets m a)
    (safe : Safe sys con wanted m) (considered : Along (step sys) (Considered con) m actions) :
    Along (step sys) meets m actions := by
  induction actions generalizing m with
  | nil => trivial
  | cons a rest ih =>
    exact ⟨given m a safe,fun next taken => ih (step_safe keeps safe considered.1 taken) (considered.2 next taken)⟩

end Ngotag.Await
