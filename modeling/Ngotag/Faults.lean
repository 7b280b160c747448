import Ngotag.Serial

/-!
A function that is called alone, with faults. Each awaited command in its turn succeeds, is
reported as failed, or is the last before the process stops; in both bad cases it may have been
carried out nevertheless.
-/
namespace Ngotag.Faults
open Await

inductive Fault where
  | none
  | rejects (done : Bool)
  | stops (done : Bool)
  deriving DecidableEq
/-- The command had no effect. -/
def Fault.undone : Fault → Bool
  | .none => false
  | .rejects done => !done
  | .stops done => !done
def later (faults : Nat → Fault) : Nat → Fault := fun n => faults (n + 1)

section
variable {Cmd : Type} {Ret : Cmd → Type} {ε World β γ : Type}
  (carry : (c : Cmd) → World → World × Except ε (Ret c)) (lost : ε)

def broken (c : Cmd) (done : Bool) (w : World) : World := if done = true then (carry c w).1 else w
/-- A function whose commands may each fail before or after their effect, or be the last. -/
def execute : Prog Cmd Ret ε β → (Nat → Fault) → World → World × Option (Except ε β)
  | .ret value,_,w => (w,some (.ok value))
  | .fail error,_,w => (w,some (.error error))
  | .await command resume,faults,w =>
    match faults 0 with
    | .none => execute (resume (carry command w).2) (later faults) (carry command w).1
    | .rejects done => execute (resume (.error lost)) (later faults) (broken carry command done w)
    | .stops done => (broken carry command done w,none)

variable {carry lost} {command : Cmd} {f : Ret command → Prog Cmd Ret ε γ} {faults : Nat → Fault} {w after : World}
def Fault.ends (lost : ε) : Fault → Option (Except ε γ)
  | .stops _ => Option.none
  | _ => some (.error lost)
theorem execute_ok {value : Ret command} (well : faults 0 = .none) (carried : carry command w = (after,.ok value)) :
    execute carry lost (call command >>= f) faults w = execute carry lost (f value) (later faults) after := by
  change execute carry lost (.await command _) faults w = _
  simp only [execute,well,carried]
  rfl
theorem execute_error {error : ε} (well : faults 0 = .none) (carried : carry command w = (after,.error error)) :
    execute carry lost (call command >>= f) faults w = (after,some (.error error)) := by
  change execute carry lost (.await command _) faults w = _
  simp only [execute,well,carried]
  rfl
theorem execute_fault (bad : faults 0 ≠ .none) :
    execute carry lost (call command >>= f) faults w =
      (if (faults 0).undone = true then w else (carry command w).1,(faults 0).ends lost) := by
  change execute carry lost (.await command _) faults w = _
  simp only [execute]
  cases fault : faults 0 with
  | none => exact absurd fault bad
  | rejects done => cases done <;> rfl
  | stops done => cases done <;> rfl
theorem ends_failed {fault : Fault} (bad : fault ≠ .none) (value : γ) : fault.ends lost ≠ some (.ok value) := by
  cases fault with
  | none => exact absurd rfl bad
  | rejects done => rintro ⟨⟩
  | stops done => rintro ⟨⟩
/-- A command that only reads can fail, but changes nothing. -/
theorem execute_read {value : Ret command} (carried : carry command w = (w,.ok value)) :
    faults 0 = .none ∧
      execute carry lost (call command >>= f) faults w = execute carry lost (f value) (later faults) w ∨
    faults 0 ≠ .none ∧ execute carry lost (call command >>= f) faults w = (w,(faults 0).ends lost) := by
  by_cases well : faults 0 = .none
  · exact .inl ⟨well,execute_ok well carried⟩
  · refine .inr ⟨well,?_⟩
    rw [execute_fault well,carried,ite_self]

theorem execute_last : execute carry lost (call command) faults w =
    if faults 0 = .none then ((carry command w).1,some (carry command w).2)
    else (if (faults 0).undone = true then w else (carry command w).1,(faults 0).ends lost) := by
  change execute carry lost (.await command _) faults w = _
  simp only [execute]
  cases fault : faults 0 with
  | none =>
    rw [if_pos rfl]
    cases (carry command w).2 with
    | ok value => rfl
    | error error => rfl
  | rejects done => cases done <;> rfl
  | stops done => cases done <;> rfl

variable {p : Prog Cmd Ret ε β}
/-- A function whose error is caught goes on in the world that it left. -/
theorem execute_swallow {value : β} :
    execute carry lost (p.tryCatch fun _ => pure value) faults w =
      ((execute carry lost p faults w).1,(execute carry lost p faults w).2.map fun result =>
        match result with
        | .ok value => .ok value
        | .error _ => .ok value) := by
  induction p generalizing faults w with
  | ret value => rfl
  | fail error => rfl
  | await command resume ih =>
    simp only [Prog.tryCatch,execute]
    split
    · exact ih _
    · exact ih _
    · rfl

theorem execute_map {value : γ} :
    execute carry lost (p >>= fun _ => pure value) faults w =
      ((execute carry lost p faults w).1,(execute carry lost p faults w).2.map fun result =>
      result.map fun _ => value) := by
  change execute carry lost (p.bind _) faults w = _
  induction p generalizing faults w with
  | ret value => rfl
  | fail error => rfl
  | await command resume ih =>
    simp only [Prog.bind,execute]
    split
    · exact ih _
    · exact ih _
    · rfl

/-- What every command keeps, a function keeps, wherever it fails. -/
theorem execute_keeps {C : Cmd → Prop} {P : World → Prop}
    (kept : ∀ c, C c → ∀ w, P w → P (carry c w).1) (only : Only C p) (now : P w) :
    P (execute carry lost p faults w).1 := by
  induction p generalizing faults w with
  | ret value => exact now
  | fail error => exact now
  | await command resume ih =>
    have next := kept command only.1 w now
    have half : ∀ done, P (broken carry command done w) := by
      intro done
      unfold broken
      split
      · exact next
      · exact now
    simp only [execute]
    split
    · exact ih _ (only.2 _) next
    · exact ih _ (only.2 _) (half _)
    · exact half _

end
variable {Cmd : Type} {Ret : Cmd → Type} {ε World β γ : Type}

/-- As `execute`, where a fault belongs to the command and not to the time: for a function that
    awaits none of its commands twice. -/
def attempt (carry : (c : Cmd) → World → World × Except ε (Ret c)) (lost : ε) (faults : Cmd → Fault) :
    Prog Cmd Ret ε β → World → World × Option (Except ε β)
  | .ret value,w => (w,some (.ok value))
  | .fail error,w => (w,some (.error error))
  | .await command resume,w =>
    match faults command with
    | .none => attempt carry lost faults (resume (carry command w).2) (carry command w).1
    | .rejects done => attempt carry lost faults (resume (.error lost)) (broken carry command done w)
    | .stops done => (broken carry command done w,none)

def andThen (out : World × Option (Except ε β)) (next : β → World → World × Option (Except ε γ)) :
    World × Option (Except ε γ) :=
  match out.2 with
  | some (.ok value) => next value out.1
  | some (.error error) => (out.1,some (.error error))
  | none => (out.1,none)
/-- `Promise.allSettled`, of one. -/
def settle (p : Prog Cmd Ret ε β) : Prog Cmd Ret ε (Except ε β) :=
  (p >>= fun value => pure (.ok value)).tryCatch fun error => pure (.error error)

variable {carry : (c : Cmd) → World → World × Except ε (Ret c)} {lost : ε} {faults : Cmd → Fault} {w after : World}
variable {p : Prog Cmd Ret ε β}
/-- What fails first ends the whole, in the world that it left. -/
theorem attempt_bind {f : β → Prog Cmd Ret ε γ} :
    attempt carry lost faults (p >>= f) w =
      andThen (attempt carry lost faults p w) fun value => attempt carry lost faults (f value) := by
  change attempt carry lost faults (p.bind f) w = _
  induction p generalizing w with
  | ret value => rfl
  | fail error => rfl
  | await command resume ih =>
    simp only [Prog.bind,attempt]
    split
    · exact ih _
    · exact ih _
    · rfl

theorem attempt_settle :
    attempt carry lost faults (settle p) w =
      ((attempt carry lost faults p w).1,(attempt carry lost faults p w).2.map .ok) := by
  change attempt carry lost faults ((p.bind _).tryCatch _) w = _
  induction p generalizing w with
  | ret value => rfl
  | fail error => rfl
  | await command resume ih =>
    simp only [Prog.bind,Prog.tryCatch,attempt]
    split
    · exact ih _
    · exact ih _
    · rfl

theorem attempt_then {f : β → Prog Cmd Ret ε γ} {value : β}
    (done : attempt carry lost faults p w = (after,some (.ok value))) :
    attempt carry lost faults (p >>= f) w = attempt carry lost faults (f value) after := by
  rw [attempt_bind,done]
  rfl

variable {command : Cmd}
theorem attempt_call : attempt carry lost faults (call command) w =
    if faults command = .none then ((carry command w).1,some (carry command w).2)
    else (if (faults command).undone = true then w else (carry command w).1,(faults command).ends lost) := by
  change attempt carry lost faults (.await command _) w = _
  simp only [attempt]
  cases fault : faults command with
  | none =>
    rw [if_pos rfl]
    cases (carry command w).2 with
    | ok value => rfl
    | error error => rfl
  | rejects done => cases done <;> rfl
  | stops done => cases done <;> rfl

theorem attempt_ok {value : Ret command} (well : faults command = .none)
    (carried : carry command w = (after,.ok value)) :
    attempt carry lost faults (call command) w = (after,some (.ok value)) := by
  rw [attempt_call,if_pos well,carried]
theorem attempt_error {error : ε} (well : faults command = .none) (carried : carry command w = (after,.error error)) :
    attempt carry lost faults (call command) w = (after,some (.error error)) := by
  rw [attempt_call,if_pos well,carried]
theorem attempt_fault (bad : faults command ≠ .none) : attempt carry lost faults (call command) w =
    (if (faults command).undone = true then w else (carry command w).1,(faults command).ends lost) := by
  rw [attempt_call,if_neg bad]

/-- What every command keeps, an attempt keeps, wherever it fails. -/
theorem attempt_keeps {C : Cmd → Prop} {P : World → Prop}
    (kept : ∀ c, C c → ∀ w, P w → P (carry c w).1) (only : Only C p) (now : P w) :
    P (attempt carry lost faults p w).1 := by
  induction p generalizing w with
  | ret value => exact now
  | fail error => exact now
  | await command resume ih =>
    have next := kept command only.1 w now
    have half : ∀ done, P (broken carry command done w) := by
      intro done
      unfold broken
      split
      · exact next
      · exact now
    simp only [attempt]
    split
    · exact ih _ (only.2 _) next
    · exact ih _ (only.2 _) (half _)
    · exact half _

theorem andThen_failed (out : World × Option (Except ε β)) (next : β → World → World × Option (Except ε γ))
    (failed : ∀ value, out.2 ≠ some (.ok value)) :
    (andThen out next).1 = out.1 ∧ ∀ value, (andThen out next).2 ≠ some (.ok value) := by
  obtain ⟨left,ended⟩ := out
  cases ended with
  | none => exact ⟨rfl,fun value same => by cases same⟩
  | some result =>
    cases result with
    | error error => exact ⟨rfl,fun value same => by cases same⟩
    | ok value => exact absurd rfl (failed value)

end Ngotag.Faults
