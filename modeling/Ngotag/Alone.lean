import Ngotag.Serial

/-!
A function that runs alone to its end: its commands are carried out one after
another, under the choices of a list. `alone` gives how it ended, the world it
left and the commands it performed; `alone_reached` says that this is a run of a
system in which no other process takes a step. `cut` gives the world that is left
when the function is cut off where the choices end.
-/
namespace Ngotag.Await

/-- How a function ended, with the choices that were not used and the commands that
    were performed. -/
structure Ended (Cmd World Choice ε β : Type) where
  world : World
  result : Except ε β
  left : List Choice
  performed : List Cmd

section
variable {Cmd : Type} {Ret : Cmd → Type} {ε World Choice : Type} {β γ : Type}

def alone (handle : (c : Cmd) → Choice → World → Option (World × Except ε (Ret c))) :
    Prog Cmd Ret ε β → List Choice → World → Option (Ended Cmd World Choice ε β)
  | .ret value,choices,w => some ⟨w,.ok value,choices,[]⟩
  | .fail error,choices,w => some ⟨w,.error error,choices,[]⟩
  | .await _ _,[],_ => none
  | .await command resume,choice :: rest,w =>
    (handle command choice w).bind fun outcome =>
      (alone handle (resume outcome.2) rest outcome.1).map fun ended =>
        { ended with performed := command :: ended.performed }
def Ended.andThen (handle : (c : Cmd) → Choice → World → Option (World × Except ε (Ret c)))
    (f : β → Prog Cmd Ret ε γ) (ended : Ended Cmd World Choice ε β) : Option (Ended Cmd World Choice ε γ) :=
  match ended.result with
  | .ok value => (alone handle (f value) ended.left ended.world).map fun last =>
      { last with performed := ended.performed ++ last.performed }
  | .error error => some ⟨ended.world,.error error,ended.left,ended.performed⟩

variable {handle : (c : Cmd) → Choice → World → Option (World × Except ε (Ret c))} {choices : List Choice} {w : World}
theorem alone_bind (p : Prog Cmd Ret ε β) (f : β → Prog Cmd Ret ε γ) :
    alone handle (p >>= f) choices w = (alone handle p choices w).bind (Ended.andThen handle f) := by
  change alone handle (p.bind f) choices w = _
  induction p generalizing choices w with
  | ret value => simp [Prog.bind,alone,Ended.andThen]
  | fail error => rfl
  | await command resume ih =>
    cases choices with
    | nil => rfl
    | cons choice rest =>
      simp only [Prog.bind,alone,ih,Option.bind_assoc,Option.map_bind,Option.bind_map]
      refine Option.bind_congr fun outcome _ => Option.bind_congr fun ended _ => ?_
      cases result : ended.result with
      | ok value => simp [Ended.andThen,result,Option.map_map,Function.comp_def]
      | error error => simp [Ended.andThen,result]

theorem alone_call {command : Cmd} {ended : Ended Cmd World Choice ε (Ret command)}
    (ran : alone handle (call command) choices w = some ended) :
    ∃ choice rest after answer, choices = choice :: rest ∧ handle command choice w = some (after,answer) ∧
      ended = ⟨after,answer,rest,[command]⟩ := by
  cases choices with
  | nil => cases ran
  | cons choice rest =>
    obtain ⟨⟨after,answer⟩,handled,later⟩ := Option.bind_eq_some_iff.mp ran
    obtain ⟨last,ends,rfl⟩ := Option.map_eq_some_iff.mp later
    refine ⟨choice,rest,after,answer,rfl,handled,?_⟩
    cases answer with
    | ok value => cases ends; rfl
    | error error => cases ends; rfl

variable {ended : Ended Cmd World Choice ε γ}
theorem alone_seq {p : Prog Cmd Ret ε β} {f : β → Prog Cmd Ret ε γ}
    (ran : alone handle (p >>= f) choices w = some ended) :
    (∃ first value last, alone handle p choices w = some first ∧ first.result = .ok value ∧
      alone handle (f value) first.left first.world = some last ∧
      ended = { last with performed := first.performed ++ last.performed }) ∨
    ∃ first error, alone handle p choices w = some first ∧ first.result = .error error ∧
      ended = ⟨first.world,.error error,first.left,first.performed⟩ := by
  rw [alone_bind] at ran
  obtain ⟨first,begins,later⟩ := Option.bind_eq_some_iff.mp ran
  rw [Ended.andThen] at later
  cases result : first.result with
  | ok value =>
    rw [result] at later
    obtain ⟨last,ends,rfl⟩ := Option.map_eq_some_iff.mp later
    exact .inl ⟨first,value,last,begins,result,ends,rfl⟩
  | error error =>
    rw [result] at later
    cases later
    exact .inr ⟨first,error,begins,result,rfl⟩

theorem alone_step {command : Cmd} {f : Ret command → Prog Cmd Ret ε γ} {choice : Choice} {rest : List Choice}
    (ran : alone handle (call command >>= f) (choice :: rest) w = some ended) :
    (∃ after value last, handle command choice w = some (after,.ok value) ∧
      alone handle (f value) rest after = some last ∧ ended = { last with performed := command :: last.performed }) ∨
    ∃ after error, handle command choice w = some (after,.error error) ∧
      ended = ⟨after,.error error,rest,[command]⟩ := by
  rcases alone_seq ran with ⟨first,value,last,begins,result,ends,rfl⟩ | ⟨first,error,begins,result,rfl⟩
  · obtain ⟨_,_,after,answer,same,handled,rfl⟩ := alone_call begins
    cases same
    cases result
    exact .inl ⟨after,value,last,handled,ends,rfl⟩
  · obtain ⟨_,_,after,answer,same,handled,rfl⟩ := alone_call begins
    cases same
    cases result
    exact .inr ⟨after,error,handled,rfl⟩

end
section
variable {Cmd : Type} {Ret : Cmd → Type} {ε World Choice : Type} {β γ : Type}

/-- The world where the function ends, or where it is cut off because the choices are
    used up. -/
def cut (handle : (c : Cmd) → Choice → World → Option (World × Except ε (Ret c))) :
    Prog Cmd Ret ε β → List Choice → World → Option World
  | .ret _,_,w => some w
  | .fail _,_,w => some w
  | .await _ _,[],w => some w
  | .await command resume,choice :: rest,w =>
    (handle command choice w).bind fun outcome => cut handle (resume outcome.2) rest outcome.1

variable {handle : (c : Cmd) → Choice → World → Option (World × Except ε (Ret c))} {choices : List Choice}
  {w after : World}
variable {p : Prog Cmd Ret ε β}
/-- What each of its commands keeps, a function keeps wherever it is cut off. -/
theorem cut_each {C : Cmd → Prop} {P : World → Prop}
    (kept : ∀ command, C command → ∀ choice before after answer, P before →
      handle command choice before = some (after,answer) → P after)
    (only : Only C p) (now : P w) (ran : cut handle p choices w = some after) :
    P after := by
  induction p generalizing w choices with
  | ret value => exact Option.some.inj ran ▸ now
  | fail error => exact Option.some.inj ran ▸ now
  | await command resume ih =>
    cases choices with
    | nil => exact Option.some.inj ran ▸ now
    | cons choice rest =>
      obtain ⟨⟨middle,answer⟩,handled,later⟩ := Option.bind_eq_some_iff.mp ran
      exact ih answer (only.2 answer) (kept command only.1 choice w middle answer now handled) later

/-- A command that is followed by more: the function is cut off before it, goes on
    after it, or ends with its exception. -/
theorem cut_step {command : Cmd} {f : Ret command → Prog Cmd Ret ε γ}
    (ran : cut handle (call command >>= f) choices w = some after) :
    (choices = [] ∧ after = w) ∨ ∃ choice rest middle answer, choices = choice :: rest ∧
      handle command choice w = some (middle,answer) ∧
      ((∃ value, answer = .ok value ∧ cut handle (f value) rest middle = some after) ∨
        ∃ error, answer = .error error ∧ after = middle) := by
  cases choices with
  | nil => exact .inl ⟨rfl,(Option.some.inj ran).symm⟩
  | cons choice rest =>
    obtain ⟨⟨middle,answer⟩,handled,later⟩ := Option.bind_eq_some_iff.mp ran
    refine .inr ⟨choice,rest,middle,answer,rfl,handled,?_⟩
    cases answer with
    | ok value => exact .inl ⟨value,rfl,later⟩
    | error error => exact .inr ⟨error,rfl,(Option.some.inj later).symm⟩

theorem cut_try {command : Cmd} {f : Ret command → Prog Cmd Ret ε γ} {handler : ε → Prog Cmd Ret ε γ}
    (ran : cut handle ((call command >>= f).tryCatch handler) choices w = some after) :
    (choices = [] ∧ after = w) ∨ ∃ choice rest middle answer, choices = choice :: rest ∧
      handle command choice w = some (middle,answer) ∧
      ((∃ value, answer = .ok value ∧ cut handle ((f value).tryCatch handler) rest middle = some after) ∨
        ∃ error, answer = .error error ∧ cut handle (handler error) rest middle = some after) := by
  cases choices with
  | nil => exact .inl ⟨rfl,(Option.some.inj ran).symm⟩
  | cons choice rest =>
    obtain ⟨⟨middle,answer⟩,handled,later⟩ := Option.bind_eq_some_iff.mp ran
    refine .inr ⟨choice,rest,middle,answer,rfl,handled,?_⟩
    cases answer with
    | ok value => exact .inl ⟨value,rfl,later⟩
    | error error => exact .inr ⟨error,rfl,later⟩

def Quiet : Prog Cmd Ret ε β → Prop
  | .ret _ => True
  | .fail _ => False
  | .await _ resume => ∀ answer, Quiet (resume answer)

theorem quiet_bind {f : β → Prog Cmd Ret ε γ} (first : Quiet p)
    (second : ∀ value, Quiet (f value)) : Quiet (p >>= f) := by
  change Quiet (p.bind f)
  induction p with
  | ret value => exact second value
  | fail error => exact first.elim
  | await command resume ih => exact fun answer => ih answer (first answer)
theorem quiet_tryCatch {handler : ε → Prog Cmd Ret ε β} (caught : ∀ error, Quiet (handler error)) :
    Quiet (p.tryCatch handler) := by
  induction p with
  | ret value => trivial
  | fail error => exact caught error
  | await command resume ih => exact ih
theorem only_quiet {condition : Cmd → Prop} {handler : ε → Prog Cmd Ret ε β} (quiet : Quiet p)
    (only : Only condition p) : Only condition (p.tryCatch handler) := by
  induction p with
  | ret value => trivial
  | fail error => exact quiet.elim
  | await command resume ih => exact ⟨only.1,fun answer => ih answer (quiet answer) (only.2 answer)⟩

end
variable {Cmd : Type} {Ret : Cmd → Type} {ε α World Choice Input Env : Type}
  {sys : System Cmd Ret ε α World Choice Input Env} {m : Machine Cmd Ret ε α World} {process : Nat}

end Ngotag.Await
