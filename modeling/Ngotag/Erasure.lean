import Ngotag.Await

/-!
Erasing processes from a run. Some processes are hidden: each of their steps
leaves the world as it looks to the others, given the answers their commands can
get (`Within`). Then the run without them exists as well, and it ends in a world
that looks the same, with the other processes at the same place (`erased_run`).
-/
namespace Ngotag.Erasure
open Runs Await

section
variable {Cmd : Type} {Ret : Cmd → Type} {ε α β γ : Type}

/-- As long as its commands get possible answers, the function awaits only commands
    that satisfy the condition, and ends as wanted. -/
def Within (possible : (c : Cmd) → Except ε (Ret c) → Prop) (condition : Cmd → Prop) {β : Type} :
    Prog Cmd Ret ε β → (Except ε β → Prop) → Prop
  | .ret value, wanted => wanted (.ok value)
  | .fail error, wanted => wanted (.error error)
  | .await command resume, wanted =>
    condition command ∧ ∀ answer, possible command answer → Within possible condition (resume answer) wanted

variable {possible : (c : Cmd) → Except ε (Ret c) → Prop} {condition : Cmd → Prop}
variable {p : Prog Cmd Ret ε β}
theorem within_only (only : Only condition p) :
    Within possible condition p (fun _ => True) := by
  induction p with
  | ret value => trivial
  | fail error => trivial
  | await command resume ih => exact ⟨only.1,fun answer _ => ih answer (only.2 answer)⟩
theorem within_call {command : Cmd} {wanted : Except ε (Ret command) → Prop} (holds : condition command)
    (ends : ∀ answer, possible command answer → wanted answer) :
    Within possible condition (call command) wanted := by
  refine ⟨holds,fun answer can => ?_⟩
  cases answer with
  | ok value => exact ends _ can
  | error error => exact ends _ can
theorem within_bind {f : β → Prog Cmd Ret ε γ} {between : Except ε β → Prop}
    {wanted : Except ε γ → Prop} (first : Within possible condition p between)
    (second : ∀ value, between (.ok value) → Within possible condition (f value) wanted)
    (throws : ∀ error, between (.error error) → wanted (.error error)) :
    Within possible condition (p >>= f) wanted := by
  change Within possible condition (p.bind f) wanted
  induction p with
  | ret value => exact second value first
  | fail error => exact throws error first
  | await command resume ih => exact ⟨first.1,fun answer can => ih answer (first.2 answer can)⟩
theorem within_tryCatch {handler : ε → Prog Cmd Ret ε β} {between wanted : Except ε β → Prop}
    (body : Within possible condition p between) (ends : ∀ value, between (.ok value) → wanted (.ok value))
    (caught : ∀ error, between (.error error) → Within possible condition (handler error) wanted) :
    Within possible condition (p.tryCatch handler) wanted := by
  induction p with
  | ret value => exact ends value body
  | fail error => exact caught error body
  | await command resume ih => exact ⟨body.1,fun answer can => ih answer (body.2 answer can)⟩
theorem within_ensure {cleanup : Except ε β → Prog Cmd Ret ε Unit} {wanted : Except ε β → Prop}
    (body : Within possible condition p wanted)
    (last : ∀ result, Within possible condition (cleanup result) (fun _ => True))
    (throws : ∀ error, wanted (.error error)) : Within possible condition (p.ensure cleanup) wanted := by
  induction p with
  | ret value => exact within_bind (last _) (fun _ _ => body) fun error _ => throws error
  | fail error => exact within_bind (last _) (fun _ _ => body) fun error _ => throws error
  | await command resume ih => exact ⟨body.1,fun answer can => ih answer (body.2 answer can)⟩

end
variable {Cmd : Type} {Ret : Cmd → Type} {ε α World Choice Input Env : Type}

def visible (hidden : Nat → Bool) : Action Choice Input Env → Bool
  | .start process _ => !hidden process
  | .advance process _ => !hidden process
  | .crash process => !hidden process
  | .environment _ => true

/-- What makes the hidden processes of a system erasable: the world looks the same
    (`view`) whether or not they moved, in all worlds that are `good`; `shows` and
    `hides` are what is known of the functions of the two kinds of processes. -/
structure Erasable (sys : System Cmd Ret ε α World Choice Input Env) (hidden : Nat → Bool)
    (fits : Nat → Input → Prop) (good : World → Prop) (view : World → World → Prop)
    (shows hides : Nat → Prog Cmd Ret ε α → Prop) : Prop where
  starts : ∀ process input a b a', hidden process = false → fits process input → view a a' →
    sys.arrive process input a = some b →
    (∃ b', sys.arrive process input a' = some b' ∧ view b b') ∧ shows process (sys.program process input)
  enters : ∀ process input a b a', hidden process = true → fits process input → view a a' →
    sys.arrive process input a = some b → view b a' ∧ hides process (sys.program process input)
  advances : ∀ process command resume choice a b a' answer, hidden process = false →
    shows process (.await command resume) → view a a' → sys.handle process command choice a = some (b,answer) →
    (∃ b', sys.handle process command choice a' = some (b',answer) ∧ view b b') ∧ shows process (resume answer)
  sneaks : ∀ process command resume choice a b a' answer, hidden process = true → good a →
    hides process (.await command resume) → view a a' → sys.handle process command choice a = some (b,answer) →
    view b a' ∧ hides process (resume answer)
  moves : ∀ event a b a', view a a' → sys.environment event a = some b →
    ∃ b', sys.environment event a' = some b' ∧ view b b'

/-- The machines agree on what is shown. -/
structure Similar (hidden : Nat → Bool) (view : World → World → Prop) (shows hides : Nat → Prog Cmd Ret ε α → Prop)
    (m m' : Machine Cmd Ret ε α World) : Prop where
  world : view m.world m'.world
  shown : ∀ process, hidden process = false → m'.thread process = m.thread process
  shows : ∀ process p, hidden process = false → m.thread process = .live p → shows process p
  hides : ∀ process p, hidden process = true → m.thread process = .live p → hides process p

variable {sys : System Cmd Ret ε α World Choice Input Env} {hidden : Nat → Bool} {fits : Nat → Input → Prop}
  {good : World → Prop} {view : World → World → Prop} {shows hides : Nat → Prog Cmd Ret ε α → Prop}
  {m m' next : Machine Cmd Ret ε α World}
theorem similar_initial {world : World} (look : view world world) :
    Similar hidden view shows hides (Machine.initial world) (Machine.initial world) :=
  ⟨look,fun _ _ => rfl,fun _ _ _ live => (by cases live),fun _ _ _ live => by cases live⟩

theorem similar_shown (similar : Similar hidden view shows hides m m') {process : Nat} {world world' : World}
    {thread : Thread Cmd Ret ε α} (shown : hidden process = false) (look : view world world')
    (own : ∀ p, thread = .live p → shows process p) :
    Similar hidden view shows hides ⟨world,Function.update m.thread process thread⟩
      ⟨world',Function.update m'.thread process thread⟩ := by
  refine ⟨look,fun other visible => ?_,fun other p visible at_ => ?_,fun other p secret at_ => ?_⟩
  · dsimp only
    by_cases same : other = process
    · subst same; rw [Function.update_self,Function.update_self]
    · rw [Function.update_of_ne same,Function.update_of_ne same]
      exact similar.shown other visible
  · dsimp only at at_
    by_cases same : other = process
    · subst same; rw [Function.update_self] at at_; exact own p at_
    · rw [Function.update_of_ne same] at at_; exact similar.shows other p visible at_
  · dsimp only at at_
    have different : other ≠ process := by rintro rfl; rw [shown] at secret; cases secret
    rw [Function.update_of_ne different] at at_
    exact similar.hides other p secret at_

theorem similar_hidden (similar : Similar hidden view shows hides m m') {process : Nat} {world : World}
    {thread : Thread Cmd Ret ε α} (secret : hidden process = true) (look : view world m'.world)
    (own : ∀ p, thread = .live p → hides process p) :
    Similar hidden view shows hides ⟨world,Function.update m.thread process thread⟩ m' := by
  refine ⟨look,fun other visible => ?_,fun other p visible at_ => ?_,fun other p secret' at_ => ?_⟩
  · have different : other ≠ process := by rintro rfl; rw [secret] at visible; cases visible
    dsimp only
    rw [Function.update_of_ne different]
    exact similar.shown other visible
  · have different : other ≠ process := by rintro rfl; rw [secret] at visible; cases visible
    dsimp only at at_
    rw [Function.update_of_ne different] at at_
    exact similar.shows other p visible at_
  · dsimp only at at_
    by_cases same : other = process
    · subst same; rw [Function.update_self] at at_; exact own p at_
    · rw [Function.update_of_ne same] at at_; exact similar.hides other p secret' at_

/-- What the erased run needs of a step: a good world, and inputs that fit. -/
def Fitting (fits : Nat → Input → Prop) (good : World → Prop) (m : Machine Cmd Ret ε α World) :
    Action Choice Input Env → Prop
  | .start process input => good m.world ∧ fits process input
  | _ => good m.world

section

variable (erasable : Erasable sys hidden fits good view shows hides) (similar : Similar hidden view shows hides m m')
include erasable similar
/-- A hidden step leaves the other machine as it is. -/
theorem step_hidden {a : Action Choice Input Env} (fit : Fitting fits good m a)
    (secret : visible hidden a = false) (taken : step sys m a = some next) :
    Similar hidden view shows hides next m' := by
  cases a with
  | start process input =>
    have secret : hidden process = true := by simpa [visible] using secret
    obtain ⟨-,world,arrived,rfl⟩ := step_start taken
    obtain ⟨look,own⟩ := erasable.enters process input _ _ _ secret fit.2 similar.world arrived
    exact similar_hidden similar secret look (by rintro p ⟨⟩; exact own)
  | advance process choice =>
    have secret : hidden process = true := by simpa [visible] using secret
    obtain ⟨command,resume,world,answer,at_,handled,rfl⟩ := step_advance taken
    obtain ⟨look,own⟩ := erasable.sneaks process command resume choice _ _ _ answer secret fit
      (similar.hides process _ secret at_) similar.world handled
    exact similar_hidden similar secret look (by rintro p ⟨⟩; exact own)
  | crash process =>
    have secret : hidden process = true := by simpa [visible] using secret
    obtain ⟨-,rfl⟩ := step_crash taken
    exact similar_hidden similar secret similar.world (by rintro _ ⟨⟩)
  | environment event => cases secret

/-- A step that is shown can be taken by the other machine, too. -/
theorem step_shown {a : Action Choice Input Env} (fit : Fitting fits good m a)
    (shown : visible hidden a = true) (taken : step sys m a = some next) :
    ∃ next', step sys m' a = some next' ∧ Similar hidden view shows hides next next' := by
  cases a with
  | start process input =>
    have shown : hidden process = false := by simpa [visible] using shown
    obtain ⟨unused,world,arrived,rfl⟩ := step_start taken
    obtain ⟨⟨world',arrived',look⟩,own⟩ := erasable.starts process input _ _ _ shown fit.2 similar.world arrived
    refine ⟨_,?_,similar_shown similar shown look (by rintro p ⟨⟩; exact own)⟩
    simp only [step,similar.shown process shown,unused,arrived',Option.map_some]
  | advance process choice =>
    have shown : hidden process = false := by simpa [visible] using shown
    obtain ⟨command,resume,world,answer,at_,handled,rfl⟩ := step_advance taken
    obtain ⟨⟨world',handled',look⟩,own⟩ := erasable.advances process command resume choice _ _ _ answer shown
      (similar.shows process _ shown at_) similar.world handled
    refine ⟨_,?_,similar_shown similar shown look (by rintro p ⟨⟩; exact own)⟩
    simp only [step,similar.shown process shown,at_,handled',Option.map_some]
  | crash process =>
    have shown : hidden process = false := by simpa [visible] using shown
    obtain ⟨⟨p,live⟩,rfl⟩ := step_crash taken
    refine ⟨_,?_,similar_shown similar shown similar.world (by rintro _ ⟨⟩)⟩
    simp only [step,similar.shown process shown,live]
  | environment event =>
    obtain ⟨world,moved,rfl⟩ := step_environment taken
    obtain ⟨world',moved',look⟩ := erasable.moves event _ _ _ similar.world moved
    refine ⟨⟨world',m'.thread⟩,?_,⟨look,similar.shown,similar.shows,similar.hides⟩⟩
    simp only [step,moved',Option.map_some]

theorem erased_run {actions : List (Action Choice Input Env)} {last : Machine Cmd Ret ε α World}
    (fit : Along (step sys) (Fitting fits good) m actions)
    (reached : run (step sys) m actions = some last) :
    ∃ last', run (step sys) m' (actions.filter (visible hidden)) = some last' ∧
      Similar hidden view shows hides last last' := by
  induction actions generalizing m m' with
  | nil =>
    simp only [run,Option.some.injEq] at reached
    exact ⟨m',rfl,reached ▸ similar⟩
  | cons a rest ih =>
    obtain ⟨next,taken,later⟩ := run_cons.mp reached
    cases shown : visible hidden a with
    | false =>
      rw [List.filter_cons_of_neg (by simp [shown])]
      exact ih (step_hidden erasable similar fit.1 shown taken) (fit.2 next taken) later
    | true =>
      rw [List.filter_cons_of_pos shown]
      obtain ⟨next',taken',similar'⟩ := step_shown erasable similar fit.1 shown taken
      obtain ⟨last',reached',similar''⟩ := ih similar' (fit.2 next taken) later
      exact ⟨last',run_cons.mpr ⟨next',taken',reached'⟩,similar''⟩

end
end Ngotag.Erasure
