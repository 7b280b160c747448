import Ngotag.Await

/-!
Loops, and calls that follow one another. `upon` names what holds where a function
returns and where it throws, and the rules of sequence and loop carry it along.
-/
namespace Ngotag.Await

section
variable {Cmd : Type} {Ret : Cmd → Type} {ε ι : Type}

/-- `for (const item of items) { await body(item) }` -/
def forEach (body : ι → Prog Cmd Ret ε Unit) : List ι → Prog Cmd Ret ε Unit
  | [] => .ret ()
  | item :: rest => (body item).bind fun _ => forEach body rest

theorem seq_assoc {β γ δ : Type} (p : Prog Cmd Ret ε β) (f : β → Prog Cmd Ret ε γ) (g : γ → Prog Cmd Ret ε δ) :
    (p >>= f) >>= g = p >>= fun value => f value >>= g := by
  change (p.bind f).bind g = p.bind fun value => (f value).bind g
  induction p with
  | ret value => rfl
  | fail error => rfl
  | await command resume ih => simp only [Prog.bind,ih]
theorem seq_ite {β γ : Type} (test : Prop) [Decidable test] (p q : Prog Cmd Ret ε β) (f : β → Prog Cmd Ret ε γ) :
    (if test then p else q) >>= f = if test then p >>= f else q >>= f := by
  split <;> rfl
theorem only_branches {condition : Cmd → Prop} {β : Type} {p q : Prog Cmd Ret ε β} (test : Prop) [Decidable test]
    (first : test → Only condition p) (second : ¬test → Only condition q) :
    Only condition (if test then p else q) := by
  split
  · exact first ‹_›
  · exact second ‹_›
theorem only_ite {condition : Cmd → Prop} {β : Type} {p q : Prog Cmd Ret ε β} (test : Prop) [Decidable test]
    (first : Only condition p) (second : Only condition q) : Only condition (if test then p else q) :=
  only_branches test (fun _ => first) fun _ => second
theorem only_forEach {condition : Cmd → Prop} {body : ι → Prog Cmd Ret ε Unit}
    (each : ∀ item, Only condition (body item))
    (items : List ι) : Only condition (forEach body items) := by
  induction items with
  | nil => trivial
  | cons item rest ih => exact only_bind (each item) fun _ => ih

variable {α World Choice Input Env : Type} {sys : System Cmd Ret ε α World Choice Input Env}
  {con : Contract Cmd World Choice Env} {process : Nat} {β γ : Type}
/-- The function returns where `done` holds or throws where `failed` does. -/
def upon (done : β → World → Prop) (failed : World → Prop) : Except ε β → World → Prop
  | .ok value => done value
  | .error _ => failed

theorem wp_seq {p : Prog Cmd Ret ε β} {f : β → Prog Cmd Ret ε γ} (done : β → World → Prop) {failed : World → Prop}
    {wanted : γ → World → Prop} {w : World} (first : wp sys con process p (upon done failed) w)
    (second : ∀ value w, done value w → wp sys con process (f value) (upon wanted failed) w) :
    wp sys con process (p >>= f) (upon wanted failed) w := by
  refine (wp_bind _ _ _ _).mpr (wp_mono ?_ first)
  rintro (error | value) w' ended
  · exact ended
  · exact second value w' ended
theorem wp_branches {p q : Prog Cmd Ret ε β} {wanted : Except ε β → World → Prop} {w : World} (test : Prop)
    [Decidable test] (first : test → wp sys con process p wanted w) (second : ¬test → wp sys con process q wanted w) :
    wp sys con process (if test then p else q) wanted w := by
  split
  · exact first ‹_›
  · exact second ‹_›
/-- What holds before each round with the items left holds at the end with none
    left. -/
theorem wp_forEach {body : ι → Prog Cmd Ret ε Unit} (holds : List ι → World → Prop) {failed : World → Prop}
    (round : ∀ item rest w, holds (item :: rest) w →
      wp sys con process (body item) (upon (fun _ => holds rest) failed) w)
    {items : List ι} {w : World} (now : holds items w) :
    wp sys con process (forEach body items) (upon (fun _ => holds []) failed) w := by
  induction items generalizing w with
  | nil => exact now
  | cons item rest ih => exact wp_seq _ (round item rest w now) fun _ w' later => ih later

end

end Ngotag.Await
