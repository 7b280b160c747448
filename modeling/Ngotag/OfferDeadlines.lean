import Ngotag.OfferPermits

/-!
When operations start. Every check of an offer is against one deadline, fixed
when it was called, and the last one is made in the turn that starts the
operation. So an operation starts before the latest time its call allowed
(`InTime`), and an offer that ends with an exception of this code never started
one (`Truthful`).
-/
namespace Ngotag.OfferDeadlines
open Runs Await AdmissionQueue OfferPermits

/-- The end of the wait that a call allows, and of its request's admission if the
    request had dispatched nothing when it was made. -/
def latest (workers : Nat → Coordinator) (seen : Call) : Time :=
  match seen.request with
  | none => seen.time + (workers seen.worker).wait seen.bulk
  | some request =>
    if request.dispatched then seen.time + (workers seen.worker).wait seen.bulk
    else min (seen.time + (workers seen.worker).wait seen.bulk) request.deadline
/-- The dispatch has begun. -/
def Started (process : Nat) (w : World) : Prop := ∃ time, (process,time) ∈ w.started

section
variable (workers : Nat → Coordinator)

/-- Every operation started in the time of its call. -/
def InTime (w : World) : Prop :=
  ∀ process time, (process,time) ∈ w.started → ∃ seen, w.calls process = some seen ∧ time < latest workers seen
/-- What the others keep for an offer: its call and its starts. -/
structure Undisturbed (process : Nat) (a b : World) : Prop where
  calls : b.calls process = a.calls process
  started : Started process b → Started process a
def contract : Contract Cmd World Choice Env where
  inv := InTime workers
  rely := Undisturbed
  idle process w := ¬Started process w
  allowed _ _ _ _ := True
  happens _ _ := True

/-- An offer that ends with an exception of its own never started. -/
def Truthful (process : Nat) (result : Except Error Unit) (w : World) : Prop :=
  ∀ error, result = .error error → error.message.isSome → ¬Started process w
end
variable {workers : Nat → Coordinator} {rounds process : Nat} {a b w : World}

theorem undisturbed_refl : Undisturbed process a a := ⟨rfl,fun started => started⟩
theorem undisturbed_trans {c : World} (first : Undisturbed process a b) (second : Undisturbed process b c) :
    Undisturbed process a c := ⟨second.calls.trans first.calls,fun started => first.started (second.started started)⟩
theorem undisturbed_same (calls : b.calls = a.calls) (started : b.started = a.started) : Undisturbed process a b :=
  ⟨by rw [calls],by rw [Started,started]; exact fun here => here⟩
theorem inTime_same (inTime : InTime workers a) (calls : b.calls = a.calls) (started : b.started = a.started) :
    InTime workers b := by
  simpa only [InTime,calls,started] using inTime
/-- Commands that are neither the call nor the start. -/
def Plain : Cmd → Prop
  | .entered _ => False
  | .dispatch _ _ => False
  | _ => True
theorem handle_plain {c : Cmd} {choice : Choice} {answer : Except Error (Ret c)} (plain : Plain c)
    (handled : handle workers process c choice a = some (b,answer)) : b.calls = a.calls ∧ b.started = a.started := by
  rcases handle_cases handled with rfl | ⟨_,_,rfl,-⟩ | ⟨-,_,_,_,rfl⟩ | ⟨_,-,rfl⟩ | ⟨-,_,rfl⟩ | ⟨_,_,_,rfl,-⟩ | ⟨-,rfl⟩
  case inr.inl | inr.inr.inr.inr.inr.inl => cases plain
  all_goals exact ⟨rfl,rfl⟩
theorem steady_plain {c : Cmd} (plain : Plain c) : Steady (sys workers rounds) (contract workers) c := by
  intro process before choice after answer inv _ handled
  obtain ⟨calls,started⟩ := handle_plain plain handled
  exact ⟨inTime_same inv calls started,fun other => undisturbed_same calls started⟩
/-- The call of the offer has not dispatched it. -/
def Waiting (process : Nat) (seen : Call) (w : World) : Prop :=
  w.calls process = some seen ∧ ¬Started process w

variable {seen : Call}
theorem waiting_stable (a b : World) (waiting : Waiting process seen a) (kept : Undisturbed process a b)
    (_ : InTime workers b) : Waiting process seen b :=
  ⟨kept.calls.trans waiting.1,fun started => waiting.2 (kept.started started)⟩
theorem wp_waiting {β : Type} {p : Async β} (only : Only Plain p) (waiting : Waiting process seen w) :
    wp (sys workers rounds) (contract workers) process p (fun _ w => Waiting process seen w) w :=
  wp_only waiting_stable (only_mono (fun _ plain => steady_plain plain) only) waiting

theorem wp_release {holds : World → Prop}
    (stable : ∀ a b, holds a → Undisturbed process a b → InTime workers b → holds b) {attempt left : Nat}
    (now : holds w) :
    wp (sys workers rounds) (contract workers) process (releaseFrom process attempt left)
      (fun cleaned w => holds w ∧ ∀ error, cleaned = .error error → error = .redis) w := by
  have once : ∀ a, holds a → wp (sys workers rounds) (contract workers) process
      (do let _ ← eval (.release process))
      (fun cleaned w => holds w ∧ ∀ error, cleaned = .error error → error = .redis) a := by
    intro a held
    refine (wp_bind _ _ _ _).mpr ((wp_bind _ _ _ _).mpr ?_)
    apply wp_perform
    intro b relied inv choice c answer _ handled
    cases handled
    have sending : holds (b.send process (.release process)) :=
      stable _ _ (stable _ _ held relied inv) (undisturbed_same rfl rfl) (inTime_same inv rfl rfl)
    refine ⟨inTime_same inv rfl rfl,fun _ _ => undisturbed_same rfl rfl,?_⟩
    apply wp_perform
    intro d later inv' choice e answer _ handled
    obtain ⟨calls,started⟩ := handle_plain (show Plain .reply from trivial) handled
    have keeping := inTime_same inv' calls started
    have there := stable _ _ (stable _ _ sending later inv') (undisturbed_same calls started) keeping
    refine ⟨keeping,fun _ _ => undisturbed_same calls started,?_⟩
    simp only [handle] at handled
    split at handled
    · split at handled <;> cases handled
      exact ⟨there,by rintro _ ⟨⟩⟩
    · cases handled
      exact ⟨there,fun error same => (Except.error.inj same).symm⟩
    · cases handled
  induction left generalizing attempt w with
  | zero => exact once w now
  | succ left ih =>
    rw [releaseFrom,wp_tryCatch]
    refine wp_mono ?_ (once w now)
    rintro (_ | _) a ⟨held,-⟩
    · refine (wp_bind _ _ _ _).mpr ?_
      apply wp_perform
      intro b relied inv choice c answer _ handled
      cases handled
      exact ⟨inv,fun _ _ => undisturbed_refl,ih (stable _ _ held relied inv)⟩
    · exact ⟨held,by rintro _ ⟨⟩⟩

theorem truthful_stable (result : Except Error Unit) (a b : World) (truthful : Truthful process result a)
    (kept : Undisturbed process a b) (_ : InTime workers b) : Truthful process result b :=
  fun error ends own started => truthful error ends own (kept.started started)
theorem truthful_waiting {result : Except Error Unit} (waiting : Waiting process seen w) :
    Truthful process result w := fun _ _ _ => waiting.2

variable {offer : Offer}
theorem wp_dispatch (waiting : Waiting process seen w) :
    wp (sys workers rounds) (contract workers) process
      (do let _ : Unit ← perform (.dispatch offer (latest workers seen)); perform .operation)
      (Truthful process) w := by
  refine (wp_bind _ _ _ _).mpr ?_
  apply wp_perform
  intro a relied inv choice b answer _ handled
  have still := waiting_stable _ _ waiting relied inv
  simp only [handle] at handled
  split at handled
  · cases handled
    exact ⟨inv,fun _ _ => undisturbed_refl,truthful_waiting still⟩
  · rename_i early
    cases handled
    refine ⟨?_,?_,?_⟩
    · intro other time member
      rcases List.mem_cons.mp member with now | before
      · cases now
        exact ⟨seen,still.1,not_le.mp early⟩
      · exact inv other time before
    · intro other different
      refine ⟨rfl,?_⟩
      rintro ⟨time,member⟩
      rcases List.mem_cons.mp member with now | before
      · cases now; exact absurd rfl different
      · exact ⟨time,before⟩
    · apply wp_perform
      intro c _ inv choice d answer _ handled
      obtain ⟨calls,started⟩ := handle_plain (show Plain .operation from trivial) handled
      refine ⟨inTime_same inv calls started,fun _ _ => undisturbed_same calls started,?_⟩
      rintro error rfl own
      simp only [handle] at handled
      split at handled <;> cases handled
      cases own

theorem wp_runPermitted (waiting : Waiting process seen w) :
    wp (sys workers rounds) (contract workers) process
      (runPermitted (workers offer.worker) offer process (latest workers seen) rounds) (Truthful process) w := by
  rw [runPermitted,wp_bind]
  refine wp_mono ?_ (wp_waiting (acquirePermit_only trivial trivial trivial (fun _ => trivial) trivial) waiting)
  rintro (_ | _) a waiting
  · exact truthful_waiting waiting
  rw [wp_bind]
  refine wp_mono ?_ (wp_waiting (checkWaiting_only trivial) waiting)
  rintro (_ | _) b waiting
  · exact truthful_waiting waiting
  rw [wp_bind]
  refine wp_mono ?_ (wp_waiting (eval_only trivial trivial) waiting)
  rintro (_ | result) c waiting
  · exact truthful_waiting waiting
  by_cases one : result = 1
  · rw [one]
    exact wp_dispatch waiting
  · simp only [ne_eq,one,not_false_eq_true]
    exact truthful_waiting waiting

theorem wp_acquireAndRun (waiting : Waiting process seen w) :
    wp (sys workers rounds) (contract workers) process
      (acquireAndRun (workers offer.worker) offer process (latest workers seen) rounds) (Truthful process) w := by
  rw [acquireAndRun,wp_ensure]
  refine wp_mono ?_ (wp_runPermitted waiting)
  intro result a truthful
  refine wp_mono ?_ (wp_release (truthful_stable result) truthful)
  rintro (_ | _) b ⟨truthful,foreign⟩
  · rintro error same own
    rw [← Except.error.inj same,foreign _ rfl] at own
    cases own
  · exact truthful

theorem wp_offer (unstarted : ¬Started process w) :
    wp (sys workers rounds) (contract workers) process (withPermit (workers offer.worker) offer process rounds)
      (Truthful process) w := by
  refine (wp_bind _ _ _ _).mpr ?_
  apply wp_perform
  intro a relied inv choice b answer _ handled
  have still : ¬Started process a := fun started => unstarted (relied.started started)
  cases handled
  refine ⟨?_,fun other different => ⟨Function.update_of_ne different _ _,fun started => started⟩,?_⟩
  · intro other time member
    have different : other ≠ process := fun same => still ⟨time,same ▸ member⟩
    obtain ⟨seen,called,early⟩ := inv other time member
    exact ⟨seen,by simpa [Function.update_of_ne different] using called,early⟩
  generalize seenAt : (⟨offer.worker,a.clock offer.worker,offer.bulk.isSome,offer.request.bind a.requests⟩ : Call) = seen
  have waiting : Waiting process seen { a with calls := Function.update a.calls process (some seen) } :=
    ⟨Function.update_self _ _ _,still⟩
  have fixed : (workers offer.worker).deadline seen = latest workers seen := by
    have worker : seen.worker = offer.worker := by rw [← seenAt]
    rw [latest,worker,Coordinator.deadline,Call.admissionDeadline]
    cases seen.request with
    | none => rfl
    | some request => cases sent : request.dispatched <;> simp [sent]
  dsimp only
  rw [fixed]
  refine (wp_bind _ _ _ _).mpr (wp_mono ?_ (wp_waiting (queueAcquire_only trivial trivial) waiting))
  rintro (_ | _) b waiting
  · exact truthful_waiting waiting
  refine (wp_ensure _ _ _ _).mpr (wp_mono ?_ (?_ : wp _ _ _ _ (Truthful process) b))
  · intro result c truthful
    apply wp_perform
    intro d relied inv choice e answer _ handled
    cases handled
    exact ⟨inTime_same inv rfl rfl,fun _ _ => undisturbed_same rfl rfl,
      truthful_stable result _ _ (truthful_stable result _ _ truthful relied inv) (undisturbed_same rfl rfl)
        (inTime_same inv rfl rfl)⟩
  · refine (wp_bind _ _ _ _).mpr (wp_mono ?_ (wp_waiting (checkWaiting_only trivial) waiting))
    rintro (_ | _) c waiting
    · exact truthful_waiting waiting
    · exact wp_acquireAndRun waiting

theorem keeps : Keeps (sys workers rounds) (contract workers) Truthful where
  reflexive _ _ := undisturbed_refl
  transitive _ _ _ _ := undisturbed_trans
  stable _ := truthful_stable
  idles _ _ _ idle kept _ := fun started => idle (kept.started started)
  arrives process offer a b inv idle arrived := by
    obtain rfl := @arrive_same process offer _ _ arrived
    exact ⟨inv,fun _ _ => undisturbed_refl,wp_offer idle⟩
  moves event a b inv _ happened := by
    have same : b.calls = a.calls ∧ b.started = a.started := by
      cases event with
      | execute process place time =>
        obtain ⟨script,-,rfl⟩ := Option.map_eq_some_iff.mp happened
        exact ⟨rfl,rfl⟩
      | timer worker process => cases happened; exact ⟨rfl,rfl⟩
      | interactive worker request deadline read later =>
        simp only [sys,environment] at happened
        split at happened
        · cases happened
        split at happened <;> cases happened <;> exact ⟨rfl,rfl⟩
      | clock worker time => cases happened; exact ⟨rfl,rfl⟩
    exact ⟨inTime_same inv same.1 same.2,fun _ => undisturbed_same same.1 same.2⟩

variable {actions : List (Action Choice Offer Env)} {m : Machine Cmd Ret Error Unit World}
theorem reachable_safe (reached : run (step (sys workers rounds)) (Machine.initial World.empty) actions = some m) :
    Safe (sys workers rounds) (contract workers) Truthful m := by
  refine run_safe keeps (safe_initial (by rintro _ _ ⟨⟩) fun _ => by rintro ⟨_,⟨⟩⟩) ?_ reached
  exact along_of_forall fun _ _ _ => considered_free (fun _ _ _ _ => trivial) fun _ _ => trivial

end Ngotag.OfferDeadlines
