import Ngotag.OfferPermits

/-!
How many offers run at once. A permit that Redis acknowledged as activated stays
in use until its owner sends a release, whatever else is executed, late or
twice; an operation starts only after that acknowledgement and its release is
sent only after it ended. So in every run the operations in progress are no more
than the capacity that the hash names (`offer_cap`).
-/
namespace Ngotag.PermitCap
open Runs Await AdmissionQueue PermitScripts OfferPermits

/-- Redis acknowledged the activation of the offer's permit. -/
def Acknowledged (process : Nat) (w : World) : Prop :=
  ∃ place, (w.sent process)[place]? = some (.activate process) ∧ (process,place,1) ∈ w.replies
/-- The offer has not sent its release. -/
def Unreleased (process : Nat) (w : World) : Prop := .release process ∉ w.sent process
/-- Offers send their own scripts; permits that were activated and not given back
    are in use, and so are those of the operations in progress. -/
structure Capped (w : World) : Prop where
  sound : Sound w.hash
  own : ∀ process, ∀ script ∈ w.sent process, script.owner = process ∧ script.Positive
  answers : ∀ process place result, (process,place,result) ∈ w.replies → place < (w.sent process).length
  held : ∀ process, Acknowledged process w → Unreleased process w → Active process w.hash
  running : ∀ process ∈ w.running, Acknowledged process w ∧ Unreleased process w
/-- What the others keep for an offer: what it sent, the answers it got and
    whether its operation is in progress. -/
structure Undisturbed (process : Nat) (a b : World) : Prop where
  sent : b.sent process = a.sent process
  replies : a.replies ⊆ b.replies
  running : process ∈ b.running ↔ process ∈ a.running
def contract : Contract Cmd World Choice Env where
  inv := Capped
  rely := Undisturbed
  idle process w := w.sent process = [] ∧ process ∉ w.running
  allowed _ _ _ _ := True
  happens _ _ := True

section
variable {process : Nat} {a b : World}

theorem undisturbed_refl : Undisturbed process a a := ⟨rfl,fun _ member => member,Iff.rfl⟩
theorem undisturbed_trans {c : World} (first : Undisturbed process a b) (second : Undisturbed process b c) :
    Undisturbed process a c :=
  ⟨second.sent.trans first.sent,fun _ member => second.replies (first.replies member),
    second.running.trans first.running⟩
theorem acknowledged_kept (kept : Undisturbed process a b) (acknowledged : Acknowledged process a) :
    Acknowledged process b := by
  obtain ⟨place,sent,answered⟩ := acknowledged
  exact ⟨place,by rw [kept.sent]; exact sent,kept.replies answered⟩
theorem unreleased_kept (kept : Undisturbed process a b) (unreleased : Unreleased process a) :
    Unreleased process b := by
  rw [Unreleased,kept.sent]
  exact unreleased
theorem capped_same (capped : Capped a) (hash : b.hash = a.hash) (sent : b.sent = a.sent)
    (replies : b.replies = a.replies) (running : b.running = a.running) : Capped b := by
  obtain ⟨sound,own,answers,held,inProgress⟩ := capped
  simp only [Acknowledged,Unreleased] at held inProgress
  constructor <;> simpa only [hash,sent,replies,running,Acknowledged,Unreleased]
theorem undisturbed_same (sent : b.sent = a.sent) (replies : b.replies = a.replies) (running : b.running = a.running) :
    Undisturbed process a b := ⟨by rw [sent],by rw [replies]; exact fun _ member => member,by rw [running]⟩

variable {script : Script}
theorem execute_capped {place : Nat} {time : RedisTime} (capped : Capped a)
    (sent : (a.sent process)[place]? = some script) : Capped (a.execute process place script time) := by
  obtain ⟨owned,positive⟩ := capped.own process script (List.mem_of_getElem? sent)
  refine ⟨execute_sound time positive capped.sound,capped.own,?_,?_,?_⟩
  · intro other at_ result answered
    rcases List.mem_cons.mp answered with now | before
    · cases now
      exact (List.getElem?_eq_some_iff.mp sent).1
    · exact capped.answers other at_ result before
  · rintro other ⟨at_,activation,answered⟩ unreleased
    rcases List.mem_cons.mp answered with now | before
    · -- This very execution acknowledges an activation.
      obtain ⟨rfl,rfl,result⟩ : other = process ∧ at_ = place ∧ 1 = (script.execute time a.hash).2 := by
        simpa using now
      have same : script = .activate other := Option.some.inj (sent.symm.trans activation)
      subst same
      exact activate_active time result.symm
    · refine execute_active time ?_ capped.sound (capped.held other ⟨at_,activation,before⟩ unreleased)
      rintro rfl
      have same : other = process := owned
      subst same
      exact unreleased (List.mem_of_getElem? sent)
  · intro other member
    obtain ⟨⟨at_,activation,answered⟩,unreleased⟩ := capped.running other member
    exact ⟨⟨at_,activation,List.mem_cons_of_mem _ answered⟩,unreleased⟩

theorem send_capped (capped : Capped a) (owned : script.owner = process)
    (positive : script.Positive) (idle : script = .release process → process ∉ a.running) :
    Capped (a.send process script) := by
  -- A script that was answered is where it was.
  have found : ∀ other place result, (other,place,result) ∈ a.replies →
      ((a.send process script).sent other)[place]? = (a.sent other)[place]? := by
    intro other place result answered
    obtain ⟨more,whole⟩ := sent_earlier a process script other
    rw [← whole,List.getElem?_append_left (capped.answers other place result answered)]
  refine ⟨capped.sound,?_,?_,?_,?_⟩
  · intro other sent member
    rcases mem_sent.mp member with before | ⟨rfl,rfl⟩
    · exact capped.own other sent before
    · exact ⟨owned,positive⟩
  · exact fun other place result answered =>
      Nat.lt_of_lt_of_le (capped.answers other place result answered) (sent_earlier a process script other).length_le
  · rintro other ⟨place,activation,answered⟩ unreleased
    rw [found other place 1 answered] at activation
    exact capped.held other ⟨place,activation,answered⟩ fun member =>
        unreleased ((sent_earlier a process script other).subset member)
  · intro other member
    obtain ⟨⟨place,activation,answered⟩,unreleased⟩ := capped.running other member
    refine ⟨⟨place,by rw [found other place 1 answered]; exact activation,answered⟩,?_⟩
    intro release
    rcases mem_sent.mp release with before | ⟨rfl,same⟩
    · exact unreleased before
    · exact idle same.symm member

theorem undisturbed_send {other : Nat} (different : other ≠ process) :
    Undisturbed other a (a.send process script) := ⟨sent_of_ne different,fun _ member => member,Iff.rfl⟩
end
section
variable {workers : Nat → Coordinator} {rounds process : Nat} {w : World}

theorem steady_quiet {c : Cmd} (quiet : c.Quiet) : Steady (sys workers rounds) contract c := by
  intro process before choice after answer inv _ handled
  obtain ⟨hash,sent,replies,running,-⟩ := handle_quiet quiet handled
  exact ⟨capped_same inv hash sent replies running,fun other => undisturbed_same sent replies running⟩
/-- The commands of the offer apart from its operation: quiet ones, and its own scripts. -/
def OwnScript (process : Nat) (permitted : Script → Prop) (c : Cmd) : Prop :=
  c.Quiet ∨ ∃ script, c = .send script ∧ script.owner = process ∧ script.Positive ∧ permitted script

theorem own_kept {permitted : Script → Prop} {holds : World → Prop}
    (stable : ∀ a b, holds a → Undisturbed process a b → Capped b → holds b)
    (idle : ∀ a, holds a → process ∉ a.running)
    (sends : ∀ a script, holds a → permitted script → holds (a.send process script))
    {p : Async Unit} (only : Only (OwnScript process permitted) p) (now : holds w) :
    wp (sys workers rounds) contract process p (fun _ w => holds w) w := by
  refine wp_each stable ?_ only now
  intro command own before choice after answer inv held allowed handled
  rcases own with quiet | ⟨script,rfl,owned,positive,permitted⟩
  · obtain ⟨keeps,everyone⟩ := steady_quiet quiet process before choice after answer inv allowed handled
    exact ⟨keeps,fun other _ => everyone other,stable before after held (everyone process) keeps⟩
  · cases handled
    exact ⟨send_capped inv owned positive fun _ => idle before held,
      fun other different => undisturbed_send different,sends before script held permitted⟩

/-- The offer has begun no operation and sent no release. -/
def Before (process : Nat) (w : World) : Prop := Unreleased process w ∧ process ∉ w.running
theorem before_stable (a b : World) (before : Before process a) (kept : Undisturbed process a b) (_ : Capped b) :
    Before process b := ⟨unreleased_kept kept before.1,fun member => before.2 (kept.running.mp member)⟩
theorem before_send (a : World) (script : Script) (before : Before process a) (other : script ≠ .release process) :
    Before process (a.send process script) := by
  refine ⟨?_,before.2⟩
  intro member
  rcases mem_sent.mp member with member | ⟨-,same⟩
  · exact before.1 member
  · exact other same.symm
theorem wp_before {p : Async Unit} (only : Only (OwnScript process (· ≠ .release process)) p)
    (before : Before process w) :
    wp (sys workers rounds) contract process p (fun _ w => Before process w) w :=
  own_kept before_stable (fun _ before => before.2) before_send only before
theorem wp_after {p : Async Unit} (only : Only (OwnScript process fun _ => True) p) (idle : process ∉ w.running) :
    wp (sys workers rounds) contract process p (fun _ w => process ∉ w.running) w :=
  own_kept (fun _ _ idle kept _ member => idle (kept.running.mp member)) (fun _ idle => idle)
    (fun _ _ idle _ => idle) only idle

theorem wp_activate (before : Before process w) :
    wp (sys workers rounds) contract process (eval (.activate process))
      (fun result w => Before process w ∧ (result = .ok 1 → Acknowledged process w)) w := by
  refine (wp_bind _ _ _ _).mpr ?_
  apply wp_perform
  intro a relied inv choice b answer _ handled
  cases handled
  have still := before_stable _ _ before relied inv
  refine ⟨send_capped inv rfl trivial (by rintro ⟨⟩),fun other different => undisturbed_send different,?_⟩
  have waiting := before_send a (.activate process) still (by rintro ⟨⟩)
  apply wp_perform
  intro c later inv choice d answer _ handled
  obtain ⟨hash,sent,replies,running,-⟩ := handle_quiet (show Cmd.Quiet .reply from trivial) handled
  have before := before_stable _ _ waiting later inv
  refine ⟨capped_same inv hash sent replies running,fun other _ => undisturbed_same sent replies running,
    before_stable _ _ before (undisturbed_same sent replies running) (capped_same inv hash sent replies running),?_⟩
  rintro rfl
  obtain ⟨rfl,answered⟩ := handle_reply handled
  have last : d.sent process = a.sent process ++ [.activate process] := later.sent.trans sent_self
  refine ⟨(d.sent process).length - 1,?_,answered⟩
  rw [last]
  simp

variable {offer : Offer} {deadline : Time}
theorem wp_dispatch (before : Before process w) (acknowledged : Acknowledged process w) :
    wp (sys workers rounds) contract process
      (do let _ : Unit ← perform (.dispatch offer deadline); perform .operation)
      (fun _ w => process ∉ w.running) w := by
  refine (wp_bind _ _ _ _).mpr ?_
  apply wp_perform
  intro a relied inv choice b answer _ handled
  have still := before_stable _ _ before relied inv
  have permit := acknowledged_kept relied acknowledged
  simp only [handle] at handled
  split at handled
  · cases handled
    exact ⟨inv,fun _ _ => undisturbed_refl,still.2⟩
  · cases handled
    refine ⟨⟨inv.sound,inv.own,inv.answers,inv.held,?_⟩,?_,?_⟩
    · intro other member
      rcases Finset.mem_insert.mp member with rfl | member
      · exact ⟨permit,still.1⟩
      · exact inv.running other member
    · exact fun other different => ⟨rfl,fun _ member => member,by simp [different]⟩
    · apply wp_perform
      intro c _ inv choice d answer _ handled
      simp only [handle] at handled
      have ended : d = { c with running := c.running.erase process } := by
        split at handled <;> cases handled <;> rfl
      subst ended
      refine ⟨⟨inv.sound,inv.own,inv.answers,inv.held,?_⟩,?_,?_⟩
      · exact fun other member => inv.running other (Finset.mem_of_mem_erase member)
      · exact fun other different => ⟨rfl,fun _ member => member,by simp [different]⟩
      · exact Finset.notMem_erase process c.running

theorem wp_runPermitted (before : Before process w) :
    wp (sys workers rounds) contract process (runPermitted (workers offer.worker) offer process deadline rounds)
      (fun _ w => process ∉ w.running) w := by
  have quietly : ∀ c : Cmd, c.Quiet → OwnScript process (· ≠ .release process) c := fun c quiet => .inl quiet
  rw [runPermitted,wp_bind]
  refine wp_mono ?_ (wp_before (acquirePermit_only (quietly _ trivial)
    (.inr ⟨_,rfl,rfl,(workers offer.worker).capacity.2.1,by rintro ⟨⟩⟩) (quietly _ trivial) (fun _ => quietly _ trivial)
    (quietly _ trivial)) before)
  rintro (_ | _) a before
  · exact before.2
  rw [wp_bind]
  refine wp_mono ?_ (wp_before (checkWaiting_only (quietly _ trivial)) before)
  rintro (_ | _) b before
  · exact before.2
  rw [wp_bind]
  refine wp_mono ?_ (wp_activate before)
  rintro (_ | result) c ⟨before,acknowledged⟩
  · exact before.2
  by_cases one : result = 1
  · rw [one] at acknowledged ⊢
    exact wp_dispatch before (acknowledged rfl)
  · simp only [ne_eq,one,not_false_eq_true]
    exact before.2

theorem wp_acquireAndRun (before : Before process w) :
    wp (sys workers rounds) contract process (acquireAndRun (workers offer.worker) offer process deadline rounds)
      (fun _ _ => True) w := by
  refine wp_finally (wp_runPermitted before) fun result a idle => ?_
  exact wp_mono (fun _ _ _ => trivial) (wp_after (releasePermit_only (.inr ⟨_,rfl,rfl,trivial,trivial⟩) (.inl trivial)
    fun _ => .inl trivial) idle)

theorem wp_offer (before : Before process w) :
    wp (sys workers rounds) contract process (withPermit (workers offer.worker) offer process rounds)
      (fun _ _ => True) w := by
  have quietly : ∀ {β : Type} {p : Async β} {a : World}, Only Cmd.Quiet p → Before process a →
      wp (sys workers rounds) contract process p (fun _ b => Before process b) a := fun only before =>
    wp_only before_stable (only_mono (fun _ quiet => steady_quiet quiet) only) before
  refine (wp_bind _ _ _ _).mpr (wp_mono ?_ (quietly ((only_call _).mpr trivial) before))
  rintro (_ | seen) a before
  · trivial
  refine (wp_bind _ _ _ _).mpr (wp_mono ?_ (quietly (queueAcquire_only trivial trivial) before))
  rintro (_ | _) c before
  · trivial
  refine wp_finally (?_ : wp _ _ _ _ (fun _ _ => True) c) fun _ d _ => ?_
  · refine (wp_bind _ _ _ _).mpr (wp_mono ?_ (quietly (checkWaiting_only trivial) before))
    rintro (_ | _) d before
    · trivial
    · exact wp_acquireAndRun before
  · exact harmless_only ((only_call _).mpr (steady_quiet (show Cmd.Quiet (.leave _) from trivial))) d

theorem keeps : Keeps (sys workers rounds) contract fun _ _ _ => True where
  reflexive _ _ := undisturbed_refl
  transitive _ _ _ _ := undisturbed_trans
  stable _ _ _ _ _ _ _ := trivial
  idles process a b idle kept _ := ⟨kept.sent.trans idle.1,fun member => idle.2 (kept.running.mp member)⟩
  arrives process offer a b inv idle arrived := by
    obtain rfl := @arrive_same process offer _ _ arrived
    refine ⟨inv,fun _ _ => undisturbed_refl,wp_offer ⟨?_,idle.2⟩⟩
    rw [Unreleased,idle.1]
    exact List.not_mem_nil
  moves event a b inv _ happened := by
    cases event with
    | execute process place time =>
      obtain ⟨script,sent,rfl⟩ := Option.map_eq_some_iff.mp happened
      exact ⟨execute_capped inv sent,fun other => ⟨rfl,fun _ member => List.mem_cons_of_mem _ member,Iff.rfl⟩⟩
    | timer worker process =>
      cases happened
      exact ⟨capped_same inv rfl rfl rfl rfl,fun _ => undisturbed_same rfl rfl rfl⟩
    | interactive worker request deadline read later =>
      simp only [sys,environment] at happened
      split at happened
      · cases happened
      split at happened <;> cases happened
      · exact ⟨inv,fun _ => undisturbed_refl⟩
      · exact ⟨capped_same inv rfl rfl rfl rfl,fun _ => undisturbed_same rfl rfl rfl⟩
    | clock worker time =>
      cases happened
      exact ⟨capped_same inv rfl rfl rfl rfl,fun _ => undisturbed_same rfl rfl rfl⟩

theorem capped_empty : Capped World.empty where
  sound := sound_empty
  own _ _ member := by cases member
  answers _ _ _ member := by cases member
  held _ acknowledged _ := by
    obtain ⟨_,sent,_⟩ := acknowledged
    cases sent
  running _ member := by cases member

end

/-- In every run, whatever the workers' settings and whenever and however often
    Redis executes what was sent: the operations in progress are no more than
    the capacity in the hash, the permit of each is in use, and a hash that is
    not empty has its capacity and an owner, and no more owners than that. -/
theorem offer_cap (workers : Nat → Coordinator) (rounds : Nat) {actions : List (Action Choice Offer Env)}
    {m : Machine Cmd Ret Error Unit World}
    (reached : run (step (sys workers rounds)) (Machine.initial World.empty) actions = some m) :
    (m.world.running = ∅ ∨
      ∃ c, m.world.hash.lookup .capacity = some (.number c) ∧ m.world.running.card ≤ c) ∧
    (∀ process ∈ m.world.running, ∃ since, m.world.hash.lookup (.owner process) = some (.active since)) ∧
    (m.world.hash ≠ ∅ → ∃ c, m.world.hash.lookup .capacity = some (.number c) ∧
      1 ≤ (owners m.world.hash).length ∧ (owners m.world.hash).length ≤ c) := by
  have safe : Safe (sys workers rounds) contract (fun _ _ _ => True) m := by
    refine run_safe keeps (safe_initial capped_empty fun _ => ⟨rfl,Finset.notMem_empty _⟩) ?_ reached
    exact along_of_forall fun _ _ _ => considered_free (fun _ _ _ _ => trivial) fun _ _ => trivial
  have active : ∀ process ∈ m.world.running, Active process m.world.hash := by
    intro process member
    obtain ⟨acknowledged,unreleased⟩ := safe.inv.running process member
    exact safe.inv.held process acknowledged unreleased
  refine ⟨actives_le safe.inv.sound active,active,?_⟩
  intro filled
  rcases safe.inv.sound with empty | named
  · exact absurd empty filled
  · exact named

/-- Two workers, one for one offer at a time and one for two. -/
def mixed : Nat → Coordinator
  | 0 => { Coordinator.standard with capacity := ⟨1,by decide⟩ }
  | _ => { Coordinator.standard with capacity := ⟨2,by decide⟩ }
/-- The offer 0 runs; its reservation was executed again after its activation, and
    the offer 1 of the other worker is refused. -/
def overlapping : List (Action Choice Offer Env) :=
  [[.start 0 ⟨0,none,none⟩,.start 1 ⟨1,none,none⟩],List.replicate 5 (.advance 0 .resolves),
    [.environment (.execute 0 0 ⟨100,0⟩),.advance 0 (.answers 1)],List.replicate 2 (.advance 0 .resolves),
    [.environment (.execute 0 1 ⟨101,0⟩),.environment (.execute 0 0 ⟨200,0⟩),.advance 0 (.answers 1)],
    [.advance 0 .resolves],List.replicate 5 (.advance 1 .resolves),
    [.environment (.execute 1 0 ⟨300,0⟩),.advance 1 (.answers (-1))]].flatten

theorem offer_cap_mixed :
    ∃ m, run (step (sys mixed 3)) (Machine.initial World.empty) overlapping = some m ∧ m.world.running = {0} ∧
      ∃ c, m.world.hash.lookup .capacity = some (.number c) ∧ m.world.running.card ≤ c := by
  have runs : ((run (step (sys mixed 3)) (Machine.initial World.empty) overlapping).map fun m => m.world.running) =
      some {0} := by decide +kernel
  obtain ⟨m,reached,running⟩ := Option.map_eq_some_iff.mp runs
  refine ⟨m,reached,running,?_⟩
  rcases (offer_cap mixed 3 reached).1 with none | some
  · rw [running] at none; exact absurd none (by decide)
  · exact some

end Ngotag.PermitCap
