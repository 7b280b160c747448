import Ngotag.BuyerAccess

/-!
Activations and what becomes of them. Once Microsoft has accepted an activation
its subscription should be activated here, and stay so. A call that fails after the
acceptance, or is repeated, first puts the subscription back; where every such
call runs through, the activation is never lost (`activation_kept`), and where it
does not, it can be (`fee_failed_after_acceptance`).
-/
namespace Ngotag.Activations
open Runs Await Marketplace Onboarding BuyerAccess
open JsObject (truthy)

/-- The publisher's activation of the subscription was accepted. -/
def Accepted (w : World) (s : Nat) : Prop := ∃ process, .accepted process s ∈ w.log
/-- What an accepted activation must not fall back to. -/
def Regressed (status : ActivationStatus) : Prop := status = .failed ∨ status = .inProgress
/-- No subscription whose activation was accepted is back at an earlier status. -/
def Settled (w : World) : Prop :=
  ∀ s row, Accepted w s → w.subscriptions.lookup s = some row → ¬Regressed row.activationStatus
/-- What `marketplace_subscription_active_org_unique` enforces. -/
def Indexed (w : World) : Prop :=
  ∀ s s' row row' orgId, w.subscriptions.lookup s = some row → w.subscriptions.lookup s' = some row' →
    occupies orgId row = true → occupies orgId row' = true → s = s'
inductive Act where
  | call (process : Nat) (input : Input) (choices : List Choice)
  | environment (event : Env)
def act (cfg : Config) (w : World) : Act → Option World
  | .call process input choices => cut (handle process) (program cfg input) choices w
  | .environment event => (sys cfg).environment event w
/-- The call gets past its checks, and its subscription is not yet subscribed. -/
def Proceeds (w : World) (message : Activate) (session : Session × Subscription) : Prop :=
  sessionRow w message.sessionId = some session ∧ ¬session.1.expiresAt < w.now ∧
    session.2.localUserId = some message.userId ∧ session.2.orgId = some message.orgId ∧
    session.2.saasSubscriptionStatus ≠ .subscribed
def Fine (choices : List Choice) (i : Nat) : Prop := ∀ choice, choices[i]? = some choice → choice.fault = .none
/-- The status `in_progress` is written. -/
def Begins (choices : List Choice) : Prop :=
  ∃ choice, choices[1]? = some choice ∧ (choice.fault = .none ∨ choice.fault = .unknown)
/-- The calls to the publisher after the first are answered. -/
def Returns (choices : List Choice) : Prop :=
  (∃ choice, choices[1]? = some choice ∧ choice.fault = .none) ∧
    ∃ choice, choices[2]? = some choice ∧ choice.fault = .none
/-- The call writes `activated`, and nothing fails up to the setup fee. -/
def Completes (choices : List Choice) : Prop :=
  4 ≤ choices.length ∧ Fine choices 1 ∧ Fine choices 2 ∧ Fine choices 3 ∧ Fine choices 4 ∧ Fine choices 5
/-- An activation that Microsoft accepts now, or accepted before, runs through. -/
def RunsThrough (cfg : Config) (w : World) : Act → Prop
  | .call _ (.activateSubscription message) choices => ∀ session, Proceeds w message session → Begins choices →
      Accepted w session.1.subscription ∨ (cfg.localMock = false ∧ Returns choices) → Completes choices
  | _ => True

section
variable {w after : World} {process : Nat} {choice : Choice}

theorem free_of_indexed {s : Nat} {old row : Subscription} (indexed : Indexed w)
    (found : w.subscriptions.lookup s = some old)
    (same : ∀ orgId, occupies orgId row = occupies orgId old) : collides w.subscriptions s row = false := by
  refine Bool.eq_false_iff.mpr fun clash => ?_
  obtain ⟨entry,member,both⟩ := List.any_eq_true.mp clash
  simp only [Bool.and_eq_true,decide_eq_true_eq] at both
  obtain ⟨different,occupied⟩ := both
  obtain ⟨orgId,-,occupied⟩ := (Option.any_eq_true _ _).mp occupied
  rw [Bool.and_eq_true,same] at occupied
  exact different (indexed entry.1 s entry.2 old orgId (AList.mem_lookup_iff.mpr member) found occupied.2 occupied.1)

variable {c : Cmd}
theorem lookup_stored {id s : Nat} {row found : Subscription}
    (known : (storedRow process c id row w).subscriptions.lookup s = some found) :
    (s = id ∧ found = row) ∨ (s ≠ id ∧ w.subscriptions.lookup s = some found) := by
  change (w.subscriptions.insert id row).lookup s = some found at known
  by_cases same : s = id
  · subst same
    rw [AList.lookup_insert,Option.some.injEq] at known
    exact .inl ⟨rfl,known.symm⟩
  · rw [AList.lookup_insert_ne same] at known
    exact .inr ⟨same,known⟩

theorem indexed_handle {answer : Except Failure (Ret c)} (indexed : Indexed w)
    (handled : handle process c choice w = some (after,answer)) : Indexed after := by
  cases writes_ : rowWrite w c with
  | none =>
    have same := (handle_elsewhere writes_ handled).subscriptions
    intro s s' row row' orgId
    rw [same]
    exact indexed s s' row row' orgId
  | some stored =>
    obtain ⟨id,row⟩ := stored
    rcases handle_row writes_ handled with ⟨⟨-,free⟩,rfl⟩ | ⟨-,rfl⟩
    swap
    · exact indexed
    intro s s' found found' orgId known known' first second
    rcases lookup_stored known with ⟨rfl,rfl⟩ | ⟨different,old⟩
    · rcases lookup_stored known' with ⟨rfl,rfl⟩ | ⟨different',old'⟩
      · rfl
      · rw [collides_false free old' different' first] at second
        cases second
    · rcases lookup_stored known' with ⟨rfl,rfl⟩ | ⟨different',old'⟩
      · rw [collides_false free old different second] at first
        cases first
      · exact indexed s s' found found' orgId old old' first second

/-- Those of the subscriptions that Microsoft has accepted are as they should be. -/
structure SettledOn (those : Nat → Prop) (w : World) : Prop where
  indexed : Indexed w
  status : ∀ s row, those s → Accepted w s → w.subscriptions.lookup s = some row → ¬Regressed row.activationStatus
/-- The command does not touch the activation of those, or completes it. -/
def Gentle (those : Nat → Prop) : Cmd → Prop
  | .setActivationStatus s status => those s → ¬Regressed status
  | .activate s _ => ¬those s
  | _ => True

theorem activation_of_row {id : Nat} {row : Subscription} (writes_ : rowWrite w c = some (id,row)) :
    c = .setActivationStatus id row.activationStatus ∨
    (∃ old, w.subscriptions.lookup id = some old ∧ row.activationStatus = old.activationStatus) ∨
    row.activationStatus = .notStarted := by
  cases c with
  | setActivationStatus s status =>
    obtain ⟨old,found,same⟩ := Option.map_eq_some_iff.mp writes_
    cases same
    exact .inl rfl
  | linkUser | linkOrganization | setSubscriptionStatus | setSubscriptionPlanId | updateSubscriptionFromMicrosoft =>
    obtain ⟨old,found,same⟩ := Option.map_eq_some_iff.mp writes_
    cases same
    exact .inr (.inl ⟨old,found,rfl⟩)
  | upsertResolvedSubscription resolved =>
    cases writes_
    cases found : w.subscriptions.lookup resolved.id with
    | none => exact .inr (.inr rfl)
    | some old => exact .inr (.inl ⟨old,rfl,rfl⟩)
  | _ => cases writes_

theorem accepted_stored {id s : Nat} {row : Subscription} :
    Accepted (storedRow process c id row w) s ↔ Accepted w s := by
  constructor
  · rintro ⟨p,did⟩
    rcases List.mem_append.mp did with recent | old
    · cases c with
      | linkUser | linkOrganization | setActivationStatus | setSubscriptionStatus =>
        cases List.mem_singleton.mp recent
      | _ => cases recent
    · exact ⟨p,old⟩
  · rintro ⟨p,did⟩
    exact ⟨p,List.mem_append_right _ did⟩

theorem accepted_handle {answer : Except Failure (Ret c)} {s : Nat}
    (handled : handle process c choice w = some (after,answer)) (accepted : Accepted after s) :
    Accepted w s ∨ ∃ planId, c = .activate s planId := by
  cases writes_ : rowWrite w c with
  | none =>
    obtain ⟨new_,log,beside⟩ := (handle_elsewhere writes_ handled).log
    obtain ⟨p,did⟩ := accepted
    rw [log] at did
    rcases List.mem_append.mp did with recent | old
    · exact .inr (beside _ recent)
    · exact .inl ⟨p,old⟩
  | some stored =>
    obtain ⟨id,row⟩ := stored
    rcases handle_row writes_ handled with ⟨-,rfl⟩ | ⟨-,rfl⟩
    · exact .inl (accepted_stored.mp accepted)
    · exact .inl accepted

theorem settledOn_handle {those : Nat → Prop} {answer : Except Failure (Ret c)} (gentle : Gentle those c)
    (settled : SettledOn those w) (handled : handle process c choice w = some (after,answer)) :
    SettledOn those after := by
  refine ⟨indexed_handle settled.indexed handled,fun s row ours accepted known => ?_⟩
  rcases accepted_handle handled accepted with before | ⟨planId,rfl⟩
  swap
  · exact absurd ours gentle
  cases writes_ : rowWrite w c with
  | none =>
    rw [(handle_elsewhere writes_ handled).subscriptions] at known
    exact settled.status s row ours before known
  | some stored =>
    obtain ⟨id,new_⟩ := stored
    rcases handle_row writes_ handled with ⟨-,rfl⟩ | ⟨-,rfl⟩
    · rcases lookup_stored known with ⟨rfl,rfl⟩ | ⟨-,old⟩
      · rcases activation_of_row writes_ with rfl | ⟨old,found,same⟩ | fresh
        · exact gentle ours
        · rw [same]
          exact settled.status s old ours before found
        · rw [fresh]
          rintro (wrong | wrong) <;> cases wrong
      · exact settled.status s row ours before old
    · exact settled.status s row ours before known

theorem settledOn_cut {those : Nat → Prop} {β : Type} {p : Async β} {choices : List Choice}
    (only : Only (Gentle those) p) (settled : SettledOn those w) (ran : cut (handle process) p choices w = some after) :
    SettledOn those after :=
  cut_each (fun _ gentle _ _ _ _ holds handled => settledOn_handle gentle holds handled) only settled ran
/-- Nothing but the request to Microsoft makes a subscription an accepted one. -/
theorem accepted_cut {s : Nat} {β : Type} {p : Async β} {choices : List Choice}
    (only : Only (fun c => ∀ planId, c ≠ .activate s planId) p) (ran : cut (handle process) p choices w = some after)
    (not_ : ¬Accepted w s) : ¬Accepted after s := by
  refine cut_each (C := fun c => ∀ planId, c ≠ .activate s planId) (P := fun w => ¬Accepted w s) ?_ only
    not_ ran
  intro c other choice before after answer unknown handled accepted
  rcases accepted_handle handled accepted with known | ⟨planId,same⟩
  · exact unknown known
  · exact other planId same

end
section
variable {those : Nat → Prop}

theorem gentle_free {c : Cmd} (free : Free c) : Gentle those c := by
  cases c with
  | setActivationStatus => exact free.elim
  | activate => exact free.elim
  | _ => trivial
theorem session_only {condition : Cmd → Prop} {sessionId : Nat} (reads_ : condition (.getOnboardingSession sessionId)) :
    Only condition (getValidSession sessionId) := by
  refine only_bind (only_perform reads_) ?_
  rintro ⟨found,time⟩
  cases found with
  | none => trivial
  | some session => exact only_ite _ trivial trivial
theorem linkAndReply_gentle (sessionId subscription orgId : Nat) :
    Only (Gentle those) (linkAndReply sessionId subscription orgId) :=
  only_bind (only_tryCatch (only_perform trivial) fun _ => trivial) fun _ => only_bind (only_perform trivial)
      fun _ => trivial
theorem linkAccount_gentle (cfg : Config) (message : LinkAccount) : Only (Gentle those) (linkAccount cfg message) := by
  refine only_bind (session_only trivial) fun session => only_ite _ trivial (only_ite _ trivial ?_)
  exact only_bind (only_perform trivial) fun _ => only_bind (only_perform trivial) fun _ => trivial

theorem linkOrganization_gentle (message : LinkOrganization) : Only (Gentle those) (linkOrganization message) := by
  refine only_bind (session_only trivial) fun session => only_bind (only_ite _ trivial trivial) fun _ => ?_
  cases mode : message.mode with
  | linkExisting =>
    dsimp only
    rw [linkExisting]
    cases given : message.orgId with
    | none => trivial
    | some orgId =>
      refine only_bind ?_ fun _ => only_bind (only_perform trivial) fun active => ?_
      · refine only_bind (only_tryCatch (only_perform trivial) fun _ => trivial) fun users => ?_
        exact only_ite _ trivial trivial
      · cases active with
        | some other => trivial
        | none => exact linkAndReply_gentle _ _ _
  | create =>
    dsimp only
    rw [linkCreated]
    cases given : truthy message.name with
    | none => trivial
    | some name => exact only_bind (only_perform trivial) fun orgId => linkAndReply_gentle _ _ _

theorem activated_fine : ¬Regressed .activated := by rintro (wrong | wrong) <;> cases wrong
theorem reconcile_gentle (cfg : Config) : Only (Gentle those) (reconcileSubscriptions cfg) := by
  refine only_ite _ (only_bind (only_perform trivial) fun listed => only_bind (only_forEach (fun resolved => ?_) _)
    fun _ => trivial) trivial
  refine only_bind (only_perform trivial) fun existing => ?_
  cases existing with
  | none => exact only_bind (only_perform trivial) fun _ => trivial
  | some row =>
    exact only_bind (only_perform trivial) fun updated => only_ite _ (only_perform fun _ => activated_fine) trivial

theorem program_gentle (cfg : Config) {input : Input} (other : ∀ message, input ≠ .activateSubscription message) :
    Only (Gentle those) (program cfg input) := by
  cases input with
  | resolveSubscription token => exact only_mono (fun _ => gentle_free) (resolveSubscription_free token)
  | linkAccount message => exact linkAccount_gentle cfg message
  | linkOrganization message => exact linkOrganization_gentle message
  | activateSubscription message => exact absurd rfl (other message)
  | refreshSubscription subscription =>
    exact only_bind (only_perform trivial) fun _ => only_bind (only_perform trivial) fun _ => trivial
  | processWebhook payload => exact only_mono (fun _ => gentle_free) (processWebhook_free payload)
  | reconcileSubscriptions => exact reconcile_gentle cfg

theorem recordActivation_gentle (sessionId subscription orgId : Nat) :
    Only (Gentle those) (recordActivation sessionId subscription orgId) :=
  only_bind (only_perform fun _ => activated_fine) fun _ => only_bind (only_perform trivial) fun _ =>
      only_perform trivial
theorem refreshTerm_gentle (session : Session × Subscription) : Only (Gentle those) (refreshTerm session) :=
  only_tryCatch (only_bind (only_perform trivial) fun _ => only_bind (only_perform trivial) fun _ => trivial)
    fun _ => trivial
theorem tryActivation_gentle (cfg : Config) (message : Activate) (session : Session × Subscription)
    (not_ours : ¬those session.1.subscription) :
    Only (Gentle those) (Prog.tryCatch (tryActivation cfg message session)
      (activationFailed message session.1.subscription)) := by
  refine only_tryCatch (only_ite _ ?_ ?_) fun error => ?_
  · exact only_bind (only_perform trivial) fun _ => only_bind (recordActivation_gentle _ _ _) fun _ => trivial
  · exact only_bind (only_perform not_ours) fun _ => only_bind (recordActivation_gentle _ _ _) fun _ =>
      only_bind (refreshTerm_gentle session) fun _ => trivial
  · exact only_bind (only_perform fun ours => absurd ours not_ours) fun _ => only_bind (only_perform trivial)
      fun _ => trivial

theorem tryActivation_eq {cfg : Config} (remote : cfg.localMock = false) (message : Activate)
    (session : Session × Subscription) :
    tryActivation cfg message session = perform (.activate session.1.subscription session.2.planId) >>= fun _ =>
      perform (.setActivationStatus session.1.subscription .activated) >>= fun _ =>
      perform (.updateOnboardingSession message.sessionId .activated none) >>= fun _ =>
      perform (.recordBillingUsageEvent session.1.subscription message.orgId) >>= fun _ =>
      refreshTerm session >>= fun latest => pure (.activated session.1.subscription message.orgId latest) := by
  rw [tryActivation,remote,if_neg Bool.false_ne_true,recordActivation]
  refine congrArg _ (funext fun _ => ?_)
  refine (seq_assoc _ _ _).trans (congrArg _ (funext fun _ => ?_))
  exact seq_assoc _ _ _

section
variable {w after : World} {process : Nat} {choice : Choice} {message : Activate} {session : Session × Subscription}
  {handler : Failure → Async Reply} {rest : List Choice}

theorem writes_fine {β : Type} {value : β} {answer : Except Failure β} {target : World} (fine : choice.fault = .none)
    (wrote : writes choice w target value = some (after,answer)) : after = target ∧ answer = .ok value := by
  rw [writes,fine] at wrote
  cases wrote
  exact ⟨rfl,rfl⟩
theorem refreshTerm_quiet (session : Session × Subscription) : Quiet (refreshTerm session) :=
  quiet_tryCatch fun _ => trivial

variable {known : Session}
theorem recorded_settled {those : Nat → Prop} (settled : SettledOn those w)
    (found : w.sessions.lookup message.sessionId = some known) (fourth : Fine rest 0) (fifth : Fine rest 1)
    (ran : cut (handle process) (Prog.tryCatch
      (perform (.updateOnboardingSession message.sessionId .activated none) >>= fun _ =>
        perform (.recordBillingUsageEvent session.1.subscription message.orgId) >>= fun _ =>
        refreshTerm session >>= fun latest => pure (.activated session.1.subscription message.orgId latest)) handler)
      rest w = some after) : SettledOn those after := by
  rcases cut_try ran with ⟨-,rfl⟩ | ⟨choice,rest,middle,answer,rfl,handled,ends⟩
  · exact settled
  have next := settledOn_handle (c := .updateOnboardingSession _ _ _) trivial settled handled
  simp only [handle,found] at handled
  obtain ⟨-,rfl⟩ := writes_fine (β := Unit) (fourth choice rfl) handled
  rcases ends with ⟨value,-,ran⟩ | ⟨error,⟨⟩,-⟩
  rcases cut_try ran with ⟨-,rfl⟩ | ⟨choice,rest,last,answer,rfl,handled,ends⟩
  · exact next
  have last_ := settledOn_handle (c := .recordBillingUsageEvent _ _) trivial next handled
  obtain ⟨-,rfl⟩ := writes_fine (β := Unit) (fifth choice rfl) handled
  rcases ends with ⟨value,-,ran⟩ | ⟨error,⟨⟩,-⟩
  refine settledOn_cut (only_quiet ?_ ?_) last_ ran
  · exact quiet_bind (refreshTerm_quiet session) fun _ => trivial
  · exact only_bind (refreshTerm_gentle session) fun _ => trivial

theorem completed_settled {cfg : Config} (remote : cfg.localMock = false) {row : Subscription}
    (indexed : Indexed w) (there : w.subscriptions.lookup session.1.subscription = some row)
    (found : w.sessions.lookup message.sessionId = some known) (long : 2 ≤ rest.length)
    (fine : Fine rest 0 ∧ Fine rest 1 ∧ Fine rest 2 ∧ Fine rest 3)
    (ran : cut (handle process) (Prog.tryCatch (tryActivation cfg message session) handler) rest w = some after) :
    SettledOn (fun s => s = session.1.subscription) after := by
  rw [tryActivation_eq remote] at ran
  obtain ⟨second,third,fourth,fifth⟩ := fine
  rcases cut_try ran with ⟨rfl,-⟩ | ⟨choice,rest,middle,answer,rfl,handled,ends⟩
  · exact absurd long (by simp)
  simp only [handle,second choice rfl,if_true] at handled
  cases handled
  rcases ends with ⟨value,-,ran⟩ | ⟨error,⟨⟩,-⟩
  rcases cut_try ran with ⟨rfl,-⟩ | ⟨choice,rest,last,answer,rfl,handled,ends⟩
  · exact absurd long (by simp)
  have indexed' := indexed_handle (w := { w with log := _ :: _ }) indexed handled
  have free : collides w.subscriptions session.1.subscription { row with activationStatus := .activated } = false :=
    free_of_indexed indexed there fun _ => rfl
  simp only [handle,updates,there,stores,free,Bool.false_eq_true,if_false] at handled
  obtain ⟨rfl,rfl⟩ := writes_fine (β := Unit) (third choice rfl) handled
  rcases ends with ⟨value,-,ran⟩ | ⟨error,⟨⟩,-⟩
  refine recorded_settled ⟨indexed',?_⟩ found fourth fifth ran
  rintro s stored rfl - at_
  change (w.subscriptions.insert _ _).lookup _ = _ at at_
  rw [AList.lookup_insert,Option.some.injEq] at at_
  exact at_ ▸ activated_fine

theorem settledOn_all {s : Nat} (others : SettledOn (fun other => other ≠ s) w)
    (own : SettledOn (fun other => other = s) w) :
    SettledOn (fun _ => True) w := by
  refine ⟨own.indexed,fun other row _ accepted known => ?_⟩
  by_cases same : other = s
  · exact own.status other row same accepted known
  · exact others.status other row same accepted known
theorem activationFailed_remote {s : Nat} (error : Failure) (subscription : Nat) :
    Only (fun c => ∀ planId, c ≠ .activate s planId) (activationFailed message subscription error) := by
  refine only_bind (only_perform ?_) fun _ => only_bind (only_perform ?_) fun _ => trivial
  · rintro planId ⟨⟩
  · rintro planId ⟨⟩

theorem not_accepted {cfg : Config} {choice : Choice} (first : Choice) (not_ : ¬Accepted w session.1.subscription)
    (fine : choice.fault = .none) (fails : ¬(cfg.localMock = false ∧ Returns (first :: choice :: rest)))
    (ran : cut (handle process) (Prog.tryCatch (tryActivation cfg message session)
      (activationFailed message session.1.subscription)) rest w = some after) :
    ¬Accepted after session.1.subscription := by
  by_cases mock : cfg.localMock = true
  · refine accepted_cut (only_tryCatch ?_ fun error => activationFailed_remote error _) ran not_
    rw [tryActivation,if_pos mock]
    refine only_bind (only_perform ?_) fun _ => only_bind ?_ fun _ => trivial
    · rintro planId ⟨⟩
    · refine only_bind (only_perform ?_) fun _ => only_bind (only_perform ?_) fun _ => only_perform ?_
      all_goals rintro planId ⟨⟩
  · have remote := Bool.eq_false_iff.mpr mock
    rw [tryActivation_eq remote] at ran
    rcases cut_try ran with ⟨-,rfl⟩ | ⟨second,rest,middle,answer,rfl,handled,ends⟩
    · exact not_
    have failed : second.fault ≠ .none := fun returned =>
      fails ⟨remote,⟨choice,rfl,fine⟩,second,rfl,returned⟩
    simp only [handle,failed,if_false] at handled
    cases handled
    rcases ends with ⟨value,⟨⟩,-⟩ | ⟨error,-,ran⟩
    refine accepted_cut (activationFailed_remote error _) ran ?_
    rintro ⟨p,did⟩
    rcases List.mem_cons.mp did with wrong | old
    · cases wrong
    · exact not_ ⟨p,old⟩

/-- From the `in_progress` on, where the choice before it was `first` and the session
    of the call is the one of `w`. -/
theorem proceeding_settled {cfg : Config} (first : Choice) {choices : List Choice} {row : Subscription}
    (mocked : cfg.localMock = true → ¬Accepted w session.1.subscription) (settled : SettledOn (fun _ => True) w)
    (there : w.subscriptions.lookup session.1.subscription = some row)
    (found : w.sessions.lookup message.sessionId = some known)
    (through : Begins (first :: choices) →
      Accepted w session.1.subscription ∨ (cfg.localMock = false ∧ Returns (first :: choices)) →
        Completes (first :: choices))
    (ran : cut (handle process) (perform (.setActivationStatus session.1.subscription .inProgress) >>= fun _ =>
      Prog.tryCatch (tryActivation cfg message session) (activationFailed message session.1.subscription)) choices w =
        some after) : SettledOn (fun _ => True) after := by
  have others : SettledOn (fun s => s ≠ session.1.subscription) after := by
    refine settledOn_cut ?_ ⟨settled.indexed,fun s row _ => settled.status s row trivial⟩ ran
    exact only_bind (only_perform fun other => absurd rfl other) fun _ =>
      tryActivation_gentle cfg message session (not_not.mpr rfl)
  refine settledOn_all others ⟨others.indexed,?_⟩
  rcases cut_step ran with ⟨-,rfl⟩ | ⟨choice,rest,middle,answer,rfl,handled,ends⟩
  · exact fun s row _ => settled.status s row trivial
  have indexed' := indexed_handle settled.indexed handled
  have same : ∀ s, Accepted middle s → Accepted w s := fun s accepted =>
    (accepted_handle handled accepted).resolve_right (by rintro ⟨_,⟨⟩⟩)
  have free : collides w.subscriptions session.1.subscription { row with activationStatus := .inProgress } = false :=
    free_of_indexed settled.indexed there fun _ => rfl
  simp only [handle,updates,there,stores,free,Bool.false_eq_true,if_false] at handled
  have refused : ¬(Accepted w session.1.subscription ∨
      (cfg.localMock = false ∧ Returns (first :: choice :: rest))) → ¬Accepted after session.1.subscription →
      ∀ s row, s = session.1.subscription → Accepted after s → after.subscriptions.lookup s = some row →
        ¬Regressed row.activationStatus := by
    rintro - unknown s row rfl accepted
    exact absurd accepted unknown
  rcases writes_cases (β := Unit) handled with ⟨rfl,fine,rfl⟩ | ⟨rfl,lost,rfl⟩ | ⟨rfl,-,-,rfl⟩
  · rcases ends with ⟨value,-,ran⟩ | ⟨error,⟨⟩,-⟩
    by_cases accepts : Accepted w session.1.subscription ∨ (cfg.localMock = false ∧ Returns (first :: choice :: rest))
    · obtain ⟨long,-,two,three,four,five⟩ := through ⟨choice,rfl,.inl fine⟩ accepts
      have remote : cfg.localMock = false := by
        rcases accepts with accepted | ⟨remote,-⟩
        · exact Bool.eq_false_iff.mpr fun mock => mocked mock accepted
        · exact remote
      exact (completed_settled remote indexed' (AList.lookup_insert _) found (by simpa using long)
        ⟨two,three,four,five⟩ ran).status
    · have unknown := not_accepted first (fun accepted => accepts (.inl (same _ accepted))) fine
        (fun returned => accepts (.inr returned)) ran
      exact refused accepts unknown
  · -- The status is written, and the exception ends the call.
    rcases ends with ⟨value,⟨⟩,-⟩ | ⟨error,-,rfl⟩
    by_cases accepts : Accepted w session.1.subscription ∨ (cfg.localMock = false ∧ Returns (first :: choice :: rest))
    · have fine := (through ⟨choice,rfl,.inr lost⟩ accepts).2.1 choice rfl
      rw [lost] at fine
      cases fine
    · exact refused accepts fun accepted => accepts (.inl (same _ accepted))
  · rcases ends with ⟨value,⟨⟩,-⟩ | ⟨error,-,rfl⟩
    exact fun s row _ => settled.status s row trivial

end
theorem sessionRow_spec {sessionId : Nat} (found : sessionRow w sessionId = some session) :
    w.sessions.lookup sessionId = some session.1 ∧ w.subscriptions.lookup session.1.subscription = some session.2 := by
  obtain ⟨known,there,rest⟩ := Option.bind_eq_some_iff.mp found
  obtain ⟨row,row_there,rfl⟩ := Option.map_eq_some_iff.mp rest
  exact ⟨there,row_there⟩

def checkedSession (answer : Option (Session × Subscription) × Nat) : Async (Session × Subscription) :=
  match answer.1 with
  | none => throw .sessionMissing
  | some session => if session.1.expiresAt < answer.2 then throw .sessionMissing else pure session
theorem session_seq {β : Type} (sessionId : Nat) (f : Session × Subscription → Async β) :
    getValidSession sessionId >>= f = perform (.getOnboardingSession sessionId) >>=
      fun answer : Option (Session × Subscription) × Nat => checkedSession answer >>= f :=
  seq_assoc _ _ _

theorem activate_settled {cfg : Config} {choices : List Choice} (mocked : cfg.localMock = true → ∀ s, ¬Accepted w s)
    (settled : SettledOn (fun _ => True) w)
    (through : RunsThrough cfg w (.call process (.activateSubscription message) choices))
    (ran : cut (handle process) (activateSubscription cfg message) choices w = some after) :
    SettledOn (fun _ => True) after := by
  rw [activateSubscription,session_seq] at ran
  rcases cut_step ran with ⟨-,rfl⟩ | ⟨first,rest,middle,answer,rfl,handled,ends⟩
  · exact settled
  have next := settledOn_handle (c := .getOnboardingSession _) trivial settled handled
  have same : ∀ s, Accepted middle s → Accepted w s := fun s accepted =>
    (accepted_handle handled accepted).resolve_right (by rintro ⟨_,⟨⟩⟩)
  rcases ends with ⟨value,rfl,ran⟩ | ⟨error,-,rfl⟩
  swap
  · exact next
  simp only [handle] at handled
  split at handled
  swap
  · cases handled
  cases handled
  cases found : sessionRow w message.sessionId with
  | none =>
    rw [found] at ran
    exact Option.some.inj ran ▸ next
  | some session =>
    rw [found,checkedSession] at ran
    dsimp only at ran
    by_cases expired : session.1.expiresAt < w.now
    · rw [if_pos expired] at ran
      exact Option.some.inj ran ▸ next
    rw [if_neg expired] at ran
    change cut (handle process) (assertSessionAccountLinkedTo session message.userId >>= _) rest _ = some after at ran
    by_cases linked : session.2.localUserId = some message.userId
    swap
    · rw [assertSessionAccountLinkedTo,if_neg linked] at ran
      exact Option.some.inj ran ▸ next
    rw [assertSessionAccountLinkedTo,if_pos linked] at ran
    change cut (handle process) (if session.2.orgId ≠ some message.orgId then _ else _) rest _ = some after at ran
    by_cases org : session.2.orgId = some message.orgId
    swap
    · rw [if_pos org] at ran
      exact Option.some.inj ran ▸ next
    rw [if_neg (not_not.mpr org)] at ran
    by_cases subscribed : session.2.saasSubscriptionStatus = .subscribed
    · rw [if_pos subscribed] at ran
      have only : Only (Gentle fun _ => True)
          (recordActivation message.sessionId session.1.subscription message.orgId >>=
          fun _ => (pure (.activated session.1.subscription message.orgId .subscribed) : Async Reply)) :=
        only_bind (recordActivation_gentle _ _ _) fun _ => trivial
      exact settledOn_cut only next ran
    rw [if_neg subscribed] at ran
    obtain ⟨known,there⟩ := sessionRow_spec found
    have rows : (noteSession process w message.sessionId).subscriptions = w.subscriptions ∧
        (noteSession process w message.sessionId).sessions = w.sessions := by
      rw [noteSession,found]
      exact ⟨rfl,rfl⟩
    refine proceeding_settled first (fun mock accepted => mocked mock _ (same _ accepted)) next
      (rows.1 ▸ there) (rows.2 ▸ known) ?_ ran
    intro begins accepts
    exact through session ⟨found,expired,linked,org,subscribed⟩ begins (accepts.imp_left (same _))

end

theorem program_local {cfg : Config} (mock : cfg.localMock = true) (input : Input) (s : Nat) :
    Only (fun c => ∀ planId, c ≠ .activate s planId) (program cfg input) := by
  have other : ∀ {c : Cmd}, Gentle (fun _ => True) c → ∀ planId, c ≠ .activate s planId := by
    rintro _ gentle planId rfl
    exact gentle trivial
  by_cases activation : ∃ message, input = .activateSubscription message
  · obtain ⟨message,rfl⟩ := activation
    have record : ∀ session : Session × Subscription, Only (fun c => ∀ planId, c ≠ .activate s planId)
        (recordActivation message.sessionId session.1.subscription message.orgId) := fun session =>
      only_mono (fun _ => other) (recordActivation_gentle _ _ _)
    refine only_bind (session_only (other trivial)) fun session => only_bind (only_ite _ trivial trivial) fun _ =>
      only_ite _ trivial (only_ite _ (only_bind (record session) fun _ => trivial) ?_)
    refine only_bind (only_perform ?_) fun _ => only_tryCatch ?_ fun error => activationFailed_remote error _
    · rintro planId ⟨⟩
    · rw [tryActivation,if_pos mock]
      exact only_bind (only_perform (other trivial)) fun _ => only_bind (record session) fun _ => trivial
  · exact only_mono (fun _ => other) (program_gentle cfg fun message same => activation ⟨message,same⟩)

/-- What holds along the runs. -/
structure Sound (cfg : Config) (w : World) : Prop where
  settled : SettledOn (fun _ => True) w
  mocked : cfg.localMock = true → ∀ s, ¬Accepted w s

theorem act_sound {cfg : Config} {w after : World} {a : Act} (sound : Sound cfg w) (through : RunsThrough cfg w a)
    (acted : act cfg w a = some after) : Sound cfg after := by
  cases a with
  | call process input choices =>
    refine ⟨?_,fun mock s => accepted_cut (program_local mock input s) acted (sound.mocked mock s)⟩
    by_cases activation : ∃ message, input = .activateSubscription message
    · obtain ⟨message,rfl⟩ := activation
      exact activate_settled sound.mocked sound.settled through acted
    · exact settledOn_cut (program_gentle cfg fun message same => activation ⟨message,same⟩) sound.settled acted
  | environment event =>
    cases event with
    | clock time =>
      simp only [act,sys] at acted
      split at acted
      · cases acted; exact ⟨⟨sound.settled.indexed,sound.settled.status⟩,sound.mocked⟩
      · cases acted
    | owners orgId users => cases acted; exact ⟨⟨sound.settled.indexed,sound.settled.status⟩,sound.mocked⟩

/-- From a state in which nothing is accepted yet: where every activation that
    Microsoft accepts runs through, and so does every repetition of it, no accepted
    subscription is failed or in progress after any of the calls. -/
theorem activation_kept (cfg : Config) {w after : World} {acts : List Act} (indexed : Indexed w)
    (fresh : ∀ s, ¬Accepted w s) (through : Along (act cfg) (RunsThrough cfg) w acts)
    (reached : run (act cfg) w acts = some after) : Settled after := by
  have start : Sound cfg w := ⟨⟨indexed,fun s row _ accepted => absurd accepted (fresh s)⟩,fun _ => fresh⟩
  have sound := run_keeps_along (fun _ _ _ sound through acted => act_sound sound through acted) start through reached
  exact fun s row => sound.settled.status s row trivial
def ready : World :=
  ⟨AList.insert 1 ⟨"phenix-id-platform","business",.pendingFulfillmentStart,none,none,none,some "ann@example.com",none,
      some 3,some 5,.notStarted,10,none⟩ ∅,AList.insert 5 ⟨1,.orgLinked,5000,none,10⟩ ∅,[],∅,1000,fun _ => none,[]⟩
def fails : Choice := ⟨.lost,0,0,[]⟩
def accepted : Act := .call 0 (.activateSubscription ⟨5,5,3⟩) [answered,answered,answered,answered,answered,answered,
  told (purchase .subscribed "ann@example.com"),fails]

theorem indexed_ready : Indexed ready := by
  intro s s' row row' orgId known known' _ _
  have only : ∀ {s row}, ready.subscriptions.lookup s = some row → s = 1 := by
    intro s row known
    by_contra different
    rw [ready,AList.lookup_insert_ne different] at known
    cases known
  rw [only known,only known']
theorem fresh_ready (s : Nat) : ¬Accepted ready s := by
  rintro ⟨process,did⟩
  cases did
/-- The accepted subscription is activated. -/
theorem activation_kept_ready : ∃ after, run (act service) ready [accepted] = some after ∧ Accepted after 1 ∧
    Settled after := by
  have through : Along (act service) (RunsThrough service) ready [accepted] := by
    refine ⟨?_,fun _ _ => trivial⟩
    intro session _ _ _
    refine ⟨by decide,?_,?_,?_,?_,?_⟩ <;> rintro choice ⟨⟩ <;> rfl
  have runs : ((run (act service) ready [accepted]).map fun after => decide (.accepted 0 1 ∈ after.log)) =
      some true := by
    decide +kernel
  obtain ⟨after,reached,member⟩ := Option.map_eq_some_iff.mp runs
  exact ⟨after,reached,⟨0,of_decide_eq_true member⟩,activation_kept service indexed_ready fresh_ready through reached⟩

/-- The setup fee cannot be recorded after Microsoft accepted. -/
def feeFails : Act :=
  .call 0 (.activateSubscription ⟨5,5,3⟩) [answered,answered,answered,answered,answered,fails,answered,answered]

/-- An activation that Microsoft accepted is marked as failed. -/
theorem fee_failed_after_acceptance : ¬∀ (cfg : Config) (w after : World) (acts : List Act), Indexed w →
    (∀ s, ¬Accepted w s) → run (act cfg) w acts = some after → Settled after := by
  intro always
  have runs : ((run (act service) ready [feeFails]).map fun after => (decide (.accepted 0 1 ∈ after.log),
      (after.subscriptions.lookup 1).map Subscription.activationStatus)) = some (true,some .failed) := by decide +kernel
  obtain ⟨after,reached,facts⟩ := Option.map_eq_some_iff.mp runs
  obtain ⟨member,status⟩ := Prod.mk.inj facts
  obtain ⟨row,known,failed⟩ := Option.map_eq_some_iff.mp status
  exact always service ready after [feeFails] indexed_ready fresh_ready reached 1 row ⟨0,of_decide_eq_true member⟩ known
    (.inl failed)

end Ngotag.Activations
