import Ngotag.Entitlements
import Ngotag.Onboarding
import Ngotag.Recall

/-!
Cancellations. A webhook writes the status of a subscription whatever it was
before, or writes what Microsoft said some time ago, so a delivery that is
processed after the cancellation can take it back (`suspended_after_cancellation`).
The cancellation is final in a run exactly when each delivery that is still applied
with effect is an `Unsubscribe`, or a refresh to which Microsoft had answered that the
subscription is cancelled (`cancellation_final_iff`).
-/
namespace Ngotag.Cancellation
open Runs Await Recall Marketplace Onboarding
open JsObject (truthy)

/-- An `Unsubscribe` has been applied. -/
def Cancelled (w : World) (s : Nat) : Prop := ∃ process, .subscriptionStatus process s .unsubscribed ∈ w.log
/-- The status is gone for good, and the subscription neither occupies its
    organisation nor grants anything. -/
structure Final (w : World) : Prop where
  status : ∀ s, Cancelled w s → ∃ row, w.subscriptions.lookup s = some row ∧ row.saasSubscriptionStatus = .unsubscribed
  vacated : ∀ s, Cancelled w s → ∀ orgId exceptSubscriptionId tie found,
    Marketplace.getActiveSubscriptionByOrgId w.subscriptions orgId exceptSubscriptionId tie = some found → found.1 ≠ s
  withdrawn : ∀ s row, Cancelled w s → w.subscriptions.lookup s = some row → ∀ (v : Metering.World) orgId,
    (Entitlements.entitlementOf v orgId (s,row)).features = Entitlements.disableFeatures

def statusWrite : Cmd → Option (Nat × SubscriptionStatus)
  | .setSubscriptionStatus s status => some (s,status)
  | .updateSubscriptionFromMicrosoft resolved => some (resolved.id,resolved.saasSubscriptionStatus)
  | .upsertResolvedSubscription resolved => some (resolved.id,resolved.saasSubscriptionStatus)
  | _ => none
def withStatus (status : SubscriptionStatus) (row : Subscription) : Subscription :=
  { row with saasSubscriptionStatus := status }
/-- The statement reaches the database, and the index does not refuse the row. -/
def TakesEffect (choice : Choice) (w : World) (s : Nat) (status : SubscriptionStatus) : Prop :=
  (choice.fault = .none ∨ choice.fault = .unknown) ∧
    ∀ row, w.subscriptions.lookup s = some row → collides w.subscriptions s (withStatus status row) = false
/-- A write to a cancelled subscription that takes effect has the same status. -/
def KeepsStatus (m : Machine Cmd Ret Failure Reply World) : Action Choice WebhookPayload Env → Prop
  | .advance process choice => ∀ c s status, (m.thread process).awaited = some c → statusWrite c = some (s,status) →
      Cancelled m.world s → TakesEffect choice m.world s status → status = .unsubscribed
  | _ => True

/-- Webhook deliveries in any number and order, with all that is not the service's own. -/
def webhooks (cfg : Config) : System Cmd Ret Failure Reply World Choice WebhookPayload Env where
  handle := handle
  arrive process payload := (sys cfg).arrive process (.processWebhook payload)
  program process payload := (sys cfg).program process (.processWebhook payload)
  environment := (sys cfg).environment
/-- The delivery a process is about, and what Microsoft last answered it about the subscription. -/
structure Delivery where
  payload : WebhookPayload
  latest : Option Resolved
def delivered (_ : Nat) (payload : WebhookPayload) : Option Delivery := some ⟨payload,none⟩
def hears : (c : Cmd) → Except Failure (Ret c) → Option Delivery → Option Delivery
  | .getSubscription _, .ok resolved, some delivery => some { delivery with latest := some resolved }
  | _, _, delivery => delivery
/-- The status that applying a delivery gives which subscription. -/
def Delivery.brings (delivery : Delivery) : Option (Nat × SubscriptionStatus) :=
  match delivery.payload.action with
  | .suspend => some (delivery.payload.subscriptionId,.suspended)
  | .unsubscribe => some (delivery.payload.subscriptionId,.unsubscribed)
  | .changePlan | .changeQuantity | .renew | .reinstate =>
    delivery.latest.map fun resolved => (resolved.id,resolved.saasSubscriptionStatus)
/-- A delivery that is applied with effect after the cancellation is an `Unsubscribe`, or Microsoft
    had answered it that the subscription is cancelled. -/
def LateIsCancelled (m : Machine Cmd Ret Failure Reply World × (Nat → Option Delivery)) :
    Action Choice WebhookPayload Env → Prop
  | .advance process choice => ∀ c s status, (m.1.thread process).awaited = some c → (statusWrite c).isSome →
      (m.2 process).bind Delivery.brings = some (s,status) → Cancelled m.1.world s →
      TakesEffect choice m.1.world s status → status = .unsubscribed
  | _ => True

section
variable {w after : World} {choice : Choice} {process : Nat}

theorem collides_congr {table : Subscriptions} {s : Nat} {a b : Subscription} (org : a.orgId = b.orgId)
    (deleted : a.deletedAt = b.deletedAt) (status : a.saasSubscriptionStatus = b.saasSubscriptionStatus) :
    collides table s a = collides table s b := by
  have same : ∀ orgId, occupies orgId a = occupies orgId b := fun orgId => by simp only [occupies,org,deleted,status]
  simp only [collides,same,org]

theorem final_of_status (status : ∀ s, Cancelled w s →
    ∃ row, w.subscriptions.lookup s = some row ∧ row.saasSubscriptionStatus = .unsubscribed) : Final w := by
  refine ⟨status,?_,?_⟩
  · rintro s cancelled orgId other tie found active rfl
    obtain ⟨row,known,gone⟩ := status found.1 cancelled
    obtain ⟨⟨listed,wanted⟩,-⟩ := Entitlements.latest_spec active
    rw [known,Option.some.injEq] at listed
    simp only [Bool.and_eq_true,decide_eq_true_eq,ne_eq,← listed] at wanted
    exact wanted.1.2 gone
  · intro s row cancelled known v orgId
    obtain ⟨other,known',gone⟩ := status s cancelled
    rw [known,Option.some.injEq] at known'
    subst known'
    refine if_neg ?_
    rintro ⟨subscribed,-⟩
    change row.saasSubscriptionStatus = .subscribed at subscribed
    rw [gone] at subscribed
    cases subscribed

/-- No status and no cancellation is changed. -/
structure Unmoved (w after : World) : Prop where
  rows : ∀ s, (after.subscriptions.lookup s).map Subscription.saasSubscriptionStatus =
    (w.subscriptions.lookup s).map Subscription.saasSubscriptionStatus
  log : ∀ s, Cancelled after s ↔ Cancelled w s
theorem final_unmoved (same : Unmoved w after) : Final after ↔ Final w := by
  have transfer : ∀ {a b : World}, Unmoved a b → Final a → Final b := by
    intro a b same final
    refine final_of_status fun s cancelled => ?_
    obtain ⟨row,known,gone⟩ := final.status s ((same.log s).mp cancelled)
    have moved := same.rows s
    rw [known,Option.map_some,gone] at moved
    exact Option.map_eq_some_iff.mp moved
  refine ⟨transfer ⟨fun s => (same.rows s).symm,fun s => (same.log s).symm⟩,transfer same⟩

theorem unmoved_elsewhere {c : Cmd} (same : Elsewhere c w after) : Unmoved w after := by
  obtain ⟨new_,log,other⟩ := same.log
  refine ⟨fun s => by rw [same.subscriptions],fun s => ⟨?_,?_⟩⟩
  · rintro ⟨p,did⟩
    rw [log] at did
    rcases List.mem_append.mp did with recent | old
    · cases (other _ recent : true = false)
    · exact ⟨p,old⟩
  · rintro ⟨p,did⟩
    refine ⟨p,?_⟩
    rw [log]
    exact List.mem_append_right _ did

variable (process) in
theorem status_of_row {c : Cmd} {id : Nat} {row : Subscription} (writes_ : rowWrite w c = some (id,row)) :
    (statusWrite c = none ∧ (∃ old, w.subscriptions.lookup id = some old ∧
        row.saasSubscriptionStatus = old.saasSubscriptionStatus) ∧
      ∀ p s status, .subscriptionStatus p s status ∉ rowEntries process c) ∨
    (statusWrite c = some (id,row.saasSubscriptionStatus) ∧
      (∀ old, w.subscriptions.lookup id = some old → row.orgId = old.orgId ∧ row.deletedAt = old.deletedAt) ∧
      ∀ p s status, .subscriptionStatus p s status ∈ rowEntries process c →
        s = id ∧ status = row.saasSubscriptionStatus) := by
  cases c with
  | linkUser | linkOrganization | setActivationStatus | setSubscriptionPlanId =>
    obtain ⟨old,found,same⟩ := Option.map_eq_some_iff.mp writes_
    cases same
    exact .inl ⟨rfl,⟨old,found,rfl⟩,by simp [rowEntries]⟩
  | setSubscriptionStatus s status =>
    obtain ⟨old,found,same⟩ := Option.map_eq_some_iff.mp writes_
    cases same
    refine .inr ⟨rfl,fun other known => ?_,?_⟩
    · rw [found,Option.some.injEq] at known
      exact known ▸ ⟨rfl,rfl⟩
    · rintro p s' status' (_ | ⟨_,⟨⟩⟩)
      exact ⟨rfl,rfl⟩
  | updateSubscriptionFromMicrosoft resolved =>
    obtain ⟨old,found,same⟩ := Option.map_eq_some_iff.mp writes_
    cases same
    refine .inr ⟨rfl,fun other known => ?_,by simp [rowEntries]⟩
    rw [found,Option.some.injEq] at known
    exact known ▸ ⟨rfl,rfl⟩
  | upsertResolvedSubscription resolved =>
    cases writes_
    cases found : w.subscriptions.lookup resolved.id with
    | none =>
      refine .inr ⟨rfl,?_,by simp [rowEntries]⟩
      rintro old ⟨⟩
    | some old =>
      refine .inr ⟨rfl,?_,by simp [rowEntries]⟩
      rintro other ⟨⟩
      exact ⟨rfl,rfl⟩
  | _ => cases writes_

theorem final_stored {c : Cmd} {id : Nat} {row : Subscription} (final : Final w)
    (writes_ : statusWrite c = some (id,row.saasSubscriptionStatus))
    (entries : ∀ p s status, .subscriptionStatus p s status ∈ rowEntries process c →
      s = id ∧ status = row.saasSubscriptionStatus) :
    Final (storedRow process c id row w) ↔ (Cancelled w id → row.saasSubscriptionStatus = .unsubscribed) := by
  have lasts : ∀ s, Cancelled w s → Cancelled (storedRow process c id row w) s := by
    rintro s ⟨p,did⟩
    exact ⟨p,List.mem_append_right _ did⟩
  constructor
  · intro later cancelled
    obtain ⟨other,known,gone⟩ := later.status id (lasts id cancelled)
    change (w.subscriptions.insert id row).lookup id = some other at known
    rw [AList.lookup_insert,Option.some.injEq] at known
    exact known ▸ gone
  · intro keeps
    refine final_of_status ?_
    rintro s ⟨p,did⟩
    change ∃ other, (w.subscriptions.insert id row).lookup s = some other ∧ _
    by_cases same : s = id
    · subst same
      refine ⟨row,AList.lookup_insert _,?_⟩
      rcases List.mem_append.mp did with recent | old
      · exact (entries p s _ recent).2.symm
      · exact keeps ⟨p,old⟩
    · rw [AList.lookup_insert_ne same]
      rcases List.mem_append.mp did with recent | old
      · exact absurd (entries p s _ recent).1 same
      · exact final.status s ⟨p,old⟩

/-- Carried out in a world where the cancellations hold, a command keeps them exactly
    when it does not write another status. -/
theorem final_handle {c : Cmd} {answer : Except Failure (Ret c)} (final : Final w)
    (handled : handle process c choice w = some (after,answer)) :
    Final after ↔ ∀ s status, statusWrite c = some (s,status) → Cancelled w s → TakesEffect choice w s status →
      status = .unsubscribed := by
  cases writes_ : rowWrite w c with
  | none =>
    have same := unmoved_elsewhere (handle_elsewhere writes_ handled)
    refine iff_of_true ((final_unmoved same).mpr final) ?_
    intro s status wrote cancelled _
    -- The row is there, so the command would have one to store.
    obtain ⟨row,known,-⟩ := final.status s cancelled
    cases c with
    | setSubscriptionStatus | updateSubscriptionFromMicrosoft =>
      cases wrote
      rw [rowWrite,known] at writes_
      cases writes_
    | upsertResolvedSubscription => cases writes_
    | _ => cases wrote
  | some stored =>
    obtain ⟨id,row⟩ := stored
    rcases status_of_row process writes_ with ⟨other,⟨old,known,status⟩,entries⟩ | ⟨wrote,same,entries⟩
    · refine iff_of_true ?_ ?_
      · rcases handle_row writes_ handled with ⟨-,rfl⟩ | ⟨-,rfl⟩
        · refine (final_unmoved ⟨fun s => ?_,fun s => ⟨?_,?_⟩⟩).mpr final
          · change ((w.subscriptions.insert id row).lookup s).map _ = _
            by_cases at_ : s = id
            · subst at_
              rw [AList.lookup_insert,known,Option.map_some,Option.map_some,status]
            · rw [AList.lookup_insert_ne at_]
          · rintro ⟨p,did⟩
            rcases List.mem_append.mp did with recent | old
            · exact absurd recent (entries p s _)
            · exact ⟨p,old⟩
          · rintro ⟨p,did⟩
            exact ⟨p,List.mem_append_right _ did⟩
        · exact final
      · intro s status wrote
        rw [other] at wrote
        cases wrote
    · have takes_iff : Cancelled w id →
        (TakesEffect choice w id row.saasSubscriptionStatus ↔ Takes choice w id row) := by
        intro cancelled
        obtain ⟨old,known,-⟩ := final.status id cancelled
        obtain ⟨org,deleted⟩ := same old known
        have index : collides w.subscriptions id (withStatus row.saasSubscriptionStatus old) =
            collides w.subscriptions id row := collides_congr org.symm deleted.symm rfl
        constructor
        · rintro ⟨fine,free⟩
          exact ⟨fine,index ▸ free old known⟩
        · rintro ⟨fine,free⟩
          refine ⟨fine,fun other found => ?_⟩
          rw [known,Option.some.injEq] at found
          exact found ▸ index ▸ free
      rcases handle_row writes_ handled with ⟨takes,rfl⟩ | ⟨refused,rfl⟩
      · rw [final_stored final wrote entries]
        constructor
        · rintro keeps s status wrote' cancelled _
          rw [wrote,Option.some.injEq,Prod.mk.injEq] at wrote'
          obtain ⟨rfl,rfl⟩ := wrote'
          exact keeps cancelled
        · intro keeps cancelled
          exact keeps id _ wrote cancelled ((takes_iff cancelled).mpr takes)
      · refine iff_of_true final ?_
        rintro s status wrote' cancelled effect
        rw [wrote,Option.some.injEq,Prod.mk.injEq] at wrote'
        obtain ⟨rfl,rfl⟩ := wrote'
        exact absurd ((takes_iff cancelled).mp effect) refused

end

/-- A step keeps the cancellations final exactly when it writes no other status over one. -/
theorem final_step (cfg : Config) (m : Machine Cmd Ret Failure Reply World) (a : Action Choice WebhookPayload Env)
    (next : Machine Cmd Ret Failure Reply World) (final : Final m.world) (taken : step (webhooks cfg) m a = some next) :
    Final next.world ↔ KeepsStatus m a := by
  have moved : ∀ world : World, world.subscriptions = m.world.subscriptions → world.log = m.world.log → Final world :=
    fun world rows log => (final_unmoved (unmoved_elsewhere (c := .now) ⟨rows,[],log,by rintro _ ⟨⟩⟩)).mpr final
  cases a with
  | start process input =>
    obtain ⟨-,world,arrived,rfl⟩ := step_start taken
    cases arrived
    exact iff_of_true (moved _ rfl rfl) trivial
  | advance process choice =>
    obtain ⟨c,resume,world,answer,at_,handled,rfl⟩ := step_advance taken
    rw [final_handle final handled]
    constructor
    · intro keeps other s status awaited
      rw [at_] at awaited
      cases awaited
      exact keeps s status
    · intro keeps s status
      exact keeps c s status (by rw [at_]; rfl)
  | crash process =>
    obtain ⟨-,rfl⟩ := step_crash taken
    exact iff_of_true final trivial
  | environment event =>
    obtain ⟨world,happened,rfl⟩ := step_environment taken
    refine iff_of_true ?_ trivial
    cases event with
    | clock time =>
      simp only [webhooks,sys] at happened
      split at happened
      · cases happened; exact moved _ rfl rfl
      · cases happened
    | owners orgId users => cases happened; exact moved _ rfl rfl

/-- What a delivery writes is what it brings. -/
def Writes (told : Option Delivery) (c : Cmd) : Prop :=
  ∀ wrote, statusWrite c = some wrote → told.bind Delivery.brings = some wrote

section
variable {payload : WebhookPayload} {latest : Option Resolved} {told : Option Delivery} {β : Type}

theorem recalls_silent {p : Async β} {ends : Except Failure β → Option Delivery → Prop}
    (only : Only (fun c => statusWrite c = none ∧ ∀ answer told, hears c answer told = told) p)
    (ended : ∀ result, ends result told) : Recalls hears Writes ends p told :=
  recalls_only (fun c silent => silent.2)
    (fun c silent told wrote wrote_ => by rw [silent.1] at wrote_; cases wrote_) only ended

/-- A refresh writes the answer it got. -/
theorem recalls_refresh (acts : payload.action ≠ .suspend ∧ payload.action ≠ .unsubscribe) {subscription : Nat} :
    Recalls hears Writes (fun _ _ => True) (refreshFromMicrosoft subscription) (some ⟨payload,latest⟩) := by
  refine (recalls_bind _ _ _).mpr ((recalls_call _ _).mpr ⟨by rintro _ ⟨⟩,?_⟩)
  rintro (error | resolved)
  · trivial
  · refine (recalls_bind _ _ _).mpr ((recalls_call _ _).mpr ⟨?_,by rintro (error | row) <;> trivial⟩)
    rintro wrote ⟨⟩
    obtain ⟨suspends,unsubscribes⟩ := acts
    cases action : payload.action with
    | suspend => exact absurd action suspends
    | unsubscribe => exact absurd action unsubscribes
    | _ =>
      simp only [hears,Option.bind_some,Delivery.brings,action]
      rfl

theorem recalls_applyAction : Recalls hears Writes (fun _ _ => True) (applyAction payload) (some ⟨payload,latest⟩) := by
  have acknowledges (told : Option Delivery) : Recalls hears Writes (fun _ _ => True) (acknowledge payload) told := by
    refine recalls_silent ?_ fun _ => trivial
    refine only_bind ?_ fun _ => ?_
    · rw [patchOperationIfNeeded]
      cases truthy payload.id with
      | none => trivial
      | some operationId =>
        refine only_tryCatch ((only_call _).mpr ⟨rfl,fun _ _ => rfl⟩) fun error => ?_
        rw [patchFailed]
        split <;> trivial
    · cases truthy payload.id with
      | none => trivial
      | some operationId => exact (only_call _).mpr ⟨rfl,fun _ _ => rfl⟩
  rw [applyAction]
  cases action : payload.action with
  | changePlan =>
    dsimp only
    cases truthy payload.planId with
    | none => trivial
    | some planId =>
      rw [recalls_bind]
      refine recalls_mono ?_ (recalls_refresh (by rw [action]; exact ⟨by rintro ⟨⟩,by rintro ⟨⟩⟩))
      rintro (error | ⟨⟩) told -
      · trivial
      · refine (recalls_bind _ _ _).mpr (recalls_silent ((only_call _).mpr ⟨rfl,fun _ _ => rfl⟩) ?_)
        rintro (error | ⟨⟩)
        · trivial
        · exact acknowledges told
  | changeQuantity | reinstate =>
    dsimp only
    rw [recalls_bind]
    refine recalls_mono ?_ (recalls_refresh (by rw [action]; exact ⟨by rintro ⟨⟩,by rintro ⟨⟩⟩))
    rintro (error | ⟨⟩) told -
    · trivial
    · exact acknowledges told
  | renew => exact recalls_refresh (by rw [action]; exact ⟨by rintro ⟨⟩,by rintro ⟨⟩⟩)
  | suspend | unsubscribe =>
    refine (recalls_call _ _).mpr ⟨?_,fun _ => trivial⟩
    rintro wrote ⟨⟩
    simp only [Option.bind_some,Delivery.brings,action]

/-- A delivery writes no status but the one it brings. -/
theorem recalls_processWebhook (cfg : Config) (payload : WebhookPayload) :
    Recalls hears Writes (fun _ _ => True) (processWebhook cfg payload) (some ⟨payload,none⟩) := by
  have silent (c : Cmd) (reads_ : statusWrite c = none ∧ ∀ answer told, hears c answer told = told)
      {told : Option Delivery}
      {f : Ret c → Async Reply} (next : ∀ value, Recalls hears Writes (fun _ _ => True) (f value) told) :
      Recalls hears Writes (fun _ _ => True) (perform c >>= f) told := by
    refine (recalls_bind _ _ _).mpr (recalls_silent ((only_call _).mpr reads_) ?_)
    rintro (error | value)
    · trivial
    · exact next value
  refine silent _ ⟨rfl,fun _ _ => rfl⟩ fun _ => ?_
  split
  · trivial
  refine silent _ ⟨rfl,fun _ _ => rfl⟩ fun found => silent _ ⟨rfl,fun _ _ => rfl⟩ fun _ => ?_
  cases found with
  | none => exact silent _ ⟨rfl,fun _ _ => rfl⟩ fun _ => trivial
  | some row =>
    refine (recalls_tryCatch _ _ _).mpr ?_
    have failed (told : Option Delivery) (error : Failure) :
        Recalls hears Writes (fun _ _ => True) (webhookFailed error) told :=
        silent _ ⟨rfl,fun _ _ => rfl⟩ fun _ => trivial
    have applied : Recalls hears Writes (fun _ _ => True) (applyWebhookAction payload) (some ⟨payload,none⟩) := by
      refine (recalls_bind _ _ _).mpr (recalls_silent ?_ ?_)
      · rw [noteOperation]
        cases truthy payload.id with
        | none => trivial
        | some operationId =>
          refine only_bind ((only_call _).mpr ⟨rfl,fun _ _ => rfl⟩) fun _ => ?_
          cases acknowledged payload.action with
          | false => trivial
          | true => exact (only_call _).mpr ⟨rfl,fun _ _ => rfl⟩
      · rintro (error | ⟨⟩)
        · trivial
        · exact recalls_applyAction
    refine (recalls_bind _ _ _).mpr (recalls_mono ?_ applied)
    rintro (error | ⟨⟩) told -
    · exact failed told error
    · refine (recalls_bind _ _ _).mpr (recalls_silent ((only_call _).mpr ⟨rfl,fun _ _ => rfl⟩) ?_)
      rintro (error | ⟨⟩)
      · exact failed told error
      · trivial
end

theorem late_iff {m : Machine Cmd Ret Failure Reply World × (Nat → Option Delivery)}
    (recalling : Recalling hears Writes m) (a : Action Choice WebhookPayload Env) :
    LateIsCancelled m a ↔ KeepsStatus m.1 a := by
  cases a with
  | advance process choice =>
    constructor
    · intro late c s status awaited wrote
      exact late c s status awaited (by rw [wrote]; rfl) (right_of_recalling recalling awaited (s,status) wrote)
    · intro keeps c s status awaited writes_ brought
      obtain ⟨wrote,wrote_⟩ := Option.isSome_iff_exists.mp writes_
      have same := right_of_recalling recalling awaited wrote wrote_
      rw [brought,Option.some.injEq] at same
      exact keeps c s status awaited (same ▸ wrote_)
  | _ => exact Iff.rfl

/-- In every run of deliveries a cancellation is final in every state exactly when no suspension
    is applied after it with effect, and no refresh to which Microsoft had answered otherwise. -/
theorem cancellation_final_iff (cfg : Config) {w : World} {actions : List (Action Choice WebhookPayload Env)}
    {m : Machine Cmd Ret Failure Reply World} (fresh : ∀ s, ¬Cancelled w s)
    (reached : run (step (webhooks cfg)) (Machine.initial w) actions = some m) :
    (∀ first rest u, actions = first ++ rest → run (step (webhooks cfg)) (Machine.initial w) first = some u →
        Final u.world) ↔
      Along (hearing (webhooks cfg) delivered hears) LateIsCancelled (Machine.initial w,fun _ => none) actions := by
  have recalled : Along (hearing (webhooks cfg) delivered hears) LateIsCancelled
      (Machine.initial w,fun _ => none) actions ↔
      Along (step (webhooks cfg)) KeepsStatus (Machine.initial w) actions :=
    along_noting (fun _ a recalling _ => late_iff recalling a)
      (fun _ _ _ recalling _ taken => step_recalling (fun _ payload _ _ _ => recalls_processWebhook cfg payload) recalling taken)
      (recalling_initial w _) reached
  rw [recalled]
  exact always_iff_along (I := fun m : Machine Cmd Ret Failure Reply World => Final m.world) (final_step cfg)
    (final_of_status fun s cancelled => absurd cancelled (fresh s)) reached

instance (w : World) (s : Nat) : Decidable (Cancelled w s) :=
  decidable_of_iff (∃ e ∈ w.log, e = .subscriptionStatus e.process s .unsubscribed) <| by
    constructor
    · rintro ⟨e,did,same⟩
      exact ⟨e.process,same ▸ did⟩
    · rintro ⟨process,did⟩
      exact ⟨_,did,rfl⟩

instance (choice : Choice) (w : World) (s : Nat) (status : SubscriptionStatus) :
    Decidable (TakesEffect choice w s status) :=
  decidable_of_iff ((choice.fault = .none ∨ choice.fault = .unknown) ∧
      ∀ row ∈ (w.subscriptions.lookup s).toList, collides w.subscriptions s (withStatus status row) = false) <| by
    simp only [TakesEffect,Option.mem_toList]
/-- What a delivery at its write brings is kept, one way or the other. -/
def Allowed (choice : Choice) (w : World) (told : Option Delivery) (c : Cmd) : Prop :=
  (statusWrite c).isSome → ∀ brought ∈ (told.bind Delivery.brings).toList, Cancelled w brought.1 →
    TakesEffect choice w brought.1 brought.2 → brought.2 = .unsubscribed
instance (choice : Choice) (w : World) (told : Option Delivery) (c : Cmd) : Decidable (Allowed choice w told c) :=
  inferInstanceAs (Decidable (_ → ∀ brought ∈ (told.bind Delivery.brings).toList, _))

variable {m : Machine Cmd Ret Failure Reply World × (Nat → Option Delivery)}
theorem late_advance {process : Nat} {choice : Choice} :
    (∀ c ∈ (m.1.thread process).awaited.toList, Allowed choice m.1.world (m.2 process) c) ↔
      LateIsCancelled m (.advance process choice) := by
  constructor
  · intro allowed c s status awaited writes_ brought
    exact allowed c (Option.mem_toList.mpr awaited) writes_ (s,status) (Option.mem_toList.mpr brought)
  · intro late c awaited writes_ brought member
    exact late c brought.1 brought.2 (Option.mem_toList.mp awaited) writes_ (Option.mem_toList.mp member)
instance : (a : Action Choice WebhookPayload Env) → Decidable (LateIsCancelled m a)
  | .start _ _ => isTrue trivial
  | .advance process choice =>
    decidable_of_iff (∀ c ∈ (m.1.thread process).awaited.toList, Allowed choice m.1.world (m.2 process) c) late_advance
  | .crash _ => isTrue trivial
  | .environment _ => isTrue trivial

def linked : World :=
  ⟨AList.insert 1 ⟨"offer","business",.subscribed,none,none,none,none,none,some 3,some 7,.activated,10,none⟩ ∅,∅,[],∅,
    1000,fun _ => none,[]⟩
def hooked : Config := ⟨false,some "offer",none,true,id,rfl,some,String.length⟩
def answered : Choice := ⟨.none,0,0,[]⟩
/-- A delivery of which every step is carried out. -/
def processed (process : Nat) (action : WebhookAction) (choices : List Choice) :
    List (Action Choice WebhookPayload Env) :=
  .start process ⟨none,"offer",none,none,1,action⟩ :: choices.map (.advance process)
/-- The suspension is processed before the cancellation. -/
def inOrder : List (Action Choice WebhookPayload Env) :=
  processed 0 .suspend (List.replicate 5 answered) ++ processed 1 .unsubscribe (List.replicate 5 answered)
theorem fresh_linked (s : Nat) : ¬Cancelled linked s := by
  rintro ⟨process,did⟩
  cases did
/-- A suspension that is processed before the cancellation does not touch it. -/
theorem cancellation_final_iff_suspended_first : ∃ m,
    run (step (webhooks hooked)) (Machine.initial linked) inOrder = some m ∧ Cancelled m.world 1 ∧
      ∀ first rest u, inOrder = first ++ rest → run (step (webhooks hooked)) (Machine.initial linked) first = some u →
        Final u.world := by
  have runs : ((run (step (webhooks hooked)) (Machine.initial linked) inOrder).map fun m =>
      decide (Cancelled m.world 1)) =
      some true := by decide +kernel
  obtain ⟨m,reached,cancelled⟩ := Option.map_eq_some_iff.mp runs
  exact ⟨m,reached,of_decide_eq_true cancelled,(cancellation_final_iff hooked fresh_linked reached).mpr (by decide +kernel)⟩

def outOfOrder : List (Action Choice WebhookPayload Env) :=
  processed 0 .unsubscribe (List.replicate 5 answered) ++ processed 1 .suspend (List.replicate 5 answered)

/-- A suspension that is processed after the cancellation takes it back. -/
theorem suspended_after_cancellation : ¬∀ (cfg : Config) (w : World) (actions : List (Action Choice WebhookPayload Env))
    (m : Machine Cmd Ret Failure Reply World), (∀ s, ¬Cancelled w s) →
    run (step (webhooks cfg)) (Machine.initial w) actions = some m → Final m.world := by
  intro always
  have runs : ((run (step (webhooks hooked)) (Machine.initial linked) outOfOrder).map fun m =>
      (decide (Cancelled m.world 1),(m.world.subscriptions.lookup 1).map Subscription.saasSubscriptionStatus)) =
      some (true,some .suspended) := by decide +kernel
  obtain ⟨m,reached,facts⟩ := Option.map_eq_some_iff.mp runs
  obtain ⟨cancelled,status⟩ := Prod.mk.inj facts
  obtain ⟨row,known,gone⟩ := (always hooked linked outOfOrder m fresh_linked reached).status 1
    (of_decide_eq_true cancelled)
  rw [known,Option.map_some,gone] at status
  cases status

end Ngotag.Cancellation
