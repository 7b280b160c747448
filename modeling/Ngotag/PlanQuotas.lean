import Ngotag.OverageArithmetic

/-!
The quotas of a plan. `MarketplaceEntitlementGuard` refuses a request once the recorded usage has reached what the plan
includes, schemas as well as transactions; but what has been admitted is recorded only after it is done. When schemas
stay within the quota and no transaction is refused is `quotas_along`.
-/
namespace Ngotag.PlanQuotas
open Runs
open Marketplace
open Overage
open Metering
open Entitlements
open OverageArithmetic

inductive MarketplaceFeature where
  | schemaCreate
  | credentialDefinitionCreate
  | issuance
  | bulkIssuance
  | verification
  | apiAccess
  deriving DecidableEq
def MarketplaceFeature.name : MarketplaceFeature → String
  | .schemaCreate => "schemaCreate"
  | .credentialDefinitionCreate => "credentialDefinitionCreate"
  | .issuance => "issuance"
  | .bulkIssuance => "bulkIssuance"
  | .verification => "verification"
  | .apiAccess => "apiAccess"
inductive Code where
  | entitlementUnavailable
  | schemaLimitReached
  | issuanceLimitReached
  | verificationLimitReached
  | blocked (reason : BlockedReason)
  | featureNotAllowed
  deriving DecidableEq
def MarketplaceFeature.limit : MarketplaceFeature → Option (Dimension × Code)
  | .schemaCreate => some (.schemaCreate,.schemaLimitReached)
  | .issuance => some (.issuanceTxn,.issuanceLimitReached)
  | .bulkIssuance => some (.issuanceTxn,.issuanceLimitReached)
  | .verification => some (.verificationTxn,.verificationLimitReached)
  | _ => none
def isUsageLimitReached (entitlements : Response) (dimension : Dimension) : Bool :=
  (entitlements.usage.find? fun entry => entry.1 = dimension).any fun entry => entry.2.included ≤ entry.2.used
/-- `MARKETPLACE_ENABLED` and `MARKETPLACE_REQUIRED` -/
structure Switches where
  enabled : Bool
  required : Bool
structure Request where
  feature : Option MarketplaceFeature
  platformAdmin : Bool
  orgId : Option Nat

/-- Without an answer of the marketplace a request is let through, unless the marketplace is required. -/
def canActivate (switches : Switches) (request : Request) (answer : Nat → Option Response) : Except Code Unit :=
  match request.feature,request.orgId with
  | some feature,some orgId =>
    if !switches.enabled || request.platformAdmin then .ok ()
    else
      match answer orgId with
      | none => if switches.required then .error .entitlementUnavailable else .ok ()
      | some entitlements =>
        if entitlements.features.lookup feature.name = some true then
          match feature.limit with
          | some (dimension,code) => if isUsageLimitReached entitlements dimension then .error code else .ok ()
          | none => .ok ()
        else .error (entitlements.blockedReason.elim .featureNotAllowed .blocked)
  | _,_ => .ok ()

/-- An organisation with an active subscription of its own, whose plan has all features, and the term of the
    subscription. Of its usage nothing is recorded yet. -/
structure Tenancy where
  base : World
  orgId : Nat
  id : Nat
  subscription : Subscription
  plan : Plan
  start : Nat
  finish : Nat
  found : ∀ tie, Marketplace.getSubscriptionByOrgId base.subscriptions orgId tie = some (id,subscription)
  planned : base.plans subscription.offerId subscription.planId = some plan
  active : subscription.saasSubscriptionStatus = .subscribed ∧ subscription.activationStatus = .activated
  linked : subscription.orgId = some orgId
  termStart : subscription.termStartDate = some start
  termEnd : subscription.termEndDate = some finish
  features : ∀ feature : MarketplaceFeature, (planFeatures (some plan)).lookup feature.name = some true
  foreign : ∀ e ∈ base.events, e.orgId ≠ orgId ∧ e.marketplaceSubscriptionId ≠ some id

structure State where
  now : Nat
  /-- `billing_usage_event` -/
  events : List Event
  /-- The creations of schemas that are admitted and have not ended. -/
  creating : Nat
  /-- The `recordUsageEvent` calls that have not been carried out. -/
  recordings : List Payload
  created : List Nat
  completed : List (String × String)
  refused : List (MarketplaceFeature × Code)

/-- What completes on an agent: a credential or a presentation. -/
inductive Transaction where
  | issuance
  | verification
def Transaction.eventType : Transaction → String
  | .issuance => "issuance_completed"
  | .verification => "verification_completed"

inductive Action where
  | tick (ms : Nat)
  | request (feature : MarketplaceFeature) (platformAdmin : Bool) (tie : Nat)
  /-- The id under which the schema is recorded is the one it was given. -/
  | schemaCreated (sourceId : String)
  | schemaFailed
  /-- The webhook of the agent, which may come again. -/
  | completed (transaction : Transaction) (sourceId : String) (createdAt : Option Nat)
  | record (index : Nat)
  | elsewhere (event : Event)

section
variable (t : Tenancy) (required : Bool) (exempt : List Nat)

def Tenancy.initial (now : Nat) : State := ⟨now,t.base.events,0,[],[],[],[]⟩
def Tenancy.world (s : State) : World := { t.base with events := s.events, now := s.now }
/-- What the guard decides, with the marketplace enabled and within reach. -/
def Tenancy.admits (s : State) (feature : MarketplaceFeature) (platformAdmin : Bool) (tie : Nat) : Except Code Unit :=
  canActivate ⟨true,required⟩ ⟨some feature,platformAdmin,some t.orgId⟩ fun orgId =>
    some (getEntitlements exempt required (t.world s) orgId tie)
/-- What `createSchema` does besides, once the schema is there. -/
def Tenancy.create (s : State) (sourceId : String) : State where
  __ := s
  created := s.now :: s.created
  recordings := ⟨t.orgId,"schema_created",sourceId,none,some 1⟩ :: s.recordings
def Tenancy.complete (s : State) (transaction : Transaction) (sourceId : String) (createdAt : Option Nat) : State where
  __ := s
  completed := (transaction.eventType,sourceId) :: s.completed
  recordings := ⟨t.orgId,transaction.eventType,sourceId,createdAt,some 1⟩ :: s.recordings
def State.without (s : State) (index : Nat) : State := { s with recordings := s.recordings.eraseIdx index }
def Tenancy.record (s : State) (payload : Payload) : State :=
  { s with events := (Metering.record payload (some t.id) (t.world s)).events }

def step (s : State) : Action → Option State
  | .tick ms => some { s with now := s.now + ms }
  | .request feature platformAdmin tie =>
    match t.admits required exempt s feature platformAdmin tie with
    | .error code => some { s with refused := (feature,code) :: s.refused }
    | .ok () => some { s with creating := s.creating + if feature = .schemaCreate then 1 else 0 }
  | .schemaCreated sourceId =>
    if s.creating = 0 then none
    else some (t.create { s with creating := s.creating - 1 } sourceId)
  | .schemaFailed => if s.creating = 0 then none else some { s with creating := s.creating - 1 }
  | .completed transaction sourceId createdAt => some (t.complete s transaction sourceId createdAt)
  | .record index => s.recordings[index]?.map fun payload => t.record (s.without index) payload
  | .elsewhere event =>
    if event.orgId = t.orgId ∨ event.marketplaceSubscriptionId = some t.id then none
    else some { s with events := event :: s.events }

def Tenancy.used (s : State) (eventType : String) : ℚ := usageTotal s.events t.orgId t.start t.finish eventType
def State.unrecorded (s : State) : Nat := s.recordings.countP fun payload => payload.eventType = "schema_created"
def Tenancy.schemas (s : State) : Nat := s.created.countP fun time => t.start ≤ time ∧ time ≤ t.finish

/-- The schemas are within the plan, no issuance is refused for it, and what is completed is
    recorded. -/
structure Quotas (s : State) : Prop where
  capped : (t.schemas s : ℚ) ≤ includedUsage (some t.plan) .schemaCreate
  unrefused : ∀ entry ∈ s.refused, entry.2 ≠ .issuanceLimitReached ∧ entry.2 ≠ .verificationLimitReached
  /-- Each completed transaction is recorded for the subscription, or about to be. -/
  recorded : ∀ transaction ∈ s.completed,
    (∃ e ∈ s.events, (e.eventType,e.sourceId) = transaction ∧ e.orgId = t.orgId ∧ e.marketplaceSubscriptionId = some t.id) ∨
      ∃ payload ∈ s.recordings, (payload.eventType,payload.sourceId) = transaction ∧ payload.orgId = t.orgId
  /-- What is recorded beyond the quota is the overage. -/
  billed : ∀ sourceEvents, sourceEvents.Perm (billable s.events t.id t.start t.finish) → ∀ entry ∈ eventTypeByDimension,
    0 ≤ includedUsage (some t.plan) entry.1 → billed entry.1 (aggregated (some t.plan) sourceEvents) =
      max (t.used s entry.2 - includedUsage (some t.plan) entry.1) 0

/-- Schemas are admitted only while those recorded, those to be recorded and those not created yet leave room,
    transactions only below the quota, and what is recorded has an id of its own: no other schema or organisation has it. -/
def Meets (s : State) : Action → Prop
  | .request .schemaCreate platformAdmin _ =>
    t.used s "schema_created" + s.unrecorded + s.creating < includedUsage (some t.plan) .schemaCreate ∨
      platformAdmin = false ∧ t.orgId ∉ exempt ∧ includedUsage (some t.plan) .schemaCreate ≤ t.used s "schema_created"
  | .request .issuance platformAdmin _ =>
    platformAdmin = true ∨ t.orgId ∈ exempt ∨ t.used s "issuance_completed" < includedUsage (some t.plan) .issuanceTxn
  | .request .bulkIssuance platformAdmin _ =>
    platformAdmin = true ∨ t.orgId ∈ exempt ∨ t.used s "issuance_completed" < includedUsage (some t.plan) .issuanceTxn
  | .request .verification platformAdmin _ =>
    platformAdmin = true ∨ t.orgId ∈ exempt ∨ t.used s "verification_completed" < includedUsage
        (some t.plan) .verificationTxn
  | .record index => ∀ payload ∈ s.recordings[index]?.toList, ∀ e ∈ s.events, e.eventType = payload.eventType →
    e.sourceId = payload.sourceId → e.orgId = t.orgId ∧ e.eventType ≠ "schema_created"
  | _ => True

instance (s : State) (a : Action) : Decidable (Meets t exempt s a) := by
  unfold Meets
  split <;> infer_instance
end
section
variable {t : Tenancy} {required : Bool} {exempt : List Nat} {s next : State}

theorem lookup_default (feature : MarketplaceFeature) : defaultFeatures.lookup feature.name = some true := by
  cases feature <;> rfl

variable {dimension : Dimension} {eventType : String}
theorem told (listed : t.orgId ∉ exempt) (tie : Nat) (entry : (dimension,eventType) ∈ eventTypeByDimension) :
    isUsageLimitReached (getEntitlements exempt required (t.world s) t.orgId tie) dimension =
      decide (includedUsage (some t.plan) dimension ≤ t.used s eventType) := by
  have answer : getEntitlements exempt required (t.world s) t.orgId tie = entitlementOf (t.world s) t.orgId
      (t.id,t.subscription) := by
    rw [getEntitlements,if_neg listed]
    have found : Marketplace.getSubscriptionByOrgId (t.world s).subscriptions t.orgId tie =
        some (t.id,t.subscription) := t.found tie
    rw [found]
  have plan : (t.world s).plans t.subscription.offerId t.subscription.planId = some t.plan := t.planned
  have start : termStart t.subscription (t.world s).now = t.start := by rw [termStart,t.termStart]; rfl
  have finish : termEnd t.subscription (t.world s).now = t.finish := by rw [termEnd,t.termEnd]; rfl
  rw [answer,isUsageLimitReached,entitlementOf]
  simp only [plan,getUsage,t.linked,start,finish]
  simp only [eventTypeByDimension,List.mem_cons,Prod.mk.injEq,List.not_mem_nil,or_false] at entry
  rcases entry with ⟨rfl,rfl⟩ | ⟨rfl,rfl⟩ | ⟨rfl,rfl⟩ | ⟨rfl,rfl⟩ <;> rfl

theorem exempted (listed : t.orgId ∈ exempt) (tie : Nat) (dimension : Dimension) :
    isUsageLimitReached (getEntitlements exempt required (t.world s) t.orgId tie) dimension = false := by
  rw [getEntitlements,if_pos listed]
  rfl

theorem allowed (tie : Nat) (feature : MarketplaceFeature) :
    (getEntitlements exempt required (t.world s) t.orgId tie).features.lookup feature.name = some true := by
  by_cases listed : t.orgId ∈ exempt
  · rw [getEntitlements,if_pos listed]
    exact lookup_default feature
  · rw [getEntitlements,if_neg listed]
    have found : Marketplace.getSubscriptionByOrgId (t.world s).subscriptions t.orgId tie =
        some (t.id,t.subscription) := t.found tie
    have plan : (t.world s).plans t.subscription.offerId t.subscription.planId = some t.plan := t.planned
    rw [found]
    simp only [entitlementOf,plan,t.active,and_self,if_true]
    exact t.features feature

variable {feature : MarketplaceFeature}
theorem admits_limited {code : Code}
    (limited : feature.limit = some (dimension,code)) (entry : (dimension,eventType) ∈ eventTypeByDimension)
    (platformAdmin : Bool) (tie : Nat) : t.admits required exempt s feature platformAdmin tie =
      if platformAdmin = false ∧ t.orgId ∉ exempt ∧ includedUsage
      (some t.plan) dimension ≤ t.used s eventType then .error code
      else .ok () := by
  cases platformAdmin with
  | true => rfl
  | false =>
    simp only [Tenancy.admits,canActivate,Bool.not_true,Bool.false_or,Bool.false_eq_true,if_false,allowed,if_true,
        limited,true_and]
    by_cases listed : t.orgId ∈ exempt
    · rw [exempted listed]
      simp [listed]
    · rw [told listed tie entry]
      simp [listed]

theorem admits_unlimited (unlimited : feature.limit = none) (platformAdmin : Bool) (tie : Nat) :
    t.admits required exempt s feature platformAdmin tie = .ok () := by
  cases platformAdmin with
  | true => rfl
  | false =>
    simp only [Tenancy.admits,canActivate,Bool.not_true,Bool.false_or,Bool.false_eq_true,if_false,allowed,
        if_true,unlimited]

/-- What carries `Quotas`: recorded and coming usage together leave room for what is in flight. -/
structure Inv (t : Tenancy) (s : State) : Prop where
  owned : ∀ e ∈ s.events, (e.orgId = t.orgId ↔ e.marketplaceSubscriptionId = some t.id) ∧
      (e.orgId = t.orgId → e.quantity = 1)
  payloads : ∀ payload ∈ s.recordings, payload.orgId = t.orgId ∧ payload.amount = 1 ∧
    (payload.eventType = "schema_created" → payload.occurredAt = none)
  room : t.used s "schema_created" + s.unrecorded + s.creating ≤ includedUsage (some t.plan) .schemaCreate
  early : ∀ time ∈ s.created, time ≤ s.now
  capped : (t.schemas s : ℚ) ≤ includedUsage (some t.plan) .schemaCreate
  /-- Until the term is over each schema is recorded or about to be. -/
  counted : s.now ≤ t.finish → (t.schemas s : ℚ) ≤ t.used s "schema_created" + s.unrecorded
  unrefused : ∀ entry ∈ s.refused, entry.2 ≠ .issuanceLimitReached ∧ entry.2 ≠ .verificationLimitReached
  recorded : ∀ transaction ∈ s.completed,
    (∃ e ∈ s.events, (e.eventType,e.sourceId) = transaction ∧ e.orgId = t.orgId ∧ e.marketplaceSubscriptionId = some t.id) ∨
      ∃ payload ∈ s.recordings, (payload.eventType,payload.sourceId) = transaction ∧ payload.orgId = t.orgId

theorem used_cons (e : Event) (eventType : String) (s : State) : t.used { s with events := e :: s.events } eventType =
    (if e.orgId = t.orgId ∧ t.start ≤ e.occurredAt ∧ e.occurredAt ≤ t.finish ∧ e.eventType = eventType then e.quantity else 0) +
      t.used s eventType := by
  unfold Tenancy.used usageTotal
  by_cases counts : e.orgId = t.orgId ∧ t.start ≤ e.occurredAt ∧ e.occurredAt ≤ t.finish ∧ e.eventType = eventType
  · rw [if_pos counts,List.filter_cons_of_pos (by simp [counts])]
    rfl
  · rw [if_neg counts,zero_add,List.filter_cons_of_neg]
    intro counted
    simp only [Bool.and_eq_true,decide_eq_true_eq] at counted
    exact counts ⟨counted.1.1.1,counted.1.1.2,counted.1.2,counted.2⟩

theorem used_whole (inv : Inv t s) (eventType : String) : ∃ count : Nat, t.used s eventType = count := by
  refine ⟨(s.events.filter fun e => e.orgId = t.orgId && t.start ≤ e.occurredAt && e.occurredAt ≤ t.finish &&
    e.eventType = eventType).length,?_⟩
  have ones : ∀ e ∈ s.events.filter (fun e => e.orgId = t.orgId && t.start ≤ e.occurredAt && e.occurredAt ≤ t.finish &&
      e.eventType = eventType), e.quantity = 1 := by
    intro e listed
    obtain ⟨there,counts⟩ := List.mem_filter.mp listed
    simp only [Bool.and_eq_true,decide_eq_true_eq] at counts
    exact (inv.owned e there).2 counts.1.1.1
  rw [Tenancy.used,usageTotal,List.map_congr_left ones,List.map_const',List.sum_replicate,nsmul_eq_mul,mul_one]

theorem billed_used (inv : Inv t s) {sourceEvents : List Event}
    (fetched : sourceEvents.Perm (billable s.events t.id t.start t.finish))
    (entry : (dimension,eventType) ∈ eventTypeByDimension)
    (included : 0 ≤ includedUsage (some t.plan) dimension) :
    billed dimension (aggregated (some t.plan) sourceEvents) = max
        (t.used s eventType - includedUsage (some t.plan) dimension) 0 := by
  have positive : ∀ e ∈ sourceEvents, 0 < e.quantity := by
    intro e listed
    obtain ⟨there,counts⟩ := List.mem_filter.mp (fetched.mem_iff.mp listed)
    simp only [Bool.and_eq_true,decide_eq_true_eq] at counts
    obtain ⟨own,one⟩ := inv.owned e there
    rw [one (own.mpr counts.1.1)]
    exact zero_lt_one
  have same : total dimension sourceEvents = t.used s eventType := by
    rw [total_perm fetched,total,billable,Tenancy.used,usageTotal,List.filter_filter]
    congr 2
    refine List.filter_congr fun e there => ?_
    have own := (inv.owned e there).1
    have typed : e.dimension = some dimension ↔ e.eventType = eventType := dimension_iff dimension entry
    by_cases ours : e.orgId = t.orgId
    · by_cases kind : e.eventType = eventType
      · simp [ours,own.mp ours,kind,typed.mpr kind]
      · simp [kind,typed.not.mpr kind]
    · simp [ours,own.not.mp ours]
  rw [billed_aggregated positive included,same]

theorem inv_quotas (inv : Inv t s) : Quotas t s :=
  ⟨inv.capped,inv.unrefused,inv.recorded,fun _ fetched _ entry included => billed_used inv fetched entry included⟩

section

variable (inv : Inv t s)
include inv
theorem inv_tick (ms : Nat) : Inv t { s with now := s.now + ms } where
  owned := inv.owned
  payloads := inv.payloads
  room := inv.room
  early time listed := Nat.le_trans (inv.early time listed) (Nat.le_add_right _ _)
  capped := inv.capped
  counted within := inv.counted (Nat.le_trans (Nat.le_add_right _ _) within)
  unrefused := inv.unrefused
  recorded := inv.recorded
theorem inv_refused {code : Code} (kind : code ≠ .issuanceLimitReached ∧ code ≠ .verificationLimitReached) :
    Inv t { s with refused := (feature,code) :: s.refused } where
  owned := inv.owned
  payloads := inv.payloads
  room := inv.room
  early := inv.early
  capped := inv.capped
  counted := inv.counted
  unrefused := List.forall_mem_cons.mpr ⟨kind,inv.unrefused⟩
  recorded := inv.recorded
theorem inv_creating {creating : Nat}
    (room : t.used s "schema_created" + s.unrecorded + creating ≤ includedUsage (some t.plan) .schemaCreate) :
    Inv t { s with creating := creating } :=
  ⟨inv.owned,inv.payloads,room,inv.early,inv.capped,inv.counted,inv.unrefused,inv.recorded⟩

theorem inv_request {platformAdmin : Bool} {tie : Nat} (meets : Meets t exempt s (.request feature platformAdmin tie))
    (taken : step t required exempt s (.request feature platformAdmin tie) = some next) : Inv t next := by
  have limited {dimension : Dimension} {code : Code} {eventType : String}
      (limited : feature.limit = some (dimension,code))
      (entry : (dimension,eventType) ∈ eventTypeByDimension) (other : feature ≠ .schemaCreate)
      (below : platformAdmin = true ∨ t.orgId ∈ exempt ∨ t.used s eventType < includedUsage (some t.plan) dimension) :
          Inv t next := by
    have admitted : t.admits required exempt s feature platformAdmin tie = .ok () := by
      rw [admits_limited limited entry platformAdmin tie]
      refine if_neg fun ⟨user,listed,reached⟩ => ?_
      rcases below with admin | exempted | below
      · cases user.symm.trans admin
      · exact listed exempted
      · exact absurd below (not_lt.mpr reached)
    simp only [step,admitted,if_neg other] at taken
    cases taken
    exact inv
  have unlimited (unlimited : feature.limit = none) (other : feature ≠ .schemaCreate) : Inv t next := by
    simp only [step,admits_unlimited unlimited,if_neg other] at taken
    cases taken
    exact inv
  cases feature with
  | schemaCreate =>
    have decided := @admits_limited t required exempt s _ "schema_created" .schemaCreate _ rfl
        (by decide) platformAdmin tie
    simp only [step,decided] at taken
    split at taken
    · rename_i code refused
      cases taken
      split at refused
      · cases refused
        exact inv_refused inv ⟨nofun,nofun⟩
      · cases refused
    · rename_i admitted
      cases taken
      rcases meets with below | ⟨user,listed,reached⟩
      · refine inv_creating inv ?_
        obtain ⟨count,whole⟩ := used_whole inv "schema_created"
        rw [whole,includedUsage] at below ⊢
        norm_cast at below ⊢
      · rw [if_pos ⟨user,listed,reached⟩] at admitted
        cases admitted
  | credentialDefinitionCreate => exact unlimited rfl nofun
  | issuance => exact @limited .issuanceTxn _ _ rfl (by decide) nofun meets
  | bulkIssuance => exact @limited .issuanceTxn _ _ rfl (by decide) nofun meets
  | verification => exact @limited .verificationTxn _ _ rfl (by decide) nofun meets
  | apiAccess => exact unlimited rfl nofun

theorem inv_schemaFailed : Inv t { s with creating := s.creating - 1 } := by
  refine inv_creating inv (le_trans ?_ inv.room)
  gcongr
  exact Nat.sub_le _ _

theorem inv_created (under : s.creating ≠ 0) (sourceId : String) :
    Inv t (t.create { s with creating := s.creating - 1 } sourceId) := by
  -- one creation less, one recording more
  have unrecorded : (t.create { s with creating := s.creating - 1 } sourceId).unrecorded = s.unrecorded + 1 := by
    rw [State.unrecorded,Tenancy.create,List.countP_cons_of_pos (by simp)]
    rfl
  have schemas : t.schemas (t.create { s with creating := s.creating - 1 } sourceId) =
      t.schemas s + if t.start ≤ s.now ∧ s.now ≤ t.finish then 1 else 0 := by
    rw [Tenancy.schemas,Tenancy.create,List.countP_cons]
    simp [Tenancy.schemas]
  have one : ((s.creating - 1 : Nat) : ℚ) = s.creating - 1 := by
    rw [Nat.cast_sub (Nat.one_le_iff_ne_zero.mpr under),Nat.cast_one]
  have room := inv.room
  have counted := inv.counted
  refine ⟨inv.owned,?_,?_,?_,?_,?_,inv.unrefused,fun transaction listed => ?_⟩
  · exact List.forall_mem_cons.mpr ⟨⟨rfl,rfl,fun _ => rfl⟩,inv.payloads⟩
  · rw [unrecorded]
    change t.used s "schema_created" + ((s.unrecorded + 1 : Nat) : ℚ) + ((s.creating - 1 : Nat) : ℚ) ≤ _
    rw [one,Nat.cast_add,Nat.cast_one]
    linarith
  · exact List.forall_mem_cons.mpr ⟨Nat.le_refl _,inv.early⟩
  · rw [schemas]
    split
    · rename_i within
      have bound := counted within.2
      have some_ : (1 : ℚ) ≤ s.creating := by exact_mod_cast Nat.one_le_iff_ne_zero.mpr under
      rw [Nat.cast_add,Nat.cast_one]
      linarith
    · exact inv.capped
  · intro within
    have bound := counted within
    have small : ((if t.start ≤ s.now ∧ s.now ≤ t.finish then 1 else 0 : Nat) : ℚ) ≤ 1 := by
      split <;> norm_num
    rw [schemas,unrecorded]
    change ((t.schemas s + _ : Nat) : ℚ) ≤ t.used s "schema_created" + ((s.unrecorded + 1 : Nat) : ℚ)
    rw [Nat.cast_add,Nat.cast_add,Nat.cast_one]
    linarith
  · rcases inv.recorded transaction listed with there | ⟨payload,waiting,same⟩
    · exact .inl there
    · exact .inr ⟨payload,List.mem_cons_of_mem _ waiting,same⟩

theorem inv_completed (transaction : Transaction) (sourceId : String) (createdAt : Option Nat) :
    Inv t (t.complete s transaction sourceId createdAt) := by
  have kind : transaction.eventType ≠ "schema_created" := by cases transaction <;> decide
  have unrecorded : (t.complete s transaction sourceId createdAt).unrecorded = s.unrecorded := by
    rw [State.unrecorded,Tenancy.complete,List.countP_cons_of_neg (by simp [kind])]
    rfl
  refine ⟨inv.owned,?_,?_,inv.early,inv.capped,fun within => ?_,inv.unrefused,?_⟩
  · exact List.forall_mem_cons.mpr ⟨⟨rfl,rfl,fun schema => absurd schema kind⟩,inv.payloads⟩
  · rw [unrecorded]
    exact inv.room
  · rw [unrecorded]
    exact inv.counted within
  · refine List.forall_mem_cons.mpr ⟨.inr ⟨_,List.mem_cons_self,rfl,rfl⟩,fun other listed => ?_⟩
    rcases inv.recorded other listed with there | ⟨payload,waiting,same⟩
    · exact .inl there
    · exact .inr ⟨payload,List.mem_cons_of_mem _ waiting,same⟩

theorem inv_elsewhere {event : Event} (other : event.orgId ≠ t.orgId)
    (foreign : event.marketplaceSubscriptionId ≠ some t.id) : Inv t { s with events := event :: s.events } := by
  have used (eventType : String) : t.used { s with events := event :: s.events } eventType = t.used s eventType := by
    rw [used_cons,if_neg fun counts => other counts.1,zero_add]
  refine ⟨?_,inv.payloads,?_,inv.early,inv.capped,fun within => ?_,inv.unrefused,fun transaction listed => ?_⟩
  · exact List.forall_mem_cons.mpr ⟨⟨iff_of_false other foreign,fun same => absurd same other⟩,inv.owned⟩
  · rw [used]
    exact inv.room
  · rw [used]
    exact inv.counted within
  · rcases inv.recorded transaction listed with ⟨e,there,same⟩ | waiting
    · exact .inl ⟨e,List.mem_cons_of_mem _ there,same⟩
    · exact .inr waiting

end
section
variable {index : Nat} {payload : Payload}

theorem without_perm (at_ : s.recordings[index]? = some payload) :
    (payload :: (s.without index).recordings).Perm s.recordings := by
  obtain ⟨small,is⟩ := List.getElem?_eq_some_iff.mp at_
  rw [← is]
  exact List.getElem_cons_eraseIdx_perm small
theorem unrecorded_without (at_ : s.recordings[index]? = some payload) :
    s.unrecorded = (s.without index).unrecorded + if payload.eventType = "schema_created" then 1 else 0 := by
  rw [State.unrecorded,← (without_perm at_).countP_eq,List.countP_cons]
  simp [State.unrecorded]
def eventOf (t : Tenancy) (s : State) (payload : Payload) : Event :=
  ⟨s.events.length,some t.id,payload.orgId,payload.eventType,payload.sourceId,payload.occurredAt.getD s.now,
      payload.amount⟩
def taken (s : State) (payload : Payload) : Bool :=
  s.events.any fun e => e.eventType = payload.eventType && e.sourceId = payload.sourceId
theorem record_taken (again : taken s payload = true) : t.record s payload = s := by
  have present : (t.world s).events.any
      (fun e => e.eventType = payload.eventType && e.sourceId = payload.sourceId) = true := again
  simp only [Tenancy.record,Metering.record,present,if_true]
  rfl
theorem record_fresh (fresh : taken s payload = false) :
    t.record s payload = { s with events := eventOf t s payload :: s.events } := by
  have absent : (t.world s).events.any (fun e => e.eventType = payload.eventType && e.sourceId = payload.sourceId) =
      false := fresh
  simp only [Tenancy.record,Metering.record,absent,Bool.false_eq_true,if_false]
  rfl

section

variable (inv : Inv t s) (at_ : s.recordings[index]? = some payload)
include inv at_
theorem inv_again (again : taken s payload = true)
    (unique : ∀ e ∈ s.events, e.eventType = payload.eventType → e.sourceId = payload.sourceId →
      e.orgId = t.orgId ∧ e.eventType ≠ "schema_created") : Inv t (s.without index) := by
  obtain ⟨e,there,same⟩ := List.any_eq_true.mp again
  simp only [Bool.and_eq_true,decide_eq_true_eq] at same
  obtain ⟨ours,kind⟩ := unique e there same.1 same.2
  have still : (s.without index).unrecorded = s.unrecorded := by
    rw [unrecorded_without at_,if_neg fun schema => kind (same.1.trans schema),Nat.add_zero]
  refine ⟨inv.owned,fun other waiting => inv.payloads other (List.mem_of_mem_eraseIdx waiting),?_,inv.early,inv.capped,
    fun within => ?_,inv.unrefused,fun transaction done => ?_⟩
  · rw [still]
    exact inv.room
  · rw [still]
    exact inv.counted within
  · rcases inv.recorded transaction done with stored | ⟨other,waiting,is,of_⟩
    · exact .inl stored
    · rcases List.mem_cons.mp ((without_perm at_).mem_iff.mpr waiting) with rfl | later
      · exact .inl ⟨e,there,by rw [same.1,same.2]; exact is,ours,(inv.owned e there).1.mp ours⟩
      · exact .inr ⟨other,later,is,of_⟩

theorem used_recorded (fresh : taken s payload = false) :
    t.used (t.record (s.without index) payload) "schema_created" =
      (if payload.orgId = t.orgId ∧ t.start ≤ payload.occurredAt.getD s.now ∧ payload.occurredAt.getD s.now ≤ t.finish ∧
        payload.eventType = "schema_created" then 1 else 0) + t.used s "schema_created" := by
  obtain ⟨-,one,-⟩ := inv.payloads payload (List.mem_of_getElem? at_)
  have ones : (eventOf t (s.without index) payload).quantity = 1 := one
  have before : t.used (s.without index) "schema_created" = t.used s "schema_created" := rfl
  rw [@record_fresh t (s.without index) payload fresh,used_cons,ones,before]
  rfl
theorem used_most (fresh : taken s payload = false) :
    t.used (t.record (s.without index) payload) "schema_created" + (s.without index).unrecorded ≤
      t.used s "schema_created" + s.unrecorded := by
  rw [used_recorded inv at_ fresh,unrecorded_without at_,Nat.cast_add]
  by_cases kind : payload.eventType = "schema_created"
  · rw [if_pos kind,Nat.cast_one]
    split <;> linarith
  · rw [if_neg kind,if_neg fun counts => kind counts.2.2.2,Nat.cast_zero]
    linarith

end

theorem schemas_before (inv : Inv t s) (before : s.now < t.start) : t.schemas s = 0 := by
  refine List.countP_eq_zero.mpr fun time listed within => ?_
  have early := inv.early time listed
  simp only [decide_eq_true_eq] at within
  omega

section

variable (inv : Inv t s) (at_ : s.recordings[index]? = some payload) (fresh : taken s payload = false)
include inv at_ fresh
theorem used_grows :
    t.used s "schema_created" ≤ t.used (t.record (s.without index) payload) "schema_created" := by
  rw [used_recorded inv at_ fresh]
  split <;> linarith

theorem used_counts (within : t.start ≤ s.now ∧ s.now ≤ t.finish) : t.used s "schema_created" + s.unrecorded =
      t.used (t.record (s.without index) payload) "schema_created" + (s.without index).unrecorded := by
  obtain ⟨own,-,schema⟩ := inv.payloads payload (List.mem_of_getElem? at_)
  rw [used_recorded inv at_ fresh,unrecorded_without at_,Nat.cast_add]
  by_cases kind : payload.eventType = "schema_created"
  · have time : payload.occurredAt.getD s.now = s.now := by
      rw [schema kind]
      rfl
    rw [if_pos kind,time,if_pos ⟨own,within.1,within.2,kind⟩,Nat.cast_one]
    ring
  · rw [if_neg kind,if_neg fun counts => kind counts.2.2.2,Nat.cast_zero]
    ring

theorem inv_recorded :
    Inv t (t.record (s.without index) payload) := by
  obtain ⟨own,one,schema⟩ := inv.payloads payload (List.mem_of_getElem? at_)
  have most := used_most inv at_ fresh
  have counted : s.now ≤ t.finish → (t.schemas s : ℚ) ≤
      t.used (t.record (s.without index) payload) "schema_created" + (s.without index).unrecorded := by
    intro within
    by_cases begun : t.start ≤ s.now
    · rw [← used_counts inv at_ fresh ⟨begun,within⟩]
      exact inv.counted within
    · rw [schemas_before inv (Nat.lt_of_not_le begun),Nat.cast_zero]
      obtain ⟨count,whole⟩ := used_whole inv "schema_created"
      have grows := used_grows inv at_ fresh
      rw [whole] at grows
      exact add_nonneg (le_trans count.cast_nonneg grows) (Nat.cast_nonneg _)
  have grown := @record_fresh t (s.without index) payload fresh
  rw [grown] at most counted ⊢
  refine ⟨?_,fun other waiting => inv.payloads other (List.mem_of_mem_eraseIdx waiting),?_,inv.early,inv.capped,counted,
    inv.unrefused,fun transaction done => ?_⟩
  · exact List.forall_mem_cons.mpr ⟨⟨iff_of_true own rfl,fun _ => one⟩,inv.owned⟩
  · exact le_trans (add_le_add_left most _) inv.room
  · rcases inv.recorded transaction done with ⟨e,there,is⟩ | ⟨other,waiting,is,of_⟩
    · exact .inl ⟨e,List.mem_cons_of_mem _ there,is⟩
    · rcases List.mem_cons.mp ((without_perm at_).mem_iff.mpr waiting) with rfl | later
      · exact .inl ⟨_,List.mem_cons_self,is,own,rfl⟩
      · exact .inr ⟨other,later,is,of_⟩

end
end

/-- A step that meets the condition keeps the room. -/
theorem step_inv (required : Bool) (s : State) (a : Action) (next : State) (inv : Inv t s) (meets : Meets t exempt s a)
    (taken : step t required exempt s a = some next) : Inv t next := by
  cases a with
  | tick ms =>
    cases taken
    exact inv_tick inv ms
  | request feature platformAdmin tie => exact inv_request inv meets taken
  | schemaCreated sourceId =>
    simp only [step] at taken
    split at taken
    · cases taken
    · rename_i under
      cases taken
      exact inv_created inv under sourceId
  | schemaFailed =>
    simp only [step] at taken
    split at taken
    · cases taken
    · cases taken
      exact inv_schemaFailed inv
  | completed transaction sourceId createdAt =>
    cases taken
    exact inv_completed inv transaction sourceId createdAt
  | record index =>
    obtain ⟨payload,at_,rfl⟩ := Option.map_eq_some_iff.mp taken
    have unique := meets payload (Option.mem_toList.mpr at_)
    cases known : PlanQuotas.taken s payload with
    | true =>
      rw [@record_taken t (s.without index) payload known]
      exact inv_again inv at_ known unique
    | false => exact inv_recorded inv at_ known
  | elsewhere event =>
    simp only [step] at taken
    split at taken
    · cases taken
    · rename_i other
      cases taken
      exact inv_elsewhere inv (fun own => other (.inl own)) fun own => other (.inr own)

theorem initial_inv (counted : 0 ≤ t.plan.includedSchemas) (now : Nat) : Inv t (t.initial now) := by
  have included : 0 ≤ includedUsage (some t.plan) .schemaCreate := by
    change (0 : ℚ) ≤ (t.plan.includedSchemas : ℚ)
    exact_mod_cast counted
  have unused : t.used (t.initial now) "schema_created" = 0 := by
    have none_ : (t.base.events.filter fun e => e.orgId = t.orgId && t.start ≤ e.occurredAt && e.occurredAt ≤ t.finish &&
        e.eventType = "schema_created") = [] := by
      refine List.filter_eq_nil_iff.mpr fun e listed counts => (t.foreign e listed).1 ?_
      simp only [Bool.and_eq_true,decide_eq_true_eq] at counts
      exact counts.1.1.1
    rw [Tenancy.used,usageTotal,Tenancy.initial,none_]
    rfl
  refine ⟨fun e listed => ?_,by rintro _ ⟨⟩,?_,by rintro _ ⟨⟩,?_,fun _ => ?_,by rintro _ ⟨⟩,by rintro _ ⟨⟩⟩
  · obtain ⟨other,foreign⟩ := t.foreign e listed
    exact ⟨iff_of_false other foreign,fun own => absurd own other⟩
  · rw [unused]
    simpa [Tenancy.initial,State.unrecorded] using included
  · simpa [Tenancy.initial,Tenancy.schemas] using included
  · rw [unused]
    simp [Tenancy.initial,Tenancy.schemas,State.unrecorded]

end

/-- Where admissions leave room for what is under way, schemas stay within the plan, no transaction is refused because of
    usage, and what is recorded beyond the plan is billed. -/
theorem quotas_along {t : Tenancy} (required : Bool) {exempt : List Nat}
    (counted : 0 ≤ t.plan.includedSchemas) (now : Nat)
    {actions : List Action} (along : Along (step t required exempt) (Meets t exempt) (t.initial now) actions) {s : State}
    (reached : run (step t required exempt) (t.initial now) actions = some s) : Quotas t s :=
  inv_quotas (run_keeps_along (step_inv required) (initial_inv counted now) along reached)
def businessPlan : Plan := ⟨1,1,1,none,none,none⟩
def business : Subscription :=
  ⟨"offer","business",.subscribed,none,some 0,some 10000,none,none,some 3,some 7,.activated,10,none⟩

/-- The organisation 7, whose plan includes one schema, one issuance and one verification. -/
def tenancy : Tenancy where
  base := ⟨AList.insert 1 business ∅,fun _ _ => some businessPlan,[],∅,∅,1000,none⟩
  orgId := 7
  id := 1
  subscription := business
  plan := businessPlan
  start := 0
  finish := 10000
  found := fun tie => by simp [Marketplace.getSubscriptionByOrgId,latest,business,Nat.mod_one]
  planned := rfl
  active := ⟨rfl,rfl⟩
  linked := rfl
  termStart := rfl
  termEnd := rfl
  features := lookup_default
  foreign := nofun

/-- One request after the other, each recorded before the next. -/
def oneByOne : List Action :=
  [.request .schemaCreate false 0,.schemaCreated "schema",.record 0,.request .issuance false 0,.completed .issuance "credential" none,
    .record 0,.request .schemaCreate false 0]
theorem quotas_oneByOne : (run (step tenancy true []) (tenancy.initial 1000) oneByOne).isSome = true ∧
    ∀ s, run (step tenancy true []) (tenancy.initial 1000) oneByOne = some s → Quotas tenancy s :=
  ⟨by decide +kernel,fun _ reached => quotas_along true (by decide) 1000 (by decide +kernel) reached⟩
/-- Both creations pass the guard before the first is recorded. -/
def together : List Action :=
  [.request .schemaCreate false 0,.request .schemaCreate false 0,.schemaCreated "first",.schemaCreated "second"]
def beyond : List Action :=
  [.request .issuance false 0,.completed .issuance "credential" none,.record 0,.request .issuance false 0]

theorem quotas_broken : (∃ s, run (step tenancy true []) (tenancy.initial 1000) together = some s ∧ ¬Quotas tenancy s) ∧
    ∃ s, run (step tenancy true []) (tenancy.initial 1000) beyond = some s ∧ ¬Quotas tenancy s := by
  constructor
  · have second : (run (step tenancy true []) (tenancy.initial 1000) together).any
      (fun s => tenancy.schemas s = 2) = true := by
      decide +kernel
    obtain ⟨s,reached,two⟩ := (Option.any_eq_true _ _).mp second
    refine ⟨s,reached,fun quotas => ?_⟩
    have capped := quotas.capped
    rw [of_decide_eq_true two] at capped
    exact absurd capped (by decide +kernel)
  · have refused : (run (step tenancy true []) (tenancy.initial 1000) beyond).any
        (fun s => (MarketplaceFeature.issuance,Code.issuanceLimitReached) ∈ s.refused) = true := by
      decide +kernel
    obtain ⟨s,reached,listed⟩ := (Option.any_eq_true _ _).mp refused
    exact ⟨s,reached,fun quotas => (quotas.unrefused _ (of_decide_eq_true listed)).1 rfl⟩

end Ngotag.PlanQuotas
