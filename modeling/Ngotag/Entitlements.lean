import Ngotag.Alone
import Ngotag.Metering
import Mathlib.Data.Finset.Max

/-!
`EntitlementService.getEntitlements` and which subscription it is about. Of the
subscriptions of an organisation the latest one is taken, cancelled or not. So
the live one decides exactly when every other one was created before it
(`live_decides_iff`); after a cancellation the order of creation can be another
(`cancelled_decides`).
-/
namespace Ngotag.Entitlements
open Await Marketplace Overage Metering

def defaultFeatures : List (String × Bool) :=
  [("schemaCreate",true),("credentialDefinitionCreate",true),("issuance",true),("bulkIssuance",true),
    ("verification",true),("apiAccess",true)]
/-- `{ ...defaultFeatures, ...features }` -/
def spread (defaults features : List (String × Bool)) : List (String × Bool) :=
  (defaults.map fun entry => (entry.1,((features.find? fun other => other.1 = entry.1).map Prod.snd).getD entry.2)) ++
    features.filter fun entry => !(defaults.any fun other => other.1 = entry.1)
def planFeatures (plan : Option Plan) : List (String × Bool) :=
  match plan.bind Plan.features with
  | none => defaultFeatures
  | some features => spread defaultFeatures features
def disableFeatures : List (String × Bool) := defaultFeatures.map fun entry => (entry.1,false)

inductive BlockedReason where
  | subscriptionRequired
  | activationRequired
  | subscriptionSuspended
  | subscriptionUnsubscribed
  | activationFailed
  deriving DecidableEq
def blockedReason (subscription : Subscription) : Option BlockedReason :=
  match subscription.saasSubscriptionStatus with
  | .pendingFulfillmentStart => some .activationRequired
  | .suspended => some .subscriptionSuspended
  | .unsubscribed => some .subscriptionUnsubscribed
  | .subscribed => if subscription.activationStatus = .failed then some .activationFailed else none

def eventTypeByDimension : List (Dimension × String) :=
  [(.setupFee,"organization_setup_completed"),(.issuanceTxn,"issuance_completed"),
    (.verificationTxn,"verification_completed"),(.schemaCreate,"schema_created")]
structure UsageOf where
  included : ℚ
  used : ℚ
  overage : ℚ
  deriving DecidableEq
/-- The sum of the quantities of an event type, as `getUsageTotals` groups them. -/
def usageTotal (events : List Event) (orgId start finish : Nat) (eventType : String) : ℚ :=
  ((events.filter fun e => e.orgId = orgId && start ≤ e.occurredAt && e.occurredAt ≤ finish && e.eventType = eventType).map
    Event.quantity).sum

def getUsage (w : World) (subscription : Subscription) (plan : Option Plan) : List (Dimension × UsageOf) :=
  eventTypeByDimension.map fun entry =>
    let used := subscription.orgId.elim 0 fun orgId =>
      usageTotal w.events orgId (termStart subscription w.now) (termEnd subscription w.now) entry.2
    let included := includedUsage plan entry.1
    (entry.1,⟨included,used,max (used - included) 0⟩)
structure Response where
  orgId : Nat
  subscription : Option (Nat × SubscriptionStatus × String)
  features : List (String × Bool)
  maxUsers : Option Int
  maxOrganizations : Option Int
  usage : List (Dimension × UsageOf)
  blockedReason : Option BlockedReason
  deriving DecidableEq
/-- `plan?.maxUsers || null` -/
def limit (value : Option Int) : Option Int := value.filter (· ≠ 0)

def entitlementOf (w : World) (orgId : Nat) (found : Nat × Subscription) : Response :=
  let subscription := found.2
  let plan := w.plans subscription.offerId subscription.planId
  let isActive := subscription.saasSubscriptionStatus = .subscribed ∧ subscription.activationStatus = .activated
  { orgId := orgId
    subscription := some (found.1,subscription.saasSubscriptionStatus,subscription.planId)
    features := if isActive then planFeatures plan else disableFeatures
    maxUsers := limit (plan.bind Plan.maxUsers)
    maxOrganizations := limit (plan.bind Plan.maxOrganizations)
    usage := getUsage w subscription plan
    blockedReason := if isActive then none else Entitlements.blockedReason subscription }

/-- `exempt` are the organisations of `MARKETPLACE_EXEMPT_ORG_IDS`, `required` is
    `MARKETPLACE_REQUIRED`. -/
def getEntitlements (exempt : List Nat) (required : Bool) (w : World) (orgId tie : Nat) : Response :=
  if orgId ∈ exempt then ⟨orgId,none,defaultFeatures,none,none,[],none⟩
  else
    match Marketplace.getSubscriptionByOrgId w.subscriptions orgId tie with
    | none =>
      ⟨orgId,none,if required then disableFeatures else defaultFeatures,none,none,[],
        if required then some .subscriptionRequired else none⟩
    | some found => entitlementOf w orgId found

section
variable {table : Subscriptions} {wanted : Nat → Subscription → Bool}

variable {row : Nat × Subscription}
theorem mem_rows :
    row ∈ (table.entries.map fun entry => (entry.1,entry.2)).filter (fun row => wanted row.1 row.2) ↔
      table.lookup row.1 = some row.2 ∧ wanted row.1 row.2 = true := by
  rw [List.mem_filter]
  refine and_congr_left fun _ => ?_
  constructor
  · intro member
    obtain ⟨entry,from_,rfl⟩ := List.mem_map.mp member
    exact AList.mem_lookup_iff.mpr from_
  · intro found
    exact List.mem_map.mpr ⟨⟨row.1,row.2⟩,AList.mem_lookup_iff.mp found,rfl⟩

theorem latest_spec {tie : Nat} (found : latest table wanted tie = some row) :
    (table.lookup row.1 = some row.2 ∧ wanted row.1 row.2 = true) ∧
      ∀ id other, table.lookup id = some other → wanted id other = true →
      other.createDateTime ≤ row.2.createDateTime := by
  obtain ⟨member,last⟩ := List.mem_filter.mp (List.mem_of_getElem? found)
  refine ⟨mem_rows.mp member,?_⟩
  intro id other known want
  simpa using List.all_eq_true.mp last (id,other) (mem_rows.mpr ⟨known,want⟩)

section

variable (known : table.lookup row.1 = some row.2) (want : wanted row.1 row.2 = true)
  (last : ∀ id other, table.lookup id = some other → wanted id other = true → other.createDateTime ≤ row.2.createDateTime)
include known want last
theorem mem_last :
    row ∈ ((table.entries.map fun entry => (entry.1,entry.2)).filter fun row => wanted row.1 row.2).filter
      fun row => ((table.entries.map fun entry => (entry.1,entry.2)).filter fun row => wanted row.1 row.2).all
        fun other => other.2.createDateTime ≤ row.2.createDateTime := by
  refine List.mem_filter.mpr ⟨mem_rows.mpr ⟨known,want⟩,List.all_eq_true.mpr fun other inside => ?_⟩
  obtain ⟨known',want'⟩ := mem_rows.mp inside
  exact decide_eq_true (last other.1 other.2 known' want')
theorem latest_tie : ∃ tie, latest table wanted tie = some row := by
  obtain ⟨i,small,at_⟩ := List.getElem_of_mem (mem_last known want last)
  refine ⟨i,?_⟩
  rw [latest,Nat.mod_eq_of_lt small,List.getElem?_eq_getElem small,at_]
end

theorem latest_found (wanted : Nat → Subscription → Bool) (known : table.lookup row.1 = some row.2)
    (want : wanted row.1 row.2 = true)
    (tie : Nat) : ∃ found, latest table wanted tie = some found := by
  obtain ⟨last,member,greatest⟩ := Finset.exists_max_image
    ((table.entries.map fun entry => (entry.1,entry.2)).filter fun row => wanted row.1 row.2).toFinset
    (fun row => row.2.createDateTime) ⟨row,List.mem_toFinset.mpr (mem_rows.mpr ⟨known,want⟩)⟩
  obtain ⟨known',want'⟩ := mem_rows.mp (List.mem_toFinset.mp member)
  have some_last := mem_last known' want' fun id other known want =>
    greatest (id,other) (List.mem_toFinset.mpr (mem_rows.mpr ⟨known,want⟩))
  have small := Nat.mod_lt tie (List.length_pos_of_mem some_last)
  exact ⟨_,List.getElem?_eq_getElem small⟩

end

/-- The answers are about the subscription, and new usage is attributed to it. -/
structure Decides (exempt : List Nat) (required : Bool) (w : World) (orgId : Nat) (live : Nat × Subscription) :
    Prop where
  entitlements : ∀ tie, getEntitlements exempt required w orgId tie = entitlementOf w orgId live
  attributed : ∀ (payload : Payload) choices ended, payload.orgId = orgId →
    alone (handle 0) (recordUsageEvent payload) choices w = some ended → ended.result = .ok () →
    ∀ e ∈ ended.world.events, e ∉ w.events → e.marketplaceSubscriptionId = some live.1
/-- The subscription is stored for the organisation and not deleted. -/
def Held (w : World) (orgId : Nat) (s : Nat × Subscription) : Prop :=
  w.subscriptions.lookup s.1 = some s.2 ∧ s.2.orgId = some orgId ∧ s.2.deletedAt = none
/-- One that is subscribed and activated. -/
structure Live (w : World) (orgId : Nat) (s : Nat × Subscription) : Prop where
  held : Held w orgId s
  subscribed : s.2.saasSubscriptionStatus = .subscribed
  activated : s.2.activationStatus = .activated

section
variable {w : World} {orgId : Nat} {live : Nat × Subscription}

theorem wanted_iff {id : Nat} {row : Subscription} (known : w.subscriptions.lookup id = some row) :
    (row.orgId = some orgId && row.deletedAt = none) = true ↔ Held w orgId (id,row) := by
  simp [Held,known]

/-- Whatever order rows of the same time come in, the live subscription is found
    exactly when every other one was created before it. -/
theorem always_found_iff (held : Held w orgId live) :
    (∀ tie, Marketplace.getSubscriptionByOrgId w.subscriptions orgId tie = some live) ↔
      ∀ other, Held w orgId other → other.1 ≠ live.1 → other.2.createDateTime < live.2.createDateTime := by
  constructor
  · intro always other otherHeld different
    by_contra late
    have newest := (latest_spec (always 0)).2
    obtain ⟨tie,found⟩ := latest_tie otherHeld.1 ((wanted_iff otherHeld.1).mpr otherHeld)
      fun id row known want => (newest id row known want).trans (not_lt.mp late)
    have equal := (always tie).symm.trans found
    exact different (Option.some.inj equal ▸ rfl)
  · intro earlier tie
    obtain ⟨found,picked⟩ := latest_found (fun _ row => row.orgId = some orgId && row.deletedAt = none) held.1
      ((wanted_iff held.1).mpr held) tie
    obtain ⟨⟨known,want⟩,newest⟩ := latest_spec picked
    have same : found.1 = live.1 := by
      by_contra different
      have before := earlier found ((wanted_iff known).mp want) different
      exact absurd (newest live.1 live.2 held.1 ((wanted_iff held.1).mpr held)) (not_le.mpr before)
    have row : found.2 = live.2 := Option.some.inj (known.symm.trans (same ▸ held.1))
    rw [Marketplace.getSubscriptionByOrgId,picked,Option.some.injEq]
    exact Prod.ext same row

theorem recorded_to {payload : Payload} {choices : List Choice} {ended : Ended Cmd World Choice Failure Unit}
    (found : ∀ tie, Marketplace.getSubscriptionByOrgId w.subscriptions payload.orgId tie = some live)
    (ran : alone (handle 0) (recordUsageEvent payload) choices w = some ended) (returned : ended.result = .ok ())
    {e : Event} (member : e ∈ ended.world.events) (new_ : e ∉ w.events) : e.marketplaceSubscriptionId = some live.1 := by
  cases choices with
  | nil => cases ran
  | cons choice rest =>
    rcases alone_step ran with ⟨middle,answer,last,read,ran,rfl⟩ | ⟨_,_,_,rfl⟩
    swap
    · cases returned
    obtain ⟨rfl,rfl⟩ := reads_ok (β := Option (Nat × Subscription)) read
    obtain ⟨choice,_,after,answer,_,written,rfl⟩ := alone_call ran
    rw [found] at written
    cases returned
    have stored : after = record payload (some live.1) middle := by
      change writes choice middle (record payload (some live.1) middle) = some (after,.ok ()) at written
      rw [writes] at written
      split at written <;> cases written
      rfl
    change e ∈ after.events at member
    rw [stored,record] at member
    split at member
    · exact absurd member new_
    · rcases List.mem_cons.mp member with rfl | old
      · rfl
      · exact absurd old new_

/-- The live subscription decides exactly when the organisation is not exempt and
    every other subscription of it was created before. -/
theorem live_decides_iff (exempt : List Nat) (required : Bool) (isLive : Live w orgId live) :
    Decides exempt required w orgId live ↔
      orgId ∉ exempt ∧ ∀ other, Held w orgId other → other.1 ≠ live.1 →
      other.2.createDateTime < live.2.createDateTime := by
  rw [← always_found_iff isLive.held]
  constructor
  · intro decides
    have listed : orgId ∉ exempt := by
      intro member
      have answer := decides.entitlements 0
      rw [getEntitlements,if_pos member] at answer
      exact absurd (congrArg Response.subscription answer) (by rintro ⟨⟩)
    refine ⟨listed,fun tie => ?_⟩
    have answer := congrArg Response.subscription (decides.entitlements tie)
    rw [getEntitlements,if_neg listed] at answer
    cases picked : Marketplace.getSubscriptionByOrgId w.subscriptions orgId tie with
    | none => rw [picked] at answer; cases answer
    | some found =>
      rw [picked] at answer
      change some (found.1,_) = some (live.1,_) at answer
      rw [Option.some.injEq,Prod.mk.injEq] at answer
      have same := answer.1
      have known := (latest_spec picked).1.1
      rw [same,isLive.held.1,Option.some.injEq] at known
      exact congrArg some (Prod.ext same known.symm)
  · rintro ⟨listed,found⟩
    refine ⟨fun tie => ?_,?_⟩
    · rw [getEntitlements,if_neg listed,found tie]
    · rintro payload choices ended rfl ran returned e member new_
      exact recorded_to found ran returned member new_

end
def ofSeven (status : SubscriptionStatus) (planId : String) (createDateTime : Nat) : Subscription :=
  ⟨"offer",planId,status,none,none,none,none,none,some 3,some 7,.activated,createDateTime,none⟩

def relinked (first second : Nat) : World :=
  ⟨AList.insert 1 (ofSeven .subscribed "business" first) (AList.insert 2 (ofSeven .unsubscribed "starter" second) ∅),
    fun _ _ => none,[],∅,∅,1000,none⟩
theorem relinked_live (first second : Nat) : Live (relinked first second) 7 (1,ofSeven .subscribed "business" first) :=
  ⟨⟨AList.lookup_insert _,rfl,rfl⟩,rfl,rfl⟩
theorem relinked_held {first second : Nat} {other : Nat × Subscription} (held : Held (relinked first second) 7 other)
    (different : other.1 ≠ 1) : other.2 = ofSeven .unsubscribed "starter" second := by
  have known := held.1
  rw [relinked,AList.lookup_insert_ne different] at known
  by_cases second : other.1 = 2
  · rw [second,AList.lookup_insert,Option.some.injEq] at known
    exact known.symm
  · rw [AList.lookup_insert_ne second] at known
    cases known
/-- The cancelled subscription was the earlier one. -/
theorem live_decides_iff_resubscribed : Decides [] true (relinked 20 10) 7 (1,ofSeven .subscribed "business" 20) := by
  refine (live_decides_iff [] true (relinked_live 20 10)).mpr ⟨List.not_mem_nil,?_⟩
  intro other held different
  rw [relinked_held held different]
  decide
/-- The cancelled subscription was created after the one that is live now. -/
theorem cancelled_decides : ¬∀ (w : World) (orgId : Nat) (live : Nat × Subscription), Live w orgId live →
    (∀ other, Held w orgId other → other.1 ≠ live.1 → other.2.saasSubscriptionStatus = .unsubscribed) →
    Decides [] true w orgId live := by
  intro always
  have decides := always (relinked 10 20) 7 _ (relinked_live 10 20) fun other held different => by
    rw [relinked_held held different]
    rfl
  exact absurd (decides.entitlements 0) (by decide)

end Ngotag.Entitlements
