import Ngotag.BuyerAccess
import Ngotag.Disclosure
import Ngotag.Entitlements
import Mathlib.Data.List.Sort
import Mathlib.Tactic.Linarith

/-!
Who sees what of the marketplace. Six requests of the gateway take the id of a
session, of a subscription or of an organisation. With each the gateway sends the
id of the user who is signed in, and the service reads it in none. So a sequence
of them is private exactly when the user asks for nothing but what concerns him
(`private_iff`); whoever knows the id of a subscription reads the addresses of
its buyers (`stranger_reads`).
-/
namespace Ngotag.MarketplacePrivacy
open Runs Disclosure Marketplace Overage Metering Entitlements
open Onboarding (Config Session Sessions Resolved NextAction expectedEmails nextAction occupies collides refreshed)

/-- `reqUser`, and whether `isPlatformAdmin` holds of it. -/
structure User where
  id : Nat
  email : Option String
  platformAdmin : Bool
structure Setting where
  config : Config
  /-- `MARKETPLACE_ENABLED` -/
  enabled : Bool
  /-- `MARKETPLACE_REQUIRED` -/
  required : Bool
  /-- `MARKETPLACE_EXEMPT_ORG_IDS` -/
  exempt : List Nat

/-- The tables, with the index and the foreign keys they are kept under, and the
    members of the organisations. -/
structure State where
  tables : World
  sessions : Sessions
  members : Nat → List Nat
  active_org_unique : ∀ id id' row row' orgId, tables.subscriptions.lookup id = some row →
    tables.subscriptions.lookup id' = some row' → occupies orgId row = true → occupies orgId row' = true → id = id'
  session_fkey : ∀ id session, sessions.lookup id = some session →
    ∃ row, tables.subscriptions.lookup session.subscription = some row
  usage_fkey : ∀ key row, tables.usage.lookup key = some row →
    ∃ subscription, tables.subscriptions.lookup key.subscription = some subscription

abbrev State.subscriptions (s : State) : Subscriptions := s.tables.subscriptions

/-- `toSubscriptionSummary`, but for the name and the renewal. -/
structure Summary where
  subscriptionId : Nat
  offerId : String
  planId : String
  saasSubscriptionStatus : SubscriptionStatus
  localActivationStatus : ActivationStatus
  linkedOrgId : Option Nat
  purchaserEmail : Option String
  beneficiaryEmail : Option String
  quantity : Option Int
  termStartDate : Option Nat
  termEndDate : Option Nat
  deriving DecidableEq

def toSubscriptionSummary (id : Nat) (subscription : Subscription) : Summary where
  subscriptionId := id
  offerId := subscription.offerId
  planId := subscription.planId
  saasSubscriptionStatus := subscription.saasSubscriptionStatus
  localActivationStatus := subscription.activationStatus
  linkedOrgId := subscription.orgId
  purchaserEmail := subscription.purchaserEmail
  beneficiaryEmail := subscription.beneficiaryEmail
  quantity := subscription.quantity
  termStartDate := subscription.termStartDate
  termEndDate := subscription.termEndDate

structure SessionView where
  id : Nat
  status : Onboarding.OnboardingStatus
  expiresAt : Nat
  nextAction : NextAction
  linkedOrgId : Option Nat
  subscription : Summary
  deriving DecidableEq
structure DimensionUsage where
  dimension : Dimension
  displayName : String
  included : ℚ
  used : ℚ
  overage : ℚ
  pendingSubmission : ℚ
  acceptedByMicrosoft : ℚ
  deriving DecidableEq
structure UsageSummary where
  start : Nat
  finish : Nat
  dimensions : List DimensionUsage
  deriving DecidableEq
inductive Reply where
  | session (view : SessionView)
  | subscription (summary : Summary)
  | entitlements (response : Response)
  /-- `PLATFORM_ADMIN_ENTITLEMENTS` -/
  | allGranted (orgId : Nat)
  | usageSummary (summary : UsageSummary)
  | meteringEvents (rows : List (UsageKey × UsageRow))
  deriving DecidableEq
abbrev Answer := Except Onboarding.Failure Reply

def getOnboardingSession (s : State) (sessionId : Nat) : Answer :=
  match s.sessions.lookup sessionId with
  | none => .error .sessionMissing
  | some session =>
    match s.subscriptions.lookup session.subscription with
    | none => .error .sessionMissing
    | some subscription =>
      if session.expiresAt < s.tables.now then .error .sessionMissing
      else .ok (.session ⟨sessionId,session.status,session.expiresAt,nextAction subscription,subscription.orgId,
        toSubscriptionSummary session.subscription subscription⟩)

def getSubscription (s : State) (subscriptionId : Nat) : Answer :=
  match s.subscriptions.lookup subscriptionId with
  | none => .error .subscriptionNotFound
  | some subscription => .ok (.subscription (toSubscriptionSummary subscriptionId subscription))

def State.stored (s : State) (id : Nat) (row : Subscription) (free : collides s.subscriptions id row = false) :
    State where
  tables := { s.tables with subscriptions := s.subscriptions.insert id row }
  sessions := s.sessions
  members := s.members
  active_org_unique := by
    have here (other : Nat) (row' : Subscription) (orgId : Nat)
        (known : (s.subscriptions.insert id row).lookup other = some row') (first : occupies orgId row = true)
        (second : occupies orgId row' = true) : other = id := by
      by_contra different
      rw [AList.lookup_insert_ne different] at known
      rw [Onboarding.collides_false free known different first] at second
      cases second
    intro a b row' row'' orgId known known' first second
    by_cases one : a = id
    · subst one
      rw [AList.lookup_insert,Option.some.injEq] at known
      exact (here b row'' orgId known' (known ▸ first) second).symm
    · by_cases two : b = id
      · subst two
        rw [AList.lookup_insert,Option.some.injEq] at known'
        exact here a row' orgId known (known' ▸ second) first
      · rw [AList.lookup_insert_ne one] at known
        rw [AList.lookup_insert_ne two] at known'
        exact s.active_org_unique a b row' row'' orgId known known' first second
  session_fkey sessionId session known := by
    obtain ⟨old,found⟩ := s.session_fkey sessionId session known
    by_cases same : session.subscription = id
    · exact ⟨row,same ▸ AList.lookup_insert _⟩
    · exact ⟨old,(AList.lookup_insert_ne same).trans found⟩
  usage_fkey key usage known := by
    obtain ⟨old,found⟩ := s.usage_fkey key usage known
    by_cases same : key.subscription = id
    · exact ⟨row,same ▸ AList.lookup_insert _⟩
    · exact ⟨old,(AList.lookup_insert_ne same).trans found⟩

/-- `latest` is what Microsoft answers. -/
def refreshSubscription (s : State) (latest : Except Onboarding.Failure Resolved) : Answer × State :=
  match latest with
  | .error error => (.error error,s)
  | .ok latest =>
    match s.subscriptions.lookup latest.id with
    | none => (.error .noRow,s)
    | some row =>
      if free : collides s.subscriptions latest.id (refreshed latest row) = false then
        (.ok (.subscription (toSubscriptionSummary latest.id (refreshed latest row))),
          s.stored latest.id (refreshed latest row) free)
      else (.error .p2002,s)

def displayNameForDimension : Dimension → String
  | .setupFee => "One-time setup fee"
  | .issuanceTxn => "Credential issuance"
  | .verificationTxn => "Credential verification"
  | .schemaCreate => "Schema creation"
/-- The total of a dimension and a status, 0 where no row has them. -/
def getMeteringTotalsByDimension (s : State) (orgId : Nat) (dimension : Dimension) (status : UsageStatus) : ℚ :=
  ((s.tables.usage.entries.filter fun entry =>
    entry.2.orgId = orgId && entry.1.dimension = dimension && entry.2.status = status).map fun entry =>
        entry.2.quantity).sum

def getUsageSummary (setting : Setting) (s : State) (orgId tie : Nat) : UsageSummary where
  start := monthStart s.tables.now
  finish := s.tables.now
  dimensions := (getEntitlements setting.exempt setting.required s.tables orgId tie).usage.map fun entry =>
    { dimension := entry.1
      displayName := displayNameForDimension entry.1
      included := entry.2.included
      used := entry.2.used
      overage := entry.2.overage
      pendingSubmission := getMeteringTotalsByDimension s orgId entry.1 .pending +
        getMeteringTotalsByDimension s orgId entry.1 .failed
      acceptedByMicrosoft := getMeteringTotalsByDimension s orgId entry.1 .accepted +
        getMeteringTotalsByDimension s orgId entry.1 .duplicate }

/-- `orderBy: { usageStartTime: 'desc' }, take: 50`; rows of the same time come as they
    are stored. -/
def listMeteringEvents (s : State) (orgId : Nat) : List (UsageKey × UsageRow) :=
  (((s.tables.usage.entries.filter fun entry => entry.2.orgId = orgId).map fun entry => (entry.1,entry.2)).insertionSort
    fun a b => b.1.usageStartTime ≤ a.1.usageStartTime).take 50
inductive Call where
  | getOnboardingSession (sessionId : Nat)
  | getSubscription (subscriptionId : Nat)
  | refreshSubscription (subscriptionId : Nat)
  | getEntitlements (orgId : Nat)
  | getUsageSummary (orgId : Nat) (period : Option String)
  | getMeteringEvents (orgId : Nat)
structure Message where
  call : Call
  userId : Nat
/-- A call with which of several rows comes first, and what Microsoft answers. -/
structure Request where
  call : Call
  tie : Nat
  latest : Except Onboarding.Failure Resolved
/-- The handlers of the service. No one reads `userId`. -/
def serve (setting : Setting) (s : State) (tie : Nat) (latest : Except Onboarding.Failure Resolved)
    (message : Message) : Answer × State :=
  match message.call with
  | .getOnboardingSession sessionId => (MarketplacePrivacy.getOnboardingSession s sessionId,s)
  | .getSubscription subscriptionId => (MarketplacePrivacy.getSubscription s subscriptionId,s)
  | .refreshSubscription _ => MarketplacePrivacy.refreshSubscription s latest
  | .getEntitlements orgId =>
      (.ok (.entitlements (Entitlements.getEntitlements setting.exempt setting.required s.tables orgId tie)),s)
  | .getUsageSummary orgId _ => (.ok (.usageSummary (MarketplacePrivacy.getUsageSummary setting s orgId tie)),s)
  | .getMeteringEvents orgId => (.ok (.meteringEvents (listMeteringEvents s orgId)),s)
/-- The controller. It answers one of the requests itself, where nothing is billed. -/
def respond (setting : Setting) (user : User) (s : State) (request : Request) : Answer × State :=
  match request.call with
  | .getEntitlements orgId =>
    if user.platformAdmin = true ∨ setting.enabled = false then (.ok (.allGranted orgId),s)
    else serve setting s request.tie request.latest ⟨.getEntitlements orgId,user.id⟩
  | call => serve setting s request.tie request.latest ⟨call,user.id⟩
/-- The user is the linked account, by e-mail the purchaser or the beneficiary, or a
    member of the linked organisation. The e-mails are compared as `linkAccount` does. -/
def Concerns (setting : Setting) (members : Nat → List Nat) (user : User) (row : Subscription) : Prop :=
  row.localUserId = some user.id ∨
    setting.config.toLowerCase (user.email.getD "") ∈ expectedEmails setting.config row ∨
    ∃ orgId ∈ row.orgId, user.id ∈ members orgId
instance (setting : Setting) (members : Nat → List Nat) (user : User) (row : Subscription) :
    Decidable (Concerns setting members user row) :=
  inferInstanceAs (Decidable (_ ∨ _ ∨ _))

section
variable (setting : Setting) (user : User) (s : State)

/-- The subscription concerns the user. -/
def Own (id : Nat) : Prop := ∃ row ∈ s.subscriptions.lookup id, Concerns setting s.members user row
instance (id : Nat) :
    Decidable (Own setting user s id) := inferInstanceAs (Decidable (∃ row ∈ s.subscriptions.lookup id, _))
def ownRow (entry : Sigma fun _ : Nat => Subscription) : Bool := Concerns setting s.members user entry.2
/-- Usage and events are their organisation's and their subscription's. -/
def ownUsage (entry : Sigma fun _ : UsageKey => UsageRow) : Bool :=
  user.id ∈ s.members entry.2.orgId ∨ Own setting user s entry.1.subscription
def ownEvent (e : Event) : Bool :=
  user.id ∈ s.members e.orgId ∨ ∃ id ∈ e.marketplaceSubscriptionId, Own setting user s id

/-- The states differ in what does not concern the user: other subscriptions are there
    or are not, and have whatever sessions, usage and events. -/
structure Alike (s' : State) : Prop where
  members : s'.members = s.members
  plans : s'.tables.plans = s.tables.plans
  now : s'.tables.now = s.tables.now
  subscriptions : s'.subscriptions.entries.filter (ownRow setting user s) = s.subscriptions.entries.filter
      (ownRow setting user s)
  sessions : ∀ id session, Own setting user s session.subscription →
    (s'.sessions.lookup id = some session ↔ s.sessions.lookup id = some session)
  usage : s'.tables.usage.entries.filter (ownUsage setting user s) = s.tables.usage.entries.filter
      (ownUsage setting user s)
  events : s'.tables.events.filter (ownEvent setting user s) = s.tables.events.filter (ownEvent setting user s)

/-- No subscription that does not concern the user is changed. -/
def Untouched (request : Request) : Prop :=
  ∀ id row, s.subscriptions.lookup id = some row → ¬Concerns setting s.members user row →
    (respond setting user s request).2.subscriptions.lookup id = some row
end

/-- Each request, in the state it comes in, is answered without regard to what does not
    concern the user, and changes nothing of it; and all together they are. -/
structure Private (setting : Setting) (user : User) (s : State) (requests : List Request) : Prop where
  each : Along (Disclosure.step (respond setting user)) (fun s request =>
    Discreet (respond setting user) (Alike setting user) s request ∧ Untouched setting user s request) s requests
  together : ∀ s', Alike setting user s s' →
    answers (respond setting user) s' requests = answers (respond setting user) s requests

section
variable (setting : Setting) (user : User) (s : State)

/-- The index lets the row in, or not, whatever other rows there are that do not concern
    the user. -/
def Seated (latest : Resolved) (row : Subscription) : Prop :=
  latest.saasSubscriptionStatus ≠ .unsubscribed → row.deletedAt = none → ∀ orgId ∈ row.orgId,
    user.id ∈ s.members orgId ∨ occupies orgId row = true ∨
      ∃ id other, id ≠ latest.id ∧ s.subscriptions.lookup id = some other ∧ Concerns setting s.members user other ∧
        occupies orgId other = true

/-- What the request is for concerns the user, where it is not answered the same for all. -/
def Meets (request : Request) : Prop :=
  match request.call with
  | .getOnboardingSession sessionId => ∃ session ∈ s.sessions.lookup sessionId, Own setting user s session.subscription
  | .getSubscription subscriptionId => Own setting user s subscriptionId
  | .refreshSubscription _ => ∀ latest, request.latest = .ok latest →
      ∃ row ∈ s.subscriptions.lookup latest.id, Concerns setting s.members user row ∧ Seated setting user s latest row
  | .getEntitlements orgId => setting.enabled = false ∨ orgId ∈ setting.exempt ∨ user.id ∈ s.members orgId
  | .getUsageSummary orgId _ => orgId ∈ setting.exempt ∨ user.id ∈ s.members orgId
  | .getMeteringEvents orgId => user.id ∈ s.members orgId

end
section
variable {setting : Setting} {user : User} {s s' t : State}

variable {row : Subscription}
theorem occupies_iff {orgId : Nat} :
    occupies orgId row = true ↔ row.orgId = some orgId ∧ row.deletedAt = none ∧
    row.saasSubscriptionStatus ≠ .unsubscribed := by
  simp [occupies,and_assoc]

variable {id : Nat}
theorem collides_iff {table : Subscriptions} :
    collides table id row = true ↔ ∃ orgId other row', occupies orgId row = true ∧ other ≠ id ∧
      table.lookup other = some row' ∧ occupies orgId row' = true := by
  constructor
  · intro clash
    obtain ⟨entry,member,both⟩ := List.any_eq_true.mp clash
    rw [Bool.and_eq_true,decide_eq_true_eq] at both
    obtain ⟨orgId,-,occupied⟩ := (Option.any_eq_true _ _).mp both.2
    rw [Bool.and_eq_true] at occupied
    exact ⟨orgId,entry.1,entry.2,occupied.1,both.1,AList.mem_lookup_iff.mpr member,occupied.2⟩
  · rintro ⟨orgId,other,row',first,different,known,second⟩
    by_contra free
    rw [Onboarding.collides_false (Bool.eq_false_iff.mpr free) known different first] at second
    cases second

theorem concerns_member {orgId : Nat} (member : user.id ∈ s.members orgId) (linked : row.orgId = some orgId) :
    Concerns setting s.members user row :=
  .inr (.inr ⟨orgId,linked,member⟩)
theorem Alike.lookup (close : Alike setting user s s') (mine : Concerns setting s.members user row) :
    s'.subscriptions.lookup id = some row ↔ s.subscriptions.lookup id = some row :=
  lookup_of_own close.subscriptions (decide_eq_true mine)
theorem Alike.own (close : Alike setting user s s') (id : Nat) : Own setting user s' id ↔ Own setting user s id := by
  constructor
  · rintro ⟨row,known,mine⟩
    rw [close.members] at mine
    exact ⟨row,(close.lookup mine).mp known,mine⟩
  · rintro ⟨row,known,mine⟩
    refine ⟨row,(close.lookup mine).mpr known,?_⟩
    rw [close.members]
    exact mine

theorem Alike.trans (first : Alike setting user s t) (second : Alike setting user t s') : Alike setting user s s' := by
  have rows : ownRow setting user t = ownRow setting user s := by
    funext entry
    rw [ownRow,ownRow,first.members]
  have usages : ownUsage setting user t = ownUsage setting user s := by
    funext entry
    simp only [ownUsage,first.members,first.own]
  have events : ownEvent setting user t = ownEvent setting user s := by
    funext e
    simp only [ownEvent,first.members,first.own]
  constructor
  · exact second.members.trans first.members
  · exact second.plans.trans first.plans
  · exact second.now.trans first.now
  · exact (rows ▸ second.subscriptions).trans first.subscriptions
  · exact fun id session mine => (second.sessions id session ((first.own _).mpr mine)).trans
      (first.sessions id session mine)
  · exact (usages ▸ second.usage).trans first.usage
  · exact (events ▸ second.events).trans first.events

section

variable (close : Alike setting user s s')
include close
theorem subscription_alike {orgId : Nat} (member : user.id ∈ s.members orgId) (tie : Nat) :
    getSubscriptionByOrgId s'.subscriptions orgId tie = getSubscriptionByOrgId s.subscriptions orgId tie := by
  have rows : s'.subscriptions.entries.filter
      (fun entry => decide (entry.2.orgId = some orgId) && decide (entry.2.deletedAt = none)) =
      s.subscriptions.entries.filter fun entry => decide (entry.2.orgId = some orgId) && decide
      (entry.2.deletedAt = none) := by
    refine shown_of_own (fun entry shown => ?_) close.subscriptions
    rw [Bool.and_eq_true,decide_eq_true_eq] at shown
    exact decide_eq_true (concerns_member member shown.1)
  simp only [getSubscriptionByOrgId,latest,List.filter_map]
  simp only [Function.comp_def]
  rw [rows]
theorem usageTotal_alike {orgId : Nat} (member : user.id ∈ s.members orgId)
    (start finish : Nat) (eventType : String) :
    usageTotal s'.tables.events orgId start finish eventType = usageTotal s.tables.events orgId start finish
        eventType := by
  have rows :=
      shown_of_own (fun (e : Event) (shown : (e.orgId = orgId && start ≤ e.occurredAt && e.occurredAt ≤ finish &&
      e.eventType = eventType) = true) => by
    simp only [Bool.and_eq_true,decide_eq_true_eq] at shown
    exact decide_eq_true (.inl (shown.1.1.1 ▸ member))) close.events
  rw [usageTotal,usageTotal,rows]
theorem getUsage_alike {orgId : Nat} (linked : row.orgId = some orgId)
    (member : user.id ∈ s.members orgId) (plan : Option Plan) :
    getUsage s'.tables row plan = getUsage s.tables row plan := by
  simp only [getUsage,linked,Option.elim_some,close.now,usageTotal_alike close member]

theorem entitlements_alike {orgId : Nat} (allowed : orgId ∈ setting.exempt ∨ user.id ∈ s.members orgId) (tie : Nat) :
    Entitlements.getEntitlements setting.exempt setting.required s'.tables orgId tie =
      Entitlements.getEntitlements setting.exempt setting.required s.tables orgId tie := by
  by_cases exempt : orgId ∈ setting.exempt
  · rw [Entitlements.getEntitlements,Entitlements.getEntitlements,if_pos exempt,if_pos exempt]
  · have member := allowed.resolve_left exempt
    rw [Entitlements.getEntitlements,Entitlements.getEntitlements,if_neg exempt,if_neg exempt]
    have found : getSubscriptionByOrgId s'.tables.subscriptions orgId tie =
        getSubscriptionByOrgId s.tables.subscriptions orgId tie :=
      subscription_alike close member tie
    rw [found]
    cases picked : getSubscriptionByOrgId s.tables.subscriptions orgId tie with
    | none => rfl
    | some row =>
      have wanted := (latest_spec picked).1.2
      rw [Bool.and_eq_true,decide_eq_true_eq] at wanted
      simp only [entitlementOf,close.plans,getUsage_alike close wanted.1 member]

theorem totals_alike {orgId : Nat} (member : user.id ∈ s.members orgId) (dimension : Dimension)
    (status : UsageStatus) :
    getMeteringTotalsByDimension s' orgId dimension status = getMeteringTotalsByDimension s orgId dimension status := by
  have rows := shown_of_own (fun (entry : Sigma fun _ : UsageKey => UsageRow) (shown : (entry.2.orgId = orgId &&
      entry.1.dimension = dimension && entry.2.status = status) = true) => by
    simp only [Bool.and_eq_true,decide_eq_true_eq] at shown
    exact decide_eq_true (.inl (shown.1.1 ▸ member))) close.usage
  rw [getMeteringTotalsByDimension,getMeteringTotalsByDimension,rows]
theorem summary_alike {orgId : Nat} (allowed : orgId ∈ setting.exempt ∨ user.id ∈ s.members orgId) (tie : Nat) :
    getUsageSummary setting s' orgId tie = getUsageSummary setting s orgId tie := by
  simp only [getUsageSummary,close.now,entitlements_alike close allowed]
  by_cases exempt : orgId ∈ setting.exempt
  · simp only [Entitlements.getEntitlements,if_pos exempt,List.map_nil]
  · simp only [totals_alike close (allowed.resolve_left exempt)]
theorem meteringEvents_alike {orgId : Nat} (member : user.id ∈ s.members orgId) :
    listMeteringEvents s' orgId = listMeteringEvents s orgId := by
  have rows :=
      shown_of_own (fun (entry : Sigma fun _ : UsageKey => UsageRow) (shown : decide (entry.2.orgId = orgId) = true) =>
    decide_eq_true (.inl (of_decide_eq_true shown ▸ member))) close.usage
  rw [listMeteringEvents,listMeteringEvents,rows]

end

variable {sessionId : Nat} {session : Session}
theorem session_alike (close : Alike setting user s s')
    (known : s.sessions.lookup sessionId = some session) (mine : Own setting user s session.subscription) :
    getOnboardingSession s' sessionId = getOnboardingSession s sessionId := by
  have known' := (close.sessions sessionId session mine).mpr known
  obtain ⟨row,found,concerns⟩ := mine
  have found' := (close.lookup concerns).mpr found
  rw [Option.mem_def] at found
  simp only [getOnboardingSession,known,known',found,found',close.now]

variable {latest : Resolved}
theorem refreshed_occupies {orgId : Nat} :
    occupies orgId (refreshed latest row) = true ↔
      row.orgId = some orgId ∧ row.deletedAt = none ∧ latest.saasSubscriptionStatus ≠ .unsubscribed :=
  occupies_iff

theorem collides_alike (close : Alike setting user s s')
    (known : s.subscriptions.lookup latest.id = some row) (mine : Concerns setting s.members user row)
    (seated : Seated setting user s latest row) :
    collides s'.subscriptions latest.id (refreshed latest row) = collides s.subscriptions latest.id
        (refreshed latest row) := by
  have known' := (close.lookup mine).mpr known
  rw [Bool.eq_iff_iff,collides_iff,collides_iff]
  refine exists_congr fun orgId => ?_
  by_cases taken : occupies orgId (refreshed latest row) = true
  · obtain ⟨linked,present,live⟩ := refreshed_occupies.mp taken
    rcases seated live present orgId linked with member | already | ⟨id,other,different,found,own,second⟩
    · refine exists_congr fun id => exists_congr fun other => and_congr_right fun _ => and_congr_right fun _ => ?_
      exact and_congr_left fun occupied => close.lookup (concerns_member member (occupies_iff.mp occupied).1)
    · -- The row is the one that has the organisation, in both.
      refine iff_of_false ?_ ?_
      · rintro ⟨id,other,-,different,found,second⟩
        exact different (s'.active_org_unique _ _ _ _ orgId found known' second already)
      · rintro ⟨id,other,-,different,found,second⟩
        exact different (s.active_org_unique _ _ _ _ orgId found known second already)
    · exact iff_of_true ⟨id,other,taken,different,(close.lookup own).mpr found,second⟩
        ⟨id,other,taken,different,found,second⟩
  · exact iff_of_false (fun ⟨_,_,first,_⟩ => taken first) fun ⟨_,_,first,_⟩ => taken first

theorem stored_own {row old : Subscription} {free : collides s.subscriptions id row = false}
    (known : s.subscriptions.lookup id = some old) (mine : Concerns setting s.members user old) {other : Nat}
    (own : Own setting user (s.stored id row free) other) : Own setting user s other := by
  obtain ⟨found,listed,concerns⟩ := own
  by_cases same : other = id
  · exact ⟨old,same ▸ known,mine⟩
  · change (s.subscriptions.insert id row).lookup other = some found at listed
    rw [AList.lookup_insert_ne same] at listed
    exact ⟨found,listed,concerns⟩

theorem stored_alike (close : Alike setting user s s') {row old : Subscription}
    (free : collides s.subscriptions id row = false) (free' : collides s'.subscriptions id row = false)
    (known : s.subscriptions.lookup id = some old) (mine : Concerns setting s.members user old) :
    Alike setting user (s.stored id row free) (s'.stored id row free') where
  members := close.members
  plans := close.plans
  now := close.now
  subscriptions := own_insert close.subscriptions
  sessions sessionId session own := close.sessions sessionId session (stored_own known mine own)
  usage := by
    refine shown_of_own (fun entry shown => ?_) close.usage
    exact decide_eq_true ((of_decide_eq_true shown).imp_right (stored_own known mine))
  events := by
    refine shown_of_own (fun e shown => ?_) close.events
    exact decide_eq_true ((of_decide_eq_true shown).imp_right fun ⟨id,named,own⟩ => ⟨id,named,stored_own known mine own⟩)

variable {answer : Except Onboarding.Failure Resolved}
theorem refresh_alike (close : Alike setting user s s') (meets : ∀ latest, answer = .ok latest →
      ∃ row ∈ s.subscriptions.lookup latest.id, Concerns setting s.members user row ∧ Seated setting user s latest row) :
    (refreshSubscription s' answer).1 = (refreshSubscription s answer).1 ∧
      Alike setting user (refreshSubscription s answer).2 (refreshSubscription s' answer).2 := by
  cases answer with
  | error error => exact ⟨rfl,close⟩
  | ok latest =>
    obtain ⟨row,known,mine,seated⟩ := meets latest rfl
    rw [Option.mem_def] at known
    have known' := (close.lookup mine).mpr known
    have index := collides_alike close known mine seated
    simp only [refreshSubscription,known,known']
    by_cases free : collides s.subscriptions latest.id (refreshed latest row) = false
    · rw [dif_pos free,dif_pos (index.trans free)]
      exact ⟨rfl,stored_alike close free (index.trans free) known mine⟩
    · rw [dif_neg free,dif_neg (index ▸ free)]
      exact ⟨rfl,close⟩

theorem refresh_untouched
    (known : s.subscriptions.lookup id = some row) (other : ∀ latest, answer = .ok latest → id ≠ latest.id) :
    (refreshSubscription s answer).2.subscriptions.lookup id = some row := by
  cases answer with
  | error error => exact known
  | ok latest =>
    rw [refreshSubscription]
    split
    · exact known
    · split
      · exact (AList.lookup_insert_ne (other latest rfl)).trans known
      · exact known

variable {request : Request}
theorem respond_alike (close : Alike setting user s s') (meets : Meets setting user s request) :
    (respond setting user s' request).1 = (respond setting user s request).1 ∧
      Alike setting user (respond setting user s request).2 (respond setting user s' request).2 := by
  obtain ⟨call,tie,latest⟩ := request
  cases call with
  | getOnboardingSession sessionId =>
    obtain ⟨session,known,mine⟩ := meets
    exact ⟨session_alike close known mine,close⟩
  | getSubscription subscriptionId =>
    obtain ⟨row,known,mine⟩ := meets
    have known' := (close.lookup mine).mpr known
    rw [Option.mem_def] at known
    refine ⟨?_,close⟩
    change getSubscription s' subscriptionId = getSubscription s subscriptionId
    rw [getSubscription,getSubscription,known,known']
  | refreshSubscription subscriptionId => exact refresh_alike close meets
  | getEntitlements orgId =>
    simp only [respond]
    by_cases granted : user.platformAdmin = true ∨ setting.enabled = false
    · rw [if_pos granted,if_pos granted]
      exact ⟨rfl,close⟩
    · rw [if_neg granted,if_neg granted]
      have allowed := meets.resolve_left fun disabled => granted (.inr disabled)
      exact ⟨congrArg (fun answer => Except.ok (Reply.entitlements answer)) (entitlements_alike close allowed tie),close⟩
  | getUsageSummary orgId period =>
    exact ⟨congrArg (fun answer => Except.ok (Reply.usageSummary answer)) (summary_alike close meets tie),close⟩
  | getMeteringEvents orgId =>
    exact ⟨congrArg (fun answer => Except.ok (Reply.meteringEvents answer)) (meteringEvents_alike close meets),close⟩

theorem unwinding (setting : Setting) (user : User) :
    Unwinding (respond setting user) (Alike setting user) (Meets setting user) where
  discreet _ _ meets _ close := (respond_alike close meets).1
  keeps _ _ _ close meets := (respond_alike close meets).2

theorem untouched_of_meets (meets : Meets setting user s request) : Untouched setting user s request := by
  intro id row known foreign
  obtain ⟨call,tie,latest⟩ := request
  cases call with
  | refreshSubscription subscriptionId =>
    refine refresh_untouched known fun resolved answered same => ?_
    obtain ⟨own,listed,mine,-⟩ := meets resolved answered
    rw [← same,known] at listed
    cases listed
    exact foreign mine
  | getEntitlements orgId =>
    simp only [respond]
    split <;> exact known
  | getOnboardingSession sessionId => exact known
  | getSubscription subscriptionId => exact known
  | getUsageSummary orgId period => exact known
  | getMeteringEvents orgId => exact known

def stranger (orgId : Option Nat) (createDateTime : Nat) : Subscription :=
  ⟨"","",.unsubscribed,none,none,none,none,none,none,orgId,.notStarted,createDateTime,none⟩

theorem stranger_foreign {orgId : Option Nat} (outside : ∀ org ∈ orgId, user.id ∉ s.members org) (time : Nat) :
    ¬Concerns setting s.members user (stranger orgId time) := by
  rintro (linked | buyer | ⟨org,listed,member⟩)
  · cases linked
  · simp [expectedEmails,stranger,setting.config.toLowerCase_empty] at buyer
  · exact outside org listed member
theorem stranger_free {id time : Nat} {orgId : Option Nat} :
    collides s.subscriptions id (stranger orgId time) = false := by
  refine Bool.eq_false_iff.mpr fun clash => ?_
  obtain ⟨org,-,-,first,-⟩ := collides_iff.mp clash
  exact (occupies_iff.mp first).2.2 rfl
theorem stored_foreign (free : collides s.subscriptions id row = false)
    (before : ¬Own setting user s id) (foreign : ¬Concerns setting s.members user row) :
    Alike setting user s (s.stored id row free) where
  members := rfl
  plans := rfl
  now := rfl
  subscriptions := own_insert_foreign (decide_eq_false foreign) fun old known => decide_eq_false fun mine =>
      before ⟨old,known,mine⟩
  sessions _ _ _ := Iff.rfl
  usage := rfl
  events := rfl

def State.withSession (s : State) (id : Nat) (session : Session)
    (known : ∃ row, s.subscriptions.lookup session.subscription = some row) : State where
  tables := s.tables
  sessions := s.sessions.insert id session
  members := s.members
  active_org_unique := s.active_org_unique
  session_fkey other found listed := by
    by_cases same : other = id
    · subst same
      rw [AList.lookup_insert,Option.some.injEq] at listed
      exact listed ▸ known
    · rw [AList.lookup_insert_ne same] at listed
      exact s.session_fkey other found listed
  usage_fkey := s.usage_fkey

theorem withSession_foreign (known : ∃ row, s.subscriptions.lookup session.subscription = some row)
    (before : ∀ old, s.sessions.lookup id = some old → ¬Own setting user s old.subscription)
    (foreign : ¬Own setting user s session.subscription) : Alike setting user s (s.withSession id session known) where
  members := rfl
  plans := rfl
  now := rfl
  subscriptions := rfl
  sessions other found mine := by
    by_cases same : other = id
    · subst same
      refine iff_of_false ?_ fun listed => before found listed mine
      intro listed
      change (s.sessions.insert other session).lookup other = some found at listed
      rw [AList.lookup_insert,Option.some.injEq] at listed
      exact foreign (listed ▸ mine)
    · exact (AList.lookup_insert_ne same).congr_left
  usage := rfl
  events := rfl

def State.withUsage (s : State) (key : UsageKey) (usage : UsageRow)
    (known : ∃ row, s.subscriptions.lookup key.subscription = some row) : State where
  tables := { s.tables with usage := s.tables.usage.insert key usage }
  sessions := s.sessions
  members := s.members
  active_org_unique := s.active_org_unique
  session_fkey := s.session_fkey
  usage_fkey other found listed := by
    by_cases same : other = key
    · exact same ▸ known
    · rw [AList.lookup_insert_ne same] at listed
      exact s.usage_fkey other found listed

theorem withUsage_foreign {key : UsageKey} {usage : UsageRow}
    (known : ∃ row, s.subscriptions.lookup key.subscription = some row)
    (fresh : s.tables.usage.lookup key = none) (foreign : ¬Own setting user s key.subscription)
    (outside : user.id ∉ s.members usage.orgId) : Alike setting user s (s.withUsage key usage known) where
  members := rfl
  plans := rfl
  now := rfl
  subscriptions := rfl
  sessions _ _ _ := Iff.rfl
  usage := by
    refine own_insert_foreign (decide_eq_false fun own => own.elim outside foreign) fun old listed => ?_
    rw [fresh] at listed
    cases listed
  events := rfl

theorem stored_lookup {free : collides s.subscriptions id row = false} :
    (s.stored id row free).subscriptions.lookup id = some row :=
  AList.lookup_insert _
theorem stored_not_own {free : collides s.subscriptions id row = false}
    (foreign : ¬Concerns setting s.members user row) : ¬Own setting user (s.stored id row free) id := by
  rintro ⟨found,listed,mine⟩
  rw [stored_lookup] at listed
  cases listed
  exact foreign mine
theorem exists_above {α : Type} (f : α → Nat) (l : List α) : ∃ bound, ∀ a ∈ l, f a < bound := by
  induction l with
  | nil => exact ⟨0,nofun⟩
  | cons a rest ih =>
    obtain ⟨bound,above⟩ := ih
    refine ⟨max bound (f a + 1),fun b listed => ?_⟩
    rcases List.mem_cons.mp listed with rfl | later
    · omega
    · have := above b later
      omega
theorem unused_id (s : State) : ∃ id, s.subscriptions.lookup id = none := by
  obtain ⟨id,above⟩ := exists_above (fun key => key) s.subscriptions.keys
  exact ⟨id,AList.lookup_eq_none.mpr fun listed => Nat.lt_irrefl id (above id listed)⟩
theorem not_own_unused (fresh : s.subscriptions.lookup id = none) : ¬Own setting user s id := by
  rintro ⟨row,known,-⟩
  rw [Option.mem_def,fresh] at known
  cases known
/-- The row, with an activation that came out otherwise. -/
def otherwise (row : Subscription) : Subscription :=
  { row with activationStatus := if row.activationStatus = .failed then .notStarted else .failed }

theorem otherwise_ne (row : Subscription) : (otherwise row).activationStatus ≠ row.activationStatus := by
  simp only [otherwise]
  by_cases failed : row.activationStatus = .failed
  · rw [if_pos failed,failed]
    decide
  · rw [if_neg failed]
    exact Ne.symm failed
theorem otherwise_free (known : s.subscriptions.lookup id = some row) :
    collides s.subscriptions id (otherwise row) = false := by
  refine Bool.eq_false_iff.mpr fun clash => ?_
  obtain ⟨orgId,other,row',first,different,found,second⟩ := collides_iff.mp clash
  exact different (s.active_org_unique other id row' row orgId found known second first)
theorem session_missing (gone : s.sessions.lookup sessionId = none) :
    getOnboardingSession s sessionId = .error .sessionMissing := by
  simp only [getOnboardingSession,gone]

section

variable (found : s.sessions.lookup sessionId = some session)
  (known : s.subscriptions.lookup session.subscription = some row)
include found known
theorem session_expired
    (expired : session.expiresAt < s.tables.now) : getOnboardingSession s sessionId = .error .sessionMissing := by
  simp only [getOnboardingSession,found,known]
  exact if_pos expired
theorem session_shown (valid : ¬session.expiresAt < s.tables.now) :
    getOnboardingSession s sessionId = .ok
    (.session ⟨sessionId,session.status,session.expiresAt,nextAction row,row.orgId,
      toSubscriptionSummary session.subscription row⟩) := by
  simp only [getOnboardingSession,found,known]
  exact if_neg valid

end

theorem session_tells (asks : ¬∃ session ∈ s.sessions.lookup sessionId, Own setting user s session.subscription) :
    ∃ s', Alike setting user s s' ∧ getOnboardingSession s' sessionId ≠ getOnboardingSession s sessionId := by
  cases found : s.sessions.lookup sessionId with
  | none =>
    -- A session of another's subscription could be there.
    obtain ⟨id,fresh⟩ := unused_id s
    have foreign : ¬Concerns setting s.members user (stranger none 0) := stranger_foreign (by rintro _ ⟨⟩) 0
    let t := s.stored id (stranger none 0) stranger_free
    let session : Session := ⟨id,.resolved,s.tables.now,none,0⟩
    have there : t.subscriptions.lookup session.subscription = some (stranger none 0) := stored_lookup
    have stored : Alike setting user s t := stored_foreign stranger_free (not_own_unused fresh) foreign
    refine ⟨t.withSession sessionId session ⟨_,there⟩,stored.trans (withSession_foreign _ (fun old listed => ?_) (stored_not_own foreign)),?_⟩
    · rw [show t.sessions.lookup sessionId = none from found] at listed
      cases listed
    · have shown := @session_shown (t.withSession sessionId session ⟨_,there⟩) _ sessionId session
        (AList.lookup_insert _) there
        (Nat.lt_irrefl _)
      rw [session_missing found,shown]
      nofun
  | some session =>
    obtain ⟨row,known⟩ := s.session_fkey sessionId session found
    have foreign : ¬Own setting user s session.subscription := fun mine => asks ⟨session,found,mine⟩
    by_cases expired : session.expiresAt < s.tables.now
    · -- It could have longer to run.
      let longer : Session := { session with expiresAt := s.tables.now }
      refine ⟨s.withSession sessionId longer ⟨row,known⟩,withSession_foreign _ (fun old listed => ?_) foreign,?_⟩
      · rw [found] at listed
        cases listed
        exact foreign
      · have shown := @session_shown (s.withSession sessionId longer ⟨row,known⟩) row sessionId longer
          (AList.lookup_insert _) known
          (Nat.lt_irrefl _)
        rw [session_expired found known expired,shown]
        nofun
    · have foreign' : ¬Concerns setting s.members user (otherwise row) := fun mine => foreign ⟨row,known,mine⟩
      refine ⟨s.stored session.subscription (otherwise row) (otherwise_free known),stored_foreign _ foreign foreign',?_⟩
      have shown := @session_shown (s.stored session.subscription (otherwise row) (otherwise_free known)) _
          sessionId session found
        stored_lookup expired
      rw [session_shown found known expired,shown]
      intro same
      simp only [Except.ok.injEq,Reply.session.injEq,SessionView.mk.injEq] at same
      exact otherwise_ne row (congrArg Summary.localActivationStatus same.2.2.2.2.2)

theorem subscription_tells (asks : ¬Own setting user s id) :
    ∃ s', Alike setting user s s' ∧ getSubscription s' id ≠ getSubscription s id := by
  cases found : s.subscriptions.lookup id with
  | none =>
    have foreign : ¬Concerns setting s.members user (stranger none 0) := stranger_foreign (by rintro _ ⟨⟩) 0
    refine ⟨s.stored id (stranger none 0) stranger_free,stored_foreign _ asks foreign,?_⟩
    rw [getSubscription,getSubscription,found,stored_lookup]
    nofun
  | some row =>
    have foreign : ¬Concerns setting s.members user (otherwise row) := fun mine => asks ⟨row,found,mine⟩
    refine ⟨s.stored id (otherwise row) (otherwise_free found),stored_foreign _ asks foreign,?_⟩
    rw [getSubscription,getSubscription,found,stored_lookup]
    intro same
    simp only [Except.ok.injEq,Reply.subscription.injEq] at same
    exact otherwise_ne row (congrArg Summary.localActivationStatus same)

section

variable (known : s.subscriptions.lookup latest.id = some row)
include known
theorem refresh_stored (free : collides s.subscriptions latest.id (refreshed latest row) = false) :
    (refreshSubscription s (.ok latest)).1 = .ok
    (.subscription (toSubscriptionSummary latest.id (refreshed latest row))) := by
  simp only [refreshSubscription,known,dif_pos free]
theorem refresh_refused (clash : collides s.subscriptions latest.id (refreshed latest row) = true) :
    (refreshSubscription s (.ok latest)).1 = .error .p2002 := by
  rw [refreshSubscription]
  simp only [known]
  rw [dif_neg (by simp [clash])]

theorem seat_tells (mine : Concerns setting s.members user row) (unseated : ¬Seated setting user s latest row) :
    ∃ s', Alike setting user s s' ∧ (refreshSubscription s' (.ok latest)).1 ≠
    (refreshSubscription s (.ok latest)).1 := by
  simp only [Seated,not_forall,not_or,not_exists,not_and] at unseated
  obtain ⟨live,present,orgId,linked,outside,vacant,others⟩ := unseated
  have taken : occupies orgId (refreshed latest row) = true := refreshed_occupies.mpr ⟨linked,present,live⟩
  by_cases clash : collides s.subscriptions latest.id (refreshed latest row) = true
  · -- Cancelled, it leaves the organisation to the user's.
    obtain ⟨org,other,found,first,different,listed,second⟩ := collides_iff.mp clash
    have same : org = orgId := Option.some.inj ((occupies_iff.mp first).1.symm.trans linked)
    subst same
    have foreign : ¬Concerns setting s.members user found := fun own => others other found different listed own second
    have free : collides s.subscriptions other { found with saasSubscriptionStatus := .unsubscribed } = false := by
      refine Bool.eq_false_iff.mpr fun again => ?_
      obtain ⟨_,_,_,occupied,_⟩ := collides_iff.mp again
      exact (occupies_iff.mp occupied).2.2 rfl
    have close : Alike setting user s (s.stored other _ free) := stored_foreign free
      (by rintro ⟨row',listed',own⟩; rw [listed] at listed'; cases listed'; exact foreign own) foreign
    have known' := (close.lookup mine).mpr known
    refine ⟨_,close,?_⟩
    rw [refresh_refused known clash,refresh_stored known' ?_]
    · nofun
    · refine Bool.eq_false_iff.mpr fun again => ?_
      obtain ⟨org',third,row',first',apart,there,third'⟩ := collides_iff.mp again
      have same : org' = org := Option.some.inj ((occupies_iff.mp first').1.symm.trans linked)
      subst same
      change (s.subscriptions.insert other _).lookup third = some row' at there
      by_cases here : third = other
      · subst here
        rw [AList.lookup_insert,Option.some.injEq] at there
        subst there
        exact (occupies_iff.mp third').2.2 rfl
      · rw [AList.lookup_insert_ne here] at there
        exact here (s.active_org_unique third other row' found org' there listed third' second)
  · -- A new one keeps the user's out.
    have free := Bool.eq_false_iff.mpr clash
    obtain ⟨id,fresh⟩ := unused_id s
    have empty (other : Nat) (found : Subscription) (listed : s.subscriptions.lookup other = some found) :
        occupies orgId found = false := by
      by_cases same : other = latest.id
      · rw [same,known,Option.some.injEq] at listed
        exact listed ▸ Bool.eq_false_iff.mpr vacant
      · exact Onboarding.collides_false free listed same taken
    let rival : Subscription := { stranger (some orgId) 0 with saasSubscriptionStatus := .subscribed }
    have foreign : ¬Concerns setting s.members user rival :=
      stranger_foreign (by rintro _ ⟨⟩; exact outside) 0
    have rivalFree : collides s.subscriptions id rival = false := by
      refine Bool.eq_false_iff.mpr fun again => ?_
      obtain ⟨org,other,found,first,-,listed,second⟩ := collides_iff.mp again
      cases (occupies_iff.mp first).1
      rw [empty other found listed] at second
      cases second
    have close : Alike setting user s (s.stored id rival rivalFree) :=
      stored_foreign rivalFree (not_own_unused fresh) foreign
    have known' := (close.lookup mine).mpr known
    refine ⟨_,close,?_⟩
    rw [refresh_stored known free,refresh_refused known' (collides_iff.mpr ⟨orgId,id,rival,taken,?_,stored_lookup,?_⟩)]
    · nofun
    · rintro rfl
      rw [known] at fresh
      cases fresh
    · exact occupies_iff.mpr ⟨rfl,rfl,nofun⟩

end

theorem refresh_tells (asks : ¬∃ row ∈ s.subscriptions.lookup latest.id,
      Concerns setting s.members user row ∧ Seated setting user s latest row) :
    ∃ s', Alike setting user s s' ∧ (refreshSubscription s' (.ok latest)).1 ≠
        (refreshSubscription s (.ok latest)).1 := by
  cases found : s.subscriptions.lookup latest.id with
  | none =>
    have foreign : ¬Concerns setting s.members user (stranger none 0) := stranger_foreign (by rintro _ ⟨⟩) 0
    refine ⟨s.stored latest.id (stranger none 0) stranger_free,stored_foreign _ (not_own_unused found) foreign,?_⟩
    rw [refresh_stored stored_lookup ?_,refreshSubscription]
    · simp only [found]
      nofun
    · refine Bool.eq_false_iff.mpr fun clash => ?_
      obtain ⟨_,_,_,first,_⟩ := collides_iff.mp clash
      cases (occupies_iff.mp first).1
  | some row =>
    by_cases mine : Concerns setting s.members user row
    · exact seat_tells found mine fun seated => asks ⟨row,found,mine,seated⟩
    · have unowned : ¬Own setting user s latest.id := by
        rintro ⟨row',listed,own⟩
        rw [found] at listed
        cases listed
        exact mine own
      by_cases clash : collides s.subscriptions latest.id (refreshed latest row) = true
      · -- Without its organisation it would be in nobody's way.
        have away {table : Subscriptions} {kept : Subscription} (unlinked : kept.orgId = none) :
            collides table latest.id kept = false := by
          refine Bool.eq_false_iff.mpr fun again => ?_
          obtain ⟨_,_,_,first,_⟩ := collides_iff.mp again
          cases unlinked.symm.trans (occupies_iff.mp first).1
        have foreign : ¬Concerns setting s.members user { row with orgId := none } := by
          rintro (linked | buyer | ⟨_,⟨⟩,_⟩)
          · exact mine (.inl linked)
          · exact mine (.inr (.inl buyer))
        refine ⟨s.stored latest.id { row with orgId := none } (away rfl),stored_foreign _ unowned foreign,?_⟩
        rw [refresh_refused found clash,refresh_stored stored_lookup (away rfl)]
        nofun
      · have free := Bool.eq_false_iff.mpr clash
        refine ⟨s.stored latest.id (otherwise row) (otherwise_free found),stored_foreign _ unowned mine,?_⟩
        rw [refresh_stored found free,refresh_stored stored_lookup ?_]
        · intro same
          simp only [Except.ok.injEq,Reply.subscription.injEq] at same
          exact otherwise_ne row (congrArg Summary.localActivationStatus same)
        · refine Bool.eq_false_iff.mpr fun again => clash ?_
          obtain ⟨orgId,other,row',first,different,listed,second⟩ := collides_iff.mp again
          exact collides_iff.mpr
              ⟨orgId,other,row',first,different,(AList.lookup_insert_ne different).symm.trans listed,second⟩

/-- Another's subscription, the latest of the organisation, with usage of this hour. -/
structure Joined (setting : Setting) (user : User) (s : State) (orgId tie : Nat) where
  state : State
  close : Alike setting user s state
  id : Nat
  fresh : s.subscriptions.lookup id = none
  time : Nat
  found : getSubscriptionByOrgId state.subscriptions orgId tie = some (id,stranger (some orgId) time)
  start : Nat
  later : ∀ entry ∈ s.tables.usage.entries, entry.1.usageStartTime < start
  usage : state.tables.usage.entries = ⟨⟨id,.issuanceTxn,start⟩,⟨orgId,1,.pending,[]⟩⟩ :: s.tables.usage.entries

theorem unused_usage {key : UsageKey} (fresh : s.subscriptions.lookup key.subscription = none) :
    s.tables.usage.lookup key = none := by
  cases found : s.tables.usage.lookup key with
  | none => rfl
  | some row =>
    obtain ⟨subscription,known⟩ := s.usage_fkey key row found
    rw [show s.subscriptions.lookup key.subscription = some subscription from known] at fresh
    cases fresh

theorem can_join {orgId : Nat} (outside : user.id ∉ s.members orgId) (tie : Nat) :
    Nonempty (Joined setting user s orgId tie) := by
  obtain ⟨id,fresh⟩ := unused_id s
  obtain ⟨time,newest⟩ := exists_above (fun entry => entry.2.createDateTime) s.subscriptions.entries
  obtain ⟨start,later⟩ := exists_above (fun entry => entry.1.usageStartTime) s.tables.usage.entries
  have foreign : ¬Concerns setting s.members user (stranger (some orgId) time) :=
    stranger_foreign (by rintro _ ⟨⟩; exact outside) time
  let t := s.stored id (stranger (some orgId) time) stranger_free
  have there : t.subscriptions.lookup id = some (stranger (some orgId) time) := stored_lookup
  have stored : Alike setting user s t := stored_foreign stranger_free (not_own_unused fresh) foreign
  let key : UsageKey := ⟨id,.issuanceTxn,start⟩
  have unused : t.tables.usage.lookup key = none := unused_usage (s := s) fresh
  have found : getSubscriptionByOrgId t.subscriptions orgId tie = some (id,stranger (some orgId) time) := by
    obtain ⟨found,picked⟩ := @latest_found t.subscriptions (id,stranger (some orgId) time)
      (fun _ row => row.orgId = some orgId && row.deletedAt = none) there (by simp [stranger]) tie
    obtain ⟨⟨known,wanted⟩,last⟩ := latest_spec picked
    have least := last id _ there (by simp [stranger])
    rw [getSubscriptionByOrgId,picked,Option.some.injEq]
    by_cases same : found.1 = id
    · rw [same,there,Option.some.injEq] at known
      exact Prod.ext same known.symm
    · have before : s.subscriptions.lookup found.1 = some found.2 := (AList.lookup_insert_ne same).symm.trans known
      have older := newest ⟨found.1,found.2⟩ (AList.mem_lookup_iff.mp before)
      exact absurd least (Nat.not_le.mpr older)
  exact ⟨{
    state := t.withUsage key ⟨orgId,1,.pending,[]⟩ ⟨_,there⟩
    close := stored.trans (withUsage_foreign _ unused (stored_not_own foreign) outside)
    id := id
    fresh := fresh
    time := time
    found := found
    start := start
    later := later
    usage := AList.entries_insert_of_notMem (AList.lookup_eq_none.mp unused) }⟩

section
variable {orgId tie : Nat} (joined : Joined setting user s orgId tie)

theorem Joined.entitlements (unexempt : orgId ∉ setting.exempt) :
    Entitlements.getEntitlements setting.exempt setting.required joined.state.tables orgId tie =
      entitlementOf joined.state.tables orgId (joined.id,stranger (some orgId) joined.time) := by
  rw [Entitlements.getEntitlements,if_neg unexempt]
  have found : getSubscriptionByOrgId joined.state.tables.subscriptions orgId tie = _ := joined.found
  rw [found]

theorem Joined.total (dimension : Dimension) (status : UsageStatus) :
    getMeteringTotalsByDimension joined.state orgId dimension status =
      (if dimension = .issuanceTxn ∧ status = .pending then 1 else 0) + getMeteringTotalsByDimension s orgId
      dimension status := by
  rw [getMeteringTotalsByDimension,joined.usage]
  by_cases counted : dimension = .issuanceTxn ∧ status = .pending
  · rw [if_pos counted,List.filter_cons_of_pos (by simp [counted.1,counted.2])]
    rfl
  · rw [if_neg counted,zero_add,List.filter_cons_of_neg ?_]
    · rfl
    · simp only [Bool.and_eq_true,decide_eq_true_eq,not_and]
      rintro ⟨-,rfl⟩ rfl
      exact counted ⟨rfl,rfl⟩

end

theorem entitlements_tell {orgId : Nat} (unexempt : orgId ∉ setting.exempt)
    (outside : user.id ∉ s.members orgId) (tie : Nat) :
    ∃ s', Alike setting user s s' ∧ Entitlements.getEntitlements setting.exempt setting.required s'.tables orgId tie ≠
      Entitlements.getEntitlements setting.exempt setting.required s.tables orgId tie := by
  obtain ⟨joined⟩ := @can_join setting user s orgId outside tie
  refine ⟨joined.state,joined.close,fun same => ?_⟩
  rw [joined.entitlements unexempt,Entitlements.getEntitlements,if_neg unexempt] at same
  have named := congrArg Response.subscription same
  cases picked : getSubscriptionByOrgId s.tables.subscriptions orgId tie with
  | none =>
    rw [picked] at named
    cases named
  | some found =>
    rw [picked] at named
    change some (joined.id,_) = some (found.1,_) at named
    rw [Option.some.injEq,Prod.mk.injEq] at named
    have known := (latest_spec picked).1.1
    rw [← named.1] at known
    cases joined.fresh.symm.trans known

theorem summary_tells {orgId : Nat} (unexempt : orgId ∉ setting.exempt)
    (outside : user.id ∉ s.members orgId) (tie : Nat) :
    ∃ s', Alike setting user s s' ∧ getUsageSummary setting s' orgId tie ≠ getUsageSummary setting s orgId tie := by
  obtain ⟨joined⟩ := @can_join setting user s orgId outside tie
  refine ⟨joined.state,joined.close,fun same => ?_⟩
  have waiting := congrArg (fun summary => summary.dimensions[1]?.map DimensionUsage.pendingSubmission) same
  simp only [getUsageSummary,joined.entitlements unexempt] at waiting
  rw [Entitlements.getEntitlements,if_neg unexempt] at waiting
  cases picked : getSubscriptionByOrgId s.tables.subscriptions orgId tie with
  | none =>
    rw [picked] at waiting
    cases waiting
  | some found =>
    rw [picked] at waiting
    change some (getMeteringTotalsByDimension joined.state orgId .issuanceTxn .pending +
        getMeteringTotalsByDimension joined.state orgId .issuanceTxn .failed) =
      some (getMeteringTotalsByDimension s orgId .issuanceTxn .pending +
        getMeteringTotalsByDimension s orgId .issuanceTxn .failed) at waiting
    rw [Option.some.injEq,joined.total,joined.total,if_pos ⟨rfl,rfl⟩,if_neg (by simp)] at waiting
    linarith

theorem meteringEvents_tell {orgId : Nat} (outside : user.id ∉ s.members orgId) :
    ∃ s', Alike setting user s s' ∧ listMeteringEvents s' orgId ≠ listMeteringEvents s orgId := by
  obtain ⟨joined⟩ := @can_join setting user s orgId outside 0
  refine ⟨joined.state,joined.close,fun same => ?_⟩
  let row : UsageKey × UsageRow := (⟨joined.id,.issuanceTxn,joined.start⟩,⟨orgId,1,.pending,[]⟩)
  have first : row ∈ listMeteringEvents joined.state orgId := by
    rw [listMeteringEvents,joined.usage,List.filter_cons_of_pos (by simp),List.map_cons,
      List.insertionSort_cons_of_forall_rel _ ?_]
    · exact List.mem_cons_self
    · intro other listed
      obtain ⟨entry,kept,rfl⟩ := List.mem_map.mp listed
      exact (joined.later entry (List.mem_of_mem_filter kept)).le
  rw [same,listMeteringEvents] at first
  obtain ⟨entry,listed,equal⟩ := List.mem_map.mp ((List.mem_insertionSort _).mp (List.mem_of_mem_take first))
  have before := joined.later entry (List.mem_of_mem_filter listed)
  have time : entry.1.usageStartTime = joined.start := congrArg (fun row => row.1.usageStartTime) equal
  omega

theorem discreet_iff (ordinary : user.platformAdmin = false) :
    Discreet (respond setting user) (Alike setting user) s request ↔ Meets setting user s request := by
  refine ⟨fun discreet => ?_,(unwinding setting user).discreet s request⟩
  by_contra asks
  obtain ⟨call,tie,latest⟩ := request
  cases call with
  | getOnboardingSession sessionId =>
    obtain ⟨s',close,told⟩ := session_tells asks
    exact told (discreet s' close)
  | getSubscription subscriptionId =>
    obtain ⟨s',close,told⟩ := subscription_tells asks
    exact told (discreet s' close)
  | refreshSubscription subscriptionId =>
    simp only [Meets,not_forall] at asks
    obtain ⟨resolved,rfl,asks⟩ := asks
    obtain ⟨s',close,told⟩ := refresh_tells asks
    exact told (discreet s' close)
  | getEntitlements orgId =>
    simp only [Meets,not_or] at asks
    obtain ⟨enabled,unexempt,outside⟩ := asks
    obtain ⟨s',close,told⟩ := entitlements_tell unexempt outside tie
    have same := discreet s' close
    simp only [respond,ordinary,enabled,Bool.false_eq_true,false_or] at same
    exact told (by simpa [serve] using same)
  | getUsageSummary orgId period =>
    simp only [Meets,not_or] at asks
    obtain ⟨s',close,told⟩ := summary_tells asks.1 asks.2 tie
    have same := discreet s' close
    exact told (by simpa [respond,serve] using same)
  | getMeteringEvents orgId =>
    obtain ⟨s',close,told⟩ := meteringEvents_tell asks
    have same := discreet s' close
    exact told (by simpa [respond,serve] using same)

/-- A sequence of requests is private exactly when each asks for what concerns the user,
    or is answered the same for all. -/
theorem private_iff (setting : Setting) (user : User) (s : State) (requests : List Request)
    (ordinary : user.platformAdmin = false) :
    Private setting user s requests ↔
      Along (Disclosure.step (respond setting user)) (Meets setting user) s requests := by
  constructor
  · intro kept
    exact along_mono (fun _ _ both => (discreet_iff ordinary).mp both.1) kept.each
  · intro along
    refine ⟨along_mono (fun s request meets => ?_) along,fun s' close => (unwinding setting user).answers close along⟩
    exact ⟨(unwinding setting user).discreet s request meets,untouched_of_meets meets⟩

end

def unsold : State where
  tables := ⟨∅,fun _ _ => none,[],∅,∅,1000,none⟩
  sessions := ∅
  members _ := []
  active_org_unique := by
    intro id id' row row' orgId known
    rw [AList.lookup_empty] at known
    cases known
  session_fkey := by
    intro id session known
    rw [AList.lookup_empty] at known
    cases known
  usage_fkey := by
    intro key row known
    rw [AList.lookup_empty] at known
    cases known

def boughtBy (email : String) : Subscription :=
  ⟨"offer","business",.subscribed,none,none,none,some email,none,none,none,.notStarted,500,none⟩
def soldTo (email : String) : State := unsold.stored 1 (boughtBy email) rfl
def billing : Setting := ⟨BuyerAccess.service,true,true,[]⟩
def renewed : Resolved := ⟨1,"offer","business",.subscribed,some 5,none,none,none,none⟩

/-- Ann looks at what she bought, and has it refreshed. -/
theorem private_iff_buyer : Private billing ⟨3,some "Ann@Example.com",false⟩ (soldTo "ann@example.com")
    [⟨.getSubscription 1,0,.error .unavailable⟩,⟨.refreshSubscription 1,0,.ok renewed⟩] := by
  refine (private_iff billing ⟨3,some "Ann@Example.com",false⟩ _ _ rfl).mpr
    ⟨⟨boughtBy "ann@example.com",rfl,by decide +kernel⟩,?_⟩
  rintro _ ⟨⟩
  refine ⟨?_,fun _ _ => trivial⟩
  rintro _ ⟨⟩
  exact ⟨boughtBy "ann@example.com",rfl,by decide +kernel,by rintro - - _ ⟨⟩⟩
/-- Eve reads who bought the subscription 1. -/
theorem stranger_reads : ¬∀ (setting : Setting) (user : User) (s : State) (requests : List Request),
    user.platformAdmin = false → Private setting user s requests := by
  intro always
  have kept := always billing ⟨4,some "eve@example.com",false⟩ (soldTo "ann@example.com")
    [⟨.getSubscription 1,0,.error .unavailable⟩] rfl
  have close : Alike billing ⟨4,some "eve@example.com",false⟩ (soldTo "ann@example.com") (soldTo "bob@example.com") :=
    ⟨rfl,rfl,rfl,by decide +kernel,fun _ _ _ => Iff.rfl,rfl,rfl⟩
  exact absurd (kept.together _ close) (by decide +kernel)

end Ngotag.MarketplacePrivacy
