import Ngotag.Serial
import Ngotag.Overage

/-!
`MeteringService` over the database and Microsoft's metering API: the recording of
billing events, the aggregation into usage rows and their submission. Any
statement and any request may fail, with or without its effect, and anything may
happen between two of them.
-/
namespace Ngotag.Metering
open Await Marketplace Overage

def leap (year : Nat) : Bool := year % 4 = 0 && (year % 100 ≠ 0 || year % 400 = 0)
def monthDays (year month : Nat) : Nat :=
  if month = 1 then if leap year then 29 else 28
  else if month = 3 ∨ month = 5 ∨ month = 8 ∨ month = 10 then 30
  else 31
/-- The first day of the month a day is in, looked for from a month on; days are
    counted from the first of January 1970. -/
def firstOfMonth : Nat → Nat → Nat → Nat → Nat → Nat
  | 0,_,_,first,_ => first
  | fuel + 1,year,month,first,day =>
    if day < first + monthDays year month then first
    else firstOfMonth fuel (if month = 11 then year + 1 else year) (if month = 11 then 0 else month + 1)
      (first + monthDays year month) day
/-- `Date.UTC(date.getUTCFullYear(), date.getUTCMonth(), 1)` -/
def monthStart (time : Nat) : Nat := firstOfMonth (time / 86400000 + 1) 1970 0 0 (time / 86400000) * 86400000
inductive UsageStatus where
  | pending
  | submitted
  | accepted
  | duplicate
  | failed
  | expired
  deriving DecidableEq
/-- What a usage row and a quantity at Microsoft are for. The `id` of a row and this
    key, both unique, are one here. -/
structure UsageKey where
  subscription : Nat
  dimension : Dimension
  usageStartTime : Nat
  deriving DecidableEq
structure UsageRow where
  orgId : Nat
  quantity : ℚ
  status : UsageStatus
  sourceEventIds : List Nat
  deriving DecidableEq
abbrev Usage := AList fun _ : UsageKey => UsageRow
abbrev Accepted := AList fun _ : UsageKey => ℚ
/-- What `recordUsageEvent` is given. -/
structure Payload where
  orgId : Nat
  eventType : String
  sourceId : String
  occurredAt : Option Nat
  quantity : Option ℚ
/-- `payload.quantity || 1` -/
def Payload.amount (payload : Payload) : ℚ :=
  match payload.quantity with
  | some quantity => if quantity = 0 then 1 else quantity
  | none => 1
/-- The `status` of an entry of Microsoft's `result`. -/
inductive Answer where
  | accepted
  | duplicate
  | other
  deriving DecidableEq
inductive Failure where
  | database
  | microsoft
  deriving DecidableEq

inductive Cmd where
  /-- `new Date()` -/
  | now
  | getSubscriptionByOrgId (orgId : Nat)
  | recordBillingUsageEvent (payload : Payload) (subscription : Option Nat)
  | listActiveSubscriptions
  | getPlan (offerId planId : String)
  | getBillableEventsForSubscription (subscription start finish : Nat)
  | createOrUpdateUsageEvent (key : UsageKey) (orgId : Nat) (quantity : ℚ) (sourceEventIds : List Nat)
  | listPendingUsageEvents
  | updateUsageEventStatus (key : UsageKey) (status : UsageStatus)
  | submitBatchUsageEvents (events : List (UsageKey × ℚ))

def Ret : Cmd → Type
  | .now => Nat
  | .getSubscriptionByOrgId _ => Option (Nat × Subscription)
  | .listActiveSubscriptions => List (Nat × Subscription)
  | .getPlan _ _ => Option Plan
  | .getBillableEventsForSubscription _ _ _ => List Event
  | .listPendingUsageEvents => List (UsageKey × UsageRow)
  | .submitBatchUsageEvents _ => List Answer
  | _ => Unit
abbrev Async := Prog Cmd Ret Failure
def perform (command : Cmd) : Async (Ret command) := call command
def recordUsageEvent (payload : Payload) : Async Unit := do
  let subscription : Option (Nat × Subscription) ← perform (.getSubscriptionByOrgId payload.orgId)
  perform (.recordBillingUsageEvent payload (subscription.map Prod.fst))
def termStart (subscription : Subscription) (now : Nat) : Nat := subscription.termStartDate.getD (monthStart now)
def termEnd (subscription : Subscription) (now : Nat) : Nat := subscription.termEndDate.getD now
def storeBucket (id orgId : Nat) (bucket : Bucket) : Async Unit :=
  perform (.createOrUpdateUsageEvent ⟨id,bucket.dimension,bucket.hour⟩ orgId bucket.quantity bucket.sourceEventIds)
def aggregateSubscriptionUsage (subscription : Nat × Subscription) : Async Unit :=
  match subscription.2.orgId with
  | none => pure ()
  | some orgId => do
    let plan : Option Plan ← perform (.getPlan subscription.2.offerId subscription.2.planId)
    let now : Nat ← perform .now
    let events : List Event ← perform (.getBillableEventsForSubscription subscription.1
      (termStart subscription.2 now) (termEnd subscription.2 now))
    forEach (storeBucket subscription.1 orgId) (overage (includedUsage plan) events)

def aggregateUsage : Async Unit := do
  let subscriptions : List (Nat × Subscription) ← perform .listActiveSubscriptions
  forEach aggregateSubscriptionUsage subscriptions
/-- `24 * 60 * 60 * 1000` -/
def window : Nat := 86400000
def MAX_BATCH_SIZE : Nat := 25
def batches {α : Type} (rows : List α) : List (List α) :=
  (List.range ((rows.length + MAX_BATCH_SIZE - 1) / MAX_BATCH_SIZE)).map fun i =>
    (rows.drop (MAX_BATCH_SIZE * i)).take MAX_BATCH_SIZE
def localStatus : Option Answer → UsageStatus
  | some .accepted => .accepted
  | some .duplicate => .duplicate
  | _ => .failed
def setStatus (update : UsageKey × UsageStatus) : Async Unit :=
  perform (.updateUsageEventStatus update.1 update.2)
def submitBatch (batch : List (UsageKey × UsageRow)) : Async Unit := do
  let result : List Answer ← perform (.submitBatchUsageEvents (batch.map fun event => (event.1,event.2.quantity)))
  forEach setStatus (batch.mapIdx fun i event => (event.1,localStatus result[i]?))

def submitListed (pending : List (UsageKey × UsageRow)) : Async Unit :=
  if pending = [] then pure ()
  else do
    let now : Nat ← perform .now
    forEach setStatus ((pending.filter fun event => window < now - event.1.usageStartTime).map
      fun event => (event.1,.expired))
    forEach submitBatch (batches (pending.filter fun event => now - event.1.usageStartTime ≤ window))
def submitPendingUsage : Async Unit := do
  let pending : List (UsageKey × UsageRow) ← perform .listPendingUsageEvents
  submitListed pending
/-- `enabled` is `MARKETPLACE_METERING_ENABLED`. -/
def aggregateAndSubmitUsage (enabled : Bool) : Async Unit :=
  if enabled then do
    aggregateUsage
    submitPendingUsage
  else pure ()

/-- The database, what Microsoft has accepted, the time, and which call was started
    last. -/
structure World where
  subscriptions : Subscriptions
  plans : Plans
  events : List Event
  usage : Usage
  accepted : Accepted
  now : Nat
  turn : Option Nat

inductive Fault where
  | none
  /-- The statement or request fails and has no effect. -/
  | lost
  /-- It has its effect, but its answer does not arrive. -/
  | unknown
  /-- Microsoft's answer has no `result`. -/
  | unreadable
  deriving DecidableEq
/-- Whether a command fails; which of several rows comes first; in which order rows
    of the same time come; and which events of a batch Microsoft takes. -/
structure Choice where
  fault : Fault
  tie : Nat
  events : List Event
  keys : List UsageKey
  verdicts : List Bool

def reads {β : Type} (choice : Choice) (w : World) (value : β) : Option (World × Except Failure β) :=
  if choice.fault = .none then some (w,.ok value) else some (w,.error .database)
theorem reads_ok {β : Type} {choice : Choice} {w after : World} {value answer : β}
    (read : reads choice w value = some (after,.ok answer)) : after = w ∧ answer = value := by
  rw [reads] at read
  split at read <;> cases read
  exact ⟨rfl,rfl⟩
def writes (choice : Choice) (w after : World) : Option (World × Except Failure Unit) :=
  match choice.fault with
  | .none => some (after,.ok ())
  | .unknown => some (after,.error .database)
  | _ => some (w,.error .database)
/-- The row that is created where there is none of the event type and source. -/
def record (payload : Payload) (subscription : Option Nat) (w : World) : World :=
  if w.events.any fun e => e.eventType = payload.eventType && e.sourceId = payload.sourceId then w
  else { w with events := ⟨w.events.length,subscription,payload.orgId,payload.eventType,payload.sourceId,
    payload.occurredAt.getD w.now,payload.amount⟩ :: w.events }
def billable (events : List Event) (subscription start finish : Nat) : List Event :=
  events.filter fun e => e.marketplaceSubscriptionId = some subscription && start ≤ e.occurredAt &&
    e.occurredAt ≤ finish
/-- The upsert of a usage row: the status of a row that exists stays. -/
def upsert (usage : Usage) (key : UsageKey) (orgId : Nat) (quantity : ℚ) (sourceEventIds : List Nat) : Usage :=
  match usage.lookup key with
  | some row => usage.insert key { row with quantity := quantity, sourceEventIds := sourceEventIds }
  | none => usage.insert key ⟨orgId,quantity,.pending,sourceEventIds⟩
def UsageStatus.open_ (status : UsageStatus) : Bool := status = .pending || status = .failed
def waiting (usage : Usage) : List UsageKey :=
  usage.keys.filter fun key => (usage.lookup key).any fun row => row.status.open_
/-- Microsoft takes one quantity for a subscription, dimension and hour. -/
def verdict (accepted : Accepted) (key : UsageKey) (taken : Bool) : Answer :=
  if taken then if accepted.lookup key = none then .accepted else .duplicate else .other
def noted (accepted : Accepted) (key : UsageKey) (quantity : ℚ) (answer : Answer) : Accepted :=
  if answer = .accepted then accepted.insert key quantity else accepted

def judge (accepted : Accepted) : List (UsageKey × ℚ) → List Bool → Accepted × List Answer
  | [],_ => (accepted,[])
  | (key,quantity) :: rest,verdicts =>
    let answer := verdict accepted key (verdicts.headD false)
    let next := judge (noted accepted key quantity answer) rest verdicts.tail
    (next.1,answer :: next.2)

def handle (_ : Nat) (c : Cmd) (choice : Choice) (w : World) : Option (World × Except Failure (Ret c)) :=
  match c with
  | .now => some (w,.ok w.now)
  | .getSubscriptionByOrgId orgId => reads choice w (Marketplace.getSubscriptionByOrgId w.subscriptions orgId choice.tie)
  | .recordBillingUsageEvent payload subscription => writes choice w (record payload subscription w)
  | .listActiveSubscriptions => reads choice w (Marketplace.listActiveSubscriptions w.subscriptions)
  | .getPlan offerId planId => reads choice w (w.plans offerId planId)
  | .getBillableEventsForSubscription subscription start finish =>
    if choice.events.Perm (billable w.events subscription start finish) ∧
        choice.events.Pairwise (fun a b => a.occurredAt ≤ b.occurredAt) then reads choice w choice.events
    else none
  | .createOrUpdateUsageEvent key orgId quantity sourceEventIds =>
    writes choice w { w with usage := upsert w.usage key orgId quantity sourceEventIds }
  | .listPendingUsageEvents =>
    if choice.keys.Perm (waiting w.usage) ∧
        choice.keys.Pairwise (fun a b => a.usageStartTime ≤ b.usageStartTime) then
      reads choice w ((choice.keys.take 25).filterMap fun key => (w.usage.lookup key).map fun row => (key,row))
    else none
  | .updateUsageEventStatus key status =>
    match w.usage.lookup key with
    | none => some (w,.error .database)
    | some row => writes choice w { w with usage := w.usage.insert key { row with status := status } }
  | .submitBatchUsageEvents events =>
    let outcome := judge w.accepted events choice.verdicts
    match choice.fault with
    | .none => some ({ w with accepted := outcome.1 },.ok outcome.2)
    | .lost => some (w,.error .microsoft)
    | .unknown => some ({ w with accepted := outcome.1 },.error .microsoft)
    | .unreadable => some ({ w with accepted := outcome.1 },.ok [])

inductive Input where
  | record (payload : Payload)
  | tick (enabled : Bool)
/-- Time passes; a subscription or a plan is changed by another service. -/
inductive Env where
  | clock (time : Nat)
  | change (subscriptions : Subscriptions) (plans : Plans)
def program (_ : Nat) : Input → Async Unit
  | .record payload => recordUsageEvent payload
  | .tick enabled => aggregateAndSubmitUsage enabled

def sys : System Cmd Ret Failure Unit World Choice Input Env where
  handle := handle
  arrive process _ w := some { w with turn := some process }
  program := program
  environment event w :=
    match event with
    | .clock time => if w.now ≤ time then some { w with now := time } else none
    | .change subscriptions plans => some { w with subscriptions := subscriptions, plans := plans }

end Ngotag.Metering
