import Mathlib.Data.List.Nodup

/-!
The usage events of one credential or proof exchange. A webhook delivery that reports the exchange as complete
records an event under the id that it carries, or else under its thread. There is one event for an exchange
that is done, and none for another, exactly where the deliveries that record use one id and are there
where one says `done`.
-/
namespace Ngotag.ExchangeUsage

inductive EventType where
  | issuance_completed
  | verification_completed
  deriving DecidableEq
/-- The record id of a credential, or the presentation id of a proof. -/
structure Exchange where
  eventType : EventType
  threadId : String
  id : String
  threaded : threadId ≠ ""
/-- A delivery with what its handler needs, and the organisation of the row that was stored for it. -/
structure Delivery where
  carriesId : Bool
  state : Option String
  isVerified : Bool
  createdAt : Option String
  orgId : Option String
structure Event where
  orgId : String
  eventType : EventType
  sourceTable : String
  sourceId : String
/-- The configuration, the letter case of the runtime, and the texts that `new Date` reads. -/
structure Services where
  isMarketplaceMeteringEnabled : Bool
  toLowerCase : String → String
  isDate : String → Bool
def EventType.sourceTable : EventType → String
  | .issuance_completed => "credentials"
  | .verification_completed => "presentations"
def Event.key (event : Event) : EventType × String := (event.eventType,event.sourceId)

section
variable (svc : Services) (exchange : Exchange) (delivery : Delivery)

/-- The text of an undefined state is `undefined`. -/
def lowered : String := svc.toLowerCase (delivery.state.getD "undefined")
def completes : Bool :=
  match exchange.eventType with
  | .issuance_completed => lowered svc delivery ∈ ["done","issued","credential_issued"]
  | .verification_completed => delivery.isVerified || lowered svc delivery = "verified" || lowered svc delivery = "done"
/-- `id || threadId` -/
def sourceId : String := if delivery.carriesId = true ∧ exchange.id ≠ "" then exchange.id else exchange.threadId
/-- The time of issuance alone is taken from the delivery. -/
def occurredAt : Option String :=
  if exchange.eventType = .issuance_completed then delivery.createdAt.filter (· ≠ "") else none
/-- The upsert, whose update is empty; without a time of its own it takes the present. -/
def recordBillingUsageEvent (event : Event) (occurredAt : Option String) (events : List Event) : List Event :=
  if occurredAt.any (svc.isDate · = false) then events
  else if event.key ∈ events.map Event.key then events
  else event :: events
/-- What a delivery leaves in the table. -/
def webhook (events : List Event) : List Event :=
  match delivery.orgId.filter (· ≠ "") with
  | none => events
  | some orgId =>
    if svc.isMarketplaceMeteringEnabled = true ∧ sourceId exchange delivery ≠ "" ∧
        completes svc exchange delivery = true then
      recordBillingUsageEvent svc ⟨orgId,exchange.eventType,exchange.eventType.sourceTable,sourceId exchange delivery⟩
        (occurredAt exchange delivery) events
    else events
/-- The events of the exchange after its deliveries, in the order of their upserts. -/
def run (deliveries : List Delivery) : List Event :=
  deliveries.foldl (fun events delivery => webhook svc exchange delivery events) []
/-- One event for an exchange that some delivery reports as done, and else none. -/
def BilledOnce (deliveries : List Delivery) : Prop :=
  (run svc exchange deliveries).length = if ∃ delivery ∈ deliveries, delivery.state = some "done" then 1 else 0
/-- The delivery is metered: it completes the exchange, its row was stored, and its time can be read. -/
structure Metered : Prop where
  enabled : svc.isMarketplaceMeteringEnabled = true
  stored : ∃ orgId, delivery.orgId = some orgId ∧ orgId ≠ ""
  complete : completes svc exchange delivery = true
  dated : ∀ time, occurredAt exchange delivery = some time → svc.isDate time = true

/-- Some delivery is metered where one says `done`, and all that are metered use the same id. -/
structure Regular (deliveries : List Delivery) : Prop where
  done : (∃ delivery ∈ deliveries, Metered svc exchange delivery) ↔ ∃ delivery ∈ deliveries, delivery.state = some "done"
  same : ∀ a ∈ deliveries, ∀ b ∈ deliveries, Metered svc exchange a → Metered svc exchange b →
      sourceId exchange a = sourceId exchange b
end
section
variable {svc : Services} {exchange : Exchange} {delivery : Delivery} {events : List Event}

theorem sourceId_ne : sourceId exchange delivery ≠ "" := by
  rw [sourceId]
  split
  · next given => exact given.2
  · exact exchange.threaded

theorem webhook_metered (metered : Metered svc exchange delivery) :
    ∃ event, event.key = (exchange.eventType,sourceId exchange delivery) ∧
      webhook svc exchange delivery events = if event.key ∈ events.map Event.key then events else event :: events := by
  obtain ⟨orgId,stored,given⟩ := metered.stored
  refine ⟨⟨orgId,exchange.eventType,exchange.eventType.sourceTable,sourceId exchange delivery⟩,rfl,?_⟩
  have dated : ¬(occurredAt exchange delivery).any (svc.isDate · = false) = true := by
    cases time : occurredAt exchange delivery with
    | none => simp
    | some time_ => simp [metered.dated time_ time]
  rw [webhook,stored,Option.filter_some_pos (by simpa using given)]
  simp only [metered.enabled,metered.complete,ne_eq,sourceId_ne,not_false_eq_true,and_self,if_true]
  rw [recordBillingUsageEvent,if_neg dated]

theorem webhook_other (other : ¬Metered svc exchange delivery) : webhook svc exchange delivery events = events := by
  unfold webhook
  split
  · rfl
  · next orgId stored =>
    obtain ⟨stored,given⟩ := Option.filter_eq_some_iff.mp stored
    split
    · next goes =>
      rw [recordBillingUsageEvent,if_pos]
      by_contra dated
      refine other ⟨goes.1,⟨orgId,stored,by simpa using given⟩,goes.2.2,fun time is_time => ?_⟩
      simpa [is_time] using dated
    · rfl

theorem webhook_keys (distinct : (events.map Event.key).Nodup) :
    ((webhook svc exchange delivery events).map Event.key).Nodup ∧ ∀ key,
      key ∈ (webhook svc exchange delivery events).map Event.key ↔
        key ∈ events.map Event.key ∨ Metered svc exchange delivery ∧
        key = (exchange.eventType,sourceId exchange delivery) := by
  by_cases metered : Metered svc exchange delivery
  · obtain ⟨event,is_key,made⟩ := @webhook_metered svc exchange delivery events metered
    rw [made,← is_key]
    split
    · next there => exact ⟨distinct,fun key => ⟨.inl,fun either => either.elim id fun both => both.2 ▸ there⟩⟩
    · next fresh =>
      refine ⟨List.nodup_cons.mpr ⟨fresh,distinct⟩,fun key => ?_⟩
      rw [List.map_cons,List.mem_cons,or_comm,and_iff_right metered]
  · rw [webhook_other metered]
    exact ⟨distinct,fun key => ⟨.inl,fun either => either.elim id fun both => absurd both.1 metered⟩⟩

theorem run_keys (deliveries : List Delivery) :
    ((run svc exchange deliveries).map Event.key).Nodup ∧ ∀ key, key ∈ (run svc exchange deliveries).map Event.key ↔
      ∃ delivery ∈ deliveries, Metered svc exchange delivery ∧
      key = (exchange.eventType,sourceId exchange delivery) := by
  have along : ∀ events : List Event, (events.map Event.key).Nodup →
      ((deliveries.foldl (fun events delivery => webhook svc exchange delivery events) events).map Event.key).Nodup ∧
      ∀ key,
        key ∈ (deliveries.foldl (fun events delivery => webhook svc exchange delivery events) events).map Event.key ↔
          key ∈ events.map Event.key ∨ ∃ delivery ∈ deliveries,
            Metered svc exchange delivery ∧ key = (exchange.eventType,sourceId exchange delivery) := by
    induction deliveries with
    | nil => exact fun events distinct => ⟨distinct,fun key => by simp⟩
    | cons delivery rest ih =>
      intro events distinct
      obtain ⟨kept,keys⟩ := @webhook_keys svc exchange delivery _ distinct
      refine ⟨(ih _ kept).1,fun key => ?_⟩
      rw [List.foldl_cons,(ih _ kept).2,keys,List.exists_mem_cons_iff,or_assoc]
  simpa [run] using along [] List.nodup_nil

end

/-- An exchange is billed once where it is done, and else not at all, exactly where its deliveries are regular. -/
theorem billed_once_iff (svc : Services) (exchange : Exchange) (deliveries : List Delivery) :
    BilledOnce svc exchange deliveries ↔ Regular svc exchange deliveries := by
  obtain ⟨distinct,keys⟩ := @run_keys svc exchange deliveries
  rw [BilledOnce,← List.length_map (f := Event.key)]
  generalize (run svc exchange deliveries).map Event.key = stored at distinct keys
  have recorded : (∃ delivery ∈ deliveries, Metered svc exchange delivery) ↔ stored ≠ [] := by
    constructor
    · rintro ⟨delivery,there,metered⟩ rfl
      exact List.not_mem_nil ((keys _).mpr ⟨delivery,there,metered,rfl⟩)
    · intro some_
      obtain ⟨key,there⟩ := List.exists_mem_of_ne_nil _ some_
      obtain ⟨delivery,listed,metered,-⟩ := (keys key).mp there
      exact ⟨delivery,listed,metered⟩
  have one (a : Delivery) (there : a ∈ deliveries) (metered : Metered svc exchange a) :
      (exchange.eventType,sourceId exchange a) ∈ stored := (keys _).mpr ⟨a,there,metered,rfl⟩
  have regular : Regular svc exchange deliveries ↔
      (stored ≠ [] ↔ ∃ delivery ∈ deliveries, delivery.state = some "done") ∧ ∀ a ∈ stored, ∀ b ∈ stored, a = b := by
    rw [← recorded]
    constructor
    · rintro ⟨done,same⟩
      refine ⟨done,fun a ha b hb => ?_⟩
      obtain ⟨first,there,metered,rfl⟩ := (keys a).mp ha
      obtain ⟨second,there',metered',rfl⟩ := (keys b).mp hb
      rw [same first there second there' metered metered']
    · rintro ⟨done,same⟩
      exact ⟨done,fun a ha b hb ma mb => (Prod.ext_iff.mp (same _ (one a ha ma) _ (one b hb mb))).2⟩
  rw [regular]
  rcases stored with _ | ⟨a,_ | ⟨b,rest⟩⟩
  · simp
  · simp
  · refine iff_of_false ?_ fun both => ?_
    · split <;> simp
    · have same := both.2 a List.mem_cons_self b (List.mem_cons_of_mem _ List.mem_cons_self)
      exact (List.nodup_cons.mp distinct).1 (same ▸ List.mem_cons_self)

/-- A proof that is verified and then done, of which the last delivery alone carries the presentation id. -/
def verifiedTwice : List Delivery :=
  [⟨false,some "presentation-received",true,none,some "ngo"⟩,⟨true,some "done",true,none,some "ngo"⟩]
theorem billed_twice :
    ¬∀ (svc : Services) (exchange : Exchange) (deliveries : List Delivery), BilledOnce svc exchange deliveries := by
  intro once
  have two : (run ⟨true,id,fun _ => true⟩ ⟨.verification_completed,"thread","presentation",by decide⟩ verifiedTwice).length = 2 := by decide
  exact absurd (two.symm.trans (once ⟨true,id,fun _ => true⟩ ⟨.verification_completed,"thread","presentation",by decide⟩ verifiedTwice)) (by decide)

end Ngotag.ExchangeUsage
