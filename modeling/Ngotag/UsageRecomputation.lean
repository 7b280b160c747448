import Ngotag.Alone
import Ngotag.Metering

/-!
The stored usage against a computation anew. The aggregation of a subscription
stores the hours with something to bill and leaves every other row as it is. So
its rows agree with the computation exactly when no row that is still to be
submitted is for an hour without overage (`stored_usage_iff`); after a change of
the plan there can be one (`stale_overage_kept`).
-/
namespace Ngotag.UsageRecomputation
open Runs Await Marketplace Overage Metering

/-- A run of `aggregateSubscriptionUsage` that came to its end, with the events it
    was given. -/
def Aggregated (s : Nat × Subscription) (events : List Event) (w after : World) : Prop :=
  ∃ first second third later ended, third.events = events ∧
    alone (handle 0) (aggregateSubscriptionUsage s) (first :: second :: third :: later) w = some ended ∧
    ended.result = .ok () ∧ ended.world = after
def fresh (s : Subscription) (plans : Plans) (events : List Event) : List Bucket :=
  if s.orgId = none then [] else overage (includedUsage (plans s.offerId s.planId)) events
/-- The hour is within the term of the subscription. -/
def InTerm (s : Subscription) (now hour : Nat) : Prop := hourOf (termStart s now) ≤ hour ∧ hour ≤ termEnd s now
/-- The rows that are still to be submitted have the quantities of the computation,
    and where there is no row it has nothing. -/
def Recomputed (s : Nat × Subscription) (events : List Event) (w : World) : Prop :=
  ∀ dimension hour, InTerm s.2 w.now hour →
    match w.usage.lookup ⟨s.1,dimension,hour⟩ with
    | some row => row.status.open_ = true → row.quantity = quantityAt (fresh s.2 w.plans events) (dimension,hour)
    | none => quantityAt (fresh s.2 w.plans events) (dimension,hour) = 0
/-- No row that is still to be submitted is for an hour without overage. -/
def NoneStale (s : Nat × Subscription) (events : List Event) (w : World) : Prop :=
  ∀ dimension hour, InTerm s.2 w.now hour → (dimension,hour) ∉ (fresh s.2 w.plans events).map Bucket.key →
    ∀ row, w.usage.lookup ⟨s.1,dimension,hour⟩ = some row → row.status.open_ = true → row.quantity = 0

section
variable {id orgId : Nat} {w after : World} {buckets : List Bucket} {choices : List Choice}

theorem writes_ok {choice : Choice} {made : World} (written : writes choice w made = some (after,.ok ())) :
    after = made := by
  rw [writes] at written
  split at written <;> cases written
  rfl
theorem lookup_upsert_other {usage : Usage} {key other : UsageKey} {quantity : ℚ} {ids : List Nat}
    (different : other ≠ key) :
    (upsert usage key orgId quantity ids).lookup other = usage.lookup other := by
  rw [upsert]
  split <;> exact AList.lookup_insert_ne different
theorem lookup_upsert_self (usage : Usage) (key : UsageKey) (orgId : Nat) (quantity : ℚ) (ids : List Nat) :
    ∃ row, (upsert usage key orgId quantity ids).lookup key = some row ∧ row.quantity = quantity := by
  rw [upsert]
  split
  · exact ⟨_,AList.lookup_insert _,rfl⟩
  · exact ⟨_,AList.lookup_insert _,rfl⟩

/-- The rows of the buckets have their quantities, and nothing else has changed. -/
structure Stored (id : Nat) (buckets : List Bucket) (w after : World) : Prop where
  plans : after.plans = w.plans
  now : after.now = w.now
  made : ∀ b ∈ buckets, ∃ row, after.usage.lookup ⟨id,b.dimension,b.hour⟩ = some row ∧ row.quantity = b.quantity
  others : ∀ key : UsageKey, (key.dimension,key.usageStartTime) ∉ buckets.map Bucket.key →
    after.usage.lookup key = w.usage.lookup key

theorem stored_forEach {ended : Ended Cmd World Choice Failure Unit} (once : (buckets.map Bucket.key).Nodup)
    (ran : alone (handle 0) (forEach (storeBucket id orgId) buckets) choices w = some ended)
    (returned : ended.result = .ok ()) : Stored id buckets w ended.world := by
  induction buckets generalizing w choices ended with
  | nil =>
    cases ran
    exact ⟨rfl,rfl,by rintro _ ⟨⟩,fun _ _ => rfl⟩
  | cons b rest ih =>
    obtain ⟨absent,once'⟩ := List.nodup_cons.mp once
    rcases alone_seq ran with ⟨first,value,last,begins,result,later,rfl⟩ | ⟨first,error,_,_,rfl⟩
    swap
    · cases returned
    obtain ⟨choice,left,middle,answer,_,handled,rfl⟩ := alone_call begins
    cases result
    have stored : middle = { w with
        usage := upsert w.usage ⟨id,b.dimension,b.hour⟩ orgId b.quantity b.sourceEventIds } := writes_ok handled
    subst stored
    have rest_stored := ih once' later returned
    refine ⟨rest_stored.plans,rest_stored.now,?_,?_⟩
    · intro other member
      rcases List.mem_cons.mp member with rfl | inRest
      · obtain ⟨row,found,quantity⟩ := lookup_upsert_self w.usage ⟨id,other.dimension,other.hour⟩ orgId other.quantity
          other.sourceEventIds
        exact ⟨row,(rest_stored.others ⟨id,other.dimension,other.hour⟩ absent).trans found,quantity⟩
      · exact rest_stored.made other inRest
    · intro key untouched
      rw [List.map_cons,List.mem_cons,not_or] at untouched
      rw [rest_stored.others key untouched.2]
      refine lookup_upsert_other fun equal => untouched.1 ?_
      rw [equal]
      rfl

end
section
variable {s : Nat × Subscription} {events : List Event} {w after : World}

theorem aggregated_stored (aggregated : Aggregated s events w after) :
    Stored s.1 (fresh s.2 w.plans events) w after := by
  obtain ⟨first,second,third,later,ended,rfl,ran,returned,rfl⟩ := aggregated
  rw [aggregateSubscriptionUsage] at ran
  rw [fresh]
  cases linked : s.2.orgId with
  | none =>
    rw [linked] at ran
    cases ran
    exact ⟨rfl,rfl,by rintro _ ⟨⟩,fun _ _ => rfl⟩
  | some orgId =>
    rw [linked] at ran
    rcases alone_step ran with ⟨_,plan,last,planned,ran,rfl⟩ | ⟨_,_,_,rfl⟩
    swap
    · cases returned
    obtain ⟨rfl,rfl⟩ := reads_ok (β := Option Plan) planned
    rcases alone_step ran with ⟨_,now,last,timed,ran,rfl⟩ | ⟨_,_,_,rfl⟩
    swap
    · cases returned
    cases timed
    rcases alone_step ran with ⟨_,read,last,listed,ran,rfl⟩ | ⟨_,_,_,rfl⟩
    swap
    · cases returned
    simp only [handle] at listed
    split at listed
    · obtain ⟨rfl,rfl⟩ := reads_ok (β := List Event) listed
      rw [if_neg (by rintro ⟨⟩)]
      have done : last.result = .ok () := returned
      have kept := stored_forEach nodup_overage ran done
      exact kept
    · cases listed

/-- After a run of the aggregation the rows agree with the computation anew exactly
    when none was stale before it. -/
theorem stored_usage_iff (aggregated : Aggregated s events w after) :
    Recomputed s events after ↔ NoneStale s events w := by
  have stored := aggregated_stored aggregated
  have once : ((fresh s.2 w.plans events).map Bucket.key).Nodup := by
    rw [fresh]
    split
    · exact List.nodup_nil
    · exact nodup_overage
  rw [Recomputed,NoneStale,stored.plans,stored.now]
  refine forall_congr' fun dimension => forall_congr' fun hour => imp_congr_right fun _ => ?_
  by_cases billed : (dimension,hour) ∈ (fresh s.2 w.plans events).map Bucket.key
  · obtain ⟨b,member,key⟩ := List.mem_map.mp billed
    obtain ⟨row,found,quantity⟩ := stored.made b member
    cases key
    rw [found]
    constructor
    · intro _ absent
      exact absurd billed absent
    · intro _ _
      rw [quantity]
      exact (quantityAt_mem once member).symm
  · have zero := quantityAt_absent billed
    rw [stored.others ⟨s.1,dimension,hour⟩ billed,zero]
    cases found : w.usage.lookup ⟨s.1,dimension,hour⟩ with
    | none =>
      constructor
      · rintro _ _ _ ⟨⟩
      · exact fun _ => rfl
    | some row =>
      constructor
      · rintro agrees _ _ ⟨⟩
        exact agrees
      · exact fun clean => clean billed row rfl

end
def onPlan (planId : String) : Subscription :=
  ⟨"offer",planId,.subscribed,none,some 0,some 1000000000,none,none,none,some 7,.activated,0,none⟩

/-- The plan `big` includes a hundred issuances, every other one none. -/
def twoPlans : Plans := fun _ planId => if planId = "big" then some ⟨100,0,0,none,none,none⟩ else none
def issuedAtTen : Event := ⟨0,some 1,7,"issuance_completed","a",36000000,1⟩
def tenAm : UsageKey := ⟨1,.issuanceTxn,36000000⟩
def through (events : List Event) (keys : List UsageKey) (verdicts : List Bool) :
    Choice := ⟨.none,0,events,keys,verdicts⟩
/-- An issuance is recorded and aggregated on the small plan; Microsoft refuses its
    submission. Then the plan is changed. -/
def planChanged : List (Action Choice Input Env) :=
  .start 0 (.record ⟨7,"issuance_completed","a",none,none⟩) :: List.replicate 2 (.advance 0 (through [] [] [])) ++
    .start 1 (.tick true) :: List.replicate 9 (.advance 1 (through [issuedAtTen] [tenAm] [false])) ++
    [.environment (.change (AList.insert 1 (onPlan "big") ∅) twoPlans)]
def onSmallPlan : World := ⟨AList.insert 1 (onPlan "small") ∅,twoPlans,[],∅,∅,36000000,none⟩

theorem stored_usage_iff_small :
    ∃ after, Aggregated (1,onPlan "small") [issuedAtTen] { onSmallPlan with events := [issuedAtTen] } after ∧
      Recomputed (1,onPlan "small") [issuedAtTen] after := by
  have runs : (alone (handle 0) (aggregateSubscriptionUsage (1,onPlan "small"))
      (List.replicate 4 (through [issuedAtTen] [] [])) { onSmallPlan with events := [issuedAtTen] }).map
        (fun ended => ended.result) = some (.ok ()) := by decide +kernel
  obtain ⟨ended,ran,returned⟩ := Option.map_eq_some_iff.mp runs
  have aggregated : Aggregated (1,onPlan "small") [issuedAtTen] { onSmallPlan with events := [issuedAtTen] }
      ended.world := ⟨_,_,_,_,ended,rfl,ran,returned,rfl⟩
  refine ⟨ended.world,aggregated,(stored_usage_iff aggregated).mpr ?_⟩
  rintro dimension hour _ _ row ⟨⟩

/-- The row of the small plan is still to be submitted after the aggregation on the
    big one, which has no overage. -/
theorem stale_overage_kept : ¬∀ (w : World) (actions : List (Action Choice Input Env))
    (m : Machine Cmd Ret Failure Unit World) (s : Nat × Subscription) (events : List Event) (after : World),
    w.events = [] → w.usage = ∅ → run (step sys) (Machine.initial w) actions = some m →
    m.world.subscriptions.lookup s.1 = some s.2 → Aggregated s events m.world after → Recomputed s events after := by
  intro always
  have runs : ((run (step sys) (Machine.initial onSmallPlan) planChanged).bind fun m =>
      (alone (handle 0) (aggregateSubscriptionUsage (1,onPlan "big")) (List.replicate 3 (through [issuedAtTen] [] []))
        m.world).map fun ended =>
        (m.world.subscriptions.lookup 1,ended.result,ended.world.now,ended.world.usage.lookup tenAm,
          quantityAt (fresh (onPlan "big") ended.world.plans [issuedAtTen]) (.issuanceTxn,36000000))) =
        some (some (onPlan "big"),.ok (),36000000,some ⟨7,1,.failed,[0]⟩,0) := by decide +kernel
  obtain ⟨m,reached,later⟩ := Option.bind_eq_some_iff.mp runs
  obtain ⟨ended,ran,facts⟩ := Option.map_eq_some_iff.mp later
  obtain ⟨current,facts⟩ := Prod.mk.inj facts
  obtain ⟨returned,facts⟩ := Prod.mk.inj facts
  obtain ⟨time,facts⟩ := Prod.mk.inj facts
  obtain ⟨row,zero⟩ := Prod.mk.inj facts
  have agrees := always onSmallPlan planChanged m (1,onPlan "big") [issuedAtTen] ended.world rfl rfl reached current
    ⟨_,_,_,_,ended,rfl,ran,returned,rfl⟩ .issuanceTxn 36000000
  rw [time] at agrees
  have equal := agrees ⟨by decide,by decide⟩
  rw [show (⟨1,.issuanceTxn,36000000⟩ : UsageKey) = tenAm from rfl] at equal
  simp only [row,zero] at equal
  exact absurd (equal rfl) (by decide)

end Ngotag.UsageRecomputation
