import Ngotag.Onboarding

/-!
Changes of the plan of a subscription. Microsoft announces each change by deliveries, which
come in any order, late and more than once. Each of them writes what Microsoft says, which
may be one change behind, and one of a plan writes its own plan after that. The stored plan
ends as Microsoft's in the runs that write no older one when nothing that carries the plan is
still to come (`plan_converges`).
-/
namespace Ngotag.PlanConvergence
open Runs Await Marketplace
open Onboarding hiding World Choice Input Env Entry program handle sys
open JsObject (truthy)

inductive Change where
  | plan (planId : String)
  | quantity (quantity : Int)
  deriving DecidableEq
/-- What Microsoft was asked to change, and whether it did. What it did not change it reports
    as failed. -/
structure Operation where
  id : String
  offerId : String
  change : Change
  made : Bool
  deriving DecidableEq
def payload (subscription : Nat) (operation : Operation) : WebhookPayload :=
  match operation.change with
  | .plan planId => ⟨some operation.id,operation.offerId,some planId,none,subscription,.changePlan⟩
  | .quantity quantity => ⟨some operation.id,operation.offerId,none,some quantity,subscription,.changeQuantity⟩
/-- The plan after the changes, the latest of which comes first. -/
def planOf (first : String) : List Operation → String
  | [] => first
  | operation :: earlier =>
    match operation.change with
    | .plan planId => planId
    | .quantity _ => planOf first earlier
/-- What `getOperation` says of an operation. -/
inductive Report where
  | succeeded
  | failed
  | unknown
  deriving DecidableEq

/-- The tables; what Microsoft was asked, the latest first, and what it delivers; the delivery
    that each process handles, and what it was told of the operation. A process has `written`
    the plan of its payload, has `processed` its delivery to the end, and has `altered` the
    stored plan. -/
structure World where
  tables : Onboarding.World
  first : String
  operations : List Operation
  deliveries : List Operation
  handles : Nat → Option Nat
  reported : Nat → Option Report
  written : List (Nat × String)
  processed : List (Nat × Nat)
  altered : List Nat

def World.made (w : World) : List Operation := w.operations.filter (·.made)
def World.plan (w : World) : String := planOf w.first w.made
def World.previous (w : World) : String := planOf w.first w.made.tail
def World.operation (w : World) (process : Nat) : Option Operation := (w.handles process).bind fun d => w.deliveries[d]?
def storedPlan (subscription : Nat) (tables : Onboarding.World) : Option String :=
  (tables.subscriptions.lookup subscription).map Subscription.planId
/-- What the tables and Microsoft answer, and whether Microsoft is one change behind. -/
structure Choice where
  base : Onboarding.Choice
  behind : Bool

/-- The plan of a subscription is Microsoft's. -/
def told (c : Cmd) (choice : Choice) (w : World) : Onboarding.Choice :=
  match c with
  | .getSubscription subscription =>
    { choice.base with
      resolved := choice.base.resolved.map fun resolved =>
        { resolved with id := subscription, planId := if choice.behind then w.previous else w.plan } }
  | _ => choice.base
/-- Microsoft knows an operation that it answers about. -/
def reportOf (w : World) (process : Nat) : Except Failure Unit → Option Report
  | .ok _ => (w.operation process).map fun operation => if operation.made then .succeeded else .failed
  | .error (.status 404) => some .unknown
  | .error _ => none

def World.note (w : World) (subscription process : Nat) (c : Cmd) (tables : Onboarding.World)
    (answer : Except Failure (Ret c)) : World :=
  { w with
    tables := tables
    reported :=
      match c,answer with
      | .getOperation _ _,answer => Function.update w.reported process (reportOf w process answer)
      | _,_ => w.reported
    written :=
      match c,answer with
      | .setSubscriptionPlanId id planId,.ok _ => if id = subscription then (process,planId) :: w.written else w.written
      | _,_ => w.written
    processed :=
      match c,answer with
      | .updateWebhookEvent true,.ok _ => (w.handles process).toList.map (process,·) ++ w.processed
      | _,_ => w.processed
    altered :=
        if storedPlan subscription tables = storedPlan subscription w.tables then w.altered else process :: w.altered }

/-- One handling of one delivery. -/
structure Input where
  delivery : Nat
  operation : Operation
inductive Env where
  /-- Microsoft is asked for a change. -/
  | operates (operation : Operation)
  | sends (operation : Operation)

def sys (cfg : Config) (subscription : Nat) : System Cmd Ret Failure Reply World Choice Input Env where
  handle process c choice w := (Onboarding.handle process c (told c choice w) w.tables).map fun outcome =>
    (w.note subscription process c outcome.1 outcome.2,outcome.2)
  arrive process input w :=
    if w.deliveries[input.delivery]? = some input.operation then
      some { w with handles := Function.update w.handles process (some input.delivery) }
    else none
  program _ input := processWebhook cfg (payload subscription input.operation)
  environment event w :=
    match event with
    | .operates operation =>
      if operation.id ∉ w.operations.map Operation.id ∧ operation.change ≠ .plan "" then
        some { w with operations := operation :: w.operations }
      else none
    | .sends operation =>
      if operation ∈ w.operations then some { w with deliveries := w.deliveries ++ [operation] } else none

/-- Every change is announced, and every delivery processed. -/
structure Settled (w : World) : Prop where
  announced : ∀ operation ∈ w.operations, operation.made = true → operation ∈ w.deliveries
  processed : ∀ d operation, w.deliveries[d]? = some operation → ∃ process, (process,d) ∈ w.processed
/-- At rest the stored plan is that of the publisher. -/
def Converged (subscription : Nat) (w : World) : Prop := Settled w → storedPlan subscription w.tables = some w.plan
/-- The call handles a delivery that changes the plan. -/
def ChangesPlan (w : World) (process : Nat) : Prop :=
  ∃ operation planId, w.operation process = some operation ∧ operation.change = .plan planId
/-- What Microsoft reports as failed or unknown never changed the stored plan. -/
def Respected (w : World) : Prop :=
  ∀ process ∈ w.altered, ChangesPlan w process → w.reported process ≠ some .failed ∧ w.reported process ≠ some .unknown

/-- Of no delivery yet. -/
structure Fresh (subscription : Nat) (w : World) : Prop where
  stored : storedPlan subscription w.tables = some w.first
  operations : w.operations = []
  deliveries : w.deliveries = []
  handles : ∀ process, w.handles process = none
  reported : ∀ process, w.reported process = none
  written : w.written = []
  processed : w.processed = []
  altered : w.altered = []

abbrev Running := Machine Cmd Ret Failure Reply World
/-- The process may still end as having processed its delivery. -/
def Working (m : Running) (process : Nat) : Prop :=
  ∃ p, m.thread process = .live p ∧ ¬Only (· ≠ .updateWebhookEvent true) p
/-- A change to the plan that Microsoft has is to be delivered. -/
def Unsent (w : World) : Prop :=
  ∃ operation ∈ w.operations, operation.made = true ∧ operation.change = .plan w.plan ∧ operation ∉ w.deliveries
/-- A delivery that carries this plan is to be processed, and none of its handlings that may
    still process it has written the plan. -/
def Unwritten (m : Running) : Prop :=
  ∃ d operation, m.world.deliveries[d]? = some operation ∧ operation.change = .plan m.world.plan ∧
    (∀ process, (process,d) ∉ m.world.processed) ∧
      ∀ process, m.world.handles process = some d → Working m process → (process,m.world.plan) ∉ m.world.written
/-- A change of the plan is still to be sent or to be written. -/
def Coming (m : Running) : Prop := Unsent m.world ∨ Unwritten m
/-- A process that was told that its operation failed writes no other plan. -/
def Obeys (subscription process : Nat) (c : Cmd) (choice : Choice) (w : World) : Prop :=
  ∀ row, rowWrite w.tables c = some (subscription,row) → Takes choice.base w.tables subscription row →
    ChangesPlan w process → w.reported process = some .failed → storedPlan subscription w.tables = some row.planId
/-- The plan that is written is the one that Microsoft has, unless it is still to come; and
    where the operation was reported as failed it is the stored one. -/
def InOrder (subscription : Nat) (m : Running) : Action Choice Input Env → Prop
  | .advance process choice => ∀ c resume, m.thread process = .live (.await c resume) →
      Obeys subscription process c choice m.world ∧
        ∀ row, rowWrite m.world.tables c = some (subscription,row) → Takes choice.base m.world.tables subscription row →
          row.planId = m.world.plan ∨ Coming m
  | _ => True

section
variable {subscription process : Nat} {c : Cmd} {choice : Choice} {w after : World} {answer : Except Failure (Ret c)}
  {tables : Onboarding.World}

theorem handle_cases {cfg : Config} (handled : (sys cfg subscription).handle process c choice w = some (after,answer)) :
    ∃ tables, Onboarding.handle process c (told c choice w) w.tables = some (tables,answer) ∧
      after = w.note subscription process c tables answer := by
  obtain ⟨⟨tables,result⟩,carried,same⟩ := Option.map_eq_some_iff.mp handled
  cases same
  exact ⟨tables,carried,rfl⟩
theorem takes_told {id : Nat} {row : Subscription} :
    Takes (told c choice w) w.tables id row ↔ Takes choice.base w.tables id row := by
  have same : (told c choice w).fault = choice.base.fault := by cases c <;> rfl
  rw [Takes,Takes,same]

theorem stored_cases (subscription : Nat)
    (carried : Onboarding.handle process c (told c choice w) w.tables = some (tables,answer)) :
    storedPlan subscription tables = storedPlan subscription w.tables ∨
      ∃ row, rowWrite w.tables c = some (subscription,row) ∧ Takes choice.base w.tables subscription row ∧
        storedPlan subscription tables = some row.planId := by
  cases writes_ : rowWrite w.tables c with
  | none =>
    exact .inl (by rw [storedPlan,storedPlan,(handle_elsewhere writes_ carried).subscriptions])
  | some stored =>
    obtain ⟨id,row⟩ := stored
    rcases handle_row writes_ carried with ⟨takes,rfl⟩ | ⟨-,rfl⟩
    · by_cases same : id = subscription
      · subst same
        refine .inr ⟨row,rfl,takes_told.mp takes,?_⟩
        rw [storedPlan,storedRow,AList.lookup_insert]
        rfl
      · exact .inl (congrArg (Option.map Subscription.planId) (AList.lookup_insert_ne (Ne.symm same)))
    · exact .inl rfl

theorem set_stored {planId : String} {choice : Onboarding.Choice} {before : Onboarding.World}
    (carried : Onboarding.handle process (.setSubscriptionPlanId subscription planId) choice before = some (tables,.ok ())) :
    storedPlan subscription tables = some planId := by
  simp only [Onboarding.handle,updates] at carried
  split at carried
  · cases carried
  · simp only [stores] at carried
    split at carried
    · cases carried
    · rcases writes_cases carried with ⟨rfl,-,-⟩ | ⟨-,-,bad⟩ | ⟨-,-,-,bad⟩
      · rw [storedPlan,AList.lookup_insert]
        rfl
      · cases bad
      · cases bad

theorem mem_written {other : Nat} {planId : String} :
    (other,planId) ∈ (w.note subscription process c tables answer).written ↔
      (other,planId) ∈ w.written ∨
        other = process ∧ c = .setSubscriptionPlanId subscription planId ∧ ∃ value, answer = .ok value := by
  cases c with
  | setSubscriptionPlanId id plan' =>
    cases answer with
    | error error => simp [World.note]
    | ok value =>
      by_cases same : id = subscription
      · subst same
        simp [World.note,or_comm,eq_comm]
      · simp [World.note,same]
  | _ => simp [World.note]

theorem mem_processed {other d : Nat} :
    (other,d) ∈ (w.note subscription process c tables answer).processed ↔
      (other,d) ∈ w.processed ∨
        other = process ∧ w.handles process = some d ∧ c = .updateWebhookEvent true ∧ ∃ value, answer = .ok value := by
  cases c with
  | updateWebhookEvent processed =>
    cases processed with
    | false => simp [World.note]
    | true =>
      cases answer with
      | error error => simp [World.note]
      | ok value =>
        simp [World.note,or_comm,and_comm,eq_comm]
  | _ => simp [World.note]

theorem mem_altered {other : Nat} : other ∈ (w.note subscription process c tables answer).altered ↔
    other ∈ w.altered ∨ other = process ∧ storedPlan subscription tables ≠ storedPlan subscription w.tables := by
  by_cases same : storedPlan subscription tables = storedPlan subscription w.tables
  · simp [World.note,same]
  · simp [World.note,same,or_comm]
theorem reported_other {other : Nat} (apart : other ≠ process) :
    (w.note subscription process c tables answer).reported other = w.reported other := by
  cases c with
  | getOperation id operationId => exact Function.update_of_ne apart _ _
  | _ => rfl

end

/-- The process has written the plan that its delivery carries. -/
def Wrote (process : Nat) (w : World) : Prop :=
  ∀ operation planId, w.operation process = some operation → operation.change = .plan planId →
      (process,planId) ∈ w.written
/-- What is sent, handled and done is what the publisher has decided. -/
structure Sound (w : World) : Prop where
  real : ∀ operation ∈ w.operations, operation.change ≠ .plan ""
  sent : ∀ operation ∈ w.deliveries, operation ∈ w.operations
  handled : ∀ process d, w.handles process = some d → d < w.deliveries.length
  done : ∀ process d, (process,d) ∈ w.processed → w.handles process = some d ∧ Wrote process w
  respected : Respected w
/-- What the steps of others leave of a call. -/
structure Aside (process : Nat) (w after : World) : Prop where
  handles : after.handles process = w.handles process
  operation : after.operation process = w.operation process
  reported : after.reported process = w.reported process
  written : ∀ planId, (process,planId) ∈ after.written ↔ (process,planId) ∈ w.written
  altered : process ∈ after.altered ↔ process ∈ w.altered
/-- The process has handled nothing yet. -/
structure Idle (process : Nat) (w : World) : Prop where
  handles : w.handles process = none
  reported : w.reported process = none
  written : ∀ planId, (process,planId) ∉ w.written
  altered : process ∉ w.altered
def contract (subscription : Nat) : Contract Cmd World Choice Env where
  inv := Sound
  rely := Aside
  idle := Idle
  allowed := Obeys subscription
  happens _ _ := True
/-- What a command may be in the place where its call stands. -/
structure Fits (process : Nat) (c : Cmd) (w : World) : Prop where
  ends : c = .updateWebhookEvent true → Wrote process w
  writes : ∀ stored, rowWrite w.tables c = some stored → w.reported process ≠ some .unknown
  asks : ∀ id operationId, c = .getOperation id operationId → process ∉ w.altered

section
variable {cfg : Config} {subscription process : Nat} {c : Cmd} {choice : Choice} {w after : World}
  {answer : Except Failure (Ret c)} {tables : Onboarding.World}

theorem aside_note {other : Nat} (apart : other ≠ process) :
    Aside other w (w.note subscription process c tables answer) := by
  refine ⟨rfl,rfl,reported_other apart,fun planId => ?_,?_⟩
  · rw [mem_written]
    exact or_iff_left fun mine => apart mine.1
  · rw [mem_altered]
    exact or_iff_left fun mine => apart mine.1
theorem aside_trans {a b c : World} (first : Aside process a b) (second : Aside process b c) : Aside process a c :=
  ⟨second.handles.trans first.handles,second.operation.trans first.operation,second.reported.trans first.reported,
    fun planId => (second.written planId).trans (first.written planId),second.altered.trans first.altered⟩
theorem wrote_aside (wrote : Wrote process w) (aside : Aside process w after) : Wrote process after := by
  intro operation planId known carries
  rw [aside.operation] at known
  exact (aside.written planId).mpr (wrote operation planId known carries)
theorem wrote_note (wrote : Wrote process w) (other : Nat) : Wrote process (w.note subscription other c tables answer) :=
  fun operation planId known carries => mem_written.mpr (.inl (wrote operation planId known carries))

theorem sound_note (sound : Sound w) (obeys : Obeys subscription process c choice w) (fits : Fits process c w)
    (carried : Onboarding.handle process c (told c choice w) w.tables = some (tables,answer)) :
    Sound (w.note subscription process c tables answer) := by
  refine ⟨sound.real,sound.sent,sound.handled,?_,?_⟩
  · intro other d done
    rcases mem_processed.mp done with before | ⟨rfl,mine,is,-⟩
    · exact ⟨(sound.done other d before).1,wrote_note (sound.done other d before).2 process⟩
    · exact ⟨mine,wrote_note (fits.ends is) other⟩
  · intro other altered changes
    by_cases mine : other = process
    · subst mine
      -- What is reported now of a process that alters the plan was reported before.
      have still : (w.note subscription other c tables answer).reported other = w.reported other := by
        cases c with
        | getOperation id operationId =>
          rcases mem_altered.mp altered with before | ⟨-,moved⟩
          · exact absurd before (fits.asks id operationId rfl)
          · rcases stored_cases subscription carried with same | ⟨row,writes_,-⟩
            · exact absurd same moved
            · cases writes_
        | _ => rfl
      rw [still]
      rcases mem_altered.mp altered with before | ⟨-,moved⟩
      · exact sound.respected other before changes
      · rcases stored_cases subscription carried with same | ⟨row,writes_,takes,now⟩
        · exact absurd same moved
        · exact ⟨fun failed => moved (now.trans (obeys row writes_ takes changes failed).symm),fits.writes _ writes_⟩
    · rw [reported_other mine]
      exact sound.respected other ((mem_altered.mp altered).resolve_right fun own => mine own.1) changes

/-- The command neither writes a row nor says something of the operation or the delivery. -/
def quiet : Cmd → Bool
  | .linkUser _ _ | .linkOrganization _ _ | .setActivationStatus _ _ | .setSubscriptionStatus _ _ => false
  | .setSubscriptionPlanId _ _ | .updateSubscriptionFromMicrosoft _ | .upsertResolvedSubscription _ => false
  | .getOperation _ _ => false
  | .updateWebhookEvent processed => !processed
  | _ => true
theorem quiet_row (still : quiet c = true) (tables : Onboarding.World) : rowWrite tables c = none := by
  cases c <;> first | rfl | cases still

theorem aside_quiet (still : quiet c = true)
    (carried : Onboarding.handle process c (told c choice w) w.tables = some (tables,answer)) (other : Nat) :
    Aside other w (w.note subscription process c tables answer) := by
  refine ⟨rfl,rfl,?_,fun planId => ?_,?_⟩
  · cases c with
    | getOperation id operationId => cases still
    | _ => rfl
  · rw [mem_written]
    refine or_iff_left ?_
    rintro ⟨-,rfl,-⟩
    cases still
  · rw [mem_altered]
    refine or_iff_left fun moved => ?_
    rcases stored_cases subscription carried with same | ⟨row,writes_,-⟩
    · exact moved.2 same
    · cases (quiet_row still w.tables).symm.trans writes_

theorem quiet_steady (still : quiet c = true) : Steady (sys cfg subscription) (contract subscription) c := by
  intro process before choice after answer sound obeys handled
  obtain ⟨tables,carried,rfl⟩ := handle_cases handled
  refine ⟨sound_note sound obeys ⟨?_,fun stored writes_ => ?_,?_⟩ carried,aside_quiet still carried⟩
  · rintro rfl
    cases still
  · cases (quiet_row still _).symm.trans writes_
  · rintro id operationId rfl
    cases still

variable {S : World → Prop}
theorem wp_command {Q : Except Failure (Ret c) → World → Prop}
    (stable : ∀ a b, S a → Aside process a b → S b) (fits : ∀ v, S v → Fits process c v)
    (ends : ∀ v choice tables answer, S v →
      Onboarding.handle process c (told c choice v) v.tables = some (tables,answer) →
      Q answer (v.note subscription process c tables answer)) (now : S w) :
    wp (sys cfg subscription) (contract subscription) process (perform c) Q w := by
  apply wp_call
  intro before aside sound choice after answer obeys handled
  obtain ⟨tables,carried,rfl⟩ := handle_cases handled
  have still := stable w before now aside
  exact ⟨sound_note sound obeys (fits before still) carried,fun other apart => aside_note apart,
    ends before choice tables answer still carried⟩

theorem wp_quiet (stable : ∀ a b, S a → Aside process a b → S b) (still : quiet c = true) (now : S w) :
    wp (sys cfg subscription) (contract subscription) process (perform c) (upon (fun _ => S) fun _ => True) w := by
  refine wp_steady (fun _ _ _ => aside_trans) (quiet_steady still) fun after answer aside _ => ?_
  cases answer with
  | error error => trivial
  | ok value => exact stable w after now aside
theorem harmless_quiet (still : quiet c = true) :
    Harmless (sys cfg subscription) (contract subscription) process (perform c) :=
  harmless_only ((only_call c).mpr (quiet_steady still))

variable {operation : Operation}
/-- The call knows its operation and has reported nothing. -/
structure Begun (process : Nat) (operation : Operation) (w : World) : Prop where
  known : w.operation process = some operation
  unreported : w.reported process = none
  unaltered : process ∉ w.altered
/-- The operation was not reported as unknown. -/
structure Asked (process : Nat) (operation : Operation) (w : World) : Prop where
  known : w.operation process = some operation
  reported : w.reported process ≠ some .unknown
theorem begun_aside (a b : World) (begun : Begun process operation a) (aside : Aside process a b) :
    Begun process operation b :=
  ⟨aside.operation.trans begun.known,aside.reported.trans begun.unreported,aside.altered.not.mpr begun.unaltered⟩
theorem asked_aside (a b : World) (asked : Asked process operation a) (aside : Aside process a b) :
    Asked process operation b :=
  ⟨aside.operation.trans asked.known,aside.reported ▸ asked.reported⟩
theorem asked_begun (begun : Begun process operation w) : Asked process operation w := by
  refine ⟨begun.known,?_⟩
  rw [begun.unreported]
  exact nofun

theorem wp_noteOperation (begun : Begun process operation w) :
    wp (sys cfg subscription) (contract subscription) process (noteOperation (payload subscription operation))
      (upon (fun _ => Asked process operation) fun _ => True) w := by
  unfold noteOperation
  cases truthy (payload subscription operation).id with
  | none => exact asked_begun begun
  | some operationId =>
    refine wp_seq _ (wp_quiet begun_aside rfl begun) fun _ w begun => ?_
    refine wp_branches _ (fun _ => ?_) fun _ => asked_begun begun
    refine wp_command begun_aside ?_ ?_ begun
    · exact fun v begun => ⟨nofun,fun _ => nofun,fun _ _ _ => begun.unaltered⟩
    · intro v choice tables answer begun carried
      cases answer with
      | error error => trivial
      | ok value =>
        refine ⟨begun.known,?_⟩
        change Function.update v.reported process (reportOf v process (.ok value)) process ≠ _
        rw [Function.update_self]
        change (v.operation process).map _ ≠ _
        rw [begun.known,Option.map_some]
        split <;> exact nofun

theorem wp_refreshFromMicrosoft (asked : Asked process operation w) :
    wp (sys cfg subscription) (contract subscription) process (refreshFromMicrosoft subscription)
      (upon (fun _ => Asked process operation) fun _ => True) w := by
  refine wp_seq (fun _ => Asked process operation) (wp_quiet asked_aside rfl asked) fun latest w asked => ?_
  refine wp_seq (fun _ => Asked process operation) (wp_command asked_aside ?_ ?_ asked) fun _ _ asked => asked
  · exact fun v asked => ⟨nofun,fun _ _ => asked.reported,fun _ _ => nofun⟩
  · rintro v choice tables (error | value) asked -
    · trivial
    · exact ⟨asked.known,asked.reported⟩

theorem wp_acknowledge (stable : ∀ a b, S a → Aside process a b → S b) (body : WebhookPayload) (now : S w) :
    wp (sys cfg subscription) (contract subscription) process (acknowledge body)
    (upon (fun _ => S) fun _ => True) w := by
  refine wp_seq (fun _ => S) ?_ fun _ w now => ?_
  · unfold patchOperationIfNeeded
    cases truthy body.id with
    | none => exact now
    | some operationId =>
      refine (wp_tryCatch _ _ _ _).mpr ?_
      refine wp_steady (fun _ _ _ => aside_trans) (quiet_steady rfl) fun after answer aside _ => ?_
      have later := stable w after now aside
      cases answer with
      | error error => exact wp_branches _ (fun _ => later) fun _ => trivial
      | ok value => exact later
  · cases truthy body.id with
    | none => exact now
    | some operationId => exact wp_quiet stable rfl now

theorem wp_applyAction (real : operation.change ≠ .plan "") (asked : Asked process operation w) :
    wp (sys cfg subscription) (contract subscription) process (applyAction (payload subscription operation))
      (upon (fun _ => Wrote process) fun _ => True) w := by
  cases carries : operation.change with
  | quantity quantity =>
    have body : payload subscription operation =
        ⟨some operation.id,operation.offerId,none,some quantity,subscription,.changeQuantity⟩ := by rw [payload,carries]
    rw [body]
    refine wp_seq _ (wp_refreshFromMicrosoft asked) fun _ w asked => ?_
    refine wp_mono ?_ (wp_acknowledge asked_aside _ asked)
    rintro (error | ⟨⟩) v asked
    · trivial
    · intro other planId known changes
      cases asked.known.symm.trans known
      cases carries.symm.trans changes
  | plan planId =>
    have body : payload subscription operation =
        ⟨some operation.id,operation.offerId,some planId,none,subscription,.changePlan⟩ := by rw [payload,carries]
    have named : truthy (some planId) = some planId := by
      refine Option.filter_eq_some_iff.mpr ⟨rfl,?_⟩
      exact decide_eq_true fun empty => real (carries.trans (congrArg _ empty))
    rw [body]
    simp only [applyAction,named]
    refine wp_seq _ (wp_refreshFromMicrosoft asked) fun _ w asked => ?_
    refine wp_seq (fun _ => Wrote process) (wp_command asked_aside ?_ ?_ asked) fun _ w wrote =>
      wp_acknowledge (fun _ _ => wrote_aside) _ wrote
    · exact fun v asked => ⟨nofun,fun _ _ => asked.reported,fun _ _ => nofun⟩
    · rintro v choice tables (error | value) asked -
      · trivial
      · intro other planId' known changes
        cases asked.known.symm.trans known
        cases carries.symm.trans changes
        exact mem_written.mpr (.inr ⟨rfl,rfl,value,rfl⟩)

theorem wp_applyWebhookAction (real : operation.change ≠ .plan "") (begun : Begun process operation w) :
    wp (sys cfg subscription) (contract subscription) process (applyWebhookAction (payload subscription operation))
      (upon (fun _ => Wrote process) fun _ => True) w :=
  wp_seq (fun _ => Asked process operation) (wp_noteOperation begun) fun _ _ asked => wp_applyAction real asked
theorem wp_handled (real : operation.change ≠ .plan "") (begun : Begun process operation w) :
    wp (sys cfg subscription) (contract subscription) process (do
      applyWebhookAction (payload subscription operation)
      perform (.updateWebhookEvent true)
      pure Reply.received) (fun _ _ => True) w := by
  refine (wp_bind _ _ _ _).mpr (wp_mono ?_ (wp_applyWebhookAction real begun))
  rintro (error | ⟨⟩) w wrote
  · trivial
  · refine wp_then (wp_command (fun _ _ => wrote_aside) ?_ (fun _ _ _ _ _ _ => trivial) wrote) fun _ => harmless_ret _
    exact fun v wrote => ⟨fun _ => wrote,fun _ => nofun,fun _ _ => nofun⟩

theorem wp_processWebhook (real : operation.change ≠ .plan "") (begun : Begun process operation w) :
    wp (sys cfg subscription) (contract subscription) process (processWebhook cfg (payload subscription operation))
      (fun _ _ => True) w := by
  have caught (error : Failure) : Harmless (sys cfg subscription) (contract subscription) process
      (webhookFailed error) :=
    harmless_bind (harmless_quiet rfl) fun _ => harmless_fail _
  have begins {c : Cmd} {f : Ret c → Async Reply} {w : World} (still : quiet c = true)
      (begun : Begun process operation w)
      (next : ∀ value w, Begun process operation w →
        wp (sys cfg subscription) (contract subscription) process (f value) (fun _ _ => True) w) :
      wp (sys cfg subscription) (contract subscription) process (perform c >>= f) (fun _ _ => True) w := by
    refine (wp_bind _ _ _ _).mpr (wp_mono ?_ (wp_quiet begun_aside still begun))
    rintro (error | value) w begun
    · trivial
    · exact next value w begun
  refine begins rfl begun fun _ w begun => wp_branches _ (fun _ => trivial) fun _ => ?_
  refine begins rfl begun fun found w begun => begins rfl begun fun _ w begun => ?_
  cases found with
  | none => exact harmless_bind (harmless_quiet rfl) (fun _ => harmless_fail _) w
  | some row => exact wp_caught (wp_handled real begun) caught

theorem aside_refl : Aside process w w := ⟨rfl,rfl,rfl,fun _ => Iff.rfl,Iff.rfl⟩
theorem idle_aside (idle : Idle process w) (aside : Aside process w after) : Idle process after :=
  ⟨aside.handles.trans idle.handles,aside.reported.trans idle.reported,fun planId =>
      (aside.written planId).not.mpr (idle.written planId),
    aside.altered.not.mpr idle.altered⟩
theorem aside_changes (aside : Aside process w after) : ChangesPlan after process ↔ ChangesPlan w process := by
  rw [ChangesPlan,ChangesPlan,aside.operation]
theorem respected_aside (respected : Respected w) (aside : ∀ other ∈ after.altered, Aside other w after) :
    Respected after := by
  intro other altered changes
  have nothing := aside other altered
  rw [nothing.reported]
  exact respected other (nothing.altered.mp altered) ((aside_changes nothing).mp changes)

theorem arrives_keeps {input : Input} (sound : Sound w) (idle : Idle process w)
    (arrived : (sys cfg subscription).arrive process input w = some after) :
    Sound after ∧ (∀ other, other ≠ process → Aside other w after) ∧ Begun process input.operation after ∧
      input.operation ∈ after.deliveries ∧
      after = { w with handles := Function.update w.handles process (some input.delivery) } := by
  simp only [sys] at arrived
  split at arrived
  · rename_i listed
    cases arrived
    have others (other : Nat) (apart : other ≠ process) :
        Aside other w { w with handles := Function.update w.handles process (some input.delivery) } := by
      have same := Function.update_of_ne apart (some input.delivery) w.handles
      exact ⟨same,congrArg (fun d : Option Nat => d.bind fun d => w.deliveries[d]?) same,rfl,fun _ => Iff.rfl,Iff.rfl⟩
    have mine : Function.update w.handles process (some input.delivery) process = some input.delivery :=
        Function.update_self ..
    refine ⟨⟨sound.real,sound.sent,?_,?_,?_⟩,others,⟨?_,idle.reported,idle.altered⟩,List.mem_of_getElem? listed,rfl⟩
    · intro other d handles
      by_cases same : other = process
      · subst same
        obtain rfl := Option.some.inj (mine.symm.trans handles)
        exact (List.getElem?_eq_some_iff.mp listed).1
      · exact sound.handled other d ((others other same).handles.symm.trans handles)
    · intro other d done
      obtain ⟨handles,wrote⟩ := sound.done other d done
      have apart : other ≠ process := by
        rintro rfl
        cases idle.handles.symm.trans handles
      exact ⟨(others other apart).handles.trans handles,wrote_aside wrote (others other apart)⟩
    · refine respected_aside sound.respected fun other altered => others other ?_
      rintro rfl
      exact idle.altered altered
    · exact (congrArg (fun d : Option Nat => d.bind fun d => w.deliveries[d]?) mine).trans listed
  · cases arrived

theorem moves_keeps {event : Env} (sound : Sound w) (moved : (sys cfg subscription).environment event w = some after) :
    Sound after ∧ ∀ other, Aside other w after := by
  cases event with
  | operates operation =>
    simp only [sys] at moved
    split at moved
    · rename_i fresh
      cases moved
      refine ⟨⟨List.forall_mem_cons.mpr ⟨fresh.2,sound.real⟩,?_,sound.handled,sound.done,sound.respected⟩,
        fun other => ⟨rfl,rfl,rfl,fun _ => Iff.rfl,Iff.rfl⟩⟩
      exact fun other sent => List.mem_cons_of_mem _ (sound.sent other sent)
    · cases moved
  | sends operation =>
    simp only [sys] at moved
    split at moved
    · rename_i listed
      cases moved
      have aside (other : Nat) : Aside other w { w with deliveries := w.deliveries ++ [operation] } := by
        refine ⟨rfl,?_,rfl,fun _ => Iff.rfl,Iff.rfl⟩
        cases handles : w.handles other with
        | none => rw [World.operation,World.operation,handles]; rfl
        | some d =>
          rw [World.operation,World.operation,handles]
          exact List.getElem?_append_left (sound.handled other d handles)
      refine ⟨⟨sound.real,?_,?_,?_,respected_aside sound.respected fun other _ => aside other⟩,aside⟩
      · intro other sent
        rcases List.mem_append.mp sent with before | now
        · exact sound.sent other before
        · exact List.mem_singleton.mp now ▸ listed
      · intro other d handles
        exact Nat.lt_of_lt_of_le (sound.handled other d handles) (List.length_append ▸ Nat.le_add_right _ _)
      · intro other d done
        exact ⟨(sound.done other d done).1,wrote_aside (sound.done other d done).2 (aside other)⟩
    · cases moved

theorem keeps : Keeps (sys cfg subscription) (contract subscription) fun _ _ _ => True where
  reflexive _ _ := aside_refl
  transitive _ _ _ _ := aside_trans
  stable _ _ _ _ _ _ _ := trivial
  idles _ _ _ idle aside _ := idle_aside idle aside
  arrives process input a b sound idle arrived := by
    obtain ⟨kept,others,begun,sent,-⟩ := arrives_keeps sound idle arrived
    exact ⟨kept,others,wp_processWebhook (kept.real _ (kept.sent _ sent)) begun⟩
  moves _ _ _ sound _ moved := moves_keeps sound moved

end

/-- The stored plan is Microsoft's, or this is still to come. -/
structure Inv (cfg : Config) (subscription : Nat) (m : Running) : Prop where
  safe : Safe (sys cfg subscription) (contract subscription) (fun _ _ _ => True) m
  plan : storedPlan subscription m.world.tables = some m.world.plan ∨ Coming m

section
variable {cfg : Config} {subscription process : Nat} {m next : Running}

theorem not_coming (settled : Settled m.world) : ¬Coming m := by
  rintro (⟨operation,listed,made,-,absent⟩ | ⟨d,operation,sent,-,open_,-⟩)
  · exact absent (settled.announced operation listed made)
  · obtain ⟨process,done⟩ := settled.processed d operation sent
    exact open_ process done

/-- A step in which the delivery is not processed, and no handling of it that may go on writes
    the plan. -/
theorem unwritten_kept (unwritten : Unwritten m) (plan : next.world.plan = m.world.plan)
    (deliveries : ∀ (d : Nat) operation, m.world.deliveries[d]? = some operation → next.world.deliveries[d]? = some operation)
    (processed : ∀ process d, (process,d) ∈ next.world.processed → (process,d) ∈ m.world.processed ∨
      m.world.handles process = some d ∧ Working m process ∧ Wrote process m.world)
    (working : ∀ process d, next.world.handles process = some d → Working next process →
      (process,m.world.plan) ∈ next.world.written →
        m.world.handles process = some d ∧ Working m process ∧ (process,m.world.plan) ∈ m.world.written) :
    Unwritten next := by
  obtain ⟨d,operation,sent,carries,open_,apart⟩ := unwritten
  refine ⟨d,operation,deliveries d operation sent,plan ▸ carries,fun process done => ?_,
      fun process handles works wrote => ?_⟩
  · rcases processed process d done with before | ⟨handles,works,wrote⟩
    · exact open_ process before
    · refine apart process handles works (wrote operation _ ?_ carries)
      rw [World.operation,handles]
      exact sent
  · obtain ⟨handles,works,wrote⟩ := working process d handles works (plan ▸ wrote)
    exact apart process handles works wrote

variable {thread : Thread Cmd Ret Failure Reply}
theorem working_update {world : World} {other : Nat} (apart : other ≠ process)
    (works : Working ⟨world,Function.update m.thread process thread⟩ other) : Working m other := by
  obtain ⟨p,live,goes⟩ := works
  dsimp only at live
  rw [Function.update_of_ne apart] at live
  exact ⟨p,live,goes⟩

theorem coming_start {input : Input} (idle : Idle process m.world) (unused : m.thread process = .unused)
    (coming : Coming m) :
    Coming ⟨{ m.world with handles := Function.update m.world.handles process (some input.delivery) },
      Function.update m.thread process thread⟩ := by
  rcases coming with unsent | unwritten
  · exact .inl unsent
  · refine .inr (unwritten_kept unwritten rfl (fun _ _ sent => sent) (fun _ _ done => .inl done) ?_)
    intro other d handles works wrote
    have apart : other ≠ process := by
      rintro rfl
      exact idle.written _ wrote
    exact ⟨(Function.update_of_ne apart (some input.delivery) m.world.handles).symm.trans handles,
        working_update apart works,wrote⟩

theorem coming_advance {c : Cmd} {resume : Except Failure (Ret c) → Async Reply} {tables : Onboarding.World}
    {answer : Except Failure (Ret c)} (stood : m.thread process = .live (.await c resume))
    (after : Sound (m.world.note subscription process c tables answer))
    (apart : ∀ value, c = .setSubscriptionPlanId subscription m.world.plan → answer ≠ .ok value) (coming : Coming m) :
    Coming ⟨m.world.note subscription process c tables answer,Function.update m.thread process (.live (resume answer))⟩ := by
  rcases coming with unsent | unwritten
  · exact .inl unsent
  · refine .inr (unwritten_kept unwritten rfl (fun _ _ sent => sent) (fun other d done => ?_) fun other d handles works wrote => ?_)
    · rcases mem_processed.mp done with before | ⟨rfl,handles,rfl,-⟩
      · exact .inl before
      · refine .inr ⟨handles,⟨_,stood,fun only => only.1 rfl⟩,?_⟩
        exact (after.done other d done).2
    · refine ⟨handles,?_,?_⟩
      · by_cases same : other = process
        · subst same
          obtain ⟨p,live,goes⟩ := works
          dsimp only at live
          rw [Function.update_self] at live
          cases live
          exact ⟨_,stood,fun only => goes (only.2 answer)⟩
        · exact working_update same works
      · rcases mem_written.mp wrote with before | ⟨-,is,value,got⟩
        · exact before
        · exact absurd got (apart value is)

theorem plan_operates (operation : Operation) (w : World) :
    World.plan { w with operations := operation :: w.operations } = w.plan ∨
      operation.made = true ∧ operation.change = .plan
      (World.plan { w with operations := operation :: w.operations }) := by
  rw [World.plan,World.plan,World.made,World.made]
  cases made : operation.made with
  | false =>
    rw [List.filter_cons_of_neg (by rw [made]; exact nofun)]
    exact .inl rfl
  | true =>
    rw [List.filter_cons_of_pos made,planOf]
    cases operation.change with
    | plan planId => exact .inr ⟨rfl,rfl⟩
    | quantity quantity => exact .inl rfl

theorem coming_operates {operation : Operation} (fresh : operation ∉ m.world.deliveries)
    (plan : storedPlan subscription m.world.tables = some m.world.plan ∨ Coming m) :
    storedPlan subscription m.world.tables =
        some (World.plan { m.world with operations := operation :: m.world.operations }) ∨
      Coming ⟨{ m.world with operations := operation :: m.world.operations },m.thread⟩ := by
  rcases plan_operates operation m.world with still | ⟨made,carries⟩
  · rw [still]
    refine plan.imp_right fun coming => ?_
    rcases coming with ⟨other,listed,made,carries,absent⟩ | unwritten
    · exact .inl ⟨other,List.mem_cons_of_mem _ listed,made,still.symm ▸ carries,absent⟩
    · exact .inr (unwritten_kept unwritten still (fun _ _ sent => sent) (fun _ _ done => .inl done)
        fun _ _ handles works wrote => ⟨handles,works,wrote⟩)
  · exact .inr (.inl ⟨operation,List.mem_cons_self,made,carries,fresh⟩)

theorem coming_sends (operation : Operation) (sound : Sound m.world) (coming : Coming m) :
    Coming ⟨{ m.world with deliveries := m.world.deliveries ++ [operation] },m.thread⟩ := by
  rcases coming with ⟨other,listed,made,carries,absent⟩ | unwritten
  · by_cases same : other = operation
    · -- The delivery that is sent is not handled yet.
      subst same
      have unhandled (process : Nat) : m.world.handles process ≠ some m.world.deliveries.length :=
        fun handles => Nat.lt_irrefl _ (sound.handled process _ handles)
      exact .inr ⟨m.world.deliveries.length,other,List.getElem?_concat_length,carries,
        fun process done => unhandled process (sound.done process _ done).1,fun process handles =>
        absurd handles (unhandled process)⟩
    · refine .inl ⟨other,listed,made,carries,fun sent => ?_⟩
      exact (List.mem_append.mp sent).elim absent fun now => same (List.mem_singleton.mp now)
  · refine .inr (unwritten_kept unwritten rfl (fun d other sent => ?_) (fun _ _ done => .inl done)
      fun _ _ handles works wrote => ⟨handles,works,wrote⟩)
    exact (List.getElem?_append_left (List.getElem?_eq_some_iff.mp sent).1).trans sent

theorem considered_of_inOrder {a : Action Choice Input Env} (ordered : InOrder subscription m a) :
    Considered (contract subscription) m a := by
  cases a with
  | start process input => trivial
  | advance process choice => exact fun c resume stood => (ordered c resume stood).1
  | crash process => trivial
  | environment event => trivial

/-- A step in order brings the stored plan no further from the publisher's. -/
theorem step_inv (a : Action Choice Input Env) (inv : Inv cfg subscription m) (ordered : InOrder subscription m a)
    (taken : step (sys cfg subscription) m a = some next) : Inv cfg subscription next := by
  have safe := step_safe keeps inv.safe (considered_of_inOrder ordered) taken
  refine ⟨safe,?_⟩
  cases a with
  | start process input =>
    obtain ⟨unused,world,arrived,rfl⟩ := step_start taken
    have idle := inv.safe.idle process unused
    obtain ⟨-,-,-,-,rfl⟩ := arrives_keeps inv.safe.inv idle arrived
    exact inv.plan.imp_right (coming_start idle unused)
  | advance process choice =>
    obtain ⟨c,resume,world,answer,stood,handled,rfl⟩ := step_advance taken
    obtain ⟨tables,carried,rfl⟩ := handle_cases handled
    have written := (ordered c resume stood).2
    by_cases done : ∃ value, c = .setSubscriptionPlanId subscription m.world.plan ∧ answer = .ok value
    · obtain ⟨value,rfl,rfl⟩ := done
      exact .inl (set_stored carried)
    · have apart : ∀ value, c = .setSubscriptionPlanId subscription m.world.plan → answer ≠ .ok value :=
        fun value is got => done ⟨value,is,got⟩
      rcases stored_cases subscription carried with same | ⟨row,writes_,takes,now⟩
      · exact inv.plan.imp same.trans (coming_advance stood safe.inv apart)
      · refine (written row writes_ takes).imp (fun current => ?_) (coming_advance stood safe.inv apart)
        exact now.trans (congrArg some current)
  | crash process =>
    obtain ⟨-,rfl⟩ := step_crash taken
    refine inv.plan.imp_right fun coming => coming.imp_right fun unwritten => ?_
    refine unwritten_kept unwritten rfl (fun _ _ sent => sent) (fun _ _ done => .inl done)
        fun other d handles works wrote => ?_
    refine ⟨handles,?_,wrote⟩
    obtain ⟨p,live,goes⟩ := works
    by_cases same : other = process
    · subst same
      dsimp only at live
      rw [Function.update_self] at live
      cases live
    · exact working_update same ⟨p,live,goes⟩
  | environment event =>
    obtain ⟨world,moved,rfl⟩ := step_environment taken
    have sound := inv.safe.inv
    cases event with
    | operates operation =>
      simp only [sys] at moved
      split at moved
      · rename_i fresh
        cases moved
        exact coming_operates (fun sent => fresh.1 (List.mem_map_of_mem (sound.sent operation sent))) inv.plan
      · cases moved
    | sends operation =>
      simp only [sys] at moved
      split at moved
      · cases moved
        exact inv.plan.imp_right (coming_sends operation sound)
      · cases moved

end

theorem inv_initial (cfg : Config) {subscription : Nat} {w : World} (fresh : Fresh subscription w) :
    Inv cfg subscription (Machine.initial w) := by
  have sound : Sound w := by
    refine ⟨fresh.operations ▸ nofun,fresh.deliveries ▸ nofun,fun process d handles => ?_,fresh.processed ▸ nofun,
        fun process altered => ?_⟩
    · cases (fresh.handles process).symm.trans handles
    · cases fresh.altered ▸ altered
  refine ⟨safe_initial sound fun process => ⟨fresh.handles process,fresh.reported process,fresh.written ▸ nofun,fresh.altered ▸ nofun⟩,
    .inl (fresh.stored.trans ?_)⟩
  change _ = some (planOf w.first w.made)
  rw [World.made,fresh.operations]
  rfl

/-- In every run that writes no older plan when none is still to come, and none for a failed operation, the
    stored plan is Microsoft's whenever all is processed. -/
theorem plan_converges (cfg : Config) {subscription : Nat} {w : World}
    {actions : List (Action Choice Input Env)} {m : Running}
    (fresh : Fresh subscription w) (reached : run (step (sys cfg subscription)) (Machine.initial w) actions = some m)
    (ordered : Along (step (sys cfg subscription)) (InOrder subscription) (Machine.initial w) actions) :
    Converged subscription m.world ∧ Respected m.world := by
  have inv := run_keeps_along (fun _ a _ inv ordered taken => step_inv a inv ordered taken)
      (inv_initial cfg fresh) ordered reached
  exact ⟨fun settled => inv.plan.resolve_right (not_coming settled),inv.safe.inv.respected⟩

/-- The subscription 1 with the plan `basic`. -/
def subscribed : World where
  tables := ⟨AList.insert 1 ⟨"offer","basic",.subscribed,none,none,none,none,none,some 3,some 7,.activated,10,none⟩ ∅,∅,[],∅,1000,
    fun _ => none,[]⟩
  first := "basic"
  operations := []
  deliveries := []
  handles _ := none
  reported _ := none
  written := []
  processed := []
  altered := []

theorem fresh_subscribed : Fresh 1 subscribed :=
  ⟨by decide +kernel,rfl,rfl,fun _ => rfl,fun _ => rfl,rfl,rfl,rfl⟩
def hooked : Config := ⟨false,some "offer",none,true,id,@rfl String "",some,String.length⟩
def toBusiness : Operation := ⟨"first","offer",.plan "business",true⟩
def toPremium : Operation := ⟨"second","offer",.plan "premium",true⟩
def refused : Operation := ⟨"third","offer",.plan "premium",false⟩
def behind : Choice :=
  ⟨⟨.none,0,0,[⟨1,"offer","",.subscribed,none,none,none,none,none⟩]⟩,true⟩
def handled (process delivery : Nat) (operation : Operation) : List (Action Choice Input Env) :=
  .start process ⟨delivery,operation⟩ :: List.replicate 11 (.advance process behind)
def inTurn : List (Action Choice Input Env) :=
  [.environment (.operates toBusiness),.environment (.sends toBusiness)] ++ handled 0 0 toBusiness ++
    [.environment (.operates toPremium),.environment (.sends toPremium)] ++ handled 1 1 toPremium

/-- An older plan is written only while the one of the latest delivery was never written. -/
def Plainly (m : Running) : Action Choice Input Env → Prop
  | .advance process _ => ∀ c ∈ (m.thread process).awaited.toList, m.world.reported process ≠ some .failed ∧
      ∀ stored ∈ (rowWrite m.world.tables c).toList, stored.2.planId = m.world.plan ∨
        ∃ sent ∈ m.world.deliveries.zipIdx, sent.1.change = .plan m.world.plan ∧
          (∀ done ∈ m.world.processed, done.2 ≠ sent.2) ∧ ∀ wrote ∈ m.world.written, wrote.2 ≠ m.world.plan
  | _ => True
instance (m : Running) : (a : Action Choice Input Env) → Decidable (Plainly m a)
  | .advance _ _ => inferInstanceAs (Decidable (∀ c ∈ _, _))
  | .start _ _ => isTrue trivial
  | .crash _ => isTrue trivial
  | .environment _ => isTrue trivial

theorem inOrder_of_plainly {m : Running} {a : Action Choice Input Env} (subscription : Nat) (plainly : Plainly m a) :
    InOrder subscription m a := by
  cases a with
  | advance process choice =>
    intro c resume stood
    obtain ⟨fine,writes_⟩ := plainly c (by rw [stood]; exact List.mem_singleton_self _)
    refine ⟨fun _ _ _ _ failed => absurd failed fine,fun row wrote _ => ?_⟩
    refine (writes_ (subscription,row) (Option.mem_toList.mpr wrote)).imp_right ?_
    rintro ⟨⟨operation,d⟩,sent,carries,open_,unwritten⟩
    exact .inr ⟨d,operation,List.mem_zipIdx_iff_getElem?.mp sent,carries,fun process done => open_ (process,d) done rfl,
      fun process _ _ wrote => unwritten (process,m.world.plan) wrote rfl⟩
  | _ => trivial

theorem plan_converges_inTurn : ∃ m, run (step (sys hooked 1)) (Machine.initial subscribed) inTurn = some m ∧
    storedPlan 1 m.world.tables = some "premium" ∧ Converged 1 m.world ∧ Respected m.world := by
  have runs : ((run (step (sys hooked 1)) (Machine.initial subscribed) inTurn).map fun m =>
      storedPlan 1 m.world.tables) =
      some (some "premium") := by decide +kernel
  obtain ⟨m,reached,stored⟩ := Option.map_eq_some_iff.mp runs
  have plainly : Along (step (sys hooked 1)) Plainly (Machine.initial subscribed) inTurn := by decide +kernel
  exact ⟨m,reached,stored,plan_converges hooked fresh_subscribed reached
    (along_mono (fun _ _ => inOrder_of_plainly 1) plainly)⟩
/-- The delivery of the first change comes after that of the second. -/
def lateDelivery : List (Action Choice Input Env) :=
  [.environment (.operates toBusiness),.environment (.operates toPremium),.environment (.sends toPremium),
    .environment (.sends toBusiness)] ++ handled 0 0 toPremium ++ handled 1 1 toBusiness
def failedOperation : List (Action Choice Input Env) :=
  [.environment (.operates refused),.environment (.sends refused)] ++ handled 0 0 refused

/-- The late delivery brings its plan back, and that of a failed operation is stored too. -/
theorem late_delivery_wins :
    (¬∀ (cfg : Config) (subscription : Nat) (w : World) (actions : List (Action Choice Input Env)) (m : Running),
      Fresh subscription w → run (step (sys cfg subscription)) (Machine.initial w) actions = some m →
        Converged subscription m.world) ∧
    ¬∀ (cfg : Config) (subscription : Nat) (w : World) (actions : List (Action Choice Input Env)) (m : Running),
      Fresh subscription w → run (step (sys cfg subscription)) (Machine.initial w) actions = some m →
      Respected m.world := by
  constructor
  · intro every
    have runs : ((run (step (sys hooked 1)) (Machine.initial subscribed) lateDelivery).map fun m =>
        decide (storedPlan 1 m.world.tables = some "business" ∧ m.world.plan = "premium" ∧
          m.world.operations = [toPremium,toBusiness] ∧ m.world.deliveries = [toPremium,toBusiness] ∧
          m.world.processed = [(1,1),(0,0)])) = some true := by decide +kernel
    obtain ⟨m,reached,found⟩ := Option.map_eq_some_iff.mp runs
    obtain ⟨stored,plan,operations,deliveries,processed⟩ := of_decide_eq_true found
    have settled : Settled m.world := by
      refine ⟨?_,fun d operation sent => ?_⟩
      · rw [operations,deliveries]
        exact fun _ listed _ => listed
      · rw [deliveries] at sent
        rw [processed]
        match d,sent with
        | 0,_ => exact ⟨0,by decide⟩
        | 1,_ => exact ⟨1,by decide⟩
    have current := every hooked 1 subscribed lateDelivery m fresh_subscribed reached settled
    rw [stored,plan] at current
    exact absurd current (by decide)
  · intro every
    have runs : ((run (step (sys hooked 1)) (Machine.initial subscribed) failedOperation).map fun m =>
        (m.world.altered,m.world.operation 0,m.world.reported 0)) =
            some ([0],some refused,some .failed) := by decide +kernel
    obtain ⟨m,reached,found⟩ := Option.map_eq_some_iff.mp runs
    simp only [Prod.mk.injEq] at found
    obtain ⟨altered,handles,failed⟩ := found
    have respected := every hooked 1 subscribed failedOperation m fresh_subscribed reached
    exact (respected 0 (altered ▸ List.mem_singleton_self 0) ⟨refused,"premium",handles,rfl⟩).1 failed

end Ngotag.PlanConvergence
