import Ngotag.Await
import Ngotag.AdmissionQueue
import Ngotag.PermitScripts
import Mathlib.Algebra.Group.Nat.Defs

/-!
`IssuanceWorkCoordinator` and its offers. Every worker process has its own
settings and its own queue of admissions; all of them share the Redis hash of
permits. An offer waits for a slot of its worker, then for a permit, runs its
operation and gives both back. A script that was sent is executed by Redis
whenever, and as often as, the connection has it; the reply is that of one of
its executions, or the call rejects.
-/
namespace Ngotag.OfferPermits
open Await AdmissionQueue PermitScripts

/-- `Number.MAX_SAFE_INTEGER` -/
def maxSafeInteger : Nat := 2 ^ 53 - 1
/-- The number that `/^[1-9]\d*$/` matches. -/
def decimal (raw : String) : Option Nat :=
  match raw.toList with
  | [] => none
  | first :: rest =>
    if first ≠ '0' ∧ first.isDigit ∧ rest.all Char.isDigit then some (Nat.ofDigitChars 10 (first :: rest) 0) else none
/-- What `positiveIntegerSetting` answers. -/
def Setting (maximum : Nat) : Type := { n : Nat // 1 ≤ n ∧ n ≤ maximum }
structure Coordinator where
  workerConcurrency : Setting 128
  capacity : Setting 128
  waitMs : Setting 3600000
  maxPending : Setting 10000
/-- The settings where the environment says nothing. -/
def Coordinator.standard : Coordinator :=
  ⟨⟨8,by decide⟩,⟨8,by decide⟩,⟨300000,by decide⟩,⟨1000,by decide⟩⟩
def Coordinator.offerConcurrency (c : Coordinator) : Nat := min c.workerConcurrency.1 c.capacity.1

inductive Error where
  /-- `checkWaiting` and `timeoutError` -/
  | waitExceeded
  | queueFull
  | inconsistent
  | reservationExpired
  | admissionExpired
  | redis
  | operation
  deriving DecidableEq

def Error.message : Error → Option String
  | .waitExceeded => some "Issuance capacity wait exceeded; no offer was dispatched"
  | .queueFull => some "Issuance admission queue is full; no offer was dispatched"
  | .inconsistent => some "Issuance workers have inconsistent concurrency configuration"
  | .reservationExpired => some "Issuance reservation expired; no offer was dispatched"
  | .admissionExpired => some "Issuance admission expired or invalid; no offer was dispatched"
  | .redis => none
  | .operation => none
def RESERVATION_MS : Nat := 30000
def ISSUANCE_ADMISSION_MS : Nat := 10000
def ISSUANCE_INTERACTIVE_QUEUE_MS : Nat := 1000
inductive Given where
  | undefined
  | string (text : String)
  | number (n : ℚ)
  | other
/-- `Number.isSafeInteger` -/
def safeInteger (n : ℚ) : Option Int := if n.den = 1 ∧ n.num.natAbs ≤ maxSafeInteger then some n.num else none

def issuanceDeadline (value : Given) (now : Int) : Except Error Int :=
  match value with
  | .undefined => .ok (now + ISSUANCE_ADMISSION_MS)
  | .string text => atMost ((decimal text).bind fun n => safeInteger n)
  | .number n => atMost (safeInteger n)
  | .other => .error .admissionExpired
where
  atMost : Option Int → Except Error Int
    | none => .error .admissionExpired
    | some deadline =>
      if deadline ≤ now then .error .admissionExpired else .ok (min deadline (now + ISSUANCE_ADMISSION_MS))

/-- Where an offer is made: its worker process, and the request and the bulk row
    around it. -/
structure Offer where
  worker : Nat
  request : Option Nat
  bulk : Option Nat
/-- The store of `requestContext`, and the process it lives in. -/
structure Context where
  worker : Nat
  deadline : Time
  dispatched : Bool
structure Call where
  worker : Nat
  time : Time
  bulk : Bool
  request : Option Context

inductive Cmd where
  /-- The contexts and the clock at the call. -/
  | entered (offer : Offer)
  /-- `performance.now()` -/
  | now (worker : Nat)
  /-- `acquire` of the worker's queue, until it awaits. -/
  | enqueue (worker : Nat) (deadline : Time)
  | admitted (worker : Nat)
  /-- `release` of the worker's queue. -/
  | leave (worker : Nat)
  /-- `client.eval`, and its promise. -/
  | send (script : Script)
  | reply
  /-- `setTimeout` -/
  | sleep (delay : Time)
  /-- The last check and the start of the operation, with nothing awaited between. -/
  | dispatch (offer : Offer) (deadline : Time)
  | operation
  /-- More rounds of the permit loop than are looked at. -/
  | stalled

def Ret : Cmd → Type
  | .entered _ => Call
  | .now _ => Time
  | .enqueue _ _ => Bool
  | .admitted _ => Unit
  | .leave _ => Unit
  | .send _ => Unit
  | .reply => Int
  | .sleep _ => Unit
  | .dispatch _ _ => Unit
  | .operation => Unit
  | .stalled => Unit

abbrev Async := Prog Cmd Ret Error
def perform (command : Cmd) : Async (Ret command) := call command
def now (worker : Nat) : Async Time := perform (.now worker)
def eval (script : Script) : Async Int := do
  let _ : Unit ← perform (.send script)
  perform .reply
def checkWaiting (worker : Nat) (deadline : Time) : Async Unit := do
  let time ← now worker
  if deadline ≤ time then throw .waitExceeded else pure ()
/-- `IssuanceAdmissionQueue.acquire` -/
def queueAcquire (worker : Nat) (deadline : Time) : Async Unit := do
  let seat : Bool ← perform (.enqueue worker deadline)
  if seat then pure () else perform (.admitted worker)
/-- `IssuanceAdmissionQueue.run` -/
def queueRun (worker : Nat) (operation : Async Unit) (deadline : Time) : Async Unit := do
  queueAcquire worker deadline
  (do checkWaiting worker deadline; operation).ensure fun _ => perform (.leave worker)

def acquirePermit (c : Coordinator) (worker : Nat) (owner : Owner) (deadline : Time) : Nat → Time → Async Unit
  | 0, _ => perform .stalled
  | rounds + 1, retryDelay => do
    checkWaiting worker deadline
    let result ← eval (.acquire c.capacity.1 owner RESERVATION_MS)
    if result = -1 then throw .inconsistent
    else if result = 1 then pure ()
    else
      let time ← now worker
      let _ : Unit ← perform (.sleep (min retryDelay (max 1 (deadline - time))))
      acquirePermit c worker owner deadline rounds (min 50 (retryDelay * 2))

/-- The loop of `releasePermit` from an attempt on, with so many left after it;
    the failure of the last is passed on. -/
def releaseFrom (owner : Owner) (attempt : Nat) : Nat → Async Unit
  | 0 => do let _ ← eval (.release owner)
  | left + 1 => Prog.tryCatch (do let _ ← eval (.release owner)) fun _ => do
    let _ : Unit ← perform (.sleep (25 * (attempt + 1)))
    releaseFrom owner (attempt + 1) left
def releasePermit (owner : Owner) : Async Unit := releaseFrom owner 0 2
def runPermitted (c : Coordinator) (offer : Offer) (owner : Owner) (deadline : Time) (rounds : Nat) : Async Unit := do
  acquirePermit c offer.worker owner deadline rounds 1
  checkWaiting offer.worker deadline
  let result ← eval (.activate owner)
  if result ≠ 1 then throw .reservationExpired
  else do
    let _ : Unit ← perform (.dispatch offer deadline)
    perform .operation

def acquireAndRun (c : Coordinator) (offer : Offer) (owner : Owner) (deadline : Time) (rounds : Nat) : Async Unit :=
  (runPermitted c offer owner deadline rounds).ensure fun _ => releasePermit owner
def Coordinator.wait (c : Coordinator) (isBulk : Bool) : Nat :=
  if isBulk then c.waitMs.1 else min c.waitMs.1 ISSUANCE_INTERACTIVE_QUEUE_MS
/-- The request's deadline admits it once; `none` is `Infinity`. -/
def Call.admissionDeadline (seen : Call) : Option Time :=
  match seen.request with
  | some request => if !request.dispatched then some request.deadline else none
  | none => none
def Coordinator.deadline (c : Coordinator) (seen : Call) : Time :=
  match seen.admissionDeadline with
  | some admission => min (seen.time + c.wait seen.bulk) admission
  | none => seen.time + c.wait seen.bulk
def withPermit (c : Coordinator) (offer : Offer) (owner : Owner) (rounds : Nat) : Async Unit := do
  let seen : Call ← perform (.entered offer)
  queueRun offer.worker (acquireAndRun c offer owner (c.deadline seen) rounds) (c.deadline seen)

/-- The workers' clocks, queues and contexts, the shared hash, the scripts each
    offer has sent and the answers of their executions (offer, place among the
    sent, answer; the last first), and the operations that run. The rest is kept
    for the record: the calls, when operations started, who holds a slot and how
    often a release was refused. -/
structure World where
  hash : PermitHash
  sent : Nat → List Script
  replies : List (Nat × Nat × Int)
  clock : Nat → Time
  queue : Nat → Admission
  requests : Nat → Option Context
  bulk : Nat → Bool
  running : Finset Nat
  calls : Nat → Option Call
  started : List (Nat × Time)
  holders : Nat → Finset Nat
  refusals : Nat → Nat

def World.empty : World where
  hash := ∅
  sent := fun _ => []
  replies := []
  clock := fun _ => 0
  queue := fun _ => .empty
  requests := fun _ => none
  bulk := fun _ => false
  running := ∅
  calls := fun _ => none
  started := []
  holders := fun _ => ∅
  refusals := fun _ => 0

inductive Choice where
  | resolves
  | answers (result : Int)
  | rejects
/-- Both flags that the start of an operation sets. -/
def World.dispatch (offer : Offer) (w : World) : World :=
  { w with
    requests := fun r => if offer.request = some r then (w.requests r).map ({ · with dispatched := true })
      else w.requests r
    bulk := fun row => offer.bulk = some row || w.bulk row }

/-- `client.eval` hands the script to the connection. -/
def World.send (process : Nat) (script : Script) (w : World) : World :=
  { w with sent := Function.update w.sent process (w.sent process ++ [script]) }
def World.execute (process place : Nat) (script : Script) (time : RedisTime) (w : World) : World :=
  let next := script.execute time w.hash
  { w with hash := next.1, replies := (process,place,next.2) :: w.replies }
/-- The queue of a worker and who holds its slots. -/
def World.reseat (worker : Nat) (queue : Admission) (holders : Finset Nat) (w : World) : World :=
  { w with
    queue := Function.update w.queue worker queue
    holders := Function.update w.holders worker holders }
/-- How a call of a queue that has to wait no longer ends. -/
def refusal : Refusal → Error
  | .timeout => .waitExceeded
  | .full => .queueFull

/-- One turn of an offer. A promise that is not settled yet has to wait. -/
def handle (workers : Nat → Coordinator) (process : Nat) (c : Cmd) (choice : Choice) (w : World) :
    Option (World × Except Error (Ret c)) :=
  match c with
  | .entered offer =>
    let seen : Call := ⟨offer.worker,w.clock offer.worker,offer.bulk.isSome,offer.request.bind w.requests⟩
    some ({ w with calls := Function.update w.calls process (some seen) },.ok seen)
  | .now worker => some (w,.ok (w.clock worker))
  | .enqueue worker deadline =>
    match (w.queue worker).acquire (workers worker).offerConcurrency (workers worker).maxPending.1
        (w.clock worker) deadline process with
    | .error reason => some (w,.error (refusal reason))
    | .ok (queue,seat) =>
      some (w.reseat worker queue (if seat then insert process (w.holders worker) else w.holders worker),.ok seat)
  | .admitted worker =>
    match (w.queue worker).settled process with
    | some true => some (w,.ok ())
    | some false => some (w,.error .waitExceeded)
    | none => none
  | .leave worker =>
    let next := (w.queue worker).release (w.clock worker)
    some (w.reseat worker next.1 (handed (w.holders worker) process next.2),.ok ())
  | .send script => some (w.send process script,.ok ())
  | .reply =>
    match choice with
    | .answers result =>
      if (process,(w.sent process).length - 1,result) ∈ w.replies then some (w,.ok result) else none
    | .rejects => some ({ w with refusals := Function.update w.refusals process (w.refusals process +
        if (w.sent process).getLast? = some (.release process) then 1 else 0) },.error .redis)
    | .resolves => none
  | .sleep _ => some (w,.ok ())
  | .dispatch offer deadline =>
    if deadline ≤ w.clock offer.worker then some (w,.error .waitExceeded)
    else some ({ w.dispatch offer with
      running := insert process w.running
      started := (process,w.clock offer.worker) :: w.started },.ok ())
  | .operation =>
    let ended := { w with running := w.running.erase process }
    match choice with
    | .rejects => some (ended,.error .operation)
    | _ => some (ended,.ok ())
  | .stalled => none

inductive Env where
  | execute (process place : Nat) (time : RedisTime)
  | timer (worker process : Nat)
  /-- `interactive`: a request arrives, read at two times of day. -/
  | interactive (worker request : Nat) (deadline : Given) (read later : Int)
  | clock (worker : Nat) (time : Time)

def environment (event : Env) (w : World) : Option World :=
  match event with
  | .execute process place time =>
    (w.sent process)[place]?.map fun script => w.execute process place script time
  | .timer worker process => some (w.reseat worker ((w.queue worker).expire process) (w.holders worker))
  | .interactive worker request deadline read later =>
    if (w.requests request).isSome then none
    else match issuanceDeadline deadline read with
      | .error _ => some w
      | .ok latest => some { w with
          requests := Function.update w.requests request (some ⟨worker,w.clock worker + (latest - later : Int),false⟩) }
  | .clock worker time => some { w with clock := Function.update w.clock worker time }

def arrive (_ : Nat) (offer : Offer) (w : World) : Option World :=
  match offer.request with
  | none => some w
  | some request => if (w.requests request).any (·.worker = offer.worker) then some w else none
def sys (workers : Nat → Coordinator) (rounds : Nat) : System Cmd Ret Error Unit World Choice Offer Env where
  handle := handle workers
  arrive := arrive
  program process offer := withPermit (workers offer.worker) offer process rounds
  environment := environment
theorem arrive_same {process : Nat} {offer : Offer} {a b : World} (arrived : arrive process offer a = some b) :
    b = a := by
  simp only [arrive] at arrived
  split at arrived
  · exact (Option.some.inj arrived).symm
  · split at arrived
    · exact (Option.some.inj arrived).symm
    · cases arrived
/-- Commands that neither send a script nor start or end an operation. -/
def Cmd.Quiet : Cmd → Prop
  | .send _ => False
  | .dispatch _ _ => False
  | .operation => False
  | _ => True

section
variable {workers : Nat → Coordinator} {rounds process : Nat} {c : Cmd} {choice : Choice} {a b : World}
  {answer : Except Error (Ret c)}

theorem handle_cases (handled : handle workers process c choice a = some (b,answer)) :
    b = a ∨ (∃ offer calls, c = .entered offer ∧ b = { a with calls := calls }) ∨
    (((∃ worker deadline, c = .enqueue worker deadline) ∨ ∃ worker, c = .leave worker) ∧
      ∃ worker queue holders, b = a.reseat worker queue holders) ∨
    (∃ script, c = .send script ∧ b = a.send process script) ∨
    (c = .reply ∧ ∃ refusals, b = { a with refusals := refusals }) ∨
    (∃ offer deadline started, c = .dispatch offer deadline ∧
      b = { a.dispatch offer with running := insert process a.running, started := started }) ∨
    (c = .operation ∧ b = { a with running := a.running.erase process }) := by
  cases c with
  | entered offer => cases handled; exact .inr (.inl ⟨_,_,rfl,rfl⟩)
  | now worker | sleep delay => cases handled; exact .inl rfl
  | enqueue worker deadline =>
    simp only [handle] at handled
    split at handled <;> cases handled
    · exact .inl rfl
    · exact .inr (.inr (.inl ⟨.inl ⟨_,_,rfl⟩,_,_,_,rfl⟩))
  | admitted worker =>
    simp only [handle] at handled
    split at handled <;> cases handled <;> exact .inl rfl
  | leave worker => cases handled; exact .inr (.inr (.inl ⟨.inr ⟨_,rfl⟩,_,_,_,rfl⟩))
  | send script => cases handled; exact .inr (.inr (.inr (.inl ⟨_,rfl,rfl⟩)))
  | reply =>
    simp only [handle] at handled
    split at handled
    · split at handled <;> cases handled
      exact .inl rfl
    · cases handled; exact .inr (.inr (.inr (.inr (.inl ⟨rfl,_,rfl⟩))))
    · cases handled
  | dispatch offer deadline =>
    simp only [handle] at handled
    split at handled <;> cases handled
    · exact .inl rfl
    · exact .inr (.inr (.inr (.inr (.inr (.inl ⟨_,_,_,rfl,rfl⟩)))))
  | operation =>
    simp only [handle] at handled
    split at handled <;> cases handled <;> exact .inr (.inr (.inr (.inr (.inr (.inr ⟨rfl,rfl⟩)))))
  | stalled => cases handled

theorem handle_quiet (quiet : c.Quiet) (handled : handle workers process c choice a = some (b,answer)) :
    b.hash = a.hash ∧ b.sent = a.sent ∧ b.replies = a.replies ∧ b.running = a.running ∧ b.started = a.started := by
  rcases handle_cases handled with rfl | ⟨_,_,-,rfl⟩ | ⟨-,_,_,_,rfl⟩ | ⟨_,rfl,-⟩ | ⟨-,_,rfl⟩ | ⟨_,_,_,rfl,-⟩ | ⟨rfl,-⟩
  case inr.inr.inr.inl | inr.inr.inr.inr.inr.inl | inr.inr.inr.inr.inr.inr => cases quiet
  all_goals exact ⟨rfl,rfl,rfl,rfl,rfl⟩

/-- A reply that resolves is the answer of an execution of the last script. -/
theorem handle_reply {result : Int}
    (handled : handle workers process .reply choice a = some (b,.ok result)) :
    b = a ∧ (process,(a.sent process).length - 1,result) ∈ a.replies := by
  simp only [handle] at handled
  split at handled
  · split at handled
    · rename_i answered
      cases handled
      exact ⟨rfl,answered⟩
    · cases handled
  · cases handled
  · cases handled

theorem wp_perform {con : Contract Cmd World Choice Env} {wanted : Except Error (Ret c) → World → Prop} {w : World}
    (carried : ∀ before, con.rely process w before → con.inv before → ∀ choice after answer,
      con.allowed process c choice before → handle workers process c choice before = some (after,answer) →
        con.inv after ∧ (∀ other, other ≠ process → con.rely other before after) ∧ wanted answer after) :
    wp (sys workers rounds) con process (perform c) wanted w := wp_call carried

end
section
variable {condition : Cmd → Prop} {owner : Owner}

theorem eval_only {script : Script} (sends : condition (.send script)) (replied : condition .reply) :
    Only condition (eval script) :=
  only_bind ((only_call _).mpr sends) fun _ => (only_call _).mpr replied
theorem checkWaiting_only {worker : Nat} {deadline : Time} (reads : condition (.now worker)) :
    Only condition (checkWaiting worker deadline) := by
  refine only_bind ((only_call _).mpr reads) fun time => ?_
  split
  · exact only_throw _
  · exact only_pure _
theorem queueAcquire_only {worker : Nat} {deadline : Time} (enters : condition (.enqueue worker deadline))
    (waits : condition (.admitted worker)) : Only condition (queueAcquire worker deadline) := by
  refine only_bind ((only_call _).mpr enters) fun seat => ?_
  cases seat with
  | true => exact only_pure _
  | false => exact (only_call _).mpr waits

theorem acquirePermit_only {c : Coordinator} {worker rounds : Nat} {deadline retryDelay : Time}
    (reads : condition (.now worker)) (sends : condition (.send (.acquire c.capacity.1 owner RESERVATION_MS)))
    (replied : condition .reply) (waits : ∀ delay, condition (.sleep delay)) (stalls : condition .stalled) :
    Only condition (acquirePermit c worker owner deadline rounds retryDelay) := by
  induction rounds generalizing retryDelay with
  | zero => exact (only_call _).mpr stalls
  | succ rounds ih =>
    refine only_bind (checkWaiting_only reads) fun _ => only_bind (eval_only sends replied) fun result => ?_
    split
    · exact only_throw _
    split
    · exact only_pure _
    · exact only_bind ((only_call _).mpr reads) fun time => only_bind ((only_call _).mpr (waits _)) fun _ => ih

theorem runPermitted_only {c : Coordinator} {offer : Offer} {deadline : Time} {rounds : Nat}
    (reads : condition (.now offer.worker)) (acquires : condition (.send (.acquire c.capacity.1 owner RESERVATION_MS)))
    (activates : condition (.send (.activate owner))) (replied : condition .reply)
    (waits : ∀ delay, condition (.sleep delay)) (stalls : condition .stalled)
    (starts : condition (.dispatch offer deadline)) (runs : condition .operation) :
    Only condition (runPermitted c offer owner deadline rounds) := by
  refine only_bind (acquirePermit_only reads acquires replied waits stalls) fun _ => ?_
  refine only_bind (checkWaiting_only reads) fun _ => only_bind (eval_only activates replied) fun result => ?_
  by_cases one : result = 1
  · rw [one]
    exact only_bind ((only_call _).mpr starts) fun _ => (only_call _).mpr runs
  · simp only [ne_eq,one,not_false_eq_true]
    exact only_throw _

theorem releaseFrom_only {attempt left : Nat} (sends : condition (.send (.release owner))) (replied : condition .reply)
    (waits : ∀ delay, condition (.sleep delay)) : Only condition (releaseFrom owner attempt left) := by
  induction left generalizing attempt with
  | zero => exact only_bind (eval_only sends replied) fun _ => only_pure _
  | succ left ih =>
    refine only_tryCatch (only_bind (eval_only sends replied) fun _ => only_pure _) fun error => ?_
    exact only_bind ((only_call _).mpr (waits _)) fun _ => ih
theorem releasePermit_only (sends : condition (.send (.release owner))) (replied : condition .reply)
    (waits : ∀ delay, condition (.sleep delay)) : Only condition (releasePermit owner) :=
  releaseFrom_only sends replied waits
end
variable {w : World} {process : Nat} {script : Script}

theorem sent_earlier (w : World) (process : Nat) (script : Script) (other : Nat) :
    w.sent other <+: (w.send process script).sent other := by
  by_cases same : other = process
  · subst same
    simp only [World.send,Function.update_self]
    exact List.prefix_append _ _
  · simp only [World.send,Function.update_of_ne same]
    exact List.prefix_rfl
theorem mem_sent {other : Nat} {found : Script} :
    found ∈ (w.send process script).sent other ↔ found ∈ w.sent other ∨ other = process ∧ found = script := by
  by_cases same : other = process
  · subst same; simp [World.send]
  · simp [World.send,same]
theorem sent_of_ne {other : Nat} (different : other ≠ process) : (w.send process script).sent other = w.sent other :=
  Function.update_of_ne different _ _
theorem sent_self : (w.send process script).sent process = w.sent process ++ [script] := Function.update_self _ _ _

end Ngotag.OfferPermits
