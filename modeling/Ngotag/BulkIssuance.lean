import Ngotag.Await
import Ngotag.BulkStore

/-!
Bulk issuance as interleaved asynchronous functions: the requests that store a
file and enqueue its rows (`issueBulkCredential`, `retryBulkCredential`,
`processInBatches`) and the workers that process the queued jobs
(`processIssuanceData`, `processBulkRow` and `completeBulkRow`). Every awaited
call may reject, before or after it took effect, and every function may be cut
off wherever it awaits.
-/
namespace Ngotag.BulkIssuance
open Await BulkStore

/-- The errors the functions throw themselves, and a rejected call. -/
inductive Failure where
  | unavailable
  | rowActive
  | rowNotOwned
  | agentUnavailable
  | offerIncomplete
  | invalidCompletion
  | rowFailed
  | retryFileMissing
  | nothingToRetry
  | rowsUncertain
  deriving DecidableEq

/-- What the functions await. The first group are the database calls, the second
    Redis and the queue, the third the other services and the admission queues;
    the last ones are synchronous and never reject. -/
inductive Cmd where
  | getFileDataForProcessing (id fileUploadId orgId : String)
  | deleteFileDataByJobId (jobId : String)
  | updateFileUploadData (jobId fileUpload : String) (isError : Bool)
  | countErrorsForFile (fileUploadId : String)
  | updateFileUploadDetails (fileId : String) (status : FileUploadStatus)
  | interruptFileUpload (fileId orgId : String)
  | saveFileUploadDetails (orgId : String) (status : FileUploadStatus)
  | saveFileDetails (file : Uuid)
  | getFileDetails (fileId : String)
  | getFileDetailsById (fileId : String)
  | getFailedCredentials (fileId : String)
  | setNx (key : String)
  | releaseRow (key : String)
  | complete (key row : String) (total : Nat)
  | mget (keys : List String)
  | addBulk (jobs : List Job)
  | readCache
  | delCache
  | admitRow
  | getAgentEndPoint
  | prepareOffer
  | acquirePermit
  | settleOffer
  | deliverOffer
  | enterRow (key : String)
  | startOffer
  | leaveRow
  | launch (jobs : List Job)
  | settleRow (result : Option Bool)
  deriving DecidableEq

@[reducible] def Ret : Cmd → Type
  | .getFileDataForProcessing _ _ _ => Option Bool
  | .countErrorsForFile _ => Nat
  | .interruptFileUpload _ _ => Bool
  | .saveFileUploadDetails _ _ => Uuid
  | .getFileDetails _ => List FileData
  | .getFileDetailsById _ => Option FileUpload
  | .getFailedCredentials _ => List FileData
  | .setNx _ => Bool
  | .complete _ _ _ => Bool
  | .mget _ => List (Option Nat)
  | .getAgentEndPoint => Bool
  | .deliverOffer => Bool
  | .leaveRow => Bool
  | _ => Unit

abbrev Bulk := Prog Cmd Ret Failure
abbrev perform (c : Cmd) : Bulk (Ret c) := call c
/-- `IssuanceWorkCoordinator.offer`: the wait for a permit may end without one;
    then the operation starts, and it and the return of the permit settle. -/
def offer : Bulk Unit := do
  perform .acquirePermit
  perform .startOffer
  perform .settleOffer
/-- `guardedRow`. The guard is returned after a success or when nothing was
    dispatched; otherwise it stays. -/
def guardedRow (key : String) (operation : Bulk Bool) : Bulk Bool := do
  let acquired ← perform (.setNx key)
  if !acquired then throw .rowActive
  perform (.enterRow key)
  operation.ensure fun result => do
    let dispatched ← perform .leaveRow
    if result = .ok true ∨ dispatched = false then perform (.releaseRow key)
def bulkRow (naming : Naming) (orgId fileId rowId : String) (operation : Bulk Bool) : Bulk Bool := do
  perform .admitRow
  guardedRow (rowKey naming orgId fileId rowId) operation
/-- The key reads of `assertRetryable`, two thousand rows at a time. -/
def assertRetryable (naming : Naming) (orgId fileId : String) : List (List String) → Bulk Unit
  | [] => pure ()
  | rowIds :: rest => do
    let owners ← perform (.mget (rowIds.map (rowKey naming orgId fileId)))
    if owners.any Option.isSome then throw .rowsUncertain
    assertRetryable naming orgId fileId rest
def completedRow (naming : Naming) (batchId rowId : String) (total : Nat) : Bulk Bool :=
  if batchId = "" ∨ rowId = "" ∨ 2 ^ 53 ≤ total ∨ total < 1 then throw .invalidCompletion
  else perform (.complete (completedKey naming batchId) (naming.identity rowId) total)
/-- The offer of one row: what is looked up and built before it, the offer and
    its delivery by e-mail. A row's payload names one recipient, so the function
    makes one offer. -/
def outOfBandCredentialOffer : Bulk Bool := do
  perform .prepareOffer
  offer
  perform .deliverOffer
/-- The part of `processBulkRow` whose errors are recorded on the row. -/
def issueRow (job : Job) : Bulk Unit := do
  let agentDetails ← perform .getAgentEndPoint
  if !agentDetails then throw .agentUnavailable
  perform .prepareOffer
  let oobCredentials ← outOfBandCredentialOffer
  if !oobCredentials then throw .offerIncomplete
  perform (.deleteFileDataByJobId job.id)
def processBulkRow (job : Job) : Bulk Bool := do
  let currentRow ← perform (.getFileDataForProcessing job.id job.fileUploadId job.orgId)
  match currentRow with
  | none => throw .rowNotOwned
  | some true => pure true
  | some false =>
    let isErrorOccurred ← Prog.tryCatch (do issueRow job; pure false) fun _ => pure true
    perform (.updateFileUploadData job.id job.fileUploadId isErrorOccurred)
    pure !isErrorOccurred
def completeBulkRow (naming : Naming) (job : Job) : Bulk Unit := do
  let isLastData ← completedRow naming job.jobId job.id job.totalJobs
  if isLastData then
    let errorCount ← perform (.countErrorsForFile job.fileUploadId)
    let status := if errorCount = 0 then FileUploadStatus.completed else .partially_completed
    perform (.updateFileUploadDetails job.fileUploadId status)
    if !job.isRetry then perform .delCache
/-- The row under its guard. `settleRow` only notes how it ended. -/
def guardedBulkRow (naming : Naming) (job : Job) : Bulk Bool :=
  (bulkRow naming job.orgId job.fileUploadId job.id (processBulkRow job)).ensure fun result =>
    perform (.settleRow result.toOption)
def processIssuanceData (naming : Naming) (job : Job) : Bulk Bool :=
  Prog.tryCatch
    (do
      let succeeded ← guardedBulkRow naming job
      completeBulkRow naming job
      pure succeeded)
    fun error => do
      Prog.tryCatch (do let _ ← perform (.interruptFileUpload job.fileUploadId job.orgId); pure ()) fun _ => pure ()
      throw error
def issueCredential (naming : Naming) (job : Job) : Bulk Unit := do
  let succeeded ← processIssuanceData naming job
  if !succeeded then throw .rowFailed
def batchesOf {α : Type} (size : Nat) (items : List α) : List (List α) :=
  (List.range ((items.length + size - 1) / size)).map fun i => (items.drop (i * size)).take size
/-- The jobs of `processInBatches` for the given rows, all under one new id. -/
def jobsFor (naming : Naming) (batch : Uuid) (orgId : String) (isRetry : Bool) (rows : List FileData) : List Job :=
  rows.map fun row =>
    { id := naming.text row.id
      jobId := naming.text batch
      fileUploadId := naming.text row.fileUploadId
      orgId := orgId
      totalJobs := rows.length
      isRetry := isRetry }
/-- `processInBatches`, which both requests start without awaiting it. -/
def processInBatches : List (List Job) → Bulk Unit
  | [] => pure ()
  | batch :: rest => do
    perform (.addBulk batch)
    processInBatches rest

def storeBulkPayload (file : Uuid) : Nat → Bulk Unit
  | 0 => pure ()
  | count + 1 => do
    perform (.saveFileDetails file)
    storeBulkPayload file count
/-- What `issueBulkCredential` does with the stored file. -/
def storeAndLaunch (naming : Naming) (request file : Uuid) (orgId : String) (count : Nat) : Bulk Unit := do
  storeBulkPayload file count
  let bulkPayload ← perform (.getFileDetails (naming.text file))
  perform (.launch (jobsFor naming request orgId false bulkPayload))

/-- `issueBulkCredential` over a cached file of `count` rows: its `finally`
    writes the file's status again, as started or as interrupted. -/
def issueBulkCredential (naming : Naming) (request : Uuid) (orgId : String) (count : Nat) : Bulk Unit := do
  perform .readCache
  let file ← perform (.saveFileUploadDetails orgId .started)
  (storeAndLaunch naming request file orgId count).ensure fun result =>
    perform (.updateFileUploadDetails (naming.text file) (if result.isOk then .started else .interrupted))
def retryBulkCredential (naming : Naming) (request : Uuid) (fileId orgId : String) : Bulk Unit := do
  let fileDetails ← perform (.getFileDetailsById fileId)
  if fileDetails.isNone then throw .retryFileMissing
  let bulkpayloadRetry ← perform (.getFailedCredentials fileId)
  if bulkpayloadRetry.isEmpty then throw .nothingToRetry
  assertRetryable naming orgId fileId (batchesOf 2000 (bulkpayloadRetry.map fun row => naming.text row.id))
  perform (.launch (jobsFor naming request orgId true bulkpayloadRetry))
/-- The object in `bulkContext` while a row is processed. -/
structure RowContext where
  key : String
  dispatched : Bool

/-- What happened, for the statements about whole runs; no function reads it.
    `wrote` also says whether every row of the file was issued at that moment
    and how many rows a retry would find. -/
inductive Event where
  | dispatched (process : Nat) (key : String)
  | settled (process : Nat) (result : Option Bool)
  | recorded (process : Nat) (row : Uuid) (isError : Bool)
  | counted (process : Nat) (batch : String) (generation : Nat) (row : String)
  | announced (process : Nat) (batch : String) (generation : Nat)
  | wrote (process : Nat) (file : Uuid) (status : FileUploadStatus) (issued : Bool) (failed : Nat)
  | interrupted (process : Nat) (file : Uuid)
  | launched (process : Nat) (jobs : List Job)
  deriving DecidableEq

structure World where
  tables : Tables
  guard : String → Option Nat
  completed : String → Completion
  context : Nat → Option RowContext
  /-- Chains of `processInBatches` that were started and not yet run. -/
  chains : List (List Job)
  /-- Every job ever added to the queue. -/
  queue : List Job
  job : Nat → Option Job
  /-- Whether every row of the file was issued when the worker counted errors. -/
  tally : Nat → Option Bool
  trace : List Event

def World.empty : World where
  tables := ⟨[],[]⟩
  guard _ := none
  completed _ := ⟨[],0,false⟩
  context _ := none
  chains := []
  queue := []
  job _ := none
  tally _ := none
  trace := []

def issued (t : Tables) (file : Uuid) : Bool := (t.rowsOf file).all (·.status)
/-- How many rows of the file a retry would find. -/
def failures (t : Tables) (file : Uuid) : Nat := (t.rowsOf file).countP Tables.failed
/-- Whether an awaited call rejects, and then whether it took effect before. -/
inductive Fault where
  | none
  | lost
  | late
/-- How a call is carried out: its fault, the id a created row gets, and the
    answer of another service. -/
structure Choice where
  fault : Fault := .none
  fresh : Uuid := 0
  answer : Bool := true
inductive Input where
  | job (job : Job)
  | issue (orgId : String) (count : Nat)
  | retry (fileId orgId : String)
  | chain (jobs : List Job)
/-- What else may happen: an operator removes a guard, the key of a completed
    batch expires, a row of a broken-off upload is stored late, and jobs are
    queued from elsewhere. -/
inductive Env where
  | clearGuard (key : String)
  | expire (key : String)
  | lateRow (row file : Uuid)
  | enqueue (job : Job)
def query {R : Type} (w : World) (answer : Option R) : World × Except Failure R :=
  (w,match answer with | some value => .ok value | none => .error .unavailable)
def update (w : World) (tables : Option Tables) (events : List Event) : World × Except Failure Unit :=
  match tables with
  | some tables => ({ w with tables := tables, trace := events ++ w.trace },.ok ())
  | none => (w,.error .unavailable)
def about (naming : Naming) (id : String) (event : Uuid → Event) : List Event :=
  (naming.uuid id).toList.map event

/-- What a command does and answers when it does not reject on its way. -/
def effect (naming : Naming) (process : Nat) : (c : Cmd) → Choice → World → World × Except Failure (Ret c)
  | .getFileDataForProcessing id fileUploadId orgId,_,w =>
    query w (w.tables.getFileDataForProcessing naming id fileUploadId orgId)
  | .deleteFileDataByJobId jobId,_,w => update w (w.tables.deleteFileDataByJobId naming jobId) []
  | .updateFileUploadData jobId fileUpload isError,_,w =>
    update w (w.tables.updateFileUploadData naming jobId fileUpload isError)
      (about naming jobId fun row => .recorded process row isError)
  | .countErrorsForFile fileUploadId,_,w =>
    query { w with tally := Function.update w.tally process ((naming.uuid fileUploadId).map (issued w.tables)) }
      (w.tables.countErrorsForFile naming fileUploadId)
  | .updateFileUploadDetails fileId status,_,w =>
    update w (w.tables.updateFileUploadDetails naming fileId status)
      (about naming fileId fun file => .wrote process file status (issued w.tables file) (failures w.tables file))
  | .interruptFileUpload fileId orgId,_,w =>
    match w.tables.interruptFileUpload naming fileId orgId with
    | some (tables,changed) =>
      ({ w with
          tables := tables
          trace := (if changed then about naming fileId (.interrupted process) else []) ++ w.trace },.ok changed)
    | none => (w,.error .unavailable)
  | .saveFileUploadDetails orgId status,choice,w =>
    match w.tables.saveFileUploadDetails naming choice.fresh orgId status with
    | some tables => ({ w with tables := tables },.ok choice.fresh)
    | none => (w,.error .unavailable)
  | .saveFileDetails file,choice,w => update w (w.tables.saveFileDetails choice.fresh file) []
  | .getFileDetails fileId,_,w => query w (w.tables.getFileDetails naming fileId)
  | .getFileDetailsById fileId,_,w => query w (w.tables.getFileDetailsById naming fileId)
  | .getFailedCredentials fileId,_,w => query w (w.tables.getFailedCredentials naming fileId)
  | .setNx key,_,w =>
    match w.guard key with
    | none => ({ w with guard := Function.update w.guard key (some process) },.ok true)
    | some _ => (w,.ok false)
  | .releaseRow key,_,w =>
    (if w.guard key = some process then { w with guard := Function.update w.guard key none } else w,.ok ())
  | .complete key row total,_,w =>
    let set := BulkStore.complete (w.completed key) row total
    ({ w with
        completed := Function.update w.completed key set.1
        trace := (if set.2 then [.announced process key set.1.generation] else []) ++
          .counted process key set.1.generation row :: w.trace },.ok set.2)
  | .mget keys,_,w => (w,.ok (keys.map w.guard))
  | .addBulk jobs,_,w => ({ w with queue := w.queue ++ jobs },.ok ())
  | .readCache,_,w => (w,.ok ())
  | .delCache,_,w => (w,.ok ())
  | .admitRow,_,w => (w,.ok ())
  | .getAgentEndPoint,choice,w => (w,.ok choice.answer)
  | .prepareOffer,_,w => (w,.ok ())
  | .acquirePermit,_,w => (w,.ok ())
  | .settleOffer,_,w => (w,.ok ())
  | .deliverOffer,choice,w => (w,.ok choice.answer)
  | .enterRow key,_,w => ({ w with context := Function.update w.context process (some ⟨key,false⟩) },.ok ())
  | .startOffer,_,w =>
    match w.context process with
    | some row =>
      ({ w with
          context := Function.update w.context process (some ⟨row.key,true⟩)
          trace := .dispatched process row.key :: w.trace },.ok ())
    | none => (w,.ok ())
  | .leaveRow,_,w =>
    ({ w with context := Function.update w.context process none },
      .ok (match w.context process with | some row => row.dispatched | none => false))
  | .launch jobs,_,w => ({ w with chains := w.chains ++ [jobs], trace := .launched process jobs :: w.trace },.ok ())
  | .settleRow result,_,w => ({ w with trace := .settled process result :: w.trace },.ok ())

def synchronous : Cmd → Bool
  | .enterRow _ => true
  | .startOffer => true
  | .leaveRow => true
  | .launch _ => true
  | .settleRow _ => true
  | _ => false
def handle (naming : Naming) (process : Nat) (c : Cmd) (choice : Choice) (w : World) :
    Option (World × Except Failure (Ret c)) :=
  let done := effect naming process c choice w
  if synchronous c then some done
  else match choice.fault with
    | .none => some done
    | .lost => some (w,.error .unavailable)
    | .late => some (done.1,.error .unavailable)

section

variable {naming : Naming} {process : Nat} {c : Cmd} {choice : Choice} {w after : World}
  {answer : Except Failure (Ret c)} (handled : handle naming process c choice w = some (after,answer))
include handled
theorem handle_cases :
    (after,answer) = effect naming process c choice w ∨
      (synchronous c = false ∧ answer = .error .unavailable ∧
        (after = w ∨ after = (effect naming process c choice w).1)) := by
  unfold handle at handled
  by_cases sync : synchronous c = true
  · simp only [sync,↓reduceIte,Option.some.injEq] at handled
    exact .inl handled.symm
  · simp only [sync,Bool.false_eq_true,↓reduceIte] at handled
    split at handled
    · exact .inl (Option.some.inj handled).symm
    · obtain ⟨rfl,rfl⟩ := Prod.mk.inj (Option.some.inj handled)
      exact .inr ⟨by simpa using sync,rfl,.inl rfl⟩
    · obtain ⟨rfl,rfl⟩ := Prod.mk.inj (Option.some.inj handled)
      exact .inr ⟨by simpa using sync,rfl,.inr rfl⟩

theorem handle_world :
    after = w ∨ after = (effect naming process c choice w).1 := by
  rcases handle_cases handled with done | ⟨-,-,stays | moves⟩
  · exact .inr (congrArg Prod.fst done)
  · exact .inl stays
  · exact .inr moves

end

theorem handle_ok {naming : Naming} {process : Nat} {c : Cmd} {choice : Choice} {w after : World} {value : Ret c}
    (handled : handle naming process c choice w = some (after,.ok value)) :
    effect naming process c choice w = (after,.ok value) := by
  rcases handle_cases handled with done | ⟨-,rejected,-⟩
  · exact done.symm
  · cases rejected

section
variable {naming : Naming} {process : Nat} {choice : Choice} {w after : World}

theorem update_ok {tables : Option Tables} {events : List Event} (done : update w tables events = (after,.ok ())) :
    ∃ t, tables = some t ∧ after = { w with tables := t, trace := events ++ w.trace } := by
  unfold update at done
  cases tables with
  | none => cases congrArg Prod.snd done
  | some t => exact ⟨t,rfl,(congrArg Prod.fst done).symm⟩
theorem query_ok {R : Type} {answer : Option R} {value : R} (done : query w answer = (after,.ok value)) :
    answer = some value ∧ after = w := by
  unfold query at done
  cases answer with
  | none => cases congrArg Prod.snd done
  | some v =>
    obtain ⟨rfl,same⟩ := Prod.mk.inj done
    exact ⟨congrArg some (Except.ok.inj same),rfl⟩
theorem deleteFileDataByJobId_ok {jobId : String} {row : Uuid} (named : naming.uuid jobId = some row)
    (handled : handle naming process (.deleteFileDataByJobId jobId) choice w = some (after,.ok ())) :
    after.tables.Issued row := by
  obtain ⟨t,updated,rfl⟩ := update_ok (handle_ok handled)
  exact Tables.deleteFileDataByJobId_issued naming named updated
theorem updateFileUploadData_ok {jobId fileUpload : String} {isError : Bool}
    (handled : handle naming process (.updateFileUploadData jobId fileUpload isError) choice w = some (after,.ok ())) :
    ∃ row, naming.uuid jobId = some row ∧ .recorded process row isError ∈ after.trace := by
  obtain ⟨t,updated,rfl⟩ := update_ok (handle_ok handled)
  unfold Tables.updateFileUploadData at updated
  split at updated
  · cases updated
  · obtain ⟨row,named,-⟩ := Option.bind_eq_some_iff.mp updated
    exact ⟨row,named,by simp [about,named]⟩
end

def dispatchedKeys (trace : List Event) : List String :=
  trace.filterMap fun
    | .dispatched _ key => some key
    | _ => none

section
variable {naming : Naming} {process : Nat} {c : Cmd} {choice : Choice} {w : World}

theorem effect_grows : w.tables.Grows (effect naming process c choice w).1.tables := by
  cases c with
  | deleteFileDataByJobId jobId =>
    simp only [effect,update]
    split
    · rename_i updated; exact Tables.deleteFileDataByJobId_grows naming updated
    · exact Tables.Grows.refl _
  | updateFileUploadData jobId fileUpload isError =>
    simp only [effect,update]
    split
    · rename_i updated; exact Tables.updateFileUploadData_grows naming updated
    · exact Tables.Grows.refl _
  | updateFileUploadDetails fileId status =>
    simp only [effect,update]
    split
    · rename_i updated; exact Tables.updateFileUploadDetails_grows naming updated
    · exact Tables.Grows.refl _
  | interruptFileUpload fileId orgId =>
    simp only [effect]
    split
    · rename_i updated; exact Tables.interruptFileUpload_grows naming updated
    · exact Tables.Grows.refl _
  | saveFileUploadDetails orgId status =>
    simp only [effect]
    split
    · rename_i saved; exact Tables.saveFileUploadDetails_grows naming saved
    · exact Tables.Grows.refl _
  | saveFileDetails file =>
    simp only [effect,update]
    split
    · rename_i saved; exact Tables.saveFileDetails_grows saved
    · exact Tables.Grows.refl _
  | setNx key => simp only [effect]; split <;> exact Tables.Grows.refl _
  | releaseRow key => simp only [effect]; split <;> exact Tables.Grows.refl _
  | startOffer => simp only [effect]; split <;> exact Tables.Grows.refl _
  | _ => exact Tables.Grows.refl _

def movesContext : Cmd → Bool
  | .enterRow _ => true
  | .startOffer => true
  | .leaveRow => true
  | _ => false
theorem effect_context (fixed : movesContext c = false) :
    (effect naming process c choice w).1.context = w.context := by
  cases c <;> simp only [movesContext,Bool.true_eq_false] at fixed <;> simp only [effect,update,query] <;>
    (try split) <;> rfl
def movesGuard : Cmd → Bool
  | .setNx _ => true
  | .releaseRow _ => true
  | _ => false
theorem effect_guard (fixed : movesGuard c = false) : (effect naming process c choice w).1.guard = w.guard := by
  cases c <;> simp only [movesGuard,Bool.true_eq_false] at fixed <;> simp only [effect,update,query] <;>
    (try split) <;> rfl

theorem effect_dispatched (quiet : c ≠ .startOffer) :
    dispatchedKeys (effect naming process c choice w).1.trace = dispatchedKeys w.trace := by
  have ofAbout : ∀ (id : String) (event : Uuid → Event), (∀ u p k, event u ≠ .dispatched p k) →
      dispatchedKeys (about naming id event ++ w.trace) = dispatchedKeys w.trace := by
    intro id event other
    unfold about
    cases naming.uuid id with
    | none => rfl
    | some u =>
      simp only [Option.toList_some,List.map_cons,List.map_nil,List.singleton_append,dispatchedKeys,
        List.filterMap_cons]
      split
      · rfl
      · rename_i found
        split at found
        · rename_i same; exact absurd same (other u _ _)
        · cases found
  cases c with
  | startOffer => exact absurd rfl quiet
  | updateFileUploadData jobId fileUpload isError =>
    simp only [effect,update]
    split
    · exact ofAbout _ _ (by simp)
    · rfl
  | updateFileUploadDetails fileId status =>
    simp only [effect,update]
    split
    · exact ofAbout _ _ (by simp)
    · rfl
  | interruptFileUpload fileId orgId =>
    simp only [effect]
    split
    · split
      · exact ofAbout _ _ (by simp)
      · rfl
    · rfl
  | complete key row total => simp only [effect]; split <;> simp [dispatchedKeys]
  | deleteFileDataByJobId jobId => simp only [effect,update]; split <;> rfl
  | saveFileDetails file => simp only [effect,update]; split <;> rfl
  | saveFileUploadDetails orgId status => simp only [effect]; split <;> rfl
  | setNx key => simp only [effect]; split <;> rfl
  | releaseRow key => simp only [effect]; split <;> rfl
  | _ => rfl
end

/-- A delivered job is one of the queue, and may be delivered again; a chain
    runs once. -/
def arrive (process : Nat) : Input → World → Option World
  | .job job,w => if job ∈ w.queue then some { w with job := Function.update w.job process (some job) } else none
  | .issue _ _,w => some w
  | .retry _ _,w => some w
  | .chain jobs,w => if jobs ∈ w.chains then some { w with chains := w.chains.erase jobs } else none
def environment : Env → World → Option World
  | .clearGuard key,w => some { w with guard := Function.update w.guard key none }
  | .expire key,w =>
    if (w.completed key).expiring then
      some { w with completed := Function.update w.completed key ⟨[],(w.completed key).generation + 1,false⟩ }
    else none
  | .lateRow row file,w => (w.tables.saveFileDetails row file).map fun tables => { w with tables := tables }
  | .enqueue job,w => some { w with queue := w.queue ++ [job] }

def program (naming : Naming) (process : Nat) : Input → Bulk Unit
  | .job job => issueCredential naming job
  | .issue orgId count => issueBulkCredential naming process orgId count
  | .retry fileId orgId => retryBulkCredential naming process fileId orgId
  | .chain jobs => processInBatches (batchesOf 2000 jobs)
def sys (naming : Naming) : System Cmd Ret Failure Unit World Choice Input Env where
  handle := handle naming
  arrive := arrive
  program := program naming
  environment := environment

theorem wp_perform {naming : Naming} {con : Contract Cmd World Choice Env} {process : Nat} {c : Cmd}
    {wanted : Except Failure (Ret c) → World → Prop} {w : World}
    (carried : ∀ before, con.rely process w before → con.inv before → ∀ choice after answer,
      con.allowed process c choice before → handle naming process c choice before = some (after,answer) →
        con.inv after ∧ (∀ other, other ≠ process → con.rely other before after) ∧ wanted answer after) :
    wp (sys naming) con process (perform c) wanted w := wp_call carried

end Ngotag.BulkIssuance
