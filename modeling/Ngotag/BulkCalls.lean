import Ngotag.BulkIssuance

/-!
Which calls the functions of bulk issuance make, and with which arguments.
-/
namespace Ngotag.BulkCalls
open Await BulkStore BulkIssuance

/-- What a request may ask for. -/
def requests : Cmd → Bool
  | .readCache => true
  | .saveFileUploadDetails _ _ => true
  | .saveFileDetails _ => true
  | .getFileDetails _ => true
  | .launch _ => true
  | .updateFileUploadDetails _ _ => true
  | .getFileDetailsById _ => true
  | .getFailedCredentials _ => true
  | .mget _ => true
  | .addBulk _ => true
  | _ => false

def stores : Cmd → Bool
  | .readCache => true
  | .saveFileUploadDetails _ _ => true
  | .saveFileDetails _ => true
  | .getFileDetails _ => true
  | .launch _ => true
  | .updateFileUploadDetails _ _ => true
  | _ => false
/-- What a chain may ask for. -/
def queues : Cmd → Bool
  | .addBulk _ => true
  | _ => false
def finishes : Cmd → Bool
  | .admitRow => true
  | .settleRow _ => true
  | .complete _ _ _ => true
  | .countErrorsForFile _ => true
  | .updateFileUploadDetails _ _ => true
  | .delCache => true
  | .interruptFileUpload _ _ => true
  | _ => false

/-- What only the worker of the last row asks for. -/
def closes : Cmd → Bool
  | .complete _ _ _ => true
  | .countErrorsForFile _ => true
  | .updateFileUploadDetails _ _ => true
  | .delCache => true
  | .interruptFileUpload _ _ => true
  | _ => false
def settles : Cmd → Bool
  | .settleRow _ => true
  | _ => false

section
variable {naming : Naming} {process : Nat}

theorem storeBulkPayload_only {condition : Cmd → Prop} {file : Uuid} (saves : condition (.saveFileDetails file))
    (count : Nat) : Only condition (storeBulkPayload file count) := by
  induction count with
  | zero => trivial
  | succ count ih => exact only_bind ((only_call _).mpr saves) fun _ => ih
theorem issueBulkCredential_stores (orgId : String) (count : Nat) :
    Only (stores · = true) (issueBulkCredential naming process orgId count) := by
  refine only_bind ((only_call _).mpr rfl) fun _ => only_bind ((only_call _).mpr rfl) fun file => ?_
  refine only_ensure ?_ fun result => (only_call _).mpr rfl
  refine only_bind (storeBulkPayload_only (by rfl) count) fun _ => ?_
  exact only_bind ((only_call _).mpr rfl) fun _ => (only_call _).mpr rfl
theorem assertRetryable_only {condition : Cmd → Prop} {orgId fileId : String}
    (reads : ∀ rowIds : List String, condition (.mget (rowIds.map (rowKey naming orgId fileId))))
    (batches : List (List String)) : Only condition (assertRetryable naming orgId fileId batches) := by
  induction batches with
  | nil => trivial
  | cons rowIds rest ih =>
    refine only_bind ((only_call _).mpr (reads _)) fun owners => ?_
    split
    · exact only_bind trivial fun _ => ih
    · exact ih

theorem retryBulkCredential_only {condition : Cmd → Prop} {fileId orgId : String}
    (byId : condition (.getFileDetailsById fileId)) (failed : condition (.getFailedCredentials fileId))
    (reads : ∀ rowIds : List String, condition (.mget (rowIds.map (rowKey naming orgId fileId))))
    (starts : ∀ rows, condition (.launch (jobsFor naming process orgId true rows))) :
    Only condition (retryBulkCredential naming process fileId orgId) := by
  have rest : ∀ rows : List FileData, Only condition (do
      assertRetryable naming orgId fileId (batchesOf 2000 (rows.map fun row => naming.text row.id))
      perform (.launch (jobsFor naming process orgId true rows))) :=
    fun rows => only_bind (assertRetryable_only reads _) fun _ => (only_call _).mpr (starts rows)
  have found : Only condition (do
      let rows ← perform (.getFailedCredentials fileId)
      if rows.isEmpty then throw .nothingToRetry
      assertRetryable naming orgId fileId (batchesOf 2000 (rows.map fun row => naming.text row.id))
      perform (.launch (jobsFor naming process orgId true rows)) : Bulk Unit) := by
    refine only_bind ((only_call _).mpr failed) fun rows => ?_
    dsimp only
    split
    · exact only_bind trivial fun _ => rest rows
    · exact rest rows
  refine only_bind ((only_call _).mpr byId) fun fileDetails => ?_
  dsimp only
  split
  · exact only_bind trivial fun _ => found
  · exact found

theorem processInBatches_queues (batches : List (List Job)) :
    Only (queues · = true) (processInBatches batches) := by
  induction batches with
  | nil => trivial
  | cons batch rest ih => exact only_bind ((only_call _).mpr rfl) fun _ => ih
theorem program_requests {input : Input} (notJob : ∀ job, input ≠ .job job) :
    Only (requests · = true) (program naming process input) := by
  cases input with
  | job job => exact absurd rfl (notJob job)
  | issue orgId count =>
    exact only_mono (fun c store => by cases c <;> first | rfl | cases store) (issueBulkCredential_stores orgId count)
  | retry fileId orgId =>
    exact retryBulkCredential_only (by rfl) (by rfl) (by intro; rfl) (by intro; rfl)
  | chain jobs =>
    exact only_mono (fun c queue => by cases c <;> first | rfl | cases queue) (processInBatches_queues _)

/-- The completion only counts, writes the file's status and clears its cache. -/
theorem completeBulkRow_closes (job : Job) : Only (closes · = true) (completeBulkRow naming job) := by
  refine only_bind ?_ fun isLastData => ?_
  · unfold completedRow
    split
    · trivial
    · exact (only_call _).mpr rfl
  · dsimp only
    split
    · refine only_bind ((only_call _).mpr rfl) fun errorCount => only_bind ((only_call _).mpr rfl) fun _ => ?_
      split
      · exact (only_call _).mpr rfl
      · trivial
    · trivial
end

theorem mem_batchesOf {α : Type} {size : Nat} {items piece : List α} (member : piece ∈ batchesOf size items) :
    ∀ x ∈ piece, x ∈ items := by
  obtain ⟨i,-,rfl⟩ := List.mem_map.mp member
  exact fun x inside => List.mem_of_mem_drop (List.mem_of_mem_take inside)

/-- What a worker asks for is about the row, the file and the organisation of its job. -/
def WorkerCall (naming : Naming) (job : Job) : Cmd → Prop
  | .getFileDataForProcessing id fileUploadId orgId => id = job.id ∧ fileUploadId = job.fileUploadId ∧ orgId = job.orgId
  | .deleteFileDataByJobId jobId => jobId = job.id
  | .updateFileUploadData jobId fileUpload _ => jobId = job.id ∧ fileUpload = job.fileUploadId
  | .countErrorsForFile fileUploadId => fileUploadId = job.fileUploadId
  | .updateFileUploadDetails fileId status => fileId = job.fileUploadId ∧
      (status = .completed ∨ status = .partially_completed)
  | .interruptFileUpload fileId orgId => fileId = job.fileUploadId ∧ orgId = job.orgId
  | .setNx key => key = rowKey naming job.orgId job.fileUploadId job.id
  | .enterRow key => key = rowKey naming job.orgId job.fileUploadId job.id
  | .releaseRow key => key = rowKey naming job.orgId job.fileUploadId job.id
  | .complete key row total => key = completedKey naming job.jobId ∧ row = naming.identity job.id ∧ total = job.totalJobs
  | .saveFileUploadDetails _ _ => False
  | .saveFileDetails _ => False
  | .getFileDetails _ => False
  | .getFileDetailsById _ => False
  | .getFailedCredentials _ => False
  | .mget _ => False
  | .addBulk _ => False
  | .readCache => False
  | .launch _ => False
  | _ => True

/-- What a worker asks for before it closes its batch. -/
def RowCall (naming : Naming) (job : Job) (c : Cmd) : Prop := WorkerCall naming job c ∧ (closes c || settles c) = false

variable {naming : Naming} {job : Job}
theorem processBulkRow_calls : Only (RowCall naming job) (processBulkRow job) := by
  have call : ∀ {c : Cmd}, RowCall naming job c → Only (RowCall naming job) (perform c) :=
    fun fits => (only_call _).mpr fits
  have offered : Only (RowCall naming job) outOfBandCredentialOffer :=
    only_bind (call ⟨trivial,rfl⟩) fun _ => only_bind (only_bind (call ⟨trivial,rfl⟩) fun _ =>
      only_bind (call ⟨trivial,rfl⟩) fun _ => call ⟨trivial,rfl⟩) fun _ => call ⟨trivial,rfl⟩
  have issues : Only (RowCall naming job) (issueRow job) := by
    have sent : Only (RowCall naming job) (do
        let oobCredentials ← outOfBandCredentialOffer
        if !oobCredentials then throw .offerIncomplete
        perform (.deleteFileDataByJobId job.id) : Bulk Unit) := by
      refine only_bind offered fun oobCredentials => ?_
      dsimp only
      split
      · exact only_bind trivial fun _ => call ⟨rfl,rfl⟩
      · exact call ⟨rfl,rfl⟩
    refine only_bind (call ⟨trivial,rfl⟩) fun agentDetails => ?_
    dsimp only
    split
    · exact only_bind trivial fun _ => only_bind (call ⟨trivial,rfl⟩) fun _ => sent
    · exact only_bind (call ⟨trivial,rfl⟩) fun _ => sent
  refine only_bind (call ⟨⟨rfl,rfl,rfl⟩,rfl⟩) fun currentRow => ?_
  rcases currentRow with _ | issued
  · trivial
  cases issued with
  | true => trivial
  | false =>
    refine only_bind (only_tryCatch (only_bind issues fun _ => trivial) fun _ => trivial) fun isErrorOccurred => ?_
    exact only_bind (call ⟨⟨rfl,rfl⟩,rfl⟩) fun _ => trivial

/-- Until its batch is closed a worker asks for nothing that closes or settles. -/
theorem bulkRow_calls :
    Only (RowCall naming job) (bulkRow naming job.orgId job.fileUploadId job.id (processBulkRow job)) := by
  have call : ∀ {c : Cmd}, RowCall naming job c → Only (RowCall naming job) (perform c) :=
    fun fits => (only_call _).mpr fits
  have entered : Only (RowCall naming job) (do
      perform (.enterRow (rowKey naming job.orgId job.fileUploadId job.id))
      (processBulkRow job).ensure fun result => do
        let dispatched ← perform .leaveRow
        if result = .ok true ∨ dispatched = false then
          perform (.releaseRow (rowKey naming job.orgId job.fileUploadId job.id)) : Bulk Bool) := by
    refine only_bind (call ⟨rfl,rfl⟩) fun _ => only_ensure processBulkRow_calls fun result => ?_
    refine only_bind (call ⟨trivial,rfl⟩) fun dispatched => ?_
    split
    · exact call ⟨rfl,rfl⟩
    · trivial
  refine only_bind (call ⟨trivial,rfl⟩) fun _ => only_bind (call ⟨rfl,rfl⟩) fun acquired => ?_
  dsimp only
  split
  · exact only_bind trivial fun _ => entered
  · exact entered

theorem completeBulkRow_calls : Only (WorkerCall naming job) (completeBulkRow naming job) := by
  have call : ∀ {c : Cmd}, WorkerCall naming job c → Only (WorkerCall naming job) (perform c) :=
    fun fits => (only_call _).mpr fits
  refine only_bind ?_ fun isLastData => ?_
  · unfold completedRow
    split
    · trivial
    · exact call ⟨rfl,rfl,rfl⟩
  · dsimp only
    split
    · refine only_bind (call rfl) fun errorCount => only_bind (call ⟨rfl,?_⟩) fun _ => ?_
      · by_cases none : errorCount = 0
        · exact .inl (if_pos none)
        · exact .inr (if_neg none)
      · split
        · exact call trivial
        · trivial
    · trivial

theorem issueCredential_calls : Only (WorkerCall naming job) (issueCredential naming job) := by
  refine only_bind (only_tryCatch (only_bind ?_ fun succeeded => ?_) fun error => ?_) fun succeeded => ?_
  · exact only_ensure (only_mono (fun _ fits => fits.1) bulkRow_calls) fun _ => (only_call _).mpr trivial
  · exact only_bind completeBulkRow_calls fun _ => trivial
  · exact only_bind (only_tryCatch (only_bind ((only_call _).mpr ⟨rfl,rfl⟩) fun _ => trivial) fun _ => trivial)
      fun _ => trivial
  · split <;> trivial

end Ngotag.BulkCalls
