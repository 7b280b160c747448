import Ngotag.BulkHistory
import Ngotag.Recall
import Ngotag.Spelling

/-!
The final status of a file. The worker that completes a batch counts the rows
that are not issued or flagged with an error and writes the status from that
count. A row's issuance and its flag are written separately, so a file can be
issued as a whole and still have flagged rows; and rows can change between the
count and the write. Where each row that was issued after an error has its result
recorded, and no one flags a row that another issued, the status tells whether every
row is issued (`final_status_true`).
-/
namespace Ngotag.FinalStatus
open Runs Await BulkStore BulkIssuance BulkCalls BulkHistory Recall

/-- When every row of the file is issued, none is flagged with an error. -/
def Agrees (t : Tables) (file : Uuid) : Prop := issued t file = true → failures t file = 0
instance (t : Tables) (file : Uuid) : Decidable (Agrees t file) := inferInstanceAs (Decidable (_ → _))
theorem issued_of_failures {t : Tables} {file : Uuid} (none : failures t file = 0) : issued t file = true := by
  simp only [issued,List.all_eq_true]
  intro r member
  have unfailed := List.countP_eq_zero.mp none r member
  simp only [Tables.failed,Bool.or_eq_true,not_or,Bool.not_eq_true,Bool.not_eq_false'] at unfailed
  exact unfailed.2
/-- Every final status that a worker wrote says whether all rows were issued then,
    and that none would be retried if they were. -/
def Truthful (w : World) : Prop :=
  ∀ p file status all failed job, .wrote p file status all failed ∈ w.trace → w.job p = some job →
    (status = .completed ↔ all = true) ∧ (all = true → failed = 0)
/-- The rows agree when the worker counts and when it writes, and between the two
    the file does not become issued or unissued. -/
def steady (naming : Naming) (me : Nat) (c : Cmd) (_ : Choice) (w : World) : Prop :=
  match c with
  | .countErrorsForFile fileId => ∀ file, naming.uuid fileId = some file → Agrees w.tables file
  | .updateFileUploadDetails fileId _ => ∀ file, naming.uuid fileId = some file → (w.job me).isSome →
      Agrees w.tables file ∧ w.tally me = some (issued w.tables file)
  | _ => True
def contract (naming : Naming) : Contract Cmd World Choice Env :=
  historyContract Truthful (steady naming) fun _ _ => True

section
variable {naming : Naming} {me : Nat} {a b : World} {c : Cmd} {choice : Choice} {answer : Except Failure (Ret c)}
  {job : Job}

def writesStatus : Cmd → Bool
  | .updateFileUploadDetails _ _ => true
  | _ => false

theorem truthful_other (truthful : Truthful a) (other : writesStatus c = false)
    (handled : handle naming me c choice a = some (b,answer)) : Truthful b := by
  have jobs := handle_job handled
  intro p file status all failed job wrote handles
  rw [jobs] at handles
  rcases handle_world handled with rfl | rfl
  · exact truthful p file status all failed job wrote handles
  · rcases effect_emits.new wrote with early | ⟨-,emits⟩
    · exact truthful p file status all failed job early handles
    · cases c <;> first | (cases emits; done) | cases other

theorem truthful_write {fileId : String} {status : FileUploadStatus}
    {answer : Except Failure (Ret (.updateFileUploadDetails fileId status))} (truthful : Truthful a)
    (true_ : ∀ file job, naming.uuid fileId = some file → a.job me = some job →
      (status = .completed ↔ issued a.tables file = true) ∧ (issued a.tables file = true → failures a.tables file = 0))
    (handled : handle naming me (.updateFileUploadDetails fileId status) choice a = some (b,answer)) : Truthful b := by
  have jobs := handle_job handled
  intro p file written all failed job wrote handles
  rw [jobs] at handles
  rcases handle_world handled with rfl | rfl
  · exact truthful p file written all failed job wrote handles
  · simp only [effect,update] at wrote
    split at wrote
    · rcases List.mem_append.mp wrote with late | early
      · obtain ⟨u,read,same⟩ := List.mem_map.mp late
        cases same
        exact true_ file job (Option.mem_toList.mp read) handles
      · exact truthful p file written all failed job early handles
    · exact truthful p file written all failed job wrote handles

theorem wp_quiet {R : Type} {p : Bulk R} (only : Only (writesStatus · = false) p)
    (handles : a.job me = some job) :
    wp (sys naming) (contract naming) me p (fun _ w => w.job me = some job) a := by
  refine wp_historyEach (fun _ _ handles relied _ => relied.job.trans handles) ?_ only handles
  intro c other before choice after answer truthful handles _ handled
  exact ⟨truthful_other truthful other handled,(congrFun (handle_job handled) me).trans handles⟩
/-- What the worker knows after its count: zero says that every row was issued. -/
structure Counted (naming : Naming) (me : Nat) (job : Job) (errorCount : Nat) (w : World) : Prop where
  handles : w.job me = some job
  tally : ∃ all, w.tally me = some all ∧ (errorCount = 0 ↔ all = true)

theorem countErrorsForFile_spec (handles : a.job me = some job) :
    wp (sys naming) (contract naming) me (perform (.countErrorsForFile job.fileUploadId))
      (fun result w => ∀ n, result = .ok n → Counted naming me job n w) a := by
  apply wp_history
  intro before relied truthful choice after answer agrees handled
  refine ⟨truthful_other truthful rfl handled,?_⟩
  rintro n rfl
  obtain ⟨answered,rfl⟩ := query_ok (handle_ok handled)
  obtain ⟨file,named,rfl⟩ := Option.map_eq_some_iff.mp answered
  refine ⟨relied.job.trans handles,issued before.tables file,by simp [named],?_⟩
  exact ⟨issued_of_failures,agrees file named⟩

theorem updateFileUploadDetails_spec {errorCount : Nat} (counted : Counted naming me job errorCount a) :
    wp (sys naming) (contract naming) me (perform (.updateFileUploadDetails job.fileUploadId
      (if errorCount = 0 then .completed else .partially_completed))) (fun _ w => w.job me = some job) a := by
  apply wp_history
  intro before relied truthful choice after answer steady handled
  have handles := relied.job.trans counted.handles
  obtain ⟨all,tally,zero⟩ := counted.tally
  rw [← relied.tally] at tally
  refine ⟨truthful_write truthful ?_ handled,(congrFun (handle_job handled) me).trans handles⟩
  intro file job' named _
  obtain ⟨agrees,same⟩ := steady file named (by rw [handles]; rfl)
  have now : all = issued before.tables file := Option.some.inj (tally.symm.trans same)
  refine ⟨?_,agrees⟩
  rw [← now,← zero]
  by_cases none : errorCount = 0
  · simp [none]
  · simp [none]

theorem completeBulkRow_spec (handles : a.job me = some job) :
    wp (sys naming) (contract naming) me (completeBulkRow naming job) (fun _ _ => True) a := by
  have call : ∀ {c : Cmd} {w : World}, writesStatus c = false →
      w.job me = some job →
      wp (sys naming) (contract naming) me (perform c) (fun _ w => w.job me = some job) w :=
    fun other handles => wp_quiet ((only_call _).mpr other) handles
  simp only [completeBulkRow,completedRow,wp_bind]
  split
  · trivial
  refine wp_mono ?_ (call rfl handles)
  rintro (error | last) w handles
  · trivial
  dsimp only
  split
  · rw [wp_bind]
    refine wp_mono ?_ (countErrorsForFile_spec handles)
    rintro (error | errorCount) w counted
    · trivial
    dsimp only
    rw [wp_bind]
    refine wp_mono ?_ (updateFileUploadDetails_spec (counted errorCount rfl))
    rintro (error | ⟨⟩) w handles
    · trivial
    dsimp only
    split
    · exact wp_mono (fun _ _ _ => trivial) (call rfl handles)
    · trivial
  · trivial

theorem issueCredential_spec (handles : a.job me = some job) :
    wp (sys naming) (contract naming) me (issueCredential naming job) (fun _ _ => True) a := by
  have quiet : ∀ {c : Cmd}, RowCall naming job c → writesStatus c = false := by
    rintro c ⟨-,open_⟩
    cases c <;> first | rfl | cases open_
  have row : Only (writesStatus · = false) (guardedBulkRow naming job) :=
    only_ensure (only_mono (fun _ => quiet) bulkRow_calls) fun _ => (only_call _).mpr rfl
  have harmless : ∀ {c : Cmd}, writesStatus c = false →
      Harmless (sys naming) (contract naming) me (perform c) := by
    intro c other w
    apply wp_history
    exact fun before _ truthful choice after answer _ handled => ⟨truthful_other truthful other handled,trivial⟩
  refine wp_then (wp_caught ?_ fun error => ?_) fun succeeded => ?_
  · rw [wp_bind]
    refine wp_mono ?_ (wp_quiet row handles)
    rintro (error | succeeded) w handles
    · trivial
    · exact wp_then (completeBulkRow_spec handles) fun _ => harmless_ret succeeded
  · exact harmless_bind (harmless_tryCatch (harmless_bind (harmless rfl) fun _ => harmless_ret ())
      fun _ => harmless_ret ()) fun _ => harmless_fail error
  · split
    · exact harmless_fail _
    · exact harmless_ret ()

theorem truthful_arrive {input : Input} (truthful : Truthful a) (idle : Idle me a)
    (arrived : arrive me input a = some b) : Truthful b := by
  obtain ⟨-,-,-,-,-,trace,-,others⟩ := arrive_same arrived
  intro p file status all failed job wrote handles
  rw [trace] at wrote
  rw [others p (idle.trace _ wrote)] at handles
  exact truthful p file status all failed job wrote handles
theorem truthful_environment {event : Env} (truthful : Truthful a) (moved : environment event a = some b) :
    Truthful b := by
  have history : ∀ p, History p a b := fun p => environment_history moved
  intro p file status all failed job wrote handles
  rcases (history p).trace.new wrote with early | foreign
  · exact truthful p file status all failed job early ((history p).job.symm.trans handles)
  · exact absurd rfl foreign

theorem keeps : Keeps (sys naming) (contract naming) (fun _ _ _ => True) := by
  refine historyKeeps ?_ fun _ _ _ truthful _ => truthful_environment truthful
  intro me input a b truthful idle arrived
  refine ⟨truthful_arrive truthful idle arrived,?_⟩
  -- A request is no worker, whatever it writes.
  have request : ∀ c before choice after (answer : Except Failure (Ret c)), Truthful before → before.job me = none →
      handle naming me c choice before = some (after,answer) → Truthful after := by
    intro c before choice after answer truthful noJob handled
    by_cases other : writesStatus c = false
    · exact truthful_other truthful other handled
    · cases c with
      | updateFileUploadDetails fileId status =>
        refine truthful_write truthful ?_ handled
        intro file job _ handles
        cases noJob.symm.trans handles
      | _ => exact absurd rfl other
  have requests : ∀ {input : Input} {w : World}, (∀ job, input ≠ .job job) → w.job me = none →
      wp (sys naming) (contract naming) me (program naming me input) (fun _ _ => True) w := by
    intro input w notJob noJob
    have kept : wp (sys naming) (contract naming) me (program naming me input) (fun _ w => w.job me = none) w := by
      refine wp_historyEach (fun _ _ noJob relied _ => relied.job.trans noJob) ?_ (program_requests notJob) noJob
      intro c _ before choice after answer truthful noJob _ handled
      exact ⟨request c before choice after answer truthful noJob handled,
        (congrFun (handle_job handled) me).trans noJob⟩
    exact wp_mono (fun _ _ _ => trivial) kept
  cases input with
  | job job =>
    simp only [arrive] at arrived
    split at arrived
    · cases arrived; exact issueCredential_spec (by simp)
    · cases arrived
  | issue orgId count => cases arrived; exact requests (by rintro _ ⟨⟩) idle.job
  | retry fileId orgId => cases arrived; exact requests (by rintro _ ⟨⟩) idle.job
  | chain jobs =>
    simp only [arrive] at arrived
    split at arrived
    · cases arrived; exact requests (by rintro _ ⟨⟩) idle.job
    · cases arrived

end

/-- A file whose rows a process is about to count, or whose status it is about to
    write. -/
def aboutToCount : Option Cmd → Option String
  | some (.countErrorsForFile fileId) => some fileId
  | _ => none
def aboutToWrite : Option Cmd → Option String
  | some (.updateFileUploadDetails fileId _) => some fileId
  | _ => none
/-- The row whose result a worker is about to record. -/
def aboutToRecord : Option Cmd → Option String
  | some (.updateFileUploadData jobId _ _) => some jobId
  | _ => none

/-- What is noted beside a run: which workers were answered that their row is issued,
    and the rows that were issued while they were flagged with an earlier error and whose
    result was not recorded since. -/
structure Memory where
  sure : Nat → Bool
  owed : List Uuid
def hears : (c : Cmd) → Except Failure (Ret c) → Bool → Bool
  | .deleteFileDataByJobId _,.ok _,_ => true
  | .deleteFileDataByJobId _,.error _,_ => false
  | _,_,sure => sure
def tookEffect : Fault → Bool
  | .lost => false
  | _ => true
def owing (naming : Naming) (fault : Fault) (t : Tables) (owed : List Uuid) : Option Cmd → List Uuid
  | some (.deleteFileDataByJobId jobId) =>
    if tookEffect fault then
      (naming.uuid jobId).toList.filter (fun row => t.rows.any fun r => r.id == row && r.isError) ++ owed
    else owed
  | some (.updateFileUploadData jobId fileUpload isError) =>
    if tookEffect fault && (t.updateFileUploadData naming jobId fileUpload isError).isSome then
      owed.filter fun row => naming.uuid jobId ≠ some row
    else owed
  | _ => owed
def note (naming : Naming) (m : Machine Cmd Ret Failure Unit World) (a : Action Choice Input Env)
    (_ : Machine Cmd Ret Failure Unit World) (memory : Memory) : Memory where
  sure := told (sys naming) (fun _ _ => false) hears m a memory.sure
  owed :=
    match a with
    | .advance process choice => owing naming choice.fault m.world.tables memory.owed (m.thread process).awaited
    | _ => memory.owed

/-- Once every row of the file is issued, the result of each is recorded. -/
def Paid (s : Machine Cmd Ret Failure Unit World × Memory) (file : Uuid) : Prop :=
  issued s.1.world.tables file = true → ∀ r ∈ s.1.world.tables.rowsOf file, r.id ∉ s.2.owed
instance (s : Machine Cmd Ret Failure Unit World × Memory) (file : Uuid) : Decidable (Paid s file) :=
  inferInstanceAs (Decidable (_ → ∀ r ∈ _, _))
/-- A worker that was not answered that its row is issued records it while nobody else
    issued it; where a worker counts the errors of a file and where it writes the file's
    status, results are recorded; and between the two the file does not become issued or
    unissued. -/
def Settled (naming : Naming) (s : Machine Cmd Ret Failure Unit World × Memory) : Action Choice Input Env → Prop
  | .advance process _ =>
    (∀ jobId ∈ aboutToRecord (s.1.thread process).awaited, s.2.sure process = false →
      ∀ r ∈ s.1.world.tables.rows, naming.uuid jobId = some r.id → r.status = false) ∧
    (∀ fileId ∈ aboutToCount (s.1.thread process).awaited, ∀ file ∈ naming.uuid fileId, Paid s file) ∧
    (∀ fileId ∈ aboutToWrite (s.1.thread process).awaited, ∀ file ∈ naming.uuid fileId, (s.1.world.job process).isSome →
      Paid s file ∧ s.1.world.tally process = some (issued s.1.world.tables file))
  | _ => True
instance (naming : Naming) (s : Machine Cmd Ret Failure Unit World × Memory) :
    (a : Action Choice Input Env) → Decidable (Settled naming s a)
  | .advance _ _ => inferInstanceAs (Decidable (_ ∧ _ ∧ _))
  | .start _ _ => isTrue trivial
  | .crash _ => isTrue trivial
  | .environment _ => isTrue trivial

/-- A worker records an error unless it was answered that its row is issued. -/
def right (sure : Bool) : Cmd → Prop
  | .updateFileUploadData _ _ isError => isError = !sure
  | _ => True
def silent : Cmd → Bool
  | .deleteFileDataByJobId _ => false
  | .updateFileUploadData _ _ _ => false
  | _ => true

section
variable {naming : Naming} {R : Type} {sure : Bool}

theorem recalls_silent {p : Bulk R} {ends : Except Failure R → Bool → Prop} (only : Only (silent · = true) p)
    (ended : ∀ result, ends result sure) : Recalls hears right ends p sure := by
  refine recalls_only ?_ ?_ only ended
  · intro c quiet answer sure
    cases c <;> first | rfl | cases quiet
  · intro c quiet sure
    cases c <;> trivial
theorem recalls_quiet {c : Cmd} {ends : Except Failure (Ret c) → Bool → Prop} (quiet : silent c = true)
    (ended : ∀ answer, ends answer sure) : Recalls hears right ends (perform c) sure :=
  recalls_silent ((only_call c).mpr quiet) ended

/-- The offer of a row succeeds exactly if the row was answered to be issued. -/
theorem recalls_issueRow (job : Job) :
    Recalls hears right (fun result sure => sure = result.isOk) (issueRow job) false := by
  have offered : Only (silent · = true) outOfBandCredentialOffer :=
    only_bind ((only_call _).mpr rfl) fun _ => only_bind (only_bind ((only_call _).mpr rfl) fun _ =>
      only_bind ((only_call _).mpr rfl) fun _ => (only_call _).mpr rfl) fun _ => (only_call _).mpr rfl
  refine (recalls_bind _ _ _).mpr (recalls_quiet rfl ?_)
  rintro (error | available)
  · rfl
  cases available with
  | false => rfl
  | true =>
  refine (recalls_bind _ _ _).mpr (recalls_quiet rfl ?_)
  rintro (error | ⟨⟩)
  · rfl
  refine (recalls_bind _ _ _).mpr (recalls_silent offered ?_)
  rintro (error | delivered)
  · rfl
  cases delivered with
  | false => rfl
  | true =>
  refine (recalls_call _ _).mpr ⟨trivial,?_⟩
  rintro (error | ⟨⟩) <;> rfl

theorem recalls_processBulkRow (job : Job) :
    Recalls hears right (fun _ _ => True) (processBulkRow job) false := by
  refine (recalls_bind _ _ _).mpr (recalls_quiet rfl ?_)
  rintro (error | currentRow)
  · trivial
  rcases currentRow with - | issued
  · trivial
  cases issued with
  | true => trivial
  | false =>
  refine (recalls_bind _ _ _).mpr
      ((recalls_tryCatch _ _ _).mpr ((recalls_bind _ _ _).mpr (recalls_mono ?_ (recalls_issueRow job))))
  have recorded : ∀ isError, Recalls hears right (fun _ _ => True)
      (do perform (.updateFileUploadData job.id job.fileUploadId isError); pure !isError) (!isError) := by
    intro isError
    refine (recalls_bind _ _ _).mpr ((recalls_call _ _).mpr ⟨by simp [right],?_⟩)
    rintro (error | ⟨⟩) <;> trivial
  rintro (error | ⟨⟩) sure rfl
  · exact recorded true
  · exact recorded false

theorem recalls_issueCredential (job : Job) :
    Recalls hears right (fun _ _ => True) (issueCredential naming job) false := by
  have quiet : ∀ {sure : Bool} {R : Type} {p : Bulk R}, Only (silent · = true) p →
      Recalls hears right (fun _ _ => True) p sure :=
    fun only => recalls_silent only fun _ => trivial
  have closing : ∀ succeeded : Bool, Only (silent · = true)
      (do completeBulkRow naming job; pure succeeded : Bulk Bool) := by
    refine fun succeeded => only_bind (only_mono (fun c closes => ?_) (completeBulkRow_closes job)) fun _ => trivial
    cases c <;> first | rfl | cases closes
  have row : ∀ key, Recalls hears right (fun _ _ => True) (guardedRow key (processBulkRow job)) false := by
    intro key
    refine (recalls_bind _ _ _).mpr (recalls_quiet rfl ?_)
    rintro (error | acquired)
    · trivial
    cases acquired with
    | false => trivial
    | true =>
    refine (recalls_bind _ _ _).mpr (recalls_quiet rfl ?_)
    rintro (error | ⟨⟩)
    · trivial
    refine recalls_finally (recalls_processBulkRow job) fun result sure =>
        quiet (only_bind ((only_call _).mpr rfl) fun _ => ?_)
    split
    · exact (only_call _).mpr rfl
    · trivial
  have guarded : Recalls hears right (fun _ _ => True) (guardedBulkRow naming job) false := by
    refine recalls_finally ((recalls_bind _ _ _).mpr (recalls_quiet rfl ?_)) fun _ _ => quiet ((only_call _).mpr rfl)
    rintro (error | ⟨⟩)
    · trivial
    · exact row _
  refine recalls_then
      (recalls_caught (recalls_then guarded fun succeeded _ => quiet (closing succeeded)) fun error _ => ?_)
    fun succeeded _ => quiet ?_
  · exact quiet
      (only_bind (only_tryCatch (only_bind ((only_call _).mpr rfl) fun _ => trivial) fun _ => trivial) fun _ => trivial)
  · split <;> trivial

theorem recalls_program (process : Nat) (input : Input) :
    Recalls hears right (fun _ _ => True) (program naming process input) false := by
  have requested : (∀ job, input ≠ .job job) → Recalls hears right (fun _ _ => True)
      (program naming process input) false := by
    intro notJob
    refine recalls_silent (only_mono (fun c request => ?_) (program_requests notJob)) fun _ => trivial
    cases c <;> first | rfl | cases request
  cases input with
  | job job => exact recalls_issueCredential job
  | issue orgId count => exact requested (by rintro _ ⟨⟩)
  | retry fileId orgId => exact requested (by rintro _ ⟨⟩)
  | chain jobs => exact requested (by rintro _ ⟨⟩)

/-- Each worker goes by its answers, and an issued row that is flagged is owed a record. -/
structure Owes (s : Machine Cmd Ret Failure Unit World × Memory) : Prop where
  recalling : Recalling hears right (s.1,s.2.sure)
  owed : ∀ r ∈ s.1.world.tables.rows, r.status = true → r.isError = true → r.id ∈ s.2.owed

theorem agrees_of_paid {s : Machine Cmd Ret Failure Unit World × Memory} {file : Uuid} (owes : Owes s)
    (paid : Paid s file) :
    Agrees s.1.world.tables file := by
  intro all
  refine List.countP_eq_zero.mpr fun r member => ?_
  have status : r.status = true := List.all_eq_true.mp all r member
  have unflagged : r.isError ≠ true := fun flagged =>
    paid all r member (owes.owed r (List.mem_of_mem_filter member) status flagged)
  simpa [Tables.failed,status] using unflagged

def writesRow : Cmd → Bool
  | .deleteFileDataByJobId _ => true
  | .updateFileUploadData _ _ _ => true
  | .saveFileDetails _ => true
  | _ => false
variable {me : Nat} {c : Cmd} {choice : Choice} {a b : World} {answer : Except Failure (Ret c)}
theorem effect_rows (other : writesRow c = false) : (effect naming me c choice a).1.tables.rows = a.tables.rows := by
  cases c with
  | updateFileUploadDetails fileId status =>
    simp only [effect,update]
    split
    · rename_i updated
      obtain ⟨-,-,-,rows,-⟩ := Tables.updateFileUploadDetails_some naming updated
      exact rows
    · rfl
  | interruptFileUpload fileId orgId =>
    simp only [effect]
    split
    · rename_i updated
      obtain ⟨-,-,-,-,rows,-⟩ := Tables.interruptFileUpload_some naming updated
      exact rows
    · rfl
  | saveFileUploadDetails orgId status =>
    simp only [effect]
    split
    · rename_i saved
      exact (Tables.saveFileUploadDetails_some naming saved).2.1
    · rfl
  | deleteFileDataByJobId jobId => cases other
  | updateFileUploadData jobId fileUpload isError => cases other
  | saveFileDetails file => cases other
  | _ => simp only [effect,query] <;> (try split) <;> rfl

/-- Nothing happened, or what the command does. -/
theorem handle_took (sync : synchronous c = false) (handled : handle naming me c choice a = some (b,answer)) :
    (tookEffect choice.fault = false ∧ b = a) ∨
      (tookEffect choice.fault = true ∧ b = (effect naming me c choice a).1) := by
  simp only [handle,sync,Bool.false_eq_true,↓reduceIte] at handled
  cases fault : choice.fault with
  | none => simp only [fault,Option.some.injEq] at handled; exact .inr ⟨rfl,(congrArg Prod.fst handled).symm⟩
  | lost => simp only [fault,Option.some.injEq,Prod.mk.injEq] at handled; exact .inl ⟨rfl,handled.1.symm⟩
  | late => simp only [fault,Option.some.injEq,Prod.mk.injEq] at handled; exact .inr ⟨rfl,handled.1.symm⟩

section
variable {owed : List Uuid} {jobId : String}
theorem owed_delete {answer : Except Failure (Ret (.deleteFileDataByJobId jobId))}
    (owing_ : ∀ r ∈ a.tables.rows, r.status = true → r.isError = true → r.id ∈ owed)
    (handled : handle naming me (.deleteFileDataByJobId jobId) choice a = some (b,answer)) :
    ∀ r ∈ b.tables.rows, r.status = true → r.isError = true →
      r.id ∈ owing naming choice.fault a.tables owed (some (.deleteFileDataByJobId jobId)) := by
  rcases handle_took rfl handled with ⟨lost,rfl⟩ | ⟨took,rfl⟩
  · simpa only [owing,lost,Bool.false_eq_true,↓reduceIte] using owing_
  simp only [owing,took,↓reduceIte,List.mem_append,List.mem_filter,Option.mem_toList]
  intro r' member status flagged
  simp only [effect,update,Tables.deleteFileDataByJobId] at member
  by_cases empty : jobId = ""
  · simp only [empty,↓reduceIte] at member
    exact .inr (owing_ r' member status flagged)
  cases named : naming.uuid jobId with
  | none =>
    simp only [empty,↓reduceIte,named,Option.bind_none] at member
    exact .inr (owing_ r' member status flagged)
  | some row =>
    simp only [empty,↓reduceIte,named,Option.bind_some,Tables.updateRow] at member
    split at member
    rotate_left
    · exact .inr (owing_ r' member status flagged)
    rename_i tables changed
    split at changed
    rotate_left
    · cases changed
    cases changed
    obtain ⟨r,listed,rfl⟩ := List.mem_map.mp member
    by_cases here : r.id = row
    · rw [if_pos here] at flagged ⊢
      exact .inl ⟨congrArg some here.symm,List.any_eq_true.mpr ⟨r,listed,by simpa using flagged⟩⟩
    · rw [if_neg here] at status flagged ⊢
      exact .inr (owing_ r listed status flagged)

theorem owed_record {fileUpload : String} {isError sure : Bool}
    {answer : Except Failure (Ret (.updateFileUploadData jobId fileUpload isError))}
    (owing_ : ∀ r ∈ a.tables.rows, r.status = true → r.isError = true → r.id ∈ owed) (honest : isError = !sure)
    (unissued : sure = false → ∀ r ∈ a.tables.rows, naming.uuid jobId = some r.id → r.status = false)
    (handled : handle naming me (.updateFileUploadData jobId fileUpload isError) choice a = some (b,answer)) :
    ∀ r ∈ b.tables.rows, r.status = true → r.isError = true →
      r.id ∈ owing naming choice.fault a.tables owed (some (.updateFileUploadData jobId fileUpload isError)) := by
  rcases handle_took rfl handled with ⟨lost,rfl⟩ | ⟨took,rfl⟩
  · simpa only [owing,lost,Bool.false_and,Bool.false_eq_true,↓reduceIte] using owing_
  cases updated : a.tables.updateFileUploadData naming jobId fileUpload isError with
  | none =>
    simpa only [owing,took,effect,update,updated,Option.isSome_none,Bool.and_false,Bool.false_eq_true,
        ↓reduceIte] using owing_
  | some t =>
    simp only [owing,took,updated,Option.isSome_some,Bool.and_self,↓reduceIte,List.mem_filter,effect,update,
      decide_eq_true_eq]
    intro r' member status flagged
    unfold Tables.updateFileUploadData at updated
    split at updated
    · cases updated
    obtain ⟨row,named,inner⟩ := Option.bind_eq_some_iff.mp updated
    obtain ⟨file,-,changed⟩ := Option.bind_eq_some_iff.mp inner
    unfold Tables.updateRow at changed
    split at changed
    rotate_left
    · cases changed
    cases changed
    obtain ⟨r,listed,rfl⟩ := List.mem_map.mp member
    by_cases here : r.id = row
    · rw [if_pos here] at status flagged
      -- An error is recorded only by a worker without an answer, and then the row is not issued.
      have unsure : sure = false := by simpa [honest] using flagged
      cases (unissued unsure r listed (named.trans (congrArg some here.symm))).symm.trans status
    · rw [if_neg here] at status flagged ⊢
      exact ⟨owing_ r listed status flagged,fun same => here (Option.some.inj (same.symm.trans named))⟩

theorem owed_save {row file : Uuid} {t t' : Tables} (saved : t.saveFileDetails row file = some t')
    (owing_ : ∀ r ∈ t.rows, r.status = true → r.isError = true → r.id ∈ owed) :
    ∀ r ∈ t'.rows, r.status = true → r.isError = true → r.id ∈ owed := by
  unfold Tables.saveFileDetails at saved
  split at saved
  · cases saved
  split at saved <;> cases saved
  intro r member status flagged
  rcases List.mem_append.mp member with listed | new
  · exact owing_ r listed status flagged
  · obtain rfl := List.mem_singleton.mp new
    cases status
end

theorem owes_step {s next : Machine Cmd Ret Failure Unit World × Memory} {action : Action Choice Input Env}
    (owes : Owes s)
    (settled : Settled naming s action) (taken : noting (step (sys naming)) (note naming) s action = some next) :
    Owes next := by
  obtain ⟨stepped,noted⟩ := noting_cases taken
  have recalled : hearing (sys naming) (fun _ _ => false) hears (s.1,s.2.sure) action = some (next.1,next.2.sure) := by
    rw [noted]
    exact noting_of_step stepped
  refine ⟨step_recalling (fun process input _ _ _ => recalls_program process input) owes.recalling recalled,?_⟩
  rw [noted]
  cases action with
  | start process input =>
    obtain ⟨-,world,arrived,same⟩ := step_start stepped
    rw [same]
    obtain ⟨tables,-⟩ := arrive_same arrived
    dsimp only [note]
    rw [tables]
    exact owes.owed
  | crash process =>
    obtain ⟨-,same⟩ := step_crash stepped
    rw [same]
    exact owes.owed
  | environment event =>
    obtain ⟨world,moved,same⟩ := step_environment stepped
    rw [same]
    change environment event s.1.world = some world at moved
    cases event with
    | clearGuard key => cases moved; exact owes.owed
    | enqueue job => cases moved; exact owes.owed
    | expire key =>
      simp only [environment] at moved
      split at moved
      · cases moved; exact owes.owed
      · cases moved
    | lateRow row file =>
      obtain ⟨tables,saved,rfl⟩ := Option.map_eq_some_iff.mp moved
      exact owed_save saved owes.owed
  | advance process choice =>
    obtain ⟨c,resume,world,answer,stood,handled,same⟩ := step_advance stepped
    rw [same]
    change handle naming process c choice s.1.world = some (world,answer) at handled
    have awaited : (s.1.thread process).awaited = some c := by rw [stood]; rfl
    have honest : right (s.2.sure process) c := right_of_recalling owes.recalling awaited
    dsimp only [note]
    rw [awaited]
    cases c with
    | deleteFileDataByJobId jobId => exact owed_delete owes.owed handled
    | updateFileUploadData jobId fileUpload isError =>
      exact owed_record owes.owed honest (settled.1 jobId (by rw [awaited]; rfl)) handled
    | saveFileDetails file =>
      rcases handle_world handled with rfl | rfl
      · exact owes.owed
      simp only [effect,update,owing]
      split
      · rename_i saved
        exact owed_save saved owes.owed
      · exact owes.owed
    | _ =>
      rcases handle_world handled with rfl | rfl
      · exact owes.owed
      · rw [effect_rows rfl]
        exact owes.owed

/-- What the contract of the workers asks. -/
theorem considered_of_settled {s : Machine Cmd Ret Failure Unit World × Memory} {action : Action Choice Input Env}
    (owes : Owes s)
    (settled : Settled naming s action) : Considered (contract naming) s.1 action := by
  cases action with
  | start process input => trivial
  | crash process => trivial
  | environment event => trivial
  | advance process choice =>
    intro c resume stood
    have awaited : (s.1.thread process).awaited = some c := by rw [stood]; rfl
    cases c with
    | countErrorsForFile fileId =>
      exact fun file named => agrees_of_paid owes (settled.2.1 fileId (by rw [awaited]; rfl) file named)
    | updateFileUploadDetails fileId status =>
      intro file named worker
      obtain ⟨paid,same⟩ := settled.2.2 fileId (by rw [awaited]; rfl) file named worker
      exact ⟨agrees_of_paid owes paid,same⟩
    | _ => trivial

end

/-- In every run in which results are recorded, each final status that a worker wrote is
    `completed` exactly when every row of the file was issued at that moment, and
    then no row was left to retry. -/
theorem final_status_true (naming : Naming) {actions : List (Action Choice Input Env)}
    {m : Machine Cmd Ret Failure Unit World}
    (settled : Along (noting (step (sys naming)) (note naming)) (Settled naming) (Machine.initial World.empty,⟨fun _ => false,[]⟩) actions)
    (reached : run (step (sys naming)) (Machine.initial World.empty) actions = some m) {process : Nat} {file : Uuid}
    {status : FileUploadStatus} {all : Bool} {failed : Nat} {job : Job}
    (wrote : .wrote process file status all failed ∈ m.world.trace) (handles : m.world.job process = some job) :
    (status = .completed ↔ all = true) ∧ (all = true → failed = 0) := by
  have owes : Owes (Machine.initial World.empty,⟨fun _ => false,[]⟩) := ⟨recalling_initial _ _,by rintro _ ⟨⟩⟩
  have considered : Along (step (sys naming)) (Considered (contract naming)) (Machine.initial World.empty) actions :=
    along_of_noting (fun _ _ => considered_of_settled) (fun _ _ _ => owes_step) owes settled
  have empty : Truthful World.empty := by
    intro p file status all failed job wrote
    cases wrote
  exact (run_safe keeps (safe_initial empty fun _ => ⟨by rintro _ ⟨⟩,rfl⟩) considered reached).inv process file
      status all failed
    job wrote handles

/-- A file of one row: the row fails before its offer and is flagged, and a retry issues
    it. -/
def retriedOnce : List (Action Choice Input Env) :=
  [Spelling.uploads,Spelling.goesOn 0 1,Spelling.delivers 1 2 (Spelling.rowJob 0 false),Spelling.goesOn 2 4,
    [.advance 2 { answer := false }],Spelling.goesOn 2 7,Spelling.retries 3,
    Spelling.delivers 4 5 (Spelling.rowJob 3 true),Spelling.goesOn 5 19].flatten

theorem final_status_true_issued :
    ∃ m, run (step (sys Spelling.spelled)) (Machine.initial World.empty) retriedOnce = some m ∧
      .wrote 2 10 .partially_completed false 1 ∈ m.world.trace ∧ .wrote 5 10 .completed true 0 ∈ m.world.trace ∧
      ((FileUploadStatus.partially_completed = .completed ↔ false = true) ∧ (false = true → 1 = 0)) ∧
      ((FileUploadStatus.completed = .completed ↔ true = true) ∧ (true = true → 0 = 0)) := by
  have runs : ((run (step (sys Spelling.spelled)) (Machine.initial World.empty) retriedOnce).map fun m =>
      (decide (.wrote 2 10 .partially_completed false 1 ∈ m.world.trace ∧ .wrote 5 10 .completed true 0 ∈ m.world.trace),
        (m.world.job 2).isSome,(m.world.job 5).isSome)) = some (true,true,true) := by decide +kernel
  have settled : Along (noting (step (sys Spelling.spelled)) (note Spelling.spelled)) (Settled Spelling.spelled)
      (Machine.initial World.empty,⟨fun _ => false,[]⟩) retriedOnce := by decide +kernel
  obtain ⟨m,reached,found⟩ := Option.map_eq_some_iff.mp runs
  simp only [Prod.mk.injEq] at found
  obtain ⟨both,first,second⟩ := found
  obtain ⟨early,late⟩ := of_decide_eq_true both
  obtain ⟨job,handles⟩ := Option.isSome_iff_exists.mp first
  obtain ⟨job',handles'⟩ := Option.isSome_iff_exists.mp second
  exact ⟨m,reached,early,late,final_status_true Spelling.spelled settled reached early handles,
    final_status_true Spelling.spelled settled reached late handles'⟩

/-- A file of one row: the row fails before its offer and is flagged; a retry
    issues it, but the write of its flag is lost; an operator removes the guard and
    the file is retried once more. -/
def issuedFlagged : List (Action Choice Input Env) :=
  [Spelling.uploads,Spelling.goesOn 0 1,Spelling.delivers 1 2 (Spelling.rowJob 0 false),Spelling.goesOn 2 4,
    [.advance 2 { answer := false }],Spelling.goesOn 2 7,Spelling.retries 3,
    Spelling.delivers 4 5 (Spelling.rowJob 3 true),Spelling.goesOn 5 12,[.advance 5 { fault := .lost }],
    Spelling.goesOn 5 3,
    [.environment (.clearGuard (rowKey Spelling.spelled (Spelling.text 1) (Spelling.text 10) (Spelling.text 20)))],
    Spelling.retries 6,Spelling.delivers 7 8 (Spelling.rowJob 6 true),Spelling.goesOn 8 10].flatten

/-- Every row is issued, yet the file is written as partially completed and its row
    would be retried again. -/
theorem final_status_stale :
    ∃ m, run (step (sys Spelling.spelled)) (Machine.initial World.empty) issuedFlagged = some m ∧
      .wrote 8 10 .partially_completed true 1 ∈ m.world.trace ∧ (m.world.job 8).isSome ∧
      m.world.tables.files = [⟨10,1,.partially_completed⟩] ∧ m.world.tables.rows = [⟨20,10,true,true⟩] := by
  have runs : ((run (step (sys Spelling.spelled)) (Machine.initial World.empty) issuedFlagged).map fun m =>
      (m.world.trace.head?,(m.world.job 8).isSome,m.world.tables)) =
        some (some (.wrote 8 10 .partially_completed true 1),true,
          ⟨[⟨10,1,.partially_completed⟩],[⟨20,10,true,true⟩]⟩) := by decide +kernel
  obtain ⟨m,reached,found⟩ := Option.map_eq_some_iff.mp runs
  simp only [Prod.mk.injEq] at found
  obtain ⟨wrote,job,tables⟩ := found
  exact ⟨m,reached,List.mem_of_head? wrote,job,by rw [tables],by rw [tables]⟩

end Ngotag.FinalStatus
