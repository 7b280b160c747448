import Ngotag.BulkHistory
import Ngotag.Erasure
import Ngotag.Spelling

/-!
Tenant isolation of bulk issuance. A retry of a file, or a job of it, on behalf of
an organization that does not own the file never gets past the row's ownership
check: it dispatches nothing, writes no row and no status, and touches only guards
of its own. So every run looks to all others as it would without the foreign calls
(`foreign_invisible`).
-/
namespace Ngotag.TenantIsolation
open Runs Await Erasure BulkStore BulkIssuance BulkCalls BulkHistory

section
variable (naming : Naming)

/-- The text is an id up to blanks and letter case. -/
def Names (id : Uuid) (text : String) : Prop :=
  ∃ spelling, naming.identity text = naming.identity spelling ∧ naming.uuid spelling = some id

variable (file owner : Uuid)
/-- The ids name the file, on behalf of somebody who is not its owner. -/
def Foreign (fileId orgId : String) : Prop := Names naming file fileId ∧ ¬ Names naming owner orgId
def ForeignJob (job : Job) : Prop := Foreign naming file owner job.fileUploadId job.orgId
def ForeignChain (jobs : List Job) : Prop := jobs ≠ [] ∧ ∀ job ∈ jobs, ForeignJob naming file owner job

/-- The calls that isolation is about. -/
def ForeignInput : Input → Prop
  | .job job => ForeignJob naming file owner job
  | .issue _ _ => False
  | .retry fileId orgId => Foreign naming file owner fileId orgId
  | .chain jobs => ForeignChain naming file owner jobs
/-- A key that a foreign batch comes to. -/
def ForeignKey (key : String) : Prop :=
  ∃ orgId fileId rowId, Foreign naming file owner fileId orgId ∧ rowKey naming orgId fileId rowId = key

/-- The worlds look the same to all but the hidden processes: the tables, the
    completion sets, the guards of rows under ids that are not foreign, and what
    the others did, have and are still to do. -/
structure View (hidden : Nat → Bool) (w w' : World) : Prop where
  tables : w'.tables = w.tables
  completed : w'.completed = w.completed
  guard : ∀ key, ¬ ForeignKey naming file owner key → w'.guard key = w.guard key
  context : ∀ p, hidden p = false → w'.context p = w.context p
  job : ∀ p, hidden p = false → w'.job p = w.job p
  tally : ∀ p, hidden p = false → w'.tally p = w.tally p
  queue : ∀ job, ¬ ForeignJob naming file owner job → (job ∈ w'.queue ↔ job ∈ w.queue)
  chains : ∀ jobs, ¬ ForeignChain naming file owner jobs → w'.chains.count jobs = w.chains.count jobs
  trace : w'.trace.filter (fun e => !hidden (process e)) = w.trace.filter (fun e => !hidden (process e))
  quiet : ∀ p key, hidden p = true → .dispatched p key ∉ w.trace
end

section
variable {naming : Naming} {file owner : Uuid} {hidden : Nat → Bool}

theorem names_of_uuid {id : Uuid} {text : String} (read : naming.uuid text = some id) : Names naming id text :=
  ⟨text,rfl,read⟩
theorem names_uuid {id other : Uuid} {text : String} (names : Names naming id text)
    (read : naming.uuid text = some other) : other = id := by
  obtain ⟨spelling,same,named⟩ := names
  exact naming.uuid_identity text spelling other id read named same
theorem names_congr {id : Uuid} {text text' : String} (same : naming.identity text = naming.identity text') :
    Names naming id text ↔ Names naming id text' := by
  unfold Names
  rw [same]
theorem foreignKey_rowKey {orgId fileId rowId : String} :
    ForeignKey naming file owner (rowKey naming orgId fileId rowId) ↔ Foreign naming file owner fileId orgId := by
  constructor
  · rintro ⟨orgId',fileId',rowId',foreign,same⟩
    obtain ⟨org,sameFile,-⟩ := rowKey_inj same
    exact ⟨(names_congr sameFile).mp foreign.1,fun names => foreign.2 ((names_congr org).mpr names)⟩
  · intro foreign
    exact ⟨orgId,fileId,rowId,foreign,rfl⟩

def Sneaky (naming : Naming) (file owner : Uuid) : Cmd → Prop
  | .getFileDataForProcessing _ _ _ => True
  | .getFileDetailsById _ => True
  | .getFailedCredentials _ => True
  | .mget _ => True
  | .admitRow => True
  | .enterRow _ => True
  | .leaveRow => True
  | .settleRow _ => True
  | .setNx key => ForeignKey naming file owner key
  | .releaseRow key => ForeignKey naming file owner key
  | .interruptFileUpload fileId orgId => Foreign naming file owner fileId orgId
  | .launch jobs => ForeignChain naming file owner jobs
  | .addBulk jobs => ∀ job ∈ jobs, ForeignJob naming file owner job
  | _ => False

/-- The answers these calls can get while the file belongs to its owner. -/
def Possible (naming : Naming) (file owner : Uuid) : (c : Cmd) → Except Failure (Ret c) → Prop
  | .getFileDataForProcessing _ fileId orgId,answer => Foreign naming file owner fileId orgId →
      ∀ status, answer ≠ .ok (some status)
  | .getFailedCredentials fileId,answer => ∀ rows, answer = .ok rows →
      ∀ row ∈ rows, naming.uuid fileId = some row.fileUploadId
  | _,_ => True
/-- The file, once stored, belongs to its owner. -/
def Owned (file owner : Uuid) (w : World) : Prop := ∀ f ∈ w.tables.files, f.id = file → f.orgId = owner

variable {me : Nat} {a b a' : World}

section

variable {job : Job} (foreign : ForeignJob naming file owner job)
include foreign
theorem processBulkRow_refused :
    Within (Possible naming file owner) (Sneaky naming file owner) (processBulkRow job)
      (fun result => ∃ error, result = .error error) := by
  have read : Within (Possible naming file owner) (Sneaky naming file owner)
      (perform (.getFileDataForProcessing job.id job.fileUploadId job.orgId))
      (fun result => ∀ status, result ≠ .ok (some status)) :=
    within_call trivial fun answer possible => possible foreign
  refine within_bind read ?_ fun error _ => ⟨error,rfl⟩
  intro currentRow refused
  cases currentRow with
  | none => exact ⟨_,rfl⟩
  | some status => exact absurd rfl (refused status)

theorem guardedBulkRow_refused :
    Within (Possible naming file owner) (Sneaky naming file owner) (guardedBulkRow naming job)
      (fun result => ∃ error, result = .error error) := by
  have key : ForeignKey naming file owner (rowKey naming job.orgId job.fileUploadId job.id) :=
    foreignKey_rowKey.mpr foreign
  have call : ∀ {c : Cmd}, Sneaky naming file owner c →
      Within (Possible naming file owner) (Sneaky naming file owner) (perform c) (fun _ => True) :=
    fun sneaky => within_call sneaky fun _ _ => trivial
  have entered : Within (Possible naming file owner) (Sneaky naming file owner) (do
      perform (.enterRow (rowKey naming job.orgId job.fileUploadId job.id))
      (processBulkRow job).ensure fun result => do
        let dispatched ← perform .leaveRow
        if result = .ok true ∨ dispatched = false then
          perform (.releaseRow (rowKey naming job.orgId job.fileUploadId job.id)) : Bulk Bool)
      (fun result => ∃ error, result = .error error) := by
    refine within_bind (call trivial) (fun _ _ => ?_) fun error _ => ⟨error,rfl⟩
    refine within_ensure (processBulkRow_refused foreign) (fun result => ?_) fun error => ⟨error,rfl⟩
    refine within_bind (call trivial) (fun dispatched _ => ?_) fun _ _ => trivial
    split
    · exact call key
    · trivial
  refine within_ensure ?_ (fun _ => call trivial) fun error => ⟨error,rfl⟩
  refine within_bind (call trivial) (fun _ _ => ?_) fun error _ => ⟨error,rfl⟩
  refine within_bind (call key) (fun acquired _ => ?_) fun error _ => ⟨error,rfl⟩
  dsimp only
  split
  · exact ⟨_,rfl⟩
  · exact entered

theorem issueCredential_refused :
    Within (Possible naming file owner) (Sneaky naming file owner) (issueCredential naming job) (fun _ => True) := by
  have failed : Within (Possible naming file owner) (Sneaky naming file owner) (processIssuanceData naming job)
      (fun result => ∃ error, result = .error error) := by
    have body : Within (Possible naming file owner) (Sneaky naming file owner) (do
        let succeeded ← guardedBulkRow naming job
        completeBulkRow naming job
        pure succeeded) (fun result => ∃ error, result = .error error) := by
      refine within_bind (guardedBulkRow_refused foreign) ?_ fun error _ => ⟨error,rfl⟩
      rintro value ⟨error,⟨⟩⟩
    refine within_tryCatch body ?_ ?_
    · rintro value ⟨error,⟨⟩⟩
    · intro error _
      refine within_bind (within_only ?_) (fun _ _ => ⟨error,rfl⟩) fun error _ => ⟨error,rfl⟩
      exact only_tryCatch (only_bind ((only_call _).mpr foreign) fun _ => trivial) fun _ => trivial
  refine within_bind failed ?_ fun _ _ => trivial
  rintro value ⟨error,⟨⟩⟩

end

variable {fileId orgId : String}
theorem jobsFor_foreign {request : Nat} {rows : List FileData}
    (foreign : Foreign naming file owner fileId orgId) (nonempty : rows ≠ [])
    (listed : ∀ row ∈ rows, naming.uuid fileId = some row.fileUploadId) :
    ForeignChain naming file owner (jobsFor naming request orgId true rows) := by
  refine ⟨by simpa [jobsFor] using nonempty,fun job member => ?_⟩
  obtain ⟨row,inside,rfl⟩ := List.mem_map.mp member
  have same : row.fileUploadId = file := names_uuid foreign.1 (listed row inside)
  exact ⟨names_of_uuid (by rw [naming.uuid_text,same]),foreign.2⟩

theorem retryBulkCredential_refused {request : Nat} (foreign : Foreign naming file owner fileId orgId) :
    Within (Possible naming file owner) (Sneaky naming file owner) (retryBulkCredential naming request fileId orgId)
      (fun _ => True) := by
  have found : Within (Possible naming file owner) (Sneaky naming file owner)
      (perform (.getFailedCredentials fileId)) (fun result => ∀ rows, result = .ok rows →
        ∀ row ∈ rows, naming.uuid fileId = some row.fileUploadId) := within_call trivial fun _ possible => possible
  have rest : Within (Possible naming file owner) (Sneaky naming file owner) (do
      let rows ← perform (.getFailedCredentials fileId)
      if rows.isEmpty then throw .nothingToRetry
      assertRetryable naming orgId fileId (batchesOf 2000 (rows.map fun row => naming.text row.id))
      perform (.launch (jobsFor naming request orgId true rows)) : Bulk Unit) (fun _ => True) := by
    refine within_bind found (fun rows listed => ?_) fun _ _ => trivial
    dsimp only
    split
    · trivial
    · rename_i nonempty
      refine within_bind (within_only (assertRetryable_only (fun _ => trivial) _)) (fun _ _ => ?_) fun _ _ => trivial
      refine within_call (jobsFor_foreign foreign ?_ (listed rows rfl)) fun _ _ => trivial
      simpa using nonempty
  refine within_bind (within_only ((only_call _).mpr trivial)) (fun fileDetails _ => ?_) fun _ _ => trivial
  dsimp only
  split
  · trivial
  · exact rest

theorem processInBatches_sneaky {batches : List (List Job)}
    (foreign : ∀ batch ∈ batches, ∀ job ∈ batch, ForeignJob naming file owner job) :
    Only (Sneaky naming file owner) (processInBatches batches) := by
  induction batches with
  | nil => trivial
  | cons batch rest ih =>
    exact only_bind ((only_call _).mpr (foreign batch List.mem_cons_self)) fun _ =>
      ih fun other member => foreign other (List.mem_cons_of_mem _ member)

variable {input : Input}
theorem program_refused (foreign : ForeignInput naming file owner input) :
    Within (Possible naming file owner) (Sneaky naming file owner) (program naming me input) (fun _ => True) := by
  cases input with
  | job job => exact issueCredential_refused foreign
  | issue orgId count => cases foreign
  | retry fileId orgId => exact retryBulkCredential_refused foreign
  | chain jobs =>
    refine within_only (processInBatches_sneaky fun batch member job inside => ?_)
    exact foreign.2 job (mem_batchesOf member job inside)

variable {choice : Choice} {c : Cmd}
theorem handle_possible {answer : Except Failure (Ret c)} (owned : Owned file owner a)
    (handled : handle naming me c choice a = some (b,answer)) : Possible naming file owner c answer := by
  cases c with
  | getFileDataForProcessing id fileId orgId =>
    rintro foreign status rfl
    obtain ⟨answered,rfl⟩ := query_ok (handle_ok handled)
    obtain ⟨row,file',org,-,namedFile,namedOrg,owns,-⟩ := Tables.getFileDataForProcessing_some naming answered
    obtain ⟨f,member,matched⟩ := List.any_eq_true.mp owns
    simp only [Bool.and_eq_true,beq_iff_eq] at matched
    have same : file' = file := names_uuid foreign.1 namedFile
    have belongs : f.orgId = owner := owned f member (matched.1.trans same)
    exact foreign.2 (names_of_uuid (by rw [namedOrg,← matched.2,belongs]))
  | getFailedCredentials fileId =>
    rintro rows rfl row member
    obtain ⟨answered,rfl⟩ := query_ok (handle_ok handled)
    obtain ⟨u,named,rfl⟩ := Option.map_eq_some_iff.mp answered
    have inFile := (List.mem_filter.mp (List.mem_filter.mp member).1).2
    rw [named,beq_iff_eq.mp inFile]
  | _ => trivial

/-- What a call of a foreign process changes at most. -/
structure Unseen (naming : Naming) (file owner : Uuid) (me : Nat) (a b : World) : Prop where
  tables : b.tables = a.tables
  completed : b.completed = a.completed
  guard : ∀ key, ¬ ForeignKey naming file owner key → b.guard key = a.guard key
  context : ∀ p, p ≠ me → b.context p = a.context p
  job : ∀ p, p ≠ me → b.job p = a.job p
  tally : ∀ p, p ≠ me → b.tally p = a.tally p
  queue : ∀ job, ¬ ForeignJob naming file owner job → (job ∈ b.queue ↔ job ∈ a.queue)
  chains : ∀ jobs, ¬ ForeignChain naming file owner jobs → b.chains.count jobs = a.chains.count jobs
  trace : Extends (fun e => process e = me ∧ ∀ p key, e ≠ .dispatched p key) a.trace b.trace

theorem Unseen.refl : Unseen naming file owner me a a :=
  ⟨rfl,rfl,fun _ _ => rfl,fun _ _ => rfl,fun _ _ => rfl,fun _ _ => rfl,fun _ _ => Iff.rfl,fun _ _ => rfl,Extends.refl⟩

theorem view_unseen (secret : hidden me = true) (view : View naming file owner hidden a a')
    (unseen : Unseen naming file owner me a b) : View naming file owner hidden b a' := by
  have others : ∀ {p : Nat}, hidden p = false → p ≠ me := by
    rintro p shown rfl
    rw [secret] at shown
    cases shown
  refine ⟨view.tables.trans unseen.tables.symm,view.completed.trans unseen.completed.symm,?_,?_,?_,?_,?_,?_,?_,?_⟩
  · exact fun key shown => (view.guard key shown).trans (unseen.guard key shown).symm
  · exact fun p shown => (view.context p shown).trans (unseen.context p (others shown)).symm
  · exact fun p shown => (view.job p shown).trans (unseen.job p (others shown)).symm
  · exact fun p shown => (view.tally p shown).trans (unseen.tally p (others shown)).symm
  · exact fun job shown => (view.queue job shown).trans (unseen.queue job shown).symm
  · exact fun jobs shown => (view.chains jobs shown).trans (unseen.chains jobs shown).symm
  · obtain ⟨new,extended,own⟩ := unseen.trace
    have gone : new.filter (fun e => !hidden (process e)) = [] := by
      refine List.filter_eq_nil_iff.mpr fun e member => ?_
      rw [(own e member).1,secret]
      simp
    rw [view.trace,extended,List.filter_append,gone,List.nil_append]
  · intro p key hid member
    rcases unseen.trace.new member with early | ⟨-,other⟩
    · exact view.quiet p key hid early
    · exact other p key rfl

theorem interrupt_unseen (owned : Owned file owner a) (foreign : Foreign naming file owner fileId orgId) :
    (effect naming me (.interruptFileUpload fileId orgId) choice a).1 = a := by
  simp only [effect]
  split
  · rename_i t changed updated
    obtain ⟨u,org,namedFile,namedOrg,rows,change,files⟩ := Tables.interruptFileUpload_some naming updated
    have none : ∀ f ∈ a.tables.files, ¬ (f.id = u ∧ f.orgId = org ∧ Tables.interruptible f.status = true) := by
      rintro f member ⟨sameId,sameOrg,-⟩
      have same : u = file := names_uuid foreign.1 namedFile
      have belongs : f.orgId = owner := owned f member (sameId.trans same)
      exact foreign.2 (names_of_uuid (by rw [namedOrg,← sameOrg,belongs]))
    have kept : t.files = a.tables.files := by
      rw [files]
      exact (List.map_congr_left fun f member => if_neg (none f member)).trans (List.map_id' _)
    have unchanged : changed = false := by
      cases changed with
      | false => rfl
      | true =>
        obtain ⟨f,member,matched⟩ := change.mp rfl
        exact absurd matched (none f member)
    subst unchanged
    obtain ⟨tf,tr⟩ := t
    dsimp only at kept rows
    subst kept rows
    rfl
  · rfl

theorem effect_unseen (owned : Owned file owner a) (sneaky : Sneaky naming file owner c) :
    Unseen naming file owner me a (effect naming me c choice a).1 := by
  -- A guard changes only at a foreign key.
  have guarded : ∀ {key : String} {value : Option Nat}, ForeignKey naming file owner key →
      Unseen naming file owner me a { a with guard := Function.update a.guard key value } := by
    intro key value foreign
    refine { (Unseen.refl : Unseen naming file owner me a a) with guard := fun other shown => ?_ }
    have different : other ≠ key := by rintro rfl; exact shown foreign
    simp [Function.update_of_ne different]
  have entered : ∀ {value : Option RowContext},
      Unseen naming file owner me a { a with context := Function.update a.context me value } := by
    intro value
    refine { (Unseen.refl : Unseen naming file owner me a a) with context := fun p different => ?_ }
    simp [Function.update_of_ne different]
  cases c with
  | setNx key =>
    simp only [effect]
    split
    · exact guarded sneaky
    · exact Unseen.refl
  | releaseRow key =>
    simp only [effect]
    split
    · exact guarded sneaky
    · exact Unseen.refl
  | enterRow key => exact entered
  | leaveRow => exact entered
  | interruptFileUpload fileId orgId =>
    rw [interrupt_unseen owned sneaky]
    exact Unseen.refl
  | settleRow result =>
    refine { (Unseen.refl : Unseen naming file owner me a a) with trace := ⟨[_],rfl,?_⟩ }
    simp [process]
  | launch jobs =>
    refine { (Unseen.refl : Unseen naming file owner me a a) with chains := fun other shown => ?_, trace :=
        ⟨[_],rfl,?_⟩ }
    · have different : jobs ≠ other := by rintro rfl; exact shown sneaky
      simp [effect,List.count_append,different]
    · simp [process]
  | addBulk jobs =>
    refine { (Unseen.refl : Unseen naming file owner me a a) with queue := fun job shown => ?_ }
    simp only [effect,List.mem_append]
    exact ⟨fun either => either.resolve_right fun member => shown (sneaky job member),.inl⟩
  | getFileDataForProcessing id fileId orgId => exact Unseen.refl
  | getFileDetailsById fileId => exact Unseen.refl
  | getFailedCredentials fileId => exact Unseen.refl
  | mget keys => exact Unseen.refl
  | admitRow => exact Unseen.refl
  | _ => cases sneaky

theorem handle_unseen {answer : Except Failure (Ret c)} (owned : Owned file owner a)
    (sneaky : Sneaky naming file owner c) (handled : handle naming me c choice a = some (b,answer)) :
    Unseen naming file owner me a b := by
  rcases handle_world handled with rfl | rfl
  · exact Unseen.refl
  · exact effect_unseen owned sneaky
/-- The calls of the other processes: they look at no foreign guard. -/
def Shown (naming : Naming) (file owner : Uuid) : Cmd → Prop
  | .setNx key => ¬ ForeignKey naming file owner key
  | .releaseRow key => ¬ ForeignKey naming file owner key
  | .mget keys => ∀ key ∈ keys, ¬ ForeignKey naming file owner key
  | _ => True

theorem program_shown (own : ¬ ForeignInput naming file owner input) :
    Only (Shown naming file owner) (program naming me input) := by
  cases input with
  | job job =>
    refine only_mono (fun c call => ?_) issueCredential_calls
    have key : ¬ ForeignKey naming file owner (rowKey naming job.orgId job.fileUploadId job.id) :=
      fun foreign => own (foreignKey_rowKey.mp foreign)
    cases c <;> first | trivial | (cases call; exact key)
  | issue orgId count =>
    refine only_mono (fun c store => ?_) (issueBulkCredential_stores orgId count)
    cases c <;> trivial
  | retry fileId orgId =>
    refine retryBulkCredential_only (by trivial) (by trivial) (fun rowIds key member => ?_) (by intro; trivial)
    obtain ⟨rowId,-,rfl⟩ := List.mem_map.mp member
    exact fun foreign => own (foreignKey_rowKey.mp foreign)
  | chain jobs =>
    refine only_mono (fun c queue => ?_) (processInBatches_queues _)
    cases c <;> trivial

section

variable (view : View naming file owner hidden a a')
include view
theorem view_update (t : Tables) {events : List Event}
    (own : ∀ e ∈ events, process e = me) (shown : hidden me = false) :
    View naming file owner hidden { a with tables := t, trace := events ++ a.trace }
      { a' with tables := t, trace := events ++ a'.trace } := by
  refine { view with tables := rfl, trace := ?_, quiet := ?_ }
  · rw [List.filter_append,List.filter_append,view.trace]
  · intro p key hid member
    rcases List.mem_append.mp member with late | early
    · obtain rfl : p = me := own _ late
      rw [shown] at hid
      cases hid
    · exact view.quiet p key hid early

theorem view_guard (key : String) (value : Option Nat) :
    View naming file owner hidden { a with guard := Function.update a.guard key value }
      { a' with guard := Function.update a'.guard key value } := by
  refine { view with guard := fun other shown => ?_ }
  by_cases same : other = key
  · subst same; simp
  · simpa [Function.update_of_ne same] using view.guard other shown
theorem view_context (p : Nat) (value : Option RowContext) :
    View naming file owner hidden { a with context := Function.update a.context p value }
      { a' with context := Function.update a'.context p value } := by
  refine { view with context := fun other shown => ?_ }
  by_cases same : other = p
  · subst same; simp
  · simpa [Function.update_of_ne same] using view.context other shown
theorem view_trace (events : List Event) (own : ∀ e ∈ events, process e = me) (shown : hidden me = false) :
    View naming file owner hidden { a with trace := events ++ a.trace } { a' with trace := events ++ a'.trace } := by
  have both := view_update view a.tables own shown
  exact { both with tables := view.tables }
end

theorem about_own {id : String} {event : Uuid → Event} (own : ∀ u, process (event u) = me) :
    ∀ e ∈ about naming id event, process e = me := by
  intro e member
  obtain ⟨u,-,rfl⟩ := List.mem_map.mp member
  exact own u
theorem update_shown (view : View naming file owner hidden a a') (shown : hidden me = false)
    {tables : Option Tables} {events : List Event} (own : ∀ e ∈ events, process e = me) :
    (update a' tables events).2 = (update a tables events).2 ∧
      View naming file owner hidden (update a tables events).1 (update a' tables events).1 := by
  cases tables with
  | none => exact ⟨rfl,view⟩
  | some t => exact ⟨rfl,view_update view t own shown⟩

theorem effect_shown (shown : hidden me = false) (calls : Shown naming file owner c)
    (view : View naming file owner hidden a a') :
    (effect naming me c choice a').2 = (effect naming me c choice a).2 ∧
      View naming file owner hidden (effect naming me c choice a).1 (effect naming me c choice a').1 := by
  cases c with
  | getFileDataForProcessing id fileId orgId => exact ⟨by simp only [effect,query,view.tables],view⟩
  | getFileDetails fileId => exact ⟨by simp only [effect,query,view.tables],view⟩
  | getFileDetailsById fileId => exact ⟨by simp only [effect,query,view.tables],view⟩
  | getFailedCredentials fileId => exact ⟨by simp only [effect,query,view.tables],view⟩
  | deleteFileDataByJobId jobId =>
    simp only [effect,view.tables]
    exact update_shown view shown (by rintro _ ⟨⟩)
  | updateFileUploadData jobId fileUpload isError =>
    simp only [effect,view.tables]
    exact update_shown view shown (about_own fun _ => rfl)
  | updateFileUploadDetails fileId status =>
    simp only [effect,view.tables]
    exact update_shown view shown (about_own fun _ => rfl)
  | saveFileDetails row =>
    simp only [effect,view.tables]
    exact update_shown view shown (by rintro _ ⟨⟩)
  | countErrorsForFile fileId =>
    refine ⟨by simp only [effect,query,view.tables],?_⟩
    refine { view with tally := fun p seen => ?_ }
    simp only [effect,query,view.tables]
    by_cases same : p = me
    · subst same; simp
    · simpa [Function.update_of_ne same] using view.tally p seen
  | interruptFileUpload fileId orgId =>
    simp only [effect,view.tables]
    split
    · refine ⟨rfl,view_update view _ ?_ shown⟩
      split
      · exact about_own fun _ => rfl
      · rintro _ ⟨⟩
    · exact ⟨rfl,view⟩
  | saveFileUploadDetails orgId status =>
    simp only [effect,view.tables]
    split
    · exact ⟨rfl,{ view with tables := rfl }⟩
    · exact ⟨rfl,view⟩
  | setNx key =>
    simp only [effect,view.guard key calls]
    split
    · exact ⟨rfl,view_guard view key _⟩
    · exact ⟨rfl,view⟩
  | releaseRow key =>
    refine ⟨rfl,?_⟩
    simp only [effect,view.guard key calls]
    split
    · exact view_guard view key _
    · exact view
  | complete key row total =>
    have set : a'.completed key = a.completed key := by rw [view.completed]
    refine ⟨by simp only [effect,set],?_⟩
    have counted : View naming file owner hidden
        { a with trace := (effect naming me (.complete key row total) choice a).1.trace }
        { a' with trace := (effect naming me (.complete key row total) choice a').1.trace } := by
      simp only [effect,set]
      split
      · exact view_trace view [_,_] (by simp [process]) shown
      · exact view_trace view [_] (by simp [process]) shown
    refine { counted with completed := ?_ }
    simp only [effect,view.completed]
  | mget keys =>
    refine ⟨?_,view⟩
    simp only [effect]
    exact congrArg Except.ok (List.map_congr_left fun key member => view.guard key (calls key member))
  | addBulk jobs =>
    refine ⟨rfl,{ view with queue := fun job seen => ?_ }⟩
    simp only [effect,List.mem_append,view.queue job seen]
  | launch jobs =>
    refine ⟨rfl,?_⟩
    have noted := view_trace view [.launched me jobs] (by simp [process]) shown
    refine { noted with chains := fun other seen => ?_ }
    simp only [effect,List.count_append,view.chains other seen]
  | enterRow key => exact ⟨rfl,view_context view me _⟩
  | leaveRow =>
    refine ⟨?_,view_context view me _⟩
    simp only [effect,view.context me shown]
  | startOffer =>
    simp only [effect,view.context me shown]
    split
    · rename_i row _
      exact ⟨rfl,view_context (view_trace view [.dispatched me row.key] (by simp [process]) shown) me _⟩
    · exact ⟨rfl,view⟩
  | settleRow result => exact ⟨rfl,view_trace view [.settled me result] (by simp [process]) shown⟩
  | _ => exact ⟨rfl,view⟩

theorem handle_shown {answer : Except Failure (Ret c)} (shown : hidden me = false)
    (calls : Shown naming file owner c) (view : View naming file owner hidden a a')
    (handled : handle naming me c choice a = some (b,answer)) :
    ∃ b', handle naming me c choice a' = some (b',answer) ∧ View naming file owner hidden b b' := by
  obtain ⟨same,moved⟩ := @effect_shown naming file owner hidden me a a' choice c shown calls view
  unfold handle at handled ⊢
  by_cases sync : synchronous c = true
  · simp only [sync,if_true,Option.some.injEq] at handled ⊢
    obtain ⟨rfl,rfl⟩ := Prod.mk.inj handled
    exact ⟨_,Prod.ext rfl same,moved⟩
  · simp only [sync,Bool.false_eq_true,if_false] at handled ⊢
    cases fault : choice.fault with
    | none =>
      rw [fault] at handled
      obtain ⟨rfl,rfl⟩ := Prod.mk.inj (Option.some.inj handled)
      exact ⟨_,congrArg some (Prod.ext rfl same),moved⟩
    | lost =>
      rw [fault] at handled
      obtain ⟨rfl,rfl⟩ := Prod.mk.inj (Option.some.inj handled)
      exact ⟨a',rfl,view⟩
    | late =>
      rw [fault] at handled
      obtain ⟨rfl,rfl⟩ := Prod.mk.inj (Option.some.inj handled)
      exact ⟨_,rfl,moved⟩

theorem arrive_shown (shown : hidden me = false) (own : ¬ ForeignInput naming file owner input)
    (view : View naming file owner hidden a a') (arrived : arrive me input a = some b) :
    ∃ b', arrive me input a' = some b' ∧ View naming file owner hidden b b' := by
  cases input with
  | job job =>
    simp only [arrive] at arrived ⊢
    split at arrived
    · rename_i member
      cases arrived
      refine ⟨_,if_pos ((view.queue job own).mpr member),{ view with job := fun p seen => ?_ }⟩
      by_cases same : p = me
      · subst same; simp
      · simpa [Function.update_of_ne same] using view.job p seen
    · cases arrived
  | issue orgId count => cases arrived; exact ⟨a',rfl,view⟩
  | retry fileId orgId => cases arrived; exact ⟨a',rfl,view⟩
  | chain jobs =>
    simp only [arrive] at arrived ⊢
    split at arrived
    · rename_i member
      cases arrived
      have member' : jobs ∈ a'.chains := by
        rw [← List.count_pos_iff,view.chains jobs own,List.count_pos_iff]
        exact member
      refine ⟨_,if_pos member',{ view with chains := fun other seen => ?_ }⟩
      simp only [List.count_erase,view.chains other seen]
    · cases arrived

theorem arrive_hidden (secret : hidden me = true) (foreign : ForeignInput naming file owner input)
    (view : View naming file owner hidden a a') (arrived : arrive me input a = some b) :
    View naming file owner hidden b a' := by
  refine view_unseen secret view ?_
  cases input with
  | job job =>
    simp only [arrive] at arrived
    split at arrived
    · cases arrived
      refine { (Unseen.refl : Unseen naming file owner me a a) with job := fun p different => ?_ }
      simp [Function.update_of_ne different]
    · cases arrived
  | issue orgId count => cases foreign
  | retry fileId orgId => cases arrived; exact Unseen.refl
  | chain jobs =>
    simp only [arrive] at arrived
    split at arrived
    · cases arrived
      refine { (Unseen.refl : Unseen naming file owner me a a) with chains := fun other seen => ?_ }
      have different : other ≠ jobs := by rintro rfl; exact seen foreign
      simp [List.count_erase_of_ne different]
    · cases arrived

theorem environment_shown {event : Env} (view : View naming file owner hidden a a')
    (moved : environment event a = some b) :
    ∃ b', environment event a' = some b' ∧ View naming file owner hidden b b' := by
  cases event with
  | clearGuard key => cases moved; exact ⟨_,rfl,view_guard view key none⟩
  | expire key =>
    simp only [environment,view.completed] at moved ⊢
    split at moved
    · rename_i expiring
      cases moved
      exact ⟨_,if_pos expiring,{ view with completed := rfl }⟩
    · cases moved
  | lateRow row file' =>
    obtain ⟨tables,saved,rfl⟩ := Option.map_eq_some_iff.mp moved
    refine ⟨{ a' with tables := tables },?_,{ view with tables := rfl }⟩
    simp only [environment,view.tables,saved,Option.map_some]
  | enqueue job =>
    cases moved
    refine ⟨_,rfl,{ view with queue := fun other seen => ?_ }⟩
    simp only [List.mem_append,view.queue other seen]

/-- A process is hidden exactly when its input is foreign. -/
def Classified (naming : Naming) (file owner : Uuid) (hidden : Nat → Bool) (p : Nat) (input : Input) : Prop :=
  hidden p = true ↔ ForeignInput naming file owner input

theorem erasable : Erasable (sys naming) hidden (Classified naming file owner hidden) (Owned file owner)
    (View naming file owner hidden) (fun _ p => Only (Shown naming file owner) p)
    (fun _ p => Within (Possible naming file owner) (Sneaky naming file owner) p (fun _ => True)) where
  starts p input a b a' shown classified view arrived := by
    have own : ¬ ForeignInput naming file owner input := by
      intro foreign
      rw [classified.mpr foreign] at shown
      cases shown
    exact ⟨arrive_shown shown own view arrived,program_shown own⟩
  enters p input a b a' secret classified view arrived :=
    ⟨arrive_hidden secret (classified.mp secret) view arrived,program_refused (classified.mp secret)⟩
  advances p command resume choice a b a' answer shown calls view handled :=
    ⟨handle_shown shown calls.1 view handled,calls.2 answer⟩
  sneaks p command resume choice a b a' answer secret owned calls view handled :=
    ⟨view_unseen secret view (handle_unseen owned calls.1 handled),calls.2 answer (handle_possible owned handled)⟩
  moves event a b a' view moved := environment_shown view moved

theorem view_empty : View naming file owner hidden World.empty World.empty :=
  ⟨rfl,rfl,fun _ _ => rfl,fun _ _ => rfl,fun _ _ => rfl,fun _ _ => rfl,fun _ _ => Iff.rfl,fun _ _ => rfl,
      rfl,by rintro _ _ _ ⟨⟩⟩

theorem step_grows {m next : Machine Cmd Ret Failure Unit World} {action : Action Choice Input Env}
    (taken : step (sys naming) m action = some next) : m.world.tables.Grows next.world.tables := by
  cases action with
  | start p input =>
    obtain ⟨-,world,arrived,rfl⟩ := step_start taken
    rw [← (arrive_same arrived).1]
    exact Tables.Grows.refl _
  | advance p choice =>
    obtain ⟨command,resume,world,answer,-,handled,rfl⟩ := step_advance taken
    exact @handle_grows naming p m.world world command choice answer handled
  | crash p =>
    obtain ⟨-,rfl⟩ := step_crash taken
    exact Tables.Grows.refl _
  | environment event =>
    obtain ⟨world,moved,rfl⟩ := step_environment taken
    exact (@environment_history 0 m.world world event moved).grows

theorem fitting_of_owned {actions : List (Action Choice Input Env)} {m last : Machine Cmd Ret Failure Unit World}
    (classified : ∀ p input, .start p input ∈ actions → Classified naming file owner hidden p input)
    (reached : run (step (sys naming)) m actions = some last) (owned : Owned file owner last.world) :
    Owned file owner m.world ∧
      Along (step (sys naming)) (Fitting (Classified naming file owner hidden) (Owned file owner)) m actions := by
  have earlier : ∀ {s t : World}, s.tables.Grows t.tables → Owned file owner t → Owned file owner s := by
    intro s t grows owned f member same
    obtain ⟨f',member',sameId,sameOrg⟩ := grows.files f member
    rw [← sameOrg]
    exact owned f' member' (sameId.trans same)
  induction actions generalizing m with
  | nil =>
    simp only [run,Option.some.injEq] at reached
    exact ⟨reached ▸ owned,trivial⟩
  | cons action rest ih =>
    obtain ⟨next,taken,later⟩ := run_cons.mp reached
    obtain ⟨ownedNext,along⟩ := ih (fun p input member => classified p input (List.mem_cons_of_mem _ member)) later
    have ownedHere := earlier (step_grows taken) ownedNext
    refine ⟨ownedHere,?_,fun next' taken' => ?_⟩
    · cases action with
      | start p input => exact ⟨ownedHere,classified p input List.mem_cons_self⟩
      | _ => exact ownedHere
    · rw [taken] at taken'
      exact Option.some.inj taken' ▸ along

end

/-- In every run, take the processes that retry a file or process a job of it on
    behalf of somebody who is not its owner. They dispatch no offer; each of their
    steps leaves all tables, all completion sets and all guards of rows under ids
    that are not foreign; and the run without them ends with the same view and with
    all other processes at the same place. -/
theorem foreign_invisible (naming : Naming) {file owner : Uuid} {hidden : Nat → Bool}
    {actions : List (Action Choice Input Env)} {m : Machine Cmd Ret Failure Unit World}
    (classified : ∀ p input, .start p input ∈ actions → (hidden p = true ↔ ForeignInput naming file owner input))
    (reached : run (step (sys naming)) (Machine.initial World.empty) actions = some m)
    (owned : ∀ f ∈ m.world.tables.files, f.id = file → f.orgId = owner) :
    (∀ p key, hidden p = true → .dispatched p key ∉ m.world.trace) ∧
    (∀ first action rest before after, actions = first ++ action :: rest → visible hidden action = false →
      run (step (sys naming)) (Machine.initial World.empty) first = some before →
      step (sys naming) before action = some after →
        after.world.tables = before.world.tables ∧ after.world.completed = before.world.completed ∧
          ∀ key, ¬ ForeignKey naming file owner key → after.world.guard key = before.world.guard key) ∧
    ∃ m', run (step (sys naming)) (Machine.initial World.empty) (actions.filter (visible hidden)) = some m' ∧
      View naming file owner hidden m.world m'.world ∧ ∀ p, hidden p = false → m'.thread p = m.thread p := by
  obtain ⟨-,fit⟩ := fitting_of_owned classified reached owned
  obtain ⟨m',reached',similar⟩ := erased_run erasable (similar_initial view_empty) fit reached
  refine ⟨similar.world.quiet,?_,m',reached',similar.world,similar.shown⟩
  rintro first action rest before after rfl secret start taken
  obtain ⟨middle,start',later⟩ := run_append.mp reached
  obtain rfl : middle = before := Option.some.inj (start'.symm.trans start)
  have ownedThen := (fitting_of_owned (fun p input member => classified p input (List.mem_append_right _ member)) later
    owned).1
  have early := (fitting_of_owned (fun p input member => classified p input (List.mem_append_left _ member)) start
    ownedThen).2
  obtain ⟨same,-,similar'⟩ := erased_run erasable (similar_initial view_empty) early start
  -- The erased run stands still while the hidden process moves.
  have stays := step_hidden erasable similar' (along_append start fit).1 secret taken
  refine ⟨?_,?_,fun key own => ?_⟩
  · rw [← stays.world.tables,← similar'.world.tables]
  · rw [← stays.world.completed,← similar'.world.completed]
  · rw [← stays.world.guard key own,← similar'.world.guard key own]

/-- The organization 2 retries the file of the organization 1 while the row is
    processed; its job is refused. -/
def foreignRetry : List (Action Choice Input Env) :=
  [Spelling.uploads,Spelling.goesOn 0 1,Spelling.delivers 1 2 (Spelling.rowJob 0 false),
    [.start 3 (.retry (Spelling.text 10) (Spelling.text 2))],Spelling.goesOn 3 4,
    Spelling.delivers 4 5 { Spelling.rowJob 3 true with orgId := Spelling.text 2 },Spelling.goesOn 5 8,
    Spelling.goesOn 2 9].flatten

theorem foreign_invisible_retry :
    ∃ m m', run (step (sys Spelling.spelled)) (Machine.initial World.empty) foreignRetry = some m ∧
      .settled 5 none ∈ m.world.trace ∧ (dispatchedKeys m.world.trace).length = 1 ∧
      run (step (sys Spelling.spelled)) (Machine.initial World.empty)
        (foreignRetry.filter (visible fun p => decide (3 ≤ p))) = some m' ∧
      m'.world.tables = m.world.tables := by
  have runs : ((run (step (sys Spelling.spelled)) (Machine.initial World.empty) foreignRetry).map fun m =>
      (m.world.tables.files,decide (.settled 5 none ∈ m.world.trace),(dispatchedKeys m.world.trace).length)) =
        some ([⟨10,1,.started⟩],true,1) := by decide +kernel
  have own : Names Spelling.spelled 1 (Spelling.text 1) := names_of_uuid (Spelling.uuid_text 1)
  have foreign : Foreign Spelling.spelled 10 1 (Spelling.text 10) (Spelling.text 2) := by
    refine ⟨names_of_uuid (Spelling.uuid_text 10),fun names => ?_⟩
    cases names_uuid names (Spelling.uuid_text 2)
  have classified : ∀ p input, .start p input ∈ foreignRetry →
      (decide (3 ≤ p) = true ↔ ForeignInput Spelling.spelled 10 1 input) := by
    intro p input member
    simp only [foreignRetry,Spelling.uploads,Spelling.goesOn,Spelling.delivers,List.mem_flatten,List.mem_cons,
      List.not_mem_nil,or_false,exists_eq_or_imp,exists_eq_left,Action.start.injEq,reduceCtorEq,List.mem_replicate,
      and_false,false_or] at member
    rcases member with ⟨rfl,rfl⟩ | (⟨rfl,rfl⟩ | ⟨rfl,rfl⟩) | ⟨rfl,rfl⟩ | ⟨rfl,rfl⟩ | ⟨rfl,rfl⟩
    · exact ⟨by rintro ⟨⟩,by rintro ⟨⟩⟩
    · exact ⟨by rintro ⟨⟩,fun chain => absurd own (chain.2 _ List.mem_cons_self).2⟩
    · exact ⟨by rintro ⟨⟩,fun job => absurd own job.2⟩
    · exact ⟨fun _ => foreign,fun _ => rfl⟩
    · refine ⟨fun _ => ⟨by rintro ⟨⟩,fun job inside => ?_⟩,fun _ => rfl⟩
      rw [List.mem_singleton.mp inside]
      exact foreign
    · exact ⟨fun _ => foreign,fun _ => rfl⟩
  obtain ⟨m,reached,found⟩ := Option.map_eq_some_iff.mp runs
  simp only [Prod.mk.injEq,decide_eq_true_eq] at found
  obtain ⟨files,settled,one⟩ := found
  have owned : ∀ f ∈ m.world.tables.files, f.id = 10 → f.orgId = 1 := by
    intro f member _
    rw [files] at member
    rw [List.mem_singleton.mp member]
  obtain ⟨-,-,m',reached',view,-⟩ := foreign_invisible Spelling.spelled classified reached owned
  exact ⟨m,m',reached,settled,one,reached',view.tables⟩

end Ngotag.TenantIsolation
