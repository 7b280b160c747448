import Ngotag.BulkHistory
import Ngotag.Spelling

/-!
A row that threw. The worker's error handling interrupts the file, but only from
the statuses of a file being processed. A retry does not set such a status, so a
file that was completed before stays as it was when a row of its retry throws: from
the throw to the handling of the error, the file ends interrupted exactly when no
completion was the last that was written of it (`thrown_row_interrupts`).
-/
namespace Ngotag.ThrownRow
open Runs Await BulkStore BulkIssuance BulkCalls BulkHistory

/-- The status that a file has by what was written of it, the latest first; it is stored
    as started. -/
def lastStatus (file : Uuid) : List Event → FileUploadStatus
  | [] => .started
  | .wrote _ written status _ _ :: earlier => if written = file then status else lastStatus file earlier
  | .interrupted _ written :: earlier => if written = file then .interrupted else lastStatus file earlier
  | _ :: earlier => lastStatus file earlier
def aboutStatus : Event → Bool
  | .wrote _ _ _ _ _ => true
  | .interrupted _ _ => true
  | _ => false
theorem lastStatus_skip {file : Uuid} {new old : List Event} (other : ∀ e ∈ new, aboutStatus e = false) :
    lastStatus file (new ++ old) = lastStatus file old := by
  induction new with
  | nil => rfl
  | cons e rest ih =>
    have later := ih fun e member => other e (List.mem_cons_of_mem _ member)
    have plain := other e List.mem_cons_self
    cases e <;> first | exact later | cases plain

/-- The history says what the status of each file is. -/
structure Told (w : World) : Prop where
  ids : (w.tables.files.map (·.id)).Nodup
  status : ∀ f ∈ w.tables.files, f.status = lastStatus f.id w.trace
  unknown : ∀ file, (∀ f ∈ w.tables.files, f.id ≠ file) → lastStatus file w.trace = .started
/-- Files are stored as started. -/
def Started : Cmd → Prop
  | .saveFileUploadDetails _ status => status = .started
  | _ => True
/-- When its row threw, the worker goes on to interrupt the file of its job. -/
def Interrupts (job : Job) (c : Cmd) (_ : Except Failure (Ret c)) (rest : Bulk Unit) : Prop :=
  c = .settleRow none → (Thread.live rest).awaited = some (.interruptFileUpload job.fileUploadId job.orgId)
/-- What the processes are about to do. -/
structure Working (naming : Naming) (m : Machine Cmd Ret Failure Unit World) : Prop where
  told : Told m.world
  unused : ∀ p, m.thread p = .unused → m.world.job p = none
  stores : ∀ p prog, m.thread p = .live prog → Only Started prog
  throws : ∀ p job prog, m.world.job p = some job → m.thread p = .live prog → Each (Interrupts job) prog

section
variable {naming : Naming} {me : Nat} {a b : World} {c : Cmd} {choice : Choice}
    {answer : Except Failure (Ret c)} {job : Job}

theorem told_other (told : Told a) (other : writesFile c = false)
    (handled : handle naming me c choice a = some (b,answer)) : Told b := by
  rcases handle_world handled with rfl | rfl
  · exact told
  obtain ⟨new,trace,own⟩ := @effect_emits naming me c choice a
  have same : ∀ file, lastStatus file (effect naming me c choice a).1.trace = lastStatus file a.trace := by
    intro file
    rw [trace]
    refine lastStatus_skip fun e member => ?_
    have emits := (own e member).2
    cases e <;> first | rfl | (cases c <;> first | (cases other; done) | cases emits)
  refine ⟨by rw [effect_files other]; exact told.ids,?_,?_⟩
  · rw [effect_files other]
    exact fun f stored => (told.status f stored).trans (same f.id).symm
  · rw [effect_files other]
    exact fun file absent => (same file).trans (told.unknown file absent)

theorem told_updateFileUploadDetails {fileId : String} {status : FileUploadStatus}
    {answer : Except Failure (Ret (.updateFileUploadDetails fileId status))} (told : Told a)
    (handled : handle naming me (.updateFileUploadDetails fileId status) choice a = some (b,answer)) : Told b := by
  rcases handle_world handled with rfl | rfl
  · exact told
  cases updated : a.tables.updateFileUploadDetails naming fileId status with
  | none => simpa only [effect,update,updated] using told
  | some t =>
    obtain ⟨file,named,⟨g,listed,sameId⟩,-,files⟩ := Tables.updateFileUploadDetails_some naming updated
    simp only [effect,update,updated,about,named,Option.toList_some,List.map_cons,List.map_nil,List.singleton_append]
    refine ⟨(Tables.updateFileUploadDetails_grows naming updated).fileIds told.ids,?_,?_⟩
    · rw [files]
      intro f' member
      obtain ⟨f,stored,rfl⟩ := List.mem_map.mp member
      by_cases here : f.id = file
      · simp only [here,↓reduceIte,lastStatus]
      · simp only [if_neg here,lastStatus,if_neg (Ne.symm here)]
        exact told.status f stored
    · rw [files]
      intro other absent
      have apart : file ≠ other := by
        rintro rfl
        exact absent _ (List.mem_map_of_mem listed) (by rw [if_pos sameId]; exact sameId)
      simp only [lastStatus,if_neg apart]
      refine told.unknown other fun f stored same => absent _ (List.mem_map_of_mem stored) ?_
      split <;> exact same

theorem told_interruptFileUpload {fileId orgId : String}
    {answer : Except Failure (Ret (.interruptFileUpload fileId orgId))} (told : Told a)
    (handled : handle naming me (.interruptFileUpload fileId orgId) choice a = some (b,answer)) : Told b := by
  rcases handle_world handled with rfl | rfl
  · exact told
  cases updated : a.tables.interruptFileUpload naming fileId orgId with
  | none => simpa only [effect,updated] using told
  | some outcome =>
    obtain ⟨t,changed⟩ := outcome
    have grows := Tables.interruptFileUpload_grows naming updated
    obtain ⟨file,org,named,-,-,change,files⟩ := Tables.interruptFileUpload_some naming updated
    simp only [effect,updated,about,named,Option.toList_some,List.map_cons,List.map_nil]
    -- The event is there exactly if a file was one to interrupt.
    have latest : ∀ other, lastStatus other ((if changed = true then [.interrupted me file] else []) ++ a.trace) =
        if changed = true ∧ file = other then .interrupted else lastStatus other a.trace := by
      intro other
      by_cases did : changed = true <;> by_cases here : file = other <;> simp [did,here,lastStatus]
    refine ⟨grows.fileIds told.ids,?_,?_⟩
    · rw [files]
      intro f' member
      obtain ⟨f,stored,rfl⟩ := List.mem_map.mp member
      rw [latest]
      by_cases meets : f.id = file ∧ f.orgId = org ∧ Tables.interruptible f.status = true
      · rw [if_pos meets,if_pos ⟨change.mpr ⟨f,stored,meets⟩,meets.1.symm⟩]
      · have kept : ¬(changed = true ∧ file = f.id) := by
          rintro ⟨did,here⟩
          obtain ⟨g,listed,sameId,open_⟩ := change.mp did
          obtain rfl : g = f := List.inj_on_of_nodup_map told.ids listed stored (sameId.trans here)
          exact meets ⟨sameId,open_⟩
        rw [if_neg meets,if_neg kept]
        exact told.status f stored
    · rw [files]
      intro other absent
      have none_ : ∀ f ∈ a.tables.files, f.id ≠ other := by
        intro f stored same
        refine absent _ (List.mem_map_of_mem stored) ?_
        split <;> exact same
      have kept : ¬(changed = true ∧ file = other) := by
        rintro ⟨did,rfl⟩
        obtain ⟨g,listed,sameId,-⟩ := change.mp did
        exact none_ g listed sameId
      rw [latest,if_neg kept]
      exact told.unknown other none_

theorem told_saveFileUploadDetails {orgId : String}
    {answer : Except Failure (Ret (.saveFileUploadDetails orgId .started))}
    (told : Told a) (handled : handle naming me (.saveFileUploadDetails orgId .started) choice a = some (b,answer)) :
    Told b := by
  rcases handle_world handled with rfl | rfl
  · exact told
  cases saved : a.tables.saveFileUploadDetails naming choice.fresh orgId .started with
  | none => simpa only [effect,saved] using told
  | some t =>
    have grows := Tables.saveFileUploadDetails_grows naming saved
    obtain ⟨absent,-,org,-,files⟩ := Tables.saveFileUploadDetails_some naming saved
    simp only [effect,saved]
    refine ⟨grows.fileIds told.ids,?_,?_⟩
    · rw [files]
      intro f member
      rcases List.mem_append.mp member with stored | new
      · exact told.status f stored
      · obtain rfl := List.mem_singleton.mp new
        exact (told.unknown choice.fresh absent).symm
    · rw [files]
      exact fun file missing => told.unknown file fun f stored => missing f (List.mem_append_left _ stored)

/-- One command of the worker keeps what it was told. -/
theorem told_step (told : Told a) (started : Started c) (handled : handle naming me c choice a = some (b,answer)) :
    Told b := by
  cases c with
  | updateFileUploadDetails fileId status => exact told_updateFileUploadDetails told handled
  | interruptFileUpload fileId orgId => exact told_interruptFileUpload told handled
  | saveFileUploadDetails orgId status =>
    obtain rfl : status = .started := started
    exact told_saveFileUploadDetails told handled
  | _ => exact told_other told rfl handled
theorem told_environment {event : Env} (told : Told a) (moved : environment event a = some b) : Told b := by
  cases event with
  | clearGuard key => cases moved; exact ⟨told.ids,told.status,told.unknown⟩
  | enqueue job => cases moved; exact ⟨told.ids,told.status,told.unknown⟩
  | expire key =>
    simp only [environment] at moved
    split at moved
    · cases moved; exact ⟨told.ids,told.status,told.unknown⟩
    · cases moved
  | lateRow row file =>
    obtain ⟨tables,saved,rfl⟩ := Option.map_eq_some_iff.mp moved
    have files := Tables.saveFileDetails_files saved
    exact ⟨files ▸ told.ids,files ▸ told.status,files ▸ told.unknown⟩

theorem program_stores (process : Nat) (input : Input) : Only Started (program naming process input) := by
  have call : ∀ {c : Cmd}, Started c → Only Started (perform c) := fun started => (only_call _).mpr started
  cases input with
  | job job =>
    have calls : Only (WorkerCall naming job) (issueCredential naming job) := issueCredential_calls
    exact only_mono (fun c fits => by cases c <;> trivial) calls
  | retry fileId orgId => exact retryBulkCredential_only trivial trivial (fun _ => trivial) fun _ => trivial
  | chain jobs =>
    exact only_mono (fun c queue => by cases c <;> trivial) (processInBatches_queues _)
  | issue orgId count =>
    refine only_bind (call trivial) fun _ => only_bind (call rfl) fun file => only_ensure ?_ fun result => call trivial
    refine only_bind (storeBulkPayload_only (by trivial) count) fun _ => ?_
    exact only_bind (call trivial) fun _ => call trivial

/-- Only `guardedBulkRow` notes how the row ended. -/
theorem issueCredential_throws : Each (Interrupts job) (issueCredential naming job) := by
  refine each_bind (each_tryCatch (each_bind (each_ensure ?_ ?_ ?_) ?_) ?_) ?_
  · refine each_only ?_ bulkRow_calls
    rintro c ⟨-,open_⟩ - - rfl
    cases open_
  · rintro value (error | ⟨⟩) <;> exact ⟨by rintro ⟨⟩,trivial⟩
  · rintro error (failed | ⟨⟩) <;> exact ⟨fun _ => rfl,trivial⟩
  · intro succeeded
    refine each_only ?_ (only_bind (completeBulkRow_closes job) fun _ => trivial)
    rintro c closing - - rfl
    cases closing
  · intro error
    refine @each_only _ _ _ _ _ (fun c => ∃ fileId orgId, c = .interruptFileUpload fileId orgId) ?_ _ ?_
    · rintro c ⟨fileId,orgId,rfl⟩ - - ⟨⟩
    · exact only_bind (only_tryCatch (only_bind ((only_call _).mpr ⟨_,_,rfl⟩) fun _ => trivial) fun _ => trivial)
        fun _ => trivial
  · intro succeeded
    split <;> trivial

end

variable {naming : Naming}
theorem working_step {m next : Machine Cmd Ret Failure Unit World} {a : Action Choice Input Env}
    (working : Working naming m) (taken : step (sys naming) m a = some next) : Working naming next := by
  -- What the other processes and their jobs are is untouched by a step of one process.
  have others : ∀ process world thread, Told world → thread ≠ .unused →
      (∀ p, p ≠ process → world.job p = m.world.job p) →
      (∀ prog, thread = .live prog → Only Started prog) →
      (∀ job prog, world.job process = some job → thread = .live prog → Each (Interrupts job) prog) →
      Working naming ⟨world,Function.update m.thread process thread⟩ := by
    intro process world thread told started jobs stores throws
    refine ⟨told,?_,?_,?_⟩
    · intro p at_
      dsimp only at at_ ⊢
      by_cases same : p = process
      · subst same; rw [Function.update_self] at at_; exact absurd at_ started
      · rw [Function.update_of_ne same] at at_; exact (jobs p same).trans (working.unused p at_)
    · intro p prog at_
      dsimp only at at_
      by_cases same : p = process
      · subst same; rw [Function.update_self] at at_; exact stores prog at_
      · rw [Function.update_of_ne same] at at_; exact working.stores p prog at_
    · intro p job prog handles at_
      dsimp only at at_ handles
      by_cases same : p = process
      · subst same; rw [Function.update_self] at at_; exact throws job prog handles at_
      · rw [Function.update_of_ne same] at at_
        exact working.throws p job prog ((jobs p same).symm.trans handles) at_
  cases a with
  | start process input =>
    obtain ⟨unused,world,arrived,rfl⟩ := step_start taken
    obtain ⟨tables,-,-,-,-,trace,-,jobs⟩ := arrive_same arrived
    have told : Told world := ⟨tables ▸ working.told.ids,by rw [tables,trace]; exact working.told.status,
      by rw [tables,trace]; exact working.told.unknown⟩
    refine others process world _ told (by rintro ⟨⟩) jobs ?_ ?_
    · rintro prog ⟨⟩
      exact program_stores process input
    rintro job prog handles ⟨⟩
    have noJob := working.unused process unused
    change arrive process input m.world = some world at arrived
    cases input with
    | job job' =>
      simp only [arrive] at arrived
      split at arrived
      · cases arrived
        simp only [Function.update_self,Option.some.injEq] at handles
        exact handles ▸ issueCredential_throws
      · cases arrived
    | issue orgId count => cases arrived; cases noJob.symm.trans handles
    | retry fileId orgId => cases arrived; cases noJob.symm.trans handles
    | chain jobs =>
      simp only [arrive] at arrived
      split at arrived
      · cases arrived; cases noJob.symm.trans handles
      · cases arrived
  | advance process choice =>
    obtain ⟨command,resume,world,answer,at_,handled,rfl⟩ := step_advance taken
    have jobs := @handle_job naming process m.world world command choice answer handled
    have stores := working.stores process _ at_
    refine others process world _ (told_step working.told stores.1 handled) (by rintro ⟨⟩)
        (fun p _ => congrFun jobs p) ?_ ?_
    · rintro prog ⟨⟩
      exact stores.2 answer
    · rintro job prog handles ⟨⟩
      exact (working.throws process job _ ((congrFun jobs process).symm.trans handles) at_ answer).2
  | crash process =>
    obtain ⟨⟨p,live⟩,rfl⟩ := step_crash taken
    exact others process m.world _ working.told (by rintro ⟨⟩) (fun _ _ => rfl) (by rintro _ ⟨⟩) (by rintro _ _ _ ⟨⟩)
  | environment event =>
    obtain ⟨world,moved,rfl⟩ := step_environment taken
    have history : ∀ p, History p m.world world := fun p => environment_history moved
    refine ⟨told_environment working.told moved,fun p at_ => (history p).job.trans (working.unused p at_),
        working.stores,?_⟩
    exact fun p job prog handles at_ => working.throws p job prog ((history p).job.symm.trans handles) at_

theorem working_initial : Working naming (Machine.initial World.empty) := by
  refine ⟨⟨List.nodup_nil,by rintro _ ⟨⟩,fun _ _ => rfl⟩,fun _ _ => rfl,by rintro _ _ ⟨⟩,?_⟩
  intro p job prog handles
  cases handles
/-- The worker of a thrown row keeps its job throughout the run. -/
theorem run_working {m next : Machine Cmd Ret Failure Unit World} {actions : List (Action Choice Input Env)}
    (working : Working naming m) (reached : run (step (sys naming)) m actions = some next) : Working naming next :=
  run_keeps (fun _ _ _ working taken => working_step working taken) working reached

theorem interruptFileUpload_status {t t' : Tables} {fileId orgId : String} {changed : Bool}
    (ids : (t.files.map (·.id)).Nodup) (updated : t.interruptFileUpload naming fileId orgId = some (t',changed))
    {f : FileUpload} (stored : f ∈ t.files) (named : naming.uuid fileId = some f.id) :
    (∀ f' ∈ t'.files, f'.id = f.id → f'.status = .interrupted) ↔
      f.status = .interrupted ∨ (Tables.interruptible f.status = true ∧ naming.uuid orgId = some f.orgId) := by
  obtain ⟨file,org,namedFile,namedOrg,-,-,files⟩ := Tables.interruptFileUpload_some naming updated
  have same : file = f.id := Option.some.inj (namedFile.symm.trans named)
  rw [files,namedOrg]
  constructor
  · intro all
    have after := all _ (List.mem_map_of_mem stored) (by split <;> rfl)
    split at after
    · rename_i matched
      exact .inr ⟨matched.2.2,by rw [matched.2.1]⟩
    · exact .inl after
  · intro before f' member sameId
    obtain ⟨g,listed,rfl⟩ := List.mem_map.mp member
    have equal : g = f := by
      refine List.inj_on_of_nodup_map ids listed stored ?_
      split at sameId <;> exact sameId
    subst equal
    split
    · rfl
    · rename_i kept
      rcases before with already | ⟨open_,owner⟩
      · exact already
      · exact absurd ⟨same.symm,(Option.some.inj owner).symm,open_⟩ kept

/-- The last that was written of the file is that it was completed. -/
def Completed (file : Uuid) (trace : List Event) : Prop :=
  lastStatus file trace = .completed ∨ lastStatus file trace = .partially_completed
theorem interruptible_iff {status : FileUploadStatus} : Tables.interruptible status = true ↔
    status ≠ .interrupted ∧ ¬(status = .completed ∨ status = .partially_completed) := by
  cases status <;> simp [Tables.interruptible]

/-- In every run in which the row of a job throws, others go on, and the worker handles
    the error while the database answers, the job's file is interrupted then exactly when
    the last that was written of it is an interruption, or is no completion and the file
    belongs to the job's organization. -/
theorem thrown_row_interrupts (naming : Naming) {before meanwhile : List (Action Choice Input Env)}
    {m thrown m' : Machine Cmd Ret Failure Unit World} {process : Nat} {settling handling : Choice} {job : Job}
    {f : FileUpload}
    (reached : run (step (sys naming)) (Machine.initial World.empty) before = some m)
    (handles : m.world.job process = some job)
    (throws : (m.thread process).awaited = some (.settleRow none))
    (taken : step (sys naming) m (.advance process settling) = some thrown)
    (others : ∀ a ∈ meanwhile, a.process ≠ some process) (went : run (step (sys naming)) thrown meanwhile = some m')
    (available : handling.fault = .none) (stored : f ∈ m'.world.tables.files)
    (named : naming.uuid job.fileUploadId = some f.id) :
    ∃ next, step (sys naming) m' (.advance process handling) = some next ∧
      ((∀ f' ∈ next.world.tables.files, f'.id = f.id → f'.status = .interrupted) ↔
        lastStatus f.id m'.world.trace = .interrupted ∨
          (¬Completed f.id m'.world.trace ∧ naming.uuid job.orgId = some f.orgId)) := by
  have working := run_working working_initial reached
  have told := (run_working (working_step working taken) went).told
  obtain ⟨command,resume,world,answer,at_,handled,rfl⟩ := step_advance taken
  rw [at_] at throws
  obtain rfl : command = .settleRow none := Option.some.inj throws
  obtain ⟨resume',stands⟩ := awaited_some.mp ((working.throws process job _ handles at_ answer).1 rfl)
  have awaits : m'.thread process = .live (.await (.interruptFileUpload job.fileUploadId job.orgId) resume') := by
    rw [run_thread others went]
    exact (Function.update_self ..).trans stands
  have goes : ∃ answer, handle naming process (.interruptFileUpload job.fileUploadId job.orgId) handling m'.world =
      some ((effect naming process (.interruptFileUpload job.fileUploadId job.orgId) handling m'.world).1,answer) := by
    simp only [handle,synchronous,available,Bool.false_eq_true,if_false]
    exact ⟨_,rfl⟩
  obtain ⟨answer',handled'⟩ := goes
  refine ⟨_,step_of_handle awaits handled',?_⟩
  have status := told.status f stored
  cases updated : m'.world.tables.interruptFileUpload naming job.fileUploadId job.orgId with
  | none =>
    -- The organization of the job is no id.
    have unread : naming.uuid job.orgId = none := by
      cases org : naming.uuid job.orgId with
      | none => rfl
      | some u => simp [Tables.interruptFileUpload,named,org] at updated
    simp only [effect,updated,unread,reduceCtorEq,and_false,or_false,← status]
    constructor
    · exact fun all => all f stored rfl
    · intro already f' member sameId
      rwa [List.inj_on_of_nodup_map told.ids member stored sameId]
  | some outcome =>
    obtain ⟨t,changed⟩ := outcome
    simp only [effect,updated]
    rw [interruptFileUpload_status told.ids updated stored named,interruptible_iff,Completed,← status]
    constructor
    · rintro (already | ⟨⟨-,open_⟩,owner⟩)
      · exact .inl already
      · exact .inr ⟨open_,owner⟩
    · rintro (already | ⟨open_,owner⟩)
      · exact .inl already
      · by_cases already : f.status = .interrupted
        · exact .inl already
        · exact .inr ⟨⟨already,open_⟩,owner⟩

/-- The row is not admitted. -/
def rowRefused : List (Action Choice Input Env) :=
  [Spelling.uploads,Spelling.goesOn 0 1,Spelling.delivers 1 2 (Spelling.rowJob 0 false),[.advance 2 { fault := .lost }]].flatten
/-- A retry begins before the error is handled. -/
def retryBegins : List (Action Choice Input Env) :=
  [.start 3 (.retry (Spelling.text 10) (Spelling.text 1)),.advance 3 {}]

theorem thrown_row_interrupts_refused :
    ∃ m' next, run (step (sys Spelling.spelled)) (Machine.initial World.empty)
    (rowRefused ++ .advance 2 {} :: retryBegins) = some m' ∧
      step (sys Spelling.spelled) m' (.advance 2 {}) = some next ∧
      ∀ f' ∈ next.world.tables.files, f'.id = 10 → f'.status = .interrupted := by
  have runs : ((run (step (sys Spelling.spelled)) (Machine.initial World.empty) rowRefused).map fun m =>
      ((m.thread 2).awaited,m.world.job 2,((run (step (sys Spelling.spelled)) m (.advance 2 {} :: retryBegins)).map fun m' =>
        (m'.world.tables.files,lastStatus 10 m'.world.trace)))) =
        some (some (.settleRow none),some (Spelling.rowJob 0 false),some ([⟨10,1,.started⟩],.started)) := by decide +kernel
  obtain ⟨m,reached,found⟩ := Option.map_eq_some_iff.mp runs
  simp only [Prod.mk.injEq] at found
  obtain ⟨throws,handles,later⟩ := found
  obtain ⟨m',onward,found'⟩ := Option.map_eq_some_iff.mp later
  obtain ⟨files,last⟩ := Prod.mk.inj found'
  obtain ⟨thrown,taken,went⟩ := run_cons.mp onward
  have stored : ⟨10,1,.started⟩ ∈ m'.world.tables.files := by rw [files]; exact List.mem_singleton_self _
  obtain ⟨next,handled,interrupts⟩ :=
      @thrown_row_interrupts Spelling.spelled rowRefused retryBegins m thrown m' 2 {} {} _ _
    reached handles throws taken (by decide) went rfl stored (Spelling.uuid_text 10)
  refine ⟨m',next,run_append.mpr ⟨m,reached,onward⟩,handled,interrupts.mpr (.inr ⟨?_,Spelling.uuid_text 1⟩)⟩
  simp only [Completed,last]
  decide

/-- A file of one row whose agent is not available: the row fails and the file is
    partially completed. It is retried, and the retried row is not admitted. -/
def retryRefused : List (Action Choice Input Env) :=
  [Spelling.uploads,Spelling.goesOn 0 1,Spelling.delivers 1 2 (Spelling.rowJob 0 false),Spelling.goesOn 2 4,
    [.advance 2 { answer := false }],Spelling.goesOn 2 7,Spelling.retries 3,
    Spelling.delivers 4 5 (Spelling.rowJob 3 true),[.advance 5 { fault := .lost },.advance 5 {}]].flatten

/-- The row of the retry threw, its error is handled and the database answers, but
    the file stays partially completed. -/
theorem thrown_retry_kept :
    ∃ m next, run (step (sys Spelling.spelled)) (Machine.initial World.empty) retryRefused = some m ∧
      (m.thread 5).awaited = some (.interruptFileUpload (Spelling.text 10) (Spelling.text 1)) ∧
      .settled 5 none ∈ m.world.trace ∧ step (sys Spelling.spelled) m (.advance 5 {}) = some next ∧
      next.world.tables.files = [⟨10,1,.partially_completed⟩] := by
  have runs : ((run (step (sys Spelling.spelled)) (Machine.initial World.empty) retryRefused).map fun m =>
      ((m.thread 5).awaited,m.world.trace.head?,
        (step (sys Spelling.spelled) m (.advance 5 {})).map (·.world.tables.files))) =
        some (some (.interruptFileUpload (Spelling.text 10) (Spelling.text 1)),some (.settled 5 none),
          some [⟨10,1,.partially_completed⟩]) := by decide +kernel
  obtain ⟨m,reached,found⟩ := Option.map_eq_some_iff.mp runs
  simp only [Prod.mk.injEq] at found
  obtain ⟨thrown,settled,goes⟩ := found
  obtain ⟨next,taken,files⟩ := Option.map_eq_some_iff.mp goes
  exact ⟨m,next,reached,thrown,List.mem_of_head? settled,taken,files⟩

end Ngotag.ThrownRow
