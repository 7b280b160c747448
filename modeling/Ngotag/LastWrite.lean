import Ngotag.BulkHistory
import Ngotag.Spelling

/-!
The last write of a request. `issueBulkCredential` starts the rows of a file
without waiting for them and then writes the file's status as started once more,
whatever a worker wrote meanwhile. As long as it finds the file still started,
what a worker wrote stays (`terminal_status_stays`); otherwise it is undone
(`terminal_status_undone`).
-/
namespace Ngotag.LastWrite
open Runs Await BulkStore BulkIssuance BulkHistory

/-- A worker has written a final status of the file. -/
def WorkerWrote (w : World) (file : Uuid) : Prop :=
  (∃ p status issued failed job, .wrote p file status issued failed ∈ w.trace ∧ w.job p = some job) ∨
    ∃ p, .interrupted p file ∈ w.trace
/-- What a worker wrote is still there, or another final status. -/
structure Final (w : World) : Prop where
  ids : (w.tables.files.map (·.id)).Nodup
  known : ∀ file, WorkerWrote w file → ∃ f ∈ w.tables.files, f.id = file
  final : ∀ f ∈ w.tables.files, WorkerWrote w f.id → f.status ≠ .started
/-- A request writes `started` again only over `started`. -/
def inTime (naming : Naming) (_ : Nat) (c : Cmd) (_ : Choice) (w : World) : Prop :=
  ∀ fileId, c = .updateFileUploadDetails fileId .started →
    ∀ f ∈ w.tables.files, naming.uuid fileId = some f.id → f.status = .started

section
variable {naming : Naming} {me : Nat} {a b : World} {c : Cmd} {choice : Choice} {answer : Except Failure (Ret c)}

theorem workerWrote_cases {file : Uuid} (handled : handle naming me c choice a = some (b,answer))
    (wrote : WorkerWrote b file) :
    WorkerWrote a file ∨
        (∃ status issued failed job, Emits naming c (.wrote me file status issued failed) ∧ a.job me = some job) ∨
      (.interrupted me file ∈ b.trace ∧ Emits naming c (.interrupted me file)) := by
  have jobs := handle_job handled
  have events : ∀ e ∈ b.trace, e ∈ a.trace ∨ (process e = me ∧ Emits naming c e) := by
    intro e member
    rcases handle_world handled with rfl | rfl
    · exact .inl member
    · exact effect_emits.new member
  rcases wrote with ⟨p,status,issued,failed,job,wrote,handles⟩ | ⟨p,interrupted⟩
  · rw [jobs] at handles
    rcases events _ wrote with early | ⟨own,emits⟩
    · exact .inl (.inl ⟨p,status,issued,failed,job,early,handles⟩)
    · obtain rfl : p = me := own
      exact .inr (.inl ⟨status,issued,failed,job,emits,handles⟩)
  · rcases events _ interrupted with early | ⟨own,emits⟩
    · exact .inl (.inr ⟨p,early⟩)
    · obtain rfl : p = me := own
      exact .inr (.inr ⟨interrupted,emits⟩)

theorem final_files (final : Final a) (files : b.tables.files = a.tables.files)
    (wrote : ∀ file, WorkerWrote b file → WorkerWrote a file) : Final b := by
  refine ⟨files ▸ final.ids,?_,?_⟩
  · rw [files]; exact fun file wr => final.known file (wrote file wr)
  · rw [files]; exact fun f member wr => final.final f member (wrote f.id wr)

theorem final_other (final : Final a) (other : writesFile c = false)
    (handled : handle naming me c choice a = some (b,answer)) : Final b := by
  have files : b.tables.files = a.tables.files := by
    rcases handle_world handled with rfl | rfl
    · rfl
    · exact effect_files other
  have wrote : ∀ file, WorkerWrote b file → WorkerWrote a file := by
    intro file wrote
    rcases workerWrote_cases handled wrote with early | ⟨status,issued,failed,job,emits,-⟩ | ⟨-,emits⟩
    · exact early
    all_goals cases c <;> first | (cases other; done) | cases emits
  exact final_files final files wrote

theorem final_updateFileUploadDetails {fileId : String} {status : FileUploadStatus}
    {answer : Except Failure (Ret (.updateFileUploadDetails fileId status))} (final : Final a)
    (role : Role naming me (.updateFileUploadDetails fileId status) a)
    (timely : inTime naming me (.updateFileUploadDetails fileId status) choice a)
    (handled : handle naming me (.updateFileUploadDetails fileId status) choice a = some (b,answer)) : Final b := by
  have wrote := @workerWrote_cases naming me a b _ choice answer
  rcases handle_world handled with rfl | rfl
  · exact final
  cases updated : a.tables.updateFileUploadDetails naming fileId status with
  | none => simpa only [effect,update,updated] using final
  | some t =>
    obtain ⟨file,named,present,-,files⟩ := Tables.updateFileUploadDetails_some naming updated
    have tables : (effect naming me (.updateFileUploadDetails fileId status) choice a).1.tables = t := by
      simp only [effect,update,updated]
    refine ⟨effect_grows.fileIds final.ids,?_,?_⟩
    · intro file' wr
      have before : ∃ f ∈ a.tables.files, f.id = file' := by
        rcases wrote handled wr with early | ⟨_,_,_,_,⟨named',-⟩,-⟩ | ⟨-,emits⟩
        · exact final.known file' early
        · exact Option.some.inj (named.symm.trans named') ▸ present
        · cases emits
      obtain ⟨f,member,same⟩ := before
      obtain ⟨f',member',same',-⟩ := effect_grows.files f member
      exact ⟨f',member',same'.trans same⟩
    · rw [tables,files]
      intro f' member wr
      obtain ⟨f,listed,rfl⟩ := List.mem_map.mp member
      by_cases here : f.id = file
      · rw [if_pos here] at wr ⊢
        -- A worker never writes `started`; a request does so only before any worker wrote.
        rcases role with ⟨job,-,-,terminal⟩ | noJob
        · rcases terminal with rfl | rfl <;> rintro ⟨⟩
        · rintro (rfl : status = .started)
          rcases wrote handled wr with early | ⟨_,_,_,_,-,handles⟩ | ⟨-,emits⟩
          · exact final.final f listed early (timely fileId rfl f listed (here ▸ named))
          · cases noJob.symm.trans handles
          · cases emits
      · rw [if_neg here] at wr ⊢
        rcases wrote handled wr with early | ⟨_,_,_,_,⟨named',-⟩,-⟩ | ⟨-,emits⟩
        · exact final.final f listed early
        · exact absurd (Option.some.inj (named'.symm.trans named)) here
        · cases emits

theorem final_interruptFileUpload {fileId orgId : String}
    {answer : Except Failure (Ret (.interruptFileUpload fileId orgId))} (final : Final a)
    (handled : handle naming me (.interruptFileUpload fileId orgId) choice a = some (b,answer)) : Final b := by
  have wrote := @workerWrote_cases naming me a b _ choice answer
  rcases handle_world handled with rfl | rfl
  · exact final
  cases updated : a.tables.interruptFileUpload naming fileId orgId with
  | none => simpa only [effect,updated] using final
  | some outcome =>
    obtain ⟨t,changed⟩ := outcome
    obtain ⟨file,org,named,-,-,change,files⟩ := Tables.interruptFileUpload_some naming updated
    have tables : (effect naming me (.interruptFileUpload fileId orgId) choice a).1.tables = t := by
      simp only [effect,updated]
    -- A new event says that the file was one to interrupt.
    have found : ∀ {file' : Uuid},
        .interrupted me file' ∈ (effect naming me (.interruptFileUpload fileId orgId) choice a).1.trace →
        Emits naming (.interruptFileUpload fileId orgId) (.interrupted me file') →
        WorkerWrote a file' ∨ (file' = file ∧ ∃ f, a.tables.Interruptible file org f) := by
      intro file' member emits
      have same : file' = file := Option.some.inj (emits.symm.trans named)
      simp only [effect,updated] at member
      rcases List.mem_append.mp member with late | early
      · split at late
        · rename_i did; exact .inr ⟨same,change.mp did⟩
        · cases late
      · exact .inl (.inr ⟨me,early⟩)
    have earlier : ∀ {file' : Uuid},
        WorkerWrote (effect naming me (.interruptFileUpload fileId orgId) choice a).1 file' →
        WorkerWrote a file' ∨ (file' = file ∧ ∃ f, a.tables.Interruptible file org f) := by
      intro file' wr
      rcases wrote handled wr with early | ⟨_,_,_,_,emits,-⟩ | ⟨member,emits⟩
      · exact .inl early
      · cases emits
      · exact found member emits
    refine ⟨effect_grows.fileIds final.ids,?_,?_⟩
    · intro file' wr
      have before : ∃ f ∈ a.tables.files, f.id = file' := by
        rcases earlier wr with early | ⟨rfl,f,member,same,-⟩
        · exact final.known file' early
        · exact ⟨f,member,same⟩
      obtain ⟨f,member,same⟩ := before
      obtain ⟨f',member',same',-⟩ := effect_grows.files f member
      exact ⟨f',member',same'.trans same⟩
    · rw [tables,files]
      intro f' member wr
      obtain ⟨f,listed,rfl⟩ := List.mem_map.mp member
      split
      · rintro ⟨⟩
      · rename_i kept
        rw [if_neg kept] at wr
        rcases earlier wr with early | ⟨here,g,member',sameId,sameOrg,open_⟩
        · exact final.final f listed early
        · have same : f = g := List.inj_on_of_nodup_map final.ids listed member' (here.trans sameId.symm)
          exact absurd ⟨here,same ▸ sameOrg,same ▸ open_⟩ kept

theorem final_saveFileUploadDetails {orgId : String} {status : FileUploadStatus}
    {answer : Except Failure (Ret (.saveFileUploadDetails orgId status))} (final : Final a)
    (handled : handle naming me (.saveFileUploadDetails orgId status) choice a = some (b,answer)) : Final b := by
  have wrote := @workerWrote_cases naming me a b _ choice answer
  rcases handle_world handled with rfl | rfl
  · exact final
  cases saved : a.tables.saveFileUploadDetails naming choice.fresh orgId status with
  | none => simpa only [effect,saved] using final
  | some t =>
    obtain ⟨absent,-,org,-,files⟩ := Tables.saveFileUploadDetails_some naming saved
    have tables : (effect naming me (.saveFileUploadDetails orgId status) choice a).1.tables = t := by
      simp only [effect,saved]
    have earlier : ∀ {file : Uuid},
        WorkerWrote (effect naming me (.saveFileUploadDetails orgId status) choice a).1 file → WorkerWrote a file := by
      intro file wr
      rcases wrote handled wr with early | ⟨_,_,_,_,emits,-⟩ | ⟨-,emits⟩
      · exact early
      all_goals cases emits
    refine ⟨effect_grows.fileIds final.ids,?_,?_⟩
    · intro file wr
      obtain ⟨f,member,same⟩ := final.known file (earlier wr)
      exact ⟨f,by rw [tables,files]; exact List.mem_append_left _ member,same⟩
    · rw [tables,files]
      intro f member wr
      rcases List.mem_append.mp member with old | new
      · exact final.final f old (earlier wr)
      · -- The file is new, so no worker knew it.
        rw [List.mem_singleton.mp new] at wr
        obtain ⟨g,listed,same⟩ := final.known _ (earlier wr)
        exact absurd same (absent g listed)

theorem final_handle (final : Final a) (role : Role naming me c a) (timely : inTime naming me c choice a)
    (handled : handle naming me c choice a = some (b,answer)) : Final b := by
  cases c with
  | updateFileUploadDetails fileId status => exact final_updateFileUploadDetails final role timely handled
  | interruptFileUpload fileId orgId => exact final_interruptFileUpload final handled
  | saveFileUploadDetails orgId status => exact final_saveFileUploadDetails final handled
  | _ => exact final_other final rfl handled
theorem final_arrive {input : Input} (final : Final a) (idle : Idle me a) (arrived : arrive me input a = some b) :
    Final b := by
  obtain ⟨tables,-,-,-,-,trace,-,others⟩ := arrive_same arrived
  refine final_files final (by rw [tables]) ?_
  rintro file (⟨p,status,issued,failed,job,wrote,handles⟩ | ⟨p,interrupted⟩)
  · rw [trace] at wrote
    exact .inl ⟨p,status,issued,failed,job,wrote,others p (idle.trace _ wrote) ▸ handles⟩
  · exact .inr ⟨p,trace ▸ interrupted⟩

theorem final_environment {event : Env} (final : Final a) (moved : environment event a = some b) : Final b := by
  have same : ∀ {w : World}, w.trace = a.trace → w.job = a.job → ∀ file, WorkerWrote w file → WorkerWrote a file := by
    rintro w trace job file (⟨p,status,issued,failed,handled,wrote,handles⟩ | ⟨p,interrupted⟩)
    · exact .inl ⟨p,status,issued,failed,handled,trace ▸ wrote,job ▸ handles⟩
    · exact .inr ⟨p,trace ▸ interrupted⟩
  cases event with
  | clearGuard key => cases moved; exact final_files final rfl (same rfl rfl)
  | expire key =>
    simp only [environment] at moved
    split at moved
    · cases moved; exact final_files final rfl (same rfl rfl)
    · cases moved
  | lateRow row file =>
    obtain ⟨tables,saved,rfl⟩ := Option.map_eq_some_iff.mp moved
    exact final_files final (Tables.saveFileDetails_files saved) (same rfl rfl)
  | enqueue job => cases moved; exact final_files final rfl (same rfl rfl)

end

/-- The file a process is about to write as started. -/
def startedAgain : Option Cmd → Option String
  | some (.updateFileUploadDetails fileId .started) => some fileId
  | _ => none
/-- When a request is about to write `started` again, the file still has that
    status. -/
def InTime (naming : Naming) (m : Machine Cmd Ret Failure Unit World) : Action Choice Input Env → Prop
  | .advance process _ => ∀ fileId ∈ startedAgain (m.thread process).awaited,
      ∀ f ∈ m.world.tables.files, naming.uuid fileId = some f.id → f.status = .started
  | _ => True
instance (naming : Naming) (m : Machine Cmd Ret Failure Unit World) :
    (a : Action Choice Input Env) → Decidable (InTime naming m a)
  | .advance process _ => inferInstanceAs (Decidable (∀ fileId ∈ startedAgain (m.thread process).awaited,
      ∀ f ∈ m.world.tables.files, naming.uuid fileId = some f.id → f.status = .started))
  | .start _ _ => isTrue trivial
  | .crash _ => isTrue trivial
  | .environment _ => isTrue trivial

/-- In every run in which a request finds its file still started when it writes
    `started` again, a file whose status a worker wrote is never started again. -/
theorem terminal_status_stays (naming : Naming) {actions : List (Action Choice Input Env)}
    {m : Machine Cmd Ret Failure Unit World}
    (timely : Along (step (sys naming)) (InTime naming) (Machine.initial World.empty) actions)
    (reached : run (step (sys naming)) (Machine.initial World.empty) actions = some m) {f : FileUpload}
    (stored : f ∈ m.world.tables.files) (wrote : WorkerWrote m.world f.id) : f.status ≠ .started := by
  have keeps : Keeps (sys naming) (historyContract Final (inTime naming) fun _ _ => True) (fun _ _ _ => True) :=
    roleKeeps (fun _ _ _ _ _ _ final role timely handled => final_handle final role timely handled)
      (fun _ _ _ _ => final_arrive) (fun _ _ _ final _ => final_environment final)
  have empty : Final World.empty := ⟨List.nodup_nil,by rintro file (⟨_,_,_,_,_,⟨⟩,-⟩ | ⟨_,⟨⟩⟩),by rintro _ ⟨⟩⟩
  have considered : Along (step (sys naming)) (Considered (historyContract Final (inTime naming) fun _ _ => True))
      (Machine.initial World.empty) actions := by
    refine along_mono (fun m a timely => ?_) timely
    cases a with
    | advance process choice =>
      intro command resume at_ fileId same
      subst same
      exact timely fileId (by rw [at_]; rfl)
    | _ => trivial
  exact (run_safe keeps (safe_initial empty fun _ => ⟨by rintro _ ⟨⟩,rfl⟩) considered reached).inv.final f stored wrote

/-- A file of one row. The request writes the status again before its job runs,
    and the job completes the file. -/
theorem terminal_status_stays_written :
    ∃ m f, run (step (sys Spelling.spelled)) (Machine.initial World.empty) Spelling.oneRow = some m ∧
      f ∈ m.world.tables.files ∧ WorkerWrote m.world f.id ∧ f.status ≠ .started := by
  have runs : ((run (step (sys Spelling.spelled)) (Machine.initial World.empty) Spelling.oneRow).map fun m =>
      (m.world.tables.files,m.world.trace.head?,(m.world.job 2).isSome)) =
        some ([⟨10,1,.completed⟩],some (.wrote 2 10 .completed true 0),true) := by decide +kernel
  have timely : Along (step (sys Spelling.spelled)) (InTime Spelling.spelled) (Machine.initial World.empty)
      Spelling.oneRow := by decide +kernel
  obtain ⟨m,reached,found⟩ := Option.map_eq_some_iff.mp runs
  simp only [Prod.mk.injEq] at found
  obtain ⟨files,wrote,job⟩ := found
  obtain ⟨job,handles⟩ := Option.isSome_iff_exists.mp job
  have stored : ⟨10,1,.completed⟩ ∈ m.world.tables.files := by rw [files]; exact List.mem_singleton_self _
  have worker : WorkerWrote m.world 10 := .inl ⟨2,_,_,_,job,List.mem_of_head? wrote,handles⟩
  exact ⟨m,_,reached,stored,worker,terminal_status_stays Spelling.spelled timely reached stored worker⟩

/-- The same file, but the job completes before the request writes again. -/
def writtenAfter : List (Action Choice Input Env) :=
  [Spelling.uploads,Spelling.delivers 1 2 (Spelling.rowJob 0 false),Spelling.goesOn 2 19,Spelling.goesOn 0 1].flatten

/-- The request undoes the status a worker wrote. -/
theorem terminal_status_undone :
    ∃ m f, run (step (sys Spelling.spelled)) (Machine.initial World.empty) writtenAfter = some m ∧
      m.world.trace.take 2 = [.wrote 0 10 .started true 0,.wrote 2 10 .completed true 0] ∧
      f ∈ m.world.tables.files ∧ WorkerWrote m.world f.id ∧ f.status = .started := by
  have runs : ((run (step (sys Spelling.spelled)) (Machine.initial World.empty) writtenAfter).map fun m =>
      (m.world.tables.files,m.world.trace.take 2,(m.world.job 2).isSome)) =
        some ([⟨10,1,.started⟩],[.wrote 0 10 .started true 0,.wrote 2 10 .completed true 0],true) := by
    decide +kernel
  obtain ⟨m,reached,found⟩ := Option.map_eq_some_iff.mp runs
  simp only [Prod.mk.injEq] at found
  obtain ⟨files,wrote,job⟩ := found
  obtain ⟨job,handles⟩ := Option.isSome_iff_exists.mp job
  have completed : .wrote 2 10 .completed true 0 ∈ m.world.trace := List.mem_of_mem_take (by rw [wrote]; simp)
  exact ⟨m,⟨10,1,.started⟩,reached,wrote,by rw [files]; exact List.mem_singleton_self _,
    .inl ⟨2,_,_,_,job,completed,handles⟩,rfl⟩

end Ngotag.LastWrite
