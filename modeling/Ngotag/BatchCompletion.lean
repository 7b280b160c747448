import Ngotag.BatchCounting
import Ngotag.Spelling
import Mathlib.Data.Finset.Card

/-!
Completion of a batch. A worker counts its row only after the row was processed
and its result stored. So, in every run, a batch is announced at most once while
its set is kept, exactly by the count that completes it, and the final status is
written when every row of the batch has its result (`completion_exact`).
-/
namespace Ngotag.BatchCompletion
open Runs Await BulkStore BulkIssuance BulkCalls
  Ngotag.BulkHistory Ngotag.BatchCounting

variable {naming : Naming} {me : Nat} {a b : World} {job : Job}
def ownJobs : Env → World → Prop
  | .enqueue _,_ => False
  | _,_ => True
def contract (naming : Naming) : Contract Cmd World Choice Env :=
  historyContract (Sound naming) (fun _ _ _ _ => True) ownJobs

def aside : Cmd → Bool
  | .complete _ _ _ => false
  | .launch _ => false
  | .addBulk _ => false
  | .settleRow _ => false
  | .updateFileUploadDetails _ _ => false
  | _ => true

variable {command : Cmd} {choice : Choice}
theorem effect_completed (off : aside command = true) :
    (effect naming me command choice a).1.completed = a.completed ∧
      (effect naming me command choice a).1.chains = a.chains ∧
      (effect naming me command choice a).1.queue = a.queue := by
  cases command <;> simp only [aside,Bool.false_eq_true] at off <;> simp only [effect,update,query] <;>
    (try split) <;> simp
theorem emits_plain {e : Event} (off : aside command = true) (emits : Emits naming command e) :
    plain e = true ∧ ∀ w, EventSound naming w e := by
  cases e with
  | dispatched p key => exact ⟨rfl,fun _ => trivial⟩
  | recorded p row isError => exact ⟨rfl,fun _ => trivial⟩
  | interrupted p file => exact ⟨rfl,fun _ => trivial⟩
  | _ => cases command <;> first | (cases off; done) | cases emits
theorem handle_aside {answer : Except Failure (Ret command)} (off : aside command = true) (sound : Sound naming a)
    (handled : handle naming me command choice a = some (b,answer)) : Sound naming b := by
  rcases handle_world handled with rfl | rfl
  · exact sound
  · refine sound_plain sound effect_grows (effect_emits.mono fun e emitted => (emits_plain off emitted.2).1) ?_
      (effect_completed off).1 (effect_completed off).2.1 (effect_completed off).2.2 effect_job
    intro e member
    rcases effect_emits.new member with early | emitted
    · exact .inl early
    · exact .inr ((emits_plain off emitted.2).2 _)

/-- What a process knows, and keeps knowing while the others move and while its
    own calls leave batches alone. -/
structure Stays (naming : Naming) (me : Nat) (knows : World → Prop) : Prop where
  stable : ∀ {a b : World}, knows a → History me a b → knows b
  kept : ∀ {command : Cmd} {choice : Choice} {a b : World} {answer : Except Failure (Ret command)},
    aside command = true → knows a → handle naming me command choice a = some (b,answer) → knows b

variable {knows : World → Prop}
theorem aside_spec (stays : Stays naming me knows) (told : Except Failure (Ret command) → World → Prop)
    (off : aside command = true) (now : knows a)
    (known : ∀ before choice after answer, Sound naming before → History me a before →
      handle naming me command choice before = some (after,answer) → told answer after) :
    wp (sys naming) (contract naming) me (perform command) (fun answer w => knows w ∧ told answer w) a := by
  apply wp_history
  intro before relied sound choice after answer _ handled
  exact ⟨handle_aside off sound handled,stays.kept off (stays.stable now relied) handled,
    known before choice after answer sound relied handled⟩
theorem aside_only (stays : Stays naming me knows) {R : Type} {p : Bulk R} (only : Only (aside · = true) p)
    (now : knows a) : wp (sys naming) (contract naming) me p (fun _ w => knows w) a := by
  refine wp_historyEach (fun _ _ now relied _ => stays.stable now relied) ?_ only now
  intro c off before choice after answer sound now _ handled
  exact ⟨handle_aside off sound handled,stays.kept off now handled⟩
theorem aside_call (stays : Stays naming me knows) (off : aside command = true) (now : knows a) :
    wp (sys naming) (contract naming) me (perform command) (fun _ w => knows w) a :=
  aside_only stays ((only_call command).mpr off) now
theorem fresh_stable {e : Event} (own : process e = me) (fresh : e ∉ a.trace) (relied : History me a b) :
    e ∉ b.trace := by
  intro member
  rcases relied.trace.new member with early | foreign
  · exact fresh early
  · exact foreign own
theorem fresh_aside {answer : Except Failure (Ret command)} {e : Event}
    (special : plain e = false) (fresh : e ∉ a.trace) (off : aside command = true)
    (handled : handle naming me command choice a = some (b,answer)) : e ∉ b.trace := by
  rcases handle_world handled with rfl | rfl
  · exact fresh
  · intro member
    rcases effect_emits.new member with early | emitted
    · exact fresh early
    · rw [(emits_plain off emitted.2).1] at special
      cases special

/-- The worker has its job and has not settled it. -/
structure Working (me : Nat) (job : Job) (w : World) : Prop where
  handles : w.job me = some job
  unsettled : ∀ r, .settled me r ∉ w.trace
theorem working_stays : Stays naming me (Working me job) where
  stable working relied :=
    ⟨relied.job.trans working.handles,fun r => fresh_stable rfl (working.unsettled r) relied⟩
  kept off working handled :=
    ⟨(congrFun (handle_job handled) me).trans working.handles,fun r =>
      fresh_aside rfl (working.unsettled r) off handled⟩

theorem issueRow_spec {row : Uuid} (named : naming.uuid job.id = some row) (working : Working me job a) :
    wp (sys naming) (contract naming) me (issueRow job)
      (fun result w => Working me job w ∧ (result = .ok () → w.tables.Issued row)) a := by
  have early : ∀ {command : Cmd}, aside command = true → Only (aside · = true) (perform command) :=
    fun off => (only_call _).mpr off
  have offered : Only (aside · = true) outOfBandCredentialOffer :=
    only_bind (early rfl) fun _ => only_bind (only_bind (early rfl) fun _ => only_bind (early rfl) fun _ => early rfl)
      fun _ => early rfl
  simp only [issueRow,wp_bind]
  refine wp_mono ?_ (aside_call working_stays rfl working)
  rintro (error | available) w working
  · exact ⟨working,by rintro ⟨⟩⟩
  cases available with
  | false => exact ⟨working,by rintro ⟨⟩⟩
  | true =>
  simp only [Bool.not_true,Bool.false_eq_true,↓reduceIte,wp_bind]
  refine wp_mono ?_ (aside_call working_stays rfl working)
  rintro (error | ⟨⟩) w working
  · exact ⟨working,by rintro ⟨⟩⟩
  refine wp_mono ?_ (aside_only working_stays offered working)
  rintro (error | delivered) w working
  · exact ⟨working,by rintro ⟨⟩⟩
  cases delivered with
  | false => exact ⟨working,by rintro ⟨⟩⟩
  | true =>
  simp only [Bool.not_true,Bool.false_eq_true,↓reduceIte]
  refine aside_spec working_stays _ rfl working ?_
  rintro before choice after answer - - handled rfl
  exact deleteFileDataByJobId_ok named handled

theorem processBulkRow_spec (working : Working me job a) :
    wp (sys naming) (contract naming) me (processBulkRow job)
      (fun result w => Working me job w ∧ ∀ r, result = .ok r → Persisted naming me job r w) a := by
  simp only [processBulkRow,wp_bind]
  have found : wp (sys naming) (contract naming) me
      (perform (.getFileDataForProcessing job.id job.fileUploadId job.orgId))
      (fun result w => Working me job w ∧ ∀ status, result = .ok (some status) →
        ∃ row, naming.uuid job.id = some row ∧ (status = true → w.tables.Issued row)) a := by
    refine aside_spec working_stays _ rfl working ?_
    rintro before choice after answer - - handled status rfl
    obtain ⟨answered,rfl⟩ := query_ok (handle_ok handled)
    obtain ⟨row,-,-,named,-,-,-,r,member,sameId,-,same⟩ := Tables.getFileDataForProcessing_some naming answered
    exact ⟨row,named,fun so => ⟨r,member,sameId,same.trans so⟩⟩
  refine wp_mono ?_ found
  rintro (error | current) w ⟨working,known⟩
  · exact ⟨working,by rintro _ ⟨⟩⟩
  rcases current with _ | issued
  · exact ⟨working,by rintro _ ⟨⟩⟩
  cases issued with
  | true =>
    obtain ⟨row,named,issued⟩ := known true rfl
    refine ⟨working,fun r same => ?_⟩
    cases same
    exact ⟨row,named,fun _ => issued rfl,by rintro ⟨⟩⟩
  | false =>
  obtain ⟨row,named,-⟩ := known false rfl
  simp only [wp_bind,wp_tryCatch]
  refine wp_mono ?_ (issueRow_spec named working)
  rintro result w ⟨working,success⟩
  -- The result is written on the row, whether the offer was made or not.
  have recorded : ∀ failed, (failed = false → w.tables.Issued row) →
      wp (sys naming) (contract naming) me
        (do perform (.updateFileUploadData job.id job.fileUploadId failed); pure !failed)
        (fun result w => Working me job w ∧ ∀ r, result = .ok r → Persisted naming me job r w) w := by
    intro failed success
    simp only [wp_bind]
    refine wp_mono ?_ (aside_spec working_stays (fun result w' => (failed = false → w'.tables.Issued row) ∧
      (result = .ok () → .recorded me row failed ∈ w'.trace)) rfl working ?_)
    · rintro (error | ⟨⟩) w' ⟨working,issued,wrote⟩
      · exact ⟨working,by rintro _ ⟨⟩⟩
      · refine ⟨working,fun r same => ?_⟩
        cases same
        refine ⟨row,named,fun so => issued (by simpa using so),fun so => ?_⟩
        have flagged : failed = true := by simpa using so
        exact flagged ▸ wrote rfl
    · intro before choice after answer _ relied handled
      refine ⟨fun so => ((success so).grows relied.grows).grows (handle_grows handled),?_⟩
      rintro rfl
      obtain ⟨row',named',wrote⟩ := updateFileUploadData_ok handled
      rw [named] at named'
      exact Option.some.inj named' ▸ wrote
  cases result with
  | error error => exact (wp_bind _ _ _ _).mp (recorded true (by rintro ⟨⟩))
  | ok value => exact (wp_bind _ _ _ _).mp (recorded false fun _ => success rfl)

/-- The row is done and, unless it threw, its result is stored. -/
def Done (naming : Naming) (me : Nat) (job : Job) (result : Except Failure Bool) (w : World) : Prop :=
  Working me job w ∧ ∀ r, result = .ok r → Persisted naming me job r w
theorem done_stays {result : Except Failure Bool} : Stays naming me (Done naming me job result) where
  stable done relied := ⟨(@working_stays naming me job).stable done.1 relied,fun r same =>
    persisted_grows (done.2 r same) (fun _ => relied.trace.old) relied.grows⟩
  kept off done handled := ⟨working_stays.kept off done.1 handled,fun r same =>
    persisted_grows (done.2 r same) (handle_more handled) (handle_grows handled)⟩

theorem bulkRow_spec (working : Working me job a) :
    wp (sys naming) (contract naming) me
      (bulkRow naming job.orgId job.fileUploadId job.id (processBulkRow job))
      (fun result w => Done naming me job result w) a := by
  simp only [bulkRow,guardedRow,wp_bind]
  refine wp_mono ?_ (aside_call working_stays rfl working)
  rintro (error | ⟨⟩) w working
  · exact ⟨working,by rintro _ ⟨⟩⟩
  refine wp_mono ?_ (aside_call working_stays rfl working)
  rintro (error | acquired) w working
  · exact ⟨working,by rintro _ ⟨⟩⟩
  cases acquired with
  | false => exact ⟨working,by rintro _ ⟨⟩⟩
  | true =>
  simp only [Bool.not_true,Bool.false_eq_true,↓reduceIte,wp_bind,wp_ensure]
  refine wp_mono ?_ (aside_call working_stays rfl working)
  rintro (error | ⟨⟩) w working
  · exact ⟨working,by rintro _ ⟨⟩⟩
  refine wp_mono ?_ (processBulkRow_spec working)
  intro result w done
  refine wp_mono ?_ (aside_call done_stays rfl done)
  rintro (error | dispatched) w done
  · exact ⟨done.1,by rintro _ ⟨⟩⟩
  dsimp only
  split
  · refine wp_mono ?_ (aside_call done_stays rfl done)
    rintro (error | ⟨⟩) w done
    · exact ⟨done.1,by rintro _ ⟨⟩⟩
    · exact done
  · exact done

theorem guardedBulkRow_spec (working : Working me job a) :
    wp (sys naming) (contract naming) me (guardedBulkRow naming job)
      (fun result w => w.job me = some job ∧ ((∃ r, result = .ok r) → Settled naming me job w)) a := by
  simp only [guardedBulkRow,wp_ensure]
  refine wp_mono ?_ (bulkRow_spec working)
  rintro result w ⟨working,persisted⟩
  apply wp_history
  intro before relied sound choice after answer _ handled
  have working := (@working_stays naming me job).stable working relied
  have noted : (after,answer) = ({ before with trace := .settled me result.toOption :: before.trace },.ok ()) := by
    rcases handle_cases handled with done | ⟨sync,-⟩
    · exact done
    · cases sync
  obtain ⟨rfl,rfl⟩ := Prod.mk.inj noted
  refine ⟨sound_settle sound working.unsettled,working.handles,?_⟩
  rintro ⟨r,rfl⟩
  refine ⟨working.handles,r,List.mem_cons_self,?_⟩
  exact persisted_grows (persisted r rfl) (fun _ early => List.mem_cons_of_mem _ (relied.trace.old early)) relied.grows

/-- The worker has announced that its batch is complete. -/
def Told (naming : Naming) (me : Nat) (w : World) : Prop :=
  ∀ job, w.job me = some job → ∃ generation, .announced me (completedKey naming job.jobId) generation ∈ w.trace
theorem told_stays : Stays naming me (Told naming me) where
  stable told relied job handles := by
    obtain ⟨generation,announced⟩ := told job (relied.job ▸ handles)
    exact ⟨generation,relied.trace.old announced⟩
  kept _ told handled job handles := by
    obtain ⟨generation,announced⟩ := told job (handle_job handled ▸ handles)
    exact ⟨generation,handle_more handled _ announced⟩

theorem updateFileUploadDetails_spec {fileId : String} {status : FileUploadStatus} (told : Told naming me a) :
    wp (sys naming) (contract naming) me (perform (.updateFileUploadDetails fileId status))
      (fun _ w => Told naming me w) a := by
  apply wp_history
  intro before relied sound choice after answer _ handled
  have told : Told naming me before := told_stays.stable told relied
  have after_told : Told naming me after := by
    intro job handles
    obtain ⟨generation,announced⟩ := told job (handle_job handled ▸ handles)
    exact ⟨generation,handle_more handled _ announced⟩
  refine ⟨?_,after_told⟩
  have wrote : ∀ e, process e = me ∧ Emits naming (.updateFileUploadDetails fileId status) e →
      plain e = true ∧ EventSound naming after e := by
    rintro e ⟨own,emits⟩
    cases e <;> first | (cases emits; done) | skip
    obtain rfl : _ = me := own
    exact ⟨rfl,after_told⟩
  rcases handle_world handled with rfl | rfl
  · exact sound
  · refine sound_plain sound effect_grows (effect_emits.mono fun e emitted => (wrote e emitted).1) ?_ ?_ ?_ ?_ effect_job
    · intro e member
      rcases effect_emits.new member with early | emitted
      · exact .inl early
      · exact .inr (wrote e emitted).2
    all_goals simp only [effect,update]; split <;> rfl

theorem complete_spec (settled : Settled naming me job a) :
    wp (sys naming) (contract naming) me
      (perform (.complete (completedKey naming job.jobId) (naming.identity job.id) job.totalJobs))
      (fun result w => w.job me = some job ∧ (result = .ok true → Told naming me w)) a := by
  apply wp_history
  intro before relied sound choice after answer _ handled
  have settled := settled_grows settled (fun _ => relied.trace.old) relied.grows relied.job
  have effect_eq : effect naming me (.complete (completedKey naming job.jobId) (naming.identity job.id) job.totalJobs)
      choice before = (count me (completedKey naming job.jobId) (naming.identity job.id) job.totalJobs before,
        .ok (complete (before.completed (completedKey naming job.jobId)) (naming.identity job.id) job.totalJobs).2) :=
        rfl
  refine ⟨?_,(congrFun (handle_job handled) me).trans settled.handles,?_⟩
  · rcases handle_world handled with rfl | rfl
    · exact sound
    · rw [effect_eq]; exact sound_count sound settled
  · rintro rfl other handles
    obtain ⟨rfl,returned⟩ := Prod.mk.inj ((handle_ok handled).symm.trans effect_eq)
    have same : other = job := Option.some.inj (handles.symm.trans settled.handles)
    subst same
    refine ⟨(before.completed (completedKey naming other.jobId)).generation,List.mem_append_left _ ?_⟩
    rw [if_pos (Except.ok.inj returned).symm]
    exact List.mem_singleton_self _

theorem harmless_aside {R : Type} {p : Bulk R} (only : Only (aside · = true) p) :
    Harmless (sys naming) (contract naming) me p := by
  have nothing : Stays naming me fun _ => True := ⟨fun _ _ => trivial,fun _ _ _ => trivial⟩
  exact fun _ => aside_only nothing only trivial

theorem completeBulkRow_spec (settled : Settled naming me job a) :
    wp (sys naming) (contract naming) me (completeBulkRow naming job) (fun _ _ => True) a := by
  simp only [completeBulkRow,completedRow,wp_bind]
  split
  · trivial
  refine wp_mono ?_ (complete_spec settled)
  rintro (error | last) w ⟨-,told⟩
  · trivial
  cases last with
  | false => trivial
  | true =>
  simp only [↓reduceIte,wp_bind]
  refine wp_mono ?_ (aside_call told_stays rfl (told rfl))
  rintro (error | errorCount) w told
  · trivial
  refine wp_mono ?_ (updateFileUploadDetails_spec told)
  rintro (error | ⟨⟩) w told
  · trivial
  dsimp only
  split
  · exact harmless_aside ((only_call _).mpr rfl) w
  · trivial

theorem issueCredential_spec (working : Working me job a) :
    wp (sys naming) (contract naming) me (issueCredential naming job) (fun _ _ => True) a := by
  refine wp_then (wp_caught ?_ fun error => ?_) fun succeeded => ?_
  · rw [wp_bind]
    refine wp_mono ?_ (guardedBulkRow_spec working)
    rintro (error | succeeded) w ⟨-,settled⟩
    · trivial
    · exact wp_then (completeBulkRow_spec (settled ⟨succeeded,rfl⟩)) fun _ => harmless_ret succeeded
  · -- Whatever was thrown, interrupting the file leaves batches alone.
    exact harmless_bind (harmless_tryCatch (harmless_bind (harmless_aside ((only_call _).mpr rfl))
      fun _ => harmless_ret ()) fun _ => harmless_ret ()) fun _ => harmless_fail error
  · split
    · exact harmless_fail _
    · exact harmless_ret ()

/-- The process is a request that has launched nothing yet. -/
structure Requesting (me : Nat) (w : World) : Prop where
  noJob : w.job me = none
  fresh : ∀ jobs, .launched me jobs ∉ w.trace
theorem requesting_stays : Stays naming me (Requesting me) where
  stable requesting relied :=
    ⟨relied.job.trans requesting.noJob,fun jobs => fresh_stable rfl (requesting.fresh jobs) relied⟩
  kept off requesting handled :=
    ⟨(congrFun (handle_job handled) me).trans requesting.noJob,fun jobs =>
      fresh_aside rfl (requesting.fresh jobs) off handled⟩

variable {orgId : String}
theorem isBatch_jobsFor {isRetry : Bool} {rows : List FileData} (distinct : (rows.map (·.id)).Nodup) :
    IsBatch naming me (jobsFor naming me orgId isRetry rows) := by
  refine ⟨?_,?_,?_⟩
  · intro job member
    obtain ⟨row,-,rfl⟩ := List.mem_map.mp member
    rfl
  · intro job member
    obtain ⟨row,-,rfl⟩ := List.mem_map.mp member
    simp [jobsFor]
  · have ids : ((jobsFor naming me orgId isRetry rows).map fun job => naming.identity job.id) =
        (rows.map (·.id)).map fun u => naming.identity (naming.text u) := by simp [jobsFor]
    rw [ids]
    exact distinct.map fun u v same => naming.identity_text same

theorem rowsOf_distinct (sound : Sound naming a) (file : Uuid) : ((a.tables.rowsOf file).map (·.id)).Nodup :=
  sound.ids.sublist (List.filter_sublist.map _)

theorem launch_spec {isRetry : Bool} {rows : List FileData} (distinct : (rows.map (·.id)).Nodup)
    (requesting : Requesting me a) :
    wp (sys naming) (contract naming) me (perform (.launch (jobsFor naming me orgId isRetry rows)))
      (fun _ w => Told naming me w) a := by
  apply wp_history
  intro before relied sound choice after answer _ handled
  have now := (@requesting_stays naming me).stable requesting relied
  have launched : after = { before with
      chains := before.chains ++ [jobsFor naming me orgId isRetry rows]
      trace := .launched me (jobsFor naming me orgId isRetry rows) :: before.trace } := by
    rcases handle_cases handled with done | ⟨sync,-⟩
    · exact congrArg Prod.fst done
    · cases sync
  subst launched
  refine ⟨sound_launch sound now.fresh (isBatch_jobsFor distinct),fun job handles => ?_⟩
  cases now.noJob.symm.trans handles

theorem told_of_noJob (noJob : a.job me = none) : Told naming me a := by
  intro job handles
  cases noJob.symm.trans handles

theorem storeAndLaunch_spec {file : Uuid} {count : Nat} (requesting : Requesting me a) :
    wp (sys naming) (contract naming) me (storeAndLaunch naming me file orgId count)
    (fun _ w => Told naming me w) a := by
  simp only [storeAndLaunch,wp_bind]
  refine wp_mono ?_ (aside_only requesting_stays (storeBulkPayload_only (by rfl) count) requesting)
  rintro (error | ⟨⟩) w requesting
  · exact told_of_noJob requesting.noJob
  refine wp_mono ?_ (aside_spec requesting_stays (fun result _ => ∀ rows, result = .ok rows → (rows.map (·.id)).Nodup)
    rfl requesting ?_)
  · rintro (error | rows) w ⟨requesting,distinct⟩
    · exact told_of_noJob requesting.noJob
    · exact launch_spec (distinct rows rfl) requesting
  · rintro before choice after answer sound - handled rows rfl
    obtain ⟨answered,rfl⟩ := query_ok (handle_ok handled)
    obtain ⟨u,-,rfl⟩ := Option.map_eq_some_iff.mp answered
    exact rowsOf_distinct sound u

theorem issueBulkCredential_spec {count : Nat} (requesting : Requesting me a) :
    wp (sys naming) (contract naming) me (issueBulkCredential naming me orgId count) (fun _ _ => True) a := by
  simp only [issueBulkCredential]
  rw [wp_bind]
  refine wp_mono ?_ (aside_call requesting_stays rfl requesting)
  rintro (error | ⟨⟩) w requesting
  · trivial
  dsimp only
  rw [wp_bind]
  refine wp_mono ?_ (aside_call requesting_stays rfl requesting)
  rintro (error | file) w requesting
  · trivial
  -- However the storing ends, the process is no worker when it writes the status again.
  refine wp_finally (storeAndLaunch_spec requesting) fun result w told => ?_
  exact wp_mono (fun _ _ _ => trivial) (updateFileUploadDetails_spec told)

theorem retryBulkCredential_spec {fileId orgId : String} (requesting : Requesting me a) :
    wp (sys naming) (contract naming) me (retryBulkCredential naming me fileId orgId) (fun _ _ => True) a := by
  simp only [retryBulkCredential]
  rw [wp_bind]
  refine wp_mono ?_ (aside_call requesting_stays rfl requesting)
  rintro (error | fileDetails) w requesting
  · trivial
  dsimp only
  split
  · trivial
  rw [wp_bind]
  refine wp_mono ?_ (aside_spec requesting_stays (fun result _ => ∀ rows, result = .ok rows → (rows.map (·.id)).Nodup)
    rfl requesting ?_)
  · rintro (error | rows) w ⟨requesting,distinct⟩
    · trivial
    dsimp only
    split
    · trivial
    rw [wp_bind]
    refine wp_mono ?_ (aside_only requesting_stays (assertRetryable_only (by intro; rfl) _) requesting)
    rintro (error | ⟨⟩) w requesting
    · trivial
    · exact wp_mono (fun _ _ _ => trivial) (launch_spec (distinct rows rfl) requesting)
  · rintro before choice after answer sound - handled rows rfl
    obtain ⟨answered,rfl⟩ := query_ok (handle_ok handled)
    obtain ⟨u,-,rfl⟩ := Option.map_eq_some_iff.mp answered
    exact (rowsOf_distinct sound u).sublist (List.filter_sublist.map _)

theorem processInBatches_spec {batches : List (List Job)} (queued : ∀ batch ∈ batches, ∀ job ∈ batch, Queued a job) :
    wp (sys naming) (contract naming) me (processInBatches batches) (fun _ _ => True) a := by
  induction batches generalizing a with
  | nil => trivial
  | cons batch rest ih =>
    simp only [processInBatches,wp_bind]
    apply wp_history
    intro before relied sound choice after answer _ handled
    have now : ∀ js ∈ batch :: rest, ∀ job ∈ js, Queued before job :=
      fun js member job inside => queued_grows (queued js member job inside) fun _ => relied.trace.old
    have later : ∀ js ∈ rest, ∀ job ∈ js, Queued after job := fun js member job inside =>
      queued_grows (now js (List.mem_cons_of_mem _ member) job inside) (handle_more handled)
    refine ⟨?_,?_⟩
    · rcases handle_world handled with rfl | rfl
      · exact sound
      · exact sound_enqueue sound (now batch List.mem_cons_self)
    · cases answer with
      | error error => trivial
      | ok value => exact ih later

theorem sound_arrive {input : Input} (sound : Sound naming a) (idle : Idle me a) (arrived : arrive me input a = some b) :
    Sound naming b := by
  obtain ⟨tables,-,completed,-,-,trace,queue,others⟩ := arrive_same arrived
  have chains : ∀ jobs ∈ b.chains, jobs ∈ a.chains := by
    cases input with
    | chain jobs =>
      simp only [arrive] at arrived
      split at arrived
      · cases arrived; exact fun js member => List.mem_of_mem_erase member
      · cases arrived
    | job job =>
      simp only [arrive] at arrived
      split at arrived
      · cases arrived; exact fun _ => id
      · cases arrived
    | issue orgId count => cases arrived; exact fun _ => id
    | retry fileId orgId => cases arrived; exact fun _ => id
  have mine : ∀ job, b.job me = some job → Queued a job := by
    cases input with
    | job job' =>
      simp only [arrive] at arrived
      split at arrived
      · rename_i member
        cases arrived
        intro job handles
        simp only [Function.update_self,Option.some.injEq] at handles
        exact handles ▸ sound.queued job' member
      · cases arrived
    | chain jobs =>
      simp only [arrive] at arrived
      split at arrived
      · cases arrived; exact sound.handled me
      · cases arrived
    | issue orgId count => cases arrived; exact sound.handled me
    | retry fileId orgId => cases arrived; exact sound.handled me
  have more : ∀ e ∈ a.trace, e ∈ b.trace := by rw [trace]; exact fun _ => id
  refine ⟨by rw [tables]; exact sound.ids,?_,?_,?_,?_,?_,?_,?_,?_,?_,?_⟩
  · intro e member
    rw [trace] at member
    exact eventSound_grows (sound.events e member) more (tables ▸ Tables.Grows.refl _)
      (others _ (idle.trace e member))
  · rw [trace]; exact sound.launchedOnce
  · rw [trace]; exact sound.settledOnce
  · rw [trace]; exact sound.announcedOnce
  · rw [trace]; exact fun jobs member => sound.chained jobs (chains jobs member)
  · exact fun job member => queued_grows (sound.queued job (queue ▸ member)) more
  · intro p job handles
    by_cases same : p = me
    · subst same; exact queued_grows (mine job handles) more
    · exact queued_grows (sound.handled p job (others p same ▸ handles)) more
  · rw [completed]; exact sound.distinct
  · rw [completed,trace]; exact sound.members
  · rw [completed,trace]; exact sound.lifetimes

/-- Every command of every worker keeps the counts and announcements sound. -/
theorem keeps : Keeps (sys naming) (contract naming) (fun _ _ _ => True) := by
  refine historyKeeps ?_ ?_
  · intro me input a b sound idle arrived
    have trace := (arrive_same arrived).2.2.2.2.2.1
    refine ⟨sound_arrive sound idle arrived,?_⟩
    have fresh : ∀ e ∈ b.trace, process e ≠ me := by rw [trace]; exact idle.trace
    cases input with
    | job job =>
      simp only [arrive] at arrived
      split at arrived
      · cases arrived
        exact issueCredential_spec ⟨by simp,fun r member => fresh _ member rfl⟩
      · cases arrived
    | issue orgId count =>
      cases arrived
      exact issueBulkCredential_spec ⟨idle.job,fun jobs member => fresh _ member rfl⟩
    | retry fileId orgId =>
      cases arrived
      exact retryBulkCredential_spec ⟨idle.job,fun jobs member => fresh _ member rfl⟩
    | chain jobs =>
      simp only [arrive] at arrived
      split at arrived
      · rename_i member
        cases arrived
        refine processInBatches_spec fun batch inside job listed => ?_
        obtain ⟨p,launched⟩ := sound.chained jobs member
        exact ⟨p,jobs,launched,mem_batchesOf inside job listed⟩
      · cases arrived
  · intro event a b sound happened moved
    cases event with
    | clearGuard key =>
      cases moved
      exact sound_plain sound (Tables.Grows.refl _) Extends.refl (fun _ => .inl) rfl rfl rfl rfl
    | expire key =>
      simp only [environment] at moved
      split at moved
      · cases moved; exact sound_expire sound
      · cases moved
    | lateRow row file =>
      obtain ⟨tables,saved,rfl⟩ := Option.map_eq_some_iff.mp moved
      exact sound_plain sound (Tables.saveFileDetails_grows saved) Extends.refl (fun _ => .inl) rfl rfl rfl rfl
    | enqueue job => cases happened

theorem sound_empty : Sound naming World.empty where
  ids := List.nodup_nil
  events _ member := by cases member
  launchedOnce _ _ _ first := by cases first
  settledOnce _ _ _ first := by cases first
  announcedOnce := List.nodup_nil
  chained _ member := by cases member
  queued _ member := by cases member
  handled _ _ handles := by cases handles
  distinct _ := List.nodup_nil
  members _ _ := Iff.rfl
  lifetimes _ _ _ _ member := by cases member

/-- Every state is sound as long as only the code enqueues jobs. -/
theorem reachable_sound {actions : List (Action Choice Input Env)} {m : Machine Cmd Ret Failure Unit World}
    (own : ∀ job, .environment (.enqueue job) ∉ actions)
    (reached : run (step (sys naming)) (Machine.initial World.empty) actions = some m) : Sound naming m.world := by
  refine (run_safe keeps (safe_initial sound_empty fun _ => ⟨by rintro _ ⟨⟩,rfl⟩) ?_ reached).inv
  apply along_of_forall
  intro m a member
  cases a with
  | start process input => trivial
  | advance process choice => exact fun _ _ _ => trivial
  | crash process => trivial
  | environment event =>
    cases event with
    | enqueue job => exact absurd member (own job)
    | _ => trivial

theorem wrote_settled (sound : Sound naming a) {p file : Nat} {status : FileUploadStatus} {issued : Bool} {failed : Nat}
    (wrote : .wrote p file status issued failed ∈ a.trace) (handles : a.job p = some job) :
    ∃ q jobs, .launched q jobs ∈ a.trace ∧ job ∈ jobs ∧ ∀ other ∈ jobs, ∃ p', Settled naming p' other a := by
  obtain ⟨generation,announced⟩ := sound.events _ wrote job handles
  obtain ⟨q,jobs,launched,key,all⟩ := sound.events _ announced
  have batch : IsBatch naming q jobs := sound.events _ launched
  refine ⟨q,jobs,launched,queued_batch sound (sound.handled p job handles) launched key,fun other member => ?_⟩
  obtain ⟨p',counted⟩ := all other member
  obtain ⟨job',settled,key',row⟩ := sound.events _ counted
  have member' := queued_batch sound (sound.handled p' job' settled.handles) launched (key'.symm.trans key)
  have same : other = job' := List.inj_on_of_nodup_map batch.distinct member member' row
  exact ⟨p',same ▸ settled⟩

/-- In every run in which jobs are queued by this code only: no batch is announced
    twice in a lifetime of its set; a count resolves to true exactly when it
    brings the number of different counted rows to the total; who counted a row
    had it settled and stored, never thrown; and when a worker writes the final
    status, every row of its batch is settled and stored. -/
theorem completion_exact (naming : Naming) {actions : List (Action Choice Input Env)}
    {m : Machine Cmd Ret Failure Unit World} (own : ∀ job, .environment (.enqueue job) ∉ actions)
    (reached : run (step (sys naming)) (Machine.initial World.empty) actions = some m) :
    (announcements m.world.trace).Nodup ∧
    (∀ process choice after batch row total last,
      handle naming process (.complete batch row total) choice m.world = some (after,.ok last) →
        (last = true ↔ row ∉ countedRows m.world.trace batch (m.world.completed batch).generation ∧
          (countedRows after.trace batch (m.world.completed batch).generation).toFinset.card = total) ∧
        (last = true →
          announcements after.trace = (batch,(m.world.completed batch).generation) :: announcements m.world.trace)) ∧
    (∀ process batch generation row, .counted process batch generation row ∈ m.world.trace →
      .settled process none ∉ m.world.trace ∧ ∃ job, Settled naming process job m.world ∧
        batch = completedKey naming job.jobId ∧ row = naming.identity job.id) ∧
    ∀ process file status issued failed job, .wrote process file status issued failed ∈ m.world.trace →
      m.world.job process = some job → ∃ request jobs, .launched request jobs ∈ m.world.trace ∧ job ∈ jobs ∧
        ∀ other ∈ jobs, ∃ worker, Settled naming worker other m.world := by
  have sound := reachable_sound own reached
  refine ⟨sound.announcedOnce,?_,?_,fun _ _ _ _ _ _ wrote handles => wrote_settled sound wrote handles⟩
  · intro process choice after batch row total last handled
    obtain ⟨rfl,same⟩ := Prod.mk.inj (handle_ok handled)
    obtain rfl := Except.ok.inj same
    have announced : announcements (count process batch row total m.world).trace = _ := announcements_count
    refine ⟨?_,fun returned => ?_⟩
    · have card : ((countedRows (count process batch row total m.world).trace batch
          (m.world.completed batch).generation).toFinset).card =
          (complete (m.world.completed batch) row total).1.members.length := by
        rw [← List.toFinset_card_of_nodup (complete_distinct (sound.distinct batch))]
        congr 1
        ext other
        rw [List.mem_toFinset,List.mem_toFinset,countedRows_count,if_pos ⟨rfl,rfl⟩,List.mem_cons,mem_complete,
          sound.members]
      rw [← sound.members]
      exact complete_returns.trans (and_congr_right fun _ => by rw [← card]; rfl)
    · rw [if_pos returned] at announced
      exact announced
  · intro process batch generation row counted
    obtain ⟨job,settled,keys⟩ := sound.events _ counted
    refine ⟨fun threw => ?_,job,settled,keys⟩
    obtain ⟨-,result,noted,-⟩ := settled
    cases sound.settledOnce process _ _ noted threw

theorem completion_exact_issued :
    ∃ m, run (step (sys Spelling.spelled)) (Machine.initial World.empty) Spelling.oneRow = some m ∧
      .wrote 2 10 .completed true 0 ∈ m.world.trace ∧ (announcements m.world.trace).length = 1 ∧
      (announcements m.world.trace).Nodup := by
  have runs : ((run (step (sys Spelling.spelled)) (Machine.initial World.empty) Spelling.oneRow).map fun m =>
      (m.world.trace.head?,(announcements m.world.trace).length)) =
        some (some (.wrote 2 10 .completed true 0),1) := by decide +kernel
  obtain ⟨m,reached,found⟩ := Option.map_eq_some_iff.mp runs
  obtain ⟨wrote,one⟩ := Prod.mk.inj found
  refine ⟨m,reached,List.mem_of_head? wrote,one,(completion_exact Spelling.spelled ?_ reached).1⟩
  intro job member
  simp [Spelling.oneRow,Spelling.uploads,Spelling.delivers,Spelling.goesOn] at member

end Ngotag.BatchCompletion
