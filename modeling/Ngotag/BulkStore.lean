import Ngotag.Json
import Mathlib.Data.List.Nodup

/-!
The stores of bulk issuance: the tables `file_upload` and `file_data` with the
queries of the issuance repository, and the keys and scripts under which the
coordinator keeps row guards and completed rows in Redis.
-/
namespace Ngotag.BulkStore
open Json

abbrev Uuid := Nat

/-- How ids are spelled. `identity` is `value.trim().toLowerCase()`; `uuid` is
    how the database reads an id of a query, `text` how it spells a stored one;
    `digest` is SHA-256 in hexadecimal. The database reads spellings that agree
    up to blanks around them and letter case as the same id and no empty text as
    an id, and no two texts are taken to have the same digest. -/
structure Naming where
  identity : String → String
  uuid : String → Option Uuid
  text : Uuid → String
  digest : String → String
  uuid_text : ∀ u, uuid (text u) = some u
  uuid_empty : uuid "" = none
  uuid_identity : ∀ a b u v, uuid a = some u → uuid b = some v → identity a = identity b → u = v
  digest_injective : Function.Injective digest

theorem Naming.identity_text (naming : Naming) {u v : Uuid}
    (same : naming.identity (naming.text u) = naming.identity (naming.text v)) : u = v :=
  naming.uuid_identity _ _ u v (naming.uuid_text u) (naming.uuid_text v) same
/-- `queue.toKey(name)` -/
def toKey (name : String) : String := "bull:bulk-issuance:" ++ name
def rowKey (naming : Naming) (orgId fileId rowId : String) : String :=
  toKey ("issuance-row-v1-" ++ naming.digest (stringify ([orgId,fileId,rowId].map naming.identity)))
def completedKey (naming : Naming) (batchId : String) : String :=
  toKey ("issuance-completed-v1-" ++ naming.identity batchId)
theorem toKey_injective : Function.Injective toKey := by
  intro a b same
  exact (String.append_right_inj _).mp same
/-- A row guard belongs to one triple of ids, up to blanks and letter case. -/
theorem rowKey_inj {naming : Naming} {org file row org' file' row' : String}
    (same : rowKey naming org file row = rowKey naming org' file' row') :
    naming.identity org = naming.identity org' ∧ naming.identity file = naming.identity file' ∧
      naming.identity row = naming.identity row' := by
  have digests : naming.digest (stringify ([org,file,row].map naming.identity)) =
      naming.digest (stringify ([org',file',row'].map naming.identity)) :=
    (String.append_right_inj _).mp (toKey_injective same)
  have lists := stringify_injective (naming.digest_injective digests)
  simpa using lists
theorem completedKey_text_inj {naming : Naming} {u v : Uuid}
    (same : completedKey naming (naming.text u) = completedKey naming (naming.text v)) : u = v := by
  have names : naming.identity (naming.text u) = naming.identity (naming.text v) :=
    (String.append_right_inj _).mp (toKey_injective same)
  exact naming.identity_text names

inductive FileUploadStatus where
  | started
  | completed
  | interrupted
  | retry
  | partially_completed
  deriving DecidableEq
structure FileUpload where
  id : Uuid
  orgId : Uuid
  status : FileUploadStatus
  deriving DecidableEq
/-- `file_data`: `status` is set once the row's credential is issued. -/
structure FileData where
  id : Uuid
  fileUploadId : Uuid
  status : Bool
  isError : Bool
  deriving DecidableEq
/-- What a queued job carries of `IQueuePayload` that row processing reads. -/
structure Job where
  id : String
  jobId : String
  fileUploadId : String
  orgId : String
  totalJobs : Nat
  isRetry : Bool
  deriving DecidableEq
structure Tables where
  files : List FileUpload
  rows : List FileData
  deriving DecidableEq

/-! ### The issuance repository

A query whose ids the database cannot read, or an update of a row that is not
there, rejects: `none`. -/

namespace Tables
variable (naming : Naming)

def owns (t : Tables) (file org : Uuid) : Bool := t.files.any fun f => f.id == file && f.orgId == org
/-- The `status` of the row, when it belongs to the file and the file to the
    organization. -/
def getFileDataForProcessing (t : Tables) (id fileUploadId orgId : String) : Option (Option Bool) :=
  match naming.uuid id,naming.uuid fileUploadId,naming.uuid orgId with
  | some row,some file,some org =>
    some ((t.rows.find? fun r => r.id == row && r.fileUploadId == file && t.owns file org).map (·.status))
  | _,_,_ => none

/-- `update({ where: { id } })` on `file_data`. -/
def updateRow (t : Tables) (row : Uuid) (change : FileData → FileData) : Option Tables :=
  if t.rows.any (·.id == row) then
    some { t with rows := t.rows.map fun r => if r.id = row then change r else r }
  else none
/-- `update({ where: { id } })` on `file_upload`. -/
def updateFile (t : Tables) (file : Uuid) (change : FileUpload → FileUpload) : Option Tables :=
  if t.files.any (·.id == file) then
    some { t with files := t.files.map fun f => if f.id = file then change f else f }
  else none
def deleteFileDataByJobId (t : Tables) (jobId : String) : Option Tables :=
  if jobId = "" then some t
  else (naming.uuid jobId).bind fun row => t.updateRow row fun r => { r with status := true }
def updateFileUploadData (t : Tables) (jobId fileUpload : String) (isError : Bool) : Option Tables :=
  if jobId = "" then none
  else (naming.uuid jobId).bind fun row => (naming.uuid fileUpload).bind fun file =>
    t.updateRow row fun r => { r with isError := isError, fileUploadId := file }
def updateFileUploadDetails (t : Tables) (fileId : String) (status : FileUploadStatus) : Option Tables :=
  (naming.uuid fileId).bind fun file => t.updateFile file fun f => { f with status := status }

/-- The statuses from which a file can be interrupted. -/
def interruptible (status : FileUploadStatus) : Bool :=
  match status with
  | .started => true
  | .retry => true
  | _ => false
/-- Also says whether a file was changed. -/
def interruptFileUpload (t : Tables) (fileId orgId : String) : Option (Tables × Bool) :=
  match naming.uuid fileId,naming.uuid orgId with
  | some file,some org =>
    let matching : FileUpload → Bool := fun f => f.id == file && f.orgId == org && interruptible f.status
    some ({ t with files := t.files.map fun f => if matching f then { f with status := .interrupted } else f },
      t.files.any matching)
  | _,_ => none

def failed (r : FileData) : Bool := r.isError || !r.status
def rowsOf (t : Tables) (file : Uuid) : List FileData := t.rows.filter (·.fileUploadId == file)
def getFileDetails (t : Tables) (fileId : String) : Option (List FileData) :=
  (naming.uuid fileId).map t.rowsOf
def getFailedCredentials (t : Tables) (fileId : String) : Option (List FileData) :=
  (naming.uuid fileId).map fun file => (t.rowsOf file).filter failed
def countErrorsForFile (t : Tables) (fileUploadId : String) : Option Nat :=
  (naming.uuid fileUploadId).map fun file => (t.rowsOf file).countP failed
def getFileDetailsById (t : Tables) (fileId : String) : Option (Option FileUpload) :=
  (naming.uuid fileId).map fun file => t.files.find? (·.id == file)
/-- Refused for an id that exists; ids are drawn fresh. -/
def saveFileUploadDetails (t : Tables) (file : Uuid) (orgId : String) (status : FileUploadStatus) : Option Tables :=
  if t.files.any (·.id == file) then none
  else (naming.uuid orgId).map fun org => { t with files := t.files ++ [⟨file,org,status⟩] }
def saveFileDetails (t : Tables) (row file : Uuid) : Option Tables :=
  if t.rows.any (·.id == row) then none
  else if t.files.any (·.id == file) then some { t with rows := t.rows ++ [⟨row,file,false,false⟩] }
  else none

/-- No row or file disappears or changes its id, no row loses its issuance and
    no file its organization. -/
structure Grows (a b : Tables) : Prop where
  rowIds : (a.rows.map (·.id)).Nodup → (b.rows.map (·.id)).Nodup
  fileIds : (a.files.map (·.id)).Nodup → (b.files.map (·.id)).Nodup
  rows : ∀ r ∈ a.rows, ∃ r' ∈ b.rows, r'.id = r.id ∧ (r.status = true → r'.status = true)
  files : ∀ f ∈ a.files, ∃ f' ∈ b.files, f'.id = f.id ∧ f'.orgId = f.orgId

theorem Grows.refl (t : Tables) : Grows t t :=
  ⟨id,id,fun r member => ⟨r,member,rfl,id⟩,fun f member => ⟨f,member,rfl,rfl⟩⟩
theorem Grows.trans {a b c : Tables} (first : Grows a b) (second : Grows b c) : Grows a c := by
  refine ⟨fun distinct => second.rowIds (first.rowIds distinct),fun distinct => second.fileIds (first.fileIds distinct),
    fun r member => ?_,fun f member => ?_⟩
  · obtain ⟨r',member',same,stays⟩ := first.rows r member
    obtain ⟨r'',member'',same',stays'⟩ := second.rows r' member'
    exact ⟨r'',member'',same'.trans same,fun was => stays' (stays was)⟩
  · obtain ⟨f',member',same,org⟩ := first.files f member
    obtain ⟨f'',member'',same',org'⟩ := second.files f' member'
    exact ⟨f'',member'',same'.trans same,org'.trans org⟩

variable {t t' : Tables}
theorem updateRow_grows {row : Uuid} {change : FileData → FileData}
    (updated : t.updateRow row change = some t') (sameId : ∀ r, (change r).id = r.id)
    (issuedStays : ∀ r, r.status = true → (change r).status = true) : Grows t t' := by
  unfold updateRow at updated
  split at updated
  · cases updated
    have ids : ∀ r : FileData, (if r.id = row then change r else r).id = r.id := by
      intro r; split
      · exact sameId r
      · rfl
    refine ⟨fun distinct => ?_,id,fun r member => ⟨_,List.mem_map_of_mem member,ids r,?_⟩,
      fun f member => ⟨f,member,rfl,rfl⟩⟩
    · simpa only [List.map_map,Function.comp_def,ids] using distinct
    · intro was; split
      · exact issuedStays r was
      · exact was
  · cases updated

theorem updateFile_grows {file : Uuid} {change : FileUpload → FileUpload}
    (updated : t.updateFile file change = some t') (sameId : ∀ f, (change f).id = f.id)
    (sameOrg : ∀ f, (change f).orgId = f.orgId) : Grows t t' := by
  unfold updateFile at updated
  split at updated
  · cases updated
    have ids : ∀ f : FileUpload, (if f.id = file then change f else f).id = f.id := by
      intro f; split
      · exact sameId f
      · rfl
    refine ⟨id,fun distinct => ?_,fun r member => ⟨r,member,rfl,id⟩,
      fun f member => ⟨_,List.mem_map_of_mem member,ids f,?_⟩⟩
    · simpa only [List.map_map,Function.comp_def,ids] using distinct
    · split
      · exact sameOrg f
      · rfl
  · cases updated

theorem deleteFileDataByJobId_grows {jobId : String}
    (updated : t.deleteFileDataByJobId naming jobId = some t') : Grows t t' := by
  unfold deleteFileDataByJobId at updated
  split at updated
  · cases updated; exact Grows.refl t
  · obtain ⟨row,-,changed⟩ := Option.bind_eq_some_iff.mp updated
    exact updateRow_grows changed (fun _ => rfl) (fun _ _ => rfl)
theorem updateFileUploadData_grows {jobId fileUpload : String} {isError : Bool}
    (updated : t.updateFileUploadData naming jobId fileUpload isError = some t') : Grows t t' := by
  unfold updateFileUploadData at updated
  split at updated
  · cases updated
  · obtain ⟨row,-,inner⟩ := Option.bind_eq_some_iff.mp updated
    obtain ⟨file,-,changed⟩ := Option.bind_eq_some_iff.mp inner
    exact updateRow_grows changed (fun _ => rfl) (fun _ was => was)

variable {status : FileUploadStatus}
theorem updateFileUploadDetails_grows {fileId : String}
    (updated : t.updateFileUploadDetails naming fileId status = some t') : Grows t t' := by
  obtain ⟨file,-,changed⟩ := Option.bind_eq_some_iff.mp updated
  exact updateFile_grows changed (fun _ => rfl) (fun _ => rfl)

theorem interruptFileUpload_grows {fileId orgId : String} {changed : Bool}
    (updated : t.interruptFileUpload naming fileId orgId = some (t',changed)) : Grows t t' := by
  unfold interruptFileUpload at updated
  split at updated
  · obtain ⟨rfl,-⟩ := Prod.mk.inj (Option.some.inj updated)
    refine ⟨id,fun distinct => ?_,fun r member => ⟨r,member,rfl,id⟩,
      fun f member => ⟨_,List.mem_map_of_mem member,?_,?_⟩⟩
    · have ids : ∀ (test : Bool) (f : FileUpload),
          (if test = true then { f with status := .interrupted } else f).id = f.id := by
        intro test f; split <;> rfl
      simpa only [List.map_map,Function.comp_def,ids] using distinct
    · split <;> rfl
    · split <;> rfl
  · cases updated

theorem nodup_added {α : Type} {key : α → Uuid} {rows : List α} {row : α} (distinct : (rows.map key).Nodup)
    (absent : ∀ r ∈ rows, key r ≠ key row) : ((rows ++ [row]).map key).Nodup := by
  rw [List.map_append,List.map_singleton,← List.concat_eq_append]
  refine distinct.concat fun member => ?_
  obtain ⟨r,listed,same⟩ := List.mem_map.mp member
  exact absent r listed same

theorem saveFileUploadDetails_grows {file : Uuid} {orgId : String}
    (saved : t.saveFileUploadDetails naming file orgId status = some t') : Grows t t' := by
  unfold saveFileUploadDetails at saved
  split at saved
  · cases saved
  · rename_i absent
    obtain ⟨org,-,rfl⟩ := Option.map_eq_some_iff.mp saved
    refine ⟨id,fun distinct => ?_,fun r member => ⟨r,member,rfl,id⟩,
      fun f member => ⟨f,List.mem_append_left _ member,rfl,rfl⟩⟩
    simp only [List.any_eq_true,beq_iff_eq,not_exists,not_and] at absent
    exact nodup_added distinct absent

theorem saveFileDetails_grows {row file : Uuid} (saved : t.saveFileDetails row file = some t') :
    Grows t t' := by
  unfold saveFileDetails at saved
  split at saved
  · cases saved
  · rename_i absent
    split at saved
    · cases saved
      refine ⟨fun distinct => ?_,id,fun r member => ⟨r,List.mem_append_left _ member,rfl,id⟩,
        fun f member => ⟨f,member,rfl,rfl⟩⟩
      simp only [List.any_eq_true,beq_iff_eq,not_exists,not_and] at absent
      exact nodup_added distinct absent
    · cases saved

theorem updateFileUploadDetails_some {fileId : String}
    (updated : t.updateFileUploadDetails naming fileId status = some t') :
    ∃ file, naming.uuid fileId = some file ∧ (∃ f ∈ t.files, f.id = file) ∧ t'.rows = t.rows ∧
      t'.files = t.files.map fun f => if f.id = file then { f with status := status } else f := by
  obtain ⟨file,named,changed⟩ := Option.bind_eq_some_iff.mp updated
  unfold updateFile at changed
  split at changed
  · rename_i present
    obtain ⟨f,member,same⟩ := List.any_eq_true.mp present
    cases changed
    exact ⟨file,named,⟨f,member,beq_iff_eq.mp same⟩,rfl,rfl⟩
  · cases changed

/-- The file can be marked as interrupted. -/
def Interruptible (t : Tables) (file org : Uuid) (f : FileUpload) : Prop :=
  f ∈ t.files ∧ f.id = file ∧ f.orgId = org ∧ interruptible f.status = true

theorem interruptFileUpload_some {fileId orgId : String} {changed : Bool}
    (updated : t.interruptFileUpload naming fileId orgId = some (t',changed)) :
    ∃ file org, naming.uuid fileId = some file ∧ naming.uuid orgId = some org ∧ t'.rows = t.rows ∧
      (changed = true ↔ ∃ f, t.Interruptible file org f) ∧
      t'.files = t.files.map fun f =>
        if f.id = file ∧ f.orgId = org ∧
            interruptible f.status = true then { f with status := .interrupted } else f := by
  unfold interruptFileUpload at updated
  split at updated
  · rename_i file org namedFile namedOrg
    obtain ⟨rfl,rfl⟩ := Prod.mk.inj (Option.some.inj updated)
    refine ⟨file,org,namedFile,namedOrg,rfl,?_,?_⟩
    · simp only [List.any_eq_true,Bool.and_eq_true,beq_iff_eq,and_assoc,Interruptible]
    · simp only [Bool.and_eq_true,beq_iff_eq,and_assoc]
  · cases updated

theorem saveFileUploadDetails_some {file : Uuid} {orgId : String}
    (saved : t.saveFileUploadDetails naming file orgId status = some t') :
    (∀ f ∈ t.files, f.id ≠ file) ∧ t'.rows = t.rows ∧ ∃ org, naming.uuid orgId = some org ∧
      t'.files = t.files ++ [⟨file,org,status⟩] := by
  unfold saveFileUploadDetails at saved
  split at saved
  · cases saved
  · rename_i absent
    obtain ⟨org,named,rfl⟩ := Option.map_eq_some_iff.mp saved
    simp only [List.any_eq_true,beq_iff_eq,not_exists,not_and] at absent
    exact ⟨absent,rfl,org,named,rfl⟩

theorem deleteFileDataByJobId_files {jobId : String}
    (updated : t.deleteFileDataByJobId naming jobId = some t') : t'.files = t.files := by
  unfold deleteFileDataByJobId at updated
  split at updated
  · cases updated; rfl
  · obtain ⟨row,-,changed⟩ := Option.bind_eq_some_iff.mp updated
    unfold updateRow at changed
    split at changed <;> cases changed
    rfl
theorem updateFileUploadData_files {jobId fileUpload : String} {isError : Bool}
    (updated : t.updateFileUploadData naming jobId fileUpload isError = some t') : t'.files = t.files := by
  unfold updateFileUploadData at updated
  split at updated
  · cases updated
  · obtain ⟨row,-,inner⟩ := Option.bind_eq_some_iff.mp updated
    obtain ⟨file,-,changed⟩ := Option.bind_eq_some_iff.mp inner
    unfold updateRow at changed
    split at changed <;> cases changed
    rfl
theorem saveFileDetails_files {row file : Uuid} (saved : t.saveFileDetails row file = some t') :
    t'.files = t.files := by
  unfold saveFileDetails at saved
  split at saved
  · cases saved
  · split at saved <;> cases saved
    rfl

/-- The row is stored as issued. -/
def Issued (t : Tables) (row : Uuid) : Prop := ∃ r ∈ t.rows, r.id = row ∧ r.status = true
theorem Issued.grows {row : Uuid} (issued : t.Issued row) (grows : Grows t t') : t'.Issued row := by
  obtain ⟨r,member,sameId,status⟩ := issued
  obtain ⟨r',member',sameId',stays⟩ := grows.rows r member
  exact ⟨r',member',sameId'.trans sameId,stays status⟩

theorem deleteFileDataByJobId_issued {jobId : String} {row : Uuid}
    (named : naming.uuid jobId = some row) (updated : t.deleteFileDataByJobId naming jobId = some t') :
    t'.Issued row := by
  have nonempty : jobId ≠ "" := by rintro rfl; rw [naming.uuid_empty] at named; cases named
  simp only [deleteFileDataByJobId,nonempty,if_false,named,Option.bind_some,updateRow] at updated
  split at updated
  · rename_i present
    obtain ⟨r,member,sameId⟩ := List.any_eq_true.mp present
    cases updated
    refine ⟨{ r with status := true },List.mem_map.mpr ⟨r,member,?_⟩,beq_iff_eq.mp sameId,rfl⟩
    rw [if_pos (beq_iff_eq.mp sameId)]
  · cases updated

theorem getFileDataForProcessing_some {t : Tables} {id fileUploadId orgId : String} {status : Bool}
    (found : t.getFileDataForProcessing naming id fileUploadId orgId = some (some status)) :
    ∃ row file org, naming.uuid id = some row ∧ naming.uuid fileUploadId = some file ∧ naming.uuid orgId = some org ∧
      t.owns file org = true ∧ ∃ r ∈ t.rows, r.id = row ∧ r.fileUploadId = file ∧ r.status = status := by
  unfold getFileDataForProcessing at found
  split at found
  · rename_i row file org namedRow namedFile namedOrg
    obtain ⟨r,matched,same⟩ := Option.map_eq_some_iff.mp (Option.some.inj found)
    have meets := List.find?_some matched
    simp only [Bool.and_eq_true,beq_iff_eq] at meets
    obtain ⟨⟨sameId,sameFile⟩,owned⟩ := meets
    exact ⟨row,file,org,namedRow,namedFile,namedOrg,owned,r,List.mem_of_find?_eq_some matched,sameId,sameFile,same⟩
  · cases found

end Tables

/-- The set of completed rows of a batch. `generation` counts how often the key
    expired before; once complete the key expires. -/
structure Completion where
  members : List String
  generation : Nat
  expiring : Bool
/-- `COMPLETE`: the set after it, and whether it returned 1. -/
def complete (set : Completion) (row : String) (total : Nat) : Completion × Bool :=
  let added := row ∉ set.members
  let members := if added then set.members ++ [row] else set.members
  let count := members.length
  ({ set with members := members, expiring := set.expiring || decide (total ≤ count) },
    decide (added ∧ count = total))

end Ngotag.BulkStore
