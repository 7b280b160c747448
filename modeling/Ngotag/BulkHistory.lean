import Ngotag.BulkCalls

/-!
What every process can rely on in bulk issuance. The history only grows, a
process alone adds to what it did itself, and rows and files stay: whatever the
others do is within `History`. So a statement about whole runs needs an
invariant of the world, and for each function the proof that its own calls keep
it (`wp_history`, `historyKeeps`).
-/
namespace Ngotag.BulkHistory
open Await BulkStore BulkIssuance BulkCalls

/-- The process that an event is of. -/
def process : Event → Nat
  | .dispatched p _ => p
  | .settled p _ => p
  | .recorded p _ _ => p
  | .counted p _ _ _ => p
  | .announced p _ _ => p
  | .wrote p _ _ _ _ => p
  | .interrupted p _ => p
  | .launched p _ => p

/-- The events a command can leave, up to whose they are. -/
def Emits (naming : Naming) : Cmd → Event → Prop
  | .updateFileUploadData jobId _ isError,.recorded _ row failed => naming.uuid jobId = some row ∧ failed = isError
  | .updateFileUploadDetails fileId status,.wrote _ file written _ _ => naming.uuid fileId = some file ∧ written = status
  | .interruptFileUpload fileId _,.interrupted _ file => naming.uuid fileId = some file
  | .complete key row _,.counted _ batch _ counted => batch = key ∧ counted = row
  | .complete key _ _,.announced _ batch _ => batch = key
  | .startOffer,.dispatched _ _ => True
  | .launch jobs,.launched _ launched => launched = jobs
  | .settleRow result,.settled _ settled => settled = result
  | _,_ => False

/-- The later history extends the earlier one by events of a kind. -/
def Extends (kind : Event → Prop) (a b : List Event) : Prop := ∃ new, b = new ++ a ∧ ∀ e ∈ new, kind e

section
variable {kind weaker : Event → Prop} {a b c : List Event}

theorem Extends.refl : Extends kind a a := ⟨[],rfl,by simp⟩
theorem Extends.trans (first : Extends kind a b) (second : Extends kind b c) : Extends kind a c := by
  obtain ⟨new,rfl,each⟩ := first
  obtain ⟨newer,rfl,each'⟩ := second
  refine ⟨newer ++ new,(List.append_assoc _ _ _).symm,fun e member => ?_⟩
  rcases List.mem_append.mp member with late | early
  · exact each' e late
  · exact each e early
theorem Extends.mono (implies : ∀ e, kind e → weaker e) (extends_ : Extends kind a b) : Extends weaker a b := by
  obtain ⟨new,rfl,each⟩ := extends_
  exact ⟨new,rfl,fun e member => implies e (each e member)⟩
theorem Extends.old {e : Event} (extends_ : Extends kind a b) (member : e ∈ a) : e ∈ b := by
  obtain ⟨new,rfl,-⟩ := extends_
  exact List.mem_append_right _ member
theorem Extends.new {e : Event} (extends_ : Extends kind a b) (member : e ∈ b) : e ∈ a ∨ kind e := by
  obtain ⟨new,rfl,each⟩ := extends_
  rcases List.mem_append.mp member with late | early
  · exact .inr (each e late)
  · exact .inl early
end

section
variable {naming : Naming} {me other : Nat} {c : Cmd} {choice : Choice} {w : World}

/-- A command records only its own kind of events, in the name of its process. -/
theorem effect_emits :
    Extends (fun e => process e = me ∧ Emits naming c e) w.trace (effect naming me c choice w).1.trace := by
  have ofAbout : ∀ (id : String) (event : Uuid → Event),
      (∀ u, naming.uuid id = some u → process (event u) = me ∧ Emits naming c (event u)) →
      Extends (fun e => process e = me ∧ Emits naming c e) w.trace (about naming id event ++ w.trace) := by
    intro id event each
    refine ⟨_,rfl,fun e member => ?_⟩
    obtain ⟨u,read,rfl⟩ := List.mem_map.mp member
    exact each u (Option.mem_toList.mp read)
  cases c with
  | updateFileUploadData jobId fileUpload isError =>
    simp only [effect,update]
    split
    · exact ofAbout _ _ fun u read => ⟨rfl,read,rfl⟩
    · exact Extends.refl
  | updateFileUploadDetails fileId status =>
    simp only [effect,update]
    split
    · exact ofAbout _ _ fun u read => ⟨rfl,read,rfl⟩
    · exact Extends.refl
  | interruptFileUpload fileId orgId =>
    simp only [effect]
    split
    · split
      · exact ofAbout _ _ fun u read => ⟨rfl,read⟩
      · exact Extends.refl
    · exact Extends.refl
  | complete key row total =>
    simp only [effect]
    split
    · refine ⟨[_,_],rfl,?_⟩
      simp [process,Emits]
    · refine ⟨[_],rfl,?_⟩
      simp [process,Emits]
  | startOffer =>
    simp only [effect]
    split
    · exact ⟨[_],rfl,by simp [process,Emits]⟩
    · exact Extends.refl
  | launch jobs => exact ⟨[_],rfl,by simp [process,Emits]⟩
  | settleRow result => exact ⟨[_],rfl,by simp [process,Emits]⟩
  | deleteFileDataByJobId jobId => simp only [effect,update]; split <;> exact Extends.refl
  | saveFileDetails file => simp only [effect,update]; split <;> exact Extends.refl
  | saveFileUploadDetails orgId status => simp only [effect]; split <;> exact Extends.refl
  | setNx key => simp only [effect]; split <;> exact Extends.refl
  | releaseRow key => simp only [effect]; split <;> exact Extends.refl
  | _ => exact Extends.refl

def writesFile : Cmd → Bool
  | .updateFileUploadDetails _ _ => true
  | .interruptFileUpload _ _ => true
  | .saveFileUploadDetails _ _ => true
  | _ => false
theorem effect_files (other : writesFile c = false) :
    (effect naming me c choice w).1.tables.files = w.tables.files := by
  cases c with
  | updateFileUploadDetails fileId status => cases other
  | interruptFileUpload fileId orgId => cases other
  | saveFileUploadDetails orgId status => cases other
  | deleteFileDataByJobId jobId =>
    simp only [effect,update]
    split
    · rename_i updated; exact Tables.deleteFileDataByJobId_files naming updated
    · rfl
  | updateFileUploadData jobId fileUpload isError =>
    simp only [effect,update]
    split
    · rename_i updated; exact Tables.updateFileUploadData_files naming updated
    · rfl
  | saveFileDetails file =>
    simp only [effect,update]
    split
    · rename_i saved; exact Tables.saveFileDetails_files saved
    · rfl
  | _ => simp only [effect,query] <;> (try split) <;> rfl
theorem effect_job : (effect naming me c choice w).1.job = w.job := by
  cases c <;> simp only [effect,update,query] <;> (try split) <;> rfl
theorem effect_tally (different : other ≠ me) : (effect naming me c choice w).1.tally other = w.tally other := by
  cases c with
  | countErrorsForFile fileUploadId => simp [effect,query,Function.update_of_ne different]
  | _ => simp only [effect,update,query] <;> (try split) <;> rfl
end

/-- What the steps of others leave of a process. -/
structure History (me : Nat) (a b : World) : Prop where
  trace : Extends (fun e => process e ≠ me) a.trace b.trace
  grows : a.tables.Grows b.tables
  job : b.job me = a.job me
  tally : b.tally me = a.tally me
/-- The process has done nothing yet. -/
structure Idle (me : Nat) (w : World) : Prop where
  trace : ∀ e ∈ w.trace, process e ≠ me
  job : w.job me = none

section
variable {naming : Naming} {me other : Nat} {a b c : World}

theorem History.refl : History me a a := ⟨Extends.refl,Tables.Grows.refl _,rfl,rfl⟩
theorem History.trans (first : History me a b) (second : History me b c) : History me a c :=
  ⟨first.trace.trans second.trace,first.grows.trans second.grows,second.job.trans first.job,
    second.tally.trans first.tally⟩
theorem idle_stable (idle : Idle me a) (relied : History me a b) : Idle me b := by
  refine ⟨fun e member => ?_,relied.job.trans idle.job⟩
  rcases relied.trace.new member with early | foreign
  · exact idle.trace e early
  · exact foreign

section

variable {command : Cmd} {choice : Choice} {answer : Except Failure (Ret command)}
  (handled : handle naming me command choice a = some (b,answer))
include handled
theorem handle_history (different : other ≠ me) : History other a b := by
  rcases handle_world handled with rfl | rfl
  · exact History.refl
  · refine ⟨effect_emits.mono ?_,effect_grows,congrFun effect_job other,effect_tally different⟩
    rintro e ⟨rfl,-⟩
    exact different.symm
theorem handle_job : b.job = a.job := by
  rcases handle_world handled with rfl | rfl
  · rfl
  · exact effect_job
theorem handle_more : ∀ e ∈ a.trace, e ∈ b.trace := by
  rcases handle_world handled with rfl | rfl
  · exact fun _ => id
  · exact fun _ => effect_emits.old
theorem handle_grows : a.tables.Grows b.tables := by
  rcases handle_world handled with rfl | rfl
  · exact Tables.Grows.refl _
  · exact effect_grows
end

theorem arrive_same {input : Input} (arrived : arrive me input a = some b) :
    b.tables = a.tables ∧ b.guard = a.guard ∧ b.completed = a.completed ∧ b.context = a.context ∧
      b.tally = a.tally ∧ b.trace = a.trace ∧ b.queue = a.queue ∧ (∀ other, other ≠ me → b.job other = a.job other) := by
  cases input with
  | job job =>
    simp only [arrive] at arrived
    split at arrived
    · cases arrived
      exact ⟨rfl,rfl,rfl,rfl,rfl,rfl,rfl,fun other different => by simp [Function.update_of_ne different]⟩
    · cases arrived
  | chain jobs =>
    simp only [arrive] at arrived
    split at arrived
    · cases arrived
      exact ⟨rfl,rfl,rfl,rfl,rfl,rfl,rfl,fun _ _ => rfl⟩
    · cases arrived
  | issue orgId count => cases arrived; exact ⟨rfl,rfl,rfl,rfl,rfl,rfl,rfl,fun _ _ => rfl⟩
  | retry fileId orgId => cases arrived; exact ⟨rfl,rfl,rfl,rfl,rfl,rfl,rfl,fun _ _ => rfl⟩

theorem arrive_history {input : Input} (arrived : arrive me input a = some b) (different : other ≠ me) :
    History other a b := by
  obtain ⟨tables,-,-,-,tally,trace,-,job⟩ := arrive_same arrived
  exact ⟨trace ▸ Extends.refl,tables ▸ Tables.Grows.refl _,job other different,by rw [tally]⟩

theorem environment_history {event : Env} (moved : environment event a = some b) : History other a b := by
  cases event with
  | clearGuard key => cases moved; exact ⟨Extends.refl,Tables.Grows.refl _,rfl,rfl⟩
  | expire key =>
    simp only [environment] at moved
    split at moved
    · cases moved; exact ⟨Extends.refl,Tables.Grows.refl _,rfl,rfl⟩
    · cases moved
  | lateRow row file =>
    obtain ⟨tables,saved,rfl⟩ := Option.map_eq_some_iff.mp moved
    exact ⟨Extends.refl,Tables.saveFileDetails_grows saved,rfl,rfl⟩
  | enqueue job => cases moved; exact ⟨Extends.refl,Tables.Grows.refl _,rfl,rfl⟩
end

/-- The contract of an invariant under what all processes rely on anyway. -/
def historyContract (inv : World → Prop) (allowed : Nat → Cmd → Choice → World → Prop) (happens : Env → World → Prop) :
    Contract Cmd World Choice Env where
  inv := inv
  rely := History
  idle := Idle
  allowed := allowed
  happens := happens

variable {naming : Naming} {inv : World → Prop} {allowed : Nat → Cmd → Choice → World → Prop}
  {happens : Env → World → Prop} {me : Nat}
/-- A command is judged over every world that others may have left meanwhile. -/
theorem wp_history {c : Cmd} {wanted : Except Failure (Ret c) → World → Prop} {w : World}
    (carried : ∀ before, History me w before → inv before → ∀ choice after answer, allowed me c choice before →
      handle naming me c choice before = some (after,answer) → inv after ∧ wanted answer after) :
    wp (sys naming) (historyContract inv allowed happens) me (perform c) wanted w := by
  apply wp_perform
  intro before relied holds choice after answer allows handled
  obtain ⟨keeping,ends⟩ := carried before relied holds choice after answer allows handled
  exact ⟨keeping,fun other different => handle_history handled different,ends⟩
theorem wp_historyEach {condition : Cmd → Prop} {holds : World → Prop}
    (stable : ∀ a b, holds a → History me a b → inv b → holds b)
    (kept : ∀ c, condition c → ∀ before choice after (answer : Except Failure (Ret c)), inv before → holds before →
      allowed me c choice before → handle naming me c choice before = some (after,answer) → inv after ∧ holds after)
    {R : Type} {p : Bulk R} (only : Only condition p) {w : World} (now : holds w) :
    wp (sys naming) (historyContract inv allowed happens) me p (fun _ w => holds w) w := by
  refine wp_each stable ?_ only now
  intro c meets before choice after answer holding held allows handled
  obtain ⟨keeping,later⟩ := kept c meets before choice after answer holding held allows handled
  exact ⟨keeping,fun other different => handle_history handled different,later⟩

/-- A process with a job asks for what a worker does; any other has none. -/
def Role (naming : Naming) (me : Nat) (c : Cmd) (w : World) : Prop :=
  (∃ job, w.job me = some job ∧ WorkerCall naming job c) ∨ w.job me = none

/-- A contract over the history is kept once its inputs and events keep the invariant. -/
theorem historyKeeps (starts : ∀ me input a b, inv a → Idle me a → arrive me input a = some b →
      inv b ∧ wp (sys naming) (historyContract inv allowed happens) me (program naming me input) (fun _ _ => True) b)
    (moves : ∀ event a b, inv a → happens event a → environment event a = some b → inv b) :
    Keeps (sys naming) (historyContract inv allowed happens) (fun _ _ _ => True) where
  reflexive _ _ := History.refl
  transitive _ _ _ _ := History.trans
  stable _ _ _ _ _ _ _ := trivial
  idles _ _ _ idle relied _ := idle_stable idle relied
  arrives me input a b holds idle arrived := by
    obtain ⟨keeping,safe⟩ := starts me input a b holds idle arrived
    exact ⟨keeping,fun other different => arrive_history arrived different,safe⟩
  moves event a b holds happened moved := ⟨moves event a b holds happened moved,fun _ => environment_history moved⟩

section

variable (kept : ∀ c before choice after (answer : Except Failure (Ret c)), inv before → Role naming me c before →
  allowed me c choice before → handle naming me c choice before = some (after,answer) → inv after)
include kept
theorem wp_worker {job : Job} {w : World}
    {R : Type} {p : Bulk R} (calls : Only (WorkerCall naming job) p) (handles : w.job me = some job) :
    wp (sys naming) (historyContract inv allowed happens) me p (fun _ w => w.job me = some job) w := by
  refine wp_historyEach (fun _ _ handles relied _ => relied.job.trans handles) ?_ calls handles
  intro c call before choice after answer holds handles allows handled
  exact ⟨kept c before choice after answer holds (.inl ⟨job,handles,call⟩) allows handled,
    (congrFun (handle_job handled) me).trans handles⟩
theorem wp_request {w : World} {input : Input} (notJob : ∀ job, input ≠ .job job) (noJob : w.job me = none) :
    wp (sys naming) (historyContract inv allowed happens) me (program naming me input)
      (fun _ w => w.job me = none) w := by
  refine wp_historyEach (fun _ _ noJob relied _ => relied.job.trans noJob) ?_ (program_requests notJob) noJob
  intro c _ before choice after answer holds noJob allows handled
  exact ⟨kept c before choice after answer holds (.inr noJob) allows handled,
    (congrFun (handle_job handled) me).trans noJob⟩

end

/-- An invariant that every command of a worker or a request keeps holds in every run. -/
theorem roleKeeps
    (kept : ∀ me c before choice after (answer : Except Failure (Ret c)), inv before → Role naming me c before →
      allowed me c choice before → handle naming me c choice before = some (after,answer) → inv after)
    (starts : ∀ me input a b, inv a → Idle me a → arrive me input a = some b → inv b)
    (moves : ∀ event a b, inv a → happens event a → environment event a = some b → inv b) :
    Keeps (sys naming) (historyContract inv allowed happens) (fun _ _ _ => True) := by
  refine historyKeeps ?_ moves
  intro me input a b holds idle arrived
  refine ⟨starts me input a b holds idle arrived,?_⟩
  cases input with
  | job job =>
    simp only [arrive] at arrived
    split at arrived
    · cases arrived
      exact wp_mono (fun _ _ _ => trivial) (wp_worker (kept me) issueCredential_calls (by simp))
    · cases arrived
  | issue orgId count =>
    cases arrived
    exact wp_mono (fun _ _ _ => trivial) (wp_request (kept me) (by rintro _ ⟨⟩) idle.job)
  | retry fileId orgId =>
    cases arrived
    exact wp_mono (fun _ _ _ => trivial) (wp_request (kept me) (by rintro _ ⟨⟩) idle.job)
  | chain jobs =>
    simp only [arrive] at arrived
    split at arrived
    · cases arrived
      exact wp_mono (fun _ _ _ => trivial) (wp_request (kept me) (by rintro _ ⟨⟩) idle.job)
    · cases arrived

end Ngotag.BulkHistory
