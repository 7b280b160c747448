import Ngotag.BulkHistory
import Mathlib.Data.List.Perm.Subperm

/-!
Counting the rows of a batch. The set of completed rows under a batch's key is
the history of the counts in the key's lifetime, each counted row belongs to a
job of the batch whose result is stored, and a batch is announced by the count
that adds its last row. `Sound` says so of a world; the steps that settle, start,
queue and count keep it.
-/
namespace Ngotag.BatchCounting
open BulkStore BulkIssuance BulkHistory

def countedRows (trace : List Event) (batch : String) (generation : Nat) : List String :=
  trace.filterMap fun
    | .counted _ key lifetime row => if key = batch ∧ lifetime = generation then some row else none
    | _ => none
def announcements (trace : List Event) : List (String × Nat) :=
  trace.filterMap fun
    | .announced _ batch generation => some (batch,generation)
    | _ => none
/-- The jobs of one call of `processInBatches`. -/
structure IsBatch (naming : Naming) (me : Nat) (jobs : List Job) : Prop where
  jobId : ∀ job ∈ jobs, job.jobId = naming.text me
  total : ∀ job ∈ jobs, job.totalJobs = jobs.length
  distinct : (jobs.map fun job => naming.identity job.id).Nodup
/-- The result of a row is in the database: an issued row by its status, a failed
    one by the error this worker wrote. -/
def Persisted (naming : Naming) (me : Nat) (job : Job) (result : Bool) (w : World) : Prop :=
  ∃ row, naming.uuid job.id = some row ∧ (result = true → w.tables.Issued row) ∧
    (result = false → .recorded me row true ∈ w.trace)
/-- The row of the job is settled with a result that persists. -/
structure Settled (naming : Naming) (me : Nat) (job : Job) (w : World) : Prop where
  handles : w.job me = some job
  result : ∃ result, .settled me (some result) ∈ w.trace ∧ Persisted naming me job result w
/-- The job is one of those that a chain has launched. -/
def Queued (w : World) (job : Job) : Prop := ∃ p jobs, .launched p jobs ∈ w.trace ∧ job ∈ jobs

/-- What an event of the history told. -/
def EventSound (naming : Naming) (w : World) : Event → Prop
  | .counted p batch _ row => ∃ job, Settled naming p job w ∧ batch = completedKey naming job.jobId ∧
      row = naming.identity job.id
  | .announced _ batch generation => ∃ q jobs, .launched q jobs ∈ w.trace ∧ batch = completedKey naming (naming.text q) ∧
      ∀ job ∈ jobs, ∃ p, .counted p batch generation (naming.identity job.id) ∈ w.trace
  | .wrote p _ _ _ _ => ∀ job, w.job p = some job →
      ∃ generation, .announced p (completedKey naming job.jobId) generation ∈ w.trace
  | .launched p jobs => IsBatch naming p jobs
  | _ => True

/-- What holds of the rows, the counters and the recorded events at any time. -/
structure Sound (naming : Naming) (w : World) : Prop where
  ids : (w.tables.rows.map (·.id)).Nodup
  events : ∀ e ∈ w.trace, EventSound naming w e
  launchedOnce : ∀ p jobs jobs', .launched p jobs ∈ w.trace → .launched p jobs' ∈ w.trace → jobs = jobs'
  settledOnce : ∀ p r r', .settled p r ∈ w.trace → .settled p r' ∈ w.trace → r = r'
  announcedOnce : (announcements w.trace).Nodup
  chained : ∀ jobs ∈ w.chains, ∃ p, .launched p jobs ∈ w.trace
  queued : ∀ job ∈ w.queue, Queued w job
  handled : ∀ p job, w.job p = some job → Queued w job
  distinct : ∀ batch, (w.completed batch).members.Nodup
  members : ∀ batch row, row ∈ (w.completed batch).members ↔
    row ∈ countedRows w.trace batch (w.completed batch).generation
  lifetimes : ∀ p batch generation row, .counted p batch generation row ∈ w.trace →
    generation ≤ (w.completed batch).generation

variable {naming : Naming} {me : Nat} {a b : World} {job : Job}
variable {generation : Nat}
theorem mem_countedRows {trace : List Event} {batch row : String} :
    row ∈ countedRows trace batch generation ↔ ∃ p, .counted p batch generation row ∈ trace := by
  unfold countedRows
  rw [List.mem_filterMap]
  constructor
  · rintro ⟨e,member,found⟩
    split at found
    · split at found
      · rename_i same
        obtain ⟨rfl,rfl⟩ := same
        cases found
        exact ⟨_,member⟩
      · cases found
    · cases found
  · rintro ⟨p,member⟩
    exact ⟨_,member,by simp⟩

theorem mem_announcements {trace : List Event} {batch : String} :
    (batch,generation) ∈ announcements trace ↔ ∃ p, .announced p batch generation ∈ trace := by
  unfold announcements
  rw [List.mem_filterMap]
  constructor
  · rintro ⟨e,member,found⟩
    split at found
    · cases found
      exact ⟨_,member⟩
    · cases found
  · rintro ⟨p,member⟩
    exact ⟨_,member,rfl⟩

theorem persisted_grows {result : Bool} (persisted : Persisted naming me job result a)
    (more : ∀ e ∈ a.trace, e ∈ b.trace) (grows : a.tables.Grows b.tables) : Persisted naming me job result b := by
  obtain ⟨row,named,issued,recorded⟩ := persisted
  exact ⟨row,named,fun so => (issued so).grows grows,fun so => more _ (recorded so)⟩
theorem settled_grows (settled : Settled naming me job a) (more : ∀ e ∈ a.trace, e ∈ b.trace)
    (grows : a.tables.Grows b.tables) (same : b.job me = a.job me) : Settled naming me job b := by
  obtain ⟨handles,result,noted,persisted⟩ := settled
  exact ⟨same.trans handles,result,more _ noted,persisted_grows persisted more grows⟩

theorem eventSound_grows {e : Event} (sound : EventSound naming a e) (more : ∀ e ∈ a.trace, e ∈ b.trace)
    (grows : a.tables.Grows b.tables) (same : b.job (process e) = a.job (process e)) : EventSound naming b e := by
  cases e with
  | counted p batch generation row =>
    obtain ⟨job,settled,keys⟩ := sound
    exact ⟨job,settled_grows settled more grows same,keys⟩
  | announced p batch generation =>
    obtain ⟨q,jobs,launched,key,all⟩ := sound
    refine ⟨q,jobs,more _ launched,key,fun job member => ?_⟩
    obtain ⟨p',counted⟩ := all job member
    exact ⟨p',more _ counted⟩
  | wrote p file status issued failed =>
    intro job handles
    obtain ⟨generation,announced⟩ := sound job (same ▸ handles)
    exact ⟨generation,more _ announced⟩
  | _ => exact sound

theorem queued_grows (queued : Queued a job) (more : ∀ e ∈ a.trace, e ∈ b.trace) : Queued b job := by
  obtain ⟨p,jobs,launched,member⟩ := queued
  exact ⟨p,jobs,more _ launched,member⟩

variable {jobs : List Job}
theorem queued_batch (sound : Sound naming a) (queued : Queued a job) {q : Nat}
    (launched : .launched q jobs ∈ a.trace)
    (same : completedKey naming job.jobId = completedKey naming (naming.text q)) :
    job ∈ jobs := by
  obtain ⟨p,jobs',launched',member⟩ := queued
  have batch : IsBatch naming p jobs' := sound.events _ launched'
  rw [batch.jobId job member] at same
  rw [completedKey_text_inj same] at launched'
  rw [sound.launchedOnce _ _ _ launched launched']
  exact member

/-- The events that neither start nor settle nor count anything. -/
def plain : Event → Bool
  | .dispatched _ _ => true
  | .recorded _ _ _ => true
  | .wrote _ _ _ _ _ => true
  | .interrupted _ _ => true
  | _ => false

theorem countedRows_plain {s t : List Event} (extended : Extends (plain · = true) s t) (batch : String)
    (generation : Nat) : countedRows t batch generation = countedRows s batch generation := by
  obtain ⟨new,rfl,each⟩ := extended
  unfold countedRows
  rw [List.filterMap_append,List.filterMap_eq_nil_iff.mpr,List.nil_append]
  intro e member
  have isPlain := each e member
  cases e <;> first | rfl | cases isPlain
theorem announcements_plain {s t : List Event} (extended : Extends (plain · = true) s t) :
    announcements t = announcements s := by
  obtain ⟨new,rfl,each⟩ := extended
  unfold announcements
  rw [List.filterMap_append,List.filterMap_eq_nil_iff.mpr,List.nil_append]
  intro e member
  have isPlain := each e member
  cases e <;> first | rfl | cases isPlain

theorem sound_plain (sound : Sound naming a) (grows : a.tables.Grows b.tables)
    (extended : Extends (plain · = true) a.trace b.trace) (new : ∀ e ∈ b.trace, e ∈ a.trace ∨ EventSound naming b e)
    (completed : b.completed = a.completed) (chains : b.chains = a.chains) (queue : b.queue = a.queue)
    (jobs : b.job = a.job) : Sound naming b := by
  have more : ∀ e ∈ a.trace, e ∈ b.trace := fun e => extended.old
  have older : ∀ {e : Event}, plain e = false → e ∈ b.trace → e ∈ a.trace := by
    intro e special member
    rcases extended.new member with early | isPlain
    · exact early
    · rw [special] at isPlain; cases isPlain
  refine ⟨grows.rowIds sound.ids,?_,?_,?_,?_,?_,?_,?_,?_,?_,?_⟩
  · intro e member
    rcases new e member with early | holds
    · exact eventSound_grows (sound.events e early) more grows (by rw [jobs])
    · exact holds
  · exact fun p js js' first second => sound.launchedOnce p js js' (older rfl first) (older rfl second)
  · exact fun p r r' first second => sound.settledOnce p r r' (older rfl first) (older rfl second)
  · rw [announcements_plain extended]; exact sound.announcedOnce
  · intro js member
    obtain ⟨p,launched⟩ := sound.chained js (chains ▸ member)
    exact ⟨p,more _ launched⟩
  · exact fun job member => queued_grows (sound.queued job (queue ▸ member)) more
  · exact fun p job handles => queued_grows (sound.handled p job (jobs ▸ handles)) more
  · intro batch; rw [completed]; exact sound.distinct batch
  · intro batch row; rw [completed,countedRows_plain extended]; exact sound.members batch row
  · intro p batch generation row member
    rw [completed]
    exact sound.lifetimes p batch generation row (older rfl member)

theorem sound_settle {result : Option Bool} (sound : Sound naming a) (unsettled : ∀ r, .settled me r ∉ a.trace) :
    Sound naming { a with trace := .settled me result :: a.trace } := by
  have more : ∀ e ∈ a.trace, e ∈ Event.settled me result :: a.trace := fun e => List.mem_cons_of_mem _
  refine ⟨sound.ids,?_,?_,?_,sound.announcedOnce,?_,?_,?_,sound.distinct,sound.members,?_⟩
  · intro e member
    rcases List.mem_cons.mp member with rfl | early
    · trivial
    · exact eventSound_grows (sound.events e early) more (Tables.Grows.refl _) rfl
  · intro p js js' first second
    exact sound.launchedOnce p js js' ((List.mem_cons.mp first).resolve_left nofun)
        ((List.mem_cons.mp second).resolve_left nofun)
  · intro p r r' first second
    rcases List.mem_cons.mp first with here | early <;> rcases List.mem_cons.mp second with here' | early'
    · cases here; cases here'; rfl
    · cases here; exact absurd early' (unsettled r')
    · cases here'; exact absurd early (unsettled r)
    · exact sound.settledOnce p r r' early early'
  · intro js member
    obtain ⟨p,launched⟩ := sound.chained js member
    exact ⟨p,more _ launched⟩
  · exact fun job member => queued_grows (sound.queued job member) more
  · exact fun p job handles => queued_grows (sound.handled p job handles) more
  · exact fun p batch generation row member => sound.lifetimes p batch generation row
      ((List.mem_cons.mp member).resolve_left nofun)

theorem sound_launch (sound : Sound naming a) (fresh : ∀ js, .launched me js ∉ a.trace)
    (batch : IsBatch naming me jobs) :
    Sound naming { a with chains := a.chains ++ [jobs], trace := .launched me jobs :: a.trace } := by
  have more : ∀ e ∈ a.trace, e ∈ Event.launched me jobs :: a.trace := fun e => List.mem_cons_of_mem _
  refine ⟨sound.ids,?_,?_,?_,sound.announcedOnce,?_,?_,?_,sound.distinct,sound.members,?_⟩
  · intro e member
    rcases List.mem_cons.mp member with rfl | early
    · exact batch
    · exact eventSound_grows (sound.events e early) more (Tables.Grows.refl _) rfl
  · intro p js js' first second
    rcases List.mem_cons.mp first with here | early <;> rcases List.mem_cons.mp second with here' | early'
    · cases here; cases here'; rfl
    · cases here; exact absurd early' (fresh js')
    · cases here'; exact absurd early (fresh js)
    · exact sound.launchedOnce p js js' early early'
  · intro p r r' first second
    exact sound.settledOnce p r r' ((List.mem_cons.mp first).resolve_left nofun)
        ((List.mem_cons.mp second).resolve_left nofun)
  · intro js member
    rcases List.mem_append.mp member with early | last
    · obtain ⟨p,launched⟩ := sound.chained js early
      exact ⟨p,more _ launched⟩
    · rw [List.mem_singleton.mp last]
      exact ⟨me,List.mem_cons_self⟩
  · exact fun job member => queued_grows (sound.queued job member) more
  · exact fun p job handles => queued_grows (sound.handled p job handles) more
  · exact fun p batch generation row member => sound.lifetimes p batch generation row
      ((List.mem_cons.mp member).resolve_left nofun)

theorem sound_enqueue (sound : Sound naming a) (queued : ∀ job ∈ jobs, Queued a job) :
    Sound naming { a with queue := a.queue ++ jobs } := by
  refine { sound with
    events := fun e member => eventSound_grows (sound.events e member) (fun _ => id) (Tables.Grows.refl _) rfl
    queued := fun job member => ?_ }
  rcases List.mem_append.mp member with early | late
  · exact sound.queued job early
  · exact queued job late

theorem sound_expire {batch : String} (sound : Sound naming a) :
    Sound naming { a with
      completed := Function.update a.completed batch ⟨[],(a.completed batch).generation + 1,false⟩ } := by
  refine { sound with
    events := fun e member => eventSound_grows (sound.events e member) (fun _ => id) (Tables.Grows.refl _) rfl
    distinct := fun key => ?_
    members := fun key row => ?_
    lifetimes := fun p key generation row counted => ?_ }
  · by_cases same : key = batch
    · subst same; simp
    · simpa [Function.update_of_ne same] using sound.distinct key
  · by_cases same : key = batch
    · subst same
      simp only [Function.update_self,List.not_mem_nil,false_iff]
      intro member
      obtain ⟨p,counted⟩ := mem_countedRows.mp member
      have bound := sound.lifetimes p key _ row counted
      omega
    · simpa [Function.update_of_ne same] using sound.members key row
  · have bound := sound.lifetimes p key generation row counted
    by_cases same : key = batch
    · subst same; simp only [Function.update_self]; omega
    · simpa [Function.update_of_ne same] using bound

variable {batch row : String} {total : Nat}
variable {set : Completion}
theorem complete_distinct (distinct : set.members.Nodup) :
    (complete set row total).1.members.Nodup := by
  unfold complete
  dsimp only
  split
  · rename_i added
    exact List.nodup_append.mpr ⟨distinct,by simp,fun x member y last => by
      rw [List.mem_singleton.mp last]; rintro rfl; exact added member⟩
  · exact distinct

theorem mem_complete {other : String} :
    other ∈ (complete set row total).1.members ↔ other = row ∨ other ∈ set.members := by
  unfold complete
  dsimp only
  split
  · rw [List.mem_append,List.mem_singleton,or_comm]
  · rename_i present
    rw [not_not] at present
    constructor
    · exact .inr
    · rintro (rfl | member)
      · exact present
      · exact member

theorem complete_generation : (complete set row total).1.generation = set.generation := rfl
/-- The script returns 1 exactly when the row is new and completes the set. -/
theorem complete_returns :
    (complete set row total).2 = true ↔ row ∉ set.members ∧ (complete set row total).1.members.length = total := by
  unfold complete
  simp only [decide_eq_true_eq]
def count (me : Nat) (batch row : String) (total : Nat) (w : World) : World :=
  let set := complete (w.completed batch) row total
  { w with
    completed := Function.update w.completed batch set.1
    trace := (if set.2 then [.announced me batch set.1.generation] else []) ++
      .counted me batch set.1.generation row :: w.trace }

theorem countedRows_count (key : String) (generation : Nat) :
    countedRows (count me batch row total a).trace key generation =
      if batch = key ∧ (a.completed batch).generation = generation then row :: countedRows a.trace key generation
      else countedRows a.trace key generation := by
  have silent : countedRows (count me batch row total a).trace key generation =
      countedRows (.counted me batch (a.completed batch).generation row :: a.trace) key generation := by
    unfold count countedRows
    dsimp only
    split <;> rfl
  rw [silent]
  unfold countedRows
  rw [List.filterMap_cons]
  dsimp only
  split <;> rename_i same
  · rw [if_neg (by intro both; rw [if_pos both] at same; cases same)]
  · split at same
    · rename_i both; cases same; rw [if_pos both]
    · cases same

theorem count_generation (key : String) :
    ((count me batch row total a).completed key).generation = (a.completed key).generation := by
  by_cases same : key = batch
  · subst same; simp only [count,Function.update_self,complete_generation]
  · simp only [count,Function.update_of_ne same]
theorem members_count (sound : Sound naming a) (key other : String) :
    other ∈ ((count me batch row total a).completed key).members ↔
      other ∈ countedRows (count me batch row total a).trace key
      ((count me batch row total a).completed key).generation := by
  rw [countedRows_count]
  by_cases same : key = batch
  · subst same
    simp only [count,Function.update_self,mem_complete,complete_generation,true_and,if_true,List.mem_cons,sound.members]
  · simp only [count,Function.update_of_ne same,Ne.symm same,false_and,if_false]
    exact sound.members key other
theorem counted_in_batch (sound : Sound naming a) {q : Nat} (launched : .launched q jobs ∈ a.trace) {other : String}
    (counted : other ∈ countedRows a.trace (completedKey naming (naming.text q)) generation) :
    other ∈ jobs.map fun job => naming.identity job.id := by
  obtain ⟨p,counted⟩ := mem_countedRows.mp counted
  obtain ⟨job,settled,key,rfl⟩ := sound.events _ counted
  have member := queued_batch sound (sound.handled p job settled.handles) launched key.symm
  exact List.mem_map_of_mem member

theorem complete_all (sound : Sound naming a) (handles : a.job me = some job)
    (returned : (complete (a.completed (completedKey naming job.jobId)) (naming.identity job.id) job.totalJobs).2 = true) :
    ∃ q jobs, .launched q jobs ∈ a.trace ∧ job ∈ jobs ∧ job.jobId = naming.text q ∧
      ∀ other ∈ jobs, naming.identity other.id ∈
        (complete (a.completed (completedKey naming job.jobId)) (naming.identity job.id) job.totalJobs).1.members := by
  obtain ⟨q,jobs,launched,member⟩ := sound.handled me job handles
  have batch : IsBatch naming q jobs := sound.events _ launched
  have jobId := batch.jobId job member
  refine ⟨q,jobs,launched,member,jobId,fun other otherMember => ?_⟩
  obtain ⟨-,full⟩ := complete_returns.mp returned
  have inside :
      (complete (a.completed (completedKey naming job.jobId)) (naming.identity job.id) job.totalJobs).1.members ⊆
      jobs.map fun job => naming.identity job.id := by
    intro x found
    rcases mem_complete.mp found with rfl | old
    · exact List.mem_map_of_mem member
    · rw [sound.members,jobId] at old
      exact counted_in_batch sound launched old
  -- The set has as many rows as the batch, and none from elsewhere.
  have long : (jobs.map fun job => naming.identity job.id).length ≤
      (complete (a.completed (completedKey naming job.jobId)) (naming.identity job.id) job.totalJobs).1.members.length := by
    rw [full,batch.total job member,List.length_map]
  have perm := ((complete_distinct (sound.distinct _)).subperm inside).perm_of_length_le long
  exact perm.mem_iff.mpr (List.mem_map_of_mem otherMember)

theorem mem_count {e : Event} (member : e ∈ (count me batch row total a).trace) :
    (e = .announced me batch (a.completed batch).generation ∧ (complete (a.completed batch) row total).2 = true) ∨
      e = .counted me batch (a.completed batch).generation row ∨ e ∈ a.trace := by
  rcases List.mem_append.mp member with late | early
  · split at late
    · rename_i returned; exact .inl ⟨List.mem_singleton.mp late,returned⟩
    · cases late
  · exact .inr (List.mem_cons.mp early)
theorem announcements_count :
    announcements (count me batch row total a).trace =
      (if (complete (a.completed batch) row total).2 then [(batch,(a.completed batch).generation)] else []) ++
        announcements a.trace := by
  unfold count announcements
  dsimp only
  split <;> rfl
theorem not_announced (sound : Sound naming a) (handles : a.job me = some job)
    (added : naming.identity job.id ∉ (a.completed (completedKey naming job.jobId)).members) :
    (completedKey naming job.jobId,(a.completed (completedKey naming job.jobId)).generation) ∉
        announcements a.trace := by
  intro member
  obtain ⟨p,announced⟩ := mem_announcements.mp member
  obtain ⟨q,jobs,launched,key,all⟩ := sound.events _ announced
  obtain ⟨p',counted⟩ := all job (queued_batch sound (sound.handled me job handles) launched key)
  exact added ((sound.members _ _).mpr (mem_countedRows.mpr ⟨p',counted⟩))

theorem sound_count (sound : Sound naming a) (settled : Settled naming me job a) :
    Sound naming (count me (completedKey naming job.jobId) (naming.identity job.id) job.totalJobs a) := by
  have more : ∀ e ∈ a.trace,
      e ∈ (count me (completedKey naming job.jobId) (naming.identity job.id) job.totalJobs a).trace :=
    fun e member => List.mem_append_right _ (List.mem_cons_of_mem _ member)
  have older : ∀ {e : Event}, (∀ p k g r, e ≠ .counted p k g r) → (∀ p k g, e ≠ .announced p k g) →
      e ∈ (count me (completedKey naming job.jobId) (naming.identity job.id) job.totalJobs a).trace → e ∈ a.trace := by
    intro e notCounted notAnnounced member
    rcases mem_count member with ⟨here,-⟩ | here | early
    · exact absurd here (notAnnounced _ _ _)
    · exact absurd here (notCounted _ _ _ _)
    · exact early
  refine ⟨sound.ids,?_,?_,?_,?_,?_,?_,?_,?_,members_count sound,?_⟩
  · intro e member
    rcases mem_count member with ⟨rfl,returned⟩ | rfl | early
    · obtain ⟨q,jobs,launched,-,jobId,all⟩ := complete_all sound settled.handles returned
      refine ⟨q,jobs,more _ launched,by rw [jobId],fun other otherMember => mem_countedRows.mp ?_⟩
      have inSet : naming.identity other.id ∈ ((count me (completedKey naming job.jobId) (naming.identity job.id)
          job.totalJobs a).completed (completedKey naming job.jobId)).members := by
        simpa only [count,Function.update_self] using all other otherMember
      rw [members_count sound,count_generation] at inSet
      exact inSet
    · exact ⟨job,settled_grows settled more (Tables.Grows.refl _) rfl,rfl,rfl⟩
    · exact eventSound_grows (sound.events e early) more (Tables.Grows.refl _) rfl
  · intro p js js' first second
    have before := older (by rintro _ _ _ _ ⟨⟩) (by rintro _ _ _ ⟨⟩) first
    have before' := older (by rintro _ _ _ _ ⟨⟩) (by rintro _ _ _ ⟨⟩) second
    exact sound.launchedOnce p js js' before before'
  · intro p r r' first second
    have before := older (by rintro _ _ _ _ ⟨⟩) (by rintro _ _ _ ⟨⟩) first
    have before' := older (by rintro _ _ _ _ ⟨⟩) (by rintro _ _ _ ⟨⟩) second
    exact sound.settledOnce p r r' before before'
  · rw [announcements_count]
    split
    · rename_i returned
      exact List.nodup_cons.mpr
        ⟨not_announced sound settled.handles (complete_returns.mp returned).1,sound.announcedOnce⟩
    · exact sound.announcedOnce
  · intro js member
    obtain ⟨p,launched⟩ := sound.chained js member
    exact ⟨p,more _ launched⟩
  · exact fun job member => queued_grows (sound.queued job member) more
  · exact fun p job handles => queued_grows (sound.handled p job handles) more
  · intro key
    by_cases same : key = completedKey naming job.jobId
    · subst same
      simpa only [count,Function.update_self] using complete_distinct (sound.distinct _)
    · simpa only [count,Function.update_of_ne same] using sound.distinct key
  · intro p key generation other member
    rw [count_generation]
    rcases mem_count member with ⟨here,-⟩ | here | early
    · cases here
    · cases here; exact le_refl _
    · exact sound.lifetimes p key generation other early

end Ngotag.BatchCounting
