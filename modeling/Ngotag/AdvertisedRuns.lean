import Ngotag.AdvertisedTemplates

/-!
Every fine step keeps what the agent advertises in step with the rows before the open touches: one lemma for
each way in which a step changes the rows, the agent or the calls.
-/
namespace Ngotag.TemplateCalls
open KeyedTable
open IssuerTemplates hiding Answer Outcome
open CredentialConfigurations

variable {svc : Setting} {s t : State} {call : Nat} {process : Process} {done : State × Process} {db after : Database}
  {id issuerId publicIssuerId : String} {row : CredentialTemplate} {written : Option CredentialTemplate}
theorem issued_of_find {issuer : OidcIssuer} (found : db.oidc_issuer.find id = some issuer) :
    Issued db id issuer.publicIssuerId := by
  obtain ⟨listed,is⟩ := Keyed.find_some.mp found
  exact ⟨issuer,listed,is,rfl⟩
theorem issued_unique {first second : String} (one : Issued db id first) (two : Issued db id second) :
    first = second := by
  obtain ⟨issuer,listed,is,rfl⟩ := one
  obtain ⟨other,there,is',rfl⟩ := two
  rw [db.oidc_issuer.eq_of_key listed there (is.trans is'.symm)]
theorem issued_congr (same : after.oidc_issuer = db.oidc_issuer) (id publicId : String) :
    Issued after id publicId ↔ Issued db id publicId := by
  rw [Issued,Issued,same]
/-- Issuers that do not share a public id are told apart by either id. -/
theorem named_of_issued (issuers : Issuers s) (issued : Issued s.db issuerId publicIssuerId) :
    Named s issuerId publicIssuerId := by
  intro id publicId other
  constructor
  · rintro rfl
    exact issued_unique other issued
  · rintro rfl
    exact issuers.alone id issuerId publicId other issued

theorem changes_mem (changes : Changes db after id written) :
    row ∈ after.credential_templates.rows ↔
      row.id ≠ id ∧ row ∈ db.credential_templates.rows ∨ row.id = id ∧ written = some row := by
  by_cases same : row.id = id
  · have found := changes.now
    constructor
    · intro listed
      exact .inr ⟨same,found.symm.trans (Keyed.find_some.mpr ⟨listed,same⟩)⟩
    · rintro (⟨apart,-⟩ | ⟨-,is⟩)
      · exact absurd same apart
      · exact (Keyed.find_some.mp (found.trans is)).1
  · rw [changes.others row same]
    constructor
    · exact fun listed => .inl ⟨same,listed⟩
    · rintro (⟨-,listed⟩ | ⟨is,-⟩)
      · exact listed
      · exact absurd is same

theorem find_congr {k : String} (same : ∀ row : CredentialTemplate, row.id = k →
    (row ∈ after.credential_templates.rows ↔ row ∈ db.credential_templates.rows)) :
    after.credential_templates.find k = db.credential_templates.find k := by
  refine Option.ext fun row => ?_
  simp only [Keyed.find_some]
  exact and_congr_left (same row)

/-- A template is written whose key is free, or one is deleted. -/
theorem rows_changes (rows : Rows s) (changes : Changes s.db t.db id written)
    (fits : ∀ row, written = some row → Free s row ∧ Agrees row.format) : Rows t where
  keys row listed other there own same := by
    rcases (changes_mem changes).mp listed with ⟨apart,old⟩ | ⟨is,new⟩
    · rcases (changes_mem changes).mp there with ⟨-,old'⟩ | ⟨is',new'⟩
      · exact rows.keys row old other old' own same
      · exact absurd same.symm ((fits other new').1 row old (is' ▸ apart) own.symm)
    · rcases (changes_mem changes).mp there with ⟨apart',old'⟩ | ⟨is',-⟩
      · exact absurd same ((fits row new).1 other old' (is ▸ apart') own)
      · rw [is,is']
  agrees row listed := by
    rcases (changes_mem changes).mp listed with ⟨-,old⟩ | ⟨-,new⟩
    · exact rows.agrees row old
    · exact (fits row new).2

theorem rows_subset (rows : Rows s)
    (old : ∀ row ∈ t.db.credential_templates.rows, row ∈ s.db.credential_templates.rows) : Rows t where
  keys row listed other there := rows.keys row (old row listed) other (old other there)
  agrees row listed := rows.agrees row (old row listed)
theorem set_calls {p : Process} (calls : done.1.calls = s.calls) (listed : p ∈ (State.set call done).calls) :
    p ∈ s.calls ∨ p = done.2 :=
  calls ▸ List.mem_or_eq_of_mem_set listed
theorem calls_set {p : Process} (now : s.calls[call]? = some process) (calls : done.1.calls = s.calls)
    (listed : p ∈ s.calls) : p = process ∨ p ∈ (State.set call done).calls := by
  obtain ⟨other,there⟩ := List.mem_iff_getElem?.mp listed
  by_cases same : other = call
  · subst same
    exact .inl (Option.some.inj (there.symm.trans now))
  · refine .inr (List.mem_iff_getElem?.mpr ⟨other,?_⟩)
    show (done.1.calls.set call done.2)[other]? = some p
    rw [List.getElem?_set_ne (Ne.symm same),calls,there]
theorem touchAt_same (now : s.calls[call]? = some process) (calls : done.1.calls = s.calls)
    (touch : done.2.touch = process.touch) (other : Nat) : (State.set call done).touchAt other = s.touchAt other := by
  rw [touchAt_set now calls]
  split
  · rename_i same
    rw [same,touchAt_now now,touch]
  · rfl

/-- No new write is in flight, and those that are still there see their rows unchanged. -/
theorem touches_kept (touches : Touches s)
    (held : ∀ call touch, t.touchAt call = some touch → s.touchAt call = some touch)
    (pushes : s.pushes.length ≤ t.pushes.length)
    (stored : ∀ call touch, t.touchAt call = some touch →
      t.db.credential_templates.find touch.id = s.db.credential_templates.find touch.id)
    (aims : ∀ process ∈ t.calls, process.aims) : Touches t where
  marks call touch now := Nat.le_trans (touches.marks call touch (held call touch now)) pushes
  alone call other touch touch' now now' :=
    touches.alone call other touch touch' (held call touch now) (held other touch' now')
  written call touch now := (stored call touch now).trans (touches.written call touch (held call touch now))
  before call touch row now := touches.before call touch row (held call touch now)
  aims := aims

theorem aims_set (touches : Touches s) (calls : done.1.calls = s.calls) (aims : done.2.aims) :
    ∀ p ∈ (State.set call done).calls, p.aims := by
  intro p listed
  rcases set_calls calls listed with old | rfl
  · exact touches.aims p old
  · exact aims

theorem issuers_set (issuers : Issuers s) (now : s.calls[call]? = some process) (calls : done.1.calls = s.calls)
    (issued : ∀ id publicId, Issued done.1.db id publicId ↔ Issued s.db id publicId)
    (agent : ∀ record ∈ done.1.agent.rows, ∃ old ∈ s.agent.rows, old.publicIssuerId = record.publicIssuerId)
    (names : ∀ id publicId, done.2.names = some (id,publicId) → Named s id publicId)
    (deletes : process.deletes = none) (deletes' : done.2.deletes = none) : Issuers (State.set call done) where
  alone id id' publicId one two :=
      issuers.alone id id' publicId ((issued id publicId).mp one) ((issued id' publicId).mp two)
  names p listed id publicId naming id' publicId' there := by
    rcases set_calls calls listed with old | rfl
    · exact issuers.names p old id publicId naming id' publicId' ((issued id' publicId').mp there)
    · exact names id publicId naming id' publicId' ((issued id' publicId').mp there)
  deletes p listed publicId deleting id there := by
    rcases set_calls calls listed with old | rfl
    · exact issuers.deletes p old publicId deleting id ((issued id publicId).mp there)
    · exact Option.some_ne_none _ (deleting.symm.trans deletes')
  rowed record listed := by
    obtain ⟨old,there,same⟩ := agent record listed
    rw [← same]
    rcases issuers.rowed old there with ⟨id,stored⟩ | ⟨p,at_work,deleting⟩
    · exact .inl ⟨id,(issued id _).mpr stored⟩
    · rcases calls_set now calls at_work with rfl | still
      · exact absurd (deleting.symm.trans deletes) (Option.some_ne_none _)
      · exact .inr ⟨p,still,deleting⟩

/-- No issuer is added, no record is lost, and no template was written for an issuer to show. -/
theorem told_kept (told : Told svc s) (issued : ∀ id publicId, Issued t.db id publicId → Issued s.db id publicId)
    (empties : ∀ id publicId, Issued t.db id publicId → (∀ p ∈ t.calls, p.empties ≠ some id) →
      ∀ p ∈ s.calls, p.empties ≠ some id)
    (agent : ∀ record ∈ s.agent.rows, ∀ id, Issued t.db id record.publicIssuerId → record ∈ t.agent.rows)
    (was : ∀ id, (∀ p ∈ t.calls, p.empties ≠ some id) → ∀ row, Was t id row ↔ Was s id row) : Told svc t := by
  intro id publicId stored full
  obtain ⟨record,listed,rfl,shown⟩ := told id publicId (issued id publicId stored) (empties id publicId stored full)
  exact ⟨record,agent record listed id stored,rfl,shown_congr (was id full) shown⟩
theorem empties_set (now : s.calls[call]? = some process) (calls : done.1.calls = s.calls)
    (full : ∀ p ∈ (State.set call done).calls, p.empties ≠ some id) (own : process.empties ≠ some id) :
    ∀ p ∈ s.calls, p.empties ≠ some id := by
  intro p listed
  rcases calls_set now calls listed with rfl | still
  · exact own
  · exact full p still
theorem was_same (now : s.calls[call]? = some process) (calls : done.1.calls = s.calls)
    (pushes : done.1.pushes = s.pushes)
    (touch : done.2.touch = process.touch)
    (rows : row.issuerId = issuerId → (row ∈ done.1.db.credential_templates.rows ↔ row ∈ s.db.credential_templates.rows)) :
    Was (State.set call done) issuerId row ↔ Was s issuerId row := by
  refine was_congr (fun other touch' _ => ?_) (fun _ touch' _ _ => since_congr pushes touch'.mark issuerId) rows
  rw [touchAt_same now calls touch]
theorem touches_same (touches : Touches s) (now : s.calls[call]? = some process) (calls : done.1.calls = s.calls)
    (pushes : done.1.pushes = s.pushes) (touch : done.2.touch = process.touch) (aims : done.2.aims)
    (stored : ∀ other touch, s.touchAt other = some touch →
      done.1.db.credential_templates.find touch.id = s.db.credential_templates.find touch.id) :
    Touches (State.set call done) := by
  refine touches_kept touches (fun other touch' held => ?_) (Nat.le_of_eq (congrArg List.length pushes).symm)
    (fun other touch' held => ?_) (aims_set touches calls aims)
  · rwa [touchAt_same now calls touch] at held
  · rw [touchAt_same now calls touch] at held
    exact stored other touch' held

/-- A call goes on and no template is written. -/
theorem sound_same (sound : Sound svc s) (now : s.calls[call]? = some process) (calls : done.1.calls = s.calls)
    (pushes : done.1.pushes = s.pushes) (agent : done.1.agent = s.agent)
    (issued : ∀ id publicId, Issued done.1.db id publicId ↔ Issued s.db id publicId)
    (templates : done.1.db.credential_templates = s.db.credential_templates)
    (touch : done.2.touch = process.touch) (aims : done.2.aims)
    (names : ∀ id publicId, done.2.names = some (id,publicId) → Named s id publicId)
    (deletes : process.deletes = none) (deletes' : done.2.deletes = none)
    (empties : ∀ id, process.empties = some id → ∀ publicId, ¬Issued s.db id publicId) :
        Sound svc (State.set call done) where
  touches := touches_same sound.touches now calls pushes touch aims fun _ _ _ => by rw [templates]
  rows := rows_subset sound.rows fun row listed => templates ▸ listed
  issuers := issuers_set sound.issuers now calls issued
      (fun record listed => ⟨record,agent ▸ listed,rfl⟩) names deletes deletes'
  told := by
    refine told_kept sound.told (fun id publicId => (issued id publicId).mp) (fun id publicId stored full => ?_)
      (fun record listed id _ => ?_) (fun id _ row => ?_)
    · exact empties_set now calls full fun own => empties id own publicId ((issued id publicId).mp stored)
    · show record ∈ done.1.agent.rows
      exact agent ▸ listed
    · exact was_same now calls pushes touch fun _ => by rw [templates]

variable {next : Process}
theorem sound_quiet (sound : Sound svc s) (now : s.calls[call]? = some process)
    (touch : next.touch = process.touch) (aims : next.aims)
    (names : ∀ id publicId, next.names = some (id,publicId) → Named s id publicId) (deletes : process.deletes = none)
    (deletes' : next.deletes = none) (empties : ∀ id, process.empties = some id → ∀ publicId, ¬Issued s.db id publicId) :
    Sound svc (State.set call (s,next)) :=
  sound_same sound now rfl rfl rfl (fun _ _ => Iff.rfl) rfl touch aims names deletes deletes' empties
theorem touchAt_begin (process : Process) (free : process.touch = none) (call : Nat) :
    (s.begin process).touchAt call = s.touchAt call := by
  unfold State.touchAt State.begin
  rcases Nat.lt_or_ge call s.calls.length with old | new
  · rw [List.getElem?_append_left old]
  · rw [List.getElem?_append_right new,List.getElem?_eq_none new]
    cases call - s.calls.length with
    | zero => exact free
    | succ _ => rfl

/-- A call begins. -/
theorem sound_begin (sound : Sound svc s) (touch : process.touch = none) (aims : process.aims)
    (names : process.names = none) (deletes : process.deletes = none) : Sound svc (s.begin process) := by
  have listed {p : Process} (there : p ∈ (s.begin process).calls) : p ∈ s.calls ∨ p = process :=
    (List.mem_append.mp there).imp_right List.mem_singleton.mp
  have still {p : Process} (there : p ∈ s.calls) : p ∈ (s.begin process).calls := List.mem_append_left _ there
  refine ⟨?_,⟨sound.rows.keys,sound.rows.agrees⟩,⟨sound.issuers.alone,?_,?_,?_⟩,?_⟩
  · refine touches_kept sound.touches (fun call touch' held => ?_) (Nat.le_refl _) (fun _ _ _ => rfl) fun p there => ?_
    · rwa [touchAt_begin process touch] at held
    · rcases listed there with old | rfl
      · exact sound.touches.aims p old
      · exact aims
  · intro p there id publicId naming
    rcases listed there with old | rfl
    · exact sound.issuers.names p old id publicId naming
    · exact absurd (naming.symm.trans names) (Option.some_ne_none _)
  · intro p there publicId deleting
    rcases listed there with old | rfl
    · exact sound.issuers.deletes p old publicId deleting
    · exact absurd (deleting.symm.trans deletes) (Option.some_ne_none _)
  · intro record there
    rcases sound.issuers.rowed record there with stored | ⟨p,at_work,deleting⟩
    · exact .inl stored
    · exact .inr ⟨p,still at_work,deleting⟩
  · refine told_kept sound.told (fun _ _ stored => stored) (fun id _ _ full p there => full p (still there))
      (fun _ there _ _ => there)
      fun id _ row => ?_
    refine was_congr (fun call touch' _ => ?_) (fun _ _ _ _ => Iff.rfl) fun _ => Iff.rfl
    rw [touchAt_begin process touch]

/-- A call deletes the templates of the issuer that it is about to delete. -/
theorem sound_emptied (sound : Sound svc s) (now : s.calls[call]? = some process)
    (issuers : db.oidc_issuer = s.db.oidc_issuer)
    (rows : ∀ row : CredentialTemplate, row ∈ db.credential_templates.rows ↔
      row ∈ s.db.credential_templates.rows ∧ row.issuerId ≠ issuerId)
    (told : ∀ other touch row, s.touchAt other = some touch → touch.written = some row → row.issuerId ≠ issuerId)
    (touch : next.touch = process.touch) (aims : next.aims)
    (names : ∀ id publicId, next.names = some (id,publicId) → Named s id publicId) (deletes : process.deletes = none)
    (deletes' : next.deletes = none) (full : process.empties = none) (empties : next.empties = some issuerId) :
    Sound svc (State.set call ({ s with db := db },next)) := by
  have issued := issued_congr issuers
  refine ⟨?_,rows_subset sound.rows fun row listed => ((rows row).mp listed).1,?_,?_⟩
  · refine touches_same sound.touches now rfl rfl touch aims fun other touch' held => find_congr fun row is => ?_
    rw [rows]
    refine and_iff_left_of_imp fun listed => ?_
    refine told other touch' row held ((sound.touches.written other touch' held).symm.trans ?_)
    exact Keyed.find_some.mpr ⟨listed,is⟩
  · exact issuers_set sound.issuers now rfl issued (fun record listed => ⟨record,listed,rfl⟩) names deletes deletes'
  · refine told_kept sound.told (fun id publicId => (issued id publicId).mp) (fun id _ _ still => ?_)
      (fun _ listed _ _ => listed) (fun id still row => ?_)
    · exact empties_set now rfl still fun own => Option.some_ne_none _ (own.symm.trans full)
    · refine was_same now rfl rfl touch fun own => (rows row).trans (and_iff_left ?_)
      rintro same
      have there : next ∈ (State.set call ({ s with db := db },next)).calls :=
        List.mem_set (List.getElem?_eq_some_iff.mp now).1 next
      exact still next there (by rw [empties,← own,same])

/-- A call deletes the row of its issuer. -/
theorem sound_removed (sound : Sound svc s) (now : s.calls[call]? = some process)
    (issued : ∀ id' publicId, Issued db id' publicId ↔ Issued s.db id' publicId ∧ id' ≠ id)
    (templates : db.credential_templates = s.db.credential_templates) (stored : Issued s.db id publicIssuerId)
    (touch : next.touch = process.touch) (aims : next.aims) (names : next.names = none)
    (deletes : process.deletes = none) (deletes' : next.deletes = some publicIssuerId)
    (empties : ∀ id', process.empties = some id' → id' = id) :
        Sound svc (State.set call ({ s with db := db },next)) := by
  have less (id' publicId : String) (still : Issued db id' publicId) : Issued s.db id' publicId :=
      ((issued id' publicId).mp still).1
  refine ⟨?_,rows_subset sound.rows fun row listed => templates ▸ listed,⟨?_,?_,?_,?_⟩,?_⟩
  · exact touches_same sound.touches now rfl rfl touch aims fun _ _ _ => by rw [templates]
  · exact fun id' other publicId one two => sound.issuers.alone id' other publicId (less _ _ one) (less _ _ two)
  · intro p listed id' publicId naming other publicId' there
    rcases set_calls rfl listed with old | rfl
    · exact sound.issuers.names p old id' publicId naming other publicId' (less _ _ there)
    · exact absurd (naming.symm.trans names) (Option.some_ne_none _)
  · intro p listed publicId deleting id' there
    rcases set_calls rfl listed with old | rfl
    · exact sound.issuers.deletes p old publicId deleting id' (less _ _ there)
    · obtain rfl := Option.some.inj (deleting.symm.trans deletes')
      obtain ⟨was,apart⟩ := (issued id' publicId).mp there
      exact apart (sound.issuers.alone id' id publicId was stored)
  · intro record listed
    have others (p : Process) : p ∈ s.calls → p = process ∨ p ∈ (State.set call ({ s with db := db },next)).calls :=
      calls_set now rfl
    have here : next ∈ (State.set call ({ s with db := db },next)).calls :=
      List.mem_set (List.getElem?_eq_some_iff.mp now).1 next
    rcases sound.issuers.rowed record listed with ⟨id',was⟩ | ⟨p,at_work,deleting⟩
    · by_cases same : id' = id
      · subst same
        exact .inr ⟨next,here,by rw [deletes',issued_unique was stored]⟩
      · exact .inl ⟨id',(issued id' _).mpr ⟨was,same⟩⟩
    · rcases others p at_work with rfl | still
      · exact absurd (deleting.symm.trans deletes) (Option.some_ne_none _)
      · exact .inr ⟨p,still,deleting⟩
  · refine told_kept sound.told less (fun id' publicId there full => ?_) (fun _ listed _ _ => listed)
      (fun id' _ row => ?_)
    · exact empties_set now rfl full fun own => ((issued id' publicId).mp there).2 (empties id' own)
    · exact was_same now rfl rfl touch fun _ => by rw [templates]

variable {agent : Keyed AgentIssuer.publicIssuerId}
/-- The record of a deleted issuer goes from the agent. -/
theorem sound_gone (sound : Sound svc s) (now : s.calls[call]? = some process)
    (records : ∀ record : AgentIssuer, record ∈ agent.rows ↔
      record ∈ s.agent.rows ∧ record.publicIssuerId ≠ publicIssuerId)
    (touch : process.touch = none) (deletes : process.deletes = some publicIssuerId) (empties : process.empties = none) :
    Sound svc (State.set call ({ s with agent := agent },.ended)) := by
  refine ⟨?_,⟨sound.rows.keys,sound.rows.agrees⟩,⟨sound.issuers.alone,?_,?_,?_⟩,?_⟩
  · exact touches_same sound.touches now rfl rfl touch.symm trivial fun _ _ _ => rfl
  · intro p listed
    rcases set_calls rfl listed with old | rfl
    · exact sound.issuers.names p old
    · exact nofun
  · intro p listed
    rcases set_calls rfl listed with old | rfl
    · exact sound.issuers.deletes p old
    · exact nofun
  · intro record listed
    have others (p : Process) : p ∈ s.calls → p = process ∨
        p ∈ (State.set call ({ s with agent := agent },.ended)).calls :=
      calls_set now rfl
    obtain ⟨there,apart⟩ := (records record).mp listed
    rcases sound.issuers.rowed record there with stored | ⟨p,at_work,deleting⟩
    · exact .inl stored
    · rcases others p at_work with rfl | still
      · exact absurd (Option.some.inj (deleting.symm.trans deletes)) apart
      · exact .inr ⟨p,still,deleting⟩
  · refine told_kept sound.told (fun _ _ stored => stored) (fun id _ _ full => ?_) (fun record listed id stored => ?_)
      fun id _ row => ?_
    · exact empties_set now rfl full fun own => Option.some_ne_none _ (own.symm.trans empties)
    · refine (records record).mpr ⟨listed,?_⟩
      rintro same
      have at_work : process ∈ s.calls := List.mem_iff_getElem?.mpr ⟨call,now⟩
      exact sound.issuers.deletes process at_work publicIssuerId deletes id (same ▸ stored)
    · exact was_same now rfl rfl touch.symm fun _ => Iff.rfl

theorem changes_find {k : String} (changes : Changes db after id written) (apart : k ≠ id) :
    after.credential_templates.find k = db.credential_templates.find k :=
  find_congr fun row is => changes.others row (is ▸ apart)

theorem was_changes (changes : Changes s.db db id written) (apart : row.id ≠ id) (now : s.calls[call]? = some process)
    (own : ∀ touch, done.2.touch = some touch → touch.id = id)
    (own' : ∀ touch, process.touch = some touch → touch.id = id)
    (calls : done.1.calls = s.calls) (pushes : done.1.pushes = s.pushes) (stored : done.1.db = db) :
    Was (State.set call done) issuerId row ↔ Was s issuerId row := by
  refine was_congr (fun other touch is => ?_) (fun _ touch _ _ => since_congr pushes touch.mark issuerId) fun _ => ?_
  · rw [touchAt_set now calls]
    split
    · rename_i same
      rw [same,touchAt_now now]
      exact iff_of_false (fun held => apart (is ▸ own touch held)) fun held => apart (is ▸ own' touch held)
    · rfl
  · show row ∈ done.1.db.credential_templates.rows ↔ _
    rw [stored]
    exact changes.others row apart

/-- A call writes a template that no other call in flight touches. -/
theorem sound_write (sound : Sound svc s) (now : s.calls[call]? = some process)
    (changes : Changes s.db db id written) (apart : Apart s call id)
    (fits : ∀ row, written = some row → Free s row ∧ Agrees row.format) (untouched : process.touch = none)
    (touch : next.touch = some ⟨id,s.db.credential_templates.find id,written,s.pushes.length⟩) (aims : next.aims)
    (names : next.names = none) (deletes : process.deletes = none) (deletes' : next.deletes = none)
    (empties : process.empties = none) : Sound svc (State.set call ({ s with db := db },next)) := by
  have at_ (other : Nat) : (State.set call ({ s with db := db },next)).touchAt other =
      if other = call then next.touch else s.touchAt other := touchAt_set now rfl other
  have held : (State.set call ({ s with db := db },next)).touchAt call = next.touch := by rw [at_,if_pos rfl]
  have issued := issued_congr changes.issuers
  have others {other : Nat} {touch' : Touch} (there : s.touchAt other = some touch') : touch'.id ≠ id := by
    refine apart_other apart ?_ there
    rintro rfl
    rw [touchAt_now now,untouched] at there
    cases there
  have touches : Touches (State.set call ({ s with db := db },next)) := by
    constructor
    · intro other touch' there
      rw [at_] at there
      split at there
      · rw [touch] at there
        cases there
        exact Nat.le_refl _
      · exact sound.touches.marks other touch' there
    · intro one two touch₁ touch₂ there there' same
      rw [at_] at there there'
      split at there <;> split at there'
      · rename_i first second
        exact first.trans second.symm
      · rw [touch] at there
        cases there
        exact absurd same.symm (others there')
      · rw [touch] at there'
        cases there'
        exact absurd same (others there)
      · exact sound.touches.alone one two touch₁ touch₂ there there' same
    · intro other touch' there
      rw [at_] at there
      split at there
      · rw [touch] at there
        cases there
        exact changes.now
      · exact (changes_find changes (others there)).trans (sound.touches.written other touch' there)
    · intro other touch' row there before
      rw [at_] at there
      split at there
      · rw [touch] at there
        cases there
        obtain ⟨listed,is⟩ := Keyed.find_some.mp before
        exact ⟨is,sound.rows.agrees row listed⟩
      · exact sound.touches.before other touch' row there before
    · exact aims_set sound.touches rfl aims
  refine ⟨touches,rows_changes sound.rows changes fits,?_,?_⟩
  · exact issuers_set sound.issuers now rfl issued (fun record listed => ⟨record,listed,rfl⟩)
      (fun _ _ naming => absurd (naming.symm.trans names) (Option.some_ne_none _)) deletes deletes'
  · refine told_kept sound.told (fun id publicId => (issued id publicId).mp) (fun id' _ _ full => ?_)
      (fun _ listed _ _ => listed) fun issuerId _ row => ?_
    · exact empties_set now rfl full fun own => Option.some_ne_none _ (own.symm.trans empties)
    · by_cases same : row.id = id
      · subst same
        -- what is replaced is what the row was
        rw [was_open touches (held.trans touch) rfl not_since_new,
          was_closed fun other touch' there is => absurd is (others there)]
        refine and_congr_right fun _ => Keyed.find_some.trans (and_iff_left rfl)
      · refine was_changes changes same now (fun touch' own => ?_) (fun touch' own => ?_) rfl rfl rfl
        · rw [touch] at own
          cases own
          rfl
        · exact absurd (own.symm.trans untouched) (Option.some_ne_none _)

/-- A compensation writes back what was there, while nobody has pushed what it takes away. -/
theorem sound_back {touch : Touch} (sound : Sound svc s) (now : s.calls[call]? = some process)
    (own : process.touch = some touch) (changes : Changes s.db db touch.id touch.before)
    (since : ∀ row, touch.before = some row ∨ touch.written = some row → ¬Since s touch.mark row.issuerId)
    (free : ∀ row, touch.before = some row → Free s row) (deletes : process.deletes = none)
    (empties : process.empties = none) : Sound svc (State.set call ({ s with db := db },.ended)) := by
  have at_ (other : Nat) : (State.set call ({ s with db := db },.ended)).touchAt other =
      if other = call then none else s.touchAt other := touchAt_set now rfl other
  have mine : s.touchAt call = some touch := (touchAt_now now).trans own
  have issued := issued_congr changes.issuers
  have others {other : Nat} {touch' : Touch}
      (there : (State.set call ({ s with db := db },.ended)).touchAt other = some touch') :
      s.touchAt other = some touch' ∧ touch'.id ≠ touch.id := by
    rw [at_] at there
    split at there
    · cases there
    · rename_i apart
      exact ⟨there,fun same => apart (sound.touches.alone other call touch' touch there mine same)⟩
  refine ⟨?_,rows_changes sound.rows changes fun row is => ⟨free row is,?_⟩,?_,?_⟩
  · exact touches_kept sound.touches (fun _ _ there => (others there).1) (Nat.le_refl _)
      (fun _ _ there => changes_find changes (others there).2) (aims_set sound.touches rfl trivial)
  · exact (sound.touches.before call touch row mine is).2
  · exact issuers_set sound.issuers now rfl issued (fun record listed => ⟨record,listed,rfl⟩)
      (fun _ _ => nofun) deletes rfl
  · refine told_kept sound.told (fun id publicId => (issued id publicId).mp) (fun id' _ _ full => ?_)
      (fun _ listed _ _ => listed) fun issuerId _ row => ?_
    · exact empties_set now rfl full fun own => Option.some_ne_none _ (own.symm.trans empties)
    · by_cases same : touch.id = row.id
      · rw [was_closed fun other touch' there is => absurd (is.trans same.symm) (others there).2]
        have back : row ∈ db.credential_templates.rows ↔ touch.before = some row := by
          rw [changes_mem changes]
          simp [same]
        show row.issuerId = issuerId ∧ row ∈ db.credential_templates.rows ↔ _
        rw [back]
        by_cases passed : Since s touch.mark issuerId
        · -- then the row is of neither issuer, before and after
          rw [was_closed fun other touch' there is => ?_]
          · refine and_congr_right ?_
            rintro rfl
            have found := sound.touches.written call touch mine
            refine iff_of_false (fun is => since row (.inl is) passed) fun listed => since row (.inr ?_) passed
            exact found.symm.trans (Keyed.find_some.mpr ⟨listed,same.symm⟩)
          · obtain rfl := sound.touches.alone other call touch' touch there mine (is.trans same.symm)
            obtain rfl := Option.some.inj (there.symm.trans mine)
            exact passed
        · rw [was_open sound.touches mine same passed]
      · refine was_changes changes (Ne.symm same) now (fun _ => nofun) (fun touch' own' => ?_) rfl rfl rfl
        rw [Option.some.inj (own'.symm.trans own)]

theorem mem_templates {template : CredentialTemplate} :
    template ∈ getTemplatesByIssuerId db issuerId ↔ template.issuerId = issuerId ∧
    template ∈ db.credential_templates.rows := by
  rw [getTemplatesByIssuerId,List.mem_filter,decide_eq_true_iff,and_comm]
theorem templates_nodup : (getTemplatesByIssuerId db issuerId).Nodup :=
  (List.Nodup.of_map _ db.credential_templates.unique).filter _
theorem keys_nodup (rows : Rows s) : ((getTemplatesByIssuerId s.db issuerId).map configKey).Nodup := by
  refine templates_nodup.map_on fun row listed other there same => ?_
  obtain ⟨own,stored⟩ := mem_templates.mp listed
  obtain ⟨own',stored'⟩ := mem_templates.mp there
  exact s.db.credential_templates.eq_of_key stored stored'
      (rows.keys other stored' row stored (own.trans own'.symm) same)

/-- Of the row a call worked on, once the call is over and the row belongs to another issuer. -/
theorem was_over {touch : Touch} (touches : Touches s) (held : s.touchAt call = some touch) (its : touch.id = row.id)
    (left : ∀ other touch', t.touchAt other = some touch' → other ≠ call ∧ s.touchAt other = some touch')
    (stored : t.db = s.db) (aims : touch.before = some row ∨ touch.written = some row → row.issuerId ≠ id) :
    Was t id row ↔ Was s id row := by
  have one {other : Nat} {touch' : Touch} (there : s.touchAt other = some touch')
      (is' : touch'.id = row.id) : other = call :=
    touches.alone other call touch' touch there held (is'.trans its.symm)
  have written (there : row ∈ s.db.credential_templates.rows) : touch.written = some row :=
    (touches.written call touch held).symm.trans (Keyed.find_some.mpr ⟨there,its.symm⟩)
  rw [was_closed fun other touch' there is' => absurd (one (left other touch' there).2 is') (left other touch' there).1,stored]
  refine iff_of_false (fun both => aims (.inr (written both.2)) both.1) fun was => ?_
  obtain ⟨of_,⟨other,touch',there,is',-,before⟩ | ⟨-,there⟩⟩ := was
  · obtain rfl := one there is'
    obtain rfl := Option.some.inj (there.symm.trans held)
    exact aims (.inl before) of_
  · exact aims (.inr (written there)) of_

/-- A call pushes the configurations of the templates that are stored. -/
theorem sound_push {record : AgentIssuer} {configs : List (String × CredentialConfig)}
    (sound : Sound svc s) (now : s.calls[call]? = some process) (named : Named s issuerId publicIssuerId)
    (found : s.agent.find publicIssuerId = some record)
    (built : configurations svc (getTemplatesByIssuerId s.db issuerId) = some configs)
    (records : ∀ other : AgentIssuer, other ∈ agent.rows ↔ other ∈ s.agent.rows ∧ other.publicIssuerId ≠ publicIssuerId ∨
      other = { record with credentialConfigurationsSupported := configs })
    (aims : ∀ touch, process.touch = some touch → ∀ row, touch.before = some row ∨ touch.written = some row →
      row.issuerId = issuerId)
    (deletes : process.deletes = none) (empties : process.empties = none) :
    Sound svc (State.set call ({ s with agent := agent,pushes := issuerId :: s.pushes },.ended)) := by
  have at_ (other : Nat) :
      (State.set call ({ s with agent := agent,pushes := issuerId :: s.pushes },.ended)).touchAt other =
      if other = call then none else s.touchAt other := touchAt_set now rfl other
  obtain ⟨listed,is⟩ := Keyed.find_some.mp found
  have others {other : Nat} {touch : Touch}
      (there : (State.set call ({ s with agent := agent,pushes := issuerId :: s.pushes },.ended)).touchAt other = some touch) :
      other ≠ call ∧ s.touchAt other = some touch := by
    rw [at_] at there
    split at there
    · cases there
    · exact ⟨‹_›,there⟩
  have since {mark : Nat} (id : String) (past : mark ≤ s.pushes.length) :
      Since (State.set call ({ s with agent := agent,pushes := issuerId :: s.pushes },.ended)) mark id ↔
        id = issuerId ∨ Since s mark id := since_cons rfl past
  refine ⟨?_,⟨sound.rows.keys,sound.rows.agrees⟩,?_,?_⟩
  · exact touches_kept sound.touches (fun _ _ there => (others there).2) (Nat.le_succ _) (fun _ _ _ => rfl)
      (aims_set sound.touches rfl trivial)
  · refine issuers_set sound.issuers now rfl (fun _ _ => Iff.rfl) (fun other there => ?_) (fun _ _ => nofun) deletes rfl
    rcases (records other).mp there with ⟨old,-⟩ | rfl
    · exact ⟨other,old,rfl⟩
    · exact ⟨record,listed,rfl⟩
  · intro id publicId stored full
    have full' := empties_set now rfl full fun own => Option.some_ne_none _ (own.symm.trans empties)
    by_cases same : id = issuerId
    · subst same
      obtain rfl := (named id publicId stored).mp rfl
      refine ⟨{ record with credentialConfigurationsSupported := configs },(records _).mpr (.inr rfl),is,?_⟩
      refine ⟨getTemplatesByIssuerId s.db id,keys_nodup sound.rows,fun row => ?_,configs,?_,.refl _⟩
      · -- every touch that is left has been passed
        rw [was_closed fun other touch there _ => (since id (sound.touches.marks other touch (others there).2)).mpr (.inl rfl)]
        exact mem_templates
      · rw [← configurations_eq (keys_nodup sound.rows)]
        exact built
    · obtain ⟨record',listed',rfl,shown⟩ := sound.told id publicId stored full'
      have apart : record'.publicIssuerId ≠ publicIssuerId := fun is' => same ((named id _ stored).mpr is')
      refine ⟨record',(records record').mpr (.inl ⟨listed',apart⟩),rfl,shown_congr (fun row => ?_) shown⟩
      by_cases mine : ∃ touch, process.touch = some touch ∧ touch.id = row.id
      · -- a row of the issuer of the push
        obtain ⟨touch,own,its⟩ := mine
        exact was_over sound.touches ((touchAt_now now).trans own) its (fun _ _ there => others there) rfl
          fun is' of_ => same (of_.symm.trans (aims touch own row is'))
      · refine was_congr (fun other touch is' => ?_) (fun other touch there _ => ?_) fun _ => Iff.rfl
        · rw [at_]
          split
          · rename_i it
            rw [it,touchAt_now now]
            exact iff_of_false nofun fun own => mine ⟨touch,own,is'⟩
          · rfl
        · rw [since id (sound.touches.marks other touch there)]
          exact or_iff_right same

end Ngotag.TemplateCalls
