import Ngotag.TemplateCalls
import Ngotag.Recall

/-!
Whether the configurations that the agent advertises are those of the stored templates, whenever no call is in
progress. A call that has written and not yet told the agent holds a `Touch` of its row; what the agent
advertises are the rows as they were before the touches that no push has passed since (`Was`). What a call has
read of the templates of its issuer is noted beside the state. In which runs the two agree at rest is
`advertised_of_meets`.
-/
namespace Ngotag.TemplateCalls
open KeyedTable
open OrgRolesGuard (trim)
open IssuerTemplates hiding Answer Outcome
open CredentialConfigurations

/-- No call is in flight. -/
def Quiet (s : State) : Prop := ∀ process ∈ s.calls, process = .ended
instance (s : State) : Decidable (Quiet s) := inferInstanceAs (Decidable (∀ process ∈ s.calls, process = .ended))

/-- Each issuer advertises exactly the configurations of its stored templates. -/
structure Matches (svc : Setting) (s : State) : Prop where
  /-- One configuration for each template, those that are built from them. -/
  advertised : ∀ issuer ∈ s.db.oidc_issuer.rows, ∃ record ∈ s.agent.rows,
    record.publicIssuerId = issuer.publicIssuerId ∧
      ∃ configs, configurations svc (getTemplatesByIssuerId s.db issuer.id) = some configs ∧
        record.credentialConfigurationsSupported.Perm configs ∧
        JsObject.keys configs = (getTemplatesByIssuerId s.db issuer.id).map configKey ∧ (JsObject.keys configs).Nodup
  rowed : ∀ record ∈ s.agent.rows, ∃ issuer ∈ s.db.oidc_issuer.rows, issuer.publicIssuerId = record.publicIssuerId
  offered : ∀ template ∈ s.db.credential_templates.rows, ∀ id, credentialSupportedId template = some id →
    ∃ issuer ∈ s.db.oidc_issuer.rows, issuer.id = template.issuerId ∧ ∃ record ∈ s.agent.rows,
      record.publicIssuerId = issuer.publicIssuerId ∧ id ∈ JsObject.keys record.credentialConfigurationsSupported

/-- A state from which the calls begin. The agent gives every issuer an id of its own. -/
structure Starts (svc : Setting) (s : State) : Prop where
  calls : s.calls = []
  pushes : s.pushes = []
  matches_ : Matches svc s
  publicIssuerId : (s.db.oidc_issuer.rows.map OidcIssuer.publicIssuerId).Nodup
  formats : ∀ template ∈ s.db.credential_templates.rows, Agrees template.format
structure Touch where
  id : String
  before : Option CredentialTemplate
  written : Option CredentialTemplate
  mark : Nat
def Job.touch (mark : Nat) : Job → Option Touch
  | .createTemplate created => some ⟨created.id,none,some created,mark⟩
  | .updateTemplate _ before updated => some ⟨before.id,some before,some updated,mark⟩
  | .deleteTemplate deleted => some ⟨deleted.id,some deleted,none,mark⟩
  | .oidcIssuerUpdate _ => none
def Process.touch : Process → Option Touch
  | .telling job _ mark _ => job.touch mark
  | .compensating job _ mark => job.touch mark
  | _ => none

section
variable (svc : Setting) (s : State) (call : Nat) (answer : Answer)

/-- A list of the issuer has reached the agent since the mark. -/
def Since (mark : Nat) (issuerId : String) : Prop := issuerId ∈ s.pushes.take (s.pushes.length - mark)
/-- No other call in flight is about to touch the template. -/
def Apart (templateId : String) : Prop :=
  ∀ other ∈ s.calls.eraseIdx call, ∀ touch ∈ other.touch, touch.id ≠ templateId
/-- No other template of the issuer has the key. -/
def Free (row : CredentialTemplate) : Prop :=
  ∀ other ∈ s.db.credential_templates.rows, other.id ≠ row.id → other.issuerId = row.issuerId →
    configKey other ≠ configKey row
def Job.stays (issuerId : String) : Job → Prop
  | .updateTemplate _ before _ => before.issuerId = issuerId
  | _ => True

/-- What a compensation puts back is what the call has replaced, and no list has gone out in between. -/
def Job.intact (mark : Nat) : Job → Prop
  | .createTemplate created => ¬Since s mark created.issuerId
  | .updateTemplate template before updated =>
    template = before ∧ ¬Since s mark before.issuerId ∧ ¬Since s mark updated.issuerId ∧ Free s template
  | _ => True
def Job.isDelete : Job → Bool
  | .deleteTemplate _ => true
  | _ => false

/-- What a step must meet: `free` of the row that it writes, `fresh` of the list that it pushes. -/
def Serves (free : CredentialTemplate → Prop) (fresh : String → List CredentialTemplate → Prop) : Process → Prop
  | .createTemplate id dto issuerId .createTemplate => (insertTemplate s.db (dto.row id issuerId)).isOk = true →
    Apart s call id ∧ free (dto.row id issuerId) ∧ Agrees dto.format
  | .updateTemplate templateId dto issuerId (.updateTemplate _) => ∀ before ∈ s.db.credential_templates.find templateId,
    (storeUpdate s templateId (dto.applied issuerId before)).isOk = true →
      Apart s call templateId ∧ free (dto.applied issuerId before) ∧ Agrees (dto.applied issuerId before).format
  | .deleteTemplate templateId issuerId .deleteTemplate => ∀ deleted ∈ s.db.credential_templates.find templateId,
    Apart s call templateId ∧ deleted.issuerId = issuerId
  | .telling job issuerId _ (._createOIDCTemplate publicIssuerId templates) =>
    if (pushed svc s answer publicIssuerId templates).isSome then
      fresh issuerId templates ∧ job.stays issuerId
    else job.isDelete = false
  | .telling job issuerId _ at_ => job.isDelete = true → (pushNext svc s job issuerId at_).isSome = true
  | .compensating job _ mark => (compensate s job).isOk = true ∧ job.intact s mark
  | .deleteOidcIssuer id (.deleteTemplatesByIssuerId _ _) =>
    ∀ other ∈ s.calls.eraseIdx call, ∀ touch ∈ other.touch, ∀ row ∈ touch.written, row.issuerId ≠ id
  | .deleteOidcIssuer id (.deleteOidcIssuer _ _ emptied) =>
    emptied = true → (s.db.oidc_issuer.find id).isSome = true → (deleteIssuerRow s.db id).isOk = true
  | .deleteOidcIssuer _ (._deleteOidcIssuer publicIssuerId issuerRecordId) =>
    answer = .ok ∧ ∀ record ∈ s.agent.rows, record.id = issuerRecordId ↔ record.publicIssuerId = publicIssuerId
  | _ => True

instance (mark : Nat) (issuerId : String) : Decidable (Since s mark issuerId) :=
  inferInstanceAs (Decidable (issuerId ∈ s.pushes.take (s.pushes.length - mark)))
instance (templateId : String) : Decidable (Apart s call templateId) :=
  inferInstanceAs (Decidable (∀ other ∈ s.calls.eraseIdx call, ∀ touch ∈ other.touch, touch.id ≠ templateId))
instance (row : CredentialTemplate) : Decidable (Free s row) :=
  inferInstanceAs
      (Decidable (∀ other ∈ s.db.credential_templates.rows, other.id ≠ row.id → other.issuerId = row.issuerId →
    configKey other ≠ configKey row))
instance (issuerId : String) : (job : Job) → Decidable (job.stays issuerId)
  | .updateTemplate _ before _ => inferInstanceAs (Decidable (before.issuerId = issuerId))
  | .createTemplate _ => .isTrue trivial
  | .deleteTemplate _ => .isTrue trivial
  | .oidcIssuerUpdate _ => .isTrue trivial

instance (mark : Nat) : (job : Job) → Decidable (job.intact s mark)
  | .createTemplate created => inferInstanceAs (Decidable ¬Since s mark created.issuerId)
  | .updateTemplate template before updated => inferInstanceAs (Decidable
      (template = before ∧ ¬Since s mark before.issuerId ∧ ¬Since s mark updated.issuerId ∧ Free s template))
  | .deleteTemplate _ => .isTrue trivial
  | .oidcIssuerUpdate _ => .isTrue trivial
instance (free : CredentialTemplate → Prop) (fresh : String → List CredentialTemplate → Prop) [DecidablePred free]
    [∀ issuerId templates, Decidable (fresh issuerId templates)] (process : Process) :
    Decidable (Serves svc s call answer free fresh process) := by
  unfold Serves
  split <;> infer_instance
/-- With it the step keeps the agent and the rows in step. -/
def Fine : Process → Prop :=
  Serves svc s call answer (Free s) fun issuerId templates => templates = getTemplatesByIssuerId s.db issuerId

/-- The templates of the issuer that a check for their name meets. -/
def met (issuerId : String) : List CredentialTemplate :=
  (getTemplatesByIssuerId s.db issuerId).filter fun template => svc.insensitive template.name template.name
/-- What a step reads of the templates of its issuer: the list, or those whose names a check holds against
    the request, which are none without a name or under the own one. -/
def Process.reads : Process → Option (List CredentialTemplate)
  | .createTemplate _ _ issuerId .getTemplateByNameForIssuer => some (met svc s issuerId)
  | .updateTemplate templateId dto issuerId (.getTemplateByNameForIssuer _) =>
    (dto.name.filter (· ≠ "")).bind fun name =>
      if (getTemplateByNameForIssuer s.db svc.insensitive name issuerId).any fun item => item.id = templateId then none
      else some (met svc s issuerId)
  | .telling _ issuerId _ (.buildTemplates _) => some (getTemplatesByIssuerId s.db issuerId)
  | _ => none
/-- What each call has read is noted. -/
def note : Action → State → (Nat → List CredentialTemplate) → Nat → List CredentialTemplate
  | .advance call _,_,seen => (s.calls[call]?.bind (Process.reads svc s)).elim seen (Function.update seen call)
  | _,_,seen => seen
/-- No template with the key has come to the issuer since those were seen. -/
def Alone (seen : List CredentialTemplate) (row : CredentialTemplate) : Prop :=
  ∀ other ∈ s.db.credential_templates.rows, other.id ≠ row.id → other.issuerId = row.issuerId → other ∉ seen →
    configKey other ≠ configKey row
instance (seen : List CredentialTemplate) (row : CredentialTemplate) : Decidable (Alone s seen row) :=
  inferInstanceAs
      (Decidable (∀ other ∈ s.db.credential_templates.rows, other.id ≠ row.id → other.issuerId = row.issuerId →
    other ∉ seen → configKey other ≠ configKey row))

end
section
variable (svc : Setting)

/-- A list is pushed only while the templates of the issuer are as they were when it was read, and by an update
    that does not move the template; a compensation finds everything as its call has left it; a deletion is told
    to the agent; no two calls work on one template, and after the check for its name no template gets a key that
    has come to the issuer since. -/
def Meets (s : State × (Nat → List CredentialTemplate)) : Action → Prop
  | .advance call answer => ∀ process, s.1.calls[call]? = some process →
    Serves svc s.1 call answer (Alone s.1 (s.2 call))
    (fun issuerId _ => s.2 call = getTemplatesByIssuerId s.1.db issuerId)
      process
  | _ => True
instance (s : State × (Nat → List CredentialTemplate)) : (action : Action) → Decidable (Meets svc s action)
  | .advance call answer => inferInstanceAs (Decidable (∀ process ∈ s.1.calls[call]?,
    Serves svc s.1 call answer (Alone s.1 (s.2 call))
    (fun issuerId _ => s.2 call = getTemplatesByIssuerId s.1.db issuerId)
      process))
  | .createTemplate _ _ _ => .isTrue trivial
  | .updateTemplate _ _ _ => .isTrue trivial
  | .deleteTemplate _ _ => .isTrue trivial
  | .oidcIssuerUpdate _ _ => .isTrue trivial
  | .deleteOidcIssuer _ => .isTrue trivial

end

/-- One template is written, and nothing else. -/
structure Changes (db after : Database) (id : String) (written : Option CredentialTemplate) : Prop where
  issuers : after.oidc_issuer = db.oidc_issuer
  others : ∀ row : CredentialTemplate, row.id ≠ id →
      (row ∈ after.credential_templates.rows ↔ row ∈ db.credential_templates.rows)
  now : after.credential_templates.find id = written

section
variable {db after : Database} {svc : Setting} {s t : State} {templateId : String}
    {template updated : CredentialTemplate}

theorem store_ok {issuers : Keyed OidcIssuer.id} {templates : Keyed CredentialTemplate.id}
    (stored : db.store issuers templates = .ok after) :
    after.oidc_issuer = issuers ∧ after.credential_templates = templates := by
  unfold Database.store at stored
  split at stored
  · cases stored
    exact ⟨rfl,rfl⟩
  · cases stored

theorem insertTemplate_changes (stored : insertTemplate db template = .ok after) :
    db.credential_templates.find template.id = none ∧ Changes db after template.id (some template) := by
  unfold insertTemplate at stored
  split at stored
  · cases stored
  · rename_i templates inserted
    obtain ⟨free,content⟩ := Keyed.insert_some.mp inserted
    obtain ⟨issuers,rows⟩ := store_ok stored
    refine ⟨free,issuers,fun row apart => ?_,?_⟩
    · rw [rows,content,List.mem_cons]
      exact or_iff_right fun same => apart (same ▸ rfl)
    · rw [rows]
      exact Keyed.find_some.mpr ⟨content ▸ List.mem_cons_self,rfl⟩

theorem storeUpdate_changes (is : updated.id = templateId) (stored : storeUpdate s templateId updated = .ok after) :
    Changes s.db after templateId (some updated) := by
  unfold storeUpdate changeTemplate at stored
  split at stored
  · rename_i there
    obtain ⟨old,found⟩ := Option.isSome_iff_exists.mp there
    obtain ⟨listed,same⟩ := Keyed.find_some.mp found
    obtain ⟨issuers,rows⟩ := store_ok stored
    refine ⟨issuers,fun row apart => ?_,?_⟩
    · rw [rows,Keyed.mem_change]
      constructor
      · rintro (⟨old,-⟩ | ⟨old,-,of_,rfl⟩)
        · exact old
        · exact absurd of_ apart
      · exact fun old => .inl ⟨old,apart⟩
    · rw [rows]
      refine Keyed.find_some.mpr ⟨Keyed.mem_change.mpr (.inr ⟨old,listed,same,?_⟩),is⟩
      rw [same,← is]
  · cases stored

theorem storeRemoval_changes (stored : storeRemoval s templateId = .ok after) : Changes s.db after templateId none := by
  unfold storeRemoval removeTemplate at stored
  split at stored
  · obtain ⟨issuers,rows⟩ := store_ok stored
    refine ⟨issuers,fun row apart => ?_,?_⟩
    · rw [rows,Keyed.mem_delete]
      exact and_iff_left (decide_eq_false apart)
    · rw [rows]
      exact Keyed.find_none.mpr fun row there => of_decide_eq_false (Keyed.mem_delete.mp there).2
  · cases stored

end

def State.touchAt (s : State) (call : Nat) : Option Touch := s.calls[call]?.bind Process.touch
/-- A row of the issuer before the writes that no list has passed since. -/
def Was (s : State) (issuerId : String) (row : CredentialTemplate) : Prop :=
  row.issuerId = issuerId ∧
    ((∃ call touch, s.touchAt call = some touch ∧ touch.id = row.id ∧ ¬Since s touch.mark issuerId ∧ touch.before = some row) ∨
      (∀ call touch, s.touchAt call = some touch → touch.id = row.id → Since s touch.mark issuerId) ∧
        row ∈ s.db.credential_templates.rows)

/-- The configurations of the rows of then. -/
def Shown (svc : Setting) (s : State) (issuerId : String) (configs : List (String × CredentialConfig)) : Prop :=
  ∃ rows : List CredentialTemplate, (rows.map configKey).Nodup ∧ (∀ row, row ∈ rows ↔ Was s issuerId row) ∧
    ∃ built, rows.mapM (configOf svc.columns) = some built ∧ configs.Perm built
def Process.empties : Process → Option String
  | .deleteOidcIssuer id (.deleteOidcIssuer _ _ true) => some id
  | _ => none
def Process.deletes : Process → Option String
  | .deleteOidcIssuer _ (._deleteOidcIssuer publicIssuerId _) => some publicIssuerId
  | _ => none

/-- The id of an issuer on the agent that a call goes on with, beside that of the issuer. -/
def Process.names : Process → Option (String × String)
  | .oidcIssuerUpdate config _ (.updateOidcIssuerDetails publicIssuerId) => some (config.issuerId,publicIssuerId)
  | .telling _ issuerId _ (._createOIDCTemplate publicIssuerId _) => some (issuerId,publicIssuerId)
  | .telling (.oidcIssuerUpdate publicIssuerId) issuerId _ _ => some (issuerId,publicIssuerId)
  | .deleteOidcIssuer id (._oidcGetIssuerById publicIssuerId) => some (id,publicIssuerId)
  | .deleteOidcIssuer id (.getTemplatesByIssuerId publicIssuerId _) => some (id,publicIssuerId)
  | .deleteOidcIssuer id (.deleteTemplatesByIssuerId publicIssuerId _) => some (id,publicIssuerId)
  | .deleteOidcIssuer id (.deleteOidcIssuer publicIssuerId _ _) => some (id,publicIssuerId)
  | _ => none

/-- The issuer is stored under this public id. -/
def Issued (db : Database) (issuerId publicIssuerId : String) : Prop :=
  ∃ issuer ∈ db.oidc_issuer.rows, issuer.id = issuerId ∧ issuer.publicIssuerId = publicIssuerId
/-- The two ids are of one issuer and of no other. -/
def Named (s : State) (issuerId publicIssuerId : String) : Prop :=
  ∀ id publicId, Issued s.db id publicId → (id = issuerId ↔ publicId = publicIssuerId)
def Job.aims (issuerId : String) : Job → Prop
  | .createTemplate created => created.issuerId = issuerId
  | .updateTemplate template before updated => updated.id = before.id ∧ template.id = before.id ∧
    (updated.issuerId = issuerId ∨ updated.issuerId = before.issuerId)
  | .deleteTemplate deleted => deleted.issuerId = issuerId
  | .oidcIssuerUpdate _ => True
def Process.aims : Process → Prop
  | .telling job issuerId _ _ => job.aims issuerId
  | .compensating job issuerId _ => job.aims issuerId
  | .updateTemplate templateId _ _ (.getTemplateByNameForIssuer template) => template.id = templateId
  | .updateTemplate templateId _ _ (.updateTemplate template) => template.id = templateId
  | _ => True
/-- Of the calls alone. -/
structure Touches (s : State) : Prop where
  marks : ∀ call touch, s.touchAt call = some touch → touch.mark ≤ s.pushes.length
  alone : ∀ call other touch touch', s.touchAt call = some touch → s.touchAt other = some touch' →
    touch.id = touch'.id → call = other
  written : ∀ call touch, s.touchAt call = some touch → s.db.credential_templates.find touch.id = touch.written
  before : ∀ call touch row, s.touchAt call = some touch → touch.before = some row → row.id = touch.id ∧
      Agrees row.format
  aims : ∀ process ∈ s.calls, process.aims
/-- The templates of an issuer have different keys, and their format fits. -/
structure Rows (s : State) : Prop where
  keys : ∀ row ∈ s.db.credential_templates.rows, ∀ other ∈ s.db.credential_templates.rows,
    other.issuerId = row.issuerId → configKey other = configKey row → other.id = row.id
  agrees : ∀ row ∈ s.db.credential_templates.rows, Agrees row.format
structure Issuers (s : State) : Prop where
  alone : ∀ id id' publicId, Issued s.db id publicId → Issued s.db id' publicId → id = id'
  names : ∀ process ∈ s.calls, ∀ issuerId publicIssuerId, process.names = some (issuerId,publicIssuerId) →
    Named s issuerId publicIssuerId
  deletes : ∀ process ∈ s.calls, ∀ publicId, process.deletes = some publicId → ∀ id, ¬Issued s.db id publicId
  rowed : ∀ record ∈ s.agent.rows, (∃ id, Issued s.db id record.publicIssuerId) ∨
    ∃ process ∈ s.calls, process.deletes = some record.publicIssuerId
/-- What an issuer has on the agent is shown, unless a call in flight has yet to push it. -/
def Told (svc : Setting) (s : State) : Prop :=
  ∀ id publicId, Issued s.db id publicId → (∀ process ∈ s.calls, process.empties ≠ some id) →
    ∃ record ∈ s.agent.rows, record.publicIssuerId = publicId ∧ Shown svc s id record.credentialConfigurationsSupported
/-- What holds between any two operations, calls in flight included. -/
structure Sound (svc : Setting) (s : State) : Prop where
  touches : Touches s
  rows : Rows s
  issuers : Issuers s
  told : Told svc s

variable {svc : Setting} {s t : State} {call other : Nat} {process : Process} {done : State × Process} {touch : Touch}
  {issuerId templateId : String} {row : CredentialTemplate}
theorem touchAt_now (now : s.calls[call]? = some process) : s.touchAt call = process.touch := by
  rw [State.touchAt,now]
  rfl
theorem touchAt_set (now : s.calls[call]? = some process) (calls : done.1.calls = s.calls) (other : Nat) :
    (State.set call done).touchAt other = if other = call then done.2.touch else s.touchAt other := by
  have there : call < done.1.calls.length := calls ▸ (List.getElem?_eq_some_iff.mp now).1
  unfold State.touchAt State.set
  dsimp only
  by_cases same : other = call
  · subst same
    rw [if_pos rfl,List.getElem?_set_self there]
    rfl
  · rw [if_neg same,List.getElem?_set_ne (Ne.symm same),calls]
theorem touchAt_other (apart : other ≠ call) (held : s.touchAt other = some touch) :
    ∃ p ∈ s.calls.eraseIdx call, p.touch = some touch := by
  obtain ⟨p,there,is⟩ := Option.bind_eq_some_iff.mp held
  exact ⟨p,List.mem_eraseIdx_iff_getElem?.mpr ⟨other,apart,there⟩,is⟩
theorem apart_other (alone : Apart s call templateId) (apart : other ≠ call) (held : s.touchAt other = some touch) :
    touch.id ≠ templateId := by
  obtain ⟨p,there,is⟩ := touchAt_other apart held
  exact alone p there touch is

theorem was_congr
    (touches : ∀ call touch, touch.id = row.id → (t.touchAt call = some touch ↔ s.touchAt call = some touch))
    (since : ∀ call touch, s.touchAt call = some touch → touch.id = row.id → (Since t touch.mark issuerId ↔ Since s touch.mark issuerId))
    (there : row.issuerId = issuerId → (row ∈ t.db.credential_templates.rows ↔ row ∈ s.db.credential_templates.rows)) :
    Was t issuerId row ↔ Was s issuerId row := by
  unfold Was
  refine and_congr_right fun own => or_congr ?_ (and_congr ?_ (there own))
  · refine exists_congr fun call => exists_congr fun touch => ?_
    constructor
    · rintro ⟨held,is,open_,before⟩
      have held' := (touches call touch is).mp held
      exact ⟨held',is,fun passed => open_ ((since call touch held' is).mpr passed),before⟩
    · rintro ⟨held,is,open_,before⟩
      exact ⟨(touches call touch is).mpr held,is,fun passed => open_ ((since call touch held is).mp passed),before⟩
  · constructor
    · intro all call touch held is
      exact (since call touch held is).mp (all call touch ((touches call touch is).mpr held) is)
    · intro all call touch held is
      have held' := (touches call touch is).mp held
      exact (since call touch held' is).mpr (all call touch held' is)

theorem was_open (touches : Touches s) (held : s.touchAt call = some touch) (is : touch.id = row.id)
    (open_ : ¬Since s touch.mark issuerId) : Was s issuerId row ↔ row.issuerId = issuerId ∧ touch.before = some row := by
  refine and_congr_right fun _ => ?_
  constructor
  · rintro (⟨other,touch',held',is',-,before⟩ | ⟨closed,-⟩)
    · obtain rfl := touches.alone other call touch' touch held' held (is'.trans is.symm)
      obtain rfl := Option.some.inj (held.symm.trans held')
      exact before
    · exact absurd (closed call touch held is) open_
  · exact fun before => .inl ⟨call,touch,held,is,open_,before⟩
theorem was_closed
    (closed : ∀ call touch, s.touchAt call = some touch → touch.id = row.id → Since s touch.mark issuerId) :
    Was s issuerId row ↔ row.issuerId = issuerId ∧ row ∈ s.db.credential_templates.rows := by
  refine and_congr_right fun _ => ?_
  constructor
  · rintro (⟨call,touch,held,is,open_,-⟩ | ⟨-,there⟩)
    · exact absurd (closed call touch held is) open_
    · exact there
  · exact fun there => .inr ⟨closed,there⟩
theorem shown_congr {configs : List (String × CredentialConfig)} (was : ∀ row, Was t issuerId row ↔ Was s issuerId row)
    (shown : Shown svc s issuerId configs) : Shown svc t issuerId configs := by
  obtain ⟨rows,keys,rows_was,built⟩ := shown
  exact ⟨rows,keys,fun row => (rows_was row).trans (was row).symm,built⟩
theorem since_congr (pushes : t.pushes = s.pushes) (mark : Nat) (issuerId : String) :
    Since t mark issuerId ↔ Since s mark issuerId := by
  rw [Since,Since,pushes]
theorem since_cons {pushedId : String} {mark : Nat} (pushes : t.pushes = pushedId :: s.pushes)
    (past : mark ≤ s.pushes.length) :
    Since t mark issuerId ↔ issuerId = pushedId ∨ Since s mark issuerId := by
  rw [Since,Since,pushes,List.length_cons,Nat.succ_sub past,List.take_succ_cons,List.mem_cons]
theorem not_since_new : ¬Since s s.pushes.length issuerId := by
  unfold Since
  rw [Nat.sub_self,List.take_zero]
  exact nofun

end Ngotag.TemplateCalls
