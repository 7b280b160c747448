import Ngotag.IssuerIsolation
import Ngotag.Survival

/-!
The compensation of a template write that the agent does not take: a new row is deleted again, a changed one is set
back. The error of the agent is raised inside the `try` that is there for the compensating write, and of the two
operations only the update looks at a falsy answer inside. `honest_iff` says when a call is all or nothing and says so.
-/
namespace Ngotag.TemplateCompensation
open KeyedTable
open Survival
open IssuerTemplates
open IssuerIsolation (removeTemplate_ok insertTemplate_ok)

/-- What becomes of the compensating write. -/
inductive Write where
  | done
  | fails
  /-- It is done, but its answer does not arrive. -/
  | unanswered
  deriving DecidableEq
inductive Raised where
  | failure (failure : Failure)
  /-- `Template creation failed and cleanup also failed` -/
  | cleanupFailed
  /-- `Template update failed and rollback also failed`, with both errors. -/
  | rollbackFailed (agentError rollbackError : Raised)
  deriving DecidableEq
/-- Whether the error says that the compensation failed. -/
def Raised.blaming : Raised → Bool
  | .failure _ => false
  | .cleanupFailed => true
  | .rollbackFailed _ _ => true
/-- Where a call has got to: what is stored, whether the agent was turned to and whether the compensating write, if
    there was one, succeeded. -/
structure Progress where
  db : Database
  asked : Bool
  compensated : Option Bool

/-- The configuration, the rows and the agent, in the state after the first write. -/
abbrev AgentStep := Database → Except Failure (Option Response)
abbrev Step := Call Progress Raised
def raise {α : Type} (failure : Failure) : Step α := throw (.failure failure)
def query {α : Type} (f : Database → α) : Step α := ⟨fun s => (.ok (f s.db),s)⟩
def write (statement : Database → Except Failure Database) : Step Unit where
  run s :=
    match statement s.db with
    | .error failure => (.error (.failure failure),s)
    | .ok db => (.ok (),{ s with db := db })
def ask (agent : AgentStep) : Step (Option Response) where
  run s :=
    match agent s.db with
    | .error failure => (.error (.failure failure),{ s with asked := true })
    | .ok answer => (.ok answer,{ s with asked := true })

def compensate (fate : Write) (statement : Database → Except Failure Database) : Step Unit where
  run s :=
    match statement s.db with
    | .error failure => (.error (.failure failure),{ s with compensated := some false })
    | .ok db =>
      match fate with
      | .done => (.ok (),{ s with db := db, compensated := some true })
      | .fails => (.error (.failure .database),{ s with compensated := some false })
      | .unanswered => (.error (.failure .database),{ s with db := db, compensated := some false })

section
variable (insensitive : String → String → Bool) (agent : AgentStep) (fate : Write)

def createTemplate (id : String) (dto : CreateCredentialTemplate) (issuerId : String) : Step CredentialTemplate := do
  let checkNameExist ← query fun db => getTemplateByNameForIssuer db insensitive dto.name issuerId
  if checkNameExist ≠ [] then raise (conflict "Template name already exists for this issuer.")
  else
    write fun db => insertTemplate db (dto.row id issuerId)
    let createTemplateOnAgent ←
      try ask agent
      catch agentError =>
        try
          compensate fate fun db => removeTemplate db id
          throw agentError
        catch _ => throw .cleanupFailed
    if createTemplateOnAgent.isNone then raise (notFound "Agent details not found")
    else return dto.row id issuerId

def updateTemplate (templateId : String) (dto : UpdateCredentialTemplate) (issuerId : String) :
    Step CredentialTemplate := do
  match ← query fun db => getTemplateById db templateId with
  | none => raise (notFound "OID4VC template not found.")
  | some template =>
    if ← query fun db => nameTaken db insensitive templateId dto issuerId then
      raise (conflict "Template name already exists for this issuer.")
    else
      write fun db => changeTemplate db templateId (dto.applied issuerId) applied_id
      try
        let createTemplateOnAgent ← ask agent
        if createTemplateOnAgent.isNone then raise (notFound "Agent details not found")
        else pure ()
      catch agentError =>
        try
          compensate fate fun db => changeTemplate db templateId (fun row => { template with id := row.id }) replaced_id
          throw agentError
        catch rollbackError => throw (.rollbackFailed agentError rollbackError)
      return dto.applied issuerId template

inductive Request where
  | createTemplate (id : String) (dto : CreateCredentialTemplate) (issuerId : String)
  | updateTemplate (templateId : String) (dto : UpdateCredentialTemplate) (issuerId : String)
def Request.templateId : Request → String
  | .createTemplate id _ _ => id
  | .updateTemplate templateId _ _ => templateId
def Request.call : Request → Step CredentialTemplate
  | .createTemplate id dto issuerId => TemplateCompensation.createTemplate insensitive agent fate id dto issuerId
  | .updateTemplate templateId dto issuerId =>
      TemplateCompensation.updateTemplate insensitive agent fate templateId dto issuerId
def Request.run (db : Database) (request : Request) : Except Raised CredentialTemplate × Progress :=
  (request.call insensitive agent fate).run ⟨db,false,none⟩

/-- What the first write makes of the rows, where a call gets there. -/
def Request.first (db : Database) : Request → Option Database
  | .createTemplate id dto issuerId =>
    if getTemplateByNameForIssuer db insensitive dto.name issuerId ≠ [] then none
    else (insertTemplate db (dto.row id issuerId)).toOption
  | .updateTemplate templateId dto issuerId =>
    if (getTemplateById db templateId).isNone ∨ nameTaken db insensitive templateId dto issuerId then none
    else (changeTemplate db templateId (dto.applied issuerId) applied_id).toOption

end

/-- The error of an agent step; a falsy answer is one. -/
def agentError : Except Failure (Option Response) → Option Failure
  | .error failure => some failure
  | .ok none => some (notFound "Agent details not found")
  | .ok (some _) => none

section
variable {db after : Database} {insensitive : String → String → Bool} {agent : AgentStep} {fate : Write}
    {request : Request}

theorem database_eq {other : Database} (issuers : other.oidc_issuer = db.oidc_issuer)
    (templates : other.credential_templates.rows = db.credential_templates.rows)
    (agents : other.org_agents = db.org_agents)
    (types : other.org_agents_type = db.org_agents_type) : other = db := by
  obtain ⟨_,⟨_,_⟩,_,_,_⟩ := db
  obtain ⟨_,⟨_,_⟩,_,_,_⟩ := other
  cases issuers
  cases templates
  cases agents
  cases types
  rfl

variable {template : CredentialTemplate}
theorem removeTemplate_inserted (stored : insertTemplate db template = .ok after) :
    removeTemplate after template.id = .ok db := by
  obtain ⟨back,removed⟩ : ∃ back, removeTemplate after template.id = .ok back := removeTemplate_ok template.id
  obtain ⟨fresh,-,issuers,agents,content⟩ := insertTemplate_ok stored
  rw [removed]
  unfold removeTemplate Database.store at removed
  split at removed
  · cases removed
    have types : after.org_agents_type = db.org_agents_type := by
      unfold insertTemplate Database.store at stored
      split at stored
      · cases stored
      · split at stored
        · cases stored; rfl
        · cases stored
    refine congrArg Except.ok (database_eq issuers ?_ agents types)
    change after.credential_templates.rows.filter (fun row => !decide (row.id = template.id)) = _
    rw [content,List.filter_cons_of_neg (by simp)]
    exact List.filter_eq_self.mpr fun row listed => by simpa using Keyed.find_none.mp fresh row listed
  · cases removed

theorem changeTemplate_back {templateId : String} {f : CredentialTemplate → CredentialTemplate}
    {kept : ∀ template, (f template).id = template.id} (found : getTemplateById db templateId = some template)
    (changed : changeTemplate db templateId f kept = .ok after) :
    changeTemplate after templateId (fun row => { template with id := row.id }) (fun _ => rfl) = .ok db := by
  obtain ⟨listed,is⟩ := Keyed.find_some.mp found
  unfold changeTemplate Database.store at changed
  split at changed
  · cases changed
    have rows : ((db.credential_templates.change templateId f kept).change templateId
        (fun row => { template with id := row.id }) fun _ => rfl).rows = db.credential_templates.rows := by
      simp only [Keyed.change,List.map_map]
      refine (List.map_congr_left fun row there => ?_).trans (List.map_id _)
      by_cases own : row.id = templateId
      · have same := db.credential_templates.eq_of_key there listed (own.trans is.symm)
        subst same
        subst own
        simp [kept]
      · simp [own]
    unfold changeTemplate Database.store
    rw [dif_pos fun row there => db.issuerId_fkey row (rows ▸ there)]
    exact congrArg Except.ok (database_eq rfl rows rfl rfl)
  · cases changed

/-- What is left after a compensating write that would set everything back. -/
def Write.leaves (fate : Write) (db after : Database) : Progress :=
  ⟨if fate = .fails then after else db,true,some (fate = .done)⟩
/-- The error that the handler of the compensation is given. -/
def Write.raises (fate : Write) (raised : Raised) : Raised := if fate = .done then raised else .failure .database

variable {statement : Database → Except Failure Database}
theorem compensate_back {α : Type} (undone : statement after = .ok db) (raised : Raised) (handler : Raised → Step α) :
    (tryCatch (do compensate fate statement; throw raised) handler).run ⟨after,true,none⟩ =
      (handler (fate.raises raised)).run (fate.leaves db after) := by
  cases fate with
  | done =>
    have body : (compensate .done statement).run ⟨after,true,none⟩ = (.ok (),⟨db,true,some true⟩) := by
      simp only [compensate,undone]
    exact try_error (bind_ok body)
  | fails =>
    have body : (compensate .fails statement).run
        ⟨after,true,none⟩ = (.error (.failure .database),⟨after,true,some false⟩) := by
      simp only [compensate,undone]
    exact try_error (bind_error body)
  | unanswered =>
    have body : (compensate .unanswered statement).run
        ⟨after,true,none⟩ = (.error (.failure .database),⟨db,true,some false⟩) := by
      simp only [compensate,undone]
    exact try_error (bind_error body)

theorem ask_ok {answer : Option Response} (answered : agent after = .ok answer) :
    (ask agent).run ⟨after,false,none⟩ = (.ok answer,⟨after,true,none⟩) := by
  simp only [ask,answered]

variable {failure : Failure}
theorem ask_error (refused : agent after = .error failure) :
    (ask agent).run ⟨after,false,none⟩ = (.error (.failure failure),⟨after,true,none⟩) := by
  simp only [ask,refused]
theorem query_eq {α : Type} {f : Database → α} {a : α} {s : Progress} (is : f s.db = a) : (query f).run s = (.ok a,s) :=
  congrArg (fun a => (Except.ok a,s)) is
theorem write_ok (stored : statement db = .ok after) :
    (write statement).run ⟨db,false,none⟩ = (.ok (),⟨after,false,none⟩) := by
  simp only [write,stored]
theorem write_error (refused : statement db = .error failure) :
    (write statement).run ⟨db,false,none⟩ = (.error (.failure failure),⟨db,false,none⟩) := by
  simp only [write,refused]
theorem toOption_some {α : Type} {e : Except Failure α} {a : α} : e.toOption = some a ↔ e = .ok a := by
  cases e <;> simp [Except.toOption]
theorem first_create {id issuerId : String} {dto : CreateCredentialTemplate} :
    (Request.createTemplate id dto issuerId).first insensitive db = some after ↔
      getTemplateByNameForIssuer db insensitive dto.name issuerId = [] ∧ insertTemplate db
      (dto.row id issuerId) = .ok after := by
  rw [Request.first,← toOption_some]
  by_cases free : getTemplateByNameForIssuer db insensitive dto.name issuerId = []
  · simp [free]
  · simp [free]

variable {templateId issuerId : String} {dto : UpdateCredentialTemplate}
theorem first_update :
    (Request.updateTemplate templateId dto issuerId).first insensitive db = some after ↔
      (∃ template, getTemplateById db templateId = some template) ∧
      nameTaken db insensitive templateId dto issuerId = false ∧
        changeTemplate db templateId (dto.applied issuerId) (fun _ => rfl) = .ok after := by
  rw [Request.first,← toOption_some]
  cases found : getTemplateById db templateId with
  | none => simp
  | some template =>
    by_cases taken : nameTaken db insensitive templateId dto issuerId = true
    · simp [taken]
    · simp [taken]

structure Refused (db : Database) (out : Except Raised CredentialTemplate × Progress) : Prop where
  error : ∃ failure, out.1 = .error (.failure failure)
  unchanged : out.2 = ⟨db,false,none⟩

theorem create_taken {id issuerId : String} {dto : CreateCredentialTemplate}
    (taken : getTemplateByNameForIssuer db insensitive dto.name issuerId ≠ []) :
    (Request.createTemplate id dto issuerId).run insensitive agent fate db =
      (.error (.failure (conflict "Template name already exists for this issuer.")),⟨db,false,none⟩) := by
  change (createTemplate insensitive agent fate id dto issuerId).run ⟨db,false,none⟩ = _
  unfold createTemplate
  rw [bind_ok (query_eq rfl),if_pos taken]
  rfl
theorem create_unstored {id issuerId : String} {dto : CreateCredentialTemplate}
    (free : getTemplateByNameForIssuer db insensitive dto.name issuerId = [])
    (refused : insertTemplate db (dto.row id issuerId) = .error failure) :
    (Request.createTemplate id dto issuerId).run insensitive agent fate db =
      (.error (.failure failure),⟨db,false,none⟩) := by
  change (createTemplate insensitive agent fate id dto issuerId).run ⟨db,false,none⟩ = _
  unfold createTemplate
  rw [bind_ok (query_eq rfl),if_neg (not_not.mpr free),bind_error (write_error refused)]

theorem create_refused {id issuerId : String} {dto : CreateCredentialTemplate}
    (none_ : (Request.createTemplate id dto issuerId).first insensitive db = none) :
    Refused db ((Request.createTemplate id dto issuerId).run insensitive agent fate db) := by
  by_cases free : getTemplateByNameForIssuer db insensitive dto.name issuerId = []
  · cases stored : insertTemplate db (dto.row id issuerId) with
    | ok after => cases none_.symm.trans (first_create.mpr ⟨free,stored⟩)
    | error failure =>
      rw [create_unstored free stored]
      exact ⟨⟨failure,rfl⟩,rfl⟩
  · rw [create_taken free]
    exact ⟨⟨_,rfl⟩,rfl⟩

theorem create_inserted {id issuerId : String} {dto : CreateCredentialTemplate}
    (first : (Request.createTemplate id dto issuerId).first insensitive db = some after) :
    (Request.createTemplate id dto issuerId).run insensitive agent fate db =
      match agent after with
      | .ok (some _) => (.ok (dto.row id issuerId),⟨after,true,none⟩)
      | .ok none => (.error (.failure (notFound "Agent details not found")),⟨after,true,none⟩)
      | .error _ => (.error .cleanupFailed,fate.leaves db after) := by
  obtain ⟨free,stored⟩ := first_create.mp first
  change (createTemplate insensitive agent fate id dto issuerId).run ⟨db,false,none⟩ = _
  unfold createTemplate
  rw [bind_ok (query_eq rfl),if_neg (not_not.mpr free),bind_ok (write_ok stored)]
  cases answered : agent after with
  | error failure =>
    have undone : removeTemplate after id = .ok db := removeTemplate_inserted stored
    refine bind_error ((try_error (ask_error answered)).trans ?_)
    exact compensate_back undone _ _
  | ok answer =>
    rw [bind_ok (try_ok (ask_ok answered))]
    cases answer <;> rfl

theorem update_missing (missing : getTemplateById db templateId = none) :
    (Request.updateTemplate templateId dto issuerId).run insensitive agent fate db =
      (.error (.failure (notFound "OID4VC template not found.")),⟨db,false,none⟩) := by
  change (updateTemplate insensitive agent fate templateId dto issuerId).run ⟨db,false,none⟩ = _
  unfold updateTemplate
  rw [bind_ok (query_eq missing)]
  rfl
theorem update_taken
    (found : getTemplateById db templateId = some template)
    (taken : nameTaken db insensitive templateId dto issuerId = true) :
    (Request.updateTemplate templateId dto issuerId).run insensitive agent fate db =
      (.error (.failure (conflict "Template name already exists for this issuer.")),⟨db,false,none⟩) := by
  change (updateTemplate insensitive agent fate templateId dto issuerId).run ⟨db,false,none⟩ = _
  unfold updateTemplate
  rw [bind_ok (query_eq found)]
  dsimp only
  rw [bind_ok (query_eq taken),if_pos rfl]
  rfl
theorem update_unchanged (found : getTemplateById db templateId = some template)
    (free : nameTaken db insensitive templateId dto issuerId = false)
    (refused : changeTemplate db templateId (dto.applied issuerId) (fun _ => rfl) = .error failure) :
    (Request.updateTemplate templateId dto issuerId).run insensitive agent fate db =
      (.error (.failure failure),⟨db,false,none⟩) := by
  change (updateTemplate insensitive agent fate templateId dto issuerId).run ⟨db,false,none⟩ = _
  unfold updateTemplate
  rw [bind_ok (query_eq found)]
  dsimp only
  rw [bind_ok (query_eq free),if_neg Bool.false_ne_true,bind_error (write_error refused)]

theorem update_refused (none_ : (Request.updateTemplate templateId dto issuerId).first insensitive db = none) :
    Refused db ((Request.updateTemplate templateId dto issuerId).run insensitive agent fate db) := by
  cases found : getTemplateById db templateId with
  | none =>
    rw [update_missing found]
    exact ⟨⟨_,rfl⟩,rfl⟩
  | some template =>
    cases taken : nameTaken db insensitive templateId dto issuerId with
    | true =>
      rw [update_taken found taken]
      exact ⟨⟨_,rfl⟩,rfl⟩
    | false =>
      cases changed : changeTemplate db templateId (dto.applied issuerId) fun _ => rfl with
      | ok after => cases none_.symm.trans (first_update.mpr ⟨⟨template,found⟩,taken,changed⟩)
      | error failure =>
        rw [update_unchanged found taken changed]
        exact ⟨⟨failure,rfl⟩,rfl⟩

theorem update_changed (found : getTemplateById db templateId = some template)
    (first : (Request.updateTemplate templateId dto issuerId).first insensitive db = some after) :
    (Request.updateTemplate templateId dto issuerId).run insensitive agent fate db =
      match agentError (agent after) with
      | none => (.ok (dto.applied issuerId template),⟨after,true,none⟩)
      | some failure =>
        (.error (.rollbackFailed (.failure failure) (fate.raises (.failure failure))),fate.leaves db after) := by
  obtain ⟨-,free,changed⟩ := first_update.mp first
  have undone := changeTemplate_back found changed
  change (updateTemplate insensitive agent fate templateId dto issuerId).run ⟨db,false,none⟩ = _
  unfold updateTemplate
  rw [bind_ok (query_eq found)]
  dsimp only
  rw [bind_ok (query_eq free),if_neg Bool.false_ne_true,bind_ok (write_ok changed)]
  cases answered : agent after with
  | error failure =>
    refine bind_error ((try_error (bind_error (ask_error answered))).trans ?_)
    exact compensate_back undone _ _
  | ok answer =>
    cases answer with
    | none =>
      refine bind_error ((try_error (bind_ok (ask_ok answered))).trans ?_)
      exact compensate_back undone _ _
    | some response => exact bind_ok (try_ok (bind_ok (ask_ok answered)))

/-- The error that is raised says that the compensation failed. -/
def Blames (out : Except Raised CredentialTemplate × Progress) : Prop := ∃ raised, out.1 = .error raised ∧ raised.blaming
/-- What is wanted of a call whose first write leaves `after`. -/
structure Wanted (db : Database) (request : Request) (agent : AgentStep) (after : Option Database)
    (out : Except Raised CredentialTemplate × Progress) : Prop where
  restored : out.2.compensated = some true →
    out.2.db.credential_templates.find request.templateId = db.credential_templates.find request.templateId ∧
      ∃ failure, after.bind (fun after => agentError (agent after)) = some failure ∧ out.1 = .error (.failure failure)
  blames : Blames out ↔ out.2.compensated = some false
  falsy : after.map agent = some (.ok none) → out.2.compensated.isSome
/-- The agent takes the template, or the compensating write fails; on a falsy answer to a creation there is none. -/
def Spared (request : Request) (answered : Except Failure (Option Response)) (fate : Write) : Prop :=
  agentError answered = none ∨ fate ≠ .done ∧
      ((∃ id dto issuerId, request = .createTemplate id dto issuerId) → answered ≠ .ok none)

theorem wanted_refused {out : Except Raised CredentialTemplate × Progress} (refused : Refused db out) :
    Wanted db request agent none out := by
  obtain ⟨⟨failure,raised⟩,unchanged⟩ := refused
  refine ⟨fun compensated => ?_,?_,nofun⟩
  · rw [unchanged] at compensated
    cases compensated
  · rw [unchanged]
    refine iff_of_false ?_ nofun
    rintro ⟨other,same,blaming⟩
    cases raised.symm.trans same
    cases blaming

theorem wanted_taken (accepted : agentError (agent after) = none) :
    Wanted db request agent (some after) (.ok template,⟨after,true,none⟩) := by
  refine ⟨nofun,iff_of_false ?_ nofun,fun answered => ?_⟩
  · rintro ⟨_,⟨⟩,_⟩
  · rw [Option.map_some,Option.some.injEq] at answered
    rw [answered] at accepted
    cases accepted
theorem wanted_compensated_iff {raised : Raised} (blaming : raised.blaming = true) :
    Wanted db request agent (some after) (.error raised,fate.leaves db after) ↔ fate ≠ .done := by
  constructor
  · rintro wanted rfl
    have undone := wanted.blames.mp ⟨raised,rfl,blaming⟩
    cases undone
  · intro unlucky
    have undone : (fate.leaves db after).compensated = some false := congrArg some (decide_eq_false unlucky)
    refine ⟨fun compensated => ?_,iff_of_true ⟨raised,rfl,blaming⟩ undone,fun _ => rfl⟩
    cases undone.symm.trans compensated

/-- A call is all or nothing, and says how it ended, exactly when it does not get to the agent or is spared. -/
theorem honest_iff (insensitive : String → String → Bool) (agent : AgentStep) (fate : Write) (db : Database)
    (request : Request) :
    Wanted db request agent (request.first insensitive db) (request.run insensitive agent fate db) ↔
      ∀ after, request.first insensitive db = some after → Spared request (agent after) fate := by
  cases first : request.first insensitive db with
  | none =>
    have refused : Refused db (request.run insensitive agent fate db) := by
      cases request with
      | createTemplate => exact create_refused first
      | updateTemplate => exact update_refused first
    exact iff_of_true (wanted_refused refused) nofun
  | some after =>
    simp only [Option.some.injEq,forall_eq']
    cases request with
    | createTemplate id dto issuerId =>
      rw [create_inserted first]
      cases answered : agent after with
      | error failure =>
        refine (wanted_compensated_iff rfl).trans ?_
        exact ⟨fun unlucky => .inr ⟨unlucky,nofun⟩,fun spared => (spared.resolve_left nofun).1⟩
      | ok response =>
        cases response with
        | some response => exact iff_of_true (wanted_taken (congrArg agentError answered)) (.inl rfl)
        | none =>
          refine iff_of_false (fun wanted => ?_) ?_
          · have compensated := wanted.falsy (congrArg some answered)
            cases compensated
          · rintro (accepted | ⟨-,answers⟩)
            · cases accepted
            · exact answers ⟨id,dto,issuerId,rfl⟩ rfl
    | updateTemplate templateId dto issuerId =>
      obtain ⟨⟨template,found⟩,-⟩ := first_update.mp first
      rw [update_changed found first]
      cases error : agentError (agent after) with
      | none => exact iff_of_true (wanted_taken error) (.inl error)
      | some failure =>
        refine (wanted_compensated_iff rfl).trans ?_
        refine ⟨fun unlucky => .inr ⟨unlucky,fun ⟨_,_,_,other⟩ => nomatch other⟩,fun spared => ?_⟩
        exact (spared.resolve_left fun accepted => nomatch error.symm.trans accepted).1

end

def issuing : Database := oneIssuer
def license : Request :=
  .createTemplate "license" ⟨"License",none,.X509_P256,"mso_mdoc","\x7b\x7d",false,none,none⟩ "issuer"
/-- The agent refuses, the row is deleted again, and the error says that it is not. -/
theorem deleted_but_blamed : ¬Wanted issuing license (fun _ => .error .agent) (license.first (· == ·) issuing)
    (license.run (· == ·) (fun _ => .error .agent) .done issuing) := by
  intro wanted
  have raised : (license.run (· == ·) (fun _ => .error .agent) .done issuing).1 =
      .error .cleanupFailed := by decide +kernel
  have succeeded : (license.run (· == ·) (fun _ => .error .agent) .done issuing).2.compensated =
      some true := by decide +kernel
  cases succeeded.symm.trans (wanted.blames.mp ⟨_,raised,rfl⟩)

end Ngotag.TemplateCompensation
