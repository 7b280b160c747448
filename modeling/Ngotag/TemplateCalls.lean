import Ngotag.CredentialConfigurations

/-!
The calls that write the templates of an issuer and push its whole list to the agent afterwards, statement by
statement, in any interleaving. The database always answers; a call of the agent may fail without effect. The
calls are those of one organisation and its agent.
-/
namespace Ngotag.TemplateCalls
open KeyedTable
open OrgRolesGuard (trim)
open IssuerTemplates hiding Answer Outcome
open CredentialConfigurations

structure AgentIssuer where
  id : String
  publicIssuerId : String
  credentialConfigurationsSupported : List (String × CredentialConfig)
inductive Answer where
  | ok
  | fails
  deriving DecidableEq
/-- What a call has written when it turns to the agent. -/
inductive Job where
  | createTemplate (createdTemplate : CredentialTemplate)
  /-- The row that the call has read, the row that its update replaced and the row after it. -/
  | updateTemplate (template before updatedTemplate : CredentialTemplate)
  | deleteTemplate (deleteTemplate : CredentialTemplate)
  | oidcIssuerUpdate (publicIssuerId : String)
  deriving DecidableEq

inductive PushAwait where
  /-- The look of an update for the templates of the issuer. -/
  | getTemplatesByIssuerId
  /-- The two queries of `buildOidcIssuerConfig`. -/
  | buildIssuer
  | buildTemplates (issuerDetails : OidcIssuer)
  | getAgentEndPoint (templates : List CredentialTemplate)
  | getOidcIssuerDetailsById (templates : List CredentialTemplate)
  | _createOIDCTemplate (publicIssuerId : String) (templates : List CredentialTemplate)
  deriving DecidableEq

inductive CreateAwait where
  | getTemplateByNameForIssuer
  | createTemplate
  deriving DecidableEq
inductive UpdateAwait where
  | getTemplateById
  | getTemplateByNameForIssuer (template : CredentialTemplate)
  | updateTemplate (template : CredentialTemplate)
  deriving DecidableEq
inductive DeleteAwait where
  | getTemplateById
  | deleteTemplate
  deriving DecidableEq
inductive IssuerUpdateAwait where
  | getOidcIssuerDetailsById
  | updateOidcIssuerDetails (publicIssuerId : String)
  deriving DecidableEq

inductive IssuerDeleteAwait where
  | getOidcIssuerDetailsById
  | _oidcGetIssuerById (publicIssuerId : String)
  | getTemplatesByIssuerId (publicIssuerId issuerRecordId : String)
  | deleteTemplatesByIssuerId (publicIssuerId issuerRecordId : String)
  /-- Whether templates were deleted before. -/
  | deleteOidcIssuer (publicIssuerId issuerRecordId : String) (emptied : Bool)
  | _deleteOidcIssuer (publicIssuerId issuerRecordId : String)
  deriving DecidableEq

inductive Process where
  /-- The new row gets the id. -/
  | createTemplate (id : String) (dto : CreateCredentialTemplate) (issuerId : String) (at_ : CreateAwait)
  | updateTemplate (templateId : String) (dto : UpdateCredentialTemplate) (issuerId : String) (at_ : UpdateAwait)
  | deleteTemplate (templateId issuerId : String) (at_ : DeleteAwait)
  | oidcIssuerUpdate (config : IssuerUpdation) (userId : String) (at_ : IssuerUpdateAwait)
  | deleteOidcIssuer (id : String) (at_ : IssuerDeleteAwait)
  /-- After the write, with the number of pushes at that time. -/
  | telling (job : Job) (issuerId : String) (mark : Nat) (at_ : PushAwait)
  /-- The agent was not told: the write is taken back. -/
  | compensating (job : Job) (issuerId : String) (mark : Nat)
  | ended
  deriving DecidableEq

structure State where
  db : Database
  agent : Keyed AgentIssuer.publicIssuerId
  calls : List Process
  pushes : List String
inductive Action where
  | createTemplate (id : String) (dto : CreateCredentialTemplate) (issuerId : String)
  | updateTemplate (templateId : String) (dto : UpdateCredentialTemplate) (issuerId : String)
  | deleteTemplate (templateId issuerId : String)
  | oidcIssuerUpdate (config : IssuerUpdation) (userId : String)
  | deleteOidcIssuer (id : String)
  | advance (call : Nat) (answer : Answer)
/-- The organisation of the calls, how names compare without case and how the columns are read. -/
structure Setting where
  orgId : String
  insensitive : String → String → Bool
  columns : Columns

section
variable (svc : Setting) (s : State) (answer : Answer)

def configurations (templates : List CredentialTemplate) : Option (List (String × CredentialConfig)) :=
  buildCredentialConfigurationsSupported svc.columns templates
/-- `buildIssuerPayload` and the configurations of the list. -/
def buildable (issuerDetails : OidcIssuer) (templates : List CredentialTemplate) : Bool :=
  issuerDetails.publicIssuerId ≠ "" && (configurations svc templates).isSome

/-- The next operation of the push; without one it throws. -/
def pushNext (job : Job) (issuerId : String) : PushAwait → Option PushAwait
  | .getTemplatesByIssuerId => if getTemplatesByIssuerId s.db issuerId = [] then none else some .buildIssuer
  | .buildIssuer =>
    match getOidcIssuerDetailsById s.db issuerId with
    | .ok issuerDetails => some (.buildTemplates issuerDetails)
    | .error _ => none
  | .buildTemplates issuerDetails =>
    let templates := getTemplatesByIssuerId s.db issuerId
    if buildable svc issuerDetails templates then
      match job with
      | .oidcIssuerUpdate publicIssuerId => some (._createOIDCTemplate publicIssuerId templates)
      | _ => some (.getAgentEndPoint templates)
    else none
  | .getAgentEndPoint templates =>
    match getAgentEndPoint s.db svc.orgId with
    | .ok _ => some (.getOidcIssuerDetailsById templates)
    | .error _ => none
  | .getOidcIssuerDetailsById templates =>
    match getOidcIssuerDetailsById s.db issuerId with
    | .ok issuerDetails => some (._createOIDCTemplate issuerDetails.publicIssuerId templates)
    | .error _ => none
  | ._createOIDCTemplate _ _ => none

/-- What the agent advertises after the push, if it knows the issuer and does not fail. -/
def pushed (publicIssuerId : String) (templates : List CredentialTemplate) : Option (Keyed AgentIssuer.publicIssuerId) :=
  match answer,s.agent.find publicIssuerId,configurations svc templates with
  | .ok,some _,some configs =>
    some (s.agent.change publicIssuerId (fun issuer => { issuer with credentialConfigurationsSupported := configs })
      fun _ => rfl)
  | _,_,_ => none
/-- The `catch` around the push. -/
def Job.caught (job : Job) (issuerId : String) (mark : Nat) : Process :=
  match job with
  | .createTemplate _ => .compensating job issuerId mark
  | .updateTemplate _ _ _ => .compensating job issuerId mark
  | _ => .ended
def tellStep (job : Job) (issuerId : String) (mark : Nat) : PushAwait → State × Process
  | ._createOIDCTemplate publicIssuerId templates =>
    match pushed svc s answer publicIssuerId templates with
    | some agent => ({ s with agent := agent,pushes := issuerId :: s.pushes },.ended)
    | none => (s,job.caught issuerId mark)
  | at_ =>
    match pushNext svc s job issuerId at_ with
    | some next => (s,.telling job issuerId mark next)
    | none => (s,job.caught issuerId mark)

/-- The write, and then the push; a write that is refused ends the call. -/
def wrote (written : Except Failure Database) (job : Job) (issuerId : String) (at_ : PushAwait) : State × Process :=
  match written with
  | .ok db => ({ s with db := db },.telling job issuerId s.pushes.length at_)
  | .error _ => (s,.ended)
def storeUpdate (templateId : String) (updated : CredentialTemplate) : Except Failure Database :=
  if (s.db.credential_templates.find templateId).isSome then
    changeTemplate s.db templateId (fun row => { updated with id := row.id }) replaced_id
  else .error .database
def storeRemoval (templateId : String) : Except Failure Database :=
  if (s.db.credential_templates.find templateId).isSome then removeTemplate s.db templateId else .error .database

def createStep (id : String) (dto : CreateCredentialTemplate) (issuerId : String) : CreateAwait → State × Process
  | .getTemplateByNameForIssuer =>
    if getTemplateByNameForIssuer s.db svc.insensitive dto.name issuerId = [] then
      (s,.createTemplate id dto issuerId .createTemplate)
    else (s,.ended)
  | .createTemplate =>
    wrote s (insertTemplate s.db (dto.row id issuerId)) (.createTemplate (dto.row id issuerId)) issuerId .buildIssuer

def updateStep (templateId : String) (dto : UpdateCredentialTemplate) (issuerId : String) : UpdateAwait → State × Process
  | .getTemplateById =>
    match getTemplateById s.db templateId with
    | some template => (s,.updateTemplate templateId dto issuerId (.getTemplateByNameForIssuer template))
    | none => (s,.ended)
  | .getTemplateByNameForIssuer template =>
    if nameTaken s.db svc.insensitive templateId dto issuerId then (s,.ended)
    else (s,.updateTemplate templateId dto issuerId (.updateTemplate template))
  | .updateTemplate template =>
    match s.db.credential_templates.find templateId with
    | some before =>
      wrote s (storeUpdate s templateId (dto.applied issuerId before))
        (.updateTemplate template before (dto.applied issuerId before)) issuerId .getTemplatesByIssuerId
    | none => (s,.ended)

def deleteStep (templateId issuerId : String) : DeleteAwait → State × Process
  | .getTemplateById =>
    match getTemplateById s.db templateId with
    | some _ => (s,.deleteTemplate templateId issuerId .deleteTemplate)
    | none => (s,.ended)
  | .deleteTemplate =>
    match s.db.credential_templates.find templateId with
    | some deleted => wrote s (storeRemoval s templateId) (.deleteTemplate deleted) issuerId .buildIssuer
    | none => (s,.ended)
def issuerUpdateStep (config : IssuerUpdation) (userId : String) : IssuerUpdateAwait → State × Process
  | .getOidcIssuerDetailsById =>
    match s.db.oidc_issuer.find config.issuerId,updateAdmitted s.db svc.orgId config with
    | some existingIssuer,.ok _ =>
      (s,.oidcIssuerUpdate config userId (.updateOidcIssuerDetails existingIssuer.publicIssuerId))
    | _,_ => (s,.ended)
  | .updateOidcIssuerDetails publicIssuerId =>
    wrote s ((updateOidcIssuerDetails s.db userId config).map Prod.fst) (.oidcIssuerUpdate publicIssuerId)
      config.issuerId .buildIssuer
/-- The new row is deleted, the old one written back; where the row is gone, or its issuer, the write throws. -/
def compensate (job : Job) : Except Failure Database :=
  match job with
  | .createTemplate created => storeRemoval s created.id
  | .updateTemplate template _ _ => storeUpdate s template.id template
  | _ => .error .database

def issuerDeleteStep (id : String) : IssuerDeleteAwait → State × Process
  | .getOidcIssuerDetailsById =>
    match s.db.oidc_issuer.find id,getAgentEndPoint s.db svc.orgId with
    | some issuer,.ok _ => (s,.deleteOidcIssuer id (._oidcGetIssuerById issuer.publicIssuerId))
    | _,_ => (s,.ended)
  | ._oidcGetIssuerById publicIssuerId =>
    match answer,s.agent.find (trim publicIssuerId) with
    | .ok,some issuer =>
      if issuer.id = "" then (s,.ended)
      else (s,.deleteOidcIssuer id (.getTemplatesByIssuerId publicIssuerId issuer.id))
    | _,_ => (s,.ended)
  | .getTemplatesByIssuerId publicIssuerId issuerRecordId =>
    if getTemplatesByIssuerId s.db id = [] then
      (s,.deleteOidcIssuer id (.deleteOidcIssuer publicIssuerId issuerRecordId false))
    else (s,.deleteOidcIssuer id (.deleteTemplatesByIssuerId publicIssuerId issuerRecordId))
  | .deleteTemplatesByIssuerId publicIssuerId issuerRecordId =>
    match deleteTemplatesByIssuerId s.db id with
    | .ok db => ({ s with db := db },.deleteOidcIssuer id (.deleteOidcIssuer publicIssuerId issuerRecordId true))
    | .error _ => (s,.ended)
  | .deleteOidcIssuer publicIssuerId issuerRecordId _ =>
    match deleteIssuerRow s.db id with
    | .ok (db,_) => ({ s with db := db },.deleteOidcIssuer id (._deleteOidcIssuer publicIssuerId issuerRecordId))
    | .error _ => (s,.ended)
  | ._deleteOidcIssuer _ issuerRecordId =>
    match answer with
    | .ok => ({ s with agent := s.agent.delete fun issuer => issuer.id = issuerRecordId },.ended)
    | .fails => (s,.ended)

def operate : Process → Option (State × Process)
  | .createTemplate id dto issuerId at_ => some (createStep svc s id dto issuerId at_)
  | .updateTemplate templateId dto issuerId at_ => some (updateStep svc s templateId dto issuerId at_)
  | .deleteTemplate templateId issuerId at_ => some (deleteStep s templateId issuerId at_)
  | .oidcIssuerUpdate config userId at_ => some (issuerUpdateStep svc s config userId at_)
  | .deleteOidcIssuer id at_ => some (issuerDeleteStep svc s answer id at_)
  | .telling job issuerId mark at_ => some (tellStep svc s answer job issuerId mark at_)
  | .compensating job _ _ =>
    match compensate s job with
    | .ok db => some ({ s with db := db },.ended)
    | .error _ => some (s,.ended)
  | .ended => none

end

def State.begin (s : State) (process : Process) : State := { s with calls := s.calls ++ [process] }
def State.set (call : Nat) (done : State × Process) : State := { done.1 with calls := done.1.calls.set call done.2 }

def step (svc : Setting) (s : State) : Action → Option State
  | .createTemplate id dto issuerId => some (s.begin (.createTemplate id dto issuerId .getTemplateByNameForIssuer))
  | .updateTemplate templateId dto issuerId => some (s.begin (.updateTemplate templateId dto issuerId .getTemplateById))
  | .deleteTemplate templateId issuerId => some (s.begin (.deleteTemplate templateId issuerId .getTemplateById))
  | .oidcIssuerUpdate config userId => some (s.begin (.oidcIssuerUpdate config userId .getOidcIssuerDetailsById))
  | .deleteOidcIssuer id => some (s.begin (.deleteOidcIssuer id .getOidcIssuerDetailsById))
  | .advance call answer =>
    match s.calls[call]? with
    | some process => (operate svc s answer process).map (State.set call)
    | none => none

end Ngotag.TemplateCalls
