import Ngotag.KeyedTable
import Ngotag.OrgRolesGuard

/-!
Issuers of an organisation, the credential templates of each and the calls that read, write and offer them.
Of every call also what it did with stored rows: which were written, deleted or given back.
-/
namespace Ngotag.IssuerTemplates
open KeyedTable
open OrgRolesGuard (trim)

inductive SignerOption where
  | DID
  | X509_P256
  | X509_ED25519
  deriving DecidableEq

structure OidcIssuer where
  id : String
  createdBy : String
  publicIssuerId : String
  metadata : String
  authorizationServerUrl : String
  orgAgentId : String
  batchCredentialIssuanceSize : Int
  orgId : Option String
  isPrimary : Bool
  deriving DecidableEq

structure CredentialTemplate where
  id : String
  name : String
  description : Option String
  format : String
  canBeRevoked : Bool
  attributes : String
  appearance : String
  issuerId : String
  noticeUrl : Option String
  signerOption : SignerOption
  deriving DecidableEq

structure OrgAgent where
  id : String
  orgId : Option String
  agentEndPoint : Option String
  orgAgentTypeId : Option String
structure OrgAgentsType where
  id : String
  agent : String
structure Database where
  oidc_issuer : Keyed OidcIssuer.id
  credential_templates : Keyed CredentialTemplate.id
  org_agents : Keyed OrgAgent.id
  org_agents_type : Keyed OrgAgentsType.id
  issuerId_fkey : ∀ template ∈ credential_templates.rows, ∃ issuer ∈ oidc_issuer.rows, issuer.id = template.issuerId
inductive Failure where
  | http (statusCode : Nat) (message : String)
  | rpc (message : String)
  | database
  | agent
  | builder
  | typeError
  deriving DecidableEq
def badRequest (message : String) : Failure := .http 400 message
def notFound (message : String) : Failure := .http 404 message
def conflict (message : String) : Failure := .http 409 message
def internalServerError (message : String) : Failure := .http 500 message
def Database.store (db : Database) (issuers : Keyed OidcIssuer.id) (templates : Keyed CredentialTemplate.id) :
    Except Failure Database :=
  if kept : ∀ template ∈ templates.rows, ∃ issuer ∈ issuers.rows, issuer.id = template.issuerId then
    .ok ⟨issuers,templates,db.org_agents,db.org_agents_type,kept⟩
  else .error .database
inductive Deed where
  /-- An update sets the row, whatever the values. -/
  | writes
  | deletes
  | returns
structure Effect where
  deed : Deed
  before : Database
  issuerId : String
  template : Option String
  /-- The issuer that the request names, where it names one. -/
  named : Option String
structure Outcome (α : Type) where
  db : Database
  effects : List Effect
  result : Except Failure α

section
variable (db : Database)

def onIssuer (deed : Deed) (named : Option String) (issuer : OidcIssuer) : Effect := ⟨deed,db,issuer.id,none,named⟩
def onTemplate (deed : Deed) (named : Option String) (template : CredentialTemplate) : Effect :=
  ⟨deed,db,template.issuerId,some template.id,named⟩
/-- The organisation of an issuer: its own column, which older rows do not have, or that of its agent. -/
def organisation (issuerId : String) : Option String :=
  (db.oidc_issuer.find issuerId).bind fun issuer =>
    issuer.orgId.or ((db.org_agents.find issuer.orgAgentId).bind (·.orgId))
def getAgentEndPoint (orgId : String) : Except Failure OrgAgent :=
  match db.org_agents.rows.find? fun agent => agent.orgId = some orgId with
  | none => .error (notFound "Agent details not found")
  | some agent => .ok agent
/-- Of a type that has no row a property is read. -/
def getOrgAgentType (orgAgentTypeId : Option String) : Except Failure String :=
  match orgAgentTypeId.bind db.org_agents_type.find with
  | none => .error .typeError
  | some type => .ok type.agent
def getOidcIssuerDetailsById (issuerId : String) : Except Failure OidcIssuer :=
  match db.oidc_issuer.find issuerId with
  | none => .error .database
  | some issuer => .ok issuer
def getTemplateById (templateId : String) : Option CredentialTemplate := db.credential_templates.find templateId
def getTemplateByIds (templateIds : List String) (issuerId : String) : List CredentialTemplate :=
  db.credential_templates.rows.filter fun template => template.id ∈ templateIds ∧ template.issuerId = issuerId
def getTemplatesByIssuerId (issuerId : String) : List CredentialTemplate :=
  db.credential_templates.rows.filter fun template => template.issuerId = issuerId
/-- Names are compared by the database, in its insensitive mode. -/
def getTemplateByNameForIssuer (insensitive : String → String → Bool) (name issuerId : String) :
    List CredentialTemplate :=
  db.credential_templates.rows.filter fun template => template.issuerId = issuerId ∧ insensitive template.name name
end

def getAgentUrl (agentEndPoint : Option String) : Except Failure Unit :=
  match agentEndPoint.filter (· ≠ "") with
  | none => .error (notFound "Invalid agent endpoint provided")
  | some _ => .ok ()
inductive Response where
  | null
  | text (id : Option String)
  | object (statusCode : Option Nat) (id : Option String)

inductive Answer where
  | throws
  | nothing
  | response (response : Response)
/-- Nothing is no answer, but no exception either. -/
def natsCall : Answer → Except Failure (Option Response)
  | .throws => .error .agent
  | .nothing => .ok none
  | .response response => .ok (some response)
def Response.refusal : Response → Bool
  | .object (some statusCode) _ => statusCode ≠ 0 && statusCode ≠ 200
  | _ => false
def normalizeJson : Response → Except Failure (Option String)
  | .null => .error .typeError
  | .text id => .ok id
  | .object _ id => .ok id

structure IssuerUpdation where
  issuerId : String
  display : String
  batchCredentialIssuanceSize : Option Int
  isPrimary : Option Bool
  /-- Not set by the gateway. -/
  orgId : Option String
  deriving DecidableEq

structure CreateCredentialTemplate where
  name : String
  description : Option String
  signerOption : SignerOption
  format : String
  template : String
  canBeRevoked : Bool
  appearance : Option String
  noticeUrl : Option String
  deriving DecidableEq

structure UpdateCredentialTemplate where
  name : Option String
  description : Option (Option String)
  signerOption : Option SignerOption
  format : Option String
  template : Option String
  canBeRevoked : Option Bool
  appearance : Option String
  noticeUrl : Option (Option String)
  deriving DecidableEq

structure CreateOidcCredentialOffer where
  credentials : List String
  noticeUrl : Option String
  isRevocable : Bool
structure OfferSteps where
  /-- There is a certificate for each template, the payloads fit and there is room in the status lists. -/
  built : Bool
  answer : Answer
  saved : Bool

section
variable (db : Database)

/-- The condition of a query on the organisation; without a value there is none. -/
def ofOrg (orgId : Option String) (issuer : OidcIssuer) : Bool := orgId.all fun orgId => issuer.orgId = some orgId
def demoted (orgId : Option String) : List OidcIssuer :=
  db.oidc_issuer.rows.filter fun issuer => ofOrg orgId issuer && issuer.isPrimary
def demote (orgId : Option String) (issuer : OidcIssuer) : OidcIssuer :=
  if ofOrg orgId issuer && issuer.isPrimary then { issuer with isPrimary := false } else issuer
theorem demote_id (orgId : Option String) (issuer : OidcIssuer) : (demote orgId issuer).id = issuer.id := by
  unfold demote
  split <;> rfl
/-- `updateMany` -/
def demoteAll (orgId : Option String) : Keyed OidcIssuer.id where
  rows := db.oidc_issuer.rows.map (demote orgId)
  unique := by
    rw [List.map_map,show OidcIssuer.id ∘ demote orgId = OidcIssuer.id from funext (demote_id orgId)]
    exact db.oidc_issuer.unique
def IssuerUpdation.applied (config : IssuerUpdation) (createdById : String) (issuer : OidcIssuer) : OidcIssuer :=
  { issuer with
    metadata := config.display
    createdBy := createdById
    batchCredentialIssuanceSize := config.batchCredentialIssuanceSize.getD issuer.batchCredentialIssuanceSize
    isPrimary := config.isPrimary.getD issuer.isPrimary }
def otherPrimaryExists (config : IssuerUpdation) : Bool :=
  (demoted db config.orgId).any fun issuer => issuer.id ≠ config.issuerId

/-- A transaction: the rows written and the row given back. -/
def updateOidcIssuerDetails (createdById : String) (config : IssuerUpdation) :
    Except Failure (Database × List OidcIssuer × OidcIssuer) :=
  match (db.oidc_issuer.find config.issuerId).filter (ofOrg config.orgId) with
  | none => .error (notFound "OID4VC issuer not found.")
  | some issuer =>
    if config.isPrimary = some true then do
      let after ← db.store ((demoteAll db config.orgId).change config.issuerId (config.applied createdById)
        fun _ => rfl) db.credential_templates
      pure (after,demoted db config.orgId ++ [issuer],config.applied createdById (demote config.orgId issuer))
    else if otherPrimaryExists db config then do
      let after ← db.store (db.oidc_issuer.change config.issuerId (config.applied createdById) fun _ => rfl)
        db.credential_templates
      pure (after,[issuer],config.applied createdById issuer)
    else .error (badRequest "Cannot unset primary. Please assign another issuer as primary first.")

-- Whether a configuration can be built from an issuer and its templates.
variable (configurable : OidcIssuer → List CredentialTemplate → Bool)

def buildOidcIssuerConfig (issuerId : String) : Except Failure Unit := do
  let issuerDetails ← getOidcIssuerDetailsById db issuerId
  if configurable issuerDetails (getTemplatesByIssuerId db issuerId) then pure () else .error .builder
/-- The rows that the update needs before it writes. -/
def updateAdmitted (orgId : String) (config : IssuerUpdation) : Except Failure OrgAgent := do
  let _ ← getOidcIssuerDetailsById db config.issuerId
  let agentDetails ← getAgentEndPoint db orgId
  let orgAgentType ← getOrgAgentType db agentDetails.orgAgentTypeId
  if orgAgentType = "" then .error (notFound "Organization agent type not found") else pure agentDetails
def updateOnAgent (agentDetails : OrgAgent) (issuerId : String) (answer : Answer) : Except Failure Unit := do
  getAgentUrl agentDetails.agentEndPoint
  buildOidcIssuerConfig db configurable issuerId
  let updatedIssuer ← natsCall answer
  if updatedIssuer.any Response.refusal then
    .error (internalServerError "Error from agent while updating issuer")
  else pure ()

def oidcIssuerUpdate (config : IssuerUpdation) (orgId userId : String) (answer : Answer) : Outcome OidcIssuer :=
  match updateAdmitted db orgId config with
  | .error failure => ⟨db,[],.error failure⟩
  | .ok agentDetails =>
    match updateOidcIssuerDetails db userId config with
    | .error failure => ⟨db,[],.error failure⟩
    | .ok (after,written,updated) =>
      let named := some config.issuerId
      match updateOnAgent after configurable agentDetails config.issuerId answer with
      | .error failure => ⟨after,written.map (onIssuer db .writes named),.error failure⟩
      | .ok () => ⟨after,written.map (onIssuer db .writes named) ++ [onIssuer db .returns named updated],.ok updated⟩

def encodeIssuerPublicId (publicIssuerId : String) : Except Failure Unit :=
  if publicIssuerId = "" then .error (.rpc "issuerPublicId is required") else .ok ()
def oidcIssuerGetById (id orgId : String) (answer : Answer) : Except Failure (Option String) := do
  let issuerDetails ← getOidcIssuerDetailsById db id
  let agentDetails ← getAgentEndPoint db orgId
  encodeIssuerPublicId issuerDetails.publicIssuerId
  getAgentUrl agentDetails.agentEndPoint
  match ← natsCall answer with
  | none => .error (internalServerError "Error from agent while getting issuer")
  | some response => normalizeJson response
def deleteAdmitted (orgId id : String) (found : Answer) : Except Failure OrgAgent := do
  let issuerRecordId ← oidcIssuerGetById db id orgId found
  if (issuerRecordId.filter (· ≠ "")).isNone then .error (notFound "OID4VC issuer not found.")
  else getAgentEndPoint db orgId
def deleteOnAgent (agentDetails : OrgAgent) (answer : Answer) : Except Failure Unit := do
  getAgentUrl agentDetails.agentEndPoint
  if (← natsCall answer).isNone then .error (notFound "Agent details not found") else pure ()
def deleteTemplatesByIssuerId (issuerId : String) : Except Failure Database :=
  db.store db.oidc_issuer (db.credential_templates.delete fun template => template.issuerId = issuerId)
def deleteIssuerRow (issuerId : String) : Except Failure (Database × OidcIssuer) :=
  match db.oidc_issuer.find issuerId with
  | none => .error .database
  | some issuer => do
    let after ← db.store (db.oidc_issuer.delete fun row => row.id = issuerId) db.credential_templates
    pure (after,issuer)

/-- The templates are deleted before the issuer, and both before the agent is told. -/
def deleteOidcIssuer (orgId id : String) (found deleted : Answer) : Outcome OidcIssuer :=
  match deleteAdmitted db orgId id found with
  | .error failure => ⟨db,[],.error failure⟩
  | .ok agentDetails =>
    match deleteTemplatesByIssuerId db id with
    | .error failure => ⟨db,[],.error failure⟩
    | .ok emptied =>
      let templates := (getTemplatesByIssuerId db id).map (onTemplate db .deletes (some id))
      match deleteIssuerRow emptied id with
      | .error failure => ⟨emptied,templates,.error failure⟩
      | .ok (after,issuer) =>
        match deleteOnAgent agentDetails deleted with
        | .error failure => ⟨after,templates ++ [onIssuer db .deletes (some id) issuer],.error failure⟩
        | .ok () => ⟨after,templates ++
            [onIssuer db .deletes (some id) issuer,onIssuer db .returns (some id) issuer],.ok issuer⟩

/-- The configuration of the issuer, all its templates in it, for the agent of the organisation. -/
def createTemplateOnAgent (orgId issuerId : String) (answer : Answer) : Except Failure (Option Response) := do
  buildOidcIssuerConfig db configurable issuerId
  let agentDetails ← getAgentEndPoint db orgId
  let _ ← getOidcIssuerDetailsById db issuerId
  getAgentUrl agentDetails.agentEndPoint
  natsCall answer

variable (insensitive : String → String → Bool)
def CreateCredentialTemplate.row (dto : CreateCredentialTemplate) (id issuerId : String) : CredentialTemplate where
  id := id
  name := dto.name
  description := dto.description
  format := dto.format
  canBeRevoked := dto.canBeRevoked
  attributes := dto.template
  appearance := dto.appearance.getD "\x7b\x7d"
  issuerId := issuerId
  noticeUrl := dto.noticeUrl
  signerOption := dto.signerOption

def removeTemplate (templateId : String) : Except Failure Database :=
  db.store db.oidc_issuer (db.credential_templates.delete fun row => row.id = templateId)
def insertTemplate (template : CredentialTemplate) : Except Failure Database :=
  match db.credential_templates.insert template with
  | none => .error .database
  | some templates => db.store db.oidc_issuer templates

/-- What the agent refuses is deleted again; the answer to it is caught as one of the deletion. -/
def createTemplate (id : String) (dto : CreateCredentialTemplate) (orgId issuerId : String) (answer : Answer) :
    Outcome CredentialTemplate :=
  if getTemplateByNameForIssuer db insensitive dto.name issuerId ≠ [] then
    ⟨db,[],.error (conflict "Template name already exists for this issuer.")⟩
  else
    let created := dto.row id issuerId
    match insertTemplate db created with
    | .error failure => ⟨db,[],.error failure⟩
    | .ok after =>
      match createTemplateOnAgent after configurable orgId issuerId answer with
      | .error _ =>
        match removeTemplate after created.id with
        | .error _ => ⟨after,[],.error (.rpc "Template creation failed and cleanup also failed")⟩
        | .ok back => ⟨back,[onTemplate db .deletes (some issuerId) created],
            .error (.rpc "Template creation failed and cleanup also failed")⟩
      | .ok none => ⟨after,[],.error (notFound "Agent details not found")⟩
      | .ok (some _) => ⟨after,[onTemplate db .returns (some issuerId) created],.ok created⟩

/-- The fields that are given, and the issuer of the request. -/
def UpdateCredentialTemplate.applied (dto : UpdateCredentialTemplate) (issuerId : String)
    (template : CredentialTemplate) : CredentialTemplate :=
  { template with
    name := dto.name.getD template.name
    description := dto.description.getD template.description
    format := dto.format.getD template.format
    canBeRevoked := dto.canBeRevoked.getD template.canBeRevoked
    attributes := dto.template.getD template.attributes
    appearance := dto.appearance.getD template.appearance
    issuerId := if issuerId = "" then template.issuerId else issuerId
    noticeUrl := dto.noticeUrl.getD template.noticeUrl
    signerOption := dto.signerOption.getD template.signerOption }
theorem applied_id {dto : UpdateCredentialTemplate} {issuerId : String} (template : CredentialTemplate) :
    (dto.applied issuerId template).id = template.id := rfl
theorem replaced_id {template : CredentialTemplate} (row : CredentialTemplate) :
    ({ template with id := row.id } : CredentialTemplate).id = row.id := rfl

/-- A name that another template of the issuer of the request has, and this template not. -/
def nameTaken (templateId : String) (dto : UpdateCredentialTemplate) (issuerId : String) : Bool :=
  (dto.name.filter (· ≠ "")).any fun name =>
    let checkNameExist := getTemplateByNameForIssuer db insensitive name issuerId
    checkNameExist ≠ [] && !checkNameExist.any fun item => item.id = templateId
def changeTemplate (templateId : String) (f : CredentialTemplate → CredentialTemplate)
    (kept : ∀ template, (f template).id = template.id) : Except Failure Database :=
  db.store db.oidc_issuer (db.credential_templates.change templateId f kept)
def pushUpdated (orgId issuerId : String) (answer : Answer) : Except Failure Response := do
  if getTemplatesByIssuerId db issuerId = [] then .error (notFound "History not found")
  else match ← createTemplateOnAgent db configurable orgId issuerId answer with
    | none => .error (notFound "Agent details not found")
    | some response => pure response

/-- The template is looked for by its id alone; the issuer of the request becomes its own. What the agent
    refuses is set back. -/
def updateTemplate (templateId : String) (dto : UpdateCredentialTemplate) (orgId issuerId : String)
    (answer : Answer) : Outcome CredentialTemplate :=
  match getTemplateById db templateId with
  | none => ⟨db,[],.error (notFound "OID4VC template not found.")⟩
  | some template =>
    if nameTaken db insensitive templateId dto issuerId then
      ⟨db,[],.error (conflict "Template name already exists for this issuer.")⟩
    else match changeTemplate db templateId (dto.applied issuerId) fun _ => rfl with
      | .error failure => ⟨db,[],.error failure⟩
      | .ok after =>
        let updated := dto.applied issuerId template
        let written := onTemplate db .writes (some issuerId) template
        match pushUpdated after configurable orgId issuerId answer with
        | .error _ =>
          match changeTemplate after templateId (fun row => { template with id := row.id }) fun _ => rfl with
          | .error _ => ⟨after,[written],.error (.rpc "Template update failed and rollback also failed")⟩
          | .ok back => ⟨back,[written,onTemplate db .writes (some issuerId) updated],
              .error (.rpc "Template update failed and rollback also failed")⟩
        | .ok _ => ⟨after,[written,onTemplate db .returns (some issuerId) updated],.ok updated⟩

/-- The template is deleted before the agent is told. -/
def deleteTemplate (templateId orgId issuerId : String) (answer : Answer) : Outcome CredentialTemplate :=
  match getTemplateById db templateId with
  | none => ⟨db,[],.error (notFound "OID4VC template not found.")⟩
  | some template =>
    match removeTemplate db templateId with
    | .error failure => ⟨db,[],.error failure⟩
    | .ok after =>
      let deleted := onTemplate db .deletes (some issuerId) template
      match createTemplateOnAgent after configurable orgId issuerId answer with
      | .error failure => ⟨after,[deleted],.error failure⟩
      | .ok none => ⟨after,[deleted],.error (notFound "Agent details not found")⟩
      | .ok (some _) => ⟨after,[deleted,onTemplate db .returns (some issuerId) template],.ok template⟩

def findByIdTemplate (templateId orgId : String) : Outcome CredentialTemplate :=
  if orgId = "" ∨ templateId = "" then ⟨db,[],.error (badRequest "Invalid OID4VC template ID.")⟩
  else match getTemplateById db templateId with
    | none => ⟨db,[],.error (notFound "OID4VC template not found.")⟩
    | some template => ⟨db,[onTemplate db .returns none template],.ok template⟩
def findAllTemplate (orgId issuerId : String) : Outcome (List CredentialTemplate) :=
  if orgId = "" ∨ issuerId = "" then ⟨db,[],.error (badRequest "Invalid OID4VC template ID.")⟩
  else
    let templates := getTemplatesByIssuerId db issuerId
    ⟨db,templates.map (onTemplate db .returns (some issuerId)),.ok templates⟩
def extractTemplateIds (offer : CreateOidcCredentialOffer) : List String := offer.credentials.filter (· ≠ "")
def getAgentEndpoint (orgId : String) : Except Failure Unit := do
  let agentDetails ← getAgentEndPoint db orgId
  if trim (agentDetails.agentEndPoint.getD "") = "" then .error (notFound "Agent details not found") else pure ()
/-- `Unknown template ids` -/
def missingTemplateIds (offer : CreateOidcCredentialOffer) (issuerId : String) : List String :=
  let templates := getTemplateByIds db (extractTemplateIds offer) issuerId
  offer.credentials.filter fun id => !templates.any fun template => template.id = id

def sendOffer (offer : CreateOidcCredentialOffer) (orgId issuerId : String) (steps : OfferSteps) :
    Except Failure (Option Response) := do
  let _ ← getAgentEndPoint db orgId
  let _ ← getOidcIssuerDetailsById db issuerId
  if missingTemplateIds db offer issuerId ≠ [] then .error (notFound "Unknown template ids")
  else if steps.built then do
    getAgentEndpoint db orgId
    natsCall steps.answer
  else .error .builder
/-- The template whose notice is put into the answer. -/
def noticed (offer : CreateOidcCredentialOffer) : Option CredentialTemplate :=
  match extractTemplateIds offer with
  | [templateId] => (getTemplateById db templateId).filter fun template => template.noticeUrl.any (· ≠ "")
  | _ => none
/-- The notice of the offer itself, with several templates. -/
def ownNotice (offer : CreateOidcCredentialOffer) : Bool :=
  (extractTemplateIds offer).length ≠ 1 && offer.noticeUrl.any (· ≠ "")

/-- Of a template at most its notice is given back, in the answer of the agent. -/
def createOidcCredentialOffer (offer : CreateOidcCredentialOffer) (orgId issuerId : String) (steps : OfferSteps) :
    Outcome Response :=
  match sendOffer db offer orgId issuerId steps with
  | .error failure => ⟨db,[],.error failure⟩
  | .ok none => ⟨db,[],.error (notFound "Error while creating OID4VC credential offer on agent.")⟩
  | .ok (some .null) => ⟨db,[],.error .typeError⟩
  | .ok (some (.text id)) =>
    if (noticed db offer).isSome ∨ ownNotice offer ∨ !steps.saved then ⟨db,[],.error .typeError⟩
    else ⟨db,[],.ok (.text id)⟩
  | .ok (some (.object statusCode id)) =>
    if steps.saved then
      ⟨db,(noticed db offer).toList.map (onTemplate db .returns (some issuerId)),.ok (.object statusCode id)⟩
    else ⟨db,[],.error .database⟩

end
/-- An issuer without templates, on a shared agent. -/
def oneIssuer : Database where
  oidc_issuer := ⟨[⟨"issuer","user","our-issuer","[]","https://auth","agent",0,some "A",true⟩],by decide⟩
  credential_templates := ⟨[],by decide⟩
  org_agents := ⟨[⟨"agent",some "A",some "https://agent",some "shared"⟩],by decide⟩
  org_agents_type := ⟨[⟨"shared","SHARED"⟩],by decide⟩
  issuerId_fkey := by decide

end Ngotag.IssuerTemplates
