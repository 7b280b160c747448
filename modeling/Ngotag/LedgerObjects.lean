import Ngotag.OrgRolesGuard
import Ngotag.PrimaryLedger

/-!
Schemas and credential definitions, which an agent or the file server registers first and the platform
stores afterwards. What is looked up afterwards (the ledger, the schema, a second query for duplicates)
can refuse what was registered; when it does not is `ledger_objects_iff`.
-/
namespace Ngotag.LedgerObjects
open OrgRolesGuard (trim)
open PrimaryLedger (segments written networkNamespace includes)

/-- Comparisons of the database in its insensitive mode, of the stored and the given text, the letter case
    of the runtime and the configuration. -/
structure Services where
  contains : String → String → Bool
  equals : String → String → Bool
  toLowerCase : String → String
  toLocaleLowerCase : String → String
  SCHEMA_FILE_SERVER_URL : String

inductive SchemaType where
  | INDY
  | W3C_Schema
  deriving DecidableEq
inductive OrgAgentType where
  | DEDICATED
  | SHARED
  | other
  deriving DecidableEq
inductive JSONSchemaType where
  | POLYGON_W3C
  | ETHEREUM_W3C
  | LEDGER_LESS

structure Attribute where
  attributeName : String
  schemaDataType : String
  displayName : String
  isRequired : Bool
  deriving DecidableEq

structure Schema where
  id : Nat
  name : String
  version : String
  attributes : List Attribute
  schemaLedgerId : String
  issuerId : String
  publisherDid : String
  createdBy : String
  lastChangedBy : String
  orgId : String
  ledgerId : String
  type : SchemaType
  isSchemaArchived : Bool
  schemaAlias : Option String
  deriving DecidableEq

structure CredentialDefinition where
  credentialDefinitionId : String
  tag : String
  schemaLedgerId : String
  schemaId : Nat
  revocable : Bool
  createdBy : String
  lastChangedBy : String
  orgId : String
  deriving DecidableEq

structure Ledger where
  id : String
  indyNamespace : Option String
  deriving DecidableEq
/-- A row of `org_agents`, with the agent of its type where that has a row. -/
structure OrgAgent where
  orgId : String
  orgDid : Option String
  orgAgentType : Option OrgAgentType
  deriving DecidableEq
structure Database where
  schema : List Schema
  credential_definition : List CredentialDefinition
  ledgers : List Ledger
  org_agents : List OrgAgent
  deriving DecidableEq

inductive Failure where
  /-- `ResponseMessages.schema.error.exists` -/
  | alreadyExists
  /-- `ResponseMessages.schema.error.invalidVersion` -/
  | invalidVersion
  /-- `ResponseMessages.schema.error.insufficientAttributes` -/
  | insufficientAttributes
  /-- `ResponseMessages.schema.error.uniqueAttributesnames` -/
  | uniqueAttributesnames
  /-- `ResponseMessages.schema.error.uniqueAttributesDisplaynames` -/
  | uniqueAttributesDisplaynames
  /-- `ResponseMessages.schema.error.agentDetailsNotFound` -/
  | agentDetailsNotFound
  /-- `ResponseMessages.schema.error.atLeastOneRequired` -/
  | atLeastOneRequired
  /-- `ResponseMessages.schema.error.notCreated` -/
  | notCreated
  | orgDidAndSchemaType
  /-- `ResponseMessages.schema.error.schemaUploading` -/
  | schemaUploading
  /-- `ResponseMessages.schema.error.W3CSchemaNotFOund` -/
  | W3CSchemaNotFOund
  /-- `ResponseMessages.schema.error.networkNotFound` -/
  | networkNotFound
  /-- `ResponseMessages.schema.error.storeW3CSchema` -/
  | storeW3CSchema
  /-- `ResponseMessages.credentialDefinition.error.Conflict` -/
  | Conflict
  /-- `ResponseMessages.credentialDefinition.error.schemaIdNotFound` -/
  | schemaIdNotFound
  | agent
  /-- A property of an undefined value, or a value that a column does not take. -/
  | typeError
  deriving DecidableEq

structure CreateSchema where
  schemaName : String
  schemaVersion : Option String
  attributes : List Attribute
  orgDid : Option String
structure CreateW3CSchema where
  schemaName : String
  schemaVersion : Option String
  description : String
  attributes : List Attribute
  schemaType : JSONSchemaType
  schemaAlias : Option String
structure CreateCredDef where
  tag : String
  schemaLedgerId : String
  orgDid : Option String
  revocable : Bool
/-- An agent's answer. A finished one has the object in itself or under the name of its kind, an unfinished
    one may have something under that name. -/
inductive Answer (Object : Type) where
  | error
  | unfinished (inner : Bool)
  | flat (object : Object)
  | nested (object : Object)
def Answer.object {Object : Type} : Answer Object → Option Object
  | .flat object | .nested object => some object
  | _ => none
structure IndySchema where
  schemaId : String
  name : String
  version : String
  issuerId : String
structure IndyCredDef where
  credentialDefinitionId : String
  tag : String
  schemaId : String
  issuerId : String
/-- A document of `w3cSchemaBuilder`, by what it is built from. -/
structure W3CSchema where
  title : String
  description : String
  attributes : List Attribute
  schemaUrl : Option String
/-- What an agent answers to a W3C schema. -/
structure CreatedSchema where
  schemaId : String
  schemaUrl : String
  did : String
  deriving DecidableEq
/-- The answers of an agent, to an upload (`some none`: nothing) and to the request for the document at its
    place: its title, where there is a document. -/
structure W3CAnswers where
  created : Option CreatedSchema
  uploaded : Option (Option String)
  title : Option String

section
variable (svc : Services) (db : Database)

/-- An undefined version is no condition. -/
def schemaExists (schemaName : String) (schemaVersion : Option String) : List Schema :=
  db.schema.filter fun row => row.type = .INDY && !row.isSchemaArchived && svc.contains row.name schemaName &&
    schemaVersion.all fun version => svc.contains row.version version
def w3cSchemaExists (schemaName schemaVersion orgId : String) : Bool :=
  db.schema.any fun row => row.type = .W3C_Schema && !row.isSchemaArchived && svc.equals row.name schemaName &&
    svc.equals row.version schemaVersion && row.orgId = orgId
def getByAttribute (schema tag : String) : Option CredentialDefinition :=
  db.credential_definition.find? fun row => row.schemaLedgerId = schema && svc.contains row.tag tag
def getSchemaById (schemaLedgerId : String) :
    Option Schema := db.schema.find? fun row => row.schemaLedgerId = schemaLedgerId
def getLedgerByNamespace (LedgerName : Option String) : Option Ledger :=
  db.ledgers.find? fun row => LedgerName.all fun name => row.indyNamespace = some name
def getAgentDetailsByOrgId (orgId : String) : Option OrgAgent := db.org_agents.find? fun row => row.orgId = orgId
/-- `issuerId.split(':')[4] || issuerId` -/
def publisherDid (issuerId : String) : String := (((segments issuerId)[4]?).filter (· ≠ "")).getD issuerId
/-- Nothing is stored, and nothing returned, without a name. -/
def saveSchema (row : Schema) : Except Failure (Option Database) :=
  if row.name = "" then .ok none
  else if schemaExists svc db row.name (some row.version) ≠ [] then .error .alreadyExists
  else .ok (some { db with schema := row :: db.schema })
def returned (undefined : Failure) : Except Failure (Option Database) → Except Failure Database
  | .error failure => .error failure
  | .ok none => .error undefined
  | .ok (some after) => .ok after
/-- Nothing is returned where there is one already. -/
def saveCredentialDefinition (row : CredentialDefinition) : Option Database :=
  match getByAttribute svc db row.schemaLedgerId row.tag with
  | none => some { db with credential_definition := row :: db.credential_definition }
  | some _ => none

/-- Not `NaN`: digits, with a point before or after, or `Infinity`, after blanks and a sign. -/
def parsesFloat (text : String) : Bool :=
  let unsigned := match text.toList.dropWhile Spelling.blank with
    | '+' :: rest | '-' :: rest => rest
    | chars => chars
  match unsigned with
  | '.' :: c :: _ => c.isDigit
  | c :: _ => c.isDigit || "Infinity".toList.isPrefixOf unsigned
  | [] => false
def validVersion (schemaVersion : Option String) : Bool :=
  schemaVersion.any fun version => parsesFloat version && version.toList.contains '.'
def Attribute.trimmed (item : Attribute) : Attribute :=
  { item with attributeName := trim item.attributeName,displayName := trim item.displayName }
/-- `schema.orgDid?.split(':').length >= 4 ? schema.orgDid : orgDid` -/
def givenDid (requested orgDid : Option String) : Option String :=
  match requested with
  | some did => if 4 ≤ (segments did).length then some did else orgDid
  | none => orgDid
structure SchemaPayload where
  attributes : List Attribute
  version : Option String
  name : String
  issuerId : Option String
def OrgAgent.asked (agent : OrgAgent) : Except Failure Unit :=
  match agent.orgAgentType with
  | some .DEDICATED | some .SHARED => .ok ()
  | _ => .error .typeError

def prepareSchema (orgId : String) (schema : CreateSchema) : Except Failure SchemaPayload :=
  let trimmedAttributes := schema.attributes.map Attribute.trimmed
  if schemaExists svc db schema.schemaName schema.schemaVersion ≠ [] then .error .alreadyExists
  else if validVersion schema.schemaVersion = false then .error .invalidVersion
  else if schema.attributes = [] then .error .insufficientAttributes
  else if ¬(trimmedAttributes.map fun item => svc.toLowerCase item.attributeName).Nodup then
    .error .uniqueAttributesnames
  else if ¬(trimmedAttributes.map fun item => svc.toLocaleLowerCase item.displayName).Nodup then
    .error .uniqueAttributesDisplaynames
  else match getAgentDetailsByOrgId db orgId with
    | none => .error .agentDetailsNotFound
    | some agentDetails =>
      if agentDetails.orgAgentType = none then .error .typeError
      else if (trimmedAttributes.any Attribute.isRequired) = false then .error .atLeastOneRequired
      else match agentDetails.asked with
        | .error failure => .error failure
        | .ok () => .ok
            ⟨trimmedAttributes,schema.schemaVersion,trim schema.schemaName,givenDid schema.orgDid agentDetails.orgDid⟩

def JSONSchemaType.text : JSONSchemaType → String
  | .POLYGON_W3C => "polygon"
  | .ETHEREUM_W3C => "ethr"
  | .LEDGER_LESS => "no_ledger"
def checkDidLedgerAndNetwork (schemaType : JSONSchemaType) (did : String) : Bool :=
  let cleanDid := svc.toLowerCase (trim did)
  match schemaType with
  | .POLYGON_W3C | .ETHEREUM_W3C => includes schemaType.text cleanDid
  | .LEDGER_LESS => "did:key".toList <+: cleanDid.toList || "did:web".toList <+: cleanDid.toList

/-- The DID of the organisation and the version. -/
def prepareW3CSchema (orgId : String) (schema : CreateW3CSchema) : Except Failure (String × String) :=
  let schemaVersion := schema.schemaVersion.getD "1.0"
  match getAgentDetailsByOrgId db orgId with
  | none => .error .agentDetailsNotFound
  | some agentDetails =>
    match agentDetails.orgDid with
    | none => .error .typeError
    | some orgDid =>
      if checkDidLedgerAndNetwork svc schema.schemaType orgDid = false then .error .orgDidAndSchemaType
      else if w3cSchemaExists svc db schema.schemaName schemaVersion orgId = true then .error .alreadyExists
      else .ok (orgDid,schemaVersion)

structure CredDefRequest where
  tag : String
  schemaId : String
  issuerId : Option String

def prepareCredentialDefinition (orgId : String) (credDef : CreateCredDef) : Except Failure CredDefRequest :=
  match getAgentDetailsByOrgId db orgId with
  | none => .error .typeError
  | some agentDetails =>
    match getByAttribute svc db credDef.schemaLedgerId (trim credDef.tag) with
    | some _ => .error .Conflict
    | none =>
      match agentDetails.asked with
      | .error failure => .error failure
      | .ok () => .ok ⟨trim credDef.tag,credDef.schemaLedgerId,givenDid credDef.orgDid agentDetails.orgDid⟩

/-- An object that is registered, of which the platform keeps a row. -/
inductive Object where
  | schema (id name version : String)
  | credentialDefinition (id tag : String)
/-- What is registered, and the tables after the call where it succeeds. -/
structure Outcome where
  registered : Option Object
  result : Except Failure Database
def IndySchema.object (schema : IndySchema) : Object := .schema schema.schemaId schema.name schema.version
def IndyCredDef.object (credDef : IndyCredDef) :
    Object := .credentialDefinition credDef.credentialDefinitionId credDef.tag
/-- The two parts of the namespace of the DID's ledger. -/
def indyNamespace (did : String) : String := written did 2 ++ ":" ++ written did 3

def indyRow (orgId userId : String) (drawn : Nat) (attributes : List Attribute) (ledger : Ledger) (object : IndySchema) :
    Schema where
  id := drawn
  name := object.name
  version := object.version
  attributes := attributes
  schemaLedgerId := object.schemaId
  issuerId := object.issuerId
  publisherDid := publisherDid object.issuerId
  createdBy := userId
  lastChangedBy := userId
  orgId := orgId
  ledgerId := ledger.id
  type := .INDY
  isSchemaArchived := false
  schemaAlias := none

/-- What is done with an answer: the ledger of the DID is needed for any. -/
def storeSchema (orgId userId : String) (drawn : Nat) (payload : SchemaPayload) (finished : Option IndySchema) :
    Except Failure Database :=
  match payload.issuerId with
  | none => .error .typeError
  | some did =>
    match getLedgerByNamespace db (some (indyNamespace did)) with
    | none => .error .typeError
    | some getLedgerId =>
      match finished with
      | none => .error .notCreated
      | some object =>
        returned .typeError (saveSchema svc db (indyRow orgId userId drawn payload.attributes getLedgerId object))

def createSchema (orgId userId : String) (drawn : Nat) (schema : CreateSchema) (answer : Answer IndySchema) : Outcome :=
  match prepareSchema svc db orgId schema with
  | .error failure => ⟨none,.error failure⟩
  | .ok payload =>
    match answer with
    | .error => ⟨none,.error .agent⟩
    | .unfinished false => ⟨none,.error .typeError⟩
    | .unfinished true => ⟨none,storeSchema svc db orgId userId drawn payload none⟩
    | .flat object | .nested object =>
      ⟨some object.object,storeSchema svc db orgId userId drawn payload (some object)⟩

/-- `LedgerLessConstant.NO_LEDGER` for did:web and did:key. -/
def ledgerNamespace (did : String) : Option String :=
  if networkNamespace did = some "web" ∨
      networkNamespace did = some "key" then some "no_ledger" else networkNamespace did

def w3cRow (orgId userId : String) (drawn : Nat) (schema : CreateW3CSchema) (schemaVersion title : String)
    (ledger : Ledger)
    (created : CreatedSchema) : Schema where
  id := drawn
  name := title
  version := schemaVersion
  attributes := schema.attributes
  schemaLedgerId := created.schemaUrl
  issuerId := created.did
  publisherDid := publisherDid created.did
  createdBy := userId
  lastChangedBy := userId
  orgId := orgId
  ledgerId := ledger.id
  type := .W3C_Schema
  isSchemaArchived := false
  schemaAlias := schema.schemaAlias

def storeW3CSchemas (orgId userId : String) (drawn : Nat) (schema : CreateW3CSchema) (schemaVersion : String)
    (title : Option String) (created : CreatedSchema) : Except Failure Database :=
  match title with
  | none => .error .W3CSchemaNotFOund
  | some title =>
    match getLedgerByNamespace db (ledgerNamespace created.did) with
    | none => .error .networkNotFound
    | some ledgerDetails =>
      returned .storeW3CSchema
          (saveSchema svc db (w3cRow orgId userId drawn schema schemaVersion title ledgerDetails created))
/-- The document that is uploaded or given to the agent. -/
def document (schema : CreateW3CSchema) (schemaUrl : Option String) : W3CSchema :=
  ⟨schema.schemaName,schema.description,schema.attributes,schemaUrl⟩

/-- Published by the agent, or uploaded to the file server, where the place is the answered one. -/
def publish (schema : CreateW3CSchema) (orgDid : String) (answers : W3CAnswers) : Except Failure CreatedSchema :=
  match schema.schemaType with
  | .POLYGON_W3C | .ETHEREUM_W3C =>
    match answers.created with
    | none => .error .agent
    | some created => .ok created
  | .LEDGER_LESS =>
    match answers.uploaded with
    | none => .error .agent
    | some none => .error .schemaUploading
    | some (some schemaId) => .ok ⟨schemaId,svc.SCHEMA_FILE_SERVER_URL ++ schemaId,orgDid⟩

def createW3CSchema (orgId userId : String) (drawn : Nat) (schema : CreateW3CSchema) (answers : W3CAnswers) : Outcome :=
  match prepareW3CSchema svc db orgId schema with
  | .error failure => ⟨none,.error failure⟩
  | .ok (orgDid,schemaVersion) =>
    match publish svc schema orgDid answers with
    | .error failure => ⟨none,.error failure⟩
    | .ok created => ⟨some (.schema created.schemaUrl (document schema none).title schemaVersion),
        storeW3CSchemas svc db orgId userId drawn schema schemaVersion answers.title created⟩
def credDefRow (orgId userId : String) (revocable : Bool) (schema : Schema) (object : IndyCredDef) :
    CredentialDefinition where
  credentialDefinitionId := object.credentialDefinitionId
  tag := object.tag
  schemaLedgerId := object.schemaId
  schemaId := schema.id
  revocable := revocable
  createdBy := userId
  lastChangedBy := userId
  orgId := orgId

/-- Where the answer is unfinished, the row has no ids, which the columns do not take. -/
def storeCredentialDefinition (orgId userId : String) (credDef : CreateCredDef) (finished : Option IndyCredDef) :
    Except Failure Database :=
  match getSchemaById db credDef.schemaLedgerId with
  | none => .error .schemaIdNotFound
  | some schemaDetails =>
    match finished with
    | none => .error .typeError
    | some object =>
      match saveCredentialDefinition svc db (credDefRow orgId userId credDef.revocable schemaDetails object) with
      | none => .error .typeError
      | some after => .ok after

def createCredentialDefinition (orgId userId : String) (credDef : CreateCredDef) (answer : Answer IndyCredDef) :
    Outcome :=
  match prepareCredentialDefinition svc db orgId credDef with
  | .error failure => ⟨none,.error failure⟩
  | .ok _ =>
    match answer with
    | .error => ⟨none,.error .agent⟩
    | .unfinished _ => ⟨none,storeCredentialDefinition svc db orgId userId credDef none⟩
    | .flat object | .nested object =>
      ⟨some object.object,storeCredentialDefinition svc db orgId userId credDef (some object)⟩

end

inductive Request where
  | createSchema (schema : CreateSchema) (answer : Answer IndySchema)
  | createW3CSchema (schema : CreateW3CSchema) (answers : W3CAnswers)
  | createCredentialDefinition (credDef : CreateCredDef) (answer : Answer IndyCredDef)

section
variable (svc : Services) (db : Database) (orgId userId : String) (drawn : Nat)

def handle : Request → Outcome
  | .createSchema schema answer => createSchema svc db orgId userId drawn schema answer
  | .createW3CSchema schema answers => createW3CSchema svc db orgId userId drawn schema answers
  | .createCredentialDefinition credDef answer => createCredentialDefinition svc db orgId userId credDef answer
def Records (after : Database) : Object → Prop
  | .schema id name version => ∃ row, after = { db with schema := row :: db.schema } ∧
      row.schemaLedgerId = id ∧ row.name = name ∧ row.version = version ∧ row.orgId = orgId
  | .credentialDefinition id tag => ∃ row, after = { db with credential_definition := row :: db.credential_definition } ∧
      row.credentialDefinitionId = id ∧ row.tag = tag ∧ row.orgId = orgId
/-- What is registered is stored by a call that succeeds; nothing is registered by a call that fails. -/
structure Agrees (outcome : Outcome) : Prop where
  recorded : ∀ object, outcome.registered = some object → ∃ after, outcome.result = .ok after ∧
      Records db orgId after object
  nothing : ∀ failure, outcome.result = .error failure → outcome.registered = none
/-- No schema with the name and the version stands in the way, and there is a name. -/
def Free (name version : String) : Prop := name ≠ "" ∧ schemaExists svc db name (some version) = []

/-- Where the object is registered, the later lookups find what they need and no duplicate. -/
def Fits : Request → Prop
  | .createSchema schema answer => ∀ payload object, prepareSchema svc db orgId schema = .ok payload →
      answer.object = some object →
      (∃ did, payload.issuerId = some did ∧ (getLedgerByNamespace db (some (indyNamespace did))).isSome) ∧
      Free svc db object.name object.version
  | .createW3CSchema schema answers => ∀ orgDid schemaVersion created,
      prepareW3CSchema svc db orgId schema = .ok (orgDid,schemaVersion) →
      publish svc schema orgDid answers = .ok created →
      answers.title = some schema.schemaName ∧ (getLedgerByNamespace db (ledgerNamespace created.did)).isSome ∧
      Free svc db schema.schemaName schemaVersion
  | .createCredentialDefinition credDef answer => ∀ payload object,
      prepareCredentialDefinition svc db orgId credDef = .ok payload → answer.object = some object →
      (getSchemaById db credDef.schemaLedgerId).isSome ∧ getByAttribute svc db object.schemaId object.tag = none

end
section
variable {svc : Services} {db after : Database} {orgId userId : String} {drawn : Nat}

theorem saved {row : Schema} {undefined : Failure} : returned undefined (saveSchema svc db row) = .ok after ↔
    Free svc db row.name row.version ∧ after = { db with schema := row :: db.schema } := by
  unfold saveSchema Free
  by_cases nameless : row.name = ""
  · simp [nameless,returned]
  · by_cases free : schemaExists svc db row.name (some row.version) = []
    · simp [nameless,free,returned,eq_comm]
    · simp [nameless,free,returned]

variable {result : Except Failure Database}
theorem agrees_registered {object : Object} :
    Agrees db orgId ⟨some object,result⟩ ↔ ∃ after, result = .ok after ∧ Records db orgId after object := by
  constructor
  · exact fun agrees => agrees.recorded object rfl
  · rintro ⟨after,rfl,records⟩
    refine ⟨?_,nofun⟩
    rintro _ ⟨⟩
    exact ⟨after,rfl,records⟩
theorem agrees_nothing : Agrees db orgId ⟨none,result⟩ := ⟨nofun,fun _ _ => rfl⟩

theorem storeSchema_ok {payload : SchemaPayload} {object : IndySchema} :
    storeSchema svc db orgId userId drawn payload (some object) = .ok after ↔ ∃ did ledger, payload.issuerId = some did ∧
      getLedgerByNamespace db (some (indyNamespace did)) = some ledger ∧ Free svc db object.name object.version ∧
      after = { db with schema := indyRow orgId userId drawn payload.attributes ledger object :: db.schema } := by
  unfold storeSchema
  cases payload.issuerId with
  | none => simp
  | some did =>
    cases found : getLedgerByNamespace db (some (indyNamespace did)) with
    | none => simp [found]
    | some ledger => simp [found,saved,indyRow]

variable {schema : CreateW3CSchema}
theorem storeW3CSchemas_ok {schemaVersion : String} {title : Option String} {created : CreatedSchema} :
    storeW3CSchemas svc db orgId userId drawn schema schemaVersion title created = .ok after ↔
    ∃ name ledger, title = some name ∧
      getLedgerByNamespace db (ledgerNamespace created.did) = some ledger ∧ Free svc db name schemaVersion ∧
      after = { db with schema := w3cRow orgId userId drawn schema schemaVersion name ledger created :: db.schema } := by
  unfold storeW3CSchemas
  cases title with
  | none => simp
  | some name =>
    cases getLedgerByNamespace db (ledgerNamespace created.did) with
    | none => simp
    | some ledger => simp [saved,w3cRow]

variable {credDef : CreateCredDef}
theorem storeCredentialDefinition_ok {object : IndyCredDef} :
    storeCredentialDefinition svc db orgId userId credDef (some object) = .ok after ↔ ∃ schema,
      getSchemaById db credDef.schemaLedgerId = some schema ∧ getByAttribute svc db object.schemaId object.tag = none ∧
      after = { db with
        credential_definition :=
            credDefRow orgId userId credDef.revocable schema object :: db.credential_definition } := by
  unfold storeCredentialDefinition
  cases getSchemaById db credDef.schemaLedgerId with
  | none => simp
  | some schema =>
    cases taken : getByAttribute svc db object.schemaId object.tag with
    | none => simp [saveCredentialDefinition,credDefRow,taken,eq_comm]
    | some row => simp [saveCredentialDefinition,credDefRow,taken]

theorem storeSchema_records {payload : SchemaPayload} {object : IndySchema} :
    (∃ after, storeSchema svc db orgId userId drawn payload (some object) = .ok after ∧
      Records db orgId after object.object) ↔
      (∃ did, payload.issuerId = some did ∧ (getLedgerByNamespace db (some (indyNamespace did))).isSome) ∧
      Free svc db object.name object.version := by
  simp only [storeSchema_ok]
  constructor
  · rintro ⟨after,⟨did,ledger,is_did,found,free,-⟩,-⟩
    exact ⟨⟨did,is_did,found ▸ rfl⟩,free⟩
  · rintro ⟨⟨did,is_did,found⟩,free⟩
    obtain ⟨ledger,is_ledger⟩ := Option.isSome_iff_exists.mp found
    exact ⟨_,⟨did,ledger,is_did,is_ledger,free,rfl⟩,_,rfl,rfl,rfl,rfl,rfl⟩

theorem storeW3CSchemas_records {schemaVersion name : String} {title : Option String} {created : CreatedSchema} :
    (∃ after, storeW3CSchemas svc db orgId userId drawn schema schemaVersion title created = .ok after ∧
      Records db orgId after (.schema created.schemaUrl name schemaVersion)) ↔
      title = some name ∧ (getLedgerByNamespace db (ledgerNamespace created.did)).isSome ∧
          Free svc db name schemaVersion := by
  simp only [storeW3CSchemas_ok]
  constructor
  · rintro ⟨after,⟨stored,ledger,titled,found,free,rfl⟩,row,same,-,is_name,-⟩
    obtain rfl : w3cRow orgId userId drawn schema schemaVersion stored ledger created = row := by simpa using same
    obtain rfl : stored = name := is_name
    exact ⟨titled,found ▸ rfl,free⟩
  · rintro ⟨titled,found,free⟩
    obtain ⟨ledger,is_ledger⟩ := Option.isSome_iff_exists.mp found
    exact ⟨_,⟨name,ledger,titled,is_ledger,free,rfl⟩,_,rfl,rfl,rfl,rfl,rfl⟩

theorem storeCredentialDefinition_records {object : IndyCredDef} :
    (∃ after, storeCredentialDefinition svc db orgId userId credDef (some object) = .ok after ∧
      Records db orgId after object.object) ↔
      (getSchemaById db credDef.schemaLedgerId).isSome ∧ getByAttribute svc db object.schemaId object.tag = none := by
  simp only [storeCredentialDefinition_ok]
  constructor
  · rintro ⟨after,⟨schema,found,free,-⟩,-⟩
    exact ⟨found ▸ rfl,free⟩
  · rintro ⟨found,free⟩
    obtain ⟨schema,is_schema⟩ := Option.isSome_iff_exists.mp found
    exact ⟨_,⟨schema,is_schema,free,rfl⟩,_,rfl,rfl,rfl,rfl⟩

theorem createSchema_agrees {schema : CreateSchema} {answer : Answer IndySchema} :
    Agrees db orgId (createSchema svc db orgId userId drawn schema answer) ↔
    Fits svc db orgId (.createSchema schema answer) := by
  simp only [createSchema,Fits]
  cases prepareSchema svc db orgId schema with
  | error failure => simp [agrees_nothing]
  | ok payload =>
    cases answer with
    | error => simp [agrees_nothing,Answer.object]
    | unfinished inner => cases inner <;> simp [agrees_nothing,Answer.object]
    | flat object | nested object =>
      simp only [agrees_registered,storeSchema_records,Answer.object,Except.ok.injEq,Option.some.injEq]
      exact ⟨fun fits _ _ same finished => same ▸ finished ▸ fits,fun fits => fits payload object rfl rfl⟩

theorem createW3CSchema_agrees {answers : W3CAnswers} :
    Agrees db orgId (createW3CSchema svc db orgId userId drawn schema answers) ↔
      Fits svc db orgId (.createW3CSchema schema answers) := by
  simp only [createW3CSchema,Fits]
  cases prepareW3CSchema svc db orgId schema with
  | error failure => simp [agrees_nothing]
  | ok prepared =>
    obtain ⟨orgDid,schemaVersion⟩ := prepared
    cases published : publish svc schema orgDid answers with
    | error failure =>
      simp only [published,agrees_nothing,Except.ok.injEq,Prod.mk.injEq,true_iff]
      rintro _ _ created ⟨rfl,rfl⟩ is_created
      cases published.symm.trans is_created
    | ok created =>
      simp only [published,agrees_registered,document,storeW3CSchemas_records,Except.ok.injEq,Prod.mk.injEq]
      constructor
      · rintro fits _ _ other ⟨rfl,rfl⟩ is_created
        obtain rfl := Except.ok.inj (published.symm.trans is_created)
        exact fits
      · exact fun fits => fits orgDid schemaVersion created ⟨rfl,rfl⟩ published

theorem createCredentialDefinition_agrees {answer : Answer IndyCredDef} :
    Agrees db orgId (createCredentialDefinition svc db orgId userId credDef answer) ↔
      Fits svc db orgId (.createCredentialDefinition credDef answer) := by
  simp only [createCredentialDefinition,Fits]
  cases prepareCredentialDefinition svc db orgId credDef with
  | error failure => simp [agrees_nothing]
  | ok payload =>
    cases answer with
    | error | unfinished inner => simp [agrees_nothing,Answer.object]
    | flat object | nested object =>
      simp only [agrees_registered,storeCredentialDefinition_records,Answer.object,Except.ok.injEq,Option.some.injEq]
      exact ⟨fun fits _ _ _ finished => finished ▸ fits,fun fits => fits payload object rfl rfl⟩

end

/-- The tables agree with what is registered exactly when nothing that is looked up after the
    registration stands in the way. -/
theorem ledger_objects_iff (svc : Services) (db : Database) (orgId userId : String) (drawn : Nat) (request : Request) :
    Agrees db orgId (handle svc db orgId userId drawn request) ↔ Fits svc db orgId request := by
  cases request with
  | createSchema schema answer => exact createSchema_agrees
  | createW3CSchema schema answers => exact createW3CSchema_agrees
  | createCredentialDefinition credDef answer => exact createCredentialDefinition_agrees
/-- Parts of the stored text, in one letter case. -/
def letterCase : Services where
  contains stored given := includes given stored
  equals stored given := stored = given
  toLowerCase text := text
  toLocaleLowerCase text := text
  SCHEMA_FILE_SERVER_URL := "https://schemas/"
/-- An organisation with a did:key, and an Indy schema of another one. -/
def oneSchema : Database where
  schema := [⟨0,"Degree Certificate","1.0",[],"did:indy:a:b:c/schema","did:indy:a:b:c","c","user","user","other","a:b",.INDY,false,none⟩]
  credential_definition := []
  ledgers := [⟨"none",some "no_ledger"⟩]
  org_agents := [⟨"ngo",some "did:key:z6Mk",some .SHARED⟩]
def degree : CreateW3CSchema := ⟨"Degree",none,"",[⟨"name","string","Name",true⟩],.LEDGER_LESS,none⟩
/-- The upload succeeds and the document is found at its place. -/
def uploaded : W3CAnswers := ⟨none,some (some "42"),some "Degree"⟩
/-- The W3C schema is uploaded, and then there is a schema whose name contains its name. -/
theorem uploaded_not_stored :
    ¬Agrees oneSchema "ngo" (handle letterCase oneSchema "ngo" "user" 1 (.createW3CSchema degree uploaded)) := by
  intro agrees
  have fits : Fits letterCase oneSchema "ngo" (.createW3CSchema degree uploaded) := createW3CSchema_agrees.mp agrees
  obtain ⟨-,-,-,free⟩ := fits "did:key:z6Mk" "1.0" ⟨"42","https://schemas/42","did:key:z6Mk"⟩ (by decide +kernel)
      (by decide +kernel)
  exact absurd free (by decide +kernel)

end Ngotag.LedgerObjects
