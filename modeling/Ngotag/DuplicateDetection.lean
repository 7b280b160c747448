import Ngotag.LedgerObjects

/-!
When a schema or a credential definition is refused because there is one already. The lookups of Indy
schemas and of tags take a row that merely contains what is asked for, the name of an Indy schema is
looked up with its blanks, and what is saved is looked up once more among the Indy schemas of everybody.
-/
namespace Ngotag.DuplicateDetection
open OrgRolesGuard (trim)
open LedgerObjects

section
variable (svc : Services) (db : Database) (orgId : String)

/-- The Indy schema of a request: the same trimmed name and the same version, whatever the letter case. -/
def SameIndy (schema : CreateSchema) (row : Schema) : Prop :=
  row.type = .INDY ∧ row.isSchemaArchived = false ∧ svc.equals (trim row.name) (trim schema.schemaName) = true ∧
    ∃ version, schema.schemaVersion = some version ∧ svc.equals row.version version = true
/-- A live W3C schema of the organisation with the same name and version. -/
def SameW3C (schema : CreateW3CSchema) (row : Schema) : Prop :=
  row.type = .W3C_Schema ∧ row.isSchemaArchived = false ∧ row.orgId = orgId ∧
    svc.equals row.name schema.schemaName = true ∧ svc.equals row.version (schema.schemaVersion.getD "1.0") = true
/-- A definition of the same schema with the same tag. -/
def SameTag (credDef : CreateCredDef) (row : CredentialDefinition) : Prop :=
  row.schemaLedgerId = credDef.schemaLedgerId ∧ svc.equals (trim row.tag) (trim credDef.tag) = true
def Stored : Request → Prop
  | .createSchema schema _ => ∃ row ∈ db.schema, SameIndy svc schema row
  | .createW3CSchema schema _ => ∃ row ∈ db.schema, SameW3C svc orgId schema row
  | .createCredentialDefinition credDef _ => ∃ row ∈ db.credential_definition, SameTag svc credDef row
/-- The refusal that says so. -/
def exists_ : Request → Failure
  | .createSchema _ _ | .createW3CSchema _ _ => .alreadyExists
  | .createCredentialDefinition _ _ => .Conflict
/-- A request is refused as already existing exactly when what it asks for is stored. -/
def Exact (userId : String) (drawn : Nat) (request : Request) : Prop :=
  (handle svc db orgId userId drawn request).result = .error (exists_ request) ↔ Stored svc db orgId request
/-- A live Indy schema that the search finds. -/
def Contains (name : String) (version : Option String) (row : Schema) : Prop :=
  row.type = .INDY ∧ row.isSchemaArchived = false ∧ svc.contains row.name name = true ∧
    ∀ given, version = some given → svc.contains row.version given = true
/-- The agent's DID is on the ledger of the schema type. -/
def Suits (schema : CreateW3CSchema) : Prop :=
  ∃ agent did, getAgentDetailsByOrgId db orgId = some agent ∧ agent.orgDid = some did ∧
    checkDidLedgerAndNetwork svc schema.schemaType did = true

/-- A row that makes the lookup before the registration refuse the request. -/
def Found : Request → Prop
  | .createSchema schema _ => ∃ row ∈ db.schema, Contains svc schema.schemaName schema.schemaVersion row
  | .createW3CSchema schema _ => Suits svc db orgId schema ∧ ∃ row ∈ db.schema, SameW3C svc orgId schema row
  | .createCredentialDefinition credDef _ => (getAgentDetailsByOrgId db orgId).isSome ∧
      ∃ row ∈ db.credential_definition, row.schemaLedgerId = credDef.schemaLedgerId ∧ svc.contains row.tag
      (trim credDef.tag) = true

/-- A row that makes the lookup after the registration refuse what was registered. -/
def FoundLater : Request → Prop
  | .createSchema schema answer => ∃ payload object did, prepareSchema svc db orgId schema = .ok payload ∧
      answer.object = some object ∧ payload.issuerId = some did ∧
      (getLedgerByNamespace db (some (indyNamespace did))).isSome ∧ object.name ≠ "" ∧
      ∃ row ∈ db.schema, Contains svc object.name (some object.version) row
  | .createW3CSchema schema answers => ∃ orgDid schemaVersion created title,
      prepareW3CSchema svc db orgId schema = .ok (orgDid,schemaVersion) ∧
      publish svc schema orgDid answers = .ok created ∧
      answers.title = some title ∧ (getLedgerByNamespace db (ledgerNamespace created.did)).isSome ∧ title ≠ "" ∧
      ∃ row ∈ db.schema, Contains svc title (some schemaVersion) row
  | .createCredentialDefinition _ _ => False

/-- No row merely contains what is asked for or registered, and what is stored is not overlooked: for
    the blanks of a name, or because the call does not get as far as the lookup. -/
structure Told (request : Request) : Prop where
  similar : ¬Stored svc db orgId request → ¬Found svc db orgId request
  registered : ¬Stored svc db orgId request → ¬FoundLater svc db orgId request
  overlooked : Stored svc db orgId request → Found svc db orgId request ∨ FoundLater svc db orgId request
end
section
variable {svc : Services} {db : Database} {orgId userId : String} {drawn : Nat}

theorem schemaExists_ne {name : String} {version : Option String} :
    schemaExists svc db name version ≠ [] ↔ ∃ row ∈ db.schema, Contains svc name version row := by
  rw [schemaExists,ne_eq,List.filter_eq_nil_iff]
  push Not
  refine exists_congr fun row => and_congr_right fun _ => ?_
  cases version <;> simp [Contains,and_assoc]
theorem w3cSchemaExists_iff {schema : CreateW3CSchema} :
    w3cSchemaExists svc db schema.schemaName (schema.schemaVersion.getD "1.0") orgId = true ↔
      ∃ row ∈ db.schema, SameW3C svc orgId schema row := by
  rw [w3cSchemaExists,List.any_eq_true]
  refine exists_congr fun row => and_congr_right fun _ => ?_
  simp only [Bool.and_eq_true,decide_eq_true_eq,Bool.not_eq_true',SameW3C]
  tauto
theorem returned_refused {row : Schema} {undefined : Failure} (other : undefined ≠ .alreadyExists) :
    returned undefined (saveSchema svc db row) = .error .alreadyExists ↔
      row.name ≠ "" ∧ ∃ found ∈ db.schema, Contains svc row.name (some row.version) found := by
  rw [← schemaExists_ne,saveSchema]
  by_cases nameless : row.name = ""
  · simp [nameless,returned,other]
  · by_cases free : schemaExists svc db row.name (some row.version) = [] <;> simp [nameless,free,returned]

theorem storeSchema_refused {payload : SchemaPayload} {object : IndySchema} :
    storeSchema svc db orgId userId drawn payload (some object) = .error .alreadyExists ↔
    ∃ did, payload.issuerId = some did ∧
      (getLedgerByNamespace db (some (indyNamespace did))).isSome ∧ object.name ≠ "" ∧
      ∃ row ∈ db.schema, Contains svc object.name (some object.version) row := by
  unfold storeSchema
  cases payload.issuerId with
  | none => simp
  | some did =>
    cases found : getLedgerByNamespace db (some (indyNamespace did)) with
    | none => simp [found]
    | some ledger =>
      simp only [Option.some.injEq,exists_eq_left',found,Option.isSome_some,true_and]
      exact returned_refused nofun

theorem storeW3CSchemas_refused {schema : CreateW3CSchema} {schemaVersion : String} {title : Option String}
    {created : CreatedSchema} :
    storeW3CSchemas svc db orgId userId drawn schema schemaVersion title created = .error .alreadyExists ↔
      ∃ name, title = some name ∧ (getLedgerByNamespace db (ledgerNamespace created.did)).isSome ∧ name ≠ "" ∧
      ∃ row ∈ db.schema, Contains svc name (some schemaVersion) row := by
  unfold storeW3CSchemas
  cases title with
  | none => simp
  | some name =>
    cases getLedgerByNamespace db (ledgerNamespace created.did) with
    | none => simp
    | some ledger =>
      simp only [Option.some.injEq,exists_eq_left',Option.isSome_some,true_and]
      exact returned_refused nofun

theorem prepareSchema_refused {schema : CreateSchema} :
    prepareSchema svc db orgId schema = .error .alreadyExists ↔
      ∃ row ∈ db.schema, Contains svc schema.schemaName schema.schemaVersion row := by
  rw [← schemaExists_ne,prepareSchema]
  by_cases found : schemaExists svc db schema.schemaName schema.schemaVersion ≠ []
  · simp [found]
  · refine iff_of_false (fun refused => ?_) found
    rw [if_neg found] at refused
    cases known : getAgentDetailsByOrgId db orgId with
    | none =>
      rw [known] at refused
      split_ifs at refused <;> cases refused
    | some agent =>
      obtain ⟨_,_,kind⟩ := agent
      rw [known] at refused
      dsimp only [OrgAgent.asked] at refused
      split_ifs at refused <;> rcases kind with _ | (_ | _ | _) <;> cases refused

theorem createSchema_refused {schema : CreateSchema} {answer : Answer IndySchema} :
    (createSchema svc db orgId userId drawn schema answer).result = .error .alreadyExists ↔
      Found svc db orgId (.createSchema schema answer) ∨ FoundLater svc db orgId (.createSchema schema answer) := by
  rw [Found,FoundLater,← prepareSchema_refused,createSchema]
  cases prepareSchema svc db orgId schema with
  | error failure => simp
  | ok payload =>
    cases answer with
    | error => simp [Answer.object]
    | unfinished inner =>
      cases inner with
      | false => simp [Answer.object]
      | true =>
        simp only [Answer.object,storeSchema]
        cases payload.issuerId with
        | none => simp
        | some did => cases found : getLedgerByNamespace db (some (indyNamespace did)) <;> simp [found]
    | flat object | nested object => simp [Answer.object,storeSchema_refused]

theorem prepareW3CSchema_refused {schema : CreateW3CSchema} :
    prepareW3CSchema svc db orgId schema = .error .alreadyExists ↔
      Suits svc db orgId schema ∧ ∃ row ∈ db.schema, SameW3C svc orgId schema row := by
  rw [← w3cSchemaExists_iff,prepareW3CSchema,Suits]
  cases getAgentDetailsByOrgId db orgId with
  | none => simp
  | some agent =>
    cases known : agent.orgDid with
    | none => simp [known]
    | some did =>
      simp only [known,Option.some.injEq,exists_and_left,exists_eq_left']
      cases checkDidLedgerAndNetwork svc schema.schemaType did with
      | false => simp
      | true => simp

theorem createW3CSchema_refused {schema : CreateW3CSchema} {answers : W3CAnswers} :
    (createW3CSchema svc db orgId userId drawn schema answers).result = .error .alreadyExists ↔
      Found svc db orgId (.createW3CSchema schema answers) ∨ FoundLater svc db orgId
      (.createW3CSchema schema answers) := by
  rw [Found,FoundLater,← prepareW3CSchema_refused,createW3CSchema]
  cases prepareW3CSchema svc db orgId schema with
  | error failure => simp
  | ok prepared =>
    obtain ⟨orgDid,schemaVersion⟩ := prepared
    cases published : publish svc schema orgDid answers with
    | error failure =>
      have other : failure ≠ .alreadyExists := by
        rintro rfl
        revert published
        unfold publish
        cases schema.schemaType <;> rcases answers with ⟨_ | _,_ | _ | _,_⟩ <;> rintro ⟨⟩
      simp [published,other]
    | ok created => simp [published,storeW3CSchemas_refused]

theorem createCredentialDefinition_refused {credDef : CreateCredDef} {answer : Answer IndyCredDef} :
    (createCredentialDefinition svc db orgId userId credDef answer).result = .error .Conflict ↔
      Found svc db orgId (.createCredentialDefinition credDef answer) := by
  have looked : (getByAttribute svc db credDef.schemaLedgerId (trim credDef.tag)).isSome ↔
      ∃ row ∈ db.credential_definition,
      row.schemaLedgerId = credDef.schemaLedgerId ∧ svc.contains row.tag (trim credDef.tag) = true := by
    simp [getByAttribute]
  have stored : ∀ finished, storeCredentialDefinition svc db orgId userId credDef finished ≠ .error .Conflict := by
    intro finished
    unfold storeCredentialDefinition
    cases getSchemaById db credDef.schemaLedgerId with
    | none => nofun
    | some schema =>
      cases finished with
      | none => nofun
      | some object =>
        dsimp only
        cases saveCredentialDefinition svc db (credDefRow orgId userId credDef.revocable schema object) <;> nofun
  rw [Found,← looked]
  unfold createCredentialDefinition prepareCredentialDefinition
  cases getAgentDetailsByOrgId db orgId with
  | none => simp
  | some agent =>
    cases getByAttribute svc db credDef.schemaLedgerId (trim credDef.tag) with
    | some row => simp
    | none =>
      obtain ⟨_,_,kind⟩ := agent
      rcases kind with _ | (_ | _ | _) <;> cases answer <;> simp [OrgAgent.asked,stored]

theorem refused_iff (request : Request) : (handle svc db orgId userId drawn request).result = .error (exists_ request) ↔
    Found svc db orgId request ∨ FoundLater svc db orgId request := by
  cases request with
  | createSchema schema answer => exact createSchema_refused
  | createW3CSchema schema answers => exact createW3CSchema_refused
  | createCredentialDefinition credDef answer =>
    rw [FoundLater,or_false]
    exact createCredentialDefinition_refused

end

/-- Requests are refused as already existing exactly when they should be, where the lookups
    neither take something similar nor overlook what is stored. -/
theorem duplicates_iff (svc : Services) (db : Database) (orgId userId : String) (drawn : Nat) (request : Request) :
    Exact svc db orgId userId drawn request ↔ Told svc db orgId request := by
  rw [Exact,refused_iff]
  constructor
  · intro exact_
    exact ⟨fun absent found => absent (exact_.mp (.inl found)),fun absent later => absent (exact_.mp (.inr later)),exact_.mpr⟩
  · rintro ⟨similar,registered,overlooked⟩
    refine ⟨?_,overlooked⟩
    rintro (found | later)
    · by_contra absent
      exact similar absent found
    · by_contra absent
      exact registered absent later

def shorter : CreateSchema := ⟨"Degree",some "1.0",[],none⟩
theorem similar_refused : ¬∀ (svc : Services) (db : Database) (orgId userId : String) (drawn : Nat) (request : Request),
    Exact svc db orgId userId drawn request := by
  intro always
  obtain ⟨row,there,-,-,same,-⟩ := (always letterCase oneSchema "ngo" "user" 1 (.createSchema shorter .error)).mp
      (by decide +kernel)
  rw [List.mem_singleton.mp there] at same
  revert same
  decide +kernel

end Ngotag.DuplicateDetection
