import Ngotag.OrgRolesGuard

/-!
The templates that intents are given, for an organisation or globally. A second template for the same
scope is refused only when it is the same template, an assignment is changed without the check of the
membership, and the new name of an intent is looked for in the ecosystem that the call names, not in its
own. In which runs an intent still resolves to one template is `one_template_iff`.
-/
namespace Ngotag.IntentTemplates
open Runs
open OrgRolesGuard (trim)

inductive EcosystemOrgStatus where
  | ACTIVE
  | INACTIVE
  deriving DecidableEq
structure Intent where
  id : String
  ecosystemId : String
  name : String
  description : Option String
  createdBy : String
  lastChangedBy : String
/-- A row of `intent_templates`; without an organisation it is global. -/
structure IntentTemplate where
  id : String
  orgId : Option String
  intentId : String
  templateId : String
  createdBy : String
  lastChangedBy : String
  deriving DecidableEq
structure EcosystemOrg where
  orgId : String
  ecosystemId : String
  status : EcosystemOrgStatus
/-- The tables that are only read here; of three of them the ids. No id is empty. -/
structure Others where
  ecosystem : List String
  organisation : List String
  verification_templates : List String
  ecosystem_orgs : List EcosystemOrg
  orgId_ecosystemId : (ecosystem_orgs.map fun row => (row.orgId,row.ecosystemId)).Nodup
  nonempty : "" ∉ ecosystem ∧ "" ∉ organisation

/-- The keys of the two tables, the two partial unique indexes and the foreign keys. -/
structure Constraints (intents : List Intent) (intent_templates : List IntentTemplate) (others : Others) : Prop where
  intents_pkey : (intents.map (·.id)).Nodup
  intent_templates_pkey : (intent_templates.map (·.id)).Nodup
  intent_templates_unique_org : ((intent_templates.filter (·.orgId.isSome)).map
    fun row => (row.orgId,row.intentId,row.templateId)).Nodup
  intent_templates_unique_no_org : ((intent_templates.filter (·.orgId.isNone)).map
    fun row => (row.intentId,row.templateId)).Nodup
  ecosystemId_fkey : ∀ intent ∈ intents, intent.ecosystemId ∈ others.ecosystem
  intentId_fkey : ∀ row ∈ intent_templates, ∃ intent ∈ intents, intent.id = row.intentId
  templateId_fkey : ∀ row ∈ intent_templates, row.templateId ∈ others.verification_templates
  orgId_fkey : ∀ row ∈ intent_templates, ∀ orgId ∈ row.orgId, orgId ∈ others.organisation

instance (intents : List Intent) (intent_templates : List IntentTemplate) (others : Others) :
    Decidable (Constraints intents intent_templates others) :=
  decidable_of_iff
    (((intents.map (·.id)).Nodup ∧ (intent_templates.map (·.id)).Nodup ∧
      ((intent_templates.filter (·.orgId.isSome)).map fun row => (row.orgId,row.intentId,row.templateId)).Nodup ∧
      ((intent_templates.filter (·.orgId.isNone)).map fun row => (row.intentId,row.templateId)).Nodup) ∧
      (∀ intent ∈ intents, intent.ecosystemId ∈ others.ecosystem) ∧
      (∀ row ∈ intent_templates, ∃ intent ∈ intents, intent.id = row.intentId) ∧
      (∀ row ∈ intent_templates, row.templateId ∈ others.verification_templates) ∧
      ∀ row ∈ intent_templates, ∀ orgId ∈ row.orgId, orgId ∈ others.organisation)
    ⟨fun ⟨⟨a,b,c,d⟩,e,f,g,h⟩ => ⟨a,b,c,d,e,f,g,h⟩,fun ⟨a,b,c,d,e,f,g,h⟩ => ⟨⟨a,b,c,d⟩,e,f,g,h⟩⟩

structure Database where
  intents : List Intent
  intent_templates : List IntentTemplate
  others : Others
  constraints : Constraints intents intent_templates others
inductive Failure where
  | rpc (statusCode : Nat) (message : String)
  | database
def BAD_REQUEST : Nat := 400
def FORBIDDEN : Nat := 403
def NOT_FOUND : Nat := 404
def CONFLICT : Nat := 409
def Database.store (db : Database) (intents : List Intent) (intent_templates : List IntentTemplate) :
    Except Failure Database :=
  if kept : Constraints intents intent_templates db.others then .ok ⟨intents,intent_templates,db.others,kept⟩
  else .error .database

def findIntentById (db : Database) (intentId : String) : Option Intent :=
  db.intents.find? fun intent => intent.id = intentId
def findIntentTemplate (db : Database) (orgId : Option String) (intentId templateId : String) : Option IntentTemplate :=
  db.intent_templates.find? fun row => row.orgId = orgId ∧ row.intentId = intentId ∧ row.templateId = templateId
def getIntentTemplateById (db : Database) (id : String) : Option IntentTemplate :=
  db.intent_templates.find? fun row => row.id = id
def findEcosystemOrg (db : Database) (ecosystemId orgId : String) : Option EcosystemOrg :=
  db.others.ecosystem_orgs.find? fun row => row.orgId = orgId ∧ row.ecosystemId = ecosystemId
/-- Names are compared by the database, in its insensitive mode: the stored one and the given one. -/
def checkIntentExist (insensitive : String → String → Bool) (db : Database) (name ecosystemId : String)
    (excludeIntentId : String) : Option Intent :=
  db.intents.find? fun intent => intent.ecosystemId = ecosystemId && insensitive intent.name (trim name) &&
    (excludeIntentId = "" || intent.id ≠ excludeIntentId)

/-- The organisation first, the globally assigned last. -/
def orgIdDesc (row other : IntentTemplate) : Bool :=
  match row.orgId,other.orgId with
  | _,none => true
  | none,some _ => false
  | some orgId,some other => other ≤ orgId
def candidates (db : Database) (stored : List IntentTemplate) (intentName verifierOrgId : String)
    (ecosystemId : Option String) : List IntentTemplate :=
  stored.filter fun row =>
    (db.intents.any fun intent => intent.id = row.intentId && intent.name = intentName &&
      (ecosystemId.all fun ecosystemId => ecosystemId = "" || intent.ecosystemId = ecosystemId)) &&
    (row.orgId = some verifierOrgId || row.orgId = none)
/-- The stored rows come in an order of the database. -/
def getIntentTemplateByIntentAndOrg (db : Database) (stored : List IntentTemplate) (intentName verifierOrgId : String)
    (ecosystemId : Option String) : Option IntentTemplate :=
  ((candidates db stored intentName verifierOrgId ecosystemId).mergeSort orgIdDesc).head?
/-- Whether `orgId` is given and is not an active member of the ecosystem. -/
def outsider (db : Database) (ecosystemId : String) (orgId : Option String) : Bool :=
  orgId.any fun orgId => orgId ≠ "" &&
    !(findEcosystemOrg db ecosystemId orgId).any fun orgMembership => orgMembership.status = .ACTIVE
def alreadyAssigned (orgId : Option String) : String :=
  let scope := match orgId.filter (· ≠ "") with
    | some orgId => "org " ++ orgId
    | none => "globally"
  "A template is already assigned to this intent for " ++ scope ++ "."

section
variable (db : Database)

def createIntentTemplate (id : String) (orgId : Option String) (intentId templateId userId : String) :
    Except Failure Database :=
  match findIntentById db intentId with
  | none => .error (.rpc NOT_FOUND "Intent not found")
  | some intent =>
    if outsider db intent.ecosystemId orgId then
      .error (.rpc FORBIDDEN "Provided orgId is not an ACTIVE member of this ecosystem")
    else match findIntentTemplate db orgId intentId templateId with
      | some _ => .error (.rpc CONFLICT (alreadyAssigned orgId))
      | none => db.store db.intents (⟨id,orgId,intentId,templateId,userId,userId⟩ :: db.intent_templates)

def reassigned (id : String) (orgId : Option String) (intentId templateId userId : String) (row : IntentTemplate) :
    IntentTemplate :=
  if row.id = id then { row with orgId := orgId,intentId := intentId,templateId := templateId,lastChangedBy := userId }
  else row

def updateIntentTemplate (id : String) (orgId : Option String) (intentId templateId : String) (user : Option String) :
    Except Failure Database :=
  match user.filter (· ≠ "") with
  | none => .error (.rpc BAD_REQUEST "user is required")
  | some userId =>
    if intentId = "" ∨ templateId = "" then .error (.rpc BAD_REQUEST "intentId and templateId are required")
    else match getIntentTemplateById db id with
      | none => .error (.rpc NOT_FOUND ("Intent template not found for id " ++ id))
      | some _ =>
        if (findIntentTemplate db orgId intentId templateId).any fun duplicate => duplicate.id ≠ id then
          .error (.rpc CONFLICT (alreadyAssigned orgId))
        else db.store db.intents (db.intent_templates.map (reassigned id orgId intentId templateId userId))

def deleteIntentTemplate (id : String) : Except Failure Database :=
  match getIntentTemplateById db id with
  | none => .error .database
  | some _ => db.store db.intents (db.intent_templates.filter fun row => row.id ≠ id)

variable (insensitive : String → String → Bool)
def createIntent (id name : String) (description : Option String) (ecosystemId userId : String) :
    Except Failure Database :=
  if ecosystemId ∉ db.others.ecosystem then .error (.rpc NOT_FOUND "Ecosystem not found")
  else match checkIntentExist insensitive db name ecosystemId "" with
    | some _ => .error (.rpc CONFLICT "Intent with this name already exists")
    | none =>
      if name = "" ∨ userId = "" then .error (.rpc BAD_REQUEST "Intent name and createdBy are required")
      else if ecosystemId = "" then .error (.rpc BAD_REQUEST "ecosystemId is required")
      else db.store (⟨id,ecosystemId,name,description,userId,userId⟩ :: db.intents) db.intent_templates

/-- The row of this id with its new name. A description that is not given stays. -/
def renamed (intentId name : String) (description : Option String) (userId : String) (intent : Intent) : Intent :=
  if intent.id = intentId then
    { intent with name := name,description := description.or intent.description,lastChangedBy := userId }
  else intent

/-- The ecosystem is only the one in which the name is looked for. -/
def updateIntent (userId name : String) (description : Option String) (ecosystemId intentId : String) :
    Except Failure Database :=
  if userId = "" then .error (.rpc BAD_REQUEST "UserId is required")
  else match checkIntentExist insensitive db name ecosystemId intentId with
    | some _ => .error (.rpc CONFLICT "Intent with this name already exists")
    | none =>
      if intentId = "" then .error (.rpc BAD_REQUEST "Intent id and lastChangedBy are required")
      else match findIntentById db intentId with
        | none => .error .database
        | some _ => db.store (db.intents.map (renamed intentId name description userId)) db.intent_templates

/-- The calls that write the two tables, and what others write in the tables that are only read. -/
inductive Call where
  | createIntentTemplate (id : String) (orgId : Option String) (intentId templateId userId : String)
  | updateIntentTemplate (id : String) (orgId : Option String) (intentId templateId : String) (user : Option String)
  | deleteIntentTemplate (id : String)
  | createIntent (id name : String) (description : Option String) (ecosystemId userId : String)
  | updateIntent (userId name : String) (description : Option String) (ecosystemId intentId : String)
  | elsewhere (others : Others)
/-- What is assigned stays there: no organisation, template or ecosystem of a row is deleted elsewhere. -/
def changeOthers (others : Others) : Except Failure Database :=
  if kept : Constraints db.intents db.intent_templates others then .ok ⟨db.intents,db.intent_templates,others,kept⟩
  else .error .database
def perform : Call → Except Failure Database
  | .createIntentTemplate id orgId intentId templateId userId =>
      createIntentTemplate db id orgId intentId templateId userId
  | .updateIntentTemplate id orgId intentId templateId user => updateIntentTemplate db id orgId intentId templateId user
  | .deleteIntentTemplate id => deleteIntentTemplate db id
  | .createIntent id name description ecosystemId userId =>
    createIntent db insensitive id name description ecosystemId userId
  | .updateIntent userId name description ecosystemId intentId =>
    updateIntent db insensitive userId name description ecosystemId intentId
  | .elsewhere others => changeOthers db others

end

structure Assigned where
  before : Database
  orgId : Option String
  intentId : String
def Call.assigns (db : Database) : Call → List Assigned
  | .createIntentTemplate _ orgId intentId _ _ => [⟨db,orgId,intentId⟩]
  | .updateIntentTemplate _ orgId intentId _ _ => [⟨db,orgId,intentId⟩]
  | _ => []
structure State where
  db : Database
  assigned : List Assigned
def step (insensitive : String → String → Bool) (s : State) (call : Call) : Option State :=
  match perform s.db insensitive call with
  | .error _ => some s
  | .ok after => some ⟨after,call.assigns s.db ++ s.assigned⟩

/-- An intent has one template for each scope. -/
def OneTemplate (db : Database) : Prop :=
  ∀ row ∈ db.intent_templates, ∀ other ∈ db.intent_templates,
    row.intentId = other.intentId → row.orgId = other.orgId → row = other
/-- One candidate of the best scope, which is the one that is returned. -/
def Resolves (db : Database) (stored : List IntentTemplate) (intentName verifierOrgId ecosystemId : String) : Prop :=
  let found := candidates db stored intentName verifierOrgId (some ecosystemId)
  let result := getIntentTemplateByIntentAndOrg db stored intentName verifierOrgId (some ecosystemId)
  match found.filter (·.orgId = some verifierOrgId),found.filter (·.orgId = none) with
  | [own],_ => result = some own
  | [],[globally] => result = some globally
  | [],[] => result = none
  | _,_ => False

/-- Whatever the order that the rows come in. -/
def Resolved (db : Database) : Prop :=
  ∀ stored, stored.Perm db.intent_templates → ∀ intentName verifierOrgId ecosystemId, ecosystemId ≠ "" →
    Resolves db stored intentName verifierOrgId ecosystemId
/-- The organisation is an active member of the intent's ecosystem. -/
def ActiveMember (db : Database) (orgId intentId : String) : Prop :=
  ∃ intent ∈ db.intents, intent.id = intentId ∧ ∃ row ∈ db.others.ecosystem_orgs,
    row.orgId = orgId ∧ row.ecosystemId = intent.ecosystemId ∧ row.status = .ACTIVE
def Assigned.Active (a : Assigned) : Prop := ∀ orgId ∈ a.orgId, ActiveMember a.before orgId a.intentId
/-- What the claim says of a state and of the assignments before it. -/
structure Good (s : State) : Prop where
  one_template : OneTemplate s.db
  resolved : Resolved s.db
  active : ∀ a ∈ s.assigned, a.Active

/-- The intents have one name in one ecosystem. -/
def Namesake (db : Database) (intentId otherId : String) : Prop :=
  ∃ intent ∈ db.intents, ∃ other ∈ db.intents, intent.id = intentId ∧ other.id = otherId ∧
    intent.name = other.name ∧ intent.ecosystemId = other.ecosystemId

section
variable (insensitive : String → String → Bool) (db : Database)

def Accepted : Call → Prop
  | .createIntentTemplate id orgId intentId templateId userId =>
    (∃ intent, findIntentById db intentId = some intent ∧ outsider db intent.ecosystemId orgId = false) ∧
    findIntentTemplate db orgId intentId templateId = none ∧
    Constraints db.intents (⟨id,orgId,intentId,templateId,userId,userId⟩ :: db.intent_templates) db.others
  | .updateIntentTemplate id orgId intentId templateId user =>
    ∃ userId, user.filter (· ≠ "") = some userId ∧ intentId ≠ "" ∧ templateId ≠ "" ∧
      getIntentTemplateById db id ≠ none ∧
      (∀ duplicate ∈ findIntentTemplate db orgId intentId templateId, duplicate.id = id) ∧
      Constraints db.intents (db.intent_templates.map (reassigned id orgId intentId templateId userId)) db.others
  | .deleteIntentTemplate id => getIntentTemplateById db id ≠ none
  | .createIntent id name description ecosystemId userId =>
    checkIntentExist insensitive db name ecosystemId "" = none ∧ name ≠ "" ∧ userId ≠ "" ∧
    Constraints (⟨id,ecosystemId,name,description,userId,userId⟩ :: db.intents) db.intent_templates db.others
  | .updateIntent userId name _ ecosystemId intentId =>
    userId ≠ "" ∧ checkIntentExist insensitive db name ecosystemId intentId = none ∧ intentId ≠ "" ∧
    findIntentById db intentId ≠ none
  | .elsewhere others => Constraints db.intents db.intent_templates others

/-- No second template for the scope, also not under a namesake; a change is for an active member. -/
def Harmless : Call → Prop
  | .createIntentTemplate _ orgId intentId _ _ =>
    ∀ row ∈ db.intent_templates, row.orgId = orgId → ¬Namesake db row.intentId intentId
  | .updateIntentTemplate id orgId intentId _ _ =>
    (∀ row ∈ db.intent_templates, row.id ≠ id → row.orgId = orgId → ¬Namesake db row.intentId intentId) ∧
    ∀ given ∈ orgId, ActiveMember db given intentId
  | .deleteIntentTemplate _ => True
  | .createIntent _ _ _ _ _ => True
  | .updateIntent _ name _ _ intentId =>
    ∀ row ∈ db.intent_templates, ∀ other ∈ db.intent_templates, row.orgId = other.orgId →
      row.intentId = intentId → ∀ intent ∈ db.intents, intent.id = intentId →
      ∀ namesake ∈ db.intents, namesake.id = other.intentId → namesake.id ≠ intentId → namesake.name = name →
        namesake.ecosystemId ≠ intent.ecosystemId
  | .elsewhere _ => True

end

/-- Where the call is accepted it is harmless. -/
def Meets (insensitive : String → String → Bool) (s : State) (call : Call) : Prop :=
  Accepted insensitive s.db call → Harmless s.db call

section
variable {insensitive : String → String → Bool} {db after : Database} {intents : List Intent}
  {intent_templates : List IntentTemplate}

theorem store_ok (stored : db.store intents intent_templates = .ok after) :
    after.intents = intents ∧ after.intent_templates = intent_templates := by
  unfold Database.store at stored
  split at stored
  · cases stored
    exact ⟨rfl,rfl⟩
  · cases stored
theorem store_accepts :
    (∃ after, db.store intents intent_templates = .ok after) ↔ Constraints intents intent_templates db.others := by
  unfold Database.store
  split
  · rename_i kept
    exact ⟨fun _ => kept,fun _ => ⟨_,rfl⟩⟩
  · rename_i broken
    exact ⟨nofun,fun kept => absurd kept broken⟩

theorem constraints_deleted (id : String) :
    Constraints db.intents (db.intent_templates.filter fun row => row.id ≠ id) db.others := by
  have kept := db.constraints
  have fewer : ∀ {test : IntentTemplate → Bool}, (db.intent_templates.filter fun row => row.id ≠ id).filter test
      |>.Sublist (db.intent_templates.filter test) := fun {test} => List.filter_sublist.filter test
  exact {
    intents_pkey := kept.intents_pkey
    intent_templates_pkey := kept.intent_templates_pkey.sublist (List.filter_sublist.map _)
    intent_templates_unique_org := kept.intent_templates_unique_org.sublist (fewer.map _)
    intent_templates_unique_no_org := kept.intent_templates_unique_no_org.sublist (fewer.map _)
    ecosystemId_fkey := kept.ecosystemId_fkey
    intentId_fkey := fun row there => kept.intentId_fkey row (List.mem_of_mem_filter there)
    templateId_fkey := fun row there => kept.templateId_fkey row (List.mem_of_mem_filter there)
    orgId_fkey := fun row there => kept.orgId_fkey row (List.mem_of_mem_filter there) }

section

variable (intentId name : String) (description : Option String) (userId : String)
include intentId name description userId
theorem renamed_id (intent : Intent) :
    (renamed intentId name description userId intent).id = intent.id := by
  unfold renamed
  split <;> rfl
theorem renamed_ecosystemId (intent : Intent) :
    (renamed intentId name description userId intent).ecosystemId = intent.ecosystemId := by
  unfold renamed
  split <;> rfl

theorem constraints_renamed :
    Constraints (db.intents.map (renamed intentId name description userId)) db.intent_templates db.others := by
  have kept := db.constraints
  have ids : (db.intents.map (renamed intentId name description userId)).map (·.id) = db.intents.map (·.id) := by
    rw [List.map_map]
    exact List.map_congr_left fun intent _ => renamed_id intentId name description userId intent
  refine { kept with intents_pkey := ids ▸ kept.intents_pkey,ecosystemId_fkey := ?_,intentId_fkey := ?_ }
  · intro intent there
    obtain ⟨old,known,rfl⟩ := List.mem_map.mp there
    rw [renamed_ecosystemId]
    exact kept.ecosystemId_fkey old known
  · intro row there
    obtain ⟨intent,known,same⟩ := kept.intentId_fkey row there
    exact ⟨_,List.mem_map_of_mem known,(renamed_id ..).trans same⟩

end

def Call.writes (db : Database) : Call → List Intent × List IntentTemplate
  | .createIntentTemplate id orgId intentId templateId userId =>
    (db.intents,⟨id,orgId,intentId,templateId,userId,userId⟩ :: db.intent_templates)
  | .updateIntentTemplate id orgId intentId templateId user =>
    (db.intents,db.intent_templates.map (reassigned id orgId intentId templateId (user.getD "")))
  | .deleteIntentTemplate id => (db.intents,db.intent_templates.filter fun row => row.id ≠ id)
  | .createIntent id name description ecosystemId userId =>
    (⟨id,ecosystemId,name,description,userId,userId⟩ :: db.intents,db.intent_templates)
  | .updateIntent userId name description _ intentId =>
    (db.intents.map (renamed intentId name description userId),db.intent_templates)
  | .elsewhere _ => (db.intents,db.intent_templates)

variable {call : Call}
theorem perform_ok (performed : perform db insensitive call = .ok after) :
    after.intents = (call.writes db).1 ∧ after.intent_templates = (call.writes db).2 := by
  cases call with
  | createIntentTemplate id orgId intentId templateId userId =>
    simp only [perform,createIntentTemplate] at performed
    split at performed
    · cases performed
    · split at performed
      · cases performed
      · split at performed
        · cases performed
        · exact store_ok performed
  | updateIntentTemplate id orgId intentId templateId user =>
    simp only [perform,updateIntentTemplate] at performed
    split at performed
    · cases performed
    · rename_i userId is_given
      split at performed
      · cases performed
      · split at performed
        · cases performed
        · split at performed
          · cases performed
          · obtain ⟨rfl,-⟩ := Option.filter_eq_some_iff.mp is_given
            exact store_ok performed
  | deleteIntentTemplate id =>
    simp only [perform,deleteIntentTemplate] at performed
    split at performed
    · cases performed
    · exact store_ok performed
  | createIntent id name description ecosystemId userId =>
    simp only [perform,createIntent] at performed
    split at performed
    · cases performed
    · split at performed
      · cases performed
      · split at performed
        · cases performed
        · split at performed
          · cases performed
          · exact store_ok performed
  | updateIntent userId name description ecosystemId intentId =>
    simp only [perform,updateIntent] at performed
    split at performed
    · cases performed
    · split at performed
      · cases performed
      · split at performed
        · cases performed
        · split at performed
          · cases performed
          · exact store_ok performed
  | elsewhere others =>
    simp only [perform,changeOthers] at performed
    split at performed
    · cases performed
      exact ⟨rfl,rfl⟩
    · cases performed

theorem perform_accepts :
    (∃ after, perform db insensitive call = .ok after) ↔ Accepted insensitive db call := by
  cases call with
  | createIntentTemplate id orgId intentId templateId userId =>
    simp only [perform,createIntentTemplate,Accepted]
    cases findIntentById db intentId with
    | none => simp
    | some intent =>
      by_cases outside : outsider db intent.ecosystemId orgId = true
      · simp [outside]
      · cases findIntentTemplate db orgId intentId templateId with
        | some row => simp [outside]
        | none => simp [outside,store_accepts]
  | updateIntentTemplate id orgId intentId templateId user =>
    simp only [perform,updateIntentTemplate,Accepted]
    cases user.filter (· ≠ "") with
    | none => simp
    | some userId =>
      by_cases missing : intentId = "" ∨ templateId = ""
      · simp [missing]
        tauto
      · cases getIntentTemplateById db id with
        | none => simp [missing]
        | some row =>
          obtain ⟨an_intent,a_template⟩ := not_or.mp missing
          cases findIntentTemplate db orgId intentId templateId with
          | none => simp [an_intent,a_template,store_accepts]
          | some duplicate =>
            by_cases same : duplicate.id = id
            · simp [an_intent,a_template,store_accepts,same]
            · simp [missing,same]
  | deleteIntentTemplate id =>
    simp only [perform,deleteIntentTemplate,Accepted]
    cases getIntentTemplateById db id with
    | none => simp
    | some row => simpa using store_accepts.mpr (constraints_deleted id)
  | createIntent id name description ecosystemId userId =>
    simp only [perform,createIntent,Accepted]
    by_cases known : ecosystemId ∈ db.others.ecosystem
    · have named : ecosystemId ≠ "" := fun empty => db.others.nonempty.1 (empty ▸ known)
      cases checkIntentExist insensitive db name ecosystemId "" with
      | some intent => simp [known]
      | none =>
        by_cases missing : name = "" ∨ userId = ""
        · simp [known,missing]
          tauto
        · obtain ⟨a_name,a_user⟩ := not_or.mp missing
          simp [known,named,a_name,a_user,store_accepts]
    · simp only [known,not_false_eq_true,↓reduceIte,reduceCtorEq,exists_false,false_iff]
      rintro ⟨-,-,-,kept⟩
      exact known (kept.ecosystemId_fkey _ List.mem_cons_self)
  | updateIntent userId name description ecosystemId intentId =>
    simp only [perform,updateIntent,Accepted]
    by_cases a_user : userId = ""
    · simp [a_user]
    · cases checkIntentExist insensitive db name ecosystemId intentId with
      | some intent => simp [a_user]
      | none =>
        by_cases an_intent : intentId = ""
        · simp [a_user,an_intent]
        · cases findIntentById db intentId with
          | none => simp [a_user,an_intent]
          | some intent =>
            simpa [a_user,an_intent] using store_accepts.mpr (constraints_renamed intentId name description userId)
  | elsewhere others =>
    simp only [perform,changeOthers,Accepted]
    split
    · rename_i kept
      exact ⟨fun _ => kept,fun _ => ⟨_,rfl⟩⟩
    · rename_i broken
      exact ⟨nofun,fun kept => absurd kept broken⟩

/-- No two templates of a scope under intents of one name in one ecosystem. -/
def Unambiguous (db : Database) : Prop :=
  ∀ row ∈ db.intent_templates, ∀ other ∈ db.intent_templates, row.orgId = other.orgId →
    Namesake db row.intentId other.intentId → row = other

variable {row other : IntentTemplate} {stored : List IntentTemplate}
theorem namesake_symm {intentId otherId : String} (namesake : Namesake db intentId otherId) :
    Namesake db otherId intentId := by
  obtain ⟨intent,known,other,listed,ids,names,same,together⟩ := namesake
  exact ⟨other,listed,intent,known,names,ids,same.symm,together.symm⟩
theorem namesake_refl (there : row ∈ db.intent_templates) : Namesake db row.intentId row.intentId := by
  obtain ⟨intent,known,same⟩ := db.constraints.intentId_fkey row there
  exact ⟨intent,known,intent,known,same,same,rfl,rfl⟩

variable {intentName verifierOrgId ecosystemId : String}
theorem mem_candidates (named : ecosystemId ≠ "") :
    row ∈ candidates db stored intentName verifierOrgId (some ecosystemId) ↔ row ∈ stored ∧
      (∃ intent ∈ db.intents, intent.id = row.intentId ∧ intent.name = intentName ∧ intent.ecosystemId = ecosystemId) ∧
      (row.orgId = some verifierOrgId ∨ row.orgId = none) := by
  simp [candidates,named,and_assoc]
theorem orgIdDesc_iff : orgIdDesc row other = true ↔
    ∀ orgId, other.orgId = some orgId → ∃ first, row.orgId = some first ∧ orgId ≤ first := by
  unfold orgIdDesc
  cases row.orgId <;> cases other.orgId <;> simp
theorem orgIdDesc_trans (a b c : IntentTemplate) (first : orgIdDesc a b = true) (second : orgIdDesc b c = true) :
    orgIdDesc a c = true := by
  rw [orgIdDesc_iff] at *
  intro orgId its
  obtain ⟨middle,between,least⟩ := second orgId its
  obtain ⟨greatest,is_first,most⟩ := first middle between
  exact ⟨greatest,is_first,String.le_trans least most⟩
theorem orgIdDesc_total (a b : IntentTemplate) : (orgIdDesc a b || orgIdDesc b a) = true := by
  unfold orgIdDesc
  cases a.orgId <;> cases b.orgId <;> simp [String.le_total]
theorem head_sorted {found : List IntentTemplate} (first : (found.mergeSort orgIdDesc).head? = some row) :
    row ∈ found ∧ ∀ other ∈ found, other ≠ row → orgIdDesc row other = true := by
  obtain ⟨rest,sorted⟩ := List.head?_eq_some_iff.mp first
  have ordered := List.pairwise_mergeSort orgIdDesc_trans orgIdDesc_total found
  rw [sorted,List.pairwise_cons] at ordered
  refine ⟨List.mem_mergeSort.mp (sorted ▸ List.mem_cons_self),fun other there apart => ?_⟩
  have listed : other ∈ row :: rest := sorted ▸ List.mem_mergeSort.mpr there
  exact ordered.1 other ((List.mem_cons.mp listed).resolve_left apart)
theorem head_own {found : List IntentTemplate} {orgId : String}
    (first : (found.mergeSort orgIdDesc).head? = some row) (there : other ∈ found) (own : other.orgId = some orgId) :
    row.orgId ≠ none := by
  intro globally
  obtain ⟨-,before⟩ := head_sorted first
  have apart : other ≠ row := fun same => by simp [← same,own] at globally
  obtain ⟨first,is_first,-⟩ := orgIdDesc_iff.mp (before other there apart) orgId own
  simp [globally] at is_first
theorem alone_of_equal {rows : List IntentTemplate} (distinct : rows.Nodup)
    (equal : ∀ row ∈ rows, ∀ other ∈ rows, row = other) : rows = [] ∨ ∃ row, rows = [row] := by
  match rows with
  | [] => exact .inl rfl
  | [row] => exact .inr ⟨row,rfl⟩
  | row :: other :: rest =>
    obtain rfl := equal row List.mem_cons_self other (List.mem_cons_of_mem _ List.mem_cons_self)
    simp at distinct

theorem resolves_of_unambiguous (unambiguous : Unambiguous db) (order : stored.Perm db.intent_templates)
    (named : ecosystemId ≠ "") :
    Resolves db stored intentName verifierOrgId ecosystemId := by
  have same_scope : ∀ row ∈ candidates db stored intentName verifierOrgId (some ecosystemId),
      ∀ other ∈ candidates db stored intentName verifierOrgId (some ecosystemId), row.orgId = other.orgId →
      row = other := by
    intro row there other listed scope
    obtain ⟨stored_row,⟨intent,known,ids,name,home⟩,-⟩ := (mem_candidates named).mp there
    obtain ⟨stored_other,⟨namesake,known',ids',name',home'⟩,-⟩ := (mem_candidates named).mp listed
    exact unambiguous row (order.mem_iff.mp stored_row) other (order.mem_iff.mp stored_other) scope
      ⟨intent,known,namesake,known',ids,ids',name.trans name'.symm,home.trans home'.symm⟩
  have distinct : (candidates db stored intentName verifierOrgId (some ecosystemId)).Nodup :=
    ((order.nodup_iff.mpr db.constraints.intent_templates_pkey.of_map).filter _)
  have scopes : ∀ row ∈ candidates db stored intentName verifierOrgId (some ecosystemId),
      row.orgId = some verifierOrgId ∨ row.orgId = none := fun row there => ((mem_candidates named).mp there).2.2
  unfold Resolves getIntentTemplateByIntentAndOrg
  dsimp only
  generalize candidates db stored intentName verifierOrgId (some ecosystemId) = found at *
  have alone : ∀ orgId : Option String,
      found.filter (·.orgId = orgId) = [] ∨ ∃ row, found.filter (·.orgId = orgId) = [row] := by
    intro orgId
    refine alone_of_equal (distinct.filter _) fun row there other listed => ?_
    obtain ⟨there,scope⟩ := List.mem_filter.mp there
    obtain ⟨listed,scope'⟩ := List.mem_filter.mp listed
    exact same_scope row there other listed ((of_decide_eq_true scope).trans (of_decide_eq_true scope').symm)
  have returned : ∀ row, (found.mergeSort orgIdDesc).head? = some row → row ∈ found :=
      fun row first => (head_sorted first).1
  have none_found : (found.mergeSort orgIdDesc).head? = none → found = [] := by
    simp [List.head?_eq_none_iff,← List.length_eq_zero_iff]
  rcases alone (some verifierOrgId) with none_own | ⟨own,is_own⟩
  · have globally : found.filter (·.orgId = none) = found := by
      refine List.filter_eq_self.mpr fun row there => decide_eq_true ((scopes row there).resolve_left fun scope => ?_)
      have mem : row ∈ found.filter (·.orgId = some verifierOrgId) := List.mem_filter.mpr ⟨there,decide_eq_true scope⟩
      simp [none_own] at mem
    rcases alone none with nothing | ⟨row,is_row⟩
    · have empty : found = [] := globally ▸ nothing
      simp [empty]
    · have single : found = [row] := globally ▸ is_row
      rw [none_own,is_row,single]
      simp
  · have mem : own ∈ found ∧ own.orgId = some verifierOrgId := by
      have there : own ∈ found.filter (·.orgId = some verifierOrgId) := is_own ▸ List.mem_singleton_self own
      simpa using there
    rw [is_own]
    cases first : (found.mergeSort orgIdDesc).head? with
    | none => simp [none_found first] at mem
    | some row =>
      have there := returned row first
      have scope := (scopes row there).resolve_right (head_own first mem.1 mem.2)
      rw [same_scope row there own mem.1 (scope.trans mem.2.symm)]

theorem best_alone {scope : Option String} (resolves : Resolves db stored intentName verifierOrgId ecosystemId)
    (best : scope = some verifierOrgId ∨ scope = none ∧
      ∀ row ∈ candidates db stored intentName verifierOrgId (some ecosystemId), row.orgId ≠ some verifierOrgId)
    (there : row ∈ candidates db stored intentName verifierOrgId (some ecosystemId)) (its : row.orgId = scope)
    (listed : other ∈ candidates db stored intentName verifierOrgId (some ecosystemId)) (same : other.orgId = scope) :
    row = other := by
  unfold Resolves at resolves
  dsimp only at resolves
  generalize candidates db stored intentName verifierOrgId (some ecosystemId) = found at *
  have mem : row ∈ found.filter (·.orgId = scope) := List.mem_filter.mpr ⟨there,decide_eq_true its⟩
  have mem' : other ∈ found.filter (·.orgId = scope) := List.mem_filter.mpr ⟨listed,decide_eq_true same⟩
  rcases best with rfl | ⟨rfl,no_own⟩
  · split at resolves
    · rename_i own rest is_own
      rw [is_own] at mem mem'
      exact (List.mem_singleton.mp mem).trans (List.mem_singleton.mp mem').symm
    · rename_i none_own is_global
      rw [none_own] at mem
      cases mem
    · rename_i none_own nothing
      rw [none_own] at mem
      cases mem
    · cases resolves
  · have none_own : found.filter (·.orgId = some verifierOrgId) = [] :=
      List.filter_eq_nil_iff.mpr fun row there own => no_own row there (of_decide_eq_true own)
    rw [none_own] at resolves
    split at resolves
    · rename_i first
      cases first
    · rename_i globally _ is_global
      rw [is_global] at mem mem'
      exact (List.mem_singleton.mp mem).trans (List.mem_singleton.mp mem').symm
    · rename_i _ nothing
      rw [nothing] at mem
      cases mem
    · cases resolves

theorem unambiguous_iff : Unambiguous db ↔ OneTemplate db ∧ Resolved db := by
  constructor
  · intro unambiguous
    refine ⟨fun row there other listed same scope => ?_,fun stored order _ _ _ named =>
      resolves_of_unambiguous unambiguous order named⟩
    exact unambiguous row there other listed scope (same ▸ namesake_refl there)
  · rintro ⟨-,resolved⟩ row there other listed scope ⟨intent,known,namesake,known',ids,ids',name,home⟩
    have named : intent.ecosystemId ≠ "" := fun empty =>
      db.others.nonempty.1 (empty ▸ db.constraints.ecosystemId_fkey intent known)
    have both : ∀ verifierOrgId : String, (row.orgId = some verifierOrgId ∨ row.orgId = none) →
        row ∈ candidates db db.intent_templates intent.name verifierOrgId (some intent.ecosystemId) ∧
        other ∈ candidates db db.intent_templates intent.name verifierOrgId (some intent.ecosystemId) := by
      intro verifierOrgId covered
      exact ⟨(mem_candidates named).mpr ⟨there,⟨intent,known,ids,rfl,rfl⟩,covered⟩,
        (mem_candidates named).mpr ⟨listed,⟨namesake,known',ids',name.symm,home.symm⟩,scope ▸ covered⟩⟩
    cases its : row.orgId with
    | some orgId =>
      obtain ⟨first,second⟩ := both orgId (.inl its)
      exact best_alone (resolved _ (.refl _) intent.name orgId _ named) (.inl rfl) first its second
          (scope.symm.trans its)
    | none =>
      obtain ⟨first,second⟩ := both "" (.inr its)
      refine best_alone (resolved _ (.refl _) intent.name "" _ named) (.inr ⟨rfl,fun own mem empty => ?_⟩)
        first its second (scope.symm.trans its)
      have stored := ((mem_candidates named).mp mem).1
      exact db.others.nonempty.2 (db.constraints.orgId_fkey own stored "" empty)

theorem namesake_of_intents (same : after.intents = db.intents) {intentId otherId : String} :
    Namesake after intentId otherId ↔ Namesake db intentId otherId := by
  simp only [Namesake,same]
theorem row_of_id (there : row ∈ db.intent_templates) (listed : other ∈ db.intent_templates) (same : row.id = other.id) :
    row = other :=
  List.inj_on_of_nodup_map db.constraints.intent_templates_pkey there listed same
theorem intent_of_id {intent namesake : Intent} (known : intent ∈ db.intents) (listed : namesake ∈ db.intents)
    (same : intent.id = namesake.id) : intent = namesake :=
  List.inj_on_of_nodup_map db.constraints.intents_pkey known listed same

section

variable (unambiguous : Unambiguous db) (same : after.intents = db.intents)
include unambiguous same
theorem unambiguous_cons (added : after.intent_templates = row :: db.intent_templates) :
    Unambiguous after ↔
      ∀ other ∈ db.intent_templates, other.orgId = row.orgId → ¬Namesake db other.intentId row.intentId := by
  have fresh : row ∉ db.intent_templates := by
    have distinct := after.constraints.intent_templates_pkey.of_map
    rw [added] at distinct
    exact (List.nodup_cons.mp distinct).1
  simp only [Unambiguous,added,namesake_of_intents same,List.mem_cons]
  constructor
  · intro holds other there scope namesake
    exact fresh (holds other (.inr there) row (.inl rfl) scope namesake ▸ there)
  · rintro alone first (rfl | there) second (rfl | listed) scope namesake
    · rfl
    · exact absurd (namesake_symm namesake) (alone second listed scope.symm)
    · exact absurd namesake (alone first there scope)
    · exact unambiguous first there second listed scope namesake

theorem unambiguous_change {id : String}
    {f : IntentTemplate → IntentTemplate} (changed : after.intent_templates = db.intent_templates.map f)
    (others : ∀ row, row.id ≠ id → f row = row) (kept : ∀ row, (f row).id = row.id)
    (there : row ∈ db.intent_templates) (its : row.id = id) :
    Unambiguous after ↔ ∀ other ∈ db.intent_templates, other.id ≠ id → other.orgId = (f row).orgId →
      ¬Namesake db other.intentId (f row).intentId := by
  simp only [Unambiguous,changed,namesake_of_intents same,List.forall_mem_map]
  constructor
  · intro holds other listed apart scope namesake
    have equal := holds other listed row there (by rw [others other apart]; exact scope)
      (by rw [others other apart]; exact namesake)
    exact apart (((kept other).symm.trans (congrArg IntentTemplate.id equal)).trans ((kept row).trans its))
  · intro alone first mem second mem' scope namesake
    by_cases at_first : first.id = id <;> by_cases at_second : second.id = id
    · rw [row_of_id mem mem' (at_first.trans at_second.symm)]
    · obtain rfl := row_of_id mem there (at_first.trans its.symm)
      rw [others second at_second] at scope namesake
      exact absurd (namesake_symm namesake) (alone second mem' at_second scope.symm)
    · obtain rfl := row_of_id mem' there (at_second.trans its.symm)
      rw [others first at_first] at scope namesake
      exact absurd namesake (alone first mem at_first scope)
    · rw [others first at_first,others second at_second] at scope namesake ⊢
      exact unambiguous first mem second mem' scope namesake

theorem unambiguous_filter
    {test : IntentTemplate → Bool} (fewer : after.intent_templates = db.intent_templates.filter test) :
    Unambiguous after := by
  intro row there other listed scope namesake
  rw [fewer] at there listed
  exact unambiguous row (List.mem_of_mem_filter there) other (List.mem_of_mem_filter listed) scope
    ((namesake_of_intents same).mp namesake)

end

theorem unambiguous_intent (unambiguous : Unambiguous db) {intent : Intent}
    (added : after.intents = intent :: db.intents)
    (same : after.intent_templates = db.intent_templates) : Unambiguous after := by
  have fresh : ∀ row ∈ db.intent_templates, row.intentId ≠ intent.id := by
    intro row there its
    obtain ⟨old,known,ids⟩ := db.constraints.intentId_fkey row there
    have distinct := after.constraints.intents_pkey
    rw [added,List.map_cons,List.nodup_cons] at distinct
    exact distinct.1 (its ▸ ids ▸ List.mem_map_of_mem known)
  intro row there other listed scope namesake
  rw [same] at there listed
  obtain ⟨first,known,second,known',ids,ids',name,home⟩ := namesake
  rw [added] at known known'
  have old : first ∈ db.intents :=
    (List.mem_cons.mp known).resolve_left fun new => fresh row there (ids.symm.trans (congrArg Intent.id new))
  have old' : second ∈ db.intents :=
    (List.mem_cons.mp known').resolve_left fun new => fresh other listed (ids'.symm.trans (congrArg Intent.id new))
  exact unambiguous row there other listed scope ⟨first,old,second,old',ids,ids',name,home⟩

theorem unambiguous_rename (unambiguous : Unambiguous db) {intentId name : String} {description : Option String}
    {userId : String} (changed : after.intents = db.intents.map (renamed intentId name description userId))
    (same : after.intent_templates = db.intent_templates) :
    Unambiguous after ↔ ∀ row ∈ db.intent_templates, ∀ other ∈ db.intent_templates, row.orgId = other.orgId →
      row.intentId = intentId → ∀ intent ∈ db.intents, intent.id = intentId →
      ∀ namesake ∈ db.intents, namesake.id = other.intentId → namesake.id ≠ intentId → namesake.name = name →
        namesake.ecosystemId ≠ intent.ecosystemId := by
  have new_name : ∀ intent : Intent, intent.id = intentId →
      (renamed intentId name description userId intent).name = name :=
    fun intent its => by simp [renamed,its]
  have old_name : ∀ intent : Intent, intent.id ≠ intentId →
      (renamed intentId name description userId intent).name = intent.name := fun intent apart => by simp [renamed,apart]
  have namesakes : ∀ first second : String, Namesake after first second ↔ ∃ intent ∈ db.intents, ∃ other ∈ db.intents,
      intent.id = first ∧ other.id = second ∧
      (renamed intentId name description userId intent).name = (renamed intentId name description userId other).name ∧
      intent.ecosystemId = other.ecosystemId := by
    intro first second
    simp only [Namesake,changed,List.mem_map,exists_exists_and_eq_and,renamed_id,renamed_ecosystemId]
  simp only [Unambiguous,same,namesakes]
  constructor
  · intro holds row there other listed scope its intent known is_intent namesake known' is_namesake apart named home
    have equal := holds row there other listed scope ⟨intent,known,namesake,known',is_intent.trans its.symm,is_namesake,
      by rw [new_name intent is_intent,old_name namesake apart,named],home.symm⟩
    exact apart (is_namesake.trans ((congrArg IntentTemplate.intentId equal).symm.trans its))
  · rintro alone row there other listed scope ⟨intent,known,namesake,known',ids,ids',name_,home⟩
    by_cases first : intent.id = intentId <;> by_cases second : namesake.id = intentId
    · exact unambiguous row there other listed scope
        ⟨intent,known,namesake,known',ids,ids',by rw [intent_of_id known known' (first.trans second.symm)],home⟩
    · rw [new_name intent first,old_name namesake second] at name_
      exact absurd home.symm
        (alone row there other listed scope (ids.symm.trans first) intent known first namesake known' ids' second name_.symm)
    · rw [old_name intent first,new_name namesake second] at name_
      exact absurd home (alone other listed row there scope.symm (ids'.symm.trans second) namesake known' second intent
        known ids first name_)
    · rw [old_name intent first,old_name namesake second] at name_
      exact unambiguous row there other listed scope ⟨intent,known,namesake,known',ids,ids',name_,home⟩

theorem reassigned_id (id : String) (orgId : Option String) (intentId templateId userId : String)
    (row : IntentTemplate) :
    (reassigned id orgId intentId templateId userId row).id = row.id := by
  unfold reassigned
  split <;> rfl

theorem create_active {id : String} {orgId : Option String} {intentId templateId userId : String}
    (accepted : Accepted insensitive db (.createIntentTemplate id orgId intentId templateId userId)) :
    (⟨db,orgId,intentId⟩ : Assigned).Active := by
  obtain ⟨⟨intent,found,inside⟩,-,constraints⟩ := accepted
  rintro given is_given
  have a_given : given ≠ "" := fun empty =>
    db.others.nonempty.2 (empty ▸ constraints.orgId_fkey _ List.mem_cons_self given is_given)
  obtain rfl : orgId = some given := is_given
  simp only [outsider,Option.any_some,Bool.and_eq_false_iff,decide_eq_false_iff_not,not_not,a_given,false_or,
    Bool.not_eq_false',Option.any_eq_true] at inside
  obtain ⟨row,member,status⟩ := inside
  have its := List.find?_some member
  refine ⟨intent,List.mem_of_find?_eq_some found,by simpa using List.find?_some found,row,
    List.mem_of_find?_eq_some member,?_⟩
  simp only [Bool.decide_and,Bool.and_eq_true,decide_eq_true_eq] at its
  exact ⟨its.1,its.2,by simpa using status⟩

theorem good_iff {s : State} : Good s ↔ Unambiguous s.db ∧ ∀ a ∈ s.assigned, a.Active := by
  constructor
  · exact fun good => ⟨unambiguous_iff.mpr ⟨good.one_template,good.resolved⟩,good.active⟩
  · rintro ⟨unambiguous,active⟩
    obtain ⟨one_template,resolved⟩ := unambiguous_iff.mp unambiguous
    exact ⟨one_template,resolved,active⟩

theorem accepted_harmless (unambiguous : Unambiguous db) (accepted : Accepted insensitive db call)
    (performed : perform db insensitive call = .ok after) :
    Unambiguous after ∧ (∀ a ∈ call.assigns db, a.Active) ↔ Harmless db call := by
  obtain ⟨intents,templates⟩ := perform_ok performed
  cases call with
  | createIntentTemplate id orgId intentId templateId userId =>
    have active : ∀ a ∈ (Call.createIntentTemplate id orgId intentId templateId userId).assigns db, a.Active :=
      List.forall_mem_singleton.mpr (create_active accepted)
    rw [and_iff_left active]
    exact unambiguous_cons unambiguous intents templates
  | updateIntentTemplate id orgId intentId templateId user =>
    obtain ⟨userId,is_user,-,-,found,-⟩ := accepted
    obtain ⟨row,is_row⟩ := Option.ne_none_iff_exists'.mp found
    have its : row.id = id := by simpa using List.find?_some is_row
    have there := List.mem_of_find?_eq_some is_row
    have fields : ∀ userId, (reassigned id orgId intentId templateId userId row).orgId = orgId ∧
        (reassigned id orgId intentId templateId userId row).intentId = intentId := by simp [reassigned,its]
    have exact_ := unambiguous_change unambiguous intents templates
      (fun row (apart : row.id ≠ id) => by simp [reassigned,apart])
      (fun row => reassigned_id id orgId intentId templateId _ row)
      there its
    rw [(fields _).1,(fields _).2] at exact_
    simp only [exact_,Harmless,Call.assigns,List.forall_mem_singleton,Assigned.Active]
  | deleteIntentTemplate id =>
    exact iff_of_true ⟨unambiguous_filter unambiguous intents templates,nofun⟩ trivial
  | createIntent id name description ecosystemId userId =>
    exact iff_of_true ⟨unambiguous_intent unambiguous intents templates,nofun⟩ trivial
  | updateIntent userId name description ecosystemId intentId =>
    simp only [unambiguous_rename unambiguous intents templates,Call.assigns,List.not_mem_nil,Harmless,
      IsEmpty.forall_iff,implies_true,and_true]
  | elsewhere others =>
    have all : after.intent_templates = db.intent_templates.filter fun _ => true :=
        templates.trans (List.filter_true _).symm
    exact iff_of_true ⟨unambiguous_filter unambiguous intents all,nofun⟩ trivial

/-- An accepted call keeps the state good exactly when it is harmless. -/
theorem step_good {s next : State} (good : Good s) (taken : step insensitive s call = some next) :
    Good next ↔ Meets insensitive s call := by
  unfold step at taken
  split at taken
  · rename_i refused
    obtain rfl := Option.some.inj taken
    refine iff_of_true good fun accepted => ?_
    obtain ⟨after,performed⟩ := perform_accepts.mpr accepted
    cases refused.symm.trans performed
  · rename_i after performed
    obtain rfl := Option.some.inj taken
    have accepted := perform_accepts.mp ⟨after,performed⟩
    obtain ⟨unambiguous,active⟩ := good_iff.mp good
    have exact_ := accepted_harmless unambiguous accepted performed
    rw [good_iff,List.forall_mem_append]
    constructor
    · exact fun later _ => exact_.mp ⟨later.1,later.2.1⟩
    · intro meets
      have later := exact_.mpr (meets accepted)
      exact ⟨later.1,later.2,active⟩

end

/-- All along a run there is one template for each scope, the lookup by name and ecosystem returns it,
    and assignments are for active members, exactly when each accepted call is harmless. -/
theorem one_template_iff (insensitive : String → String → Bool) {s t : State} (good : Good s) {calls : List Call}
    (reached : run (step insensitive) s calls = some t) :
    (∀ first rest u, calls = first ++ rest → run (step insensitive) s first = some u → Good u) ↔
      Along (step insensitive) (Meets insensitive) s calls :=
  always_iff_along (fun _ _ _ => step_good) good reached
instance (db : Database) : Decidable (OneTemplate db) :=
  inferInstanceAs (Decidable (∀ row ∈ db.intent_templates, ∀ other ∈ db.intent_templates,
    row.intentId = other.intentId → row.orgId = other.orgId → row = other))
theorem good_initial {s : State} (nothing : s.db.intent_templates = []) (no_calls : s.assigned = []) : Good s := by
  rw [good_iff,no_calls]
  refine ⟨fun row there => ?_,nofun⟩
  rw [nothing] at there
  cases there

/-- An organisation that is an active member, and two templates. -/
def founded : Database where
  intents := []
  intent_templates := []
  others := {
    ecosystem := ["health"]
    organisation := ["clinic"]
    verification_templates := ["age","address"]
    ecosystem_orgs := [⟨"clinic","health",.ACTIVE⟩]
    orgId_ecosystemId := by decide
    nonempty := by decide }
  constraints := by decide

def lettersOnly (stored given : String) : Bool := stored.toLower = given.toLower
def assignedOnce : List Call :=
  [.createIntent "visit" "Visit" none "health" "lead",.createIntentTemplate "first" (some "clinic") "visit" "age" "lead"]
/-- A template for an organisation and one for all, the first exchanged, and the intent renamed. -/
def twoScopes : List Call :=
  assignedOnce ++ [.createIntentTemplate "second" none "visit" "address" "lead",
    .updateIntentTemplate "first" (some "clinic") "visit" "address" (some "lead"),
    .updateIntent "lead" "Stay" none "health" "visit"]
instance (db : Database) (intentId otherId : String) : Decidable (Namesake db intentId otherId) :=
  inferInstanceAs (Decidable (∃ intent ∈ db.intents, ∃ other ∈ db.intents, _))
instance (db : Database) (orgId intentId : String) : Decidable (ActiveMember db orgId intentId) :=
  inferInstanceAs (Decidable (∃ intent ∈ db.intents, _))
instance (db : Database) : (call : Call) → Decidable (Harmless db call)
  | .createIntentTemplate _ orgId intentId _ _ =>
    inferInstanceAs (Decidable (∀ row ∈ db.intent_templates, row.orgId = orgId → ¬Namesake db row.intentId intentId))
  | .updateIntentTemplate id orgId intentId _ _ =>
    inferInstanceAs (Decidable ((∀ row ∈ db.intent_templates, row.id ≠ id → row.orgId = orgId →
      ¬Namesake db row.intentId intentId) ∧ ∀ given ∈ orgId, ActiveMember db given intentId))
  | .deleteIntentTemplate _ => isTrue trivial
  | .createIntent _ _ _ _ _ => isTrue trivial
  | .updateIntent _ name _ _ intentId =>
    inferInstanceAs (Decidable (∀ row ∈ db.intent_templates, ∀ other ∈ db.intent_templates, row.orgId = other.orgId →
      row.intentId = intentId → ∀ intent ∈ db.intents, intent.id = intentId →
      ∀ namesake ∈ db.intents, namesake.id = other.intentId → namesake.id ≠ intentId → namesake.name = name →
        namesake.ecosystemId ≠ intent.ecosystemId))
  | .elsewhere _ => isTrue trivial

theorem one_template_twoScopes : ∃ t, run (step lettersOnly) ⟨founded,[]⟩ twoScopes = some t ∧
    t.db.intent_templates.length = 2 ∧ Good t := by
  obtain ⟨t,reached,two⟩ := (Option.any_eq_true _ _).mp
    (by decide +kernel : (run (step lettersOnly) ⟨founded,[]⟩ twoScopes).any fun t => t.db.intent_templates.length = 2)
  have harmless : Along (step lettersOnly) (fun s call => Harmless s.db call) ⟨founded,[]⟩ twoScopes := by decide +kernel
  have meets (s : State) (call : Call) (holds : Harmless s.db call) : Meets lettersOnly s call := fun _ => holds
  exact ⟨t,reached,of_decide_eq_true two,(one_template_iff lettersOnly (good_initial rfl rfl) reached).mpr
    (along_mono meets harmless) twoScopes [] t (List.append_nil _).symm reached⟩
/-- A second template for the organisation is not refused. -/
theorem second_template : ∃ t, run (step lettersOnly) ⟨founded,[]⟩
    (assignedOnce ++ [.createIntentTemplate "second" (some "clinic") "visit" "address" "lead"]) = some t ∧
    ¬OneTemplate t.db := by
  obtain ⟨t,reached,two⟩ := (Option.any_eq_true _ _).mp
    (by decide +kernel : (run (step lettersOnly) ⟨founded,[]⟩
      (assignedOnce ++ [.createIntentTemplate "second" (some "clinic") "visit" "address" "lead"])).any
        fun t => ¬OneTemplate t.db)
  exact ⟨t,reached,of_decide_eq_true two⟩

end Ngotag.IntentTemplates
