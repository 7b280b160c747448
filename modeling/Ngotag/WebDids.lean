import Ngotag.KeyedTable
import Ngotag.PrimaryLedger
import Ngotag.Runs
import Ngotag.JsObject

/-!
The keys of did:web DIDs. A request to write a DID puts the key of its seed into the wallet.
`generateWebDid` makes none for a DID that is stored, by the spelling of the domain; `createDid` makes
one while it looks at the hosted document and one afterwards, whatever is stored. In which runs a stored
DID keeps its key and its document is the hosted one is `web_did_kept_iff`.
-/
namespace Ngotag.WebDids
open Runs KeyedTable
open PrimaryLedger (Ledgers Ledger getLedgerByNameSpace getLedger networkNamespace notApplicable truthy)

/-- A document by its text, the one of `JSON.stringify`. -/
abbrev Document := String

structure DidCreate where
  keyType : String
  seed : Option String
  domain : Option String
  network : Option String
  privatekey : Option String
  endpoint : Option String
  method : String
  did : Option String
  role : Option String
  endorserDid : Option String
  isPrimaryDid : Bool

structure Request where
  keyType : Option String
  seed : Option String
  domain : Option String
  network : Option String
  privatekey : Option String
  endpoint : Option String
  method : Option String
  did : Option String
  role : Option String
  endorserDid : Option String

/-- `cleanPayload` -/
def DidCreate.request (payload : DidCreate) : Request where
  keyType := JsObject.truthy (some payload.keyType)
  seed := JsObject.truthy payload.seed
  domain := JsObject.truthy payload.domain
  network := JsObject.truthy payload.network
  privatekey := JsObject.truthy payload.privatekey
  endpoint := JsObject.truthy payload.endpoint
  method := JsObject.truthy (some payload.method)
  did := JsObject.truthy payload.did
  role := JsObject.truthy payload.role
  endorserDid := JsObject.truthy payload.endorserDid

structure DidState where
  did : Option String
  didDocument : Option Document
structure DidDetails where
  did : Option String
  didDocument : Option Document
  didDoc : Option Document
  didState : Option DidState
def DidDetails.createdDid (didDetails : DidDetails) : Option String :=
  didDetails.did.or (didDetails.didState.bind DidState.did)
def DidDetails.document (didDetails : DidDetails) : Option Document :=
  (didDetails.didDocument.or didDetails.didDoc).or (didDetails.didState.bind DidState.didDocument)
/-- A row of `org_dids`. The seed of the call that stored it and the hosted document that was last
    looked at are not columns. -/
structure OrgDid where
  id : Nat
  did : String
  didDocument : Document
  isPrimaryDid : Bool
  seed : Option String
  hosted : Option Document
inductive AgentSpinUpStatus where
  | WALLET_CREATED
  | DID_CREATED
  | other
  deriving DecidableEq
structure OrgAgent where
  agentEndPoint : String
  orgDid : Option String
  didDocument : Option Document
  ledgerId : Option String
  agentSpinUpStatus : AgentSpinUpStatus
structure Database where
  org_agents : OrgAgent
  org_dids : Keyed OrgDid.id
inductive Await where
  | getOrgAgentDetails
  | getLedgerByNameSpace
  | getOrgAgentApiKey
  | httpGet
  | getOrgDid
  | getEthrLedger
  | getLedger
  | persistDidWithUpdates
/-- What of a call the platform does not decide: what fails, the hosted document (none for one that is
    falsy), the answers to the requests (none for an error or an empty one) and the id of a new row. -/
structure Answers where
  fails : Await → Bool
  hosted : Option Document
  expected : Option DidDetails
  written : Option DidDetails
  drawn : Nat

inductive Failure where
  | ledger (failure : PrimaryLedger.Failure)
  /-- `ResponseMessages.agent.error.createDid` -/
  | createDid
  /-- `ResponseMessages.agent.error.webDidDomainAlreadyExists` -/
  | webDidDomainAlreadyExists
  /-- `DID Document not reachable at …` -/
  | notReachable
  /-- `No DID Document found at …` -/
  | noDocument
  /-- `ResponseMessages.agent.error.webDidDocumentMismatch` -/
  | webDidDocumentMismatch
  | other

def WEB : String := "web"
/-- The DID that `generateWebDid` expects. An undefined domain is written as such. -/
def expectedDid (payload : DidCreate) : String := "did:" ++ WEB ++ ":" ++ payload.domain.getD "undefined"
def getDidDetails (answer : Option DidDetails) : Except Failure DidDetails :=
  match answer with
  | none => .error .createDid
  | some didDetails => .ok didDetails
/-- The requests that are made, and the result. -/
def generateWebDid (db : Database) (payload : DidCreate) (answers : Answers) :
    List Request × Except Failure (Option String × Option Document) :=
  if answers.fails .getOrgAgentDetails = true ∨ answers.fails .getOrgDid = true then ([],.error .other)
  else if db.org_dids.rows.any fun row => row.did = expectedDid payload then ([],.error .webDidDomainAlreadyExists)
  else if answers.fails .getOrgAgentApiKey = true then ([],.error .other)
  else ([payload.request],(getDidDetails answers.written).map fun didDetails => (didDetails.did,didDetails.didDocument))

section
variable (ledgers : Ledgers) (db : Database)

/-- The ledger of the network, and what is looked up before the first request. -/
def prepare (payload : DidCreate) (answers : Answers) : Except Failure (Option Ledger) :=
  if answers.fails .getOrgAgentDetails = true then .error .other
  else if truthy payload.network = true ∧ answers.fails .getLedgerByNameSpace = true then .error .other
  else match PrimaryLedger.networkLedger ledgers ⟨db.org_agents.orgDid,db.org_agents.ledgerId⟩
      ⟨payload.method,payload.network⟩ with
    | .error failure => .error (.ledger failure)
    | .ok network => if answers.fails .getOrgAgentApiKey = true then .error .other else .ok network
/-- The payload of the two requests. -/
def withEndpoint (payload : DidCreate) : DidCreate :=
  if payload.method = PrimaryLedger.POLYGON ∨ payload.method = PrimaryLedger.ETHR then
    { payload with endpoint := some db.org_agents.agentEndPoint }
  else payload
def verifyWebDidHosting (payload : DidCreate) (answers : Answers) : List Request × Except Failure Unit :=
  if answers.fails .httpGet = true then ([],.error .notReachable)
  else match answers.hosted with
    | none => ([],.error .noDocument)
    | some hostedDoc =>
      ([payload.request],match getDidDetails answers.expected with
        | .error failure => .error failure
        | .ok expectedDetails =>
          if expectedDetails.didDocument ≠ some hostedDoc then .error .webDidDocumentMismatch else .ok ())
def noLedger (answers : Answers) : Except Failure (Option String) :=
  if answers.fails .getLedger = true then .error .other
  else match getLedger ledgers notApplicable with
    | .ok noLedgerData => .ok (some noLedgerData.id)
    | .error failure => .error (.ledger failure)
def resolveLedger (payload : DidCreate) (answers : Answers) (network : Option Ledger) (did : String) :
    Except Failure (Option String) :=
  if payload.isPrimaryDid = false then .ok none
  else if truthy payload.network = true then .ok (network.map Ledger.id)
  else if payload.method = PrimaryLedger.ETHR ∧ answers.fails .getEthrLedger = false then
    match getLedgerByNameSpace ledgers (networkNamespace did) with
    | .ok ethrLedger => .ok (some ethrLedger.id)
    | .error _ => noLedger ledgers answers
  else noLedger ledgers answers
def falsyTexts : List Document := ["null","false","0","\"\""]
def OrgAgent.updated (row : OrgAgent) (stored : OrgDid) (ledgerId : Option String) : OrgAgent :=
  let primary := stored.isPrimaryDid && stored.did ≠ "" && stored.didDocument ∉ falsyTexts
  { row with
    orgDid := if primary then some stored.did else row.orgDid
    didDocument := if primary then some stored.didDocument else row.didDocument
    ledgerId := if stored.isPrimaryDid then ledgerId.or row.ledgerId else row.ledgerId
    agentSpinUpStatus := if row.agentSpinUpStatus = .WALLET_CREATED then .DID_CREATED else row.agentSpinUpStatus }
def demote (did : String) (row : OrgDid) : OrgDid := if row.did = did then row else { row with isPrimaryDid := false }
def demoteOthers (did : String) (org_dids : Keyed OrgDid.id) : Keyed OrgDid.id where
  rows := org_dids.rows.map (demote did)
  unique := by
    have same : OrgDid.id ∘ demote did = OrgDid.id := by
      funext row
      simp only [Function.comp_apply,demote]
      split <;> rfl
    rw [List.map_map,same]
    exact org_dids.unique
/-- The rows that the DID is stored among: for a primary one the others are demoted. -/
def others (payload : DidCreate) (did : String) : Keyed OrgDid.id :=
  if payload.isPrimaryDid then demoteOthers did db.org_dids else db.org_dids
def existing (did : String) : Option OrgDid := db.org_dids.rows.find? fun orgDid => orgDid.did = did
def OrgDid.restored (row : OrgDid) (didDocument : Option Document) (isPrimaryDid : Bool) (hosted : Option Document) :
    OrgDid :=
  { row with isPrimaryDid := isPrimaryDid,didDocument := didDocument.getD row.didDocument,hosted :=
      hosted.or row.hosted }

/-- The transaction. A new row needs a document. -/
def persistDidWithUpdates (payload : DidCreate) (answers : Answers) (did : String) (didDocument : Option Document)
    (hosted : Option Document) (ledgerId : Option String) : Except Failure Database :=
  if answers.fails .persistDidWithUpdates = true then .error .other
  else match existing db did with
    | some existingDid =>
      .ok ⟨db.org_agents.updated (existingDid.restored didDocument payload.isPrimaryDid hosted) ledgerId,
        (others db payload did).change existingDid.id
        (fun row => row.restored didDocument payload.isPrimaryDid hosted) fun _ => rfl⟩
    | none =>
      match didDocument with
      | none => .error .other
      | some didDocument =>
        let stored : OrgDid := ⟨answers.drawn,did,didDocument,payload.isPrimaryDid,payload.request.seed,hosted⟩
        match (others db payload did).insert stored with
        | none => .error .other
        | some org_dids => .ok ⟨db.org_agents.updated stored ledgerId,org_dids⟩

/-- What is done with the answer to the last request. -/
def conclude (payload : DidCreate) (answers : Answers) (network : Option Ledger) (hosted : Option Document) :
    Except Failure Database :=
  match getDidDetails answers.written with
  | .error failure => .error failure
  | .ok didDetails =>
    match JsObject.truthy didDetails.createdDid with
    | none => .error .createDid
    | some did =>
      if answers.fails .getOrgDid = true then .error .other
      else match resolveLedger ledgers payload answers network did with
        | .error failure => .error failure
        | .ok ledgerId => persistDidWithUpdates db payload answers did didDetails.document hosted ledgerId

/-- The requests that are made, and the result. -/
def createDid (payload : DidCreate) (answers : Answers) : List Request × Except Failure Database :=
  match prepare ledgers db payload answers with
  | .error failure => ([],.error failure)
  | .ok network =>
    let payload := withEndpoint db payload
    if payload.method = WEB then
      let verified := verifyWebDidHosting payload answers
      match verified.2 with
      | .error failure => (verified.1,.error failure)
      | .ok () => (verified.1 ++ [payload.request],conclude ledgers db payload answers network answers.hosted)
    else ([payload.request],conclude ledgers db payload answers network none)

end

inductive Call where
  | generateWebDid (payload : DidCreate) (answers : Answers)
  | createDid (payload : DidCreate) (answers : Answers)
/-- Besides the tables the requests so far, with the rows at the time. -/
structure State where
  db : Database
  sent : List (List OrgDid × Request)
/-- The requests of a call, and the tables after it. A call that fails leaves them. -/
def perform (ledgers : Ledgers) (db : Database) : Call → List Request × Database
  | .generateWebDid payload answers => ((generateWebDid db payload answers).1,db)
  | .createDid payload answers =>
    let made := createDid ledgers db payload answers
    (made.1,match made.2 with | .ok after => after | .error _ => db)
def step (ledgers : Ledgers) (s : State) (call : Call) : Option State :=
  let done := perform ledgers s.db call
  some ⟨done.2,done.1.map (fun request => (s.db.org_dids.rows,request)) ++ s.sent⟩
/-- The DID is of the method `web`. -/
def IsWeb (did : String) : Prop := "did:web:".toList <+: did.toList

section
variable (webDid : Request → Option String) (ledgers : Ledgers)

/-- A stored did:web DID that the request is for has its seed. -/
def KeepsKey (rows : List OrgDid) (request : Request) : Prop :=
  ∀ row ∈ rows, IsWeb row.did → webDid request = some row.did → row.seed = request.seed
/-- The document of a did:web DID is hosted as it is stored. -/
def OrgDid.Hosted (row : OrgDid) : Prop := IsWeb row.did → row.hosted = some row.didDocument
/-- No request was made for a stored did:web DID with another seed, and their documents were found hosted. -/
structure Good (s : State) : Prop where
  kept : ∀ entry ∈ s.sent, KeepsKey webDid entry.1 entry.2
  hosted : ∀ row ∈ s.db.org_dids.rows, row.Hosted

variable (db : Database) (payload : DidCreate) (answers : Answers)
/-- No row has the DID as it is expected, and nothing fails before the request. -/
def Generates : Prop :=
  (answers.fails .getOrgAgentDetails = false ∧ answers.fails .getOrgDid = false) ∧
  (∀ row ∈ db.org_dids.rows, row.did ≠ expectedDid payload) ∧ answers.fails .getOrgAgentApiKey = false
/-- Nothing fails before the first request, and for did:web something is hosted. -/
def Asks : Prop :=
  (∃ network, prepare ledgers db payload answers = .ok network) ∧
  (payload.method = WEB → answers.fails .httpGet = false ∧ answers.hosted ≠ none)

/-- For did:web the hosted document is the expected one; the last answer names the DID; nothing fails, and
    there is a row of the DID or a document for a new one. -/
structure Stores (didDetails : DidDetails) (did : String) : Prop where
  asks : Asks ledgers db payload answers
  checked : payload.method = WEB → ∃ expectedDetails, answers.expected = some expectedDetails ∧
    expectedDetails.didDocument = answers.hosted
  written : answers.written = some didDetails
  named : JsObject.truthy didDetails.createdDid = some did
  listed : answers.fails .getOrgDid = false
  ledger : ∀ network, prepare ledgers db payload answers = .ok network →
    ∃ ledgerId, resolveLedger ledgers (withEndpoint db payload) answers network did = .ok ledgerId
  persisted : answers.fails .persistDidWithUpdates = false
  row : (∃ row ∈ db.org_dids.rows, row.did = did) ∨
    didDetails.document ≠ none ∧ ∀ row ∈ db.org_dids.rows, row.id ≠ answers.drawn

/-- The document that was found hosted last is the one of the last answer, or the old one where it has none. -/
def StoresHosted (didDetails : DidDetails) (did : String) : Prop :=
  (if payload.method = WEB then answers.hosted else none).or ((existing db did).bind OrgDid.hosted) =
    didDetails.document.or ((existing db did).map OrgDid.didDocument)
def Meets (s : State) : Call → Prop
  | .generateWebDid payload answers =>
    Generates s.db payload answers → KeepsKey webDid s.db.org_dids.rows payload.request
  | .createDid payload answers =>
    (Asks ledgers s.db payload answers → KeepsKey webDid s.db.org_dids.rows (withEndpoint s.db payload).request) ∧
    ∀ didDetails did, Stores ledgers s.db payload answers didDetails did → IsWeb did →
      StoresHosted s.db payload answers didDetails did

end
section
variable {webDid : Request → Option String} {ledgers : Ledgers} {db after : Database} {payload : DidCreate}
    {answers : Answers}
  {network : Option Ledger} {hosted : Option Document} {did : String} {didDetails : DidDetails}

theorem mem_generateWebDid {request : Request} :
    request ∈ (generateWebDid db payload answers).1 ↔ Generates db payload answers ∧ request = payload.request := by
  unfold generateWebDid Generates
  by_cases failing : answers.fails .getOrgAgentDetails = true ∨ answers.fails .getOrgDid = true
  · rw [if_pos failing]
    refine iff_of_false List.not_mem_nil ?_
    rintro ⟨⟨⟨details,dids⟩,-⟩,-⟩
    simp [details,dids] at failing
  · rw [if_neg failing]
    have asked : answers.fails .getOrgAgentDetails = false ∧ answers.fails .getOrgDid = false := by simpa using failing
    by_cases taken : ∃ row ∈ db.org_dids.rows, row.did = expectedDid payload
    · have listed : (db.org_dids.rows.any fun row => row.did = expectedDid payload) = true := by simpa using taken
      rw [if_pos listed]
      obtain ⟨row,there,same⟩ := taken
      exact iff_of_false List.not_mem_nil fun generates => generates.1.2.1 row there same
    · have free : ∀ row ∈ db.org_dids.rows, row.did ≠ expectedDid payload :=
        fun row there same => taken ⟨row,there,same⟩
      have unlisted : ¬(db.org_dids.rows.any fun row => row.did = expectedDid payload) = true := by simpa using free
      rw [if_neg unlisted]
      by_cases key : answers.fails .getOrgAgentApiKey = true
      · simp [key]
      · rw [if_neg key,List.mem_singleton]
        exact ⟨fun same => ⟨⟨asked,free,Bool.eq_false_of_not_eq_true key⟩,same⟩,fun both => both.2⟩

theorem withEndpoint_method : (withEndpoint db payload).method = payload.method := by
  unfold withEndpoint
  split <;> rfl
theorem verify_requests : (verifyWebDidHosting payload answers).1 =
    if answers.fails .httpGet = false ∧ answers.hosted ≠ none then [payload.request] else [] := by
  unfold verifyWebDidHosting
  by_cases unreachable : answers.fails .httpGet = true
  · simp [unreachable]
  · cases answers.hosted <;> simp [unreachable]

theorem verify_ok : (verifyWebDidHosting payload answers).2 = .ok () ↔
    (answers.fails .httpGet = false ∧ answers.hosted ≠ none) ∧
    ∃ expectedDetails, answers.expected = some expectedDetails ∧ expectedDetails.didDocument = answers.hosted := by
  unfold verifyWebDidHosting getDidDetails
  by_cases unreachable : answers.fails .httpGet = true
  · simp [unreachable]
  · cases answers.hosted with
    | none => simp [unreachable]
    | some hostedDoc =>
      cases answers.expected with
      | none => simp [unreachable]
      | some expectedDetails =>
        by_cases same : expectedDetails.didDocument = some hostedDoc <;> simp [unreachable,same]

theorem mem_createDid {request : Request} : request ∈ (createDid ledgers db payload answers).1 ↔
    Asks ledgers db payload answers ∧ request = (withEndpoint db payload).request := by
  unfold createDid Asks
  cases prepare ledgers db payload answers with
  | error failure => simp
  | ok network =>
    by_cases web : payload.method = WEB
    · simp only [withEndpoint_method,web,↓reduceIte]
      cases verified : (verifyWebDidHosting (withEndpoint db payload) answers).2 with
      | error failure => simp [verify_requests]
      | ok done =>
        obtain ⟨⟨reachable,found⟩,-⟩ := verify_ok.mp verified
        simp [verify_requests,reachable,found]
    · simp [withEndpoint_method,web]

theorem demote_hosted {row : OrgDid} : (demote did row).Hosted ↔ row.Hosted := by
  unfold demote
  split <;> rfl
theorem others_hosted (all : ∀ row ∈ db.org_dids.rows, row.Hosted) :
    ∀ row ∈ (others db payload did).rows, row.Hosted := by
  intro row there
  unfold others at there
  split at there
  · obtain ⟨old,listed,rfl⟩ := List.mem_map.mp there
    exact demote_hosted.mpr (all old listed)
  · exact all row there
theorem mem_others {row : OrgDid} (there : row ∈ db.org_dids.rows) (its : row.did = did) :
    row ∈ (others db payload did).rows := by
  unfold others
  split
  · exact List.mem_map.mpr ⟨row,there,if_pos its⟩
  · exact there
theorem others_ids (payload : DidCreate) (did : String) {id : Nat} :
    (∀ row ∈ (others db payload did).rows, row.id ≠ id) ↔ ∀ row ∈ db.org_dids.rows, row.id ≠ id := by
  have same : ∀ row, (demote did row).id = row.id := fun row => by
    unfold demote
    split <;> rfl
  unfold others
  split
  · simp [demoteOthers,same]
  · rfl
theorem existing_some {row : OrgDid} (first : existing db did = some row) : row ∈ db.org_dids.rows ∧ row.did = did :=
  ⟨List.mem_of_find?_eq_some first,by simpa using List.find?_some first⟩
theorem existing_none : existing db did = none ↔ ∀ row ∈ db.org_dids.rows, row.did ≠ did := by
  simp [existing]

theorem persist_accepts {didDocument : Option Document} {ledgerId : Option String} :
    (∃ after, persistDidWithUpdates db payload answers did didDocument hosted ledgerId = .ok after) ↔
      answers.fails .persistDidWithUpdates = false ∧ ((∃ row ∈ db.org_dids.rows, row.did = did) ∨
        didDocument ≠ none ∧ ∀ row ∈ db.org_dids.rows, row.id ≠ answers.drawn) := by
  unfold persistDidWithUpdates
  by_cases failing : answers.fails .persistDidWithUpdates = true
  · simp [failing]
  · cases first : existing db did with
    | some existingDid =>
      obtain ⟨there,its⟩ := existing_some first
      simp only [failing]
      exact ⟨fun _ => ⟨trivial,.inl ⟨existingDid,there,its⟩⟩,fun _ => ⟨_,rfl⟩⟩
    | none =>
      have absent : ¬∃ row ∈ db.org_dids.rows, row.did = did := by
        rintro ⟨row,there,its⟩
        exact existing_none.mp first row there its
      cases didDocument with
      | none => simp [failing,absent]
      | some didDocument =>
        have inserts : ∀ stored : OrgDid, (∀ row ∈ db.org_dids.rows, row.id ≠ stored.id) ↔
            (others db payload did).insert stored ≠ none := by
          intro stored
          rw [← others_ids payload did,← Keyed.find_none,ne_eq,Keyed.insert_none,not_not]
        simp only [failing,absent,reduceCtorEq,ne_eq,not_false_eq_true,true_and,false_or]
        rw [inserts ⟨answers.drawn,did,didDocument,payload.isPrimaryDid,payload.request.seed,hosted⟩]
        cases (others db payload did).insert
            ⟨answers.drawn,did,didDocument,payload.isPrimaryDid,payload.request.seed,hosted⟩
        <;> simp

theorem change_hosted {t : Keyed OrgDid.id} {row : OrgDid} (f : OrgDid → OrgDid) (kept : ∀ row, (f row).id = row.id)
    (all : ∀ row ∈ t.rows, row.Hosted) (mem : row ∈ t.rows) :
    (∀ other ∈ (t.change row.id f kept).rows, other.Hosted) ↔ (f row).Hosted := by
  constructor
  · intro holds
    exact holds (f row) (Keyed.mem_change.mpr (.inr ⟨row,mem,rfl,rfl⟩))
  · intro holds other listed
    rcases Keyed.mem_change.mp listed with ⟨there,-⟩ | ⟨old,there,same,rfl⟩
    · exact all other there
    · rw [t.eq_of_key there mem same]
      exact holds

theorem persist_hosted {didDocument : Option Document} {ledgerId : Option String}
    (all : ∀ row ∈ db.org_dids.rows, row.Hosted)
    (persisted : persistDidWithUpdates db payload answers did didDocument hosted ledgerId = .ok after) :
    (∀ row ∈ after.org_dids.rows, row.Hosted) ↔ (IsWeb did →
      hosted.or ((existing db did).bind OrgDid.hosted) = didDocument.or ((existing db did).map OrgDid.didDocument)) := by
  unfold persistDidWithUpdates at persisted
  split at persisted
  · cases persisted
  · split at persisted
    · rename_i existingDid first
      obtain ⟨there,its⟩ := existing_some first
      obtain rfl := Except.ok.inj persisted
      have exact_ : (existingDid.restored didDocument payload.isPrimaryDid hosted).Hosted ↔ (IsWeb did →
          hosted.or existingDid.hosted = some (didDocument.getD existingDid.didDocument)) := by
        rw [← its]
        rfl
      rw [first,Option.bind_some,Option.map_some,Option.or_some,← exact_]
      exact change_hosted (fun row => row.restored didDocument payload.isPrimaryDid hosted) (fun _ => rfl)
          (others_hosted all) (mem_others there its)
    · rename_i absent
      split at persisted
      · cases persisted
      · rename_i didDocument
        dsimp only at persisted
        split at persisted
        · cases persisted
        · rename_i org_dids inserted
          obtain rfl := Except.ok.inj persisted
          have rows := (Keyed.insert_some.mp inserted).2
          rw [absent]
          simp only [rows,List.forall_mem_cons]
          rw [and_iff_left (others_hosted all)]
          simp [OrgDid.Hosted]

theorem conclude_ok : conclude ledgers db payload answers network hosted = .ok after ↔
    ∃ didDetails did ledgerId, answers.written = some didDetails ∧ JsObject.truthy didDetails.createdDid = some did ∧
      answers.fails .getOrgDid = false ∧ resolveLedger ledgers payload answers network did = .ok ledgerId ∧
      persistDidWithUpdates db payload answers did didDetails.document hosted ledgerId = .ok after := by
  unfold conclude getDidDetails
  cases answers.written with
  | none => simp
  | some didDetails =>
    cases is_did : JsObject.truthy didDetails.createdDid with
    | none => simp [is_did]
    | some did =>
      by_cases failing : answers.fails .getOrgDid = true
      · simp [failing,is_did]
      · cases is_ledger : resolveLedger ledgers payload answers network did with
        | error failure => simp [failing,is_did,is_ledger]
        | ok ledgerId => simp [failing,is_did,is_ledger]

def looked (payload : DidCreate) (answers : Answers) : Option Document :=
  if payload.method = WEB then answers.hosted else none

theorem createDid_ok : (createDid ledgers db payload answers).2 = .ok after ↔
    ∃ network, prepare ledgers db payload answers = .ok network ∧
      (payload.method = WEB → (answers.fails .httpGet = false ∧ answers.hosted ≠ none) ∧
        ∃ expectedDetails, answers.expected = some expectedDetails ∧ expectedDetails.didDocument = answers.hosted) ∧
      conclude ledgers db (withEndpoint db payload) answers network (looked payload answers) = .ok after := by
  unfold createDid looked
  cases prepare ledgers db payload answers with
  | error failure => simp
  | ok network =>
    by_cases web : payload.method = WEB
    · simp only [withEndpoint_method,web,↓reduceIte]
      cases verified : (verifyWebDidHosting (withEndpoint db payload) answers).2 with
      | error failure =>
        refine iff_of_false nofun ?_
        rintro ⟨-,-,checked,-⟩
        have passed : (verifyWebDidHosting (withEndpoint db payload) answers).2 = .ok () :=
            verify_ok.mpr (checked trivial)
        cases verified.symm.trans passed
      | ok done =>
        have checked := verify_ok.mp verified
        simp [checked]
    · simp [withEndpoint_method,web]

theorem stores_iff : (∃ after, (createDid ledgers db payload answers).2 = .ok after) ↔
    ∃ didDetails did, Stores ledgers db payload answers didDetails did := by
  constructor
  · rintro ⟨after,made⟩
    obtain ⟨network,prepared,checked,concluded⟩ := createDid_ok.mp made
    obtain ⟨didDetails,did,ledgerId,written,named,listed,ledger,persisted⟩ := conclude_ok.mp concluded
    obtain ⟨persists,row⟩ := persist_accepts.mp ⟨after,persisted⟩
    refine ⟨didDetails,did,⟨⟨network,prepared⟩,fun web => (checked web).1⟩,fun web => (checked web).2,written,named,
      listed,fun other same => ?_,persists,row⟩
    obtain rfl := Except.ok.inj (prepared.symm.trans same)
    exact ⟨ledgerId,ledger⟩
  · rintro ⟨didDetails,did,stores⟩
    obtain ⟨⟨network,prepared⟩,reachable⟩ := stores.asks
    obtain ⟨ledgerId,ledger⟩ := stores.ledger network prepared
    obtain ⟨after,persisted⟩ := persist_accepts.mpr ⟨stores.persisted,stores.row⟩
    exact ⟨after,createDid_ok.mpr ⟨network,prepared,fun web => ⟨reachable web,stores.checked web⟩,
      conclude_ok.mpr ⟨didDetails,did,ledgerId,stores.written,stores.named,stores.listed,ledger,persisted⟩⟩⟩

theorem stores_unique {other : DidDetails} {otherDid : String}
    (stores : Stores ledgers db payload answers didDetails did)
    (again : Stores ledgers db payload answers other otherDid) : other = didDetails ∧ otherDid = did := by
  obtain rfl := Option.some.inj (again.written.symm.trans stores.written)
  exact ⟨rfl,Option.some.inj (again.named.symm.trans stores.named)⟩

theorem createDid_hosted (all : ∀ row ∈ db.org_dids.rows, row.Hosted)
    (made : (createDid ledgers db payload answers).2 = .ok after) :
    (∀ row ∈ after.org_dids.rows, row.Hosted) ↔ ∀ didDetails did, Stores ledgers db payload answers didDetails did →
      IsWeb did → StoresHosted db payload answers didDetails did := by
  obtain ⟨didDetails,did,stores⟩ := stores_iff.mp ⟨after,made⟩
  obtain ⟨network,-,-,concluded⟩ := createDid_ok.mp made
  obtain ⟨didDetails',did',ledgerId,written,named,-,-,persisted⟩ := conclude_ok.mp concluded
  obtain rfl := Option.some.inj (written.symm.trans stores.written)
  obtain rfl := Option.some.inj (named.symm.trans stores.named)
  rw [persist_hosted all persisted]
  constructor
  · intro holds other otherDid again web
    obtain ⟨rfl,rfl⟩ := stores_unique stores again
    exact holds web
  · exact fun holds => holds didDetails' did' stores

/-- One call keeps the keys and the documents exactly under its condition. -/
theorem step_good {s next : State} {call : Call} (good : Good webDid s) (taken : step ledgers s call = some next) :
    Good webDid next ↔ Meets webDid ledgers s call := by
  obtain rfl := Option.some.inj taken
  have kept_iff : (∀ entry ∈ (perform ledgers s.db call).1.map (fun request => (s.db.org_dids.rows,request)) ++ s.sent,
      KeepsKey webDid entry.1 entry.2) ↔
      ∀ request ∈ (perform ledgers s.db call).1, KeepsKey webDid s.db.org_dids.rows request := by
    rw [List.forall_mem_append,and_iff_left good.kept,List.forall_mem_map]
  cases call with
  | generateWebDid payload answers =>
    constructor
    · intro later generates
      exact kept_iff.mp later.kept payload.request (mem_generateWebDid.mpr ⟨generates,rfl⟩)
    · intro meets
      refine ⟨kept_iff.mpr fun request sent => ?_,good.hosted⟩
      obtain ⟨generates,rfl⟩ := mem_generateWebDid.mp sent
      exact meets generates
  | createDid payload answers =>
    have hosted_iff : (∀ row ∈ (perform ledgers s.db (.createDid payload answers)).2.org_dids.rows, row.Hosted) ↔
        ∀ didDetails did, Stores ledgers s.db payload answers didDetails did → IsWeb did →
          StoresHosted s.db payload answers didDetails did := by
      cases made : (createDid ledgers s.db payload answers).2 with
      | ok after =>
        simp only [perform,made]
        exact createDid_hosted good.hosted made
      | error failure =>
        simp only [perform,made]
        refine iff_of_true good.hosted fun didDetails did stores => ?_
        obtain ⟨after,stored⟩ := stores_iff.mpr ⟨didDetails,did,stores⟩
        cases made.symm.trans stored
    constructor
    · intro later
      refine ⟨fun asks => ?_,hosted_iff.mp later.hosted⟩
      exact kept_iff.mp later.kept (withEndpoint s.db payload).request (mem_createDid.mpr ⟨asks,rfl⟩)
    · rintro ⟨asks,stores⟩
      refine ⟨kept_iff.mpr fun request sent => ?_,hosted_iff.mpr stores⟩
      obtain ⟨asked,rfl⟩ := mem_createDid.mp sent
      exact asks asked

end

/-- All along a run no stored did:web DID is written with another seed and their documents are the hosted
    ones exactly when each call meets the condition. -/
theorem web_did_kept_iff (webDid : Request → Option String) (ledgers : Ledgers) {s t : State} (good : Good webDid s)
    {calls : List Call} (reached : run (step ledgers) s calls = some t) :
    (∀ first rest u, calls = first ++ rest → run (step ledgers) s first = some u → Good webDid u) ↔
      Along (step ledgers) (Meets webDid ledgers) s calls :=
  always_iff_along (fun _ _ _ => step_good) good reached
instance (did : String) : Decidable (IsWeb did) := inferInstanceAs (Decidable (_ <+: _))
instance (webDid : Request → Option String) (rows : List OrgDid) (request : Request) :
    Decidable (KeepsKey webDid rows request) :=
  inferInstanceAs (Decidable (∀ row ∈ rows, IsWeb row.did → webDid request = some row.did → row.seed = request.seed))
def domainDid (request : Request) : Option String :=
  if request.method = some WEB then request.domain.map ("did:web:" ++ ·) else none
def noLedgers : Ledgers := ⟨[],by decide⟩
def noDids : State := ⟨⟨⟨"http://agent",none,none,none,.WALLET_CREATED⟩,⟨[],by decide⟩⟩,[]⟩
theorem good_noDids : Good domainDid noDids := ⟨by simp [noDids],by simp [noDids]⟩

def webDidOf (domain seed : String) : DidCreate where
  keyType := "ed25519"
  seed := some seed
  domain := some domain
  network := none
  privatekey := none
  endpoint := none
  method := WEB
  did := none
  role := none
  endorserDid := none
  isPrimaryDid := false

/-- The agent's answers when it makes the document, and what is hosted. -/
def answering (did hosted made : Document) (drawn : Nat) : Answers where
  fails _ := false
  hosted := some hosted
  expected := some ⟨some did,some made,none,none⟩
  written := some ⟨some did,some made,none,none⟩
  drawn := drawn
def documentOf (key : String) : Document := "\x7b\"key\":\"" ++ key ++ "\"\x7d"
/-- A DID is stored with the document that is hosted. -/
def storedOnce : List Call :=
  [.createDid (webDidOf "ngo.bt" "000000000000000000000000000Seed1")
    (answering "did:web:ngo.bt" (documentOf "one") (documentOf "one") 0)]
/-- Another seed for it, for which the agent makes another document than the hosted one. -/
def storedTwice : List Call := storedOnce ++
  [.createDid (webDidOf "ngo.bt" "000000000000000000000000000Seed2")
    (answering "did:web:ngo.bt" (documentOf "one") (documentOf "two") 1)]

theorem web_did_kept_storedOnce : ∃ t, run (step noLedgers) noDids storedOnce = some t ∧ Good domainDid t := by
  obtain ⟨t,reached⟩ : ∃ t, run (step noLedgers) noDids storedOnce = some t := ⟨_,rfl⟩
  refine ⟨t,reached,(web_did_kept_iff domainDid noLedgers good_noDids reached).mpr ?_ storedOnce [] t rfl reached⟩
  refine ⟨⟨fun _ => by simp [KeepsKey,noDids],fun didDetails did stores _ => ?_⟩,fun _ _ => trivial⟩
  obtain rfl := Option.some.inj stores.written
  rfl
/-- The second call is refused, since its document is not the hosted one, but by then the key is
    replaced. -/
theorem key_replaced : ∃ t, run (step noLedgers) noDids storedTwice = some t ∧
    ∃ entry ∈ t.sent, ¬KeepsKey domainDid entry.1 entry.2 := by
  obtain ⟨t,reached,replaced⟩ := (Option.any_eq_true _ _).mp
    (by decide +kernel : (run (step noLedgers) noDids storedTwice).any
      fun t => ∃ entry ∈ t.sent, ¬KeepsKey domainDid entry.1 entry.2)
  exact ⟨t,reached,of_decide_eq_true replaced⟩

end Ngotag.WebDids
