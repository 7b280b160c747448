import Ngotag.ReadCommitted

/-!
The primary DID of an organisation, which is a flag of its row in `org_dids` and a
column of `org_agents`. `createDid` stores a DID, or stores it again, and
`setPrimaryDid` makes a stored one primary. The partial unique index leaves one primary
row at most; the two tables say the same unless the primary DID is created again as a
DID that is not primary, or a DID without a document becomes primary (`coherent_iff`).
-/
namespace Ngotag.PrimaryDid
open Runs Await ReadCommitted

/-- A DID document: a JSON value other than `null`. -/
inductive Document where
  | object (text : String)
  | string (text : String)
  | number (value : Int)
  | boolean (value : Bool)
  deriving DecidableEq
def Document.truthy : Document → Bool
  | .object _ => true
  | .string text => text ≠ ""
  | .number value => value ≠ 0
  | .boolean value => value
structure OrgDid where
  did : String
  didDocument : Document
  isPrimaryDid : Bool
  deriving DecidableEq
inductive AgentSpinUpStatus where
  | WALLET_CREATED
  | DID_CREATED
  | other
  deriving DecidableEq
structure OrgAgent where
  orgDid : Option String
  didDocument : Option Document
  ledgerId : Option String
  agentSpinUpStatus : AgentSpinUpStatus
/-- The columns that an update of `org_agents` sets. -/
structure OrgAgentData where
  orgDid : Option (String × Document)
  ledgerId : Option String
  agentSpinUpStatus : Option AgentSpinUpStatus

def OrgAgentData.apply (data : OrgAgentData) (row : OrgAgent) : OrgAgent where
  orgDid := (data.orgDid.map Prod.fst).or row.orgDid
  didDocument := (data.orgDid.map Prod.snd).or row.didDocument
  ledgerId := data.ledgerId.or row.ledgerId
  agentSpinUpStatus := data.agentSpinUpStatus.getD row.agentSpinUpStatus
def OrgAgentData.isEmpty (data : OrgAgentData) : Bool :=
  data.orgDid.isNone && data.ledgerId.isNone && data.agentSpinUpStatus.isNone
structure DidState where
  did : Option String
  didDocument : Option Document

/-- What the agent answers to the creation of a DID. -/
structure DidDetails where
  did : Option String
  didDocument : Option Document
  didDoc : Option Document
  didState : Option DidState
def DidDetails.createdDid (details : DidDetails) : Option String := details.did.or (details.didState.bind DidState.did)
def DidDetails.document (details : DidDetails) : Option Document :=
  (details.didDocument.or details.didDoc).or (details.didState.bind DidState.didDocument)
inductive DidMethod where
  | POLYGON
  | ETHEREUM
  | WEB
  | other
  deriving DecidableEq
structure DidCreate where
  network : Option String
  method : DidMethod
  isPrimaryDid : Bool
/-- What is read or done elsewhere: other tables and the agent. -/
inductive Elsewhere where
  | networkMismatch
  | getOrgAgentApiKey
  | verifyWebDidHosting
  | getOrgProfile

inductive Cmd where
  | elsewhere (what : Elsewhere)
  /-- A row of `ledgers`, found by its namespace, or the exception. -/
  | getLedgerByNameSpace
  | getLedger
  | getDidDetails
  | getOrgAgent
  | getOrgDids
  | getDidDetailsByDid (did : String)
  | getPerviousPrimaryDid (excludeId : Nat)
  | begin
  /-- The rows that the demoting `updateMany` starts with. -/
  | selectOthers (did : String)
  /-- One of them, once it is free. -/
  | demote (id : Nat)
  | updateOrgDid (id : Nat) (isPrimaryDid : Bool) (didDocument : Option Document)
  | createOrgDid (did : String) (didDocument : Option Document) (isPrimaryDid : Bool)
  | updateOrgAgent (data : OrgAgentData)
  | commit
  | rollback

def Ret : Cmd → Type
  | .getLedgerByNameSpace => String
  | .getLedger => Option String
  | .getDidDetails => DidDetails
  | .getOrgAgent => OrgAgent
  | .getOrgDids => List (Nat × OrgDid)
  | .getDidDetailsByDid _ => Nat × OrgDid
  | .getPerviousPrimaryDid _ => Option Nat
  | .selectOthers _ => List Nat
  | .updateOrgDid _ _ _ => OrgDid
  | .createOrgDid _ _ _ => OrgDid
  | _ => Unit

inductive Failure where
  /-- `ResponseMessages.agent.error.createDid` -/
  | createDid
  /-- `ResponseMessages.agent.error.noLedgerFound` -/
  | noLedgerFound
  /-- `ResponseMessages.organisation.error.primaryDid` -/
  | primaryDid
  /-- `ResponseMessages.organisation.error.didNotFound` -/
  | didNotFound
  /-- `ResponseMessages.organisation.error.didIdMismatch` -/
  | didIdMismatch
  | other

abbrev Async := Prog Cmd Ret Failure
def perform (command : Cmd) : Async (Ret command) := call command
def ask (what : Elsewhere) : Async Unit := perform (.elsewhere what)
def orgAgentData (isPrimaryDid : Bool) (storedDid : OrgDid) (ledgerId : Option String) (updateSpinupStatus : Bool) :
    OrgAgentData where
  orgDid := if isPrimaryDid && storedDid.did ≠ "" && storedDid.didDocument.truthy then
    some (storedDid.did,storedDid.didDocument) else none
  ledgerId := if isPrimaryDid then ledgerId else none
  agentSpinUpStatus := if updateSpinupStatus then some .DID_CREATED else none
def demoteOthers (did : String) : Async Unit := do
  let rows : List Nat ← perform (.selectOthers did)
  forEach (fun row => perform (.demote row)) rows
/-- The row of the DID, which is the existing one or a new one. -/
def storeDid (did : String) (didDocument : Option Document) (isPrimaryDid : Bool) (existingDid : Option Nat) :
    Async OrgDid :=
  match existingDid with
  | some id => perform (.updateOrgDid id isPrimaryDid didDocument)
  | none => perform (.createOrgDid did didDocument isPrimaryDid)
def persistDidWithUpdates (did : String) (didDocument : Option Document) (isPrimaryDid : Bool) (existingDid : Option Nat)
    (ledgerId : Option String) (updateSpinupStatus : Bool) : Async Unit :=
  transaction (perform .begin) (perform .rollback) (perform .commit) do
    (if isPrimaryDid = true then demoteOthers did else pure () : Async Unit)
    let storedDid : OrgDid ← storeDid did didDocument isPrimaryDid existingDid
    let data := orgAgentData isPrimaryDid storedDid ledgerId updateSpinupStatus
    if data.isEmpty = true then pure () else perform (.updateOrgAgent data)
def noLedger : Async (Option String) := do
  let noLedgerData : Option String ← perform .getLedger
  if noLedgerData = none then throw .noLedgerFound else pure noLedgerData
def resolveLedger (payload : DidCreate) (networkLedgerId : Option String) : Async (Option String) :=
  if payload.isPrimaryDid = false then pure none
  else if payload.network.any (· ≠ "") = true then pure networkLedgerId
  else if payload.method = .ETHEREUM then
    Prog.tryCatch (do let ethrLedger : String ← perform .getLedgerByNameSpace; pure (some ethrLedger)) fun _ => noLedger
  else noLedger
/-- The ledger of the network, which has to match that of the agent. -/
def networkLedger (payload : DidCreate) : Async (Option String) :=
  if payload.network.any (· ≠ "") = true then do
    let ledger : String ← perform .getLedgerByNameSpace
    ask .networkMismatch
    pure (some ledger)
  else pure none

def createDid (payload : DidCreate) : Async Unit := do
  let agentDetails : OrgAgent ← perform .getOrgAgent
  let networkLedgerId ← networkLedger payload
  ask .getOrgAgentApiKey
  (if payload.method = .WEB then ask .verifyWebDidHosting else pure () : Async Unit)
  let didDetails : DidDetails ← perform .getDidDetails
  let did := didDetails.createdDid.getD ""
  if did = "" then throw .createDid
  else do
    let getDidByOrg : List (Nat × OrgDid) ← perform .getOrgDids
    let existingDid := (getDidByOrg.find? fun orgDid => orgDid.2.did = did).map Prod.fst
    let ledgerId ← resolveLedger payload networkLedgerId
    persistDidWithUpdates did didDetails.document payload.isPrimaryDid existingDid ledgerId
      (agentDetails.agentSpinUpStatus = .WALLET_CREATED)

def setOrgsPrimaryDid (did : String) (didDocument : Document) (id : Nat) (networkId : String)
    (previousDidId : Option Nat) :
    Async Unit :=
  transaction (perform .begin) (perform .rollback) (perform .commit) do
    forEach (fun previous => do let _ : OrgDid ← perform (.updateOrgDid previous false none)) previousDidId.toList
    let _ : OrgDid ← perform (.updateOrgDid id true none)
    perform (.updateOrgAgent ⟨some (did,didDocument),some networkId,none⟩)
/-- The ledger of the DID: `getNetworkByNameSpace`, or the one for no ledger. -/
def networkOf (namespaced : Bool) : Async String :=
  if namespaced = true then perform .getLedgerByNameSpace
  else do
    let network : Option String ← perform .getLedger
    match network with
    | none => throw .noLedgerFound
    | some ledger => pure ledger

def setPrimaryDid (did : String) (id : Nat) (namespaced : Bool) : Async Unit := do
  ask .getOrgProfile
  let orgAgentDetails : OrgAgent ← perform .getOrgAgent
  if orgAgentDetails.orgDid = some did then throw .primaryDid
  else do
    let organizationDidList : List (Nat × OrgDid) ← perform .getOrgDids
    if (organizationDidList.any fun item => item.2.did = did) = false then throw .didNotFound
    else do
      let didDetails : Nat × OrgDid ← perform (.getDidDetailsByDid did)
      if didDetails.1 ≠ id then throw .didIdMismatch
      else do
        let dids : List (Nat × OrgDid) ← perform .getOrgDids
        let networkId ← networkOf namespaced
        let existingPrimaryDid : Option Nat ← (if (dids.all fun orgDid => !orgDid.2.isPrimaryDid) = true then pure none
          else perform (.getPerviousPrimaryDid id) : Async (Option Nat))
        setOrgsPrimaryDid did didDetails.2.didDocument id networkId existingPrimaryDid

inductive Input where
  | createDid (payload : DidCreate)
  | setPrimaryDid (did : String) (id : Nat) (namespaced : Bool)
/-- The row of the organisation in `org_agents` has the key 0. `changed` records the
    calls whose transaction was committed. -/
structure World where
  dids : Table OrgDid
  agents : Table OrgAgent
  txn : Nat → Bool
  calls : Nat → Option Input
  changed : List Nat
/-- Whether the command fails, the id of a new row, the order in which rows are found,
    and what the agent and the table of ledgers answer. -/
structure Choice where
  fails : Bool
  drawn : Nat
  order : List Nat
  details : DidDetails
  ledger : Option String

/-- What a query finds, in the order of the choice. -/
def found {Row : Type} (t : Table Row) (choice : Choice) (row : Nat → Option Row) : Option (List (Nat × Row)) :=
  if choice.order.Nodup ∧
      t.keys ⊆ choice.order then some (choice.order.filterMap fun key => (row key).map fun r => (key,r))
  else none
def inTransaction {β : Type} (process : Nat) (choice : Choice) (w : World)
    (statement : Option (World × Except Failure β)) : Option (World × Except Failure β) :=
  if choice.fails = false ∧ w.txn process = true then statement else some (w,.error .other)
def World.abandon (w : World) (process : Nat) : World :=
  { w with dids := w.dids.rollback process, agents := w.agents.rollback process, txn :=
      Function.update w.txn process false }
def World.conclude (w : World) (process : Nat) : World :=
  { w with dids := w.dids.commit process, agents := w.agents.commit process,
           txn := Function.update w.txn process false, changed := process :: w.changed }
def commitOf (process : Nat) (choice : Choice) (w : World) : Option (World × Except Failure Unit) :=
  if w.txn process = false then some (w,.error .other)
  else if choice.fails = true then some (w.abandon process,.error .other)
  else some (w.conclude process,.ok ())
def World.writeDid (w : World) (process : Nat) (id : Nat) (row : OrgDid) : World :=
  { w with dids := w.dids.write process id row }
def World.writeAgent (w : World) (process : Nat) (row : OrgAgent) : World :=
  { w with agents := w.agents.write process 0 row }

/-- A version of a row: it waits for the locks, and for what the index leaves undecided. -/
def putDid (process : Nat) (w : World) (id : Nat) (row : OrgDid) : Option (World × Except Failure OrgDid) :=
  if row.isPrimaryDid = false then some (w.writeDid process id row,.ok row)
  else if w.dids.undecided OrgDid.isPrimaryDid process id = true then none
  else if w.dids.violated OrgDid.isPrimaryDid process id = true then some (w,.error .other)
  else some (w.writeDid process id row,.ok row)
def updateRow (process : Nat) (w : World) (id : Nat) (isPrimaryDid : Bool) (didDocument : Option Document) :
    Option (World × Except Failure OrgDid) :=
  if w.dids.locked process id = true then none
  else match w.dids.seen process id with
    | none => some (w,.error .other)
    | some row =>
      putDid process w id { row with isPrimaryDid := isPrimaryDid, didDocument := didDocument.getD row.didDocument }
def demoteRow (process : Nat) (w : World) (id : Nat) : Option (World × Except Failure Unit) :=
  if w.dids.locked process id = true then none
  else match w.dids.seen process id with
    | none => some (w,.ok ())
    | some row => some (w.writeDid process id { row with isPrimaryDid := false },.ok ())
def insertRow (process : Nat) (choice : Choice) (w : World) (did : String) (didDocument : Option Document)
    (isPrimaryDid : Bool) : Option (World × Except Failure OrgDid) :=
  if choice.drawn ∈ w.dids.keys then none
  else match didDocument with
    | none => some (w,.error .other)
    | some document => putDid process w choice.drawn ⟨did,document,isPrimaryDid⟩
def updateAgentRow (process : Nat) (w : World) (data : OrgAgentData) : Option (World × Except Failure Unit) :=
  if w.agents.locked process 0 = true then none
  else match w.agents.seen process 0 with
    | none => some (w,.error .other)
    | some row => some (w.writeAgent process (data.apply row),.ok ())
def orFail {β : Type} (value : Option β) : Except Failure β := value.elim (.error .other) .ok

def handle (process : Nat) (c : Cmd) (choice : Choice) (w : World) : Option (World × Except Failure (Ret c)) :=
  match c with
  | .elsewhere _ => lookedUp (β := Unit) choice.fails .other w (.ok ())
  | .getLedgerByNameSpace => lookedUp (β := String) choice.fails .other w (orFail choice.ledger)
  | .getLedger => lookedUp (β := Option String) choice.fails .other w (.ok choice.ledger)
  | .getDidDetails => lookedUp (β := DidDetails) choice.fails .other w (.ok choice.details)
  | .getOrgAgent => lookedUp (β := OrgAgent) choice.fails .other w (orFail (w.agents.committed 0))
  | .getOrgDids => (found w.dids choice w.dids.committed).bind fun rows =>
      lookedUp (β := List (Nat × OrgDid)) choice.fails .other w (.ok rows)
  | .getDidDetailsByDid did => (found w.dids choice w.dids.committed).bind fun rows =>
      lookedUp (β := Nat × OrgDid) choice.fails .other w (orFail (rows.find? fun row => row.2.did = did))
  | .getPerviousPrimaryDid excludeId => (found w.dids choice w.dids.committed).bind fun rows =>
      lookedUp (β := Option Nat) choice.fails .other w
        (.ok ((rows.find? fun row => row.2.isPrimaryDid && row.1 ≠ excludeId).map Prod.fst))
  | .begin => some (if choice.fails then (w,.error .other)
      else ({ w with txn := Function.update w.txn process true },.ok ()))
  | .selectOthers did =>
    inTransaction (β := List Nat) process choice w ((found w.dids choice (w.dids.seen process)).map fun rows =>
      (w,.ok ((rows.filter fun row => row.2.did ≠ did).map Prod.fst)))
  | .demote id => inTransaction (β := Unit) process choice w (demoteRow process w id)
  | .updateOrgDid id isPrimaryDid didDocument =>
    inTransaction (β := OrgDid) process choice w (updateRow process w id isPrimaryDid didDocument)
  | .createOrgDid did didDocument isPrimaryDid =>
    inTransaction (β := OrgDid) process choice w (insertRow process choice w did didDocument isPrimaryDid)
  | .updateOrgAgent data => inTransaction (β := Unit) process choice w (updateAgentRow process w data)
  | .commit => commitOf process choice w
  | .rollback => some (w.abandon process,.ok ())

/-- The connection of a transaction is lost, or its time is up: it is rolled back. -/
inductive Env where
  | abort (process : Nat)
def program (_ : Nat) : Input → Async Unit
  | .createDid payload => createDid payload
  | .setPrimaryDid did id namespaced => setPrimaryDid did id namespaced
def sys : System Cmd Ret Failure Unit World Choice Input Env where
  handle := handle
  arrive process input w := some { w with calls := Function.update w.calls process (some input) }
  program := program
  environment event w :=
    match event with
    | .abort process => some (w.abandon process)
def World.orgDid (w : World) : Option String := (w.agents.committed 0).bind OrgAgent.orgDid
/-- The committed row is primary. -/
def Primary (w : World) (id : Nat) (row : OrgDid) : Prop := w.dids.committed id = some row ∧ row.isPrimaryDid = true
/-- The open transaction of the process makes the row the primary one. -/
def Promotes (w : World) (process id : Nat) (row : OrgDid) : Prop :=
  w.dids.pending id = some (process,row) ∧ row.isPrimaryDid = true
/-- One row is primary at most, its DID is that of `org_agents`, and the DID of
    `org_agents` is that of a primary row. -/
structure Coherent (w : World) : Prop where
  one : ∀ i j r s, Primary w i r → Primary w j s → i = j
  agree : ∀ id row, Primary w id row → w.orgDid = some row.did
  held : ∀ did, w.orgDid = some did → ∃ id row, Primary w id row ∧ row.did = did

/-- The tables say the same, versions of a row keep its DID, and a creation writes what
    it was asked to. -/
structure Sound (w : World) : Prop where
  agree : ∀ id row, Primary w id row → w.orgDid = some row.did
  held : ∀ did, w.orgDid = some did → ∃ id row, Primary w id row ∧ row.did = did
  unique : w.dids.Unique OrgDid.isPrimaryDid
  same : ∀ process id row old, w.dids.pending id = some (process,row) → w.dids.committed id = some old →
      row.did = old.did
  closed : ∀ process, w.txn process = false →
    (∀ id row, w.dids.pending id ≠ some (process,row)) ∧ ∀ id row, w.agents.pending id ≠ some (process,row)
  plain : ∀ process payload, w.calls process = some (.createDid payload) → payload.isPrimaryDid = false →
    ∀ id row, ¬Promotes w process id row
  column : ∀ process payload, w.calls process = some (.createDid payload) →
    ∀ agent, w.agents.pending 0 = some (process,agent) → agent.orgDid = w.orgDid ∨
      ∃ id row, Promotes w process id row ∧ row.didDocument.truthy = true ∧ agent.orgDid = some row.did

/-- What the others leave to a process: its call, whether it was committed, the DIDs of
    the rows, and its transaction unless it was rolled back. -/
structure Undisturbed (process : Nat) (a b : World) : Prop where
  calls : b.calls process = a.calls process
  changed : process ∈ b.changed ↔ process ∈ a.changed
  dids : ∀ id row, a.dids.committed id = some row → ∃ row', b.dids.committed id = some row' ∧ row'.did = row.did
  txn : b.txn process = false ∨
    b.txn process = a.txn process ∧ Table.Kept process a.dids b.dids ∧ Table.Kept process a.agents b.agents
/-- A creation that is not to be primary leaves the primary row alone, and one that is
    to be primary stores a document, or its DID is there already. -/
def proper (process : Nat) (c : Cmd) (choice : Choice) (w : World) : Prop :=
  c = .commit → choice.fails = false → ∀ payload, w.calls process = some (.createDid payload) →
    if payload.isPrimaryDid = true then
      ∀ id row, Promotes w process id row → row.didDocument.truthy = false → w.orgDid = some row.did
    else ∀ id row old, w.dids.pending id = some (process,row) → ¬Primary w id old
def contract : Contract Cmd World Choice Env where
  inv := Sound
  rely := Undisturbed
  idle process w := w.txn process = false ∧ process ∉ w.changed
  allowed := proper
  happens _ _ := True
/-- A call that fails was not committed. -/
def unchanged (process : Nat) : Except Failure Unit → World → Prop := upon (fun _ _ => True) fun w => process ∉ w.changed

section
variable {process other : Nat} {a b w after : World} {choice : Choice}

theorem undisturbed_refl : Undisturbed process a a :=
  ⟨rfl,Iff.rfl,fun _ row there => ⟨row,there,rfl⟩,.inr ⟨rfl,Table.kept_refl,Table.kept_refl⟩⟩

theorem undisturbed_trans {c : World} (first : Undisturbed process a b) (second : Undisturbed process b c) :
    Undisturbed process a c := by
  refine ⟨second.calls.trans first.calls,second.changed.trans first.changed,?_,?_⟩
  · intro id row there
    obtain ⟨row',there',same⟩ := first.dids id row there
    obtain ⟨row'',there'',same'⟩ := second.dids id row' there'
    exact ⟨row'',there'',same'.trans same⟩
  rcases second.txn with gone | ⟨same,dids,agents⟩
  · exact .inl gone
  rcases first.txn with gone | ⟨same',dids',agents'⟩
  · exact .inl (same.trans gone)
  · exact .inr ⟨same.trans same',Table.kept_trans dids' dids,Table.kept_trans agents' agents⟩

theorem Sound.coherent (sound : Sound w) : Coherent w :=
  ⟨fun i j r s first second => sound.unique.one i j r s first.1 first.2 second.1 second.2,sound.agree,sound.held⟩
theorem Sound.single (sound : Sound w) {i j p q : Nat} {r s : OrgDid} (first : Promotes w p i r)
    (second : Promotes w q j s) :
    i = j ∧ p = q ∧ r = s := by
  obtain rfl := sound.unique.exclusive p q i j r s first.1 first.2 second.1 second.2
  have same := first.1.symm.trans second.1
  simp only [Option.some.injEq,Prod.mk.injEq] at same
  exact ⟨rfl,same⟩

theorem closed_end (sound : Sound w) (dids : after.dids.pending = w.dids.others process)
    (agents : after.agents.pending = w.agents.others process) (txn : after.txn = Function.update w.txn process false)
    (mine : Nat) (ended : after.txn mine = false) :
    (∀ id row, after.dids.pending id ≠ some (mine,row)) ∧ ∀ id row, after.agents.pending id ≠ some (mine,row) := by
  have gone : ∀ {Row : Type} {t : Table Row} {id : Nat} {row : Row}, t.others process id = some (mine,row) →
      t.pending id = some (mine,row) ∧ w.txn mine = false := by
    intro Row t id row held
    obtain ⟨before,different⟩ := Table.others_some.mp held
    rw [txn,Function.update_of_ne different] at ended
    exact ⟨before,ended⟩
  constructor
  · intro id row held
    rw [dids] at held
    exact (sound.closed mine (gone held).2).1 id row (gone held).1
  · intro id row held
    rw [agents] at held
    exact (sound.closed mine (gone held).2).2 id row (gone held).1

theorem sound_abandon (sound : Sound w) : Sound (w.abandon process) := by
  refine ⟨sound.agree,sound.held,Table.unique_rollback sound.unique,?_,fun mine => closed_end sound rfl rfl rfl mine,?_,?_⟩
  · intro mine id row old held there
    exact sound.same mine id row old (Table.others_some.mp held).1 there
  · intro mine payload call plain id row promotes
    exact sound.plain mine payload call plain id row ⟨(Table.others_some.mp promotes.1).1,promotes.2⟩
  · intro mine payload call agent held
    obtain ⟨before,different⟩ := Table.others_some.mp held
    rcases sound.column mine payload call agent before with same | ⟨id,row,promotes,truthy,did⟩
    · exact .inl same
    · exact .inr ⟨id,row,⟨Table.others_some.mpr ⟨promotes.1,different⟩,promotes.2⟩,truthy,did⟩

theorem orgDid_conclude : (w.conclude process).orgDid = (w.agents.seen process 0).bind OrgAgent.orgDid := rfl
theorem orgDid_others (different : other ≠ process) {agent : OrgAgent} (held : w.agents.pending 0 = some (other,agent)) :
    (w.conclude process).orgDid = w.orgDid :=
  congrArg (Option.bind · OrgAgent.orgDid) ((Table.kept_commit different).held 0 agent held)

theorem sound_conclude (sound : Sound w) (coherent : Coherent (w.conclude process)) : Sound (w.conclude process) := by
  refine ⟨coherent.agree,coherent.held,Table.unique_commit sound.unique,?_,fun mine =>
      closed_end sound rfl rfl rfl mine,?_,?_⟩
  · intro mine id row old held there
    obtain ⟨before,different⟩ := Table.others_some.mp held
    have kept := (Table.kept_commit (t := w.dids) different).held id row before
    exact sound.same mine id row old before (kept ▸ there)
  · intro mine payload call plain id row promotes
    exact sound.plain mine payload call plain id row ⟨(Table.others_some.mp promotes.1).1,promotes.2⟩
  · intro mine payload call agent held
    obtain ⟨before,different⟩ := Table.others_some.mp held
    rw [orgDid_others different before]
    rcases sound.column mine payload call agent before with same | ⟨id,row,promotes,truthy,did⟩
    · exact .inl same
    · exact .inr ⟨id,row,⟨Table.others_some.mpr ⟨promotes.1,different⟩,promotes.2⟩,truthy,did⟩

variable {row : OrgDid} {id : Nat}
theorem coherent_promoted (sound : Sound w) (promotes : Promotes w process id row)
    (set_ : (w.agents.seen process 0).bind OrgAgent.orgDid = some row.did) : Coherent (w.conclude process) := by
  have unique : (w.dids.commit process).Unique _ := Table.unique_commit sound.unique
  have there : Primary (w.conclude process) id row := ⟨Table.seen_of_pending promotes.1,promotes.2⟩
  have only : ∀ i r, Primary (w.conclude process) i r → r = row := by
    intro i r primary
    obtain rfl := unique.one i id r row primary.1 primary.2 there.1 there.2
    exact Option.some.inj (primary.1.symm.trans there.1)
  refine ⟨fun i j r s first second => unique.one i j r s first.1 first.2 second.1 second.2,?_,?_⟩
  · intro i r primary
    rw [orgDid_conclude,set_,only i r primary]
  · intro did same
    rw [orgDid_conclude,set_] at same
    exact ⟨id,row,there,Option.some.inj same⟩

theorem coherent_plain (sound : Sound w) (modest : ∀ id row, ¬Promotes w process id row)
    (alone : ∀ id row old, w.dids.pending id = some (process,row) → ¬Primary w id old)
    (left : (w.agents.seen process 0).bind OrgAgent.orgDid = w.orgDid) : Coherent (w.conclude process) := by
  have rows : ∀ id row, Primary (w.conclude process) id row ↔ Primary w id row := by
    intro id row
    constructor
    · intro primary
      rcases Table.commit_cases primary.1 with held | ⟨there,-⟩
      · exact absurd ⟨held,primary.2⟩ (modest id row)
      · exact ⟨there,primary.2⟩
    · intro primary
      exact ⟨(Table.seen_of_free fun v held => alone id v row held primary).trans primary.1,primary.2⟩
  refine ⟨?_,?_,?_⟩
  · intro i j r s first second
    exact sound.coherent.one i j r s ((rows i r).mp first) ((rows j s).mp second)
  · intro id row primary
    rw [orgDid_conclude,left]
    exact sound.agree id row ((rows id row).mp primary)
  · intro did same
    rw [orgDid_conclude,left] at same
    obtain ⟨id,row,primary,same'⟩ := sound.held did same
    exact ⟨id,row,(rows id row).mpr primary,same'⟩

/-- The transaction has not written the agent's row. -/
def NoColumn (process : Nat) (w : World) : Prop := ∀ agent, w.agents.pending 0 ≠ some (process,agent)

theorem sound_writeDid (sound : Sound w) (opened : w.txn process = true)
    (free : w.dids.locked process id = false) (unique : (w.dids.write process id row).Unique OrgDid.isPrimaryDid)
    (same : ∀ old, w.dids.seen process id = some old → row.did = old.did) (none_ : NoColumn process w)
    (plain : ∀ payload, w.calls process = some (.createDid payload) → payload.isPrimaryDid = false →
      row.isPrimaryDid = false) : Sound (w.writeDid process id row) := by
  refine ⟨sound.agree,sound.held,unique,?_,?_,?_,?_⟩
  · intro mine i version old held there
    rcases Table.write_pending held with ⟨rfl,rfl,rfl⟩ | ⟨-,before⟩
    · by_cases own : ∃ v, w.dids.pending i = some (mine,v)
      · obtain ⟨v,held'⟩ := own
        exact (same v (Table.seen_of_pending held')).trans (sound.same mine i v old held' there)
      · exact same old ((Table.seen_of_free fun v held' => own ⟨v,held'⟩).trans there)
    · exact sound.same mine i version old before there
  · intro mine ended
    refine ⟨fun i version held => ?_,(sound.closed mine ended).2⟩
    rcases Table.write_pending held with ⟨-,rfl,-⟩ | ⟨-,before⟩
    · exact absurd (opened.symm.trans ended) (by decide)
    · exact (sound.closed mine ended).1 i version before
  · rintro mine payload call unwanted i version ⟨held,primary⟩
    rcases Table.write_pending held with ⟨rfl,rfl,rfl⟩ | ⟨-,before⟩
    · rw [plain payload call unwanted] at primary
      cases primary
    · exact sound.plain mine payload call unwanted i version ⟨before,primary⟩
  · intro mine payload call agent held
    rcases sound.column mine payload call agent held with left | ⟨i,version,promotes,truthy,did⟩
    · exact .inl left
    · have different : mine ≠ process := by
        rintro rfl
        exact none_ agent held
      exact .inr ⟨i,version,⟨((Table.kept_write different free).own i version).mpr promotes.1,promotes.2⟩,truthy,did⟩

theorem sound_writeAgent (sound : Sound w) {agent : OrgAgent} (opened : w.txn process = true)
    (column : ∀ payload, w.calls process = some (.createDid payload) → agent.orgDid = w.orgDid ∨
      ∃ id row, Promotes w process id row ∧ row.didDocument.truthy = true ∧ agent.orgDid = some row.did) :
    Sound (w.writeAgent process agent) := by
  refine ⟨sound.agree,sound.held,sound.unique,sound.same,?_,sound.plain,?_⟩
  · intro mine ended
    refine ⟨(sound.closed mine ended).1,fun i version held => ?_⟩
    rcases Table.write_pending held with ⟨-,rfl,-⟩ | ⟨-,before⟩
    · exact absurd (opened.symm.trans ended) (by decide)
    · exact (sound.closed mine ended).2 i version before
  · intro mine payload call version held
    rcases Table.write_pending held with ⟨-,rfl,rfl⟩ | ⟨apart,-⟩
    · exact column payload call
    · exact absurd rfl apart

/-- The flag that a command gives to the row it writes. -/
def Cmd.flag : Cmd → Option Bool
  | .demote _ => some false
  | .updateOrgDid _ isPrimaryDid _ => some isPrimaryDid
  | .createOrgDid _ _ isPrimaryDid => some isPrimaryDid
  | _ => none

/-- The worlds that a command may leave. -/
inductive Outcome (process : Nat) (c : Cmd) (choice : Choice) (w : World) : World → Prop where
  | same : Outcome process c choice w w
  | opened (is_ : c = .begin) : Outcome process c choice w { w with txn := Function.update w.txn process true }
  | stored {id : Nat} {row : OrgDid} (is_ : c.flag = some row.isPrimaryDid) (opened : w.txn process = true)
      (free : w.dids.locked process id = false)
      (fits : row.isPrimaryDid = true → w.dids.undecided OrgDid.isPrimaryDid process id = false ∧
        w.dids.violated OrgDid.isPrimaryDid process id = false)
      (same : ∀ old, w.dids.seen process id = some old → row.did = old.did) :
      Outcome process c choice w (w.writeDid process id row)
  | column {data : OrgAgentData} {agent : OrgAgent} (is_ : c = .updateOrgAgent data) (opened : w.txn process = true)
      (free : w.agents.locked process 0 = false) (found : w.agents.seen process 0 = some agent) :
      Outcome process c choice w (w.writeAgent process (data.apply agent))
  | abandoned : Outcome process c choice w (w.abandon process)
  | concluded (is_ : c = .commit) (went : choice.fails = false) (opened : w.txn process = true) :
      Outcome process c choice w (w.conclude process)

theorem inTransaction_cases {β : Type} {statement : Option (World × Except Failure β)} {answer : Except Failure β}
    (handled : inTransaction process choice w statement = some (after,answer)) :
    (after = w ∧ answer = .error .other) ∨ w.txn process = true ∧ statement = some (after,answer) := by
  unfold inTransaction at handled
  by_cases runs : choice.fails = false ∧ w.txn process = true
  · rw [if_pos runs] at handled
    exact .inr ⟨runs.2,handled⟩
  · rw [if_neg runs,Option.some.injEq,Prod.mk.injEq] at handled
    exact .inl ⟨handled.1.symm,handled.2.symm⟩

variable {answer : Except Failure OrgDid}
theorem putDid_cases (handled : putDid process w id row = some (after,answer)) :
    (after = w ∧ answer = .error .other) ∨ (after = w.writeDid process id row ∧ answer = .ok row ∧
      (row.isPrimaryDid = true → w.dids.undecided OrgDid.isPrimaryDid process id = false ∧
        w.dids.violated OrgDid.isPrimaryDid process id = false)) := by
  unfold putDid at handled
  by_cases plain : row.isPrimaryDid = false
  · rw [if_pos plain,Option.some.injEq,Prod.mk.injEq] at handled
    refine .inr ⟨handled.1.symm,handled.2.symm,fun primary => ?_⟩
    rw [plain] at primary
    cases primary
  rw [if_neg plain] at handled
  by_cases waits : w.dids.undecided OrgDid.isPrimaryDid process id = true
  · rw [if_pos waits] at handled
    cases handled
  rw [if_neg waits] at handled
  by_cases violated : w.dids.violated OrgDid.isPrimaryDid process id = true
  · rw [if_pos violated,Option.some.injEq,Prod.mk.injEq] at handled
    exact .inl ⟨handled.1.symm,handled.2.symm⟩
  · rw [if_neg violated,Option.some.injEq,Prod.mk.injEq] at handled
    exact .inr ⟨handled.1.symm,handled.2.symm,fun _ => ⟨by simpa using waits,by simpa using violated⟩⟩

variable {flag : Bool} {didDocument : Option Document}
theorem updateRow_cases (handled : updateRow process w id flag didDocument = some (after,answer)) :
    (after = w ∧ answer = .error .other) ∨ ∃ row old, after = w.writeDid process id row ∧ answer = .ok row ∧
      row.isPrimaryDid = flag ∧ w.dids.seen process id = some old ∧ row.did = old.did ∧
      w.dids.locked process id = false ∧ (flag = true → w.dids.undecided OrgDid.isPrimaryDid process id = false ∧
        w.dids.violated OrgDid.isPrimaryDid process id = false) := by
  unfold updateRow at handled
  by_cases locked : w.dids.locked process id = true
  · rw [if_pos locked] at handled
    cases handled
  rw [if_neg locked] at handled
  cases seen : w.dids.seen process id with
  | none =>
    simp only [seen,Option.some.injEq,Prod.mk.injEq] at handled
    exact .inl ⟨handled.1.symm,handled.2.symm⟩
  | some old =>
    simp only [seen] at handled
    rcases putDid_cases handled with ⟨same,refused⟩ | ⟨wrote,stored,fits⟩
    · exact .inl ⟨same,refused⟩
    · exact .inr ⟨_,old,wrote,stored,rfl,rfl,rfl,by simpa using locked,fits⟩

variable {did : String}
theorem insertRow_cases (handled : insertRow process choice w did didDocument flag = some (after,answer)) :
    (after = w ∧ answer = .error .other) ∨ ∃ row, after = w.writeDid process choice.drawn row ∧ answer = .ok row ∧
      row.isPrimaryDid = flag ∧ row.did = did ∧ choice.drawn ∉ w.dids.keys ∧
      (flag = true → w.dids.undecided OrgDid.isPrimaryDid process choice.drawn = false ∧
        w.dids.violated OrgDid.isPrimaryDid process choice.drawn = false) := by
  unfold insertRow at handled
  by_cases used : choice.drawn ∈ w.dids.keys
  · rw [if_pos used] at handled
    cases handled
  rw [if_neg used] at handled
  cases didDocument with
  | none =>
    simp only [Option.some.injEq,Prod.mk.injEq] at handled
    exact .inl ⟨handled.1.symm,handled.2.symm⟩
  | some document =>
    rcases putDid_cases handled with ⟨same,refused⟩ | ⟨wrote,stored,fits⟩
    · exact .inl ⟨same,refused⟩
    · exact .inr ⟨_,wrote,stored,rfl,rfl,used,fits⟩

variable {data : OrgAgentData}
theorem updateAgentRow_cases {answer : Except Failure Unit}
    (handled : updateAgentRow process w data = some (after,answer)) :
    (after = w ∧ answer = .error .other) ∨ ∃ agent, after = w.writeAgent process (data.apply agent) ∧
      w.agents.seen process 0 = some agent ∧ w.agents.locked process 0 = false := by
  unfold updateAgentRow at handled
  by_cases locked : w.agents.locked process 0 = true
  · rw [if_pos locked] at handled
    cases handled
  rw [if_neg locked] at handled
  cases seen : w.agents.seen process 0 with
  | none =>
    simp only [seen,Option.some.injEq,Prod.mk.injEq] at handled
    exact .inl ⟨handled.1.symm,handled.2.symm⟩
  | some agent =>
    simp only [seen,Option.some.injEq,Prod.mk.injEq] at handled
    exact .inr ⟨agent,handled.1.symm,rfl,by simpa using locked⟩

variable {c : Cmd}
theorem handle_outcome {answer : Except Failure (Ret c)} (handled : handle process c choice w = some (after,answer)) :
    Outcome process c choice w after := by
  cases c with
  | elsewhere what => cases handled; exact .same
  | getLedgerByNameSpace => cases handled; exact .same
  | getLedger => cases handled; exact .same
  | getDidDetails => cases handled; exact .same
  | getOrgAgent => cases handled; exact .same
  | getOrgDids =>
    obtain ⟨rows,-,made⟩ := Option.bind_eq_some_iff.mp handled
    exact (lookedUp_cases made).1 ▸ .same
  | getDidDetailsByDid did =>
    obtain ⟨rows,-,made⟩ := Option.bind_eq_some_iff.mp handled
    exact (lookedUp_cases made).1 ▸ .same
  | getPerviousPrimaryDid excludeId =>
    obtain ⟨rows,-,made⟩ := Option.bind_eq_some_iff.mp handled
    exact (lookedUp_cases made).1 ▸ .same
  | begin =>
    have made := Option.some.inj handled
    by_cases fails : choice.fails = true
    · rw [if_pos fails] at made
      cases made
      exact .same
    · rw [if_neg fails] at made
      cases made
      exact .opened rfl
  | selectOthers did =>
    rcases inTransaction_cases handled with ⟨rfl,-⟩ | ⟨-,made⟩
    · exact .same
    · obtain ⟨rows,-,same⟩ := Option.map_eq_some_iff.mp made
      cases same
      exact .same
  | demote id =>
    rcases inTransaction_cases handled with ⟨rfl,-⟩ | ⟨opened,made⟩
    · exact .same
    unfold demoteRow at made
    by_cases locked : w.dids.locked process id = true
    · rw [if_pos locked] at made
      cases made
    rw [if_neg locked] at made
    cases seen : w.dids.seen process id with
    | none => simp only [seen] at made; cases made; exact .same
    | some old =>
      simp only [seen] at made
      cases made
      refine .stored rfl opened (by simpa using locked) (fun primary => by cases primary) fun other found => ?_
      cases seen.symm.trans found
      rfl
  | updateOrgDid id flag didDocument =>
    rcases inTransaction_cases handled with ⟨rfl,-⟩ | ⟨opened,made⟩
    · exact .same
    rcases updateRow_cases made with ⟨rfl,-⟩ | ⟨row,old,rfl,-,rfl,seen,same,free,fits⟩
    · exact .same
    · refine .stored rfl opened free fits fun other found => ?_
      cases seen.symm.trans found
      exact same
  | createOrgDid did didDocument flag =>
    rcases inTransaction_cases handled with ⟨rfl,-⟩ | ⟨opened,made⟩
    · exact .same
    rcases insertRow_cases made with ⟨rfl,-⟩ | ⟨row,rfl,-,rfl,-,fresh,fits⟩
    · exact .same
    · refine .stored rfl opened (Table.undrawn fresh).2 fits fun other found => ?_
      cases (Table.undrawn fresh).1.symm.trans found
  | updateOrgAgent data =>
    rcases inTransaction_cases handled with ⟨rfl,-⟩ | ⟨opened,made⟩
    · exact .same
    rcases updateAgentRow_cases made with ⟨rfl,-⟩ | ⟨agent,rfl,seen,free⟩
    · exact .same
    · exact .column rfl opened free seen
  | commit =>
    have made : commitOf process choice w = some (after,answer) := handled
    unfold commitOf at made
    by_cases closed : w.txn process = false
    · rw [if_pos closed] at made
      cases made
      exact .same
    rw [if_neg closed] at made
    by_cases fails : choice.fails = true
    · rw [if_pos fails] at made
      cases made
      exact .abandoned
    · rw [if_neg fails] at made
      cases made
      exact .concluded rfl (by simpa using fails) (by simpa using closed)
  | rollback => cases handled; exact .abandoned

/-- What the process writes before its commit: a creation that is not to be primary makes
    no row primary, and the others make one primary whose DID the column gets, but for a
    creation without a document. -/
def Settled (process : Nat) (w : World) : Prop :=
  (∃ payload, w.calls process = some (.createDid payload) ∧ payload.isPrimaryDid = false) ∨
    ∃ id row, Promotes w process id row ∧
      ((∃ agent, w.agents.pending 0 = some (process,agent) ∧ agent.orgDid = some row.did) ∨
        row.didDocument.truthy = false ∧
          ∃ payload, w.calls process = some (.createDid payload) ∧ payload.isPrimaryDid = true)
/-- What a command asks of its own transaction. -/
def Side (process : Nat) (c : Cmd) (w : World) : Prop :=
  (∀ flag, c.flag = some flag → NoColumn process w ∧
    ∀ payload, w.calls process = some (.createDid payload) → payload.isPrimaryDid = false → flag = false) ∧
  (∀ data, c = .updateOrgAgent data → w.txn process = true → NoColumn process w ∧
    ∀ payload, w.calls process = some (.createDid payload) → ∀ column, data.orgDid = some column →
      ∃ id row, Promotes w process id row ∧ row.didDocument.truthy = true ∧ row.did = column.1) ∧
  (c = .commit → w.txn process = true → Settled process w)

variable {payload : DidCreate}
theorem seen_column (sound : Sound w) (call : w.calls process = some (.createDid payload))
    (bare : ∀ id row, Promotes w process id row → row.didDocument.truthy = false) :
    (w.agents.seen process 0).bind OrgAgent.orgDid = w.orgDid := by
  by_cases own : ∃ agent, w.agents.pending 0 = some (process,agent)
  · obtain ⟨agent,held⟩ := own
    rw [Table.seen_of_pending held]
    rcases sound.column process payload call agent held with same | ⟨id,row,promotes,truthy,-⟩
    · exact same
    · rw [bare id row promotes] at truthy
      cases truthy
  · rw [Table.seen_of_free fun agent held => own ⟨agent,held⟩]
    rfl

theorem coherent_concluded (sound : Sound w) (allowed : proper process .commit choice w) (went : choice.fails = false)
    (settled : Settled process w) : Coherent (w.conclude process) := by
  rcases settled with ⟨payload,call,unwanted⟩ | ⟨id,row,promotes,⟨agent,held,set_⟩ | ⟨bare,payload,call,wanted⟩⟩
  · have modest := sound.plain process payload call unwanted
    have alone := allowed rfl went payload call
    rw [if_neg (by simp [unwanted])] at alone
    exact coherent_plain sound modest alone
        (seen_column sound call fun id row promotes => absurd promotes (modest id row))
  · refine coherent_promoted sound promotes ?_
    rw [Table.seen_of_pending held]
    exact set_
  · refine coherent_promoted sound promotes ?_
    have there := allowed rfl went payload call
    rw [if_pos wanted] at there
    refine (seen_column sound call fun i r other => ?_).trans (there id row promotes bare)
    obtain ⟨rfl,-,rfl⟩ := sound.single promotes other
    exact bare

theorem outcome_sound (sound : Sound w) (allowed : proper process c choice w) (side : Side process c w)
    (outcome : Outcome process c choice w after) : Sound after := by
  cases outcome with
  | same => exact sound
  | opened is_ =>
    refine ⟨sound.agree,sound.held,sound.unique,sound.same,?_,sound.plain,sound.column⟩
    intro mine ended
    by_cases same : mine = process
    · subst same
      simp at ended
    · simp only [Function.update_of_ne same] at ended
      exact sound.closed mine ended
  | @stored id row is_ opened free fits same =>
    obtain ⟨none_,plain⟩ := side.1 _ is_
    refine sound_writeDid sound opened free ?_ same none_ plain
    by_cases primary : row.isPrimaryDid = true
    · exact Table.unique_write sound.unique free (fits primary).1 (fits primary).2
    · exact Table.unique_plain sound.unique free (by simpa using primary)
  | @column data agent is_ opened free found =>
    obtain ⟨none_,set_⟩ := side.2.1 data is_ opened
    refine sound_writeAgent sound opened fun payload call => ?_
    cases wrote : data.orgDid with
    | none =>
      rw [Table.seen_of_free none_] at found
      refine .inl ?_
      simp only [OrgAgentData.apply,wrote,Option.map_none,Option.none_or,World.orgDid,found,Option.bind_some]
    | some column =>
      obtain ⟨id,row,promotes,truthy,did⟩ := set_ payload call column wrote
      refine .inr ⟨id,row,promotes,truthy,?_⟩
      simp only [OrgAgentData.apply,wrote,Option.map_some,Option.some_or,did]
  | abandoned => exact sound_abandon sound
  | concluded is_ went opened =>
    subst is_
    exact sound_conclude sound (coherent_concluded sound allowed went (side.2.2 rfl opened))

theorem outcome_dids (sound : Sound w) (outcome : Outcome process c choice w after)
    (there : w.dids.committed id = some row) : ∃ row', after.dids.committed id = some row' ∧ row'.did = row.did := by
  cases outcome with
  | concluded is_ went opened =>
    by_cases own : ∃ v, w.dids.pending id = some (process,v)
    · obtain ⟨v,held⟩ := own
      exact ⟨v,Table.seen_of_pending held,sound.same process id v row held there⟩
    · exact ⟨row,(Table.seen_of_free fun v held => own ⟨v,held⟩).trans there,rfl⟩
  | _ => exact ⟨row,there,rfl⟩
theorem outcome_calls (outcome : Outcome process c choice w after) : after.calls = w.calls := by
  cases outcome <;> rfl

theorem outcome_undisturbed (sound : Sound w) (outcome : Outcome process c choice w after)
    (different : other ≠ process) : Undisturbed other w after := by
  refine ⟨congrFun (outcome_calls outcome) other,?_,fun id row => outcome_dids sound outcome,?_⟩
  · cases outcome with
    | concluded => simp [World.conclude,different]
    | _ => exact Iff.rfl
  · cases outcome with
    | same => exact .inr ⟨rfl,Table.kept_refl,Table.kept_refl⟩
    | opened => exact .inr ⟨Function.update_of_ne different _ _,Table.kept_refl,Table.kept_refl⟩
    | stored _ _ free => exact .inr ⟨rfl,Table.kept_write different free,Table.kept_refl⟩
    | column _ _ free => exact .inr ⟨rfl,Table.kept_refl,Table.kept_write different free⟩
    | abandoned =>
      exact .inr ⟨Function.update_of_ne different _ _,Table.kept_rollback different,Table.kept_rollback different⟩
    | concluded =>
      exact .inr ⟨Function.update_of_ne different _ _,Table.kept_commit different,Table.kept_commit different⟩

/-- Where a process stands: it was not committed, the rows it read keep their DIDs, and
    something holds of its transaction as long as it is open. -/
structure Stage (process : Nat) (input : Input) (read : List (Nat × String)) (holds : World → Prop) (w : World) :
    Prop where
  calls : w.calls process = some input
  changed : process ∉ w.changed
  read : ∀ x ∈ read, ∃ row, w.dids.committed x.1 = some row ∧ row.did = x.2
  open_ : w.txn process = true → holds w
/-- The condition is about the transaction of the process. -/
def Own (process : Nat) (holds : World → Prop) : Prop :=
  ∀ a b, holds a → Table.Kept process a.dids b.dids → Table.Kept process a.agents b.agents →
    b.calls process = a.calls process → holds b

variable {input : Input} {read : List (Nat × String)} {holds : World → Prop}
theorem stage_stable (own : Own process holds) (stage : Stage process input read holds a)
    (relied : Undisturbed process a b) :
    Stage process input read holds b := by
  refine ⟨relied.calls.trans stage.calls,fun now => stage.changed (relied.changed.mp now),?_,?_⟩
  · intro x member
    obtain ⟨row,there,same⟩ := stage.read x member
    obtain ⟨row',there',same'⟩ := relied.dids x.1 row there
    exact ⟨row',there',same'.trans same⟩
  · intro opened
    rcases relied.txn with gone | ⟨same,dids,agents⟩
    · exact absurd (opened.symm.trans gone) (by decide)
    · exact own a b (stage.open_ (same ▸ opened)) dids agents relied.calls

theorem wp_command {D : Ret c → World → Prop} (own : Own process holds)
    (side : ∀ w, Sound w → Stage process input read holds w → Side process c w)
    (ends : ∀ w choice after answer, Sound w → Stage process input read holds w → Sound after →
      handle process c choice w = some (after,answer) → upon D (fun w => process ∉ w.changed) answer after)
    (now : Stage process input read holds w) :
    wp sys contract process (perform c) (upon D fun w => process ∉ w.changed) w := by
  apply wp_call
  intro before relied sound choice after answer allowed handled
  have stage := stage_stable own now relied
  have outcome := handle_outcome handled
  have kept := outcome_sound sound allowed (side before sound stage) outcome
  exact ⟨kept,fun _ different => outcome_undisturbed sound outcome different,
    ends before choice after answer sound stage kept handled⟩

/-- The process has made no row primary and has not written the row of `org_agents`. -/
def Begun (process : Nat) (w : World) : Prop := NoColumn process w ∧ ∀ id row, ¬Promotes w process id row
def Stored (process : Nat) (row : OrgDid) (w : World) : Prop :=
  NoColumn process w ∧ (row.isPrimaryDid = true → ∃ id, Promotes w process id row)
theorem own_noColumn : Own process (NoColumn process) := fun _ _ none_ _ agents _ agent held =>
  none_ agent ((agents.own 0 agent).mp held)
theorem own_begun : Own process (Begun process) := by
  intro a b begun dids agents calls
  refine ⟨own_noColumn a b begun.1 dids agents calls,fun id row promotes => ?_⟩
  exact begun.2 id row ⟨(dids.own id row).mp promotes.1,promotes.2⟩
theorem own_stored : Own process (Stored process row) := by
  intro a b stored dids agents calls
  refine ⟨own_noColumn a b stored.1 dids agents calls,fun primary => ?_⟩
  obtain ⟨id,promotes⟩ := stored.2 primary
  exact ⟨id,(dids.own id row).mpr promotes.1,promotes.2⟩
theorem own_settled : Own process (Settled process) := by
  rintro a b (⟨payload,call,unwanted⟩ | ⟨id,row,promotes,column⟩) dids agents calls
  · exact .inl ⟨payload,calls.trans call,unwanted⟩
  · refine .inr ⟨id,row,⟨(dids.own id row).mpr promotes.1,promotes.2⟩,?_⟩
    rcases column with ⟨agent,held,set_⟩ | ⟨bare,payload,call,wanted⟩
    · exact .inl ⟨agent,(agents.own 0 agent).mpr held,set_⟩
    · exact .inr ⟨bare,payload,calls.trans call,wanted⟩

/-- The commands that make no row primary and leave the row of `org_agents`. -/
def Reading : Cmd → Prop
  | .updateOrgDid _ isPrimaryDid _ => isPrimaryDid = false
  | .createOrgDid _ _ _ => False
  | .updateOrgAgent _ => False
  | .commit => False
  | _ => True

theorem reading_flag (reading : Reading c) (sets : c.flag = some flag) : flag = false := by
  cases c with
  | demote id => cases sets; rfl
  | updateOrgDid id isPrimaryDid didDocument => cases sets; exact reading
  | createOrgDid did didDocument isPrimaryDid => exact reading.elim
  | _ => cases sets
theorem reading_side (reading : Reading c) (none_ : NoColumn process w) : Side process c w := by
  refine ⟨fun flag sets => ⟨none_,fun _ _ _ => reading_flag reading sets⟩,?_,?_⟩
  · rintro data rfl
    exact reading.elim
  · rintro rfl
    exact reading.elim
theorem outcome_changed (outcome : Outcome process c choice w after) (open_ : c ≠ .commit) :
    after.changed = w.changed := by
  cases outcome with
  | concluded is_ => exact absurd is_ open_
  | _ => rfl

theorem outcome_begun (outcome : Outcome process c choice w after) (reading : Reading c)
    (begun : Begun process w) : Begun process after := by
  cases outcome with
  | same => exact begun
  | opened => exact begun
  | stored is_ =>
    refine ⟨begun.1,?_⟩
    rintro id row ⟨held,primary⟩
    rcases Table.write_pending held with ⟨-,-,rfl⟩ | ⟨-,before⟩
    · rw [reading_flag reading is_] at primary
      cases primary
    · exact begun.2 id row ⟨before,primary⟩
  | column is_ =>
    subst is_
    exact reading.elim
  | abandoned =>
    refine ⟨fun agent held => begun.1 agent (Table.others_some.mp held).1,fun id row promotes => ?_⟩
    exact begun.2 id row ⟨(Table.others_some.mp promotes.1).1,promotes.2⟩
  | concluded is_ =>
    subst is_
    exact reading.elim

/-- A command that commits nothing keeps the stage of its call. -/
theorem stage_step {later : World → Prop} (sound : Sound w) (outcome : Outcome process c choice w after)
    (open_ : c ≠ .commit) (stage : Stage process input read holds w) (ends : after.txn process = true → later after) :
    Stage process input read later after := by
  refine ⟨(congrFun (outcome_calls outcome) process).trans stage.calls,?_,?_,ends⟩
  · rw [outcome_changed outcome open_]
    exact stage.changed
  · intro x member
    obtain ⟨row,there,same⟩ := stage.read x member
    obtain ⟨row',there',same'⟩ := outcome_dids sound outcome there
    exact ⟨row',there',same'.trans same⟩
theorem stage_begun (sound : Sound w) (stage : Stage process input read (Begun process) w) : Begun process w := by
  by_cases opened : w.txn process = true
  · exact stage.open_ opened
  · obtain ⟨dids,agents⟩ := sound.closed process (by simpa using opened)
    exact ⟨agents 0,fun id row promotes => dids id row promotes.1⟩

theorem wp_reading {β : Type} {p : Async β} (only : Only Reading p)
    (stage : Stage process input read (Begun process) w) :
    wp sys contract process p
    (upon (fun _ w => Stage process input read (Begun process) w) fun w => process ∉ w.changed) w := by
  have all : wp sys contract process p (fun _ w => Stage process input read (Begun process) w) w := by
    refine wp_each (fun _ _ stage relied _ => stage_stable own_begun stage relied) ?_ only stage
    intro c reading before choice after answer sound stage allowed handled
    have outcome := handle_outcome handled
    have open_ : c ≠ .commit := by
      rintro rfl
      exact reading
    have begun := stage_begun sound stage
    refine ⟨outcome_sound sound allowed (reading_side reading begun.1) outcome,fun _ different =>
      outcome_undisturbed sound outcome different,stage_step sound outcome open_ stage fun _ => ?_⟩
    exact outcome_begun outcome reading begun
  refine wp_mono ?_ all
  rintro (error | value) w' ended
  · exact ended.changed
  · exact ended

/-- The call is a creation that is not to be primary only where the flag is not set. -/
def Fitting (input : Input) (flag : Bool) : Prop :=
  ∀ payload, input = .createDid payload → payload.isPrimaryDid = false → flag = false

theorem store_side (sound : Sound w) (stage : Stage process input read (Begun process) w)
    (sets : c.flag = some flag) (fitting : Fitting input flag) : Side process c w := by
  refine ⟨fun other sets' => ⟨(stage_begun sound stage).1,?_⟩,?_,?_⟩
  · intro payload call unwanted
    cases sets.symm.trans sets'
    exact fitting payload (Option.some.inj (stage.calls.symm.trans call)) unwanted
  · rintro data rfl
    cases sets
  · rintro rfl
    cases sets

/-- The process has written a row with the flag, and its DID if it was read before. -/
def Wrote (process : Nat) (input : Input) (read : List (Nat × String)) (flag : Bool) (known : String → Prop)
    (row : OrgDid) (w : World) : Prop :=
  Stage process input read (Stored process row) w ∧ row.isPrimaryDid = flag ∧ ∀ did, known did → row.did = did
theorem stored_write (sound : Sound w) (stage : Stage process input read (Begun process) w)
    (outcome : Outcome process c choice w (w.writeDid process id row)) (open_ : c ≠ .commit) :
    Stage process input read (Stored process row) (w.writeDid process id row) := by
  refine stage_step sound outcome open_ stage fun _ => ⟨(stage_begun sound stage).1,fun primary => ⟨id,?_,primary⟩⟩
  simp only [World.writeDid,Table.write,Function.update_self]

theorem wp_updateOrgDid (fitting : Fitting input flag) (now : Stage process input read (Begun process) w) :
    wp sys contract process (perform (.updateOrgDid id flag didDocument))
      (upon (Wrote process input read flag fun did => (id,did) ∈ read) fun w => process ∉ w.changed) w := by
  refine wp_command own_begun (fun w sound stage => store_side sound stage rfl fitting) ?_ now
  intro w choice after answer sound stage _ handled
  have outcome := handle_outcome handled
  rcases inTransaction_cases handled with ⟨rfl,rfl⟩ | ⟨-,made⟩
  · exact stage.changed
  rcases updateRow_cases made with ⟨rfl,rfl⟩ | ⟨row,old,rfl,rfl,set_,seen,same,-,-⟩
  · exact stage.changed
  refine ⟨stored_write sound stage outcome (by rintro ⟨⟩),set_,fun did member => ?_⟩
  obtain ⟨there,committed,known⟩ := stage.read _ member
  rw [same]
  refine Eq.trans ?_ known
  by_cases own : ∃ v, w.dids.pending id = some (process,v)
  · obtain ⟨v,held⟩ := own
    rw [Table.seen_of_pending held,Option.some.injEq] at seen
    exact seen ▸ sound.same process id v there held committed
  · rw [Table.seen_of_free fun v held => own ⟨v,held⟩] at seen
    exact congrArg OrgDid.did (Option.some.inj (seen.symm.trans committed))

theorem wp_createOrgDid (fitting : Fitting input flag) (now : Stage process input read (Begun process) w) :
    wp sys contract process (perform (.createOrgDid did didDocument flag))
      (upon (Wrote process input read flag fun other => other = did) fun w => process ∉ w.changed) w := by
  refine wp_command own_begun (fun w sound stage => store_side sound stage rfl fitting) ?_ now
  intro w choice after answer sound stage _ handled
  have outcome := handle_outcome handled
  rcases inTransaction_cases handled with ⟨rfl,rfl⟩ | ⟨-,made⟩
  · exact stage.changed
  rcases insertRow_cases made with ⟨rfl,rfl⟩ | ⟨row,rfl,rfl,set_,same,-,-⟩
  · exact stage.changed
  refine ⟨stored_write sound stage outcome (by rintro ⟨⟩),set_,fun other known => ?_⟩
  rw [known,same]

theorem wp_storeDid {existingDid : Option Nat}
    (fitting : Fitting input flag) (known : ∀ id, existingDid = some id → (id,did) ∈ read)
    (now : Stage process input read (Begun process) w) :
    wp sys contract process (storeDid did didDocument flag existingDid)
      (upon (Wrote process input read flag fun other => other = did) fun w => process ∉ w.changed) w := by
  cases existingDid with
  | none => exact wp_createOrgDid fitting now
  | some id =>
    refine wp_mono ?_ (wp_updateOrgDid fitting now)
    rintro (error | row) w' ended
    · exact ended
    · refine ⟨ended.1,ended.2.1,fun other same => ?_⟩
      exact ended.2.2 other (same ▸ known id rfl)

theorem wp_setColumn {column : String × Document} (sets : data.orgDid = some column)
    (same : row.did = column.1) (primary : row.isPrimaryDid = true)
    (truthy : ∀ payload, input = .createDid payload → row.didDocument.truthy = true)
    (now : Stage process input read (Stored process row) w) :
    wp sys contract process (perform (.updateOrgAgent data))
      (upon (fun _ w => Stage process input read (Settled process) w) fun w => process ∉ w.changed) w := by
  refine wp_command (c := .updateOrgAgent data) own_stored ?_ ?_ now
  · intro w sound stage
    refine ⟨fun flag sets' => (by cases sets'),?_,fun is_ => (by cases is_)⟩
    rintro other ⟨⟩ opened
    have stored := stage.open_ opened
    refine ⟨stored.1,fun payload call column' sets' => ?_⟩
    obtain ⟨id,promotes⟩ := stored.2 primary
    cases sets.symm.trans sets'
    exact ⟨id,row,promotes,truthy payload (Option.some.inj (stage.calls.symm.trans call)),same⟩
  · intro w choice after answer sound stage _ handled
    have outcome := handle_outcome handled
    rcases inTransaction_cases handled with ⟨rfl,rfl⟩ | ⟨opened,made⟩
    · exact stage.changed
    rcases updateAgentRow_cases made with ⟨rfl,rfl⟩ | ⟨agent,rfl,-,-⟩
    · exact stage.changed
    have settled : Stage process input read (Settled process) (w.writeAgent process (data.apply agent)) := by
      refine stage_step sound outcome (by rintro ⟨⟩) stage fun _ => ?_
      obtain ⟨id,promotes⟩ := (stage.open_ opened).2 primary
      refine .inr ⟨id,row,promotes,.inl ⟨data.apply agent,?_,?_⟩⟩
      · simp only [World.writeAgent,Table.write,Function.update_self]
      · simp only [OrgAgentData.apply,sets,Option.map_some,Option.some_or,same]
    cases answer with
    | ok value => exact settled
    | error error => exact settled.changed

theorem settled_left (same : row.isPrimaryDid = payload.isPrimaryDid)
    (bare : payload.isPrimaryDid = true → row.didDocument.truthy = false)
    (call : w.calls process = some (.createDid payload))
    (stored : row.isPrimaryDid = true → ∃ id, Promotes w process id row) :
    Settled process w := by
  by_cases wanted : payload.isPrimaryDid = true
  · obtain ⟨id,promotes⟩ := stored (same.trans wanted)
    exact .inr ⟨id,row,promotes,.inr ⟨bare wanted,payload,call,wanted⟩⟩
  · exact .inl ⟨payload,call,by simpa using wanted⟩

theorem wp_leaveColumn (sets : data.orgDid = none)
    (is_ : input = .createDid payload) (same : row.isPrimaryDid = payload.isPrimaryDid)
    (bare : payload.isPrimaryDid = true → row.didDocument.truthy = false)
    (now : Stage process input read (Stored process row) w) :
    wp sys contract process (perform (.updateOrgAgent data))
      (upon (fun _ w => Stage process input read (Settled process) w) fun w => process ∉ w.changed) w := by
  subst is_
  refine wp_command (c := .updateOrgAgent data) own_stored ?_ ?_ now
  · intro w sound stage
    refine ⟨fun flag sets' => (by cases sets'),?_,fun is_ => (by cases is_)⟩
    rintro other ⟨⟩ opened
    refine ⟨(stage.open_ opened).1,fun _ _ column' sets' => ?_⟩
    cases sets.symm.trans sets'
  · intro w choice after answer sound stage _ handled
    have outcome := handle_outcome handled
    rcases inTransaction_cases handled with ⟨rfl,rfl⟩ | ⟨opened,made⟩
    · exact stage.changed
    rcases updateAgentRow_cases made with ⟨rfl,rfl⟩ | ⟨agent,rfl,-,-⟩
    · exact stage.changed
    have settled : Stage process (.createDid payload) read (Settled process) (w.writeAgent process (data.apply agent)) :=
      stage_step sound outcome (by rintro ⟨⟩) stage fun _ => settled_left same bare stage.calls (stage.open_ opened).2
    cases answer with
    | ok value => exact settled
    | error error => exact settled.changed

theorem stage_settled (is_ : input = .createDid payload)
    (same : row.isPrimaryDid = payload.isPrimaryDid)
    (bare : payload.isPrimaryDid = true → row.didDocument.truthy = false)
    (now : Stage process input read (Stored process row) w) : Stage process input read (Settled process) w := by
  subst is_
  exact ⟨now.calls,now.changed,now.read,fun opened => settled_left same bare now.calls (now.open_ opened).2⟩

theorem wp_commit (now : Stage process input read (Settled process) w) :
    wp sys contract process (perform .commit) (unchanged process) w := by
  refine wp_command (c := .commit) (D := fun _ _ => True) own_settled ?_ ?_ now
  · intro w sound stage
    exact ⟨fun flag sets => (by cases sets),fun data is_ => (by cases is_),fun _ opened => stage.open_ opened⟩
  · intro w choice after answer sound stage _ handled
    have made : commitOf process choice w = some (after,answer) := handled
    unfold commitOf at made
    by_cases closed : w.txn process = false
    · rw [if_pos closed] at made
      cases made
      exact stage.changed
    rw [if_neg closed] at made
    by_cases fails : choice.fails = true
    · rw [if_pos fails] at made
      cases made
      exact stage.changed
    · rw [if_neg fails] at made
      cases made
      trivial

theorem wp_rollback (now : process ∉ w.changed) :
    wp sys contract process (perform .rollback) (fun _ w => process ∉ w.changed) w := by
  apply wp_call
  intro before relied sound choice after answer allowed handled
  have outcome : Outcome process .rollback choice before after := handle_outcome handled
  have side : Side process .rollback before :=
    ⟨fun flag sets => (by cases sets),fun data is_ => (by cases is_),fun is_ => (by cases is_)⟩
  refine ⟨outcome_sound sound allowed side outcome,fun _ different => outcome_undisturbed sound outcome different,?_⟩
  rw [outcome_changed outcome (by rintro ⟨⟩)]
  exact fun member => now (relied.changed.mp member)

theorem wp_transaction {body : Async Unit} (now : Stage process input read (Begun process) w)
    (inside : ∀ w, Stage process input read (Begun process) w →
      wp sys contract process body
        (upon (fun _ w => Stage process input read (Settled process) w) fun w => process ∉ w.changed) w) :
    wp sys contract process (transaction (perform .begin) (perform .rollback) (perform .commit) body)
        (unchanged process) w := by
  refine wp_seq _ (wp_reading ((only_call _).mpr trivial) now) fun _ w begun => ?_
  refine wp_seq (fun _ w => Stage process input read (Settled process) w) ?_ fun value w settled => ?_
  · refine (wp_tryCatch _ _ _ _).mpr (wp_mono ?_ (inside w begun))
    rintro (error | ⟨⟩) w' ended
    · refine (wp_bind _ _ _ _).mpr (wp_mono ?_ (wp_rollback ended))
      rintro (_ | ⟨⟩) w'' gone <;> exact gone
    · exact ended
  · refine wp_seq (fun _ _ => True) (wp_commit settled) fun _ _ _ => trivial

theorem only_perform {condition : Cmd → Prop} (holds : condition c) : Only condition (perform c) :=
  (only_call c).mpr holds
theorem only_ask {condition : Cmd → Prop} {what : Elsewhere} (holds : condition (.elsewhere what)) :
    Only condition (ask what) :=
  only_perform holds

theorem wp_persistDidWithUpdates
    {existingDid : Option Nat} {ledgerId : Option String} {updateSpinupStatus : Bool} (given : did ≠ "")
    (known : ∀ id, existingDid = some id → (id,did) ∈ read)
    (now : Stage process (.createDid payload) read (Begun process) w) :
    wp sys contract process
      (persistDidWithUpdates did didDocument payload.isPrimaryDid existingDid ledgerId updateSpinupStatus)
      (unchanged process) w := by
  refine wp_transaction now fun w begun => ?_
  have demoting : Only Reading (if payload.isPrimaryDid = true then demoteOthers did else pure ()) := by
    refine only_ite _ (only_bind (only_perform trivial) fun rows => ?_) (only_pure _)
    exact only_forEach (fun row => only_perform trivial) rows
  refine wp_seq _ (wp_reading demoting begun) fun _ w begun => ?_
  have fitting : Fitting (.createDid payload) payload.isPrimaryDid := by
    rintro other ⟨⟩ unwanted
    exact unwanted
  refine wp_seq _ (wp_storeDid fitting known begun) fun storedDid w wrote => ?_
  obtain ⟨stage,flag,same⟩ := wrote
  have named := same did rfl
  -- The column is set where the DID is primary and its document is there.
  by_cases sets : payload.isPrimaryDid = true ∧ storedDid.didDocument.truthy = true
  · have column : (orgAgentData payload.isPrimaryDid storedDid ledgerId updateSpinupStatus).orgDid =
        some (storedDid.did,storedDid.didDocument) := by
      simp [orgAgentData,sets.1,sets.2,named,given]
    have there : (orgAgentData payload.isPrimaryDid storedDid ledgerId updateSpinupStatus).isEmpty = false := by
      simp [OrgAgentData.isEmpty,column]
    refine wp_branches _ (fun empty => ?_) fun _ => wp_setColumn column rfl (flag.trans sets.1) (fun _ _ => sets.2) stage
    rw [there] at empty
    cases empty
  · have column : (orgAgentData payload.isPrimaryDid storedDid ledgerId updateSpinupStatus).orgDid = none := by
      simp only [orgAgentData]
      refine if_neg fun all => sets ?_
      simp only [Bool.and_eq_true] at all
      exact ⟨all.1.1,all.2⟩
    have bare : payload.isPrimaryDid = true → storedDid.didDocument.truthy = false := by
      intro wanted
      by_contra truthy
      exact sets ⟨wanted,by simpa using truthy⟩
    exact wp_branches _ (fun _ => stage_settled rfl flag bare stage) fun _ => wp_leaveColumn column rfl flag bare stage

theorem wp_setOrgsPrimaryDid {didDocument : Document} {networkId : String}
    {previousDidId : Option Nat} {namespaced : Bool} {target : Nat} {wanted : String} (known : (id,did) ∈ read)
    (now : Stage process (.setPrimaryDid wanted target namespaced) read (Begun process) w) :
    wp sys contract process (setOrgsPrimaryDid did didDocument id networkId previousDidId) (unchanged process) w := by
  refine wp_transaction now fun w begun => ?_
  have demoting : Only Reading (forEach (fun previous => do
      let _ : OrgDid ← perform (.updateOrgDid previous false none)) previousDidId.toList) :=
    only_forEach (fun previous => only_bind (only_perform (c := .updateOrgDid previous false none) rfl) fun _ =>
      only_pure _) _
  refine wp_seq _ (wp_reading demoting begun) fun _ w begun => ?_
  have fitting : Fitting (.setPrimaryDid wanted target namespaced) true := by rintro other ⟨⟩
  refine wp_seq _ (wp_updateOrgDid fitting begun) fun row w wrote => ?_
  obtain ⟨stage,flag,same⟩ := wrote
  exact wp_setColumn rfl (same did known) flag (by rintro other ⟨⟩) stage

theorem mem_found {t : Table OrgDid} {rows : List (Nat × OrgDid)} (listed : found t choice t.committed = some rows)
    {x : Nat × OrgDid} (member : x ∈ rows) : t.committed x.1 = some x.2 := by
  unfold found at listed
  split at listed
  · obtain rfl := Option.some.inj listed
    obtain ⟨key,-,at_⟩ := List.mem_filterMap.mp member
    obtain ⟨row,there,rfl⟩ := Option.map_eq_some_iff.mp at_
    exact there
  · cases listed

theorem wp_getOrgDids (now : Stage process input read (Begun process) w) :
    wp sys contract process (perform .getOrgDids)
      (upon (fun rows w => Stage process input (rows.map fun row => (row.1,row.2.did)) (Begun process) w)
        fun w => process ∉ w.changed) w := by
  refine wp_command (c := .getOrgDids) own_begun (fun w sound stage => ?_) ?_ now
  · exact reading_side trivial (stage_begun sound stage).1
  intro w choice after answer sound stage _ handled
  obtain ⟨rows,listed,made⟩ := Option.bind_eq_some_iff.mp handled
  obtain ⟨rfl,rfl | rfl⟩ := lookedUp_cases made
  · exact stage.changed
  · refine ⟨stage.calls,stage.changed,fun x member => ?_,stage.open_⟩
    obtain ⟨row,there,rfl⟩ := List.mem_map.mp member
    exact ⟨row.2,mem_found listed there,rfl⟩

theorem wp_getDidDetailsByDid (now : Stage process input read (Begun process) w) :
    wp sys contract process (perform (.getDidDetailsByDid did))
      (upon (fun (row : Nat × OrgDid) w => Stage process input [(row.1,did)] (Begun process) w)
        fun w => process ∉ w.changed) w := by
  refine wp_command (c := .getDidDetailsByDid did) own_begun (fun w sound stage => ?_) ?_ now
  · exact reading_side trivial (stage_begun sound stage).1
  intro w choice after answer sound stage _ handled
  obtain ⟨rows,listed,made⟩ := Option.bind_eq_some_iff.mp handled
  obtain ⟨rfl,rfl | rfl⟩ := lookedUp_cases made
  · exact stage.changed
  cases first : rows.find? fun row => row.2.did = did with
  | none => exact stage.changed
  | some row =>
    refine ⟨stage.calls,stage.changed,fun x member => ?_,stage.open_⟩
    obtain rfl := List.mem_singleton.mp member
    exact ⟨row.2,mem_found listed (List.mem_of_find?_eq_some first),by simpa using List.find?_some first⟩

theorem reading_noLedger : Only Reading noLedger :=
  only_bind (only_perform (c := .getLedger) trivial) fun _ => only_ite _ (only_throw _) (only_pure _)
theorem reading_networkLedger (payload : DidCreate) : Only Reading (networkLedger payload) := by
  refine only_ite _ (only_bind (only_perform (c := .getLedgerByNameSpace) trivial) fun _ => ?_) (only_pure _)
  exact only_bind (only_ask trivial) fun _ => only_pure _
theorem reading_resolveLedger (payload : DidCreate) (networkLedgerId : Option String) :
    Only Reading (resolveLedger payload networkLedgerId) := by
  refine only_ite _ (only_pure _) (only_ite _ (only_pure _) (only_ite _ ?_ reading_noLedger))
  refine only_tryCatch ?_ fun _ => reading_noLedger
  exact only_bind (only_perform (c := .getLedgerByNameSpace) trivial) fun _ => only_pure _

theorem wp_createDid (now : Stage process (.createDid payload) read (Begun process) w) :
    wp sys contract process (createDid payload) (unchanged process) w := by
  refine wp_seq _ (wp_reading (only_perform (c := .getOrgAgent) trivial) now) fun agentDetails w begun => ?_
  refine wp_seq _ (wp_reading (reading_networkLedger payload) begun) fun networkLedgerId w begun => ?_
  refine wp_seq _ (wp_reading (only_ask trivial) begun) fun _ w begun => ?_
  refine wp_seq _ (wp_reading (only_ite _ (only_ask trivial) (only_pure _)) begun) fun _ w begun => ?_
  refine wp_seq _ (wp_reading (only_perform (c := .getDidDetails) trivial) begun) fun didDetails w begun => ?_
  refine wp_branches _ (fun _ => begun.changed) fun given => ?_
  refine wp_seq _ (wp_getOrgDids begun) fun getDidByOrg w begun => ?_
  refine wp_seq _ (wp_reading (reading_resolveLedger payload networkLedgerId) begun) fun ledgerId w begun => ?_
  refine wp_persistDidWithUpdates given (fun id existing => ?_) begun
  obtain ⟨row,first,rfl⟩ := Option.map_eq_some_iff.mp existing
  have same := List.find?_some first
  simp only [decide_eq_true_eq] at same
  exact List.mem_map.mpr ⟨row,List.mem_of_find?_eq_some first,by rw [same]⟩

theorem wp_setPrimaryDid {namespaced : Bool}
    (now : Stage process (.setPrimaryDid did id namespaced) read (Begun process) w) :
    wp sys contract process (setPrimaryDid did id namespaced) (unchanged process) w := by
  refine wp_seq _ (wp_reading (only_ask trivial) now) fun _ w begun => ?_
  refine wp_seq _ (wp_reading (only_perform (c := .getOrgAgent) trivial) begun) fun orgAgentDetails w begun => ?_
  refine wp_branches _ (fun _ => begun.changed) fun _ => ?_
  refine wp_seq _ (wp_reading (only_perform (c := .getOrgDids) trivial) begun) fun organizationDidList w begun => ?_
  refine wp_branches _ (fun _ => begun.changed) fun _ => ?_
  refine wp_seq _ (wp_getDidDetailsByDid begun) fun didDetails w begun => ?_
  refine wp_branches _ (fun _ => begun.changed) fun same => ?_
  refine wp_seq _ (wp_reading (only_perform (c := .getOrgDids) trivial) begun) fun dids w begun => ?_
  have network : Only Reading (networkOf namespaced) := by
    refine only_ite _ (only_perform (c := .getLedgerByNameSpace) trivial) ?_
    refine only_bind (only_perform (c := .getLedger) trivial) fun network => ?_
    cases network <;> trivial
  refine wp_seq _ (wp_reading network begun) fun networkId w begun => ?_
  have previous : Only Reading (if (dids.all fun orgDid => !orgDid.2.isPrimaryDid) = true then pure none
      else perform (.getPerviousPrimaryDid id) : Async (Option Nat)) :=
    only_ite _ (only_pure _) (only_perform (c := .getPerviousPrimaryDid id) trivial)
  refine wp_seq _ (wp_reading previous begun) fun existingPrimaryDid w begun => ?_
  refine wp_setOrgsPrimaryDid ?_ begun
  rw [not_not] at same
  exact same ▸ List.mem_singleton_self _

theorem wp_program (now : Stage process input read (Begun process) w) :
    wp sys contract process (program process input) (unchanged process) w := by
  cases input with
  | createDid payload => exact wp_createDid now
  | setPrimaryDid did id namespaced => exact wp_setPrimaryDid now

theorem keeps : Keeps sys contract unchanged where
  reflexive _ _ := undisturbed_refl
  transitive _ _ _ _ := undisturbed_trans
  stable process result a b ended relied _ := by
    cases result with
    | ok value => trivial
    | error error => exact fun member => ended (relied.changed.mp member)
  idles process a b idle relied _ := by
    refine ⟨?_,fun member => idle.2 (relied.changed.mp member)⟩
    rcases relied.txn with gone | ⟨same,-⟩
    · exact gone
    · exact same.trans idle.1
  arrives process input a b sound idle arrived := by
    obtain rfl := Option.some.inj arrived
    obtain ⟨dids,agents⟩ := sound.closed process idle.1
    have apart : ∀ {mine : Nat} {payload : DidCreate},
        Function.update a.calls process (some input) mine = some (.createDid payload) → mine ≠ process →
          a.calls mine = some (.createDid payload) := by
      intro mine payload call different
      rwa [Function.update_of_ne different] at call
    refine ⟨⟨sound.agree,sound.held,sound.unique,sound.same,sound.closed,?_,?_⟩,?_,
        wp_program (?_ : Stage process input [] (Begun process) _)⟩
    · rintro mine payload call unwanted id row ⟨held,primary⟩
      have different : mine ≠ process := by
        rintro rfl
        exact dids id row held
      exact sound.plain mine payload (apart call different) unwanted id row ⟨held,primary⟩
    · intro mine payload call agent held
      have different : mine ≠ process := by
        rintro rfl
        exact agents 0 agent held
      exact sound.column mine payload (apart call different) agent held
    · intro other different
      exact ⟨Function.update_of_ne different _ _,Iff.rfl,fun _ row there => ⟨row,there,rfl⟩,
        .inr ⟨rfl,Table.kept_refl,Table.kept_refl⟩⟩
    · refine ⟨Function.update_self ..,idle.2,fun _ member => (by cases member),fun _ => ?_⟩
      exact ⟨agents 0,fun id row promotes => dids id row promotes.1⟩
  moves event a b sound _ happened := by
    cases event with
    | abort process =>
      obtain rfl := Option.some.inj happened
      refine ⟨sound_abandon sound,fun mine => ?_⟩
      by_cases same : mine = process
      · subst same
        exact ⟨rfl,Iff.rfl,fun _ row there => ⟨row,there,rfl⟩,.inl (Function.update_self ..)⟩
      · have outcome : Outcome process .rollback ⟨false,0,[],⟨none,none,none,none⟩,none⟩ a
          (a.abandon process) := .abandoned
        exact outcome_undisturbed sound outcome same

end

/-- The two tables say the same, and the calls that ended with an exception were not
    committed. -/
def Good (m : Machine Cmd Ret Failure Unit World) : Prop :=
  Coherent m.world ∧ ∀ process error, (m.thread process).ended = some (.error error) → process ∉ m.world.changed
/-- What a step changes in the tables is recorded for its call. -/
def Recorded (m : Machine Cmd Ret Failure Unit World) : Action Choice Input Env → Prop
  | .advance process choice => ∀ next, step sys m (.advance process choice) = some next →
      process ∈ next.world.changed ∨ next.world.dids.committed = m.world.dids.committed ∧
        next.world.agents.committed = m.world.agents.committed
  | a => ∀ next, step sys m a = some next → next.world.dids.committed = m.world.dids.committed ∧
      next.world.agents.committed = m.world.agents.committed
/-- Nothing is going on, and the tables say the same. -/
structure Fresh (w : World) : Prop where
  dids : ∀ id, w.dids.pending id = none
  agents : ∀ id, w.agents.pending id = none
  txn : ∀ process, w.txn process = false
  calls : ∀ process, w.calls process = none
  changed : w.changed = []
  coherent : Coherent w

section
variable {m next t : Machine Cmd Ret Failure Unit World} {w : World}

theorem Fresh.safe (fresh : Fresh w) : Safe sys contract unchanged (Machine.initial w) := by
  have dids : ∀ {process id row}, w.dids.pending id ≠ some (process,row) := by
    intro process id row held
    cases (fresh.dids id).symm.trans held
  have agents : ∀ {process id row}, w.agents.pending id ≠ some (process,row) := by
    intro process id row held
    cases (fresh.agents id).symm.trans held
  refine safe_initial ⟨fresh.coherent.agree,fresh.coherent.held,⟨?_,?_,?_⟩,?_,?_,?_,?_⟩ ?_
  · exact fun i j r s first passes second passes' => fresh.coherent.one i j r s ⟨first,passes⟩ ⟨second,passes'⟩
  · exact fun p q i j r s held => absurd held dids
  · exact fun p i j r s held => absurd held dids
  · exact fun process id row old held => absurd held dids
  · exact fun process _ => ⟨fun _ _ => dids,fun _ _ => agents⟩
  · exact fun process payload call => by cases (fresh.calls process).symm.trans call
  · exact fun process payload call => by cases (fresh.calls process).symm.trans call
  · exact fun process => ⟨fresh.txn process,by simp [fresh.changed]⟩

/-- What the contract keeps makes every state good. -/
theorem safe_good (safe : Safe sys contract unchanged m) : Good m :=
  ⟨safe.inv.coherent,fun _ _ ended => safe_ended safe ended⟩

theorem recorded {a : Action Choice Input Env} : Recorded m a := by
  cases a with
  | start process input =>
    intro next taken
    obtain ⟨-,world,arrived,rfl⟩ := step_start taken
    obtain rfl := Option.some.inj arrived
    exact ⟨rfl,rfl⟩
  | crash process =>
    intro next taken
    obtain ⟨-,rfl⟩ := step_crash taken
    exact ⟨rfl,rfl⟩
  | environment event =>
    intro next taken
    obtain ⟨world,happened,rfl⟩ := step_environment taken
    cases event
    obtain rfl := Option.some.inj happened
    exact ⟨rfl,rfl⟩
  | advance process choice =>
    intro next taken
    obtain ⟨c,resume,after,answer,at_,handled,rfl⟩ := step_advance taken
    cases handle_outcome handled with
    | concluded => exact .inl List.mem_cons_self
    | _ => exact .inr ⟨rfl,rfl⟩

theorem spoils {a : Action Choice Input Env} (safe : Safe sys contract unchanged m) (taken : step sys m a = some next)
    (improper : ¬Considered contract m a) : ¬Good next := by
  obtain ⟨process,choice,c,resume,after,answer,rfl,-,handled,refuses,rfl⟩ :=
      unconsidered (fun _ => trivial) taken improper
  change ¬proper process c choice m.world at refuses
  have sound := safe.inv
  rintro ⟨coherent,-⟩
  simp only [proper,Classical.not_imp,not_forall] at refuses
  obtain ⟨rfl,went,payload,call,wrong⟩ := refuses
  have pending : ∃ id row, m.world.dids.pending id = some (process,row) := by
    by_cases wanted : payload.isPrimaryDid = true
    · rw [if_pos wanted] at wrong
      simp only [Classical.not_imp,not_forall] at wrong
      obtain ⟨id,row,promotes,-⟩ := wrong
      exact ⟨id,row,promotes.1⟩
    · rw [if_neg wanted] at wrong
      simp only [Classical.not_imp,not_forall] at wrong
      obtain ⟨id,row,-,held,-⟩ := wrong
      exact ⟨id,row,held⟩
  have opened : m.world.txn process = true := by
    by_contra closed
    obtain ⟨id,row,held⟩ := pending
    exact (sound.closed process (by simpa using closed)).1 id row held
  have made : commitOf process choice m.world = some (after,answer) := handled
  unfold commitOf at made
  rw [if_neg (by simp [opened]),if_neg (by simp [went])] at made
  obtain rfl : m.world.conclude process = after := congrArg Prod.fst (Option.some.inj made)
  by_cases wanted : payload.isPrimaryDid = true
  · rw [if_pos wanted] at wrong
    simp only [Classical.not_imp,not_forall] at wrong
    obtain ⟨id,row,promotes,bare,apart⟩ := wrong
    refine apart ?_
    have set_ := coherent.agree id row ⟨Table.seen_of_pending promotes.1,promotes.2⟩
    rw [orgDid_conclude,seen_column sound call] at set_
    · exact set_
    · intro i r other
      obtain ⟨rfl,-,rfl⟩ := sound.single promotes other
      exact bare
  · have unwanted : payload.isPrimaryDid = false := by simpa using wanted
    rw [if_neg wanted] at wrong
    simp only [Classical.not_imp,not_forall,not_not] at wrong
    obtain ⟨id,row,old,held,primary⟩ := wrong
    have modest := sound.plain process payload call unwanted
    -- The column still holds the DID of the row, and no other row can be primary.
    have column : (m.world.conclude process).orgDid = some old.did := by
      rw [orgDid_conclude,seen_column sound call fun id row promotes => absurd promotes (modest id row)]
      exact sound.agree id old primary
    obtain ⟨other,version,⟨found,passes⟩,-⟩ := coherent.held old.did column
    rcases Table.commit_cases found with own | ⟨there,free⟩
    · exact modest other version ⟨own,passes⟩
    · obtain rfl := sound.unique.one other id version old there passes primary.1 primary.2
      exact free row held

/-- In every run the tables say the same, and a call that fails changes neither, exactly
    when the commits of the creations are proper. -/
theorem coherent_iff (fresh : Fresh w) {actions : List (Action Choice Input Env)}
    (reached : run (step sys) (Machine.initial w) actions = some t) :
    ((∀ first rest u, actions = first ++ rest → run (step sys) (Machine.initial w) first = some u → Good u) ∧
        Along (step sys) Recorded (Machine.initial w) actions) ↔
      Along (step sys) (Considered contract) (Machine.initial w) actions := by
  have exact_ := exact_along keeps (G := Good) (fun m safe => safe_good safe)
    (fun m a next safe taken improper => spoils safe taken improper) fresh.safe reached
  exact ⟨fun both => exact_.mp both.1,fun along => ⟨exact_.mpr along,along_of_forall fun _ _ _ => recorded⟩⟩

end

def keyDid : OrgDid := ⟨"did:key:z6Mk",.object "{}",true⟩
def oneDid : World where
  dids := ⟨fun id => if id = 0 then some keyDid else none,fun _ => none,[0],by simp⟩
  agents := ⟨fun id => if id = 0 then some ⟨some keyDid.did,some keyDid.didDocument,none,.other⟩ else none,fun _ =>
      none,[0],by simp⟩
  txn _ := false
  calls _ := none
  changed := []

theorem fresh_oneDid : Fresh oneDid := by
  have only : ∀ id row, Primary oneDid id row → id = 0 ∧ row = keyDid := by
    rintro id row ⟨there,-⟩
    by_cases zero : id = 0
    · subst zero
      exact ⟨rfl,(Option.some.inj there).symm⟩
    · simp [oneDid,zero] at there
  refine ⟨fun _ => rfl,fun _ => rfl,fun _ => rfl,fun _ => rfl,rfl,?_,?_,?_⟩
  · exact fun i j r s first second => (only i r first).1.trans (only j s second).1.symm
  · intro id row primary
    rw [(only id row primary).2]
    rfl
  · rintro did same
    exact ⟨0,keyDid,⟨rfl,rfl⟩,Option.some.inj same⟩

/-- The process takes a step, and the agent answers with the DID. -/
def go (process : Nat) : Action Choice Input Env :=
  .advance process ⟨false,1,[0],⟨some keyDid.did,some keyDid.didDocument,none,none⟩,none⟩
/-- The primary DID is created again, and is not asked to be primary. -/
def createdAgain : List (Action Choice Input Env) :=
  [.start 0 (.createDid ⟨none,.other,false⟩),go 0,go 0,go 0,go 0,go 0,go 0,go 0]
theorem coherent_iff_createdAgain : ∃ t, run (step sys) (Machine.initial oneDid) createdAgain = some t ∧
    (((∀ first rest u, createdAgain = first ++ rest → run (step sys) (Machine.initial oneDid) first = some u → Good u) ∧
        Along (step sys) Recorded (Machine.initial oneDid) createdAgain) ↔
      Along (step sys) (Considered contract) (Machine.initial oneDid) createdAgain) := by
  have ran : (run (step sys) (Machine.initial oneDid) createdAgain).map (fun t => t.world.changed) = some [0] := by
    decide +kernel
  obtain ⟨t,reached,-⟩ := Option.map_eq_some_iff.mp ran
  exact ⟨t,reached,coherent_iff fresh_oneDid reached⟩

/-- No row is primary any more, and `org_agents` still holds the DID. -/
theorem primary_demoted :
    ¬∀ (w : World) (actions : List (Action Choice Input Env)) (t : Machine Cmd Ret Failure Unit World),
    Fresh w → run (step sys) (Machine.initial w) actions = some t → Good t := by
  intro always
  have ran : (run (step sys) (Machine.initial oneDid) createdAgain).map (fun t =>
      (t.world.orgDid,t.world.dids.keys,t.world.dids.committed 0)) =
        some (some keyDid.did,[0,0],some { keyDid with isPrimaryDid := false }) := by decide +kernel
  obtain ⟨t,reached,tables⟩ := Option.map_eq_some_iff.mp ran
  obtain ⟨column,rest⟩ := Prod.mk.inj tables
  obtain ⟨keys,row⟩ := Prod.mk.inj rest
  obtain ⟨id,version,⟨there,primary⟩,-⟩ := (always oneDid createdAgain t fresh_oneDid reached).1.held keyDid.did column
  have listed := t.world.dids.listed id (.inl (by rw [there]; rfl))
  rw [keys] at listed
  obtain rfl : id = 0 := by simpa using listed
  obtain rfl := Option.some.inj (there.symm.trans row)
  cases primary

end Ngotag.PrimaryDid
