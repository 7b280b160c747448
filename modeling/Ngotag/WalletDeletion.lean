import Mathlib.Data.List.Nodup
import Ngotag.Faults
import Ngotag.JsObject

/-!
Deletion of an organisation's wallet: the platform's own rows go in a transaction of their own, and
then the agent is asked. Where anything fails after the rows are gone, nothing brings them back, and
so the exact condition (`wallet_deletion_iff`) is that a deletion that comes to the rows succeeds to
its end, on an agent that was asked with the key that it expects.
-/
namespace Ngotag.WalletDeletion
open Await Faults
open JsObject (truthy)

structure OrgAgent where
  id : String
  orgId : Option String
  orgDid : Option String
  agentEndPoint : Option String
  tenantId : Option String
  apiKey : Option String
  orgAgentTypeId : Option String
  deriving DecidableEq

/-- The other tables with rows of an organisation, or of its agent. -/
inductive Table where
  | org_dids
  | agent_invitations
  | connections
  | credentials
  | presentations
  | oidc_issuer
  | x509_certificates
  | oid4vp_verifier
  deriving DecidableEq

structure Row where
  id : String
  orgId : Option String
  orgAgentId : Option String

/-- `org_agents` by its unique `orgId`, the types with their ids, and the id of the platform's own
    organisation. -/
structure Db where
  org_agents : String → Option OrgAgent
  rows : Table → List Row
  org_agents_type : List (String × String)
  platformAdmin : Option String
  distinct : (org_agents_type.map (·.1)).Nodup
  own : ∀ orgId orgAgent, org_agents orgId = some orgAgent → orgAgent.orgId = some orgId
  named : org_agents "" = none

def OrgAgentType.SHARED : String := "SHARED"
def OrgAgentType.DEDICATED : String := "DEDICATED"
/-- The functions that await `getAgentApiKey` and `platformAdminAgent`. -/
inductive Caller where
  | getOrgAgentApiKey
  | deleteWallet

inductive Cmd where
  | getAgentApiKey (caller : Caller) (orgId : String)
  | getOrgAgentTypeDetails (agentType : String)
  | platformAdminAgent (caller : Caller)
  | getTenantWalletToken (agentEndPoint apiKey tenantId : String)
  | updateTenantToken (orgId token : String)
  | getOrgAgentType (orgAgentId : String)
  | archiveSchemas (did : String)
  | begin_
  | deleteOrgAgentByOrg (orgId : String)
  | httpDelete (url authorization : String)
  | orgDeletedActivity (deletedRecordsCount : Nat) (deletedRecordInTable : String)
  | commit

structure Deleted where
  orgDid : Nat
  agentInvitation : Nat
  deleteOrgAgent : OrgAgent

@[reducible] def Ret : Cmd → Type
  | .getAgentApiKey _ _ => Option OrgAgent
  | .getOrgAgentTypeDetails _ => String
  | .platformAdminAgent _ => List OrgAgent
  | .getTenantWalletToken _ _ _ => Option String
  | .updateTenantToken _ _ => OrgAgent
  | .getOrgAgentType _ => Option String
  | .deleteOrgAgentByOrg _ => Deleted
  | .httpDelete _ _ => Nat
  | _ => Unit

inductive Failure where
  | walletDoesNotExists
  /-- `Failed to get API key` -/
  | apiKey
  /-- `Failed to get agent information` -/
  | agentInformation
  | orgAgentNotFound
  | apiKeyNotExist
  | invalidCredentials
  | invalidTenantDetails
  | tenantWalletToken
  | walletNotDeleted
  /-- `Organization ID … is referenced in the table …` -/
  | referenced (table : Table)
  | other
  deriving DecidableEq

abbrev Async := Prog Cmd Ret Failure
def perform (command : Cmd) : Async (Ret command) := call command
/-- What is not the platform's own: the cipher of the stored keys, and what an agent answers to a
    request for a tenant's token and to one for the deletion of a wallet (`none`: no answer). An
    empty text is no cipher text. -/
structure Services where
  decrypt : String → Option String
  encrypt : String → String
  tenantWalletToken : String → String → String → Option String
  answer : String → String → Option Nat
  empty : decrypt "" = none

def decryptPassword {C : Type} {R : C → Type} {ε : Type} (decrypt : String → Option String) (invalidCredentials : ε)
    (encryptedPassword : Option String) : Prog C R ε String :=
  match encryptedPassword.bind decrypt with
  | none => throw invalidCredentials
  | some password => pure password

section
variable (svc : Services)

def getTenantToken (agentEndPoint : Option String) (apiKey : String) (tenantId orgId : Option String) : Async OrgAgent :=
  match truthy agentEndPoint,truthy (some apiKey),truthy tenantId,truthy orgId with
  | some agentEndPoint,some apiKey,some tenantId,some orgId => do
    let tenantWalletToken : Option String ← perform (.getTenantWalletToken agentEndPoint apiKey tenantId)
    match truthy tenantWalletToken with
    | none => throw .tenantWalletToken
    | some tenantWalletToken => perform (.updateTenantToken orgId (svc.encrypt tenantWalletToken))
  | _,_,_,_ => throw .invalidTenantDetails
/-- The key is absent, and the agent is a tenant of the platform's. -/
def tokenless (orgAgentDetails : OrgAgent) (orgAgentId : String) : Bool :=
  orgAgentDetails.orgAgentTypeId = some orgAgentId && (truthy orgAgentDetails.apiKey).isNone
def tokenKey (updated : OrgAgent) : Async String :=
  match truthy updated.apiKey with
  | none => throw .tenantWalletToken
  | some apiKey => decryptPassword svc.decrypt .invalidCredentials (some apiKey)
def mint (orgAgentDetails : OrgAgent) : Async String := do
  let platformAdminSpinnedUp : List OrgAgent ← perform (.platformAdminAgent .getOrgAgentApiKey)
  let apiKey ← decryptPassword svc.decrypt .invalidCredentials (platformAdminSpinnedUp.head?.bind (·.apiKey))
  let updated ← getTenantToken svc (platformAdminSpinnedUp.head?.bind (·.agentEndPoint)) apiKey
    orgAgentDetails.tenantId orgAgentDetails.orgId
  tokenKey svc updated

def getOrgAgentApiKey (orgId : String) : Async String := do
  let orgAgentDetails : Option OrgAgent ← perform (.getAgentApiKey .getOrgAgentApiKey orgId)
  let orgAgentId : String ← perform (.getOrgAgentTypeDetails OrgAgentType.SHARED)
  match orgAgentDetails with
  | none => throw .apiKeyNotExist
  | some orgAgentDetails =>
    if tokenless orgAgentDetails orgAgentId = true then mint svc orgAgentDetails
    else
      match truthy orgAgentDetails.apiKey with
      | none => throw .apiKeyNotExist
      | some apiKey => decryptPassword svc.decrypt .invalidCredentials (some apiKey)

def shown (text : Option String) : String := text.getD "null"
/-- `text.replace('#', by)`, for a text without dollar signs. -/
def replaceHash (text replacement : String) : String :=
  String.ofList (text.toList.takeWhile (· ≠ '#') ++ replacement.toList ++ (text.toList.dropWhile (· ≠ '#')).drop 1)
def urlOf (agent : String) (orgAgent : OrgAgent) : String :=
  if agent = OrgAgentType.SHARED then replaceHash (shown orgAgent.agentEndPoint ++ "/multi-tenancy/#")
      (shown orgAgent.tenantId)
  else shown orgAgent.agentEndPoint ++ "/agent/wallet"
def NO_CONTENT : Nat := 204
def NOT_FOUND : Nat := 404
def logDeletionActivity (records : Nat) (tableName : String) : Async Unit :=
  if 0 < records then perform (.orgDeletedActivity records tableName) else pure ()

def ask (url getApiKey : String) (deleted : Deleted) : Async OrgAgent := do
  let status : Nat ← perform (.httpDelete url getApiKey)
  if status ≠ NO_CONTENT ∧ status ≠ NOT_FOUND then throw .walletNotDeleted
  else
    logDeletionActivity deleted.orgDid "org_dids"
    logDeletionActivity deleted.agentInvitation "agent_invitations"
    logDeletionActivity 1 "org_agents"
    pure deleted.deleteOrgAgent
/-- The callback of the transaction, on which nothing is asked of the database: the rows go in a
    transaction of their own. -/
def callback (orgId url getApiKey : String) : Async OrgAgent := do
  let deleted : Deleted ← perform (.deleteOrgAgentByOrg orgId)
  ask url getApiKey deleted
/-- The key for the request. The condition is a constant. -/
def keyFor (own : String) : Async String :=
  if (truthy (some OrgAgentType.SHARED)).isSome = true then do
    let platformAdminSpinnedUp : List OrgAgent ← perform (.platformAdminAgent .deleteWallet)
    decryptPassword svc.decrypt .invalidCredentials (platformAdminSpinnedUp.head?.bind (·.apiKey))
  else pure own
def archive (orgDid : Option String) : Async Unit :=
  match truthy orgDid with
  | none => pure ()
  | some did => perform (.archiveSchemas did)

def remove (orgId own : String) (orgAgent : OrgAgent) (orgAgentTypeId : String) : Async (Option OrgAgent) := do
  let orgAgentTypeResult : Option String ← perform (.getOrgAgentType orgAgentTypeId)
  match orgAgentTypeResult with
  | none => throw .orgAgentNotFound
  | some agent =>
    let getApiKey ← keyFor svc own
    archive orgAgent.orgDid
    perform .begin_
    let deleteOrgAgent ← callback orgId (urlOf agent orgAgent) getApiKey
    perform .commit
    pure (some deleteOrgAgent)

def settled (orgId : String) (getApiKeyResult : Except Failure String)
    (orgAgentResult : Except Failure (Option OrgAgent)) :
    Async (Option OrgAgent) :=
  match orgAgentResult,getApiKeyResult with
  | .ok none,_ => throw .walletDoesNotExists
  | _,.error _ => throw .apiKey
  | .error _,_ => throw .agentInformation
  | .ok (some orgAgent),.ok own =>
    match truthy orgAgent.tenantId,truthy orgAgent.orgAgentTypeId with
    | some _,some orgAgentTypeId => remove svc orgId own orgAgent orgAgentTypeId
    | _,_ => do
      let _ : Deleted ← perform (.deleteOrgAgentByOrg (orgAgent.orgId.getD ""))
      pure none

/-- The two reads are one after the other here: what the first may write, the key, is not looked at
    in what the second reads. -/
def deleteWallet (orgId : String) : Async (Option OrgAgent) := do
  let getApiKeyResult ← settle (getOrgAgentApiKey svc orgId)
  let orgAgentResult ← settle (perform (.getAgentApiKey .deleteWallet orgId))
  settled svc orgId getApiKeyResult orgAgentResult
end

def ofOrg (orgId : String) (row : Row) : Bool := row.orgId = some orgId
def tablesToCheck : List Table := [.connections,.credentials,.presentations]
/-- The tables whose rows keep an agent from being deleted. -/
def agentTables : List Table := [.agent_invitations,.org_dids,.oidc_issuer,.x509_certificates,.oid4vp_verifier]
def deleteMany (rows : Table → List Row) (table : Table) (orgId : String) : Table → List Row :=
  Function.update rows table ((rows table).filter fun row => !ofOrg orgId row)
def counted (db : Db) (table : Table) (orgId : String) : Nat := ((db.rows table).filter (ofOrg orgId)).length
/-- The rows without the DIDs and the agent invitations of the organisation. -/
def remaining (db : Db) (orgId : String) : Table → List Row :=
  deleteMany (deleteMany db.rows .org_dids orgId) .agent_invitations orgId
def inUse (rows : Table → List Row) (orgAgent : OrgAgent) : Bool :=
  agentTables.any fun table => (rows table).any fun row => row.orgAgentId = some orgAgent.id

/-- The database without the agent and the rows that go with it. -/
def Db.without (db : Db) (orgId : String) : Db where
  org_agents := Function.update db.org_agents orgId none
  rows := remaining db orgId
  org_agents_type := db.org_agents_type
  platformAdmin := db.platformAdmin
  distinct := db.distinct
  own := by
    intro other orgAgent found
    by_cases same : other = orgId
    · rw [same,Function.update_self] at found
      cases found
    · rw [Function.update_of_ne same] at found
      exact db.own other orgAgent found
  named := by
    by_cases same : "" = orgId
    · rw [same,Function.update_self]
    · rw [Function.update_of_ne same,db.named]

/-- The transaction of `deleteOrgAgentByOrg`, which leaves nothing where a statement fails. -/
def deleteOrgAgentByOrg (db : Db) (orgId : String) : Except Failure (Db × Deleted) :=
  match tablesToCheck.find? fun table => 0 < counted db table orgId with
  | some table => .error (.referenced table)
  | none =>
    match db.org_agents orgId with
    | none => .error .other
    | some orgAgent =>
      if inUse (remaining db orgId) orgAgent = true then .error .other
      else .ok (db.without orgId,⟨counted db .org_dids orgId,counted db .agent_invitations orgId,orgAgent⟩)

def OrgAgent.withKey (orgAgent : OrgAgent) (apiKey : String) : OrgAgent := { orgAgent with apiKey := some apiKey }

/-- `updateTenantToken` -/
def Db.withKey (db : Db) (orgId apiKey : String) : Db where
  org_agents := Function.update db.org_agents orgId ((db.org_agents orgId).map (·.withKey apiKey))
  rows := db.rows
  org_agents_type := db.org_agents_type
  platformAdmin := db.platformAdmin
  distinct := db.distinct
  own := by
    intro other orgAgent found
    by_cases same : other = orgId
    · rw [same,Function.update_self] at found
      obtain ⟨old,there,rfl⟩ := Option.map_eq_some_iff.mp found
      exact (db.own orgId old there).trans (congrArg some same.symm)
    · rw [Function.update_of_ne same] at found
      exact db.own other orgAgent found
  named := by
    by_cases same : "" = orgId
    · rw [← same,Function.update_self,db.named]
      rfl
    · rw [Function.update_of_ne same,db.named]

def Db.typeId (db : Db) (agentType : String) : Option String :=
  (db.org_agents_type.find? fun row => row.2 = agentType).map (·.1)
def Db.typeOf (db : Db) (id : String) : Option String := (db.org_agents_type.find? fun row => row.1 = id).map (·.2)
/-- A request for the deletion of a wallet that the agent got, and the status that it reported. -/
structure Request where
  url : String
  authorization : String
  reported : Option Nat
  deriving DecidableEq

structure World where
  db : Db
  requests : List Request
/-- `axios.delete`, which rejects for every status outside of 200 to 299. -/
def resolved (reported : Option Nat) : Except Failure Nat :=
  match reported with
  | none => .error .other
  | some status => if 200 ≤ status ∧ status < 300 then .ok status else .error .other
def orThrow {α : Type} : Option α → Except Failure α
  | none => .error .other
  | some value => .ok value

variable (svc : Services)
def carry (c : Cmd) (w : World) : World × Except Failure (Ret c) :=
  match c with
  | .getAgentApiKey _ orgId => (w,.ok (w.db.org_agents orgId))
  | .getOrgAgentTypeDetails agentType => (w,orThrow (w.db.typeId agentType))
  | .platformAdminAgent _ => (w,orThrow (w.db.platformAdmin.map fun id => (w.db.org_agents id).toList))
  | .getTenantWalletToken agentEndPoint apiKey tenantId => (w,.ok (svc.tenantWalletToken agentEndPoint apiKey tenantId))
  | .updateTenantToken orgId token =>
    match w.db.org_agents orgId with
    | none => (w,.error .other)
    | some orgAgent => ({ w with db := w.db.withKey orgId token },.ok (orgAgent.withKey token))
  | .getOrgAgentType orgAgentId => (w,.ok (w.db.typeOf orgAgentId))
  | .deleteOrgAgentByOrg orgId =>
    match deleteOrgAgentByOrg w.db orgId with
    | .error error => (w,.error error)
    | .ok (db,deleted) => ({ w with db := db },.ok deleted)
  | .httpDelete url authorization =>
    ({ w with requests := w.requests ++ [⟨url,authorization,svc.answer url authorization⟩] },
        resolved (svc.answer url authorization))
  | .archiveSchemas _ => (w,.ok ())
  | .begin_ => (w,.ok ())
  | .orgDeletedActivity _ _ => (w,.ok ())
  | .commit => (w,.ok ())

/-- A call of `deleteWallet` on a database, where steps may fail or be the last. -/
def run (faults : Cmd → Fault) (orgId : String) (db : Db) : World × Option (Except Failure (Option OrgAgent)) :=
  attempt (carry svc) .other faults (deleteWallet svc orgId) ⟨db,[]⟩

/-- The rows of an organisation that a deletion is about. -/
def rowsOf (db : Db) (orgId : String) : Option OrgAgent × List Row × List Row :=
  (db.org_agents orgId,(db.rows .org_dids).filter (ofOrg orgId),(db.rows .agent_invitations).filter (ofOrg orgId))
def Lost (before after : Db) (orgId : String) : Prop :=
  (∃ orgAgent, before.org_agents orgId = some orgAgent) ∧ after.org_agents orgId = none ∨
    ∃ table ∈ [Table.org_dids,Table.agent_invitations], ∃ row ∈ before.rows table,
      ofOrg orgId row = true ∧ row ∉ after.rows table
def Db.admin (db : Db) : Option OrgAgent := db.platformAdmin.bind db.org_agents
def adminKey (db : Db) : Option String := (db.admin.bind (·.apiKey)).bind svc.decrypt
def ownKey (orgAgent : OrgAgent) : Option String := orgAgent.apiKey.bind svc.decrypt
/-- The platform's key for a shared agent, and for a dedicated one its own. -/
structure RightKey (db : Db) (orgAgent : OrgAgent) (authorization : String) : Prop where
  shared : orgAgent.orgAgentTypeId.bind db.typeOf = some OrgAgentType.SHARED → adminKey svc db = some authorization
  dedicated : orgAgent.orgAgentTypeId.bind db.typeOf = some OrgAgentType.DEDICATED →
      ownKey svc orgAgent = some authorization
def Failed {α : Type} (ended : Option (Except Failure α)) : Prop := ∀ value, ended ≠ some (.ok value)

/-- What is removed was confirmed by the agent, a failure changes no row, and each request has
    the right key. -/
structure AllOrNothing (before : Db) (orgId : String) (out : World × Option (Except Failure (Option OrgAgent))) :
    Prop where
  removed : Lost before out.1.db orgId →
    ∃ request ∈ out.1.requests, request.reported = some NO_CONTENT ∨ request.reported = some NOT_FOUND
  unchanged : Failed out.2 → rowsOf out.1.db orgId = rowsOf before orgId
  keys : ∀ request ∈ out.1.requests, ∀ orgAgent, before.org_agents orgId = some orgAgent →
    RightKey svc before orgAgent request.authorization

variable (db : Db) (faults : Cmd → Fault) (orgId : String)
/-- What the agent is asked for a tenant's token with. -/
def tokenRequest (orgAgent : OrgAgent) : Option (String × String × String) := do
  let agentEndPoint ← truthy (db.admin.bind (·.agentEndPoint))
  let apiKey ← truthy (adminKey svc db)
  let tenantId ← truthy orgAgent.tenantId
  pure (agentEndPoint,apiKey,tenantId)

/-- The first reads succeed, and find an agent. -/
structure Looked (orgAgent : OrgAgent) (typeId : String) : Prop where
  agent : db.org_agents orgId = some orgAgent
  shared : db.typeId OrgAgentType.SHARED = some typeId
  read : faults (.getAgentApiKey .getOrgAgentApiKey orgId) = .none
  typed : faults (.getOrgAgentTypeDetails OrgAgentType.SHARED) = .none
/-- The tenant has no key, and this token is fetched for it. -/
structure Mints (orgAgent : OrgAgent) (typeId token : String) : Prop where
  looked : Looked db faults orgId orgAgent typeId
  tokenless : tokenless orgAgent typeId = true
  admin : faults (.platformAdminAgent .getOrgAgentApiKey) = .none
  fetched : ∃ agentEndPoint apiKey tenantId fresh,
    tokenRequest svc db orgAgent = some (agentEndPoint,apiKey,tenantId) ∧
    faults (.getTenantWalletToken agentEndPoint apiKey tenantId) = .none ∧
    truthy (svc.tenantWalletToken agentEndPoint apiKey tenantId) = some fresh ∧ token = svc.encrypt fresh
  carried : (faults (.updateTenantToken orgId token)).undone = false
/-- The deletion stores a key that it has fetched. -/
def Writes : Prop :=
  ∃ orgAgent typeId token, Mints svc db faults orgId orgAgent typeId token ∧ orgAgent.apiKey ≠ some token
/-- The organisation's key is found, or fetched, which leaves the database `after`. -/
inductive Keyed : String → Db → Prop where
  | stored (orgAgent : OrgAgent) (typeId stored key : String) (looked : Looked db faults orgId orgAgent typeId)
      (has : tokenless orgAgent typeId = false) (column : truthy orgAgent.apiKey = some stored)
      (decrypted : svc.decrypt stored = some key) : Keyed key db
  | minted (orgAgent : OrgAgent) (typeId token key : String) (mints : Mints svc db faults orgId orgAgent typeId token)
      (answered : faults (.updateTenantToken orgId token) = .none) (decrypted : svc.decrypt token = some key) :
      Keyed key (db.withKey orgId token)

/-- The agent has a wallet, and everything before the rows succeeds. -/
structure Approached (orgAgent : OrgAgent) (orgAgentTypeId agent authorization : String) : Prop where
  tenant : (truthy orgAgent.tenantId).isSome = true
  typeId : truthy orgAgent.orgAgentTypeId = some orgAgentTypeId
  type : db.typeOf orgAgentTypeId = some agent
  typed : faults (.getOrgAgentType orgAgentTypeId) = .none
  key : adminKey svc db = some authorization
  admin : faults (.platformAdminAgent .deleteWallet) = .none
  archived : ∀ did, truthy orgAgent.orgDid = some did → faults (.archiveSchemas did) = .none
  begun : faults .begin_ = .none

/-- No row of another table refers to the agent, or to the organisation. -/
structure Free (orgAgent : OrgAgent) : Prop where
  free : ∀ table ∈ tablesToCheck, ∀ row ∈ db.rows table, ofOrg orgId row = false
  unused : inUse (remaining db orgId) orgAgent = false
/-- The rows are removed, of an agent with a wallet or without one. -/
structure Removes (orgAgent : OrgAgent) : Prop where
  agent : db.org_agents orgId = some orgAgent
  read : faults (.getAgentApiKey .deleteWallet orgId) = .none
  approached : (truthy orgAgent.tenantId).isSome = true → (truthy orgAgent.orgAgentTypeId).isSome = true →
    ∃ orgAgentTypeId agent authorization, Approached svc db faults orgAgent orgAgentTypeId agent authorization
  free : Free db orgId orgAgent
  carried : (faults (.deleteOrgAgentByOrg orgId)).undone = false
/-- The agent reports the wallet deleted, and nothing fails until the end. -/
structure Reported (url authorization : String) (orgDid agentInvitation : Nat) : Prop where
  asked : faults (.httpDelete url authorization) = .none
  reported : svc.answer url authorization = some NO_CONTENT
  orgDid : 0 < orgDid → faults (.orgDeletedActivity orgDid "org_dids") = .none
  agentInvitation : 0 < agentInvitation → faults (.orgDeletedActivity agentInvitation "agent_invitations") = .none
  orgAgent : faults (.orgDeletedActivity 1 "org_agents") = .none
  committed : faults .commit = .none
/-- The agent has a wallet, and nothing fails from the rows to the end. -/
structure Finishes (orgAgent : OrgAgent) (orgAgentTypeId agent authorization : String) : Prop where
  approached : Approached svc db faults orgAgent orgAgentTypeId agent authorization
  answered : faults (.deleteOrgAgentByOrg orgId) = .none
  reported : Reported svc faults (urlOf agent orgAgent) authorization (counted db .org_dids orgId)
    (counted db .agent_invitations orgId)
/-- A call that changes the rows comes to its end, with the right key. -/
def Harmless : Prop :=
  (Writes svc db faults orgId ∨ ∃ own after orgAgent, Keyed svc db faults orgId own after ∧ Removes svc after faults orgId orgAgent) →
    ∃ own after orgAgent, Keyed svc db faults orgId own after ∧ Removes svc after faults orgId orgAgent ∧
      ∃ orgAgentTypeId agent authorization, Finishes svc after faults orgId orgAgent orgAgentTypeId agent authorization ∧
        (agent = OrgAgentType.DEDICATED → own = authorization)

variable {svc db faults orgId} {orgAgent : OrgAgent} {typeId token : String} {requests : List Request}
theorem truthy_named (there : db.org_agents orgId = some orgAgent) : truthy orgAgent.orgId = some orgId := by
  rw [db.own orgId orgAgent there]
  refine Option.filter_some_pos ?_
  rw [decide_eq_true_eq]
  rintro rfl
  rw [db.named] at there
  cases there
theorem looked_unique {other : OrgAgent} {otherId : String} (a : Looked db faults orgId orgAgent typeId)
    (b : Looked db faults orgId other otherId) : orgAgent = other ∧ typeId = otherId :=
  ⟨Option.some.inj (a.agent.symm.trans b.agent),Option.some.inj (a.shared.symm.trans b.shared)⟩
theorem mints_unique {other : OrgAgent} {otherId otherToken : String}
    (a : Mints svc db faults orgId orgAgent typeId token)
    (b : Mints svc db faults orgId other otherId otherToken) :
    orgAgent = other ∧ typeId = otherId ∧ token = otherToken := by
  obtain ⟨rfl,rfl⟩ := looked_unique a.looked b.looked
  obtain ⟨agentEndPoint,apiKey,tenantId,fresh,request,-,answer,rfl⟩ := a.fetched
  obtain ⟨_,_,_,_,request',-,answer',rfl⟩ := b.fetched
  cases request.symm.trans request'
  cases answer.symm.trans answer'
  exact ⟨rfl,rfl,rfl⟩

theorem keyed_unique {key other : String} {after after' : Db} (a : Keyed svc db faults orgId key after)
    (b : Keyed svc db faults orgId other after') : key = other ∧ after = after' := by
  cases a with
  | stored orgAgent typeId stored key looked has column decrypted =>
    cases b with
    | stored orgAgent' typeId' stored' key' looked' has' column' decrypted' =>
      obtain ⟨rfl,rfl⟩ := looked_unique looked looked'
      cases column.symm.trans column'
      exact ⟨Option.some.inj (decrypted.symm.trans decrypted'),rfl⟩
    | minted orgAgent' typeId' token' key' mints' answered' decrypted' =>
      obtain ⟨rfl,rfl⟩ := looked_unique looked mints'.looked
      rw [mints'.tokenless] at has
      cases has
  | minted orgAgent typeId token key mints answered decrypted =>
    cases b with
    | stored orgAgent' typeId' stored' key' looked' has' column' decrypted' =>
      obtain ⟨rfl,rfl⟩ := looked_unique mints.looked looked'
      rw [mints.tokenless] at has'
      cases has'
    | minted orgAgent' typeId' token' key' mints' answered' decrypted' =>
      obtain ⟨rfl,rfl,rfl⟩ := mints_unique mints mints'
      exact ⟨Option.some.inj (decrypted.symm.trans decrypted'),rfl⟩

/-- What the search for the organisation's key comes to. -/
structure KeyPhase (svc : Services) (db : Db) (faults : Cmd → Fault) (orgId : String) (requests : List Request)
    (out : World × Option (Except Failure String)) : Prop where
  requests : out.1.requests = requests
  rows : out.1.db.rows = db.rows
  there : ∀ orgAgent, db.org_agents orgId = some orgAgent → ∃ left, out.1.db.org_agents orgId = some left
  kept : rowsOf out.1.db orgId = rowsOf db orgId ↔ ¬Writes svc db faults orgId
  ended : (∃ key, out.2 = some (.ok key) ∧ Keyed svc db faults orgId key out.1.db) ∨
    Failed out.2 ∧ ∀ key after, ¬Keyed svc db faults orgId key after

variable {out : World × Option (Except Failure String)}
theorem phase_unlooked (same : out.1 = ⟨db,requests⟩) (failed : Failed out.2)
    (unlooked : ∀ orgAgent typeId, ¬Looked db faults orgId orgAgent typeId) :
    KeyPhase svc db faults orgId requests out := by
  have unwritten : ¬Writes svc db faults orgId := by
    rintro ⟨orgAgent,typeId,token,mints,-⟩
    exact unlooked _ _ mints.looked
  have unkeyed : ∀ key after, ¬Keyed svc db faults orgId key after := by
    intro key after keyed
    cases keyed with
    | stored orgAgent typeId stored key looked has column decrypted => exact unlooked _ _ looked
    | minted orgAgent typeId token key mints answered decrypted => exact unlooked _ _ mints.looked
  refine ⟨by rw [same],by rw [same],fun orgAgent there => ⟨orgAgent,by rw [same]; exact there⟩,?_,.inr ⟨failed,unkeyed⟩⟩
  rw [same]
  exact ⟨fun _ => unwritten,fun _ => rfl⟩

theorem phase_unminted (looked : Looked db faults orgId orgAgent typeId) (same : out.1 = ⟨db,requests⟩)
    (failed : Failed out.2)
    (unminted : ∀ token, ¬Mints svc db faults orgId orgAgent typeId token)
    (unstored : tokenless orgAgent typeId = false → ownKey svc orgAgent = none) :
        KeyPhase svc db faults orgId requests out := by
  have unwritten : ¬Writes svc db faults orgId := by
    rintro ⟨other,otherId,token,mints,-⟩
    obtain ⟨rfl,rfl⟩ := looked_unique looked mints.looked
    exact unminted token mints
  have unkeyed : ∀ key after, ¬Keyed svc db faults orgId key after := by
    intro key after keyed
    cases keyed with
    | stored other otherId stored key looked' has column decrypted =>
      obtain ⟨rfl,rfl⟩ := looked_unique looked looked'
      have none_ := unstored has
      rw [ownKey,(Option.filter_eq_some_iff.mp column).1] at none_
      cases none_.symm.trans decrypted
    | minted other otherId token key mints answered decrypted =>
      obtain ⟨rfl,rfl⟩ := looked_unique looked mints.looked
      exact unminted token mints
  refine ⟨by rw [same],by rw [same],fun orgAgent there => ⟨orgAgent,by rw [same]; exact there⟩,?_,.inr ⟨failed,unkeyed⟩⟩
  rw [same]
  exact ⟨fun _ => unwritten,fun _ => rfl⟩

theorem withKey_agent (there : db.org_agents orgId = some orgAgent) :
    (db.withKey orgId token).org_agents orgId = some (orgAgent.withKey token) := by
  change Function.update _ _ _ _ = _
  rw [Function.update_self,there]
  rfl

theorem phase_minted (mints : Mints svc db faults orgId orgAgent typeId token)
    (same : out.1 = ⟨db.withKey orgId token,requests⟩)
    (ended : (∃ key, out.2 = some (.ok key) ∧ Keyed svc db faults orgId key (db.withKey orgId token)) ∨
      Failed out.2 ∧ ∀ key after, ¬Keyed svc db faults orgId key after) : KeyPhase svc db faults orgId requests out := by
  have agent := mints.looked.agent
  refine ⟨by rw [same],by rw [same]; rfl,fun other there => ⟨_,by rw [same]; exact withKey_agent agent⟩,
      ?_,by rw [same]; exact ended⟩
  rw [same]
  constructor
  · rintro kept ⟨other,otherId,otherToken,mints',differs⟩
    obtain ⟨rfl,rfl,rfl⟩ := mints_unique mints mints'
    have row := congrArg Prod.fst kept
    change (db.withKey orgId token).org_agents orgId = db.org_agents orgId at row
    rw [withKey_agent agent,agent] at row
    exact differs (congrArg OrgAgent.apiKey (Option.some.inj row)).symm
  · intro unwritten
    have had : orgAgent.apiKey = some token := by
      by_contra differs
      exact unwritten ⟨orgAgent,typeId,token,mints,differs⟩
    have row : orgAgent.withKey token = orgAgent := by
      rw [OrgAgent.withKey,← had]
    change ((db.withKey orgId token).org_agents orgId,_,_) = (db.org_agents orgId,_,_)
    rw [withKey_agent agent,agent,row]
    rfl

theorem attempt_decrypt {w : World} {text : Option String} :
    attempt (carry svc) .other faults (decryptPassword svc.decrypt .invalidCredentials text) w =
      (w,some (match text.bind svc.decrypt with
        | none => .error .invalidCredentials
        | some password => .ok password)) := by
  unfold decryptPassword
  cases text.bind svc.decrypt with
  | none => rfl
  | some password => rfl
theorem failed_error {α : Type} {error : Failure} : Failed (some (.error error) : Option (Except Failure α)) := by
  intro value same
  cases same

theorem updated_phase (looked : Looked db faults orgId orgAgent typeId) (without : tokenless orgAgent typeId = true)
    (admin : faults (.platformAdminAgent .getOrgAgentApiKey) = .none)
    (fetched : ∃ agentEndPoint apiKey tenantId fresh,
      tokenRequest svc db orgAgent = some (agentEndPoint,apiKey,tenantId) ∧
      faults (.getTenantWalletToken agentEndPoint apiKey tenantId) = .none ∧
      truthy (svc.tenantWalletToken agentEndPoint apiKey tenantId) = some fresh ∧ token = svc.encrypt fresh) :
    KeyPhase svc db faults orgId requests
      (attempt (carry svc) .other faults (perform (.updateTenantToken orgId token) >>= tokenKey svc) ⟨db,requests⟩) := by
  have carried : carry svc (.updateTenantToken orgId token) ⟨db,requests⟩ =
      (⟨db.withKey orgId token,requests⟩,.ok (orgAgent.withKey token)) := by
    simp only [carry,looked.agent]
  have unkeyed : svc.decrypt token = none ∨ faults (.updateTenantToken orgId token) ≠ .none →
      ∀ key after, ¬Keyed svc db faults orgId key after := by
    intro lacking key after keyed
    cases keyed with
    | stored other otherId stored key looked' has column decrypted =>
      obtain ⟨rfl,rfl⟩ := looked_unique looked looked'
      rw [without] at has
      cases has
    | minted other otherId token' key mints' answered decrypted =>
      obtain ⟨rfl,rfl⟩ := looked_unique looked mints'.looked
      obtain ⟨_,_,_,_,request,-,answer,rfl⟩ := fetched
      obtain ⟨_,_,_,_,request',-,answer',rfl⟩ := mints'.fetched
      cases request.symm.trans request'
      cases answer.symm.trans answer'
      rcases lacking with unreadable | bad
      · cases unreadable.symm.trans decrypted
      · exact bad answered
  rw [attempt_bind]
  by_cases well : faults (.updateTenantToken orgId token) = .none
  · have mints : Mints svc db faults orgId orgAgent typeId token := ⟨looked,without,admin,fetched,by rw [well]; rfl⟩
    rw [perform,attempt_ok well carried]
    change KeyPhase svc db faults orgId requests (attempt (carry svc) .other faults (tokenKey svc _) _)
    unfold tokenKey
    cases full : truthy (orgAgent.withKey token).apiKey with
    | none =>
      have blank : token = "" := by
        by_contra some_
        rw [truthy,OrgAgent.withKey,Option.filter_some_pos (by simpa using some_)] at full
        cases full
      exact phase_minted mints rfl (.inr ⟨failed_error,unkeyed (.inl (by rw [blank]; exact svc.empty))⟩)
    | some apiKey =>
      obtain ⟨same,-⟩ := Option.filter_eq_some_iff.mp full
      cases same
      dsimp only
      rw [attempt_decrypt]
      cases readable : (some token).bind svc.decrypt with
      | none => exact phase_minted mints rfl (.inr ⟨failed_error,unkeyed (.inl readable)⟩)
      | some key => exact phase_minted mints rfl (.inl ⟨key,rfl,.minted orgAgent typeId token key mints well readable⟩)
  · rw [perform,attempt_fault well,carried]
    have ended := andThen_failed (if (faults (.updateTenantToken orgId token)).undone = true then ⟨db,requests⟩
      else ⟨db.withKey orgId token,requests⟩,(faults (.updateTenantToken orgId token)).ends Failure.other)
      (fun updated => attempt (carry svc) .other faults (tokenKey svc updated)) (ends_failed well)
    cases done : (faults (.updateTenantToken orgId token)).undone with
    | false =>
      rw [done] at ended
      exact phase_minted ⟨looked,without,admin,fetched,done⟩ ended.1 (.inr ⟨ended.2,unkeyed (.inr well)⟩)
    | true =>
      rw [done] at ended
      refine phase_unminted looked ended.1 ended.2 (fun other mints => ?_) fun has => ?_
      · obtain ⟨_,_,_,_,request,-,answer,rfl⟩ := fetched
        obtain ⟨_,_,_,_,request',-,answer',rfl⟩ := mints.fetched
        cases request.symm.trans request'
        cases answer.symm.trans answer'
        rw [mints.carried] at done
        cases done
      · rw [without] at has
        cases has

theorem attempt_read {command : Cmd} {w : World} {result : Except Failure (Ret command)} {β : Type}
    {f : Ret command → Async β}
    (carried : carry svc command w = (w,result)) :
    (∃ value, faults command = .none ∧ result = .ok value ∧
      attempt (carry svc) .other faults (perform command >>= f) w = attempt (carry svc) .other faults (f value) w) ∨
    (attempt (carry svc) .other faults (perform command >>= f) w).1 = w ∧
      Failed (attempt (carry svc) .other faults (perform command >>= f) w).2 ∧
      ¬(faults command = .none ∧ ∃ value, result = .ok value) := by
  rw [attempt_bind,perform]
  by_cases well : faults command = .none
  · cases result with
    | ok value =>
      rw [attempt_ok well carried]
      exact .inl ⟨value,well,rfl,rfl⟩
    | error error =>
      rw [attempt_error well carried]
      refine .inr ⟨rfl,failed_error,?_⟩
      rintro ⟨-,value,same⟩
      cases same
  · rw [attempt_fault well,carried,ite_self]
    have ended := andThen_failed (w,(faults command).ends Failure.other)
      (fun value => attempt (carry svc) .other faults (f value)) (ends_failed well)
    exact .inr ⟨ended.1,ended.2,fun both => well both.1⟩

theorem tokenRequest_eq {agentEndPoint apiKey tenantId : String} :
    tokenRequest svc db orgAgent = some (agentEndPoint,apiKey,tenantId) ↔
      truthy (db.admin.bind (·.agentEndPoint)) = some agentEndPoint ∧ truthy (adminKey svc db) = some apiKey ∧
        truthy orgAgent.tenantId = some tenantId := by
  unfold tokenRequest
  cases truthy (db.admin.bind (·.agentEndPoint)) with
  | none => simp
  | some e =>
    cases truthy (adminKey svc db) with
    | none => simp
    | some k =>
      cases truthy orgAgent.tenantId with
      | none => simp
      | some t => simp

theorem admin_head {agents : List OrgAgent}
    (found : orThrow (db.platformAdmin.map fun id => (db.org_agents id).toList) = .ok agents) :
    agents.head? = db.admin := by
  unfold Db.admin
  cases named : db.platformAdmin with
  | none =>
    rw [named] at found
    cases found
  | some id =>
    rw [named] at found
    cases found
    exact Option.head?_toList

theorem admin_there {key : String} (password : adminKey svc db = some key) :
    ∃ agents, orThrow (db.platformAdmin.map fun id => (db.org_agents id).toList) = .ok agents := by
  cases named : db.platformAdmin with
  | none =>
    rw [adminKey,Db.admin,named] at password
    cases password
  | some id => exact ⟨_,rfl⟩

theorem mint_phase (looked : Looked db faults orgId orgAgent typeId) (without : tokenless orgAgent typeId = true) :
    KeyPhase svc db faults orgId requests (attempt (carry svc) .other faults (mint svc orgAgent) ⟨db,requests⟩) := by
  have unstored : tokenless orgAgent typeId = false → ownKey svc orgAgent = none := by
    intro has
    rw [without] at has
    cases has
  have ended : ∀ {out : World × Option (Except Failure String)}, out.1 = ⟨db,requests⟩ → Failed out.2 →
      (∀ token, ¬Mints svc db faults orgId orgAgent typeId token) → KeyPhase svc db faults orgId requests out :=
    fun same failed unminted => phase_unminted looked same failed unminted unstored
  unfold mint
  have read : carry svc (.platformAdminAgent .getOrgAgentApiKey) ⟨db,requests⟩ =
      (⟨db,requests⟩,orThrow (db.platformAdmin.map fun id => (db.org_agents id).toList)) := rfl
  rcases attempt_read read with ⟨agents,admin,found,same⟩ | ⟨same,failed,bad⟩
  · have key : (agents.head?.bind (·.apiKey)).bind svc.decrypt = adminKey svc db := by rw [admin_head found]; rfl
    rw [same,attempt_bind,attempt_decrypt,key]
    cases password : adminKey svc db with
    | none =>
      refine ended rfl failed_error fun token mints => ?_
      obtain ⟨_,_,_,_,request,-⟩ := mints.fetched
      have lacking := (tokenRequest_eq.mp request).2.1
      rw [password] at lacking
      cases lacking
    | some apiKey =>
      change KeyPhase svc db faults orgId requests
          (attempt (carry svc) .other faults (getTenantToken svc _ _ _ _ >>= tokenKey svc) _)
      rw [admin_head found]
      unfold getTenantToken
      rw [truthy_named looked.agent]
      have lacking : truthy (db.admin.bind (·.agentEndPoint)) = none ∨ truthy (some apiKey) = none ∨
          truthy orgAgent.tenantId = none → ∀ token, ¬Mints svc db faults orgId orgAgent typeId token := by
        intro lacks token mints
        obtain ⟨_,_,_,_,request,-⟩ := mints.fetched
        obtain ⟨endPoint,key,tenant⟩ := tokenRequest_eq.mp request
        rw [password] at key
        rcases lacks with lacks | lacks | lacks
        · cases lacks.symm.trans endPoint
        · cases lacks.symm.trans key
        · cases lacks.symm.trans tenant
      cases endPoint : truthy (db.admin.bind (·.agentEndPoint)) with
      | none => exact ended rfl failed_error (lacking (.inl endPoint))
      | some agentEndPoint =>
        cases key : truthy (some apiKey) with
        | none => exact ended rfl failed_error (lacking (.inr (.inl key)))
        | some apiKey' =>
          cases tenant : truthy orgAgent.tenantId with
          | none => exact ended rfl failed_error (lacking (.inr (.inr tenant)))
          | some tenantId =>
            have request : tokenRequest svc db orgAgent = some (agentEndPoint,apiKey',tenantId) :=
              tokenRequest_eq.mpr ⟨endPoint,by rw [password,key],tenant⟩
            have asked : carry svc (.getTenantWalletToken agentEndPoint apiKey' tenantId) ⟨db,requests⟩ =
              (⟨db,requests⟩,.ok (svc.tenantWalletToken agentEndPoint apiKey' tenantId)) := rfl
            dsimp only
            rw [Await.seq_assoc]
            rcases attempt_read asked with ⟨answer,well,same,onward⟩ | ⟨same,failed,bad⟩
            · cases same
              rw [onward]
              cases fresh : truthy (svc.tenantWalletToken agentEndPoint apiKey' tenantId) with
              | none =>
                refine ended rfl failed_error fun token mints => ?_
                obtain ⟨_,_,_,_,request',-,some_,-⟩ := mints.fetched
                cases request.symm.trans request'
                cases fresh.symm.trans some_
              | some text =>
                exact updated_phase looked without admin ⟨_,_,_,_,request,well,fresh,rfl⟩
            · refine ended same failed fun token mints => ?_
              obtain ⟨_,_,_,_,request',well,-⟩ := mints.fetched
              cases request.symm.trans request'
              exact bad ⟨well,_,rfl⟩
  · refine ended same failed fun token mints => bad ⟨mints.admin,?_⟩
    obtain ⟨_,_,_,_,request,-⟩ := mints.fetched
    exact admin_there (Option.filter_eq_some_iff.mp (tokenRequest_eq.mp request).2.1).1

variable (svc db faults orgId requests) in
theorem key_phase : KeyPhase svc db faults orgId requests
    (attempt (carry svc) .other faults (getOrgAgentApiKey svc orgId) ⟨db,requests⟩) := by
  unfold getOrgAgentApiKey
  have read : carry svc (.getAgentApiKey .getOrgAgentApiKey orgId)
      ⟨db,requests⟩ = (⟨db,requests⟩,.ok (db.org_agents orgId)) := rfl
  have typed : carry svc (.getOrgAgentTypeDetails OrgAgentType.SHARED) ⟨db,requests⟩ =
    (⟨db,requests⟩,orThrow (db.typeId OrgAgentType.SHARED)) := rfl
  rcases attempt_read read with ⟨found,well,there,same⟩ | ⟨same,failed,bad⟩
  · cases there
    rw [same]
    rcases attempt_read typed with ⟨typeId,well',named,same⟩ | ⟨same,failed,bad⟩
    · have shared : db.typeId OrgAgentType.SHARED = some typeId := by
        cases row : db.typeId OrgAgentType.SHARED with
        | none =>
          rw [row] at named
          cases named
        | some id =>
          rw [row] at named
          cases named
          rfl
      rw [same]
      cases agent : db.org_agents orgId with
      | none =>
        refine phase_unlooked rfl failed_error fun orgAgent typeId looked => ?_
        rw [looked.agent] at agent
        cases agent
      | some orgAgent =>
        have looked : Looked db faults orgId orgAgent typeId := ⟨agent,shared,well,well'⟩
        dsimp only
        cases without : tokenless orgAgent typeId with
        | true =>
          rw [if_pos rfl]
          exact mint_phase looked without
        | false =>
          have unminted : ∀ token, ¬Mints svc db faults orgId orgAgent typeId token := by
            intro token mints
            rw [mints.tokenless] at without
            cases without
          rw [if_neg (by decide)]
          cases column : truthy orgAgent.apiKey with
          | none =>
            refine phase_unminted looked rfl failed_error unminted fun _ => ?_
            rw [ownKey]
            cases stored : orgAgent.apiKey with
            | none => rfl
            | some text =>
              have blank : text = "" := by
                by_contra full
                rw [truthy,stored,Option.filter_some_pos (by simpa using full)] at column
                cases column
              rw [blank]
              exact svc.empty
          | some stored =>
            have had := (Option.filter_eq_some_iff.mp column).1
            dsimp only
            rw [attempt_decrypt]
            cases readable : (some stored).bind svc.decrypt with
            | none =>
              refine phase_unminted looked rfl failed_error unminted fun _ => ?_
              rw [ownKey,had]
              exact readable
            | some key =>
              refine ⟨rfl,rfl,fun other there => ⟨other,there⟩,⟨fun _ => ?_,fun _ => rfl⟩,
                .inl ⟨key,rfl,.stored orgAgent typeId stored key looked without column readable⟩⟩
              rintro ⟨other,otherId,token,mints,-⟩
              obtain ⟨same,same'⟩ := looked_unique mints.looked looked
              rw [same,same'] at mints
              exact unminted token mints
    · refine phase_unlooked same failed fun orgAgent typeId looked => bad ⟨looked.typed,typeId,?_⟩
      rw [looked.shared]
      rfl
  · exact phase_unlooked same failed fun orgAgent typeId looked => bad ⟨looked.read,_,rfl⟩

variable {own : String}
theorem shared_truthy : (truthy (some OrgAgentType.SHARED)).isSome = true := by decide
theorem free_iff : (tablesToCheck.find? fun table => 0 < counted db table orgId) = none ↔
    ∀ table ∈ tablesToCheck, ∀ row ∈ db.rows table, ofOrg orgId row = false := by
  rw [List.find?_eq_none]
  refine forall_congr' fun table => imp_congr_right fun _ => ?_
  rw [decide_eq_true_eq,Nat.not_lt,Nat.le_zero,counted,List.length_eq_zero_iff,List.filter_eq_nil_iff]
  exact forall_congr' fun row => imp_congr_right fun _ => by simp

theorem deletes_iff {after : Db} {deleted : Deleted} : deleteOrgAgentByOrg db orgId = .ok (after,deleted) ↔
    ∃ orgAgent, db.org_agents orgId = some orgAgent ∧
      (∀ table ∈ tablesToCheck, ∀ row ∈ db.rows table, ofOrg orgId row = false) ∧
      inUse (remaining db orgId) orgAgent = false ∧ after = db.without orgId ∧
      deleted = ⟨counted db .org_dids orgId,counted db .agent_invitations orgId,orgAgent⟩ := by
  unfold deleteOrgAgentByOrg
  rw [← free_iff]
  cases referenced : tablesToCheck.find? fun table => 0 < counted db table orgId with
  | some table => simp
  | none =>
    cases agent : db.org_agents orgId with
    | none => simp
    | some orgAgent =>
      cases used : inUse (remaining db orgId) orgAgent with
      | true => simp [used]
      | false =>
        simp only [used,Bool.false_eq_true,if_false,Except.ok.injEq,Prod.mk.injEq,Option.some.injEq,
            exists_eq_left',true_and]
        exact ⟨fun both => ⟨both.1.symm,both.2.symm⟩,fun both => ⟨both.1.symm,both.2.symm⟩⟩

/-- How the part that removes the rows ends, where it is not reached. -/
def Untouched {α : Type} (w : World) (out : World × Option (Except Failure α)) : Prop := out.1 = w ∧ Failed out.2
theorem untouched_bind {α β : Type} {p : Async α} {f : α → Async β} {w left : World}
    (untouched : Untouched left (attempt (carry svc) .other faults p w)) :
    Untouched left (attempt (carry svc) .other faults (p >>= f) w) := by
  have ended :=
      andThen_failed (attempt (carry svc) .other faults p w) (fun value => attempt (carry svc) .other faults (f value))
    untouched.2
  rw [attempt_bind]
  exact ⟨ended.1.trans untouched.1,ended.2⟩

variable (agent : db.org_agents orgId = some orgAgent)
include agent
variable (svc requests) in
theorem delete_ok (free : Free db orgId orgAgent) : carry svc (.deleteOrgAgentByOrg orgId) ⟨db,requests⟩ =
    (⟨db.without orgId,requests⟩,.ok ⟨counted db .org_dids orgId,counted db .agent_invitations orgId,orgAgent⟩) := by
  have carried := deletes_iff.mpr ⟨orgAgent,agent,free.free,free.unused,rfl,rfl⟩
  simp only [carry,carried]

variable (svc requests) in
theorem delete_error (kept : ¬Free db orgId orgAgent) : ∃ error,
    carry svc (.deleteOrgAgentByOrg orgId) ⟨db,requests⟩ = (⟨db,requests⟩,.error error) := by
  cases result : deleteOrgAgentByOrg db orgId with
  | error error => exact ⟨error,by simp only [carry,result]⟩
  | ok both =>
    obtain ⟨other,there,free,unused,-⟩ := deletes_iff.mp result
    cases agent.symm.trans there
    exact absurd ⟨free,unused⟩ kept

theorem delete_cases :
    ¬(Free db orgId orgAgent ∧ (faults (.deleteOrgAgentByOrg orgId)).undone = false) ∧
      Untouched ⟨db,requests⟩ (attempt (carry svc) .other faults (perform (.deleteOrgAgentByOrg orgId)) ⟨db,requests⟩) ∨
    (Free db orgId orgAgent ∧ (faults (.deleteOrgAgentByOrg orgId)).undone = false) ∧
      (faults (.deleteOrgAgentByOrg orgId) = .none ∧
        attempt (carry svc) .other faults (perform (.deleteOrgAgentByOrg orgId)) ⟨db,requests⟩ =
          (⟨db.without orgId,requests⟩,some (.ok ⟨counted db .org_dids orgId,counted db .agent_invitations orgId,orgAgent⟩)) ∨
      faults (.deleteOrgAgentByOrg orgId) ≠ .none ∧ Untouched ⟨db.without orgId,requests⟩
        (attempt (carry svc) .other faults (perform (.deleteOrgAgentByOrg orgId)) ⟨db,requests⟩)) := by
  by_cases free : Free db orgId orgAgent
  · have carried := delete_ok svc requests agent free
    by_cases well : faults (.deleteOrgAgentByOrg orgId) = .none
    · exact .inr ⟨⟨free,by rw [well]; rfl⟩,.inl ⟨well,attempt_ok well carried⟩⟩
    · rw [perform,attempt_fault well,carried]
      cases done : (faults (.deleteOrgAgentByOrg orgId)).undone with
      | false => exact .inr ⟨⟨free,rfl⟩,.inr ⟨well,rfl,ends_failed well⟩⟩
      | true => exact .inl ⟨fun both => absurd both.2 (by decide),rfl,ends_failed well⟩
  · obtain ⟨error,carried⟩ := delete_error svc requests agent free
    refine .inl ⟨fun both => free both.1,?_⟩
    by_cases well : faults (.deleteOrgAgentByOrg orgId) = .none
    · rw [perform,attempt_error well carried]
      exact ⟨rfl,failed_error⟩
    · rw [perform,attempt_fault well,carried,ite_self]
      exact ⟨rfl,ends_failed well⟩

omit agent
variable {url authorization : String} {deleted : Deleted} {w : World}
def rest (url authorization : String) (deleted : Deleted) : Async (Option OrgAgent) := do
  let deleteOrgAgent ← ask url authorization deleted
  perform .commit
  pure (some deleteOrgAgent)
def Later : Cmd → Prop
  | .httpDelete _ _ => True
  | .orgDeletedActivity _ _ => True
  | .commit => True
  | _ => False

theorem later_keeps {c : Cmd} (later : Later c) (w : World) : (carry svc c w).1.db = w.db := by
  cases c with
  | httpDelete url authorization => rfl
  | orgDeletedActivity deletedRecordsCount deletedRecordInTable => rfl
  | commit => rfl
  | _ => exact later.elim

theorem log_cases {records : Nat} {tableName : String} {β : Type} {f : Unit → Async β} :
    (0 < records → faults (.orgDeletedActivity records tableName) = .none) ∧
      attempt (carry svc) .other faults (logDeletionActivity records tableName >>= f) w =
        attempt (carry svc) .other faults (f ()) w ∨
    ¬(0 < records → faults (.orgDeletedActivity records tableName) = .none) ∧
      Failed (attempt (carry svc) .other faults (logDeletionActivity records tableName >>= f) w).2 := by
  have logged : carry svc (.orgDeletedActivity records tableName) w = (w,.ok ()) := rfl
  unfold logDeletionActivity
  by_cases some_ : 0 < records
  · rw [if_pos some_]
    rcases attempt_read logged with ⟨value,well,-,same⟩ | ⟨-,failed,bad⟩
    · exact .inl ⟨fun _ => well,same⟩
    · exact .inr ⟨fun well => bad ⟨well some_,_,rfl⟩,failed⟩
  · rw [if_neg some_]
    exact .inl ⟨fun positive => absurd positive some_,rfl⟩

theorem only_log {records : Nat} {tableName : String} : Only Later (logDeletionActivity records tableName) := by
  unfold logDeletionActivity
  split
  · exact ⟨trivial,fun answer => by cases answer <;> trivial⟩
  · trivial
theorem only_rest : Only Later (rest url authorization deleted) := by
  unfold rest ask
  refine only_bind (only_bind ?_ fun status => ?_) fun deleteOrgAgent => ?_
  · exact ⟨trivial,fun answer => by cases answer <;> trivial⟩
  · split
    · trivial
    · exact only_bind only_log fun _ => only_bind only_log fun _ => only_bind only_log fun _ => trivial
  · exact only_bind ⟨trivial,fun answer => by cases answer <;> trivial⟩ fun _ => trivial

theorem resolved_ok {reported : Option Nat} {status : Nat} (ok : resolved reported = .ok status) :
    reported = some status ∧ status < 300 := by
  unfold resolved at ok
  cases reported with
  | none => cases ok
  | some answer =>
    dsimp only at ok
    split at ok
    · rename_i success
      cases ok
      exact ⟨rfl,success.2⟩
    · cases ok

theorem rest_cases : Reported svc faults url authorization deleted.orgDid deleted.agentInvitation ∧
      attempt (carry svc) .other faults (rest url authorization deleted) ⟨db,[]⟩ =
        (⟨db,[⟨url,authorization,some NO_CONTENT⟩]⟩,some (.ok (some deleted.deleteOrgAgent))) ∨
    ¬Reported svc faults url authorization deleted.orgDid deleted.agentInvitation ∧
      (attempt (carry svc) .other faults (rest url authorization deleted) ⟨db,[]⟩).1.db = db ∧
      Failed (attempt (carry svc) .other faults (rest url authorization deleted) ⟨db,[]⟩).2 := by
  have kept : (attempt (carry svc) .other faults (rest url authorization deleted) ⟨db,[]⟩).1.db = db :=
    attempt_keeps (P := fun w => w.db = db) (fun c later w same => (later_keeps later w).trans same) only_rest rfl
  have fails : ¬Reported svc faults url authorization deleted.orgDid deleted.agentInvitation →
      Failed (attempt (carry svc) .other faults (rest url authorization deleted) ⟨db,[]⟩).2 →
      ¬Reported svc faults url authorization deleted.orgDid deleted.agentInvitation ∧
        (attempt (carry svc) .other faults (rest url authorization deleted) ⟨db,[]⟩).1.db = db ∧
        Failed (attempt (carry svc) .other faults (rest url authorization deleted) ⟨db,[]⟩).2 :=
    fun unreported failed => ⟨unreported,kept,failed⟩
  by_cases asked : faults (.httpDelete url authorization) = .none
  · have sent : carry svc (.httpDelete url authorization) ⟨db,[]⟩ =
      (⟨db,[⟨url,authorization,svc.answer url authorization⟩]⟩,resolved (svc.answer url authorization)) := rfl
    have start : rest url authorization deleted = perform (.httpDelete url authorization) >>= fun status =>
        (if status ≠ NO_CONTENT ∧ status ≠ NOT_FOUND then throw .walletNotDeleted
          else logDeletionActivity deleted.orgDid "org_dids" >>= fun _ =>
            logDeletionActivity deleted.agentInvitation "agent_invitations" >>= fun _ =>
            logDeletionActivity 1 "org_agents" >>= fun _ => pure deleted.deleteOrgAgent) >>= fun deleteOrgAgent =>
          perform .commit >>= fun _ => pure (some deleteOrgAgent) := Await.seq_assoc _ _ _
    by_cases reported : svc.answer url authorization = some NO_CONTENT
    · have carried : carry svc (.httpDelete url authorization) ⟨db,[]⟩ =
          (⟨db,[⟨url,authorization,some NO_CONTENT⟩]⟩,.ok NO_CONTENT) := by
        rw [sent,reported]
        rfl
      have onward : attempt (carry svc) .other faults (rest url authorization deleted) ⟨db,[]⟩ =
          attempt (carry svc) .other faults (logDeletionActivity deleted.orgDid "org_dids" >>= fun _ =>
            logDeletionActivity deleted.agentInvitation "agent_invitations" >>= fun _ =>
            logDeletionActivity 1 "org_agents" >>= fun _ => perform .commit >>= fun _ =>
                pure (some deleted.deleteOrgAgent))
            ⟨db,[⟨url,authorization,some NO_CONTENT⟩]⟩ := by
        rw [start,attempt_bind,perform,attempt_ok asked carried]
        change attempt _ _ _ ((if _ then _ else _) >>= _) _ = _
        rw [if_neg fun both => both.1 rfl]
        simp only [Await.seq_assoc]
        rfl
      have committed : carry svc .commit ⟨db,[⟨url,authorization,some NO_CONTENT⟩]⟩ =
        (⟨db,[⟨url,authorization,some NO_CONTENT⟩]⟩,.ok ()) := rfl
      rw [onward] at fails ⊢
      rcases log_cases with ⟨first,same⟩ | ⟨bad,failed⟩
      · rw [same] at fails ⊢
        rcases log_cases with ⟨second,same⟩ | ⟨bad,failed⟩
        · rw [same] at fails ⊢
          rcases log_cases with ⟨third,same⟩ | ⟨bad,failed⟩
          · rw [same] at fails ⊢
            rcases attempt_read committed with ⟨_,last_,-,same⟩ | ⟨-,failed,bad⟩
            · rw [same]
              exact .inl ⟨⟨asked,reported,first,second,third Nat.one_pos,last_⟩,rfl⟩
            · exact .inr (fails (fun all => bad ⟨all.committed,_,rfl⟩) failed)
          · exact .inr (fails (fun all => bad fun _ => all.orgAgent) failed)
        · exact .inr (fails (fun all => bad all.agentInvitation) failed)
      · exact .inr (fails (fun all => bad all.orgDid) failed)
    · refine .inr (fails (fun all => reported all.reported) ?_)
      rw [start,attempt_bind]
      cases status : resolved (svc.answer url authorization) with
      | error error =>
        rw [status] at sent
        rw [perform,attempt_error asked sent]
        exact failed_error
      | ok status' =>
        rw [status] at sent
        rw [perform,attempt_ok asked sent]
        have bad : status' ≠ NO_CONTENT ∧ status' ≠ NOT_FOUND := by
          obtain ⟨answer,small⟩ := resolved_ok status
          refine ⟨fun same => reported (same ▸ answer),?_⟩
          rintro rfl
          exact absurd small (by decide)
        change Failed (attempt _ _ _ ((if _ then _ else _) >>= _) _).2
        rw [if_pos bad]
        exact failed_error
  · refine .inr (fails (fun all => asked all.asked) ?_)
    unfold rest ask
    rw [Await.seq_assoc,attempt_bind,perform,attempt_fault asked]
    exact (andThen_failed _ _ (ends_failed asked)).2

theorem archive_cases {orgDid : Option String} {β : Type} {f : Unit → Async β} :
    (∀ did, truthy orgDid = some did → faults (.archiveSchemas did) = .none) ∧
      attempt (carry svc) .other faults (archive orgDid >>= f) w = attempt (carry svc) .other faults (f ()) w ∨
    ¬(∀ did, truthy orgDid = some did → faults (.archiveSchemas did) = .none) ∧
      Untouched w (attempt (carry svc) .other faults (archive orgDid >>= f) w) := by
  unfold archive
  cases there : truthy orgDid with
  | none => exact .inl ⟨fun did some_ => (by cases some_),rfl⟩
  | some did =>
    have archived : carry svc (.archiveSchemas did) w = (w,.ok ()) := rfl
    rcases attempt_read archived with ⟨value,well,-,same⟩ | ⟨same,failed,bad⟩
    · refine .inl ⟨fun other some_ => ?_,same⟩
      cases some_
      exact well
    · exact .inr ⟨fun all => bad ⟨all did rfl,_,rfl⟩,same,failed⟩

variable (complete : (truthy orgAgent.tenantId).isSome = true) (typed : truthy orgAgent.orgAgentTypeId = some typeId)
include complete typed
theorem remove_cases : (∃ type authorization, Approached svc db faults orgAgent typeId type authorization ∧
      attempt (carry svc) .other faults (remove svc orgId own orgAgent typeId) ⟨db,[]⟩ =
        attempt (carry svc) .other faults
        (perform (.deleteOrgAgentByOrg orgId) >>= rest (urlOf type orgAgent) authorization)
          ⟨db,[]⟩) ∨
    (∀ type authorization, ¬Approached svc db faults orgAgent typeId type authorization) ∧
      Untouched ⟨db,[]⟩ (attempt (carry svc) .other faults (remove svc orgId own orgAgent typeId) ⟨db,[]⟩) := by
  have look : carry svc (.getOrgAgentType typeId) ⟨db,[]⟩ = (⟨db,[]⟩,.ok (db.typeOf typeId)) := rfl
  have admin : carry svc (.platformAdminAgent .deleteWallet) ⟨db,[]⟩ =
    (⟨db,[]⟩,orThrow (db.platformAdmin.map fun id => (db.org_agents id).toList)) := rfl
  have begun : carry svc .begin_ ⟨db,[]⟩ = (⟨db,[]⟩,.ok ()) := rfl
  unfold remove
  rcases attempt_read look with ⟨found,first,there,same⟩ | ⟨same,failed,bad⟩
  · cases there
    rw [same]
    cases type : db.typeOf typeId with
    | none =>
      refine .inr ⟨fun other authorization ready => ?_,rfl,failed_error⟩
      rw [ready.type] at type
      cases type
    | some agentType =>
      dsimp only
      unfold keyFor
      rw [if_pos shared_truthy,Await.seq_assoc]
      rcases attempt_read admin with ⟨agents,second,there,same⟩ | ⟨same,failed,bad⟩
      · have key : (agents.head?.bind (·.apiKey)).bind svc.decrypt = adminKey svc db := by rw [admin_head there]; rfl
        rw [same,attempt_bind,attempt_decrypt,key]
        cases password : adminKey svc db with
        | none =>
          refine .inr ⟨fun other authorization ready => ?_,rfl,failed_error⟩
          rw [ready.key] at password
          cases password
        | some authorization =>
          change (∃ type authorization, _ ∧ attempt _ _ _ (archive orgAgent.orgDid >>= _) _ = _) ∨
            _ ∧ Untouched _ (attempt _ _ _ (archive orgAgent.orgDid >>= _) _)
          rcases archive_cases with ⟨third,same⟩ | ⟨bad,untouched⟩
          · rw [same]
            rcases attempt_read begun with ⟨_,fourth,-,same⟩ | ⟨same,failed,bad⟩
            · rw [same]
              refine .inl ⟨agentType,authorization,⟨complete,typed,type,first,password,second,third,fourth⟩,?_⟩
              unfold callback
              rw [Await.seq_assoc]
              rfl
            · exact .inr ⟨fun type authorization ready => bad ⟨ready.begun,_,rfl⟩,same,failed⟩
          · exact .inr ⟨fun type authorization ready => bad ready.archived,untouched⟩
      · refine .inr ⟨fun other authorization ready => bad ⟨ready.admin,?_⟩,same,failed⟩
        exact admin_there ready.key
  · exact .inr ⟨fun type authorization ready => bad ⟨ready.typed,_,rfl⟩,same,failed⟩

omit complete typed
include agent
/-- What the call comes to after the rows are gone. -/
def Gone (svc : Services) (db : Db) (faults : Cmd → Fault) (orgId : String) (orgAgent : OrgAgent)
    (out : World × Option (Except Failure (Option OrgAgent))) : Prop :=
  (∃ orgAgentTypeId type authorization, Finishes svc db faults orgId orgAgent orgAgentTypeId type authorization ∧
    out.1.requests = [⟨urlOf type orgAgent,authorization,some NO_CONTENT⟩] ∧ ¬Failed out.2) ∨
  (∀ orgAgentTypeId type authorization, ¬Finishes svc db faults orgId orgAgent orgAgentTypeId type authorization) ∧
    (Failed out.2 ∨ out.1.requests = [])

theorem asked_cases {url authorization : String} :
    ¬(Free db orgId orgAgent ∧ (faults (.deleteOrgAgentByOrg orgId)).undone = false) ∧
      Untouched ⟨db,[]⟩ (attempt (carry svc) .other faults
        (perform (.deleteOrgAgentByOrg orgId) >>= rest url authorization) ⟨db,[]⟩) ∨
    (Free db orgId orgAgent ∧ (faults (.deleteOrgAgentByOrg orgId)).undone = false) ∧
      (attempt (carry svc) .other faults (perform (.deleteOrgAgentByOrg orgId) >>= rest url authorization) ⟨db,[]⟩).1.db =
        db.without orgId ∧
      ((faults (.deleteOrgAgentByOrg orgId) = .none ∧
          Reported svc faults url authorization (counted db .org_dids orgId) (counted db .agent_invitations orgId)) ∧
        (attempt (carry svc) .other faults (perform (.deleteOrgAgentByOrg orgId) >>= rest url authorization) ⟨db,[]⟩).1.requests =
          [⟨url,authorization,some NO_CONTENT⟩] ∧
        ¬Failed (attempt (carry svc) .other faults (perform (.deleteOrgAgentByOrg orgId) >>= rest url authorization) ⟨db,[]⟩).2 ∨
      ¬(faults (.deleteOrgAgentByOrg orgId) = .none ∧
          Reported svc faults url authorization (counted db .org_dids orgId) (counted db .agent_invitations orgId)) ∧
        Failed (attempt (carry svc) .other faults (perform (.deleteOrgAgentByOrg orgId) >>= rest url authorization) ⟨db,[]⟩).2) := by
  rcases delete_cases agent with ⟨bad,untouched⟩ | ⟨good,⟨well,same⟩ | ⟨bad,gone⟩⟩
  · exact .inl ⟨bad,untouched_bind untouched⟩
  · refine .inr ⟨good,?_⟩
    rw [attempt_then same]
    rcases rest_cases with ⟨reported,same⟩ | ⟨unreported,same,failed⟩
    · rw [same]
      exact ⟨rfl,.inl ⟨⟨well,reported⟩,rfl,fun failed => failed _ rfl⟩⟩
    · exact ⟨same,.inr ⟨fun both => unreported both.2,failed⟩⟩
  · have ended := untouched_bind (f := rest url authorization) gone
    exact .inr ⟨good,congrArg World.db ended.1,.inr ⟨fun both => bad both.1,ended.2⟩⟩

theorem orphan_cases (read : faults (.getAgentApiKey .deleteWallet orgId) = .none)
    (lacks : truthy orgAgent.tenantId = none ∨ truthy orgAgent.orgAgentTypeId = none) {p : Async (Option OrgAgent)}
    (same : p = perform (.deleteOrgAgentByOrg (orgAgent.orgId.getD "")) >>= fun _ => pure none) :
    Removes svc db faults orgId orgAgent ∧ (attempt (carry svc) .other faults p ⟨db,[]⟩).1.db = db.without orgId ∧
      Gone svc db faults orgId orgAgent (attempt (carry svc) .other faults p ⟨db,[]⟩) ∨
    ¬Removes svc db faults orgId orgAgent ∧ Untouched ⟨db,[]⟩ (attempt (carry svc) .other faults p ⟨db,[]⟩) := by
  have unfinished : ∀ orgAgentTypeId type authorization,
      ¬Finishes svc db faults orgId orgAgent orgAgentTypeId type authorization := by
    intro typeId type authorization finishes
    rcases lacks with lacks | lacks
    · have tenant := finishes.approached.tenant
      rw [lacks] at tenant
      cases tenant
    · cases lacks.symm.trans finishes.approached.typeId
  have named : orgAgent.orgId.getD "" = orgId := by rw [db.own orgId orgAgent agent]; rfl
  have incomplete : (truthy orgAgent.tenantId).isSome = true →
      (truthy orgAgent.orgAgentTypeId).isSome = true → False := by
    intro tenant type
    rcases lacks with lacks | lacks
    · rw [lacks] at tenant
      cases tenant
    · rw [lacks] at type
      cases type
  subst same
  rw [named]
  rcases delete_cases agent with ⟨bad,untouched⟩ | ⟨good,⟨well,same⟩ | ⟨bad,gone⟩⟩
  · exact .inr ⟨fun removes => bad ⟨removes.free,removes.carried⟩,untouched_bind untouched⟩
  · rw [attempt_then same]
    exact .inl
        ⟨⟨agent,read,fun tenant type => (incomplete tenant type).elim,good.1,good.2⟩,rfl,.inr ⟨unfinished,.inr rfl⟩⟩
  · have ended := untouched_bind (f := fun _ => (pure none : Async (Option OrgAgent))) gone
    exact .inl ⟨⟨agent,read,fun tenant type => (incomplete tenant type).elim,good.1,good.2⟩,congrArg World.db ended.1,
      .inr ⟨unfinished,.inl ended.2⟩⟩

theorem removal_cases {p : Async (Option OrgAgent)}
    (same : p = settle (perform (.getAgentApiKey .deleteWallet orgId)) >>= settled svc orgId (.ok own)) :
    Removes svc db faults orgId orgAgent ∧ (attempt (carry svc) .other faults p ⟨db,[]⟩).1.db = db.without orgId ∧
      Gone svc db faults orgId orgAgent (attempt (carry svc) .other faults p ⟨db,[]⟩) ∨
    ¬Removes svc db faults orgId orgAgent ∧ Untouched ⟨db,[]⟩ (attempt (carry svc) .other faults p ⟨db,[]⟩) := by
  have read : carry svc (.getAgentApiKey .deleteWallet orgId) ⟨db,[]⟩ = (⟨db,[]⟩,.ok (db.org_agents orgId)) := rfl
  subst same
  by_cases well : faults (.getAgentApiKey .deleteWallet orgId) = .none
  · have answered : attempt (carry svc) .other faults (settle (perform (.getAgentApiKey .deleteWallet orgId))) ⟨db,[]⟩ =
        (⟨db,[]⟩,some (.ok (.ok (some orgAgent)))) := by
      rw [attempt_settle,perform,attempt_ok well read,agent]
      rfl
    rw [attempt_then answered]
    unfold settled
    dsimp only
    cases tenant : truthy orgAgent.tenantId with
    | none => exact orphan_cases agent well (.inl tenant) rfl
    | some tenantId =>
      cases type : truthy orgAgent.orgAgentTypeId with
      | none => exact orphan_cases agent well (.inr type) rfl
      | some orgAgentTypeId =>
        dsimp only
        have complete : (truthy orgAgent.tenantId).isSome = true := by rw [tenant]; rfl
        rcases remove_cases complete type with ⟨named,authorization,approached,same⟩ | ⟨unready,untouched⟩
        · rw [same]
          rcases asked_cases agent with ⟨bad,untouched⟩ | ⟨good,gone,rest⟩
          · exact .inr ⟨fun removes => bad ⟨removes.free,removes.carried⟩,untouched⟩
          · refine .inl ⟨⟨agent,well,fun _ _ => ⟨_,_,_,approached⟩,good.1,good.2⟩,gone,?_⟩
            rcases rest with ⟨⟨answered,reported⟩,requests,ended⟩ | ⟨bad,failed⟩
            · exact .inl ⟨_,_,_,⟨approached,answered,reported⟩,requests,ended⟩
            · refine .inr ⟨fun otherId other key finishes => bad ?_,.inl failed⟩
              have again := finishes.approached
              cases type.symm.trans again.typeId
              cases approached.type.symm.trans again.type
              cases approached.key.symm.trans again.key
              exact ⟨finishes.answered,finishes.reported⟩
        · refine .inr ⟨fun removes => ?_,untouched⟩
          obtain ⟨otherId,other,key,ready⟩ := removes.approached complete (by rw [type]; rfl)
          cases type.symm.trans ready.typeId
          exact unready _ _ ready
  · refine .inr ⟨fun removes => well removes.read,?_⟩
    rw [attempt_bind,attempt_settle,perform,attempt_fault well,read,ite_self]
    cases fault : faults (.getAgentApiKey .deleteWallet orgId) with
    | none => exact absurd fault well
    | rejects done => exact ⟨rfl,failed_error⟩
    | stops done => exact ⟨rfl,fun value same => by cases same⟩

omit agent
/-- No request, and no row gone: all or nothing, unless the agent's row changed. -/
theorem kept_iff {after : Db} (out : World × Option (Except Failure (Option OrgAgent))) (same : out.1 = ⟨after,[]⟩)
    (failed : Failed out.2) (rows : after.rows = db.rows)
    (there : ∀ orgAgent, db.org_agents orgId = some orgAgent → ∃ left, after.org_agents orgId = some left) :
    AllOrNothing svc db orgId out ↔ rowsOf after orgId = rowsOf db orgId := by
  constructor
  · intro holds
    have unchanged := holds.unchanged failed
    rwa [same] at unchanged
  · intro unchanged
    refine ⟨?_,fun _ => by rw [same]; exact unchanged,?_⟩
    · rw [same]
      rintro (⟨⟨orgAgent,had⟩,gone⟩ | ⟨table,-,row,had,-,gone⟩)
      · obtain ⟨left,still⟩ := there orgAgent had
        cases gone.symm.trans still
      · change row ∉ after.rows table at gone
        rw [rows] at gone
        exact (gone had).elim
    · rw [same]
      intro request listed
      cases listed

theorem without_lost {after : Db} (had : db.org_agents orgId = some orgAgent) :
    rowsOf (after.without orgId) orgId ≠ rowsOf db orgId := by
  intro same
  have row : (after.without orgId).org_agents orgId = db.org_agents orgId := congrArg Prod.fst same
  change Function.update _ _ _ _ = _ at row
  rw [Function.update_self,had] at row
  cases row

theorem typeOf_shared (shared : db.typeId OrgAgentType.SHARED = some typeId) :
    db.typeOf typeId = some OrgAgentType.SHARED := by
  obtain ⟨row,found,rfl⟩ := Option.map_eq_some_iff.mp shared
  have named := List.find?_some found
  rw [decide_eq_true_eq] at named
  have listed := List.mem_of_find?_eq_some found
  unfold Db.typeOf
  cases other : db.org_agents_type.find? fun entry => entry.1 = row.1 with
  | none => exact absurd (by simp) (List.find?_eq_none.mp other row listed)
  | some entry =>
    have same : entry.1 = row.1 := by simpa using List.find?_some other
    have alike := List.inj_on_of_nodup_map db.distinct (List.mem_of_find?_eq_some other) listed same
    rw [alike,Option.map_some,named]

theorem tokenless_iff : tokenless orgAgent typeId = true ↔
    orgAgent.orgAgentTypeId = some typeId ∧ truthy orgAgent.apiKey = none := by
  rw [tokenless,Bool.and_eq_true,decide_eq_true_eq,Option.isNone_iff_eq_none]
theorem withKey_other {other : String} (apart : other ≠ orgId) :
    (db.withKey orgId token).org_agents other = db.org_agents other := Function.update_of_ne apart _ _

theorem adminKey_withKey (mints : Mints svc db faults orgId orgAgent typeId token) :
    adminKey svc (db.withKey orgId token) = adminKey svc db := by
  obtain ⟨_,_,_,_,request,-⟩ := mints.fetched
  have key := (Option.filter_eq_some_iff.mp (tokenRequest_eq.mp request).2.1).1
  rw [adminKey,Db.admin] at key ⊢
  change ((db.platformAdmin.bind (db.withKey orgId token).org_agents).bind _).bind _ = _
  cases platform : db.platformAdmin with
  | none =>
    rw [platform] at key
    cases key
  | some id =>
    rw [platform,Option.bind_some] at key
    rw [Option.bind_some,adminKey,Db.admin,platform,Option.bind_some]
    by_cases own : id = orgId
    · rw [own,mints.looked.agent] at key
      have blank := (tokenless_iff.mp mints.tokenless).2
      obtain ⟨text,column,readable⟩ := Option.bind_eq_some_iff.mp key
      change orgAgent.apiKey = some text at column
      rw [truthy,column,Option.filter_eq_none_iff] at blank
      have empty := blank text rfl
      rw [decide_eq_true_eq,not_not] at empty
      rw [empty,svc.empty] at readable
      cases readable
    · rw [withKey_other own]

theorem rightKey_iff {after : Db} {left : OrgAgent} {type authorization : String}
    (keyed : Keyed svc db faults orgId own after)
    (had : db.org_agents orgId = some orgAgent) (still : after.org_agents orgId = some left)
    (approached : Approached svc after faults left typeId type authorization) :
    RightKey svc db orgAgent authorization ↔ (type = OrgAgentType.DEDICATED → own = authorization) := by
  have column := (Option.filter_eq_some_iff.mp approached.typeId).1
  cases keyed with
  | stored other otherId stored key looked has full decrypted =>
    cases had.symm.trans still
    cases had.symm.trans looked.agent
    have typed : orgAgent.orgAgentTypeId.bind db.typeOf = some type := by rw [column]; exact approached.type
    have owned : ownKey svc orgAgent = some own := by
      rw [ownKey,(Option.filter_eq_some_iff.mp full).1]
      exact decrypted
    constructor
    · intro right dedicated
      exact Option.some.inj (owned.symm.trans (right.dedicated (by rw [typed,dedicated])))
    · intro same
      refine ⟨fun _ => approached.key,fun dedicated => ?_⟩
      rw [typed] at dedicated
      rw [owned,same (Option.some.inj dedicated)]
  | minted other otherId token key mints answered decrypted =>
    cases had.symm.trans mints.looked.agent
    have typed := (tokenless_iff.mp mints.tokenless).1
    have shared : orgAgent.orgAgentTypeId.bind db.typeOf = some OrgAgentType.SHARED := by
      rw [typed]
      exact typeOf_shared mints.looked.shared
    have named : type = OrgAgentType.SHARED := by
      rw [withKey_agent had] at still
      cases still
      cases typed.symm.trans column
      exact Option.some.inj (approached.type.symm.trans (typeOf_shared mints.looked.shared))
    constructor
    · intro _ dedicated
      rw [named] at dedicated
      exact absurd dedicated (by decide)
    · intro _
      refine ⟨fun _ => (adminKey_withKey mints).symm.trans approached.key,fun dedicated => ?_⟩
      rw [shared] at dedicated
      exact absurd dedicated (by decide)

theorem keyless_untouched {error : Failure} : Untouched w (attempt (carry svc) .other faults
    (settle (perform (.getAgentApiKey .deleteWallet orgId)) >>= settled svc orgId (.error error)) w) := by
  have read : carry svc (.getAgentApiKey .deleteWallet orgId) w = (w,.ok (w.db.org_agents orgId)) := rfl
  rw [attempt_bind,attempt_settle,perform,attempt_call,read,ite_self]
  cases faults (.getAgentApiKey .deleteWallet orgId) with
  | none =>
    cases there : w.db.org_agents orgId with
    | none => exact ⟨rfl,failed_error⟩
    | some orgAgent => exact ⟨rfl,failed_error⟩
  | rejects done => exact ⟨rfl,failed_error⟩
  | stops done => exact ⟨rfl,fun value same => by cases same⟩

theorem keyless_run {left : World}
    (same : (attempt (carry svc) .other faults (getOrgAgentApiKey svc orgId) ⟨db,[]⟩).1 = left)
    (failed : Failed (attempt (carry svc) .other faults (getOrgAgentApiKey svc orgId) ⟨db,[]⟩).2) :
    Untouched left (run svc faults orgId db) := by
  unfold run deleteWallet
  rw [attempt_bind,attempt_settle,same]
  cases ended : (attempt (carry svc) .other faults (getOrgAgentApiKey svc orgId) ⟨db,[]⟩).2 with
  | none => exact ⟨rfl,fun value same => by cases same⟩
  | some result =>
    cases result with
    | ok key => exact absurd ended (failed key)
    | error error => exact keyless_untouched

theorem keyed_agent {after : Db} (keyed : Keyed svc db faults orgId own after) :
    ∃ orgAgent, db.org_agents orgId = some orgAgent := by
  cases keyed with
  | stored orgAgent typeId stored key looked has column decrypted => exact ⟨orgAgent,looked.agent⟩
  | minted orgAgent typeId token key mints answered decrypted => exact ⟨orgAgent,mints.looked.agent⟩
theorem approached_unique {otherId type other authorization key : String}
    (a : Approached svc db faults orgAgent typeId type authorization)
    (b : Approached svc db faults orgAgent otherId other key) :
        typeId = otherId ∧ type = other ∧ authorization = key := by
  obtain rfl := Option.some.inj (a.typeId.symm.trans b.typeId)
  exact ⟨rfl,Option.some.inj (a.type.symm.trans b.type),Option.some.inj (a.key.symm.trans b.key)⟩

section
variable {after : Db} {left : OrgAgent} {ended : World × Option (Except Failure (Option OrgAgent))}
  (keyed : Keyed svc db faults orgId own after) (still : after.org_agents orgId = some left)
include keyed still

theorem kept_harmless (kept : ¬Removes svc after faults orgId left) :
    Harmless svc db faults orgId ↔ ¬Writes svc db faults orgId := by
  have never : ∀ other after' orgAgent, Keyed svc db faults orgId other after' →
      ¬Removes svc after' faults orgId orgAgent := by
    intro other after' orgAgent keyed' removes
    obtain ⟨-,rfl⟩ := keyed_unique keyed keyed'
    cases still.symm.trans removes.agent
    exact kept removes
  constructor
  · intro harmless writes
    obtain ⟨other,after',orgAgent,keyed',removes,-⟩ := harmless (.inl writes)
    exact never other after' orgAgent keyed' removes
  · rintro unwritten (writes | ⟨other,after',orgAgent,keyed',removes⟩)
    · exact absurd writes unwritten
    · exact absurd removes (never other after' orgAgent keyed')

theorem removed_iff (removes : Removes svc after faults orgId left) (gone : ended.1.db = after.without orgId)
    (end_ : Gone svc after faults orgId left ended) :
    AllOrNothing svc db orgId ended ↔ Harmless svc db faults orgId := by
  obtain ⟨orgAgent,had⟩ := keyed_agent keyed
  have lost : Lost db ended.1.db orgId := by
    rw [gone]
    exact .inl ⟨⟨orgAgent,had⟩,Function.update_self _ _ _⟩
  have finish : Harmless svc db faults orgId → ∃ typeId type authorization,
      Finishes svc after faults orgId left typeId type authorization ∧
      (type = OrgAgentType.DEDICATED → own = authorization) := by
    intro harmless
    obtain ⟨other,after',orgAgent',keyed',removes',typeId,type,authorization,finishes,right⟩ :=
      harmless (.inr ⟨own,after,left,keyed,removes⟩)
    obtain ⟨rfl,rfl⟩ := keyed_unique keyed keyed'
    cases still.symm.trans removes'.agent
    exact ⟨typeId,type,authorization,finishes,right⟩
  rcases end_ with ⟨typeId,type,authorization,finishes,requests,succeeded⟩ | ⟨unfinished,bad⟩
  · have right := rightKey_iff keyed had still finishes.approached
    constructor
    · intro holds _
      refine ⟨own,after,left,keyed,removes,typeId,type,authorization,finishes,right.mp ?_⟩
      exact holds.keys ⟨urlOf type left,authorization,some NO_CONTENT⟩
          (by rw [requests]; exact List.mem_singleton_self _)
        orgAgent had
    · intro harmless
      obtain ⟨typeId',type',authorization',finishes',same⟩ := finish harmless
      obtain ⟨rfl,rfl,rfl⟩ := approached_unique finishes.approached finishes'.approached
      refine ⟨fun _ => ⟨_,by rw [requests]; exact List.mem_singleton_self _,.inl rfl⟩,fun failed =>
          absurd failed succeeded,?_⟩
      rw [requests]
      intro request listed other there
      rw [List.mem_singleton.mp listed]
      cases had.symm.trans there
      exact right.mpr same
  · constructor
    · intro holds
      rcases bad with failed | silent
      · have same := holds.unchanged failed
        rw [gone] at same
        exact absurd same (without_lost had)
      · obtain ⟨request,listed,-⟩ := holds.removed lost
        rw [silent] at listed
        cases listed
    · intro harmless
      obtain ⟨typeId,type,authorization,finishes,-⟩ := finish harmless
      exact absurd finishes (unfinished typeId type authorization)

end

variable (svc db faults orgId) in
/-- The deletion is all or nothing, and asks with the right key, where a call that changes the
    rows comes to its end. -/
theorem wallet_deletion_iff : AllOrNothing svc db orgId (run svc faults orgId db) ↔ Harmless svc db faults orgId := by
  have phase := key_phase svc db faults orgId []
  have start : (attempt (carry svc) .other faults (getOrgAgentApiKey svc orgId) ⟨db,[]⟩).1 =
      ⟨(attempt (carry svc) .other faults (getOrgAgentApiKey svc orgId) ⟨db,[]⟩).1.db,[]⟩ :=
    congrArg (World.mk _) phase.requests
  rcases phase.ended with ⟨key,found,keyed⟩ | ⟨failed,unkeyed⟩
  · obtain ⟨orgAgent,had⟩ := keyed_agent keyed
    obtain ⟨left,still⟩ := phase.there orgAgent had
    have searched : attempt (carry svc) .other faults (settle (getOrgAgentApiKey svc orgId)) ⟨db,[]⟩ =
        (⟨(attempt (carry svc) .other faults (getOrgAgentApiKey svc orgId) ⟨db,[]⟩).1.db,[]⟩,some (.ok (.ok key))) := by
      rw [attempt_settle,← start,found]
      rfl
    have onward : run svc faults orgId db = _ := attempt_then searched
    rcases removal_cases still rfl with ⟨removes,gone,end_⟩ | ⟨kept,untouched⟩
    · rw [onward]
      exact removed_iff keyed still removes gone end_
    · rw [onward,kept_iff _ untouched.1 untouched.2 phase.rows phase.there,phase.kept,kept_harmless keyed still kept]
  · have ended := keyless_run start failed
    rw [kept_iff (run svc faults orgId db) ended.1 ended.2 phase.rows phase.there,phase.kept]
    constructor
    · rintro unwritten (writes | ⟨own,after,_,keyed,-⟩)
      · exact absurd writes unwritten
      · exact absurd keyed (unkeyed own after)
    · intro harmless writes
      obtain ⟨own,after,_,keyed,-⟩ := harmless (.inl writes)
      exact unkeyed own after keyed

/-- A shared agent, the platform's own one, and no other rows. -/
def seeded : Db where
  org_agents := fun orgId =>
    if orgId = "org" then
      some ⟨"agent",some "org",none,some "https://agents",some "tenant",some "token",some "shared"⟩
    else if orgId = "platform" then
      some ⟨"admin",some "platform",none,some "https://agents",none,some "secret",some "dedicated"⟩
    else none
  rows := fun _ => []
  org_agents_type := [("shared",OrgAgentType.SHARED),("dedicated",OrgAgentType.DEDICATED)]
  platformAdmin := some "platform"
  distinct := by decide
  own := by
    intro orgId orgAgent found
    split at found
    · rename_i same
      cases found
      rw [same]
    · split at found
      · rename_i same
        cases found
        rw [same]
      · cases found
  named := rfl

/-- Keys are stored as they are, and every request for a deletion gets the status. -/
def answering (status : Nat) : Services where
  decrypt := fun text => truthy (some text)
  encrypt := id
  tenantWalletToken := fun _ _ _ => none
  answer := fun _ _ => some status
  empty := rfl
/-- A wallet that the agent does not have any more: the request is rejected, and the rows are gone. -/
theorem missing_wallet_fails :
    ¬AllOrNothing (answering NOT_FOUND) seeded "org" (run (answering NOT_FOUND) (fun _ => .none) "org" seeded) := by
  intro holds
  have failed : (run (answering NOT_FOUND) (fun _ => .none) "org" seeded).2 = some (.error .other) := by decide +kernel
  have same := congrArg Prod.fst (holds.unchanged (failed ▸ failed_error))
  exact absurd same (by decide +kernel)
example : (run (answering NO_CONTENT) (fun _ => .none) "org" seeded).1.requests =
    [⟨"https://agents/multi-tenancy/tenant","secret",some NO_CONTENT⟩] := by decide +kernel

end Ngotag.WalletDeletion
