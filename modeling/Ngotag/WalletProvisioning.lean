import Ngotag.Runs
import Mathlib.Logic.Function.Basic
import Ngotag.JsObject

/-!
The provisioning of the wallet of an organisation: `createTenant` on the shared agent, and `walletProvision`,
which starts an agent of its own and replies before that has come to anything. Each stage of a call is the
operation that it awaits; the promises that are not awaited settle on their own.
-/
namespace Ngotag.WalletProvisioning
open JsObject (truthy)

inductive AgentSpinUpStatus where
  | PENDING
  | WALLET_CREATED
  | DID_CREATED
  deriving DecidableEq
inductive DidMethod where
  | INDY
  | KEY
  | WEB
  | POLYGON
  | ETHEREUM
  deriving DecidableEq
structure OrgAgent where
  id : Nat
  createdBy : String
  agentSpinUpStatus : AgentSpinUpStatus
  walletName : Option String
  tenantId : Option Nat
  deriving DecidableEq
structure TenantDto where
  label : String
  clientSocketId : Option String
  deriving DecidableEq
structure AgentSpinupDto where
  walletName : String
  method : DidMethod
  network : Option String
  clientSocketId : Option String
  platformAdminEmail : Option String
  deriving DecidableEq
structure UserRequest where
  id : Option String
  userId : Option String
  deriving DecidableEq
/-- What the calls ask of others: the platform administrator of an address, the names of the ledgers, and what
    the first letter of a word becomes. -/
structure Services where
  platfomAdminUser : String → Option String
  ledgers : List String
  toUpperCase : String → String
/-- How an operation ends; it can be carried out and yet be reported as failed. A reply that lacks what the
    call goes on with counts as a failure. -/
inductive Answer where
  | ok
  | lost
  | fails
  deriving DecidableEq

inductive TenantAwait where
  | getAgentDetails
  | createOrgAgent
  /-- In `getPlatformAdminAndNotify`. -/
  | createSocketInstance
  | platformAdminAgent
  | createTenantAndNotify (org_agents : List AgentSpinUpStatus)
  | decryptPassword (platformAgent : AgentSpinUpStatus)
  | createTenantWallet (platformAgent : AgentSpinUpStatus)
  | getOrgAgentTypeDetails
  | getAgentTypeId
  | dataEncryption
  | getOrgDetails
  | storeOrgAgentDetails
  | createConnectionInvitation
  | deleteOrgAgentById
  deriving DecidableEq

inductive ProvisionAwait where
  | getPlatformConfigDetails
  | getPlatfomAdminUser (email : String)
  | getPlatfomOrg (userId : Option String)
  | getAgentDetails (userId : Option String)
  | getOrgDetails (userId : Option String) (getOrgAgent : Option AgentSpinUpStatus)
  | getGenesisUrl (userId : Option String) (getOrgAgent : Option AgentSpinUpStatus)
  | initSocketConnection (userId : Option String)
  | createOrgAgent (userId : Option String)
  deriving DecidableEq

/-- The stages of `_agentSpinup`, with those of `_storeOrgAgentDetails`. -/
inductive SpinupAwait where
  | getALlLedgerDetails (ledger : String)
  | getLedgerDetails
  | walletProvision
  | initSocketConnection
  | getBaseAgentToken
  | tokenEncryption
  | getOrgAgentTypeDetails
  | storeOrgAgentDetails
  | emitCompleted
  | handleError
  | emitError
  | removeOrgAgent
  deriving DecidableEq

inductive Process where
  | createTenant (dto : TenantDto) (user : UserRequest) (at_ : TenantAwait)
  | walletProvision (dto : AgentSpinupDto) (user : UserRequest) (at_ : ProvisionAwait)
  | agentSpinup (dto : AgentSpinupDto) (at_ : SpinupAwait)
  | succeeded
  | failed
  deriving DecidableEq
inductive Promise where
  | notifyClientSocket
  | handleError
  | removeOrgAgent
  deriving DecidableEq
structure Call where
  process : Process
  promises : List Promise
  created : Bool
  removed : List Nat

/-- The calls are all for one organisation, which has at most one row. A new row gets the number of the call
    that creates it as its id, and so does a tenant. -/
structure State where
  org_agents : Option OrgAgent
  /-- The rows that an invitation refers to. -/
  agent_invitations : List Nat
  tenants : List Nat
  platformAgents : List AgentSpinUpStatus
  calls : Nat → Option Call
  /-- The calls with a promise that was rejected with nobody to handle it. -/
  unhandled : List Nat
  /-- The replies of `walletProvision`, each with the status that the row had. -/
  replies : List (Nat × Option AgentSpinUpStatus)

def State.initial : State := ⟨none,[],[],[],fun _ => none,[],[]⟩
inductive Action where
  | createTenant (call : Nat) (dto : TenantDto) (user : UserRequest)
  | walletProvision (call : Nat) (dto : AgentSpinupDto) (user : UserRequest)
  | advance (call : Nat) (answer : Answer)
  | settle (call : Nat) (promise : Promise) (answer : Answer)
  | platform (agents : List AgentSpinUpStatus)
/-- What a step does to the tables and to the shared agent. -/
inductive Effect where
  | nothing
  | createOrgAgent (row : OrgAgent)
  | createTenant
  | storeOrgAgentDetails (row : OrgAgent)
  | saveInvitation
  | removeOrgAgent
  deriving DecidableEq
structure Outcome where
  effect : Effect
  process : Process
  started : List Promise
  unhandled : Bool
  replies : Bool
/-- The call goes on, and nothing else happens. -/
def Process.only (process : Process) : Outcome := ⟨.nothing,process,[],false,false⟩
def Process.with (process : Process) (effect : Effect) : Outcome := ⟨effect,process,[],false,false⟩

section
variable (svc : Services) (s : State) (call : Nat) (answer : Answer)

def getAgentDetails : Option AgentSpinUpStatus := s.org_agents.map OrgAgent.agentSpinUpStatus
/-- The row that the insertion stores: the organisation must not have one, and its author must be known. -/
def createOrgAgent (userId : Option String) : Option OrgAgent :=
  match s.org_agents,userId with
  | none,some userId => some ⟨call,userId,.WALLET_CREATED,none,none⟩
  | _,_ => none
/-- The row after the update, which is of the row with the id. -/
def storeOrgAgentDetails (update : OrgAgent → OrgAgent) : Option OrgAgent :=
  (s.org_agents.filter fun row => row.id = call).map update
/-- The row is there, and no invitation refers to it. -/
def removable : Bool := s.org_agents.any (fun row => row.id = call) && !s.agent_invitations.contains call
/-- The removal of the row, which may fail. -/
def removal : Effect := if answer ≠ .fails && removable s call then .removeOrgAgent else .nothing
/-- Ends `_createTenant` after its `catch`, with an error. -/
def throwsTenant (effect : Effect) : Outcome := ⟨effect,.failed,[.handleError],false,false⟩

def tenantStep (dto : TenantDto) (user : UserRequest) : TenantAwait → Outcome
  | .getAgentDetails =>
    if answer = .ok && getAgentDetails s ≠ some .WALLET_CREATED then
      (Process.createTenant dto user .createOrgAgent).only
    else Process.failed.only
  | .createOrgAgent =>
    -- without a reply `agentProcess` is not set, and the `catch` removes nothing
    match createOrgAgent s call user.id,answer with
    | some row,.ok => (Process.createTenant dto user .createSocketInstance).with (.createOrgAgent row)
    | some row,.lost => throwsTenant (.createOrgAgent row)
    | _,_ => throwsTenant .nothing
  | .createSocketInstance =>
    if answer = .ok then (Process.createTenant dto user .platformAdminAgent).only
    else (Process.createTenant dto user .deleteOrgAgentById).only
  | .platformAdminAgent =>
    if answer = .ok then (Process.createTenant dto user (.createTenantAndNotify s.platformAgents)).only
    else (Process.createTenant dto user .deleteOrgAgentById).only
  | .createTenantAndNotify org_agents =>
    match answer,org_agents with
    | .ok,platformAgent :: _ => (Process.createTenant dto user (.decryptPassword platformAgent)).only
    | _,_ => (Process.createTenant dto user .deleteOrgAgentById).only
  | .decryptPassword platformAgent =>
    if answer = .ok then (Process.createTenant dto user (.createTenantWallet platformAgent)).only
    else (Process.createTenant dto user .deleteOrgAgentById).only
  | .createTenantWallet platformAgent =>
    match answer with
    | .ok =>
      if platformAgent = .DID_CREATED then
        (Process.createTenant dto user .getOrgAgentTypeDetails).with .createTenant
      else (Process.createTenant dto user .deleteOrgAgentById).with .createTenant
    | .lost => (Process.createTenant dto user .deleteOrgAgentById).with .createTenant
    | .fails => (Process.createTenant dto user .deleteOrgAgentById).only
  | .getOrgAgentTypeDetails =>
    if answer = .ok then (Process.createTenant dto user .getAgentTypeId).only
    else (Process.createTenant dto user .deleteOrgAgentById).only
  | .getAgentTypeId =>
    if answer = .ok then (Process.createTenant dto user .dataEncryption).only
    else (Process.createTenant dto user .deleteOrgAgentById).only
  | .dataEncryption =>
    if answer = .ok then (Process.createTenant dto user .getOrgDetails).only
    else (Process.createTenant dto user .deleteOrgAgentById).only
  | .getOrgDetails =>
    if answer = .ok then
      ⟨.nothing,.createTenant dto user .storeOrgAgentDetails,[.notifyClientSocket],false,false⟩
    else (Process.createTenant dto user .deleteOrgAgentById).only
  | .storeOrgAgentDetails =>
    let update (row : OrgAgent) : OrgAgent :=
      { row with
        agentSpinUpStatus := .WALLET_CREATED
        walletName := some dto.label
        tenantId := some call }
    match storeOrgAgentDetails s call update,answer with
    | some row,.ok =>
      ⟨.storeOrgAgentDetails row,.createTenant dto user .createConnectionInvitation,[.notifyClientSocket],false,false⟩
    | some row,.lost => (Process.createTenant dto user .deleteOrgAgentById).with (.storeOrgAgentDetails row)
    | _,_ => (Process.createTenant dto user .deleteOrgAgentById).only
  | .createConnectionInvitation =>
    match answer with
    | .ok => ⟨.saveInvitation,.succeeded,[.notifyClientSocket],false,false⟩
    | .lost => (Process.createTenant dto user .deleteOrgAgentById).with .saveInvitation
    | .fails => (Process.createTenant dto user .deleteOrgAgentById).only
  | .deleteOrgAgentById => throwsTenant (removal s call answer)

def capitalised (word : String) : String := svc.toUpperCase (word.take 1).toString ++ (word.drop 1).toString
/-- Of a name without a second word it throws. -/
def ledgerName (value : String) : Option String :=
  match (value.replace ":" " ").splitOn " " with
  | first :: second :: _ => some (capitalised svc first ++ " " ++ capitalised svc second)
  | _ => none
def caughtSpinup (dto : AgentSpinupDto) : Process :=
  .agentSpinup dto (if (truthy dto.clientSocketId).isSome then .emitError else .removeOrgAgent)
/-- `_agentSpinup` until it first awaits something. -/
def _agentSpinup (dto : AgentSpinupDto) : Process :=
  if dto.method = .KEY ∨ dto.method = .WEB then .agentSpinup dto .walletProvision
  else
    match dto.network.bind (ledgerName svc) with
    | some ledger => .agentSpinup dto (.getALlLedgerDetails ledger)
    | none => caughtSpinup dto

def provisionStep (dto : AgentSpinupDto) (user : UserRequest) : ProvisionAwait → Outcome
  | .getPlatformConfigDetails =>
    if answer = .ok then
      match truthy user.userId,truthy dto.platformAdminEmail with
      | none,some email => (Process.walletProvision dto user (.getPlatfomAdminUser email)).only
      | _,_ => (Process.walletProvision dto user (.getPlatfomOrg user.id)).only
    else Process.failed.only
  | .getPlatfomAdminUser email =>
    if answer = .ok then (Process.walletProvision dto user (.getPlatfomOrg (svc.platfomAdminUser email))).only
    else Process.failed.only
  | .getPlatfomOrg userId =>
    if answer = .ok then (Process.walletProvision dto user (.getAgentDetails userId)).only else Process.failed.only
  | .getAgentDetails userId =>
    if answer = .ok then (Process.walletProvision dto user (.getOrgDetails userId (getAgentDetails s))).only
    else Process.failed.only
  | .getOrgDetails userId getOrgAgent =>
    if answer = .ok then (Process.walletProvision dto user (.getGenesisUrl userId getOrgAgent)).only
    else Process.failed.only
  | .getGenesisUrl userId getOrgAgent =>
    if answer = .ok && getOrgAgent ≠ some .WALLET_CREATED && getOrgAgent ≠ some .DID_CREATED then
      (Process.walletProvision dto user (.initSocketConnection userId)).only
    else Process.failed.only
  | .initSocketConnection userId =>
    if answer = .ok then (Process.walletProvision dto user (.createOrgAgent userId)).only else Process.failed.only
  | .createOrgAgent userId =>
    -- nothing throws once `agentProcess` is set, so the error handlers never have a row to remove
    match createOrgAgent s call userId,answer with
    | some row,.ok => ⟨.createOrgAgent row,_agentSpinup svc dto,[],false,true⟩
    | some row,.lost => Process.failed.with (.createOrgAgent row)
    | _,_ => Process.failed.only

/-- The `catch` of `_storeOrgAgentDetails`, then that of `_agentSpinup`. -/
def caughtStore (dto : AgentSpinupDto) (effect : Effect) : Outcome :=
  if (truthy dto.clientSocketId).isSome then (Process.agentSpinup dto .handleError).with effect
  else ⟨effect,caughtSpinup dto,[.removeOrgAgent],false,false⟩

def spinupStep (dto : AgentSpinupDto) : SpinupAwait → Outcome
  | .getALlLedgerDetails ledger =>
    if answer = .ok && svc.ledgers.contains ledger then (Process.agentSpinup dto .getLedgerDetails).only
    else (caughtSpinup dto).only
  | .getLedgerDetails =>
      if answer = .ok then (Process.agentSpinup dto .walletProvision).only else (caughtSpinup dto).only
  | .walletProvision =>
    if answer = .ok then (Process.agentSpinup dto .initSocketConnection).only else (caughtSpinup dto).only
  | .initSocketConnection =>
    if answer = .ok then (Process.agentSpinup dto .getBaseAgentToken).only else (caughtSpinup dto).only
  | .getBaseAgentToken =>
      if answer = .ok then (Process.agentSpinup dto .tokenEncryption).only else (caughtSpinup dto).only
  | .tokenEncryption =>
    if answer = .ok then (Process.agentSpinup dto .getOrgAgentTypeDetails).only else (caughtSpinup dto).only
  | .getOrgAgentTypeDetails =>
    if answer = .ok then (Process.agentSpinup dto .storeOrgAgentDetails).only else caughtStore dto .nothing
  | .storeOrgAgentDetails =>
    let update (row : OrgAgent) : OrgAgent :=
      { row with agentSpinUpStatus := .DID_CREATED,walletName := some dto.walletName }
    match storeOrgAgentDetails s call update,answer with
    | some row,.ok =>
      let stored := if (truthy dto.clientSocketId).isSome then .agentSpinup dto .emitCompleted else Process.succeeded
      stored.with (.storeOrgAgentDetails row)
    | some row,.lost => caughtStore dto (.storeOrgAgentDetails row)
    | _,_ => caughtStore dto .nothing
  | .emitCompleted => if answer = .ok then Process.succeeded.only else (caughtSpinup dto).only
  | .handleError =>
    if answer = .ok then ⟨.nothing,caughtSpinup dto,[.removeOrgAgent],false,false⟩ else (caughtSpinup dto).only
  | .emitError =>
    if answer = .ok then (Process.agentSpinup dto .removeOrgAgent).only else ⟨.nothing,.failed,[],true,false⟩
  | .removeOrgAgent => ⟨removal s call answer,.failed,[],!(answer = .ok && removable s call),false⟩

/-- What happens when the operation that the call awaits ends. -/
def outcome : Process → Option Outcome
  | .createTenant dto user at_ => some (tenantStep s call answer dto user at_)
  | .walletProvision dto user at_ => some (provisionStep svc s call answer dto user at_)
  | .agentSpinup dto at_ => some (spinupStep svc s call answer dto at_)
  | .succeeded => none
  | .failed => none

def settled (process : Process) : Promise → Outcome
  | .removeOrgAgent => ⟨removal s call answer,process,[],!(answer = .ok && removable s call),false⟩
  | _ => ⟨.nothing,process,[],answer ≠ .ok,false⟩
end
section
variable (s : State) (call : Nat) (c : Call) (o : Outcome)

def Effect.row (effect : Effect) (org_agents : Option OrgAgent) : Option OrgAgent :=
  match effect with
  | .createOrgAgent row => some row
  | .storeOrgAgentDetails row => some row
  | .removeOrgAgent => none
  | _ => org_agents
def Effect.creates : Effect → Bool
  | .createOrgAgent _ => true
  | _ => false
def Call.after : Call where
  process := o.process
  promises := o.started ++ c.promises
  created := c.created || o.effect.creates
  removed := if o.effect = .removeOrgAgent then call :: c.removed else c.removed
def State.after : State where
  org_agents := o.effect.row s.org_agents
  agent_invitations := if o.effect = .saveInvitation then call :: s.agent_invitations else s.agent_invitations
  tenants := if o.effect = .createTenant then call :: s.tenants else s.tenants
  platformAgents := s.platformAgents
  calls := Function.update s.calls call (some (c.after call o))
  unhandled := if o.unhandled then call :: s.unhandled else s.unhandled
  replies :=
      if o.replies then (call,(o.effect.row s.org_agents).map OrgAgent.agentSpinUpStatus) :: s.replies else s.replies

end

def Process.begin (process : Process) : Call := ⟨process,[],false,[]⟩
def State.start (s : State) (call : Nat) (process : Process) : Option State :=
  match s.calls call with
  | none => some { s with calls := Function.update s.calls call (some process.begin) }
  | some _ => none

def step (svc : Services) (s : State) : Action → Option State
  | .createTenant call dto user => s.start call (.createTenant dto user .getAgentDetails)
  | .walletProvision call dto user => s.start call (.walletProvision dto user .getPlatformConfigDetails)
  | .advance call answer =>
    match s.calls call with
    | some c => (outcome svc s call answer c.process).map (s.after call c)
    | none => none
  | .settle call promise answer =>
    match s.calls call with
    | some c =>
      if promise ∈ c.promises then
        some (s.after call { c with promises := c.promises.erase promise } (settled s call answer c.process promise))
      else none
    | none => none
  | .platform agents => some { s with platformAgents := agents }

end Ngotag.WalletProvisioning
