import Ngotag.WalletDeletion

/-!
The stored token of one organisation's agent. `setDedicatedAgentToken` stores a token that it has verified by
comparing the row with the one that it has read; the renewal of `getOrgAgentApiKey` stores its own, whatever became
of the row meanwhile. The stored token belongs to the agent of the row in the runs in which every renewal comes to
the agent that it has read, at the endpoint of the platform's agent that it has asked (`token_belongs`).
-/
namespace Ngotag.AgentTokens
open Runs Await
open WalletDeletion (OrgAgent OrgAgentType.SHARED OrgAgentType.DEDICATED decryptPassword)
open JsObject (truthy)

/-- The ids of the types, and what is not the platform's own: the cipher, `jwt.decode(token)?.role` and
    `new URL(text).protocol`. -/
structure Services where
  typeId : String → String
  distinct : typeId OrgAgentType.SHARED ≠ typeId OrgAgentType.DEDICATED
  decrypt : String → Option String
  role : String → Option String
  protocol : String → Option String

inductive Failure where
  | other
  | response (status : Nat)
  | agentNotExists
  | notDedicatedAgent
  | agentEndpointMismatch
  | agentUrl
  | malformedAgentEndpoint
  | insecureAgentEndpoint
  | agentTokenNoRole
  | agentTokenRoleMismatch (expectedRole : String)
  | agentTokenRejected
  | agentDown
  | agentRowChanged
  | notConfigured
  | invalidCredentials
  | invalidTenantDetails
  | tenantWalletToken
  | apiKeyNotExist

inductive Cmd where
  | getAgentApiKey
  | getOrgAgentTypeDetails (agentType : String)
  | getOrgDetails
  | platformAdminAgent (platformOrg : String)
  | getTenantWalletToken (agentEndPoint apiKey tenantId : String)
  /-- `GET /agent`, which says whether the agent is initialized. -/
  | getAgent (agentEndPoint agentToken : String)
  | tokenEncryption (token : String)
  | updateTenantToken (token : String)
  | updateMany (agentEndPoint orgAgentTypeId : Option String) (apiKey : String)

@[reducible] def Ret : Cmd → Type
  | .getAgentApiKey => Option OrgAgent
  | .getOrgAgentTypeDetails _ => String
  | .getOrgDetails => Option String
  | .platformAdminAgent _ => Option (List OrgAgent)
  | .getTenantWalletToken _ _ _ => Option String
  | .getAgent _ _ => Bool
  | .tokenEncryption _ => String
  | .updateTenantToken _ => OrgAgent
  | .updateMany _ _ _ => Nat

abbrev Async := Prog Cmd Ret Failure
def perform (command : Cmd) : Async (Ret command) := call command

section
variable (svc : Services)

def PLATFORM_ADMIN_ORG : String := "Platform-admin"
def AgentRole.RestRootAgentWithTenants : String := "RestRootAgentWithTenants"
def AgentRole.RestRootAgent : String := "RestRootAgent"
def assertEndpointTrusted (agentEndPoint : Option String) : Async Unit :=
  match truthy agentEndPoint with
  | none => throw .agentUrl
  | some agentEndPoint =>
    match svc.protocol agentEndPoint with
    | none => throw .malformedAgentEndpoint
    | some protocol => if protocol ≠ "https:" then throw .insecureAgentEndpoint else pure ()

def assertTokenRole (agentToken expectedRole : String) : Async Unit :=
  match truthy (svc.role agentToken) with
  | none => throw .agentTokenNoRole
  | some role => if role ≠ expectedRole then throw (.agentTokenRoleMismatch expectedRole) else pure ()
/-- The `catch` of `assertTokenAcceptedByAgent`. -/
def probeFailed : Failure → Async Unit
  | .agentTokenRejected => throw .agentTokenRejected
  | .response status => if status = 401 ∨ status = 403 then throw .agentTokenRejected else throw .agentDown
  | _ => throw .agentDown
def assertTokenAcceptedByAgent (agentEndPoint agentToken : String) : Async Unit :=
  Prog.tryCatch (do
    let isInitialized : Bool ← perform (.getAgent agentEndPoint agentToken)
    if isInitialized = true then pure () else throw .agentTokenRejected) probeFailed
def updateVerifiedTenantToken (expectedAgentEndPoint expectedOrgAgentTypeId : Option String) (token : String) :
    Async Unit := do
  let count : Nat ← perform (.updateMany expectedAgentEndPoint expectedOrgAgentTypeId token)
  if 1 ≠ count then throw .agentRowChanged else pure ()
def expectedRole (organizationDetails : Option String) : String :=
  if organizationDetails = some PLATFORM_ADMIN_ORG then AgentRole.RestRootAgentWithTenants else AgentRole.RestRootAgent

def storeVerified (orgAgentDetails : OrgAgent) (organizationDetails : Option String)
    (agentToken agentEndPoint : String) :
    Async Unit := do
  assertEndpointTrusted svc orgAgentDetails.agentEndPoint
  assertTokenRole svc agentToken (expectedRole organizationDetails)
  assertTokenAcceptedByAgent agentEndPoint agentToken
  let encryptedToken : String ← perform (.tokenEncryption agentToken)
  updateVerifiedTenantToken orgAgentDetails.agentEndPoint orgAgentDetails.orgAgentTypeId encryptedToken

def setDedicatedAgentToken (agentToken agentEndPoint : String) : Async Unit := do
  let orgAgentDetails : Option OrgAgent ← perform .getAgentApiKey
  let dedicatedAgentTypeId : String ← perform (.getOrgAgentTypeDetails OrgAgentType.DEDICATED)
  let organizationDetails : Option String ← perform .getOrgDetails
  match orgAgentDetails with
  | none => throw .agentNotExists
  | some orgAgentDetails =>
    if orgAgentDetails.orgAgentTypeId ≠ some dedicatedAgentTypeId then throw .notDedicatedAgent
    else if orgAgentDetails.agentEndPoint ≠ some agentEndPoint then throw .agentEndpointMismatch
    else storeVerified svc orgAgentDetails organizationDetails agentToken agentEndPoint

def getTenantToken (agentEndPoint : Option String) (apiKey : String) (tenantId orgId : Option String) : Async OrgAgent :=
  match truthy agentEndPoint,truthy (some apiKey),truthy tenantId,truthy orgId with
  | some agentEndPoint,some apiKey,some tenantId,some _ => do
    let tenantWalletToken : Option String ← perform (.getTenantWalletToken agentEndPoint apiKey tenantId)
    match truthy tenantWalletToken with
    | none => throw .tenantWalletToken
    | some tenantWalletToken => do
      let encryptedTenantToken : String ← perform (.tokenEncryption tenantWalletToken)
      perform (.updateTenantToken encryptedTenantToken)
  | _,_,_,_ => throw .invalidTenantDetails

def renew (orgAgentDetails : OrgAgent) : Async String := do
  let platformAdminSpinnedUp : Option (List OrgAgent) ← perform (.platformAdminAgent PLATFORM_ADMIN_ORG)
  match platformAdminSpinnedUp with
  | none => throw .notConfigured
  | some org_agents => do
    let apiKey ← decryptPassword svc.decrypt .invalidCredentials (org_agents.head?.bind (·.apiKey))
    let updated ← getTenantToken (org_agents.head?.bind (·.agentEndPoint)) apiKey orgAgentDetails.tenantId
        orgAgentDetails.orgId
    match truthy updated.apiKey with
    | none => throw .tenantWalletToken
    | some apiKey => decryptPassword svc.decrypt .invalidCredentials (some apiKey)

def getOrgAgentApiKey : Async String := do
  let orgAgentDetails : Option OrgAgent ← perform .getAgentApiKey
  let orgAgentId : String ← perform (.getOrgAgentTypeDetails OrgAgentType.SHARED)
  match orgAgentDetails with
  | none => throw .apiKeyNotExist
  | some orgAgentDetails =>
    if WalletDeletion.tokenless orgAgentDetails orgAgentId = true then renew svc orgAgentDetails
    else
      match truthy orgAgentDetails.apiKey with
      | none => throw .apiKeyNotExist
      | some apiKey => decryptPassword svc.decrypt .invalidCredentials (some apiKey)

end

/-- An agent, of a type, and of its tenants the one that the token is for. -/
structure Agent where
  agentEndPoint : Option String
  orgAgentTypeId : Option String
  tenantId : Option String
  deriving DecidableEq
/-- The row of the organisation, and the one that each process has read; the endpoint of the platform's
    agent that each was given; the agents with the tokens that they have minted or accepted; and the
    rows on which a token was stored, each with the one that its process has read. -/
structure World where
  row : Option OrgAgent
  read : Nat → Option OrgAgent
  asked : Nat → Option String
  vouched : List (Agent × String)
  stored : List (OrgAgent × OrgAgent)
inductive Fault where
  | none
  /-- The statement or request fails and has no effect. -/
  | lost
  /-- It has its effect, but its answer does not arrive. -/
  | unknown
  /-- The agent refuses with a status. -/
  | status (code : Nat)
  deriving DecidableEq
/-- What the rest of the platform and the agents answer, and the cipher text that is made. -/
structure Choice where
  fault : Fault
  organisation : Option String
  platform : Option (List OrgAgent)
  token : Option String
  accepted : Bool
  cipher : String

def Fault.error : Fault → Failure
  | .status code => .response code
  | _ => .other
def Fault.takes (fault : Fault) : Bool := fault = .none || fault = .unknown
def answers {β : Type} (choice : Choice) (w : World) (value : β) : World × Except Failure β :=
  if choice.fault = .none then (w,.ok value) else (w,.error choice.fault.error)
def writes {β : Type} (choice : Choice) (w after : World) (value : β) : World × Except Failure β :=
  if choice.fault = .none then (after,.ok value)
  else if choice.fault = .unknown then (after,.error .other)
  else (w,.error choice.fault.error)
def World.store (w : World) (process : Nat) (row : OrgAgent) (apiKey : String) : World :=
  { w with
    row := some { row with apiKey := some apiKey }
    stored := (w.read process).toList.map (·,row) ++ w.stored }
def platformEndPoint (platformAdminSpinnedUp : Option (List OrgAgent)) : Option String :=
  platformAdminSpinnedUp.bind fun org_agents => org_agents.head?.bind (·.agentEndPoint)
def World.vouches (w : World) (agent : Agent) (token : String) :
    World := { w with vouched := (agent,token) :: w.vouched }

section
variable (svc : Services)

def Services.shared (svc : Services) : Option String := some (svc.typeId OrgAgentType.SHARED)
def Services.dedicated (svc : Services) : Option String := some (svc.typeId OrgAgentType.DEDICATED)
def Services.agentOf (svc : Services) (row : OrgAgent) : Agent :=
  ⟨row.agentEndPoint,row.orgAgentTypeId,if row.orgAgentTypeId = svc.shared then row.tenantId else none⟩

def handle (process : Nat) (c : Cmd) (choice : Choice) (w : World) : Option (World × Except Failure (Ret c)) :=
  match c with
  | .getAgentApiKey =>
    if choice.fault = .none then some ({ w with read := Function.update w.read process w.row },.ok w.row)
    else some (w,.error choice.fault.error)
  | .getOrgAgentTypeDetails agentType => some (answers choice w (svc.typeId agentType))
  | .getOrgDetails => some (answers choice w choice.organisation)
  | .platformAdminAgent _ =>
    if choice.fault = .none then
      some ({ w with asked := Function.update w.asked process (platformEndPoint choice.platform) },.ok choice.platform)
    else some (w,.error choice.fault.error)
  | .getTenantWalletToken agentEndPoint _ tenantId =>
    match choice.token with
    | none => some (answers choice w none)
    | some token => some (writes choice w (w.vouches ⟨some agentEndPoint,svc.shared,some tenantId⟩ token) (some token))
  | .getAgent agentEndPoint agentToken =>
    if choice.accepted =
        true then some (writes choice w (w.vouches ⟨some agentEndPoint,svc.dedicated,none⟩ agentToken) true)
    else some (answers choice w false)
  | .tokenEncryption token =>
      if svc.decrypt choice.cipher = some token then some (answers choice w choice.cipher) else none
  | .updateTenantToken token =>
    match w.row with
    | none => some (w,.error .other)
    | some row => some (writes choice w (w.store process row token) { row with apiKey := some token })
  | .updateMany agentEndPoint orgAgentTypeId apiKey =>
    match w.row with
    | none => some (answers choice w 0)
    | some row =>
      if row.agentEndPoint = agentEndPoint ∧ row.orgAgentTypeId = orgAgentTypeId then
        some (writes choice w (w.store process row apiKey) 1)
      else some (answers choice w 0)

inductive Input where
  | setDedicatedAgentToken (agentToken agentEndPoint : String)
  | getOrgAgentApiKey
def program : Input → Async Unit
  | .setDedicatedAgentToken agentToken agentEndPoint => setDedicatedAgentToken svc agentToken agentEndPoint
  | .getOrgAgentApiKey => do
    let _ ← getOrgAgentApiKey svc
    pure ()

/-- What `storeOrgAgentDetails` is given: a key that its caller has from the agent that it stores. Without an
    `id` the row is new; without a tenant the column stays. -/
structure Details where
  id : Option String
  newId : String
  orgId : String
  agentEndPoint : String
  tenantId : Option String
  token : String
  apiKey : String

/-- The types of its callers, with a tenant in a shared agent and none in a dedicated one. -/
def Details.orgAgentTypeId (svc : Services) (details : Details) : Option String :=
  if details.tenantId = none then svc.dedicated else svc.shared
def Details.agent (svc : Services) (details : Details) : Agent :=
  ⟨some details.agentEndPoint,details.orgAgentTypeId svc,details.tenantId⟩
def Details.fill (svc : Services) (details : Details) (row : OrgAgent) : OrgAgent :=
  { row with
    orgId := some details.orgId
    agentEndPoint := some details.agentEndPoint
    orgAgentTypeId := details.orgAgentTypeId svc
    tenantId := details.tenantId.or row.tenantId
    apiKey := some details.apiKey }
def storeOrgAgentDetails (svc : Services) (details : Details) : Option OrgAgent → Option OrgAgent
  | some row => if details.id = some row.id then some (details.fill svc row) else none
  | none => if details.id = none then some (details.fill svc ⟨details.newId,none,none,none,none,none,none⟩) else none
inductive Env where
  | storeOrgAgentDetails (details : Details)
  /-- The row of an agent that is to come. -/
  | createOrgAgent (id orgId : String)
  | deleteOrgAgent

def sys : System Cmd Ret Failure Unit World Choice Input Env where
  handle := handle svc
  arrive process _ w := some { w with read := Function.update w.read process none }
  program _ := program svc
  environment event w :=
    match event with
    | .storeOrgAgentDetails details =>
      if svc.decrypt details.apiKey = some details.token then
        (storeOrgAgentDetails svc details w.row).map fun row =>
          { w with row := some row, vouched := (details.agent svc,details.token) :: w.vouched }
      else none
    | .createOrgAgent id orgId =>
      if w.row = none then some { w with row := some ⟨id,some orgId,none,none,none,none,none⟩ } else none
    | .deleteOrgAgent => some { w with row := none }

/-- The stored token decrypts to one that the agent of the row has vouched for. -/
def Belongs (w : World) : Prop :=
  ∀ row apiKey, w.row = some row → truthy row.apiKey = some apiKey →
    ∃ token, svc.decrypt apiKey = some token ∧ (svc.agentOf row,token) ∈ w.vouched
/-- No process stored a token on the row of another agent than the one that it has read. -/
def Intact (w : World) : Prop := ∀ pair ∈ w.stored, svc.agentOf pair.1 = svc.agentOf pair.2
/-- The token belongs to the agent, and no other column was changed by a call. -/
structure Good (w : World) : Prop where
  belongs : Belongs svc w
  intact : Intact svc w
/-- A renewal that stores its token finds the agent that it has read, and this one is at the endpoint of the
    platform's agent that it has asked. -/
def Current (process : Nat) (c : Cmd) (choice : Choice) (w : World) : Prop :=
  ∀ apiKey row, c = .updateTenantToken apiKey → w.row = some row → choice.fault.takes = true →
    (∀ read, w.read process = some read → svc.agentOf read = svc.agentOf row) ∧ row.agentEndPoint = w.asked process
/-- What the steps of other calls leave of a call. -/
structure Aside (process : Nat) (w after : World) : Prop where
  read : after.read process = w.read process
  asked : after.asked process = w.asked process
  vouched : ∀ pair ∈ w.vouched, pair ∈ after.vouched

def contract : Contract Cmd World Choice Env where
  inv := Good svc
  rely := Aside
  idle _ _ := True
  allowed := Current svc
  happens _ _ := True

end
section
variable {svc : Services} {process : Nat} {w after : World}

theorem aside_refl : Aside process w w := ⟨rfl,rfl,fun _ there => there⟩
theorem aside_trans {a b c : World} (first : Aside process a b) (second : Aside process b c) : Aside process a c :=
  ⟨second.read.trans first.read,second.asked.trans first.asked,fun pair there => second.vouched pair (first.vouched pair there)⟩
theorem good_aside (good : Good svc w) (row : after.row = w.row) (stored : after.stored = w.stored)
    (vouched : ∀ pair ∈ w.vouched, pair ∈ after.vouched) : Good svc after := by
  refine ⟨fun found apiKey now key => ?_,fun pair there => good.intact pair (stored ▸ there)⟩
  obtain ⟨token,decrypted,known⟩ := good.belongs found apiKey (row ▸ now) key
  exact ⟨token,decrypted,vouched _ known⟩

/-- A token of the row's agent, stored by a process that has read this agent. -/
theorem good_store {row : OrgAgent} {apiKey token : String} (good : Good svc w)
    (same : ∀ read, w.read process = some read → svc.agentOf read = svc.agentOf row)
    (decrypted : svc.decrypt apiKey = some token) (known : (svc.agentOf row,token) ∈ w.vouched) :
    Good svc (w.store process row apiKey) := by
  refine ⟨fun found key now truthy_ => ?_,fun pair there => ?_⟩
  · obtain rfl := Option.some.inj now
    obtain rfl := Option.some.inj (Option.filter_eq_some_iff.mp truthy_).1
    exact ⟨token,decrypted,known⟩
  · rcases List.mem_append.mp there with new_ | old
    · obtain ⟨read,known,rfl⟩ := List.mem_map.mp new_
      exact same read (Option.mem_toList.mp known)
    · exact good.intact pair old

theorem answers_cases {β : Type} {choice : Choice} {value : β} {answer : Except Failure β}
    (answered : answers choice w value = (after,answer)) :
    after = w ∧ (∀ other, answer = .ok other → other = value) := by
  unfold answers at answered
  split at answered
  · cases answered
    exact ⟨rfl,fun _ same => (Except.ok.inj same).symm⟩
  · cases answered
    exact ⟨rfl,fun _ => nofun⟩

theorem writes_cases {β : Type} {choice : Choice} {target : World} {value : β} {answer : Except Failure β}
    (wrote : writes choice w target value = (after,answer)) :
    after = (if choice.fault.takes = true then target else w) ∧
      (∀ other, answer = .ok other → other = value ∧ after = target) := by
  unfold writes at wrote
  unfold Fault.takes
  split at wrote
  · rename_i fine
    cases wrote
    rw [fine]
    exact ⟨rfl,fun _ same => ⟨(Except.ok.inj same).symm,rfl⟩⟩
  · rename_i bad
    split at wrote
    · rename_i fault
      cases wrote
      rw [fault]
      exact ⟨rfl,fun _ => nofun⟩
    · rename_i other
      cases wrote
      refine ⟨(if_neg ?_).symm,fun _ => nofun⟩
      rw [Bool.or_eq_true,decide_eq_true_eq,decide_eq_true_eq]
      exact fun takes => takes.elim bad other

def still : Cmd → Bool
  | .getAgentApiKey | .platformAdminAgent _ | .updateTenantToken _ | .updateMany _ _ _ => false
  | _ => true
/-- Only tokens come to what there was. -/
structure Learns (w after : World) : Prop where
  row : after.row = w.row
  read : after.read = w.read
  asked : after.asked = w.asked
  stored : after.stored = w.stored
  vouched : ∀ pair ∈ w.vouched, pair ∈ after.vouched

theorem learns_refl : Learns w w := ⟨rfl,rfl,rfl,rfl,fun _ there => there⟩
theorem learns_aside {other : Nat} (learns : Learns w after) : Aside other w after :=
  ⟨congrFun learns.read other,congrFun learns.asked other,learns.vouched⟩
theorem learns_good (good : Good svc w) (learns : Learns w after) : Good svc after :=
  good_aside good learns.row learns.stored learns.vouched
theorem learns_vouches (agent : Agent) (token : String) : Learns w (w.vouches agent token) :=
  ⟨rfl,rfl,rfl,rfl,fun _ => List.mem_cons_of_mem _⟩
theorem learns_answers {β : Type} {choice : Choice} {value : β} {answer : Except Failure β}
    (answered : answers choice w value = (after,answer)) : Learns w after := by
  rw [(answers_cases answered).1]
  exact learns_refl
theorem learns_writes {β : Type} {choice : Choice} {agent : Agent} {token : String} {value : β}
    {answer : Except Failure β}
    (wrote : writes choice w (w.vouches agent token) value = (after,answer)) : Learns w after := by
  rw [(writes_cases wrote).1]
  split
  · exact learns_vouches agent token
  · exact learns_refl

theorem handle_still {c : Cmd} {choice : Choice} {answer : Except Failure (Ret c)} (quiet : still c = true)
    (handled : (sys svc).handle process c choice w = some (after,answer)) : Learns w after := by
  change handle svc process c choice w = some (after,answer) at handled
  cases c with
  | getAgentApiKey | platformAdminAgent | updateTenantToken | updateMany => cases quiet
  | getOrgAgentTypeDetails | getOrgDetails => exact learns_answers (Option.some.inj handled)
  | getTenantWalletToken agentEndPoint apiKey tenantId =>
    simp only [handle] at handled
    split at handled
    · exact learns_answers (Option.some.inj handled)
    · exact learns_writes (Option.some.inj handled)
  | getAgent agentEndPoint agentToken =>
    simp only [handle] at handled
    split at handled
    · exact learns_writes (Option.some.inj handled)
    · exact learns_answers (Option.some.inj handled)
  | tokenEncryption token =>
    simp only [handle] at handled
    split at handled
    · exact learns_answers (Option.some.inj handled)
    · cases handled

theorem still_steady {c : Cmd} (quiet : still c = true) : Steady (sys svc) (contract svc) c := by
  intro process before choice after answer good _ handled
  have learns := handle_still quiet handled
  exact ⟨learns_good good learns,fun other => learns_aside learns⟩

theorem handle_read {choice : Choice} {answer : Except Failure (Option OrgAgent)} (good : Good svc w)
    (handled : handle svc process .getAgentApiKey choice w = some (after,answer)) :
    Good svc after ∧ (∀ other, other ≠ process → Aside other w after) ∧ ∀ row, answer = .ok row →
        after.read process = row := by
  simp only [handle] at handled
  split at handled
  · cases handled
    refine ⟨good_aside good rfl rfl fun _ there => there,fun other apart => ⟨Function.update_of_ne apart _ _,rfl,fun _ there => there⟩,?_⟩
    rintro row ⟨⟩
    exact Function.update_self _ _ _
  · cases handled
    exact ⟨good,fun _ _ => aside_refl,fun _ => nofun⟩

theorem aside_store {other : Nat} {row : OrgAgent} {apiKey : String} : Aside other w (w.store process row apiKey) :=
  ⟨rfl,rfl,fun _ there => there⟩

theorem handle_renewed {apiKey token : String} {choice : Choice} {answer : Except Failure OrgAgent} (good : Good svc w)
    (same : ∀ row, w.row = some row → choice.fault.takes = true →
      (∀ read, w.read process = some read → svc.agentOf read = svc.agentOf row) ∧ (svc.agentOf row,token) ∈ w.vouched)
    (decrypted : svc.decrypt apiKey = some token)
    (handled : handle svc process (.updateTenantToken apiKey) choice w = some (after,answer)) :
    Good svc after ∧ ∀ other, Aside other w after := by
  simp only [handle] at handled
  split at handled
  · cases handled
    exact ⟨good,fun _ => aside_refl⟩
  · rename_i row present
    obtain ⟨rfl,-⟩ := writes_cases (Option.some.inj handled)
    split
    · rename_i takes
      obtain ⟨agents,known⟩ := same row present takes
      exact ⟨good_store good agents decrypted known,fun _ => aside_store⟩
    · exact ⟨good,fun _ => aside_refl⟩

theorem handle_compared {read : OrgAgent} {apiKey token : String} {choice : Choice} {answer : Except Failure Nat}
    (good : Good svc w) (known : w.read process = some read) (type : read.orgAgentTypeId = svc.dedicated)
    (decrypted : svc.decrypt apiKey = some token)
    (accepted : (⟨read.agentEndPoint,svc.dedicated,none⟩,token) ∈ w.vouched)
    (handled : handle svc process (.updateMany read.agentEndPoint read.orgAgentTypeId apiKey) choice w = some (after,answer)) :
    Good svc after ∧ ∀ other, Aside other w after := by
  simp only [handle] at handled
  split at handled
  · rw [(answers_cases (Option.some.inj handled)).1]
    exact ⟨good,fun _ => aside_refl⟩
  · rename_i row present
    split at handled
    · rename_i same
      obtain ⟨rfl,-⟩ := writes_cases (Option.some.inj handled)
      split
      · have apart : svc.dedicated ≠ svc.shared := fun is => svc.distinct (Option.some.inj is).symm
        have agent (other : OrgAgent) (is : other.orgAgentTypeId = svc.dedicated) :
            svc.agentOf other = ⟨other.agentEndPoint,svc.dedicated,none⟩ := by
          rw [Services.agentOf,is,if_neg apart]
        have agents : svc.agentOf read = svc.agentOf row := by
          rw [agent read type,agent row (same.2.trans type),same.1]
        refine ⟨good_store good (fun other now => ?_) decrypted ?_,fun _ => aside_store⟩
        · obtain rfl := Option.some.inj (known.symm.trans now)
          exact agents
        · rw [← agents,agent read type]
          exact accepted
      · exact ⟨good,fun _ => aside_refl⟩
    · rw [(answers_cases (Option.some.inj handled)).1]
      exact ⟨good,fun _ => aside_refl⟩

variable {read : OrgAgent} {token : String}
/-- The call has read this row. -/
structure Knows (process : Nat) (read : OrgAgent) (w : World) : Prop where
  known : w.read process = some read
theorem knows_aside (a b : World) (knows : Knows process read a) (aside : Aside process a b) : Knows process read b :=
  ⟨aside.read.trans knows.known⟩
theorem wp_still {c : Cmd} {S : World → Prop} (stable : ∀ a b, S a → Aside process a b → S b)
    (quiet : still c = true) (now : S w) :
    wp (sys svc) (contract svc) process (perform c) (upon (fun _ => S) fun _ => True) w := by
  refine wp_steady (fun _ _ _ => aside_trans) (still_steady quiet) fun after answer aside _ => ?_
  cases answer with
  | error error => trivial
  | ok value => exact stable w after now aside
theorem wp_read : wp (sys svc) (contract svc) process (perform .getAgentApiKey)
    (upon (fun row w => ∀ read, row = some read → Knows process read w) fun _ => True) w := by
  apply wp_call
  intro before _ good choice after answer _ handled
  obtain ⟨kept,others,known⟩ := handle_read good handled
  refine ⟨kept,others,?_⟩
  cases answer with
  | error error => trivial
  | ok row => exact fun read is => ⟨(known row rfl).trans is⟩

structure Accepted (svc : Services) (process : Nat) (read : OrgAgent) (token : String) (w : World) : Prop extends
    Knows process read w where
  accepted : (⟨read.agentEndPoint,svc.dedicated,none⟩,token) ∈ w.vouched
theorem accepted_aside (a b : World) (accepted : Accepted svc process read token a) (aside : Aside process a b) :
    Accepted svc process read token b :=
  ⟨knows_aside a b accepted.toKnows aside,aside.vouched _ accepted.accepted⟩

theorem wp_assertTokenAcceptedByAgent {agentEndPoint : String} (at_ : read.agentEndPoint = some agentEndPoint)
    (knows : Knows process read w) :
    wp (sys svc) (contract svc) process (assertTokenAcceptedByAgent agentEndPoint token)
      (upon (fun _ => Accepted svc process read token) fun _ => True) w := by
  have failed (error : Failure) {Q : Unit → World → Prop} (w : World) :
      wp (sys svc) (contract svc) process (probeFailed error) (upon Q fun _ => True) w := by
    cases error with
    | response status =>
      exact wp_branches _ (fun _ => trivial) fun _ => trivial
    | _ => trivial
  have probed : wp (sys svc) (contract svc) process (perform (.getAgent agentEndPoint token))
      (upon (fun isInitialized w => isInitialized = true → Accepted svc process read token w) fun _ => True) w := by
    apply wp_call
    intro before aside good choice after answer _ handled
    have learns := handle_still (c := .getAgent agentEndPoint token) rfl handled
    refine ⟨learns_good good learns,fun other _ => learns_aside learns,?_⟩
    rcases answer with error | isInitialized
    · trivial
    · rintro rfl
      refine ⟨⟨(congrFun learns.read process).trans (knows_aside w before knows aside).known⟩,?_⟩
      simp only [sys,handle] at handled
      split at handled
      · rw [((writes_cases (Option.some.inj handled)).2 true rfl).2,at_]
        exact List.mem_cons_self
      · cases (answers_cases (Option.some.inj handled)).2 true rfl
  refine (wp_tryCatch _ _ _ _).mpr ((wp_bind _ _ _ _).mpr (wp_mono ?_ probed))
  rintro (error | isInitialized) w accepted
  · exact failed error w
  · exact wp_branches _ (fun yes => accepted yes) fun _ => failed .agentTokenRejected w

theorem wp_tokenEncryption {S : World → Prop} (stable : ∀ a b, S a → Aside process a b → S b) (now : S w) :
    wp (sys svc) (contract svc) process (perform (.tokenEncryption token))
      (upon (fun cipher w => S w ∧ svc.decrypt cipher = some token) fun _ => True) w := by
  apply wp_call
  intro before aside good choice after answer _ handled
  have learns := handle_still (c := .tokenEncryption token) rfl handled
  refine ⟨learns_good good learns,fun other _ => learns_aside learns,?_⟩
  simp only [sys,handle] at handled
  split at handled
  · rename_i decrypted
    obtain ⟨rfl,same⟩ := answers_cases (Option.some.inj handled)
    rcases answer with error | cipher
    · trivial
    · exact ⟨stable w after now aside,same cipher rfl ▸ decrypted⟩
  · cases handled
theorem wp_storeVerified {agentEndPoint : String} (organizationDetails : Option String)
    (type : read.orgAgentTypeId = svc.dedicated)
    (at_ : read.agentEndPoint = some agentEndPoint) (knows : Knows process read w) :
    wp (sys svc) (contract svc) process (storeVerified svc read organizationDetails token agentEndPoint)
      (upon (fun _ _ => True) fun _ => True) w := by
  have trusted : wp (sys svc) (contract svc) process (assertEndpointTrusted svc read.agentEndPoint)
      (upon (fun _ => Knows process read) fun _ => True) w := by
    unfold assertEndpointTrusted
    split
    · trivial
    · split
      · trivial
      · exact wp_branches _ (fun _ => trivial) fun _ => knows
  refine wp_seq _ trusted fun _ w knows => ?_
  have role : wp (sys svc) (contract svc) process (assertTokenRole svc token (expectedRole organizationDetails))
      (upon (fun _ => Knows process read) fun _ => True) w := by
    unfold assertTokenRole
    split
    · trivial
    · exact wp_branches _ (fun _ => trivial) fun _ => knows
  refine wp_seq _ role fun _ w knows => wp_seq _ (wp_assertTokenAcceptedByAgent at_ knows) fun _ w accepted => ?_
  refine wp_seq _ (wp_tokenEncryption accepted_aside accepted) fun cipher w both => ?_
  refine wp_seq (fun _ _ => True) ?_ fun _ _ _ => wp_branches _ (fun _ => trivial) fun _ => trivial
  apply wp_call
  intro before aside good choice after answer _ handled
  have accepted := accepted_aside w before both.1 aside
  obtain ⟨kept,others⟩ := handle_compared good accepted.known type both.2 accepted.accepted handled
  refine ⟨kept,fun other _ => others other,?_⟩
  cases answer <;> trivial

theorem wp_getOrgAgentTypeDetails {agentType : String} {S : World → Prop}
    (stable : ∀ a b, S a → Aside process a b → S b) (now : S w) :
    wp (sys svc) (contract svc) process (perform (.getOrgAgentTypeDetails agentType))
      (upon (fun id w => id = svc.typeId agentType ∧ S w) fun _ => True) w := by
  apply wp_call
  intro before aside good choice after answer _ handled
  obtain ⟨rfl,same⟩ := answers_cases (Option.some.inj handled)
  refine ⟨good,fun _ _ => aside_refl,?_⟩
  rcases answer with error | id
  · trivial
  · exact ⟨same id rfl,stable w after now aside⟩

theorem wp_setDedicatedAgentToken (agentToken agentEndPoint : String) :
    wp (sys svc) (contract svc) process (setDedicatedAgentToken svc agentToken agentEndPoint)
      (upon (fun _ _ => True) fun _ => True) w := by
  refine wp_seq _ wp_read fun orgAgentDetails w known => ?_
  have stable (a b : World) (known : ∀ read, orgAgentDetails = some read → Knows process read a)
      (aside : Aside process a b) :
      ∀ read, orgAgentDetails = some read → Knows process read b := fun read is => knows_aside a b (known read is) aside
  refine wp_seq _ (wp_getOrgAgentTypeDetails stable known) fun dedicatedAgentTypeId w both => ?_
  obtain ⟨rfl,known⟩ := both
  refine wp_seq _ (wp_still stable rfl known) fun organizationDetails w known => ?_
  cases orgAgentDetails with
  | none => trivial
  | some orgAgentDetails =>
    refine wp_branches _ (fun _ => trivial) fun type => wp_branches _ (fun _ => trivial) fun at_ => ?_
    exact wp_storeVerified organizationDetails (not_ne_iff.mp type) (not_ne_iff.mp at_) (known _ rfl)

/-- The process has read `read`, and was given the endpoint of the platform's agent. -/
structure Asked (process : Nat) (read : OrgAgent) (agentEndPoint : Option String) (w : World) : Prop extends
    Knows process read w where
  asked : w.asked process = agentEndPoint
theorem asked_aside {agentEndPoint : Option String} (a b : World) (asked : Asked process read agentEndPoint a)
    (aside : Aside process a b) : Asked process read agentEndPoint b :=
  ⟨knows_aside a b asked.toKnows aside,aside.asked.trans asked.asked⟩
/-- Also, the agent there has minted the token for the tenant that was read. -/
structure Minted (svc : Services) (process : Nat) (read : OrgAgent) (agentEndPoint : Option String)
    (token : String) (w : World) :
    Prop extends Asked process read agentEndPoint w where
  minted : (⟨agentEndPoint,svc.shared,read.tenantId⟩,token) ∈ w.vouched
theorem minted_aside {agentEndPoint : Option String} (a b : World)
    (minted : Minted svc process read agentEndPoint token a)
    (aside : Aside process a b) : Minted svc process read agentEndPoint token b :=
  ⟨asked_aside a b minted.toAsked aside,aside.vouched _ minted.minted⟩

theorem wp_platformAdminAgent {platformOrg : String} (knows : Knows process read w) :
    wp (sys svc) (contract svc) process (perform (.platformAdminAgent platformOrg))
      (upon (fun platform => Asked process read (platformEndPoint platform)) fun _ => True) w := by
  apply wp_call
  intro before aside good choice after answer _ handled
  simp only [sys,handle] at handled
  split at handled
  · cases handled
    exact ⟨good_aside good rfl rfl fun _ there => there,
      fun other apart => ⟨rfl,Function.update_of_ne apart _ _,fun _ there => there⟩,
      ⟨(knows_aside w before knows aside).known⟩,Function.update_self _ _ _⟩
  · cases handled
    exact ⟨good,fun _ _ => aside_refl,trivial⟩

theorem wp_getTenantWalletToken {agentEndPoint apiKey tenantId : String} (tenant : read.tenantId = some tenantId)
    (asked : Asked process read (some agentEndPoint) w) :
    wp (sys svc) (contract svc) process (perform (.getTenantWalletToken agentEndPoint apiKey tenantId))
      (upon (fun token w => ∀ minted, token = some minted → Minted svc process read (some agentEndPoint) minted w)
        fun _ => True) w := by
  apply wp_call
  intro before aside good choice after answer _ handled
  have learns := handle_still (c := .getTenantWalletToken agentEndPoint apiKey tenantId) rfl handled
  refine ⟨learns_good good learns,fun other _ => learns_aside learns,?_⟩
  rcases answer with error | token
  · trivial
  rintro minted rfl
  refine ⟨asked_aside w after asked (aside_trans aside (learns_aside learns)),?_⟩
  simp only [sys,handle] at handled
  split at handled
  · cases (answers_cases (Option.some.inj handled)).2 _ rfl
  · obtain ⟨same,rfl⟩ := (writes_cases (Option.some.inj handled)).2 _ rfl
    rw [tenant,Option.some.inj same]
    exact List.mem_cons_self

/-- Within the contract, what the renewal stores is a token of the row's agent. -/
theorem wp_updateTenantToken {agentEndPoint : Option String} {apiKey : String} (type : read.orgAgentTypeId = svc.shared)
    (minted : Minted svc process read agentEndPoint token w) (decrypted : svc.decrypt apiKey = some token) :
    wp (sys svc) (contract svc) process (perform (.updateTenantToken apiKey))
        (upon (fun _ _ => True) fun _ => True) w := by
  apply wp_call
  intro before aside good choice after answer current handled
  have minted := minted_aside w before minted aside
  have same (row : OrgAgent) (present : before.row = some row) (takes : choice.fault.takes = true) :
      (∀ other, before.read process = some other → svc.agentOf other = svc.agentOf row) ∧
        (svc.agentOf row,token) ∈ before.vouched := by
    obtain ⟨agents,at_⟩ := current apiKey row rfl present takes
    have agent := agents read minted.known
    have where_ : read.agentEndPoint = agentEndPoint :=
      (congrArg Agent.agentEndPoint agent).trans (at_.trans minted.asked)
    have its : svc.agentOf read = ⟨agentEndPoint,svc.shared,read.tenantId⟩ := by
      rw [Services.agentOf,type,if_pos rfl,where_]
    exact ⟨agents,agent ▸ its ▸ minted.minted⟩
  obtain ⟨kept,others⟩ := handle_renewed good same decrypted handled
  refine ⟨kept,fun other _ => others other,?_⟩
  cases answer <;> trivial

theorem wp_decryptPassword {S : World → Prop} (encryptedPassword : Option String) (now : S w) :
    wp (sys svc) (contract svc) process (decryptPassword svc.decrypt .invalidCredentials encryptedPassword)
    (upon (fun _ => S) fun _ => True) w := by
  unfold decryptPassword
  split
  · trivial
  · exact now
theorem wp_getTenantToken {agentEndPoint : Option String} (apiKey : String) (orgId : Option String)
    (type : read.orgAgentTypeId = svc.shared) (asked : Asked process read agentEndPoint w) :
    wp (sys svc) (contract svc) process (getTenantToken agentEndPoint apiKey read.tenantId orgId)
      (upon (fun _ _ => True) fun _ => True) w := by
  unfold getTenantToken
  split
  · rename_i endPoint key tenantId org at_ _ tenant _
    obtain rfl := (Option.filter_eq_some_iff.mp at_).1
    refine wp_seq _ (wp_getTenantWalletToken (Option.filter_eq_some_iff.mp tenant).1 asked)
        fun tenantWalletToken w minted => ?_
    split
    · trivial
    · rename_i token there
      refine wp_seq _ (wp_tokenEncryption minted_aside (minted token (Option.filter_eq_some_iff.mp there).1))
          fun cipher w both => ?_
      exact wp_updateTenantToken type both.1 both.2
  · trivial

theorem wp_getOrgAgentApiKey :
    wp (sys svc) (contract svc) process (getOrgAgentApiKey svc) (upon (fun _ _ => True) fun _ => True) w := by
  refine wp_seq _ wp_read fun orgAgentDetails w known => ?_
  have stable (a b : World) (known : ∀ read, orgAgentDetails = some read → Knows process read a)
      (aside : Aside process a b) :
      ∀ read, orgAgentDetails = some read → Knows process read b := fun read is => knows_aside a b (known read is) aside
  refine wp_seq _ (wp_getOrgAgentTypeDetails stable known) fun sharedTypeId w both => ?_
  obtain ⟨rfl,known⟩ := both
  cases orgAgentDetails with
  | none => trivial
  | some read =>
    refine wp_branches _ (fun tokenless => ?_) fun _ => ?_
    · have type : read.orgAgentTypeId = svc.shared := of_decide_eq_true (Bool.and_eq_true_iff.mp tokenless).1
      refine wp_seq _ (wp_platformAdminAgent (known read rfl)) fun platform w asked => ?_
      cases platform with
      | none => trivial
      | some org_agents =>
        refine wp_seq _ (wp_decryptPassword _ asked) fun apiKey w asked => ?_
        refine wp_seq _ (wp_getTenantToken apiKey read.orgId type asked) fun updated w _ => ?_
        split
        · trivial
        · exact wp_decryptPassword _ trivial
    · split
      · trivial
      · exact wp_decryptPassword _ trivial

theorem wp_program (input : Input) : wp (sys svc) (contract svc) process (program svc input) (fun _ _ => True) w := by
  cases input with
  | setDedicatedAgentToken agentToken agentEndPoint =>
    exact wp_mono (fun _ _ _ => trivial) (wp_setDedicatedAgentToken agentToken agentEndPoint)
  | getOrgAgentApiKey =>
    have renewed : wp (sys svc) (contract svc) process (program svc .getOrgAgentApiKey)
        (upon (fun _ _ => True) fun _ => True) w := wp_seq _ wp_getOrgAgentApiKey fun _ _ _ => trivial
    exact wp_mono (fun _ _ _ => trivial) renewed
theorem agent_fill (details : Details) (row : OrgAgent) : svc.agentOf (details.fill svc row) = details.agent svc := by
  have apart : svc.dedicated ≠ svc.shared := fun is => svc.distinct (Option.some.inj is).symm
  obtain ⟨id,newId,orgId,agentEndPoint,tenantId,token,apiKey⟩ := details
  cases tenantId with
  | none => exact congrArg (Agent.mk _ _) (if_neg apart)
  | some tenantId => exact congrArg (Agent.mk _ _) (if_pos rfl)

theorem moves_keeps {event : Env} (good : Good svc w) (moved : (sys svc).environment event w = some after) :
    Good svc after ∧ ∀ other, Aside other w after := by
  cases event with
  | storeOrgAgentDetails details =>
    simp only [sys] at moved
    split at moved
    · rename_i decrypted
      obtain ⟨row,filled,rfl⟩ := Option.map_eq_some_iff.mp moved
      obtain ⟨old,rfl⟩ : ∃ old, details.fill svc old = row := by
        unfold storeOrgAgentDetails at filled
        split at filled <;> split at filled <;> cases filled <;> exact ⟨_,rfl⟩
      refine ⟨⟨fun found apiKey now key => ?_,good.intact⟩,fun _ => ⟨rfl,rfl,fun _ => List.mem_cons_of_mem _⟩⟩
      obtain rfl := Option.some.inj now
      obtain rfl := Option.some.inj (Option.filter_eq_some_iff.mp key).1
      exact ⟨details.token,decrypted,agent_fill details old ▸ List.mem_cons_self⟩
    · cases moved
  | createOrgAgent id orgId =>
    simp only [sys] at moved
    split at moved
    · cases moved
      refine ⟨⟨fun row apiKey now key => ?_,good.intact⟩,fun _ => ⟨rfl,rfl,fun _ there => there⟩⟩
      obtain rfl := Option.some.inj now
      cases key
    · cases moved
  | deleteOrgAgent =>
    cases moved
    exact ⟨⟨fun _ _ => nofun,good.intact⟩,fun _ => ⟨rfl,rfl,fun _ there => there⟩⟩

theorem keeps : Keeps (sys svc) (contract svc) fun _ _ _ => True where
  reflexive _ _ := aside_refl
  transitive _ _ _ _ := aside_trans
  stable _ _ _ _ _ _ _ := trivial
  idles _ _ _ _ _ _ := trivial
  arrives process input a b good _ arrived := by
    obtain rfl := Option.some.inj arrived
    exact ⟨good_aside good rfl rfl fun _ there => there,
      fun other apart => ⟨Function.update_of_ne apart _ _,rfl,fun _ there => there⟩,wp_program input⟩
  moves _ _ _ good _ moved := moves_keeps good moved

end

/-- What the steps of a run have to be: every renewal that stores its token finds the agent that it has read,
    at the endpoint of the platform's agent that it has asked. -/
abbrev Meets (svc : Services) : Machine Cmd Ret Failure Unit World → Action Choice Input Env → Prop :=
    Considered (contract svc)

/-- Types, texts and tokens that are what they say. -/
def plain : Services where
  typeId type := type
  distinct := by decide
  decrypt cipher := if cipher = "" then none else some cipher
  role _ := some AgentRole.RestRootAgent
  protocol _ := some "https:"

def tenant : OrgAgent := ⟨"row",some "org",none,some "base",some "tenant",none,some "SHARED"⟩
def renewing : World := ⟨some tenant,fun _ => none,fun _ => none,[],[]⟩
theorem good_renewing : Good plain renewing := by
  refine ⟨fun row apiKey now key => ?_,fun _ there => by cases there⟩
  obtain rfl := Option.some.inj now
  cases key
/-- All goes well, and the platform's agent is `base`. -/
def well : Choice := ⟨.none,none,some [⟨"admin",some "platform",none,some "base",none,some "key",some "DEDICATED"⟩],
    some "minted",true,"minted"⟩
def moved : Env := .storeOrgAgentDetails ⟨some "row","","org","https://own",none,"own","own"⟩
def renewed : List (Action Choice Input Env) := .start 0 .getOrgAgentApiKey :: List.replicate 6 (.advance 0 well)
def renews : Cmd → Option String
  | .updateTenantToken token => some token
  | _ => none

/-- What a renewal finds, where it is carried out. -/
def Fitting (svc : Services) (m : Machine Cmd Ret Failure Unit World) : Action Choice Input Env → Prop
  | .advance process _ => ∀ c ∈ (m.thread process).awaited.toList, (renews c).isSome → ∀ row ∈ m.world.row.toList,
      (∀ read ∈ (m.world.read process).toList, svc.agentOf read = svc.agentOf row) ∧
      row.agentEndPoint = m.world.asked process
  | _ => True
instance (svc : Services) (m : Machine Cmd Ret Failure Unit World) :
    (a : Action Choice Input Env) → Decidable (Fitting svc m a)
  | .advance _ _ => inferInstanceAs (Decidable (∀ c ∈ _, _))
  | .start _ _ => isTrue trivial
  | .crash _ => isTrue trivial
  | .environment _ => isTrue trivial

theorem meets_of_fitting {svc : Services} {m : Machine Cmd Ret Failure Unit World} {a : Action Choice Input Env}
    (fitting : Fitting svc m a) : Meets svc m a := by
  cases a with
  | advance process choice =>
    intro c resume stood apiKey row is present _
    subst is
    obtain ⟨same,at_⟩ := fitting (.updateTenantToken apiKey) (by rw [stood]; exact List.mem_singleton_self _) rfl row
      (Option.mem_toList.mpr present)
    exact ⟨fun read held => same read (Option.mem_toList.mpr held),at_⟩
  | _ => trivial
/-- The row is stored anew while the token is minted. -/
def overtaken : List (Action Choice Input Env) :=
  .start 0 .getOrgAgentApiKey :: List.replicate 5 (.advance 0 well) ++ [.environment moved,.advance 0 well]

end Ngotag.AgentTokens
