import Ngotag.Faults
import Ngotag.KeyedTable
import Ngotag.OrgRoles

/-!
Members of ecosystems: invitations of organisations, their answers and the deletion of members.
The status of an invitation, the row of `ecosystem_orgs` and the attribute `ecosystem_access` on
Keycloak are changed one after the other, and only what deletes members is a transaction.
-/
namespace Ngotag.EcosystemMembers
open Await Faults KeyedTable
open OrgRoles (Status)
open JsObject (truthy)

inductive InviteType where
  | ECOSYSTEM
  | MEMBER
  deriving DecidableEq
inductive EcosystemServiceRole where
  | LEAD
  | MEMBER
  deriving DecidableEq
/-- A row of `ecosystem_invitations` that names an ecosystem and an organisation. -/
structure EcosystemInvitation where
  email : String
  ecosystemId : String
  invitedOrg : String
  status : Status
  type : InviteType
  userId : Option String
  deriving DecidableEq
/-- `@@unique([email, ecosystemId, invitedOrg])` -/
def EcosystemInvitation.key (i : EcosystemInvitation) : String × String × String := (i.email,i.ecosystemId,i.invitedOrg)
structure EcosystemOrg where
  orgId : String
  ecosystemId : String
  ecosystemRoleId : String
  createdBy : String
  deleted : Bool
  deriving DecidableEq

/-- `@@unique([orgId, ecosystemId])` -/
def EcosystemOrg.key (row : EcosystemOrg) : String × String := (row.orgId,row.ecosystemId)
structure User where
  id : String
  email : Option String
  keycloakUserId : Option String
  deriving DecidableEq
structure Organisation where
  id : String
  createdBy : String
  idpId : Option String
structure Role where
  id : String
  name : String

structure Services where
  platformConfig : Bool
  users : Keyed User.id
  organisations : Keyed Organisation.id
  ecosystems : List String
  /-- `ecosystem_roles`, whose names are unique. -/
  roles : Keyed Role.name
  role_ids : (roles.rows.map Role.id).Nodup
  keycloakUsers : List String
  serviceAccount : String → Option String

/-- The value of `ecosystem_access`: by organisation and role the ecosystems. What is missing, or
    cannot be parsed, is empty. -/
abbrev Access := String → EcosystemServiceRole → List String
/-- What `updateUserEcosystemAccess` makes of the value. -/
def granted (access : Access) (orgId : String) (role : EcosystemServiceRole) (ecosystemId : String) : Access :=
  fun org r =>
    if org = orgId ∧ r = role ∧ (access org r).contains ecosystemId = false then access org r ++ [ecosystemId]
    else access org r

inductive Cmd where
  | platformConfig
  | getOrgProfile (id : String)
  | getUserById (userId : String)
  | getEcosystemInvitationsByEmail (email ecosystemId invitedOrg : String)
  | updateEcosystemInvitationStatusByEmail (email orgId ecosystemId : String) (status : Status)
  | createEcosystemInvitation (invitation : EcosystemInvitation)
  | getEcosystemById (id : String)
  | sendEmail (email : String)
  | getEcosystemRoleByName (name : String)
  | getEcosystemOrg (ecosystemId orgId : String)
  | createEcosystemOrg (row : EcosystemOrg)
  | getPlatformManagementToken
  | getUser (keycloakUserId : String)
  | putUser (keycloakUserId : String) (attributes : Access)
  | getServiceAccountUser (idpId : String)
  /-- The transaction of `deleteOrgsFromEcosystem`. -/
  | deleteOrgs (ecosystemId : String) (orgIds : List String)

@[reducible] def Ret : Cmd → Type
  | .platformConfig => Bool
  | .getOrgProfile _ => Option Organisation
  | .getUserById _ => Option User
  | .getEcosystemInvitationsByEmail _ _ _ => Option EcosystemInvitation
  | .updateEcosystemInvitationStatusByEmail _ _ _ _ => EcosystemInvitation
  | .sendEmail _ => Bool
  | .getEcosystemRoleByName _ => Option Role
  | .getEcosystemOrg _ _ => Option EcosystemOrg
  | .getUser _ => Access
  | .getServiceAccountUser _ => Option String
  | _ => Unit

inductive Failure where
  /-- `ResponseMessages.ecosystem.error.platformConfigNotFound` -/
  | platformConfigNotFound
  /-- `ResponseMessages.ecosystem.error.userNotFound` -/
  | userNotFound
  /-- `ResponseMessages.ecosystem.error.userNotFoundForInvitation` -/
  | userNotFoundForInvitation
  /-- `ResponseMessages.ecosystem.error.userEmailRequired` -/
  | userEmailRequired
  /-- `Invitation already exists for org with email` -/
  | invitationExists
  /-- `ResponseMessages.ecosystem.error.unableToSendInvitationToLead` -/
  | unableToSendInvitationToLead
  /-- `Invitation already exists for this email in the ecosystem` -/
  | emailInvited
  /-- `ResponseMessages.ecosystem.error.invitationCreateFailed` -/
  | invitationCreateFailed
  /-- `Invitation not found for this specific organization` -/
  | noSuchInvitation
  /-- `ResponseMessages.ecosystem.error.invitationNotFound` -/
  | invitationNotFound
  /-- `ResponseMessages.ecosystem.error.alreadyAccepted` -/
  | alreadyAccepted
  /-- `Error fetching ecosystem role` -/
  | noRole
  /-- `ResponseMessages.ecosystem.error.orgIdMissing` -/
  | orgIdMissing
  /-- `ResponseMessages.ecosystem.error.userIdMissing` -/
  | userIdMissing
  | ecosystemNotFound
  | other

abbrev Async := Prog Cmd Ret Failure
def perform (command : Cmd) : Async (Ret command) := call command
/-- `OrgRoles.ECOSYSTEM_MEMBER`, the same text as `EcosystemRoles.ECOSYSTEM_MEMBER`. -/
def ECOSYSTEM_MEMBER : String := "Ecosystem Member"
def updateUserEcosystemAccess (keycloakUserId orgId ecosystemId : String) (role : EcosystemServiceRole) :
    Async Unit := do
  let attributes : Access ← perform (.getUser keycloakUserId)
  perform (.putUser keycloakUserId (granted attributes orgId role ecosystemId))
def updateClientServiceAccountEcosystemAccess (clientIdpId orgId ecosystemId : String) (role : EcosystemServiceRole) :
    Async Unit := do
  let serviceAccountUser : Option String ← perform (.getServiceAccountUser clientIdpId)
  match serviceAccountUser with
  | none => pure ()
  | some serviceAccountUser => updateUserEcosystemAccess serviceAccountUser orgId ecosystemId role
def updateOrgServiceAccountEcosystem (orgId ecosystemId : String) (role : EcosystemServiceRole) : Async Unit :=
  Prog.tryCatch (do
    let organization : Option Organisation ← perform (.getOrgProfile orgId)
    match organization.bind fun organization => truthy organization.idpId with
    | none => pure ()
    | some idpId => updateClientServiceAccountEcosystemAccess idpId orgId ecosystemId role) fun _ => pure ()
def updateKeycloakEcosystemMember (user : User) (orgId ecosystemId : String) : Async Unit := do
  let _ : Unit ← perform .getPlatformManagementToken
  match truthy user.keycloakUserId with
  | none => updateOrgServiceAccountEcosystem orgId ecosystemId .MEMBER
  | some keycloakUserId => do
    let _ : Unit ← updateUserEcosystemAccess keycloakUserId orgId ecosystemId .MEMBER
    updateOrgServiceAccountEcosystem orgId ecosystemId .MEMBER

/-- What follows the update of an invitation to accepted. The row is looked for by the id of the
    user in place of the organisation. -/
def createMembership (user : User) (result : EcosystemInvitation) : Async Unit := do
  let role : Option Role ← perform (.getEcosystemRoleByName ECOSYSTEM_MEMBER)
  match role with
  | none => throw .noRole
  | some role =>
    if result.invitedOrg = "" then throw .orgIdMissing
    else
      match truthy result.userId with
      | none => throw .userIdMissing
      | some userId => do
        let existingOrg : Option EcosystemOrg ← perform (.getEcosystemOrg result.ecosystemId userId)
        match existingOrg with
        | some _ => pure ()
        | none => do
          let _ : Unit ← perform (.createEcosystemOrg ⟨result.invitedOrg,result.ecosystemId,role.id,user.id,false⟩)
          updateKeycloakEcosystemMember user result.invitedOrg result.ecosystemId

/-- With an invitation that is not accepted. -/
def answerInvitation (user : User) (userEmail orgId ecosystemId : String) (status : Status) : Async Bool := do
  let result : EcosystemInvitation ← perform (.updateEcosystemInvitationStatusByEmail userEmail orgId ecosystemId status)
  if result.status = .ACCEPTED ∧ result.ecosystemId ≠ "" then do
    let _ : Unit ← createMembership user result
    pure true
  else pure true

def updateEcosystemInvitationStatus (status : Status) (reqUser ecosystemId orgId : String) : Async Bool := do
  let user : Option User ← perform (.getUserById reqUser)
  match user with
  | none => throw .userNotFoundForInvitation
  | some user =>
    match truthy user.email with
    | none => throw .userEmailRequired
    | some userEmail => do
      let existingInvitation : Option EcosystemInvitation ←
        perform (.getEcosystemInvitationsByEmail userEmail ecosystemId orgId)
      match existingInvitation with
      | none => throw .invitationNotFound
      | some existingInvitation =>
        if existingInvitation.status = .ACCEPTED then throw .alreadyAccepted
        else answerInvitation user userEmail orgId ecosystemId status

def createInvitation (user : User) (userEmail orgId reqUser ecosystemId : String) : Async Bool := do
  let _ : Unit ← perform (.createEcosystemInvitation ⟨userEmail,ecosystemId,orgId,.PENDING,.MEMBER,some user.id⟩)
  if reqUser = user.id then do
    let _ : Bool ← updateEcosystemInvitationStatus .ACCEPTED reqUser ecosystemId orgId
    pure true
  else do
    let _ : Unit ← perform (.getEcosystemById ecosystemId)
    perform (.sendEmail userEmail)

def inviteUser (user : User) (userEmail orgId reqUser ecosystemId : String) : Async Bool := do
  let checkUser : Option EcosystemInvitation ← perform (.getEcosystemInvitationsByEmail userEmail ecosystemId orgId)
  match checkUser with
  | none => createInvitation user userEmail orgId reqUser ecosystemId
  | some checkUser =>
    if checkUser.status = .REJECTED then do
      let _ : EcosystemInvitation ← perform
          (.updateEcosystemInvitationStatusByEmail userEmail orgId ecosystemId .PENDING)
      pure true
    else if checkUser.status = .PENDING ∧ checkUser.type = .MEMBER then throw .invitationExists
    else if checkUser.status = .ACCEPTED ∧ checkUser.type = .ECOSYSTEM then throw .unableToSendInvitationToLead
    else createInvitation user userEmail orgId reqUser ecosystemId

def inviteMemberToEcosystem (orgId reqUser ecosystemId : String) : Async Bool := do
  let platformConfigData : Bool ← perform .platformConfig
  if platformConfigData = false then throw .platformConfigNotFound
  else do
    let organization : Option Organisation ← perform (.getOrgProfile orgId)
    match organization with
    | none => throw .other
    | some organization => do
      let user : Option User ← perform (.getUserById organization.createdBy)
      match user with
      | none => throw .userNotFound
      | some user =>
        match truthy user.email with
        | none => throw .userEmailRequired
        | some userEmail => inviteUser user userEmail orgId reqUser ecosystemId

def deleteOrgsFromEcosystem (ecosystemId : String) (orgIds : List String) : Async Bool := do
  let _ : Unit ← perform (.deleteOrgs ecosystemId orgIds)
  pure true
structure World where
  invitations : Keyed EcosystemInvitation.key
  orgs : Keyed EcosystemOrg.key
  access : String → Access
def EcosystemInvitation.withStatus (status : Status) (i : EcosystemInvitation) :
    EcosystemInvitation := { i with status := status }
theorem withStatus_key (status : Status) (i : EcosystemInvitation) : (i.withStatus status).key = i.key := rfl
def World.answered (w : World) (key : String × String × String) (status : Status) : World :=
  { w with invitations := w.invitations.change key (.withStatus status) (withStatus_key status) }

variable (svc : Services)
def known (ecosystemId orgId : String) : Bool :=
  svc.ecosystems.contains ecosystemId && (svc.organisations.find orgId).isSome
/-- `ecosystemRole: { name: OrgRoles.ECOSYSTEM_MEMBER }` -/
def isMember (row : EcosystemOrg) : Bool :=
  (svc.roles.find ECOSYSTEM_MEMBER).any fun role => role.id = row.ecosystemRoleId
def World.deleteOrgs (w : World) (ecosystemId : String) (orgIds : List String) : World :=
  { w with
    orgs := w.orgs.delete fun row => row.ecosystemId = ecosystemId && isMember svc row && orgIds.contains row.orgId
    invitations :=
        w.invitations.delete fun i => i.ecosystemId = ecosystemId && i.type = .MEMBER && orgIds.contains i.invitedOrg }
def found {β : Type} (w : World) (value : β) : World × Except Failure β := (w,.ok value)

def carry (c : Cmd) (w : World) : World × Except Failure (Ret c) :=
  match c with
  | .platformConfig => found (β := Bool) w svc.platformConfig
  | .getOrgProfile id => found (β := Option Organisation) w (svc.organisations.find id)
  | .getUserById userId => found (β := Option User) w (svc.users.find userId)
  | .getEcosystemInvitationsByEmail email ecosystemId invitedOrg =>
    found (β := Option EcosystemInvitation) w (w.invitations.find (email,ecosystemId,invitedOrg))
  | .updateEcosystemInvitationStatusByEmail email orgId ecosystemId status =>
    match w.invitations.find (email,ecosystemId,orgId) with
    | none => (w,.error .noSuchInvitation)
    | some i => found (β := EcosystemInvitation) (w.answered (email,ecosystemId,orgId) status) (i.withStatus status)
  | .createEcosystemInvitation invitation =>
    if known svc invitation.ecosystemId invitation.invitedOrg = true then
      match w.invitations.insert invitation with
      | none => (w,.error .emailInvited)
      | some invitations => found (β := Unit) { w with invitations := invitations } ()
    else (w,.error .invitationCreateFailed)
  | .getEcosystemById id =>
    if svc.ecosystems.contains id = true then found (β := Unit) w () else (w,.error .ecosystemNotFound)
  | .sendEmail _ => found (β := Bool) w true
  | .getEcosystemRoleByName name => found (β := Option Role) w (svc.roles.find name)
  | .getEcosystemOrg ecosystemId orgId => found (β := Option EcosystemOrg) w (w.orgs.find (orgId,ecosystemId))
  | .createEcosystemOrg row =>
    if known svc row.ecosystemId row.orgId = true then
      match w.orgs.insert row with
      | none => (w,.error .other)
      | some orgs => found (β := Unit) { w with orgs := orgs } ()
    else (w,.error .other)
  | .getPlatformManagementToken => found (β := Unit) w ()
  | .getUser keycloakUserId =>
    if svc.keycloakUsers.contains keycloakUserId = true then found (β := Access) w (w.access keycloakUserId)
    else (w,.error .other)
  | .putUser keycloakUserId attributes =>
    if svc.keycloakUsers.contains keycloakUserId = true then
      found (β := Unit) { w with access := Function.update w.access keycloakUserId attributes } ()
    else (w,.error .other)
  | .getServiceAccountUser idpId => found (β := Option String) w (svc.serviceAccount idpId)
  | .deleteOrgs ecosystemId orgIds => found (β := Unit) (w.deleteOrgs svc ecosystemId orgIds) ()

inductive Call where
  | inviteMemberToEcosystem (orgId reqUser ecosystemId : String)
  | updateEcosystemInvitationStatus (status : Status) (reqUser ecosystemId orgId : String)
  | deleteOrgsFromEcosystem (ecosystemId : String) (orgIds : List String)
def Call.program : Call → Async Bool
  | .inviteMemberToEcosystem orgId reqUser ecosystemId =>
      EcosystemMembers.inviteMemberToEcosystem orgId reqUser ecosystemId
  | .updateEcosystemInvitationStatus status reqUser ecosystemId orgId =>
    EcosystemMembers.updateEcosystemInvitationStatus status reqUser ecosystemId orgId
  | .deleteOrgsFromEcosystem ecosystemId orgIds => EcosystemMembers.deleteOrgsFromEcosystem ecosystemId orgIds
structure Failed where
  call : Call
  before : World
  after : World
/-- `failed` records the calls that ended with an error. -/
structure State where
  world : World
  failed : List Failed
def run_ (faults : Nat → Fault) {β : Type} (p : Async β) (w : World) : World × Option (Except Failure β) :=
  execute (carry svc) .other p faults w
def failure {β : Type} : Option (Except Failure β) → Bool
  | some (.error _) => true
  | _ => false
def call_ (s : State) (a : Call × (Nat → Fault)) : Option State :=
  let ended := run_ svc a.2 a.1.program s.world
  some ⟨ended.1,if failure ended.2 = true then ⟨a.1,s.world,ended.1⟩ :: s.failed else s.failed⟩

end Ngotag.EcosystemMembers
