import Ngotag.Background
import Ngotag.Serial
import Ngotag.JsObject

/-!
The roles of users in organisations: answering an invitation, replacing the roles of a user, and
registering an organisation with Keycloak. Roles are rows of `user_org_roles`, without a key over
user, organisation and role. `Promise.all` and calls that nobody awaits start steps that run on
by themselves (`Tasks`); the other steps are awaited one by one.
-/
namespace Ngotag.OrgRoles
open Await Background
open JsObject (truthy)

/-- `org_roles` -/
structure Role where
  id : String
  name : String
structure ClientRole where
  id : String
  name : String
  deriving DecidableEq
structure User where
  id : String
  email : String
  keycloakUserId : Option String
  deriving DecidableEq

/-- `Invitation` -/
inductive Status where
  | PENDING
  | ACCEPTED
  | REJECTED
  deriving DecidableEq
def transitionMap : Status → List Status
  | .PENDING => [.ACCEPTED,.REJECTED]
  | .ACCEPTED => []
  | .REJECTED => []
def transition (currentStatus nextStatus : Status) : Bool := (transitionMap currentStatus).contains nextStatus
/-- What does not change of a row of `org_invitations`. -/
structure OrgInvitation where
  id : String
  orgId : String
  email : String
  orgRoles : List String

/-- Roles, users and invitations, each with its key, and the roles of the clients that Keycloak
    has or will have. -/
structure Services where
  MAX_ORG_LIMIT : Nat
  roles : List Role
  users : List User
  organisations : List String
  invitations : List OrgInvitation
  trim : String → String
  clientRoles : String → List ClientRole
  role_ids : (roles.map Role.id).Nodup
  role_names : (roles.map Role.name).Nodup
  invitation_ids : ∀ a ∈ invitations, ∀ b ∈ invitations, a.id = b.id → a = b
  client_ids : ∀ idpId, ((clientRoles idpId).map ClientRole.id).Nodup
  /-- The ids of Keycloak are UUIDs. -/
  trimmed : ∀ idpId, ∀ role ∈ clientRoles idpId, trim role.id = role.id
  filled : ∀ idpId, ∀ role ∈ clientRoles idpId, role.id ≠ ""

/-- `user_org_roles`. The last field records which call inserted the row. -/
structure Row where
  userId : String
  orgRoleId : String
  orgId : Option String
  idpRoleId : Option String
  by_ : Option Nat
  deriving DecidableEq
/-- A step that changes the database or the roles on Keycloak. -/
inductive Work where
  | updateOrgInvitation (id : String) (status : Status)
  | createUserClientRole (idpId : String) (keycloakUserId : Option String) (payload : List ClientRole)
  | deleteUserClientRoles (idpId : String) (keycloakUserId : Option String)
  | createUserOrgRole (userId roleId : String) (orgId idpRoleId : Option String)
  | deleteOrgRoles (userId orgId : String)
  deriving DecidableEq

inductive Cmd where
  | getInvitationById (id : String)
  | userOrganizationCount (userId : String)
  | getMarketplaceMaxOrganizationsByUser (userId : String)
  | getMarketplaceMaxUsers (orgId : String)
  | checkUserOrgExist (userId orgId : String)
  | getOrganizationUserCount (orgId : String)
  /-- The `idpId` of the organisation, if it is found. -/
  | getOrganizationDetails (orgId : String)
  | getManagementToken (userId : String)
  | getAllClientRoles (idpId : String)
  | getOrgRolesByIds (orgRoles : List String)
  | getOrgRoles
  | getRole (name : String)
  | getUserUserId (userId : String)
  | generateClientSecret (idpId : String)
  | createClient (orgId : String)
  | createClientRole (idpId name : String)
  | getClientSpecificRoles (idpId roleName : String)
  | updateOrganizationById (orgId : String) (idpId : Option String)
  | one (work : Work)
  | start (works : List Work)
  /-- `Promise.all` of steps that were started. -/
  | all (works : List Work)

def Ret : Cmd → Type
  | .getInvitationById _ => Option (OrgInvitation × Status)
  | .userOrganizationCount _ => Nat
  | .getMarketplaceMaxOrganizationsByUser _ => Option Nat
  | .getMarketplaceMaxUsers _ => Option Nat
  | .checkUserOrgExist _ _ => Bool
  | .getOrganizationUserCount _ => Nat
  | .getOrganizationDetails _ => Option (Option String)
  | .getAllClientRoles _ => List ClientRole
  | .getOrgRolesByIds _ => List Role
  | .getOrgRoles => List Role
  | .getRole _ => Option Role
  | .getUserUserId _ => Option String
  | .createClient _ => String
  | .getClientSpecificRoles _ _ => ClientRole
  | .one _ => Nat
  | .all _ => Nat
  | _ => Unit

inductive Failure where
  /-- `ResponseMessages.organisation.error.MaximumOrgsLimit` -/
  | maximumOrgsLimit
  | marketplaceOrgLimitReached
  | marketplaceUserLimitReached
  /-- `ResponseMessages.user.error.invitationNotFound` -/
  | invitationNotFound
  /-- `ResponseMessages.user.error.invalidOrgId` -/
  | invalidOrgId
  /-- `ResponseMessages.organisation.error.orgNotFound` -/
  | orgNotFound
  /-- `ResponseMessages.user.error.invitationStatusUpdateInvalid` -/
  | invitationStatusUpdateInvalid (status : Status)
  /-- `ResponseMessages.organisation.error.orgRoleIdNotFound` -/
  | orgRoleIdNotFound
  /-- `ResponseMessages.organisation.error.rolesNotExist` -/
  | rolesNotExist
  /-- `ResponseMessages.organisation.error.updateUserRoles` -/
  | updateUserRoles
  /-- `ResponseMessages.organisation.error.userNotFound` -/
  | userNotFound
  | unableToCreateClient
  | other

inductive Response where
  /-- `ResponseMessages.user.success.invitationReject` -/
  | invitationReject
  /-- `ResponseMessages.user.success.invitationAccept` -/
  | invitationAccept
  | rolesUpdated
  | credentials
abbrev Async := Prog Cmd Ret Failure
def perform (command : Cmd) : Async (Ret command) := call command
structure UpdateInvitation where
  orgId : String
  status : Status
  invitationId : String
  user : User
  deriving DecidableEq

section
variable (svc : Services)

def assertMarketplaceOrganizationLimit (userId : String) (currentOrgCount : Nat) : Async Unit := do
  let maxOrganizations : Option Nat ← perform (.getMarketplaceMaxOrganizationsByUser userId)
  match maxOrganizations with
  | none => pure ()
  | some maxOrganizations =>
    if maxOrganizations = 0 then pure ()
    else if maxOrganizations ≤ currentOrgCount then throw .marketplaceOrgLimitReached else pure ()

def assertMarketplaceUserLimitAllowsAcceptance (orgId userId : String) : Async Unit := do
  let maxUsers : Option Nat ← perform (.getMarketplaceMaxUsers orgId)
  match maxUsers with
  | none => pure ()
  | some maxUsers =>
    if maxUsers = 0 then pure ()
    else do
      let isExistingOrgUser : Bool ← perform (.checkUserOrgExist userId orgId)
      if isExistingOrgUser = true then pure ()
      else do
        let activeUsers : Nat ← perform (.getOrganizationUserCount orgId)
        if maxUsers < activeUsers + 1 then throw .marketplaceUserLimitReached else pure ()

/-- The limits that an acceptance has to keep. -/
def assertLimits (orgId userId : String) : Async Unit := do
  let userOrgCount : Nat ← perform (.userOrganizationCount userId)
  if svc.MAX_ORG_LIMIT ≤ userOrgCount then throw .maximumOrgsLimit
  else do
    let _ : Unit ← assertMarketplaceOrganizationLimit userId userOrgCount
    assertMarketplaceUserLimitAllowsAcceptance orgId userId
/-- A role with its counterpart on Keycloak. -/
structure RolePayload where
  roleId : String
  name : String
  idpRoleId : String
/-- The counterparts by name; nothing for a role without one. -/
def rolesPayload (clientRolesList : List ClientRole) (orgRoles : List Role) : List (Option RolePayload) :=
  orgRoles.map fun orgRole =>
    (clientRolesList.find? fun role => role.name = orgRole.name).map fun role => ⟨orgRole.id,orgRole.name,role.id⟩
def clientPayload (payload : List RolePayload) : List ClientRole := payload.map fun role => ⟨role.idpRoleId,role.name⟩
/-- The inserts that `updateUserOrgRole` starts and does not await. -/
def updateUserOrgRole (userId orgId : String) (roleIdList : List (String × String)) : List Work :=
  roleIdList.map fun roleData => .createUserOrgRole userId roleData.1 (truthy (some orgId)) (truthy (some roleData.2))
def idPairs (payload : List RolePayload) : List (String × String) := payload.map fun role => (role.roleId,role.idpRoleId)

/-- The update of the invitation is started before the payload of the next call throws for a
    role without counterpart. -/
def updateClientInvitation (invitation : OrgInvitation) (idpId : String) (user : User) (orgId : String)
    (status : Status) :
    Async Unit := do
  let _ : Unit ← perform (.getManagementToken user.id)
  let clientRolesList : List ClientRole ← perform (.getAllClientRoles idpId)
  let orgRoles : List Role ← perform (.getOrgRolesByIds invitation.orgRoles)
  match (rolesPayload clientRolesList orgRoles).mapM id with
  | none => do
    let _ : Unit ← perform (.start [.updateOrgInvitation invitation.id status])
    throw .other
  | some payload => do
    let awaited : List Work :=
      [.updateOrgInvitation invitation.id status,.createUserClientRole idpId user.keycloakUserId (clientPayload payload)]
    let _ : Unit ← perform (.start (awaited ++ updateUserOrgRole user.id orgId (idPairs payload)))
    let _ : Nat ← perform (.all awaited)
    pure ()

def createUserOrgRole (userId roleId orgId : String) : Async Unit := do
  let _ : Nat ← perform (.one (.createUserOrgRole userId roleId (truthy (some orgId)) none))
  pure ()

/-- With the invitation and the organisation at hand. -/
def answerInvitation (payload : UpdateInvitation) (invitation : OrgInvitation) (idpId : Option String) :
    Async Response :=
  if payload.status = .REJECTED then do
    let _ : Nat ← perform (.one (.updateOrgInvitation payload.invitationId payload.status))
    pure .invitationReject
  else
    match truthy idpId with
    | some idpId => do
      let _ : Unit ← updateClientInvitation invitation idpId payload.user payload.orgId payload.status
      pure .invitationAccept
    | none => do
      let _ : Nat ← perform (.one (.updateOrgInvitation payload.invitationId payload.status))
      let _ : Unit ← forEach (fun roleId => createUserOrgRole payload.user.id roleId payload.orgId) invitation.orgRoles
      pure .invitationAccept

def checkedInvitation (payload : UpdateInvitation) (found : Option (OrgInvitation × Status)) : Async Response :=
  match found with
  | none => throw .invitationNotFound
  | some (invitation,status) =>
    if invitation.email ≠ payload.user.email then throw .invitationNotFound
    else if invitation.orgId ≠ payload.orgId then throw .invalidOrgId
    else do
      let organizationDetails : Option (Option String) ← perform (.getOrganizationDetails payload.orgId)
      match organizationDetails with
      | none => throw .orgNotFound
      | some idpId =>
        if transition status payload.status = false then throw (.invitationStatusUpdateInvalid status)
        else answerInvitation payload invitation idpId

def updateOrgInvitation (payload : UpdateInvitation) : Async Response := do
  let invitation : Option (OrgInvitation × Status) ← perform (.getInvitationById payload.invitationId)
  if payload.status = .ACCEPTED then do
    let _ : Unit ← assertLimits svc payload.orgId payload.user.id
    checkedInvitation payload invitation
  else checkedInvitation payload invitation
/-- The roles of the organisation by the names of the client roles. -/
def clientRolesPayload (orgRoles : List Role) (matchedClientRoles : List ClientRole) : List (Option RolePayload) :=
  matchedClientRoles.map fun clientRole =>
    (orgRoles.find? fun role => role.name = clientRole.name).map fun role => ⟨role.id,role.name,clientRole.id⟩

def replaceClientRoles (idpId userId orgId : String) (keycloakUserId : Option String)
    (rolesPayload : List (Option RolePayload)) : Async Response := do
  let deleting : List Work := [.deleteUserClientRoles idpId keycloakUserId,.deleteOrgRoles userId orgId]
  let _ : Unit ← perform (.start deleting)
  let deletedUserRoleRecords : Nat ← perform (.all deleting)
  if deletedUserRoleRecords = 0 then throw .updateUserRoles
  else
    match rolesPayload.mapM id with
    | none => throw .other
    | some payload => do
      let awaited : List Work := [.createUserClientRole idpId keycloakUserId (clientPayload payload)]
      let _ : Unit ← perform (.start (awaited ++ updateUserOrgRole userId orgId (idPairs payload)))
      let _ : Nat ← perform (.all awaited)
      pure .rolesUpdated

def updateUserClientRoles (roleIds : List String) (idpId userId orgId : String) : Async Response := do
  let _ : Unit ← perform (.getManagementToken userId)
  let clientRolesList : List ClientRole ← perform (.getAllClientRoles idpId)
  let orgRoles : List Role ← perform .getOrgRoles
  let matchedClientRoles : List ClientRole := clientRolesList.filter fun role => roleIds.contains (svc.trim role.id)
  if roleIds.length ≠ matchedClientRoles.length then throw .orgRoleIdNotFound
  else do
    let keycloakUserId : Option String ← perform (.getUserUserId userId)
    replaceClientRoles idpId userId orgId keycloakUserId (clientRolesPayload orgRoles matchedClientRoles)
/-- The inserts of an organisation that is not registered; nobody awaits them. -/
def createUserOrgRoles (userId orgId : String) (roleIds : List String) : List Work :=
  roleIds.map fun role => .createUserOrgRole userId role (truthy (some orgId)) none
def replaceOrgRoles (orgId : String) (roleIds : List String) (userId : String) : Async Response := do
  let isRolesExist : List Role ← perform (.getOrgRolesByIds roleIds)
  if isRolesExist.length = 0 then throw .rolesNotExist
  else do
    let deleteUserRecords : Nat ← perform (.one (.deleteOrgRoles userId orgId))
    if deleteUserRecords = 0 then throw .updateUserRoles
    else do
      let _ : Unit ← perform (.start (createUserOrgRoles userId orgId roleIds))
      pure .rolesUpdated

def updateUserRoles (orgId : String) (roleIds : List String) (userId : String) : Async Response := do
  let isUserExistForOrg : Bool ← perform (.checkUserOrgExist userId orgId)
  if isUserExistForOrg = false then throw .userNotFound
  else do
    let organizationDetails : Option (Option String) ← perform (.getOrganizationDetails orgId)
    match organizationDetails with
    | none => throw .orgNotFound
    | some idpId =>
      match truthy idpId with
      | none => replaceOrgRoles orgId roleIds userId
      | some idpId => updateUserClientRoles svc roleIds idpId userId orgId

/-- `OrgRoles.OWNER` and the other roles of a client. -/
def orgRolesList : List String := ["owner","admin","issuer","verifier","member"]

/-- With `shouldUpdateRole`; the id of the client. -/
def registerToKeycloak (orgId : String) (keycloakUserId : Option String) (userId : String) : Async String := do
  let _ : Unit ← perform (.getManagementToken userId)
  let idpId : String ← perform (.createClient orgId)
  let _ : Unit ← forEach (fun role => perform (.createClientRole idpId role)) orgRolesList
  let ownerRoleClient : ClientRole ← perform (.getClientSpecificRoles idpId "owner")
  let ownerRoleData : Option Role ← perform (.getRole "owner")
  match ownerRoleData with
  | none => throw .other
  | some ownerRoleData => do
    let awaited : List Work :=
        [.createUserClientRole idpId keycloakUserId [ownerRoleClient],.deleteOrgRoles userId orgId]
    let _ : Unit ← perform (.start (awaited ++ updateUserOrgRole userId orgId [(ownerRoleData.id,ownerRoleClient.id)]))
    let _ : Nat ← perform (.all awaited)
    pure idpId

def createOrgCredentials (orgId userId : String) (keycloakUserId : Option String) : Async Response := do
  let organizationDetails : Option (Option String) ← perform (.getOrganizationDetails orgId)
  match organizationDetails with
  | none => throw .orgNotFound
  | some idpId =>
    match truthy idpId with
    | some idpId => do
      let _ : Unit ← perform (.getManagementToken userId)
      let _ : Unit ← perform (.generateClientSecret idpId)
      let _ : Unit ← perform (.updateOrganizationById orgId none)
      pure .credentials
    | none => do
      let idpId : String ← Prog.tryCatch (registerToKeycloak orgId keycloakUserId userId) fun _ =>
          throw .unableToCreateClient
      let _ : Unit ← perform (.updateOrganizationById orgId (some idpId))
      pure .credentials

inductive Input where
  | updateOrgInvitation (payload : UpdateInvitation)
  | updateUserRoles (orgId : String) (roleIds : List String) (userId : String)
  | createOrgCredentials (orgId userId : String) (keycloakUserId : Option String)
  deriving DecidableEq

/-- By the ids of the invitations their statuses, and by the ids of the organisations their
    clients. `calls` and `changers` record for what each call was started, and which of them
    changed the status of an invitation. -/
structure World where
  rows : List Row
  status : String → Status
  idpIds : String → Option String
  tasks : Tasks Work
  calls : Nat → Option Input
  changers : List Nat

/-- Roles that were given before, and invitations in any status. -/
def World.initial (rows : List Row) (status : String → Status) (idpIds : String → Option String) : World :=
  ⟨rows,status,idpIds,.none,fun _ => none,[]⟩
/-- Whether the step fails, and whether it was carried out nevertheless; a limit, and the id of a
    client. -/
structure Choice where
  fails : Bool
  done : Bool
  limit : Option Nat
  idpId : String

def World.inserted (w : World) (row : Row) : World := { w with rows := row :: w.rows }
def World.updated (w : World) (process : Nat) (id : String) (status : Status) : World :=
  { w with
    status := Function.update w.status id status
    changers := if w.status id = status then w.changers else process :: w.changers }
def held (userId orgId : String) (row : Row) : Bool := row.userId = userId && row.orgId = some orgId
def World.deleted (w : World) (userId orgId : String) : World :=
  { w with rows := w.rows.filter fun row => !held userId orgId row }
def newRow (process : Nat) (userId roleId : String) (orgId idpRoleId : Option String) : Row :=
  ⟨userId,roleId,orgId,idpRoleId,some process⟩

/-- A role that is not in the table is refused. -/
def work (process : Nat) (w : World) : Work → World × Option Nat
  | .updateOrgInvitation id status => (w.updated process id status,some 1)
  | .createUserClientRole _ _ _ => (w,some 0)
  | .deleteUserClientRoles _ _ => (w,some 0)
  | .createUserOrgRole userId roleId orgId idpRoleId =>
    if (svc.roles.any fun role => role.id = roleId) = true then
      (w.inserted (newRow process userId roleId orgId idpRoleId),some 1)
    else (w,none)
  | .deleteOrgRoles userId orgId => (w.deleted userId orgId,some (w.rows.filter (held userId orgId)).length)

/-- `deleteUserClientRoles` answers in any case. -/
def mayFail : Work → Bool
  | .deleteUserClientRoles _ _ => false
  | _ => true
def carry (process : Nat) (step_ : Work) (choice : Choice) (w : World) : World × Option Nat :=
  if choice.fails = true ∧ mayFail step_ = true then
    (if choice.done = true then (work svc process w step_).1 else w,none)
  else work svc process w step_
def answered {β : Type} (w : World) (choice : Choice) (value : β) : Option (World × Except Failure β) :=
  some (w,if choice.fails = true then .error .other else .ok value)
def ofCount (result : Option Nat) : Except Failure Nat :=
  match result with
  | none => .error .other
  | some count => .ok count

def handle (process : Nat) (c : Cmd) (choice : Choice) (w : World) : Option (World × Except Failure (Ret c)) :=
  match c with
  | .getInvitationById id => answered (β := Option (OrgInvitation × Status)) w choice
      ((svc.invitations.find? fun row => row.id = id).map fun row => (row,w.status row.id))
  | .userOrganizationCount userId => answered (β := Nat) w choice
      ((w.rows.filter fun row => row.userId = userId).filterMap Row.orgId).dedup.length
  | .getMarketplaceMaxOrganizationsByUser _ => answered (β := Option Nat) w choice choice.limit
  | .getMarketplaceMaxUsers _ => answered (β := Option Nat) w choice choice.limit
  | .checkUserOrgExist userId orgId => answered (β := Bool) w choice (w.rows.any (held userId orgId))
  | .getOrganizationUserCount orgId => answered (β := Nat) w choice
      ((w.rows.filter fun row => row.orgId = some orgId).map Row.userId).dedup.length
  | .getOrganizationDetails orgId => some (w,if orgId = "" ∨ choice.fails = true then .error .other
      else .ok (if svc.organisations.contains orgId = true then some (w.idpIds orgId) else none))
  | .getManagementToken _ => answered (β := Unit) w choice ()
  | .getAllClientRoles idpId => answered (β := List ClientRole) w choice (svc.clientRoles idpId)
  | .getOrgRolesByIds orgRoles => answered (β := List Role) w choice
      (svc.roles.filter fun role => orgRoles.contains role.id)
  | .getOrgRoles => answered (β := List Role) w choice (svc.roles.filter fun role => role.name ≠ "platform_admin")
  | .getRole name => answered (β := Option Role) w choice (svc.roles.find? fun role => role.name = name)
  | .getUserUserId userId => some (w,match svc.users.find? fun user => user.id = userId with
      | none => .error .other
      | some user => if choice.fails = true then .error .other else .ok user.keycloakUserId)
  | .generateClientSecret _ => answered (β := Unit) w choice ()
  | .createClient _ => answered (β := String) w choice choice.idpId
  | .createClientRole _ _ => answered (β := Unit) w choice ()
  | .getClientSpecificRoles idpId roleName => some (w,match (svc.clientRoles idpId).find? fun role => role.name = roleName with
      | none => .error .other
      | some role => if choice.fails = true then .error .other else .ok role)
  | .updateOrganizationById orgId idpId =>
    let updated : World := { w with idpIds := Function.update w.idpIds orgId (idpId.or (w.idpIds orgId)) }
    some (if choice.fails = true then (if choice.done = true then updated else w,.error .other) else (updated,.ok ()))
  | .one step_ => some ((carry svc process step_ choice w).1,ofCount (carry svc process step_ choice w).2)
  | .start works => some ({ w with tasks := w.tasks.start process works },.ok ())
  | .all works => (w.tasks.all process works).map fun result => (w,ofCount result)

/-- A step that runs is settled. -/
structure Env where
  index : Nat
  choice : Choice
def settle (event : Env) (w : World) : Option World :=
  w.tasks.running[event.index]?.map fun task =>
    let outcome := carry svc task.process task.work event.choice w
    { outcome.1 with tasks := w.tasks.settle event.index task outcome.2 }
def sys : System Cmd Ret Failure Response World Choice Input Env where
  handle := handle svc
  arrive process input w := some { w with calls := Function.update w.calls process (some input) }
  program _
    | .updateOrgInvitation payload => updateOrgInvitation svc payload
    | .updateUserRoles orgId roleIds userId => updateUserRoles svc orgId roleIds userId
    | .createOrgCredentials orgId userId keycloakUserId => createOrgCredentials orgId userId keycloakUserId
  environment := settle svc
/-- The role exists. -/
def Known (role : String) : Prop := (svc.roles.any fun row => row.id = role) = true
def updates : Work → Bool
  | .updateOrgInvitation _ _ => true
  | _ => false
/-- The step happens, though it may be reported as failed. -/
def Happening (choice : Choice) : Prop := choice.fails = true → choice.done = true

variable {svc} {process : Nat} {choice : Choice} {w after : World} {result : Option Nat} {step_ : Work}
theorem work_frame : (work svc process w step_).1.calls = w.calls ∧ (work svc process w step_).1.tasks = w.tasks := by
  cases step_ with
  | createUserOrgRole userId roleId orgId idpRoleId =>
    simp only [work]
    split
    · exact ⟨rfl,rfl⟩
    · exact ⟨rfl,rfl⟩
  | _ => exact ⟨rfl,rfl⟩

theorem carry_cases (carried : carry svc process step_ choice w = (after,result)) :
    after = w ∧ result = none ∧ choice.fails = true ∨
      (mayFail step_ = true → Happening choice) ∧ after = (work svc process w step_).1 ∧
        (result = none ∧ choice.fails = true ∨ result = (work svc process w step_).2) := by
  unfold carry at carried
  split at carried
  · rename_i failed
    split at carried
    · rename_i done
      cases carried
      exact .inr ⟨fun _ _ => done,rfl,.inl ⟨rfl,failed.1⟩⟩
    · cases carried
      exact .inl ⟨rfl,rfl,failed.1⟩
  · rename_i well
    refine .inr ⟨fun may fails => absurd ⟨fails,may⟩ well,?_⟩
    rw [carried]
    exact ⟨rfl,.inr rfl⟩

theorem carry_frame (carried : carry svc process step_ choice w = (after,result)) :
    after.calls = w.calls ∧ after.tasks = w.tasks := by
  rcases carry_cases carried with ⟨rfl,-,-⟩ | ⟨-,rfl,-⟩
  · exact ⟨rfl,rfl⟩
  · exact work_frame
theorem settle_cases {event : Env} (settled : settle svc event w = some after) :
    ∃ task carried result, w.tasks.running[event.index]? = some task ∧
      carry svc task.process task.work event.choice w = (carried,result) ∧
      after = { carried with tasks := w.tasks.settle event.index task result } := by
  obtain ⟨task,at_,rfl⟩ := Option.map_eq_some_iff.mp settled
  exact ⟨task,_,_,at_,rfl,rfl⟩

end

def ada : User := ⟨"ada","ada@acme.org",some "ada-k"⟩

/-- One organisation with two roles, and an invitation of one user. -/
def acme : Services where
  MAX_ORG_LIMIT := 10
  roles := [⟨"r1","admin"⟩,⟨"r2","member"⟩]
  users := [ada]
  organisations := ["acme"]
  invitations := [⟨"i1","acme","ada@acme.org",["r2"]⟩]
  trim text := text
  clientRoles _ := [⟨"c1","admin"⟩,⟨"c2","member"⟩]
  role_ids := by decide
  role_names := by decide
  invitation_ids a first b second _ := by rw [List.mem_singleton.mp first,List.mem_singleton.mp second]
  client_ids _ := by decide
  trimmed _ _ _ := rfl
  filled _ := by decide

def well : Choice := ⟨false,true,none,""⟩
def go (process : Nat) : Action Choice Input Env := .advance process well

end Ngotag.OrgRoles
