import Ngotag.Recall
import Mathlib.Logic.Function.Basic
import Mathlib.Data.List.Nodup

/-!
Invitations of the platform and the ecosystems that are created for them, at READ COMMITTED. A creation looks
for a free invitation and then writes it by its id alone, compares its name before its transaction, and tells
Keycloak after its commit. When every ecosystem has an invitation of its own, and a failed creation leaves
nothing, is `ecosystem_invited_iff`; what each call saw at its two checks is noted beside the state.
-/
namespace Ngotag.EcosystemCreation
open Runs Recall

inductive InviteType where
  | ECOSYSTEM
  | MEMBER
  deriving DecidableEq
inductive Invitation where
  | ACCEPTED
  | PENDING
  | REJECTED
  deriving DecidableEq
structure EcosystemInvitation where
  id : Nat
  email : String
  status : Invitation
  userId : Option String
  type : InviteType
  ecosystemId : Option Nat
  invitedOrg : Option String
  createdBy : String
structure Ecosystem where
  id : Nat
  name : String
  description : String
  tags : Option String
  autoEndorsement : Option Bool
  logoUrl : Option String
  createdBy : String
  deriving DecidableEq
structure EcosystemOrg where
  orgId : String
  ecosystemId : Nat
  ecosystemRoleId : String
  userId : String
structure User where
  id : String
  email : Option String
  keycloakUserId : Option String
/-- The tables that are only read: the users, and the id of the role of a lead. -/
structure Services where
  user : List User
  ECOSYSTEM_LEAD : Option String
structure CreateEcosystem where
  name : String
  description : String
  tags : Option String
  logo : Option String
  autoEndorsement : Option Bool
  userId : String
  orgId : String
/-- How an operation ends; it can be carried out and yet be reported as failed. -/
inductive Answer where
  | ok
  | lost
  | fails
  deriving DecidableEq

inductive Failure where
  /-- `ResponseMessages.ecosystem.error.userIdMissing` -/
  | userIdMissing
  /-- `ResponseMessages.ecosystem.error.invitationRequiredFromPlatformAdmin` -/
  | invitationRequiredFromPlatformAdmin
  /-- `ResponseMessages.ecosystem.error.exists` -/
  | exists_
  | fetchingUser
  /-- `ResponseMessages.ecosystem.error.leadNotFound` -/
  | leadNotFound
  /-- `ResponseMessages.ecosystem.error.emailOrPlatformAdminIdMissing` -/
  | emailOrPlatformAdminIdMissing
  /-- `ResponseMessages.ecosystem.error.invitationAlreadySent` -/
  | invitationAlreadySent
  | other

/-- What a call awaits. The transaction of a creation is open from `findRole` on. -/
inductive Await where
  | findAcceptedInvitationByUserId
  | checkEcosystemNameExist
  | getUserById
  | begin (user : User)
  | findRole (user : User)
  | createEcosystem (user : User) (role : Option String)
  | createEcosystemOrg (user : User) (role : String)
  | findInvitation (user : User) (role : String)
  | updateInvitation (user : User) (role : String) (invitation : Nat)
  | commit (user : User) (role : String) (invitation : Nat)
  | rollback (failure : Failure)
  | getPlatformManagementToken (user : User)
  | updateUserEcosystemLeads (user : User)
  /-- The exceptions of it are swallowed. -/
  | updateOrgServiceAccountEcosystem

inductive InviteAwait where
  | getPendingInvitationByEmail
  | getUserDetails
  | createEcosystemInvitation (invitedUserId : Option String)
  | sendInviteEmailTemplate
inductive Process where
  | creating (dto : CreateEcosystem) (at_ : Await)
  | created (dto : CreateEcosystem)
  | failed (dto : CreateEcosystem) (failure : Failure)
  | inviting (email platformAdminId : String) (at_ : InviteAwait)
  | invited
  | notInvited (failure : Failure)

/-- What is committed, the rows that an open transaction holds, and the calls. A new row gets the number of
    the call that creates it as its id. -/
structure State where
  ecosystem : List Ecosystem
  ecosystem_orgs : List EcosystemOrg
  /-- The latest first. -/
  ecosystem_invitations : List EcosystemInvitation
  /-- The invitations that are locked, each with the call that holds it. -/
  locks : List (Nat × Nat)
  process : Nat → Option Process
  /-- The committed updates of invitations: each with the ecosystem it was bound to. -/
  bindings : List (Nat × Nat)

def State.initial : State := ⟨[],[],[],[],fun _ => none,[]⟩
inductive Action where
  | createEcosystem (call : Nat) (dto : CreateEcosystem)
  | inviteUserToCreateEcosystem (call : Nat) (email platformAdminId : String)
  | advance (call : Nat) (answer : Answer)

section
variable (svc : Services) (s : State)

def findAcceptedInvitationByUserId (userId : String) : Option EcosystemInvitation :=
  s.ecosystem_invitations.find? fun row => row.userId = some userId ∧ row.status = .ACCEPTED
def checkEcosystemNameExist (name : String) : Option Ecosystem := s.ecosystem.find? fun row => row.name = name
def getUserById (userId : String) : Option User := svc.user.find? fun row => row.id = userId
def getUserDetails (email : String) : Option User := svc.user.find? fun row => row.email = some email
def getPendingInvitationByEmail (email : String) : Option EcosystemInvitation :=
  s.ecosystem_invitations.find? fun row => row.email = email ∧ row.ecosystemId = none
def findInvitation (email : String) : Option EcosystemInvitation :=
  s.ecosystem_invitations.find? fun row => row.email = email ∧ row.status = .ACCEPTED ∧ row.ecosystemId = none
def newEcosystem (call : Nat) (dto : CreateEcosystem) : Ecosystem where
  id := call
  name := dto.name
  description := dto.description
  tags := dto.tags
  autoEndorsement := dto.autoEndorsement
  logoUrl := dto.logo
  createdBy := dto.userId
def bind (ecosystemId : Nat) (orgId : String) (invitation : Nat) (row : EcosystemInvitation) : EcosystemInvitation :=
  if row.id = invitation then { row with ecosystemId := some ecosystemId,invitedOrg := some orgId } else row

variable (call : Nat)
def State.goTo (process : Process) : State := { s with process := Function.update s.process call (some process) }
def State.unlock : State := { s with locks := s.locks.filter fun lock => lock.2 ≠ call }
def State.committed (dto : CreateEcosystem) (role : String) (invitation : Nat) : State :=
  { s.unlock call with
    ecosystem := newEcosystem call dto :: s.ecosystem
    ecosystem_orgs := ⟨dto.orgId,call,role,dto.userId⟩ :: s.ecosystem_orgs
    ecosystem_invitations := s.ecosystem_invitations.map (bind call dto.orgId invitation)
    bindings := (invitation,call) :: s.bindings }

/-- An exception before the transaction or after it. -/
def throws (dto : CreateEcosystem) (failure : Failure) : Option State := some (s.goTo call (.failed dto failure))
def throwsIn (dto : CreateEcosystem) (failure : Failure) : Option State :=
  some (s.goTo call (.creating dto (.rollback failure)))
def goes (dto : CreateEcosystem) (at_ : Await) : Option State := some (s.goTo call (.creating dto at_))
def held (invitation : Nat) : Bool := s.locks.any fun lock => lock.1 = invitation && lock.2 ≠ call
def lock (invitation : Nat) : State := { s with locks := (invitation,call) :: s.locks }
/-- The user attributes come before the service account of the organisation, without a user of Keycloak only
    that. -/
def afterToken (user : User) : Await :=
  if (user.keycloakUserId.filter (· ≠ "")).isSome then .updateUserEcosystemLeads user
  else .updateOrgServiceAccountEcosystem

def createStep (dto : CreateEcosystem) (answer : Answer) : Await → Option State
  | .findAcceptedInvitationByUserId =>
    match answer,findAcceptedInvitationByUserId s dto.userId with
    | .ok,some _ => goes s call dto .checkEcosystemNameExist
    | .ok,none => throws s call dto .invitationRequiredFromPlatformAdmin
    | _,_ => throws s call dto .other
  | .checkEcosystemNameExist =>
    match answer,checkEcosystemNameExist s dto.name with
    | .ok,none => goes s call dto .getUserById
    | .ok,some _ => throws s call dto .exists_
    | _,_ => throws s call dto .other
  | .getUserById =>
    match answer,getUserById svc dto.userId with
    | .ok,some user => goes s call dto (.begin user)
    | .ok,none => throws s call dto .fetchingUser
    | _,_ => throws s call dto .other
  | .begin user => if answer = .ok then goes s call dto (.findRole user) else throws s call dto .other
  | .findRole user =>
    if answer = .ok then goes s call dto (.createEcosystem user svc.ECOSYSTEM_LEAD) else throwsIn s call dto .other
  | .createEcosystem user role =>
    match answer,role with
    | .ok,some role => goes s call dto (.createEcosystemOrg user role)
    | .ok,none => throwsIn s call dto .leadNotFound
    | _,_ => throwsIn s call dto .other
  | .createEcosystemOrg user role =>
    if answer = .ok then goes s call dto (.findInvitation user role) else throwsIn s call dto .other
  | .findInvitation user role =>
    match answer,user.email.bind (findInvitation s) with
    | .ok,some invitation => goes s call dto (.updateInvitation user role invitation.id)
    | .ok,none => throwsIn s call dto .invitationRequiredFromPlatformAdmin
    | _,_ => throwsIn s call dto .other
  | .updateInvitation user role invitation =>
    if held s call invitation then none
    else if answer = .ok then goes (lock s call invitation) call dto (.commit user role invitation)
    else throwsIn s call dto .other
  | .commit user role invitation =>
    match answer with
    | .ok => goes (s.committed call dto role invitation) call dto (.getPlatformManagementToken user)
    | .lost => throws (s.committed call dto role invitation) call dto .other
    | .fails => throws (s.unlock call) call dto .other
  | .rollback failure => throws (s.unlock call) call dto failure
  | .getPlatformManagementToken user =>
    if answer = .ok then goes s call dto (afterToken user) else throws s call dto .other
  | .updateUserEcosystemLeads _ =>
    if answer = .ok then goes s call dto .updateOrgServiceAccountEcosystem else throws s call dto .other
  | .updateOrgServiceAccountEcosystem => some (s.goTo call (.created dto))

def newInvitation (email platformAdminId : String) (invitedUserId : Option String) : EcosystemInvitation :=
  ⟨call,email,.ACCEPTED,invitedUserId,.ECOSYSTEM,none,none,platformAdminId⟩
def State.invite (email platformAdminId : String) (invitedUserId : Option String) : State :=
  { s with ecosystem_invitations := newInvitation call email platformAdminId invitedUserId :: s.ecosystem_invitations }

def inviteStep (email platformAdminId : String) (answer : Answer) : InviteAwait → State
  | .getPendingInvitationByEmail =>
    match answer,(getPendingInvitationByEmail s email).map EcosystemInvitation.type with
    | .ok,some .MEMBER => s.goTo call (.notInvited .invitationAlreadySent)
    | .ok,_ => s.goTo call (.inviting email platformAdminId .getUserDetails)
    | _,_ => s.goTo call (.notInvited .other)
  | .getUserDetails =>
    if answer = .ok then
      s.goTo call (.inviting email platformAdminId (.createEcosystemInvitation ((getUserDetails svc email).map (·.id))))
    else s.goTo call (.notInvited .other)
  | .createEcosystemInvitation invitedUserId =>
    match answer with
    | .ok => (s.invite call email platformAdminId invitedUserId).goTo call
        (.inviting email platformAdminId .sendInviteEmailTemplate)
    | .lost => (s.invite call email platformAdminId invitedUserId).goTo call (.notInvited .other)
    | .fails => s.goTo call (.notInvited .other)
  | .sendInviteEmailTemplate =>
    if answer = .ok then s.goTo call .invited else s.goTo call (.notInvited .other)

end

def step (svc : Services) (s : State) : Action → Option State
  | .createEcosystem call dto =>
    if s.process call = none then
      if dto.userId = "" then throws s call dto .userIdMissing
      else goes s call dto .findAcceptedInvitationByUserId
    else none
  | .inviteUserToCreateEcosystem call email platformAdminId =>
    if s.process call = none then
      if email = "" ∨ platformAdminId = "" then some (s.goTo call (.notInvited .emailOrPlatformAdminIdMissing))
      else some (s.goTo call (.inviting email platformAdminId .getPendingInvitationByEmail))
    else none
  | .advance call answer =>
    match s.process call with
    | some (.creating dto at_) => createStep svc s call dto answer at_
    | some (.inviting email platformAdminId at_) => some (inviteStep svc s call email platformAdminId answer at_)
    | _ => none

def createdBy (userId : String) (row : Ecosystem) : Bool := row.createdBy = userId
/-- An accepted invitation to create an ecosystem that was issued for the address. -/
def issuedFor (email : String) (row : EcosystemInvitation) : Bool :=
  row.email = email && row.status = .ACCEPTED && row.type = .ECOSYSTEM
/-- Nothing of the creation is stored. -/
structure Clean (s : State) (call : Nat) : Prop where
  ecosystem : ∀ row ∈ s.ecosystem, row.id ≠ call
  membership : ∀ row ∈ s.ecosystem_orgs, row.ecosystemId ≠ call
  invitation : ∀ row ∈ s.ecosystem_invitations, row.ecosystemId ≠ some call
def issued (svc : Services) (s : State) (test : EcosystemInvitation → Bool) (userId : String) : Nat :=
  match (getUserById svc userId).bind User.email with
  | none => 0
  | some email => s.ecosystem_invitations.countP fun row => issuedFor email row && test row

/-- No user has created more than was invited, no invitation or name is used twice, and a
    failure leaves nothing. -/
structure Good (svc : Services) (s : State) : Prop where
  /-- No user has created more ecosystems than invitations were issued for the address. -/
  invited : ∀ userId, s.ecosystem.countP (createdBy userId) ≤ issued svc s (fun _ => true) userId
  bound_once : (s.bindings.map Prod.fst).Nodup
  names : (s.ecosystem.map Ecosystem.name).Nodup
  clean : ∀ call dto failure, s.process call = some (.failed dto failure) → Clean s call
/-- The step of a call that awaits something is not the one that goes wrong, for what counts as a name that is
    taken and as an invitation that is bound. -/
def Serves (answer : Answer) (named : String → Prop) (bound : Nat → Prop) (dto : CreateEcosystem) : Await → Prop
  | .commit _ _ invitation => answer ≠ .fails → answer = .ok ∧ ¬named dto.name ∧ ¬bound invitation
  | .getPlatformManagementToken _ => answer = .ok
  | .updateUserEcosystemLeads _ => answer = .ok
  | _ => True
def Fine (s : State) (dto : CreateEcosystem) (answer : Answer) : Await → Prop :=
  Serves answer (fun name => ∃ row ∈ s.ecosystem, row.name = name)
      (fun invitation => invitation ∈ s.bindings.map Prod.fst) dto
def FineStep (s : State) : Action → Prop
  | .advance call answer => ∀ dto at_, s.process call = some (.creating dto at_) → Fine s dto answer at_
  | _ => True

/-- The ecosystems at the check of the name, and the bindings when the invitation was looked for. -/
structure Seen where
  ecosystem : List Ecosystem
  bindings : List (Nat × Nat)
def Await.reads (s : State) (seen : Seen) : Await → Seen
  | .checkEcosystemNameExist => ⟨s.ecosystem,seen.bindings⟩
  | .findInvitation _ _ => ⟨seen.ecosystem,s.bindings⟩
  | _ => seen
def note (s : State) : Action → State → (Nat → Seen) → Nat → Seen
  | .advance call _,_,seen =>
    match s.process call with
    | some (.creating _ at_) => Function.update seen call (at_.reads s (seen call))
    | _ => seen
  | _,_,seen => seen
/-- Between the check of its name and a commit no ecosystem of the name is committed, between the look for its
    invitation and the commit none is bound to it, and the commit is not reported as failed; Keycloak does not
    fail. -/
def Meets (s : State × (Nat → Seen)) : Action → Prop
  | .advance call answer => ∀ dto at_, s.1.process call = some (.creating dto at_) →
    Serves answer (fun name => ∃ row ∈ s.1.ecosystem, row ∉ (s.2 call).ecosystem ∧ row.name = name)
      (fun invitation => ∃ binding ∈ s.1.bindings, binding ∉ (s.2 call).bindings ∧ binding.1 = invitation) dto at_
  | _ => True
/-- The stages of a transaction that is not committed, and those before it. -/
def Await.isOpen : Await → Bool
  | .getPlatformManagementToken _ => false
  | .updateUserEcosystemLeads _ => false
  | .updateOrgServiceAccountEcosystem => false
  | _ => true

def Placed (svc : Services) (s : State) (dto : CreateEcosystem) : Await → Prop
  | .begin user => getUserById svc dto.userId = some user
  | .findRole user => getUserById svc dto.userId = some user
  | .createEcosystem user _ => getUserById svc dto.userId = some user
  | .createEcosystemOrg user _ => getUserById svc dto.userId = some user
  | .findInvitation user _ => getUserById svc dto.userId = some user
  | .updateInvitation user _ invitation => getUserById svc dto.userId = some user ∧
    ∃ email, user.email = some email ∧ ∃ row ∈ s.ecosystem_invitations, row.id = invitation ∧ issuedFor email row
  | .commit user _ invitation => getUserById svc dto.userId = some user ∧
    ∃ email, user.email = some email ∧ ∃ row ∈ s.ecosystem_invitations, row.id = invitation ∧ issuedFor email row
  | _ => True

/-- No invitation has the number of the call. -/
def Unissued (s : State) (call : Nat) : Prop := ∀ row ∈ s.ecosystem_invitations, row.id ≠ call
def Fits (svc : Services) (s : State) (call : Nat) : Process → Prop
  | .creating dto at_ => Placed svc s dto at_ ∧ if at_.isOpen then Clean s call else ∃ row ∈ s.ecosystem, row.id = call
  | .inviting _ _ at_ => at_ = .sendInviteEmailTemplate ∨ Unissued s call
  | _ => True
/-- No table is changed. -/
structure Same (s t : State) : Prop where
  ecosystem : t.ecosystem = s.ecosystem
  ecosystem_orgs : t.ecosystem_orgs = s.ecosystem_orgs
  ecosystem_invitations : t.ecosystem_invitations = s.ecosystem_invitations
  bindings : t.bindings = s.bindings

section
variable {svc : Services} {s t : State} {call : Nat} {dto : CreateEcosystem} {answer : Answer} {at_ : Await}

theorem Same.clean (same : Same s t) (clean : Clean s call) : Clean t call :=
  ⟨same.ecosystem ▸ clean.ecosystem,same.ecosystem_orgs ▸ clean.membership,same.ecosystem_invitations ▸ clean.invitation⟩
theorem Same.placed (same : Same s t) (placed : Placed svc s dto at_) : Placed svc t dto at_ := by
  cases at_ with
  | updateInvitation user role invitation => simpa only [Placed,same.ecosystem_invitations] using placed
  | commit user role invitation => simpa only [Placed,same.ecosystem_invitations] using placed
  | _ => exact placed
/-- Where a step that commits nothing leads. -/
inductive Onward (svc : Services) (s : State) (call : Nat) (dto : CreateEcosystem) (answer : Answer) (at_ : Await) :
    Process → Prop
  | goes (next : Await) (placed : Placed svc s dto next) (kind : next.isOpen = at_.isOpen)
      (fine : Fine s dto answer at_) : Onward svc s call dto answer at_ (.creating dto next)
  | throws (failure : Failure) (fine : Fine s dto answer at_ ↔ at_.isOpen = true) :
      Onward svc s call dto answer at_ (.failed dto failure)
  | ends (fine : Fine s dto answer at_) (closed : at_.isOpen = false) : Onward svc s call dto answer at_ (.created dto)
theorem findInvitation_some {email : String} {row : EcosystemInvitation}
    (types : ∀ row ∈ s.ecosystem_invitations, row.type = .ECOSYSTEM)
    (found : findInvitation s email = some row) : row ∈ s.ecosystem_invitations ∧ issuedFor email row = true := by
  have there := List.mem_of_find?_eq_some found
  have passes := List.find?_some found
  simp only [decide_eq_true_eq] at passes
  exact ⟨there,by simp [issuedFor,passes.1,passes.2.1,types row there]⟩

def Quiet (svc : Services) (s : State) (call : Nat) (dto : CreateEcosystem) (answer : Answer) (at_ : Await) (t : State) :
    Prop :=
  ∃ process, Onward svc s call dto answer at_ process ∧ Same s t ∧
    t.process = Function.update s.process call (some process)
theorem quiet_goes {u : State} {next : Await} (taken : goes u call dto next = some t) (same : Same s u)
    (others : u.process = s.process) (placed : Placed svc s dto next) (kind : next.isOpen = at_.isOpen)
    (fine : Fine s dto answer at_) : Quiet svc s call dto answer at_ t := by
  cases taken
  exact ⟨_,.goes next placed kind fine,⟨same.1,same.2,same.3,same.4⟩,congrArg (Function.update · call _) others⟩
theorem quiet_throws {u : State} {failure : Failure} (taken : throws u call dto failure = some t) (same : Same s u)
    (others : u.process = s.process) (fine : Fine s dto answer at_ ↔ at_.isOpen = true) :
    Quiet svc s call dto answer at_ t := by
  cases taken
  exact ⟨_,.throws failure fine,⟨same.1,same.2,same.3,same.4⟩,congrArg (Function.update · call _) others⟩
theorem same_refl : Same s s := ⟨rfl,rfl,rfl,rfl⟩

theorem createStep_cases (types : ∀ row ∈ s.ecosystem_invitations, row.type = .ECOSYSTEM)
    (placed : Placed svc s dto at_) (taken : createStep svc s call dto answer at_ = some t) :
    Quiet svc s call dto answer at_ t ∨
    ∃ user role invitation, at_ = .commit user role invitation ∧ answer ≠ .fails ∧
      t = (s.committed call dto role invitation).goTo call
        (if answer = .ok then .creating dto (.getPlatformManagementToken user) else .failed dto .other) := by
  cases at_ with
  | findAcceptedInvitationByUserId =>
    simp only [createStep] at taken
    split at taken
    · exact .inl (quiet_goes taken same_refl rfl trivial rfl trivial)
    all_goals exact .inl (quiet_throws taken same_refl rfl (iff_of_true trivial rfl))
  | checkEcosystemNameExist =>
    simp only [createStep] at taken
    split at taken
    · exact .inl (quiet_goes taken same_refl rfl trivial rfl trivial)
    all_goals exact .inl (quiet_throws taken same_refl rfl (iff_of_true trivial rfl))
  | getUserById =>
    simp only [createStep] at taken
    split at taken
    · rename_i user found
      exact .inl (quiet_goes taken same_refl rfl found rfl trivial)
    all_goals exact .inl (quiet_throws taken same_refl rfl (iff_of_true trivial rfl))
  | begin user =>
    simp only [createStep] at taken
    split at taken
    · exact .inl (quiet_goes taken same_refl rfl placed rfl trivial)
    · exact .inl (quiet_throws taken same_refl rfl (iff_of_true trivial rfl))
  | findRole user =>
    simp only [createStep] at taken
    split at taken
    · exact .inl (quiet_goes taken same_refl rfl placed rfl trivial)
    · exact .inl (quiet_goes taken same_refl rfl trivial rfl trivial)
  | createEcosystem user role =>
    simp only [createStep] at taken
    split at taken
    · exact .inl (quiet_goes taken same_refl rfl placed rfl trivial)
    all_goals exact .inl (quiet_goes taken same_refl rfl trivial rfl trivial)
  | createEcosystemOrg user role =>
    simp only [createStep] at taken
    split at taken
    · exact .inl (quiet_goes taken same_refl rfl placed rfl trivial)
    · exact .inl (quiet_goes taken same_refl rfl trivial rfl trivial)
  | findInvitation user role =>
    simp only [createStep] at taken
    split at taken
    · rename_i invitation found
      obtain ⟨email,has,found⟩ := Option.bind_eq_some_iff.mp found
      obtain ⟨there,fits⟩ := findInvitation_some types found
      exact .inl (quiet_goes taken same_refl rfl ⟨placed,email,has,invitation,there,rfl,fits⟩ rfl trivial)
    all_goals exact .inl (quiet_goes taken same_refl rfl trivial rfl trivial)
  | updateInvitation user role invitation =>
    simp only [createStep] at taken
    split at taken
    · cases taken
    · split at taken
      · exact .inl (quiet_goes taken ⟨rfl,rfl,rfl,rfl⟩ rfl placed rfl trivial)
      · exact .inl (quiet_goes taken same_refl rfl trivial rfl trivial)
  | commit user role invitation =>
    cases answer with
    | ok => exact .inr ⟨user,role,invitation,rfl,nofun,(Option.some.inj taken).symm⟩
    | lost => exact .inr ⟨user,role,invitation,rfl,nofun,(Option.some.inj taken).symm⟩
    | fails => exact .inl (quiet_throws taken ⟨rfl,rfl,rfl,rfl⟩ rfl (iff_of_true (absurd rfl) rfl))
  | rollback failure => exact .inl (quiet_throws taken ⟨rfl,rfl,rfl,rfl⟩ rfl (iff_of_true trivial rfl))
  | getPlatformManagementToken user =>
    simp only [createStep] at taken
    split at taken
    · rename_i fine
      unfold afterToken at taken
      split at taken
      · exact .inl (quiet_goes taken same_refl rfl trivial rfl fine)
      · exact .inl (quiet_goes taken same_refl rfl trivial rfl fine)
    · rename_i failed
      exact .inl (quiet_throws taken same_refl rfl (iff_of_false failed nofun))
  | updateUserEcosystemLeads user =>
    simp only [createStep] at taken
    split at taken
    · rename_i fine
      exact .inl (quiet_goes taken same_refl rfl trivial rfl fine)
    · rename_i failed
      exact .inl (quiet_throws taken same_refl rfl (iff_of_false failed nofun))
  | updateOrgServiceAccountEcosystem =>
    cases taken
    exact .inl ⟨_,.ends trivial rfl,⟨rfl,rfl,rfl,rfl⟩,rfl⟩

def Process.isInvite : Process → Bool
  | .inviting _ _ _ => true
  | .invited => true
  | .notInvited _ => true
  | _ => false

/-- An invitation is issued by a step that comes once in a call. -/
theorem inviteStep_cases {email platformAdminId : String} {at_ : InviteAwait}
    (fits : Fits svc s call (.inviting email platformAdminId at_)) :
    let t := inviteStep svc s call email platformAdminId answer at_
    ∃ process, t.process = Function.update s.process call (some process) ∧ process.isInvite = true ∧
      (Same s t ∧ Fits svc s call process ∨
        t.ecosystem = s.ecosystem ∧ t.ecosystem_orgs = s.ecosystem_orgs ∧ t.bindings = s.bindings ∧
          (∃ invitedUserId, t.ecosystem_invitations =
            newInvitation call email platformAdminId invitedUserId :: s.ecosystem_invitations) ∧
          Unissued s call ∧ Fits svc t call process) := by
  cases at_ with
  | getPendingInvitationByEmail =>
    have unissued := fits.resolve_left (by rintro ⟨⟩)
    simp only [inviteStep]
    split
    · exact ⟨_,rfl,rfl,.inl ⟨⟨rfl,rfl,rfl,rfl⟩,trivial⟩⟩
    · exact ⟨_,rfl,rfl,.inl ⟨⟨rfl,rfl,rfl,rfl⟩,.inr unissued⟩⟩
    · exact ⟨_,rfl,rfl,.inl ⟨⟨rfl,rfl,rfl,rfl⟩,trivial⟩⟩
  | getUserDetails =>
    have unissued := fits.resolve_left (by rintro ⟨⟩)
    simp only [inviteStep]
    split
    · exact ⟨_,rfl,rfl,.inl ⟨⟨rfl,rfl,rfl,rfl⟩,.inr unissued⟩⟩
    · exact ⟨_,rfl,rfl,.inl ⟨⟨rfl,rfl,rfl,rfl⟩,trivial⟩⟩
  | createEcosystemInvitation invitedUserId =>
    have unissued := fits.resolve_left (by rintro ⟨⟩)
    cases answer
    · exact ⟨_,rfl,rfl,.inr ⟨rfl,rfl,rfl,⟨invitedUserId,rfl⟩,unissued,.inl rfl⟩⟩
    · exact ⟨_,rfl,rfl,.inr ⟨rfl,rfl,rfl,⟨invitedUserId,rfl⟩,unissued,trivial⟩⟩
    · exact ⟨_,rfl,rfl,.inl ⟨⟨rfl,rfl,rfl,rfl⟩,trivial⟩⟩
  | sendInviteEmailTemplate =>
    simp only [inviteStep]
    split <;> exact ⟨_,rfl,rfl,.inl ⟨⟨rfl,rfl,rfl,rfl⟩,trivial⟩⟩

end

/-- What holds of the rows and of the creations in flight. -/
structure Sound (svc : Services) (s : State) : Prop where
  fits : ∀ call process, s.process call = some process → Fits svc s call process
  unused : ∀ call, s.process call = none → Clean s call ∧ Unissued s call
  types : ∀ row ∈ s.ecosystem_invitations, row.type = .ECOSYSTEM
  bound : ∀ row ∈ s.ecosystem_invitations, row.ecosystemId ≠ none → row.id ∈ s.bindings.map Prod.fst
  binds : ∀ invitation ∈ s.bindings.map Prod.fst,
    ∃ row ∈ s.ecosystem_invitations, row.id = invitation ∧ row.ecosystemId ≠ none
  free : ∀ row ∈ s.ecosystem_invitations, row.ecosystemId = none → row.id ∉ s.bindings.map Prod.fst
/-- What a step leaves to the other calls. -/
structure Leaves (s t : State) (call : Nat) : Prop where
  clean : Clean s call → Clean t call
  unissued : Unissued s call → Unissued t call
  ecosystem : ∀ row ∈ s.ecosystem, row ∈ t.ecosystem
  invitation : ∀ row ∈ s.ecosystem_invitations, ∃ row' ∈ t.ecosystem_invitations, row'.id = row.id ∧
    ∀ email, issuedFor email row' = issuedFor email row

section
variable {svc : Services} {s t : State} {call other : Nat} {dto : CreateEcosystem} {role : String} {invitation : Nat}

theorem Same.leaves (same : Same s t) : Leaves s t call :=
  ⟨same.clean,fun unissued _ there => unissued _ (same.ecosystem_invitations ▸ there),fun _ there =>
      same.ecosystem ▸ there,
    fun row there => ⟨row,same.ecosystem_invitations ▸ there,rfl,fun _ => rfl⟩⟩

theorem bind_cases (row : EcosystemInvitation) (orgId : String) :
    (bind call orgId invitation row).id = row.id ∧
    (∀ email, issuedFor email (bind call orgId invitation row) = issuedFor email row) ∧
      (bind call orgId invitation row).type = row.type ∧
      ((bind call orgId invitation row).ecosystemId = some call ∧ row.id = invitation ∨
        (bind call orgId invitation row).ecosystemId = row.ecosystemId ∧ row.id ≠ invitation) := by
  unfold bind
  split
  · rename_i own
    exact ⟨rfl,fun _ => rfl,rfl,.inl ⟨rfl,own⟩⟩
  · rename_i apart
    exact ⟨rfl,fun _ => rfl,rfl,.inr ⟨rfl,apart⟩⟩

theorem leaves_committed (process : Process) (apart : other ≠ call) :
    Leaves s ((s.committed call dto role invitation).goTo call process) other where
  clean clean := by
    refine ⟨?_,?_,?_⟩
    · rintro row (_ | ⟨_,there⟩)
      · exact Ne.symm apart
      · exact clean.ecosystem row there
    · rintro row (_ | ⟨_,there⟩)
      · exact Ne.symm apart
      · exact clean.membership row there
    · intro row there
      obtain ⟨old,listed,rfl⟩ := List.mem_map.mp there
      rcases (bind_cases old dto.orgId).2.2.2 with ⟨to_,-⟩ | ⟨same,-⟩
      · rw [to_]
        exact fun same => apart (Option.some.inj same).symm
      · rw [same]
        exact clean.invitation old listed
  unissued unissued := by
    intro row there
    obtain ⟨old,listed,rfl⟩ := List.mem_map.mp there
    rw [(bind_cases old dto.orgId).1]
    exact unissued old listed
  ecosystem row there := List.mem_cons_of_mem _ there
  invitation row there := by
    refine ⟨bind call dto.orgId invitation row,List.mem_map_of_mem there,?_⟩
    exact ⟨(bind_cases row dto.orgId).1,(bind_cases row dto.orgId).2.1⟩

variable {row : EcosystemInvitation}
theorem leaves_invited (fresh : row.ecosystemId = none) (apart : row.id ≠ call) (ecosystem : t.ecosystem = s.ecosystem)
    (orgs : t.ecosystem_orgs = s.ecosystem_orgs)
    (invitations : t.ecosystem_invitations = row :: s.ecosystem_invitations) :
    Leaves s t call where
  clean clean := by
    refine ⟨ecosystem ▸ clean.ecosystem,orgs ▸ clean.membership,?_⟩
    rw [invitations]
    rintro other (_ | ⟨_,there⟩)
    · rw [fresh]
      exact nofun
    · exact clean.invitation other there
  unissued unissued := by
    rw [Unissued,invitations]
    rintro other (_ | ⟨_,there⟩)
    · exact apart
    · exact unissued other there
  ecosystem old there := ecosystem ▸ there
  invitation old there := ⟨old,invitations ▸ List.mem_cons_of_mem row there,rfl,fun _ => rfl⟩

variable {process : Process}
theorem fits_leaves (leaves : Leaves s t call) (fits : Fits svc s call process) :
    Fits svc t call process := by
  cases process with
  | creating dto at_ =>
    obtain ⟨placed,rows⟩ := fits
    constructor
    · have found_again (invitation : Nat) (email : String)
          (found : ∃ row ∈ s.ecosystem_invitations, row.id = invitation ∧ issuedFor email row) :
          ∃ row ∈ t.ecosystem_invitations, row.id = invitation ∧ issuedFor email row := by
        obtain ⟨row,there,is,fits⟩ := found
        obtain ⟨row',there',is',fits'⟩ := leaves.invitation row there
        exact ⟨row',there',is'.trans is,(fits' email).trans fits⟩
      cases at_ with
      | updateInvitation user role invitation =>
        obtain ⟨known,email,has,found⟩ := placed
        exact ⟨known,email,has,found_again invitation email found⟩
      | commit user role invitation =>
        obtain ⟨known,email,has,found⟩ := placed
        exact ⟨known,email,has,found_again invitation email found⟩
      | _ => exact placed
    · split at rows
      · rename_i open_
        rw [if_pos open_]
        exact leaves.clean rows
      · rename_i closed
        rw [if_neg closed]
        obtain ⟨row,there,is⟩ := rows
        exact ⟨row,leaves.ecosystem row there,is⟩
  | inviting email platformAdminId at_ => exact fits.imp_right leaves.unissued
  | _ => trivial

/-- The three ways of a step. -/
inductive Moves (svc : Services) (s : State) (a : Action) (t : State) : Prop
  | quiet (call : Nat) (process : Process) (same : Same s t)
      (own : t.process = Function.update s.process call (some process)) (fits : Fits svc t call process)
      (clean : FineStep s a → ∀ dto failure, process = .failed dto failure → Clean t call)
      (spoilt : ¬FineStep s a → ∃ dto failure, process = .failed dto failure ∧ ¬Clean t call)
  | invites (call : Nat) (process : Process) (row : EcosystemInvitation) (met : FineStep s a)
      (invite : process.isInvite = true) (own : t.process = Function.update s.process call (some process))
      (ecosystem : t.ecosystem = s.ecosystem) (orgs : t.ecosystem_orgs = s.ecosystem_orgs)
      (bindings : t.bindings = s.bindings) (fresh : row.ecosystemId = none) (type : row.type = .ECOSYSTEM)
      (id : row.id = call) (unissued : Unissued s call) (fits : Fits svc t call process)
      (invitations : t.ecosystem_invitations = row :: s.ecosystem_invitations)
  | commits (call : Nat) (dto : CreateEcosystem) (user : User) (role : String) (invitation : Nat) (answer : Answer)
      (now : s.process call = some (.creating dto (.commit user role invitation))) (action : a = .advance call answer)
      (sent : answer ≠ .fails)
      (next : t = (s.committed call dto role invitation).goTo call
        (if answer = .ok then .creating dto (.getPlatformManagementToken user) else .failed dto .other))

theorem fineStep_iff {answer : Answer} {at_ : Await} (now : s.process call = some (.creating dto at_)) :
    FineStep s (.advance call answer) ↔ Fine s dto answer at_ := by
  constructor
  · exact fun met => met dto at_ now
  · intro fine dto' at' now'
    cases now.symm.trans now'
    exact fine
theorem not_clean {row : Ecosystem} (there : row ∈ s.ecosystem) (own : row.id = call) : ¬Clean s call :=
  fun clean => clean.ecosystem row there own

theorem quiet_moves {answer : Answer} {at_ : Await} (now : s.process call = some (.creating dto at_))
    (fits : Fits svc s call (.creating dto at_)) (quiet : Quiet svc s call dto answer at_ t) :
    Moves svc s (.advance call answer) t := by
  obtain ⟨process,onward,same,own⟩ := quiet
  obtain ⟨-,rows⟩ := fits
  cases onward with
  | goes next placed kind fine =>
    refine .quiet call _ same own ⟨same.placed placed,?_⟩ (fun _ => nofun)
        (fun not => absurd ((fineStep_iff now).mpr fine) not)
    rw [kind]
    split at rows
    · rename_i open_
      rw [if_pos open_]
      exact same.clean rows
    · rename_i closed
      rw [if_neg closed]
      exact same.ecosystem ▸ rows
  | throws failure fine =>
    refine .quiet call _ same own trivial ?_ ?_
    · intro met _ _ _
      rw [if_pos (fine.mp ((fineStep_iff now).mp met))] at rows
      exact same.clean rows
    · intro not
      rw [if_neg (fun open_ => not ((fineStep_iff now).mpr (fine.mpr open_)))] at rows
      obtain ⟨row,there,is⟩ := rows
      exact ⟨dto,failure,rfl,not_clean (same.ecosystem ▸ there) is⟩
  | ends fine closed =>
    exact .quiet call _ same own trivial (fun _ => nofun) (fun not => absurd ((fineStep_iff now).mpr fine) not)

variable {a : Action}
theorem begins_moves (sound : Sound svc s) (unused : s.process call = none)
    (met : FineStep s a) (same : Same s t) (own : t.process = Function.update s.process call (some process))
    (fits : Clean t call → Unissued t call → Fits svc t call process) : Moves svc s a t :=
  have clean := same.clean (sound.unused call unused).1
  .quiet call process same own (fits clean (same.leaves.unissued (sound.unused call unused).2)) (fun _ _ _ _ => clean)
      (fun not => absurd met not)

theorem step_moves (sound : Sound svc s) (taken : step svc s a = some t) : Moves svc s a t := by
  cases a with
  | createEcosystem call dto =>
    simp only [step] at taken
    split at taken
    · rename_i unused
      split at taken
      · cases taken
        exact begins_moves sound unused trivial ⟨rfl,rfl,rfl,rfl⟩ rfl fun _ _ => trivial
      · cases taken
        exact begins_moves sound unused trivial ⟨rfl,rfl,rfl,rfl⟩ rfl fun clean _ => ⟨trivial,clean⟩
    · cases taken
  | inviteUserToCreateEcosystem call email platformAdminId =>
    simp only [step] at taken
    split at taken
    · rename_i unused
      split at taken
      · cases taken
        exact begins_moves sound unused trivial ⟨rfl,rfl,rfl,rfl⟩ rfl fun _ _ => trivial
      · cases taken
        exact begins_moves sound unused trivial ⟨rfl,rfl,rfl,rfl⟩ rfl fun _ unissued => .inr unissued
    · cases taken
  | advance call answer =>
    simp only [step] at taken
    split at taken
    · rename_i dto at_ now
      have fits := sound.fits call _ now
      rcases createStep_cases sound.types fits.1 taken with quiet | ⟨user,role,invitation,rfl,sent,rfl⟩
      · exact quiet_moves now fits quiet
      · exact .commits call dto user role invitation answer now rfl sent rfl
    · rename_i email platformAdminId at_ now
      have met : FineStep s (.advance call answer) := by
        intro dto at' now'
        cases now.symm.trans now'
      obtain ⟨process,own,invite,moved⟩ :=
          @inviteStep_cases svc s call answer email platformAdminId at_ (sound.fits call _ now)
      cases taken
      rcases moved with ⟨same,fits⟩ | ⟨ecosystem,orgs,bindings,⟨invitedUserId,invitations⟩,unissued,fits⟩
      · refine .quiet call process same own (fits_leaves same.leaves fits) ?_ (fun not => absurd met not)
        rintro - dto failure rfl
        cases invite
      · exact .invites call process _ met invite own ecosystem orgs bindings rfl rfl rfl unissued fits invitations
    · cases taken

theorem call_cases {process last : Process} (own : t.process = Function.update s.process call (some process))
    (now : t.process other = some last) :
    other = call ∧ last = process ∨ other ≠ call ∧ s.process other = some last := by
  rw [own] at now
  by_cases same : other = call
  · rw [same,Function.update_self] at now
    exact .inl ⟨same,(Option.some.inj now).symm⟩
  · rw [Function.update_of_ne same] at now
    exact .inr ⟨same,now⟩
theorem unused_before (own : t.process = Function.update s.process call (some process))
    (unused : t.process other = none) : other ≠ call ∧ s.process other = none := by
  rw [own] at unused
  by_cases same : other = call
  · rw [same,Function.update_self] at unused
    cases unused
  · rw [Function.update_of_ne same] at unused
    exact ⟨same,unused⟩
theorem fits_after (sound : Sound svc s)
    (own : t.process = Function.update s.process call (some process)) (fits : Fits svc t call process)
    (leaves : ∀ other, other ≠ call → Leaves s t other) :
    ∀ other last, t.process other = some last → Fits svc t other last := by
  intro other last now
  rcases call_cases own now with ⟨rfl,rfl⟩ | ⟨apart,before⟩
  · exact fits
  · exact fits_leaves (leaves other apart) (sound.fits other last before)
theorem unused_after (sound : Sound svc s) (own : t.process = Function.update s.process call (some process))
    (leaves : ∀ other, other ≠ call → Leaves s t other) :
    ∀ other, t.process other = none → Clean t other ∧ Unissued t other := by
  intro other unused
  obtain ⟨apart,before⟩ := unused_before own unused
  obtain ⟨clean,unissued⟩ := sound.unused other before
  exact ⟨(leaves other apart).clean clean,(leaves other apart).unissued unissued⟩

/-- However a call moves, the state stays sound. -/
theorem moves_sound (sound : Sound svc s) (moves : Moves svc s a t) : Sound svc t := by
  cases moves with
  | quiet call process same own fits clean spoilt =>
    refine ⟨fits_after sound own fits fun _ _ => same.leaves,unused_after sound own fun _ _ => same.leaves,?_,?_,?_,?_⟩
    · rw [same.ecosystem_invitations]
      exact sound.types
    · rw [same.ecosystem_invitations,same.bindings]
      exact sound.bound
    · rw [same.ecosystem_invitations,same.bindings]
      exact sound.binds
    · rw [same.ecosystem_invitations,same.bindings]
      exact sound.free
  | invites call process row met invite own ecosystem orgs bindings fresh type id unissued fits invitations =>
    have leaves (other : Nat) (apart : other ≠ call) : Leaves s t other :=
      leaves_invited fresh (id.trans_ne apart.symm) ecosystem orgs invitations
    refine ⟨fits_after sound own fits leaves,unused_after sound own leaves,?_,?_,?_,?_⟩
    · rw [invitations]
      rintro other (_ | ⟨_,there⟩)
      · exact type
      · exact sound.types other there
    · rw [invitations,bindings]
      rintro other (_ | ⟨_,there⟩) bound
      · exact absurd fresh bound
      · exact sound.bound other there bound
    · rw [invitations,bindings]
      intro invitation there
      obtain ⟨old,listed,is⟩ := sound.binds invitation there
      exact ⟨old,List.mem_cons_of_mem row listed,is⟩
    · rw [invitations,bindings]
      rintro other (_ | ⟨_,there⟩) unbound
      · intro bound
        obtain ⟨old,listed,is,-⟩ := sound.binds row.id bound
        exact unissued old listed (is.trans id)
      · exact sound.free other there unbound
  | commits call dto user role invitation answer now action sent next =>
    subst next
    refine ⟨fits_after sound rfl ?_ fun _ => leaves_committed _,unused_after sound rfl fun _ =>
        leaves_committed _,?_,?_,?_,?_⟩
    · split
      · exact ⟨trivial,newEcosystem call dto,List.mem_cons_self,rfl⟩
      · trivial
    · intro row there
      obtain ⟨old,listed,rfl⟩ := List.mem_map.mp there
      exact (bind_cases old dto.orgId).2.2.1.trans (sound.types old listed)
    · intro row there bound
      obtain ⟨old,listed,rfl⟩ := List.mem_map.mp there
      rw [(bind_cases old dto.orgId).1]
      rcases (bind_cases old dto.orgId).2.2.2 with ⟨-,own⟩ | ⟨same,-⟩
      · rw [own]
        exact List.mem_cons_self
      · rw [same] at bound
        exact List.mem_cons_of_mem _ (sound.bound old listed bound)
    · obtain ⟨⟨-,-,-,row,listed,is,-⟩,-⟩ := sound.fits call _ now
      have again (old : EcosystemInvitation) (listed : old ∈ s.ecosystem_invitations)
          (has : old.id = invitation ∨ old.ecosystemId ≠ none) :
          ∃ row ∈ s.ecosystem_invitations.map (bind call dto.orgId invitation), row.id = old.id ∧
              row.ecosystemId ≠ none := by
        refine ⟨_,List.mem_map_of_mem listed,(bind_cases old dto.orgId).1,?_⟩
        rcases (bind_cases old dto.orgId).2.2.2 with ⟨bound,-⟩ | ⟨same,apart⟩
        · rw [bound]
          exact nofun
        · rw [same]
          exact has.resolve_left apart
      rintro other (_ | ⟨_,there⟩)
      · exact is ▸ again row listed (.inl is)
      · obtain ⟨old,listed,rfl,bound⟩ := sound.binds other there
        exact again old listed (.inr bound)
    · intro row there unbound
      obtain ⟨old,listed,rfl⟩ := List.mem_map.mp there
      rcases (bind_cases old dto.orgId).2.2.2 with ⟨bound,-⟩ | ⟨same,apart⟩
      · rw [bound] at unbound
        cases unbound
      · rw [(bind_cases old dto.orgId).1]
        rintro (_ | ⟨_,there⟩)
        · exact apart rfl
        · exact sound.free old listed (same ▸ unbound) there

def Used (svc : Services) (s : State) : Prop :=
  ∀ userId, s.ecosystem.countP (createdBy userId) ≤ issued svc s (fun row => row.ecosystemId.isSome) userId

variable {f : EcosystemInvitation → EcosystemInvitation}
theorem countP_map_le {p : EcosystemInvitation → Bool}
    (kept : ∀ row, p row = true → p (f row) = true) (rows : List EcosystemInvitation) :
    rows.countP p ≤ (rows.map f).countP p := by
  rw [List.countP_map]
  exact List.countP_mono_left fun row _ => kept row
theorem countP_map_lt {p : EcosystemInvitation → Bool}
    (kept : ∀ row, p row = true → p (f row) = true) {rows : List EcosystemInvitation}
    (there : row ∈ rows) (before : p row = false) (after : p (f row) = true) :
        rows.countP p < (rows.map f).countP p := by
  obtain ⟨first,rest,rfl⟩ := List.append_of_mem there
  have left := countP_map_le kept first
  have right := countP_map_le kept rest
  simp only [List.map_append,List.map_cons,List.countP_append,List.countP_cons,before,after]
  simp only [Bool.false_eq_true,if_false,if_true]
  omega
theorem used_kept (email orgId : String) (row : EcosystemInvitation)
    (used : (issuedFor email row && row.ecosystemId.isSome) = true) :
    (issuedFor email (bind call orgId invitation row) && (bind call orgId invitation row).ecosystemId.isSome) =
        true := by
  rw [(bind_cases row orgId).2.1]
  rcases (bind_cases row orgId).2.2.2 with ⟨bound,-⟩ | ⟨same,-⟩
  · rw [bound,(Bool.and_eq_true_iff.mp used).1]
    rfl
  · rw [same]
    exact used

theorem used_committed (sound : Sound svc s) (used : Used svc s) {user : User}
    (now : s.process call = some (.creating dto (.commit user role invitation)))
    (free : invitation ∉ s.bindings.map Prod.fst) (process : Process) :
    Used svc ((s.committed call dto role invitation).goTo call process) := by
  obtain ⟨⟨known,email,has,row,listed,is,fits⟩,-⟩ := sound.fits call _ now
  intro userId
  have before := used userId
  show (newEcosystem call dto :: s.ecosystem).countP (createdBy userId) ≤ _
  rw [List.countP_cons]
  by_cases own : dto.userId = userId
  · subst own
    -- the bound row counts now, and did not before
    have after : (bind call dto.orgId invitation row).ecosystemId.isSome = true := by
      rcases (bind_cases row dto.orgId).2.2.2 with ⟨bound,-⟩ | ⟨-,apart⟩
      · rw [bound]
        rfl
      · exact absurd is apart
    have unbound : row.ecosystemId = none := by
      by_contra bound
      exact free (is ▸ sound.bound row listed bound)
    have more := countP_map_lt (used_kept email dto.orgId) listed
      (by rw [unbound,Option.isSome_none,Bool.and_false])
      (by rw [(bind_cases row dto.orgId).2.1,fits,after]; rfl)
    simp only [issued,known,Option.bind_some,has] at before ⊢
    have one : (if createdBy dto.userId (newEcosystem call dto) = true then 1 else 0) ≤ 1 := by split <;> omega
    exact Nat.le_trans (Nat.add_le_add before one) more
  · have zero : (if createdBy userId (newEcosystem call dto) = true then 1 else 0) = 0 :=
      if_neg fun same => own (of_decide_eq_true same)
    rw [zero,Nat.add_zero]
    refine Nat.le_trans before ?_
    unfold issued
    split
    · exact Nat.le_refl 0
    · rename_i address _
      exact countP_map_le (used_kept address dto.orgId) s.ecosystem_invitations

theorem issued_cons (invitations : t.ecosystem_invitations = row :: s.ecosystem_invitations)
    (test : EcosystemInvitation → Bool) (userId : String) : issued svc s test userId ≤ issued svc t test userId := by
  unfold issued
  split
  · exact Nat.le_refl 0
  · rw [invitations,List.countP_cons]
    exact Nat.le_add_right _ _
/-- `Good` with what carries it along a run. -/
structure Kept (svc : Services) (s : State) : Prop where
  sound : Sound svc s
  used : Used svc s
  bound_once : (s.bindings.map Prod.fst).Nodup
  names : (s.ecosystem.map Ecosystem.name).Nodup
  clean : ∀ call dto failure, s.process call = some (.failed dto failure) → Clean s call

theorem Kept.good (kept : Kept svc s) : Good svc s := by
  refine ⟨fun userId => Nat.le_trans (kept.used userId) ?_,kept.bound_once,kept.names,kept.clean⟩
  unfold issued
  split
  · exact Nat.le_refl 0
  · refine List.countP_mono_left fun row _ counts => ?_
    rw [Bool.and_true]
    exact (Bool.and_eq_true_iff.mp counts).1
theorem clean_after (kept : Kept svc s)
    (own : t.process = Function.update s.process call (some process)) (leaves : ∀ other, other ≠ call → Leaves s t other)
    (clean : ∀ dto failure, process = .failed dto failure → Clean t call) :
    ∀ other dto failure, t.process other = some (.failed dto failure) → Clean t other := by
  intro other dto failure now
  rcases call_cases own now with ⟨rfl,is⟩ | ⟨apart,before⟩
  · exact clean dto failure is.symm
  · exact (leaves other apart).clean (kept.clean other dto failure before)

theorem moves_kept (kept : Kept svc s) (moves : Moves svc s a t) (met : FineStep s a) : Kept svc t := by
  have sound := moves_sound kept.sound moves
  cases moves with
  | quiet call process same own fits clean spoilt =>
    refine ⟨sound,?_,?_,?_,clean_after kept own (fun _ _ => same.leaves) (clean met)⟩
    · intro userId
      rw [same.ecosystem]
      simpa only [issued,same.ecosystem_invitations] using kept.used userId
    · rw [same.bindings]
      exact kept.bound_once
    · rw [same.ecosystem]
      exact kept.names
  | invites call process row _ invite own ecosystem orgs bindings fresh type id _ _ invitations =>
    refine ⟨sound,?_,?_,?_,?_⟩
    · intro userId
      rw [ecosystem]
      exact Nat.le_trans (kept.used userId) (issued_cons invitations _ userId)
    · rw [bindings]
      exact kept.bound_once
    · rw [ecosystem]
      exact kept.names
    · refine clean_after kept own
        (fun _ apart => leaves_invited fresh (id.trans_ne apart.symm) ecosystem orgs invitations) ?_
      rintro dto failure rfl
      cases invite
  | commits call dto user role invitation answer now action sent next =>
    subst action next
    obtain ⟨rfl,names,free⟩ := (fineStep_iff now).mp met sent
    refine ⟨sound,used_committed kept.sound kept.used now free _,?_,?_,?_⟩
    · exact List.nodup_cons.mpr ⟨free,kept.bound_once⟩
    · exact List.nodup_cons.mpr ⟨fun there => names (List.mem_map.mp there),kept.names⟩
    · exact clean_after kept rfl (fun _ => leaves_committed _) (fun _ _ => nofun)

theorem moves_spoil (moves : Moves svc s a t) (not : ¬FineStep s a) : ¬Good svc t := by
  intro good
  cases moves with
  | quiet call process same own fits clean spoilt =>
    obtain ⟨dto,failure,rfl,left⟩ := spoilt not
    exact left (good.clean call dto failure (by rw [own,Function.update_self]))
  | invites call process row met => exact not met
  | commits call dto user role invitation answer now action sent next =>
    subst action next
    refine not ((fineStep_iff now).mpr fun _ => ⟨?_,?_,?_⟩)
    · -- a commit that is reported as failed leaves its ecosystem
      by_contra failed
      have report := good.clean call dto .other (by simp only [State.goTo,Function.update_self,if_neg failed])
      exact report.ecosystem (newEcosystem call dto) List.mem_cons_self rfl
    · exact fun there => (List.nodup_cons.mp good.names).1 (List.mem_map.mpr there)
    · exact (List.nodup_cons.mp good.bound_once).1

theorem initial_kept : Kept svc .initial where
  sound := ⟨fun _ _ => nofun,fun _ _ => ⟨⟨nofun,nofun,nofun⟩,nofun⟩,nofun,nofun,nofun,nofun⟩
  used _ := Nat.zero_le _
  bound_once := List.nodup_nil
  names := List.nodup_nil
  clean _ _ _ := nofun
/-- Every state of a run is good exactly when each of its steps is fine. -/
theorem good_iff_along {actions : List Action} (reached : run (step svc) .initial actions = some t) :
    (∀ first rest u, actions = first ++ rest → run (step svc) .initial first = some u → Good svc u) ↔
      Along (step svc) FineStep .initial actions :=
  wanted_iff_along (fun _ kept => kept.good)
    (fun _ _ _ kept taken met => moves_kept kept (step_moves kept.sound taken) met)
    (fun _ _ _ kept taken not => moves_spoil (step_moves kept.sound taken) not) initial_kept reached

variable {seen : Seen} {answer : Answer} {at_ next : Await}
/-- Past its checks a call has seen no ecosystem of its name, and no binding of the invitation it found. -/
def Await.holds (seen : Seen) (dto : CreateEcosystem) : Await → Prop
  | .findAcceptedInvitationByUserId => True
  | .checkEcosystemNameExist => True
  | .updateInvitation _ _ invitation =>
    (∀ row ∈ seen.ecosystem, row.name ≠ dto.name) ∧ ∀ binding ∈ seen.bindings, binding.1 ≠ invitation
  | .commit _ _ invitation =>
    (∀ row ∈ seen.ecosystem, row.name ≠ dto.name) ∧ ∀ binding ∈ seen.bindings, binding.1 ≠ invitation
  | _ => ∀ row ∈ seen.ecosystem, row.name ≠ dto.name
def Holds (s : State) (call : Nat) (seen : Seen) : Prop :=
  ∀ dto at_, s.process call = some (.creating dto at_) → at_.holds seen dto

theorem goes_holds {u : State} (taken : goes u call dto next = some t) (holds : next.holds seen dto) :
    Holds t call seen := by
  cases taken
  intro dto' at' now
  cases (Function.update_self call _ u.process).symm.trans now
  exact holds
theorem throws_holds {u : State} {failure : Failure} (taken : throws u call dto failure = some t) :
    Holds t call seen := by
  cases taken
  intro dto' at' now
  cases (Function.update_self call _ u.process).symm.trans now
theorem findInvitation_free {email : String} (sound : Sound svc s) (found : findInvitation s email = some row) :
    ∀ binding ∈ s.bindings, binding.1 ≠ row.id := by
  intro binding there same
  have passes := List.find?_some found
  simp only [decide_eq_true_eq] at passes
  exact sound.free row (List.mem_of_find?_eq_some found) passes.2.2 (List.mem_map.mpr ⟨binding,there,same⟩)

theorem createStep_holds (sound : Sound svc s) (holds : at_.holds seen dto)
    (taken : createStep svc s call dto answer at_ = some t) : Holds t call (at_.reads s seen) := by
  cases at_ with
  | findAcceptedInvitationByUserId =>
    simp only [createStep] at taken
    split at taken
    · exact goes_holds taken trivial
    all_goals exact throws_holds taken
  | checkEcosystemNameExist =>
    simp only [createStep] at taken
    split at taken
    · rename_i absent
      refine goes_holds taken fun row there same => ?_
      exact List.find?_eq_none.mp absent row there (decide_eq_true same)
    all_goals exact throws_holds taken
  | getUserById =>
    simp only [createStep] at taken
    split at taken
    · exact goes_holds taken holds
    all_goals exact throws_holds taken
  | begin user =>
    simp only [createStep] at taken
    split at taken
    · exact goes_holds taken holds
    · exact throws_holds taken
  | findRole user | createEcosystem user role | createEcosystemOrg user role =>
    simp only [createStep] at taken
    split at taken
    all_goals exact goes_holds taken holds
  | findInvitation user role =>
    simp only [createStep] at taken
    split at taken
    · rename_i invitation found
      obtain ⟨email,-,found⟩ := Option.bind_eq_some_iff.mp found
      exact goes_holds taken ⟨holds,findInvitation_free sound found⟩
    all_goals exact goes_holds taken holds
  | updateInvitation user role invitation =>
    simp only [createStep] at taken
    split at taken
    · cases taken
    · split at taken
      · exact goes_holds taken holds
      · exact goes_holds taken holds.1
  | commit user role invitation =>
    cases answer with
    | ok => exact goes_holds taken holds.1
    | lost => exact throws_holds taken
    | fails => exact throws_holds taken
  | rollback failure => exact throws_holds taken
  | getPlatformManagementToken user =>
    simp only [createStep] at taken
    split at taken
    · refine goes_holds taken ?_
      unfold afterToken
      split <;> exact holds
    · exact throws_holds taken
  | updateUserEcosystemLeads user =>
    simp only [createStep] at taken
    split at taken
    · exact goes_holds taken holds
    · exact throws_holds taken
  | updateOrgServiceAccountEcosystem =>
    cases taken
    intro dto' at' now
    cases (Function.update_self call _ s.process).symm.trans now

/-- What the calls have seen is what they go by. -/
structure Recalled (svc : Services) (m : State × (Nat → Seen)) : Prop where
  sound : Sound svc m.1
  holds : ∀ call, Holds m.1 call (m.2 call)
variable {m : State × (Nat → Seen)}

theorem holds_others (recalled : Recalled svc m) {noted : Nat → Seen}
    (own : t.process = Function.update m.1.process call (some process))
    (others : ∀ other, other ≠ call → noted other = m.2 other) (holds : Holds t call (noted call)) :
    ∀ other, Holds t other (noted other) := by
  intro other dto at_ now
  by_cases same : other = call
  · subst same
    exact holds dto at_ now
  · rw [own,Function.update_of_ne same] at now
    rw [others other same]
    exact recalled.holds other dto at_ now
theorem holds_invite (invite : process.isInvite = true)
    (own : t.process = Function.update s.process call (some process)) :
    Holds t call seen := by
  intro dto at_ now
  rw [own,Function.update_self] at now
  cases now
  cases invite

/-- What is noted of a creation is what it has read itself. -/
theorem step_recalled {after : State × (Nat → Seen)} (recalled : Recalled svc m)
    (taken : noting (step svc) note m a = some after) : Recalled svc after := by
  obtain ⟨stepped,noted⟩ := noting_cases taken
  obtain ⟨t,seen⟩ := after
  dsimp only at stepped noted
  subst noted
  refine ⟨moves_sound recalled.sound (step_moves recalled.sound stepped),?_⟩
  cases a with
  | createEcosystem call dto =>
    simp only [step] at stepped
    split at stepped
    · split at stepped <;> cases stepped
      · exact holds_others recalled rfl (fun _ _ => rfl) (throws_holds rfl)
      · exact holds_others recalled rfl (fun _ _ => rfl) (goes_holds rfl trivial)
    · cases stepped
  | inviteUserToCreateEcosystem call email platformAdminId =>
    simp only [step] at stepped
    split at stepped
    · split at stepped <;> cases stepped <;>
        exact holds_others recalled rfl (fun _ _ => rfl) (holds_invite rfl rfl)
    · cases stepped
  | advance call answer =>
    simp only [step] at stepped
    split at stepped
    · rename_i dto at_ now
      have goes := createStep_holds recalled.sound (recalled.holds call dto at_ now) stepped
      have own : ∃ process, t.process = Function.update m.1.process call (some process) := by
        rcases createStep_cases recalled.sound.types (recalled.sound.fits call _ now).1 stepped with
          ⟨process,-,-,own⟩ | ⟨-,-,-,-,-,rfl⟩
        · exact ⟨process,own⟩
        · exact ⟨_,rfl⟩
      obtain ⟨process,own⟩ := own
      simp only [note,now]
      refine holds_others recalled own (fun other apart => Function.update_of_ne apart ..) ?_
      rw [Function.update_self]
      exact goes
    · rename_i email platformAdminId at_ now
      obtain ⟨process,own,invite,-⟩ :=
        @inviteStep_cases svc m.1 call answer email platformAdminId at_ (recalled.sound.fits call _ now)
      cases stepped
      simp only [note,now]
      exact holds_others recalled own (fun _ _ => rfl) (holds_invite invite own)
    · cases stepped

/-- By what the call has seen, nothing since is nothing at all. -/
theorem meets_iff (recalled : Recalled svc m) : Meets m a ↔ FineStep m.1 a := by
  cases a with
  | createEcosystem call dto => exact Iff.rfl
  | inviteUserToCreateEcosystem call email platformAdminId => exact Iff.rfl
  | advance call answer =>
    refine forall_congr' fun dto => forall_congr' fun at_ => forall_congr' fun now => ?_
    cases at_ with
    | commit user role invitation =>
      obtain ⟨unnamed,unbound⟩ := recalled.holds call dto _ now
      refine forall_congr' fun _ => and_congr_right fun _ => and_congr (not_congr ?_) (not_congr ?_)
      · constructor
        · rintro ⟨row,there,-,same⟩
          exact ⟨row,there,same⟩
        · rintro ⟨row,there,same⟩
          exact ⟨row,there,fun before => unnamed row before same,same⟩
      · constructor
        · rintro ⟨binding,there,-,same⟩
          exact List.mem_map.mpr ⟨binding,there,same⟩
        · intro bound
          obtain ⟨binding,there,same⟩ := List.mem_map.mp bound
          exact ⟨binding,there,fun before => unbound binding before same,same⟩
    | _ => exact Iff.rfl

/-- In every state of a run the ecosystems have invitations of their own and names of their own, and a failed
    creation has left nothing, exactly when no commit of a name or of an invitation comes between the checks of
    another creation for them and its commit, no commit is reported as failed, and Keycloak fails in no creation. -/
theorem ecosystem_invited_iff {actions : List Action} (reached : run (step svc) .initial actions = some t) :
    (∀ first rest u, actions = first ++ rest → run (step svc) .initial first = some u → Good svc u) ↔
      Along (noting (step svc) note) Meets (.initial,fun _ => ⟨[],[]⟩) actions := by
  have start : Recalled svc (.initial,fun _ => ⟨[],[]⟩) := ⟨initial_kept.sound,fun _ _ _ => by rintro ⟨⟩⟩
  have same := along_noting (fun _ _ recalled _ => meets_iff recalled)
    (fun _ _ _ recalled _ taken => step_recalled recalled taken) start reached
  exact (good_iff_along reached).trans same.symm
end

instance (answer : Answer) (named : String → Prop) (bound : Nat → Prop) [DecidablePred named] [DecidablePred bound]
    (dto : CreateEcosystem) : (at_ : Await) → Decidable (Serves answer named bound dto at_)
  | .commit _ _ _ => inferInstanceAs (Decidable (_ → _))
  | .getPlatformManagementToken _ => inferInstanceAs (Decidable (_ = _))
  | .updateUserEcosystemLeads _ => inferInstanceAs (Decidable (_ = _))
  | .findAcceptedInvitationByUserId => isTrue trivial
  | .checkEcosystemNameExist => isTrue trivial
  | .getUserById => isTrue trivial
  | .begin _ => isTrue trivial
  | .findRole _ => isTrue trivial
  | .createEcosystem _ _ => isTrue trivial
  | .createEcosystemOrg _ _ => isTrue trivial
  | .findInvitation _ _ => isTrue trivial
  | .updateInvitation _ _ _ => isTrue trivial
  | .rollback _ => isTrue trivial
  | .updateOrgServiceAccountEcosystem => isTrue trivial

instance (m : State × (Nat → Seen)) : (a : Action) → Decidable (Meets m a)
  | .createEcosystem _ _ => isTrue trivial
  | .inviteUserToCreateEcosystem _ _ _ => isTrue trivial
  | .advance call answer =>
    match now : m.1.process call with
    | some (.creating dto at_) =>
      decidable_of_iff (Serves answer (fun name => ∃ row ∈ m.1.ecosystem, row ∉ (m.2 call).ecosystem ∧ row.name = name)
        (fun invitation => ∃ binding ∈ m.1.bindings, binding ∉ (m.2 call).bindings ∧ binding.1 = invitation) dto at_)
        ⟨fun serves _ _ is => by cases now.symm.trans is; exact serves,fun met => met dto at_ now⟩
    | none => isTrue fun _ _ other => nomatch now.symm.trans other
    | some (.created _) => isTrue fun _ _ other => nomatch now.symm.trans other
    | some (.failed _ _) => isTrue fun _ _ other => nomatch now.symm.trans other
    | some (.inviting _ _ _) => isTrue fun _ _ other => nomatch now.symm.trans other
    | some .invited => isTrue fun _ _ other => nomatch now.symm.trans other
    | some (.notInvited _) => isTrue fun _ _ other => nomatch now.symm.trans other

def twoUsers : Services :=
  ⟨[⟨"lea",some "lea@ngotag.bt",some "kc-lea"⟩,⟨"dorji",some "dorji@ngotag.bt",none⟩],some "lead"⟩
def named (name userId : String) : CreateEcosystem := ⟨name,"",none,none,none,userId,"org"⟩
def advances (call steps : Nat) : List Action := List.replicate steps (.advance call .ok)
def invited (call : Nat) (email : String) : List Action :=
  .inviteUserToCreateEcosystem call email "admin" :: advances call 4
/-- Two users create at the same time. -/
def createdTwice : List Action :=
  invited 0 "lea@ngotag.bt" ++ invited 1 "dorji@ngotag.bt" ++ .createEcosystem 2 (named "Thimphu" "lea") ::
    .createEcosystem 3 (named "Paro" "dorji") :: (advances 2 9 ++ advances 3 9 ++ advances 2 4 ++ advances 3 3)
theorem two_created_invited :
    (run (step twoUsers) .initial createdTwice).any (fun now => now.ecosystem.length = 2) = true ∧
    ∀ first rest u, createdTwice = first ++ rest → run (step twoUsers) .initial first = some u → Good twoUsers u := by
  have runs : (run (step twoUsers) .initial createdTwice).isSome = true := by decide +kernel
  exact ⟨by decide +kernel,(ecosystem_invited_iff (Option.some_get runs).symm).mpr (by decide +kernel)⟩
/-- Two submissions of one user pass the check before either has used the invitation up; the update of the
    second waits for the first and then takes the same row. -/
def submittedTwice : List Action :=
  invited 0 "lea@ngotag.bt" ++ .createEcosystem 1 (named "Thimphu" "lea") :: .createEcosystem 2 (named "Paro" "lea") ::
    (advances 1 8 ++ advances 2 8 ++ advances 1 2 ++ advances 2 2)

theorem one_invitation_two_ecosystems : ∃ t, run (step twoUsers) .initial submittedTwice = some t ∧
    issued twoUsers t (fun _ => true) "lea" = 1 ∧ t.ecosystem.countP (createdBy "lea") = 2 ∧ ¬Good twoUsers t := by
  have two : issued twoUsers ((run (step twoUsers) .initial submittedTwice).get (by decide +kernel))
      (fun _ => true) "lea" = 1 ∧
      ((run (step twoUsers) .initial submittedTwice).get (by decide +kernel)).ecosystem.countP
      (createdBy "lea") = 2 := by
    decide +kernel
  refine ⟨_,(Option.some_get (by decide +kernel)).symm,two.1,two.2,fun good => ?_⟩
  have invited := good.invited "lea"
  omega

end Ngotag.EcosystemCreation
