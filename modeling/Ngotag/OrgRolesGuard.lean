import Mathlib.Data.List.DropRight
import Ngotag.JwtStrategy
import Ngotag.Spelling

/-!
`OrgRolesGuard`: who may use a route that names an organisation. The roles are
those of the token for that organisation, else those of the user's rows in it;
without an organisation only a platform administrator passes. Whoever is admitted
holds a required role in the very organisation of the request, a holder is never
admitted, and what a user is elsewhere does not count (`guard_sound`).
-/
namespace Ngotag.OrgRolesGuard
open JwtStrategy

/-- Where a request may name an organisation. A request may have no body. -/
structure Request where
  path : Option String
  query : Option String
  body : Option (Option String)

inductive Refusal where
  /-- `This role is a holder.` -/
  | holder
  /-- `ResponseMessages.organisation.error.invalidOrgId` -/
  | invalidOrgId
  /-- `ResponseMessages.organisation.error.roleNotMatch` -/
  | roleNotMatch
  /-- `ResponseMessages.organisation.error.orgNotMatch` -/
  | orgNotMatch
  /-- `Please provide valid orgId` -/
  | missingOrgId
  | typeError
  deriving DecidableEq

/-- `value.trim()` -/
def trim (value : String) : String :=
  String.ofList ((value.toList.dropWhile Spelling.blank).rdropWhile Spelling.blank)
/-- The first that is not blank of path, query and body. -/
def givenOrg (req : Request) : Option String :=
  ([req.path,req.query,req.body.join].map fun value => (value.map trim).getD "").find? (· ≠ "")
def ofOrg (orgId : String) (row : UserOrgRole) : Bool :=
  row.orgId.any fun id => id ≠ "" && trim id = trim orgId
/-- `requiredRoles.some((role) => orgRoles.includes(role))`, with the exception of
    both guards where there is none. -/
def roleAccess (requiredRoles : List OrgRoles) (orgRoles : List String) : Except Refusal Bool :=
  if requiredRoles.any fun role => role.name ∈ orgRoles then .ok true else .error .roleNotMatch
/-- The roles that the token gives for an organisation. Without `roles` the first
    required role makes it an exception. -/
def tokenAccess (requiredRoles : List OrgRoles) (roles : Option (List String)) : Except Refusal Bool :=
  if let some orgRoles := roles then roleAccess requiredRoles orgRoles
  else if requiredRoles = [] then .error .roleNotMatch else .error .typeError

/-- The roles of the rows of an organisation, `user.selectedOrg.orgRoles`. The guard
    has `undefined` for the other rows, which is no role. -/
def rowsAccess (requiredRoles : List OrgRoles) (userOrgRoles : Option (List UserOrgRole)) (orgId : String) :
    Except Refusal Bool :=
  if let some rows := userOrgRoles then
    if (rows.find? (ofOrg orgId)).isNone then .error .orgNotMatch
    else roleAccess requiredRoles ((rows.filter (ofOrg orgId)).map UserOrgRole.orgRole)
  else .error .typeError
def orgAccess (isValidUUID : String → Bool) (requiredRoles : List OrgRoles) (user : RequestUser) (orgId : String) :
    Except Refusal Bool :=
  if !isValidUUID orgId then .error .invalidOrgId
  else if let some roles := user.resourceAccess.bind (AList.lookup orgId) then tokenAccess requiredRoles roles
  else rowsAccess requiredRoles user.userOrgRoles orgId
def isPlatformAdmin (rows : List UserOrgRole) : Bool := rows.any fun row => row.orgRole = OrgRoles.platformAdmin.name
/-- `user?.userRole.includes('holder')` -/
def markedHolder (user : RequestUser) : Bool :=
  user.userRole.any fun userRole => decide (USER_HOLDER_ROLE.toList <:+: userRole.toList)

/-- `canActivate`. Without required roles `Object.values` throws. -/
def canActivate (isValidUUID : String → Bool) (requiredRoles : Option (List OrgRoles)) (user : RequestUser)
    (req : Request) : Except Refusal Bool :=
  if let some requiredRoles := requiredRoles then
    if markedHolder user then .error .holder
    else if let some orgId := givenOrg req then orgAccess isValidUUID requiredRoles user orgId
    else if .platformAdmin ∈ requiredRoles then
      if let some rows := user.userOrgRoles then .ok (isPlatformAdmin rows) else .error .typeError
    else .error .missingOrgId
  else .error .typeError

/-- The user has the role in the organisation, by the token or by the database. -/
def Holds (user : RequestUser) (orgId : String) (role : OrgRoles) : Prop :=
  (∃ access roles, user.resourceAccess = some access ∧ access.lookup orgId = some (some roles) ∧ role.name ∈ roles) ∨
  ∃ rows row, user.userOrgRoles = some rows ∧ row ∈ rows ∧ row.orgId.map trim = some orgId ∧ row.orgRole = role.name
/-- By the database the user is the platform's admin. -/
def PlatformAdmin (user : RequestUser) : Prop :=
  ∃ rows row, user.userOrgRoles = some rows ∧ row ∈ rows ∧ row.orgRole = OrgRoles.platformAdmin.name
/-- One of the required roles is the user's, in the organisation of the request. -/
def Entitled (requiredRoles : Option (List OrgRoles)) (user : RequestUser) (req : Request) : Prop :=
  ∃ required, requiredRoles = some required ∧
    (∀ orgId, givenOrg req = some orgId → ∃ role ∈ required, Holds user orgId role) ∧
    (givenOrg req = none → .platformAdmin ∈ required ∧ PlatformAdmin user)
/-- The payload is one of a user that the database marks as a holder. -/
def HolderMarked (services : Services) (payload : JwtPayload) : Prop :=
  ∃ details, lookup services payload = .ok (some details) ∧ "HOLDER" ∈ details.userRoleMapping

/-- The two are the same as to an organisation: both holders or neither, with the same
    roles in it. -/
structure SameIn (orgId : String) (user user' : RequestUser) : Prop where
  userRole : user.userRole = user'.userRole
  token : user.resourceAccess.bind (AList.lookup orgId) = user'.resourceAccess.bind (AList.lookup orgId)
  rows : user.userOrgRoles.map (List.filter (ofOrg orgId)) = user'.userOrgRoles.map (List.filter (ofOrg orgId))

/-- What is dropped at the end leaves nothing to drop at the beginning. -/
theorem dropWhile_rdropWhile {α : Type} (p : α → Bool) (text : List α) :
    ((text.dropWhile p).rdropWhile p).dropWhile p = (text.dropWhile p).rdropWhile p := by
  rw [List.dropWhile_eq_self_iff]
  intro some_ first
  have begins := List.rdropWhile_prefix p (l := text.dropWhile p)
  have inside := lt_of_lt_of_le some_ begins.length_le
  rw [begins.getElem some_] at first
  exact List.dropWhile_eq_self_iff.mp (List.dropWhile_idempotent p text) inside first
@[simp] theorem trim_trim (value : String) : trim (trim value) = trim value := by
  simp [trim,dropWhile_rdropWhile,List.rdropWhile_idempotent]

variable {orgId : String}
theorem givenOrg_trimmed {req : Request} (given : givenOrg req = some orgId) :
    trim orgId = orgId ∧ orgId ≠ "" := by
  have nonempty := List.find?_some given
  have member := List.mem_of_find?_eq_some given
  refine ⟨?_,by simpa using nonempty⟩
  obtain ⟨value,-,rfl⟩ := List.mem_map.mp member
  cases value with
  | none => simp at nonempty
  | some value => simp
theorem ofOrg_spec {row : UserOrgRole} (trimmed : trim orgId = orgId) (own : ofOrg orgId row = true) :
    row.orgId.map trim = some orgId := by
  unfold ofOrg at own
  cases id : row.orgId with
  | none => simp [id] at own
  | some id_ =>
    simp [id] at own
    simp [own.2,trimmed]
@[simp] theorem roleAccess_ok {requiredRoles : List OrgRoles} {orgRoles : List String} {admitted : Bool} :
    roleAccess requiredRoles orgRoles = .ok admitted ↔
      admitted = true ∧ ∃ role ∈ requiredRoles, role.name ∈ orgRoles := by
  unfold roleAccess
  by_cases held : ∃ role ∈ requiredRoles, role.name ∈ orgRoles
  · have some_ : (requiredRoles.any fun role => role.name ∈ orgRoles) = true := by simpa using held
    simp [some_,held,eq_comm]
  · have none_ : (requiredRoles.any fun role => role.name ∈ orgRoles) = false := by simpa using held
    simp [none_,held]

variable {requiredRoles : List OrgRoles} {admitted : Bool}
theorem tokenAccess_ok {roles : Option (List String)} (passed : tokenAccess requiredRoles roles = .ok admitted) :
    ∃ orgRoles, roles = some orgRoles ∧ ∃ role ∈ requiredRoles, role.name ∈ orgRoles := by
  cases roles with
  | some orgRoles =>
    simp only [tokenAccess,roleAccess_ok] at passed
    exact ⟨orgRoles,rfl,passed.2⟩
  | none =>
    by_cases empty : requiredRoles = []
    · simp [tokenAccess,empty] at passed
    · simp [tokenAccess,empty] at passed

theorem rowsAccess_ok {userOrgRoles : Option (List UserOrgRole)}
    (passed : rowsAccess requiredRoles userOrgRoles orgId = .ok admitted) :
    ∃ rows, userOrgRoles = some rows ∧ ∃ role ∈ requiredRoles, ∃ row ∈ rows, ofOrg orgId row = true ∧
      row.orgRole = role.name := by
  cases userOrgRoles with
  | none => simp [rowsAccess] at passed
  | some rows =>
    by_cases absent : (rows.find? (ofOrg orgId)).isNone
    · simp [rowsAccess,absent] at passed
    · simp only [rowsAccess,absent,Bool.false_eq_true,if_false,roleAccess_ok] at passed
      obtain ⟨-,role,wanted,held⟩ := passed
      simp only [List.mem_map,List.mem_filter] at held
      obtain ⟨row,⟨member,own⟩,same⟩ := held
      exact ⟨rows,rfl,role,wanted,row,member,own,same⟩

variable {user : RequestUser} {isValidUUID : String → Bool}
theorem orgAccess_holds (trimmed : trim orgId = orgId)
    (passed : orgAccess isValidUUID requiredRoles user orgId = .ok admitted) :
    ∃ role ∈ requiredRoles, Holds user orgId role := by
  by_cases valid : isValidUUID orgId = true
  · cases entry : user.resourceAccess.bind (AList.lookup orgId) with
    | some roles =>
      simp only [orgAccess,valid,entry,Bool.not_true,Bool.false_eq_true,if_false] at passed
      obtain ⟨orgRoles,rfl,role,wanted,held⟩ := tokenAccess_ok passed
      obtain ⟨access,given,found⟩ := Option.bind_eq_some_iff.mp entry
      exact ⟨role,wanted,.inl ⟨access,orgRoles,given,found,held⟩⟩
    | none =>
      simp only [orgAccess,valid,entry,Bool.not_true,Bool.false_eq_true,if_false] at passed
      obtain ⟨rows,there,role,wanted,row,member,own,same⟩ := rowsAccess_ok passed
      exact ⟨role,wanted,.inr ⟨rows,row,there,member,ofOrg_spec trimmed own,same⟩⟩
  · simp [orgAccess,valid] at passed

theorem platformAdmin_of {rows : List UserOrgRole} (there : user.userOrgRoles = some rows)
    (admin : isPlatformAdmin rows = true) : PlatformAdmin user := by
  simp only [isPlatformAdmin,List.any_eq_true,decide_eq_true_eq] at admin
  obtain ⟨row,member,same⟩ := admin
  exact ⟨rows,row,there,member,same⟩

theorem canActivate_entitled {requiredRoles : Option (List OrgRoles)}
    {req : Request} (passed : canActivate isValidUUID requiredRoles user req = .ok true) :
    markedHolder user = false ∧ Entitled requiredRoles user req := by
  cases requiredRoles with
  | none => simp [canActivate] at passed
  | some required =>
    by_cases holder : markedHolder user = true
    · simp [canActivate,holder] at passed
    · simp only [canActivate,holder,Bool.false_eq_true,if_false] at passed
      refine ⟨by simpa using holder,required,rfl,?_,?_⟩
      · intro orgId given
        simp only [given] at passed
        exact orgAccess_holds (givenOrg_trimmed given).1 passed
      · intro absent
        simp only [absent] at passed
        by_cases wanted : .platformAdmin ∈ required
        · simp only [wanted,if_true] at passed
          cases there : user.userOrgRoles with
          | none => simp [there] at passed
          | some rows =>
            simp only [there,Except.ok.injEq] at passed
            exact ⟨wanted,platformAdmin_of there passed⟩
        · simp [wanted] at passed

theorem markedHolder_of {services : Services} {payload : JwtPayload}
    (valid : validate services payload = .ok user) (marked : HolderMarked services payload) :
    markedHolder user = true := by
  obtain ⟨details,found,mapped⟩ := marked
  by_cases missing : sessionMissing services payload = true
  · simp [validate,missing] at valid
  · simp only [validate,missing,Bool.false_eq_true,if_false,found,Except.map,Except.ok.injEq] at valid
    subst valid
    simp [markedHolder,requestUser,isHolder,mapped]

theorem rowsAccess_congr {rows rows' : Option (List UserOrgRole)}
    (same : rows.map (List.filter (ofOrg orgId)) = rows'.map (List.filter (ofOrg orgId))) :
    rowsAccess requiredRoles rows orgId = rowsAccess requiredRoles rows' orgId := by
  -- The row that is looked for is the first of the organisation's rows.
  cases rows with
  | none =>
    cases rows' with
    | none => rfl
    | some rows' => simp at same
  | some rows =>
    cases rows' with
    | none => simp at same
    | some rows' =>
      simp only [Option.map_some,Option.some.injEq] at same
      simp only [rowsAccess,← List.head?_filter,same]

theorem canActivate_congr {requiredRoles : Option (List OrgRoles)}
    {user user' : RequestUser} {req : Request} (given : givenOrg req = some orgId)
    (same : SameIn orgId user user') :
    canActivate isValidUUID requiredRoles user req = canActivate isValidUUID requiredRoles user' req := by
  simp only [canActivate,markedHolder,given,orgAccess,same.userRole,same.token,rowsAccess_congr same.rows]

/-- The guard admits only who is entitled in the organisation of the request, no
    holder, and whatever the user is in other organisations. -/
theorem guard_sound {services : Services} {payload : JwtPayload} {user : RequestUser}
    (valid : validate services payload = .ok user)
    (isValidUUID : String → Bool) (requiredRoles : Option (List OrgRoles)) (req : Request) :
    (canActivate isValidUUID requiredRoles user req = .ok true → Entitled requiredRoles user req) ∧
    (HolderMarked services payload → canActivate isValidUUID requiredRoles user req ≠ .ok true) ∧
    ∀ orgId user', givenOrg req = some orgId → SameIn orgId user user' →
      canActivate isValidUUID requiredRoles user req = canActivate isValidUUID requiredRoles user' req := by
  refine ⟨fun passed => (canActivate_entitled passed).2,?_,fun _ _ given same => canActivate_congr given same⟩
  intro marked passed
  have unmarked := (canActivate_entitled passed).1
  rw [markedHolder_of valid marked] at unmarked
  exact absurd unmarked (by decide)

def clinic : String := "6f1c1d5e-5a3b-4c0e-9c57-0d1f6f3b2a10"
def clinicOwner : UserDetails :=
  ⟨"1",none,[⟨some "0b6e3f0a-1c2d-4e5f-8a9b-0c1d2e3f4a5b","verifier"⟩,⟨some clinic,"owner"⟩],[]⟩
def clinicOnly : Services := ⟨fun _ => true,fun _ => none,fun _ => some clinicOwner⟩
def ownPayload : JwtPayload := ⟨none,some "1",none,none,none,none,none,none⟩

theorem guard_sound_clinic :
    Entitled (some [.owner]) (requestUser (some clinicOwner) ownPayload) ⟨some " ",some (clinic ++ " "),none⟩ ∧
    ¬Entitled (some [.verifier]) (requestUser (some clinicOwner) ownPayload) ⟨some clinic,none,none⟩ := by
  have valid : validate clinicOnly ownPayload = .ok (requestUser (some clinicOwner) ownPayload) := rfl
  refine ⟨(guard_sound valid uuidRegex _ _).1 (by decide +kernel),?_⟩
  rintro ⟨required,⟨⟩,entitled,-⟩
  obtain ⟨role,wanted,⟨access,roles,given,-⟩ | ⟨rows,row,⟨⟩,member,own,same⟩⟩ := entitled clinic (by decide +kernel)
  · cases given
  · simp only [List.mem_singleton] at wanted
    subst wanted
    change row ∈ clinicOwner.userOrgRoles at member
    simp only [clinicOwner,List.mem_cons,List.not_mem_nil,or_false] at member
    rcases member with rfl | rfl
    · exact absurd own (by decide +kernel)
    · exact absurd same (by decide)

end Ngotag.OrgRolesGuard
