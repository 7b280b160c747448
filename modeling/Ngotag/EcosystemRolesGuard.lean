import Ngotag.OrgRolesGuard

/-!
`EcosystemRolesGuard` and the routes behind it. The guard asks whether the user
leads, or is a member of, any ecosystem at all; which ecosystem the route is about
it does not look at. So a route is used by those who hold a required role in its
ecosystem exactly when its user holds one there, or nowhere and in no organisation
either (`authorised_iff`).
-/
namespace Ngotag.EcosystemRolesGuard
open JwtStrategy OrgRolesGuard

/-- The ids of one place of a request. -/
structure Fields where
  orgId : Option String
  ecosystemId : Option String
  intentId : Option String
  id : Option String
structure Request where
  params : Fields
  query : Fields
  body : Fields
/-- The first `orgId` of path, query and body, which may be blank. -/
def givenOrg (req : Request) : String :=
  (((req.params.orgId.or req.query.orgId).or req.body.orgId).map trim).getD ""
def ecosystemsOf (role : OrgRoles) (entry : EcosystemRole) : List String :=
  match role with
  | .ecosystemLead => entry.lead.getD []
  | .ecosystemMember => entry.member.getD []
  | _ => []
/-- `hasLead` and `hasMember`: whether some entry has ecosystems for the role. -/
def hasRole (user : RequestUser) (role : OrgRoles) : Bool :=
  (user.ecosystemAccess.getD []).any fun eco => eco.2.any fun entry => 0 < (ecosystemsOf role entry).length
def ecosystemRoleAccess (requiredRoles : List OrgRoles) (user : RequestUser) : Bool :=
  requiredRoles.any fun role => hasRole user role
def namedOrgAccess (isValidUUID : String → Bool) (requiredRoles : List OrgRoles) (user : RequestUser) (req : Request) :
    Except Refusal Bool :=
  if givenOrg req = "" then .ok false else orgAccess isValidUUID requiredRoles user (givenOrg req)

/-- `canActivate`, where `platformAdminEmail` is the variable of the environment. -/
def canActivate (platformAdminEmail : Option String) (isValidUUID : String → Bool)
    (requiredRoles : Option (List OrgRoles)) (user : RequestUser) (req : Request) : Except Refusal Bool :=
  let required := requiredRoles.getD []
  if required = [] then .ok true
  else if ecosystemRoleAccess required user then .ok true
  else if user.email = platformAdminEmail ∧ .platformAdmin ∈ required then
    if let some rows := user.userOrgRoles then
      if isPlatformAdmin rows then .ok true else namedOrgAccess isValidUUID required user req
    else .error .typeError
  else namedOrgAccess isValidUUID required user req

/-- The routes that require an ecosystem role. -/
inductive Handler where
  | inviteMemberToEcosystem
  | deleteEcosystemUsers
  | updateEcosystemOrgStatus
  | getEcosystemOrgs
  | getEcosystems
  | getAllOrganisations
  | createIntent
  | getIntents
  | updateIntent
  | deleteIntent
  | getTemplatesByEcosystemId
  | createIntentTemplate
  | getAllIntentTemplates
  | getIntentTemplateByIntentAndOrg
  | getIntentTemplatesByIntentId
  | getIntentTemplatesByOrgId
  | getIntentTemplateById
  | updateIntentTemplate
  | deleteIntentTemplate
  | createIntentNotice
  | getIntentNotices
  | getIntentNoticesByEcosystemId
  | updateIntentNotice
  | deleteIntentNotice

def Handler.roles : Handler → List OrgRoles
  | .getEcosystems => [.platformAdmin,.ecosystemLead,.ecosystemMember]
  | .getAllOrganisations => [.platformAdmin,.ecosystemLead]
  | .getTemplatesByEcosystemId | .getIntentTemplatesByOrgId => [.ecosystemLead,.owner]
  | .getIntentNotices | .getIntentNoticesByEcosystemId => [.ecosystemLead,.ecosystemMember]
  | _ => [.ecosystemLead]
/-- The ecosystem of a row, by what a request calls the row. -/
structure Database where
  ecosystem : String → Option String
  intent : String → Option String
  template : String → Option String
  notice : String → Option String

/-- The ecosystem that a route acts on. Some routes act on an organisation or on rows
    of any ecosystem, and `updateIntent` on an intent by its id alone. -/
def Handler.actsOn (db : Database) (req : Request) : Handler → Option String
  | .inviteMemberToEcosystem | .deleteEcosystemUsers | .updateEcosystemOrgStatus =>
    (req.body.ecosystemId.map trim).bind db.ecosystem
  | .getEcosystemOrgs => req.query.ecosystemId.bind db.ecosystem
  | .createIntent | .getIntents | .deleteIntent | .getTemplatesByEcosystemId | .getIntentNoticesByEcosystemId =>
    (req.params.ecosystemId.map trim).bind db.ecosystem
  | .updateIntent | .getIntentTemplatesByIntentId => (req.params.intentId.map trim).bind db.intent
  | .createIntentTemplate | .createIntentNotice => req.body.intentId.bind db.intent
  | .getIntentTemplateById | .updateIntentTemplate | .deleteIntentTemplate =>
    (req.params.id.map trim).bind db.template
  | .updateIntentNotice | .deleteIntentNotice => (req.params.id.map trim).bind db.notice
  | .getEcosystems | .getAllOrganisations | .getAllIntentTemplates | .getIntentTemplateByIntentAndOrg |
    .getIntentTemplatesByOrgId | .getIntentNotices => none

/-- The user holds the role in an ecosystem, by the entry of some organisation. -/
def HoldsIn (user : RequestUser) (role : OrgRoles) (ecosystem : String) : Prop :=
  ∃ access eco entry, user.ecosystemAccess = some access ∧ eco ∈ access ∧ eco.2 = some entry ∧
    ecosystem ∈ ecosystemsOf role entry
/-- Who is admitted to a route holds one of its roles in the ecosystem it acts on. -/
def Authorised (platformAdminEmail : Option String) (isValidUUID : String → Bool) (db : Database) (handler : Handler)
    (user : RequestUser) (req : Request) : Prop :=
  canActivate platformAdminEmail isValidUUID (some handler.roles) user req = .ok true →
    ∀ ecosystem, handler.actsOn db req = some ecosystem → ∃ role ∈ handler.roles, HoldsIn user role ecosystem
/-- The user holds none of the roles: not in any ecosystem, and not in the organisation
    that the request names. -/
def Outsider (isValidUUID : String → Bool) (roles : List OrgRoles) (user : RequestUser) (req : Request) : Prop :=
  (∀ role ∈ roles, ∀ ecosystem, ¬HoldsIn user role ecosystem) ∧
    (givenOrg req ≠ "" → orgAccess isValidUUID roles user (givenOrg req) ≠ .ok true)

variable {user : RequestUser}
theorem hasRole_iff {role : OrgRoles} :
    hasRole user role = true ↔ ∃ ecosystem, HoldsIn user role ecosystem := by
  unfold hasRole HoldsIn
  cases claim : user.ecosystemAccess with
  | none => simp
  | some access =>
    simp only [Option.getD_some,List.any_eq_true,Option.any_eq_true,decide_eq_true_eq,List.length_pos_iff_exists_mem]
    constructor
    · rintro ⟨eco,member,entry,given,ecosystem,held⟩
      exact ⟨ecosystem,access,eco,entry,rfl,member,given,held⟩
    · rintro ⟨ecosystem,_,eco,entry,same,member,given,held⟩
      cases same
      exact ⟨eco,member,entry,given,ecosystem,held⟩

variable {roles : List OrgRoles}
theorem ecosystemRoleAccess_iff :
    ecosystemRoleAccess roles user = true ↔ ∃ role ∈ roles, ∃ ecosystem, HoldsIn user role ecosystem := by
  simp [ecosystemRoleAccess,hasRole_iff]
theorem namedOrgAccess_ok {isValidUUID : String → Bool} {req : Request} :
    namedOrgAccess isValidUUID roles user req = .ok true ↔
      givenOrg req ≠ "" ∧ orgAccess isValidUUID roles user (givenOrg req) = .ok true := by
  unfold namedOrgAccess
  by_cases blank : givenOrg req = ""
  · simp [blank]
  · simp [blank]

/-- Without the role of a platform administrator among those required, whoever is
    somebody in some ecosystem is admitted, and else the organisation decides. -/
theorem canActivate_ok {platformAdminEmail : Option String} {isValidUUID : String → Bool}
    {req : Request} (required : roles ≠ []) (plain : .platformAdmin ∉ roles) :
    canActivate platformAdminEmail isValidUUID (some roles) user req = .ok true ↔
        ¬Outsider isValidUUID roles user req := by
  have inside : ¬(user.email = platformAdminEmail ∧ .platformAdmin ∈ roles) := fun both => plain both.2
  simp only [canActivate,Option.getD_some,if_neg required,if_neg inside,Outsider]
  by_cases access : ecosystemRoleAccess roles user = true
  · obtain ⟨role,member,ecosystem,held⟩ := ecosystemRoleAccess_iff.mp access
    simp only [access,if_true,true_iff]
    exact fun outside => outside.1 role member ecosystem held
  · have nowhere : ∀ role ∈ roles, ∀ ecosystem, ¬HoldsIn user role ecosystem := by
      intro role member ecosystem held
      exact access (ecosystemRoleAccess_iff.mpr ⟨role,member,ecosystem,held⟩)
    simp only [access,Bool.false_eq_true,if_false,namedOrgAccess_ok]
    constructor
    · rintro ⟨named,passed⟩ outside
      exact outside.2 named passed
    · intro inside
      by_contra refused
      exact inside ⟨nowhere,fun named passed => refused ⟨named,passed⟩⟩

theorem roles_ne_nil (handler : Handler) : handler.roles ≠ [] := by
  cases handler <;> simp [Handler.roles]
theorem platformAdmin_not_required {db : Database} {req : Request} {handler : Handler} {ecosystem : String}
    (acts : handler.actsOn db req = some ecosystem) : .platformAdmin ∉ handler.roles := by
  cases handler <;> simp [Handler.roles,Handler.actsOn] at acts ⊢

/-- A route is used as it should be exactly when its user holds one of its roles in the
    ecosystem that it acts on, or nowhere. -/
theorem authorised_iff (platformAdminEmail : Option String) (isValidUUID : String → Bool) (db : Database)
    (handler : Handler) (user : RequestUser) (req : Request) :
    Authorised platformAdminEmail isValidUUID db handler user req ↔
      ∀ ecosystem, handler.actsOn db req = some ecosystem →
        (∃ role ∈ handler.roles, HoldsIn user role ecosystem) ∨ Outsider isValidUUID handler.roles user req := by
  constructor
  · intro authorised ecosystem acts
    by_cases outside : Outsider isValidUUID handler.roles user req
    · exact .inr outside
    · refine .inl (authorised ?_ ecosystem acts)
      exact (canActivate_ok (roles_ne_nil handler) (platformAdmin_not_required acts)).mpr outside
  · intro proper admitted ecosystem acts
    rcases proper ecosystem acts with held | outside
    · exact held
    · exact absurd outside ((canActivate_ok (roles_ne_nil handler) (platformAdmin_not_required acts)).mp admitted)

def twoEcosystems : Database :=
  ⟨fun id => if id = "health" ∨ id = "farming" then some id else none,fun _ => none,fun _ => none,fun _ => none⟩
def farmingLead : RequestUser :=
  ⟨some "1",none,some [],none,some [("cooperative",some ⟨some ["farming"],none⟩)],none⟩
def healthInvitation : Request :=
  ⟨⟨none,none,none,none⟩,⟨none,none,none,none⟩,⟨some "clinic",some "health",none,none⟩⟩

/-- The lead of one ecosystem is admitted to invite into another. -/
theorem foreign_lead_admitted : ¬∀ (platformAdminEmail : Option String) (isValidUUID : String → Bool) (db : Database)
    (handler : Handler) (user : RequestUser) (req : Request),
    Authorised platformAdminEmail isValidUUID db handler user req := by
  intro always
  have authorised := always (some "admin@example.org") uuidRegex twoEcosystems .inviteMemberToEcosystem farmingLead
    healthInvitation
  obtain ⟨role,member,access,eco,entry,given,there,same,held⟩ :=
    authorised (by decide +kernel) "health" (by decide +kernel)
  cases given
  simp only [Handler.roles,List.mem_singleton] at member there
  subst member there
  cases same
  exact absurd held (by decide)

end Ngotag.EcosystemRolesGuard
