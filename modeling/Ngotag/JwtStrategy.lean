import Mathlib.Data.List.Infix
import Mathlib.Data.List.AList
import Mathlib.Logic.Basic

/-!
`JwtStrategy`: which key a bearer token is verified with, and which user the
request gets. The key is fetched from the URL that the token itself names as its
issuer. So a token that the realm has not signed is kept out exactly when it names
the realm's own issuer, or would be refused under any key (`authentic_iff`), and
whoever serves keys elsewhere can be anybody (`foreign_issuer_accepted`). A signature is idealised: it verifies with
the key it was made with and no other.
-/
namespace Ngotag.JwtStrategy

inductive OrgRoles where
  | owner
  | superAdmin
  | admin
  | issuer
  | verifier
  | holder
  | member
  | platformAdmin
  | ecosystemLead
  | ecosystemMember
  deriving DecidableEq

def OrgRoles.name : OrgRoles → String
  | .owner => "owner"
  | .superAdmin => "super_admin"
  | .admin => "admin"
  | .issuer => "issuer"
  | .verifier => "verifier"
  | .holder => "holder"
  | .member => "member"
  | .platformAdmin => "platform_admin"
  | .ecosystemLead => "Ecosystem Lead"
  | .ecosystemMember => "Ecosystem Member"

structure UserOrgRole where
  orgId : Option String
  orgRole : String
/-- `ecosystem_role` of an entry of the `ecosystem_access` claim: the ecosystems that
    are led, and those of which one is a member. -/
structure EcosystemRole where
  lead : Option (List String)
  member : Option (List String)
/-- The `ecosystem_access` claim: by organisation, where the entry has an
    `ecosystem_role`. -/
abbrev EcosystemAccess := List (String × Option EcosystemRole)
/-- The `resource_access` claim: the `roles` of a client, which may be missing. -/
abbrev ResourceAccess := AList fun _ : String => Option (List String)

structure JwtPayload where
  iss : Option String
  sub : Option String
  sid : Option String
  clientId : Option String
  email : Option String
  resourceAccess : Option ResourceAccess
  ecosystemAccess : Option EcosystemAccess
  /-- A claim of this name, which takes the place of the rows of the database. -/
  userOrgRoles : Option (List UserOrgRole)

structure UserDetails where
  id : String
  email : Option String
  userOrgRoles : List UserOrgRole
  userRoleMapping : List String
/-- `request.user`. What is absent was neither looked up nor a claim. -/
structure RequestUser where
  id : Option String
  email : Option String
  userOrgRoles : Option (List UserOrgRole)
  resourceAccess : Option ResourceAccess
  ecosystemAccess : Option EcosystemAccess
  userRole : Option String
/-- The services asked by `validate`; none where the answer is empty or an
    exception. -/
structure Services where
  checkSession : String → Bool
  /-- The owners of an organisation, each with the row that makes it one. -/
  findOrganizationOwner : String → Option (List (UserDetails × UserOrgRole))
  findUserinKeycloak : Option String → Option UserDetails
inductive Failure where
  /-- `ResponseMessages.user.error.invalidAccessToken` -/
  | invalidAccessToken
  /-- `ResponseMessages.organisation.error.orgNotFound` -/
  | orgNotFound
  /-- `ResponseMessages.user.error.notFound` -/
  | userNotFound
  | typeError
def hexDigit (c : Char) : Bool := c.isDigit || ('a' ≤ c && c ≤ 'f') || ('A' ≤ c && c ≤ 'F')
/-- `/^[0-9a-f]{8}-[0-9a-f]{4}-[0-9a-f]{4}-[0-9a-f]{4}-[0-9a-f]{12}$/i` -/
def uuidRegex (text : String) : Bool :=
  let groups := text.toList.splitOn '-'
  groups.map List.length = [8,4,4,4,12] && groups.all fun group => group.all hexDigit
def USER_HOLDER_ROLE : String := "holder"

def lookup (services : Services) (payload : JwtPayload) : Except Failure (Option UserDetails) :=
  match payload.clientId with
  | none =>
    match services.findUserinKeycloak payload.sub with
    | none => .error .userNotFound
    | some details => .ok (some details)
  | some clientId =>
    if uuidRegex clientId then
      match services.findOrganizationOwner clientId with
      | none => .error .orgNotFound
      | some [] => .error .typeError
      | some (owner :: _) => .ok (some { owner.1 with userOrgRoles := [owner.2] })
    else .ok none

def isHolder (details : Option UserDetails) : Bool := details.any fun user => user.userRoleMapping.any (· = "HOLDER")
/-- `{ ...userForRequest, ...payload, userRole }` -/
def requestUser (details : Option UserDetails) (payload : JwtPayload) : RequestUser where
  id := details.map UserDetails.id
  email := payload.email.or (details.bind UserDetails.email)
  userOrgRoles := payload.userOrgRoles.or (details.map UserDetails.userOrgRoles)
  resourceAccess := payload.resourceAccess
  ecosystemAccess := payload.ecosystemAccess
  userRole := if isHolder details then some USER_HOLDER_ROLE else none
def sessionMissing (services : Services) (payload : JwtPayload) : Bool :=
  (payload.sid.filter (· ≠ "")).any fun sid => !services.checkSession sid
def validate (services : Services) (payload : JwtPayload) : Except Failure RequestUser :=
  if sessionMissing services payload then .error .invalidAccessToken
  else (lookup services payload).map fun details => requestUser details payload
/-- A token that can be decoded. `signer` is the key its signature was made with. -/
structure Token (Key : Type) where
  kid : Option String
  algorithm : String
  expired : Bool
  payload : JwtPayload
  signer : Key
def URL_KEYCLOAK_JWKS : String := "/protocol/openid-connect/certs"
abbrev Web (Key : Type) := String → Option String → Option Key

section
variable {Key : Type}

/-- `secretOrKeyProvider`: without an issuer it throws. -/
def secretOrKeyProvider (web : Web Key) (token : Token Key) : Option Key :=
  token.payload.iss.bind fun iss => web (iss ++ URL_KEYCLOAK_JWKS) token.kid

variable [DecidableEq Key]
def verifies (token : Token Key) (key : Key) : Bool :=
  token.algorithm = "RS256" && !token.expired && token.signer = key
/-- The user that a request with the token gets; none for one that is refused. -/
def authenticate (web : Web Key) (services : Services) (bearer : Option (Token Key)) : Option RequestUser :=
  bearer.bind fun token => (secretOrKeyProvider web token).bind fun key =>
    if verifies token key then (validate services token.payload).toOption else none
/-- A token that is accepted was signed by the realm. -/
def Authentic (realm : Key → Prop) (web : Web Key) (services : Services) (bearer : Option (Token Key)) : Prop :=
  ∀ token user, bearer = some token → authenticate web services bearer = some user → realm token.signer
/-- Nobody but the realm serves keys under its issuer. What is served under any other URL is up to whoever runs it. -/
def Serves (realm : Key → Prop) (issuer : String) (web : Web Key) : Prop :=
  ∀ kid key, web (issuer ++ URL_KEYCLOAK_JWKS) kid = some key → realm key
/-- No key whatever gets the token accepted. -/
def Refused (services : Services) (token : Token Key) : Prop :=
  token.algorithm ≠ "RS256" ∨ token.expired = true ∨ (validate services token.payload).isOk = false
/-- A token that the realm has not signed says that the realm issued it, or names no issuer, or is refused anyway. -/
def NamesRealm (realm : Key → Prop) (issuer : String) (services : Services) (token : Token Key) : Prop :=
  ¬realm token.signer → token.payload.iss = some issuer ∨ token.payload.iss = none ∨ Refused services token

theorem authenticate_spec {web : Web Key} {services : Services} {token : Token Key} {user : RequestUser} :
    authenticate web services (some token) = some user ↔
      ∃ iss key, token.payload.iss = some iss ∧ web (iss ++ URL_KEYCLOAK_JWKS) token.kid = some key ∧
        verifies token key = true ∧ validate services token.payload = .ok user := by
  simp only [authenticate,secretOrKeyProvider,Option.bind_some,Option.bind_eq_some_iff]
  constructor
  · rintro ⟨key,⟨iss,named,served⟩,accepted⟩
    split at accepted
    · rename_i good
      cases valid : validate services token.payload with
      | error error => rw [valid] at accepted; cases accepted
      | ok value => rw [valid] at accepted; cases accepted; exact ⟨iss,key,named,served,good,rfl⟩
    · cases accepted
  · rintro ⟨iss,key,named,served,good,valid⟩
    exact ⟨key,⟨iss,named,served⟩,by rw [if_pos good,valid]; rfl⟩

theorem verifies_iff {token : Token Key} {key : Key} :
    verifies token key = true ↔ token.algorithm = "RS256" ∧ token.expired = false ∧ token.signer = key := by
  simp only [verifies,Bool.and_eq_true,decide_eq_true_eq,Bool.not_eq_true',and_assoc]
/-- A token that the realm has not signed gets no user where it names the realm: the key it would have to be verified
    with is the realm's. -/
theorem refused_named {realm : Key → Prop} {issuer : String} {web : Web Key} {services : Services} {token : Token Key}
    {user : RequestUser} (serves : Serves realm issuer web) (named : token.payload.iss = some issuer)
    (accepted : authenticate web services (some token) = some user) : realm token.signer := by
  obtain ⟨iss,key,names,served,good,-⟩ := authenticate_spec.mp accepted
  rw [named,Option.some.injEq] at names
  subst names
  exact (verifies_iff.mp good).2.2 ▸ serves _ _ served
/-- The web of somebody who serves his own key under every URL but the realm's. -/
def forgers (issuer : String) (key : Key) : Web Key := fun url _ =>
  if url = issuer ++ URL_KEYCLOAK_JWKS then none else some key
theorem forged_accepted {issuer iss : String} {services : Services} {token : Token Key}
    (named : token.payload.iss = some iss) (other : iss ≠ issuer) (open_ : ¬Refused services token) :
    ∃ user, authenticate (forgers issuer token.signer) services (some token) = some user := by
  simp only [Refused,not_or,not_not,Bool.not_eq_true,Bool.not_eq_false] at open_
  obtain ⟨algorithm,expired,valid⟩ := open_
  cases admitted : validate services token.payload with
  | error error => rw [admitted] at valid; cases valid
  | ok user =>
    refine ⟨user,authenticate_spec.mpr ⟨iss,token.signer,named,if_neg fun same => ?_,?_,admitted⟩⟩
    · exact other (String.append_left_inj _ |>.mp same)
    · exact verifies_iff.mpr ⟨algorithm,expired,rfl⟩

/-- A token is accepted as the realm's only, whatever the URLs beside the realm's serve, exactly when the realm has
    signed it, or it names the realm as its issuer, or none, or is refused for its algorithm, age or payload. -/
theorem authentic_iff (realm : Key → Prop) (issuer : String) (services : Services) (bearer : Option (Token Key)) :
    (∀ web, Serves realm issuer web → Authentic realm web services bearer) ↔
      ∀ token, bearer = some token → NamesRealm realm issuer services token := by
  constructor
  · rintro authentic token rfl foreign
    by_contra wild
    simp only [not_or] at wild
    obtain ⟨other,some_,open_⟩ := wild
    obtain ⟨iss,named⟩ := Option.ne_none_iff_exists'.mp some_
    have apart : iss ≠ issuer := fun same => other (same ▸ named)
    obtain ⟨user,accepted⟩ := forged_accepted named apart open_
    have serves : Serves realm issuer (forgers issuer token.signer) := by
      intro kid key served
      rw [forgers,if_pos rfl] at served
      cases served
    exact foreign (authentic _ serves token user rfl accepted)
  · rintro names web serves token user rfl accepted
    by_contra foreign
    rcases names token rfl foreign with named | none_ | refused
    · exact foreign (refused_named serves named accepted)
    all_goals obtain ⟨iss,key,named,-,good,valid⟩ := authenticate_spec.mp accepted
    · rw [none_] at named
      cases named
    · obtain ⟨algorithm,expired,-⟩ := verifies_iff.mp good
      rcases refused with other | old | invalid
      · exact other algorithm
      · rw [expired] at old
        cases old
      · rw [valid] at invalid
        cases invalid

end

/-- The realm has the key 1, the attacker serves the key 2. -/
def openWeb : Web Nat :=
  fun url _ => if url = "https://sso.example/realms/main" ++ URL_KEYCLOAK_JWKS then some 1 else some 2
def victimOnly : Services :=
  ⟨fun _ => true,fun _ => none,fun sub => if sub = some "victim" then some ⟨"7",none,[],[]⟩ else none⟩
def forged : Token Nat :=
  ⟨some "k","RS256",false,⟨some "https://attacker.example",some "victim",none,none,none,none,none,none⟩,2⟩

/-- A token that the attacker signed makes its bearer the user it names. -/
theorem foreign_issuer_accepted : ¬∀ (realm : Nat → Prop) (web : Web Nat) (services : Services) (issuer : String)
    (bearer : Option (Token Nat)), Serves realm issuer web → Authentic realm web services bearer := by
  intro always
  have authentic := always (· = 1) openWeb victimOnly "https://sso.example/realms/main" (some forged) (by
    rintro kid key served
    exact (Option.some.inj served).symm)
  have accepted : ((authenticate openWeb victimOnly (some forged)).map RequestUser.id) = some (some "7") := by
    decide +kernel
  obtain ⟨user,admitted,-⟩ := Option.map_eq_some_iff.mp accepted
  exact absurd (authentic forged user rfl admitted) (by decide)

end Ngotag.JwtStrategy
