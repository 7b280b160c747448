import Mathlib.Data.List.Basic

/-!
How the account of a user is looked up in Keycloak, for a password or for its id. Of the four calls
three pick the record of the requested name; `registerKeycloakUser` compares two records by
position and returns the id of the first (`lookups_exact_iff`).
-/
namespace Ngotag.KeycloakUsers

structure KeycloakUser where
  id : String
  username : Option String

inductive Failure where
  /-- `ResponseMessages.user.error.invalidKeycloakId`, a `NotFoundException` -/
  | invalidKeycloakId
  /-- `username is not valid for a placeholder email` -/
  | username
  /-- `CLOUD_WALLET_EMAIL_DOMAIN is not configured` -/
  | emailDomain
  | typeError
  | request
  deriving DecidableEq

inductive Request where
  | createUser (username : String) (email : String)
  | resetPassword (userid : String) (value : String)
structure Answer where
  keycloakUserId : Option String
  email : Option String
  deriving DecidableEq
structure Outcome where
  result : Except Failure Answer
  requests : List Request

/-- Keycloak's side of a call, and the environment: whether it creates the user, what it answers for a
    user name, and whether it sets a password. -/
structure Keycloak where
  toLowerCase : String → String
  emailDomain : Option String
  creates : Bool
  found : String → Except Failure (List KeycloakUser)
  resets : Bool
structure KeycloakUserRegistrationDto where
  email : String
  username : String
/-- What is read of a `CreateUserDto` for a user with an e-mail. -/
structure EmailUser where
  email : String
  password : String
structure UsernameUser where
  username : String
  email : Option String
  password : String

variable (kc : Keycloak)
/-- `httpPost` of a user; what comes after it. -/
def creating (username email : String) (next : Outcome) : Outcome :=
  if kc.creates then { next with requests := .createUser username email :: next.requests } else ⟨.error .request,[]⟩
/-- `httpGet` of the users of a name; what is done with them. -/
def looking (username : String) (next : List KeycloakUser → Outcome) : Outcome :=
  match kc.found username with
  | .ok users => next users
  | .error failure => ⟨.error failure,[]⟩

/-- The first two records are compared, and the first is taken. -/
def firstOfTwo (email : String) : List KeycloakUser → Outcome
  | [] => ⟨.error .typeError,[]⟩
  | first :: rest =>
    if first.username = some email then ⟨.ok ⟨some first.id,none⟩,[]⟩
    else match rest with
    | [] => ⟨.error .typeError,[]⟩
    | second :: _ =>
      if second.username = some email then ⟨.ok ⟨some first.id,none⟩,[]⟩ else ⟨.error .invalidKeycloakId,[]⟩

def registerKeycloakUser (userDetails : KeycloakUserRegistrationDto) : Outcome :=
  creating kc userDetails.username userDetails.email <| looking kc userDetails.email (firstOfTwo userDetails.email)
def findMatchingKeycloakUser (users : List KeycloakUser) (expectedUsername : String) : Except Failure KeycloakUser :=
  let expected := kc.toLowerCase expectedUsername
  match users.find? fun candidate => candidate.username.map kc.toLowerCase = some expected with
  | some candidate => .ok candidate
  | none => .error .invalidKeycloakId
def matching (users : List KeycloakUser) (expectedUsername : String) (next : String → Outcome) : Outcome :=
  match findMatchingKeycloakUser kc users expectedUsername with
  | .ok candidate => next candidate.id
  | .error failure => ⟨.error failure,[]⟩
def resetPasswordOfKeycloakUser (value userid : String) (answer : Answer) : Outcome :=
  if kc.resets then ⟨.ok answer,[.resetPassword userid value]⟩ else ⟨.error .request,[]⟩
def resetPasswordOfUser (user : EmailUser) : Outcome :=
  looking kc user.email fun users => matching kc users user.email fun userid =>
    resetPasswordOfKeycloakUser kc user.password userid ⟨none,none⟩
def createUser (user : EmailUser) : Outcome :=
  creating kc user.email user.email <| looking kc user.email fun users => matching kc users user.email fun userid =>
    resetPasswordOfKeycloakUser kc user.password userid ⟨some userid,none⟩
/-- `[a-zA-Z0-9._%+-]` -/
def localPart (c : Char) : Bool := c.isAlphanum || c ∈ ['.','_','%','+','-']
def truthy (text : Option String) : Bool := text.any fun s => s ≠ ""

def createUserByUsername (user : UsernameUser) : Outcome :=
  if !truthy user.email && !(user.username ≠ "" && user.username.toList.all localPart) then ⟨.error .username,[]⟩
  else if !truthy user.email && !truthy kc.emailDomain then ⟨.error .emailDomain,[]⟩
  else
    let email :=
      kc.toLowerCase (if truthy user.email then user.email.getD "" else user.username ++ "@" ++ kc.emailDomain.getD "")
    creating kc user.username email <| looking kc user.username fun users =>
      matching kc users user.username fun userid =>
      resetPasswordOfKeycloakUser kc user.password userid ⟨some userid,some email⟩
inductive Call where
  | registerKeycloakUser (userDetails : KeycloakUserRegistrationDto)
  | createUser (user : EmailUser)
  | createUserByUsername (user : UsernameUser)
  | resetPasswordOfUser (user : EmailUser)

def Call.run : Call → Outcome
  | .registerKeycloakUser userDetails => KeycloakUsers.registerKeycloakUser kc userDetails
  | .createUser user => KeycloakUsers.createUser kc user
  | .createUserByUsername user => KeycloakUsers.createUserByUsername kc user
  | .resetPasswordOfUser user => KeycloakUsers.resetPasswordOfUser kc user
def Call.requested : Call → String
  | .registerKeycloakUser userDetails => userDetails.email
  | .createUser user => user.email
  | .createUserByUsername user => user.username
  | .resetPasswordOfUser user => user.email

/-- The call gets to its lookup, which answers these records. -/
def Call.finds (users : List KeycloakUser) : Call → Prop
  | .registerKeycloakUser userDetails => kc.creates = true ∧ kc.found userDetails.email = .ok users
  | .createUser user => kc.creates = true ∧ kc.found user.email = .ok users
  | .createUserByUsername user =>
    (truthy user.email = true ∨ (user.username ≠ "" ∧ user.username.toList.all localPart = true) ∧ truthy kc.emailDomain = true) ∧
      kc.creates = true ∧ kc.found user.username = .ok users
  | .resetPasswordOfUser user => kc.found user.email = .ok users
def Call.carriedOut : Call → Prop
  | .registerKeycloakUser _ => True
  | _ => kc.resets = true
/-- The user name of a record is the requested one, whatever the case of its letters. -/
def Own (requested : String) (user : KeycloakUser) : Prop :=
  ∃ username, user.username = some username ∧ kc.toLowerCase username = kc.toLowerCase requested
/-- The call ends well, with the account of this id: it returns the id, or sets the password of it, or both. -/
def Uses (outcome : Outcome) (id : String) : Call → Prop
  | .registerKeycloakUser _ => outcome.result = .ok ⟨some id,none⟩
  | .createUser user => outcome.result = .ok ⟨some id,none⟩ ∧ .resetPassword id user.password ∈ outcome.requests
  | .createUserByUsername user =>
    (∃ email, outcome.result = .ok ⟨some id,some email⟩) ∧ .resetPassword id user.password ∈ outcome.requests
  | .resetPasswordOfUser user => outcome.result = .ok ⟨none,none⟩ ∧ .resetPassword id user.password ∈ outcome.requests
/-- An end that acts only on records of the requested name, and on one where there is one. -/
structure Right (call : Call) (users : List KeycloakUser) (outcome : Outcome) : Prop where
  returned : ∀ answer id, outcome.result = .ok answer → answer.keycloakUserId = some id →
    ∃ user ∈ users, Own kc call.requested user ∧ user.id = id
  passwords : ∀ id value, .resetPassword id value ∈ outcome.requests → ∃ user ∈ users,
      Own kc call.requested user ∧ user.id = id
  used : call.carriedOut kc → (∃ user ∈ users, Own kc call.requested user) →
    ∃ user ∈ users, Own kc call.requested user ∧ Uses outcome user.id call
  absent : (¬∃ user ∈ users, Own kc call.requested user) →
    outcome.result = .error .invalidKeycloakId ∧ ∀ id value, .resetPassword id value ∉ outcome.requests
/-- A failure, with no password set. -/
def Unserved (outcome : Outcome) : Prop :=
  (∃ failure, outcome.result = .error failure) ∧ ∀ id value, .resetPassword id value ∉ outcome.requests
/-- The call does right by the records that it finds, and does nothing without any. -/
structure Exact (call : Call) : Prop where
  records : ∀ users, call.finds kc users → Right kc call users (call.run kc)
  without : (∀ users, ¬call.finds kc users) → Unserved (call.run kc)

/-- The records that `registerKeycloakUser` treats as it should: the first has exactly the e-mail as its user
    name; or the second has, and the first is a record of the same account; or there are two, and none
    has the e-mail in whatever letters. -/
def RegisterSuits (email : String) : List KeycloakUser → Prop
  | [] => False
  | [first] => first.username = some email
  | first :: second :: rest =>
    if first.username = some email then True
    else if second.username = some email then ∃ user ∈ first :: second :: rest, Own kc email user ∧ user.id = first.id
    else ¬∃ user ∈ first :: second :: rest, Own kc email user

def Suits : Call → Prop
  | .registerKeycloakUser userDetails =>
    ∀ users, (Call.registerKeycloakUser userDetails).finds kc users → RegisterSuits kc userDetails.email users
  | _ => True

section
variable {kc} {call : Call} {users : List KeycloakUser} {requested : String}

theorem matching_cases (next : String → Outcome) :
    (∃ user ∈ users, Own kc requested user ∧ matching kc users requested next = next user.id) ∨
      (¬∃ user ∈ users, Own kc requested user) ∧ matching kc users requested next = ⟨.error .invalidKeycloakId,[]⟩ := by
  have own (user : KeycloakUser) : user.username.map kc.toLowerCase = some (kc.toLowerCase requested) ↔
      Own kc requested user :=
    Option.map_eq_some_iff
  cases found : users.find? fun candidate => candidate.username.map kc.toLowerCase = some (kc.toLowerCase requested) with
  | some user =>
    left
    have fits := List.find?_some found
    refine ⟨user,List.mem_of_find?_eq_some found,(own user).mp (of_decide_eq_true fits),?_⟩
    simp only [matching,findMatchingKeycloakUser,found]
  | none =>
    right
    refine ⟨?_,by simp only [matching,findMatchingKeycloakUser,found]⟩
    rintro ⟨user,there,mine⟩
    exact List.find?_eq_none.mp found user there (decide_eq_true ((own user).mpr mine))

def Call.act (kc : Keycloak) (users : List KeycloakUser) : Call → Outcome
  | .registerKeycloakUser userDetails => firstOfTwo userDetails.email users
  | .createUser user =>
    matching kc users user.email fun userid => resetPasswordOfKeycloakUser kc user.password userid ⟨some userid,none⟩
  | .createUserByUsername user =>
    matching kc users user.username fun userid => resetPasswordOfKeycloakUser kc user.password userid ⟨some userid,
      some (kc.toLowerCase (if truthy user.email then user.email.getD "" else user.username ++ "@" ++ kc.emailDomain.getD ""))⟩
  | .resetPasswordOfUser user =>
    matching kc users user.email fun userid => resetPasswordOfKeycloakUser kc user.password userid ⟨none,none⟩
structure Same (a b : Outcome) : Prop where
  result : a.result = b.result
  resets : ∀ id value, .resetPassword id value ∈ a.requests ↔ .resetPassword id value ∈ b.requests
theorem same_creating {username email : String} {next : Outcome} (creates : kc.creates = true) :
    Same (creating kc username email next) next := by
  rw [creating,if_pos creates]
  exact ⟨rfl,fun id value => by simp⟩

variable {next : List KeycloakUser → Outcome}
theorem looking_found {username : String} (found : kc.found username = .ok users) :
    looking kc username next = next users := by
  rw [looking,found]

theorem run_found (finds : call.finds kc users) : Same (call.run kc) (call.act kc users) := by
  cases call with
  | registerKeycloakUser userDetails =>
    obtain ⟨creates,found⟩ := finds
    rw [Call.run,registerKeycloakUser,looking_found found]
    exact same_creating creates
  | createUser user =>
    obtain ⟨creates,found⟩ := finds
    rw [Call.run,createUser,looking_found found]
    exact same_creating creates
  | createUserByUsername user =>
    obtain ⟨checked,creates,found⟩ := finds
    have named : ¬(!truthy user.email && !(user.username ≠ "" && user.username.toList.all localPart)) = true := by
      rcases checked with given | ⟨⟨nonempty,safe⟩,-⟩
      · simp [given]
      · simp [nonempty,safe]
    have configured : ¬(!truthy user.email && !truthy kc.emailDomain) = true := by
      rcases checked with given | ⟨-,domain⟩
      · simp [given]
      · simp [domain]
    rw [Call.run,createUserByUsername,if_neg named,if_neg configured]
    dsimp only
    rw [looking_found found]
    exact same_creating creates
  | resetPasswordOfUser user =>
    rw [Call.run,resetPasswordOfUser,looking_found finds]
    exact ⟨rfl,fun _ _ => Iff.rfl⟩

theorem unserved_creating {username email : String} {next : Outcome} (unserved : kc.creates = true → Unserved next) :
    Unserved (creating kc username email next) := by
  by_cases creates : kc.creates = true
  · have same : Same (creating kc username email next) next := same_creating creates
    obtain ⟨⟨failure,failed⟩,none_⟩ := unserved creates
    exact ⟨⟨failure,same.result.trans failed⟩,fun id value there => none_ id value ((same.resets id value).mp there)⟩
  · rw [creating,if_neg creates]
    exact ⟨⟨_,rfl⟩,fun _ _ => List.not_mem_nil⟩
theorem unserved_looking {username : String} (none_ : ∀ users, kc.found username ≠ .ok users) :
    Unserved (looking kc username next) := by
  rw [looking]
  cases found : kc.found username with
  | ok users => exact absurd found (none_ users)
  | error failure => exact ⟨⟨_,rfl⟩,fun _ _ => List.not_mem_nil⟩

theorem run_unserved (none_ : ∀ users, ¬call.finds kc users) : Unserved (call.run kc) := by
  cases call with
  | registerKeycloakUser userDetails =>
    exact unserved_creating fun creates => unserved_looking fun users found => none_ users ⟨creates,found⟩
  | createUser user =>
    exact unserved_creating fun creates => unserved_looking fun users found => none_ users ⟨creates,found⟩
  | createUserByUsername user =>
    rw [Call.run,createUserByUsername]
    split
    · exact ⟨⟨_,rfl⟩,fun _ _ => List.not_mem_nil⟩
    · next named =>
      split
      · exact ⟨⟨_,rfl⟩,fun _ _ => List.not_mem_nil⟩
      · next configured =>
        refine unserved_creating fun creates => unserved_looking fun users found => none_ users ⟨?_,creates,found⟩
        by_cases given : truthy user.email = true
        · exact .inl given
        · right
          simpa [given] using And.intro named configured
  | resetPasswordOfUser user => exact unserved_looking none_

theorem uses_same {a b : Outcome} {id : String} (same : Same a b) : Uses a id call ↔ Uses b id call := by
  cases call with
  | registerKeycloakUser _ => exact ⟨fun is => same.result.symm.trans is,fun is => same.result.trans is⟩
  | createUser _ | createUserByUsername _ | resetPasswordOfUser _ =>
    simp only [Uses,same.result,same.resets]
theorem right_same {a b : Outcome} (same : Same a b) : Right kc call users a ↔ Right kc call users b := by
  have each {a b : Outcome} (same : Same a b) (right : Right kc call users a) : Right kc call users b := by
    refine ⟨fun answer id is => right.returned answer id (same.result.trans is),
      fun id value there => right.passwords id value ((same.resets id value).mpr there),fun resets own =>
      ?_,fun none_ => ?_⟩
    · obtain ⟨user,there,mine,uses⟩ := right.used resets own
      exact ⟨user,there,mine,(uses_same same).mp uses⟩
    · obtain ⟨failed,unset⟩ := right.absent none_
      exact ⟨same.result.symm.trans failed,fun id value there => unset id value ((same.resets id value).mpr there)⟩
  exact ⟨each same,each ⟨same.result.symm,fun id value => (same.resets id value).symm⟩⟩
theorem exact_iff : Exact kc call ↔ ∀ users, call.finds kc users → Right kc call users (call.act kc users) :=
  ⟨fun exact_ users finds => (right_same (run_found finds)).mp (exact_.records users finds),
    fun right => ⟨fun users finds => (right_same (run_found finds)).mpr (right users finds),run_unserved⟩⟩

theorem right_matching (call : Call) (password : String) (answer : String → Answer)
    (carriedOut : call.carriedOut kc → kc.resets = true)
    (answers : ∀ userid id, (answer userid).keycloakUserId = some id → id = userid)
    (uses : ∀ userid, Uses ⟨.ok (answer userid),[.resetPassword userid password]⟩ userid call) :
    Right kc call users (matching kc users call.requested fun userid =>
      resetPasswordOfKeycloakUser kc password userid (answer userid)) := by
  rcases matching_cases (fun userid => resetPasswordOfKeycloakUser kc password userid (answer userid)) with
    ⟨user,there,mine,acts⟩ | ⟨none_,acts⟩
  · rw [acts,resetPasswordOfKeycloakUser]
    by_cases resets : kc.resets = true
    · rw [if_pos resets]
      refine ⟨fun given id is returned => ?_,fun id value set => ?_,fun _ _ => ⟨user,there,mine,uses user.id⟩,
        fun none_ => absurd ⟨user,there,mine⟩ none_⟩
      · obtain rfl := Except.ok.inj is
        exact ⟨user,there,mine,(answers user.id id returned).symm⟩
      · obtain ⟨rfl,-⟩ := Request.resetPassword.inj (List.mem_singleton.mp set)
        exact ⟨user,there,mine,rfl⟩
    · rw [if_neg resets]
      exact ⟨nofun,nofun,fun does => absurd (carriedOut does) resets,fun none_ => absurd ⟨user,there,mine⟩ none_⟩
  · rw [acts]
    exact ⟨nofun,nofun,fun _ own => absurd own none_,fun _ => ⟨rfl,nofun⟩⟩

variable {userDetails : KeycloakUserRegistrationDto}
theorem right_register {outcome : Outcome} (unset : ∀ id value, .resetPassword id value ∉ outcome.requests) :
    Right kc (.registerKeycloakUser userDetails) users outcome ↔
      (∃ user ∈ users, Own kc userDetails.email user ∧ outcome.result = .ok ⟨some user.id,none⟩) ∨
        (¬∃ user ∈ users, Own kc userDetails.email user) ∧ outcome.result = .error .invalidKeycloakId := by
  constructor
  · intro right
    by_cases own : ∃ user ∈ users, Own kc userDetails.email user
    · exact .inl (right.used trivial own)
    · exact .inr ⟨own,(right.absent own).1⟩
  · rintro (⟨user,there,mine,is⟩ | ⟨none_,is⟩)
    · refine ⟨fun answer id given returned => ?_,fun id value set => absurd set (unset id value),
        fun _ _ => ⟨user,there,mine,is⟩,fun none_ => absurd ⟨user,there,mine⟩ none_⟩
      obtain rfl := Except.ok.inj (is.symm.trans given)
      exact ⟨user,there,mine,Option.some.inj returned⟩
    · exact ⟨fun _ _ given => (nomatch is.symm.trans given),fun id value set => absurd set (unset id value),
        fun _ own => absurd own none_,fun _ => ⟨is,unset⟩⟩

theorem own_exactly {user : KeycloakUser} (same : user.username = some requested) :
    Own kc requested user := ⟨requested,same,rfl⟩

theorem right_firstOfTwo :
    Right kc (.registerKeycloakUser userDetails) users (firstOfTwo userDetails.email users) ↔
      RegisterSuits kc userDetails.email users := by
  have unset (id value : String) : .resetPassword id value ∉ (firstOfTwo userDetails.email users).requests := by
    unfold firstOfTwo
    repeat' split
    all_goals exact List.not_mem_nil
  rw [right_register unset]
  have taken {first : KeycloakUser} {users : List KeycloakUser} :
      ((∃ user ∈ users, Own kc userDetails.email user ∧ (.ok ⟨some first.id,none⟩ : Except Failure Answer) = .ok ⟨some user.id,none⟩) ∨
        (¬∃ user ∈ users, Own kc userDetails.email user) ∧ (.ok ⟨some first.id,none⟩ : Except Failure Answer) =
        .error .invalidKeycloakId) ↔
      ∃ user ∈ users, Own kc userDetails.email user ∧ user.id = first.id := by
    simp [eq_comm]
  match users with
  | [] => simp [firstOfTwo,RegisterSuits]
  | [first] =>
    by_cases same : first.username = some userDetails.email
    · simp only [firstOfTwo,RegisterSuits,same,if_true,iff_true]
      exact .inl ⟨first,List.mem_cons_self,own_exactly same,rfl⟩
    · simp [firstOfTwo,RegisterSuits,same]
  | first :: second :: rest =>
    by_cases same : first.username = some userDetails.email
    · simp only [firstOfTwo,RegisterSuits,same,if_true,iff_true]
      exact .inl ⟨first,List.mem_cons_self,own_exactly same,rfl⟩
    · by_cases next : second.username = some userDetails.email
      · simp only [firstOfTwo,RegisterSuits,same,next,if_false,if_true]
        exact taken
      · simp only [firstOfTwo,RegisterSuits,same,next,if_false]
        simp

end

/-- A call acts only on the requested account exactly where `registerKeycloakUser` finds a list that it treats right. -/
theorem lookups_exact_iff (kc : Keycloak) (call : Call) : Exact kc call ↔ Suits kc call := by
  rw [exact_iff]
  cases call with
  | registerKeycloakUser userDetails => exact forall₂_congr fun users finds => right_firstOfTwo
  | createUser user =>
    refine iff_of_true (fun users finds => ?_) trivial
    exact right_matching (.createUser user) user.password (⟨some ·,none⟩) id (fun _ _ is => (Option.some.inj is).symm)
      fun userid => ⟨rfl,List.mem_singleton_self _⟩
  | createUserByUsername user =>
    refine iff_of_true (fun users finds => ?_) trivial
    exact right_matching (.createUserByUsername user) user.password (⟨some ·,some _⟩) id
      (fun _ _ is => (Option.some.inj is).symm) fun userid => ⟨⟨_,rfl⟩,List.mem_singleton_self _⟩
  | resetPasswordOfUser user =>
    refine iff_of_true (fun users finds => ?_) trivial
    exact right_matching (.resetPasswordOfUser user) user.password (fun _ => ⟨none,none⟩) id (fun _ _ is => nomatch is)
      fun userid => ⟨rfl,List.mem_singleton_self _⟩

def twoAccounts : Keycloak where
  toLowerCase := String.toLower
  emailDomain := none
  creates := true
  found _ := .ok [⟨"victim-id",some "someone-else@example.com"⟩,⟨"correct-id",some "alice@example.com"⟩]
  resets := true

/-- The id of the first record is returned where the second is the user's. -/
theorem first_account_returned : ¬∀ (kc : Keycloak) (call : Call), Exact kc call := by
  intro every
  have right := (every twoAccounts (.registerKeycloakUser ⟨"alice@example.com","alice@example.com"⟩)).records _ ⟨rfl,rfl⟩
  obtain ⟨user,there,mine,same⟩ := right.returned ⟨some "victim-id",none⟩ "victim-id" (by decide +kernel) rfl
  obtain ⟨name,named,lower⟩ := mine
  simp only [List.mem_cons,List.not_mem_nil,or_false] at there
  rcases there with rfl | rfl
  · obtain rfl := Option.some.inj named
    exact absurd lower (by decide +kernel)
  · exact absurd same (by decide)

end Ngotag.KeycloakUsers
