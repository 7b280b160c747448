import Mathlib.Data.List.DropRight
import Ngotag.Runs

/-!
Sign-in by e-mail, by username and by passkey. Tokens are to be had only by who
shows the password or a device of the account, and a device is to be added only by
who did so before. The username sign-in takes a flag from the client that replaces
the password by the stored one, and the registration of a device asks for nothing.
Without these two uses every run is proper, and only without them (`possession_iff`).
-/
namespace Ngotag.PasskeyLogin
open Runs

/-- A row of `user`. The password is stored encrypted. -/
structure User where
  id : Nat
  email : Option String
  username : Option String
  isEmailVerified : Bool
  isFidoVerified : Bool
  keycloakUserId : Option String
  fidoUserId : Option String
  password : Option String

structure NewDevice where
  credentialID : String
  publicKey : String
  deriving DecidableEq
/-- A row of `user_devices`; deleted where `deletedAt` is set. -/
structure Device where
  userId : Nat
  devices : NewDevice
  credentialId : Option String
  deleted : Bool
  authCounter : Nat
  deriving DecidableEq
/-- The body of a passkey sign-in: the credential it names and the signed response. -/
structure Assertion where
  id : String
  response : String
  deriving DecidableEq
/-- The body of `/auth/signin`. -/
structure LoginUserDto where
  email : String
  password : String
  isPasswordEncrypted : Bool
/-- The body of `/auth/username/signin`. -/
structure LoginUserNameDto where
  username : String
  password : String
  isPasskey : Option Bool

/-- What the platform asks others for, and its configuration. -/
structure Services where
  toLowerCase : String → String
  isEmail : String → Bool
  dataEncryption : String → String
  /-- None where it throws. -/
  decryptPassword : String → Option String
  /-- Whether Keycloak accepts a password for a login name. -/
  getUserToken : String → String → Bool
  /-- Whether an assertion was made by a device, for the challenge it answers. -/
  verifies : Assertion → NewDevice → Bool
  /-- None for what is no number. -/
  SESSIONS_LIMIT : Option Nat

/-- What the others answer during one call. -/
structure Answers where
  fidoUserId : Option String
  newDevice : Option NewDevice
  verified : Bool
  sessions : Nat
  /-- Whether the tokens can be read and the session is stored. -/
  stored : Bool
inductive Call where
  | generateRegistration (email : String) (deviceFlag : Option Bool)
  | verifyRegistration (email : String)
  /-- `picked` is the row that the database finds first. -/
  | updateFidoUser (credentialId : String) (picked : Nat)
  | verifyAuthentication (email : String) (assertion : Assertion)
  | deleteFidoUserDevice (credentialId : String)
  | login (dto : LoginUserDto)
  | usernameLogin (dto : LoginUserNameDto)
structure Action where
  caller : Nat
  call : Call
  answers : Answers
inductive Entry where
  /-- Tokens for an account, to a request with these credentials, when these devices
      were registered. `name` is the login name that the request gives the account. -/
  | token (caller : Nat) (account : Nat) (name : String) (password : Option String) (assertion : Option Assertion)
      (devices : List Device)
  | device (caller : Nat) (account : Nat)
  deriving DecidableEq
structure World where
  users : List User
  devices : List Device
  /-- The latest first. -/
  log : List Entry
def checkUserExist (w : World) (email : String) : Option User := w.users.find? (·.email = some email)
def checkUserExistByUsername (w : World) (username : String) : Option User := w.users.find? (·.username = some username)
/-- `prisma.user.update` of the row with an e-mail. -/
def updateUserDetails (w : World) (email : String) (update : User → User) : World :=
  { w with users := w.users.map fun user => if user.email = some email then update user else user }

section
variable (svc : Services)

def limitReached (answers : Answers) : Bool := svc.SESSIONS_LIMIT.any fun limit => limit ≤ answers.sessions
/-- The password can be decrypted, and Keycloak accepts it. -/
def accepted (name : String) (password : Option String) : Bool :=
  (password.bind svc.decryptPassword).any fun decrypted => svc.getUserToken name decrypted
/-- Whether the stored password is used. -/
def passwordless (userData : User) (isPasskey : Bool) : Bool :=
  isPasskey && userData.username.any (· ≠ "") && userData.isFidoVerified
/-- What both sign-ins do with the row. Without a `keycloakUserId` the tokens have no
    refresh token, which is an exception. -/
def signIn (answers : Answers) (name : String) (userData : User) (stored password : Option String) (isPasskey : Bool) :
    Option User :=
  if isPasskey && !userData.isFidoVerified then none
  else if limitReached svc answers then none
  else if accepted svc name (if passwordless userData isPasskey then stored else password) &&
      userData.keycloakUserId.any (· ≠ "") && answers.stored then some userData
  else none

/-- `UserService.login`: the account whose tokens are returned. -/
def loginUser (w : World) (answers : Answers) (email : String) (password : Option String) (isPasskey : Bool) :
    Option User :=
  if svc.isEmail (svc.toLowerCase (svc.toLowerCase email)) then
    (checkUserExist w (svc.toLowerCase email)).bind fun userData =>
      if userData.isEmailVerified then
        let stored := (userData.email.bind fun own => checkUserExist w (svc.toLowerCase own)).bind User.password
        signIn svc answers (svc.toLowerCase email) userData stored password isPasskey
      else none
  else none

/-- `UserService.usernameLogin` -/
def usernameLoginUser (w : World) (answers : Answers) (username : String) (password : Option String)
    (isPasskey : Bool) : Option User :=
  (checkUserExistByUsername w (svc.toLowerCase username)).bind fun userData =>
    signIn svc answers username userData userData.password password isPasskey
def grant (w : World) (devices : List Device) (caller : Nat) (name : String) (password : Option String)
    (assertion : Option Assertion) (granted : Option User) : World :=
  { w with log := (granted.map fun user => Entry.token caller user.id name password assertion devices).toList ++ w.log }
/-- The password as the e-mail sign-in passes it on. -/
def sentPassword (dto : LoginUserDto) : String :=
  if !dto.isPasswordEncrypted && dto.password ≠ "" then svc.dataEncryption dto.password else dto.password
/-- The route `/auth/signin`, which has no passkey flag. -/
def login (w : World) (caller : Nat) (answers : Answers) (dto : LoginUserDto) : World :=
  if dto.email = "" then w
  else grant w w.devices caller (svc.toLowerCase dto.email) (some (sentPassword svc dto)) none
    (loginUser svc w answers dto.email (some (sentPassword svc dto)) false)
/-- The route `/auth/username/signin`, which passes the flag of the body on. -/
def usernameLogin (w : World) (caller : Nat) (answers : Answers) (dto : LoginUserNameDto) : World :=
  if dto.username = "" then w
  else grant w w.devices caller dto.username (some dto.password) none
    (usernameLoginUser svc w answers dto.username (some dto.password) (dto.isPasskey.getD false))

/-- The options, kept as the user's `fidoUserId`. The second update of each call is
    never applied, because only the first element of its list is read. -/
def generateRegistration (w : World) (answers : Answers) (email : String) (deviceFlag : Option Bool) : World :=
  ((checkUserExist w (svc.toLowerCase email)).bind fun fidoUser => answers.fidoUserId.map fun fidoUserId =>
    if deviceFlag.isSome || !fidoUser.isFidoVerified then
      updateUserDetails w (svc.toLowerCase email) fun user => { user with fidoUserId := some fidoUserId }
    else w).getD w
def newRow (userId : Nat) (newDevice : NewDevice) : Device where
  userId := userId
  devices := { newDevice with credentialID := String.ofList (newDevice.credentialID.toList.rdropWhile (· = '=')) }
  credentialId := none
  deleted := false
  authCounter := 0
def addDevice (w : World) (caller : Nat) (email : String) (newDevice : NewDevice) (user : User) : World :=
  let updated := updateUserDetails w email fun user => { user with isFidoVerified := true }
  { updated with devices := w.devices ++ [newRow user.id newDevice], log := .device caller user.id :: w.log }
/-- `verifyRegistration`. Nobody asks who the caller is. -/
def verifyRegistration (w : World) (caller : Nat) (answers : Answers) (email : String) : World :=
  (answers.newDevice.bind fun newDevice =>
    if svc.toLowerCase email = "" then none
    else (checkUserExist w (svc.toLowerCase email)).map fun user =>
      addDevice w caller (svc.toLowerCase email) newDevice user).getD w
/-- `updateUser` of the FIDO service: a row of the credential gets its id, which no
    other row may have. -/
def updateFidoUser (w : World) (credentialId : String) (picked : Nat) : World :=
  if (w.devices[picked]?).any (·.devices.credentialID = credentialId) &&
      !((w.devices.eraseIdx picked).any (·.credentialId = some credentialId)) then
    { w with devices := w.devices.modify picked fun device => { device with credentialId := some credentialId } }
  else w

def deleteFidoUserDevice (w : World) (credentialId : String) : World :=
  { w with devices := w.devices.map fun device =>
    if device.credentialId = some credentialId then { device with deleted := true } else device }
/-- `id.replace(/[-_]/g, …)` -/
def credentialIdOf (assertion : Assertion) : String :=
  String.ofList (assertion.id.toList.map fun c => if c = '-' then '+' else if c = '_' then '/' else c)
def getfidoMultiDeviceDetails (w : World) (userId : Nat) : List Device :=
  w.devices.filter fun device => device.userId = userId ∧ device.deleted = false
def updateFidoAuthCounter (w : World) (credentialId : String) (loginCounter : Nat) : World :=
  { w with devices := w.devices.map fun device =>
    if device.credentialId = some credentialId then { device with authCounter := loginCounter } else device }

/-- A passkey sign-in whose assertion is verified. -/
def authenticated (w : World) (caller : Nat) (answers : Answers) (email : String) (assertion : Assertion)
    (getUserDevice : Device) : World :=
  let counted := updateFidoAuthCounter w (credentialIdOf assertion) (getUserDevice.authCounter + 1)
  grant counted w.devices caller (svc.toLowerCase email) none (some assertion)
    (loginUser svc counted answers email none true)

/-- `verifyAuthentication`. The service verifies nothing but an assertion of one of
    the devices it is given. -/
def verifyAuthentication (w : World) (caller : Nat) (answers : Answers) (email : String) (assertion : Assertion) :
    Option World :=
  if answers.verified then
    if let some fidoUser := checkUserExist w (svc.toLowerCase email) then
      if let some getUserDevice := w.devices.find? (·.credentialId = some (credentialIdOf assertion)) then
        if (getfidoMultiDeviceDetails w fidoUser.id).any fun device => svc.verifies assertion device.devices then
          some (authenticated svc w caller answers email assertion getUserDevice)
        else none
      else some w
    else some w
  else some w

/-- One call through the gateway, which lowers the e-mails of its paths. -/
def step (w : World) (a : Action) : Option World :=
  match a.call with
  | .generateRegistration email deviceFlag =>
      some (generateRegistration svc w a.answers (svc.toLowerCase email) deviceFlag)
  | .verifyRegistration email => some (verifyRegistration svc w a.caller a.answers (svc.toLowerCase email))
  | .updateFidoUser credentialId picked => some (updateFidoUser w credentialId picked)
  | .verifyAuthentication email assertion =>
    verifyAuthentication svc w a.caller a.answers (svc.toLowerCase email) assertion
  | .deleteFidoUserDevice credentialId => some (deleteFidoUserDevice w credentialId)
  | .login dto => some (login svc w a.caller a.answers dto)
  | .usernameLogin dto => some (usernameLogin svc w a.caller a.answers dto)

/-- The request showed the password of the account, or a device of it. -/
def Possession (account : Nat) (name : String) (password : Option String) (assertion : Option Assertion)
    (devices : List Device) : Prop :=
  accepted svc name password = true ∨
    ∃ shown device, assertion = some shown ∧ device ∈ devices ∧ device.userId = account ∧ device.deleted = false ∧
      svc.verifies shown device.devices = true
def Entry.grants (caller account : Nat) : Entry → Bool
  | .token caller' account' _ _ _ _ => caller' = caller && account' = account
  | .device _ _ => false
/-- The caller was given tokens of the account. -/
def SignedIn (log : List Entry) (caller account : Nat) : Prop := ∃ entry ∈ log, entry.grants caller account = true
instance (log : List Entry) (caller account : Nat) : Decidable (SignedIn log caller account) :=
  inferInstanceAs (Decidable (∃ entry ∈ log, entry.grants caller account = true))
/-- Tokens went to who showed a password or a device, and a device came from who had
    done so before. -/
def Sound : List Entry → Prop
  | [] => True
  | .token _ account name password assertion devices :: earlier =>
    Possession svc account name password assertion devices ∧ Sound earlier
  | .device caller account :: earlier => SignedIn earlier caller account ∧ Sound earlier
/-- A username sign-in that Keycloak accepts for the stored password only. -/
def Unproven (w : World) (answers : Answers) (dto : LoginUserNameDto) : Prop :=
  ∃ user, checkUserExistByUsername w (svc.toLowerCase dto.username) = some user ∧
    passwordless user (dto.isPasskey.getD false) = true ∧ accepted svc dto.username user.password = true ∧
    accepted svc dto.username (some dto.password) = false ∧ limitReached svc answers = false ∧
    user.keycloakUserId.any (· ≠ "") = true ∧ answers.stored = true ∧ dto.username ≠ ""
/-- A verified registration for an account to which the caller never signed in. -/
def Unasked (w : World) (caller : Nat) (answers : Answers) (email : String) : Prop :=
  ∃ user newDevice, answers.newDevice = some newDevice ∧ svc.toLowerCase email ≠ "" ∧
    checkUserExist w (svc.toLowerCase email) = some user ∧ ¬SignedIn w.log caller user.id
/-- Neither of the two uses that nobody has to prove anything for. -/
def Proper (w : World) (a : Action) : Prop :=
  match a.call with
  | .verifyRegistration email => ¬Unasked svc w a.caller a.answers (svc.toLowerCase email)
  | .usernameLogin dto => ¬Unproven svc w a.answers dto
  | _ => True

variable {svc} {w : World} {caller : Nat} {answers : Answers}
theorem signIn_some {name : String} {userData user : User} {stored password : Option String} {isPasskey : Bool} :
    signIn svc answers name userData stored password isPasskey = some user ↔
      userData = user ∧ (isPasskey = true → userData.isFidoVerified = true) ∧ limitReached svc answers = false ∧
      accepted svc name (if passwordless userData isPasskey then stored else password) = true ∧
      userData.keycloakUserId.any (· ≠ "") = true ∧ answers.stored = true := by
  unfold signIn
  by_cases unverified : isPasskey = true ∧ userData.isFidoVerified = false
  · simp [unverified.1,unverified.2]
  · have verified : isPasskey = true → userData.isFidoVerified = true := by
      intro passkey
      by_contra other
      exact unverified ⟨passkey,by simpa using other⟩
    have passes : (isPasskey && !userData.isFidoVerified) = false := by
      cases isPasskey with
      | false => rfl
      | true => simp [verified rfl]
    by_cases limit : limitReached svc answers = true
    · simp [passes,limit]
    · simp only [passes,limit,Bool.false_eq_true,if_false,Option.ite_none_right_eq_some,Bool.and_eq_true,
        Option.some.injEq]
      constructor
      · rintro ⟨⟨⟨right,keycloak⟩,stored_⟩,same⟩
        exact ⟨same,verified,trivial,right,keycloak,stored_⟩
      · rintro ⟨same,-,-,right,keycloak,stored_⟩
        exact ⟨⟨⟨right,keycloak⟩,stored_⟩,same⟩

theorem signIn_password {name : String} {userData user : User} {stored password : Option String}
    (granted : signIn svc answers name userData stored password false = some user) :
    accepted svc name password = true := by
  have right := (signIn_some.mp granted).2.2.2.1
  simpa [passwordless] using right
theorem sound_grant {devices : List Device} {name : String} {password : Option String} {assertion : Option Assertion}
    {granted : Option User} (sound : Sound svc w.log) :
    Sound svc (grant w devices caller name password assertion granted).log ↔
      ∀ user, granted = some user → Possession svc user.id name password assertion devices := by
  cases granted with
  | none => simpa [grant] using sound
  | some user => simpa [grant,Sound] using fun _ => sound

theorem login_sound {dto : LoginUserDto} (sound : Sound svc w.log) :
    Sound svc (login svc w caller answers dto).log := by
  unfold login
  by_cases blank : dto.email = ""
  · simpa [blank] using sound
  · rw [if_neg blank,sound_grant sound]
    intro user granted
    unfold loginUser at granted
    by_cases email : svc.isEmail (svc.toLowerCase (svc.toLowerCase dto.email)) = true
    · simp only [email,if_true,Option.bind_eq_some_iff,Option.ite_none_right_eq_some] at granted
      obtain ⟨userData,-,-,granted⟩ := granted
      exact .inl (signIn_password granted)
    · simp [email] at granted

theorem usernameLogin_sound {dto : LoginUserNameDto} (sound : Sound svc w.log) :
    Sound svc (usernameLogin svc w caller answers dto).log ↔ ¬Unproven svc w answers dto := by
  unfold usernameLogin
  by_cases blank : dto.username = ""
  · simp only [blank,if_true]
    exact iff_of_true sound (by rintro ⟨_,_,_,_,_,_,_,_,there⟩; exact there blank)
  · rw [if_neg blank,sound_grant sound]
    constructor
    · rintro possession ⟨user,found,flagged,right,wrong,limit,keycloak,stored,-⟩
      have verified : user.isFidoVerified = true := by
        simp only [passwordless,Bool.and_eq_true] at flagged
        exact flagged.2
      have granted : usernameLoginUser svc w answers dto.username (some dto.password) (dto.isPasskey.getD false) =
          some user := by
        simp only [usernameLoginUser,found,Option.bind_some]
        exact signIn_some.mpr ⟨rfl,fun _ => verified,limit,by rwa [if_pos flagged],keycloak,stored⟩
      rcases possession user granted with shown | ⟨_,_,absent,-⟩
      · exact absurd (shown.symm.trans wrong) (by decide)
      · cases absent
    · intro proven user granted
      obtain ⟨userData,found,granted⟩ := Option.bind_eq_some_iff.mp granted
      obtain ⟨rfl,-,limit,right,keycloak,stored⟩ := signIn_some.mp granted
      refine .inl ?_
      by_cases flagged : passwordless userData (dto.isPasskey.getD false) = true
      · rw [if_pos flagged] at right
        by_contra wrong
        exact proven ⟨userData,found,flagged,right,by simpa using wrong,limit,keycloak,stored,blank⟩
      · rwa [if_neg flagged] at right

theorem verifyAuthentication_sound {email : String} {assertion : Assertion} {after : World} (sound : Sound svc w.log)
    (taken : verifyAuthentication svc w caller answers email assertion = some after) : Sound svc after.log := by
  unfold verifyAuthentication at taken
  by_cases verified : answers.verified = true
  · simp only [verified,if_true] at taken
    cases known : checkUserExist w (svc.toLowerCase email) with
    | none => simp only [known,Option.some.injEq] at taken; exact taken ▸ sound
    | some fidoUser =>
      cases there : w.devices.find? (·.credentialId = some (credentialIdOf assertion)) with
      | none => simp only [known,there,Option.some.injEq] at taken; exact taken ▸ sound
      | some getUserDevice =>
        simp only [known,there,Option.ite_none_right_eq_some,Option.some.injEq] at taken
        obtain ⟨shown,rfl⟩ := taken
        obtain ⟨device,own,verifies⟩ := List.any_eq_true.mp shown
        simp only [getfidoMultiDeviceDetails,List.mem_filter,decide_eq_true_eq] at own
        -- The account of the tokens is found by the same e-mail as that of the devices.
        have same : ∀ user, loginUser svc (updateFidoAuthCounter w (credentialIdOf assertion)
            (getUserDevice.authCounter + 1)) answers email none true = some user → user = fidoUser := by
          intro user granted
          unfold loginUser at granted
          by_cases valid : svc.isEmail (svc.toLowerCase (svc.toLowerCase email)) = true
          · simp only [valid,if_true,Option.bind_eq_some_iff,Option.ite_none_right_eq_some] at granted
            obtain ⟨userData,found,-,granted⟩ := granted
            exact (signIn_some.mp granted).1 ▸ Option.some.inj (found.symm.trans known)
          · simp [valid] at granted
        unfold authenticated
        rw [sound_grant (by exact sound)]
        intro user granted
        rw [same user granted]
        exact .inr ⟨assertion,device,rfl,own.1,own.2.1,own.2.2,verifies⟩
  · simp only [verified,Bool.false_eq_true,if_false,Option.some.injEq] at taken
    exact taken ▸ sound

theorem verifyRegistration_sound {email : String} (sound : Sound svc w.log) :
    Sound svc (verifyRegistration svc w caller answers email).log ↔ ¬Unasked svc w caller answers email := by
  unfold verifyRegistration
  cases offered : answers.newDevice with
  | none => exact iff_of_true sound (by rintro ⟨user,newDevice,same,-⟩; simp [offered] at same)
  | some newDevice =>
    by_cases blank : svc.toLowerCase email = ""
    · exact iff_of_true (by simpa [blank] using sound) (by rintro ⟨user,device,-,there,-⟩; exact there blank)
    · cases known : checkUserExist w (svc.toLowerCase email) with
      | none =>
        exact iff_of_true (by simpa [blank,known] using sound)
          (by rintro ⟨user,device,-,-,found,-⟩; simp [known] at found)
      | some user =>
        simp only [Option.bind_some,blank,if_false,Option.map_some,Option.getD_some,addDevice,Sound]
        constructor
        · rintro ⟨signed,-⟩ ⟨other,device,-,-,found,unsigned⟩
          rw [known,Option.some.injEq] at found
          exact unsigned (found ▸ signed)
        · intro asked
          by_contra unsound
          refine asked ⟨user,newDevice,offered,blank,known,fun signed => unsound ⟨signed,sound⟩⟩

theorem generateRegistration_log {email : String} {deviceFlag : Option Bool} :
    (generateRegistration svc w answers email deviceFlag).log = w.log := by
  unfold generateRegistration
  cases checkUserExist w (svc.toLowerCase email) with
  | none => rfl
  | some fidoUser =>
    cases answers.fidoUserId with
    | none => rfl
    | some fidoUserId =>
      simp only [Option.bind_some,Option.map_some,Option.getD_some]
      split_ifs <;> rfl

theorem updateFidoUser_log {credentialId : String} {picked : Nat} :
    (updateFidoUser w credentialId picked).log = w.log := by
  unfold updateFidoUser
  split_ifs <;> rfl

/-- A request gives tokens and devices only to whom they are due exactly under its condition. -/
theorem step_sound {a : Action} {after : World} (sound : Sound svc w.log) (taken : step svc w a = some after) :
    Sound svc after.log ↔ Proper svc w a := by
  obtain ⟨caller,call,answers⟩ := a
  cases call with
  | generateRegistration email deviceFlag =>
    simp only [step,Option.some.injEq] at taken
    exact iff_of_true (by rw [← taken,generateRegistration_log]; exact sound) trivial
  | verifyRegistration email =>
    simp only [step,Option.some.injEq] at taken
    exact taken ▸ verifyRegistration_sound sound
  | updateFidoUser credentialId picked =>
    simp only [step,Option.some.injEq] at taken
    exact iff_of_true (by rw [← taken,updateFidoUser_log]; exact sound) trivial
  | verifyAuthentication email assertion => exact iff_of_true (verifyAuthentication_sound sound taken) trivial
  | deleteFidoUserDevice credentialId =>
    simp only [step,Option.some.injEq] at taken
    exact iff_of_true (taken ▸ sound) trivial
  | login dto =>
    simp only [step,Option.some.injEq] at taken
    exact iff_of_true (taken ▸ login_sound sound) trivial
  | usernameLogin dto =>
    simp only [step,Option.some.injEq] at taken
    exact taken ▸ usernameLogin_sound sound

/-- In a run tokens and devices are only for who shows a password or a device of the
    account, exactly when none of its calls is one of the two. -/
theorem possession_iff {t : World} {actions : List Action} (fresh : w.log = [])
    (reached : run (step svc) w actions = some t) :
    (∀ first rest u, actions = first ++ rest → run (step svc) w first = some u → Sound svc u.log) ↔
      Along (step svc) (Proper svc) w actions :=
  always_iff_along (I := fun u : World => Sound svc u.log) (fun _ _ _ sound taken => step_sound sound taken)
    (by rw [fresh]; trivial) reached

end

/-- One account, `ada@example.org`, whose password is `s3cret` and who has no device. -/
def ada : User := ⟨1,some "ada@example.org",some "ada@example.org",true,false,some "kc",none,some "s3cret"⟩
/-- Nothing is encrypted, and a device answers with its own key. -/
def plain : Services :=
  ⟨id,fun _ => true,id,some,fun _ password => password = "s3cret",fun assertion device =>
      assertion.response = device.publicKey,
    some 5⟩
def adaOnly : World := ⟨[ada],[],[]⟩
/-- The answers to a call of somebody with no session. -/
def answers (newDevice : Option NewDevice) (verified : Bool) : Answers := ⟨some "fido",newDevice,verified,0,true⟩
/-- Ada signs in with her password, registers a device, and signs in with it. -/
def ownDevice : List Action :=
  [⟨1,.login ⟨"ada@example.org","s3cret",true⟩,answers none false⟩,
    ⟨1,.verifyRegistration "ada@example.org",answers (some ⟨"a+b=","key"⟩) false⟩,
    ⟨1,.updateFidoUser "a+b" 0,answers none false⟩,
    ⟨1,.verifyAuthentication "ada@example.org" ⟨"a-b","key"⟩,answers none true⟩]

theorem possession_iff_ownDevice : ∃ t, run (step plain) adaOnly ownDevice = some t ∧ t.log.length = 3 ∧
    Sound plain t.log := by
  have ran : (run (step plain) adaOnly ownDevice).map (fun t => t.log.length) = some 3 := by decide +kernel
  obtain ⟨t,reached,length⟩ := Option.map_eq_some_iff.mp ran
  refine ⟨t,reached,length,(possession_iff rfl reached).mpr ?_ ownDevice [] t rfl reached⟩
  refine ⟨trivial,?_⟩
  intro next taken
  obtain rfl := Option.some.inj taken
  refine ⟨?_,fun _ _ => ⟨trivial,fun _ _ => ⟨trivial,fun _ _ => trivial⟩⟩⟩
  rintro ⟨user,newDevice,-,-,found,unsigned⟩
  obtain rfl : ada = user := Option.some.inj found
  exact unsigned (by decide +kernel)

def adaWithDevice : World := ⟨[{ ada with isFidoVerified := true }],[newRow 1 ⟨"a+b=","key"⟩],[]⟩
/-- Somebody signs in with her username and the flag. -/
def flagOnly : List Action := [⟨2,.usernameLogin ⟨"ada@example.org","-",some true⟩,answers none false⟩]

/-- The flag is enough for her tokens. -/
theorem flag_replaces_password : ¬∀ (svc : Services) (w t : World) (actions : List Action), w.log = [] →
    run (step svc) w actions = some t → Sound svc t.log := by
  intro always
  have ran : (run (step plain) adaWithDevice flagOnly).map (fun t => t.log) =
      some [.token 2 1 "ada@example.org" (some "-") none adaWithDevice.devices] := by decide +kernel
  obtain ⟨t,reached,log⟩ := Option.map_eq_some_iff.mp ran
  have sound := always plain adaWithDevice t flagOnly rfl reached
  rw [log] at sound
  rcases sound.1 with shown | ⟨_,_,absent,-⟩
  · exact absurd shown (by decide +kernel)
  · cases absent

end Ngotag.PasskeyLogin
