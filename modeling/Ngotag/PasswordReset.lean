import Ngotag.Serial

/-!
Resetting a password with a token from an e-mail. The token is read first, then Keycloak is
told the new password, then a user with a passkey gets it stored as well, and only then the
token is deleted. Where no call changes a password with a token that another one had read but
not deleted yet, and no exception follows the change, a token is used once, a failed call has
changed nothing, and the two passwords are the same whenever no call is in progress
(`reset_sound`).
-/
namespace Ngotag.PasswordReset
open Runs Await

/-- What does not change of a row of `user`. -/
structure User where
  id : Nat
  email : String
  isEmailVerified : Bool
  isFidoVerified : Bool
/-- Users with different ids. Their e-mails are different ones in lower case, so that each has
    an account of Keycloak of its own, or none. -/
structure Users where
  rows : List User
  ids : ∀ a ∈ rows, ∀ b ∈ rows, a.id = b.id → a = b
/-- A row of `token`; the time is in milliseconds. -/
structure Token where
  id : Nat
  token : String
  userId : Nat
  expiresAt : Nat
  deriving DecidableEq
structure Account where
  id : String
  password : Option String
structure Services where
  toLowerCase : String → String
  isEmail : String → Bool
  /-- None where it throws. -/
  decryptPassword : String → Option String
/-- The body of a reset; the password is encrypted. -/
structure UserResetPassword where
  email : String
  password : String
  token : String

inductive Cmd where
  /-- The row, and its `keycloakUserId`. -/
  | checkUserExist (email : String)
  | createTokenForResetPassword (userId : Nat)
  | sendEmailForResetPassword (verificationCode : String)
  | getResetPasswordTokenDetails (userId : Nat) (token : String)
  /-- The comparison with the clock. -/
  | expired (tokenDetails : Token)
  | decryptPassword (password : String)
  | getManagementToken
  | createUser (user : User)
  | findKeycloakUser (user : User)
  /-- `token` is the id of the row that the change is made with. -/
  | resetPasswordOfKeycloakUser (token : Nat) (user : User) (password : String)
  | updateUserDetails (userId : Nat) (keycloakId : String)
  | addUserPassword (user : User) (password : String)
  | deleteResetPasswordToken (id : Nat)

def Ret : Cmd → Type
  | .checkUserExist _ => Option (User × Option String)
  | .createTokenForResetPassword _ => Token
  | .getResetPasswordTokenDetails _ _ => Option Token
  | .expired _ => Bool
  | .decryptPassword _ => String
  | .findKeycloakUser _ => Option String
  | _ => Unit

inductive Failure where
  /-- `ResponseMessages.user.error.invalidEmail` -/
  | invalidEmail
  /-- `ResponseMessages.user.error.notFound` -/
  | notFound
  /-- `ResponseMessages.user.error.verifyMail` -/
  | verifyMail
  /-- `ResponseMessages.user.error.invalidResetLink` -/
  | invalidResetLink
  /-- `ResponseMessages.user.error.emailSend` -/
  | emailSend
  /-- `ResponseMessages.user.error.invalidKeycloakId` -/
  | invalidKeycloakId
  /-- `'Error while reseting user password'` -/
  | resetting
  | other

abbrev Async := Prog Cmd Ret Failure
def perform (command : Cmd) : Async (Ret command) := call command

section
variable (svc : Services)

/-- What both functions begin with. -/
def verifiedUser (email : String) : Async (User × Option String) :=
  if svc.isEmail (svc.toLowerCase (svc.toLowerCase email)) = false then throw .invalidEmail
  else do
    let userData : Option (User × Option String) ← perform (.checkUserExist (svc.toLowerCase email))
    match userData with
    | none => throw .notFound
    | some userData => if userData.1.isEmailVerified = false then throw .verifyMail else pure userData
def forgotPassword (email : String) : Async Unit := do
  let userData : User × Option String ← verifiedUser svc email
  let tokenCreated : Token ← perform (.createTokenForResetPassword userData.1.id)
  Prog.tryCatch (perform (.sendEmailForResetPassword tokenCreated.token)) fun _ => throw .emailSend
/-- The password is set on the account that is found. -/
def resetPasswordOfUser (tokenId : Nat) (user : User) (password : String) : Async String := do
  let found : Option String ← perform (.findKeycloakUser user)
  match found with
  | none => throw .invalidKeycloakId
  | some id => do
    let _ : Unit ← perform (.resetPasswordOfKeycloakUser tokenId user password)
    pure id
def updateFidoVerifiedUser (user : User) (password : String) : Async Unit :=
  if user.isFidoVerified = true then perform (.addUserPassword user password) else pure ()
def createAccount (tokenId : Nat) (user : User) (password : String) : Async Unit := do
  let _ : Unit ← perform (.createUser user)
  let keycloakUserId : String ← resetPasswordOfUser tokenId user password
  perform (.updateUserDetails user.id keycloakUserId)

/-- The body of the inner `try`. -/
def changePassword (tokenId : Nat) (userData : User × Option String) (decryptedPassword password : String) :
    Async Unit := do
  let _ : Unit ← perform .getManagementToken
  if (userData.2.filter (· ≠ "")).isSome = true then do
    let _ : String ← resetPasswordOfUser tokenId userData.1 decryptedPassword
    updateFidoVerifiedUser userData.1 password
  else do
    createAccount tokenId userData.1 decryptedPassword
    updateFidoVerifiedUser userData.1 password

/-- With a token at hand that is not expired. -/
def useToken (tokenDetails : Token) (userData : User × Option String) (password : String) : Async Unit := do
  let decryptedPassword : String ← perform (.decryptPassword password)
  Prog.tryCatch (changePassword tokenDetails.id userData decryptedPassword password) fun _ => throw .resetting
  perform (.deleteResetPasswordToken tokenDetails.id)
def resetTokenPassword (resetPasswordDto : UserResetPassword) : Async Unit := do
  let userData : User × Option String ← verifiedUser svc resetPasswordDto.email
  let tokenDetails : Option Token ← perform (.getResetPasswordTokenDetails userData.1.id resetPasswordDto.token)
  match tokenDetails with
  | none => throw .invalidResetLink
  | some tokenDetails => do
    let expired : Bool ← perform (.expired tokenDetails)
    if expired = true then throw .invalidResetLink else useToken tokenDetails userData resetPasswordDto.password
/-- What a call did with a token, or found. -/
inductive Entry where
  | changed (process token : Nat)
  | lapsed (process token : Nat)
  | deleted (process token : Nat)
  deriving DecidableEq
def Entry.process : Entry → Nat
  | .changed process _ => process
  | .lapsed process _ => process
  | .deleted process _ => process
def Entry.token : Entry → Nat
  | .changed _ token => token
  | .lapsed _ token => token
  | .deleted _ token => token

/-- By the ids of the users: their stored passwords, their `keycloakUserId`s, and the accounts
    of their e-mails. `drawn` are the tokens that ever were. The rest records what happened:
    `log` the latest first, `read` and `checked` what there was of it when a call read its token
    and when it compared it with the clock, `puts` the user whose password a call changed on
    Keycloak and to what, `last` the call that changed it last, and `pending` the calls that still
    have to store what they changed. -/
structure World where
  now : Nat
  tokens : List Token
  drawn : List Token
  password : Nat → Option String
  keycloakUserId : Nat → Option String
  accounts : Nat → Option Account
  log : List Entry
  read : Nat → List Entry
  checked : Nat → List Entry
  puts : Nat → Option (Nat × String)
  last : Nat → Option Nat
  pending : List Nat

/-- Whether the command fails, and whether it was carried out nevertheless; the ids and the text
    of what is created. -/
structure Choice where
  fails : Bool
  done : Bool
  drawn : Nat
  text : String

def answered {β : Type} (w : World) (value : β) : World × Except Failure β := (w,.ok value)
def hour : Nat := 3600000
def createToken (choice : Choice) (w : World) (userId : Nat) : Option (World × Except Failure Token) :=
  let row : Token := ⟨choice.drawn,choice.text,userId,w.now + hour⟩
  if row.id ∈ w.drawn.map Token.id then none
  else some (if (w.tokens.any fun other => other.token = row.token) = true then (w,.error .other)
    else ({ w with tokens := row :: w.tokens, drawn := row :: w.drawn },.ok row))
def lapse (process : Nat) (w : World) (tokenDetails : Token) : World :=
  { w with
    checked := Function.update w.checked process w.log
    log := if tokenDetails.expiresAt < w.now then .lapsed process tokenDetails.id :: w.log else w.log }
def World.delete (w : World) (process id : Nat) : World :=
  { w with
    tokens := w.tokens.filter fun row => row.id ≠ id
    log := .deleted process id :: w.log }
/-- An account without a password, unless there is one. -/
def World.withAccount (w : World) (user : User) (id : String) : World :=
  { w with accounts := Function.update w.accounts user.id (some ⟨id,none⟩) }

def World.changed (w : World) (process token : Nat) (user : User) (account : Account) (password : String) : World :=
  { w with
    accounts := Function.update w.accounts user.id (some { account with password := some password })
    log := .changed process token :: w.log
    puts := Function.update w.puts process (some (user.id,password))
    last := Function.update w.last user.id (some process)
    pending := if user.isFidoVerified = true then process :: w.pending else w.pending }
def World.kept (w : World) (process : Nat) (user : User) (password : String) : World :=
  { w with
    password := Function.update w.password user.id (some password)
    pending := w.pending.filter (· ≠ process) }

variable (users : Users)
def carry (process : Nat) (c : Cmd) (choice : Choice) (w : World) : Option (World × Except Failure (Ret c)) :=
  match c with
  | .checkUserExist email => some (answered (β := Option (User × Option String)) w
      ((users.rows.find? fun user => user.email = email).map fun user => (user,w.keycloakUserId user.id)))
  | .createTokenForResetPassword userId => createToken choice w userId
  | .sendEmailForResetPassword _ => some (answered (β := Unit) w ())
  | .getResetPasswordTokenDetails userId token => some ({ w with read := Function.update w.read process w.log },
      .ok (w.tokens.find? fun row => row.userId = userId && row.token = token))
  | .expired tokenDetails => some (lapse process w tokenDetails,.ok (decide (tokenDetails.expiresAt < w.now)))
  | .decryptPassword password => some (w,match svc.decryptPassword password with
      | none => .error .other
      | some decrypted => .ok decrypted)
  | .getManagementToken => some (answered (β := Unit) w ())
  | .createUser user => some (if (w.accounts user.id).isSome = true then (w,.error .other)
      else (w.withAccount user choice.text,.ok ()))
  | .findKeycloakUser user => some (answered (β := Option String) w ((w.accounts user.id).map Account.id))
  | .resetPasswordOfKeycloakUser token user password => some (match w.accounts user.id with
      | none => (w,.error .other)
      | some account => (w.changed process token user account password,.ok ()))
  | .updateUserDetails userId keycloakId =>
    some ({ w with keycloakUserId := Function.update w.keycloakUserId userId (some keycloakId) },.ok ())
  | .addUserPassword user password => some (w.kept process user password,.ok ())
  | .deleteResetPasswordToken id =>
    some (if (w.tokens.any fun row => row.id = id) = true then (w.delete process id,.ok ()) else (w,.error .other))

def handle (process : Nat) (c : Cmd) (choice : Choice) (w : World) : Option (World × Except Failure (Ret c)) :=
  (carry svc users process c choice w).map fun outcome =>
    if choice.fails = true then (if choice.done = true then outcome.1 else w,.error .other) else outcome
inductive Input where
  | forgotPassword (email : String)
  | resetTokenPassword (resetPasswordDto : UserResetPassword)
abbrev Env := Nat
def sys : System Cmd Ret Failure Unit World Choice Input Env where
  handle := handle svc users
  arrive _ _ w := some w
  program _
    | .forgotPassword email => forgotPassword svc email
    | .resetTokenPassword resetPasswordDto => resetTokenPassword svc resetPasswordDto
  environment milliseconds w := some { w with now := w.now + milliseconds }

/-- Every token changes the password once at most, and not after it was found expired. -/
def Single : List Entry → Prop
  | [] => True
  | .changed _ token :: earlier =>
    (∀ process, .changed process token ∉ earlier) ∧ (∀ process, .lapsed process token ∉ earlier) ∧ Single earlier
  | .lapsed _ _ :: earlier => Single earlier
  | .deleted _ _ :: earlier => Single earlier
/-- The stored password of a user with a passkey is the one of Keycloak, if there is one. -/
def Synced (w : World) : Prop :=
  ∀ user ∈ users.rows, user.isFidoVerified = true → ∀ account password, w.accounts user.id = some account →
    account.password = some password → (w.password user.id).bind svc.decryptPassword = some password
/-- What the claim says of the log and of the calls that have ended. -/
structure Good (m : Machine Cmd Ret Failure Unit World) : Prop where
  single : Single m.world.log
  honest : ∀ process error, (m.thread process).ended = some (.error error) → m.world.puts process = none
  synced : (∀ process, (m.thread process).awaited = none) → Synced svc users m.world

/-- A change with the token is one of a call that had deleted it when this one read it, and a call
    that found it expired did so before this one compared. -/
def Before (process token : Nat) (w : World) : Entry → Prop
  | .changed other token' => token' = token → .deleted other token ∈ w.read process
  | .lapsed other token' => token' = token → .lapsed other token ∈ w.checked process
  | .deleted _ _ => True
/-- The steps that keep the promises: a change of the password that fails was not made, and when
    one is made, the others are done with its token; after it nothing fails; and a password is
    stored by the call that changed it last, or before that call stores its own. -/
def Fine (process : Nat) (w : World) (choice : Choice) : Cmd → Prop
  | .resetPasswordOfKeycloakUser token _ _ =>
    (choice.fails = true → choice.done = false) ∧ (choice.fails = false → ∀ entry ∈ w.log, Before process token w entry)
  | .updateUserDetails _ _ => choice.fails = false
  | .addUserPassword user _ => choice.fails = false ∧
      ∀ latest, w.last user.id = some latest → latest = process ∨ latest ∈ w.pending
  | .deleteResetPasswordToken _ => choice.fails = false
  | _ => True

/-- A call is not cut off when it changed a password last and still has to store it. -/
def Proper (m : Machine Cmd Ret Failure Unit World) : Action Choice Input Env → Prop
  | .advance process choice => ∀ command resume, m.thread process = .live (.await command resume) →
      Fine process m.world choice command
  | .crash process => ∀ userId, m.world.last userId = some process → process ∉ m.world.pending
  | _ => True

/-- What is recorded of the tokens. Their ids are different ones; a row is there until it is deleted,
    by a call that has changed a password with it; and one that was found expired is. -/
structure Recorded (w : World) : Prop where
  single : Single w.log
  issued : ∀ row ∈ w.tokens, row ∈ w.drawn
  ids : ∀ a ∈ w.drawn, ∀ b ∈ w.drawn, a.id = b.id → a = b
  known : ∀ entry ∈ w.log, ∃ row ∈ w.drawn, row.id = entry.token
  gone : ∀ row ∈ w.drawn, row ∉ w.tokens → ∃ process, .deleted process row.id ∈ w.log
  dead : ∀ row ∈ w.tokens, ∀ process, .deleted process row.id ∉ w.log
  used : ∀ process id, .deleted process id ∈ w.log → .changed process id ∈ w.log
  past : ∀ row ∈ w.drawn, ∀ process, .lapsed process row.id ∈ w.log → row.expiresAt < w.now
/-- Also, what was changed last is what its call put, and what Keycloak has; and the passwords
    are the same, or will be when the call that changed it last stores it. -/
structure Sound (w : World) : Prop extends Recorded w where
  mine : ∀ userId latest, w.last userId = some latest → ∃ account password, w.puts latest = some (userId,password) ∧
    w.accounts userId = some account ∧ account.password = some password
  followed : ∀ process userId password, w.puts process = some (userId,password) → (w.last userId).isSome = true
  synced : ∀ user ∈ users.rows, user.isFidoVerified = true → ∀ account password, w.accounts user.id = some account →
    account.password = some password → (w.password user.id).bind svc.decryptPassword = some password ∨
      ∃ latest ∈ w.pending, w.last user.id = some latest

/-- What a call did on Keycloak, and whether it still has to store it, is its own, as is what it
    recorded of the tokens. -/
structure Undisturbed (process : Nat) (a b : World) : Prop where
  puts : b.puts process = a.puts process
  pending : process ∈ b.pending ↔ process ∈ a.pending
  read : b.read process = a.read process
  checked : b.checked process = a.checked process
  drawn : ∀ row ∈ a.drawn, row ∈ b.drawn
  log : ∀ entry ∈ a.log, entry ∈ b.log
  own : ∀ entry ∈ b.log, entry.process = process → entry ∈ a.log
/-- The call has changed no password. -/
structure Clean (process : Nat) (w : World) : Prop where
  puts : w.puts process = none
  pending : process ∉ w.pending
  undeleted : ∀ token, .deleted process token ∉ w.log
/-- The token was there when the call read it. -/
structure Reading (process : Nat) (row : Token) (w : World) : Prop extends Clean process w where
  known : row ∈ w.drawn
  fresh : ∀ other, .deleted other row.id ∉ w.read process
/-- Nobody had found it expired when the call compared. -/
structure Passed (process : Nat) (row : Token) (w : World) : Prop extends Reading process row w where
  unlapsed : ∀ other, .lapsed other row.id ∉ w.checked process
/-- The call has changed a password with the token, which it still has to delete. -/
structure Using (process : Nat) (row : Token) (w : World) : Prop where
  known : row ∈ w.drawn
  did : .changed process row.id ∈ w.log
  undeleted : ∀ token, .deleted process token ∉ w.log
structure Changed (process : Nat) (row : Token) (user : User) (password : String) (w : World) : Prop extends
    Using process row w where
  puts : w.puts process = some (user.id,password)
  pending : process ∈ w.pending ↔ user.isFidoVerified = true
structure Stored (process : Nat) (row : Token) (w : World) : Prop extends Using process row w where
  pending : process ∉ w.pending

def contract : Contract Cmd World Choice Env where
  inv := Sound svc users
  rely := Undisturbed
  idle := Clean
  allowed process c choice w := Fine process w choice c
  happens _ _ := True
/-- The end of a call: it has nothing left to store, and where it failed it changed nothing. -/
def Settled (process : Nat) (result : Except Failure Unit) (w : World) : Prop :=
  (∀ error, result = .error error → w.puts process = none) ∧ process ∉ w.pending

variable {svc users} {process : Nat} {c : Cmd} {choice : Choice} {w after a b : World} {user : User}
theorem undisturbed_refl :
    Undisturbed process w w := ⟨rfl,Iff.rfl,rfl,rfl,fun _ there => there,fun _ there => there,fun _ there _ => there⟩
theorem undisturbed_trans {d : World} (first : Undisturbed process a b) (second : Undisturbed process b d) :
    Undisturbed process a d :=
  ⟨second.puts.trans first.puts,second.pending.trans first.pending,second.read.trans first.read,
    second.checked.trans first.checked,fun row there => second.drawn row (first.drawn row there),
    fun entry there => second.log entry (first.log entry there),
    fun entry there mine => first.own entry (second.own entry there mine) mine⟩

variable {password : String} {row : Token}
theorem clean_stable (a b : World) (clean : Clean process a) (relied : Undisturbed process a b) : Clean process b :=
  ⟨relied.puts.trans clean.puts,fun there => clean.pending (relied.pending.mp there),
    fun token there => clean.undeleted token (relied.own _ there rfl)⟩
theorem reading_stable (a b : World) (reading : Reading process row a) (relied : Undisturbed process a b) :
    Reading process row b :=
  ⟨clean_stable a b reading.toClean relied,relied.drawn row reading.known,fun other there =>
      reading.fresh other (relied.read ▸ there)⟩
theorem passed_stable (a b : World) (passed : Passed process row a) (relied : Undisturbed process a b) :
    Passed process row b :=
  ⟨reading_stable a b passed.toReading relied,fun other there => passed.unlapsed other (relied.checked ▸ there)⟩
theorem using_stable (a b : World) (using_ : Using process row a) (relied : Undisturbed process a b) :
    Using process row b :=
  ⟨relied.drawn row using_.known,relied.log _ using_.did,fun token there => using_.undeleted token (relied.own _ there rfl)⟩
theorem changed_stable (a b : World) (changed : Changed process row user password a) (relied : Undisturbed process a b) :
    Changed process row user password b :=
  ⟨using_stable a b changed.toUsing relied,relied.puts.trans changed.puts,relied.pending.trans changed.pending⟩
theorem stored_stable (a b : World) (stored : Stored process row a) (relied : Undisturbed process a b) :
    Stored process row b :=
  ⟨using_stable a b stored.toUsing relied,fun there => stored.pending (relied.pending.mp there)⟩
theorem settled_stable {result : Except Failure Unit} (settled : Settled process result a)
    (relied : Undisturbed process a b) : Settled process result b :=
  ⟨fun error same => relied.puts.trans (settled.1 error same),fun there => settled.2 (relied.pending.mp there)⟩

theorem recorded_created {new_ : Token} (recorded : Recorded w) (undrawn : new_.id ∉ w.drawn.map Token.id) :
    Recorded { w with tokens := new_ :: w.tokens, drawn := new_ :: w.drawn } := by
  have other {row : Token} (there : row ∈ w.drawn) : row.id ≠ new_.id := fun same =>
    undrawn (List.mem_map.mpr ⟨row,there,same⟩)
  have unknown {entry : Entry} (there : entry ∈ w.log) : entry.token ≠ new_.id := by
    obtain ⟨row,drawn,same⟩ := recorded.known entry there
    exact same ▸ other drawn
  refine ⟨recorded.single,fun row there => ?_,fun a here b there same => ?_,fun entry there => ?_,
      fun row there absent => ?_,
    fun row there process deleted => ?_,recorded.used,fun row there process lapsed => ?_⟩
  · exact List.mem_cons.mpr ((List.mem_cons.mp there).imp_right (recorded.issued row))
  · rcases List.mem_cons.mp here with rfl | old <;> rcases List.mem_cons.mp there with rfl | old'
    · rfl
    · exact absurd same.symm (other old')
    · exact absurd same (other old)
    · exact recorded.ids a old b old' same
  · obtain ⟨row,drawn,same⟩ := recorded.known entry there
    exact ⟨row,List.mem_cons_of_mem _ drawn,same⟩
  · rcases List.mem_cons.mp there with rfl | there
    · exact absurd List.mem_cons_self absent
    · exact recorded.gone row there fun here => absent (List.mem_cons_of_mem _ here)
  · rcases List.mem_cons.mp there with rfl | there
    · exact unknown deleted rfl
    · exact recorded.dead row there process deleted
  · rcases List.mem_cons.mp there with rfl | there
    · exact absurd rfl (unknown lapsed)
    · exact recorded.past row there process lapsed

/-- A further entry, on a token that was drawn. -/
theorem recorded_log {entry : Entry} (recorded : Recorded w) (single : Single (entry :: w.log))
    (known : ∃ row ∈ w.drawn, row.id = entry.token)
    (lapsed : ∀ process, entry = .lapsed process row.id → row.expiresAt < w.now) (drawn : row ∈ w.drawn)
    (its : row.id = entry.token)
    (undeleted : ∀ process id, entry ≠ .deleted process id) : Recorded { w with log := entry :: w.log } where
  single := single
  issued := recorded.issued
  ids := recorded.ids
  known other there := by
    rcases List.mem_cons.mp there with rfl | there
    · exact known
    · exact recorded.known other there
  gone row here absent := by
    obtain ⟨process,there⟩ := recorded.gone row here absent
    exact ⟨process,List.mem_cons_of_mem _ there⟩
  dead row here process there := by
    rcases List.mem_cons.mp there with same | there
    · exact undeleted process row.id same.symm
    · exact recorded.dead row here process there
  used process id there := by
    rcases List.mem_cons.mp there with same | there
    · exact absurd same.symm (undeleted process id)
    · exact List.mem_cons_of_mem _ (recorded.used process id there)
  past other here process there := by
    rcases List.mem_cons.mp there with same | there
    · obtain rfl : other = row := recorded.ids other here row drawn ((congrArg Entry.token same).trans its.symm)
      exact lapsed process same.symm
    · exact recorded.past other here process there

theorem recorded_lapse (recorded : Recorded w) (drawn : row ∈ w.drawn) : Recorded (lapse process w row) := by
  by_cases past : row.expiresAt < w.now
  · have logged := @recorded_log w row (.lapsed process row.id) recorded recorded.single ⟨row,drawn,rfl⟩
      (fun _ _ => past) drawn rfl
      (by rintro _ _ ⟨⟩)
    simp only [lapse,if_pos past]
    exact ⟨logged.single,logged.issued,logged.ids,logged.known,logged.gone,logged.dead,logged.used,logged.past⟩
  · simp only [lapse,if_neg past]
    exact ⟨recorded.single,recorded.issued,recorded.ids,recorded.known,recorded.gone,recorded.dead,recorded.used,
        recorded.past⟩

theorem single_once {token p q : Nat} {log : List Entry} (single : Single log) (first : .changed p token ∈ log)
    (second : .changed q token ∈ log) : p = q := by
  induction log with
  | nil => cases first
  | cons entry earlier ih =>
    have later : Single earlier := by
      cases entry with
      | changed process token' => exact single.2.2
      | lapsed process token' => exact single
      | deleted process token' => exact single
    rcases List.mem_cons.mp first with rfl | first' <;> rcases List.mem_cons.mp second with same | second'
    · cases same; rfl
    · exact absurd second' (single.1 q)
    · subst same
      exact absurd first' (single.1 p)
    · exact ih later first' second'

/-- A call that has changed a password with the token finds it when it deletes it: nobody else has. -/
theorem using_there (recorded : Recorded w) (using_ : Using process row w) : row ∈ w.tokens := by
  by_contra absent
  obtain ⟨other,deleted⟩ := recorded.gone row using_.known absent
  obtain rfl := single_once recorded.single using_.did (recorded.used other row.id deleted)
  exact using_.undeleted row.id deleted
theorem recorded_delete (recorded : Recorded w) (using_ : Using process row w) : Recorded (w.delete process row.id) where
  single := recorded.single
  issued other there := recorded.issued other (List.mem_filter.mp there).1
  ids := recorded.ids
  known entry there := by
    rcases List.mem_cons.mp there with rfl | there
    · exact ⟨row,using_.known,rfl⟩
    · exact recorded.known entry there
  gone other here absent := by
    by_cases same : other.id = row.id
    · exact ⟨process,same ▸ List.mem_cons_self⟩
    · obtain ⟨by_,there⟩ := recorded.gone other here fun stays =>
        absent (List.mem_filter.mpr ⟨stays,by simpa using same⟩)
      exact ⟨by_,List.mem_cons_of_mem _ there⟩
  dead other here by_ there := by
    obtain ⟨stood,apart⟩ := List.mem_filter.mp here
    rcases List.mem_cons.mp there with same | there
    · exact of_decide_eq_true apart (congrArg Entry.token same)
    · exact recorded.dead other stood by_ there
  used by_ id there := by
    rcases List.mem_cons.mp there with same | there
    · cases same
      exact List.mem_cons_of_mem _ using_.did
    · exact List.mem_cons_of_mem _ (recorded.used by_ id there)
  past other here by_ there := by
    rcases List.mem_cons.mp there with same | there
    · cases same
    · exact recorded.past other here by_ there

theorem sound_same (sound : Sound svc users w) (recorded : Recorded after) (accounts : after.accounts = w.accounts)
    (password : after.password = w.password) (puts : after.puts = w.puts) (last : after.last = w.last)
    (pending : after.pending = w.pending) : Sound svc users after where
  toRecorded := recorded
  mine := by rw [last,puts,accounts]; exact sound.mine
  followed := by rw [last,puts]; exact sound.followed
  synced := by rw [last,accounts,password,pending]; exact sound.synced
theorem recorded_same (recorded : Recorded w) (tokens : after.tokens = w.tokens) (drawn : after.drawn = w.drawn)
    (log : after.log = w.log) (later : w.now ≤ after.now) : Recorded after := by
  refine ⟨?_,?_,?_,?_,?_,?_,?_,?_⟩
  · rw [log]; exact recorded.single
  · rw [tokens,drawn]; exact recorded.issued
  · rw [drawn]; exact recorded.ids
  · rw [log,drawn]; exact recorded.known
  · rw [drawn,tokens,log]; exact recorded.gone
  · rw [tokens,log]; exact recorded.dead
  · rw [log]; exact recorded.used
  · rw [drawn,log]
    exact fun row there process lapsed => Nat.lt_of_lt_of_le (recorded.past row there process lapsed) later

theorem sound_withAccount {id : String} (sound : Sound svc users w) (absent : w.accounts user.id = none) :
    Sound svc users (w.withAccount user id) where
  toRecorded := recorded_same sound.toRecorded rfl rfl rfl (Nat.le_refl _)
  mine userId latest changed := by
    obtain ⟨account,password,puts,found,set_⟩ := sound.mine userId latest changed
    have other : userId ≠ user.id := by
      rintro rfl
      cases found.symm.trans absent
    exact ⟨account,password,puts,(Function.update_of_ne other _ _).trans found,set_⟩
  followed := sound.followed
  synced row listed fido account password found set_ := by
    by_cases same : row.id = user.id
    · simp only [World.withAccount,same,Function.update_self,Option.some.injEq] at found
      subst found
      cases set_
    · exact sound.synced row listed fido account password ((Function.update_of_ne same _ _).symm.trans found) set_

/-- The commands that record nothing of the call. -/
def plain : Cmd → Bool
  | .getResetPasswordTokenDetails _ _ | .expired _ | .resetPasswordOfKeycloakUser _ _ _ | .addUserPassword _ _
  | .deleteResetPasswordToken _ => false
  | _ => true

variable {answer : Except Failure (Ret c)}
theorem carry_plain (quiet : plain c = true) (sound : Sound svc users w)
    (carried : carry svc users process c choice w = some (after,answer)) :
    Sound svc users after ∧ ∀ other, Undisturbed other w after := by
  cases c with
  | createTokenForResetPassword userId =>
    have created : createToken choice w userId = some (after,answer) := carried
    unfold createToken at created
    obtain ⟨undrawn,same⟩ := Option.ite_none_left_eq_some.mp created
    split at same
    · cases same
      exact ⟨sound,fun _ => undisturbed_refl⟩
    · cases same
      exact ⟨sound_same sound (recorded_created sound.toRecorded undrawn) rfl rfl rfl rfl rfl,
        fun _ => ⟨rfl,Iff.rfl,rfl,rfl,fun _ => List.mem_cons_of_mem _,fun _ there => there,fun _ there _ => there⟩⟩
  | createUser user =>
    simp only [carry,Option.some.injEq] at carried
    by_cases there : (w.accounts user.id).isSome = true
    · rw [if_pos there] at carried
      cases carried
      exact ⟨sound,fun _ => undisturbed_refl⟩
    · rw [if_neg there] at carried
      cases carried
      exact ⟨sound_withAccount sound (by simpa using there),
        fun _ => ⟨rfl,Iff.rfl,rfl,rfl,fun _ there => there,fun _ there => there,fun _ there _ => there⟩⟩
  | updateUserDetails userId keycloakId =>
    cases carried
    exact ⟨sound_same sound (recorded_same sound.toRecorded rfl rfl rfl (Nat.le_refl _)) rfl rfl rfl rfl rfl,
      fun _ => ⟨rfl,Iff.rfl,rfl,rfl,fun _ there => there,fun _ there => there,fun _ there _ => there⟩⟩
  | getResetPasswordTokenDetails | expired | resetPasswordOfKeycloakUser | addUserPassword | deleteResetPasswordToken =>
    cases quiet
  | _ => cases carried; exact ⟨sound,fun _ => undisturbed_refl⟩

theorem handle_cases (handled : handle svc users process c choice w = some (after,answer)) :
    ∃ outcome, carry svc users process c choice w = some outcome ∧
      (choice.fails = true ∧ answer = .error .other ∧ after = (if choice.done = true then outcome.1 else w) ∨
        choice.fails = false ∧ outcome = (after,answer)) := by
  obtain ⟨outcome,carried,ends⟩ := Option.map_eq_some_iff.mp handled
  refine ⟨outcome,carried,?_⟩
  by_cases fails : choice.fails = true
  · rw [if_pos fails] at ends
    cases ends
    exact .inl ⟨fails,rfl,rfl⟩
  · rw [if_neg fails] at ends
    exact .inr ⟨by simpa using fails,ends⟩

/-- A command that fails is carried out all the same, or leaves everything as it is. -/
theorem handle_left (handled : handle svc users process c choice w = some (after,answer)) :
    (∃ reply, carry svc users process c choice w = some (after,reply)) ∨ after = w := by
  obtain ⟨⟨outcome,reply⟩,carried,⟨-,-,rfl⟩ | ⟨-,same⟩⟩ := handle_cases handled
  · split
    · exact .inl ⟨reply,carried⟩
    · exact .inr rfl
  · cases same
    exact .inl ⟨_,carried⟩
theorem handle_plain (quiet : plain c = true) (sound : Sound svc users w)
    (handled : handle svc users process c choice w = some (after,answer)) :
    Sound svc users after ∧ ∀ other, Undisturbed other w after := by
  rcases handle_left handled with ⟨reply,carried⟩ | rfl
  · exact carry_plain quiet sound carried
  · exact ⟨sound,fun _ => undisturbed_refl⟩

theorem steady_plain (quiet : plain c = true) : Steady (sys svc users) (contract svc users) c :=
  fun _ _ _ _ _ sound _ handled => handle_plain quiet sound handled

/-- Where the others are done with the token, it was neither used nor found expired. -/
theorem single_changed (recorded : Recorded w) (passed : Passed process row w)
    (before : ∀ entry ∈ w.log, Before process row.id w entry) : Single (.changed process row.id :: w.log) :=
  ⟨fun other there => passed.fresh other (before _ there rfl),fun other there => passed.unlapsed other (before _ there rfl),
    recorded.single⟩
theorem sound_changed {account : Account} (sound : Sound svc users w) (passed : Passed process row w)
    (listed : user ∈ users.rows)
    (before : ∀ entry ∈ w.log, Before process row.id w entry) :
    Sound svc users (w.changed process row.id user account password) where
  toRecorded := by
    have logged :=
        @recorded_log w row (.changed process row.id) sound.toRecorded (single_changed sound.toRecorded passed before)
      ⟨row,passed.known,rfl⟩ (by rintro _ ⟨⟩) passed.known rfl (by rintro _ _ ⟨⟩)
    exact recorded_same logged rfl rfl rfl (Nat.le_refl _)
  mine userId latest changed := by
    by_cases same : userId = user.id
    · subst same
      simp only [World.changed,Function.update_self,Option.some.injEq] at changed
      subst changed
      exact ⟨_,password,Function.update_self _ _ _,Function.update_self _ _ _,rfl⟩
    · obtain ⟨account',password',puts,found,set_⟩ :=
        sound.mine userId latest ((Function.update_of_ne same _ _).symm.trans changed)
      have apart : latest ≠ process := by
        rintro rfl
        cases puts.symm.trans passed.puts
      exact ⟨account',password',(Function.update_of_ne apart _ _).trans puts,
        (Function.update_of_ne same _ _).trans found,set_⟩
  followed other userId password' puts := by
    by_cases same : userId = user.id
    · subst same
      simp [World.changed]
    · have apart : other ≠ process := by
        rintro rfl
        simp only [World.changed,Function.update_self,Option.some.injEq,Prod.mk.injEq] at puts
        exact same puts.1.symm
      exact (congrArg Option.isSome (Function.update_of_ne same _ _)).trans
        (sound.followed other userId password' ((Function.update_of_ne apart _ _).symm.trans puts))
  synced row' here fido account' password' found set_ := by
    by_cases same : row'.id = user.id
    · obtain rfl := users.ids row' here user listed same
      refine .inr ⟨process,?_,Function.update_self _ _ _⟩
      simp [World.changed,fido]
    · rcases sound.synced row' here fido account' password' ((Function.update_of_ne same _ _).symm.trans found) set_ with
        equal | ⟨latest,waiting,changed⟩
      · exact .inl equal
      · refine .inr ⟨latest,?_,(Function.update_of_ne same _ _).trans changed⟩
        simp only [World.changed]
        split
        · exact List.mem_cons_of_mem _ waiting
        · exact waiting

theorem sound_kept {stored password : String} (sound : Sound svc users w) (changed : Changed process row user password w)
    (decrypted : svc.decryptPassword stored = some password)
    (order : ∀ latest, w.last user.id = some latest → latest = process ∨ latest ∈ w.pending) :
    Sound svc users (w.kept process user stored) where
  toRecorded := recorded_same sound.toRecorded rfl rfl rfl (Nat.le_refl _)
  mine := sound.mine
  followed := sound.followed
  synced row' here fido account password' found set_ := by
    by_cases same : row'.id = user.id
    · simp only [World.kept,same,Function.update_self]
      obtain ⟨latest,last⟩ := Option.isSome_iff_exists.mp (sound.followed _ _ _ changed.puts)
      by_cases own : latest = process
      · subst own
        obtain ⟨account',password'',puts,found',set'⟩ := sound.mine _ _ last
        cases puts.symm.trans changed.puts
        have found : w.accounts row'.id = some account := found
        rw [same] at found
        cases found.symm.trans found'
        cases set_.symm.trans set'
        exact .inl decrypted
      · refine .inr ⟨latest,List.mem_filter.mpr ⟨?_,by simpa using own⟩,last⟩
        exact (order latest last).resolve_left own
    · rcases sound.synced row' here fido account password' found set_ with equal | ⟨latest,waiting,last⟩
      · refine .inl ?_
        simp only [World.kept,Function.update_of_ne same]
        exact equal
      · refine .inr ⟨latest,List.mem_filter.mpr ⟨waiting,?_⟩,last⟩
        -- The call changed the password of this user, and of no other.
        obtain ⟨_,_,puts,-,-⟩ := sound.mine _ _ last
        have apart : latest ≠ process := by
          rintro rfl
          exact same (Prod.mk.inj (Option.some.inj (puts.symm.trans changed.puts))).1
        simpa using apart

variable {P : World → Prop}
theorem wp_command {wanted : Except Failure (Ret c) → World → Prop}
    (stable : ∀ a b, P a → Undisturbed process a b → P b)
    (carried : ∀ before choice after answer, Sound svc users before → P before → Fine process before choice c →
      handle svc users process c choice before = some (after,answer) →
        Sound svc users after ∧ (∀ other, other ≠ process → Undisturbed other before after) ∧ wanted answer after)
    (now : P w) : wp (sys svc users) (contract svc users) process (perform c) wanted w :=
  wp_call fun before relied sound choice after answer fine handled =>
    carried before choice after answer sound (stable w before now relied) fine handled
theorem wp_plain (quiet : plain c = true) (stable : ∀ a b, P a → Undisturbed process a b → P b)
    (clean : ∀ w, P w → Clean process w) (now : P w) :
    wp (sys svc users) (contract svc users) process (perform c) (upon (fun _ => P) (Clean process)) w := by
  refine wp_mono ?_ (wp_only (fun a b now relied _ => stable a b now relied)
    ((only_call c).mpr (steady_plain quiet)) now)
  rintro (error | value) w' ended
  · exact clean w' ended
  · exact ended

theorem wp_answer {K : Ret c → Prop} (quiet : plain c = true) (stable : ∀ a b, P a → Undisturbed process a b → P b)
    (clean : ∀ w, P w → Clean process w)
    (answers : ∀ choice w after value, carry svc users process c choice w = some (after,.ok value) → K value)
    (now : P w) :
    wp (sys svc users) (contract svc users) process (perform c)
        (upon (fun value w => P w ∧ K value) (Clean process)) w := by
  refine wp_command stable (fun before choice after answer sound known _ handled => ?_) now
  obtain ⟨kept,everyone⟩ := handle_plain quiet sound handled
  refine ⟨kept,fun other _ => everyone other,?_⟩
  have later := stable before after known (everyone process)
  cases answer with
  | error error => exact clean after later
  | ok value =>
    obtain ⟨outcome,carried,⟨-,⟨⟩,-⟩ | ⟨-,rfl⟩⟩ := handle_cases handled
    exact ⟨later,answers choice before after value carried⟩

/-- The token that is read has not been deleted. -/
theorem wp_getResetPasswordTokenDetails {userId : Nat} {token : String} (clean : Clean process w) :
    wp (sys svc users) (contract svc users) process (perform (.getResetPasswordTokenDetails userId token))
      (upon (fun found w => Clean process w ∧ ∀ row, found = some row → Reading process row w) (Clean process)) w := by
  refine wp_command clean_stable (fun before choice after answer sound clean _ handled => ?_) clean
  have noted : Sound svc users { before with read := Function.update before.read process before.log } ∧
      ∀ other, other ≠ process → Undisturbed other before
      { before with read := Function.update before.read process before.log } :=
    ⟨sound_same sound (recorded_same sound.toRecorded rfl rfl rfl (Nat.le_refl _)) rfl rfl rfl rfl rfl,
      fun other apart => ⟨rfl,Iff.rfl,Function.update_of_ne apart _ _,rfl,fun _ there => there,fun _ there => there,
        fun _ there _ => there⟩⟩
  obtain ⟨outcome,carried,⟨-,rfl,rfl⟩ | ⟨-,rfl⟩⟩ := handle_cases handled
  · cases carried
    split
    · exact ⟨noted.1,noted.2,clean.puts,clean.pending,clean.undeleted⟩
    · exact ⟨sound,fun _ _ => undisturbed_refl,clean⟩
  · cases carried
    refine ⟨noted.1,noted.2,⟨clean.puts,clean.pending,clean.undeleted⟩,fun row found => ?_⟩
    have there := List.mem_of_find?_eq_some found
    refine ⟨⟨clean.puts,clean.pending,clean.undeleted⟩,sound.issued row there,fun other deleted => ?_⟩
    dsimp only at deleted
    rw [Function.update_self] at deleted
    exact sound.dead row there other deleted

/-- A token that passes the comparison has been found expired by nobody. -/
theorem wp_expired (reading : Reading process row w) :
    wp (sys svc users) (contract svc users) process (perform (.expired row))
      (upon (fun expired w => Clean process w ∧ (expired = false → Passed process row w)) (Clean process)) w := by
  refine wp_command reading_stable (fun before choice after answer sound reading _ handled => ?_) reading
  have undeleted (token : Nat) : .deleted process token ∉ (lapse process before row).log := by
    simp only [lapse]
    split
    · rintro (_ | ⟨_,there⟩)
      exact reading.undeleted token there
    · exact reading.undeleted token
  have noted : Sound svc users (lapse process before row) ∧ ∀ other, other ≠ process → Undisturbed other before
      (lapse process before row) := by
    refine ⟨sound_same sound (recorded_lapse sound.toRecorded reading.known) rfl rfl rfl rfl rfl,
      fun other apart => ⟨rfl,Iff.rfl,rfl,Function.update_of_ne apart _ _,fun _ there => there,?_,?_⟩⟩
    · simp only [lapse]
      split
      · exact fun _ => List.mem_cons_of_mem _
      · exact fun _ there => there
    · simp only [lapse]
      split
      · rintro entry there mine
        rcases List.mem_cons.mp there with rfl | there
        · exact absurd mine.symm apart
        · exact there
      · exact fun _ there _ => there
  obtain ⟨outcome,carried,⟨-,rfl,rfl⟩ | ⟨-,rfl⟩⟩ := handle_cases handled
  · cases carried
    split
    · exact ⟨noted.1,noted.2,reading.puts,reading.pending,undeleted⟩
    · exact ⟨sound,fun _ _ => undisturbed_refl,reading.toClean⟩
  · cases carried
    refine ⟨noted.1,noted.2,⟨reading.puts,reading.pending,undeleted⟩,fun fresh => ?_⟩
    refine ⟨⟨⟨reading.puts,reading.pending,undeleted⟩,reading.known,reading.fresh⟩,fun other lapsed => ?_⟩
    simp only [lapse,Function.update_self] at lapsed
    exact of_decide_eq_false fresh (sound.past row reading.known other lapsed)

theorem wp_verifiedUser {email : String} (clean : Clean process w) :
    wp (sys svc users) (contract svc users) process (verifiedUser svc email)
      (upon (fun userData w => Clean process w ∧ userData.1 ∈ users.rows) (Clean process)) w := by
  refine wp_branches _ (fun _ => clean) fun _ => ?_
  refine wp_seq (fun found w => Clean process w ∧ ∀ userData, found = some userData → userData.1 ∈ users.rows)
    (wp_answer rfl clean_stable (fun _ clean => clean) ?_ clean) fun found w known => ?_
  · intro choice w after value carried userData same
    cases carried
    obtain ⟨row,here,rfl⟩ := Option.map_eq_some_iff.mp same
    exact List.mem_of_find?_eq_some here
  · cases found with
    | none => exact known.1
    | some userData => exact wp_branches _ (fun _ => known.1) fun _ => ⟨known.1,known.2 userData rfl⟩

theorem wp_resetPasswordOfUser (passed : Passed process row w) (listed : user ∈ users.rows) :
    wp (sys svc users) (contract svc users) process (resetPasswordOfUser row.id user password)
      (upon (fun _ => Changed process row user password) (Clean process)) w := by
  refine wp_seq (fun _ => Passed process row) (wp_plain rfl passed_stable (fun _ passed => passed.toClean) passed)
      fun found w passed => ?_
  cases found with
  | none => exact passed.toClean
  | some id =>
    refine wp_seq (fun _ => Changed process row user password) (wp_command passed_stable ?_ passed)
        fun _ w changed => changed
    intro before choice after answer sound passed fine handled
    obtain ⟨⟨outcome,reply⟩,carried,ends⟩ := handle_cases handled
    have left : after = before ∧ answer ≠ .ok () ∨
        ∃ account, choice.fails = false ∧ answer = .ok () ∧
        after = before.changed process row.id user account password := by
      rcases ends with ⟨fails,rfl,rfl⟩ | ⟨succeeds,same⟩
      · rw [fine.1 fails]
        exact .inl ⟨rfl,by rintro ⟨⟩⟩
      · simp only [carry,Option.some.injEq] at carried
        cases there : before.accounts user.id with
        | none =>
          rw [there] at carried
          cases carried.trans same
          exact .inl ⟨rfl,by rintro ⟨⟩⟩
        | some account =>
          rw [there] at carried
          cases carried.trans same
          exact .inr ⟨account,succeeds,rfl,rfl⟩
    rcases left with ⟨rfl,failed⟩ | ⟨account,succeeds,rfl,rfl⟩
    · refine ⟨sound,fun other _ => undisturbed_refl,?_⟩
      cases answer with
      | error error => exact passed.toClean
      | ok done => exact absurd rfl failed
    · refine ⟨sound_changed sound passed listed (fine.2 succeeds),fun other apart => ?_,?_⟩
      · refine ⟨Function.update_of_ne apart _ _,?_,rfl,rfl,fun _ there => there,fun _ => List.mem_cons_of_mem _,
          fun entry there mine => ?_⟩
        · simp only [World.changed]
          split
          · simp [apart]
          · rfl
        · rcases List.mem_cons.mp there with rfl | there
          · exact absurd mine.symm apart
          · exact there
      · refine ⟨⟨passed.known,List.mem_cons_self,fun token there => ?_⟩,Function.update_self _ _ _,?_⟩
        · rcases List.mem_cons.mp there with same | there
          · cases same
          · exact passed.undeleted token there
        · simp only [World.changed]
          split
          · rename_i fido
            simp [fido]
          · rename_i fido
            simp [fido,passed.pending]

theorem wp_updateFidoVerifiedUser {stored password : String} (changed : Changed process row user password w)
    (decrypted : svc.decryptPassword stored = some password) :
    wp (sys svc users) (contract svc users) process (updateFidoVerifiedUser user stored)
      (upon (fun _ => Stored process row) (Clean process)) w := by
  refine wp_branches _ (fun fido => ?_) fun plain => ?_
  · refine wp_command changed_stable (fun before choice after answer sound changed fine handled => ?_) changed
    obtain ⟨outcome,carried,⟨fails,-,-⟩ | ⟨-,rfl⟩⟩ := handle_cases handled
    · exact absurd (fails.symm.trans fine.1) (by decide)
    · cases carried
      refine ⟨sound_kept sound changed decrypted fine.2,fun other apart => ?_,?_⟩
      · exact ⟨rfl,by simp [World.kept,apart],rfl,rfl,fun _ there => there,fun _ there => there,fun _ there _ => there⟩
      · exact ⟨⟨changed.known,changed.did,changed.undeleted⟩,by simp [World.kept]⟩
  · exact ⟨changed.toUsing,fun there => plain (changed.pending.mp there)⟩

theorem wp_createAccount (passed : Passed process row w) (listed : user ∈ users.rows) :
    wp (sys svc users) (contract svc users) process (createAccount row.id user password)
      (upon (fun _ => Changed process row user password) (Clean process)) w := by
  refine wp_seq (fun _ => Passed process row) (wp_plain rfl passed_stable (fun _ passed => passed.toClean) passed)
      fun _ w passed => ?_
  refine wp_seq _ (wp_resetPasswordOfUser passed listed) fun id w changed => ?_
  refine wp_command changed_stable (fun before choice after answer sound changed fine handled => ?_) changed
  obtain ⟨kept,everyone⟩ := handle_plain rfl sound handled
  refine ⟨kept,fun other _ => everyone other,?_⟩
  obtain ⟨outcome,carried,⟨fails,-,-⟩ | ⟨-,rfl⟩⟩ := handle_cases handled
  · exact absurd (fails.symm.trans fine) (by decide)
  · cases carried
    exact changed_stable before _ changed (everyone process)

theorem wp_changePassword {userData : User × Option String} {decrypted password : String}
    (passed : Passed process row w) (listed : userData.1 ∈ users.rows)
    (plainText : svc.decryptPassword password = some decrypted) :
    wp (sys svc users) (contract svc users) process (changePassword row.id userData decrypted password)
      (upon (fun _ => Stored process row) (Clean process)) w := by
  refine wp_seq (fun _ => Passed process row) (wp_plain rfl passed_stable (fun _ passed => passed.toClean) passed)
      fun _ w passed => ?_
  refine wp_branches _ (fun _ => ?_) fun _ => ?_
  · exact wp_seq _ (wp_resetPasswordOfUser passed listed) fun _ w changed => wp_updateFidoVerifiedUser changed plainText
  · exact wp_seq _ (wp_createAccount passed listed) fun _ w changed => wp_updateFidoVerifiedUser changed plainText

theorem wp_useToken {userData : User × Option String} (passed : Passed process row w)
    (listed : userData.1 ∈ users.rows) :
    wp (sys svc users) (contract svc users) process (useToken row userData password)
      (upon (fun _ w => process ∉ w.pending) (Clean process)) w := by
  refine wp_seq (fun decrypted w => Passed process row w ∧ svc.decryptPassword password = some decrypted)
    (wp_answer rfl passed_stable (fun _ passed => passed.toClean) ?_ passed) fun decrypted w known => ?_
  · intro choice w after value carried
    simp only [carry,Option.some.injEq,Prod.mk.injEq] at carried
    split at carried
    · cases carried.2
    · rename_i decrypted same
      cases carried.2
      exact same
  · refine wp_seq (fun _ => Stored process row) ?_ fun _ w stored => ?_
    · refine (wp_tryCatch _ _ _ _).mpr (wp_mono ?_ (wp_changePassword known.1 listed known.2))
      rintro (error | value) w' ended <;> exact ended
    · refine wp_command stored_stable (fun before choice after answer sound stored fine handled => ?_) stored
      obtain ⟨outcome,carried,⟨fails,-,-⟩ | ⟨-,rfl⟩⟩ := handle_cases handled
      · exact absurd (fails.symm.trans fine) (by decide)
      · have any : (before.tokens.any fun other => other.id = row.id) = true :=
          List.any_eq_true.mpr ⟨row,using_there sound.toRecorded stored.toUsing,decide_eq_true rfl⟩
        simp only [carry,any,if_true] at carried
        cases carried
        refine ⟨sound_same sound (recorded_delete sound.toRecorded stored.toUsing) rfl rfl rfl rfl rfl,
            fun other apart => ?_,stored.pending⟩
        refine ⟨rfl,Iff.rfl,rfl,rfl,fun _ there => there,fun _ => List.mem_cons_of_mem _,fun entry there mine => ?_⟩
        rcases List.mem_cons.mp there with rfl | there
        · exact absurd mine.symm apart
        · exact there

theorem wp_resetTokenPassword {resetPasswordDto : UserResetPassword} (clean : Clean process w) :
    wp (sys svc users) (contract svc users) process (resetTokenPassword svc resetPasswordDto)
      (upon (fun _ w => process ∉ w.pending) (Clean process)) w := by
  refine wp_seq _ (wp_verifiedUser clean) fun userData w known => ?_
  obtain ⟨clean,listed⟩ := known
  refine wp_seq _ (wp_getResetPasswordTokenDetails clean) fun found w known => ?_
  cases found with
  | none => exact known.1
  | some row =>
    refine wp_seq _ (wp_expired (known.2 row rfl)) fun expired w known => ?_
    exact wp_branches _ (fun _ => known.1) fun fresh => wp_useToken (known.2 (Bool.eq_false_iff.mpr fresh)) listed

theorem wp_forgotPassword {email : String} (clean : Clean process w) :
    wp (sys svc users) (contract svc users) process (forgotPassword svc email)
      (upon (fun _ w => process ∉ w.pending) (Clean process)) w := by
  refine wp_seq _ (wp_verifiedUser clean) fun userData w known => ?_
  refine wp_seq (fun _ => Clean process) (wp_plain rfl clean_stable (fun _ clean => clean) known.1) fun row w clean => ?_
  refine (wp_tryCatch _ _ _ _).mpr (wp_mono ?_ (wp_plain rfl clean_stable (fun _ clean => clean) clean))
  rintro (error | value) w' ended
  · exact ended
  · exact ended.pending

theorem keeps : Keeps (sys svc users) (contract svc users) Settled where
  reflexive _ _ := undisturbed_refl
  transitive _ _ _ _ := undisturbed_trans
  stable _ _ _ _ settled relied _ := settled_stable settled relied
  idles _ _ _ clean relied _ := clean_stable _ _ clean relied
  arrives process input a b sound clean arrived := by
    cases arrived
    refine ⟨sound,fun _ _ => undisturbed_refl,?_⟩
    have ends : wp (sys svc users) (contract svc users) process ((sys svc users).program process input)
        (upon (fun _ w => process ∉ w.pending) (Clean process)) a := by
      cases input with
      | forgotPassword email => exact wp_forgotPassword clean
      | resetTokenPassword resetPasswordDto => exact wp_resetTokenPassword clean
    refine wp_mono ?_ ends
    rintro (error | value) w' ended
    · exact ⟨fun _ _ => ended.puts,ended.pending⟩
    · exact ⟨by rintro error ⟨⟩,ended⟩
  moves milliseconds a b sound _ moved := by
    cases moved
    exact ⟨sound_same sound (recorded_same sound.toRecorded rfl rfl rfl (Nat.le_add_right _ _)) rfl rfl rfl rfl rfl,
      fun _ => ⟨rfl,Iff.rfl,rfl,rfl,fun _ there => there,fun _ there => there,fun _ there _ => there⟩⟩

variable {m next : Machine Cmd Ret Failure Unit World}
/-- The call that changed a password last and still has to store it is not cut off. -/
def Uncut (m : Machine Cmd Ret Failure Unit World) : Prop :=
  ∀ process userId, m.world.last userId = some process → process ∈ m.world.pending → m.thread process ≠ .crashed

theorem carry_last (carried : carry svc users process c choice w = some (after,answer))
    (userId : Nat) : after.last userId = w.last userId ∨ after.last userId = some process := by
  cases c with
  | createTokenForResetPassword userId =>
    have created : createToken choice w userId = some (after,answer) := carried
    unfold createToken at created
    obtain ⟨-,same⟩ := Option.ite_none_left_eq_some.mp created
    split at same <;> (cases same; exact .inl rfl)
  | createUser user =>
    simp only [carry,Option.some.injEq] at carried
    split at carried <;> (cases carried; exact .inl rfl)
  | resetPasswordOfKeycloakUser token user password =>
    simp only [carry,Option.some.injEq] at carried
    split at carried
    · cases carried
      exact .inl rfl
    · cases carried
      by_cases same : userId = user.id
      · subst same
        exact .inr (Function.update_self _ _ _)
      · exact .inl (Function.update_of_ne same _ _)
  | deleteResetPasswordToken id =>
    simp only [carry,Option.some.injEq] at carried
    split at carried <;> (cases carried; exact .inl rfl)
  | _ => cases carried; exact .inl rfl

theorem handle_last (handled : handle svc users process c choice w = some (after,answer))
    (userId : Nat) : after.last userId = w.last userId ∨ after.last userId = some process := by
  obtain ⟨⟨outcome,reply⟩,carried,⟨-,-,rfl⟩ | ⟨-,same⟩⟩ := handle_cases handled
  · split
    · exact carry_last carried userId
    · exact .inl rfl
  · cases same
    exact carry_last carried userId

variable {action : Action Choice Input Env}
/-- A call that has changed the password reports so, unless it is cut off. -/
theorem step_uncut (safe : Safe (sys svc users) (contract svc users) Settled m)
    (uncut : Uncut m) (proper : Proper m action) (taken : step (sys svc users) m action = some next) : Uncut next := by
  intro other userId last waiting
  cases action with
  | start process input =>
    obtain ⟨-,world,arrived,rfl⟩ := step_start taken
    cases arrived
    dsimp only
    by_cases same : other = process
    · subst same
      rw [Function.update_self]
      rintro ⟨⟩
    · rw [Function.update_of_ne same]
      exact uncut other userId last waiting
  | advance process choice =>
    obtain ⟨command,resume,world,answer,stood,handled,rfl⟩ := step_advance taken
    dsimp only at last waiting ⊢
    by_cases same : other = process
    · subst same
      rw [Function.update_self]
      rintro ⟨⟩
    · rw [Function.update_of_ne same]
      obtain ⟨-,others,-⟩ := safe.live process _ stood m.world undisturbed_refl safe.inv choice world answer
        (proper command resume stood) handled
      refine uncut other userId ?_ ((others other same).pending.mp waiting)
      rcases handle_last handled userId with kept | own
      · exact kept.symm.trans last
      · exact absurd (Option.some.inj (last.symm.trans own)) same
  | crash process =>
    obtain ⟨-,rfl⟩ := step_crash taken
    dsimp only at last waiting ⊢
    by_cases same : other = process
    · subst same
      exact absurd waiting (proper userId last)
    · rw [Function.update_of_ne same]
      exact uncut other userId last waiting
  | environment milliseconds =>
    obtain ⟨world,happened,rfl⟩ := step_environment taken
    cases happened
    exact uncut other userId last waiting

theorem considered_of_proper (proper : Proper m action) :
    Considered (contract svc users) m action := by
  cases action with
  | advance process choice => exact proper
  | _ => trivial

theorem good_of_safe (safe : Safe (sys svc users) (contract svc users) Settled m) (uncut : Uncut m) :
    Good svc users m where
  single := safe.inv.single
  honest process error ended := (safe_ended safe ended).1 error rfl
  synced idle user listed fido account password found set_ := by
    rcases safe.inv.synced user listed fido account password found set_ with equal | ⟨latest,waiting,last⟩
    · exact equal
    · cases at_ : m.thread latest with
      | unused => exact absurd waiting (safe.idle latest at_).pending
      | crashed => exact absurd at_ (uncut latest user.id last waiting)
      | live p =>
        have rests := idle latest
        rw [at_] at rests
        cases p with
        | ret value => exact absurd waiting (safe_ended safe (by rw [at_]; rfl)).2
        | fail error => exact absurd waiting (safe_ended safe (by rw [at_]; rfl)).2
        | await command resume => cases rests

end

/-- Tokens that there were before, stored passwords and accounts. -/
def World.initial (now : Nat) (tokens : List Token) (password keycloakUserId : Nat → Option String)
    (accounts : Nat → Option Account) : World :=
  ⟨now,tokens,tokens,password,keycloakUserId,accounts,[],fun _ => [],fun _ => [],fun _ => none,fun _ => none,[]⟩

instance (process token : Nat) (w : World) : (entry : Entry) → Decidable (Before process token w entry)
  | .changed _ _ => inferInstanceAs (Decidable (_ = _ → _ ∈ w.read process))
  | .lapsed _ _ => inferInstanceAs (Decidable (_ = _ → _ ∈ w.checked process))
  | .deleted _ _ => isTrue trivial
instance (process : Nat) (w : World) (choice : Choice) : (c : Cmd) → Decidable (Fine process w choice c)
  | .resetPasswordOfKeycloakUser token _ _ => inferInstanceAs (Decidable ((choice.fails = true → choice.done = false) ∧
      (choice.fails = false → ∀ entry ∈ w.log, Before process token w entry)))
  | .updateUserDetails _ _ => inferInstanceAs (Decidable (choice.fails = false))
  | .addUserPassword user _ => inferInstanceAs (Decidable (choice.fails = false ∧
      ∀ latest ∈ w.last user.id, latest = process ∨ latest ∈ w.pending))
  | .deleteResetPasswordToken _ => inferInstanceAs (Decidable (choice.fails = false))
  | .checkUserExist _ => isTrue trivial
  | .createTokenForResetPassword _ => isTrue trivial
  | .sendEmailForResetPassword _ => isTrue trivial
  | .getResetPasswordTokenDetails _ _ => isTrue trivial
  | .expired _ => isTrue trivial
  | .decryptPassword _ => isTrue trivial
  | .getManagementToken => isTrue trivial
  | .createUser _ => isTrue trivial
  | .findKeycloakUser _ => isTrue trivial

/-- A proper step that cuts no call off. -/
def Stepping (m : Machine Cmd Ret Failure Unit World) : Action Choice Input Env → Prop
  | .advance process choice => ∀ c ∈ (m.thread process).awaited, Fine process m.world choice c
  | .crash _ => False
  | _ => True
instance (m : Machine Cmd Ret Failure Unit World) : (a : Action Choice Input Env) → Decidable (Stepping m a)
  | .advance process choice =>
      inferInstanceAs (Decidable (∀ c ∈ (m.thread process).awaited, Fine process m.world choice c))
  | .crash _ => isFalse id
  | .start _ _ => isTrue trivial
  | .environment _ => isTrue trivial

theorem proper_of_stepping {m : Machine Cmd Ret Failure Unit World} {action : Action Choice Input Env}
    (stepping : Stepping m action) : Proper m action := by
  cases action with
  | advance process choice => exact fun command resume at_ => stepping command (by rw [at_]; rfl)
  | crash process => exact stepping.elim
  | _ => trivial
def ada : User := ⟨1,"ada@acme.org",true,true⟩
def onlyAda : Users where
  rows := [ada]
  ids a here b there _ := by rw [List.mem_singleton.mp here,List.mem_singleton.mp there]
def services : Services where
  toLowerCase text := text
  isEmail _ := true
  decryptPassword
    | "c1" => some "old"
    | "c2" => some "new"
    | _ => none
def oneToken : World :=
  .initial 0 [⟨7,"code",1,hour⟩] (fun _ => some "c1") (fun _ => some "k1") fun _ => some ⟨"k1",some "old"⟩
theorem synced_oneToken : Synced services onlyAda oneToken := by
  intro user listed fido account password found set_
  cases found
  exact set_
def newPassword : Input := .resetTokenPassword ⟨"ada@acme.org","c2","code"⟩
def well (process : Nat) : Action Choice Input Env := .advance process ⟨false,true,0,""⟩
def resetOnce : List (Action Choice Input Env) := .start 0 newPassword :: List.replicate 9 (well 0)
end Ngotag.PasswordReset
