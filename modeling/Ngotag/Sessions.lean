import Ngotag.JwtStrategy
import Ngotag.Serial

/-!
The sessions of users. A sign-in stores a session under the id that Keycloak gave it, a
refresh replaces its tokens, and it is deleted by a signout, by its user, by a refresh
with an expired token and, once it expired, by the next sign-in of the user, which does
not wait for that. Every authenticated request looks its session up first.
-/
namespace Ngotag.Sessions
open Await
open JwtStrategy (JwtPayload uuidRegex)

/-- A row of `session`; the times are in milliseconds. -/
structure Session where
  id : String
  sessionToken : Option String
  userId : String
  refreshToken : Option String
  expiresAt : Option Nat
def Session.expired (now : Nat) (row : Session) : Bool := row.expiresAt.any (· < now)
structure User where
  id : String
  email : Option String
  username : Option String
  isEmailVerified : Bool
  isFidoVerified : Bool
  password : Option String
/-- What `jwt.decode` reads from a token, in seconds. -/
structure Decoded where
  sub : Option String
  sid : Option String
  exp : Option Nat
structure TokenResponse where
  accessToken : Option String
  refreshToken : Option String
  sessionState : Option String

/-- The configuration, and what the platform relies on Keycloak for: a token is refreshed
    only if it is a refresh token that Keycloak signed, and the new tokens are of the
    session of that token. -/
structure Services where
  toLowerCase : String → String
  isEmail : String → Bool
  SESSIONS_LIMIT : Nat
  decode : String → Option Decoded
  /-- Whether the text is a refresh token with the signature of Keycloak. -/
  genuine : String → Bool
  /-- Whether Keycloak may answer the refresh token with the tokens. -/
  refreshes : String → TokenResponse → Prop
  refreshes_genuine : ∀ {token response}, refreshes token response → genuine token = true
  refreshes_session : ∀ {token response id}, refreshes token response → response.sessionState = some id →
    ∃ data, decode token = some data ∧ data.sid = some id

def Refreshed (svc : Services) (refreshToken : String) : Type :=
  { response : TokenResponse // svc.refreshes refreshToken response }
/-- On whose behalf a row is changed: of who presents a refresh token, or of the user that
    the request was authenticated as, if it is one. -/
inductive Caller where
  | token (refreshToken : String)
  | user (userId : Option String)

inductive Cmd (svc : Services) where
  | decryptPassword (password : Option String)
  | checkUserExist (email : String)
  | checkUserExistByUsername (username : String)
  | getUserDetails (email : String)
  /-- The start of the deletion, whose end is not awaited. -/
  | deleteInactiveSessions (userId : String)
  | fetchUserSessions (userId : String)
  | generateToken (name password : String) (userData : User)
  | checkAccountDetails (userId : String)
  | addAccountDetails (userId : String)
  | createSession (tokenDetails : Session)
  | currentTime
  | getUserByKeycloakId (sub : Option String)
  | getAccessToken (refreshToken : String)
  | getSession (sessionId : Option String)
  | updateSessionToken (refreshToken : String) (tokenResponse : Refreshed svc refreshToken) (expiresAt : Nat)
  | deleteSession (refreshToken : String) (sessionId : Option String)
  | destroySession (user : Option String) (sessions : List String)
  | deleteSessionBySessionId (sessionId : String) (userId : Option String)
  | findOrganizationOwner (clientId : String)
  | findUserinKeycloak (sub : Option String)
  /-- The answer to the statement before arrives. -/
  | delivered

def Ret (svc : Services) : Cmd svc → Type
  | .decryptPassword _ => String
  | .checkUserExist _ => Option User
  | .checkUserExistByUsername _ => Option User
  | .getUserDetails _ => Option User
  | .fetchUserSessions _ => List Session
  | .generateToken _ _ _ => TokenResponse
  | .checkAccountDetails _ => Bool
  | .currentTime => Nat
  | .getUserByKeycloakId _ => Option User
  | .getAccessToken refreshToken => Refreshed svc refreshToken
  | .getSession _ => Option Session
  | .findOrganizationOwner _ => Option (List String)
  | .findUserinKeycloak _ => Option String
  | _ => Unit

inductive Failure where
  /-- `ResponseMessages.user.error.invalidEmail` -/
  | invalidEmail
  /-- `ResponseMessages.user.error.notFound` -/
  | notFound
  /-- `ResponseMessages.user.error.verifyMail` -/
  | verifyMail
  /-- `ResponseMessages.user.error.registerFido` -/
  | registerFido
  /-- `ResponseMessages.user.error.sessionLimitReached` -/
  | sessionLimitReached
  /-- `ResponseMessages.user.error.refreshTokenExpired` -/
  | refreshTokenExpired
  | userAccountNotFound
  | userSessionNotFound
  /-- `ResponseMessages.user.error.invalidAccessToken` -/
  | invalidAccessToken
  /-- `ResponseMessages.organisation.error.orgNotFound` -/
  | orgNotFound
  | recordNotFound
  | other

inductive Response where
  | signedIn (sessionId : String)
  | refreshed (tokenResponse : TokenResponse)
  | done
structure LoginUserDto where
  name : String
  password : Option String
  isPasskey : Option Bool

section
variable (svc : Services)

abbrev Async := Prog (Cmd svc) (Ret svc) Failure

variable {svc} in
def perform (command : Cmd svc) : Async svc (Ret svc command) := call command
/-- The deletion of the expired sessions is started, and all that there are are counted. -/
def countSessions (userId : String) : Async svc Unit := do
  let _ : Unit ← perform (.deleteInactiveSessions userId)
  let userSessionDetails : List Session ← perform (.fetchUserSessions userId)
  if svc.SESSIONS_LIMIT ≤ userSessionDetails.length then throw .sessionLimitReached else pure ()
def ensureAccount (userId : String) : Async svc Unit := do
  let fetchAccountDetails : Bool ← perform (.checkAccountDetails userId)
  if fetchAccountDetails = true then pure () else perform (.addAccountDetails userId)
/-- The session id of the refresh token among the tokens. -/
def sidOf (tokens : TokenResponse) : Option String := (tokens.refreshToken.bind svc.decode).bind Decoded.sid

/-- The session is stored under the id of Keycloak. -/
def storeSession (userData : User) (tokenDetails : TokenResponse) : Async svc Response :=
  match ((tokenDetails.refreshToken.bind svc.decode).bind Decoded.exp).filter (· ≠ 0),
    (sidOf svc tokenDetails).filter (· ≠ "") with
  | some exp,some sid => do
    ensureAccount svc userData.id
    let _ : Unit ← perform (.createSession
      ⟨sid,tokenDetails.accessToken,userData.id,tokenDetails.refreshToken,some (exp * 1000)⟩)
    pure (.signedIn sid)
  | _,_ => throw .refreshTokenExpired

def tokensOf (name : String) (userData : User) (password : Option String) : Async svc TokenResponse := do
  let decryptedPassword : String ← perform (.decryptPassword password)
  perform (.generateToken name decryptedPassword userData)
def passwordless (userData : User) (isPasskey : Option Bool) : Bool :=
  isPasskey = some true && userData.username.any (· ≠ "") && userData.isFidoVerified
/-- The stored password of the row with the e-mail of the user. -/
def storedPassword (userData : User) : Async svc (Option String) :=
  match userData.email with
  | none => throw .other
  | some email => do
    let getUserDetails : Option User ← perform (.getUserDetails (svc.toLowerCase email))
    match getUserDetails with
    | none => throw .other
    | some row => pure row.password
def passwordOf (userData : User) (loginUserDto : LoginUserDto) : Async svc (Option String) :=
  if passwordless userData loginUserDto.isPasskey = true then storedPassword svc userData
  else pure loginUserDto.password

def login (loginUserDto : LoginUserDto) : Async svc Response := do
  let email := svc.toLowerCase loginUserDto.name
  if svc.isEmail (svc.toLowerCase email) = false then throw .invalidEmail
  else do
    let userData : Option User ← perform (.checkUserExist email)
    match userData with
    | none => throw .notFound
    | some userData =>
      if userData.isEmailVerified = false then throw .verifyMail
      else if loginUserDto.isPasskey = some true ∧ userData.isFidoVerified = false then throw .registerFido
      else do
        countSessions svc userData.id
        let password : Option String ← passwordOf svc userData loginUserDto
        let tokenDetails : TokenResponse ← tokensOf svc email userData password
        storeSession svc userData tokenDetails

def usernameLogin (loginUserDto : LoginUserDto) : Async svc Response := do
  let userData : Option User ← perform (.checkUserExistByUsername loginUserDto.name)
  match userData with
  | none => throw .notFound
  | some userData =>
    if loginUserDto.isPasskey = some true ∧ userData.isFidoVerified = false then throw .registerFido
    else do
      countSessions svc userData.id
      let tokenDetails : TokenResponse ← tokensOf svc loginUserDto.name userData
        (if passwordless userData loginUserDto.isPasskey = true then userData.password else loginUserDto.password)
      storeSession svc userData tokenDetails

/-- With tokens of Keycloak at hand. -/
def replaceTokens (refreshToken : String) (data : Decoded) (userId : String)
    (tokenResponse : Refreshed svc refreshToken) : Async svc Response := do
  let userAccountDetails : Bool ← perform (.checkAccountDetails userId)
  if userAccountDetails = false then throw .userAccountNotFound
  else do
    let sessionDetails : Option Session ← perform (.getSession data.sid)
    if sessionDetails.isNone = true then throw .userSessionNotFound
    else match (tokenResponse.val.refreshToken.bind svc.decode).bind Decoded.exp with
      | none => throw .other
      | some exp => do
        let _ : Unit ← perform (.updateSessionToken refreshToken tokenResponse (exp * 1000))
        -- Others may run between the statement and the return of the tokens.
        let _ : Unit ← perform .delivered
        pure (.refreshed tokenResponse.val)

/-- The token is only decoded before the session of an expired one is deleted. -/
def refreshTokenDetails (refreshToken : String) : Async svc Response :=
  match svc.decode refreshToken with
  | none => throw .other
  | some data => do
    let currentTime : Nat ← perform .currentTime
    if data.exp.any (· * 1000 < currentTime) = true then do
      let _ : Unit ← perform (.deleteSession refreshToken data.sid)
      throw .refreshTokenExpired
    else do
      let userByKeycloakId : Option User ← perform (.getUserByKeycloakId data.sub)
      match userByKeycloakId with
      -- Without the client of the user no tokens are asked for.
      | none => throw .other
      | some user => do
        let tokenResponse : Refreshed svc refreshToken ← perform (.getAccessToken refreshToken)
        replaceTokens svc refreshToken data user.id tokenResponse

/-- `checkSession` of the gateway, whose exception is only logged. -/
def checkSession (sessionId : String) : Async svc (Option Session) :=
  Prog.tryCatch (perform (.getSession (some sessionId))) fun _ => pure none

/-- The user of the database that the payload is about. -/
def lookup (payload : JwtPayload) : Async svc (Option String) :=
  match payload.clientId with
  | none => do
    let userDetails : Option String ← perform (.findUserinKeycloak payload.sub)
    match userDetails with
    | none => throw .notFound
    | some userId => pure (some userId)
  | some clientId =>
    if uuidRegex clientId = true then do
      let orgDetails : Option (List String) ← perform (.findOrganizationOwner clientId)
      match orgDetails with
      | none => throw .orgNotFound
      | some [] => throw .other
      | some (owner :: _) => pure (some owner)
    else pure none

/-- `JwtStrategy.validate`, with the id of the user that the request gets. -/
def validate (payload : JwtPayload) : Async svc (Option String) :=
  match payload.sid.filter (· ≠ "") with
  | none => lookup svc payload
  | some sessionId => do
    let sessionDetails : Option Session ← checkSession svc sessionId
    if sessionDetails.isNone = true then throw .invalidAccessToken else lookup svc payload
inductive Request where
  | signout (sessions : Option (List String))
  | deleteSession (sessionId : String)
  | another
def logout (user : Option String) (sessions : Option (List String)) : Async svc Response :=
  match sessions with
  | none => pure .done
  | some sessions => do
    let _ : Unit ← perform (.destroySession user sessions)
    pure .done
def serve (user : Option String) : Request → Async svc Response
  | .signout sessions => logout svc user sessions
  | .deleteSession sessionId => do
    let _ : Unit ← perform (.deleteSessionBySessionId sessionId user)
    pure .done
  | .another => pure .done
/-- A request with a token whose signature was verified. -/
def authenticated (payload : JwtPayload) (request : Request) : Async svc Response := do
  let user : Option String ← validate svc payload
  serve svc user request
inductive Input where
  | login (loginUserDto : LoginUserDto)
  | usernameLogin (loginUserDto : LoginUserDto)
  | refreshToken (refreshToken : String)
  | request (payload : JwtPayload) (request : Request)

/-- `purges` are the deletions of expired sessions that were started, with their users and
    their times. The rest records what happened: `drawn` the session ids that Keycloak gave,
    with the calls, `stored` the ids that ever had a row, `created` those of sign-ins and
    `deleted` those of deleted rows; `changes` who changed which row of another call;
    `calls` what each process was started for, `counted` whose sessions it counted, and
    `raced` whether a sign-in stored one of them since; `crowded` the users that, while a
    process was running, had as many unexpired sessions as they may at some moment. -/
structure World where
  now : Nat
  sessions : List Session
  purges : List (String × Nat)
  drawn : List (Nat × String)
  stored : List String
  created : List String
  deleted : List String
  changes : List (Caller × Session)
  calls : Nat → Option Input
  counted : Nat → Option String
  raced : Nat → Bool
  crowded : Nat → String → Bool

/-- Whether the command fails, and what the others answer. -/
structure Choice (svc : Services) where
  fails : Bool
  user : Option User
  owners : Option (List String)
  text : String
  account : Bool
  tokens : TokenResponse
  refreshed : (refreshToken : String) → Option (Refreshed svc refreshToken)

def World.unexpired (w : World) (userId : String) : List Session :=
  w.sessions.filter fun row => row.userId = userId && !row.expired w.now
/-- What can be seen at a moment is recorded for those that are running. -/
def World.observed (limit : Nat) (w : World) : World :=
  { w with crowded := fun process userId => w.crowded process userId || limit ≤ (w.unexpired userId).length }
def World.drop (w : World) (gone : Session → Bool) : World :=
  { w with
    sessions := w.sessions.filter fun row => !gone row
    deleted := (w.sessions.filter gone).map Session.id ++ w.deleted }
/-- Rows are deleted on behalf of a caller. -/
def World.dropBy (w : World) (caller : Caller) (gone : Session → Bool) : World :=
  { w.drop gone with changes := (w.sessions.filter gone).map (fun row => (caller,row)) ++ w.changes }
def World.inserted (w : World) (row : Session) : World :=
  { w with
    sessions := row :: w.sessions
    stored := row.id :: w.stored
    created := row.id :: w.created
    raced := fun process => w.raced process || w.counted process = some row.userId }
def World.counts (w : World) (process : Nat) (userId : String) : World :=
  { w with
    counted := Function.update w.counted process (some userId)
    raced := Function.update w.raced process false }
def replaced (id : String) (tokens : TokenResponse) (expiresAt : Nat) (row : Session) : Session :=
  if row.id = id then
    { row with sessionToken := tokens.accessToken, refreshToken := tokens.refreshToken, expiresAt := some expiresAt }
  else row
/-- The tokens of a row are replaced for who presents a refresh token. -/
def World.updated (w : World) (refreshToken id : String) (tokens : TokenResponse) (expiresAt : Nat) : World :=
  { w with
    sessions := w.sessions.map (replaced id tokens expiresAt)
    changes := (w.sessions.filter fun row => row.id = id).map (fun row => (.token refreshToken,row)) ++ w.changes }
def answered {β : Type} (w : World) (value : β) : Option (World × Except Failure β) := some (w,.ok value)

/-- Keycloak uses no session id twice. -/
def generate (process : Nat) (tokens : TokenResponse) (w : World) : Option (World × Except Failure TokenResponse) :=
  match sidOf svc tokens with
  | none => answered w tokens
  | some sid =>
    if sid ∈ w.stored ∨ sid ∈ w.drawn.map Prod.snd then none
    else some ({ w with drawn := (process,sid) :: w.drawn },.ok tokens)
/-- Rows found are deleted, and where there is none it is an exception. -/
def deleteFound (w : World) (caller : Caller) (gone : Session → Bool) : Option (World × Except Failure Unit) :=
  if w.sessions.any gone = true then some (w.dropBy caller gone,.ok ()) else some (w,.error .recordNotFound)
def create (w : World) (row : Session) : Option (World × Except Failure Unit) :=
  if (w.sessions.any fun other => other.id = row.id) = true then some (w,.error .other)
  else some (w.inserted row,.ok ())
def update (w : World) (refreshToken : String) (tokens : TokenResponse) (expiresAt : Nat) :
    Option (World × Except Failure Unit) :=
  match tokens.sessionState.filter (· ≠ "") with
  | none => some (w,.error .other)
  | some id =>
    if (w.sessions.any fun row => row.id = id) = true then some (w.updated refreshToken id tokens expiresAt,.ok ())
    else some (w,.error .recordNotFound)

/-- A command that does not fail. A filter without a user id is none. -/
def carry (process : Nat) (c : Cmd svc) (choice : Choice svc) (w : World) :
    Option (World × Except Failure (Ret svc c)) :=
  match c with
  | .decryptPassword _ => answered (β := String) w choice.text
  | .checkUserExist _ => answered (β := Option User) w choice.user
  | .checkUserExistByUsername _ => answered (β := Option User) w choice.user
  | .getUserDetails _ => answered (β := Option User) w choice.user
  | .deleteInactiveSessions userId => some ({ w with purges := w.purges ++ [(userId,w.now)] },.ok ())
  | .fetchUserSessions userId =>
    some (w.counts process userId,
      .ok (w.sessions.filter (·.userId = userId)))
  | .generateToken _ _ _ => generate svc process choice.tokens w
  | .checkAccountDetails _ => answered (β := Bool) w choice.account
  | .addAccountDetails _ => answered (β := Unit) w ()
  | .createSession row => create w row
  | .currentTime => answered (β := Nat) w w.now
  | .getUserByKeycloakId _ => answered (β := Option User) w choice.user
  | .getAccessToken refreshToken => (choice.refreshed refreshToken).bind fun response => some (w,.ok response)
  | .getSession sessionId => match sessionId with
    | none => some (w,.error .other)
    | some id => answered (β := Option Session) w (w.sessions.find? (·.id = id))
  | .updateSessionToken refreshToken response expiresAt => update w refreshToken response.val expiresAt
  | .deleteSession refreshToken sessionId => match sessionId with
    | none => some (w,.error .other)
    | some id => deleteFound w (.token refreshToken) fun row => row.id = id
  | .destroySession user sessions => some (w.dropBy (.user user) fun row => row.id ∈ sessions,.ok ())
  | .deleteSessionBySessionId sessionId userId =>
    deleteFound w (.user userId) fun row => row.id = sessionId && userId.all (· = row.userId)
  | .findOrganizationOwner _ => answered (β := Option (List String)) w choice.owners
  | .findUserinKeycloak _ => answered (β := Option String) w (choice.user.map User.id)
  | .delivered => answered (β := Unit) w ()

def handle (process : Nat) (c : Cmd svc) (choice : Choice svc) (w : World) :
    Option (World × Except Failure (Ret svc c)) :=
  if choice.fails = true then some (w,.error .other)
  else (carry svc process c choice w).map fun outcome => (outcome.1.observed svc.SESSIONS_LIMIT,outcome.2)
inductive Env where
  | elapse (milliseconds : Nat)
  /-- The end of a deletion that nobody awaits, or its failure. -/
  | purge (started : Nat) (fails : Bool)
/-- The expired sessions of a user, as of the time when their deletion was started. -/
def purged (purge : String × Nat) (row : Session) : Bool := row.userId = purge.1 && row.expired purge.2

def environment (event : Env) (w : World) : Option World :=
  match event with
  | .elapse milliseconds => some { w with now := w.now + milliseconds }
  | .purge started fails => (w.purges[started]?).map fun purge =>
    let rest := { w with purges := w.purges.eraseIdx started }
    if fails = true then rest else rest.drop (purged purge)
def arrive (process : Nat) (input : Input) (w : World) : World :=
  { w with
    calls := Function.update w.calls process (some input)
    crowded := Function.update w.crowded process fun userId => svc.SESSIONS_LIMIT ≤ (w.unexpired userId).length }
def program : Input → Async svc Response
  | .login loginUserDto => login svc loginUserDto
  | .usernameLogin loginUserDto => usernameLogin svc loginUserDto
  | .refreshToken refreshToken => refreshTokenDetails svc refreshToken
  | .request payload request => authenticated svc payload request
/-- The platform, where only some calls are made. -/
def sys (served : Input → Bool) : System (Cmd svc) (Ret svc) Failure Response World (Choice svc) Input Env where
  handle := handle svc
  arrive process input w := if served input = true then some (arrive svc process input w) else none
  program _ := program svc
  environment event w := (environment event w).map (World.observed svc.SESSIONS_LIMIT)
/-- Sessions that there were before, of which nothing is recorded. -/
def World.initial (now : Nat) (sessions : List Session) : World :=
  ⟨now,sessions,[],[],sessions.map Session.id,[],[],[],fun _ => none,fun _ => none,fun _ => false,fun _ _ => false⟩
def Input.signsIn : Input → Bool
  | .login _ => true
  | .usernameLogin _ => true
  | _ => false

/-- Sessions are counted and stored by sign-ins only. A refresh deletes or updates for its
    own token, and deletes no session but the one that the token names. -/
def Issues (input : Input) : Cmd svc → Prop
  | .fetchUserSessions _ => input.signsIn = true
  | .generateToken _ _ _ => input.signsIn = true
  | .createSession row => input.signsIn = true ∧ row.id ≠ ""
  | .updateSessionToken refreshToken _ _ => input = .refreshToken refreshToken
  | .deleteSession refreshToken sessionId =>
    input = .refreshToken refreshToken ∧ ∃ data, svc.decode refreshToken = some data ∧ data.sid = sessionId
  | _ => True

section
variable {svc} {input : Input}

theorem issues_perform {c : Cmd svc} (issues : Issues svc input c) : Only (Issues svc input) (perform c) :=
  (only_call c).mpr issues
theorem issues_countSessions (signsIn : input.signsIn = true) (userId : String) :
    Only (Issues svc input) (countSessions svc userId) :=
  only_bind (issues_perform trivial) fun _ => only_bind (issues_perform signsIn) fun _ => only_ite _ trivial trivial
theorem issues_ensureAccount (userId : String) : Only (Issues svc input) (ensureAccount svc userId) :=
  only_bind (issues_perform trivial) fun _ => only_ite _ trivial (issues_perform trivial)
theorem issues_storeSession (signsIn : input.signsIn = true) (userData : User) (tokenDetails : TokenResponse) :
    Only (Issues svc input) (storeSession svc userData tokenDetails) := by
  unfold storeSession
  split
  · rename_i exp sid _ named
    refine only_bind (issues_ensureAccount _) fun _ => only_bind (issues_perform ⟨signsIn,?_⟩) fun _ => trivial
    simpa using (Option.filter_eq_some_iff.mp named).2
  · trivial
theorem issues_tokensOf (signsIn : input.signsIn = true) (name : String) (userData : User) (password : Option String) :
    Only (Issues svc input) (tokensOf svc name userData password) :=
  only_bind (issues_perform trivial) fun _ => issues_perform signsIn
theorem issues_storedPassword (userData : User) : Only (Issues svc input) (storedPassword svc userData) := by
  unfold storedPassword
  cases userData.email with
  | none => trivial
  | some email =>
    refine only_bind (issues_perform trivial) fun row => ?_
    cases row <;> trivial
theorem issues_login (loginUserDto : LoginUserDto) :
    Only (Issues svc (.login loginUserDto)) (login svc loginUserDto) := by
  refine only_ite _ trivial (only_bind (issues_perform trivial) fun userData => ?_)
  cases userData with
  | none => trivial
  | some userData =>
    refine only_ite _ trivial (only_ite _ trivial (only_bind (issues_countSessions rfl _) fun _ => ?_))
    refine only_bind (only_ite _ (issues_storedPassword _) trivial) fun _ => ?_
    exact only_bind (issues_tokensOf rfl _ _ _) fun _ => issues_storeSession rfl _ _
theorem issues_usernameLogin (loginUserDto : LoginUserDto) :
    Only (Issues svc (.usernameLogin loginUserDto)) (usernameLogin svc loginUserDto) := by
  refine only_bind (issues_perform trivial) fun userData => ?_
  cases userData with
  | none => trivial
  | some userData =>
    refine only_ite _ trivial (only_bind (issues_countSessions rfl _) fun _ => ?_)
    exact only_bind (issues_tokensOf rfl _ _ _) fun _ => issues_storeSession rfl _ _
theorem issues_replaceTokens (refreshToken : String) (data : Decoded) (userId : String)
    (tokenResponse : Refreshed svc refreshToken) :
    Only (Issues svc (.refreshToken refreshToken)) (replaceTokens svc refreshToken data userId tokenResponse) := by
  refine only_bind (issues_perform trivial) fun _ => only_ite _ trivial (only_bind (issues_perform trivial) fun _ => ?_)
  refine only_ite _ trivial ?_
  split
  · trivial
  · exact only_bind (issues_perform rfl) fun _ => only_bind (issues_perform trivial) fun _ => trivial

theorem issues_refreshTokenDetails (refreshToken : String) :
    Only (Issues svc (.refreshToken refreshToken)) (refreshTokenDetails svc refreshToken) := by
  unfold refreshTokenDetails
  cases decoded : svc.decode refreshToken with
  | none => trivial
  | some data =>
    refine only_bind (issues_perform trivial) fun now =>
      only_ite _ (only_bind (issues_perform ⟨rfl,data,decoded,rfl⟩) fun _ => trivial) ?_
    refine only_bind (issues_perform trivial) fun user => ?_
    cases user with
    | none => trivial
    | some user => exact only_bind (issues_perform trivial) fun _ => issues_replaceTokens _ _ _ _

theorem issues_lookup (payload : JwtPayload) : Only (Issues svc input) (lookup svc payload) := by
  unfold lookup
  cases payload.clientId with
  | none =>
    refine only_bind (issues_perform trivial) fun details => ?_
    cases details <;> trivial
  | some clientId =>
    refine only_ite _ (only_bind (issues_perform trivial) fun details => ?_) trivial
    rcases details with _ | _ | ⟨owner,rest⟩ <;> trivial
theorem issues_validate (payload : JwtPayload) : Only (Issues svc input) (validate svc payload) := by
  unfold validate
  cases payload.sid.filter (· ≠ "") with
  | none => exact issues_lookup payload
  | some sessionId =>
    refine only_bind (only_tryCatch (issues_perform trivial) fun _ => trivial) fun _ => ?_
    exact only_ite _ trivial (issues_lookup payload)
theorem issues_serve (user : Option String) (request : Request) : Only (Issues svc input) (serve svc user request) := by
  cases request with
  | signout sessions =>
    cases sessions with
    | none => trivial
    | some sessions => exact only_bind (issues_perform trivial) fun _ => trivial
  | deleteSession sessionId => exact only_bind (issues_perform trivial) fun _ => trivial
  | another => trivial
theorem issues_program (input : Input) : Only (Issues svc input) (program svc input) := by
  cases input with
  | login loginUserDto => exact issues_login loginUserDto
  | usernameLogin loginUserDto => exact issues_usernameLogin loginUserDto
  | refreshToken refreshToken => exact issues_refreshTokenDetails refreshToken
  | request payload request => exact only_bind (issues_validate payload) fun user => issues_serve user request

end

variable {svc}
/-- What a command that does not fail leaves. -/
inductive Effect (process : Nat) (w : World) : Cmd svc → World → Prop where
  | nothing {c : Cmd svc} : Effect process w c w
  | begun (userId : String) :
    Effect process w (.deleteInactiveSessions userId) { w with purges := w.purges ++ [(userId,w.now)] }
  | counted (userId : String) : Effect process w (.fetchUserSessions userId) (w.counts process userId)
  | dropped {c : Cmd svc} (caller : Caller) (gone : Session → Bool) : Effect process w c (w.dropBy caller gone)
  | replaced {refreshToken id : String} {response : Refreshed svc refreshToken} {expiresAt : Nat}
    (state : response.val.sessionState = some id) (there : ∃ row ∈ w.sessions, row.id = id) :
    Effect process w (.updateSessionToken refreshToken response expiresAt)
      (w.updated refreshToken id response.val expiresAt)
  | drawn {name password sid : String} {userData : User} (unstored : sid ∉ w.stored)
    (undrawn : sid ∉ w.drawn.map Prod.snd) :
    Effect process w (.generateToken name password userData) { w with drawn := (process,sid) :: w.drawn }
  | inserted {row : Session} (absent : ∀ other ∈ w.sessions, other.id ≠ row.id) :
    Effect process w (.createSession row) (w.inserted row)

variable {process : Nat} {c : Cmd svc} {choice : Choice svc} {w after : World}
theorem deleteFound_effect {caller : Caller} {gone : Session → Bool} {answer : Except Failure Unit}
    (deleted : deleteFound w caller gone = some (after,answer)) : Effect process w c after := by
  unfold deleteFound at deleted
  split at deleted
  · cases deleted
    exact .dropped caller gone
  · cases deleted
    exact .nothing

theorem carry_effect {answer : Except Failure (Ret svc c)}
    (carried : carry svc process c choice w = some (after,answer)) :
    Effect process w c after := by
  cases c with
  | deleteInactiveSessions userId => cases carried; exact .begun userId
  | fetchUserSessions userId => cases carried; exact .counted userId
  | generateToken name password userData =>
    simp only [carry,generate] at carried
    cases sid : sidOf svc choice.tokens with
    | none => rw [sid] at carried; cases carried; exact .nothing
    | some sid' =>
      rw [sid] at carried
      by_cases used : sid' ∈ w.stored ∨ sid' ∈ w.drawn.map Prod.snd
      · simp only [used,if_true] at carried
        cases carried
      · simp only [used,if_false] at carried
        cases carried
        exact .drawn (fun stored => used (.inl stored)) fun drawn => used (.inr drawn)
  | createSession row =>
    simp only [carry,create] at carried
    by_cases any : (w.sessions.any fun other => other.id = row.id) = true
    · rw [if_pos any] at carried
      cases carried
      exact .nothing
    · rw [if_neg any] at carried
      cases carried
      exact .inserted (by simpa using any)
  | getAccessToken refreshToken =>
    simp only [carry,Option.bind_eq_some_iff] at carried
    obtain ⟨response,-,same⟩ := carried
    cases same
    exact .nothing
  | getSession sessionId => cases sessionId <;> (cases carried; exact .nothing)
  | updateSessionToken refreshToken response expiresAt =>
    simp only [carry,update] at carried
    cases state : response.val.sessionState.filter (· ≠ "") with
    | none => rw [state] at carried; cases carried; exact .nothing
    | some id =>
      rw [state] at carried
      by_cases any : (w.sessions.any fun row => row.id = id) = true
      · simp only [any,if_true] at carried
        cases carried
        exact .replaced (Option.filter_eq_some_iff.mp state).1 (by simpa using any)
      · simp only [any] at carried
        cases carried
        exact .nothing
  | deleteSession refreshToken sessionId =>
    cases sessionId with
    | none => cases carried; exact .nothing
    | some id => exact deleteFound_effect carried
  | destroySession user sessions => cases carried; exact .dropped _ _
  | deleteSessionBySessionId sessionId userId => exact deleteFound_effect carried
  | _ => cases carried; exact .nothing

theorem handle_effect {answer : Except Failure (Ret svc c)}
    (handled : handle svc process c choice w = some (after,answer)) :
    choice.fails = true ∧ after = w ∧ answer = .error .other ∨
      choice.fails = false ∧ ∃ middle, Effect process w c middle ∧ after = middle.observed svc.SESSIONS_LIMIT ∧
        carry svc process c choice w = some (middle,answer) := by
  unfold handle at handled
  by_cases fails : choice.fails = true
  · rw [if_pos fails] at handled
    cases handled
    exact .inl ⟨fails,rfl,rfl⟩
  · rw [if_neg fails] at handled
    obtain ⟨⟨middle,reply⟩,carried,rest⟩ := Option.map_eq_some_iff.mp handled
    cases rest
    exact .inr ⟨by simpa using fails,middle,carry_effect carried,rfl,carried⟩

theorem environment_cases {event : Env} (happened : environment event w = some after) :
    (∃ milliseconds, after = { w with now := w.now + milliseconds }) ∨
      ∃ started purge, w.purges[started]? = some purge ∧
        (after = { w with purges := w.purges.eraseIdx started } ∨
          after = { w with purges := w.purges.eraseIdx started }.drop (purged purge)) := by
  cases event with
  | elapse milliseconds => cases happened; exact .inl ⟨milliseconds,rfl⟩
  | purge started fails =>
    obtain ⟨purge,found,rfl⟩ := Option.map_eq_some_iff.mp happened
    refine .inr ⟨started,purge,found,?_⟩
    cases fails with
    | false => exact .inr rfl
    | true => exact .inl rfl

variable {served : Input → Bool}
theorem traced : Traced (sys svc served) World.calls where
  arrives process input a b arrived := by
    obtain ⟨-,same⟩ := Option.ite_none_right_eq_some.mp arrived
    obtain rfl := Option.some.inj same
    rfl
  handles process c choice a b answer handled := by
    rcases handle_effect handled with ⟨-,rfl,-⟩ | ⟨-,middle,effect,rfl,-⟩
    · rfl
    · cases effect <;> rfl
  moves event a b happened := by
    obtain ⟨after,moved,rfl⟩ := Option.map_eq_some_iff.mp happened
    rcases environment_cases moved with ⟨milliseconds,rfl⟩ | ⟨started,purge,-,rfl | rfl⟩ <;> rfl

end

/-- Keycloak knows two sessions of one user, and refreshes the first. -/
def realm : Services where
  toLowerCase text := text
  isEmail _ := true
  SESSIONS_LIMIT := 1
  decode token :=
    if token = "r1" then some ⟨some "alice",some "s1",some 100⟩
    else if token = "r2" then some ⟨some "alice",some "s2",some 100⟩
    else none
  genuine token := token = "r1" || token = "r2"
  refreshes token response := token = "r1" ∧ response = ⟨some "a1",some "r1",some "s1"⟩
  refreshes_genuine answers := by simp [answers.1]
  refreshes_session answers state := by
    obtain ⟨rfl,rfl⟩ := answers
    exact ⟨⟨some "alice",some "s1",some 100⟩,rfl,state⟩

def alice : User := ⟨"alice",some "alice@acme.org",none,true,false,none⟩
def bob : User := ⟨"bob",some "bob@acme.org",none,true,false,none⟩
def aliceSession : Session := ⟨"s1",some "a1","alice",some "r1",some 100000⟩
def bobsPayload : JwtPayload := ⟨none,some "bob",none,none,none,none,none,none⟩
def answers (user : User) (tokens : TokenResponse) : Choice realm :=
  ⟨false,some user,none,"password",true,tokens,fun token =>
    if same : token = "r1" then some ⟨⟨some "a1",some "r1",some "s1"⟩,same,rfl⟩ else none⟩
def noTokens : TokenResponse := ⟨none,none,none⟩

end Ngotag.Sessions
