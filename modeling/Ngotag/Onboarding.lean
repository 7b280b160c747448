import Ngotag.Alone
import Ngotag.Marketplace
import Ngotag.JsObject

/-!
`MarketplaceService`, `WebhookService` and `ReconciliationService` over the
database, the organisation service and Microsoft: the resolution of a purchase,
the linking of an account and of an organisation, the activation, webhooks and
the hourly reconciliation. Any statement and any request may fail, with or
without its effect, and anything may happen between two of them.
-/
namespace Ngotag.Onboarding
open Await Marketplace
open JsObject (truthy)

inductive OnboardingStatus where
  | resolved
  | accountLinked
  | orgLinked
  | activationPending
  | activated
  | expired
  | failed
  deriving DecidableEq
inductive AccountMode where
  | existingUser
  | createFromMicrosoftSso
  deriving DecidableEq
structure AccountMetadata where
  mode : AccountMode
  email : Option String
  microsoftTenantId : Option String
  microsoftObjectId : Option String
structure Session where
  subscription : Nat
  status : OnboardingStatus
  expiresAt : Nat
  metadata : Option AccountMetadata
  createDateTime : Nat
abbrev Sessions := AList fun _ : Nat => Session
/-- A row of `billing_usage_event` of the type `organization_setup_completed`. -/
structure SetupFee where
  sourceId : Nat
  orgId : Nat
  marketplaceSubscriptionId : Nat

/-- What Microsoft says about a subscription. What is absent leaves its column as it
    is. -/
structure Resolved where
  id : Nat
  offerId : String
  planId : String
  saasSubscriptionStatus : SubscriptionStatus
  quantity : Option Int
  startDate : Option Nat
  endDate : Option Nat
  purchaserEmail : Option String
  beneficiaryEmail : Option String

structure LinkAccount where
  sessionId : Nat
  mode : AccountMode
  /-- `payload.email` -/
  email : Option String
  microsoftTenantId : Option String
  microsoftObjectId : Option String
  userId : Nat
  userEmail : Option String
  deriving DecidableEq

inductive LinkMode where
  | create
  | linkExisting
  deriving DecidableEq
structure LinkOrganization where
  sessionId : Nat
  mode : LinkMode
  orgId : Option Nat
  /-- `payload.organization?.name` -/
  name : Option String
  userId : Nat
  deriving DecidableEq
structure Activate where
  sessionId : Nat
  orgId : Nat
  userId : Nat
  deriving DecidableEq
inductive WebhookAction where
  | changePlan
  | changeQuantity
  | renew
  | suspend
  | unsubscribe
  | reinstate
  deriving DecidableEq
structure WebhookPayload where
  id : Option String
  offerId : String
  planId : Option String
  quantity : Option Int
  subscriptionId : Nat
  action : WebhookAction
  deriving DecidableEq

inductive Failure where
  /-- A database, an organisation service or a Microsoft that does not answer. -/
  | unavailable
  /-- `P2002`: the partial unique index refuses the row. -/
  | p2002
  | noRow
  /-- Microsoft answered with this status. -/
  | status (code : Nat)
  | sessionMissing
  | tokenMalformed
  /-- `marketplace_account_identity_unverified` -/
  | identityUnverified
  /-- `marketplace_account_email_mismatch` -/
  | emailMismatch
  | accountLinkRequired
  /-- `marketplace_org_ownership_unverified` -/
  | ownershipUnverified
  /-- `marketplace_org_ownership_required` -/
  | ownershipRequired
  /-- orgId is required when linking an existing organization -/
  | orgIdRequired
  | nameRequired
  /-- Organization is already linked to another active Marketplace subscription -/
  | alreadyLinked
  /-- Marketplace subscription is not linked to the requested organization -/
  | notLinked
  /-- Marketplace webhook authorization is missing or invalid -/
  | unauthorized
  | offerMismatch
  | subscriptionNotFound
  deriving DecidableEq

inductive Cmd where
  /-- `new Date()` -/
  | now
  | getOnboardingSession (sessionId : Nat)
  | updateOnboardingSession (sessionId : Nat) (status : OnboardingStatus) (metadata : Option AccountMetadata)
  | findOnboardingSession (subscription : Nat)
  | insertOnboardingSession (subscription : Nat)
  | linkUser (subscription userId : Nat)
  | linkOrganization (subscription orgId : Nat)
  | setActivationStatus (subscription : Nat) (status : ActivationStatus)
  | setSubscriptionStatus (subscription : Nat) (status : SubscriptionStatus)
  | setSubscriptionPlanId (subscription : Nat) (planId : String)
  | recordBillingUsageEvent (subscription orgId : Nat)
  | getActiveSubscriptionByOrgId (orgId exceptSubscriptionId : Nat)
  | getSubscriptionByMarketplaceId (subscription : Nat)
  | upsertResolvedSubscription (resolved : Resolved)
  | updateSubscriptionFromMicrosoft (resolved : Resolved)
  | createWebhookEvent (payload : WebhookPayload)
  | updateWebhookEvent (processed : Bool)
  | upsertOperation (payload : WebhookPayload)
  | updateOperationAckStatus (operationId : String)
  | validateAuthorization
  | getOrganizationOwner (orgId : Nat)
  | createOrganization (name : String) (userId : Nat)
  | resolve (token : String)
  | activate (subscription : Nat) (planId : String)
  | getSubscription (subscription : Nat)
  | listSubscriptions
  | getOperation (subscription : Nat) (operationId : String)
  | patchOperation (subscription : Nat) (operationId : String) (planId : Option String) (quantity : Option Int)

/-- A session comes with its subscription and with the time of the answer. -/
def Ret : Cmd → Type
  | .now => Nat
  | .getOnboardingSession _ => Option (Session × Subscription) × Nat
  | .findOnboardingSession _ => Option Nat
  | .insertOnboardingSession _ => Nat
  | .getActiveSubscriptionByOrgId _ _ => Option (Nat × Subscription)
  | .getSubscriptionByMarketplaceId _ => Option Subscription
  | .upsertResolvedSubscription _ => Subscription
  | .updateSubscriptionFromMicrosoft _ => Subscription
  | .getOrganizationOwner _ => List Nat
  | .createOrganization _ _ => Nat
  | .resolve _ => Resolved
  | .getSubscription _ => Resolved
  | .listSubscriptions => List Resolved
  | _ => Unit

abbrev Async := Prog Cmd Ret Failure
def perform (command : Cmd) : Async (Ret command) := call command
inductive NextAction where
  | linkAccount
  | createOrganization
  | activate
  | openDashboard
  | manageBilling
  deriving DecidableEq
inductive Reply where
  | resolved (sessionId : Nat) (subscription : Subscription) (nextAction : NextAction)
  | accountLinked (userId : Nat) (nextAction : NextAction)
  | orgLinked (orgId : Nat) (nextAction : NextAction)
  | activated (subscription orgId : Nat) (saasSubscriptionStatus : SubscriptionStatus)
  | refreshed (subscription : Subscription)
  | received
  | reconciled

/-- The environment of the service, and functions of the language and its libraries
    it uses. -/
structure Config where
  /-- `MARKETPLACE_ALLOW_LOCAL_MOCK` -/
  localMock : Bool
  offerId : Option String
  defaultPlanId : Option String
  /-- `MARKETPLACE_RECONCILIATION_ENABLED` -/
  reconciliation : Bool
  toLowerCase : String → String
  toLowerCase_empty : toLowerCase "" = ""
  decodeURIComponent : String → Option String
  /-- The start of the hash of a token. -/
  mockId : String → Nat

def nextAction (subscription : Subscription) : NextAction :=
  if subscription.saasSubscriptionStatus = .subscribed ∧ subscription.orgId ≠ none ∧
      subscription.activationStatus = .activated then .openDashboard
  else if subscription.localUserId = none then .linkAccount
  else if subscription.orgId = none then .createOrganization
  else if subscription.activationStatus ≠ .activated then .activate
  else .manageBilling
def decodeMarketplaceToken (cfg : Config) (token : String) : Async String :=
  match cfg.decodeURIComponent token with
  | some decoded => pure decoded
  | none => throw .tokenMalformed

def resolveWithMicrosoftOrMock (cfg : Config) (marketplaceToken : String) : Async Resolved :=
  if cfg.localMock then do
    let now : Nat ← perform .now
    pure
      { id := cfg.mockId marketplaceToken
        offerId := (truthy cfg.offerId).getD "phenix-id-platform"
        planId := (truthy cfg.defaultPlanId).getD "business"
        saasSubscriptionStatus := .pendingFulfillmentStart
        quantity := none
        startDate := some now
        endDate := some (now + 30 * 24 * 60 * 60 * 1000)
        purchaserEmail := some "buyer@example.com"
        beneficiaryEmail := some "buyer@example.com" }
  else perform (.resolve marketplaceToken)

def createOnboardingSession (subscription : Nat) : Async Nat := do
  let activeSession : Option Nat ← perform (.findOnboardingSession subscription)
  match activeSession with
  | some sessionId => pure sessionId
  | none => perform (.insertOnboardingSession subscription)
def resolveSubscription (cfg : Config) (token : String) : Async Reply := do
  let marketplaceToken ← decodeMarketplaceToken cfg token
  let resolved ← resolveWithMicrosoftOrMock cfg marketplaceToken
  let subscription : Subscription ← perform (.upsertResolvedSubscription resolved)
  let sessionId ← createOnboardingSession resolved.id
  pure (.resolved sessionId subscription (nextAction subscription))

def getValidSession (sessionId : Nat) : Async (Session × Subscription) := do
  let answer : Option (Session × Subscription) × Nat ← perform (.getOnboardingSession sessionId)
  match answer.1 with
  | none => throw .sessionMissing
  | some session => if session.1.expiresAt < answer.2 then throw .sessionMissing else pure session
def expectedEmails (cfg : Config) (subscription : Subscription) : List String :=
  [cfg.toLowerCase (subscription.purchaserEmail.getD ""),cfg.toLowerCase (subscription.beneficiaryEmail.getD "")].filter
    (· ≠ "")
def accountMetadata (message : LinkAccount) : AccountMetadata :=
  ⟨message.mode,(truthy message.email).or (truthy message.userEmail),truthy message.microsoftTenantId,
    truthy message.microsoftObjectId⟩

def linkAccount (cfg : Config) (message : LinkAccount) : Async Reply := do
  let session ← getValidSession message.sessionId
  let userEmail := cfg.toLowerCase (message.userEmail.getD "")
  if expectedEmails cfg session.2 = [] ∨ userEmail = "" then throw .identityUnverified
  else if userEmail ∉ expectedEmails cfg session.2 then throw .emailMismatch
  else do
    perform (.linkUser session.1.subscription message.userId)
    perform (.updateOnboardingSession message.sessionId .accountLinked (some (accountMetadata message)))
    pure (.accountLinked message.userId .createOrganization)

def assertSessionAccountLinkedTo (session : Session × Subscription) (userId : Nat) : Async Unit :=
  if session.2.localUserId = some userId then pure () else throw .accountLinkRequired
/-- The error that `linkSubscriptionToOrg` throws for one of the statement. -/
def linkError (error : Failure) : Failure := if error = .p2002 then .alreadyLinked else error
def linkSubscriptionToOrg (subscription orgId : Nat) : Async Unit :=
  Prog.tryCatch (perform (.linkOrganization subscription orgId)) fun error => throw (linkError error)
def assertUserOwnsOrganization (userId orgId : Nat) : Async Unit := do
  let owners : List Nat ← Prog.tryCatch (perform (.getOrganizationOwner orgId)) fun _ => throw .ownershipUnverified
  if userId ∈ owners then pure () else throw .ownershipRequired
def linkAndReply (sessionId subscription orgId : Nat) : Async Reply := do
  linkSubscriptionToOrg subscription orgId
  perform (.updateOnboardingSession sessionId .orgLinked none)
  pure (.orgLinked orgId .activate)

def linkExisting (message : LinkOrganization) (session : Session × Subscription) : Async Reply :=
  match message.orgId with
  | none => throw .orgIdRequired
  | some orgId => do
    assertUserOwnsOrganization message.userId orgId
    let activeSubscription : Option (Nat × Subscription) ←
      perform (.getActiveSubscriptionByOrgId orgId session.1.subscription)
    match activeSubscription with
    | some _ => throw .alreadyLinked
    | none => linkAndReply message.sessionId session.1.subscription orgId

def linkCreated (message : LinkOrganization) (session : Session × Subscription) : Async Reply :=
  match truthy message.name with
  | none => throw .nameRequired
  | some name => do
    let orgId : Nat ← perform (.createOrganization name message.userId)
    linkAndReply message.sessionId session.1.subscription orgId
def linkOrganization (message : LinkOrganization) : Async Reply := do
  let session ← getValidSession message.sessionId
  assertSessionAccountLinkedTo session message.userId
  match message.mode with
  | .linkExisting => linkExisting message session
  | .create => linkCreated message session
/-- What the three ways of `activateSubscription` do once the subscription counts as
    activated. -/
def recordActivation (sessionId subscription orgId : Nat) : Async Unit := do
  perform (.setActivationStatus subscription .activated)
  perform (.updateOnboardingSession sessionId .activated none)
  perform (.recordBillingUsageEvent subscription orgId)
/-- The refresh of the term dates, whose failure is logged only. -/
def refreshTerm (session : Session × Subscription) : Async SubscriptionStatus :=
  Prog.tryCatch (do
    let latest : Resolved ← perform (.getSubscription session.1.subscription)
    let updated : Subscription ← perform (.updateSubscriptionFromMicrosoft latest)
    pure updated.saasSubscriptionStatus) fun _ => pure session.2.saasSubscriptionStatus

def tryActivation (cfg : Config) (message : Activate) (session : Session × Subscription) : Async Reply :=
  let subscription := session.1.subscription
  if cfg.localMock then do
    perform (.setSubscriptionStatus subscription .subscribed)
    recordActivation message.sessionId subscription message.orgId
    pure (.activated subscription message.orgId .subscribed)
  else do
    perform (.activate subscription session.2.planId)
    recordActivation message.sessionId subscription message.orgId
    let latestSaasStatus ← refreshTerm session
    pure (.activated subscription message.orgId latestSaasStatus)

/-- The `catch`. -/
def activationFailed (message : Activate) (subscription : Nat) (error : Failure) : Async Reply := do
  perform (.setActivationStatus subscription .failed)
  perform (.updateOnboardingSession message.sessionId .failed none)
  throw error

def activateSubscription (cfg : Config) (message : Activate) : Async Reply := do
  let session ← getValidSession message.sessionId
  assertSessionAccountLinkedTo session message.userId
  let subscription := session.1.subscription
  if session.2.orgId ≠ some message.orgId then throw .notLinked
  else if session.2.saasSubscriptionStatus = .subscribed then do
    recordActivation message.sessionId subscription message.orgId
    pure (.activated subscription message.orgId .subscribed)
  else do
    perform (.setActivationStatus subscription .inProgress)
    Prog.tryCatch (tryActivation cfg message session) (activationFailed message subscription)

def refreshSubscription (subscription : Nat) : Async Reply := do
  let latest : Resolved ← perform (.getSubscription subscription)
  let updated : Subscription ← perform (.updateSubscriptionFromMicrosoft latest)
  pure (.refreshed updated)
def acknowledged (action : WebhookAction) : Bool :=
  action = .changePlan || action = .changeQuantity || action = .reinstate
def patchFailed (error : Failure) : Async Unit := if error = .status 400 then pure () else throw error
def patchOperationIfNeeded (payload : WebhookPayload) : Async Unit :=
  match truthy payload.id with
  | none => pure ()
  | some operationId =>
    Prog.tryCatch (perform (.patchOperation payload.subscriptionId operationId
        (if payload.action = .changePlan then payload.planId else none)
        (if payload.action = .changeQuantity then payload.quantity else none))) patchFailed
def refreshFromMicrosoft (subscription : Nat) : Async Unit := do
  let latest : Resolved ← perform (.getSubscription subscription)
  let _ : Subscription ← perform (.updateSubscriptionFromMicrosoft latest)
  pure ()
def acknowledge (payload : WebhookPayload) : Async Unit := do
  patchOperationIfNeeded payload
  match truthy payload.id with
  | none => pure ()
  | some operationId => perform (.updateOperationAckStatus operationId)
def noteOperation (payload : WebhookPayload) : Async Unit :=
  match truthy payload.id with
  | none => pure ()
  | some operationId => do
    perform (.upsertOperation payload)
    if acknowledged payload.action then perform (.getOperation payload.subscriptionId operationId) else pure ()

def applyAction (payload : WebhookPayload) : Async Unit :=
  match payload.action with
  | .changePlan =>
    match truthy payload.planId with
    | none => pure ()
    | some planId => do
      refreshFromMicrosoft payload.subscriptionId
      perform (.setSubscriptionPlanId payload.subscriptionId planId)
      acknowledge payload
  | .changeQuantity => do
    refreshFromMicrosoft payload.subscriptionId
    acknowledge payload
  | .renew => refreshFromMicrosoft payload.subscriptionId
  | .reinstate => do
    refreshFromMicrosoft payload.subscriptionId
    acknowledge payload
  | .suspend => perform (.setSubscriptionStatus payload.subscriptionId .suspended)
  | .unsubscribe => perform (.setSubscriptionStatus payload.subscriptionId .unsubscribed)

def applyWebhookAction (payload : WebhookPayload) : Async Unit := do
  noteOperation payload
  applyAction payload
/-- The `catch` of `processWebhook`. -/
def webhookFailed (error : Failure) : Async Reply := do
  perform (.updateWebhookEvent false)
  throw error

def processWebhook (cfg : Config) (payload : WebhookPayload) : Async Reply := do
  perform .validateAuthorization
  if cfg.offerId ≠ some payload.offerId then throw .offerMismatch
  else do
    let subscription : Option Subscription ← perform (.getSubscriptionByMarketplaceId payload.subscriptionId)
    perform (.createWebhookEvent payload)
    match subscription with
    | none => do
      perform (.updateWebhookEvent false)
      throw .subscriptionNotFound
    | some _ =>
      Prog.tryCatch (do
        applyWebhookAction payload
        perform (.updateWebhookEvent true)
        pure .received) webhookFailed

def reconcile (subscription : Resolved) : Async Unit := do
  let existing : Option Subscription ← perform (.getSubscriptionByMarketplaceId subscription.id)
  match existing with
  | some existing => do
    let updated : Subscription ← perform (.updateSubscriptionFromMicrosoft subscription)
    if updated.saasSubscriptionStatus = .subscribed ∧ existing.activationStatus = .inProgress then
      perform (.setActivationStatus subscription.id .activated)
    else pure ()
  | none => do
    let _ : Subscription ← perform (.upsertResolvedSubscription subscription)
    pure ()

def reconcileSubscriptions (cfg : Config) : Async Reply :=
  if cfg.reconciliation then do
    let subscriptions : List Resolved ← perform .listSubscriptions
    forEach reconcile subscriptions
    pure .reconciled
  else pure .reconciled
inductive Input where
  | resolveSubscription (token : String)
  | linkAccount (message : LinkAccount)
  | linkOrganization (message : LinkOrganization)
  | activateSubscription (message : Activate)
  | refreshSubscription (subscription : Nat)
  | processWebhook (payload : WebhookPayload)
  | reconcileSubscriptions
  deriving DecidableEq
def program (cfg : Config) : Input → Async Reply
  | .resolveSubscription token => resolveSubscription cfg token
  | .linkAccount message => linkAccount cfg message
  | .linkOrganization message => linkOrganization message
  | .activateSubscription message => activateSubscription cfg message
  | .refreshSubscription subscription => refreshSubscription subscription
  | .processWebhook payload => processWebhook cfg payload
  | .reconcileSubscriptions => reconcileSubscriptions cfg

inductive Entry where
  | session (process subscription : Nat) (row : Subscription)
  | owners (process orgId : Nat) (users : List Nat)
  | created (process orgId userId : Nat)
  | localUser (process subscription userId : Nat)
  | org (process subscription orgId : Nat)
  | activation (process subscription : Nat) (status : ActivationStatus)
  | activate (process subscription : Nat)
  | accepted (process subscription : Nat)
  | setupFee (process subscription orgId : Nat)
  | subscriptionStatus (process subscription : Nat) (status : SubscriptionStatus)
  deriving DecidableEq

def Entry.process : Entry → Nat
  | .session process _ _ => process
  | .owners process _ _ => process
  | .created process _ _ => process
  | .localUser process _ _ => process
  | .org process _ _ => process
  | .activation process _ _ => process
  | .activate process _ => process
  | .accepted process _ => process
  | .setupFee process _ _ => process
  | .subscriptionStatus process _ _ => process

/-- The tables, the owners of the organisations, the time; which calls were made, and
    what they did, the latest first. -/
structure World where
  subscriptions : Subscriptions
  sessions : Sessions
  fees : List SetupFee
  organisations : AList fun _ : Nat => List Nat
  now : Nat
  calls : Nat → Option Input
  log : List Entry

inductive Fault where
  | none
  /-- The statement or request fails and has no effect. -/
  | lost
  /-- It has its effect, but its answer does not arrive. -/
  | unknown
  /-- Microsoft refuses with a status. -/
  | status (code : Nat)
  deriving DecidableEq
/-- Whether a command fails; which of several rows comes first; the id of a new row;
    and what Microsoft answers. -/
structure Choice where
  fault : Fault
  tie : Nat
  drawn : Nat
  resolved : List Resolved

def Fault.error : Fault → Failure
  | .status code => .status code
  | _ => .unavailable
/-- A statement or request without an effect. -/
def reads {β : Type} (choice : Choice) (w : World) (value : β) : Option (World × Except Failure β) :=
  if choice.fault = .none then some (w,.ok value) else some (w,.error choice.fault.error)
def writes {β : Type} (choice : Choice) (w after : World) (value : β) : Option (World × Except Failure β) :=
  match choice.fault with
  | .none => some (after,.ok value)
  | .unknown => some (after,.error .unavailable)
  | fault => some (w,.error fault.error)
/-- The rows that `marketplace_subscription_active_org_unique` is about. -/
def occupies (orgId : Nat) (row : Subscription) : Bool :=
  row.orgId = some orgId && row.deletedAt = none && row.saasSubscriptionStatus ≠ .unsubscribed
/-- Another row occupies the same organisation. -/
def collides (table : Subscriptions) (id : Nat) (row : Subscription) : Bool :=
  table.entries.any fun entry => entry.1 ≠ id && row.orgId.any fun orgId => occupies orgId row && occupies orgId entry.2
def stores {β : Type} (choice : Choice) (w : World) (id : Nat) (row : Subscription) (entries : List Entry) (value : β) :
    Option (World × Except Failure β) :=
  if collides w.subscriptions id row then some (w,.error .p2002)
  else writes choice w { w with subscriptions := w.subscriptions.insert id row, log := entries ++ w.log } value

/-- `update` by the id. -/
def updates (choice : Choice) (w : World) (id : Nat) (change : Subscription → Subscription) (entries : List Entry) :
    Option (World × Except Failure Unit) :=
  match w.subscriptions.lookup id with
  | none => some (w,.error .noRow)
  | some row => stores choice w id (change row) entries ()

/-- The columns that `toSubscriptionData` gives. -/
def refreshed (resolved : Resolved) (row : Subscription) : Subscription :=
  { row with
    offerId := resolved.offerId
    planId := resolved.planId
    saasSubscriptionStatus := resolved.saasSubscriptionStatus
    quantity := resolved.quantity.or row.quantity
    termStartDate := resolved.startDate.or row.termStartDate
    termEndDate := resolved.endDate.or row.termEndDate
    purchaserEmail := resolved.purchaserEmail.or row.purchaserEmail
    beneficiaryEmail := resolved.beneficiaryEmail.or row.beneficiaryEmail }

def created (resolved : Resolved) (now : Nat) : Subscription :=
  ⟨resolved.offerId,resolved.planId,resolved.saasSubscriptionStatus,resolved.quantity,resolved.startDate,
    resolved.endDate,resolved.purchaserEmail,resolved.beneficiaryEmail,none,none,.notStarted,now,none⟩
def sessionRow (w : World) (sessionId : Nat) : Option (Session × Subscription) :=
  (w.sessions.lookup sessionId).bind fun session =>
    (w.subscriptions.lookup session.subscription).map fun row => (session,row)
def Session.open_ (session : Session) (subscription now : Nat) : Bool :=
  session.subscription = subscription && now < session.expiresAt && session.status ≠ .activated &&
    session.status ≠ .expired && session.status ≠ .failed
def newSession (subscription now : Nat) : Session :=
  ⟨subscription,.resolved,now + 24 * 60 * 60 * 1000,none,now⟩
/-- Metadata that are not given stay. -/
def Session.moved (session : Session) (status : OnboardingStatus) (metadata : Option AccountMetadata) : Session :=
  { session with status := status, metadata := metadata.or session.metadata }
def openSession (w : World) (subscription tie : Nat) : Option Nat :=
  let rows := w.sessions.entries.filter fun entry => entry.2.open_ subscription w.now
  let first := rows.filter fun entry => rows.all fun other => other.2.createDateTime ≤ entry.2.createDateTime
  first[tie % first.length]?.map fun entry => entry.1
def noteSession (process : Nat) (w : World) (sessionId : Nat) : World :=
  match sessionRow w sessionId with
  | none => w
  | some session => { w with log := .session process session.1.subscription session.2 :: w.log }
/-- The upsert on the event type and the source. -/
def recordFee (fees : List SetupFee) (subscription orgId : Nat) : List SetupFee :=
  if fees.any fun fee => fee.sourceId = subscription then fees else ⟨subscription,orgId,subscription⟩ :: fees
def billed (process subscription orgId : Nat) (w : World) : World :=
  { w with
    fees := recordFee w.fees subscription orgId
    log := .setupFee process subscription orgId :: w.log }
def founded (process orgId userId : Nat) (w : World) : World :=
  { w with
    organisations := w.organisations.insert orgId [userId]
    log := .created process orgId userId :: w.log }

def handle (process : Nat) (c : Cmd) (choice : Choice) (w : World) : Option (World × Except Failure (Ret c)) :=
  match c with
  | .now => some (w,.ok w.now)
  | .getOnboardingSession sessionId =>
    if choice.fault = .none then some (noteSession process w sessionId,.ok (sessionRow w sessionId,w.now))
    else some (w,.error choice.fault.error)
  | .updateOnboardingSession sessionId status metadata =>
    match w.sessions.lookup sessionId with
    | none => some (w,.error .noRow)
    | some session =>
        writes choice w { w with sessions := w.sessions.insert sessionId (session.moved status metadata) } ()
  | .findOnboardingSession subscription => reads choice w (openSession w subscription choice.tie)
  | .insertOnboardingSession subscription =>
    if w.sessions.lookup choice.drawn = none then
      writes choice w { w with sessions := w.sessions.insert choice.drawn (newSession subscription w.now) } choice.drawn
    else none
  | .linkUser subscription userId =>
    updates choice w subscription (fun row => { row with localUserId := some userId })
      [.localUser process subscription userId]
  | .linkOrganization subscription orgId =>
    updates choice w subscription (fun row => { row with orgId := some orgId }) [.org process subscription orgId]
  | .setActivationStatus subscription status =>
    updates choice w subscription (fun row => { row with activationStatus := status })
      [.activation process subscription status]
  | .setSubscriptionStatus subscription status =>
    updates choice w subscription (fun row => { row with saasSubscriptionStatus := status })
      [.subscriptionStatus process subscription status]
  | .setSubscriptionPlanId subscription planId =>
    updates choice w subscription (fun row => { row with planId := planId }) []
  | .recordBillingUsageEvent subscription orgId =>
    writes choice w (billed process subscription orgId w) ()
  | .getActiveSubscriptionByOrgId orgId exceptSubscriptionId =>
    reads choice w (Marketplace.getActiveSubscriptionByOrgId w.subscriptions orgId exceptSubscriptionId choice.tie)
  | .getSubscriptionByMarketplaceId subscription => reads choice w (w.subscriptions.lookup subscription)
  | .upsertResolvedSubscription resolved =>
    let row := ((w.subscriptions.lookup resolved.id).map (refreshed resolved)).getD (created resolved w.now)
    stores choice w resolved.id row [] row
  | .updateSubscriptionFromMicrosoft resolved =>
    match w.subscriptions.lookup resolved.id with
    | none => some (w,.error .noRow)
    | some row => stores choice w resolved.id (refreshed resolved row) [] (refreshed resolved row)
  | .createWebhookEvent _ => reads choice w ()
  | .updateWebhookEvent _ => reads choice w ()
  | .upsertOperation _ => reads choice w ()
  | .updateOperationAckStatus _ => reads choice w ()
  | .validateAuthorization => if choice.fault = .none then some (w,.ok ()) else some (w,.error .unauthorized)
  | .getOrganizationOwner orgId =>
    match w.organisations.lookup orgId with
    | none => some (w,.error .noRow)
    | some users => if choice.fault = .none then some ({ w with log := .owners process orgId users :: w.log },.ok users)
      else some (w,.error choice.fault.error)
  | .createOrganization _ userId =>
    if w.organisations.lookup choice.drawn = none then
      writes choice w (founded process choice.drawn userId w) choice.drawn
    else none
  | .resolve _ => choice.resolved.head?.bind fun resolved => reads choice w resolved
  | .activate subscription _ =>
    if choice.fault = .none then
      some ({ w with log := .accepted process subscription :: .activate process subscription :: w.log },.ok ())
    else some ({ w with log := .activate process subscription :: w.log },.error choice.fault.error)
  | .getSubscription _ => choice.resolved.head?.bind fun resolved => reads choice w resolved
  | .listSubscriptions => reads choice w choice.resolved
  | .getOperation _ _ => reads choice w ()
  | .patchOperation _ _ _ _ => reads choice w ()

/-- Time passes; the owners of an organisation change. -/
inductive Env where
  | clock (time : Nat)
  | owners (orgId : Nat) (users : List Nat)
def sys (cfg : Config) : System Cmd Ret Failure Reply World Choice Input Env where
  handle := handle
  arrive process input w := some { w with calls := Function.update w.calls process (some input) }
  program _ input := program cfg input
  environment event w :=
    match event with
    | .clock time => if w.now ≤ time then some { w with now := time } else none
    | .owners orgId users => some { w with organisations := w.organisations.insert orgId users }

section
variable {β : Type} {choice : Choice} {w after target : World} {value : β} {answer : Except Failure β}

theorem reads_cases (read : reads choice w value = some (after,answer)) :
    after = w ∧ (choice.fault = .none ∧ answer = .ok value ∨ choice.fault ≠ .none ∧ ∃ error, answer = .error error) := by
  rw [reads] at read
  by_cases fine : choice.fault = .none
  · rw [if_pos fine] at read
    cases read
    exact ⟨rfl,.inl ⟨fine,rfl⟩⟩
  · rw [if_neg fine] at read
    cases read
    exact ⟨rfl,.inr ⟨fine,_,rfl⟩⟩
theorem writes_cases (wrote : writes choice w target value = some (after,answer)) :
    (after = target ∧ choice.fault = .none ∧ answer = .ok value) ∨
    (after = target ∧ choice.fault = .unknown ∧ answer = .error .unavailable) ∨
    (after = w ∧ choice.fault ≠ .none ∧ choice.fault ≠ .unknown ∧ answer = .error choice.fault.error) := by
  rw [writes] at wrote
  cases fault : choice.fault with
  | none => rw [fault] at wrote; cases wrote; exact .inl ⟨rfl,rfl,rfl⟩
  | unknown => rw [fault] at wrote; cases wrote; exact .inr (.inl ⟨rfl,rfl,rfl⟩)
  | lost => rw [fault] at wrote; cases wrote; exact .inr (.inr ⟨rfl,by rintro ⟨⟩,by rintro ⟨⟩,rfl⟩)
  | status code => rw [fault] at wrote; cases wrote; exact .inr (.inr ⟨rfl,by rintro ⟨⟩,by rintro ⟨⟩,rfl⟩)

theorem stores_cases {id : Nat} {row : Subscription} {entries : List Entry}
    (stored : stores choice w id row entries value = some (after,answer)) :
    after = w ∨ (collides w.subscriptions id row = false ∧
      after = { w with subscriptions := w.subscriptions.insert id row, log := entries ++ w.log }) := by
  rw [stores] at stored
  by_cases clash : collides w.subscriptions id row = true
  · rw [if_pos clash] at stored
    cases stored
    exact .inl rfl
  · rw [if_neg clash] at stored
    rcases writes_cases stored with ⟨rfl,_⟩ | ⟨rfl,_⟩ | ⟨rfl,_⟩
    · exact .inr ⟨Bool.eq_false_iff.mpr clash,rfl⟩
    · exact .inr ⟨Bool.eq_false_iff.mpr clash,rfl⟩
    · exact .inl rfl

theorem updates_cases {id : Nat} {change : Subscription → Subscription} {entries : List Entry}
    {answer : Except Failure Unit} (updated : updates choice w id change entries = some (after,answer)) :
    after = w ∨ ∃ row, w.subscriptions.lookup id = some row ∧ collides w.subscriptions id (change row) = false ∧
      after = { w with subscriptions := w.subscriptions.insert id (change row), log := entries ++ w.log } := by
  rw [updates] at updated
  cases found : w.subscriptions.lookup id with
  | none => rw [found] at updated; cases updated; exact .inl rfl
  | some row =>
    rw [found] at updated
    rcases stores_cases updated with rfl | ⟨free,rfl⟩
    · exact .inl rfl
    · exact .inr ⟨row,rfl,free,rfl⟩

end

theorem collides_false {table : Subscriptions} {id other : Nat} {row row' : Subscription} {orgId : Nat}
    (free : collides table id row = false) (found : table.lookup other = some row') (different : other ≠ id)
    (first : occupies orgId row = true) : occupies orgId row' = false := by
  by_contra second
  have linked : row.orgId = some orgId := by
    simp only [occupies,Bool.and_eq_true,decide_eq_true_eq] at first
    exact first.1.1
  have clash : collides table id row = true := by
    refine List.any_eq_true.mpr ⟨⟨other,row'⟩,AList.mem_lookup_iff.mp found,?_⟩
    simp only [linked,Option.any_some,first,Bool.true_and,Bool.and_eq_true,decide_eq_true_eq]
    exact ⟨different,Bool.not_eq_false _ ▸ second⟩
  rw [free] at clash
  cases clash

def rowWrite (w : World) : Cmd → Option (Nat × Subscription)
  | .linkUser s userId => (w.subscriptions.lookup s).map fun row => (s,{ row with localUserId := some userId })
  | .linkOrganization s orgId => (w.subscriptions.lookup s).map fun row => (s,{ row with orgId := some orgId })
  | .setActivationStatus s status => (w.subscriptions.lookup s).map fun row =>
      (s,{ row with activationStatus := status })
  | .setSubscriptionStatus s status =>
    (w.subscriptions.lookup s).map fun row => (s,{ row with saasSubscriptionStatus := status })
  | .setSubscriptionPlanId s planId => (w.subscriptions.lookup s).map fun row => (s,{ row with planId := planId })
  | .updateSubscriptionFromMicrosoft resolved =>
    (w.subscriptions.lookup resolved.id).map fun row => (resolved.id,refreshed resolved row)
  | .upsertResolvedSubscription resolved =>
    some (resolved.id,((w.subscriptions.lookup resolved.id).map (refreshed resolved)).getD (created resolved w.now))
  | _ => none

def rowEntries (process : Nat) : Cmd → List Entry
  | .linkUser s userId => [.localUser process s userId]
  | .linkOrganization s orgId => [.org process s orgId]
  | .setActivationStatus s status => [.activation process s status]
  | .setSubscriptionStatus s status => [.subscriptionStatus process s status]
  | _ => []
def Entry.aboutRow : Entry → Bool
  | .localUser _ _ _ => true
  | .org _ _ _ => true
  | .activation _ _ _ => true
  | .subscriptionStatus _ _ _ => true
  | _ => false
/-- The statement reaches the database, and the index does not refuse the row. -/
def Takes (choice : Choice) (w : World) (id : Nat) (row : Subscription) : Prop :=
  (choice.fault = .none ∨ choice.fault = .unknown) ∧ collides w.subscriptions id row = false
def storedRow (process : Nat) (c : Cmd) (id : Nat) (row : Subscription) (w : World) : World :=
  { w with subscriptions := w.subscriptions.insert id row, log := rowEntries process c ++ w.log }

variable {choice : Choice} {w after : World} {process : Nat}
theorem stores_takes {β : Type} {value : β} {answer : Except Failure β} {id : Nat} {row : Subscription}
    {entries : List Entry} (stored : stores choice w id row entries value = some (after,answer)) :
    (Takes choice w id row ∧
      after = { w with subscriptions := w.subscriptions.insert id row, log := entries ++ w.log }) ∨
    (¬Takes choice w id row ∧ after = w) := by
  rw [stores] at stored
  by_cases clash : collides w.subscriptions id row = true
  · rw [if_pos clash] at stored
    cases stored
    refine .inr ⟨?_,rfl⟩
    rintro ⟨-,free⟩
    rw [clash] at free
    cases free
  · rw [if_neg clash] at stored
    have free := Bool.eq_false_iff.mpr clash
    rcases writes_cases stored with ⟨rfl,fine,-⟩ | ⟨rfl,fine,-⟩ | ⟨rfl,first,second,-⟩
    · exact .inl ⟨⟨.inl fine,free⟩,rfl⟩
    · exact .inl ⟨⟨.inr fine,free⟩,rfl⟩
    · refine .inr ⟨?_,rfl⟩
      rintro ⟨fine | fine,-⟩
      · exact first fine
      · exact second fine

theorem handle_row {c : Cmd} {answer : Except Failure (Ret c)} {id : Nat} {row : Subscription}
    (writes_ : rowWrite w c = some (id,row)) (handled : handle process c choice w = some (after,answer)) :
    (Takes choice w id row ∧ after = storedRow process c id row w) ∨ (¬Takes choice w id row ∧ after = w) := by
  cases c with
  | linkUser | linkOrganization | setActivationStatus | setSubscriptionStatus | setSubscriptionPlanId =>
    obtain ⟨old,found,same⟩ := Option.map_eq_some_iff.mp writes_
    cases same
    simp only [handle,updates,found] at handled
    exact stores_takes (β := Unit) handled
  | updateSubscriptionFromMicrosoft resolved =>
    obtain ⟨old,found,same⟩ := Option.map_eq_some_iff.mp writes_
    cases same
    simp only [handle,found] at handled
    exact stores_takes (β := Subscription) handled
  | upsertResolvedSubscription resolved =>
    cases writes_
    exact stores_takes (β := Subscription) handled
  | _ => cases writes_

/-- What a command without a row may put into the log: nothing about rows, and an
    acceptance only where Microsoft was asked for it. -/
def Entry.beside (c : Cmd) : Entry → Prop
  | .accepted _ s => ∃ planId, c = .activate s planId
  | e => e.aboutRow = false
/-- One without leaves the rows, and says nothing about them. -/
structure Elsewhere (c : Cmd) (w after : World) : Prop where
  subscriptions : after.subscriptions = w.subscriptions
  log : ∃ new_, after.log = new_ ++ w.log ∧ ∀ e ∈ new_, e.beside c
theorem elsewhere_self {c : Cmd} : Elsewhere c w w := ⟨rfl,[],rfl,by rintro _ ⟨⟩⟩
theorem elsewhere_noted {c : Cmd} {e : Entry} (same : after.subscriptions = w.subscriptions)
    (log : after.log = e :: w.log)
    (other : e.beside c) : Elsewhere c w after :=
  ⟨same,[e],log,by rintro _ (_ | ⟨_,⟨⟩⟩); exact other⟩
theorem elsewhere_reads {c : Cmd} {β : Type} {value : β} {answer : Except Failure β}
    (read : reads choice w value = some (after,answer)) : Elsewhere c w after := by
  obtain ⟨rfl,-⟩ := reads_cases read
  exact elsewhere_self
theorem elsewhere_writes {c : Cmd} {β : Type} {value : β} {answer : Except Failure β} {target : World}
    (wrote : writes choice w target value = some (after,answer)) (same : Elsewhere c w target) :
    Elsewhere c w after := by
  rcases writes_cases wrote with ⟨rfl,-⟩ | ⟨rfl,-⟩ | ⟨rfl,-⟩
  · exact same
  · exact same
  · exact elsewhere_self

theorem handle_elsewhere {c : Cmd} {answer : Except Failure (Ret c)} (none_ : rowWrite w c = none)
    (handled : handle process c choice w = some (after,answer)) : Elsewhere c w after := by
  cases c with
  | now => cases handled; exact elsewhere_self
  | getOnboardingSession sessionId =>
    simp only [handle] at handled
    split at handled
    · cases handled
      rw [noteSession]
      split
      · exact elsewhere_self
      · exact elsewhere_noted rfl rfl rfl
    · cases handled; exact elsewhere_self
  | updateOnboardingSession sessionId status metadata =>
    simp only [handle] at handled
    split at handled
    · cases handled; exact elsewhere_self
    · exact elsewhere_writes (β := Unit) handled ⟨rfl,[],rfl,by rintro _ ⟨⟩⟩
  | insertOnboardingSession subscription =>
    simp only [handle] at handled
    split at handled
    · exact elsewhere_writes (β := Nat) handled ⟨rfl,[],rfl,by rintro _ ⟨⟩⟩
    · cases handled
  | linkUser | linkOrganization | setActivationStatus | setSubscriptionStatus | setSubscriptionPlanId =>
    simp only [handle,updates,Option.map_eq_none_iff.mp none_] at handled
    cases handled
    exact elsewhere_self
  | updateSubscriptionFromMicrosoft resolved =>
    simp only [handle,Option.map_eq_none_iff.mp none_] at handled
    cases handled
    exact elsewhere_self
  | upsertResolvedSubscription resolved => cases none_
  | recordBillingUsageEvent subscription orgId =>
    exact elsewhere_writes (β := Unit) handled (elsewhere_noted rfl rfl rfl)
  | findOnboardingSession subscription => exact elsewhere_reads (β := Option Nat) handled
  | getActiveSubscriptionByOrgId orgId exceptSubscriptionId =>
    exact elsewhere_reads (β := Option (Nat × Subscription)) handled
  | getSubscriptionByMarketplaceId subscription => exact elsewhere_reads (β := Option Subscription) handled
  | createWebhookEvent | updateWebhookEvent | upsertOperation | updateOperationAckStatus | getOperation | patchOperation =>
    exact elsewhere_reads (β := Unit) handled
  | validateAuthorization =>
    simp only [handle] at handled
    split at handled <;> cases handled <;> exact elsewhere_self
  | getOrganizationOwner orgId =>
    simp only [handle] at handled
    split at handled
    · cases handled; exact elsewhere_self
    · split at handled
      · cases handled; exact elsewhere_noted rfl rfl rfl
      · cases handled; exact elsewhere_self
  | createOrganization name userId =>
    simp only [handle] at handled
    split at handled
    · exact elsewhere_writes (β := Nat) handled (elsewhere_noted rfl rfl rfl)
    · cases handled
  | activate subscription planId =>
    simp only [handle] at handled
    split at handled
    · cases handled
      exact ⟨rfl,[.accepted process subscription,.activate process subscription],rfl,
        by simp [Entry.beside,Entry.aboutRow]⟩
    · cases handled; exact elsewhere_noted rfl rfl rfl
  | resolve | getSubscription =>
    obtain ⟨resolved,-,read⟩ := Option.bind_eq_some_iff.mp handled
    exact elsewhere_reads (β := Resolved) read
  | listSubscriptions => exact elsewhere_reads (β := List Resolved) handled

end Ngotag.Onboarding
