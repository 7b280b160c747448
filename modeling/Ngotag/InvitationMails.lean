import Ngotag.Serial
import Ngotag.JsObject

/-!
The e-mails with a proof request or a credential offer. Each service is given one `EmailDto` for
all its calls. An offer is sent from a copy of it, but a proof request is written into the shared
object itself, first the recipient and, after an await, the text and the QR code. What is handed
over is one call's exactly where the recipient that was assigned last is that of the call that
hands over (`mails_whole_iff`).
-/
namespace Ngotag.InvitationMails
open Runs Await
open JsObject (truthy)

structure Attachment where
  filename : String
  content : Option String
  contentType : String
  disposition : String
/-- The text of an e-mail: its template, and the values that are put into it. -/
inductive Html where
  | outOfBandVerification (email orgName deepLinkURL : String)
  | outOfBandIssuance (email : Option String) (orgName deepLinkURL : String)
      (platformName organizationLogoUrl : Option String)
def Html.deepLinkURL : Html → String
  | .outOfBandVerification _ _ deepLinkURL => deepLinkURL
  | .outOfBandIssuance _ _ deepLinkURL _ _ => deepLinkURL
structure EmailDto where
  emailFrom : Option String
  emailTo : Option String
  emailSubject : Option String
  emailText : Option String
  emailHtml : Option Html
  emailAttachments : Option (List Attachment)
/-- `new EmailDto()` -/
def EmailDto.new : EmailDto := ⟨none,none,none,none,none,none⟩
/-- What is sent to the agent for a proof request, with the request itself as its text. -/
structure IProofRequestPayload where
  orgId : String
  url : String
  proofRequestPayload : String
structure IInvitation where
  invitationUrl : Option String
  outOfBandRecordId : Option String
  proofRecordThId : Option String
inductive IssueCredentialType where
  | INDY
  | JSONLD
structure IAttributes where
  attributeName : String
  name : String
  value : String
  isRequired : Option Bool
inductive Value where
  | string (value : String)
  | number (value : Int)
  | boolean (value : Bool)
  | object
  | null
def Value.typeof : Value → String
  | .string _ => "string"
  | .number _ => "number"
  | .boolean _ => "boolean"
  | .object => "object"
  | .null => "object"
def Value.falsy : Value → Bool
  | .string value => value = ""
  | .number value => value = 0
  | .boolean value => !value
  | .object => false
  | .null => true
structure ICredential where
  context : List String
  credentialSubject : Option (List (String × Value))
structure CredentialOffer where
  emailId : Option String
  attributes : List IAttributes
  credential : Option ICredential
  options : Option String
structure OutOfBandCredentialOfferPayload where
  imageUrl : Option String
  autoAcceptCredential : Option String
  goalCode : Option String
  parentThreadId : Option String
  willConfirm : Option Bool
structure Organisation where
  name : String
  logoUrl : Option String

structure SendEmailCredentialOffer where
  iterator : Option CredentialOffer
  emailId : Option String
  credentialType : IssueCredentialType
  protocolVersion : Option String
  attributes : Option (List IAttributes)
  credentialDefinitionId : Option String
  outOfBandCredential : OutOfBandCredentialOfferPayload
  comment : Option String
  organisation : Option Organisation
  url : String
  orgId : String
  organizationDetails : Organisation
  platformName : Option String
  organizationLogoUrl : Option String
  isReuseConnection : Option Bool
  isValidateSchema : Option Bool

inductive CredentialFormats where
  | indy (attributes : List IAttributes) (credentialDefinitionId : Option String)
  | jsonld (credential : Option ICredential) (options : Option String)

structure OutOfBandIssuancePayload where
  protocolVersion : String
  credentialFormats : CredentialFormats
  autoAcceptCredential : String
  comment : Option String
  goalCode : Option String
  parentThreadId : Option String
  willConfirm : Option Bool
  label : Option String
  imageUrl : Option String
  invitationDid : Option String

structure ISchemaAttributes where
  attributeName : String
  schemaDataType : String
  isRequired : Bool
structure OfferResponse where
  invitationUrl : Option String
  credentialRequestThId : Option String
/-- What the agent answers to an offer, if it answers: its `response`. -/
structure OfferDetails where
  response : Option OfferResponse

inductive Failure where
  | proofPresentationNotFound
  | platformConfigNotFound
  | emailSend
  | deepLinkDomainNotFound
  /-- `Validation failed: …` -/
  | validation (messages : List String)
  | typeError
  | other

/-- An awaited call, with the assignments to the shared object just before it. -/
inductive Cmd where
  | agentSendOutOfBandProofRequest (payload : IProofRequestPayload)
  | getInvitationDidByOrgId (orgId : String)
  | getW3CSchemaAttributes (schemaUrl : Option String)
  | agentOutOfBandCredentialOffer (payload : OutOfBandIssuancePayload) (url orgId : String)
  | storeObjectReturnUrl (storeObj : Option String) (persistent : Bool)
  | toDataURL (text : String)
  | getPlatformConfigDetails
  /-- `emailFrom`, `emailTo` and `emailSubject` are assigned, and the text is awaited. -/
  | outOfBandVerification (emailFrom email emailSubject orgName deepLinkURL : String)
  /-- The text and the attachments are assigned, and the shared object is handed over. -/
  | sendShared (emailHtml : Html) (emailAttachments : List Attachment)
  /-- A copy of the shared object is filled and handed over. -/
  | sendCopy (emailFrom : String) (emailTo : Option String) (emailSubject : String) (emailHtml : Html)
      (emailAttachments : List Attachment)
  | updateSchemaIdByThreadId (threadId : String) (schemaId : Option String)

@[reducible] def Ret : Cmd → Type
  | .agentSendOutOfBandProofRequest _ => Option IInvitation
  | .getInvitationDidByOrgId _ => Option String
  | .getW3CSchemaAttributes _ => List ISchemaAttributes
  | .agentOutOfBandCredentialOffer _ _ _ => Option OfferDetails
  | .storeObjectReturnUrl _ _ => String
  | .toDataURL _ => String
  | .getPlatformConfigDetails => Option String
  | .outOfBandVerification _ _ _ _ _ => Html
  | .sendShared _ _ => Bool
  | .sendCopy _ _ _ _ _ => Bool
  | .updateSchemaIdByThreadId _ _ => Unit

abbrev Async := Prog Cmd Ret Failure
def perform (command : Cmd) : Async (Ret command) := call command
/-- The configuration, and the library that draws QR codes (`none`: it throws). -/
structure Services where
  DEEPLINK_DOMAIN : Option String
  PLATFORM_NAME : String
  toDataURL : String → Option String

section
variable (svc : Services)

def convertUrlToDeepLinkUrl (url : String) : Async String :=
  match truthy svc.DEEPLINK_DOMAIN with
  | none => throw .deepLinkDomainNotFound
  | some deepLinkDomain => pure (deepLinkDomain ++ url)
def qrcode (dataURL : String) : Attachment :=
  ⟨"qrcode.png",(dataURL.splitOn ";base64,")[1]?,"image/png","attachment"⟩
inductive Response where
  | proof (outOfBandRecordId proofRecordThId : Option String)
  | offer (isEmailSent : Bool)

def sendOutOfBandProofRequest (payload : IProofRequestPayload) (email : String) (organizationDetails : Organisation) :
    Async Response := do
  match ← perform (.agentSendOutOfBandProofRequest payload) with
  | none => throw .proofPresentationNotFound
  | some getProofPresentation =>
    let shortenedUrl ← perform (.storeObjectReturnUrl getProofPresentation.invitationUrl false)
    let deepLinkURL ← convertUrlToDeepLinkUrl svc shortenedUrl
    let outOfBandVerificationQrCode ← perform (.toDataURL shortenedUrl)
    match ← perform .getPlatformConfigDetails with
    | none => throw .platformConfigNotFound
    | some emailFrom =>
      let emailHtml ← perform (.outOfBandVerification emailFrom email
        (svc.PLATFORM_NAME ++ " Platform: Verification of Your Credentials") organizationDetails.name deepLinkURL)
      let isEmailSent ← perform (.sendShared emailHtml [qrcode outOfBandVerificationQrCode])
      if isEmailSent then
        pure (.proof getProofPresentation.outOfBandRecordId getProofPresentation.proofRecordThId)
      else throw .emailSend

/-- What is wrong with one attribute of the schema: it is missing, or its value does not fit. -/
def checkAttribute (filteredIssuanceAttributes : List (String × Value)) (schemaAttribute : ISchemaAttributes) :
    Option String × Option String :=
  match filteredIssuanceAttributes.lookup schemaAttribute.attributeName with
  | none =>
    (if schemaAttribute.isRequired then some s!"Attribute {schemaAttribute.attributeName} is missing" else none,none)
  | some value =>
    if schemaAttribute.isRequired && value.falsy then
      (none,some s!"Attribute {schemaAttribute.attributeName} must have a non-empty value")
    else
      let expected :=
      if schemaAttribute.schemaDataType = "datetime-local" then "string" else schemaAttribute.schemaDataType
      if value.typeof = expected then (none,none)
      else (none,some
        s!"Attribute {schemaAttribute.attributeName} has type {value.typeof} but expected type {schemaAttribute.schemaDataType}")

def validateW3CSchemaAttributes (filteredIssuanceAttributes : List (String × Value))
    (schemaUrlAttributes : List ISchemaAttributes) : Async Unit :=
  let checked := schemaUrlAttributes.map (checkAttribute filteredIssuanceAttributes)
  let missingAttributes := checked.filterMap (·.1)
  let mismatchedAttributes := checked.filterMap (·.2)
  let extraAttributes := (filteredIssuanceAttributes.filter fun entry =>
    !(schemaUrlAttributes.map (·.attributeName)).contains entry.1).map fun entry =>
      s!"Attribute {entry.1} is not defined in the schema"
  if missingAttributes ≠ [] then throw (.validation missingAttributes)
  else if mismatchedAttributes ≠ [] then throw (.validation mismatchedAttributes)
  else if extraAttributes ≠ [] then throw (.validation extraAttributes)
  else pure ()

def payloadOf (dto : SendEmailCredentialOffer) (invitationDid : Option String)
    (protocolVersion autoAcceptCredential : String)
    (credentialFormats : CredentialFormats) : OutOfBandIssuancePayload where
  protocolVersion := protocolVersion
  credentialFormats := credentialFormats
  autoAcceptCredential := autoAcceptCredential
  comment := dto.comment
  goalCode := truthy dto.outOfBandCredential.goalCode
  parentThreadId := truthy dto.outOfBandCredential.parentThreadId
  willConfirm := dto.outOfBandCredential.willConfirm.filter id
  label := dto.organisation.map (·.name)
  imageUrl := (truthy (dto.organisation.bind (·.logoUrl))).or dto.outOfBandCredential.imageUrl
  invitationDid := truthy invitationDid

def outOfBandIssuancePayload (dto : SendEmailCredentialOffer) (invitationDid : Option String) :
    Async OutOfBandIssuancePayload :=
  match dto.credentialType with
  | .INDY =>
    let withAttributes (attributes : List IAttributes) : OutOfBandIssuancePayload :=
      payloadOf dto invitationDid ((truthy dto.protocolVersion).getD "v1")
        ((truthy dto.outOfBandCredential.autoAcceptCredential).getD "always")
        (.indy attributes dto.credentialDefinitionId)
    match dto.attributes, dto.iterator with
    | some attributes,_ => pure (withAttributes attributes)
    | none,some iterator => pure (withAttributes (iterator.attributes.map fun one => { one with isRequired := none }))
    | none,none => throw .typeError
  | .JSONLD =>
    match dto.iterator with
    | none => throw .typeError
    | some iterator => do
      let payload := payloadOf dto invitationDid "v2" "always" (.jsonld iterator.credential iterator.options)
      match iterator.credential.bind (·.credentialSubject) with
      | none => throw .typeError
      | some payloadAttributes =>
        let filteredIssuanceAttributes := payloadAttributes.filter fun entry => entry.1 ≠ "id"
        let schemaUrlAttributes ← perform (.getW3CSchemaAttributes (iterator.credential.bind (·.context[1]?)))
        if dto.isValidateSchema = some true then
          validateW3CSchemaAttributes filteredIssuanceAttributes schemaUrlAttributes
        pure payload

def W3C_SCHEMA_URL : String := "https://www.w3.org/2018/credentials/v1"

def storeSchemaId (payload : OutOfBandIssuancePayload) (credentialRequestThId : Option String) : Async Unit :=
  match payload.credentialFormats with
  | .indy _ _ => pure ()
  | .jsonld credential _ =>
    let w3cSchemaId := (credential.map (·.context)).getD []
    if W3C_SCHEMA_URL ∈ w3cSchemaId then
      let filterData := w3cSchemaId.filter (W3C_SCHEMA_URL ≠ ·)
      match truthy credentialRequestThId with
      | none => pure ()
      | some threadId => perform (.updateSchemaIdByThreadId threadId filterData.head?)
    else pure ()

def emailTo (dto : SendEmailCredentialOffer) : Option String := (dto.iterator.bind (·.emailId)).or dto.emailId
def reusedInvitationDid (dto : SendEmailCredentialOffer) : Async (Option String) :=
  if dto.isReuseConnection = some true then perform (.getInvitationDidByOrgId dto.orgId) else pure none

def sendEmailForCredentialOffer (dto : SendEmailCredentialOffer) : Async Response := do
  let invitationDid ← reusedInvitationDid dto
  let payload ← outOfBandIssuancePayload dto invitationDid
  match ← perform (.agentOutOfBandCredentialOffer payload dto.url dto.orgId) with
  | none => pure (.offer false)
  | some credentialCreateOfferDetails =>
    let invitationUrl := credentialCreateOfferDetails.response.bind (·.invitationUrl)
    let shortenUrl ← perform (.storeObjectReturnUrl invitationUrl false)
    let deepLinkURL ← convertUrlToDeepLinkUrl svc shortenUrl
    if truthy invitationUrl = none then pure (.offer false) else
    let outOfBandIssuanceQrCode ← perform (.toDataURL shortenUrl)
    match ← perform .getPlatformConfigDetails with
    | none => pure (.offer false)
    | some emailFrom =>
      let platform := (truthy dto.platformName).getD svc.PLATFORM_NAME
      let isEmailSent ← perform (.sendCopy emailFrom (emailTo dto) (platform ++ " Platform: Issuance of Your Credential")
        (.outOfBandIssuance dto.emailId dto.organizationDetails.name deepLinkURL dto.platformName dto.organizationLogoUrl)
        [qrcode outOfBandIssuanceQrCode])
      if isEmailSent then
        storeSchemaId payload (credentialCreateOfferDetails.response.bind (·.credentialRequestThId))
        pure (.offer true)
      else pure (.offer false)

end

inductive Input where
  | proofRequest (payload : IProofRequestPayload) (email : String) (organizationDetails : Organisation)
  | credentialOffer (dto : SendEmailCredentialOffer)
def Input.recipient : Input → Option String
  | .proofRequest _ email _ => some email
  | .credentialOffer dto => emailTo dto
structure Handed where
  process : Nat
  email : EmailDto

/-- The shared object of each service, and what was handed over, the latest first. To state what
    is wanted, it is kept what the calls are, which of them assigned a recipient last, and to what the
    link of each was shortened. -/
structure World where
  verification : EmailDto
  issuance : EmailDto
  mails : List Handed
  calls : Nat → Option Input
  assigned : Option Nat
  shortened : Nat → Option String

def World.initial : World := ⟨.new,.new,[],fun _ => none,none,fun _ => none⟩

/-- What the others answer to an awaited call, or that it is rejected. -/
structure Choice where
  fails : Bool
  invitation : Option IInvitation
  did : Option String
  attributes : List ISchemaAttributes
  offer : Option OfferDetails
  url : String
  emailFrom : Option String
  isEmailSent : Bool

section
variable (svc : Services) (process : Nat)

/-- The mail service reads the fields at once. -/
def World.hand (w : World) (email : EmailDto) : World := { w with mails := ⟨process,email⟩ :: w.mails }
def answered {α : Type} (choice : Choice) (value : α) : Except Failure α :=
  if choice.fails then .error .other else .ok value

def carry : (c : Cmd) → Choice → World → World × Except Failure (Ret c)
  | .agentSendOutOfBandProofRequest _,choice,w => (w,answered choice choice.invitation)
  | .getInvitationDidByOrgId _,choice,w => (w,answered choice choice.did)
  | .getW3CSchemaAttributes _,choice,w => (w,answered choice choice.attributes)
  | .agentOutOfBandCredentialOffer _ _ _,choice,w => (w,answered choice choice.offer)
  | .storeObjectReturnUrl _ _,choice,w =>
    if choice.fails then (w,.error .other)
    else ({ w with shortened := Function.update w.shortened process (some choice.url) },.ok choice.url)
  | .toDataURL text,_,w =>
    match svc.toDataURL text with
    | none => (w,.error .other)
    | some dataURL => (w,.ok dataURL)
  | .getPlatformConfigDetails,choice,w => (w,answered choice choice.emailFrom)
  | .outOfBandVerification emailFrom email emailSubject orgName deepLinkURL,_,w =>
    ({ w with
        verification := { w.verification with
          emailFrom := some emailFrom, emailTo := some email, emailSubject := some emailSubject }
        assigned := some process },.ok (.outOfBandVerification email orgName deepLinkURL))
  | .sendShared emailHtml emailAttachments,choice,w =>
    let filled := { w.verification with emailHtml := some emailHtml, emailAttachments := some emailAttachments }
    ({ w with verification := filled }.hand process filled,answered choice choice.isEmailSent)
  | .sendCopy emailFrom emailTo emailSubject emailHtml emailAttachments,choice,w =>
    (w.hand process { w.issuance with
      emailFrom := some emailFrom
      emailTo := emailTo
      emailSubject := some emailSubject
      emailHtml := some emailHtml
      emailAttachments := some emailAttachments },answered choice choice.isEmailSent)
  | .updateSchemaIdByThreadId _ _,choice,w => (w,answered choice ())

def program : Input → Async Response
  | .proofRequest payload email organizationDetails => sendOutOfBandProofRequest svc payload email organizationDetails
  | .credentialOffer dto => sendEmailForCredentialOffer svc dto
/-- Any number of calls of both services. Nothing else happens. -/
def sys : System Cmd Ret Failure Response World Choice Input Empty where
  handle process command choice w := some (carry svc process command choice w)
  arrive process input w := some { w with calls := Function.update w.calls process (some input) }
  program _ input := program svc input
  environment event _ := nomatch event
/-- The e-mail has the recipient of the call, and the link and the QR code of what its link was
    shortened to. -/
structure IsOf (input : Input) (short : String) (email : EmailDto) : Prop where
  recipient : email.emailTo = input.recipient
  link : ∃ html domain, email.emailHtml = some html ∧ truthy svc.DEEPLINK_DOMAIN = some domain ∧
    html.deepLinkURL = domain ++ short
  code : ∃ dataURL, svc.toDataURL short = some dataURL ∧ email.emailAttachments = some [qrcode dataURL]
/-- The mail is the one that its own call asked for. -/
def Whole (w : World) (mail : Handed) : Prop :=
  ∃ input short, w.calls mail.process = some input ∧ w.shortened mail.process = some short ∧
      IsOf svc input short mail.email
def World.mailsOf (w : World) : List Handed := w.mails.filter fun mail => mail.process = process
def Response.emailSent : Response → Bool
  | .proof _ _ => true
  | .offer isEmailSent => isEmailSent
/-- Each e-mail is whole and that of the call that handed it over, no call hands over two, and a
    call that reports that its e-mail is sent handed over one. -/
structure Delivered (m : Machine Cmd Ret Failure Response World) : Prop where
  whole : ∀ mail ∈ m.world.mails, Whole svc m.world mail
  once : ∀ process, (m.world.mailsOf process).length ≤ 1
  sent : ∀ process response, (m.thread process).ended = some (.ok response) → response.emailSent = true →
    ∃ mail, m.world.mailsOf process = [mail]

/-- The call that assigned a recipient last has the recipient of this one. -/
def OwnRecipient (w : World) : Prop :=
  ∀ last input own, w.assigned = some last → w.calls last = some input → w.calls process = some own →
    input.recipient = own.recipient
/-- A proof request is handed over only where the recipient was assigned last for the same one. -/
def Untouched (m : Machine Cmd Ret Failure Response World) : Action Choice Input Empty → Prop
  | .advance process _ => ∀ emailHtml emailAttachments resume,
      m.thread process = .live (.await (.sendShared emailHtml emailAttachments) resume) → OwnRecipient process m.world
  | _ => True
/-- What the shared object says of its recipient. -/
structure Sound (w : World) : Prop where
  whole : ∀ mail ∈ w.mails, Whole svc w mail
  once : ∀ process, (w.mailsOf process).length ≤ 1
  named : ∀ last, w.assigned = some last → ∃ input, w.calls last = some input ∧ w.verification.emailTo = input.recipient

/-- What the steps of other calls leave of a call. -/
structure Undisturbed (a b : World) : Prop where
  calls : b.calls process = a.calls process
  shortened : b.shortened process = a.shortened process
  mails : b.mailsOf process = a.mailsOf process
  assigned : a.assigned.isSome = true → b.assigned.isSome = true
  foreign : a.assigned ≠ some process → b.assigned ≠ some process
def contract : Contract Cmd World Choice Empty where
  inv := Sound svc
  rely := Undisturbed
  idle process w := w.mailsOf process = [] ∧ w.assigned ≠ some process
  allowed process c _ w :=
    match c with
    | .sendShared _ _ => OwnRecipient process w
    | _ => True
  happens _ _ := True

variable {svc process} {other : Nat} {w a b after : World} {choice : Choice}
theorem undisturbed_refl : Undisturbed process w w := ⟨rfl,rfl,rfl,id,id⟩
theorem undisturbed_trans {c : World} (first : Undisturbed process a b) (second : Undisturbed process b c) :
    Undisturbed process a c :=
  ⟨second.calls.trans first.calls,second.shortened.trans first.shortened,second.mails.trans first.mails,
    second.assigned ∘ first.assigned,second.foreign ∘ first.foreign⟩
theorem mailsOf_self {email : EmailDto} :
    (w.hand process email).mailsOf process = ⟨process,email⟩ :: w.mailsOf process := by
  simp [World.mailsOf,World.hand]
theorem mailsOf_other {email : EmailDto} (different : other ≠ process) :
    (w.hand process email).mailsOf other = w.mailsOf other := by
  simp [World.mailsOf,World.hand,Ne.symm different]
theorem not_of_none (none_ : w.mailsOf process = []) {mail : Handed} (there : mail ∈ w.mails) :
    mail.process ≠ process := by
  intro same
  have listed : mail ∈ w.mailsOf process := List.mem_filter.mpr ⟨there,by simpa using same⟩
  rw [none_] at listed
  cases listed

/-- The call has handed nothing over yet. -/
structure Quiet (process : Nat) (input : Input) (w : World) : Prop where
  called : w.calls process = some input
  silent : w.mailsOf process = []
structure Linked (process : Nat) (input : Input) (short : String) (w : World) : Prop extends Quiet process input w where
  link : w.shortened process = some short

variable {input : Input} {short : String}
theorem quiet_stable (quiet : Quiet process input a) (relied : Undisturbed process a b) : Quiet process input b :=
  ⟨relied.calls.trans quiet.called,relied.mails.trans quiet.silent⟩
theorem linked_stable (linked : Linked process input short a) (relied : Undisturbed process a b) :
    Linked process input short b :=
  ⟨quiet_stable linked.toQuiet relied,relied.shortened.trans linked.link⟩

variable {email shared : EmailDto}
theorem hand_undisturbed (different : other ≠ process) :
    Undisturbed other w (World.hand process { w with verification := shared } email) :=
  ⟨rfl,rfl,mailsOf_other different,id,id⟩

theorem hand_sound (sound : Sound svc w) (linked : Linked process input short w)
    (own : IsOf svc input short email) (kept : shared.emailTo = w.verification.emailTo) :
    Sound svc (World.hand process { w with verification := shared } email) := by
  refine ⟨?_,fun other => ?_,fun last assigned => ?_⟩
  · intro mail there
    rcases List.mem_cons.mp there with rfl | before
    · exact ⟨input,short,linked.called,linked.link,own⟩
    · exact sound.whole mail before
  · by_cases same : other = process
    · subst same
      rw [mailsOf_self]
      exact Nat.le_of_eq (congrArg (List.length ∘ (_ :: ·)) linked.silent)
    · rw [mailsOf_other same]
      exact sound.once other
  · obtain ⟨input,called,names⟩ := sound.named last assigned
    exact ⟨input,called,kept.trans names⟩

def Plain : Cmd → Prop
  | .storeObjectReturnUrl _ _ => False
  | .outOfBandVerification _ _ _ _ _ => False
  | .sendShared _ _ => False
  | .sendCopy _ _ _ _ _ => False
  | _ => True

theorem carry_plain {c : Cmd} (plain : Plain c) : (carry svc process c choice w).1 = w := by
  cases c with
  | toDataURL text =>
    simp only [carry]
    split <;> rfl
  | storeObjectReturnUrl storeObj persistent => cases plain
  | outOfBandVerification emailFrom email emailSubject orgName deepLinkURL => cases plain
  | sendShared emailHtml emailAttachments => cases plain
  | sendCopy emailFrom emailTo emailSubject emailHtml emailAttachments => cases plain
  | _ => rfl
theorem steady_plain {c : Cmd} (plain : Plain c) : Steady (sys svc) (contract svc) c := by
  intro process before choice after answer sound _ handled
  have same : after = before := (congrArg Prod.fst (Option.some.inj handled)).symm.trans (carry_plain plain)
  exact ⟨same ▸ sound,fun other => same ▸ undisturbed_refl⟩
theorem rely_trans (process : Nat) (a b c : World) (first : (contract svc).rely process a b)
    (second : (contract svc).rely process b c) : (contract svc).rely process a c :=
  undisturbed_trans first second

variable {holds : World → Prop}
theorem wp_plain {c : Cmd} (plain : Plain c)
    (stable : ∀ a b, holds a → Undisturbed process a b → holds b) (now : holds w) :
    wp (sys svc) (contract svc) process (perform c) (upon (fun _ => holds) fun _ => True) w := by
  refine wp_steady (rely_trans process) (steady_plain plain) fun after answer relied _ => ?_
  cases answer with
  | error error => trivial
  | ok value => exact stable w after now relied
theorem quiet_stable' (a b : World) : Quiet process input a → Undisturbed process a b → Quiet process input b :=
  quiet_stable
theorem linked_stable' (a b : World) :
    Linked process input short a → Undisturbed process a b → Linked process input short b :=
  linked_stable

theorem wp_store {storeObj : Option String} {persistent : Bool} (quiet : Quiet process input w) :
    wp (sys svc) (contract svc) process (perform (.storeObjectReturnUrl storeObj persistent))
      (upon (fun short => Linked process input short) fun _ => True) w := by
  apply wp_call
  intro before relied sound choice after answer _ handled
  have now := quiet_stable quiet relied
  have handled : carry svc process (.storeObjectReturnUrl storeObj persistent) choice before = (after,answer) :=
    Option.some.inj handled
  simp only [carry] at handled
  split at handled
  · cases handled
    exact ⟨sound,fun _ _ => undisturbed_refl,trivial⟩
  · cases handled
    refine ⟨⟨?_,sound.once,sound.named⟩,fun other different => ?_,⟨⟨now.called,now.silent⟩,Function.update_self _ _ _⟩⟩
    · intro mail there
      obtain ⟨own,short,called,link,is⟩ := sound.whole mail there
      exact ⟨own,short,called,(Function.update_of_ne (not_of_none now.silent there) _ _).trans link,is⟩
    · exact ⟨rfl,Function.update_of_ne different _ _,rfl,id,id⟩

theorem wp_toDataURL {text : String} (linked : Linked process input short w) :
    wp (sys svc) (contract svc) process (perform (.toDataURL text))
      (upon (fun dataURL w => Linked process input short w ∧ svc.toDataURL text = some dataURL) fun _ => True) w := by
  apply wp_call
  intro before relied sound choice after answer _ handled
  have now := linked_stable linked relied
  have handled : carry svc process (.toDataURL text) choice before = (after,answer) := Option.some.inj handled
  simp only [carry] at handled
  split at handled
  · cases handled
    exact ⟨sound,fun _ _ => undisturbed_refl,trivial⟩
  · next dataURL drawn =>
    cases handled
    exact ⟨sound,fun _ _ => undisturbed_refl,now,drawn⟩

theorem wp_assign {emailFrom email emailSubject orgName deepLinkURL : String} (linked : Linked process input short w)
    (own : input.recipient = some email) :
    wp (sys svc) (contract svc) process
        (perform (.outOfBandVerification emailFrom email emailSubject orgName deepLinkURL))
      (upon (fun html w => Linked process input short w ∧ w.assigned.isSome = true ∧ html.deepLinkURL = deepLinkURL)
        fun _ => True) w := by
  apply wp_call
  intro before relied sound choice after answer _ handled
  have now := linked_stable linked relied
  cases handled
  refine ⟨⟨sound.whole,sound.once,?_⟩,fun other different => ?_,⟨⟨now.called,now.silent⟩,now.link⟩,rfl,rfl⟩
  · intro last assigned
    obtain rfl : process = last := Option.some.inj assigned
    exact ⟨input,now.called,own.symm⟩
  · exact ⟨rfl,rfl,rfl,fun _ => rfl,fun _ same => different (Option.some.inj same).symm⟩

theorem hand_one (silent : w.mailsOf process = []) (answer : Except Failure Bool) :
    upon (fun _ w => ∃ mail, w.mailsOf process = [mail]) (fun _ => True) answer
      (World.hand process { w with verification := shared } email) := by
  cases answer with
  | error error => trivial
  | ok value => exact ⟨⟨process,email⟩,mailsOf_self.trans (congrArg (_ :: ·) silent)⟩
/-- How a call ends: with one e-mail, where it reports that the e-mail is sent. -/
def wanted (process : Nat) : Except Failure Response → World → Prop :=
  upon (fun response w => response.emailSent = true → ∃ mail, w.mailsOf process = [mail]) fun _ => True

theorem wp_sendShared {emailHtml : Html} {domain dataURL : String} (linked : Linked process input short w)
    (assigned : w.assigned.isSome = true) (domain_ : truthy svc.DEEPLINK_DOMAIN = some domain)
    (link : emailHtml.deepLinkURL = domain ++ short) (code : svc.toDataURL short = some dataURL) :
    wp (sys svc) (contract svc) process (perform (.sendShared emailHtml [qrcode dataURL]))
      (upon (fun _ w => ∃ mail, w.mailsOf process = [mail]) fun _ => True) w := by
  apply wp_call
  intro before relied sound choice after answer allowed handled
  have now := linked_stable linked relied
  obtain ⟨last,is⟩ := Option.isSome_iff_exists.mp (relied.assigned assigned)
  obtain ⟨theirs,called,names⟩ := sound.named last is
  have own := allowed last theirs input is called now.called
  cases handled
  exact ⟨hand_sound sound now ⟨names.trans own,⟨emailHtml,domain,rfl,domain_,link⟩,dataURL,code,rfl⟩ rfl,
    fun other different => hand_undisturbed different,hand_one now.silent _⟩

theorem wp_sendCopy {emailFrom emailSubject : String} {emailHtml : Html} {domain dataURL : String}
    (linked : Linked process input short w) (domain_ : truthy svc.DEEPLINK_DOMAIN = some domain)
    (link : emailHtml.deepLinkURL = domain ++ short) (code : svc.toDataURL short = some dataURL) :
    wp (sys svc) (contract svc) process
      (perform (.sendCopy emailFrom input.recipient emailSubject emailHtml [qrcode dataURL]))
      (upon (fun _ w => ∃ mail, w.mailsOf process = [mail]) fun _ => True) w := by
  apply wp_call
  intro before relied sound choice after answer _ handled
  have now := linked_stable linked relied
  cases handled
  exact ⟨hand_sound sound now ⟨rfl,⟨emailHtml,domain,rfl,domain_,link⟩,dataURL,code,rfl⟩ rfl,
    fun other different => hand_undisturbed different,hand_one now.silent _⟩

theorem wp_convert {url : String} (now : holds w) :
    wp (sys svc) (contract svc) process (convertUrlToDeepLinkUrl svc url)
      (upon (fun link w => holds w ∧ ∃ domain, truthy svc.DEEPLINK_DOMAIN = some domain ∧ link = domain ++ url)
        fun _ => True) w := by
  unfold convertUrlToDeepLinkUrl
  cases domain_ : truthy svc.DEEPLINK_DOMAIN with
  | none => trivial
  | some domain => exact ⟨now,domain,rfl,rfl⟩

theorem wp_sendOutOfBandProofRequest {payload : IProofRequestPayload} {email : String}
    {organizationDetails : Organisation}
    (quiet : Quiet process (.proofRequest payload email organizationDetails) w) :
    wp (sys svc) (contract svc) process (sendOutOfBandProofRequest svc payload email organizationDetails)
      (wanted process) w := by
  refine wp_seq _ (wp_plain trivial quiet_stable' quiet) fun getProofPresentation w quiet => ?_
  cases getProofPresentation with
  | none => trivial
  | some getProofPresentation =>
    refine wp_seq _ (wp_store quiet) fun shortenedUrl w linked => ?_
    refine wp_seq _ (wp_convert linked) fun deepLinkURL w converted => ?_
    obtain ⟨linked,domain,domain_,link⟩ := converted
    refine wp_seq _ (wp_toDataURL linked) fun dataURL w drawn => ?_
    obtain ⟨linked,code⟩ := drawn
    refine wp_seq _ (wp_plain trivial linked_stable' linked) fun config w linked => ?_
    cases config with
    | none => trivial
    | some emailFrom =>
      refine wp_seq _ (wp_assign linked rfl) fun emailHtml w filled => ?_
      obtain ⟨linked,assigned,body⟩ := filled
      refine wp_seq _ (wp_sendShared linked assigned domain_ (body.trans link) code) fun isEmailSent w one => ?_
      cases isEmailSent with
      | false => trivial
      | true => exact fun _ => one

theorem only_validate {filteredIssuanceAttributes : List (String × Value)}
    {schemaUrlAttributes : List ISchemaAttributes} :
    Only Plain (validateW3CSchemaAttributes filteredIssuanceAttributes schemaUrlAttributes) := by
  unfold validateW3CSchemaAttributes
  exact only_ite _ trivial (only_ite _ trivial (only_ite _ trivial trivial))

theorem only_payload {dto : SendEmailCredentialOffer} {invitationDid : Option String} :
    Only Plain (outOfBandIssuancePayload dto invitationDid) := by
  unfold outOfBandIssuancePayload
  cases dto.credentialType with
  | INDY =>
    dsimp only
    split <;> trivial
  | JSONLD =>
    cases dto.iterator with
    | none => trivial
    | some iterator =>
      dsimp only
      split
      · trivial
      · exact only_bind ((only_call _).mpr trivial) fun _ =>
          only_ite _ (only_bind only_validate fun _ => only_pure _) (only_pure _)

theorem only_storeSchemaId {payload : OutOfBandIssuancePayload} {credentialRequestThId : Option String} :
    Only Plain (storeSchemaId payload credentialRequestThId) := by
  unfold storeSchemaId
  cases payload.credentialFormats with
  | indy attributes credentialDefinitionId => trivial
  | jsonld credential options =>
    dsimp only
    split
    · cases truthy credentialRequestThId with
      | none => trivial
      | some threadId => exact (only_call _).mpr trivial
    · trivial

theorem wp_untouched {β : Type} {p : Async β} (only : Only Plain p)
    (stable : ∀ a b, holds a → Undisturbed process a b → holds b) (now : holds w) :
    wp (sys svc) (contract svc) process p (upon (fun _ => holds) fun _ => True) w := by
  refine wp_mono ?_ (wp_only (fun a b holds relied _ => stable a b holds relied)
    (only_mono (fun c plain => steady_plain plain) only) now)
  rintro (error | value) w holds
  · trivial
  · exact holds

theorem wp_sendEmailForCredentialOffer {dto : SendEmailCredentialOffer}
    (quiet : Quiet process (.credentialOffer dto) w) :
    wp (sys svc) (contract svc) process (sendEmailForCredentialOffer svc dto) (wanted process) w := by
  have reused : Only Plain (reusedInvitationDid dto) :=
    only_ite _ ((only_call (Cmd.getInvitationDidByOrgId dto.orgId)).mpr trivial) (only_pure _)
  refine wp_seq _ (wp_untouched reused quiet_stable' quiet) fun invitationDid w quiet => ?_
  refine wp_seq _ (wp_untouched only_payload quiet_stable' quiet) fun payload w quiet => ?_
  refine wp_seq _ (wp_plain trivial quiet_stable' quiet) fun details w quiet => ?_
  cases details with
  | none => exact fun sent => nomatch sent
  | some credentialCreateOfferDetails =>
    refine wp_seq _ (wp_store quiet) fun shortenUrl w linked => ?_
    refine wp_seq _ (wp_convert linked) fun deepLinkURL w converted => ?_
    obtain ⟨linked,domain,domain_,link⟩ := converted
    refine wp_branches _ (fun _ => fun sent => nomatch sent) fun _ => ?_
    refine wp_seq _ (wp_toDataURL linked) fun dataURL w drawn => ?_
    obtain ⟨linked,code⟩ := drawn
    refine wp_seq _ (wp_plain trivial linked_stable' linked) fun config w linked => ?_
    cases config with
    | none => exact fun sent => nomatch sent
    | some emailFrom =>
      refine wp_seq _ (wp_sendCopy linked domain_ link code) fun isEmailSent w one => ?_
      cases isEmailSent with
      | false => exact fun sent => nomatch sent
      | true =>
        refine wp_seq _ (wp_untouched only_storeSchemaId ?_ one) fun _ w one _ => one
        exact fun a b one relied => relied.mails ▸ one

theorem keeps : Keeps (sys svc) (contract svc) wanted where
  reflexive _ _ := undisturbed_refl
  transitive := rely_trans
  stable process result a b held relied _ := by
    cases result with
    | error error => trivial
    | ok response => exact fun sent => relied.mails ▸ held sent
  idles process a b idle relied _ := ⟨relied.mails.trans idle.1,relied.foreign idle.2⟩
  arrives process input a b sound idle arrived := by
    obtain rfl := Option.some.inj arrived
    refine ⟨⟨?_,sound.once,?_⟩,?_,?_⟩
    · intro mail there
      obtain ⟨own,short,called,link,is⟩ := sound.whole mail there
      exact ⟨own,short,(Function.update_of_ne (not_of_none idle.1 there) _ _).trans called,link,is⟩
    · intro last assigned
      have different : last ≠ process := fun same => idle.2 (same ▸ assigned)
      obtain ⟨own,called,names⟩ := sound.named last assigned
      exact ⟨own,(Function.update_of_ne different _ _).trans called,names⟩
    · exact fun other different => ⟨Function.update_of_ne different _ _,rfl,rfl,id,id⟩
    · have quiet : Quiet process input { a with calls := Function.update a.calls process (some input) } :=
        ⟨Function.update_self _ _ _,idle.1⟩
      cases input with
      | proofRequest payload email organizationDetails => exact wp_sendOutOfBandProofRequest quiet
      | credentialOffer dto => exact wp_sendEmailForCredentialOffer quiet
  moves event := nomatch event

theorem untouched_iff (m : Machine Cmd Ret Failure Response World) (a : Action Choice Input Empty) :
    Considered (contract svc) m a ↔ Untouched m a := by
  cases a with
  | start process input => exact Iff.rfl
  | crash process => exact Iff.rfl
  | environment event => exact nomatch event
  | advance process choice =>
    constructor
    · exact fun considered emailHtml emailAttachments resume at_ => considered _ resume at_
    · intro untouched command resume at_
      cases command with
      | sendShared emailHtml emailAttachments => exact untouched emailHtml emailAttachments resume at_
      | _ => trivial

theorem delivered_of_safe {m : Machine Cmd Ret Failure Response World} (safe : Safe (sys svc) (contract svc) wanted m) :
    Delivered svc m :=
  ⟨safe.inv.whole,safe.inv.once,fun _ _ ended => safe_ended safe ended⟩

theorem spoils {m next : Machine Cmd Ret Failure Response World} {a : Action Choice Input Empty}
    (safe : Safe (sys svc) (contract svc) wanted m) (taken : step (sys svc) m a = some next)
    (touched : ¬Considered (contract svc) m a) : ¬Delivered svc next := by
  intro delivered
  refine touched ((untouched_iff m a).mpr ?_)
  cases a with
  | start process input => trivial
  | crash process => trivial
  | environment event => exact nomatch event
  | advance process choice =>
    intro emailHtml emailAttachments resume at_ last input own assigned called own_
    obtain ⟨command,resume',world,answer,at',handled,rfl⟩ := step_advance taken
    cases at_.symm.trans at'
    cases handled
    obtain ⟨input',called',names⟩ := safe.inv.named last assigned
    cases called.symm.trans called'
    obtain ⟨own',short,own_',-,is⟩ := delivered.whole _ List.mem_cons_self
    cases own_.symm.trans own_'
    exact names.symm.trans is.recipient

/-- In every run from the start of the services, each e-mail is whole, its own call's and the only one
    of this call, exactly where each proof request is handed over while the recipient that was
    assigned last is its own. -/
theorem mails_whole_iff (svc : Services) {actions : List (Action Choice Input Empty)}
    {m : Machine Cmd Ret Failure Response World}
    (reached : run (step (sys svc)) (Machine.initial .initial) actions = some m) :
    (∀ first rest u, actions = first ++ rest → run (step (sys svc)) (Machine.initial .initial) first = some u →
        Delivered svc u) ↔
      Along (step (sys svc)) Untouched (Machine.initial .initial) actions := by
  have safe : Safe (sys svc) (contract svc) wanted (Machine.initial .initial) :=
    safe_initial ⟨fun _ there => (nomatch there),fun _ => Nat.zero_le 1,fun _ assigned => (nomatch assigned)⟩
      fun _ => ⟨rfl,fun assigned => (nomatch assigned)⟩
  rw [exact_along keeps (fun u => delivered_of_safe) (fun u a next => spoils) safe reached]
  exact ⟨along_mono fun u a => (untouched_iff u a).mp,along_mono fun u a => (untouched_iff u a).mpr⟩

end

def drawing : Services := ⟨some "app://","Platform",fun text => some ("data:image/png;base64," ++ text)⟩
def request (email : String) : Input := .proofRequest ⟨"org","https://agent","{}"⟩ email ⟨"Ministry",none⟩
def answers (url : String) : Choice :=
  ⟨false,some ⟨some "https://agent/invitation",none,none⟩,none,[],none,url,some "from@example.com",true⟩
/-- The second call assigns its recipient between the two parts of the first. -/
def overlapping : List (Action Choice Input Empty) :=
  [.start 0 (request "one@example.com"),.start 1 (request "two@example.com")] ++
    List.replicate 5 (.advance 0 (answers "https://short/1")) ++
    List.replicate 5 (.advance 1 (answers "https://short/2")) ++ [.advance 0 (answers "https://short/1")]
theorem mails_whole_iff_overlapping :
    (∀ first rest u, overlapping = first ++ rest → run (step (sys drawing)) (Machine.initial .initial) first = some u →
        Delivered drawing u) ↔
      Along (step (sys drawing)) Untouched (Machine.initial .initial) overlapping :=
  mails_whole_iff drawing rfl
/-- The link and the QR code of the first call go to the recipient of the second. -/
theorem mail_misdirected :
    ∃ m, run (step (sys drawing)) (Machine.initial .initial) overlapping = some m ∧
      m.world.mails.map (fun mail => (mail.process,mail.email.emailTo,mail.email.emailHtml.map Html.deepLinkURL)) =
        [(0,some "two@example.com",some "app://https://short/1")] ∧
      ¬Delivered drawing m := by
  refine ⟨_,rfl,rfl,fun delivered => ?_⟩
  obtain ⟨input,short,called,-,is⟩ := delivered.whole _ List.mem_cons_self
  obtain rfl : request "one@example.com" = input := Option.some.inj called
  exact absurd is.recipient (by decide)

end Ngotag.InvitationMails
