import Ngotag.PrivateAddresses

/-!
Requests to webhooks. The URL is checked with one resolution of its host, of which the first address
counts, and the HTTP client then connects to an address of a resolution of its own. Literal
addresses resolve to themselves both times; for the others nothing ties the second answer to the
first (`webhook_public_iff`).
-/
namespace Ngotag.Webhooks
open NetworkAddresses PrivateAddresses

inductive Host where
  | ipv4 (address : V4)
  | ipv6 (address : V6)
  | domain (name : String)
structure URL where
  protocol : String
  host : Host
/-- The configuration, and the parser of URLs, which the HTTP client uses too. -/
structure Services where
  PLATFORM_PROFILE_MODE : Option String
  parse : String → Option URL

/-- What is not decided by the platform in one call: the answers to the two queries, whether the secret
    can be decrypted, and the status of the response (`none`: there is none). -/
structure Attempt where
  looked : List Address
  decrypts : Bool
  resolved : List Address
  status : Option Nat
/-- The HTTP client: to which of the addresses it connects, in its n-th request. -/
structure Client where
  picks : Nat → List Address → List Address
  own : ∀ n resolved, ∀ address ∈ picks n resolved, address ∈ resolved
def Client.all : Client := ⟨fun _ resolved => resolved,fun _ _ _ there => there⟩
def Client.none : Client := ⟨fun _ _ => [],fun _ _ _ there => nomatch there⟩
/-- `dns.lookup(hostname)`: the first address. An IPv6 address is given in brackets, and this text is
    neither an address nor a name. -/
def lookup (host : Host) (answer : List Address) : Option Address :=
  match host with
  | .ipv4 address => some (.v4 address)
  | .ipv6 _ => .none
  | .domain _ => answer.head?
structure Validity where
  isSafe : Bool
  resolvedIp : Option Address
def BAD_REQUEST : Nat := 400
def INTERNAL_SERVER_ERROR : Nat := 500

variable (svc : Services)
def isValidWebhookUrl (url : String) (answer : List Address) : Validity :=
  if svc.PLATFORM_PROFILE_MODE = some "DEV" then ⟨true,none⟩
  else match svc.parse url with
    | none => ⟨false,none⟩
    | some parsedUrl =>
      if parsedUrl.protocol ≠ "https:" then ⟨false,none⟩
      else match lookup parsedUrl.host answer with
        | none => ⟨false,none⟩
        | some address => if isPrivateIp address.text then ⟨false,none⟩ else ⟨true,some address⟩

def connections (client : Client) (n : Nat) (url : String) (resolved : List Address) : List Address :=
  match svc.parse url with
  | none => []
  | some parsedUrl =>
    match parsedUrl.host with
    | .ipv4 address => [.v4 address]
    | .ipv6 address => [.v6 address]
    | .domain _ => client.picks n resolved
/-- The status that a request ends with. Redirections are errors. -/
def response (attempt : Attempt) : Except Nat Nat :=
  match attempt.status.filter fun status => status ∉ [301,302,303,307,308] with
  | none => .error INTERNAL_SERVER_ERROR
  | some status => if 200 ≤ status ∧ status < 300 then .ok status else .error status
/-- The connections that are opened, and the status of the response or of the exception. -/
def webhookFunc (client : Client) (n : Nat) (webhookUrl : String) (webhookSecret : Option String) (attempt : Attempt) :
    List Address × Except Nat Nat :=
  if (isValidWebhookUrl svc webhookUrl attempt.looked).isSafe = false then ([],.error BAD_REQUEST)
  else if webhookSecret.any (· ≠ "") && !attempt.decrypts then ([],.error INTERNAL_SERVER_ERROR)
  else (connections svc client n webhookUrl attempt.resolved,response attempt)

/-- `bail` rejects for the caller; whether there is another attempt, the library for retries decides
    (`again`, given the number of the attempt and whether it bailed). -/
def retry (again : Nat → Bool → Bool) (client : Client) (webhookUrl : String) (webhookSecret : Option String) :
    Nat → List Attempt → List Address × Option (Except Nat Nat)
  | _,[] => ([],none)
  | n,attempt :: rest =>
    match webhookFunc svc client n webhookUrl webhookSecret attempt with
    | (opened,.ok status) => (opened,some (.ok status))
    | (opened,.error status) =>
      let bailed : Bool := 400 ≤ status && status < 500
      if again n bailed then
        let later := retry again client webhookUrl webhookSecret (n + 1) rest
        (opened ++ later.1,if bailed then some (.error status) else later.2)
      else (opened,some (.error status))

def webhookResponse (again : Nat → Bool → Bool) (client : Client) (webhookUrl : String) (webhookSecret : Option String)
    (attempts : List Attempt) : List Address × Option (Except Nat Nat) :=
  retry svc again client webhookUrl webhookSecret 0 attempts
/-- Where the host is a name whose first address passes the check, no address that the client is given
    lies in the named ranges. -/
def Fits (url : String) (webhookSecret : Option String) (attempt : Attempt) : Prop :=
  ∀ parsedUrl name address, svc.parse url = some parsedUrl → parsedUrl.protocol = "https:" →
    parsedUrl.host = .domain name → attempt.looked.head? = some address → (Named address → Missed address) →
    (webhookSecret.any (· ≠ "") = true → attempt.decrypts = true) → ∀ other ∈ attempt.resolved, ¬Named other
/-- Each attempt that is made fits. How an attempt ends does not depend on where the client connects to. -/
def FitsAll (again : Nat → Bool → Bool) (url : String) (webhookSecret : Option String) : Nat → List Attempt → Prop
  | _,[] => True
  | n,attempt :: rest => Fits svc url webhookSecret attempt ∧
      ∀ status, (webhookFunc svc .none n url webhookSecret attempt).2 = .error status →
        again n (400 ≤ status && status < 500) = true → FitsAll again url webhookSecret (n + 1) rest

variable {svc} {client other : Client} {n m : Nat} {url : String} {webhookSecret : Option String} {attempt : Attempt}
  {again : Nat → Bool → Bool}
theorem webhookFunc_ends :
    (webhookFunc svc client n url webhookSecret attempt).2 = (webhookFunc svc other m url webhookSecret attempt).2 := by
  unfold webhookFunc
  split
  · rfl
  · split <;> rfl

theorem isSafe_iff (outside : svc.PLATFORM_PROFILE_MODE ≠ some "DEV") {answer : List Address} :
    (isValidWebhookUrl svc url answer).isSafe = true ↔ ∃ parsedUrl address, svc.parse url = some parsedUrl ∧
      parsedUrl.protocol = "https:" ∧ lookup parsedUrl.host answer = some address ∧
      (Named address → Missed address) := by
  have passes (address : Address) : ¬isPrivateIp address.text = true ↔ (Named address → Missed address) := by
    rw [isPrivateIp_iff]
    tauto
  unfold isValidWebhookUrl
  rw [if_neg outside]
  cases parsed : svc.parse url with
  | none => simp
  | some parsedUrl =>
    by_cases https : parsedUrl.protocol = "https:"
    · cases found : lookup parsedUrl.host answer with
      | none => simp [https,found]
      | some address =>
        by_cases blocked : isPrivateIp address.text = true
        · have refused := mt (passes address).mpr (not_not.mpr blocked)
          simp [https,found,blocked,refused]
        · have passed := (passes address).mp blocked
          simpa [https,found,blocked] using passed
    · simp [https]

/-- One call connects to no named address, whatever the client picks, exactly where it fits. -/
theorem webhookFunc_public (outside : svc.PLATFORM_PROFILE_MODE ≠ some "DEV") :
    (∀ client, ∀ address ∈ (webhookFunc svc client n url webhookSecret attempt).1, ¬Named address) ↔
      Fits svc url webhookSecret attempt := by
  constructor
  · intro public_ parsedUrl name address parsed https host first passes decrypts other listed
    have safe : (isValidWebhookUrl svc url attempt.looked).isSafe = true :=
      (isSafe_iff outside).mpr ⟨parsedUrl,address,parsed,https,by rw [host]; exact first,passes⟩
    refine public_ .all other ?_
    have unlocked : (webhookSecret.any (· ≠ "") && !attempt.decrypts) = false := by
      cases given : webhookSecret.any (· ≠ "") with
      | false => rfl
      | true => rw [decrypts given]; rfl
    simp only [webhookFunc,safe,unlocked,connections,parsed,host]
    exact listed
  · intro fits client address opened
    unfold webhookFunc at opened
    split at opened
    · cases opened
    · next unsafe_ =>
      obtain ⟨parsedUrl,first,parsed,https,found,passes⟩ :=
        (isSafe_iff outside).mp (by simpa using unsafe_ : (isValidWebhookUrl svc url attempt.looked).isSafe = true)
      split at opened
      · cases opened
      · next unlocked =>
        simp only [connections,parsed] at opened
        cases host : parsedUrl.host with
        | ipv4 own =>
          -- The literal address was checked itself.
          rw [host] at opened found
          obtain rfl := List.mem_singleton.mp opened
          obtain rfl := Option.some.inj found
          exact fun named => passes named
        | ipv6 own =>
          rw [host] at found
          cases found
        | domain name =>
          rw [host] at opened found
          refine fits parsedUrl name first parsed https host found passes (fun given => ?_) address
            (client.own n attempt.resolved address opened)
          cases decrypts : attempt.decrypts with
          | true => rfl
          | false =>
            rw [given,decrypts] at unlocked
            exact absurd rfl unlocked

/-- No request to a webhook, the repeated ones included, connects to a named address, whatever the
    client picks of its answers, exactly where every attempt fits. -/
theorem webhook_public_iff (svc : Services) (outside : svc.PLATFORM_PROFILE_MODE ≠ some "DEV")
    (again : Nat → Bool → Bool)
    (webhookUrl : String) (webhookSecret : Option String) (attempts : List Attempt) :
    (∀ client, ∀ address ∈ (webhookResponse svc again client webhookUrl webhookSecret attempts).1, ¬Named address) ↔
      FitsAll svc again webhookUrl webhookSecret 0 attempts := by
  suffices each : ∀ n,
      (∀ client, ∀ address ∈ (retry svc again client webhookUrl webhookSecret n attempts).1, ¬Named address) ↔
      FitsAll svc again webhookUrl webhookSecret n attempts from each 0
  induction attempts with
  | nil => exact fun n => ⟨fun _ => trivial,fun _ _ _ opened => nomatch opened⟩
  | cons attempt rest ih =>
    intro n
    rw [FitsAll,← webhookFunc_public (n := n) outside,← ih]
    have ends (client : Client) : (webhookFunc svc client n webhookUrl webhookSecret attempt).2 =
        (webhookFunc svc .none n webhookUrl webhookSecret attempt).2 := webhookFunc_ends
    cases ended : (webhookFunc svc .none n webhookUrl webhookSecret attempt).2 with
    | ok status =>
      have opened (client : Client) : (retry svc again client webhookUrl webhookSecret n (attempt :: rest)).1 =
          (webhookFunc svc client n webhookUrl webhookSecret attempt).1 := by
        have same := ends client
        rw [ended] at same
        rw [retry]
        split
        · next called => rw [called]
        · next called => rw [called] at same; cases same
      simp only [opened,reduceCtorEq,false_imp_iff,implies_true,and_true]
    | error status =>
      have opened (client : Client) : (retry svc again client webhookUrl webhookSecret n (attempt :: rest)).1 =
          (webhookFunc svc client n webhookUrl webhookSecret attempt).1 ++
            if again n (400 ≤ status && status < 500) = true then
              (retry svc again client webhookUrl webhookSecret (n + 1) rest).1
            else [] := by
        have same := ends client
        rw [ended] at same
        rw [retry]
        split
        · next called => rw [called] at same; cases same
        · next called =>
          rw [called] at same ⊢
          obtain rfl := Except.error.inj same
          dsimp only
          split
          · rfl
          · exact (List.append_nil _).symm
      simp only [opened,List.mem_append,Except.error.injEq]
      constructor
      · intro public_
        refine ⟨fun client address there => public_ client address (.inl there),?_⟩
        rintro _ rfl goes client address there
        exact public_ client address (.inr (by rw [if_pos goes]; exact there))
      · rintro ⟨now,later⟩ client address (there | there)
        · exact now client address there
        · split at there
          · next goes => exact later status rfl goes client address there
          · cases there

def platform : Services where
  PLATFORM_PROFILE_MODE := some "PROD"
  parse := fun url => if url = "https://hooks.example/" then some ⟨"https:",.domain "hooks.example"⟩ else none
/-- The first query is answered with a public address, the second with the loopback address. -/
def rebound : Attempt := ⟨[.v4 ⟨93,184,216,34⟩],true,[.v4 ⟨127,0,0,1⟩],some 200⟩
theorem webhook_public_iff_rebound :
    (∀ client, ∀ address ∈ (webhookResponse platform (fun _ _ => false) client "https://hooks.example/" none [rebound]).1,
        ¬Named address) ↔
      FitsAll platform (fun _ _ => false) "https://hooks.example/" none 0 [rebound] :=
  webhook_public_iff platform (by decide) _ _ _ _
/-- The request is sent to the platform itself. -/
theorem webhook_to_loopback :
    (webhookResponse platform (fun _ _ => false) .all "https://hooks.example/" none [rebound]).1 = [.v4 ⟨127,0,0,1⟩] ∧
      ¬∀ client,
      ∀ address ∈ (webhookResponse platform (fun _ _ => false) client "https://hooks.example/" none [rebound]).1,
        ¬Named address := by
  have opened : (webhookResponse platform (fun _ _ => false) .all "https://hooks.example/" none [rebound]).1 =
      [.v4 ⟨127,0,0,1⟩] := by decide +kernel
  refine ⟨opened,fun public_ => public_ .all (.v4 ⟨127,0,0,1⟩) ?_ (.inr (.inr (.inl rfl)))⟩
  rw [opened]
  exact List.mem_singleton_self _

end Ngotag.Webhooks
