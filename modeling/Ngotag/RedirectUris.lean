import Ngotag.Separated
import Ngotag.OrgRolesGuard
import Ngotag.NetworkAddresses

/-!
The redirect URIs of an organisation: how their list is stored, and which redirect URI it admits
(`redirects_exact`). The parser of URLs is a parameter.
-/
namespace Ngotag.RedirectUris
open Separated
open OrgRolesGuard (trim)

/-- A host as the parser writes it. Only an IPv6 address has colons, in brackets. -/
structure Host where
  text : List Char
  closed : ':' ∈ text → text.getLast? = some ']'
/-- What is read of a parsed URL. The port is left out where it is that of the scheme. -/
structure Url where
  scheme : String
  host : Host
  port : Option Nat
  pathname : List Char

/-- `new URL(text)`, which throws where there is none. -/
abbrev Parser := String → Option Url
def Url.protocol (url : Url) : String := url.scheme ++ ":"
structure Origin where
  scheme : String
  host : Host
  port : Option Nat
/-- The schemes with an origin of their own. -/
def special : List String := ["ftp","http","https","ws","wss"]
def Url.tuple (url : Url) : Origin := ⟨url.scheme,url.host,url.port⟩

/-- The origin of a URL, unless it is opaque. That of a `blob:` URL is the one of the URL in it. -/
def originOf (parse : Parser) (url : Url) : Option Origin :=
  if url.scheme ∈ special then some url.tuple
  else if url.scheme = "blob" then
    ((parse (String.ofList url.pathname)).filter fun inner => inner.scheme ∈ ["http","https"]).map Url.tuple
  else none
def portText : Option Nat → List Char
  | none => []
  | some port => ':' :: Nat.toDigits 10 port
def Origin.text (origin : Origin) : List Char :=
  origin.scheme.toList ++ ':' :: '/' :: '/' :: (origin.host.text ++ portText origin.port)
/-- `url.origin` -/
def Url.origin (parse : Parser) (url : Url) : List Char := (originOf parse url).elim "null".toList Origin.text
def parseRedirectUriAllowlist (stored : Option String) : List String :=
  (((stored.getD "").toList.splitOn ',').map fun entry => trim (String.ofList entry)).filter fun entry =>
      0 < entry.length

def matchesAllowlistEntry (parse : Parser) (target : Url) (allowed : String) : Bool :=
  match parse allowed with
  | none => false
  | some allowedUrl =>
    if target.origin parse ≠ allowedUrl.origin parse then false
    else
      let allowedPath := stripped '/' allowedUrl.pathname
      let targetPath := stripped '/' target.pathname
      if allowedPath = [] then true
      else targetPath = allowedPath || (allowedPath ++ ['/']).isPrefixOf targetPath

def hasAllowedRedirectProtocol (parse : Parser) (uri : String) (allowHttp : Bool) : Bool :=
  match parse uri with
  | some url => url.protocol = "https:" || (allowHttp && url.protocol = "http:")
  | none => false
/-- What is parsed a second time is parsed. -/
def isRedirectUriAllowed (parse : Parser) (redirectUri : String) (allowlist : List String) (allowHttp : Bool) : Bool :=
  if !hasAllowedRedirectProtocol parse redirectUri allowHttp then false
  else (parse redirectUri).any fun target => allowlist.any (matchesAllowlistEntry parse target)
structure OrgAgent where
  redirectUriAllowlist : Option String
  deriving DecidableEq

inductive Refusal where
  /-- `ResponseMessages.verification.error.redirectUriHttpsRequired` -/
  | redirectUriHttpsRequired
  | notFound
  deriving DecidableEq
/-- `uris.join(',')` -/
def join (uris : List String) : String := String.ofList ([','].intercalate (uris.map String.toList))
def getRedirectUris (agent : Option OrgAgent) : Except Refusal (List String) :=
  match agent with
  | some agent => .ok (parseRedirectUriAllowlist agent.redirectUriAllowlist)
  | none => .error .notFound
def setRedirectUris (parse : Parser) (allowHttp : Bool) (agent : Option OrgAgent) (redirectUris : List String) :
    Except Refusal (List String × OrgAgent) :=
  let normalized := (redirectUris.map trim).eraseDups
  if !normalized.all fun uri => hasAllowedRedirectProtocol parse uri allowHttp then .error .redirectUriHttpsRequired
  else match agent with
  | none => .error .notFound
  | some _ =>
    let updated := ⟨some (join normalized)⟩
    .ok (parseRedirectUriAllowlist updated.redirectUriAllowlist,updated)

/-- The scheme is `https`, or `http` where this is configured. -/
def Permitted (allowHttp : Bool) (target : Url) :
    Prop := target.scheme = "https" ∨ allowHttp = true ∧ target.scheme = "http"
def SameOrigin (parse : Parser) (target allowed : Url) : Prop :=
  ∃ origin, originOf parse target = some origin ∧ originOf parse allowed = some origin
/-- The segments of a path. A slash at the end begins none. -/
def segments (path : List Char) : List (List Char) := parts '/' path
/-- An entry admits the target: the same origin, and a path that begins with its segments. -/
def Admits (parse : Parser) (target : Url) (entry : String) : Prop :=
  ∃ allowed, parse entry = some allowed ∧ SameOrigin parse target allowed ∧
    segments allowed.pathname <+: segments target.pathname
/-- An entry that survives being stored. -/
def Storable (uri : String) : Prop := trim uri = uri ∧ uri ≠ "" ∧ ',' ∉ uri.toList
instance (uri : String) : Decidable (Storable uri) := inferInstanceAs (Decidable (_ ∧ _ ∧ _))

section
variable {parse : Parser} {target allowed : Url} {a b : Origin}

theorem digits_plain {n : Nat} {c : Char} (other : c.isDigit = false) : c ∉ Nat.toDigits 10 n := by
  intro there
  rw [Nat.isDigit_of_mem_toDigits (by decide) (by decide) there] at other
  cases other
theorem digits_injective {n m : Nat} (same : Nat.toDigits 10 n = Nat.toDigits 10 m) : n = m := by
  have read := congrArg (Nat.ofDigitChars 10 · 0) same
  simpa using read

theorem host_port {h h' : Host} {port : Nat} : h.text ≠ h'.text ++ portText (some port) := by
  intro same
  have colon : ':' ∈ h.text := by rw [same]; simp [portText]
  have ends := h.closed colon
  have digits : Nat.toDigits 10 port ≠ [] := Nat.toDigits_ne_nil
  rw [same,portText,List.getLast?_append_of_ne_nil _ (List.cons_ne_nil _ _),List.getLast?_cons,
    List.getLast?_eq_some_getLast digits] at ends
  have last : ']' ∈ Nat.toDigits 10 port := by
    have is : (Nat.toDigits 10 port).getLast digits = ']' := by simpa using ends
    exact is ▸ List.getLast_mem digits
  exact digits_plain (by decide) last

theorem authority_injective {h h' : Host} {port port' : Option Nat}
    (same : h.text ++ portText port = h'.text ++ portText port') : h.text = h'.text ∧ port = port' := by
  cases port with
  | none =>
    rw [portText,List.append_nil] at same
    cases port' with
    | none => exact ⟨by simpa [portText] using same,rfl⟩
    | some q => exact absurd same host_port
  | some p =>
    cases port' with
    | none =>
      rw [portText,portText,List.append_nil] at same
      exact absurd same.symm host_port
    | some q =>
      -- The last colon is the one before the port.
      have turned := congrArg List.reverse same
      simp only [portText,List.reverse_append,List.reverse_cons,List.append_assoc,List.singleton_append] at turned
      have plain (n : Nat) : ':' ∉ (Nat.toDigits 10 n).reverse :=
          fun there => digits_plain (by decide) (List.mem_reverse.mp there)
      obtain ⟨ports,hosts⟩ := NetworkAddresses.part_eq (plain p) (plain q) turned
      exact ⟨List.reverse_injective hosts,congrArg some (digits_injective (List.reverse_injective ports))⟩

theorem origin_injective (plain : ':' ∉ a.scheme.toList) (plain' : ':' ∉ b.scheme.toList) (same : a.text = b.text) :
    a = b := by
  obtain ⟨schemes,rest⟩ := NetworkAddresses.part_eq plain plain' same
  obtain ⟨hosts,ports⟩ := authority_injective (List.cons.inj (List.cons.inj rest).2).2
  obtain ⟨scheme,⟨host,closed⟩,port⟩ := a
  obtain ⟨scheme',⟨host',closed'⟩,port'⟩ := b
  obtain rfl : scheme = scheme' := String.toList_inj.mp schemes
  obtain rfl : host = host' := hosts
  obtain rfl : port = port' := ports
  rfl

theorem originOf_special (found : originOf parse target = some a) : a.scheme ∈ special := by
  unfold originOf at found
  split at found
  · next own =>
    obtain rfl := Option.some.inj found
    exact own
  · split at found
    · obtain ⟨inner,kept,rfl⟩ := Option.map_eq_some_iff.mp found
      have either := (Option.filter_eq_some_iff.mp kept).2
      rcases List.mem_cons.mp (of_decide_eq_true either) with http | https
      · change inner.scheme ∈ special
        rw [http]
        decide
      · change inner.scheme ∈ special
        rw [List.mem_singleton.mp https]
        decide
    · cases found

theorem special_plain {scheme : String} (own : scheme ∈ special) : ':' ∉ scheme.toList :=
  (by decide : ∀ scheme ∈ special, ':' ∉ scheme.toList) scheme own

theorem origin_eq_iff (own : target.scheme ∈ special) :
    target.origin parse = allowed.origin parse ↔ SameOrigin parse target allowed := by
  have found : originOf parse target = some target.tuple := if_pos own
  constructor
  · intro same
    rw [Url.origin,Url.origin,found,Option.elim_some] at same
    cases other : originOf parse allowed with
    | none =>
      rw [other,Option.elim_none] at same
      have colon : ':' ∈ target.tuple.text := by simp [Origin.text]
      rw [same] at colon
      exact absurd colon (by decide)
    | some origin =>
      rw [other,Option.elim_some] at same
      have is : target.tuple = origin :=
        origin_injective (special_plain own) (special_plain (originOf_special other)) same
      exact ⟨origin,is ▸ found,other⟩
  · rintro ⟨origin,here,there⟩
    rw [Url.origin,Url.origin,here,there]

theorem permitted_iff {allowHttp : Bool} :
    (target.protocol = "https:" || (allowHttp && target.protocol = "http:")) = true ↔ Permitted allowHttp target := by
  have scheme (s : String) : target.protocol = s ++ ":" ↔ target.scheme = s := by
    rw [Url.protocol,String.append_left_inj]
  have https : target.protocol = "https:" ↔ target.scheme = "https" := scheme "https"
  have http : target.protocol = "http:" ↔ target.scheme = "http" := scheme "http"
  simp only [Bool.or_eq_true,Bool.and_eq_true,decide_eq_true_eq,https,http,Permitted]
theorem permitted_special {allowHttp : Bool} (permitted : Permitted allowHttp target) : target.scheme ∈ special := by
  rcases permitted with https | ⟨-,http⟩
  · rw [https]; decide
  · rw [http]; decide

theorem matchesAllowlistEntry_iff {entry : String} (own : target.scheme ∈ special) :
    matchesAllowlistEntry parse target entry = true ↔ Admits parse target entry := by
  unfold matchesAllowlistEntry Admits
  cases parse entry with
  | none => simp
  | some allowed =>
    have paths : segments allowed.pathname <+: segments target.pathname ↔ _ := parts_prefix
    by_cases same : target.origin parse = allowed.origin parse
    · simp only [same,ne_eq,not_true_eq_false,if_false,Option.some.injEq,exists_eq_left',(origin_eq_iff own).mp same,
        true_and,paths]
      by_cases whole : stripped '/' allowed.pathname = []
      · simp [whole]
      · simp [whole,List.isPrefixOf_iff_prefix]
    · have apart : ¬SameOrigin parse target allowed := fun both => same ((origin_eq_iff own).mpr both)
      simp [same,apart]

theorem isRedirectUriAllowed_iff {redirectUri : String} {allowlist : List String} {allowHttp : Bool} :
    isRedirectUriAllowed parse redirectUri allowlist allowHttp = true ↔
      ∃ target, parse redirectUri = some target ∧ Permitted allowHttp target ∧ ∃ entry ∈ allowlist,
      Admits parse target entry := by
  unfold isRedirectUriAllowed hasAllowedRedirectProtocol
  cases parse redirectUri with
  | none => simp
  | some target =>
    simp only [Option.some.injEq,exists_eq_left',Option.any_some]
    rw [← permitted_iff]
    by_cases permitted : (target.protocol = "https:" || (allowHttp && target.protocol = "http:")) = true
    · have own := permitted_special (permitted_iff.mp permitted)
      rw [permitted]
      simp [matchesAllowlistEntry_iff own]
    · rw [Bool.eq_false_iff.mpr permitted]
      simp

end

theorem parse_join {uris : List String} (storable : ∀ uri ∈ uris, Storable uri) :
    parseRedirectUriAllowlist (some (join uris)) = uris := by
  have entries : ∀ split_ : List (List Char), split_ = uris.map String.toList →
      ((split_.map fun entry => trim (String.ofList entry)).filter fun entry => 0 < entry.length) = uris := by
    rintro _ rfl
    have trimmed : (uris.map String.toList).map (fun entry => trim (String.ofList entry)) = uris := by
      rw [List.map_map]
      refine (List.map_congr_left fun uri there => ?_).trans (List.map_id uris)
      simpa using (storable uri there).1
    rw [trimmed,List.filter_eq_self]
    intro uri there
    have nonempty : uri.length ≠ 0 := fun none_ => (storable uri there).2.1 (by simpa using none_)
    simpa using Nat.pos_of_ne_zero nonempty
  cases uris with
  | nil => decide
  | cons first rest =>
    refine entries _ ?_
    rw [Option.getD_some,join,String.toList_ofList]
    refine List.splitOn_intercalate ',' ?_ (by simp)
    intro entry there
    obtain ⟨uri,listed,rfl⟩ := List.mem_map.mp there
    exact (storable uri listed).2.2

theorem eraseDups_distinct {uris : List String} (distinct : uris.Nodup) : uris.eraseDups = uris := by
  induction uris with
  | nil => rfl
  | cons first rest ih =>
    obtain ⟨fresh,later⟩ := List.nodup_cons.mp distinct
    have others : rest.filter (fun uri => !uri == first) = rest := by
      rw [List.filter_eq_self]
      rintro uri there
      have different : uri ≠ first := fun same => fresh (same ▸ there)
      simpa using different
    rw [List.eraseDups_cons,others,ih later]

theorem setRedirectUris_ok {parse : Parser} {allowHttp : Bool} {agent : Option OrgAgent} {uris answer : List String}
    {updated : OrgAgent} (storable : ∀ uri ∈ uris, Storable uri)
    (accepted : setRedirectUris parse allowHttp agent uris = .ok (answer,updated)) :
    answer = uris.eraseDups ∧ getRedirectUris (some updated) = .ok uris.eraseDups := by
  have trimmed : uris.map trim = uris := (List.map_congr_left fun uri there => (storable uri there).1).trans
      (List.map_id uris)
  have kept : ∀ uri ∈ uris.eraseDups, Storable uri := fun uri there => storable uri (List.mem_eraseDups.mp there)
  unfold setRedirectUris at accepted
  rw [trimmed] at accepted
  dsimp only at accepted
  split at accepted
  · cases accepted
  · cases agent with
    | none => cases accepted
    | some before =>
      obtain ⟨rfl,rfl⟩ := Prod.mk.inj (Except.ok.inj accepted)
      exact ⟨parse_join kept,congrArg Except.ok (parse_join kept)⟩

/-- Who is admitted, and what of the list is read again. -/
theorem redirects_exact (parse : Parser) (redirectUri : String) (allowlist : List String) (allowHttp : Bool) :
    (isRedirectUriAllowed parse redirectUri allowlist allowHttp = true ↔
      ∃ target, parse redirectUri = some target ∧ Permitted allowHttp target ∧
        ∃ entry ∈ allowlist, Admits parse target entry) ∧
    (∀ uris, (∀ uri ∈ uris, Storable uri) → parseRedirectUriAllowlist (some (join uris)) = uris) ∧
    ∀ agent uris answer updated, (∀ uri ∈ uris, Storable uri) → uris.Nodup →
      setRedirectUris parse allowHttp agent uris = .ok (answer,updated) →
      answer = uris ∧ getRedirectUris (some updated) = .ok uris := by
  refine ⟨isRedirectUriAllowed_iff,fun _ storable => parse_join storable,fun agent uris answer updated storable distinct accepted => ?_⟩
  have once : uris.eraseDups = uris := eraseDups_distinct distinct
  have kept := setRedirectUris_ok storable accepted
  rwa [once] at kept

/-- The URLs of a relying party, and one of another host that begins with its name. -/
def returns : Parser := fun text =>
  [("https://rp.example.com/return",⟨"https",⟨"rp.example.com".toList,by decide⟩,none,"/return".toList⟩),
    ("https://rp.example.com/return/step-2",⟨"https",⟨"rp.example.com".toList,by decide⟩,none,"/return/step-2".toList⟩),
    ("https://rp.example.com/returnx",⟨"https",⟨"rp.example.com".toList,by decide⟩,none,"/returnx".toList⟩),
    ("https://rp.example.com.evil.net/return",⟨"https",⟨"rp.example.com.evil.net".toList,by decide⟩,none,"/return".toList⟩)].lookup text

theorem redirects_exact_returns :
    (∃ target, returns "https://rp.example.com/return/step-2" = some target ∧ Permitted false target ∧
      ∃ entry ∈ ["https://rp.example.com/return"], Admits returns target entry) ∧
    parseRedirectUriAllowlist (some (join ["https://rp.example.com/return","https://rp.example.com/returnx"])) =
      ["https://rp.example.com/return","https://rp.example.com/returnx"] ∧
    getRedirectUris (some ⟨some (join ["https://rp.example.com/return"])⟩) = .ok ["https://rp.example.com/return"] := by
  have exact_ := redirects_exact returns "https://rp.example.com/return/step-2" ["https://rp.example.com/return"] false
  refine ⟨exact_.1.mp (by decide +kernel),exact_.2.1 _ (by decide +kernel),?_⟩
  exact (exact_.2.2 (some ⟨none⟩) ["https://rp.example.com/return"] ["https://rp.example.com/return"]
    ⟨some (join ["https://rp.example.com/return"])⟩ (by decide +kernel) (by decide) (by decide +kernel)).2

end Ngotag.RedirectUris
