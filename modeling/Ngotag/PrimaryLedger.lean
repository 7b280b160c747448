import Mathlib.Data.List.Infix
import Mathlib.Data.List.Nodup

/-!
The ledger of a primary DID. `createDid` takes it from the network of the request
or, for `did:ethr`, from the DID, and `setPrimaryDid` always takes it from the
DID. The two agree on a DID exactly when the namespace that the first one asks
for is the one of the DID, or neither has a ledger of its own
(`same_ledger_iff`).
-/
namespace Ngotag.PrimaryLedger

/-- `did.split(':')` -/
def segments (did : String) : List String := (did.toList.splitOn ':').map String.ofList
/-- `text.includes(word)` -/
def includes (word text : String) : Bool := word.toList <:+: text.toList
def POLYGON : String := "polygon"
def ETHR : String := "ethr"
def TESTNET : String := "testnet"
def SEPOLIA : String := "sepolia"
def MAINNET : String := "mainnet"
/-- A segment as a template writes it. -/
def written (did : String) (i : Nat) : String := (segments did).getD i "undefined"

/-- The second segment where the DID mentions neither ledger, which may be undefined. -/
def networkNamespace (did : String) : Option String :=
  let mentions word := (segments did).any (includes word)
  if mentions POLYGON || mentions ETHR then
    some (written did 1 ++ ":" ++ if mentions TESTNET || mentions SEPOLIA then written did 2 else MAINNET)
  else (segments did)[1]?
def didLedgerNamespace (did : Option String) : Option String :=
  match did with
  | none => none
  | some did =>
    if (segments did)[0]? ≠ some "did" ∨ (segments did).length < 3 then none
    else if written did 1 = POLYGON ∨ written did 1 = ETHR then networkNamespace did
    else if written did 1 = "indy" then
      if 5 ≤ (segments did).length then some (written did 2 ++ ":" ++ written did 3) else none
    else none
structure Ledger where
  id : String
  name : String
  indyNamespace : Option String
/-- The table, in the order in which the database finds rows. Its key is the id. -/
structure Ledgers where
  rows : List Ledger
  ids : (rows.map Ledger.id).Nodup
inductive Failure
  /-- `findFirstOrThrow` found nothing. -/
  | notFound
  | typeError
  /-- `ResponseMessages.agent.error.networkMismatch` -/
  | networkMismatch
  /-- `ResponseMessages.agent.error.createDid` -/
  | createDid
  deriving DecidableEq

/-- `findFirstOrThrow` by the namespace. -/
def getNetworkByNameSpace (ledgers : Ledgers) (nameSpace : String) : Except Failure Ledger :=
  match ledgers.rows.find? fun row => row.indyNamespace = some nameSpace with
  | some row => .ok row
  | none => .error .notFound
/-- The same, with nothing for an empty or an undefined namespace. -/
def getLedgerByNameSpace (ledgers : Ledgers) (indyNamespace : Option String) : Except Failure Ledger :=
  match indyNamespace with
  | none | some "" => .error .typeError
  | some nameSpace => getNetworkByNameSpace ledgers nameSpace
/-- `Ledgers.Not_Applicable` -/
def notApplicable : String := "NA"
/-- `findFirstOrThrow` by the name. -/
def getLedger (ledgers : Ledgers) (name : String) : Except Failure Ledger :=
  match ledgers.rows.find? fun row => row.name = name with
  | some row => .ok row
  | none => .error .notFound
structure DidCreate where
  method : String
  network : Option String
structure AgentDetails where
  orgDid : Option String
  ledgerId : Option String
/-- The value is neither absent nor empty. -/
def truthy (text : Option String) : Bool := text.any (· ≠ "")
def isMainnet (nameSpace : String) : Bool := ":mainnet".toList <:+ nameSpace.toList

/-- The network of the request is not the one of the organisation. -/
def isNetworkMismatch (agent : AgentDetails) (method network : String) (ledger : Ledger) : Bool :=
  match didLedgerNamespace agent.orgDid with
  | some primaryNamespace =>
    if primaryNamespace = "" then agent.ledgerId.isSome && agent.ledgerId ≠ some ledger.id
    else if agent.orgDid.map (written · 1) = some method then primaryNamespace ≠ network
    else isMainnet primaryNamespace ≠ isMainnet network
  | none => agent.ledgerId.isSome && agent.ledgerId ≠ some ledger.id
def networkLedger (ledgers : Ledgers) (agent : AgentDetails) (payload : DidCreate) : Except Failure (Option Ledger) :=
  match payload.network with
  | none | some "" => .ok none
  | some network => do
    let ledger ← getLedgerByNameSpace ledgers (some network)
    if payload.method ≠ ETHR ∧ isNetworkMismatch agent payload.method network ledger = true then throw .networkMismatch
    return some ledger

/-- The ledger id that `createDid` stores for a DID that it makes primary. -/
def createDid (ledgers : Ledgers) (agent : AgentDetails) (payload : DidCreate) (did : String) :
    Except Failure String := do
  let network ← networkLedger ledgers agent payload
  if did = "" then throw .createDid
  match network with
  | some ledger => return ledger.id
  | none =>
    if payload.method = ETHR then
      match getLedgerByNameSpace ledgers (networkNamespace did) with
      | .ok ledger => return ledger.id
      | .error _ => return (← getLedger ledgers notApplicable).id
    else return (← getLedger ledgers notApplicable).id

def setPrimaryDid (ledgers : Ledgers) (did : String) : Except Failure String :=
  match didLedgerNamespace (some did) with
  | some nameSpace => do return (← getNetworkByNameSpace ledgers nameSpace).id
  | none => do return (← getLedger ledgers notApplicable).id
def noLedgerId (ledgers : Ledgers) : Except Failure String := Ledger.id <$> getLedger ledgers notApplicable
/-- The id is the one that `setPrimaryDid` stores, or that of the ledger for none where it
    finds no ledger. -/
def SameLedger (ledgers : Ledgers) (did ledgerId : String) : Prop :=
  match setPrimaryDid ledgers did with
  | .ok id => ledgerId = id
  | .error _ => noLedgerId ledgers = .ok ledgerId

def asked (payload : DidCreate) (did : String) : Option String :=
  if truthy payload.network then payload.network
  else if payload.method = ETHR then (networkNamespace did).filter (· ≠ "") else none
def found (ledgers : Ledgers) (nameSpace : Option String) : Option Ledger :=
  nameSpace.bind fun nameSpace => ledgers.rows.find? fun row => row.indyNamespace = some nameSpace
/-- There is no namespace, or it has no ledger but the one for none. -/
def NoLedger (ledgers : Ledgers) (nameSpace : Option String) : Prop :=
  ∀ row, found ledgers nameSpace = some row → noLedgerId ledgers = .ok row.id
/-- The id of the ledger of a namespace, or of the ledger for none. -/
def idOf (ledgers : Ledgers) (nameSpace : Option String) : Except Failure String :=
  match found ledgers nameSpace with
  | some row => .ok row.id
  | none => noLedgerId ledgers

section
variable {ledgers : Ledgers} {agent : AgentDetails} {payload : DidCreate} {did id : String} {x y : Option String}

theorem found_nameSpace {row : Ledger} (there : found ledgers x = some row) :
    row ∈ ledgers.rows ∧ row.indyNamespace = x := by
  obtain ⟨nameSpace,rfl,first⟩ := Option.bind_eq_some_iff.mp there
  exact ⟨List.mem_of_find?_eq_some first,by simpa using List.find?_some first⟩
theorem idOf_noLedger (none_ : NoLedger ledgers x) : idOf ledgers x = noLedgerId ledgers := by
  unfold idOf
  cases there : found ledgers x with
  | none => rfl
  | some row => exact (none_ row there).symm

theorem idOf_iff (first : idOf ledgers x = .ok id) :
    idOf ledgers y = .ok id ↔ x = y ∨ NoLedger ledgers x ∧ NoLedger ledgers y := by
  constructor
  · intro second
    unfold idOf at first second
    cases there : found ledgers x with
    | none =>
      rw [there] at first
      refine .inr ⟨fun row some_ => (by cases there.symm.trans some_),fun row some_ => ?_⟩
      rw [some_] at second
      exact first.trans second.symm
    | some row =>
      rw [there] at first
      cases there' : found ledgers y with
      | none =>
        rw [there'] at second
        refine .inr ⟨fun other some_ => ?_,fun other some_ => (by cases there'.symm.trans some_)⟩
        obtain rfl := Option.some.inj (there.symm.trans some_)
        exact second.trans first.symm
      | some row' =>
        rw [there'] at second
        obtain ⟨member,named⟩ := found_nameSpace there
        obtain ⟨member',named'⟩ := found_nameSpace there'
        have same : row.id = row'.id := Except.ok.inj (first.trans second.symm)
        obtain rfl := List.inj_on_of_nodup_map ledgers.ids member member' same
        exact .inl (named.symm.trans named')
  · rintro (rfl | ⟨none_,none'⟩)
    · exact first
    · rw [idOf_noLedger none',← idOf_noLedger none_,first]

theorem getNetworkByNameSpace_found {nameSpace : String} : getNetworkByNameSpace ledgers nameSpace =
    match found ledgers (some nameSpace) with
    | some row => .ok row
    | none => .error .notFound := rfl

theorem getLedgerByNameSpace_cases :
    getLedgerByNameSpace ledgers x = match found ledgers (x.filter (· ≠ "")) with
      | some row => .ok row
      | none => .error (if truthy x then .notFound else .typeError) := by
  cases x with
  | none => rfl
  | some nameSpace =>
    by_cases empty : nameSpace = ""
    · subst empty
      rfl
    · have full : getLedgerByNameSpace ledgers (some nameSpace) = getNetworkByNameSpace ledgers nameSpace := by
        unfold getLedgerByNameSpace
        split
        · next none_ => cases none_
        · next none_ => exact absurd (Option.some.inj none_) empty
        · next same => rw [Option.some.inj same]
      rw [full,getNetworkByNameSpace_found]
      simp [Option.filter,empty,truthy]

theorem sameLedger_iff : SameLedger ledgers did id ↔ idOf ledgers (didLedgerNamespace (some did)) = .ok id := by
  unfold SameLedger setPrimaryDid idOf
  cases didLedgerNamespace (some did) with
  | none =>
    change (match noLedgerId ledgers with | .ok stored => id = stored | .error _ => noLedgerId ledgers = .ok id) ↔
      noLedgerId ledgers = .ok id
    cases noLedgerId ledgers with
    | ok stored => exact ⟨fun same => congrArg _ same.symm,fun same => (Except.ok.inj same).symm⟩
    | error failure => exact Iff.rfl
  | some nameSpace =>
    simp only [getNetworkByNameSpace_found]
    cases found ledgers (some nameSpace) with
    | some row => exact ⟨fun same => congrArg _ same.symm,fun same => (Except.ok.inj same).symm⟩
    | none => exact Iff.rfl

theorem networkLedger_ok {network : Option Ledger} (looked : networkLedger ledgers agent payload = .ok network) :
    if truthy payload.network then found ledgers payload.network = network ∧ network.isSome else network = none := by
  unfold networkLedger at looked
  cases given : payload.network with
  | none =>
    rw [given] at looked
    exact (Except.ok.inj looked).symm
  | some name =>
    by_cases empty : name = ""
    · subst empty
      rw [given] at looked
      exact (Except.ok.inj looked).symm
    · have full : truthy (some name) = true := by simp [truthy,empty]
      rw [if_pos full]
      rw [given] at looked
      split at looked
      · next none_ => cases none_
      · next none_ => exact absurd (Option.some.inj none_) empty
      · next same =>
        obtain rfl := Option.some.inj same
        rw [getLedgerByNameSpace_cases] at looked
        have kept : (some name).filter (· ≠ "") = some name := by simp [Option.filter,empty]
        rw [kept] at looked
        cases there : found ledgers (some name) with
        | none =>
          rw [there] at looked
          cases looked
        | some row =>
          rw [there] at looked
          change (if _ then _ else _) = _ at looked
          split at looked
          · cases looked
          · obtain rfl := Except.ok.inj looked
            exact ⟨rfl,rfl⟩

theorem createDid_ok (created : createDid ledgers agent payload did = .ok id) :
    idOf ledgers (asked payload did) = .ok id := by
  unfold createDid at created
  cases looked : networkLedger ledgers agent payload with
  | error failure =>
    rw [looked] at created
    cases created
  | ok network =>
    rw [looked] at created
    change (if did = "" then _ else _) = _ at created
    split at created
    · cases created
    have known := networkLedger_ok looked
    by_cases given : truthy payload.network = true
    · rw [if_pos given] at known
      obtain ⟨ledger,rfl⟩ := Option.isSome_iff_exists.mp known.2
      rw [asked,if_pos given,idOf,known.1]
      exact created
    · rw [if_neg given] at known
      subst known
      rw [asked,if_neg given]
      by_cases ethr : payload.method = ETHR
      · rw [if_pos ethr,idOf]
        simp only [if_pos ethr,getLedgerByNameSpace_cases] at created
        cases there : found ledgers ((networkNamespace did).filter (· ≠ "")) with
        | some row =>
          simp only [there] at created
          exact created
        | none =>
          simp only [there] at created
          exact created
      · rw [if_neg ethr]
        change (if payload.method = ETHR then _ else _) = _ at created
        rw [if_neg ethr] at created
        exact created

/-- The ledger of a DID that is created as primary is the one that `setPrimaryDid` stores for
    it exactly when the namespaces are the same, or none of the two has a ledger. -/
theorem same_ledger_iff (created : createDid ledgers agent payload did = .ok id) :
    SameLedger ledgers did id ↔ asked payload did = didLedgerNamespace (some did) ∨
      NoLedger ledgers (asked payload did) ∧ NoLedger ledgers (didLedgerNamespace (some did)) :=
  sameLedger_iff.trans (idOf_iff (createDid_ok created))
end

def polygonTestnet : Ledger := ⟨"ledger-polygon-testnet","Polygon Testnet",some "polygon:testnet"⟩
def noLedger : Ledger := ⟨"ledger-not-applicable",notApplicable,some "no_ledger"⟩
def seeded : Ledgers := ⟨[polygonTestnet,noLedger],by decide⟩
def polygonDid : String := "did:polygon:testnet:0x12"
def request : DidCreate := ⟨POLYGON,none⟩
theorem created_request : createDid seeded ⟨none,none⟩ request polygonDid = .ok noLedger.id := by decide +kernel
theorem same_ledger_iff_request : createDid seeded ⟨none,none⟩ request polygonDid = .ok noLedger.id ∧
    (SameLedger seeded polygonDid noLedger.id ↔ asked request polygonDid = didLedgerNamespace (some polygonDid) ∨
      NoLedger seeded (asked request polygonDid) ∧ NoLedger seeded (didLedgerNamespace (some polygonDid))) :=
  ⟨created_request,same_ledger_iff created_request⟩
/-- `setPrimaryDid` would store the ledger of the namespace. -/
theorem ledger_differs : ¬∀ (ledgers : Ledgers) (agent : AgentDetails) (payload : DidCreate) (did id : String),
    createDid ledgers agent payload did = .ok id → SameLedger ledgers did id := by
  intro always
  have same := always seeded ⟨none,none⟩ request polygonDid noLedger.id created_request
  have stored : setPrimaryDid seeded polygonDid = .ok polygonTestnet.id := by decide +kernel
  rw [SameLedger,stored] at same
  exact absurd same (by decide)

end Ngotag.PrimaryLedger
