import Ngotag.LedgerObjects

/-!
The method of a DID, as three helpers read it: `networkNamespace` and `checkDidLedgerAndNetwork` look for
words anywhere in the DID, `didLedgerNamespace` looks at its second part. Where the words are nowhere
else, the DID is classified by its method and its network.
-/
namespace Ngotag.DidMethods
open PrimaryLedger (segments includes written networkNamespace didLedgerNamespace POLYGON ETHR TESTNET SEPOLIA MAINNET)
open LedgerObjects

def idChar (c : Char) : Bool := c.toNat < 128 && (c.isAlphanum || c ∈ ['.','-','_','%'])
/-- `did:method:..`, by the method and the parts after it. -/
structure Did where
  method : List Char
  parts : List (List Char)
  named : method ≠ [] ∧ ∀ c ∈ method, idChar c = true ∧ c.isUpper = false
  given : parts ≠ [] ∧ parts.getLast? ≠ some []
  chars : ∀ part ∈ parts, ∀ c ∈ part, idChar c = true

section
variable (did : Did)

def Did.words : List (List Char) := "did".toList :: did.method :: did.parts
def Did.text : String := String.ofList ([':'].intercalate did.words)
def Did.onLedger : Prop := did.method = POLYGON.toList ∨ did.method = ETHR.toList
instance : Decidable did.onLedger := inferInstanceAs (Decidable (_ ∨ _))
def Did.network : Option (List Char) := if did.onLedger ∧ 2 ≤ did.parts.length then did.parts.head? else none
/-- The parts after the method and the network. -/
def Did.identifier : List (List Char) := if did.network.isSome then did.parts.tail else did.parts
end

def isTest (part : List Char) : Bool := TESTNET.toList <:+: part || SEPOLIA.toList <:+: part
def namespaceOf (method : List Char) (network : Option (List Char)) : String :=
  if method = POLYGON.toList ∨ method = ETHR.toList then
    String.ofList method ++ ":" ++ ((network.filter isTest).map String.ofList).getD MAINNET
  else String.ofList method
def Did.lower (did : Did) : List Char := did.text.toList.map Char.toLower
/-- The names of the ledgers and of the test networks are in no other place. -/
structure Placed (did : Did) : Prop where
  polygon : POLYGON.toList <:+: did.lower → did.method = POLYGON.toList
  ethr : ETHR.toList <:+: did.lower → did.method = ETHR.toList
  test : did.onLedger → ∀ part ∈ did.identifier, isTest part = false
/-- And the method begins with the name of no other. -/
structure Clean (did : Did) : Prop extends Placed did where
  key : "key".toList <+: did.method → did.method = "key".toList
  web : "web".toList <+: did.method → did.method = "web".toList
/-- The methods of a type of schema. -/
def Suits : JSONSchemaType → List Char → Prop
  | .POLYGON_W3C,method => method = POLYGON.toList
  | .ETHEREUM_W3C,method => method = ETHR.toList
  | .LEDGER_LESS,method => method = "key".toList ∨ method = "web".toList
/-- The schemas of an organisation with the DID are uploaded to the file server, and stored under the
    ledger for none. -/
def Unledgered (svc : Services) (did : Did) : Prop :=
  ∀ (db : Database) (orgId userId : String) (drawn : Nat) (schema : CreateW3CSchema) (answers : W3CAnswers) (agent : OrgAgent),
    getAgentDetailsByOrgId db orgId = some agent → agent.orgDid = some did.text →
      ((createW3CSchema svc db orgId userId drawn schema answers).registered.isSome → schema.schemaType = .LEDGER_LESS) ∧
      ∀ after, (createW3CSchema svc db orgId userId drawn schema answers).result = .ok after → ∃ row ledger,
        after = { db with schema := row :: db.schema } ∧ getLedgerByNamespace db (some "no_ledger") = some ledger ∧
        row.ledgerId = ledger.id

section
variable {did : Did}

theorem idChar_cases {c : Char} (char : idChar c = true) : Spelling.blank c = false ∧ c ≠ ':' := by
  have all : ∀ n < 128, idChar (Char.ofNat n) = true → Spelling.blank (Char.ofNat n) = false ∧
      Char.ofNat n ≠ ':' := by decide +kernel
  have small : c.toNat < 128 := by
    rw [idChar,Bool.and_eq_true,decide_eq_true_eq] at char
    exact char.1
  rw [← Char.ofNat_toNat c] at char ⊢
  exact all _ small char
theorem words_chars {word : List Char} (there : word ∈ did.words) {c : Char} (member : c ∈ word) : idChar c = true := by
  rcases List.mem_cons.mp there with rfl | later
  · exact List.all_eq_true.mp (by decide) c member
  rcases List.mem_cons.mp later with rfl | part
  · exact (did.named.2 c member).1
  · exact did.chars word part c member
theorem segments_text : segments did.text = did.words.map String.ofList := by
  rw [segments,Did.text,String.toList_ofList,List.splitOn_intercalate]
  · exact fun word there colon => (idChar_cases (words_chars there colon)).2 rfl
  · exact List.cons_ne_nil _ _
theorem written_method : written did.text 1 = String.ofList did.method := by
  rw [written,segments_text]
  rfl

theorem mem_intersperse {α : Type} {sep x : α} {xs : List α} (member : x ∈ xs.intersperse sep) : x ∈ xs ∨ x = sep := by
  induction xs with
  | nil => exact .inl member
  | cons first rest ih =>
    cases rest with
    | nil => exact .inl member
    | cons next rest =>
      rw [List.intersperse_cons_cons,List.mem_cons,List.mem_cons] at member
      rcases member with rfl | rfl | later
      · exact .inl List.mem_cons_self
      · exact .inr rfl
      · exact (ih later).imp_left (List.mem_cons_of_mem _)

theorem text_chars {c : Char} (member : c ∈ did.text.toList) : c = ':' ∨ idChar c = true := by
  rw [Did.text,String.toList_ofList,List.intercalate,List.mem_flatten] at member
  obtain ⟨word,there,inside⟩ := member
  rcases mem_intersperse there with here | rfl
  · exact .inr (words_chars here inside)
  · exact .inl (List.mem_singleton.mp inside)
theorem trim_text : OrgRolesGuard.trim did.text = did.text := by
  have plain : ∀ c ∈ did.text.toList, ¬Spelling.blank c = true := by
    intro c member
    rcases text_chars member with rfl | char
    · decide
    · rw [(idChar_cases char).1]
      exact Bool.false_ne_true
  rw [OrgRolesGuard.trim,List.dropWhile_eq_self_iff.mpr,List.rdropWhile_eq_self_iff.mpr,String.ofList_toList]
  · exact fun _ => plain _ (List.getLast_mem _)
  · exact fun _ => plain _ (List.getElem_mem _)
theorem word_lower {word inside : List Char} (small : inside.map Char.toLower = inside) (there : word ∈ did.words)
    (infix_ : inside <:+: word) : inside <:+: did.lower := by
  obtain ⟨i,at_⟩ := List.mem_iff_getElem?.mp there
  have listed : word ∈ did.words.intersperse [':'] :=
    List.mem_of_getElem? (List.getElem?_intersperse_two_mul.trans at_)
  have lower := (infix_.trans (List.infix_of_mem_flatten listed)).map Char.toLower
  rw [small] at lower
  rwa [Did.lower,Did.text,String.toList_ofList]
theorem mentions_iff {ledger : String} (small : ledger.toList.map Char.toLower = ledger.toList)
    (clean : ledger.toList <:+: did.lower → did.method = ledger.toList) :
    (segments did.text).any (includes ledger) = true ↔ did.method = ledger.toList := by
  rw [segments_text,List.any_map,List.any_eq_true]
  constructor
  · rintro ⟨word,there,inside⟩
    refine clean (word_lower small there ?_)
    simpa [includes] using inside
  · intro named
    exact ⟨did.method,by simp [Did.words],by simp [includes,named]⟩

theorem tests_iff (onLedger : did.onLedger) (clean : ∀ part ∈ did.identifier, isTest part = false) :
    ((segments did.text).any (includes TESTNET) || (segments did.text).any (includes SEPOLIA)) = true ↔
      ∃ network, did.network = some network ∧ isTest network = true := by
  have tested : ((segments did.text).any (includes TESTNET) || (segments did.text).any (includes SEPOLIA)) =
      did.words.any isTest := by
    rw [segments_text,List.any_map,List.any_map,Bool.eq_iff_iff,Bool.or_eq_true]
    simp only [List.any_eq_true,← exists_or,← and_or_left,Function.comp_apply,includes,isTest,String.toList_ofList,
      Bool.or_eq_true]
  have plain : isTest "did".toList = false ∧ isTest did.method = false := by
    rcases onLedger with named | named <;> rw [named] <;> decide
  rw [tested,Did.words,List.any_cons,List.any_cons,plain.1,plain.2,Bool.false_or,Bool.false_or,List.any_eq_true]
  constructor
  · rintro ⟨part,there,tests⟩
    by_cases named : did.onLedger ∧ 2 ≤ did.parts.length
    · obtain ⟨first,rest,parts⟩ := List.exists_cons_of_ne_nil did.given.1
      rw [Did.identifier,Did.network,if_pos named,parts] at clean
      rw [Did.network,if_pos named,parts]
      rcases List.mem_cons.mp (parts ▸ there) with rfl | later
      · exact ⟨part,rfl,tests⟩
      · rw [clean part later] at tests
        cases tests
    · rw [Did.identifier,Did.network,if_neg named] at clean
      rw [clean part there] at tests
      cases tests
  · rintro ⟨network,is,tests⟩
    rw [Did.network] at is
    split at is
    · exact ⟨network,List.mem_of_mem_head? is,tests⟩
    · cases is

theorem networkNamespace_placed (placed : Placed did) :
    networkNamespace did.text = some (namespaceOf did.method did.network) := by
  have polygon := @mentions_iff did POLYGON (by decide) placed.polygon
  have ethr := @mentions_iff did ETHR (by decide) placed.ethr
  have mentions : ((segments did.text).any (includes POLYGON) || (segments did.text).any (includes ETHR)) = true ↔
      did.onLedger := by
    rw [Bool.or_eq_true,polygon,ethr]
    rfl
  unfold networkNamespace namespaceOf
  dsimp only
  rw [written_method]
  by_cases onLedger : did.onLedger
  · have tests := tests_iff onLedger (placed.test onLedger)
    rw [if_pos (mentions.mpr onLedger),if_pos (show _ ∨ _ from onLedger)]
    cases network : did.network with
    | none =>
      rw [if_neg (by rw [tests]; simp [network])]
      rfl
    | some part =>
      cases test : isTest part with
      | false =>
        rw [if_neg (by rw [tests]; simp [network,test]),Option.filter_some_neg test]
        rfl
      | true =>
        have second : written did.text 2 = String.ofList part := by
          rw [Did.network] at network
          split at network
          · obtain ⟨rest,parts⟩ := List.head?_eq_some_iff.mp network
            rw [written,segments_text,Did.words,parts]
            rfl
          · cases network
        rw [if_pos (tests.mpr ⟨part,network,test⟩),second,Option.filter_some_pos test]
        rfl
  · rw [if_neg (onLedger ∘ mentions.mp),if_neg (show ¬(_ ∨ _) from onLedger),segments_text]
    rfl

theorem didLedgerNamespace_agrees {ledger : String} (named : didLedgerNamespace (some did.text) = some ledger)
    (other : did.method ≠ "indy".toList) : networkNamespace did.text = some ledger := by
  unfold didLedgerNamespace at named
  dsimp only at named
  rw [written_method,if_neg (show String.ofList did.method ≠ "indy" by simpa [← String.toList_inj] using other)] at named
  split at named
  · cases named
  · split at named
    · exact named
    · cases named

theorem lower_method : ∃ rest, did.lower = "did:".toList ++ (did.method ++ ':' :: rest) := by
  have small : did.method.map Char.toLower = did.method := by
    refine (List.map_congr_left fun c member => ?_).trans (List.map_id _)
    have capital := (did.named.2 c member).2
    change decide (c.val ≥ 'A'.val ∧ c.val ≤ 'Z'.val) = false at capital
    rw [decide_eq_false_iff_not] at capital
    exact dif_neg capital
  obtain ⟨first,rest,parts⟩ := List.exists_cons_of_ne_nil did.given.1
  refine ⟨([':'].intercalate did.parts).map Char.toLower,?_⟩
  rw [Did.lower,Did.text,String.toList_ofList,Did.words,parts,List.intercalate_cons_cons,List.intercalate_cons_cons]
  simp [small]

theorem prefix_iff {start word : List Char} (is : start = "did:".toList ++ word) (plain : ':' ∉ word)
    (clean : word <+: did.method → did.method = word) : start <+: did.lower ↔ did.method = word := by
  obtain ⟨rest,lower⟩ := @lower_method did
  rw [is,lower,List.prefix_append_right_inj]
  constructor
  · intro begins
    refine clean ?_
    rcases List.prefix_or_prefix_of_prefix begins (List.prefix_append did.method _) with here | longer
    · exact here
    · obtain ⟨after,rfl⟩ := longer
      rw [List.prefix_append_right_inj] at begins
      cases after with
      | nil => simp
      | cons c after =>
        obtain rfl : c = ':' := (List.cons_prefix_cons.mp begins).1
        exact absurd (List.mem_append_right _ List.mem_cons_self) plain
  · rintro rfl
    exact List.prefix_append _ _

end
section
variable (svc : Services)
  (ascii : ∀ text : String, (∀ c ∈ text.toList, c.toNat < 128) → svc.toLowerCase text = String.ofList (text.toList.map Char.toLower))
  {did : Did} (clean : Clean did)
include ascii clean

theorem check_iff (schemaType : JSONSchemaType) :
    checkDidLedgerAndNetwork svc schemaType did.text = true ↔ Suits schemaType did.method := by
  have lowered : svc.toLowerCase (OrgRolesGuard.trim did.text) = String.ofList did.lower := by
    rw [trim_text]
    refine ascii did.text fun c member => ?_
    rcases text_chars member with rfl | char
    · decide
    · rw [idChar,Bool.and_eq_true,decide_eq_true_eq] at char
      exact char.1
  have ledger {word : String} (small : word.toList.map Char.toLower = word.toList)
      (only : word.toList <:+: did.lower → did.method = word.toList) :
      includes word (String.ofList did.lower) = true ↔ did.method = word.toList := by
    rw [includes,String.toList_ofList,decide_eq_true_eq]
    refine ⟨only,fun named => ?_⟩
    exact word_lower small (List.mem_cons_of_mem _ List.mem_cons_self) (named ▸ List.infix_rfl)
  unfold checkDidLedgerAndNetwork
  dsimp only
  rw [lowered]
  cases schemaType with
  | POLYGON_W3C => exact @ledger POLYGON (by decide) clean.polygon
  | ETHEREUM_W3C => exact @ledger ETHR (by decide) clean.ethr
  | LEDGER_LESS =>
    rw [Bool.or_eq_true,decide_eq_true_eq,decide_eq_true_eq,show (String.ofList did.lower).toList = did.lower by simp]
    have key := @prefix_iff did "did:key".toList _ (by decide) (by decide) clean.key
    have web := @prefix_iff did "did:web".toList _ (by decide) (by decide) clean.web
    exact or_congr key web

theorem unledgered (ledgerLess : did.method = "key".toList ∨ did.method = "web".toList) : Unledgered svc did := by
  intro db orgId userId drawn schema answers agent found is_did
  have off : ledgerNamespace did.text = some "no_ledger" := by
    have named : networkNamespace did.text = some (String.ofList did.method) := by
      rw [networkNamespace_placed clean.toPlaced,namespaceOf,if_neg]
      rcases ledgerLess with named | named <;> rw [named] <;> decide
    rw [ledgerNamespace,named,if_pos]
    rcases ledgerLess with named | named <;> simp [named]
  have typed : checkDidLedgerAndNetwork svc schema.schemaType did.text = true → schema.schemaType = .LEDGER_LESS := by
    intro accepted
    have suits := (check_iff svc ascii clean schema.schemaType).mp accepted
    revert suits
    cases schema.schemaType with
    | LEDGER_LESS => exact fun _ => rfl
    | POLYGON_W3C | ETHEREUM_W3C =>
      intro suits
      rcases ledgerLess with named | named <;> exact absurd (named.symm.trans suits) (by decide)
  have prepared : prepareW3CSchema svc db orgId schema = .error .orgDidAndSchemaType ∨
      schema.schemaType = .LEDGER_LESS ∧ (prepareW3CSchema svc db orgId schema = .error .alreadyExists ∨
        prepareW3CSchema svc db orgId schema = .ok (did.text,schema.schemaVersion.getD "1.0")) := by
    unfold prepareW3CSchema
    simp only [found,is_did]
    cases accepted : checkDidLedgerAndNetwork svc schema.schemaType did.text with
    | false => exact .inl rfl
    | true =>
      refine .inr ⟨typed accepted,?_⟩
      rw [if_neg (by decide)]
      split
      · exact .inl rfl
      · exact .inr rfl
  rcases prepared with refused | ⟨type,refused | goes⟩
  · simp [createW3CSchema,refused]
  · simp [createW3CSchema,refused]
  · refine ⟨fun _ => type,fun after stored => ?_⟩
    rw [createW3CSchema,goes] at stored
    dsimp only at stored
    have published : ∀ created, publish svc schema did.text answers = .ok created → created.did = did.text := by
      intro created made
      rw [publish,type] at made
      rcases uploaded : answers.uploaded with _ | _ | schemaId <;> rw [uploaded] at made <;> cases made
      rfl
    cases made : publish svc schema did.text answers with
    | error failure =>
      rw [made] at stored
      cases stored
    | ok created =>
      rw [made] at stored
      obtain ⟨name,ledger,-,is_ledger,-,is_after⟩ := storeW3CSchemas_ok.mp stored
      rw [published created made,off] at is_ledger
      exact ⟨_,ledger,is_after,is_ledger,rfl⟩

end

/-- The two helpers agree on the ledger but for did:indy. Where the words stand in no
    other place, the namespace is that of the method and the network, a type is accepted
    for its methods only, and without a ledger the schemas are stored under the ledger
    for none. -/
theorem did_methods (svc : Services)
    (ascii : ∀ text : String, (∀ c ∈ text.toList, c.toNat < 128) → svc.toLowerCase text = String.ofList (text.toList.map Char.toLower))
    (did : Did) :
    (∀ ledger, didLedgerNamespace (some did.text) = some ledger → did.method ≠ "indy".toList →
      networkNamespace did.text = some ledger) ∧
    (Placed did → networkNamespace did.text = some (namespaceOf did.method did.network)) ∧
    (Clean did →
      (∀ schemaType, checkDidLedgerAndNetwork svc schemaType did.text = true ↔ Suits schemaType did.method) ∧
      (did.method = "key".toList ∨ did.method = "web".toList → Unledgered svc did)) :=
  ⟨fun _ => didLedgerNamespace_agrees,networkNamespace_placed,fun clean =>
    ⟨check_iff svc ascii clean,unledgered svc ascii clean⟩⟩

def small : Services := { letterCase with toLowerCase := fun text => String.ofList (text.toList.map Char.toLower) }
/-- `did:ethr:sepolia:0xAb` -/
def sepolia : Did := ⟨"ethr".toList,["sepolia".toList,"0xAb".toList],
  by simp [idChar],by simp,by simp [idChar]⟩
theorem sepolia_classified : networkNamespace sepolia.text = some "ethr:sepolia" ∧
    ∀ schemaType, checkDidLedgerAndNetwork small schemaType sepolia.text = true ↔ Suits schemaType sepolia.method := by
  obtain ⟨-,named,checked⟩ := did_methods small (fun _ _ => rfl) sepolia
  have placed : Placed sepolia := ⟨by decide +kernel,fun _ => rfl,fun _ => by decide⟩
  exact ⟨(named placed).trans (by decide +kernel),(checked ⟨placed,by decide,by decide⟩).1⟩
/-- `did:indy:sovrin:test:7Tq` -/
def sovrin : Did := ⟨"indy".toList,["sovrin".toList,"test".toList,"7Tq".toList],
  by simp [idChar],by simp,by simp [idChar]⟩
/-- The two helpers differ on the ledger of a did:indy. -/
theorem indy_differs : ¬∀ (did : Did) (ledger : String),
    didLedgerNamespace (some did.text) = some ledger → networkNamespace did.text = some ledger := by
  intro agrees
  exact absurd (agrees sovrin "sovrin:test" (by decide +kernel)) (by decide +kernel)

end Ngotag.DidMethods
