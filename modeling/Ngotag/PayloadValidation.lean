import Ngotag.CredentialPayloads

/-!
Which payloads a template accepts. The children of an attribute are looked up in its value, and where that
is a list in the list itself instead of its elements; nothing is looked up in a text or a number.
-/
namespace Ngotag.PayloadValidation
open CredentialPayloads

structure Namespace where
  namespace_ : String
  attributes : List Attribute
/-- By the format: `dc+sd-jwt` or `mso_mdoc`. -/
inductive Template where
  | sdJwt (attributes : List Attribute)
  | mdoc (namespaces : List Namespace)
structure Validation where
  valid : Bool
  errors : List String
  deriving DecidableEq

section
variable {realm : Realm}

mutual

def validateAttribute (data : Data realm) (path : String) : Attribute → List String
  | .mk key mandatory _ children =>
    let currentPath := if path = "" then key else path ++ "." ++ key
    let value := data.read key
    (if mandatory && value.all Data.isEmpty then ["Missing mandatory attribute: " ++ currentPath] else []) ++
      match value with
      | some value => if value.isObject then validateAttributes value currentPath children else []
      | none => []

def validateAttributes (data : Data realm) (path : String) : List Attribute → List String
  | [] => []
  | attr :: rest => validateAttribute data path attr ++ validateAttributes data path rest
end

def namespaceErrors (namespaces : Data realm) (ns : Namespace) : List String :=
  match (namespaces.read ns.namespace_).filter Data.truthy with
  | none => ["Missing namespace: " ++ ns.namespace_]
  | some nsData => validateAttributes nsData ns.namespace_ ns.attributes

variable (realm) in
def payloadErrors (payload : List (String × Value)) : Template → List String
  | .sdJwt attributes => validateAttributes (.value (.object payload) : Data realm) "" attributes
  | .mdoc templateNamespaces =>
    match (Data.read (.value (.object payload) : Data realm) "namespaces").filter Data.truthy with
    | none => ["Missing namespaces object in mdoc payload."]
    | some namespaces => templateNamespaces.flatMap (namespaceErrors namespaces)

variable (realm) in
def validatePayloadAgainstTemplate (template : Template) (payload : List (String × Value)) : Validation where
  valid := (payloadErrors realm payload template).length = 0
  errors := payloadErrors realm payload template

/-- Every mandatory attribute has a value where the code looks for it. -/
inductive Found : List Attribute → Data realm → Prop where
  | mk {attrs : List Attribute} {data : Data realm}
      (here : ∀ attr ∈ attrs, attr.mandatory = true → ∃ v, data.read attr.key = some v ∧ v.isEmpty = false)
      (below : ∀ attr ∈ attrs, ∀ v, data.read attr.key = some v → v.isObject = true → Found attr.children v) :
          Found attrs data

mutual

theorem validateAttribute_nil (data : Data realm) (path : String) : ∀ attr : Attribute,
    validateAttribute data path attr = [] ↔
      (attr.mandatory = true → ∃ v, data.read attr.key = some v ∧ v.isEmpty = false) ∧
        ∀ v, data.read attr.key = some v → v.isObject = true → Found attr.children v
  | .mk key mandatory _ children => by
    rw [validateAttribute]
    simp only [List.append_eq_nil_iff]
    refine and_congr ?_ ?_
    · cases mandatory with
      | false => simp [Attribute.mandatory]
      | true => cases found : data.read key <;> simp [Attribute.mandatory,Attribute.key,found]
    · cases found : data.read key with
      | none => simp [Attribute.key,found]
      | some value =>
        by_cases enters : value.isObject = true
        · simp only [if_pos enters,validateAttributes_nil value _ children,Attribute.key,found,Option.some.injEq,
            Attribute.children]
          exact ⟨fun below v same _ => same ▸ below,fun below => below value rfl enters⟩
        · simp only [if_neg enters,Attribute.key,found,Option.some.injEq,true_iff]
          rintro v rfl entered
          exact absurd entered enters

theorem validateAttributes_nil (data : Data realm) (path : String) : ∀ attrs : List Attribute,
    validateAttributes data path attrs = [] ↔ Found attrs data
  | [] => by
    rw [validateAttributes]
    exact iff_of_true rfl (.mk (fun _ there => nomatch there) (fun _ there => nomatch there))
  | attr :: rest => by
    rw [validateAttributes,List.append_eq_nil_iff,validateAttribute_nil data path attr,
        validateAttributes_nil data path rest]
    constructor
    · rintro ⟨⟨here,below⟩,⟨others,deeper⟩⟩
      exact .mk (List.forall_mem_cons.mpr ⟨here,others⟩) (List.forall_mem_cons.mpr ⟨below,deeper⟩)
    · rintro ⟨here,below⟩
      exact ⟨⟨here attr List.mem_cons_self,below attr List.mem_cons_self⟩,
        .mk (fun other there => here other (List.mem_cons_of_mem attr there)) fun other there =>
        below other (List.mem_cons_of_mem attr there)⟩

end

def vacant : Value → Bool
  | .list items => items.isEmpty
  | v => v.isEmpty

/-- Every mandatory attribute whose parent has a value has one that is not empty; a list is a parent in
each of its elements. -/
inductive Meets : List Attribute → Value → Prop where
  | null {attrs : List Attribute} : Meets attrs .null
  | scalar {attrs : List Attribute} {v : Value} (plain : v.isObject = false)
      (none_ : ∀ attr ∈ attrs, attr.mandatory = false) :
      Meets attrs v
  | list {attrs : List Attribute} {items : List Value} (each : ∀ item ∈ items, Meets attrs item) :
      Meets attrs (.list items)
  | object {attrs : List Attribute} {fields : List (String × Value)}
      (here : ∀ attr ∈ attrs, attr.mandatory = true → ∃ v, fields.lookup attr.key = some v ∧ vacant v = false)
      (below : ∀ attr ∈ attrs, ∀ v, fields.lookup attr.key = some v → Meets attr.children v) :
          Meets attrs (.object fields)

/-- What a payload is held to. An mdoc payload has the namespaces of its template. -/
def Enforced : Template → List (String × Value) → Prop
  | .sdJwt attributes,payload => Meets attributes (.object payload)
  | .mdoc templateNamespaces,payload => ∃ namespaces, payload.lookup "namespaces" = some namespaces ∧
      namespaces.truthy = true ∧
      ∀ ns ∈ templateNamespaces, ∃ nsData, namespaces.own ns.namespace_ = some nsData ∧ nsData.truthy = true ∧
      Meets ns.attributes nsData
/-- The attributes and the value that are reached through the fields of objects alone. -/
inductive Reaches : List Attribute → Value → List Attribute → Value → Prop where
  | here {attrs : List Attribute} {v : Value} : Reaches attrs v attrs v
  | field {attrs below : List Attribute} {fields : List (String × Value)} {attr : Attribute} {v inside : Value}
      (listed : attr ∈ attrs) (found : fields.lookup attr.key = some v) (deeper : Reaches attr.children v below inside) :
      Reaches attrs (.object fields) below inside

variable (realm) in
/-- No mandatory attribute lacks a value, its own or an inherited one. -/
def Filled (attrs : List Attribute) : Value → Prop
  | .object fields => ∀ attr ∈ attrs, attr.mandatory = true →
      match fields.lookup attr.key with
      | some v => v.isEmpty = false
      | none => (realm.inherited (.object fields) attr.key).isSome = true
  | _ => True

variable (realm) in
/-- The mandatory attributes are found among what objects inherit and what lists have themselves. -/
def FoundElsewhere (attrs : List Attribute) : Value → Prop
  | .object fields => ∀ attr ∈ attrs, fields.lookup attr.key = none → ∀ b,
      realm.inherited (.object fields) attr.key = some b →
      (attr.mandatory = true → realm.isEmpty b = false) ∧
      (realm.isObject b = true → Found attr.children (.builtin b : Data realm))
  | .list items => Found attrs (.value (.list items) : Data realm)
  | _ => True

/-- Mandatory attributes have values of their own, no empty lists; every element of a list has them; and
there are none under a text, a number or a truth value. -/
def Complete (attrs : List Attribute) : Value → Prop
  | .null => True
  | .object fields => ∀ attr ∈ attrs, attr.mandatory = true → ∃ v, fields.lookup attr.key = some v ∧ ∀ items,
      v = .list items → items ≠ []
  | .list items => ∀ item ∈ items, Meets attrs item
  | _ => ∀ attr ∈ attrs, attr.mandatory = false

variable {fields : List (String × Value)}
theorem read_inherited {key : String} (missing : fields.lookup key = none) :
    Data.read (.value (.object fields) : Data realm) key = (realm.inherited (.object fields) key).map .builtin := by
  simp only [Data.read,Value.own,missing]

variable {attrs : List Attribute}
/-- What the code looks at in an object: its fields one by one, and apart from them what it inherits. -/
theorem found_object :
    Found attrs (.value (.object fields) : Data realm) ↔
      Filled realm attrs (.object fields) ∧ FoundElsewhere realm attrs (.object fields) ∧
        ∀ attr ∈ attrs, ∀ v, fields.lookup attr.key = some v → v.isObject = true →
        Found attr.children (.value v : Data realm) := by
  constructor
  · rintro ⟨here,below⟩
    refine ⟨fun attr listed asked => ?_,fun attr listed missing b inherits => ⟨fun asked => ?_,fun enters => ?_⟩,
      fun attr listed v found enters => below attr listed _ (read_field found) enters⟩
    · obtain ⟨v,read,full⟩ := here attr listed asked
      cases found : fields.lookup attr.key with
      | some w =>
        rw [read_field found] at read
        obtain rfl := Option.some.inj read
        exact full
      | none =>
        rw [read_inherited found] at read
        obtain ⟨b,inherits,_⟩ := Option.map_eq_some_iff.mp read
        exact Option.isSome_iff_exists.mpr ⟨b,inherits⟩
    · obtain ⟨v,read,full⟩ := here attr listed asked
      rw [read_inherited missing,inherits] at read
      obtain rfl := Option.some.inj read
      exact full
    · refine below attr listed (.builtin b) ?_ enters
      rw [read_inherited missing,inherits]
      rfl
  · rintro ⟨filled,elsewhere,below⟩
    refine .mk (fun attr listed asked => ?_) (fun attr listed v read enters => ?_)
    · have full := filled attr listed asked
      cases found : fields.lookup attr.key with
      | some w =>
        rw [found] at full
        exact ⟨_,read_field found,full⟩
      | none =>
        rw [found] at full
        obtain ⟨b,inherits⟩ := Option.isSome_iff_exists.mp full
        refine ⟨.builtin b,?_,(elsewhere attr listed found b inherits).1 asked⟩
        rw [read_inherited found,inherits]
        rfl
    · cases found : fields.lookup attr.key with
      | some w =>
        rw [read_field found] at read
        obtain rfl := Option.some.inj read
        exact below attr listed w found enters
      | none =>
        rw [read_inherited found] at read
        obtain ⟨b,inherits,rfl⟩ := Option.map_eq_some_iff.mp read
        exact (elsewhere attr listed found b inherits).2 enters

variable (realm) in
theorem found_iff (attrs : List Attribute) (v : Value) : (v.isObject = true → Found attrs (.value v : Data realm)) ↔
    ∀ below inside, Reaches attrs v below inside → Filled realm below inside ∧ FoundElsewhere realm below inside := by
  constructor
  · intro found below inside reaches
    induction reaches with
    | @here attrs v =>
      cases v with
      | object fields =>
        obtain ⟨filled,elsewhere,_⟩ := found_object.mp (found rfl)
        exact ⟨filled,elsewhere⟩
      | list items => exact ⟨trivial,found rfl⟩
      | null => exact ⟨trivial,trivial⟩
      | bool b => exact ⟨trivial,trivial⟩
      | number n => exact ⟨trivial,trivial⟩
      | text s => exact ⟨trivial,trivial⟩
    | @field attrs below fields attr v inside listed value deeper ih =>
      exact ih fun enters => (found_object.mp (found rfl)).2.2 attr listed v value enters
  · intro met enters
    obtain ⟨filled,elsewhere⟩ := met attrs v .here
    cases v with
    | object fields =>
      refine found_object.mpr ⟨filled,elsewhere,fun attr listed v value enters => ?_⟩
      exact (found_iff attr.children v).mpr
          (fun below inside deeper => met below inside (.field listed value deeper)) enters
    | list items => exact elsewhere
    | null => cases enters
    | bool b => cases enters
    | number n => cases enters
    | text s => cases enters
termination_by sizeOf attrs
decreasing_by exact children_smaller listed

theorem vacant_false {v : Value} : vacant v = false ↔ v.isEmpty = false ∧ ∀ items, v = .list items → items ≠ [] := by
  cases v with
  | list items => simp [vacant,Value.isEmpty]
  | null => simp [vacant]
  | bool b => simp [vacant]
  | number n => simp [vacant]
  | text s => simp [vacant]
  | object fields => simp [vacant]

variable (realm) in
theorem meets_object : Meets attrs (.object fields) ↔
    Filled realm attrs (.object fields) ∧ Complete attrs (.object fields) ∧
      ∀ attr ∈ attrs, ∀ v, fields.lookup attr.key = some v → Meets attr.children v := by
  constructor
  · intro meets
    cases meets with
    | scalar plain none_ => cases plain
    | object here below =>
      refine ⟨fun attr listed asked => ?_,fun attr listed asked => ?_,below⟩
      · obtain ⟨v,found,full⟩ := here attr listed asked
        rw [found]
        exact (vacant_false.mp full).1
      · obtain ⟨v,found,full⟩ := here attr listed asked
        exact ⟨v,found,(vacant_false.mp full).2⟩
  · rintro ⟨filled,complete,below⟩
    refine .object (fun attr listed asked => ?_) below
    obtain ⟨v,found,some_⟩ := complete attr listed asked
    have full := filled attr listed asked
    rw [found] at full
    exact ⟨v,found,vacant_false.mpr ⟨full,some_⟩⟩

variable (realm) in
theorem meets_iff (attrs : List Attribute) (v : Value) : Meets attrs v ↔
    ∀ below inside, Reaches attrs v below inside → Filled realm below inside ∧ Complete below inside := by
  have scalars {attrs : List Attribute} {v : Value} (plain : v.isObject = false) (some_ : v ≠ .null)
      (meets : Meets attrs v) :
      ∀ attr ∈ attrs, attr.mandatory = false := by
    cases meets with
    | null => exact absurd rfl some_
    | scalar _ none_ => exact none_
    | list each => cases plain
    | object here below => cases plain
  constructor
  · intro meets below inside reaches
    induction reaches with
    | @here attrs v =>
      cases v with
      | object fields =>
        obtain ⟨filled,complete,_⟩ := (meets_object realm).mp meets
        exact ⟨filled,complete⟩
      | list items =>
        refine ⟨trivial,?_⟩
        cases meets with
        | scalar plain _ => cases plain
        | list each => exact each
      | null => exact ⟨trivial,trivial⟩
      | bool b => exact ⟨trivial,scalars rfl (by simp) meets⟩
      | number n => exact ⟨trivial,scalars rfl (by simp) meets⟩
      | text s => exact ⟨trivial,scalars rfl (by simp) meets⟩
    | @field attrs below fields attr v inside listed value deeper ih =>
        exact ih (((meets_object realm).mp meets).2.2 attr listed v value)
  · intro met
    obtain ⟨filled,complete⟩ := met attrs v .here
    cases v with
    | object fields =>
      refine (meets_object realm).mpr ⟨filled,complete,fun attr listed v value => ?_⟩
      exact (meets_iff attr.children v).mpr fun below inside deeper => met below inside (.field listed value deeper)
    | list items => exact .list complete
    | null => exact .null
    | bool b => exact .scalar rfl complete
    | number n => exact .scalar rfl complete
    | text s => exact .scalar rfl complete
termination_by sizeOf attrs
decreasing_by exact children_smaller listed

/-- Nothing lacks a value in what a template's attributes start from. -/
def FilledFrom (attrs : List Attribute) : Data realm → Prop
  | .value v => ∀ below inside, Reaches attrs v below inside → Filled realm below inside
  | .builtin _ => True
def FoundFrom (attrs : List Attribute) : Data realm → Prop
  | .value v => (∀ below inside, Reaches attrs v below inside → FoundElsewhere realm below inside) ∧
      (v.isObject = false → Found attrs (.value v : Data realm))
  | .builtin b => Found attrs (.builtin b : Data realm)
def CompleteFrom (attrs : List Attribute) : Data realm → Prop
  | .value v => ∀ below inside, Reaches attrs v below inside → Complete below inside
  | .builtin _ => False

theorem found_from {data : Data realm} : Found attrs data ↔ FilledFrom attrs data ∧ FoundFrom attrs data := by
  cases data with
  | builtin b => exact (and_iff_right trivial).symm
  | value v =>
    simp only [FilledFrom,FoundFrom,← and_assoc,← forall_and]
    rw [← found_iff realm attrs v]
    cases v.isObject <;> simp
theorem meets_from {v : Value} :
    Meets attrs v ↔ FilledFrom attrs (.value v : Data realm) ∧ CompleteFrom attrs (.value v : Data realm) := by
  simp only [FilledFrom,CompleteFrom,← forall_and]
  exact meets_iff realm attrs v

section
variable (realm) (payload : List (String × Value))

/-- What the payload has under `namespaces`. -/
def namespacesOf : Option (Data realm) := Data.read (.value (.object payload)) "namespaces"
/-- The namespaces are there, and no mandatory attribute that is reached through objects alone lacks a
value. -/
def AllFilled : Template → Prop
  | .sdJwt attributes => FilledFrom attributes (.value (.object payload) : Data realm)
  | .mdoc templateNamespaces => ∃ namespaces, namespacesOf realm payload = some namespaces ∧ namespaces.truthy = true ∧
      ∀ ns ∈ templateNamespaces, ∃ nsData, namespaces.read ns.namespace_ = some nsData ∧ nsData.truthy = true ∧
        FilledFrom ns.attributes nsData
/-- What is left, mandatory attributes that are looked up in lists or inherited, is found there. -/
def RestFound : Template → Prop
  | .sdJwt attributes => FoundFrom attributes (.value (.object payload) : Data realm)
  | .mdoc templateNamespaces => ∀ namespaces, namespacesOf realm payload = some namespaces →
      ∀ ns ∈ templateNamespaces, ∀ nsData, namespaces.read ns.namespace_ = some nsData → FoundFrom ns.attributes nsData
/-- What is left is as it should be: each element of a list has its mandatory attributes, none of them is
under a value that is no object, is an empty list or is inherited. -/
def RestComplete : Template → Prop
  | .sdJwt attributes => CompleteFrom attributes (.value (.object payload) : Data realm)
  | .mdoc templateNamespaces => ∀ namespaces, namespacesOf realm payload = some namespaces →
      (∃ v, namespaces = .value v) ∧
      ∀ ns ∈ templateNamespaces, ∀ nsData, namespaces.read ns.namespace_ = some nsData →
      CompleteFrom ns.attributes nsData

variable {realm payload}
theorem filter_truthy {found : Option (Data realm)} {data : Data realm} :
    found.filter Data.truthy = some data ↔ found = some data ∧ data.truthy = true := Option.filter_eq_some_iff
theorem namespaceErrors_nil {namespaces : Data realm} {ns : Namespace} : namespaceErrors namespaces ns = [] ↔
    ∃ nsData, namespaces.read ns.namespace_ = some nsData ∧ nsData.truthy = true ∧ Found ns.attributes nsData := by
  rw [namespaceErrors]
  cases kept : (namespaces.read ns.namespace_).filter Data.truthy with
  | none =>
    refine iff_of_false (by simp) ?_
    rintro ⟨nsData,read,there,_⟩
    rw [filter_truthy.mpr ⟨read,there⟩] at kept
    cases kept
  | some nsData =>
    obtain ⟨read,there⟩ := filter_truthy.mp kept
    refine (validateAttributes_nil nsData _ _).trans ⟨fun found => ⟨nsData,read,there,found⟩,?_⟩
    rintro ⟨other,read',_,found⟩
    rw [read] at read'
    exact Option.some.inj read' ▸ found

theorem errors_nil_iff {template : Template} :
    payloadErrors realm payload template = [] ↔ AllFilled realm payload template ∧ RestFound realm payload template := by
  cases template with
  | sdJwt attributes => exact (validateAttributes_nil _ _ attributes).trans found_from
  | mdoc templateNamespaces =>
    have accepted : payloadErrors realm payload (.mdoc templateNamespaces) = [] ↔
        ∃ namespaces, namespacesOf realm payload = some namespaces ∧ namespaces.truthy = true ∧
          ∀ ns ∈ templateNamespaces, namespaceErrors namespaces ns = [] := by
      rw [payloadErrors,← namespacesOf]
      cases kept : (namespacesOf realm payload).filter Data.truthy with
      | none =>
        refine iff_of_false (by simp) ?_
        rintro ⟨namespaces,read,there,_⟩
        rw [filter_truthy.mpr ⟨read,there⟩] at kept
        cases kept
      | some namespaces =>
        obtain ⟨read,there⟩ := filter_truthy.mp kept
        refine List.flatMap_eq_nil_iff.trans ⟨fun each => ⟨namespaces,read,there,each⟩,?_⟩
        rintro ⟨other,read',_,each⟩
        rw [read] at read'
        exact Option.some.inj read' ▸ each
    rw [accepted]
    simp only [namespaceErrors_nil,found_from]
    constructor
    · rintro ⟨namespaces,read,there,each⟩
      refine ⟨⟨namespaces,read,there,fun ns listed => ?_⟩,fun other read' ns listed nsData inside => ?_⟩
      · obtain ⟨nsData,inside,full,filled,_⟩ := each ns listed
        exact ⟨nsData,inside,full,filled⟩
      · rw [read] at read'
        obtain rfl := Option.some.inj read'
        obtain ⟨found,inside',_,_,rest⟩ := each ns listed
        rw [inside] at inside'
        exact Option.some.inj inside' ▸ rest
    · rintro ⟨⟨namespaces,read,there,each⟩,rest⟩
      refine ⟨namespaces,read,there,fun ns listed => ?_⟩
      obtain ⟨nsData,inside,full,filled⟩ := each ns listed
      exact ⟨nsData,inside,full,filled,rest namespaces read ns listed nsData inside⟩

theorem read_value {v : Value} (some_ : v ≠ .null) (key : String) : Data.read (.value v : Data realm) key =
    match v.own key with
    | some found => some (.value found)
    | none => (realm.inherited v key).map .builtin := by
  cases v with
  | null => exact absurd rfl some_
  | bool b => rfl
  | number n => rfl
  | text s => rfl
  | list items => rfl
  | object fields => rfl

theorem own_of_read {v found : Value} {key : String}
    (read : Data.read (.value v : Data realm) key = some (.value found)) :
    v.own key = some found := by
  by_cases some_ : v = .null
  · rw [some_] at read
    cases read
  · rw [read_value some_] at read
    cases own : v.own key with
    | some w =>
      rw [own] at read
      obtain rfl : w = found := by simpa using read
      rfl
    | none =>
      rw [own] at read
      obtain ⟨b,_,same⟩ := Option.map_eq_some_iff.mp read
      cases same

variable (realm) in
theorem enforced_split {template : Template} :
    Enforced template payload ↔ AllFilled realm payload template ∧ RestComplete realm payload template := by
  cases template with
  | sdJwt attributes => exact meets_from
  | mdoc templateNamespaces =>
    constructor
    · rintro ⟨namespaces,found,there,each⟩
      have some_ : namespaces ≠ .null := by
        rintro rfl
        cases there
      have read : namespacesOf realm payload = some (.value namespaces) := read_field found
      refine ⟨⟨.value namespaces,read,there,fun ns listed => ?_⟩,fun other read' => ?_⟩
      · obtain ⟨nsData,inside,full,meets⟩ := each ns listed
        exact ⟨.value nsData,by rw [read_value some_,inside],full,(meets_from.mp meets).1⟩
      · rw [read] at read'
        obtain rfl := Option.some.inj read'
        refine ⟨⟨namespaces,rfl⟩,fun ns listed nsData inside => ?_⟩
        obtain ⟨own,inside',_,meets⟩ := each ns listed
        rw [read_value some_,inside'] at inside
        exact Option.some.inj inside ▸ (meets_from.mp meets).2
    · rintro ⟨⟨namespaces,read,there,each⟩,rest⟩
      obtain ⟨⟨v,rfl⟩,complete⟩ := rest namespaces read
      refine ⟨v,own_of_read read,there,fun ns listed => ?_⟩
      obtain ⟨nsData,inside,full,filled⟩ := each ns listed
      have done := complete ns listed nsData inside
      cases nsData with
      | builtin b => exact done.elim
      | value nsData => exact ⟨nsData,own_of_read inside,full,meets_from.mpr ⟨filled,done⟩⟩

end

variable (realm) in
/-- A payload is accepted as it should be exactly when, with no mandatory attribute missing in an object,
what the code finds elsewhere decides as the elements of lists do. -/
theorem enforced_iff (template : Template) (payload : List (String × Value)) :
    ((validatePayloadAgainstTemplate realm template payload).valid = true ↔ Enforced template payload) ↔
      (AllFilled realm payload template → (RestFound realm payload template ↔ RestComplete realm payload template)) := by
  rw [enforced_split realm,validatePayloadAgainstTemplate,decide_eq_true_iff,List.length_eq_zero_iff,errors_nil_iff,
    and_congr_right_iff]

end

def street : Attribute := .mk "street" true false []
def addresses : Template := .sdJwt [.mk "addresses" true false [street]]
def listed : List (String × Value) := [("addresses",.list [.object [("street",.text "Norzin Lam")]])]

theorem listed_enforced : Enforced addresses listed := by
  have element : Meets [street] (.object [("street",.text "Norzin Lam")]) := by
    refine .object (fun attr there _ => ?_) (fun attr there v found => ?_)
    · rw [List.mem_singleton.mp there]
      exact ⟨.text "Norzin Lam",rfl,by decide⟩
    · obtain rfl := List.mem_singleton.mp there
      obtain rfl := Option.some.inj found
      exact .scalar rfl fun _ inside => nomatch inside
  refine .object (fun attr there _ => ?_) (fun attr there v found => ?_)
  · rw [List.mem_singleton.mp there]
    exact ⟨_,rfl,rfl⟩
  · obtain rfl := List.mem_singleton.mp there
    obtain rfl := Option.some.inj found
    exact .list fun item inside => List.mem_singleton.mp inside ▸ element

/-- Every address has a street, and the payload is refused. -/
theorem list_refused :
    ¬((validatePayloadAgainstTemplate bare addresses listed).valid = true ↔ Enforced addresses listed) := by
  have refused : validatePayloadAgainstTemplate bare addresses listed =
      { valid := false, errors := ["Missing mandatory attribute: addresses.street"] } := by decide
  rw [refused]
  exact fun exact_ => absurd (exact_.mpr listed_enforced) (by decide)

end Ngotag.PayloadValidation
