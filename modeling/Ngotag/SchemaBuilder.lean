import Ngotag.JsObject
import Mathlib.Data.Rat.Defs

/-!
`w3cSchemaBuilder`: the JSON schema of a W3C credential from the attributes of a
schema. Objects and arrays may be nested, and the builder treats what is in them
in four places, each with its own code: `processAttribute`, `arrayItem`,
`itemProperty` and `objectProperty`. The schema has a property for each
attribute, under its name and with its type, exactly when the attributes are
`Kept`.
-/
namespace Ngotag.SchemaBuilder
open JsObject

inductive W3CSchemaDataType
  | number | integer | string | dateTime | array | object | boolean
  deriving DecidableEq
/-- The value of the enumeration, which is in lower case. -/
def W3CSchemaDataType.text : W3CSchemaDataType → String
  | .number => "number"
  | .integer => "integer"
  | .string => "string"
  | .dateTime => "datetime-local"
  | .array => "array"
  | .object => "object"
  | .boolean => "boolean"
/-- What a validation of an attribute is set to. -/
inductive Value
  | null
  | number (n : Rat)
  | text (s : String)
  | boolean (b : Bool)
  | other

/-- The validations that the builder reads and writes, `none` where one is undefined. -/
structure Validations where
  minLength : Option Value := none
  maxLength : Option Value := none
  pattern : Option Value := none
  minimum : Option Value := none
  exclusiveMinimum : Option Value := none
  multipleOf : Option Value := none
  minItems : Option Value := none
  maxItems : Option Value := none
  uniqueItems : Option Value := none

/-- An attribute without what is nested in it. -/
structure Field where
  attributeName : String
  schemaDataType : W3CSchemaDataType
  displayName : String
  isRequired : Bool
  description : Option String := none
  validations : Validations := {}
/-- `IW3CAttributeValue`. The properties are a record, with the attributes under its keys. -/
inductive Attribute
  | mk (field : Field) (items : Option (List Attribute)) (properties : Option (List (String × Attribute)))

namespace Attribute

def field : Attribute → Field
  | mk field _ _ => field
def attributeName (a : Attribute) : String := a.field.attributeName
def isRequired (a : Attribute) : Bool := a.field.isRequired
def items : Attribute → List Attribute
  | mk field items _ => if field.schemaDataType = .array then items.getD [] else []
/-- The attributes of an object, under their keys. -/
def entries : Attribute → List (String × Attribute)
  | mk field _ properties => if field.schemaDataType = .object then properties.getD [] else []
def properties (a : Attribute) : List Attribute := a.entries.map Prod.snd

end Attribute

/-- The properties of an object of the schema, and which of them are required; an empty
    list is left out. -/
structure Level (P : Type) where
  properties : List (String × P)
  required : Option (List String)
/-- A property of the schema without what is nested in it. -/
structure Head where
  type : String
  title : Option String := none
  description : Option String := none
  format : Option String := none
  validations : Validations := {}
inductive Property
  | mk (head : Head) (items : Option (Level Property)) (object : Option (Level Property))

namespace Property

def head : Property → Head
  | mk head _ _ => head
def items : Property → Option (Level Property)
  | mk _ items _ => items
def object : Property → Option (Level Property)
  | mk _ _ object => object

end Property

structure IProductSchema where
  properties : List (String × Property) := []
  required : List String := []
/-- The property, if there is one, is set, and the key, if it is required, is pushed. -/
def IProductSchema.add (schema : IProductSchema) (isRequired : Bool) (key name : String) (property : Option Property) :
    IProductSchema where
  properties := match property with
    | some property => assign schema.properties name property
    | none => schema.properties
  required := if isRequired then schema.required ++ [key] else schema.required
/-- The properties as a level of the schema: `required` is only set where there are any. -/
def IProductSchema.level (schema : IProductSchema) : Level Property :=
  ⟨schema.properties,if 0 < schema.required.length then some schema.required else none⟩

section
variable (isRegExp : String → Bool)

/-- `0 <= value && Number.isInteger(value)` -/
def Value.isLength : Value → Bool
  | .number n => 0 ≤ n && n.isInt
  | _ => false
def Value.isNumber : Value → Bool
  | .number _ => true
  | _ => false
/-- `'number' === typeof value && 0 < value` -/
def Value.isFactor : Value → Bool
  | .number n => 0 < n
  | _ => false
def Value.isBoolean : Value → Bool
  | .boolean _ => true
  | _ => false
/-- The setter of a validation: the value, if it is defined, is checked. -/
def checked (test : Value → Bool) (message : String) : Option Value → Except String (Option Value)
  | none => .ok none
  | some value => if test value then .ok (some value) else .error message
def lengthMessage : String := "value must be an integer and greater than or equal to 0"

def checkedPattern : Option Value → Except String (Option Value)
  | none => .ok none
  | some (.text s) =>
    if isRegExp s then .ok (some (.text s)) else .error "value must be a valid regular expression pattern"
  | some _ => .error "value must be a string"

/-- `applyValidations`, with the validations that the property has so far. -/
def applyValidations (attr : Field) (property : Head) : Except String Head := do
  let v := attr.validations
  match attr.schemaDataType with
  | .string =>
    let minLength ← checked Value.isLength lengthMessage v.minLength
    let maxLength ← checked Value.isLength lengthMessage v.maxLength
    let pattern ← checkedPattern isRegExp v.pattern
    return { property with validations :=
      { property.validations with minLength := minLength, maxLength := maxLength, pattern := pattern } }
  | .number | .integer =>
    let minimum ← checked Value.isNumber "value must be a number" v.minimum
    let exclusiveMinimum ← checked Value.isNumber "value must be a number" v.exclusiveMinimum
    let multipleOf ← checked Value.isFactor "value must be a number greater than 0" v.multipleOf
    return { property with validations :=
      { property.validations with minimum := minimum, exclusiveMinimum := exclusiveMinimum, multipleOf := multipleOf } }
  | .array =>
    let minItems ← checked Value.isLength lengthMessage v.minItems
    let maxItems ← checked Value.isLength lengthMessage v.maxItems
    let uniqueItems ← checked Value.isBoolean "value must be a boolean" v.uniqueItems
    return { property with validations :=
      { property.validations with minItems := minItems, maxItems := maxItems, uniqueItems := uniqueItems } }
  | _ => return property

/-- `displayName || attributeName` -/
def Field.title (attr : Field) : String :=
  if attr.displayName = "" then attr.attributeName else attr.displayName
def baseProperty (attr : Field) : Head where
  type := attr.schemaDataType.text
  title := some attr.title
  description := some (match attr.description with
    | none | some "" => attr.attributeName ++ " field"
    | some description => description)
/-- The base property of an attribute that is nested in another one. -/
def nestedProperty (attr : Field) : Head where
  type := attr.schemaDataType.text
  title := some attr.title
  description := some (attr.attributeName ++ " field")

mutual

/-- `processAttributes`, with what its loop has made so far. -/
def processAttributes (schema : IProductSchema) : List Attribute → Except String IProductSchema
  | [] => .ok schema
  | attr :: rest => do
    let property ← processAttribute attr
    processAttributes (schema.add attr.isRequired attr.attributeName attr.attributeName property) rest

/-- The property of an attribute of a list, if it gets one. -/
def processAttribute : Attribute → Except String (Option Property)
  | .mk attr items properties =>
    match attr.schemaDataType, items, properties with
    | .dateTime, _, _ =>
      return some (.mk { baseProperty attr with type := "string", format := some "date-time" } none none)
    | .array, some items, _ => do
      let itemSchema ← arrayItems {} items
      let head ← applyValidations isRegExp attr (baseProperty attr)
      return some (.mk head (some itemSchema.level) none)
    | .object, _, some properties => do
      let nested ← objectProperties {} properties
      return some (.mk { baseProperty attr with type := "object" } none (some nested.level))
    | .array, none, _ | .object, _, none => return none
    | _, _, _ => do
      let head ← applyValidations isRegExp attr (baseProperty attr)
      return some (.mk head none none)

def arrayItems (schema : IProductSchema) : List Attribute → Except String IProductSchema
  | [] => .ok schema
  | item :: rest => do
    let property ← arrayItem item
    arrayItems (schema.add item.isRequired item.attributeName item.attributeName (some property)) rest
def arrayItem : Attribute → Except String Property
  | .mk item _ properties =>
    match item.schemaDataType, properties with
    | .object, some properties => do
      let nested ← itemProperties {} properties
      return .mk { nestedProperty item with type := "object" } none (some nested.level)
    | _, _ => do
      let head ← applyValidations isRegExp item (nestedProperty item)
      return .mk head none none
/-- The loop over the properties of an array's item. -/
def itemProperties (schema : IProductSchema) : List (String × Attribute) → Except String IProductSchema
  | [] => .ok schema
  | (_,prop) :: rest => do
    let property ← itemProperty prop
    itemProperties (schema.add prop.isRequired prop.attributeName prop.attributeName (some property)) rest
def itemProperty : Attribute → Except String Property
  | .mk prop items _ =>
    match prop.schemaDataType, items with
    | .array, some items => do
      let nested ← processAttributes {} items
      return .mk (nestedProperty prop) (some nested.level) none
    | _, _ => do
      let head ← applyValidations isRegExp prop (nestedProperty prop)
      return .mk head none none
/-- The loop over the properties of an object, which pushes their keys. -/
def objectProperties (schema : IProductSchema) : List (String × Attribute) → Except String IProductSchema
  | [] => .ok schema
  | (propKey,prop) :: rest => do
    let property ← objectProperty prop
    objectProperties (schema.add prop.isRequired propKey prop.attributeName (some property)) rest

def objectProperty : Attribute → Except String Property
  | .mk prop items _ =>
    match prop.schemaDataType, items with
    | .array, some items => do
      let result ← processAttributes {} items
      let head ← applyValidations isRegExp prop { nestedProperty prop with type := "array" }
      return .mk head (some result.level) none
    | _, _ => do
      let head ← applyValidations isRegExp prop (nestedProperty prop)
      return .mk head none none

end

/-- What of the schema depends on the attributes. -/
structure W3CSchema where
  title : String
  description : String
  credentialSubject : Level Property
def w3cSchemaBuilder (attributes : List Attribute) (schemaName description : String) : Except String W3CSchema := do
  let result ← processAttributes isRegExp {} attributes
  let id : Property := .mk { type := "string", format := some "uri" } none none
  return {
    title := schemaName
    description := description
    credentialSubject := ⟨assign result.properties "id" id,some ("id" :: result.required)⟩ }

end

def W3CSchemaDataType.schemaType : W3CSchemaDataType → String
  | .dateTime => "string"
  | other => other.text
/-- The property has the type of the attribute's data type. -/
def Typed (p : Property) (a : Attribute) : Prop :=
  p.head.type = a.field.schemaDataType.schemaType ∧
      (a.field.schemaDataType = .dateTime → p.head.format = some "date-time")
def propertiesOf (level : Option (Level Property)) : List (String × Property) := level.elim [] Level.properties
def requiredOf (level : Option (Level Property)) : List String := level.elim [] fun level => level.required.getD []
/-- There is one property for each attribute, under its name, and those of the attributes
    that are required are listed once. -/
structure Lists (attrs : List Attribute) (properties : List (String × Property)) (required : List String) : Prop where
  each : (keys properties).Perm (attrs.map Attribute.attributeName)
  once : required.Nodup
  there : ∀ name ∈ required, name ∈ keys properties
  exactly : ∀ name, name ∈ required ↔ ∃ a ∈ attrs, a.attributeName = name ∧ a.isRequired = true

theorem sizeOf_items {a b : Attribute} (nested : b ∈ a.items) : sizeOf b < sizeOf a := by
  obtain ⟨field,items,properties⟩ := a
  simp only [Attribute.items] at nested
  split at nested
  · cases items with
    | none => cases nested
    | some items =>
      have smaller := List.sizeOf_lt_of_mem nested
      simp only [Attribute.mk.sizeOf_spec,Option.some.sizeOf_spec]
      simp only [Option.getD_some] at smaller
      omega
  · cases nested

theorem sizeOf_properties {a b : Attribute} (nested : b ∈ a.properties) : sizeOf b < sizeOf a := by
  obtain ⟨⟨key,b⟩,entry,rfl⟩ := List.mem_map.mp nested
  obtain ⟨field,items,properties⟩ := a
  simp only [Attribute.entries] at entry
  split at entry
  · cases properties with
    | none => cases entry
    | some properties =>
      have smaller := List.sizeOf_lt_of_mem entry
      simp only [Attribute.mk.sizeOf_spec,Option.some.sizeOf_spec]
      simp only [Option.getD_some,Prod.mk.sizeOf_spec] at smaller
      omega
  · cases entry

/-- The property has the type of the attribute, and describes what is nested in it. -/
def Describes (p : Property) (a : Attribute) : Prop :=
  Typed p a ∧
    (Lists a.items (propertiesOf p.items) (requiredOf p.items) ∧
      ∀ b, (_ : b ∈ a.items) → ∃ q, (b.attributeName,q) ∈ propertiesOf p.items ∧ Describes q b) ∧
    (Lists a.properties (propertiesOf p.object) (requiredOf p.object) ∧
      ∀ b, (_ : b ∈ a.properties) → ∃ q, (b.attributeName,q) ∈ propertiesOf p.object ∧ Describes q b)
termination_by a
decreasing_by
  · exact sizeOf_items ‹_›
  · exact sizeOf_properties ‹_›

/-- The subject has a property for each attribute that describes it, besides the fixed `id`,
    which is required. -/
structure Right (attrs : List Attribute) (subject : Level Property) : Prop where
  each : (keys subject.properties).Perm ("id" :: attrs.map Attribute.attributeName)
  described : ∀ a ∈ attrs, ∃ p, (a.attributeName,p) ∈ subject.properties ∧ Describes p a
  once : (subject.required.getD []).Nodup
  there : ∀ name ∈ subject.required.getD [], name ∈ keys subject.properties
  exactly : ∀ name, name ∈ subject.required.getD [] ↔
    name = "id" ∨ ∃ a ∈ attrs, a.attributeName = name ∧ a.isRequired = true

/-- Different names, none of which is `__proto__`. -/
def Distinct (attrs : List Attribute) : Prop :=
  (attrs.map Attribute.attributeName).Nodup ∧ "__proto__" ∉ attrs.map Attribute.attributeName
def Plain (a : Attribute) : Prop := a.field.schemaDataType ≠ .dateTime ∧ a.items = [] ∧ a.properties = []
def Attribute.hasItems : Attribute → Prop
  | mk field items _ => field.schemaDataType = .array ∧ items.isSome
def Attribute.hasProperties : Attribute → Prop
  | mk field _ properties => field.schemaDataType = .object ∧ properties.isSome
/-- The keys of the entries that are required are their names, in some order. -/
def Keyed (entries : List (String × Attribute)) : Prop :=
  ((entries.filter fun entry => entry.2.isRequired).map Prod.fst).Perm
    ((entries.filter fun entry => entry.2.isRequired).map fun entry => entry.2.attributeName)

mutual

def KeptAttribute (a : Attribute) : Prop :=
  (a.field.schemaDataType = .array → a.hasItems) ∧ (a.field.schemaDataType = .object → a.hasProperties) ∧
    (Distinct a.items ∧ ∀ b, (_ : b ∈ a.items) → KeptItem b) ∧
    (Distinct a.properties ∧ Keyed a.entries ∧ ∀ b, (_ : b ∈ a.properties) → KeptProperty b)
termination_by a
decreasing_by
  · exact sizeOf_items ‹_›
  · exact sizeOf_properties ‹_›

/-- An item of an array is kept: an object, or plain. -/
def KeptItem (a : Attribute) : Prop :=
  a.hasProperties ∧ (Distinct a.properties ∧ ∀ b, (_ : b ∈ a.properties) → KeptProperty b) ∨ Plain a
termination_by a
decreasing_by exact sizeOf_properties ‹_›
/-- A property of an object or of an item is kept: an array, or plain. -/
def KeptProperty (a : Attribute) : Prop :=
  a.hasItems ∧ (Distinct a.items ∧ ∀ b, (_ : b ∈ a.items) → KeptAttribute b) ∨ Plain a
termination_by a
decreasing_by exact sizeOf_items ‹_›
end

/-- The names are distinct, none is `id`, and every attribute is one that is kept. -/
def Kept (attrs : List Attribute) : Prop :=
  Distinct attrs ∧ "id" ∉ attrs.map Attribute.attributeName ∧ ∀ a ∈ attrs, KeptAttribute a
/-- The four loops are one: over attributes under keys, with what makes the property of one. -/
def loop (make : Attribute → Except String (Option Property)) (schema : IProductSchema) :
    List (String × Attribute) → Except String IProductSchema
  | [] => .ok schema
  | (key,a) :: rest => do
    let property ← make a
    loop make (schema.add a.isRequired key a.attributeName property) rest
def named (attrs : List Attribute) : List (String × Attribute) := attrs.map fun a => (a.attributeName,a)

section
variable {isRegExp : String → Bool} {schema out : IProductSchema} {make : Attribute → Except String (Option Property)}
  {attrs : List Attribute} {entries : List (String × Attribute)}

theorem processAttributes_eq :
    processAttributes isRegExp schema attrs = loop (processAttribute isRegExp) schema (named attrs) := by
  induction attrs generalizing schema with
  | nil => simp [processAttributes,named,loop]
  | cons a rest ih =>
    simp only [processAttributes,named,List.map_cons,loop]
    exact bind_congr fun property => ih
theorem arrayItems_eq :
    arrayItems isRegExp schema attrs = loop (fun a => some <$> arrayItem isRegExp a) schema (named attrs) := by
  induction attrs generalizing schema with
  | nil => simp [arrayItems,named,loop]
  | cons a rest ih =>
    simp only [arrayItems,named,List.map_cons,loop,bind_map_left]
    exact bind_congr fun property => ih
theorem itemProperties_eq :
    itemProperties isRegExp schema entries =
      loop (fun a => some <$> itemProperty isRegExp a) schema (named (entries.map Prod.snd)) := by
  induction entries generalizing schema with
  | nil => simp [itemProperties,named,loop]
  | cons entry rest ih =>
    simp only [itemProperties,named,List.map_cons,loop,bind_map_left]
    exact bind_congr fun property => ih
theorem objectProperties_eq :
    objectProperties isRegExp schema entries = loop (fun a => some <$> objectProperty isRegExp a) schema entries := by
  induction entries generalizing schema with
  | nil => simp [objectProperties,loop]
  | cons entry rest ih =>
    simp only [objectProperties,loop,bind_map_left]
    exact bind_congr fun property => ih

/-- What a loop makes: the properties are assigned, and the keys of the attributes that are
    required are listed. -/
theorem loop_ok (ran : loop make schema entries = .ok out) :
    ∃ built, List.Forall₂ (fun entry property => make entry.2 = .ok property) entries built ∧
      out.properties = collect schema.properties ((entries.map fun entry => entry.2.attributeName).zip built) ∧
      out.required = schema.required ++ (entries.filter fun entry => entry.2.isRequired).map Prod.fst := by
  induction entries generalizing schema with
  | nil =>
    obtain rfl := Except.ok.inj ran
    exact ⟨[],.nil,rfl,by simp⟩
  | cons entry rest ih =>
    obtain ⟨key,a⟩ := entry
    simp only [loop] at ran
    cases made : make a with
    | error message =>
      rw [made] at ran
      cases ran
    | ok property =>
      rw [made] at ran
      obtain ⟨built,each,properties,required⟩ := ih ran
      refine ⟨property :: built,.cons made each,?_,?_⟩
      · rw [properties]
        cases property <;> rfl
      · rw [required]
        by_cases needed : a.isRequired = true <;> simp [IProductSchema.add,needed]

theorem keyed_iff (distinct : (entries.map fun entry => entry.2.attributeName).Nodup) :
    (((entries.filter fun entry => entry.2.isRequired).map Prod.fst).Nodup ∧
      ∀ name, name ∈ (entries.filter fun entry => entry.2.isRequired).map Prod.fst ↔
        ∃ a ∈ entries.map Prod.snd, a.attributeName = name ∧ a.isRequired = true) ↔ Keyed entries := by
  have marked : ∀ name, (∃ a ∈ entries.map Prod.snd, a.attributeName = name ∧ a.isRequired = true) ↔
      name ∈ (entries.filter fun entry => entry.2.isRequired).map fun entry => entry.2.attributeName := by
    intro name
    simp only [List.mem_map,List.mem_filter]
    constructor
    · rintro ⟨a,⟨entry,there,rfl⟩,rfl,needed⟩
      exact ⟨entry,⟨there,needed⟩,rfl⟩
    · rintro ⟨entry,⟨there,needed⟩,rfl⟩
      exact ⟨entry.2,⟨entry,there,rfl⟩,rfl,needed⟩
  have names : ((entries.filter fun entry => entry.2.isRequired).map fun entry => entry.2.attributeName).Nodup :=
    distinct.sublist (List.filter_sublist.map _)
  simp only [marked]
  constructor
  · rintro ⟨once,exactly⟩
    exact (List.perm_ext_iff_of_nodup once names).mpr exactly
  · intro keyed
    exact ⟨keyed.nodup_iff.mpr names,fun name => keyed.mem_iff⟩

theorem keyed_named : Keyed (named attrs) := by
  simp [Keyed,named,List.filter_map,Function.comp_def]
theorem snd_named : (named attrs).map Prod.snd = attrs := by
  simp [named,Function.comp_def]

variable {built : List (Option Property)}

section

variable (each : List.Forall₂ (fun entry property => make entry.2 = .ok property) entries built)
include each
theorem zip_given {properties : List (String × Property)}
    (all : (entries.map fun entry => entry.2.attributeName).zip built = given properties) :
    List.Forall₂ (fun entry property => make entry.2 = .ok (some property.2) ∧ property.1 = entry.2.attributeName)
      entries properties := by
  induction each generalizing properties with
  | nil =>
    cases properties with
    | nil => exact .nil
    | cons property rest => cases all
  | cons made _ ih =>
    cases properties with
    | nil => cases all
    | cons property rest =>
      simp only [List.map_cons,List.zip_cons_cons,given,List.cons.injEq,Prod.mk.injEq] at all
      obtain ⟨⟨name,value⟩,later⟩ := all
      exact .cons ⟨value ▸ made,name.symm⟩ (ih later)

theorem given_zip (some_ : ∀ entry ∈ entries, ∀ property, make entry.2 = .ok property → ∃ q, property = some q) :
    ∃ properties, (entries.map fun entry => entry.2.attributeName).zip built = given properties := by
  induction each with
  | nil => exact ⟨[],rfl⟩
  | @cons entry property _ _ made _ ih =>
    obtain ⟨properties,later⟩ := ih fun other there => some_ other (List.mem_cons_of_mem _ there)
    obtain ⟨q,rfl⟩ := some_ _ List.mem_cons_self property made
    refine ⟨(entry.2.attributeName,q) :: properties,?_⟩
    rw [List.map_cons,List.zip_cons_cons,later]
    rfl
theorem map_fst_zip :
    ((entries.map fun entry => entry.2.attributeName).zip built).map Prod.fst =
      entries.map fun entry => entry.2.attributeName :=
  List.map_fst_zip (by simp [each.length_eq])
end

theorem exists_of_mem {R : String × Attribute → String × Property → Prop} {properties : List (String × Property)}
    (each : List.Forall₂ R entries properties) {entry : String × Attribute} (there : entry ∈ entries) :
    ∃ property ∈ properties, R entry property := by
  induction each with
  | nil => cases there
  | cons now _ ih =>
    rcases List.mem_cons.mp there with rfl | later
    · exact ⟨_,List.mem_cons_self,now⟩
    · obtain ⟨property,there',related⟩ := ih later
      exact ⟨property,List.mem_cons_of_mem _ there',related⟩

/-- A loop lists and describes its attributes exactly when their names are distinct, the keys
    of those that are required are their names, and each is kept. -/
theorem loop_iff {K : Attribute → Prop} (ran : loop make {} entries = .ok out)
    (each : ∀ a ∈ entries.map Prod.snd, ∀ property, make a = .ok property → (K a ↔ ∃ q, property = some q ∧ Describes q a)) :
    (Lists (entries.map Prod.snd) out.properties out.required ∧
      ∀ a ∈ entries.map Prod.snd, ∃ q, (a.attributeName,q) ∈ out.properties ∧ Describes q a) ↔
      Distinct (entries.map Prod.snd) ∧ Keyed entries ∧ ∀ a ∈ entries.map Prod.snd, K a := by
  obtain ⟨built,made,properties_,required⟩ := loop_ok ran
  have names : (entries.map Prod.snd).map Attribute.attributeName = entries.map fun entry => entry.2.attributeName := by
    simp
  rw [List.nil_append] at required
  constructor
  · rintro ⟨lists,described⟩
    have perm : (keys (collect [] ((entries.map fun entry => entry.2.attributeName).zip built))).Perm
        (((entries.map fun entry => entry.2.attributeName).zip built).map Prod.fst) := by
      have listed := lists.each
      rw [properties_,names] at listed
      rw [map_fst_zip made]
      exact listed
    obtain ⟨properties,all,distinct,usual⟩ := keys_collect_perm.mp perm
    have same : keys properties = entries.map fun entry => entry.2.attributeName := by
      rw [← map_fst_zip made,all]
      simp [given,keys]
    have found : out.properties = properties := by
      rw [properties_,all]
      exact collect_given (o := []) distinct usual
    rw [same] at distinct usual
    refine ⟨⟨names ▸ distinct,names ▸ usual⟩,(keyed_iff distinct).mp ?_,fun a there => ?_⟩
    · rw [← required]
      exact ⟨lists.once,lists.exactly⟩
    · obtain ⟨entry,there',rfl⟩ := List.mem_map.mp there
      obtain ⟨⟨name,q⟩,assigned,makes,rfl⟩ := exists_of_mem (zip_given made all) there'
      obtain ⟨q',assigned',describes⟩ := described _ there
      rw [found] at assigned'
      have nodup : (keys properties).Nodup := same ▸ distinct
      obtain ⟨-,rfl⟩ := Prod.mk.inj (List.inj_on_of_nodup_map nodup assigned assigned' rfl)
      exact (each _ there _ makes).mpr ⟨q,rfl,describes⟩
  · rintro ⟨⟨distinct,usual⟩,keyed,kept⟩
    have some_ : ∀ entry ∈ entries, ∀ property, make entry.2 = .ok property → ∃ q, property = some q := by
      intro entry there property makes
      have there' : entry.2 ∈ entries.map Prod.snd := List.mem_map_of_mem there
      obtain ⟨q,rfl,-⟩ := (each _ there' _ makes).mp (kept _ there')
      exact ⟨q,rfl⟩
    obtain ⟨properties,all⟩ := given_zip made some_
    have same : keys properties = entries.map fun entry => entry.2.attributeName := by
      rw [← map_fst_zip made,all]
      simp [given,keys]
    rw [names] at distinct usual
    have nodup : (keys properties).Nodup := same ▸ distinct
    have found : out.properties = properties := by
      rw [properties_,all]
      exact collect_given (o := []) nodup (same ▸ usual)
    obtain ⟨once,exactly⟩ := (keyed_iff distinct).mpr keyed
    rw [← required] at once exactly
    refine ⟨⟨by rw [found,same,names],once,fun name there => ?_,exactly⟩,fun a there => ?_⟩
    · obtain ⟨a,there',rfl,-⟩ := (exactly name).mp there
      rw [found,same,← names]
      exact List.mem_map_of_mem there'
    · obtain ⟨entry,there',rfl⟩ := List.mem_map.mp there
      obtain ⟨⟨name,q⟩,assigned,makes,rfl⟩ := exists_of_mem (zip_given made all) there'
      obtain ⟨q',same',describes⟩ := (each _ there _ makes).mp (kept _ there)
      obtain rfl := Option.some.inj same'
      exact ⟨q,found ▸ assigned,describes⟩

end

def Nested (attrs : List Attribute) (level : Option (Level Property)) : Prop :=
  Lists attrs (propertiesOf level) (requiredOf level) ∧
    ∀ b ∈ attrs, ∃ q, (b.attributeName,q) ∈ propertiesOf level ∧ Describes q b
theorem describes_iff {p : Property} {a : Attribute} :
    Describes p a ↔ Typed p a ∧ Nested a.items p.items ∧ Nested a.properties p.object := by
  rw [Describes]
  rfl
theorem nested_none {attrs : List Attribute} : Nested attrs none ↔ attrs = [] := by
  constructor
  · rintro ⟨lists,-⟩
    exact List.map_eq_nil_iff.mp (List.nil_perm.mp lists.each)
  · rintro rfl
    exact ⟨⟨.refl _,List.nodup_nil,fun _ there => there,by simp [requiredOf]⟩,fun _ there => (by cases there)⟩
theorem nested_level {attrs : List Attribute} {schema : IProductSchema} : Nested attrs (some schema.level) ↔
    Lists attrs schema.properties schema.required ∧
      ∀ b ∈ attrs, ∃ q, (b.attributeName,q) ∈ schema.properties ∧ Describes q b := by
  have required : requiredOf (some schema.level) = schema.required := by
    obtain ⟨properties,_ | ⟨name,rest⟩⟩ := schema <;> rfl
  rw [Nested,required]
  rfl
theorem distinct_nil : Distinct [] := ⟨List.nodup_nil,by simp⟩
theorem keyed_nil : Keyed [] := .refl _
theorem Attribute.nested_induction {motive : Attribute → Prop}
    (step : ∀ a, (∀ b ∈ a.items, motive b) → (∀ b ∈ a.properties, motive b) → motive a) (a : Attribute) : motive a :=
  step a (fun b _ => nested_induction step b) (fun b _ => nested_induction step b)
termination_by a
decreasing_by
  · exact sizeOf_items ‹_›
  · exact sizeOf_properties ‹_›

section
variable {isRegExp : String → Bool}

theorem bind_ok {α β : Type} {x : Except String α} {f : α → Except String β} {b : β} (ran : x >>= f = .ok b) :
    ∃ a, x = .ok a ∧ f a = .ok b := by
  cases x with
  | error message => cases ran
  | ok a => exact ⟨a,rfl,ran⟩

theorem applyValidations_ok {attr : Field} {property head : Head}
    (applied : applyValidations isRegExp attr property = .ok head) :
    head.type = property.type ∧ head.format = property.format := by
  unfold applyValidations at applied
  cases kind : attr.schemaDataType <;> simp only [kind] at applied
  case string | number | integer | array =>
    obtain ⟨_,-,applied⟩ := bind_ok applied
    obtain ⟨_,-,applied⟩ := bind_ok applied
    obtain ⟨_,-,applied⟩ := bind_ok applied
    obtain rfl := Except.ok.inj applied
    exact ⟨rfl,rfl⟩
  all_goals
    obtain rfl := Except.ok.inj applied
    exact ⟨rfl,rfl⟩

variable {a : Attribute} {head : Head}
theorem typed_of_type {items object : Option (Level Property)}
    (type : head.type = a.field.schemaDataType.text) (undated : a.field.schemaDataType ≠ .dateTime) :
    Typed (.mk head items object) a := by
  refine ⟨type.trans ?_,fun date => absurd date undated⟩
  cases kind : a.field.schemaDataType <;> first | rfl | exact absurd kind undated
theorem describes_plain (type : head.type = a.field.schemaDataType.text)
    (format : head.format = none) : Describes (.mk head none none) a ↔ Plain a := by
  have typed : Typed (.mk head none none) a ↔ a.field.schemaDataType ≠ .dateTime := by
    constructor
    · rintro ⟨-,dated⟩ date
      exact absurd (format.symm.trans (dated date)) (by simp)
    · exact typed_of_type type
  rw [describes_iff,typed]
  exact and_congr_right fun _ => and_congr nested_none nested_none

/-- Each of the four places keeps an attribute exactly when its property describes it. -/
structure Faithful (isRegExp : String → Bool) (a : Attribute) : Prop where
  attribute_ : ∀ property, processAttribute isRegExp a = .ok property →
    (KeptAttribute a ↔ ∃ q, property = some q ∧ Describes q a)
  item : ∀ property, arrayItem isRegExp a = .ok property → (KeptItem a ↔ Describes property a)
  itemProperty : ∀ property, itemProperty isRegExp a = .ok property → (KeptProperty a ↔ Describes property a)
  objectProperty : ∀ property, objectProperty isRegExp a = .ok property → (KeptProperty a ↔ Describes property a)

theorem some_map_ok {x : Except String Property} {property : Option Property} (made : some <$> x = .ok property) :
    ∃ q, x = .ok q ∧ property = some q := by
  cases x with
  | error message => cases made
  | ok q => exact ⟨q,rfl,(Except.ok.inj made).symm⟩
theorem nested_loop {K : Attribute → Prop} {make : Attribute → Except String (Option Property)} {attrs : List Attribute}
    {out : IProductSchema} (ran : loop make {} (named attrs) = .ok out)
    (each : ∀ a ∈ attrs, ∀ property, make a = .ok property → (K a ↔ ∃ q, property = some q ∧ Describes q a)) :
    Nested attrs (some out.level) ↔ Distinct attrs ∧ ∀ a ∈ attrs, K a := by
  have listed := loop_iff (K := K) ran (by rwa [snd_named])
  rw [snd_named] at listed
  rw [nested_level,listed]
  exact and_congr_right fun _ => and_iff_right keyed_named
theorem kept_iff_some {K : Prop} {x : Except String Property} {property : Option Property}
    (made : some <$> x = .ok property) (kept : ∀ q, x = .ok q → (K ↔ Describes q a)) :
    K ↔ ∃ q, property = some q ∧ Describes q a := by
  obtain ⟨q,ran,rfl⟩ := some_map_ok made
  rw [kept q ran]
  simp
theorem nested_attributes {attrs : List Attribute} {out : IProductSchema} (faithful : ∀ b ∈ attrs, Faithful isRegExp b)
    (ran : processAttributes isRegExp {} attrs = .ok out) :
    Nested attrs (some out.level) ↔ Distinct attrs ∧ ∀ b ∈ attrs, KeptAttribute b := by
  rw [processAttributes_eq] at ran
  exact nested_loop ran fun b there => (faithful b there).attribute_
theorem nested_items {attrs : List Attribute} {out : IProductSchema} (faithful : ∀ b ∈ attrs, Faithful isRegExp b)
    (ran : arrayItems isRegExp {} attrs = .ok out) :
    Nested attrs (some out.level) ↔ Distinct attrs ∧ ∀ b ∈ attrs, KeptItem b := by
  rw [arrayItems_eq] at ran
  exact nested_loop ran fun b there _ made => kept_iff_some made (faithful b there).item
theorem nested_itemProperties {entries : List (String × Attribute)} {out : IProductSchema}
    (faithful : ∀ b ∈ entries.map Prod.snd, Faithful isRegExp b) (ran : itemProperties isRegExp {} entries = .ok out) :
    Nested (entries.map Prod.snd) (some out.level) ↔
      Distinct (entries.map Prod.snd) ∧ ∀ b ∈ entries.map Prod.snd, KeptProperty b := by
  rw [itemProperties_eq] at ran
  exact nested_loop ran fun b there _ made => kept_iff_some made (faithful b there).itemProperty
theorem nested_objectProperties {entries : List (String × Attribute)} {out : IProductSchema}
    (faithful : ∀ b ∈ entries.map Prod.snd, Faithful isRegExp b) (ran : objectProperties isRegExp {} entries = .ok out) :
    Nested (entries.map Prod.snd) (some out.level) ↔
      Distinct (entries.map Prod.snd) ∧ Keyed entries ∧ ∀ b ∈ entries.map Prod.snd, KeptProperty b := by
  rw [objectProperties_eq] at ran
  rw [nested_level]
  exact loop_iff ran fun b there _ made => kept_iff_some made (faithful b there).objectProperty
theorem items_nil {field : Field} {items : Option (List Attribute)} {properties : Option (List (String × Attribute))}
    (kind : field.schemaDataType ≠ .array) : (Attribute.mk field items properties).items = [] := if_neg kind
theorem properties_nil {field : Field} {items : Option (List Attribute)}
    {properties : Option (List (String × Attribute))}
    (kind : field.schemaDataType ≠ .object) : (Attribute.mk field items properties).entries = [] := if_neg kind
theorem describes_array {field : Field} {items : List Attribute} {properties : Option (List (String × Attribute))}
    {level : Option (Level Property)} (kind : field.schemaDataType = .array) (type : head.type = "array") :
    Describes (.mk head level none) (.mk field (some items) properties) ↔ Nested items level := by
  have items_ : (Attribute.mk field (some items) properties).items = items := if_pos kind
  have entries_ : (Attribute.mk field (some items) properties).entries = [] := properties_nil (by simp [kind])
  have typed : Typed (.mk head level none) (.mk field (some items) properties) :=
    typed_of_type (by simp [Attribute.field,kind,type,W3CSchemaDataType.text]) (by simp [Attribute.field,kind])
  rw [describes_iff,items_,Attribute.properties,entries_]
  exact (and_iff_right typed).trans (and_iff_left (nested_none.mpr rfl))
theorem describes_object {field : Field} {items : Option (List Attribute)} {properties : List (String × Attribute)}
    {level : Option (Level Property)} (kind : field.schemaDataType = .object) (type : head.type = "object") :
    Describes (.mk head none level) (.mk field items (some properties)) ↔ Nested (properties.map Prod.snd) level := by
  have items_ : (Attribute.mk field items (some properties)).items = [] := items_nil (by simp [kind])
  have entries_ : (Attribute.mk field items (some properties)).entries = properties := if_pos kind
  have typed : Typed (.mk head none level) (.mk field items (some properties)) :=
    typed_of_type (by simp [Attribute.field,kind,type,W3CSchemaDataType.text]) (by simp [Attribute.field,kind])
  rw [describes_iff,items_,Attribute.properties,entries_]
  exact (and_iff_right typed).trans (and_iff_right (nested_none.mpr rfl))

variable {field : Field} {items : Option (List Attribute)} {properties : Option (List (String × Attribute))}
/-- Where an attribute gets a property with nothing nested in it. -/
def basic (isRegExp : String → Bool) (field : Field) : Except String Property := do
  let head ← applyValidations isRegExp field (nestedProperty field)
  return .mk head none none

theorem arrayItem_object {properties : List (String × Attribute)} (kind : field.schemaDataType = .object) :
    arrayItem isRegExp (.mk field items (some properties)) = (do
      let nested ← itemProperties isRegExp {} properties
      return .mk { nestedProperty field with type := "object" } none (some nested.level)) := by
  cases field
  cases kind
  rfl
theorem arrayItem_basic (other : ¬(Attribute.mk field items properties).hasProperties) :
    arrayItem isRegExp (.mk field items properties) = basic isRegExp field := by
  obtain ⟨_,kind,_,_,_,_⟩ := field
  cases kind <;> cases properties <;> first | rfl | exact absurd ⟨rfl,rfl⟩ other
theorem itemProperty_array {items : List Attribute} (kind : field.schemaDataType = .array) :
    itemProperty isRegExp (.mk field (some items) properties) = (do
      let nested ← processAttributes isRegExp {} items
      return .mk (nestedProperty field) (some nested.level) none) := by
  cases field
  cases kind
  rfl
theorem itemProperty_basic (other : ¬(Attribute.mk field items properties).hasItems) :
    itemProperty isRegExp (.mk field items properties) = basic isRegExp field := by
  obtain ⟨_,kind,_,_,_,_⟩ := field
  cases kind <;> cases items <;> first | rfl | exact absurd ⟨rfl,rfl⟩ other
theorem objectProperty_array {items : List Attribute} (kind : field.schemaDataType = .array) :
    objectProperty isRegExp (.mk field (some items) properties) = (do
      let result ← processAttributes isRegExp {} items
      let head ← applyValidations isRegExp field { nestedProperty field with type := "array" }
      return .mk head (some result.level) none) := by
  cases field
  cases kind
  rfl
theorem objectProperty_basic (other : ¬(Attribute.mk field items properties).hasItems) :
    objectProperty isRegExp (.mk field items properties) = basic isRegExp field := by
  obtain ⟨_,kind,_,_,_,_⟩ := field
  cases kind <;> cases items <;> first | rfl | exact absurd ⟨rfl,rfl⟩ other

variable {property : Property}
theorem describes_basic (made : basic isRegExp a.field = .ok property) :
    Describes property a ↔ Plain a := by
  obtain ⟨head,applied,made⟩ := bind_ok made
  obtain rfl := Except.ok.inj made
  obtain ⟨type,format⟩ := applyValidations_ok applied
  exact describes_plain type format

theorem arrayItem_faithful (faithful : ∀ b ∈ (Attribute.mk field items properties).properties, Faithful isRegExp b)
    (made : arrayItem isRegExp (.mk field items properties) = .ok property) :
    KeptItem (.mk field items properties) ↔ Describes property (.mk field items properties) := by
  rw [KeptItem]
  by_cases given : (Attribute.mk field items properties).hasProperties
  · obtain ⟨kind,some_⟩ := given
    obtain ⟨properties,rfl⟩ := Option.isSome_iff_exists.mp some_
    rw [arrayItem_object kind] at made
    obtain ⟨nested,ran,made⟩ := bind_ok made
    obtain rfl := Except.ok.inj made
    have properties_ : (Attribute.mk field items (some properties)).properties = properties.map Prod.snd :=
      congrArg (List.map Prod.snd) (if_pos kind)
    rw [properties_] at faithful
    rw [describes_object kind rfl,nested_itemProperties faithful ran,properties_]
    constructor
    · rintro (⟨-,kept⟩ | ⟨-,-,none_⟩)
      · exact kept
      · rw [← properties_,none_]
        exact ⟨distinct_nil,fun _ there => (by cases there)⟩
    · exact fun kept => .inl ⟨⟨kind,rfl⟩,kept⟩
  · rw [arrayItem_basic given] at made
    rw [describes_basic made]
    exact or_iff_right fun both => given both.1

section

variable (faithful : ∀ b ∈ (Attribute.mk field items properties).items, Faithful isRegExp b)
include faithful
theorem keptProperty_iff (array : field.schemaDataType = .array → ∀ given, items = some given → ∃ nested head,
      processAttributes isRegExp {} given = .ok nested ∧ head.type = "array" ∧ property = .mk head
      (some nested.level) none)
    (other : ¬(Attribute.mk field items properties).hasItems → basic isRegExp field = .ok property) :
    KeptProperty (.mk field items properties) ↔ Describes property (.mk field items properties) := by
  rw [KeptProperty]
  by_cases given : (Attribute.mk field items properties).hasItems
  · obtain ⟨kind,some_⟩ := given
    obtain ⟨items,rfl⟩ := Option.isSome_iff_exists.mp some_
    obtain ⟨nested,head,ran,type,rfl⟩ := array kind items rfl
    have items_ : (Attribute.mk field (some items) properties).items = items := if_pos kind
    rw [items_] at faithful
    rw [describes_array kind type,nested_attributes faithful ran,items_]
    constructor
    · rintro (⟨-,kept⟩ | ⟨-,none_,-⟩)
      · exact kept
      · rw [← items_,none_]
        exact ⟨distinct_nil,fun _ there => (by cases there)⟩
    · exact fun kept => .inl ⟨⟨kind,rfl⟩,kept⟩
  · rw [describes_basic (other given)]
    exact or_iff_right fun both => given both.1

theorem itemProperty_faithful (made : itemProperty isRegExp (.mk field items properties) = .ok property) :
    KeptProperty (.mk field items properties) ↔ Describes property (.mk field items properties) := by
  refine keptProperty_iff faithful (fun kind given same => ?_) fun other => (itemProperty_basic other).symm.trans made
  subst same
  rw [itemProperty_array kind] at made
  obtain ⟨nested,ran,made⟩ := bind_ok made
  exact ⟨nested,_,ran,by simp [nestedProperty,kind,W3CSchemaDataType.text],(Except.ok.inj made).symm⟩
theorem objectProperty_faithful (made : objectProperty isRegExp (.mk field items properties) = .ok property) :
    KeptProperty (.mk field items properties) ↔ Describes property (.mk field items properties) := by
  refine keptProperty_iff faithful (fun kind given same => ?_) fun other => (objectProperty_basic other).symm.trans made
  subst same
  rw [objectProperty_array kind] at made
  obtain ⟨nested,ran,made⟩ := bind_ok made
  obtain ⟨head,applied,made⟩ := bind_ok made
  exact ⟨nested,head,ran,(applyValidations_ok applied).1,(Except.ok.inj made).symm⟩

end

theorem processAttribute_array {items : List Attribute} (kind : field.schemaDataType = .array) :
    processAttribute isRegExp (.mk field (some items) properties) = (do
      let itemSchema ← arrayItems isRegExp {} items
      let head ← applyValidations isRegExp field (baseProperty field)
      return some (.mk head (some itemSchema.level) none)) := by
  cases field
  cases kind
  rfl
theorem processAttribute_object {properties : List (String × Attribute)} (kind : field.schemaDataType = .object) :
    processAttribute isRegExp (.mk field items (some properties)) = (do
      let nested ← objectProperties isRegExp {} properties
      return some (.mk { baseProperty field with type := "object" } none (some nested.level))) := by
  cases field
  cases kind
  rfl
theorem processAttribute_date (kind : field.schemaDataType = .dateTime) :
    processAttribute isRegExp (.mk field items properties) =
      .ok (some (.mk { baseProperty field with type := "string", format := some "date-time" } none none)) := by
  cases field
  cases kind
  rfl

theorem processAttribute_primitive (array : field.schemaDataType ≠ .array) (object : field.schemaDataType ≠ .object)
    (date : field.schemaDataType ≠ .dateTime) :
    processAttribute isRegExp (.mk field items properties) = (do
      let head ← applyValidations isRegExp field (baseProperty field)
      return some (.mk head none none)) := by
  obtain ⟨_,kind,_,_,_,_⟩ := field
  cases kind
  case array => exact absurd rfl array
  case object => exact absurd rfl object
  case dateTime => exact absurd rfl date
  all_goals rfl

theorem keptAttribute_simple (array : field.schemaDataType ≠ .array) (object : field.schemaDataType ≠ .object) :
    KeptAttribute (.mk field items properties) := by
  have items_ : (Attribute.mk field items properties).items = [] := items_nil array
  have entries_ : (Attribute.mk field items properties).entries = [] := properties_nil object
  rw [KeptAttribute,Attribute.properties,items_,entries_]
  exact ⟨fun kind => absurd kind array,fun kind => absurd kind object,⟨distinct_nil,fun _ there => (by cases there)⟩,
    distinct_nil,keyed_nil,fun _ there => (by cases there)⟩
theorem keptAttribute_array {items : List Attribute} (kind : field.schemaDataType = .array) :
    KeptAttribute (.mk field (some items) properties) ↔ Distinct items ∧ ∀ b ∈ items, KeptItem b := by
  have items_ : (Attribute.mk field (some items) properties).items = items := if_pos kind
  have entries_ : (Attribute.mk field (some items) properties).entries = [] := properties_nil (by simp [kind])
  rw [KeptAttribute,Attribute.properties,items_,entries_]
  constructor
  · exact fun kept => kept.2.2.1
  · exact fun kept => ⟨fun _ => ⟨kind,rfl⟩,fun other => (by cases kind.symm.trans other),kept,
      distinct_nil,keyed_nil,fun _ there => (by cases there)⟩
theorem keptAttribute_object {properties : List (String × Attribute)} (kind : field.schemaDataType = .object) :
    KeptAttribute (.mk field items (some properties)) ↔
      Distinct (properties.map Prod.snd) ∧ Keyed properties ∧ ∀ b ∈ properties.map Prod.snd, KeptProperty b := by
  have items_ : (Attribute.mk field items (some properties)).items = [] := items_nil (by simp [kind])
  have entries_ : (Attribute.mk field items (some properties)).entries = properties := if_pos kind
  rw [KeptAttribute,Attribute.properties,items_,entries_]
  constructor
  · exact fun kept => kept.2.2.2
  · exact fun kept => ⟨fun other => (by cases kind.symm.trans other),fun _ => ⟨kind,rfl⟩,
      ⟨distinct_nil,fun _ there => (by cases there)⟩,kept⟩
theorem some_iff {K : Prop} (same : K ↔ Describes property a) :
    K ↔ ∃ q, some property = some q ∧ Describes q a := by
  rw [same]
  simp

theorem processAttribute_faithful
    (faithfulItems : ∀ b ∈ (Attribute.mk field items properties).items, Faithful isRegExp b)
    (faithfulProperties : ∀ b ∈ (Attribute.mk field items properties).properties, Faithful isRegExp b)
    {property : Option Property} (made : processAttribute isRegExp (.mk field items properties) = .ok property) :
    KeptAttribute (.mk field items properties) ↔ ∃ q, property = some q ∧ Describes q (.mk field items properties) := by
  by_cases array : field.schemaDataType = .array
  · cases items with
    | none =>
      -- The array is left out, and is not kept either.
      have left : property = none := by
        obtain ⟨_,kind,_,_,_,_⟩ := field
        cases array
        exact (Except.ok.inj made).symm
      rw [KeptAttribute,left]
      constructor
      · intro kept
        cases (kept.1 array).2
      · rintro ⟨_,none_,-⟩
        cases none_
    | some items =>
      rw [processAttribute_array array] at made
      obtain ⟨itemSchema,ran,made⟩ := bind_ok made
      obtain ⟨head,applied,made⟩ := bind_ok made
      obtain rfl := Except.ok.inj made
      have items_ : (Attribute.mk field (some items) properties).items = items := if_pos array
      rw [items_] at faithfulItems
      have type : head.type = "array" := by
        rw [(applyValidations_ok applied).1]
        simp [baseProperty,array,W3CSchemaDataType.text]
      refine some_iff ?_
      rw [keptAttribute_array array,describes_array array type,nested_items faithfulItems ran]
  by_cases object : field.schemaDataType = .object
  · cases properties with
    | none =>
      have left : property = none := by
        obtain ⟨_,kind,_,_,_,_⟩ := field
        cases object
        cases items <;> exact (Except.ok.inj made).symm
      rw [KeptAttribute,left]
      constructor
      · intro kept
        cases (kept.2.1 object).2
      · rintro ⟨_,none_,-⟩
        cases none_
    | some properties =>
      rw [processAttribute_object object] at made
      obtain ⟨nested,ran,made⟩ := bind_ok made
      obtain rfl := Except.ok.inj made
      have properties_ : (Attribute.mk field items (some properties)).properties = properties.map Prod.snd :=
        congrArg (List.map Prod.snd) (if_pos object)
      rw [properties_] at faithfulProperties
      refine some_iff ?_
      rw [keptAttribute_object object,describes_object object rfl,nested_objectProperties faithfulProperties ran]
  have kept : KeptAttribute (.mk field items properties) := keptAttribute_simple array object
  have items_ : (Attribute.mk field items properties).items = [] := items_nil array
  have entries_ : (Attribute.mk field items properties).entries = [] := properties_nil object
  refine iff_of_true kept ?_
  by_cases date : field.schemaDataType = .dateTime
  · rw [processAttribute_date date] at made
    obtain rfl := Except.ok.inj made
    refine ⟨_,rfl,describes_iff.mpr ⟨⟨?_,fun _ => rfl⟩,nested_none.mpr items_,nested_none.mpr ?_⟩⟩
    · simp [Attribute.field,date,W3CSchemaDataType.schemaType,Property.head]
    · rw [Attribute.properties,entries_]
      rfl
  · rw [processAttribute_primitive array object date] at made
    obtain ⟨head,applied,made⟩ := bind_ok made
    obtain rfl := Except.ok.inj made
    obtain ⟨type,format⟩ := applyValidations_ok applied
    refine ⟨_,rfl,(describes_plain type format).mpr ⟨date,items_,?_⟩⟩
    rw [Attribute.properties,entries_]
    rfl

theorem faithful (a : Attribute) : Faithful isRegExp a := by
  induction a using Attribute.nested_induction with
  | step a items properties =>
    obtain ⟨field,is,ps⟩ := a
    exact ⟨fun _ => processAttribute_faithful items properties,fun _ => arrayItem_faithful properties,
      fun _ => itemProperty_faithful items,fun _ => objectProperty_faithful items⟩

end
section
variable {isRegExp : String → Bool} {attrs : List Attribute} {out : IProductSchema}

theorem processAttributes_keys (ran : processAttributes isRegExp {} attrs = .ok out) :
    (keys out.properties).Nodup ∧ ∀ key ∈ keys out.properties, key ∈ attrs.map Attribute.attributeName := by
  rw [processAttributes_eq] at ran
  obtain ⟨built,made,properties,-⟩ := loop_ok ran
  rw [properties]
  refine ⟨nodup_collect List.nodup_nil,fun key there => ?_⟩
  rcases mem_collect there with none_ | ⟨-,value,assigned⟩
  · cases none_
  · have named_ := List.mem_map_of_mem (f := Prod.fst) assigned
    rw [map_fst_zip made] at named_
    simpa [named,Function.comp_def] using named_

/-- The fixed `id` comes after the properties of the attributes, none of which it replaces. -/
theorem right_iff_nested {id : Property} (distinct : (keys out.properties).Nodup)
    (names : ∀ key ∈ keys out.properties, key ∈ attrs.map Attribute.attributeName) :
    Right attrs ⟨assign out.properties "id" id,some ("id" :: out.required)⟩ ↔
      Nested attrs (some out.level) ∧ "id" ∉ attrs.map Attribute.attributeName := by
  have assigned : assign out.properties "id" id = put "id" id out.properties := if_neg (by decide)
  rw [nested_level,assigned]
  constructor
  · intro right
    have apart : ("id" :: attrs.map Attribute.attributeName).Nodup := right.each.nodup_iff.mp (nodup_put distinct)
    have unnamed : "id" ∉ attrs.map Attribute.attributeName := (List.nodup_cons.mp apart).1
    have fresh : "id" ∉ keys out.properties := fun there => unnamed (names _ there)
    have keys_ : keys (put "id" id out.properties) = keys out.properties ++ ["id"] := by rw [keys_put,if_neg fresh]
    have perm : (keys out.properties).Perm (attrs.map Attribute.attributeName) := by
      have each := right.each
      change (keys (put "id" id out.properties)).Perm _ at each
      rw [keys_] at each
      exact List.Perm.cons_inv ((List.perm_append_singleton _ _).symm.trans each)
    obtain ⟨unlisted,once⟩ := List.nodup_cons.mp (show ("id" :: out.required).Nodup from right.once)
    refine ⟨⟨⟨perm,once,fun name there => ?_,fun name => ?_⟩,fun a there => ?_⟩,unnamed⟩
    · have there' := right.there name (List.mem_cons_of_mem _ there)
      change name ∈ keys (put "id" id out.properties) at there'
      rw [keys_] at there'
      rcases List.mem_append.mp there' with found | same
      · exact found
      · rw [List.mem_singleton.mp same] at there
        exact absurd there unlisted
    · have exactly := right.exactly name
      change name ∈ "id" :: out.required ↔ _ at exactly
      by_cases same : name = "id"
      · subst same
        refine iff_of_false unlisted ?_
        rintro ⟨a,there,named_,-⟩
        exact unnamed (named_ ▸ List.mem_map_of_mem there)
      · simpa [same] using exactly
    · obtain ⟨p,there',describes⟩ := right.described a there
      change (a.attributeName,p) ∈ put "id" id out.properties at there'
      rw [put_fresh fresh] at there'
      rcases List.mem_append.mp there' with found | same
      · exact ⟨p,found,describes⟩
      · obtain ⟨named_,-⟩ := Prod.mk.inj (List.mem_singleton.mp same)
        exact absurd (named_ ▸ List.mem_map_of_mem there) unnamed
  · rintro ⟨⟨lists,described⟩,unnamed⟩
    have fresh : "id" ∉ keys out.properties := fun there => unnamed (names _ there)
    have keys_ : keys (put "id" id out.properties) = keys out.properties ++ ["id"] := by rw [keys_put,if_neg fresh]
    refine ⟨?_,fun a there => ?_,?_,fun name there => ?_,fun name => ?_⟩
    · change (keys (put "id" id out.properties)).Perm _
      rw [keys_]
      exact (List.perm_append_singleton _ _).trans (lists.each.cons _)
    · obtain ⟨p,there',describes⟩ := described a there
      refine ⟨p,?_,describes⟩
      change (a.attributeName,p) ∈ put "id" id out.properties
      rw [put_fresh fresh]
      exact List.mem_append_left _ there'
    · exact List.nodup_cons.mpr ⟨fun there => fresh (lists.there _ there),lists.once⟩
    · change name ∈ keys (put "id" id out.properties)
      rw [keys_]
      rcases List.mem_cons.mp (show name ∈ "id" :: out.required from there) with rfl | listed
      · simp
      · exact List.mem_append_left _ (lists.there name listed)
    · change name ∈ "id" :: out.required ↔ _
      rw [List.mem_cons,lists.exactly]

/-- The subject of the schema has a property for each attribute, with its type and with what
    is nested in it, and no other but the fixed `id`, and lists what is required, exactly when
    the attributes are kept. -/
theorem right_iff_kept {schemaName description : String} {schema : W3CSchema}
    (built : w3cSchemaBuilder isRegExp attrs schemaName description = .ok schema) :
    Right attrs schema.credentialSubject ↔ Kept attrs := by
  obtain ⟨result,ran,built⟩ := bind_ok built
  obtain rfl := Except.ok.inj built
  obtain ⟨distinct,names⟩ := processAttributes_keys ran
  rw [right_iff_nested distinct names,nested_attributes (fun b _ => faithful b) ran,Kept]
  constructor
  · rintro ⟨⟨apart,kept⟩,unnamed⟩
    exact ⟨apart,unnamed,kept⟩
  · rintro ⟨apart,unnamed,kept⟩
    exact ⟨⟨apart,kept⟩,unnamed⟩

end

/-- `IsOptional`: null is not checked either. -/
def optional (test : Value → Bool) : Option Value → Bool
  | none | some .null => true
  | some value => test value
/-- `IsInt` and `Min(1)` -/
def Value.isPositiveLength : Value → Bool
  | .number n => 1 ≤ n && n.isInt
  | _ => false
def Value.isText : Value → Bool
  | .text _ => true
  | _ => false

/-- The checks of the validations, which depend on the type. Those of an integer are not checked. -/
def admittedValidations (field : Field) : Bool :=
  let v := field.validations
  match field.schemaDataType with
  | .string => optional Value.isLength v.minLength && optional Value.isPositiveLength v.maxLength && optional
      Value.isText v.pattern
  | .number => optional Value.isNumber v.minimum && optional Value.isNumber v.exclusiveMinimum && optional
      Value.isFactor v.multipleOf
  | .array => optional Value.isLength v.minItems && optional Value.isPositiveLength v.maxItems && optional
      Value.isBoolean v.uniqueItems
  | _ => true

mutual

/-- The checks of a `W3CAttributeValue`. The properties of an object are not checked. -/
def admitted : Attribute → Bool
  | .mk field items properties =>
    field.attributeName ≠ "" && field.displayName ≠ "" && admittedValidations field &&
      match field.schemaDataType, items, properties with
      | .object, none, some _ => true
      | .array, some items, none => admittedItems items
      | .object, _, _ | .array, _, _ => false
      | _, none, none => true
      | _, _, _ => false

def admittedItems : List Attribute → Bool
  | [] => true
  | item :: rest => admitted item && admittedItems rest
end

def city : Attribute :=
    .mk { attributeName := "city", schemaDataType := .string, displayName := "City", isRequired := true } none none
def address : Attribute :=
  .mk { attributeName := "address", schemaDataType := .object, displayName := "Address", isRequired := true } none
    (some [("city",city)])
def person : Attribute :=
  .mk { attributeName := "person", schemaDataType := .object, displayName := "Person", isRequired := true } none
    (some [("address",address)])
theorem right_iff_kept_person : ∃ schema, w3cSchemaBuilder (fun _ => true) [person] "Person" "A person" = .ok schema ∧
    (Right [person] schema.credentialSubject ↔ Kept [person]) :=
  ⟨_,rfl,@right_iff_kept (fun _ => true) _ "Person" "A person" _ rfl⟩

/-- The city is not in the schema. -/
theorem city_dropped :
    ¬∀ (isRegExp : String → Bool) (attrs : List Attribute) (schemaName description : String) (schema : W3CSchema),
    attrs ≠ [] → attrs.all admitted = true → w3cSchemaBuilder isRegExp attrs schemaName description = .ok schema →
      Right attrs schema.credentialSubject := by
  intro always
  have right := always (fun _ => true) [person] "Person" "A person" _ (by simp) (by decide) rfl
  obtain ⟨p,there,describes⟩ := right.described person (List.mem_singleton_self _)
  rcases List.mem_cons.mp there with same | there
  · obtain ⟨-,rfl⟩ := Prod.mk.inj same
    obtain ⟨q,there,describes⟩ := (describes_iff.mp describes).2.2.2 address (List.mem_singleton_self _)
    obtain ⟨-,rfl⟩ := Prod.mk.inj (List.mem_singleton.mp there)
    cases nested_none.mp (describes_iff.mp describes).2.2
  · obtain ⟨named_,-⟩ := Prod.mk.inj (List.mem_singleton.mp there)
    exact absurd named_ (by decide)

end Ngotag.SchemaBuilder
