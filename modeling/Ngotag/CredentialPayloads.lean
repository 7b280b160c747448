import Ngotag.OrgRolesGuard

/-!
The attribute tree of a credential template and the payload of an offer. A name is looked up in a payload
as JavaScript looks it up: among the fields of an object or the items of a list first, then among what
every such value has.
-/
namespace Ngotag.CredentialPayloads

inductive Attribute where
  | mk (key : String) (mandatory disclose : Bool) (children : List Attribute)
def Attribute.key : Attribute → String
  | .mk key _ _ _ => key
def Attribute.mandatory : Attribute → Bool
  | .mk _ mandatory _ _ => mandatory
def Attribute.disclose : Attribute → Bool
  | .mk _ _ disclose _ => disclose
def Attribute.children : Attribute → List Attribute
  | .mk _ _ _ children => children

inductive Value where
  | null
  | bool (b : Bool)
  | number (n : Rat)
  | text (s : String)
  | list (items : List Value)
  | object (fields : List (String × Value))

/-- Functions, prototypes and what else is no JSON. `inherited` is what a value has under a name that is
none of its fields or items. -/
structure Realm where
  Builtin : Type
  inherited : Value → String → Option Builtin
  read : Builtin → String → Option Builtin
  /-- `'object' === typeof value && null !== value` -/
  isObject : Builtin → Bool
  isEmpty : Builtin → Bool
  truthy : Builtin → Bool
  listLength : Builtin → Option Nat

inductive Data (realm : Realm) where
  | value (v : Value)
  | builtin (b : realm.Builtin)
def itemAt (items : List Value) (key : String) : Option Value :=
  items.zipIdx.findSome? fun p => if toString p.2 = key then some p.1 else none
def Value.own : Value → String → Option Value
  | .object fields,key => fields.lookup key
  | .list items,key => itemAt items key
  | _,_ => none

variable {realm : Realm}
/-- `data?.[key]` -/
def Data.read : Data realm → String → Option (Data realm)
  | .value .null,_ => none
  | .value v,key =>
    match v.own key with
    | some found => some (.value found)
    | none => (realm.inherited v key).map .builtin
  | .builtin b,key => (realm.read b key).map .builtin

def Value.isObject : Value → Bool
  | .list _ | .object _ => true
  | _ => false
def Data.isObject : Data realm → Bool
  | .value v => v.isObject
  | .builtin b => realm.isObject b
/-- No value, a blank text or an object without fields. -/
def Value.isEmpty : Value → Bool
  | .null => true
  | .text s => OrgRolesGuard.trim s = ""
  | .object fields => fields.isEmpty
  | _ => false
def Data.isEmpty : Data realm → Bool
  | .value v => v.isEmpty
  | .builtin b => realm.isEmpty b
def Value.truthy : Value → Bool
  | .null => false
  | .bool b => b
  | .number n => n ≠ 0
  | .text s => s ≠ ""
  | _ => true
def Data.truthy : Data realm → Bool
  | .value v => v.truthy
  | .builtin b => realm.truthy b
def Data.listLength : Data realm → Option Nat
  | .value (.list items) => some items.length
  | .value _ => none
  | .builtin b => realm.listLength b

theorem children_smaller {attrs : List Attribute} {attr : Attribute} (listed : attr ∈ attrs) :
    sizeOf attr.children < sizeOf attrs := by
  have inside := List.sizeOf_lt_of_mem listed
  cases attr with
  | mk key mandatory disclose children =>
    simp only [Attribute.mk.sizeOf_spec] at inside
    simp only [Attribute.children]
    omega
theorem read_field {fields : List (String × Value)} {key : String} {v : Value} (found : fields.lookup key = some v) :
    Data.read (.value (.object fields) : Data realm) key = some (.value v) := by
  simp only [Data.read,Value.own,found]

/-- Where values have nothing but their fields and items. -/
def bare : Realm where
  Builtin := Empty
  inherited _ _ := none
  read b _ := b.elim
  isObject b := b.elim
  isEmpty b := b.elim
  truthy b := b.elim
  listLength b := b.elim

end Ngotag.CredentialPayloads
