import Ngotag.OrgRolesGuard
import Ngotag.JsObject
import Ngotag.Grouping
import Mathlib.Data.List.Sort

/-!
JavaScript objects in a heap: properties with prototypes behind them, arrays, and values read and
assigned in strict mode. A program is a function of the heap that returns or throws; what it has
assigned before it throws stays.
-/
namespace Ngotag.JsHeap

/-- What is needed of a number: `between n` is more than `n` and less than `n + 1`. The rounding of
numbers is left out. -/
inductive Numeric where
  | nan
  | integer (n : Int)
  | between (n : Int)
  | infinite (positive : Bool)
  deriving DecidableEq
def Numeric.neg : Numeric → Numeric
  | .nan => .nan
  | .integer n => .integer (-n)
  | .between n => .between (-n - 1)
  | .infinite positive => .infinite !positive
/-- `x <= n` -/
def Numeric.atMost (n : Int) : Numeric → Bool
  | .nan => false
  | .integer m => m ≤ n
  | .between m => m < n
  | .infinite positive => !positive
def digitValue (c : Char) : Nat := if c.isDigit then c.toNat - '0'.toNat else c.toLower.toNat - 'a'.toNat + 10
def isDigitOf (base : Nat) (c : Char) : Bool := (c.isDigit || c.isAlpha) && digitValue c < base
def natOf (base : Nat) (digits : List Char) : Nat := digits.foldl (fun n c => n * base + digitValue c) 0
/-- `m * 10 ** e` -/
def scaled (m : Nat) (e : Int) : Numeric :=
  let divisor := 10 ^ (-e).toNat
  if 0 ≤ e then .integer (m * 10 ^ e.toNat) else if m % divisor = 0 then .integer
      (m / divisor) else .between (m / divisor)

/-- `e` and a number with a sign or without one. -/
def exponent : List Char → Option Int
  | [] => some 0
  | e :: more =>
    let digits := match more with
      | '+' :: digits => digits
      | '-' :: digits => digits
      | digits => digits
    if (e = 'e' ∨ e = 'E') ∧ digits ≠ [] ∧ digits.all Char.isDigit then
      some (if more.head? = some '-' then -natOf 10 digits else natOf 10 digits)
    else none

def unsigned (cs : List Char) : Numeric :=
  if cs = "Infinity".toList then .infinite true
  else
    let whole := cs.takeWhile Char.isDigit
    let rest := cs.dropWhile Char.isDigit
    let fraction := if rest.head? = some '.' then rest.tail.takeWhile Char.isDigit else []
    let power := if rest.head? = some '.' then rest.tail.dropWhile Char.isDigit else rest
    if whole = [] ∧ fraction = [] then .nan
    else match exponent power with
      | none => .nan
      | some e => scaled (natOf 10 (whole ++ fraction)) (e - fraction.length)

/-- The digits after `0x`, `0o` or `0b`. -/
def radix (base : Nat) (digits : List Char) : Numeric :=
  if digits ≠ [] ∧ digits.all (isDigitOf base) then .integer (natOf base digits) else .nan

/-- `Number(text)` -/
def Number (text : String) : Numeric :=
  match (OrgRolesGuard.trim text).toList with
  | [] => .integer 0
  | '+' :: cs => unsigned cs
  | '-' :: cs => (unsigned cs).neg
  | '0' :: c :: cs =>
    if c = 'x' ∨ c = 'X' then radix 16 cs
    else if c = 'o' ∨ c = 'O' then radix 8 cs
    else if c = 'b' ∨ c = 'B' then radix 2 cs
    else unsigned ('0' :: c :: cs)
  | cs => unsigned cs

/-- The number the text begins with, or `NaN`. -/
def parseInt (text : String) : Option Int :=
  let cs := text.toList.dropWhile Spelling.blank
  let signless := if cs.head? = some '-' ∨ cs.head? = some '+' then cs.tail else cs
  let hexadecimal := signless.take 2 = ['0','x'] ∨ signless.take 2 = ['0','X']
  let base := if hexadecimal then 16 else 10
  let digits := (if hexadecimal then signless.drop 2 else signless).takeWhile (isDigitOf base)
  if digits = [] then none else some (if cs.head? = some '-' then -natOf base digits else natOf base digits)
example : (Number "", Number " 12 ", Number "0x1F", Number "1.5e1", Number "-.5", Number "1_0", Number "1a") =
    (.integer 0, .integer 12, .integer 31, .integer 15, .between (-1), .nan, .nan) := by decide
example : (parseInt "", parseInt " 12a", parseInt "0x1F", parseInt "-3", parseInt "1e3") =
    (none, some 12, some 31, some (-3), some 1) := by decide
/-- The UTF-16 units; half a pair stands as the replacement character. -/
def units (text : String) : List Char :=
  text.toList.flatMap fun c => if c.val < 0x10000 then [c] else ['\uFFFD','\uFFFD']
inductive Value where
  | undefined
  | null
  | bool (b : Bool)
  | number (n : Numeric)
  | text (s : String)
  | ref (r : Nat)
  deriving DecidableEq
def Value.truthy : Value → Bool
  | .undefined | .null => false
  | .bool b => b
  | .number n => n ≠ .nan ∧ n ≠ .integer 0
  | .text s => s ≠ ""
  | .ref _ => true
inductive Property where
  | data (value : Value) (writable : Bool)
  /-- The accessor `__proto__`. -/
  | proto
  /-- An accessor that throws. -/
  | refusing
  deriving DecidableEq
structure Object where
  proto : Option Nat
  props : List (String × Property)
  length : Option Nat
  callable : Bool
  extensible : Bool
  /-- The prototype cannot be changed. -/
  immutable : Bool
abbrev Heap := List Object
inductive Failure where
  | typeError
  | rangeError
  deriving DecidableEq
/-- Where the prototypes are, and what an object is converted to by its own and inherited methods. -/
structure Realm where
  objectPrototype : Nat
  arrayPrototype : Nat
  stringPrototype : Nat
  numberPrototype : Nat
  booleanPrototype : Nat
  primitive : Heap → Nat → Except Failure Value
def arrayIndex (key : String) : Option Nat :=
  let n := natOf 10 key.toList
  if toString n = key ∧ n < 4294967295 then some n else none
/-- The key a number is as an index. -/
def indexKey : Option Int → String
  | none => "NaN"
  | some n => toString n

namespace Object

def own (o : Object) (key : String) : Option Property :=
  match o.length with
  | some n => if key = "length" then some (.data (.number (.integer n)) true) else o.props.lookup key
  | none => o.props.lookup key
def write (o : Object) (key : String) (value : Value) : Object where
  proto := o.proto
  props := JsObject.put key (.data value true) o.props
  length := o.length.map fun n => match arrayIndex key with
    | some i => max n (i + 1)
    | none => n
  callable := o.callable
  extensible := o.extensible
  immutable := o.immutable
def resize (o : Object) (n : Nat) : Object :=
  { o with
    length := some n
    props := o.props.filter fun p => match arrayIndex p.1 with
      | some i => i < n
      | none => true }
def remove (o : Object) (key : String) : Object := { o with props := o.props.filter fun p => p.1 ≠ key }
def keys (o : Object) : List String :=
  let indices := (JsObject.keys o.props).filterMap arrayIndex
  (indices.insertionSort (· ≤ ·)).map toString ++ (JsObject.keys o.props).filter fun key => (arrayIndex key).isNone

end Object
section
variable (realm : Realm)

/-- The property of an object, or of its prototypes up to some of them. -/
def findFrom (h : Heap) : Nat → Nat → String → Option Property
  | 0,_,_ => none
  | fuel + 1,r,key =>
    match h[r]? with
    | none => none
    | some o =>
      match o.own key with
      | some property => some property
      | none =>
        match o.proto with
        | none => none
        | some p => findFrom h fuel p key

/-- No chain of prototypes is longer than the heap. -/
def find (h : Heap) (r : Nat) (key : String) : Option Property := findFrom h h.length r key

/-- `Object.getPrototypeOf(value)` -/
def prototypeOf (h : Heap) : Value → Value
  | .ref r =>
    match h[r]? with
    | none => .null
    | some o =>
      match o.proto with
      | none => .null
      | some p => .ref p
  | .text _ => .ref realm.stringPrototype
  | .number _ => .ref realm.numberPrototype
  | .bool _ => .ref realm.booleanPrototype
  | .undefined | .null => .null

def readProperty (h : Heap) (receiver : Value) : Option Property → Except Failure Value
  | none => .ok .undefined
  | some (.data value _) => .ok value
  | some .proto => .ok (prototypeOf realm h receiver)
  | some .refusing => .error .typeError

/-- `value[key]` -/
def get (h : Heap) (value : Value) (key : String) : Except Failure Value :=
  match value with
  | .undefined | .null => .error .typeError
  | .ref r => readProperty realm h value (find h r key)
  | .text s =>
    if key = "length" then .ok (.number (.integer (units s).length))
    else match (arrayIndex key).bind fun i => (units s)[i]? with
      | some c => .ok (.text (String.ofList [c]))
      | none => readProperty realm h value (find h realm.stringPrototype key)
  | .number _ => readProperty realm h value (find h realm.numberPrototype key)
  | .bool _ => readProperty realm h value (find h realm.booleanPrototype key)

def inChain (h : Heap) (r : Nat) : Nat → Nat → Bool
  | 0,_ => false
  | fuel + 1,p => p = r || match h[p]? with
    | none => false
    | some o =>
      match o.proto with
      | none => false
      | some q => inChain h r fuel q

/-- What `__proto__ = value` does to an object. -/
def setPrototype (h : Heap) (r : Nat) (o : Object) : Value → Except Failure Heap
  | .ref p =>
    if o.proto = some p then .ok h
    else if o.immutable ∨ !o.extensible ∨ inChain h r h.length p then .error .typeError
    else .ok (h.set r { o with proto := some p })
  | .null =>
    if o.proto = none then .ok h
    else if o.immutable ∨ !o.extensible then .error .typeError
    else .ok (h.set r { o with proto := none })
  | _ => .ok h

/-- `Number(value)` -/
def toNumber (h : Heap) : Value → Except Failure Numeric
  | .undefined => .ok .nan
  | .null => .ok (.integer 0)
  | .bool b => .ok (.integer (if b then 1 else 0))
  | .number n => .ok n
  | .text s => .ok (Number s)
  | .ref r =>
    match realm.primitive h r with
    | .error e => .error e
    | .ok .null => .ok (.integer 0)
    | .ok (.bool b) => .ok (.integer (if b then 1 else 0))
    | .ok (.number n) => .ok n
    | .ok (.text s) => .ok (Number s)
    | .ok _ => .ok .nan

/-- `array.length = value` -/
def setLength (h : Heap) (r : Nat) (o : Object) (value : Value) : Except Failure Heap :=
  match toNumber realm h value with
  | .error e => .error e
  | .ok (.integer n) => if 0 ≤ n ∧ n < 4294967296 then .ok (h.set r (o.resize n.toNat)) else .error .rangeError
  | .ok _ => .error .rangeError

/-- `value[key] = assigned` -/
def set (h : Heap) (value : Value) (key : String) (assigned : Value) : Except Failure Heap :=
  match value with
  | .ref r =>
    match h[r]? with
    | none => .error .typeError
    | some o =>
      if key = "length" ∧ o.length.isSome then setLength realm h r o assigned
      else match find h r key with
        | none => if o.extensible then .ok (h.set r (o.write key assigned)) else .error .typeError
        | some (.data _ writable) =>
          if writable ∧ (o.extensible ∨ (o.own key).isSome) then .ok
              (h.set r (o.write key assigned)) else .error .typeError
        | some .proto => setPrototype h r o assigned
        | some .refusing => .error .typeError
  | .undefined | .null => .error .typeError
  -- Only the accessor takes an assignment to what is no object, and does nothing.
  | .text _ | .number _ | .bool _ =>
    match prototypeOf realm h value with
    | .ref p => if find h p key = some .proto then .ok h else .error .typeError
    | _ => .error .typeError

end

def Js (A : Type) : Type := Heap → Except Failure A × Heap

namespace Js

instance : Monad Js where
  pure a := fun h => (.ok a,h)
  bind m f := fun h =>
    match m h with
    | (.ok a,after) => f a after
    | (.error e,after) => (.error e,after)
theorem bind_eq {A B : Type} (m : Js A) (f : A → Js B) (h : Heap) : (m >>= f) h = match m h with
    | (.ok a,after) => f a after
    | (.error e,after) => (.error e,after) := rfl
def throw {A : Type} (e : Failure) : Js A := fun h => (.error e,h)
def reads {A : Type} (f : Heap → Except Failure A) : Js A := fun h => (f h,h)
def updates (f : Heap → Except Failure Heap) : Js Unit := fun h =>
  match f h with
  | .ok after => (.ok (),after)
  | .error e => (.error e,h)

variable (realm : Realm)
def get (value : Value) (key : String) : Js Value := reads fun h => JsHeap.get realm h value key
def set (value : Value) (key : String) (assigned : Value) :
    Js Unit := updates fun h => JsHeap.set realm h value key assigned
def alloc (o : Object) : Js Value := fun h => (.ok (.ref h.length),h ++ [o])
/-- `{}` -/
def newObject : Js Value :=
  alloc { proto := some realm.objectPrototype, props := [], length := none, callable := false, extensible :=
      true, immutable := false }
/-- `[]` -/
def newArray : Js Value :=
  alloc { proto := some realm.arrayPrototype, props := [], length := some 0, callable := false, extensible :=
      true, immutable := false }
def object (value : Value) : Js (Option Object) := reads fun h => .ok <|
  match value with
  | .ref r => h[r]?
  | _ => none
/-- `'object' === typeof value`, and not null. -/
def isObject (value : Value) : Js Bool := do return (← object value).any fun o => !o.callable
/-- `Array.isArray(value)` -/
def isArray (value : Value) : Js Bool := do return (← object value).any fun o => o.length.isSome
/-- `Object.keys(value)` -/
def keys (value : Value) : Js (List String) := do return ((← object value).map Object.keys).getD []
/-- `Object.prototype.hasOwnProperty.call(value, key)` -/
def hasOwn (value : Value) (key : String) : Js Bool := do return (← object value).any fun o => (o.own key).isSome

/-- `delete value[key]` -/
def delete (value : Value) (key : String) : Js Unit := updates fun h => .ok <|
  match value with
  | .ref r =>
    match h[r]? with
    | some o => h.set r (o.remove key)
    | none => h
  | _ => h
/-- `value.push(item)`, which arrays have. -/
def push (value item : Value) : Js Unit := do
  let method ← get realm value "push"
  if (← object method).any Object.callable then
    match (← object value).bind Object.length with
    | some n => if n < 4294967295 then set realm value (toString n) item else throw .rangeError
    | none => throw .typeError
  else throw .typeError
/-- `value <= n` -/
def atMost (value : Value) (n : Int) : Js Bool := do
  let x ← reads fun h => toNumber realm h value
  return x.atMost n
/-- `for (const item of items)` -/
def each {A : Type} (items : List A) (body : A → Js Unit) : Js Unit :=
  match items with
  | [] => pure ()
  | item :: rest => do
    body item
    each rest body
/-- `items.map(body)` -/
def mapEach {A B : Type} (body : A → Js B) : List A → Js (List B)
  | [] => pure []
  | item :: rest => do
    let made ← body item
    let others ← mapEach body rest
    return made :: others
/-- `array.forEach`, which passes over what is not there. -/
def forEach (array : Value) (body : Value → Nat → Js Unit) : Js Unit := do
  let length := ((← object array).bind Object.length).getD 0
  each (List.range length) fun i => do
    let there ← reads fun h => .ok <|
      match array with
      | .ref r => (find h r (toString i)).isSome
      | _ => false
    if there then body (← get realm array (toString i)) i else pure ()

end Js

theorem Js.bind_ok {A B : Type} {m : Js A} {f : A → Js B} {h after : Heap} {b : B} (done : (m >>= f) h = (.ok b,after)) :
    ∃ a mid, m h = (.ok a,mid) ∧ f a mid = (.ok b,after) := by
  have run : (m >>= f) h = match m h with
    | (.ok a,mid) => f a mid
    | (.error e,mid) => (.error e,mid) := rfl
  rw [done] at run
  cases is : m h with
  | mk outcome mid =>
    rw [is] at run
    cases outcome with
    | error e => cases run
    | ok a => exact ⟨a,mid,rfl,run.symm⟩

variable {key : String}
theorem own_data {o : Object} {v : Value} {w : Bool} (found : o.own key = some (.data v w)) :
    (key,.data v w) ∈ o.props ∨ ∃ n, v = .number n := by
  unfold Object.own at found
  split at found
  · split at found
    · obtain ⟨rfl,-⟩ := Property.data.inj (Option.some.inj found)
      exact .inr ⟨_,rfl⟩
    · exact .inl (Grouping.mem_of_lookup found)
  · exact .inl (Grouping.mem_of_lookup found)

theorem findFrom_own {h : Heap} {P : Property} {fuel r : Nat} (found : findFrom h fuel r key = some P) :
    ∃ (r : Nat) (o : Object), h[r]? = some o ∧ o.own key = some P := by
  induction fuel generalizing r with
  | zero => cases found
  | succ fuel ih =>
    rw [findFrom] at found
    split at found
    · cases found
    · next o at_ =>
      split at found
      · next property own =>
        cases found
        exact ⟨r,o,at_,own⟩
      · split at found
        · cases found
        · exact ih found

theorem arrayIndex_key {i : Nat} (index : arrayIndex key = some i) : toString i = key := by
  simp only [arrayIndex] at index
  split at index
  · next both =>
    obtain rfl := Option.some.inj index
    exact both.1
  · cases index
theorem own_of_keys {o : Object} (there : key ∈ o.keys) : key ∈ JsObject.keys o.props := by
  rcases List.mem_append.mp there with index | other
  · obtain ⟨i,sorted,rfl⟩ := List.mem_map.mp index
    obtain ⟨own,there,is⟩ := List.mem_filterMap.mp ((List.mem_insertionSort _).mp sorted)
    exact (arrayIndex_key is).symm ▸ there
  · exact List.mem_of_mem_filter other
theorem find_of_own {h : Heap} {r : Nat} {o : Object} {P : Property} (at_ : h[r]? = some o) (own : o.own key = some P) :
    find h r key = some P := by
  obtain ⟨n,size⟩ := Nat.exists_eq_succ_of_ne_zero (Nat.ne_zero_of_lt (List.getElem?_eq_some_iff.mp at_).1)
  simp only [find,size,findFrom,at_,own]

/-- An object with a property written, another length or another prototype. -/
inductive Assigned (o : Object) (key : String) (value : Value) : Object → Prop where
  | written : Assigned o key value (o.write key value)
  | resized (n : Nat) (array : o.length.isSome = true) : Assigned o key value (o.resize n)
  | inherits (p : Nat) (is : value = .ref p) : Assigned o key value { o with proto := some p }
  | orphaned : Assigned o key value { o with proto := none }

theorem set_cases {realm : Realm} {h after : Heap} {value assigned : Value}
    (done : set realm h value key assigned = .ok after) :
    after = h ∨ ∃ (r : Nat) (o o' : Object), value = .ref r ∧ h[r]? = some o ∧ after = h.set r o' ∧
        Assigned o key assigned o' := by
  have prototype {r : Nat} {o : Object} (done : setPrototype h r o assigned = .ok after) :
      after = h ∨ ∃ o', after = h.set r o' ∧ Assigned o key assigned o' := by
    unfold setPrototype at done
    split at done
    · split at done
      · exact .inl (Except.ok.inj done).symm
      · split at done
        · cases done
        · exact .inr ⟨_,(Except.ok.inj done).symm,.inherits _ rfl⟩
    · split at done
      · exact .inl (Except.ok.inj done).symm
      · split at done
        · cases done
        · exact .inr ⟨_,(Except.ok.inj done).symm,.orphaned⟩
    · exact .inl (Except.ok.inj done).symm
  unfold set at done
  split at done
  · next r =>
    split at done
    · cases done
    · next o at_ =>
      have object : (after = h ∨ ∃ o', after = h.set r o' ∧ Assigned o key assigned o') → after = h ∨
          ∃ (r' : Nat) (o o' : Object), Value.ref r = .ref r' ∧ h[r']? = some o ∧ after = h.set r' o' ∧
          Assigned o key assigned o' :=
        fun either => either.imp id fun ⟨o',is,how⟩ => ⟨r,o,o',rfl,at_,is,how⟩
      split at done
      · next array =>
        unfold setLength at done
        split at done
        · cases done
        · split at done
          · exact object (.inr ⟨_,(Except.ok.inj done).symm,.resized _ array.2⟩)
          · cases done
        · cases done
      · split at done
        · split at done
          · exact object (.inr ⟨_,(Except.ok.inj done).symm,.written⟩)
          · cases done
        · split at done
          · exact object (.inr ⟨_,(Except.ok.inj done).symm,.written⟩)
          · cases done
        · exact object (prototype done)
        · cases done
  · cases done
  · cases done
  all_goals
    split at done
    · split at done
      · exact .inl (Except.ok.inj done).symm
      · cases done
    · cases done

end Ngotag.JsHeap
