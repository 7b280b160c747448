import Ngotag.JsHeap

/-!
A row of an uploaded CSV file made into an object: a header is a path whose parts stand between `~`,
and numbers among them are places in arrays.
-/
namespace Ngotag.CsvRows
open JsHeap JsHeap.Js

abbrev Row := List (String × String)
/-- `TemplateIdentifier.EMAIL_COLUMN` -/
def emailColumn : String := "email_identifier"
/-- `CommonConstants.NESTED_ATTRIBUTE_SEPARATOR` -/
def separator : Char := '~'
/-- `key.split(CommonConstants.NESTED_ATTRIBUTE_SEPARATOR)` -/
def partsOf (key : String) : List String := (key.toList.splitOn separator).map String.ofList
/-- `!isNaN(Number(part))` -/
def isNumeric (part : String) : Bool := Number part ≠ .nan
/-- `/^\d+$/.test(key)` -/
def allDigits (key : String) : Bool := key ≠ "" && key.toList.all Char.isDigit
/-- What `key.match(/^([^0-9]+)(\d{1,10})$/)` finds. -/
def numbered (key : String) : Option (String × Nat) :=
  let stem := key.toList.takeWhile fun c => !c.isDigit
  let digits := key.toList.dropWhile fun c => !c.isDigit
  if stem ≠ [] ∧ digits ≠ [] ∧ digits.all Char.isDigit ∧
      digits.length ≤ 10 then some (String.ofList stem,natOf 10 digits) else none

variable (realm : Realm)

section
variable (merge : Value → Js Unit) (obj : Value)

def isFilledObject (value : Value) : Js Bool := do return value.truthy && (← isObject value)
def mergeItems (array : Value) : Js Unit :=
  forEach realm array fun item _ => do if ← isFilledObject item then merge item else pure ()
/-- `if (!item || 'object' !== typeof item) { array[index] = {} }` -/
def makeObject (array item : Value) (index : Nat) : Js Unit := do
  if ← isFilledObject item then pure () else set realm array (toString index) (← newObject realm)
def addToItems (value array : Value) (names : List String) : Js Unit :=
  if names ≠ [] then
    forEach realm array fun item index => do
      makeObject realm array item index
      each names fun k => do set realm (← get realm array (toString index)) k (← get realm value k)
  else pure ()
/-- The members with a number for a key make an array. -/
def toArray (value : Value) (names : List String) : Js Value := do
  let tempArray ← newArray realm
  each ((names.filter allDigits).insertionSort fun a b => natOf 10 a.toList ≤ natOf 10 b.toList) fun k => do
    set realm tempArray (indexKey (parseInt k)) (← get realm value k)
    let member ← get realm value k
    if ← isFilledObject member then merge member else pure ()
  addToItems realm value tempArray (names.filter fun k => !allDigits k)
  return tempArray

/-- The first pass over the properties of an object. -/
def convertNumericKeys (key : String) : Js Unit := do
  if ← hasOwn obj key then
    let value ← get realm obj key
    if ← isFilledObject value then
      if ← isArray value then mergeItems realm merge value
      else
        let names ← keys value
        if (names.filter allDigits) ≠ [] then set realm obj key (← toArray realm merge value names) else merge value
    else pure ()
  else pure ()

/-- The members of an item whose keys differ in a number at the end make an array. -/
def groupNumbered (item : Value) : Js Unit := do
  let names ← keys item
  let found := names.filterMap fun k => (numbered k).map fun p => (p.1,k,p.2)
  each (Grouping.groupBy Prod.fst found) fun group => do
    let tempArray ← newArray realm
    each (group.2.insertionSort fun a b => a.2.2 ≤ b.2.2) fun p => do
      set realm tempArray (toString p.2.2) (← get realm item p.2.1)
      delete item p.2.1
    set realm item group.1 tempArray

/-- The second pass over the properties of an object. -/
def convertSuffixes (key : String) : Js Unit := do
  if ← hasOwn obj key then
    let value ← get realm obj key
    if ← isArray value then
      forEach realm value fun item _ => do
        if ← isFilledObject item then
          groupNumbered realm item
          merge item
        else pure ()
    else pure ()
  else pure ()

end

/-- The depth is what is left of the call stack. -/
def mergeArrayObjects : Nat → Value → Js Unit
  | 0,_ => throw .rangeError
  | depth + 1,obj => do
    if ← isFilledObject obj then
      each (← keys obj) (convertNumericKeys realm (mergeArrayObjects depth) obj)
      each (← keys obj) (convertSuffixes realm (mergeArrayObjects depth) obj)
    else pure ()
/-- `if (!obj[part]) { obj[part] = fresh }` -/
def ensure (obj : Value) (part : String) (fresh : Js Value) : Js Unit := do
  if (← get realm obj part).truthy then pure () else set realm obj part (← fresh)
/-- `while (list.length <= index) { list.push({}) }`, the list being read again in each round. A round
adds an item, so there are no more than `rounds`. -/
def fillTo (list : Js Value) (index : Int) : (rounds : Nat) → Js Unit
  | 0 => pure ()
  | rounds + 1 => do
    if ← atMost realm (← get realm (← list) "length") index then
      push realm (← list) (← newObject realm)
      fillTo list index rounds
    else pure ()
/-- Nothing is at most `NaN`. -/
def fill (list : Js Value) : Option Int → Js Unit
  | none => do
    let _ ← atMost realm (← get realm (← list) "length") 0
    pure ()
  | some index => fillTo realm list index (index.toNat + 2)

def processRemainingParts (value : Value) : Value → List String → Js Unit
  | _,[] => pure ()
  | current,[part] => set realm current part value
  | current,part :: next :: rest => do
    if isNumeric next then
      ensure realm current part (newArray realm)
      fill realm (get realm current part) (parseInt next)
      processRemainingParts value (← get realm (← get realm current part) (indexKey (parseInt next))) rest
    else
      ensure realm current part (newObject realm)
      processRemainingParts value (← get realm current part) (next :: rest)

def assignNested (value : Value) : Value → List String → Js Unit
  | _,[] => pure ()
  | currentLevel,[part] => set realm currentLevel part value
  | currentLevel,part :: next :: rest => do
    ensure realm currentLevel part (newObject realm)
    assignNested value (← get realm currentLevel part) (next :: rest)
def addToGroup (groupedKeys : Value) (groupKey key : String) : Js Unit := do
  ensure realm groupedKeys groupKey (newArray realm)
  push realm (← get realm groupedKeys groupKey) (.text key)

def readCell (result groupedKeys : Value) (cell : String × String) : Js Unit :=
  if cell.2 = "" then pure ()
  else if cell.1 = emailColumn then set realm result cell.1 (.text cell.2)
  else
    let keyParts := partsOf cell.1
    if (keyParts[1]?).any isNumeric then
      addToGroup realm groupedKeys (keyParts.headD "" ++ "~" ++ (keyParts[1]?).getD "") cell.1
    else if keyParts.tail.any fun part => isNumeric part && part ≠ "" then
      addToGroup realm groupedKeys (keyParts.headD "") cell.1
    else assignNested realm (.text cell.2) result keyParts

/-- `row[key]` -/
def cellOf (row : Row) (key : String) : Value :=
  match row.lookup key with
  | some cell => .text cell
  | none => .undefined
/-- `for (const key of keys)`, of an array of texts. -/
def eachKey (keys : Value) (body : String → Js Unit) : Js Unit := do
  let length := ((← object keys).bind Object.length).getD 0
  each (List.range length) fun i => do
    match ← get realm keys (toString i) with
    | .text key => body key
    | _ => throw .typeError

/-- The second pass, over the groups. -/
def readGroup (row : Row) (result groupedKeys : Value) (grpKey : String) : Js Unit := do
  if ← hasOwn groupedKeys grpKey then
    let keys ← get realm groupedKeys grpKey
    if separator ∈ grpKey.toList then
      let arrayName := (partsOf grpKey).headD ""
      let index := parseInt (((partsOf grpKey)[1]?).getD "")
      ensure realm result arrayName (newArray realm)
      fill realm (get realm result arrayName) index
      eachKey realm keys fun key => do
        let currentLevel ← get realm (← get realm result arrayName) (indexKey index)
        processRemainingParts realm (cellOf row key) currentLevel ((partsOf key).drop 2)
    else
      ensure realm result grpKey (newObject realm)
      eachKey realm keys fun key => do
        processRemainingParts realm (cellOf row key) (← get realm result grpKey) ((partsOf key).drop 1)
  else pure ()

def unflattenCsvRow (depth : Nat) (row : Row) : Js Value := do
  let result ← newObject realm
  let groupedKeys ← newObject realm
  each row (readCell realm result groupedKeys)
  each (← keys groupedKeys) (readGroup realm row result groupedKeys)
  mergeArrayObjects realm depth result
  return result

end Ngotag.CsvRows
