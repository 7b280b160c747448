import Ngotag.Await
import Ngotag.Bitmap
import Mathlib.Data.List.AList

/-!
`StatusListAllocatorService` over the database. `allocate` and `release` are
transactions at READ COMMITTED: a statement sees what is committed when it runs
and what its own transaction wrote; an update locks its row until the
transaction ends and waits while another one holds the lock; a transaction that
fails is rolled back.
-/
namespace Ngotag.StatusLists
open Await Bitmap

/-- A row of `status_list_allocation`. Its `id` and its `listId`, both unique, are
    one key here. -/
structure Row where
  orgId : String
  issuerDid : String
  listSize : Nat
  allocatedCount : Nat
  bitmap : Bytes
  isActive : Bool

abbrev Table := AList fun _ : Nat => Row
inductive Write where
  | create (key : Nat) (row : Row)
  | deactivate (key : Nat)
  | store (key : Nat) (bitmap : Bytes) (allocatedCount : Nat)
def Write.key : Write → Nat
  | .create key _ => key
  | .deactivate key => key
  | .store key _ _ => key
/-- What a write makes of the row at its key. -/
def Write.onRow : Write → Option Row → Option Row
  | .create _ row,_ => some row
  | .deactivate _,row => row.map ({ · with isActive := false })
  | .store _ bitmap allocatedCount,row => row.map ({ · with bitmap := bitmap, allocatedCount := allocatedCount })
def Write.apply (table : Table) (write : Write) : Table :=
  match write.onRow (table.lookup write.key) with
  | some row => table.insert write.key row
  | none => table

/-- How a transaction that commits changes which indexes are taken. -/
inductive Change where
  | allocated (key index : Nat)
  | released (key : Nat) (index : Int)
  | nothing
def Change.apply (live : List (Nat × Nat)) : Change → List (Nat × Nat)
  | .allocated key index => (key,index) :: live
  | .released key index => live.filter fun entry => entry ≠ (key,index.toNat)
  | .nothing => live
inductive Failure where
  /-- `orgId and issuerDid are required for status list allocation` -/
  | required
  /-- `Retry allocation, list full` -/
  | listFull
  | allocator (error : Bitmap.Error)
  | database

inductive Cmd where
  | begin
  | findFirst (orgId issuerDid : String)
  | findUnique (key : Nat)
  | deactivate (key : Nat)
  | create (row : Row)
  | store (key : Nat) (read : Row) (bitmap : Bytes) (allocatedCount : Nat)
  | draw
  | commit (change : Change)
  | rollback

def Ret : Cmd → Type
  | .findFirst _ _ => Option (Nat × Row)
  | .findUnique _ => Option Row
  | .create _ => Nat
  | .draw => Nat → Nat
  | _ => Unit
abbrev Async := Prog Cmd Ret Failure
def perform (command : Cmd) : Async (Ret command) := call command
/-- `prisma.$transaction` -/
def transaction {β : Type} (body : Async β) (change : β → Change) : Async β := do
  let _ : Unit ← perform .begin
  let value ← body.tryCatch fun error => do
    let _ : Unit ← perform .rollback
    throw error
  let _ : Unit ← perform (.commit (change value))
  pure value

def DEFAULT_STATUS_LIST_SIZE : Nat := 131072
/-- `listSize || defaultListSize` -/
def sizeOf (listSize : Option Nat) : Nat :=
  match listSize with
  | some (n + 1) => n + 1
  | _ => DEFAULT_STATUS_LIST_SIZE
def createList (orgId issuerDid : String) (listSize : Option Nat) : Async (Nat × Row) := do
  let row : Row := ⟨orgId,issuerDid,sizeOf listSize,0,blank (sizeOf listSize),true⟩
  let key : Nat ← perform (.create row)
  pure (key,row)

/-- The active list, or a new one where there is none or it is full. -/
def activeList (orgId issuerDid : String) (listSize : Option Nat) : Async (Nat × Row) := do
  let found : Option (Nat × Row) ← perform (.findFirst orgId issuerDid)
  match found with
  | none => createList orgId issuerDid listSize
  | some (key,row) =>
    if row.listSize ≤ row.allocatedCount then do
      let _ : Unit ← perform (.deactivate key)
      createList orgId issuerDid listSize
    else pure (key,row)

/-- An index of the list, written back to its row. -/
def takeIndex (key : Nat) (row : Row) : Async (Nat × Nat) := do
  let draws : Nat → Nat ← perform .draw
  match (Allocator.ofBytes row.listSize row.bitmap).allocate draws with
  | .ok (index,allocator) => do
    let _ : Unit ← perform (.store key row allocator.bitmap allocator.allocatedCount)
    pure (key,index)
  | .error .noIndexesLeft => do
    let _ : Unit ← perform (.deactivate key)
    throw .listFull
  | .error error => throw (.allocator error)

def allocate (orgId issuerDid : String) (listSize : Option Nat) : Async (Nat × Nat) :=
  if orgId = "" ∨ issuerDid = "" then throw .required
  else transaction
    (do
      let list ← activeList orgId issuerDid listSize
      takeIndex list.1 list.2)
    fun taken => .allocated taken.1 taken.2

/-- What `release` does in its transaction; whether the list was there. -/
def giveBack (key : Nat) (index : Int) : Async Bool := do
  let found : Option Row ← perform (.findUnique key)
  match found with
  | none => pure false
  | some row =>
    match (Allocator.ofBytes row.listSize row.bitmap).release index with
    | .error error => throw (.allocator error)
    | .ok allocator => do
      let _ : Unit ← perform (.store key row allocator.bitmap allocator.allocatedCount)
      pure true

def release (key : Nat) (index : Int) : Async Unit := do
  let _ ← transaction (giveBack key index) fun found => if found then .released key index else .nothing
  pure ()
/-- The committed rows, the open transactions with their writes, the row locks and
    the keys that were drawn. `live` records the indexes that committed
    transactions took and that were not released since. -/
structure World where
  committed : Table
  txn : Nat → Option (List Write)
  lock : Nat → Option Nat
  used : List Nat
  live : List (Nat × Nat)
def World.empty : World := ⟨∅,fun _ => none,fun _ => none,[],[]⟩
inductive Fault where
  | none
  /-- The statement fails. -/
  | lost
  /-- The commit went through, its answer did not. -/
  | unknown
  deriving DecidableEq
/-- Which row is found or which key is drawn, what random numbers come and whether
    the statement fails. -/
structure Choice where
  fault : Fault
  key : Nat
  draws : Nat → Nat

def view (committed : Table) (writes : List Write) : Table := writes.foldl Write.apply committed
/-- The transaction is over and its locks are free. -/
def World.close (process : Nat) (w : World) : World :=
  { w with
    txn := Function.update w.txn process none
    lock := fun key => if w.lock key = some process then none else w.lock key }
/-- A write of an open transaction; its row is locked from now on. -/
def World.write (process : Nat) (writes : List Write) (write : Write) (w : World) : World :=
  { w with
    txn := Function.update w.txn process (some (writes ++ [write]))
    lock := Function.update w.lock write.key (some process) }
/-- The rows of a table that `findFirst` may return. -/
def activeKeys (table : Table) (orgId issuerDid : String) : List Nat :=
  table.keys.filter fun key =>
    (table.lookup key).any fun row => row.orgId = orgId && row.issuerDid = issuerDid && row.isActive

/-- An update of a row: it fails where the row is not there, and waits for its lock. -/
def update (process : Nat) (write : Write) (w : World) : Option (World × Except Failure Unit) :=
  match w.txn process with
  | none => some (w,.error .database)
  | some writes =>
    if ((view w.committed writes).lookup write.key).isNone then some (w,.error .database)
    else if w.lock write.key = none ∨ w.lock write.key = some process then
      some (w.write process writes write,.ok ())
    else none
def World.commit (process : Nat) (writes : List Write) (change : Change) (w : World) : World :=
  { w.close process with committed := view w.committed writes, live := change.apply w.live }

def handle (process : Nat) (c : Cmd) (choice : Choice) (w : World) : Option (World × Except Failure (Ret c)) :=
  match c with
  | .begin =>
    if choice.fault = .none then some ({ w with txn := Function.update w.txn process (some []) },.ok ())
    else some (w,.error .database)
  | .findFirst orgId issuerDid =>
    match w.txn process with
    | none => some (w,.error .database)
    | some writes =>
      if choice.fault = .none then
        let table := view w.committed writes
        let keys := activeKeys table orgId issuerDid
        some (w,.ok (keys[choice.key % keys.length]?.bind fun key => (table.lookup key).map fun row => (key,row)))
      else some (w,.error .database)
  | .findUnique key =>
    match w.txn process with
    | none => some (w,.error .database)
    | some writes =>
      if choice.fault = .none then some (w,.ok ((view w.committed writes).lookup key))
      else some (w,.error .database)
  | .deactivate key => if choice.fault = .none then update process (.deactivate key) w else some (w,.error .database)
  | .create row =>
    match w.txn process with
    | none => some (w,.error .database)
    | some writes =>
      if choice.fault = .none then
        if choice.key ∈ w.used then none
        else some ({ w.write process writes (.create choice.key row) with used := choice.key :: w.used },.ok choice.key)
      else some (w,.error .database)
  | .store key _ bitmap allocatedCount =>
    if choice.fault = .none then update process (.store key bitmap allocatedCount) w else some (w,.error .database)
  | .draw => some (w,.ok choice.draws)
  | .commit change =>
    match w.txn process with
    | none => some (w,.error .database)
    | some writes =>
      match choice.fault with
      | .none => some (w.commit process writes change,.ok ())
      | .lost => some (w.close process,.error .database)
      | .unknown => some (w.commit process writes change,.error .database)
  | .rollback => some (w.close process,.ok ())

inductive Input where
  | allocate (orgId issuerDid : String) (listSize : Option Nat)
  | release (key : Nat) (index : Int)
/-- The connection of a transaction is lost, or its time is up: it is rolled back. -/
inductive Env where
  | abort (process : Nat)
def program (_ : Nat) : Input → Async Unit
  | .allocate orgId issuerDid listSize => do
    let _ ← allocate orgId issuerDid listSize
    pure ()
  | .release key index => release key index

def sys : System Cmd Ret Failure Unit World Choice Input Env where
  handle := handle
  arrive _ _ w := some w
  program := program
  environment event w :=
    match event with
    | .abort process => some (w.close process)

end Ngotag.StatusLists
