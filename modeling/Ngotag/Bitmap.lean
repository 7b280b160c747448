import Mathlib.Data.List.Basic
import Mathlib.Tactic.IntervalCases

/-!
`RandomBitmapIndexAllocator`: the indexes of a status list as the bits of a byte
array. An index is drawn at random, thirty-two times at most, and then looked
for from a random byte on; the index that is returned was clear and is the one
bit that changes.
-/
namespace Ngotag.Bitmap

abbrev Byte := BitVec 8
/-- A `Uint8Array`: nothing is read or written outside of it. -/
abbrev Bytes := List Byte
/-- `1 << (index & 7)` -/
def mask (index : Nat) : Byte := 1#8 <<< (index % 8)
def isSet (bitmap : Bytes) (index : Nat) : Bool := bitmap.getD (index / 8) 0 &&& mask index != 0
def set (bitmap : Bytes) (index : Nat) : Bytes := bitmap.modify (index / 8) (· ||| mask index)
def clear (bitmap : Bytes) (index : Nat) : Bytes := bitmap.modify (index / 8) (· &&& ~~~mask index)
/-- `byte.toString(2).split('1').length - 1` -/
def ones (byte : Byte) : Nat := (Nat.toDigits 2 byte.toNat).count '1'
def blank (capacity : Nat) : Bytes := List.replicate ((capacity + 7) / 8) 0
structure Allocator where
  capacity : Nat
  bitmap : Bytes
  allocatedCount : Nat
def Allocator.ofBytes (capacity : Nat) (existing : Bytes) : Allocator :=
  ⟨capacity,existing,(existing.map ones).sum⟩

inductive Error where
  | noIndexesLeft
  | invalidIndex

namespace Allocator

def attempts (a : Allocator) (draws : Nat → Nat) : List Nat := (List.range 32).map fun i => draws i % a.capacity
/-- The indexes the scan looks at, byte after byte from a random one on; full
    bytes are passed over. -/
def scan (a : Allocator) (draw : Nat) : List Nat :=
  (List.range a.bitmap.length).flatMap fun i =>
    let byteIdx := (draw % a.bitmap.length + i) % a.bitmap.length
    if a.bitmap.getD byteIdx 0 ≠ 255 then (List.range 8).map fun bit => byteIdx * 8 + bit else []

/-- `allocate`, given what `randomInt` draws from. -/
def allocate (a : Allocator) (draws : Nat → Nat) : Except Error (Nat × Allocator) :=
  if a.allocatedCount = a.capacity then .error .noIndexesLeft
  else
    match (a.attempts draws).find? (fun index => !isSet a.bitmap index) with
    | some index => .ok (index,{ a with bitmap := set a.bitmap index, allocatedCount := a.allocatedCount + 1 })
    | none =>
      match (a.scan (draws 32)).find? (fun index => decide (index < a.capacity) && !isSet a.bitmap index) with
      | some index => .ok (index,{ a with bitmap := set a.bitmap index, allocatedCount := a.allocatedCount + 1 })
      | none => .error .noIndexesLeft

def release (a : Allocator) (index : Int) : Except Error Allocator :=
  if index < 0 ∨ a.capacity ≤ index then .error .invalidIndex
  else if isSet a.bitmap index.toNat then
    .ok { a with bitmap := clear a.bitmap index.toNat, allocatedCount := a.allocatedCount - 1 }
  else .ok a

end Allocator

theorem isSet_eq (bitmap : Bytes) (index : Nat) :
    isSet bitmap index = (bitmap.getD (index / 8) 0).getLsbD (index % 8) := by
  rw [isSet,mask]
  generalize bitmap.getD (index / 8) 0 = byte
  have bit : index % 8 < 8 := Nat.mod_lt _ (by decide)
  generalize index % 8 = b at bit
  revert byte
  interval_cases b <;> decide
theorem getLsbD_mask (i j : Nat) (small : j < 8) : (mask i).getLsbD j = decide (j = i % 8) := by
  rw [mask,BitVec.getLsbD_shiftLeft,BitVec.getLsbD_one]
  simp only [small,decide_true,Bool.true_and]
  by_cases less : j < i % 8
  · simp [less]
    omega
  · simp [less]
    omega
theorem getD_modify (bitmap : Bytes) (f : Byte → Byte) (i j : Nat) :
    (bitmap.modify i f).getD j 0 = if i = j ∧ i < bitmap.length then f (bitmap.getD j 0) else bitmap.getD j 0 := by
  simp only [List.getD_eq_getElem?_getD,List.getElem?_modify]
  by_cases same : i = j
  · subst same
    by_cases inside : i < bitmap.length
    · simp [inside]
    · simp [inside]
  · simp [same]
@[simp] theorem length_set (bitmap : Bytes) (index : Nat) : (set bitmap index).length = bitmap.length := by
  simp [set]
@[simp] theorem length_clear (bitmap : Bytes) (index : Nat) : (clear bitmap index).length = bitmap.length := by
  simp [clear]
theorem index_eq {i j : Nat} (byte : i / 8 = j / 8) (bit : j % 8 = i % 8) : j = i := by omega

theorem isSet_set {bitmap : Bytes} {i : Nat} (inside : i / 8 < bitmap.length) (j : Nat) :
    isSet (set bitmap i) j = (isSet bitmap j || decide (j = i)) := by
  have small : j % 8 < 8 := Nat.mod_lt _ (by decide)
  rw [isSet_eq,isSet_eq,set,getD_modify]
  by_cases same : i / 8 = j / 8
  · rw [if_pos ⟨same,inside⟩,BitVec.getLsbD_or,getLsbD_mask _ _ small]
    congr 1
    exact decide_eq_decide.mpr ⟨fun bit => index_eq same bit,fun equal => by rw [equal]⟩
  · rw [if_neg fun both => same both.1]
    have different : j ≠ i := fun equal => same (by rw [equal])
    simp [different]

theorem isSet_clear (bitmap : Bytes) (i j : Nat) :
    isSet (clear bitmap i) j = (isSet bitmap j && !decide (j = i)) := by
  have small : j % 8 < 8 := Nat.mod_lt _ (by decide)
  rw [isSet_eq,isSet_eq,clear,getD_modify]
  by_cases same : i / 8 = j / 8
  · by_cases inside : i / 8 < bitmap.length
    · rw [if_pos ⟨same,inside⟩,BitVec.getLsbD_and,BitVec.getLsbD_not,getLsbD_mask _ _ small]
      simp only [small,decide_true,Bool.true_and]
      congr 2
      exact decide_eq_decide.mpr ⟨fun bit => index_eq same bit,fun equal => by rw [equal]⟩
    · rw [if_neg fun both => inside both.2]
      have out : bitmap.getD (j / 8) 0 = 0 := by
        rw [← same]
        simp [inside]
      rw [out]
      simp
  · rw [if_neg fun both => same both.1]
    have different : j ≠ i := fun equal => same (by rw [equal])
    simp [different]

theorem isSet_blank (capacity index : Nat) : isSet (blank capacity) index = false := by
  rw [isSet_eq,blank]
  simp [List.getD_eq_getElem?_getD,List.getElem?_replicate]
  split <;> simp

theorem allocate_ok {a after : Allocator} {draws : Nat → Nat} {index : Nat} (positive : 0 < a.capacity)
    (allocated : a.allocate draws = .ok (index,after)) :
    index < a.capacity ∧ isSet a.bitmap index = false ∧ after.bitmap = set a.bitmap index := by
  rw [Allocator.allocate] at allocated
  split at allocated
  · cases allocated
  split at allocated
  · rename_i some_left found drawn
    cases allocated
    have clear := List.find?_some drawn
    have member := List.mem_of_find?_eq_some drawn
    simp only [Allocator.attempts,List.mem_map,List.mem_range] at member
    obtain ⟨i,-,rfl⟩ := member
    exact ⟨Nat.mod_lt _ positive,by simpa using clear,rfl⟩
  split at allocated
  · rename_i found
    cases allocated
    have clear := List.find?_some found
    simp only [Bool.and_eq_true,decide_eq_true_eq,Bool.not_eq_true'] at clear
    exact ⟨clear.1,clear.2,rfl⟩
  · cases allocated

theorem release_ok {a after : Allocator} {index : Int} (released : a.release index = .ok after) :
    after.bitmap.length = a.bitmap.length ∧
      ∀ j, isSet after.bitmap j = (isSet a.bitmap j && !decide (j = index.toNat)) := by
  rw [Allocator.release] at released
  split at released
  · cases released
  split at released
  · cases released
    exact ⟨length_clear _ _,isSet_clear _ _⟩
  · rename_i unset
    cases released
    refine ⟨rfl,fun j => ?_⟩
    by_cases same : j = index.toNat
    · subst same
      simp [Bool.not_eq_true _ ▸ unset]
    · simp [same]

end Ngotag.Bitmap
