import Ngotag.Bitmap
import Ngotag.Runs
import Mathlib.Data.Nat.Count

/-!
`RandomBitmapIndexAllocator` with the operators of the language: an index is shifted and masked as an integer of
32 bits. Up to 2 ^ 31 indexes this is the division of `Ngotag.Bitmap` (`allocate32_eq`), the count is that of the
set bits and an index is found exactly while one is clear (`allocator_correct`). Beyond, an index is handed out
whose bit is never set (`index_without_bit`).
-/
namespace Ngotag.BitmapAllocator
open Bitmap
open Runs

/-- `index >> 3` -/
def byteIndex (index : Int) : Int := ((BitVec.ofInt 32 index).sshiftRight 3).toInt
/-- `index & 7` -/
def bit (index : Int) : Nat := (BitVec.ofInt 32 index &&& 7#32).toNat
/-- `byteIdx << 3` -/
def firstIndex (byteIdx : Nat) : Int := (BitVec.ofNat 32 byteIdx <<< 3).toInt
def byteAt (bitmap : Bytes) (byteIdx : Int) : Byte := if 0 ≤ byteIdx then bitmap.getD byteIdx.toNat 0 else 0
def changeByte (bitmap : Bytes) (byteIdx : Int) (f : Byte → Byte) : Bytes :=
  if 0 ≤ byteIdx then bitmap.modify byteIdx.toNat f else bitmap
def isSet32 (bitmap : Bytes) (index : Int) : Bool := byteAt bitmap (byteIndex index) &&& 1#8 <<< bit index != 0
def set32 (bitmap : Bytes) (index : Int) : Bytes := changeByte bitmap (byteIndex index) (· ||| 1#8 <<< bit index)
def clear32 (bitmap : Bytes) (index : Int) : Bytes := changeByte bitmap (byteIndex index) (· &&& ~~~(1#8 <<< bit index))

section
variable (a : Allocator)

def scan32 (draw : Nat) : List Int :=
  (List.range a.bitmap.length).flatMap fun i =>
    let byteIdx := (draw % a.bitmap.length + i) % a.bitmap.length
    if a.bitmap.getD byteIdx 0 ≠ 255 then (List.range 8).map fun bit => firstIndex byteIdx + (bit : Int) else []
def take32 (index : Int) : Allocator :=
  { a with bitmap := set32 a.bitmap index, allocatedCount := a.allocatedCount + 1 }
def allocate32 (draws : Nat → Nat) : Except Error (Int × Allocator) :=
  if a.allocatedCount = a.capacity then .error .noIndexesLeft
  else
    match ((a.attempts draws).map Int.ofNat).find? (fun index => !isSet32 a.bitmap index) with
    | some index => .ok (index,take32 a index)
    | none =>
      match (scan32 a (draws 32)).find? (fun index : Int => decide (index < a.capacity) && !isSet32 a.bitmap index) with
      | some index => .ok (index,take32 a index)
      | none => .error .noIndexesLeft
def release32 (index : Int) : Except Error Allocator :=
  if index < 0 ∨ a.capacity ≤ index then .error .invalidIndex
  else if isSet32 a.bitmap index then
    .ok { a with bitmap := clear32 a.bitmap index, allocatedCount := a.allocatedCount - 1 }
  else .ok a

end

inductive Action where
  | allocate (draws : Nat → Nat)
  | release (index : Int)

/-- A call that throws changes nothing. -/
def step (a : Allocator) : Action → Option Allocator
  | .allocate draws =>
    match allocate32 a draws with
    | .ok (_,after) => some after
    | .error _ => some a
  | .release index =>
    match release32 a index with
    | .ok after => some after
    | .error _ => some a

section
variable {bitmap : Bytes} {index : Nat}

theorem byteIndex_eq (small : index < 2 ^ 31) : byteIndex index = (index / 8 : Nat) := by
  have fits : index < 2 ^ 32 := by omega
  have same : (BitVec.ofInt 32 (index : Int)).toInt = index := by
    rw [BitVec.toInt_ofInt,Int.bmod_def]
    omega
  rw [byteIndex,BitVec.toInt_sshiftRight,same,Int.shiftRight_eq_div_pow]
  omega
theorem bit_eq (index : Nat) : bit index = index % 8 := by
  have masked : (BitVec.ofInt 32 (index : Int)).toNat = index % 2 ^ 32 := by
    rw [BitVec.toNat_ofInt]
    omega
  rw [bit,BitVec.toNat_and,masked]
  show index % 2 ^ 32 &&& 2 ^ 3 - 1 = index % 8
  rw [Nat.and_two_pow_sub_one_eq_mod]
  omega
theorem firstIndex_eq {byteIdx : Nat} (small : byteIdx < 2 ^ 28) : firstIndex byteIdx = (byteIdx * 8 : Nat) := by
  have shifted : (BitVec.ofNat 32 byteIdx <<< 3).toNat = byteIdx * 8 := by
    rw [BitVec.toNat_shiftLeft,BitVec.toNat_ofNat,Nat.shiftLeft_eq]
    omega
  rw [firstIndex,BitVec.toInt_eq_toNat_cond,shifted,if_pos (by omega)]
theorem isSet32_eq (small : index < 2 ^ 31) : isSet32 bitmap index = isSet bitmap index := by
  rw [isSet32,isSet,byteIndex_eq small,bit_eq,byteAt,if_pos (Int.natCast_nonneg _),Int.toNat_natCast,mask]
theorem set32_eq (small : index < 2 ^ 31) : set32 bitmap index = set bitmap index := by
  rw [set32,Bitmap.set,byteIndex_eq small,bit_eq,changeByte,if_pos (Int.natCast_nonneg _),Int.toNat_natCast]
  rfl
theorem clear32_eq (small : index < 2 ^ 31) : clear32 bitmap index = clear bitmap index := by
  rw [clear32,Bitmap.clear,byteIndex_eq small,bit_eq,changeByte,if_pos (Int.natCast_nonneg _),Int.toNat_natCast]
  rfl
end
section
variable {a after : Allocator} {draws : Nat → Nat}

theorem find_cast {p : Int → Bool} {q : Nat → Bool} {indexes : List Nat} (same : ∀ i ∈ indexes, p i = q i) :
    (indexes.map Int.ofNat).find? p = (indexes.find? q).map Int.ofNat := by
  induction indexes with
  | nil => rfl
  | cons i rest ih =>
    have first : p (Int.ofNat i) = q i := same i List.mem_cons_self
    rw [List.map_cons,List.find?_cons,List.find?_cons,first,ih fun j later => same j (List.mem_cons_of_mem i later)]
    cases q i <;> rfl

theorem scan32_eq (draw : Nat) (short : a.bitmap.length ≤ 2 ^ 28) : scan32 a draw = (a.scan draw).map Int.ofNat := by
  rw [scan32,Allocator.scan,List.map_flatMap]
  refine List.flatMap_congr fun i listed => ?_
  have inside : (draw % a.bitmap.length + i) % a.bitmap.length < a.bitmap.length :=
    Nat.mod_lt _ (Nat.lt_of_le_of_lt (Nat.zero_le i) (List.mem_range.mp listed))
  dsimp only
  rw [firstIndex_eq (Nat.lt_of_lt_of_le inside short)]
  split
  · rw [List.map_map]
    rfl
  · rfl

theorem mem_scan {draw index : Nat} (listed : index ∈ a.scan draw) : index / 8 < a.bitmap.length := by
  obtain ⟨i,there,listed⟩ := List.mem_flatMap.mp listed
  have inside : (draw % a.bitmap.length + i) % a.bitmap.length < a.bitmap.length :=
    Nat.mod_lt _ (Nat.lt_of_le_of_lt (Nat.zero_le i) (List.mem_range.mp there))
  dsimp only at listed
  split at listed
  · obtain ⟨bit,small,rfl⟩ := List.mem_map.mp listed
    have := List.mem_range.mp small
    omega
  · cases listed

theorem allocate32_eq (positive : 0 < a.capacity) (small : a.capacity ≤ 2 ^ 31)
    (bytes : a.bitmap.length = (a.capacity + 7) / 8) :
    allocate32 a draws = (a.allocate draws).map fun taken => ((taken.1 : Int),taken.2) := by
  have drawn : ((a.attempts draws).map Int.ofNat).find? (fun index => !isSet32 a.bitmap index) =
      ((a.attempts draws).find? fun index => !isSet a.bitmap index).map Int.ofNat := by
    refine find_cast fun i listed => ?_
    obtain ⟨n,-,rfl⟩ := List.mem_map.mp listed
    have below := Nat.mod_lt (draws n) positive
    rw [isSet32_eq (by omega)]
  have scanned : (scan32 a (draws 32)).find?
      (fun index : Int => decide (index < a.capacity) && !isSet32 a.bitmap index) =
      ((a.scan (draws 32)).find? fun index => decide (index < a.capacity) && !isSet a.bitmap index).map Int.ofNat := by
    rw [scan32_eq _ (by omega)]
    refine find_cast fun i listed => ?_
    have inside := mem_scan listed
    rw [isSet32_eq (by omega)]
    simp
  rw [allocate32,Allocator.allocate,drawn,scanned]
  split
  · rfl
  · cases found : (a.attempts draws).find? fun index => !isSet a.bitmap index with
    | some index =>
      obtain ⟨n,-,rfl⟩ := List.mem_map.mp (List.mem_of_find?_eq_some found)
      have below := Nat.mod_lt (draws n) positive
      simp only [Option.map_some,take32,Int.ofNat_eq_natCast,set32_eq (show draws n % a.capacity < 2 ^ 31 by omega)]
      rfl
    | none =>
      cases found : (a.scan (draws 32)).find? fun index => decide (index < a.capacity) && !isSet a.bitmap index with
      | some index =>
        have inside := mem_scan (List.mem_of_find?_eq_some found)
        simp only [Option.map_some,Option.map_none,take32,Int.ofNat_eq_natCast,set32_eq (show index < 2 ^ 31 by omega)]
        rfl
      | none => rfl

theorem release32_eq {index : Nat} (inside : index < a.capacity) (small : a.capacity ≤ 2 ^ 31) :
    release32 a index = a.release index := by
  rw [release32,Allocator.release,Int.toNat_natCast,isSet32_eq (by omega),clear32_eq (by omega)]
end

def taken (bitmap : Bytes) (index : Nat) : Bool := (bitmap.getD (index / 8) 0).getLsbD (index % 8)
def population (bitmap : Bytes) : Nat := (List.range (8 * bitmap.length)).countP (taken bitmap)

section
variable {bitmap : Bytes} {index : Nat}

theorem isSet_taken : isSet bitmap index = taken bitmap index := isSet_eq bitmap index
theorem ones_eq (byte : Byte) : ones byte = (List.range 8).countP byte.getLsbD := by
  revert byte
  decide +kernel

theorem ones_population (bitmap : Bytes) : (bitmap.map ones).sum = population bitmap := by
  induction bitmap with
  | nil => rfl
  | cons byte rest ih =>
    have length : 8 * (byte :: rest).length = 8 + 8 * rest.length := by
      rw [List.length_cons]
      omega
    have head : (List.range 8).countP byte.getLsbD = (List.range 8).countP (taken (byte :: rest)) := by
      refine List.countP_congr fun i listed => ?_
      have small := List.mem_range.mp listed
      have first : i / 8 = 0 := by omega
      have same : i % 8 = i := by omega
      rw [taken,first,same]
      rfl
    have tail (i : Nat) : taken (byte :: rest) (8 + i) = taken rest i := by
      have next : (8 + i) / 8 = i / 8 + 1 := by omega
      have same : (8 + i) % 8 = i % 8 := by omega
      rw [taken,taken,next,same,List.getD_cons_succ]
    rw [List.map_cons,List.sum_cons,ih,ones_eq,head,population,population,length,List.range_add,List.countP_append,
      List.countP_map]
    exact congrArg _ (List.countP_congr fun i _ => by rw [Function.comp_apply,tail])

theorem population_card (bitmap : Bytes) :
    population bitmap = ((Finset.range (8 * bitmap.length)).filter fun i => taken bitmap i = true).card := by
  simp [population,List.countP_eq_length_filter,Finset.card,Finset.filter,Finset.range_val,Multiset.range]

theorem population_set (inside : index / 8 < bitmap.length) (free : taken bitmap index = false) :
    population (Bitmap.set bitmap index) = population bitmap + 1 := by
  rw [population_card,population_card,length_set,← Finset.card_insert_of_notMem (a := index)]
  · congr 1
    ext j
    rw [Finset.mem_insert,Finset.mem_filter,Finset.mem_filter,Finset.mem_range,← isSet_taken,
        isSet_set inside,isSet_taken,
      Bool.or_eq_true,decide_eq_true_eq]
    constructor
    · rintro ⟨there,old | same⟩
      · exact .inr ⟨there,old⟩
      · exact .inl same
    · rintro (rfl | ⟨there,old⟩)
      · exact ⟨by omega,.inr rfl⟩
      · exact ⟨there,.inl old⟩
  · rw [Finset.mem_filter,free]
    exact fun both => Bool.false_ne_true both.2

theorem population_clear (inside : index / 8 < bitmap.length) (held : taken bitmap index = true) :
    population (Bitmap.clear bitmap index) + 1 = population bitmap := by
  have member : index ∈ (Finset.range (8 * bitmap.length)).filter fun i => taken bitmap i = true :=
    Finset.mem_filter.mpr ⟨Finset.mem_range.mpr (by omega),held⟩
  rw [population_card,population_card,length_clear,← Finset.card_erase_add_one member]
  congr 2
  ext j
  rw [Finset.mem_erase,Finset.mem_filter,Finset.mem_filter,← isSet_taken,isSet_clear,isSet_taken,Bool.and_eq_true,
    Bool.not_eq_true',decide_eq_false_iff_not]
  exact ⟨fun ⟨there,old,apart⟩ => ⟨apart,there,old⟩,fun ⟨apart,there,old⟩ => ⟨there,old,apart⟩⟩

end

/-- What is wanted of an allocator, whatever is drawn. -/
structure Correct (a : Allocator) : Prop where
  allocates : ∀ draws index after, allocate32 a draws = .ok (index,after) → ∃ i : Nat, index = i ∧ i < a.capacity ∧
    taken a.bitmap i = false ∧ (∀ j, taken after.bitmap j = (taken a.bitmap j || decide (j = i))) ∧
    after.allocatedCount = a.allocatedCount + 1
  throws : ∀ draws, (∃ error, allocate32 a draws = .error error) ↔ ∀ i < a.capacity, taken a.bitmap i = true
  releases : ∀ i < a.capacity, ∃ after, release32 a (i : Nat) = .ok after ∧
    ∀ j, taken after.bitmap j = (taken a.bitmap j && !decide (j = i))
  counts : a.allocatedCount = population a.bitmap
  exported : Allocator.ofBytes a.capacity a.bitmap = a

/-- The bits taken are within the capacity, and counted. -/
structure Proper (a : Allocator) : Prop where
  positive : 0 < a.capacity
  small : a.capacity ≤ 2 ^ 31
  bytes : a.bitmap.length = (a.capacity + 7) / 8
  inside : ∀ i, taken a.bitmap i = true → i < a.capacity
  counts : a.allocatedCount = population a.bitmap

section
variable {a after : Allocator} {draws : Nat → Nat} {index : Nat}

theorem Proper.byte (proper : Proper a) (inside : index < a.capacity) : index / 8 < a.bitmap.length := by
  have := proper.bytes
  omega

theorem Proper.full_iff (proper : Proper a) :
    a.allocatedCount = a.capacity ↔ ∀ i < a.capacity, taken a.bitmap i = true := by
  have within : ((Finset.range (8 * a.bitmap.length)).filter fun i => taken a.bitmap i = true) ⊆
      Finset.range a.capacity :=
    fun i listed => Finset.mem_range.mpr (proper.inside i (Finset.mem_filter.mp listed).2)
  rw [proper.counts,population_card]
  constructor
  · intro all i below
    have same := Finset.eq_of_subset_of_card_le within (by rw [all,Finset.card_range])
    have listed := Finset.mem_range.mpr below
    rw [← same] at listed
    exact (Finset.mem_filter.mp listed).2
  · intro all
    rw [Finset.Subset.antisymm within,Finset.card_range]
    intro i listed
    have below := Finset.mem_range.mp listed
    have byte := proper.byte below
    exact Finset.mem_filter.mpr ⟨Finset.mem_range.mpr (by omega),all i below⟩

theorem mem_scan_of_free (draw : Nat) (byte : index / 8 < a.bitmap.length) (free : taken a.bitmap index = false) :
    index ∈ a.scan draw := by
  have positive : 0 < a.bitmap.length := Nat.lt_of_le_of_lt (Nat.zero_le _) byte
  have start := Nat.mod_lt draw positive
  -- the distance from the first byte to this one
  obtain ⟨i,near,at_⟩ : ∃ i < a.bitmap.length, (draw % a.bitmap.length + i) % a.bitmap.length = index / 8 := by
    by_cases later : draw % a.bitmap.length ≤ index / 8
    · refine ⟨index / 8 - draw % a.bitmap.length,by omega,?_⟩
      rw [Nat.add_sub_cancel' later,Nat.mod_eq_of_lt byte]
    · refine ⟨a.bitmap.length - draw % a.bitmap.length + index / 8,by omega,?_⟩
      have around : draw % a.bitmap.length + (a.bitmap.length - draw % a.bitmap.length + index / 8) =
          index / 8 + a.bitmap.length := by omega
      rw [around,Nat.add_mod_right,Nat.mod_eq_of_lt byte]
  refine List.mem_flatMap.mpr ⟨i,List.mem_range.mpr near,?_⟩
  dsimp only
  rw [at_,if_pos]
  · exact List.mem_map.mpr ⟨index % 8,List.mem_range.mpr (Nat.mod_lt _ (by decide)),by omega⟩
  · intro full
    rw [taken,full] at free
    have small : index % 8 < 8 := Nat.mod_lt _ (by decide)
    interval_cases index % 8 <;> exact absurd free (by decide)

theorem allocate_count (allocated : a.allocate draws = .ok (index,after)) :
    after.allocatedCount = a.allocatedCount + 1 ∧ after.capacity = a.capacity := by
  rw [Allocator.allocate] at allocated
  split at allocated
  · cases allocated
  split at allocated
  · cases allocated
    exact ⟨rfl,rfl⟩
  split at allocated
  · cases allocated
    exact ⟨rfl,rfl⟩
  · cases allocated

theorem allocate_error (proper : Proper a) :
    (∃ error, a.allocate draws = .error error) ↔ ∀ i < a.capacity, taken a.bitmap i = true := by
  constructor
  · rintro ⟨error,thrown⟩
    rw [Allocator.allocate] at thrown
    split at thrown
    · rename_i full
      exact proper.full_iff.mp full
    split at thrown
    · cases thrown
    split at thrown
    · cases thrown
    · rename_i nothing
      intro i below
      cases free : taken a.bitmap i with
      | true => rfl
      | false =>
        have passed := List.find?_eq_none.mp nothing i (mem_scan_of_free _ (proper.byte below) free)
        simp [below,isSet_taken,free] at passed
  · intro all
    exact ⟨_,if_pos (proper.full_iff.mpr all)⟩

theorem Proper.allocates (proper : Proper a) (allocated : a.allocate draws = .ok (index,after)) :
    index < a.capacity ∧ taken a.bitmap index = false ∧
      (∀ j, taken after.bitmap j = (taken a.bitmap j || decide (j = index))) ∧ Proper after := by
  obtain ⟨below,free,bits⟩ := allocate_ok proper.positive allocated
  obtain ⟨count,capacity⟩ := allocate_count allocated
  rw [isSet_taken] at free
  have byte := proper.byte below
  have each (j : Nat) : taken after.bitmap j = (taken a.bitmap j || decide (j = index)) := by
    rw [← isSet_taken,bits,isSet_set byte,isSet_taken]
  refine ⟨below,free,each,capacity ▸ proper.positive,capacity ▸ proper.small,?_,fun i held => ?_,?_⟩
  · rw [bits,length_set,capacity,proper.bytes]
  · rw [each,Bool.or_eq_true,decide_eq_true_eq] at held
    rw [capacity]
    rcases held with old | rfl
    · exact proper.inside i old
    · exact below
  · rw [bits,population_set byte free,count,proper.counts]

theorem Proper.releases (proper : Proper a) (below : index < a.capacity) : ∃ after, a.release index = .ok after ∧
    (∀ j, taken after.bitmap j = (taken a.bitmap j && !decide (j = index))) ∧ Proper after := by
  have inside : ¬((index : Int) < 0 ∨ (a.capacity : Int) ≤ index) := by omega
  have byte := proper.byte below
  rw [Allocator.release,if_neg inside,Int.toNat_natCast]
  by_cases held : taken a.bitmap index = true
  · have each (j : Nat) : taken (Bitmap.clear a.bitmap index) j = (taken a.bitmap j && !decide (j = index)) := by
      rw [← isSet_taken,isSet_clear,isSet_taken]
    have fewer := population_clear byte held
    refine ⟨_,if_pos (isSet_taken.trans held),each,proper.positive,proper.small,?_,fun i held' => ?_,?_⟩
    · rw [length_clear,proper.bytes]
    · rw [each,Bool.and_eq_true] at held'
      exact proper.inside i held'.1
    · show a.allocatedCount - 1 = population (Bitmap.clear a.bitmap index)
      rw [proper.counts]
      omega
  · refine ⟨a,if_neg (isSet_taken ▸ held),fun j => ?_,proper⟩
    by_cases same : j = index
    · rw [same,Bool.eq_false_of_not_eq_true held]
      rfl
    · simp [same]

theorem Proper.correct (proper : Proper a) : Correct a where
  allocates draws index after allocated := by
    rw [allocate32_eq proper.positive proper.small proper.bytes] at allocated
    cases found : a.allocate draws with
    | error error =>
      rw [found] at allocated
      cases allocated
    | ok given =>
      rw [found] at allocated
      cases allocated
      obtain ⟨below,free,each,-⟩ := proper.allocates found
      exact ⟨given.1,rfl,below,free,each,(allocate_count found).1⟩
  throws draws := by
    rw [← @allocate_error a draws proper,allocate32_eq proper.positive proper.small proper.bytes]
    cases a.allocate draws with
    | error error => exact iff_of_true ⟨error,rfl⟩ ⟨error,rfl⟩
    | ok given => exact iff_of_false nofun nofun
  releases i below := by
    obtain ⟨after,released,each,-⟩ := proper.releases below
    exact ⟨after,(release32_eq below proper.small).trans released,each⟩
  counts := proper.counts
  exported := by
    rw [Allocator.ofBytes,ones_population,← proper.counts]

theorem step_proper {action : Action} (proper : Proper a) (taken_ : step a action = some after) :
    Proper after ∧ after.capacity = a.capacity := by
  cases action with
  | allocate draws =>
    simp only [step,allocate32_eq proper.positive proper.small proper.bytes] at taken_
    cases found : a.allocate draws with
    | error error =>
      rw [found] at taken_
      exact Option.some.inj taken_ ▸ ⟨proper,rfl⟩
    | ok given =>
      rw [found] at taken_
      exact Option.some.inj taken_ ▸ ⟨(proper.allocates found).2.2.2,(allocate_count found).2⟩
  | release i =>
    simp only [step] at taken_
    by_cases outside : i < 0 ∨ a.capacity ≤ i
    · rw [release32,if_pos outside] at taken_
      exact Option.some.inj taken_ ▸ ⟨proper,rfl⟩
    · obtain ⟨index,rfl⟩ := Int.eq_ofNat_of_zero_le (show 0 ≤ i by omega)
      have below : index < a.capacity := by omega
      obtain ⟨next,released,-,kept⟩ := proper.releases below
      rw [release32_eq below proper.small,released] at taken_
      obtain rfl := Option.some.inj taken_
      refine ⟨kept,?_⟩
      rw [Allocator.release,if_neg outside] at released
      split at released <;> cases released <;> rfl

theorem ofBytes_proper {capacity : Nat} {existing : Bytes} (positive : 1 ≤ capacity) (small : capacity ≤ 2 ^ 31)
    (bytes : existing.length = (capacity + 7) / 8) (inside : ∀ i, taken existing i = true → i < capacity) :
    Proper (.ofBytes capacity existing) :=
  ⟨positive,small,bytes,inside,ones_population existing⟩
end

/-- Every allocator that is reached from one of at most 2 ^ 31 indexes is correct. -/
theorem allocator_correct {capacity : Nat} {existing : Bytes} {actions : List Action} {a : Allocator}
    (positive : 1 ≤ capacity)
    (small : capacity ≤ 2 ^ 31) (bytes : existing.length = (capacity + 7) / 8)
    (inside : ∀ i, taken existing i = true → i < capacity)
    (reached : run step (.ofBytes capacity existing) actions = some a) : a.capacity = capacity ∧ Correct a := by
  have each (b : Allocator) (action : Action) (next : Allocator) (holds : Proper b ∧ b.capacity = capacity)
      (moved : step b action = some next) : Proper next ∧ next.capacity = capacity := by
    obtain ⟨proper,same⟩ := step_proper holds.1 moved
    exact ⟨proper,same.trans holds.2⟩
  have first := ofBytes_proper positive small bytes inside
  have kept := run_keeps each ⟨first,rfl⟩ reached
  exact ⟨kept.2,kept.1.correct⟩

/-- Ten indexes, of which one is taken from the start. -/
theorem ten_indexes_correct :
    ∃ a, run step (.ofBytes 10 [0b1#8,0#8]) [.allocate fun i => i,.release 0,.release 99] = some a ∧
    a.capacity = 10 ∧ Correct a := by
  obtain ⟨a,reached⟩ := Option.isSome_iff_exists.mp (show (run step (.ofBytes 10 [0b1#8,0#8])
    [.allocate fun i => i,.release 0,.release 99]).isSome = true by decide +kernel)
  refine ⟨a,reached,allocator_correct (by decide) (by decide) rfl (fun i held => ?_) reached⟩
  by_contra beyond
  obtain ⟨n,next⟩ := Nat.exists_eq_add_of_le (show 1 ≤ i / 8 by omega)
  rw [taken,next,Nat.add_comm] at held
  cases n with
  | zero => simp at held
  | succ n => simp at held

/-- `2147483648 >> 3` is negative, where the array has no byte. -/
theorem incorrect_beyond {capacity : Nat} (beyond : 2 ^ 31 < capacity) :
    ¬Correct (.ofBytes capacity (blank capacity)) := by
  intro correct
  have clear (index : Nat) : taken (blank capacity) index = false := by rw [← isSet_taken,isSet_blank]
  have outside : ¬0 ≤ byteIndex (2 ^ 31 : Nat) := by decide +kernel
  have unset : isSet32 (blank capacity) (2 ^ 31 : Nat) = false := by
    rw [isSet32,byteAt,if_neg outside]
    decide +kernel
  have unchanged : set32 (blank capacity) (2 ^ 31 : Nat) = blank capacity := by
    rw [set32,changeByte,if_neg outside]
  have none_ : (Allocator.ofBytes capacity (blank capacity)).allocatedCount ≠
      (Allocator.ofBytes capacity (blank capacity)).capacity := by
    show ((blank capacity).map ones).sum ≠ capacity
    rw [ones_population,population,List.countP_eq_zero.mpr fun i _ => by rw [clear i]; exact Bool.false_ne_true]
    omega
  have drawn : ((Allocator.ofBytes capacity (blank capacity)).attempts fun _ => 2 ^ 31).map Int.ofNat =
      ((2 ^ 31 : Nat) : Int) :: List.replicate 31 ((2 ^ 31 : Nat) : Int) := by
    show ((List.range 32).map fun _ => 2 ^ 31 % capacity).map Int.ofNat = _
    rw [Nat.mod_eq_of_lt beyond,List.map_const',List.length_range,List.map_replicate]
    rfl
  have allocated : allocate32 (.ofBytes capacity (blank capacity)) (fun _ => 2 ^ 31) =
      .ok ((2 ^ 31 : Nat),take32 (.ofBytes capacity (blank capacity)) (2 ^ 31 : Nat)) := by
    have first : (!isSet32 (Allocator.ofBytes capacity (blank capacity)).bitmap (2 ^ 31 : Nat)) = true := by
      rw [Bool.not_eq_true']
      exact unset
    rw [allocate32,if_neg none_,drawn,List.find?_cons,first]
  obtain ⟨i,same,-,-,each,-⟩ := correct.allocates _ _ _ allocated
  obtain rfl : i = 2 ^ 31 := Int.ofNat.inj same.symm
  have held : taken (set32 (blank capacity) (2 ^ 31 : Nat))
      (2 ^ 31) = (taken (blank capacity) (2 ^ 31) || decide (2 ^ 31 = 2 ^ 31)) :=
    each (2 ^ 31)
  rw [unchanged,clear] at held
  exact absurd held (by decide)

/-- With 2^31 + 1 entries the index 2^31 is given out, and no bit records it. -/
theorem index_without_bit : ∃ capacity existing, 1 ≤ capacity ∧ existing.length = (capacity + 7) / 8 ∧
    (∀ i, taken existing i = true → i < capacity) ∧ ¬Correct (.ofBytes capacity existing) := by
  refine ⟨2 ^ 31 + 1,blank (2 ^ 31 + 1),by decide,by rw [blank,List.length_replicate],fun i held => ?_,
    incorrect_beyond (by decide)⟩
  rw [← isSet_taken,isSet_blank] at held
  cases held

end Ngotag.BitmapAllocator
