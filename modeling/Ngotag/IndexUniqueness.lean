import Ngotag.StatusLists

/-!
Indexes under concurrency. A transaction reads the bitmap of a list, changes one
bit and writes the whole bitmap back. Where the row it overwrites still has the
bitmap it read, the stored bitmaps say exactly which indexes are taken and no
index is taken twice (`indexes_unique`). Nothing makes it so: two transactions
that read before either writes can take the same index (`index_taken_twice`).
-/
namespace Ngotag.IndexUniqueness
open Runs Await Bitmap StatusLists

section
variable {table other : Table} {writes : List Write} {write : Write} {key : Nat}

theorem lookup_apply : (Write.apply table write).lookup key =
    if write.key = key then write.onRow (table.lookup key) else table.lookup key := by
  rw [Write.apply]
  by_cases same : write.key = key
  · subst same
    rw [if_pos rfl]
    cases made : write.onRow (table.lookup write.key) with
    | some row => simp
    | none =>
      cases write with
      | create key row => cases made
      | deactivate key => exact Option.map_eq_none_iff.mp made
      | store key bitmap count => exact Option.map_eq_none_iff.mp made
  · rw [if_neg same]
    cases write.onRow (table.lookup write.key) with
    | some row => exact AList.lookup_insert_ne (Ne.symm same)
    | none => rfl

theorem lookup_view : (view table writes).lookup key =
    writes.foldl (fun row write => if write.key = key then write.onRow row else row) (table.lookup key) := by
  induction writes generalizing table with
  | nil => rfl
  | cons write rest ih => rw [view,List.foldl_cons,List.foldl_cons,← view,ih,lookup_apply]
theorem view_congr (same : table.lookup key = other.lookup key) :
    (view table writes).lookup key = (view other writes).lookup key := by
  rw [lookup_view,lookup_view,same]
theorem view_untouched (untouched : ∀ write ∈ writes, write.key ≠ key) :
    (view table writes).lookup key = table.lookup key := by
  rw [lookup_view]
  generalize table.lookup key = row
  induction writes generalizing row with
  | nil => rfl
  | cons write rest ih =>
    rw [List.foldl_cons,if_neg (untouched write List.mem_cons_self)]
    exact ih (fun later member => untouched later (List.mem_cons_of_mem _ member)) row
theorem view_append : (view table (writes ++ [write])).lookup key =
    if write.key = key then write.onRow ((view table writes).lookup key) else (view table writes).lookup key := by
  rw [view,List.foldl_append,List.foldl_cons,List.foldl_nil,← view,lookup_apply]

theorem view_isSome (present : (table.lookup key).isSome) : ((view table writes).lookup key).isSome := by
  induction writes generalizing table with
  | nil => exact present
  | cons write rest ih =>
    rw [view,List.foldl_cons,← view]
    apply ih
    rw [lookup_apply]
    split
    · obtain ⟨row,found⟩ := Option.isSome_iff_exists.mp present
      rw [found]
      cases write <;> rfl
    · exact present

end

/-- The bitmap of a list says which of its indexes are taken. -/
structure Marks (live : List (Nat × Nat)) (key : Nat) (row : Row) : Prop where
  positive : 0 < row.listSize
  wide : row.bitmap.length = (row.listSize + 7) / 8
  bits : ∀ i, isSet row.bitmap i = true ↔ (key,i) ∈ live

/-- Every list says what is taken of it, a taken index belongs to one allocation,
    and a row is locked while an open transaction has written it. -/
structure Exact (w : World) : Prop where
  marks : ∀ key row, w.committed.lookup key = some row → Marks w.live key row
  known : ∀ key i, (key,i) ∈ w.live → (w.committed.lookup key).isSome
  once : w.live.Nodup
  locked : ∀ process key, w.lock key = some process ↔
    ∃ writes, w.txn process = some writes ∧ ∃ write ∈ writes, write.key = key
  drawn : ∀ key, (w.committed.lookup key).isSome → key ∈ w.used
  held : ∀ process key, w.lock key = some process → key ∈ w.used

/-- What the others keep for an open transaction: the rows it has locked. -/
def Undisturbed (process : Nat) (a b : World) : Prop :=
  b.txn process = none ∨ b.txn process = a.txn process ∧ ∀ key,
    (b.lock key = some process ↔ a.lock key = some process) ∧
      (a.lock key = some process → b.committed.lookup key = a.committed.lookup key ∧
        ∀ i, (key,i) ∈ b.live ↔ (key,i) ∈ a.live)
def unmoved (process : Nat) (c : Cmd) (w : World) : Prop :=
  match c with
  | .store key read _ _ => ∀ writes ∈ w.txn process, ∀ current ∈ (view w.committed writes).lookup key,
      current.bitmap = read.bitmap
  | _ => True

instance (process : Nat) (c : Cmd) (w : World) : Decidable (unmoved process c w) :=
  match c with
  | .store key read _ _ => inferInstanceAs (Decidable (∀ writes ∈ w.txn process,
      ∀ current ∈ (view w.committed writes).lookup key, current.bitmap = read.bitmap))
  | .begin => isTrue trivial
  | .findFirst _ _ => isTrue trivial
  | .findUnique _ => isTrue trivial
  | .deactivate _ => isTrue trivial
  | .create _ => isTrue trivial
  | .draw => isTrue trivial
  | .commit _ => isTrue trivial
  | .rollback => isTrue trivial

def contract : Contract Cmd World Choice Env where
  inv := Exact
  rely := Undisturbed
  idle process w := w.txn process = none
  allowed process c _ w := unmoved process c w
  happens _ _ := True

section
variable {process : Nat} {a b w : World} {change : Change} {live : List (Nat × Nat)} {key : Nat}

theorem undisturbed_refl : Undisturbed process a a := .inr ⟨rfl,fun _ => ⟨Iff.rfl,fun _ => ⟨rfl,fun _ => Iff.rfl⟩⟩⟩
theorem undisturbed_trans {c : World} (first : Undisturbed process a b) (second : Undisturbed process b c) :
    Undisturbed process a c := by
  rcases second with gone | ⟨same,later⟩
  · exact .inl gone
  rcases first with gone | ⟨same',earlier⟩
  · exact .inl (same.trans gone)
  refine .inr ⟨same.trans same',fun key => ⟨(later key).1.trans (earlier key).1,fun held => ?_⟩⟩
  obtain ⟨row,taken⟩ := (earlier key).2 held
  obtain ⟨row',taken'⟩ := (later key).2 ((earlier key).1.mpr held)
  exact ⟨row'.trans row,fun i => (taken' i).trans (taken i)⟩

def touches (change : Change) (key : Nat) : Prop :=
  match change with
  | .allocated k _ => k = key
  | .released k _ => k = key
  | .nothing => False

theorem mem_change (untouched : ¬touches change key) (i : Nat) : (key,i) ∈ change.apply live ↔ (key,i) ∈ live := by
  cases change with
  | allocated k index =>
    have different : key ≠ k := fun same => untouched same.symm
    simp [Change.apply,different]
  | released k index =>
    have different : key ≠ k := fun same => untouched same.symm
    simp [Change.apply,different]
  | nothing => exact Iff.rfl
theorem change_congr {live' : List (Nat × Nat)} (same : ∀ i, (key,i) ∈ live' ↔ (key,i) ∈ live) (i : Nat) :
    (key,i) ∈ change.apply live' ↔ (key,i) ∈ change.apply live := by
  cases change with
  | allocated k index => simp only [Change.apply,List.mem_cons,same]
  | released k index => simp only [Change.apply,List.mem_filter,same]
  | nothing => exact same i
theorem marks_congr {live' : List (Nat × Nat)} {row : Row} (same : ∀ i, (key,i) ∈ live' ↔ (key,i) ∈ live)
    (marks : Marks live key row) : Marks live' key row :=
  ⟨marks.positive,marks.wide,fun i => (marks.bits i).trans (same i).symm⟩

/-- A transaction whose rows are as they should be once the change is committed. -/
structure Ready (process : Nat) (change : Change) (writes : List Write) (w : World) : Prop where
  marks : ∀ key row, w.lock key = some process → (view w.committed writes).lookup key = some row →
    Marks (change.apply w.live) key row
  own : ∀ key, touches change key → w.lock key = some process ∧ ((view w.committed writes).lookup key).isSome
  fresh : ∀ key index, change = .allocated key index → (key,index) ∉ w.live
/-- The same, where the transaction is still open. -/
def Prepared (process : Nat) (change : Change) (w : World) : Prop :=
  ∀ writes, w.txn process = some writes → Ready process change writes w

theorem prepared_stable (prepared : Prepared process change a) (kept : Undisturbed process a b) :
    Prepared process change b := by
  intro writes opened
  rcases kept with gone | ⟨same,rows⟩
  · rw [gone] at opened; cases opened
  have ready := prepared writes (same ▸ opened)
  have seen : ∀ key, a.lock key = some process →
      (view b.committed writes).lookup key = (view a.committed writes).lookup key :=
    fun key held => view_congr ((rows key).2 held).1
  refine ⟨?_,?_,?_⟩
  · intro key row held found
    have held' := (rows key).1.mp held
    exact marks_congr (change_congr ((rows key).2 held').2) (ready.marks key row held' (seen key held' ▸ found))
  · intro key touched
    obtain ⟨held,present⟩ := ready.own key touched
    exact ⟨(rows key).1.mpr held,seen key held ▸ present⟩
  · rintro key index rfl member
    obtain ⟨held,-⟩ := ready.own key rfl
    exact ready.fresh key index rfl (((rows key).2 held).2 index |>.mp member)

variable {writes : List Write} {write : Write}
theorem unwritten (exact_ : Exact w) (opened : w.txn process = some writes) (free : w.lock key ≠ some process) :
    (view w.committed writes).lookup key = w.committed.lookup key :=
  view_untouched fun write member same => free ((exact_.locked process key).mpr ⟨writes,opened,write,member,same⟩)
theorem marks_view (exact_ : Exact w) (opened : w.txn process = some writes) (prepared : Prepared process .nothing w)
    {row : Row} (found : (view w.committed writes).lookup key = some row) : Marks w.live key row := by
  by_cases held : w.lock key = some process
  · exact (prepared writes opened).marks key row held found
  · rw [unwritten exact_ opened held] at found
    exact exact_.marks key row found
theorem used_of_view (exact_ : Exact w) (opened : w.txn process = some writes)
    (present : ((view w.committed writes).lookup key).isSome) : key ∈ w.used := by
  by_cases held : w.lock key = some process
  · exact exact_.held process key held
  · rw [unwritten exact_ opened held] at present
    exact exact_.drawn key present

theorem close_exact (exact_ : Exact w) : Exact (w.close process) := by
  refine ⟨exact_.marks,exact_.known,exact_.once,?_,exact_.drawn,?_⟩
  · intro other key
    by_cases same : other = process
    · subst same
      simp only [World.close,Function.update_self]
      constructor
      · intro held
        split at held
        · cases held
        · rename_i free; exact absurd held free
      · rintro ⟨_,opened,_⟩; cases opened
    · simp only [World.close,Function.update_of_ne same]
      rw [← exact_.locked other key]
      split
      · rename_i held
        rw [held]
        constructor
        · rintro ⟨⟩
        · intro equal; exact absurd (Option.some.inj equal).symm same
      · exact Iff.rfl
  · intro other key held
    simp only [World.close] at held
    split at held
    · cases held
    · exact exact_.held other key held

theorem close_undisturbed {other : Nat} (different : other ≠ process) : Undisturbed other w (w.close process) := by
  refine .inr ⟨Function.update_of_ne different _ _,fun key => ⟨?_,fun _ => ⟨rfl,fun _ => Iff.rfl⟩⟩⟩
  simp only [World.close]
  split
  · rename_i held
    rw [held]
    constructor
    · rintro ⟨⟩
    · intro equal; exact absurd (Option.some.inj equal).symm different
  · exact Iff.rfl
theorem close_gone : (w.close process).txn process = none := Function.update_self ..
theorem used_exact (exact_ : Exact w) : Exact { w with used := key :: w.used } :=
  ⟨exact_.marks,exact_.known,exact_.once,exact_.locked,
    fun other present => List.mem_cons_of_mem _ (exact_.drawn other present),
    fun process other held => List.mem_cons_of_mem _ (exact_.held process other held)⟩

section
variable (opened : w.txn process = some writes) (free : w.lock write.key = none ∨ w.lock write.key = some process)
include free

theorem write_lock {other : Nat} (different : other ≠ process) (key : Nat) :
    (w.write process writes write).lock key = some other ↔ w.lock key = some other := by
  by_cases same : key = write.key
  · subst same
    simp only [World.write,Function.update_self]
    constructor
    · intro equal; exact absurd (Option.some.inj equal).symm different
    · intro held
      rcases free with none | own
      · rw [none] at held; cases held
      · rw [own] at held; exact absurd (Option.some.inj held).symm different
  · simp only [World.write,Function.update_of_ne same]

theorem write_undisturbed {other : Nat} (different : other ≠ process) :
    Undisturbed other w (w.write process writes write) :=
  .inr ⟨Function.update_of_ne different _ _,
    fun key => ⟨write_lock free different key,fun _ => ⟨rfl,fun _ => Iff.rfl⟩⟩⟩

include opened
theorem write_exact (exact_ : Exact w) (drawn : write.key ∈ w.used) : Exact (w.write process writes write) := by
  refine ⟨exact_.marks,exact_.known,exact_.once,?_,exact_.drawn,?_⟩
  · intro other key
    by_cases own : other = process
    · subst own
      simp only [World.write,Function.update_self,Option.some.injEq,exists_eq_left',List.mem_append,List.mem_singleton]
      by_cases same : key = write.key
      · subst same
        simp only [Function.update_self,true_iff]
        exact ⟨write,.inr rfl,rfl⟩
      · rw [Function.update_of_ne same,exact_.locked other key]
        simp only [opened,Option.some.injEq,exists_eq_left']
        constructor
        · rintro ⟨earlier,member,at_⟩; exact ⟨earlier,.inl member,at_⟩
        · rintro ⟨earlier,member | rfl,at_⟩
          · exact ⟨earlier,member,at_⟩
          · exact absurd at_.symm same
    · rw [write_lock free own key,exact_.locked other key]
      simp only [World.write,Function.update_of_ne own]
  · intro other key held
    by_cases same : key = write.key
    · exact same ▸ drawn
    · simp only [World.write,Function.update_of_ne same] at held
      exact exact_.held other key held

end

theorem write_prepared (write : Write) (opened : w.txn process = some writes) (prepared : Prepared process .nothing w)
    (only : ∀ key, touches change key → key = write.key)
    (present : (write.onRow ((view w.committed writes).lookup write.key)).isSome)
    (row : ∀ row, write.onRow ((view w.committed writes).lookup write.key) = some row →
      Marks (change.apply w.live) write.key row)
    (fresh : ∀ key index, change = .allocated key index → (key,index) ∉ w.live) :
    Prepared process change (w.write process writes write) := by
  have ready := prepared writes opened
  intro writes' opened'
  simp only [World.write,Function.update_self,Option.some.injEq] at opened'
  subst opened'
  refine ⟨?_,?_,fresh⟩
  · intro key made held found
    simp only [World.write] at held found ⊢
    rw [view_append] at found
    by_cases same : write.key = key
    · subst same
      rw [if_pos rfl] at found
      exact row made found
    · rw [if_neg same] at found
      rw [Function.update_of_ne (Ne.symm same)] at held
      exact marks_congr (mem_change fun touched => same (only key touched).symm) (ready.marks key made held found)
  · intro key touched
    have same := only key touched
    subst same
    simp only [World.write,Function.update_self,view_append,if_true]
    exact ⟨trivial,present⟩

section
variable (exact_ : Exact w) (opened : w.txn process = some writes) (ready : Ready process change writes w)
include exact_ opened ready

theorem commit_exact : Exact (w.commit process writes change) := by
  have closed : Exact (w.close process) := close_exact exact_
  refine ⟨?_,?_,?_,closed.locked,?_,closed.held⟩
  · intro key row found
    simp only [World.commit] at found ⊢
    by_cases own : w.lock key = some process
    · exact ready.marks key row own found
    · rw [unwritten exact_ opened own] at found
      exact marks_congr (mem_change fun touched => own (ready.own key touched).1) (exact_.marks key row found)
  · intro key i member
    simp only [World.commit] at member ⊢
    by_cases touched : touches change key
    · exact (ready.own key touched).2
    · exact view_isSome (exact_.known key i ((mem_change touched i).mp member))
  · cases change with
    | allocated key index => exact List.nodup_cons.mpr ⟨ready.fresh key index rfl,exact_.once⟩
    | released key index => exact exact_.once.filter _
    | nothing => exact exact_.once
  · exact fun key present => used_of_view (w := w) exact_ opened present

theorem commit_undisturbed {other : Nat} (different : other ≠ process) :
    Undisturbed other w (w.commit process writes change) := by
  rcases close_undisturbed (w := w) different with gone | ⟨same,rows⟩
  · exact .inl gone
  refine .inr ⟨same,fun key => ⟨(rows key).1,fun held => ?_⟩⟩
  have free : w.lock key ≠ some process := by
    rw [held]
    exact fun equal => different (Option.some.inj equal)
  exact ⟨unwritten exact_ opened free,mem_change fun touched => free (ready.own key touched).1⟩

end

/-- The row a transaction read is one an index can be taken from. -/
def Usable (row : Row) : Prop := 0 < row.listSize ∧ row.bitmap.length = (row.listSize + 7) / 8

theorem sizeOf_pos (listSize : Option Nat) : 0 < StatusLists.sizeOf listSize := by
  cases listSize with
  | none => exact Nat.succ_pos _
  | some n =>
    cases n with
    | zero => exact Nat.succ_pos _
    | succ n => exact Nat.succ_pos _
theorem blank_marks {row : Row} (size : 0 < row.listSize) (empty : row.bitmap = blank row.listSize)
    (untaken : ∀ i, (key,i) ∉ live) : Marks live key row := by
  refine ⟨size,?_,fun i => ?_⟩
  · rw [empty,blank,List.length_replicate]
  · rw [empty,isSet_blank]
    constructor
    · rintro ⟨⟩
    · exact fun member => absurd member (untaken i)

/-- The bitmap that is written back is the one that was read, with the change. -/
structure Effect (change : Change) (key : Nat) (before after : Bytes) : Prop where
  about : touches change key
  length : after.length = before.length
  bits : ∀ live, (∀ i, isSet before i = true ↔ (key,i) ∈ live) → ∀ i, isSet after i = true ↔ (key,i) ∈ change.apply live
  fresh : ∀ index, change = .allocated key index → isSet before index = false

theorem allocate_effect {row : Row} {after : Allocator} {draws : Nat → Nat} {index : Nat} (usable : Usable row)
    (allocated : (Allocator.ofBytes row.listSize row.bitmap).allocate draws = .ok (index,after)) :
    Effect (.allocated key index) key row.bitmap after.bitmap := by
  obtain ⟨inside,unset,made⟩ := allocate_ok usable.1 allocated
  change index < row.listSize at inside
  change isSet row.bitmap index = false at unset
  change after.bitmap = set row.bitmap index at made
  have byte : index / 8 < row.bitmap.length := by
    rw [usable.2]
    omega
  refine ⟨rfl,?_,?_,?_⟩
  · rw [made,length_set]
  · intro live bits i
    rw [made,isSet_set byte]
    simp only [Bool.or_eq_true,bits i,decide_eq_true_eq,Change.apply,List.mem_cons,Prod.mk.injEq,true_and]
    exact Or.comm
  · rintro _ ⟨⟩
    exact unset

theorem release_effect {row : Row} {after : Allocator} {index : Int}
    (released : (Allocator.ofBytes row.listSize row.bitmap).release index = .ok after) :
    Effect (.released key index) key row.bitmap after.bitmap := by
  obtain ⟨length,bits⟩ := release_ok released
  refine ⟨rfl,length,?_,?_⟩
  · intro live taken i
    rw [bits i]
    change (isSet row.bitmap i && !decide (i = index.toNat)) = true ↔ _
    simp [taken i,Change.apply]
  · rintro _ ⟨⟩

end
section
variable {process key : Nat} {w : World}

theorem update_cases {write : Write} {after : World} {answer : Except Failure Unit}
    (updated : update process write w = some (after,answer)) :
    (after = w ∧ answer = .error .database) ∨
      ∃ writes, w.txn process = some writes ∧ ((view w.committed writes).lookup write.key).isSome ∧
        (w.lock write.key = none ∨ w.lock write.key = some process) ∧ after = w.write process writes write ∧
        answer = .ok () := by
  simp only [update] at updated
  split at updated
  · cases updated; exact .inl ⟨rfl,rfl⟩
  rename_i writes opened
  split at updated
  · cases updated; exact .inl ⟨rfl,rfl⟩
  rename_i found
  split at updated
  · rename_i free
    cases updated
    exact .inr ⟨writes,opened,by simpa [Option.isSome_iff_ne_none] using found,free,rfl,rfl⟩
  · cases updated

theorem update_kept (write : Write) (change : Change) {before after : World} {answer : Except Failure Unit}
    (exact_ : Exact before) (prepared : Prepared process .nothing before)
    (only : ∀ key, touches change key → key = write.key)
    (row : ∀ writes current, before.txn process = some writes →
      (view before.committed writes).lookup write.key = some current → Marks before.live write.key current →
      ∃ made, write.onRow (some current) = some made ∧ Marks (change.apply before.live) write.key made ∧
        ∀ key index, change = .allocated key index → (key,index) ∉ before.live)
    (updated : update process write before = some (after,answer)) :
    Exact after ∧ (∀ other, other ≠ process → Undisturbed other before after) ∧
      (answer = .ok () ∧ Prepared process change after ∨ answer = .error .database ∧ Prepared process .nothing after) := by
  rcases update_cases updated with ⟨rfl,rfl⟩ | ⟨writes,opened,present,free,rfl,rfl⟩
  · exact ⟨exact_,fun _ _ => undisturbed_refl,.inr ⟨rfl,prepared⟩⟩
  obtain ⟨current,found⟩ := Option.isSome_iff_exists.mp present
  obtain ⟨made,becomes,marks,fresh⟩ := row writes current opened found (marks_view exact_ opened prepared found)
  refine ⟨write_exact opened free exact_ (used_of_view exact_ opened present),
    fun other different => write_undisturbed free different,.inl ⟨rfl,?_⟩⟩
  refine write_prepared write opened prepared only ?_ ?_ fresh
  · rw [found,becomes]; rfl
  · intro row equal
    rw [found,becomes,Option.some.injEq] at equal
    exact equal ▸ marks

theorem faulty {β : Type} {fault : Fault} {outcome : Option (World × Except Failure β)} {after : World}
    {answer : Except Failure β}
    (handled : (if fault = .none then outcome else some (w,.error .database)) = some (after,answer)) :
    outcome = some (after,answer) ∨ after = w ∧ answer = .error .database := by
  split at handled
  · exact .inl handled
  · cases handled
    exact .inr ⟨rfl,rfl⟩

theorem wp_deactivate (prepared : Prepared process .nothing w) :
    wp sys contract process (perform (.deactivate key)) (fun _ w => Prepared process .nothing w) w := by
  apply wp_call
  intro before relied exact_ choice after answer _ handled
  have now := prepared_stable prepared relied
  rcases faulty (β := Unit) handled with updated | ⟨rfl,rfl⟩
  · obtain ⟨kept,others,ends⟩ := update_kept (.deactivate key) .nothing exact_ now (by rintro _ ⟨⟩)
      (fun _ current _ _ marks =>
        ⟨{ current with isActive := false },rfl,⟨marks.positive,marks.wide,marks.bits⟩,by rintro _ _ ⟨⟩⟩) updated
    refine ⟨kept,others,?_⟩
    rcases ends with ⟨-,prepared'⟩ | ⟨-,prepared'⟩ <;> exact prepared'
  · exact ⟨exact_,fun _ _ => undisturbed_refl,now⟩

/-- A function that returns has prepared its change. -/
def Settled (process : Nat) {β : Type} (change : β → Change) (result : Except Failure β) (w : World) : Prop :=
  match result with
  | .ok value => Prepared process (change value) w
  | .error _ => True

theorem wp_store {change : Change} {read : Row} {bitmap : Bytes} {count : Nat}
    (effect : Effect change key read.bitmap bitmap) (prepared : Prepared process .nothing w) :
    wp sys contract process (perform (.store key read bitmap count)) (Settled process fun _ => change) w := by
  apply wp_call
  intro before relied exact_ choice after answer allowed handled
  have now := prepared_stable prepared relied
  rcases faulty (β := Unit) handled with updated | ⟨rfl,rfl⟩
  · have only : ∀ other, touches change other → other = key := by
      intro other touched
      have about := effect.about
      cases change with
      | allocated k index => exact touched.symm.trans about
      | released k index => exact touched.symm.trans about
      | nothing => cases touched
    have made : ∀ current : Row, current.bitmap = read.bitmap → Marks before.live key current →
        Marks (change.apply before.live) key { current with bitmap := bitmap, allocatedCount := count } ∧
          ∀ key index, change = .allocated key index → (key,index) ∉ before.live := by
      intro current same marks
      refine ⟨⟨marks.positive,?_,?_⟩,?_⟩
      · exact effect.length.trans (same ▸ marks.wide)
      · exact effect.bits before.live (same ▸ marks.bits)
      · rintro k index rfl member
        have about : k = key := effect.about
        subst about
        have unset := effect.fresh index rfl
        rw [← same,(marks.bits index).mpr member] at unset
        cases unset
    obtain ⟨kept,others,ends⟩ := update_kept (.store key bitmap count) change exact_ now only
      (fun writes current opened found marks => ⟨_,rfl,made current (allowed writes opened current found) marks⟩) updated
    refine ⟨kept,others,?_⟩
    rcases ends with ⟨rfl,prepared'⟩ | ⟨rfl,-⟩
    · exact prepared'
    · trivial
  · exact ⟨exact_,fun _ _ => undisturbed_refl,trivial⟩

theorem wp_create {row : Row} (size : 0 < row.listSize) (empty : row.bitmap = blank row.listSize)
    (prepared : Prepared process .nothing w) :
    wp sys contract process (perform (.create row)) (fun _ w => Prepared process .nothing w) w := by
  apply wp_call
  intro before relied exact_ choice after answer _ handled
  have now := prepared_stable prepared relied
  simp only [sys,handle] at handled
  split at handled
  · cases handled
    exact ⟨exact_,fun _ _ => undisturbed_refl,now⟩
  rename_i writes opened
  split at handled
  · split at handled
    · cases handled
    rename_i unused
    cases handled
    have unlocked : before.lock choice.key = none := by
      rw [Option.eq_none_iff_forall_ne_some]
      exact fun other held => unused (exact_.held other _ held)
    have untaken : ∀ i, (choice.key,i) ∉ before.live :=
      fun i member => unused (exact_.drawn _ (exact_.known _ i member))
    have free : before.lock (Write.create choice.key row).key = none ∨
        before.lock (Write.create choice.key row).key = some process := .inl unlocked
    -- The key is drawn first, then the row is written.
    have drawn : Undisturbed process before { before with used := choice.key :: before.used } :=
        undisturbed_refl (a := before)
    refine ⟨write_exact (w := { before with used := choice.key :: before.used }) opened free (used_exact exact_)
      List.mem_cons_self,fun other different => write_undisturbed free different,?_⟩
    refine write_prepared (.create choice.key row) (w := { before with used := choice.key :: before.used }) opened
      (prepared_stable now drawn) (by rintro _ ⟨⟩) rfl ?_ (by rintro _ _ ⟨⟩)
    rintro made ⟨⟩
    exact blank_marks size empty untaken
  · cases handled
    exact ⟨exact_,fun _ _ => undisturbed_refl,now⟩

def Found (process : Nat) {β : Type} (row : β → Row) (result : Except Failure (Option β)) (w : World) : Prop :=
  Prepared process .nothing w ∧ ∀ found, result = .ok (some found) → Usable (row found)

theorem wp_findFirst (orgId issuerDid : String) (prepared : Prepared process .nothing w) :
    wp sys contract process (perform (.findFirst orgId issuerDid))
      (fun result w => Found process (β := Nat × Row) Prod.snd result w) w := by
  apply wp_call
  intro before relied exact_ choice after answer _ handled
  have now := prepared_stable prepared relied
  simp only [sys,handle] at handled
  split at handled
  · cases handled
    exact ⟨exact_,fun _ _ => undisturbed_refl,now,by rintro _ ⟨⟩⟩
  rename_i writes opened
  split at handled
  · cases handled
    refine ⟨exact_,fun _ _ => undisturbed_refl,now,?_⟩
    rintro ⟨key,row⟩ found
    obtain ⟨k,-,looked⟩ := Option.bind_eq_some_iff.mp (Except.ok.inj found)
    obtain ⟨row',at_,equal⟩ := Option.map_eq_some_iff.mp looked
    cases equal
    have marks := marks_view exact_ opened now at_
    exact ⟨marks.positive,marks.wide⟩
  · cases handled
    exact ⟨exact_,fun _ _ => undisturbed_refl,now,by rintro _ ⟨⟩⟩

theorem wp_findUnique (prepared : Prepared process .nothing w) :
    wp sys contract process (perform (.findUnique key)) (fun _ w => Prepared process .nothing w) w := by
  apply wp_call
  intro before relied exact_ choice after answer _ handled
  have now := prepared_stable prepared relied
  simp only [sys,handle] at handled
  split at handled
  · cases handled
    exact ⟨exact_,fun _ _ => undisturbed_refl,now⟩
  split at handled <;> cases handled <;> exact ⟨exact_,fun _ _ => undisturbed_refl,now⟩
theorem wp_draw (prepared : Prepared process .nothing w) :
    wp sys contract process (perform .draw) (fun _ w => Prepared process .nothing w) w := by
  apply wp_call
  intro before relied exact_ choice after answer _ handled
  cases handled
  exact ⟨exact_,fun _ _ => undisturbed_refl,prepared_stable prepared relied⟩
theorem wp_rollback : wp sys contract process (perform .rollback) (fun _ _ => True) w := by
  apply wp_call
  intro before _ exact_ choice after answer _ handled
  cases handled
  exact ⟨close_exact exact_,fun other different => close_undisturbed different,trivial⟩

theorem wp_commit {change : Change} (prepared : Prepared process change w) :
    wp sys contract process (perform (.commit change)) (fun _ _ => True) w := by
  apply wp_call
  intro before relied exact_ choice after answer _ handled
  have now := prepared_stable prepared relied
  simp only [sys,handle] at handled
  split at handled
  · cases handled
    exact ⟨exact_,fun _ _ => undisturbed_refl,trivial⟩
  rename_i writes opened
  have ready := now writes opened
  have committed := commit_exact exact_ opened ready
  split at handled <;> cases handled
  · exact ⟨committed,fun other different => commit_undisturbed exact_ opened ready different,trivial⟩
  · exact ⟨close_exact exact_,fun other different => close_undisturbed different,trivial⟩
  · exact ⟨committed,fun other different => commit_undisturbed exact_ opened ready different,trivial⟩

theorem begin_exact (exact_ : Exact w) (closed : w.txn process = none) :
    Exact { w with txn := Function.update w.txn process (some []) } := by
  refine ⟨exact_.marks,exact_.known,exact_.once,?_,exact_.drawn,exact_.held⟩
  intro other key
  by_cases same : other = process
  · subst same
    rw [exact_.locked other key]
    simp [closed]
  · rw [exact_.locked other key]
    simp only [Function.update_of_ne same]

theorem wp_begin (closed : w.txn process = none) :
    wp sys contract process (perform .begin) (Settled process fun _ => .nothing) w := by
  apply wp_call
  intro before relied exact_ choice after answer _ handled
  have still : before.txn process = none := by
    rcases relied with gone | ⟨same,-⟩
    · exact gone
    · exact same.trans closed
  simp only [sys,handle] at handled
  split at handled
  · cases handled
    refine ⟨begin_exact exact_ still,fun other different => .inr ⟨Function.update_of_ne different _ _,fun _ =>
      ⟨Iff.rfl,fun _ => ⟨rfl,fun _ => Iff.rfl⟩⟩⟩,?_⟩
    intro writes opened
    -- A transaction that has written nothing has no locks.
    have unlocked : ∀ key, before.lock key ≠ some process := by
      intro key held
      obtain ⟨_,opened',_⟩ := (exact_.locked process key).mp held
      rw [still] at opened'; cases opened'
    exact ⟨fun key _ held => absurd held (unlocked key),by rintro _ ⟨⟩,by rintro _ _ ⟨⟩⟩
  · cases handled
    exact ⟨exact_,fun _ _ => undisturbed_refl,trivial⟩

theorem wp_createList (orgId issuerDid : String) (listSize : Option Nat) (prepared : Prepared process .nothing w) :
    wp sys contract process (createList orgId issuerDid listSize)
      (fun result w => Prepared process .nothing w ∧ ∀ list, result = .ok list → Usable list.2) w := by
  have usable : Usable ⟨orgId,issuerDid,StatusLists.sizeOf listSize,0,blank (StatusLists.sizeOf listSize),true⟩ :=
    ⟨sizeOf_pos listSize,by rw [blank,List.length_replicate]⟩
  refine (wp_bind _ _ _ _).mpr (wp_mono ?_ (wp_create usable.1 rfl prepared))
  rintro (error | key) w' prepared'
  · exact ⟨prepared',by rintro _ ⟨⟩⟩
  · refine ⟨prepared',?_⟩
    rintro list ⟨⟩
    exact usable

theorem wp_activeList (orgId issuerDid : String) (listSize : Option Nat) (prepared : Prepared process .nothing w) :
    wp sys contract process (activeList orgId issuerDid listSize)
      (fun result w => Prepared process .nothing w ∧ ∀ list, result = .ok list → Usable list.2) w := by
  refine (wp_bind _ _ _ _).mpr (wp_mono ?_ (wp_findFirst orgId issuerDid prepared))
  rintro (error | found) w' ⟨prepared',usable⟩
  · exact ⟨prepared',by rintro _ ⟨⟩⟩
  rcases found with _ | ⟨key,row⟩
  · exact wp_createList orgId issuerDid listSize prepared'
  have usable := usable (key,row) rfl
  by_cases full : row.listSize ≤ row.allocatedCount
  · simp only [if_pos full]
    refine (wp_bind _ _ _ _).mpr (wp_mono ?_ (wp_deactivate prepared'))
    rintro (error | done) w'' prepared''
    · exact ⟨prepared'',by rintro _ ⟨⟩⟩
    · exact wp_createList orgId issuerDid listSize prepared''
  · simp only [if_neg full]
    refine ⟨prepared',?_⟩
    rintro list ⟨⟩
    exact usable

theorem wp_takeIndex {row : Row} (usable : Usable row) (prepared : Prepared process .nothing w) :
    wp sys contract process (takeIndex key row)
      (Settled process fun taken => .allocated taken.1 taken.2) w := by
  refine (wp_bind _ _ _ _).mpr (wp_mono ?_ (wp_draw prepared))
  rintro (error | draws) w' prepared'
  · trivial
  dsimp only
  split
  · rename_i index allocator allocated
    refine (wp_bind _ _ _ _).mpr (wp_mono ?_ (wp_store (allocate_effect usable allocated) prepared'))
    rintro (error | done) w'' settled
    · trivial
    · exact settled
  · refine (wp_bind _ _ _ _).mpr (wp_mono ?_ (wp_deactivate prepared'))
    rintro (error | done) w'' _ <;> trivial
  · trivial

theorem wp_giveBack {index : Int} (prepared : Prepared process .nothing w) :
    wp sys contract process (giveBack key index)
      (Settled process fun found => if found then .released key index else .nothing) w := by
  refine (wp_bind _ _ _ _).mpr (wp_mono ?_ (wp_findUnique prepared))
  rintro (error | found) w' prepared'
  · trivial
  cases found with
  | none => exact prepared'
  | some row =>
    dsimp only
    split
    · trivial
    · rename_i allocator released
      refine (wp_bind _ _ _ _).mpr (wp_mono ?_ (wp_store (release_effect released) prepared'))
      rintro (error | done) w'' settled
      · trivial
      · exact settled

theorem wp_transaction {β : Type} {body : Async β} {change : β → Change}
    (settles : ∀ w, Prepared process .nothing w → wp sys contract process body (Settled process change) w)
    (closed : w.txn process = none) : wp sys contract process (transaction body change) (fun _ _ => True) w := by
  refine (wp_bind _ _ _ _).mpr (wp_mono ?_ (wp_begin closed))
  rintro (error | begun) w' prepared
  · trivial
  refine (wp_bind _ _ _ _).mpr ((wp_tryCatch _ _ _ _).mpr (wp_mono ?_ (settles w' prepared)))
  rintro (error | value) w'' settled
  · refine (wp_bind _ _ _ _).mpr (wp_mono ?_ wp_rollback)
    rintro (failed | done) _ _ <;> trivial
  · refine (wp_bind _ _ _ _).mpr (wp_mono ?_ (wp_commit settled))
    rintro (failed | done) _ _ <;> trivial

theorem wp_program (input : Input) (closed : w.txn process = none) :
    wp sys contract process (program process input) (fun _ _ => True) w := by
  cases input with
  | allocate orgId issuerDid listSize =>
    refine (wp_bind _ _ _ _).mpr ?_
    have allocates : wp sys contract process (StatusLists.allocate orgId issuerDid listSize) (fun _ _ => True) w := by
      rw [StatusLists.allocate]
      split
      · trivial
      · refine wp_transaction ?_ closed
        intro w prepared
        refine (wp_bind _ _ _ _).mpr (wp_mono ?_ (wp_activeList orgId issuerDid listSize prepared))
        rintro (error | list) w' ⟨prepared',usable⟩
        · trivial
        · exact wp_takeIndex (usable list rfl) prepared'
    refine wp_mono ?_ allocates
    rintro (error | taken) _ _ <;> trivial
  | release key index =>
    refine (wp_bind _ _ _ _).mpr (wp_mono ?_ (wp_transaction (fun _ prepared => wp_giveBack prepared) closed))
    rintro (error | found) _ _ <;> trivial

end

theorem keeps : Keeps sys contract fun _ _ _ => True where
  reflexive _ _ := undisturbed_refl
  transitive _ _ _ _ := undisturbed_trans
  stable _ _ _ _ _ _ _ := trivial
  idles process a b idle relied _ := by
    rcases relied with gone | ⟨same,-⟩
    · exact gone
    · exact same.trans idle
  arrives process input a b inv idle arrived := by
    cases arrived
    exact ⟨inv,fun _ _ => undisturbed_refl,wp_program input idle⟩
  moves event a b inv _ happened := by
    cases event with
    | abort process =>
      cases happened
      refine ⟨close_exact inv,fun other => ?_⟩
      by_cases same : other = process
      · exact .inl (same ▸ close_gone)
      · exact close_undisturbed same

theorem exact_empty : Exact World.empty where
  marks _ _ found := by cases found
  known _ _ member := by cases member
  once := List.nodup_nil
  locked process key := by
    constructor
    · rintro ⟨⟩
    · rintro ⟨_,⟨⟩,_⟩
  drawn _ found := by cases found
  held _ _ held := by cases held

/-- The step does not overwrite a bitmap that changed since it was read. -/
def Unmoved (m : Machine Cmd Ret Failure Unit World) : Action Choice Input Env → Prop
  | .advance process _ => ∀ c ∈ (m.thread process).awaited, unmoved process c m.world
  | _ => True
instance (m : Machine Cmd Ret Failure Unit World) : (a : Action Choice Input Env) → Decidable (Unmoved m a)
  | .advance process _ => inferInstanceAs (Decidable (∀ c ∈ (m.thread process).awaited, unmoved process c m.world))
  | .start _ _ => isTrue trivial
  | .crash _ => isTrue trivial
  | .environment _ => isTrue trivial

/-- Where no transaction overwrites a bitmap that changed since it read it, no index
    is taken twice and the stored bitmaps have exactly the bits of the indexes
    taken and not released. -/
theorem indexes_unique {actions : List (Action Choice Input Env)} {m : Machine Cmd Ret Failure Unit World}
    (reached : run (step sys) (Machine.initial World.empty) actions = some m)
    (undisturbed : Along (step sys) Unmoved (Machine.initial World.empty) actions) :
    m.world.live.Nodup ∧ (∀ key i, (key,i) ∈ m.world.live → ∃ row, m.world.committed.lookup key = some row) ∧
      ∀ key row, m.world.committed.lookup key = some row → ∀ i, isSet row.bitmap i = true ↔ (key,i) ∈ m.world.live := by
  have safe : Safe sys contract (fun _ _ _ => True) m := by
    refine run_safe keeps (safe_initial exact_empty fun _ => rfl) (along_mono ?_ undisturbed) reached
    intro s a unmoved
    cases a with
    | start process input => trivial
    | advance process choice =>
      intro command resume at_
      exact unmoved command (by rw [at_]; rfl)
    | crash process => trivial
    | environment event => trivial
  refine ⟨safe.inv.once,?_,fun key row found => (safe.inv.marks key row found).bits⟩
  exact fun key i member => Option.isSome_iff_exists.mp (safe.inv.known key i member)

def drawing (key draw : Nat) : Choice := ⟨.none,key,fun _ => draw⟩
def firstAllocation : List (Action Choice Input Env) :=
  .start 0 (.allocate "org" "did:web:issuer" (some 8)) :: List.replicate 6 (.advance 0 (drawing 100 0))
def serialRun : List (Action Choice Input Env) :=
  firstAllocation ++ .start 1 (.allocate "org" "did:web:issuer" none) :: List.replicate 5 (.advance 1 (drawing 0 3)) ++
    .start 2 (.release 100 0) :: List.replicate 4 (.advance 2 (drawing 0 0))
theorem indexes_unique_serial : ∃ m, run (step sys) (Machine.initial World.empty) serialRun = some m ∧
    m.world.live = [(100,3)] ∧
    ∀ row, m.world.committed.lookup 100 = some row → ∀ i, isSet row.bitmap i = true ↔ (100,i) ∈ m.world.live := by
  have runs : ((run (step sys) (Machine.initial World.empty) serialRun).map fun m => m.world.live) = some [(100,3)] := by
    decide +kernel
  obtain ⟨m,reached,live⟩ := Option.map_eq_some_iff.mp runs
  exact ⟨m,reached,live,(indexes_unique reached (by decide +kernel)).2.2 100⟩
/-- Processes 1 and 2 both read the list before either of them writes it. -/
def racingRun : List (Action Choice Input Env) :=
  firstAllocation ++ [.start 1 (.allocate "org" "did:web:issuer" none),.start 2 (.allocate "org" "did:web:issuer" none)] ++
    List.replicate 3 (.advance 1 (drawing 0 3)) ++ List.replicate 3 (.advance 2 (drawing 0 3)) ++
    List.replicate 2 (.advance 1 (drawing 0 0)) ++ List.replicate 2 (.advance 2 (drawing 0 0))

/-- The same index is taken twice. -/
theorem index_taken_twice : ¬∀ (actions : List (Action Choice Input Env)) (m : Machine Cmd Ret Failure Unit World),
    run (step sys) (Machine.initial World.empty) actions = some m →
      m.world.live.Nodup ∧
        ∀ key row, m.world.committed.lookup key = some row →
          ∀ i, isSet row.bitmap i = true ↔ (key,i) ∈ m.world.live := by
  intro unique
  have runs : ((run (step sys) (Machine.initial World.empty) racingRun).map fun m => m.world.live) =
      some [(100,3),(100,3),(100,0)] := by decide +kernel
  obtain ⟨m,reached,live⟩ := Option.map_eq_some_iff.mp runs
  have once := (unique racingRun m reached).1
  rw [live] at once
  exact absurd once (by decide)

end Ngotag.IndexUniqueness
