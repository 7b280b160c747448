import Mathlib.Data.List.AList
import Mathlib.Data.Finset.Card

/-!
The three scripts that keep the permits for offers in one Redis hash. Beside
the field `capacity` the hash has one field for each owner: `r:` and an expiry
while its permit is reserved, `active:` and a time once it is in use. Each
script keeps the hash sound (`Sound`): it is empty, or it names its capacity and
has between one owner and that many.
-/
namespace Ngotag.PermitScripts

abbrev Owner := Nat
inductive Field where
  | capacity
  | owner (id : Owner)
  deriving DecidableEq
/-- `8`, `r:1700000030000` and `active:1700000000000`. -/
inductive Value where
  | number (n : Nat)
  | reserved (expiry : Nat)
  | active (since : Nat)

/-- The hash at one key; a key whose last field is deleted is gone. -/
abbrev PermitHash := AList fun _ : Field => Value
/-- What `TIME` answers: seconds, and microseconds within the second. -/
structure RedisTime where
  seconds : Nat
  micros : Nat
def RedisTime.ms (now : RedisTime) : Nat := now.seconds * 1000 + now.micros / 1000
/-- `tonumber` of a stored value. -/
def Value.tonumber : Value → Option Nat
  | .number n => some n
  | _ => none
def Value.expired (ms : Nat) : Value → Bool
  | .reserved expiry => expiry ≤ ms
  | _ => false
/-- The loop over `HGETALL`: reservations that ran out are deleted. -/
def sweep (ms : Nat) (hash : PermitHash) : PermitHash :=
  hash.entries.foldl (fun left entry => if entry.2.expired ms then left.erase entry.1 else left) hash
/-- `if HLEN == 1 then DEL`: without owners the capacity goes too. -/
def prune (hash : PermitHash) : PermitHash := if hash.entries.length = 1 then ∅ else hash

def acquire (now : RedisTime) (capacity : Nat) (owner : Owner) (reservation : Nat) (hash : PermitHash) :
    PermitHash × Int :=
  let hash := prune (sweep now.ms hash)
  if (hash.lookup .capacity).any (fun stored => stored.tonumber ≠ some capacity) then (hash,-1)
  else if (hash.lookup (.owner owner)).isSome then (hash,1)
  else if capacity + 1 ≤ hash.entries.length then (hash,0)
  else ((hash.insert .capacity (.number capacity)).insert (.owner owner) (.reserved (now.ms + reservation)),1)
def activate (now : RedisTime) (owner : Owner) (hash : PermitHash) : PermitHash × Int :=
  match hash.lookup (.owner owner) with
  | some (.reserved expiry) =>
    if expiry ≤ now.ms then (hash,0) else (hash.insert (.owner owner) (.active now.ms),1)
  | _ => (hash,0)
def release (owner : Owner) (hash : PermitHash) : PermitHash × Int := (prune (hash.erase (.owner owner)),1)
inductive Script where
  | acquire (capacity : Nat) (owner : Owner) (reservation : Nat)
  | activate (owner : Owner)
  | release (owner : Owner)
  deriving DecidableEq

def Script.execute (now : RedisTime) : Script → PermitHash → PermitHash × Int
  | .acquire capacity owner reservation => PermitScripts.acquire now capacity owner reservation
  | .activate owner => PermitScripts.activate now owner
  | .release owner => PermitScripts.release owner
def Field.id? : Field → Option Owner
  | .capacity => none
  | .owner id => some id
def owners (hash : PermitHash) : List Owner := hash.keys.filterMap Field.id?
/-- The hash is empty, or names its capacity and has an owner and at most that many. -/
def Sound (hash : PermitHash) : Prop :=
  hash = ∅ ∨ ∃ c, hash.lookup .capacity = some (.number c) ∧ 1 ≤ (owners hash).length ∧ (owners hash).length ≤ c
/-- The store has the owner's permit as active. -/
def Active (owner : Owner) (hash : PermitHash) : Prop := ∃ since, hash.lookup (.owner owner) = some (.active since)

section
variable (hash : PermitHash) (id : Owner) (value : Value)

@[simp] theorem capacity_insert_owner : (hash.insert (.owner id) value).lookup .capacity = hash.lookup .capacity :=
  AList.lookup_insert_ne (fun same => Field.noConfusion same)
@[simp] theorem capacity_erase_owner : (hash.erase (.owner id)).lookup .capacity = hash.lookup .capacity :=
  AList.lookup_erase_ne (fun same => Field.noConfusion same)
@[simp] theorem owner_insert_capacity :
    (hash.insert .capacity value).lookup (.owner id) = hash.lookup (.owner id) :=
  AList.lookup_insert_ne (fun same => Field.noConfusion same)

end

theorem length_entries (hash : PermitHash) : hash.entries.length = hash.keys.length := by
  simp [AList.keys,List.keys]
theorem mem_owners {hash : PermitHash} {id : Owner} : id ∈ owners hash ↔ .owner id ∈ hash := by
  rw [owners,List.mem_filterMap,AList.mem_keys]
  constructor
  · rintro ⟨(_ | other),member,found⟩
    · cases found
    · cases found; exact member
  · exact fun member => ⟨_,member,rfl⟩
theorem length_ids (keys : List Field) :
    (keys.filterMap Field.id?).length + keys.count .capacity = keys.length := by
  induction keys with
  | nil => rfl
  | cons key rest ih =>
    cases key with
    | capacity => rw [List.filterMap_cons_none rfl,List.count_cons_self,List.length_cons]; omega
    | owner id => simp [Field.id?,← ih]; omega
theorem length_of_capacity {hash : PermitHash} {value : Value} (found : hash.lookup .capacity = some value) :
    hash.entries.length = (owners hash).length + 1 := by
  have present : Field.capacity ∈ hash.keys := AList.mem_keys.mp (AList.lookup_isSome.mp (by rw [found]; rfl))
  have once := List.count_eq_one_of_mem hash.keys_nodup present
  have all := length_ids hash.keys
  rw [once] at all
  rw [length_entries,← all,owners]
theorem owners_length_mono {hash less : PermitHash} (sub : less.keys.Sublist hash.keys) :
    (owners less).length ≤ (owners hash).length := (sub.filterMap _).length_le

section
variable {hash : PermitHash}

theorem foldl_sweep_keys (ms : Nat) (entries : List (Sigma fun _ : Field => Value)) :
    (entries.foldl (fun left entry => if entry.2.expired ms then left.erase entry.1 else left) hash).keys.Sublist
      hash.keys := by
  induction entries generalizing hash with
  | nil => exact List.Sublist.refl _
  | cons entry rest ih =>
    rw [List.foldl_cons]
    split
    · refine ih.trans ?_
      rw [AList.keys_erase]
      exact List.erase_sublist
    · exact ih

theorem foldl_sweep_lookup (ms : Nat) {field : Field} (entries : List (Sigma fun _ : Field => Value)) :
    (entries.foldl (fun left entry => if entry.2.expired ms then left.erase entry.1 else left) hash).lookup field =
      if ∃ entry ∈ entries, entry.1 = field ∧ entry.2.expired ms = true then none else hash.lookup field := by
  induction entries generalizing hash with
  | nil => simp
  | cons entry rest ih =>
    rw [List.foldl_cons,ih]
    by_cases later : ∃ entry ∈ rest, entry.1 = field ∧ entry.2.expired ms = true
    · rw [if_pos later,if_pos (by simpa using .inr (by simpa using later))]
    · rw [if_neg later]
      by_cases gone : entry.2.expired ms = true
      · rw [if_pos gone]
        by_cases same : entry.1 = field
        · subst same
          rw [if_pos ⟨entry,List.mem_cons_self,rfl,gone⟩,AList.lookup_erase]
        · rw [if_neg,AList.lookup_erase_ne (Ne.symm same)]
          rintro ⟨other,member,here,expired⟩
          rcases List.mem_cons.mp member with rfl | member
          · exact same here
          · exact later ⟨other,member,here,expired⟩
      · rw [if_neg gone,if_neg]
        rintro ⟨other,member,here,expired⟩
        rcases List.mem_cons.mp member with rfl | member
        · exact gone expired
        · exact later ⟨other,member,here,expired⟩

theorem sweep_keys (ms : Nat) : (sweep ms hash).keys.Sublist hash.keys := foldl_sweep_keys ms _
theorem sweep_kept (ms : Nat) {field : Field} {value : Value} (found : hash.lookup field = some value)
    (lasting : value.expired ms = false) : (sweep ms hash).lookup field = some value := by
  rw [sweep,foldl_sweep_lookup,if_neg,found]
  rintro ⟨⟨_,other⟩,member,rfl,expired⟩
  have same : other = value := by
    have read := List.mem_dlookup hash.nodupKeys member
    exact Option.some.inj (read.symm.trans found)
  rw [same,lasting] at expired
  cases expired
theorem sweep_absent (ms : Nat) {field : Field} (absent : hash.lookup field = none) :
    (sweep ms hash).lookup field = none := by
  rw [sweep,foldl_sweep_lookup,absent,ite_self]
end

theorem prune_absent {hash : PermitHash} {field : Field} (absent : hash.lookup field = none) :
    (prune hash).lookup field = none := by
  rw [prune]
  split
  · exact AList.lookup_empty field
  · exact absent
theorem sound_prune {hash : PermitHash} {c : Nat} (found : hash.lookup .capacity = some (.number c))
    (few : (owners hash).length ≤ c) : Sound (prune hash) := by
  rw [prune]
  have size := length_of_capacity found
  split
  · exact .inl rfl
  · exact .inr ⟨c,found,by omega,few⟩
theorem prune_kept {hash : PermitHash} {c : Nat} {id : Owner} {value : Value}
    (found : hash.lookup .capacity = some (.number c)) (held : hash.lookup (.owner id) = some value) :
    prune hash = hash := by
  rw [prune,if_neg]
  have size := length_of_capacity found
  have present : id ∈ owners hash := mem_owners.mpr (AList.lookup_isSome.mp (by rw [held]; rfl))
  have some_owner := List.length_pos_of_mem present
  omega
theorem sound_empty : Sound ∅ := .inl rfl

section
variable {hash : PermitHash} {id : Owner}

theorem sound_swept (ms : Nat) (sound : Sound hash) : Sound (prune (sweep ms hash)) := by
  rcases sound with rfl | ⟨c,found,-,few⟩
  · exact .inl rfl
  · exact sound_prune (sweep_kept ms found rfl) ((owners_length_mono (sweep_keys ms)).trans few)
theorem active_swept (ms : Nat) (sound : Sound hash) (active : Active id hash) :
    Active id (prune (sweep ms hash)) := by
  obtain ⟨since,held⟩ := active
  rcases sound with rfl | ⟨c,found,-,-⟩
  · rw [AList.lookup_empty] at held; cases held
  · have still := sweep_kept ms held rfl
    exact ⟨since,by rwa [prune_kept (sweep_kept ms found rfl) still]⟩
theorem not_mem_keys {field : Field} (absent : hash.lookup field = none) : field ∉ hash.keys :=
  fun present => AList.lookup_eq_none.mp absent (AList.mem_keys.mpr present)
theorem owners_insert (value : Value) (absent : hash.lookup (.owner id) = none) :
    owners (hash.insert (.owner id) value) = id :: owners hash := by
  rw [owners,AList.keys_insert,List.erase_of_not_mem (not_mem_keys absent)]
  rfl
theorem ids_erase (keys : List Field) : (keys.erase .capacity).filterMap Field.id? = keys.filterMap Field.id? := by
  induction keys with
  | nil => rfl
  | cons key rest ih =>
    cases key with
    | capacity => rw [List.erase_cons_head,List.filterMap_cons_none rfl]
    | owner other => simp [Field.id?,ih]
theorem owners_insert_capacity (value : Value) : owners (hash.insert .capacity value) = owners hash := by
  rw [owners,AList.keys_insert,List.filterMap_cons_none rfl,ids_erase,owners]
theorem ids_replace {keys : List Field} (present : Field.owner id ∈ keys) :
    (id :: (keys.erase (.owner id)).filterMap Field.id?).length = (keys.filterMap Field.id?).length := by
  have whole := (List.perm_cons_erase present).filterMap Field.id?
  rw [List.filterMap_cons_some (show Field.id? (.owner id) = some id from rfl)] at whole
  exact whole.length_eq.symm
theorem owners_update (value : Value) (present : Field.owner id ∈ hash) :
    (owners (hash.insert (.owner id) value)).length = (owners hash).length := by
  rw [owners,AList.keys_insert]
  exact ids_replace (AList.mem_keys.mp present)

theorem acquire_sound (now : RedisTime) {capacity : Nat} (positive : 1 ≤ capacity) (reservation : Nat)
    (sound : Sound hash) : Sound (acquire now capacity id reservation hash).1 := by
  have swept := sound_swept now.ms sound
  simp only [acquire]
  generalize prune (sweep now.ms hash) = left at swept
  split
  · exact swept
  rename_i agrees
  split
  · exact swept
  rename_i absent
  split
  · exact swept
  rename_i free
  have missing : left.lookup (.owner id) = none := by simpa using absent
  have others : (left.insert .capacity (.number capacity)).lookup (.owner id) = none := by
    rw [owner_insert_capacity]
    exact missing
  refine .inr ⟨capacity,?_,?_⟩
  · rw [capacity_insert_owner,AList.lookup_insert]
  · rw [owners_insert _ others,owners_insert_capacity,List.length_cons]
    refine ⟨by omega,?_⟩
    rcases swept with rfl | ⟨c,found,-,-⟩
    · exact positive
    · have size := length_of_capacity found
      omega

theorem activate_sound (now : RedisTime) (sound : Sound hash) : Sound (activate now id hash).1 := by
  rw [activate]
  split
  · rename_i expiry held
    split
    · exact sound
    · have present : Field.owner id ∈ hash := AList.lookup_isSome.mp (by rw [held]; rfl)
      rcases sound with rfl | ⟨c,found,one,few⟩
      · rw [AList.lookup_empty] at held; cases held
      · refine .inr ⟨c,by rw [capacity_insert_owner]; exact found,?_⟩
        rw [owners_update _ present]
        exact ⟨one,few⟩
  · exact sound

theorem release_sound (sound : Sound hash) : Sound (release id hash).1 := by
  rcases sound with rfl | ⟨c,found,-,few⟩
  · exact .inl rfl
  · refine sound_prune (c := c) (by rw [capacity_erase_owner]; exact found) ((owners_length_mono ?_).trans few)
    rw [AList.keys_erase]
    exact List.erase_sublist

end

/-- The capacity a script is given, where it is given one, is positive. -/
def Script.Positive : Script → Prop
  | .acquire capacity _ _ => 1 ≤ capacity
  | _ => True
/-- Whatever the time, a script leaves a sound hash sound. -/
theorem execute_sound (now : RedisTime) {script : Script} {hash : PermitHash} (positive : script.Positive)
    (sound : Sound hash) : Sound (script.execute now hash).1 := by
  cases script with
  | acquire capacity owner reservation => exact acquire_sound now positive reservation sound
  | activate owner => exact activate_sound now sound
  | release owner => exact release_sound sound

variable {hash : PermitHash} {id : Owner}
theorem execute_active (now : RedisTime) {script : Script} (other : script ≠ .release id) (sound : Sound hash)
    (active : Active id hash) : Active id (script.execute now hash).1 := by
  cases script with
  | acquire capacity owner reservation =>
    have swept := active_swept now.ms sound active
    simp only [Script.execute,acquire]
    generalize prune (sweep now.ms hash) = left at swept
    split
    · exact swept
    split
    · exact swept
    rename_i absent
    split
    · exact swept
    obtain ⟨since,held⟩ := swept
    refine ⟨since,?_⟩
    have different : owner ≠ id := by
      rintro rfl
      simp [held] at absent
    rw [AList.lookup_insert_ne (by simpa using different.symm),owner_insert_capacity]
    exact held
  | activate owner =>
    simp only [Script.execute,activate]
    obtain ⟨since,held⟩ := active
    split
    · rename_i expiry reserved
      split
      · exact ⟨since,held⟩
      · refine ⟨since,?_⟩
        have different : owner ≠ id := by
          rintro rfl
          rw [held] at reserved
          cases reserved
        rw [AList.lookup_insert_ne (by simpa using different.symm)]
        exact held
    · exact ⟨since,held⟩
  | release owner =>
    have different : owner ≠ id := fun same => other (by rw [same])
    obtain ⟨since,held⟩ := active
    rcases sound with rfl | ⟨c,found,-,-⟩
    · rw [AList.lookup_empty] at held; cases held
    · have still : (hash.erase (.owner owner)).lookup (.owner id) = some (.active since) := by
        rw [AList.lookup_erase_ne (by simpa using different.symm)]
        exact held
      refine ⟨since,?_⟩
      simp only [Script.execute,release]
      rw [prune_kept (by rw [capacity_erase_owner]; exact found) still]
      exact still

theorem activate_active (now : RedisTime) (acknowledged : (activate now id hash).2 = 1) :
    Active id (activate now id hash).1 := by
  rw [activate] at acknowledged ⊢
  split at acknowledged
  · split at acknowledged
    · cases acknowledged
    · rename_i late
      rw [if_neg late]
      exact ⟨now.ms,AList.lookup_insert hash⟩
  · cases acknowledged

def Script.owner : Script → Owner
  | .acquire _ owner _ => owner
  | .activate owner => owner
  | .release owner => owner

theorem execute_absent (now : RedisTime) {script : Script} (other : script.owner ≠ id)
    (absent : hash.lookup (.owner id) = none) : (script.execute now hash).1.lookup (.owner id) = none := by
  cases script with
  | acquire capacity owner reservation =>
    have swept := prune_absent (sweep_absent now.ms absent)
    simp only [Script.execute,acquire]
    generalize prune (sweep now.ms hash) = left at swept
    split
    · exact swept
    split
    · exact swept
    split
    · exact swept
    rw [AList.lookup_insert_ne (by simpa [Script.owner] using Ne.symm other),owner_insert_capacity]
    exact swept
  | activate owner =>
    simp only [Script.execute,activate]
    split
    · split
      · exact absent
      · rw [AList.lookup_insert_ne (by simpa [Script.owner] using Ne.symm other)]
        exact absent
    · exact absent
  | release owner =>
    refine prune_absent ?_
    rw [AList.lookup_erase_ne (by simpa [Script.owner] using Ne.symm other)]
    exact absent

theorem release_absent (now : RedisTime) : ((Script.release id).execute now hash).1.lookup (.owner id) = none :=
  prune_absent (AList.lookup_erase _ _)

/-- Owners that are in use together are no more than the capacity. -/
theorem actives_le {using_ : Finset Owner} (sound : Sound hash) (active : ∀ id ∈ using_, Active id hash) :
    using_ = ∅ ∨ ∃ c, hash.lookup .capacity = some (.number c) ∧ using_.card ≤ c := by
  have present : ∀ id ∈ using_, id ∈ owners hash := by
    intro id member
    obtain ⟨since,held⟩ := active id member
    exact mem_owners.mpr (AList.lookup_isSome.mp (by rw [held]; rfl))
  rcases sound with rfl | ⟨c,found,-,few⟩
  · left
    refine Finset.eq_empty_of_forall_notMem ?_
    intro id member
    exact absurd (mem_owners.mp (present id member)) (AList.notMem_empty _)
  · right
    refine ⟨c,found,?_⟩
    calc using_.card ≤ (owners hash).toFinset.card :=
          Finset.card_le_card fun id member => List.mem_toFinset.mpr (present id member)
      _ ≤ (owners hash).length := List.toFinset_card_le _
      _ ≤ c := few

end Ngotag.PermitScripts
