import Mathlib

/-!
Tables with a unique key. A row whose key is taken is not inserted, a row is changed without its
key, and rows are deleted by a condition.
-/
namespace Ngotag.KeyedTable

structure Keyed {Row Key : Type} (key : Row → Key) where
  rows : List Row
  unique : (rows.map key).Nodup

section
variable {Row Key : Type} {key : Row → Key} {t : Keyed key} {row other : Row}

theorem Keyed.eq_of_key (first : row ∈ t.rows) (second : other ∈ t.rows) (same : key row = key other) : row = other :=
  List.inj_on_of_nodup_map t.unique first second same

variable (t)
def Keyed.delete (test : Row → Bool) : Keyed key where
  rows := t.rows.filter fun row => !test row
  unique := t.unique.sublist (List.filter_sublist.map key)

variable {t} {test : Row → Bool}
theorem Keyed.mem_delete : row ∈ (t.delete test).rows ↔ row ∈ t.rows ∧ test row = false := by
  simp [Keyed.delete]
end
variable {Row Key : Type} [DecidableEq Key] {key : Row → Key} (t : Keyed key)

/-- `findUnique` -/
def Keyed.find (k : Key) : Option Row := t.rows.find? fun row => key row = k

variable {t} {k : Key} {row other : Row}
theorem Keyed.find_some : t.find k = some row ↔ row ∈ t.rows ∧ key row = k := by
  constructor
  · intro found
    exact ⟨List.mem_of_find?_eq_some found,by simpa using List.find?_some found⟩
  · rintro ⟨there,rfl⟩
    have some_ : (t.find (key row)).isSome = true := List.find?_isSome.mpr ⟨row,there,by simp⟩
    obtain ⟨other,found⟩ := Option.isSome_iff_exists.mp some_
    have same : key other = key row := by simpa using List.find?_some found
    rw [found,t.eq_of_key (List.mem_of_find?_eq_some found) there same]
theorem Keyed.find_none : t.find k = none ↔ ∀ row ∈ t.rows, key row ≠ k := by
  simp [Keyed.find]

variable (t)
/-- Nothing where the key is taken. -/
def Keyed.insert (row : Row) : Option (Keyed key) :=
  if fresh : t.find (key row) = none then
    some ⟨row :: t.rows,by
      rw [List.map_cons,List.nodup_cons]
      refine ⟨fun there => ?_,t.unique⟩
      obtain ⟨other,listed,same⟩ := List.mem_map.mp there
      exact Keyed.find_none.mp fresh other listed same⟩
  else none

variable {t}
theorem Keyed.insert_some {after : Keyed key} :
    t.insert row = some after ↔ t.find (key row) = none ∧ after.rows = row :: t.rows := by
  unfold Keyed.insert
  split
  · rename_i fresh
    constructor
    · rintro ⟨⟩
      exact ⟨fresh,rfl⟩
    · rintro ⟨-,same⟩
      cases after
      simp_all
  · rename_i taken
    constructor
    · rintro ⟨⟩
    · exact fun fresh => absurd fresh.1 taken

theorem Keyed.insert_none : t.insert row = none ↔ t.find (key row) ≠ none := by
  unfold Keyed.insert
  split
  · rename_i fresh
    constructor
    · rintro ⟨⟩
    · exact fun taken => absurd fresh taken
  · rename_i taken
    exact ⟨fun _ => taken,fun _ => rfl⟩

variable (t)
def Keyed.change (k : Key) (f : Row → Row) (kept : ∀ row, key (f row) = key row) : Keyed key where
  rows := t.rows.map fun row => if key row = k then f row else row
  unique := by
    have same : key ∘ (fun row => if key row = k then f row else row) = key := by
      funext row
      simp only [Function.comp_apply]
      split
      · exact kept row
      · rfl
    rw [List.map_map,same]
    exact t.unique

variable {t} {f : Row → Row} {kept : ∀ row, key (f row) = key row}
theorem Keyed.mem_change : row ∈ (t.change k f kept).rows ↔
    row ∈ t.rows ∧ key row ≠ k ∨ ∃ old ∈ t.rows, key old = k ∧ row = f old := by
  simp only [Keyed.change,List.mem_map]
  constructor
  · rintro ⟨old,there,rfl⟩
    by_cases same : key old = k
    · rw [if_pos same]
      exact .inr ⟨old,there,same,rfl⟩
    · rw [if_neg same]
      exact .inl ⟨there,same⟩
  · rintro (⟨there,apart⟩ | ⟨old,there,same,rfl⟩)
    · exact ⟨row,there,if_neg apart⟩
    · exact ⟨old,there,if_pos same⟩

variable (t k f kept) in
theorem Keyed.change_map {Value : Type} {g : Row → Value} (same : ∀ row, g (f row) = g row) :
    (t.change k f kept).rows.map g = t.rows.map g := by
  rw [Keyed.change,List.map_map]
  refine List.map_congr_left fun row _ => ?_
  simp only [Function.comp_apply]
  split
  · exact same row
  · rfl

/-- The rows in order; nothing where one has a taken key. -/
def Keyed.insertAll : Keyed key → List Row → Option (Keyed key)
  | t,[] => some t
  | t,row :: rest => (t.insert row).bind fun grown => insertAll grown rest

theorem Keyed.insertAll_fresh {rows : List Row} (fresh : ∀ row ∈ rows, t.find (key row) = none)
    (apart : (rows.map key).Nodup) : ∃ after, t.insertAll rows = some after ∧ after.rows.Perm (t.rows ++ rows) := by
  induction rows generalizing t with
  | nil => exact ⟨t,rfl,by simp⟩
  | cons row rest ih =>
    obtain ⟨alone,apart⟩ := List.nodup_cons.mp apart
    obtain ⟨grown,inserted⟩ := Option.ne_none_iff_exists'.mp fun none_ =>
      Keyed.insert_none.mp none_ (fresh row List.mem_cons_self)
    have content := (Keyed.insert_some.mp inserted).2
    have still : ∀ other ∈ rest, grown.find (key other) = none := by
      intro other listed
      refine Keyed.find_none.mpr fun old there => ?_
      rcases List.mem_cons.mp (content ▸ there) with rfl | earlier
      · exact fun same => alone (same ▸ List.mem_map_of_mem listed)
      · exact Keyed.find_none.mp (fresh other (List.mem_cons_of_mem row listed)) old earlier
    obtain ⟨after,done,order⟩ := ih still apart
    refine ⟨after,by rw [Keyed.insertAll,inserted]; exact done,order.trans ?_⟩
    rw [content]
    exact (List.perm_middle : (t.rows ++ row :: rest).Perm (row :: (t.rows ++ rest))).symm

section
variable {Update : Type} (target : Update → Key) (f : Update → Row → Row)
  (kept : ∀ u row, key (f u row) = key row)

def Keyed.changeAll : Keyed key → List Update → Keyed key
  | t,[] => t
  | t,u :: rest => changeAll (t.change (target u) (f u) (kept u)) rest
def changed (key : Row → Key) : List Update → Row → Row
  | [],row => row
  | u :: rest,row => changed key rest (if key row = target u then f u row else row)

variable {target f kept} {updates : List Update}
variable (kept) in
theorem Keyed.changeAll_rows : (t.changeAll target f kept updates).rows = t.rows.map (changed target f key updates) := by
  induction updates generalizing t with
  | nil => exact (List.map_id' t.rows).symm
  | cons u rest ih => rw [Keyed.changeAll,ih,Keyed.change,List.map_map]; rfl
theorem changed_other (other : ∀ u ∈ updates, key row ≠ target u) : changed target f key updates row = row := by
  induction updates with
  | nil => rfl
  | cons u rest ih =>
    rw [changed,if_neg (other u List.mem_cons_self)]
    exact ih fun u' listed => other u' (List.mem_cons_of_mem u listed)

theorem changed_once (kept : ∀ u row, key (f u row) = key row) (apart : (updates.map target).Nodup) {u : Update}
    (listed : u ∈ updates)
    (meant : key row = target u) : changed target f key updates row = f u row := by
  induction updates with
  | nil => simp at listed
  | cons head rest ih =>
    obtain ⟨alone,apart⟩ := List.nodup_cons.mp apart
    rcases List.mem_cons.mp listed with rfl | later
    · rw [changed,if_pos meant]
      refine changed_other fun u' listed => ?_
      rw [kept,meant]
      exact fun same => alone (same ▸ List.mem_map_of_mem listed)
    · have other : key row ≠ target head := fun same => alone (by rw [← same,meant]; exact List.mem_map_of_mem later)
      rw [changed,if_neg other]
      exact ih apart later

theorem key_changed (kept : ∀ u row, key (f u row) = key row) : key (changed target f key updates row) = key row := by
  induction updates generalizing row with
  | nil => rfl
  | cons u rest ih =>
    rw [changed,ih]
    split
    · exact kept u row
    · rfl

variable (target f kept updates) in
theorem Keyed.changeAll_insertAll {rows : List Row} (fresh : ∀ row ∈ rows, ∀ old ∈ t.rows, key old ≠ key row)
    (apart : (rows.map key).Nodup) : ∃ grown, (t.changeAll target f kept updates).insertAll rows = some grown ∧
      grown.rows.Perm (t.rows.map (changed target f key updates) ++ rows) := by
  rw [← Keyed.changeAll_rows kept]
  refine Keyed.insertAll_fresh (fun row listed => Keyed.find_none.mpr fun old there => ?_) apart
  rw [Keyed.changeAll_rows] at there
  obtain ⟨before,earlier,rfl⟩ := List.mem_map.mp there
  rw [key_changed kept]
  exact fresh row listed before earlier

end
end Ngotag.KeyedTable
