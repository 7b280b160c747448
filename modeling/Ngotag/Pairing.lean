import Mathlib.Data.List.Find
import Mathlib.Data.List.Perm.Basic

/-!
Greedy pairing: each key in turn takes the first member of the pool that fits it and is still
there.
-/
namespace Ngotag.Pairing

variable {Key Row : Type} (fits : Key → Row → Bool)
/-- The keys with the row each takes, and the rows nobody takes. -/
def pair : List Key → List Row → List (Key × Option Row) × List Row
  | [],pool => ([],pool)
  | k :: keys,pool =>
    let rest := pair keys (pool.eraseP (fits k))
    ((k,pool.find? (fits k)) :: rest.1,rest.2)

variable {fits}
variable (fits) in
theorem pair_keys (keys : List Key) (pool : List Row) : (pair fits keys pool).1.map Prod.fst = keys := by
  induction keys generalizing pool with
  | nil => rfl
  | cons k keys ih => simp [pair,ih]

variable (fits) in
theorem pair_map {A : Type} (f : Key → A) (keys : List Key) (pool : List Row) :
    (pair fits keys pool).1.map (fun p => f p.1) = keys.map f := by
  rw [← pair_keys fits keys pool,List.map_map,pair_keys]
  rfl

variable {pool : List Row} {p : Row → Bool} {row : Row}
theorem find_perm_erase (found : pool.find? p = some row) :
    pool.Perm (row :: pool.eraseP p) := by
  induction pool with
  | nil => simp at found
  | cons head rest ih =>
    cases holds : p head with
    | true =>
      rw [List.find?_cons_of_pos holds] at found
      rw [List.eraseP_cons_of_pos holds,Option.some.inj found]
    | false =>
      rw [List.find?_cons_of_neg (by simp [holds])] at found
      rw [List.eraseP_cons_of_neg (by simp [holds])]
      exact ((ih found).cons head).trans (List.Perm.swap row head _)

theorem erase_of_find_none (found : pool.find? p = none) : pool.eraseP p = pool :=
  List.eraseP_of_forall_not fun row there => by simpa using List.find?_eq_none.mp found row there

theorem filter_ne_eq_erase {Id : Type} [DecidableEq Id] {key : Row → Id}
    (unique : (pool.map key).Nodup) (found : pool.find? p = some row) :
    (pool.filter fun other => key other ≠ key row) = pool.eraseP p := by
  induction pool with
  | nil => rfl
  | cons head rest ih =>
    obtain ⟨alone,unique⟩ := List.nodup_cons.mp unique
    cases holds : p head with
    | true =>
      rw [List.find?_cons_of_pos holds] at found
      obtain rfl := Option.some.inj found
      rw [List.filter_cons_of_neg (by simp),List.eraseP_cons_of_pos holds,List.filter_eq_self]
      intro other there
      have apart : key other ≠ key head := fun same => alone (same ▸ List.mem_map_of_mem there)
      simpa using apart
    | false =>
      rw [List.find?_cons_of_neg (by simp [holds])] at found
      have apart : key head ≠ key row := fun same =>
        alone (same ▸ List.mem_map_of_mem (List.mem_of_find?_eq_some found))
      rw [List.filter_cons_of_pos (by simpa using apart),List.eraseP_cons_of_neg (by simp [holds]),ih unique found]

variable (fits) in
theorem pair_perm (keys : List Key) (pool : List Row) :
    pool.Perm ((pair fits keys pool).1.filterMap Prod.snd ++ (pair fits keys pool).2) := by
  induction keys generalizing pool with
  | nil => exact .refl pool
  | cons k keys ih =>
    cases found : pool.find? (fits k) with
    | none => simpa [pair,found,erase_of_find_none found] using ih pool
    | some row => simpa [pair,found] using (find_perm_erase found).trans ((ih _).cons row)

variable {keys : List Key}
theorem taken_mem {k : Key} (taken : (k,some row) ∈ (pair fits keys pool).1) : row ∈ pool :=
  (pair_perm fits keys pool).mem_iff.mpr (List.mem_append_left _ (List.mem_filterMap.mpr ⟨_,taken,rfl⟩))
theorem taken_fits {k : Key} (taken : (k,some row) ∈ (pair fits keys pool).1) : fits k row = true := by
  induction keys generalizing pool with
  | nil => simp [pair] at taken
  | cons head keys ih =>
    rcases List.mem_cons.mp taken with same | later
    · obtain ⟨rfl,found⟩ := Prod.mk.inj same
      exact List.find?_some found.symm
    · exact ih later
theorem pair_unfit {k : Key} (asked : k ∈ keys) (none_ : ∀ row, fits k row = false) :
    (k,none) ∈ (pair fits keys pool).1 := by
  rw [← pair_keys fits keys pool] at asked
  obtain ⟨⟨_,taken⟩,listed,rfl⟩ := List.mem_map.mp asked
  cases taken with
  | none => exact listed
  | some row =>
    have fit := taken_fits listed
    rw [none_ row] at fit
    cases fit

/-- When each key has a row of its own and no row fits two keys, every key takes its row and nothing
is left. -/
theorem pair_exact {pairs : List (Key × Row)} (all : pool.Perm (pairs.map Prod.snd))
    (fit : ∀ p ∈ pairs, fits p.1 p.2 = true)
    (apart : (pairs.map Prod.fst).Pairwise fun k k' => ∀ row, fits k' row = true → fits k row = false) :
    pair fits (pairs.map Prod.fst) pool = (pairs.map fun p => (p.1,some p.2),[]) := by
  induction pairs generalizing pool with
  | nil => rw [List.perm_nil.mp all]; rfl
  | cons p pairs ih =>
    obtain ⟨alone,apart⟩ := List.pairwise_cons.mp apart
    have others : ∀ row ∈ pairs.map Prod.snd, fits p.1 row = false := by
      intro row there
      obtain ⟨q,listed,rfl⟩ := List.mem_map.mp there
      exact alone q.1 (List.mem_map_of_mem listed) q.2 (fit q (List.mem_cons_of_mem p listed))
    have found : pool.find? (fits p.1) = some p.2 := by
      rw [List.find?_eq_find?_of_perm all]
      · exact List.find?_cons_of_pos (fit p List.mem_cons_self)
      · have single : ∀ row ∈ pool, fits p.1 row = true → row = p.2 := by
          intro row there fitting
          rcases List.mem_cons.mp (all.mem_iff.mp there) with same | listed
          · exact same
          · rw [others row listed] at fitting
            cases fitting
        rintro row ⟨there,fitting⟩ row' ⟨there',fitting'⟩
        rw [single row there fitting,single row' there' fitting']
    have left := (List.perm_cons p.2).mp ((find_perm_erase found).symm.trans all)
    rw [List.map_cons,pair,ih left (fun q listed => fit q (List.mem_cons_of_mem p listed)) apart,found]
    rfl

/-- Rows whose contents are those the keys ask for, brought into the order of the keys. -/
theorem pairs_in_order {Content : Type} {content : Row → Content} {want : Key → Content}
    (same : (pool.map content).Perm (keys.map want)) :
    ∃ pairs : List (Key × Row), pairs.map Prod.fst = keys ∧ pool.Perm (pairs.map Prod.snd) ∧
      ∀ p ∈ pairs, content p.2 = want p.1 := by
  have asked := congrFun (congrFun (List.eq_map_comp_perm content) (keys.map want)) pool
  obtain ⟨rows,images,order⟩ := asked.mpr same.symm
  have paired : ∃ pairs : List (Key × Row), pairs.map Prod.fst = keys ∧ pairs.map Prod.snd = rows ∧
      ∀ p ∈ pairs, content p.2 = want p.1 := by
    clear asked same order
    induction keys generalizing rows with
    | nil =>
      obtain rfl := List.map_eq_nil_iff.mp images.symm
      exact ⟨[],rfl,rfl,by simp⟩
    | cons k keys ih =>
      obtain ⟨row,rest,rfl,here,later⟩ := List.map_eq_cons_iff.mp images.symm
      obtain ⟨pairs,rfl,rfl,met⟩ := ih rest later.symm
      exact ⟨(k,row) :: pairs,rfl,rfl,List.forall_mem_cons.mpr ⟨here,met⟩⟩
  obtain ⟨pairs,rfl,rfl,met⟩ := paired
  exact ⟨pairs,rfl,order.symm,met⟩

theorem filter_erase_self : (pool.eraseP p).filter p = (pool.filter p).tail := by
  induction pool with
  | nil => rfl
  | cons head rest ih =>
    cases holds : p head with
    | true => rw [List.eraseP_cons_of_pos holds,List.filter_cons_of_pos holds,List.tail_cons]
    | false =>
      rw [List.eraseP_cons_of_neg (by simp [holds]),List.filter_cons_of_neg (by simp [holds]),
        List.filter_cons_of_neg (by simp [holds]),ih]
theorem filter_erase_other {p q : Row → Bool} (apart : ∀ row, p row = true → q row = false) :
    (pool.eraseP p).filter q = pool.filter q := by
  induction pool with
  | nil => rfl
  | cons head rest ih =>
    cases holds : p head with
    | true => rw [List.eraseP_cons_of_pos holds,List.filter_cons_of_neg (by simp [apart head holds])]
    | false => rw [List.eraseP_cons_of_neg (by simp [holds]),List.filter_cons,List.filter_cons,ih]

variable {Name : Type} [DecidableEq Name] {keyName : Key → Name} {rowName : Row → Name}
  (named : ∀ k row, fits k row = decide (rowName row = keyName k))
include named
variable {keys : List Key} {pool : List Row}
theorem pair_zip {k : Key} {row : Row} :
    (k,some row) ∈ (pair fits keys pool).1 ↔
      (k,row) ∈ (keys.filter fun x => keyName x = keyName k).zip (pool.filter fun r => rowName r = keyName k) := by
  induction keys generalizing pool with
  | nil => simp [pair]
  | cons head keys ih =>
    have fit : fits head = fun r => decide (rowName r = keyName head) := funext (named head)
    rw [pair,List.mem_cons,ih]
    by_cases same : keyName head = keyName k
    · rw [List.filter_cons_of_pos (by simpa using same),fit,same,filter_erase_self,← List.head?_filter]
      cases pool.filter fun r => rowName r = keyName k with
      | nil => simp
      | cons first rest => simp
    · have apart : ∀ r, fits head r = true → decide (rowName r = keyName k) = false := by
        intro r fitting
        rw [named] at fitting
        exact decide_eq_false fun other => same ((of_decide_eq_true fitting).symm.trans other)
      have other : (k,some row) ≠ (head,pool.find? (fits head)) :=
          fun met => same (congrArg (keyName ∘ Prod.fst) met.symm)
      rw [List.filter_cons_of_neg (by simpa using same),filter_erase_other apart]
      exact or_iff_right other

/-- A key takes a row when there are rows enough for the keys of its name. -/
theorem pair_served {k : Key} (asked : k ∈ keys)
    (enough : keys.countP (fun x => keyName x = keyName k) ≤ pool.countP fun r => rowName r = keyName k) :
    ∃ row, (k,some row) ∈ (pair fits keys pool).1 := by
  have there : k ∈ keys.filter fun x => keyName x = keyName k := List.mem_filter.mpr ⟨asked,by simp⟩
  rw [List.countP_eq_length_filter,List.countP_eq_length_filter] at enough
  rw [← List.map_fst_zip enough] at there
  obtain ⟨⟨_,row⟩,zipped,rfl⟩ := List.mem_map.mp there
  exact ⟨row,(pair_zip named).mpr zipped⟩

theorem pair_left (name : Name) :
    ((pair fits keys pool).2.filter fun r => rowName r = name) =
      (pool.filter fun r => rowName r = name).drop (keys.countP fun k => keyName k = name) := by
  induction keys generalizing pool with
  | nil => rfl
  | cons head keys ih =>
    have fit : fits head = fun r => decide (rowName r = keyName head) := funext (named head)
    rw [pair,ih]
    by_cases same : keyName head = name
    · rw [List.countP_cons_of_pos (by simpa using same),fit,same,filter_erase_self,← List.drop_one,
        List.drop_drop,Nat.add_comm]
    · rw [List.countP_cons_of_neg (by simpa using same),filter_erase_other]
      intro r fitting
      rw [named] at fitting
      exact decide_eq_false fun other => same ((of_decide_eq_true fitting).symm.trans other)

end Ngotag.Pairing
