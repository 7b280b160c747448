import Ngotag.KeyedTable
import Ngotag.Pairing

/-!
A table brought in line with a list of keys. A key that has taken a row gets that row changed, a key
without one gets a row created, and the rows nobody has taken go.
-/
namespace Ngotag.Reconciliation
open KeyedTable

theorem eq_of_nodup_filterMap {A B : Type} {f : A → Option B} {l : List A} (unique : (l.filterMap f).Nodup)
    {a a' : A} {b : B}
    (first : a ∈ l) (second : a' ∈ l) (image : f a = some b) (image' : f a' = some b) : a = a' := by
  induction l with
  | nil => simp at first
  | cons head rest ih =>
    rcases List.mem_cons.mp first with rfl | later
    · rcases List.mem_cons.mp second with rfl | later'
      · rfl
      · rw [List.filterMap_cons_some image] at unique
        exact absurd (List.mem_filterMap.mpr ⟨a',later',image'⟩) (List.nodup_cons.mp unique).1
    · rcases List.mem_cons.mp second with rfl | later'
      · rw [List.filterMap_cons_some image'] at unique
        exact absurd (List.mem_filterMap.mpr ⟨a,later,image⟩) (List.nodup_cons.mp unique).1
      · refine ih ?_ later later'
        cases found : f head with
        | none => rwa [List.filterMap_cons_none found] at unique
        | some _ => exact (List.nodup_cons.mp (List.filterMap_cons_some found ▸ unique)).2

theorem serials_unique {A Id : Type} {serial : Nat → Id} (apart : Function.Injective serial) (l : List A) :
    (l.zipIdx.map fun p => serial p.2).Nodup := by
  have same : l.zipIdx.map (fun p => serial p.2) = (l.zipIdx.map Prod.snd).map serial := by rw [List.map_map]; rfl
  rw [same,List.zipIdx_map_snd]
  exact List.Nodup.map apart List.nodup_range'

variable {Key Row Id Update : Type} [DecidableEq Id] {key : Row → Id} {pool : List Row} {pairs : List (Key × Option Row)}
  {rest : List Row} {k k' : Key} {row row' : Row}
omit [DecidableEq Id] in
theorem targets_sublist {target : Update → Id} {update : Key → Row → Option Update}
    (aimed : ∀ k row u, update k row = some u → target u = key row) :
    ((pairs.filterMap fun p => p.2.bind (update p.1)).map target).Sublist ((pairs.filterMap Prod.snd).map key) := by
  induction pairs with
  | nil => exact .slnil
  | cons p pairs ih =>
    obtain ⟨k,_ | row⟩ := p
    · exact ih
    · rw [List.filterMap_cons_some (f := Prod.snd) rfl,List.map_cons]
      cases updated : update k row with
      | none =>
        rw [List.filterMap_cons_none (by exact updated)]
        exact ih.cons _
      | some u =>
        rw [List.filterMap_cons_some (by exact updated),List.map_cons,aimed k row u updated]
        exact ih.cons_cons _

section
variable (unique : (pool.map key).Nodup) (all : pool.Perm (pairs.filterMap Prod.snd ++ rest))
include unique all

omit [DecidableEq Id] in
theorem split_unique : ((pairs.filterMap Prod.snd ++ rest).map key).Nodup := (all.map key).nodup_iff.mp unique
omit [DecidableEq Id] in
theorem taken_unique : ((pairs.filterMap Prod.snd).map key).Nodup :=
  (split_unique unique all).sublist ((List.sublist_append_left _ rest).map key)
omit [DecidableEq Id] in
theorem taken_apart (taken : (k,some row) ∈ pairs) : key row ∉ rest.map key := by
  have apart := split_unique unique all
  rw [List.map_append] at apart
  exact fun left => (List.disjoint_of_nodup_append apart)
    (List.mem_map_of_mem (List.mem_filterMap.mpr ⟨_,taken,rfl⟩)) left

omit [DecidableEq Id] in
theorem own_pair (taken : (k,some row) ∈ pairs) (taken' : (k',some row') ∈ pairs) (same : key row = key row') :
    k = k' ∧ row = row' := by
  have distinct := taken_unique unique all
  obtain rfl : row = row' := List.inj_on_of_nodup_map distinct (List.mem_filterMap.mpr ⟨_,taken,rfl⟩)
    (List.mem_filterMap.mpr ⟨_,taken',rfl⟩) same
  exact ⟨(Prod.mk.inj (eq_of_nodup_filterMap distinct.of_map taken taken' rfl rfl)).1,rfl⟩

theorem changed_taken (target : Update → Id) (f : Update → Row → Row) (kept : ∀ u row, key (f u row) = key row)
    (update : Key → Row → Option Update) (aimed : ∀ k row u, update k row = some u → target u = key row)
    (taken : (k,some row) ∈ pairs) :
    changed target f key (pairs.filterMap fun p => p.2.bind (update p.1)) row =
      (update k row).elim row fun u => f u row := by
  have own : ∀ u ∈ pairs.filterMap (fun p => p.2.bind (update p.1)), target u = key row → update k row = some u := by
    intro u listed meant
    obtain ⟨⟨other,found⟩,there,bound⟩ := List.mem_filterMap.mp listed
    obtain ⟨row',rfl,updated⟩ := Option.bind_eq_some_iff.mp bound
    obtain ⟨rfl,rfl⟩ := own_pair unique all there taken ((aimed _ _ _ updated).symm.trans meant)
    exact updated
  cases updated : update k row with
  | none =>
    refine changed_other fun u listed same => ?_
    rw [own u listed same.symm] at updated
    cases updated
  | some u =>
    refine changed_once kept ?_ (List.mem_filterMap.mpr ⟨_,taken,updated⟩) (aimed _ _ _ updated).symm
    exact (taken_unique unique all).sublist (targets_sublist aimed)

theorem filter_taken {gone : Row → Bool} (meant : ∀ row, gone row = decide (key row ∈ rest.map key)) :
    (pool.filter fun row => !gone row).Perm (pairs.filterMap Prod.snd) := by
  have front : (pairs.filterMap Prod.snd).filter (fun row => !gone row) = pairs.filterMap Prod.snd := by
    refine List.filter_eq_self.mpr fun row there => ?_
    obtain ⟨⟨k,_⟩,taken,rfl⟩ := List.mem_filterMap.mp there
    simp only [meant,taken_apart unique all taken,decide_false,Bool.not_false]
  have back : rest.filter (fun row => !gone row) = [] := by
    refine List.filter_eq_nil_iff.mpr fun row there => ?_
    simp only [meant,List.mem_map_of_mem there,decide_true,Bool.not_true,Bool.false_eq_true,not_false_eq_true]
  have split := all.filter fun row => !gone row
  rwa [List.filter_append,front,back,List.append_nil] at split

end

/-- The rows changed and those created are together what the keys ask for. -/
theorem reconciled {Content : Type} (content : Row → Content) (want : Key → Content) {change : Row → Row}
    {created : List Row}
    (met : ∀ k row, (k,some row) ∈ pairs → content (change row) = want k)
    (made : created.map content = (pairs.filter fun p => p.2.isNone).map fun p => want p.1) :
    (((pairs.filterMap Prod.snd).map change ++ created).map content).Perm (pairs.map fun p => want p.1) := by
  have taken : ((pairs.filterMap Prod.snd).map change).map content =
      (pairs.filter fun p => !p.2.isNone).map fun p => want p.1 := by
    clear made
    induction pairs with
    | nil => rfl
    | cons p pairs ih =>
      have later := ih fun k row listed => met k row (List.mem_cons_of_mem p listed)
      obtain ⟨k,_ | row⟩ := p
      · simpa using later
      · simpa [met k row List.mem_cons_self] using later
  rw [List.map_append,taken,made,← List.map_append]
  exact (List.perm_append_comm.trans (List.filter_append_perm _ pairs)).map _

end Ngotag.Reconciliation
