import Ngotag.BhutanPlan
import Ngotag.Grouping
import Ngotag.Reconciliation

/-!
Bhutan's states and cities after the plan has been applied: one state for each dzongkhag, one city
under it for each gewog, and no other.
-/
namespace Ngotag.BhutanSync
open Pairing KeyedTable Reconciliation BhutanPlan

structure Organisation where
  id : Int
  stateId : Option Int
  cityId : Option Int
structure Geo where
  states : Keyed DbState.id
  cities : Keyed DbCity.id
  organisations : List Organisation
structure Serials where
  state : Nat → Int
  city : Nat → Int

section
variable (countryId : Int) (serials : Serials)

def updateState (u s : DbState) : DbState := { u with id := s.id }
theorem updateState_id (u s : DbState) : (updateState u s).id = s.id := rfl
/-- A field without a value is left as it is. -/
def updateCity (u : CityUpdate) (c : DbCity) : DbCity :=
  { c with name := u.name, stateId := u.stateId.getD c.stateId, stateCode := u.stateCode, countryId }
theorem updateCity_id (u : CityUpdate) (c : DbCity) : (updateCity countryId u c).id = c.id := rfl
def createdStates (dzongkhags : List Dzongkhag) : List DbState :=
  dzongkhags.zipIdx.map fun p => stateRow countryId (serials.state p.2) p.1
def createdStateIds (created : List DbState) : List (String × Int) := (created.map fun s => (s.isoCode,s.id)).reverse
def createdCity (stateIds : List (String × Int)) (p : CityCreate × Nat) : Option DbCity :=
  (p.1.stateId.or (stateIds.lookup p.1.stateCode)).map fun stateId =>
    { id := serials.city p.2, name := p.1.name, stateId, stateCode := p.1.stateCode, countryId }
def cleared (deletes : List Int) (reference : Option Int) : Option Int := reference.filter fun id => id ∉ deletes

/-- The transaction; nothing where it throws. Deleting a state deletes its cities. -/
def applyPlan (plan : BhutanSyncPlan) (geo : Geo) : Option Geo := do
  let updated := geo.states.changeAll DbState.id updateState updateState_id plan.stateUpdates
  let created := createdStates countryId serials plan.stateCreates
  let states ← updated.insertAll created
  let organisations := geo.organisations.map fun o =>
    { o with stateId := cleared plan.stateDeletes o.stateId, cityId := cleared plan.cityDeletes o.cityId }
  let cities := geo.cities.delete fun c => c.id ∈ plan.cityDeletes
  let states := states.delete fun s => s.id ∈ plan.stateDeletes
  let cities := cities.delete fun c => c.stateId ∈ plan.stateDeletes
  let cities := cities.changeAll CityUpdate.id (updateCity countryId) (updateCity_id countryId) plan.cityUpdates
  let rows ← plan.cityCreates.zipIdx.mapM (createdCity countryId serials (createdStateIds created))
  let cities ← cities.insertAll rows
  return { states, cities, organisations }

def syncBhutanAddress (dzongkhags : List Dzongkhag) (geo : Geo) : Option Geo :=
  let plan := planBhutanSync countryId dzongkhags geo.states.rows geo.cities.rows
  if plan.hasChanges then applyPlan countryId serials plan geo else some geo
end

def content (c : DbCity) : String × Int × String × Int := (c.name,c.stateId,c.stateCode,c.countryId)
/-- One state for each dzongkhag, one city under it for each gewog, and no other. -/
structure Synced (countryId : Int) (dzongkhags : List Dzongkhag) (idOf : String → Int) (states : List DbState)
    (cities : List DbCity) : Prop where
  states : states.Perm (dzongkhags.map fun dz => stateRow countryId (idOf dz.dzongkhagId) dz)
  cities : (cities.map content).Perm (dzongkhags.flatMap fun dz =>
    dz.gewogs.map fun gewog => (gewog.gewogName,idOf dz.dzongkhagId,dz.dzongkhagId,countryId))
/-- What the address master is promised to be. -/
structure Master (dzongkhags : List Dzongkhag) : Prop where
  ids : (dzongkhags.map Dzongkhag.dzongkhagId).Nodup
  names : (dzongkhags.map fun dz => BhutanPlan.normalize dz.dzongkhagName).Nodup
  aliases : ∀ dz ∈ dzongkhags, BhutanPlan.normalize dz.dzongkhagName ∉ JsObject.keys legacyStateAliases
  gewogs : ∀ dz ∈ dzongkhags, (dz.gewogs.map fun gewog => BhutanPlan.normalize gewog.gewogName).Nodup
/-- The serials give new ids, each once. -/
structure Fresh (serials : Serials) (geo : Geo) : Prop where
  state : Function.Injective serials.state
  newState : ∀ n, ∀ s ∈ geo.states.rows, s.id ≠ serials.state n
  city : Function.Injective serials.city
  newCity : ∀ n, ∀ c ∈ geo.cities.rows, c.id ≠ serials.city n

section
variable (countryId : Int) (serials : Serials) (dzongkhags : List Dzongkhag) (states : List DbState)

def toCreate : List Dzongkhag :=
  dzongkhags.filter fun dz => (claimedIds dzongkhags states).lookup dz.dzongkhagId = none
def stateOf (dzongkhagId : String) : Option Int :=
  ((claimedIds dzongkhags states).lookup dzongkhagId).or
    ((createdStateIds (createdStates countryId serials (toCreate dzongkhags states))).lookup dzongkhagId)
def idOf (dzongkhagId : String) : Int := (stateOf countryId serials dzongkhags states dzongkhagId).getD 0

variable {countryId serials dzongkhags states}

section

variable (distinct : (dzongkhags.map Dzongkhag.dzongkhagId).Nodup)
include distinct
theorem stateOf_created {p : Dzongkhag × Nat} (listed : p ∈ (toCreate dzongkhags states).zipIdx) :
    stateOf countryId serials dzongkhags states p.1.dzongkhagId = some (serials.state p.2) := by
  have unclaimed : (claimedIds dzongkhags states).lookup p.1.dzongkhagId = none := by
    have there := List.fst_mem_of_mem_zipIdx listed
    exact of_decide_eq_true (List.mem_filter.mp there).2
  have keys : ((createdStateIds (createdStates countryId serials (toCreate dzongkhags states))).map Prod.fst).Nodup := by
    have same : (createdStateIds (createdStates countryId serials (toCreate dzongkhags states))).map Prod.fst =
        ((toCreate dzongkhags states).map Dzongkhag.dzongkhagId).reverse := by
      conv_rhs => rw [← List.zipIdx_map_fst 0 (toCreate dzongkhags states),List.map_map]
      simp [createdStateIds,createdStates,stateRow,Function.comp_def]
    rw [same]
    exact List.nodup_reverse.mpr (distinct.sublist (List.filter_sublist.map _))
  rw [stateOf,unclaimed,Option.none_or]
  refine Grouping.lookup_of_mem keys (List.mem_reverse.mpr (List.mem_map.mpr ⟨_,List.mem_map_of_mem listed,rfl⟩))

theorem stateOf_idOf {dz : Dzongkhag} (listed : dz ∈ dzongkhags) :
    stateOf countryId serials dzongkhags states dz.dzongkhagId =
    some (idOf countryId serials dzongkhags states dz.dzongkhagId) := by
  have found : ∃ id, stateOf countryId serials dzongkhags states dz.dzongkhagId = some id := by
    cases claimed : (claimedIds dzongkhags states).lookup dz.dzongkhagId with
    | some id => exact ⟨id,by rw [stateOf,claimed]; rfl⟩
    | none =>
      have new : dz ∈ toCreate dzongkhags states := List.mem_filter.mpr ⟨listed,by simp [claimed]⟩
      rw [← List.zipIdx_map_fst 0 (toCreate dzongkhags states)] at new
      obtain ⟨p,there,rfl⟩ := List.mem_map.mp new
      exact ⟨_,stateOf_created distinct there⟩
  obtain ⟨id,found⟩ := found
  rw [idOf,found]
  rfl

theorem created_eq :
    createdStates countryId serials (toCreate dzongkhags states) =
      (toCreate dzongkhags states).map fun dz =>
        stateRow countryId (idOf countryId serials dzongkhags states dz.dzongkhagId) dz := by
  conv_rhs => rw [← List.zipIdx_map_fst 0 (toCreate dzongkhags states),List.map_map]
  refine List.map_congr_left fun p listed => ?_
  rw [Function.comp_apply,idOf,stateOf_created distinct listed]
  rfl
theorem toCreate_eq :
    toCreate dzongkhags states = ((statePairs dzongkhags states).1.filter fun p => p.2.isNone).map Prod.fst := by
  have split : toCreate dzongkhags states = ((statePairs dzongkhags states).1.map Prod.fst).filter fun dz =>
      (claimedIds dzongkhags states).lookup dz.dzongkhagId = none := by
    rw [statePairs,pair_keys]
    rfl
  rw [split,List.filter_map]
  refine congrArg (List.map Prod.fst) (List.filter_congr fun p listed => ?_)
  rw [Function.comp_apply,lookup_claimed distinct listed]
  cases p.2 <;> rfl
theorem idOf_taken {dz : Dzongkhag} {s : DbState}
    (taken : (dz,some s) ∈ (statePairs dzongkhags states).1) :
    idOf countryId serials dzongkhags states dz.dzongkhagId = s.id := by
  rw [idOf,stateOf,lookup_claimed distinct taken]
  rfl
end
end
section
variable {countryId : Int} {serials : Serials} {dzongkhags : List Dzongkhag} {states : Keyed DbState.id}

variable (countryId dzongkhags states) in
def stateUpdates : List DbState :=
  (statePairs dzongkhags states.rows).1.filterMap fun p => p.2.bind (stateUpdate countryId p.1)
variable (countryId serials dzongkhags states) in
theorem states_synced (distinct : (dzongkhags.map Dzongkhag.dzongkhagId).Nodup)
    (apart : Function.Injective serials.state)
    (fresh : ∀ n, ∀ s ∈ states.rows, s.id ≠ serials.state n) :
    ∃ grown, (states.changeAll DbState.id updateState updateState_id (stateUpdates countryId dzongkhags states)).insertAll
        (createdStates countryId serials (toCreate dzongkhags states.rows)) = some grown ∧
      (grown.delete fun s => s.id ∈ (statePairs dzongkhags states.rows).2.map DbState.id).rows.Perm
        (dzongkhags.map fun dz => stateRow countryId (idOf countryId serials dzongkhags states.rows dz.dzongkhagId) dz) := by
  have all := pair_perm nameMatches dzongkhags states.rows
  have unique := states.unique
  have newApart : ((createdStates countryId serials (toCreate dzongkhags states.rows)).map DbState.id).Nodup := by
    rw [createdStates,List.map_map]
    exact serials_unique apart _
  have new : ∀ s ∈ createdStates countryId serials (toCreate dzongkhags states.rows), ∀ old ∈ states.rows,
      old.id ≠ s.id := by
    intro s listed old there
    obtain ⟨p,_,rfl⟩ := List.mem_map.mp listed
    exact fresh p.2 old there
  obtain ⟨grown,inserted,order⟩ := Keyed.changeAll_insertAll DbState.id updateState updateState_id
    (stateUpdates countryId dzongkhags states) new newApart
  refine ⟨grown,inserted,?_⟩
  let change := changed DbState.id updateState DbState.id (stateUpdates countryId dzongkhags states)
  let gone := fun s : DbState => decide (s.id ∈ (statePairs dzongkhags states.rows).2.map DbState.id)
  have keyed : ∀ s, (change s).id = s.id := fun s => key_changed fun _ _ => rfl
  have old : ((states.rows.map change).filter fun s => !gone s).Perm
      (((statePairs dzongkhags states.rows).1.filterMap Prod.snd).map change) := by
    rw [List.filter_map]
    have same : ((fun s => !gone s) ∘ change) = fun s => !gone s := by
      funext s
      simp only [Function.comp_apply,gone,keyed]
    rw [same]
    exact (filter_taken unique all fun _ => rfl).map change
  have created : (createdStates countryId serials (toCreate dzongkhags states.rows)).filter (fun s => !gone s) =
      createdStates countryId serials (toCreate dzongkhags states.rows) := by
    refine List.filter_eq_self.mpr fun s listed => ?_
    have kept : s.id ∉ (statePairs dzongkhags states.rows).2.map DbState.id := by
      intro left
      obtain ⟨other,there,same⟩ := List.mem_map.mp left
      exact new s listed other (all.mem_iff.mpr (List.mem_append_right _ there)) same
    simp only [gone,kept,decide_false,Bool.not_false]
  have rows := order.filter fun s => !gone s
  rw [List.filter_append,created] at rows
  refine rows.trans ((old.append_right _).trans ?_)
  have met : ∀ dz s, (dz,some s) ∈ (statePairs dzongkhags states.rows).1 →
      change s = stateRow countryId (idOf countryId serials dzongkhags states.rows dz.dzongkhagId) dz := by
    intro dz s taken
    rw [idOf_taken distinct taken]
    refine (changed_taken unique all DbState.id updateState updateState_id (stateUpdate countryId)
      (fun dz s u updated => by rw [stateUpdate_some updated]; rfl) taken).trans ?_
    cases updated : stateUpdate countryId dz s with
    | some u => rw [stateUpdate_some updated]; rfl
    | none => exact stateUpdate_none.mp updated
  have made : createdStates countryId serials (toCreate dzongkhags states.rows) =
      ((statePairs dzongkhags states.rows).1.filter fun p => p.2.isNone).map fun p =>
        stateRow countryId (idOf countryId serials dzongkhags states.rows p.1.dzongkhagId) p.1 := by
    rw [created_eq distinct,toCreate_eq distinct,List.map_map]
    rfl
  have done :=
      reconciled id (fun dz => stateRow countryId (idOf countryId serials dzongkhags states.rows dz.dzongkhagId) dz) met
    ((List.map_id _).trans made)
  rw [List.map_id] at done
  refine done.trans (.of_eq ?_)
  exact pair_map nameMatches
      (fun dz => stateRow countryId (idOf countryId serials dzongkhags states.rows dz.dzongkhagId) dz)
    dzongkhags states.rows

end
section
variable (countryId : Int) (dzongkhags : List Dzongkhag) (ids : List (String × Int)) (cities : List DbCity)

def allPairs : List ((Dzongkhag × Gewog) × Option DbCity) :=
  dzongkhags.flatMap fun dz => (cityPairs cities (ids.lookup dz.dzongkhagId) dz).map fun p => ((dz,p.1),p.2)
def updateOf (k : Dzongkhag × Gewog) (city : DbCity) : Option CityUpdate :=
  cityUpdate countryId (ids.lookup k.1.dzongkhagId) k.1 k.2 city
def createOf (k : Dzongkhag × Gewog) : CityCreate :=
  { name := k.2.gewogName, stateId := ids.lookup k.1.dzongkhagId, stateCode := k.1.dzongkhagId }
theorem allPairs_kept : (allPairs dzongkhags ids cities).filterMap Prod.snd =
    dzongkhags.flatMap fun dz => kept (cityPairs cities (ids.lookup dz.dzongkhagId) dz) := by
  simp only [allPairs,List.filterMap_flatMap,List.filterMap_map,Function.comp_def,kept]
theorem allPairs_updates :
    (dzongkhags.flatMap fun dz => (cityPairs cities (ids.lookup dz.dzongkhagId) dz).filterMap fun p =>
      p.2.bind (cityUpdate countryId (ids.lookup dz.dzongkhagId) dz p.1)) =
    (allPairs dzongkhags ids cities).filterMap fun p => p.2.bind (updateOf countryId ids p.1) := by
  simp only [allPairs,List.filterMap_flatMap,List.filterMap_map,Function.comp_def]
  rfl
theorem allPairs_creates :
    (dzongkhags.flatMap fun dz => (cityPairs cities (ids.lookup dz.dzongkhagId) dz).filterMap
      (cityCreate (ids.lookup dz.dzongkhagId) dz)) =
    ((allPairs dzongkhags ids cities).filter fun p => p.2.isNone).map fun p => createOf ids p.1 := by
  rw [← List.filterMap_eq_map',List.filterMap_filter]
  simp only [allPairs,List.filterMap_flatMap,List.filterMap_map,Function.comp_def]
  refine List.flatMap_congr fun dz _ => List.filterMap_congr fun p _ => ?_
  cases found : p.2 <;> simp [cityCreate,createOf,found]
theorem allPairs_map {A : Type} (f : Dzongkhag × Gewog → A) :
    (allPairs dzongkhags ids cities).map (fun p => f p.1) = dzongkhags.flatMap fun dz => dz.gewogs.map fun gewog =>
    f (dz,gewog) := by
  simp only [allPairs,List.map_flatMap,List.map_map,Function.comp_def]
  exact List.flatMap_congr fun dz _ => pair_map gewogMatches (fun gewog => f (dz,gewog)) dz.gewogs _

variable {dzongkhags ids cities}
theorem mem_allPairs {k : Dzongkhag × Gewog} {taken : Option DbCity}
    (listed : (k,taken) ∈ allPairs dzongkhags ids cities) :
    k.1 ∈ dzongkhags ∧ (k.2,taken) ∈ cityPairs cities (ids.lookup k.1.dzongkhagId) k.1 := by
  obtain ⟨dz,there,inside⟩ := List.mem_flatMap.mp listed
  obtain ⟨p,paired,same⟩ := List.mem_map.mp inside
  cases same
  exact ⟨there,paired⟩
theorem taken_city {dz : Dzongkhag} {gewog : Gewog} {city : DbCity} {stateId : Option Int}
    (taken : (gewog,some city) ∈ cityPairs cities stateId dz) : city ∈ cities ∧ some city.stateId = stateId := by
  have there := taken_mem taken
  exact ⟨List.mem_of_mem_filter there,of_decide_eq_true (List.mem_filter.mp there).2⟩

theorem kept_unique (distinct : (dzongkhags.map Dzongkhag.dzongkhagId).Nodup) (unique : cities.Nodup)
    (apart : ∀ x y id, ids.lookup x = some id → ids.lookup y = some id → x = y) :
    ((allPairs dzongkhags ids cities).filterMap Prod.snd).Nodup := by
  rw [allPairs_kept,List.nodup_flatMap]
  constructor
  · intro dz _
    have all := pair_perm gewogMatches dz.gewogs (citiesOf cities (ids.lookup dz.dzongkhagId))
    exact (all.nodup_iff.mp (unique.filter _)).of_append_left
  · refine (List.pairwise_map.mp distinct).imp fun {dz dz'} different city first second => ?_
    obtain ⟨⟨gewog,_⟩,taken,rfl⟩ := List.mem_filterMap.mp first
    obtain ⟨⟨gewog',_⟩,taken',same⟩ := List.mem_filterMap.mp second
    cases same
    exact different (apart _ _ _ (taken_city taken).2.symm (taken_city taken').2.symm)

theorem mapM_total {A B : Type} {f : A → Option B} {g : A → B} {l : List A} (each : ∀ a ∈ l, f a = some (g a)) :
    l.mapM f = some (l.map g) := by
  induction l with
  | nil => rfl
  | cons a rest ih =>
    rw [List.mapM_cons,each a List.mem_cons_self,ih fun b there => each b (List.mem_cons_of_mem a there)]
    rfl

end
section
variable {countryId : Int} {serials : Serials} {dzongkhags : List Dzongkhag} {ids : List (String × Int)}
  {cities : Keyed DbCity.id}

variable (dzongkhags ids cities) in
def untaken : List DbCity :=
  cities.rows.filter fun c => c.id ∉ ((allPairs dzongkhags ids cities.rows).filterMap Prod.snd).map DbCity.id
theorem cities_split (distinct : (dzongkhags.map Dzongkhag.dzongkhagId).Nodup)
    (apart : ∀ x y id, ids.lookup x = some id → ids.lookup y = some id → x = y) :
    cities.rows.Perm ((allPairs dzongkhags ids cities.rows).filterMap Prod.snd ++ untaken dzongkhags ids cities) := by
  have taken : (cities.rows.filter fun c =>
      decide (c.id ∈ ((allPairs dzongkhags ids cities.rows).filterMap Prod.snd).map DbCity.id)).Perm
        ((allPairs dzongkhags ids cities.rows).filterMap Prod.snd) := by
    refine (List.perm_ext_iff_of_nodup (cities.unique.of_map.filter _)
      (kept_unique distinct cities.unique.of_map apart)).mpr fun c => ?_
    have inside : ∀ other ∈ (allPairs dzongkhags ids cities.rows).filterMap Prod.snd, other ∈ cities.rows := by
      intro other there
      obtain ⟨⟨k,_⟩,listed,rfl⟩ := List.mem_filterMap.mp there
      exact (taken_city (mem_allPairs listed).2).1
    constructor
    · intro there
      obtain ⟨member,same⟩ := List.mem_filter.mp there
      obtain ⟨other,listed,same⟩ := List.mem_map.mp (of_decide_eq_true same)
      exact cities.eq_of_key (inside other listed) member same ▸ listed
    · intro there
      exact List.mem_filter.mpr ⟨inside c there,decide_eq_true (List.mem_map_of_mem there)⟩
  have split := List.filter_append_perm (fun c : DbCity =>
    decide (c.id ∈ ((allPairs dzongkhags ids cities.rows).filterMap Prod.snd).map DbCity.id)) cities.rows
  refine split.symm.trans ((taken.append_right _).trans (.of_eq ?_))
  simp only [untaken,decide_not]

variable (countryId serials dzongkhags ids cities) in
theorem cities_synced {stateIds : List (String × Int)} {idOf : String → Int} {gone : List Int}
    (distinct : (dzongkhags.map Dzongkhag.dzongkhagId).Nodup)
    (apart : ∀ x y id, ids.lookup x = some id → ids.lookup y = some id → x = y)
    (found : ∀ dz ∈ dzongkhags, (ids.lookup dz.dzongkhagId).or (stateIds.lookup dz.dzongkhagId) = some (idOf dz.dzongkhagId))
    (alive : ∀ x id, ids.lookup x = some id → id ∉ gone) (serial : Function.Injective serials.city)
    (fresh : ∀ n, ∀ c ∈ cities.rows, c.id ≠ serials.city n) :
    ∃ rows grown,
      (((allPairs dzongkhags ids cities.rows).filter fun p => p.2.isNone).map fun p => createOf ids p.1).zipIdx.mapM
        (createdCity countryId serials stateIds) = some rows ∧
      ((((cities.delete fun c => c.id ∈ (untaken dzongkhags ids cities).map DbCity.id).delete fun c => c.stateId ∈ gone).changeAll
        CityUpdate.id (updateCity countryId) (updateCity_id countryId)
        ((allPairs dzongkhags ids cities.rows).filterMap fun p => p.2.bind (updateOf countryId ids p.1))).insertAll
            rows) = some grown ∧
      (grown.rows.map content).Perm (dzongkhags.flatMap fun dz =>
        dz.gewogs.map fun gewog => (gewog.gewogName,idOf dz.dzongkhagId,dz.dzongkhagId,countryId)) := by
  have all : cities.rows.Perm _ := cities_split distinct apart
  have unique := cities.unique
  let creates := ((allPairs dzongkhags ids cities.rows).filter fun p => p.2.isNone).map fun p => createOf ids p.1
  let row := fun p : CityCreate × Nat =>
    { id := serials.city p.2, name := p.1.name, stateId := idOf p.1.stateCode, stateCode :=
        p.1.stateCode, countryId : DbCity }
  let left := (cities.delete fun c => c.id ∈ (untaken dzongkhags ids cities).map DbCity.id).delete fun c =>
      c.stateId ∈ gone
  have made : creates.zipIdx.mapM (createdCity countryId serials stateIds) = some (creates.zipIdx.map row) := by
    refine mapM_total fun p listed => ?_
    obtain ⟨q,there,same⟩ := List.mem_map.mp (List.fst_mem_of_mem_zipIdx listed)
    have state := found q.1.1 (mem_allPairs (List.mem_of_mem_filter there)).1
    rw [createdCity,← same]
    simp only [createOf,state,Option.map_some,row,← same]
  have remaining : left.rows.Perm ((allPairs dzongkhags ids cities.rows).filterMap Prod.snd) := by
    have first := (filter_taken unique all fun _ => rfl).filter fun c => !decide (c.stateId ∈ gone)
    refine first.trans (.of_eq (List.filter_eq_self.mpr fun c there => ?_))
    obtain ⟨⟨k,_⟩,listed,rfl⟩ := List.mem_filterMap.mp there
    simp [alive k.1.dzongkhagId c.stateId (taken_city (mem_allPairs listed).2).2.symm]
  have new : ∀ c ∈ creates.zipIdx.map row, ∀ old ∈ left.rows, old.id ≠ c.id := by
    intro c listed old there
    obtain ⟨p,_,rfl⟩ := List.mem_map.mp listed
    exact fresh p.2 old (List.mem_of_mem_filter (List.mem_of_mem_filter there))
  have newApart : ((creates.zipIdx.map row).map DbCity.id).Nodup := by
    rw [List.map_map]
    exact serials_unique serial _
  obtain ⟨grown,inserted,order⟩ :=
      Keyed.changeAll_insertAll CityUpdate.id (updateCity countryId) (updateCity_id countryId)
    ((allPairs dzongkhags ids cities.rows).filterMap fun p => p.2.bind (updateOf countryId ids p.1)) new newApart
  refine ⟨_,grown,made,inserted,((order.trans ((remaining.map _).append_right _)).map content).trans ?_⟩
  let want := fun k : Dzongkhag × Gewog => (k.2.gewogName,idOf k.1.dzongkhagId,k.1.dzongkhagId,countryId)
  rw [← allPairs_map dzongkhags ids cities.rows want]
  refine reconciled content want ?_ ?_
  · intro k city taken
    obtain ⟨listed,paired⟩ := mem_allPairs taken
    have state : idOf k.1.dzongkhagId = city.stateId := by
      have known := found k.1 listed
      rw [← (taken_city paired).2] at known
      exact (Option.some.inj known).symm
    rw [changed_taken unique all CityUpdate.id (updateCity countryId) (updateCity_id countryId) (updateOf countryId ids)
      (fun _ _ _ updated => by rw [cityUpdate_some updated]) taken]
    cases updated : updateOf countryId ids k city with
    | some u =>
      rw [cityUpdate_some updated]
      simp [updateCity,content,want,← (taken_city paired).2,state]
    | none =>
      obtain ⟨name,code,country⟩ := cityUpdate_none.mp updated
      simp [content,want,name,code,country,state]
  · have each : (creates.zipIdx.map row).map content =
        (creates.zipIdx.map Prod.fst).map fun c => (c.name,idOf c.stateCode,c.stateCode,countryId) := by
      rw [List.map_map,List.map_map]
      rfl
    rw [each,List.zipIdx_map_fst,List.map_map]
    rfl

end
variable {countryId : Int} {serials : Serials} {dzongkhags : List Dzongkhag} {geo : Geo} {plan : BhutanSyncPlan}

theorem delete_none {Row Id : Type} {key : Row → Id} {t : Keyed key} {test : Row → Bool}
    (none_ : ∀ row, test row = false) :
    t.delete test = t := by
  obtain ⟨rows,unique⟩ := t
  simp [Keyed.delete,none_]
theorem applyPlan_unchanged (unchanged : plan.hasChanges = false) : applyPlan countryId serials plan geo = some geo := by
  obtain ⟨stateUpdates,stateCreates,stateDeletes,cityUpdates,cityCreates,cityDeletes⟩ := plan
  simp only [BhutanSyncPlan.hasChanges,ne_eq,Bool.or_eq_false_iff,decide_eq_false_iff_not,Decidable.not_not] at unchanged
  obtain ⟨⟨⟨⟨⟨rfl,rfl⟩,rfl⟩,rfl⟩,rfl⟩,rfl⟩ := unchanged
  have cleared_none : ∀ reference, cleared [] reference = reference := by
    intro reference
    cases reference <;> simp [cleared]
  simp [applyPlan,Keyed.changeAll,createdStates,Keyed.insertAll,delete_none,cleared_none]
theorem syncBhutanAddress_eq : syncBhutanAddress countryId serials dzongkhags geo =
    applyPlan countryId serials (planBhutanSync countryId dzongkhags geo.states.rows geo.cities.rows) geo := by
  rw [syncBhutanAddress]
  split
  · rfl
  · next unchanged => exact (applyPlan_unchanged (by simpa using unchanged)).symm

theorem applyPlan_done {grown : Keyed DbState.id} {rows : List DbCity} {filled : Keyed DbCity.id}
    (inserted : (geo.states.changeAll DbState.id updateState updateState_id plan.stateUpdates).insertAll
      (createdStates countryId serials plan.stateCreates) = some grown)
    (made : plan.cityCreates.zipIdx.mapM
      (createdCity countryId serials (createdStateIds (createdStates countryId serials plan.stateCreates))) = some rows)
    (placed : (((geo.cities.delete fun c => c.id ∈ plan.cityDeletes).delete fun c => c.stateId ∈ plan.stateDeletes).changeAll
      CityUpdate.id (updateCity countryId) (updateCity_id countryId) plan.cityUpdates).insertAll rows = some filled) :
    applyPlan countryId serials plan geo = some
      { states := grown.delete fun s => s.id ∈ plan.stateDeletes
        cities := filled
        organisations := geo.organisations.map fun o =>
          { o with stateId := cleared plan.stateDeletes o.stateId, cityId := cleared plan.cityDeletes o.cityId } } := by
  simp only [applyPlan,inserted,made,Option.bind_eq_bind,Option.bind_some,placed]
  rfl

variable (countryId) in
theorem plan_fields (states : Keyed DbState.id) (cities : Keyed DbCity.id)
    (distinct : (dzongkhags.map Dzongkhag.dzongkhagId).Nodup) :
    (planBhutanSync countryId dzongkhags states.rows cities.rows).stateUpdates =
        stateUpdates countryId dzongkhags states ∧
    (planBhutanSync countryId dzongkhags states.rows cities.rows).stateCreates = toCreate dzongkhags states.rows ∧
    (planBhutanSync countryId dzongkhags states.rows cities.rows).stateDeletes =
      (statePairs dzongkhags states.rows).2.map DbState.id ∧
    (planBhutanSync countryId dzongkhags states.rows cities.rows).cityUpdates =
      ((allPairs dzongkhags (claimedIds dzongkhags states.rows) cities.rows).filterMap fun p =>
        p.2.bind (updateOf countryId (claimedIds dzongkhags states.rows) p.1)) ∧
    (planBhutanSync countryId dzongkhags states.rows cities.rows).cityCreates =
      (((allPairs dzongkhags (claimedIds dzongkhags states.rows) cities.rows).filter fun p => p.2.isNone).map fun p =>
        createOf (claimedIds dzongkhags states.rows) p.1) ∧
    (planBhutanSync countryId dzongkhags states.rows cities.rows).cityDeletes =
      (untaken dzongkhags (claimedIds dzongkhags states.rows) cities).map DbCity.id := by
  rw [plan_eq distinct states.unique]
  refine ⟨rfl,rfl,rfl,allPairs_updates _ _ _ _,allPairs_creates _ _ _,?_⟩
  simp only [untaken,allPairs_kept,List.map_flatMap]

theorem claimed_pair {states : List DbState} {x : String} {id : Int}
    (claimed : (claimedIds dzongkhags states).lookup x = some id) :
    ∃ dz s, (dz,some s) ∈ (statePairs dzongkhags states).1 ∧ dz.dzongkhagId = x ∧ s.id = id := by
  obtain ⟨front,back,split,_⟩ := List.lookup_eq_some_iff.mp claimed
  have there : (x,id) ∈ claimedIds dzongkhags states := by rw [split]; simp
  obtain ⟨⟨dz,taken⟩,listed,entry⟩ := List.mem_filterMap.mp (List.mem_reverse.mp there)
  obtain ⟨s,rfl,same⟩ := Option.map_eq_some_iff.mp entry
  obtain ⟨rfl,rfl⟩ := Prod.mk.inj same
  exact ⟨dz,s,listed,rfl,rfl⟩

variable (countryId) in
/-- Whatever rows there are, a sync leaves one state for each dzongkhag and one city for each gewog. -/
theorem sync_synced (distinct : (dzongkhags.map Dzongkhag.dzongkhagId).Nodup) (fresh : Fresh serials geo) :
    ∃ after idOf, syncBhutanAddress countryId serials dzongkhags geo = some after ∧
      Synced countryId dzongkhags idOf after.states.rows after.cities.rows := by
  have all := pair_perm nameMatches dzongkhags geo.states.rows
  have apart : ∀ x y id, (claimedIds dzongkhags geo.states.rows).lookup x = some id →
      (claimedIds dzongkhags geo.states.rows).lookup y = some id → x = y := by
    intro x y id first second
    obtain ⟨dz,s,taken,rfl,rfl⟩ := claimed_pair first
    obtain ⟨dz',s',taken',rfl,same⟩ := claimed_pair second
    exact congrArg Dzongkhag.dzongkhagId (own_pair geo.states.unique all taken taken' same.symm).1
  have alive : ∀ x id, (claimedIds dzongkhags geo.states.rows).lookup x = some id →
      id ∉ (statePairs dzongkhags geo.states.rows).2.map DbState.id := by
    intro x id claimed
    obtain ⟨dz,s,taken,rfl,rfl⟩ := claimed_pair claimed
    exact taken_apart geo.states.unique all taken
  obtain ⟨grown,inserted,states⟩ :=
      states_synced countryId serials dzongkhags geo.states distinct fresh.state fresh.newState
  obtain ⟨rows,filled,made,placed,cities⟩ :=
      cities_synced countryId serials dzongkhags (claimedIds dzongkhags geo.states.rows)
    geo.cities distinct apart (fun dz listed => stateOf_idOf distinct listed) alive fresh.city fresh.newCity
  obtain ⟨updates,creates,deletes,cityUpdates,cityCreates,cityDeletes⟩ :=
      plan_fields countryId geo.states geo.cities distinct
  rw [← updates,← creates] at inserted
  rw [← deletes,← cityUpdates,← cityDeletes] at placed
  rw [← cityCreates,← creates] at made
  rw [← deletes] at states
  exact ⟨_,_,syncBhutanAddress_eq.trans (applyPlan_done inserted made placed),⟨states,cities⟩⟩

end Ngotag.BhutanSync
