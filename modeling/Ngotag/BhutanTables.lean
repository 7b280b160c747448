import Ngotag.BhutanIdentity

/-!
The sync of Bhutan's addresses on the whole tables, where cities of other countries can lie under a
state of Bhutan. Deleting a state deletes all its cities, theirs among them.
-/
namespace Ngotag.BhutanTables
open KeyedTable BhutanPlan BhutanSync BhutanClaimants BhutanIdentity

structure Country where
  id : Int
  isoCode : String
  deriving DecidableEq
structure StateRow extends DbState where
  countryCode : String
structure CityRow extends DbCity where
  countryCode : String
  deriving DecidableEq
def StateRow.key (s : StateRow) : Int := s.id
def CityRow.key (c : CityRow) : Int := c.id
structure Tables where
  countries : List Country
  states : Keyed StateRow.key
  cities : Keyed CityRow.key
  organisations : List Organisation
def bhutanCountryCode : String := "BT"
def StateRow.bhutan (s : StateRow) : Bool := s.countryCode = bhutanCountryCode
def CityRow.bhutan (c : CityRow) : Bool := c.countryCode = bhutanCountryCode
def Tables.bhutanStates (t : Tables) : List DbState := (t.states.rows.filter StateRow.bhutan).map StateRow.toDbState
def Tables.bhutanCities (t : Tables) : List DbCity := (t.cities.rows.filter CityRow.bhutan).map CityRow.toDbCity

section
variable (countryId : Int) (serials : Serials)

def updateStateRow (u : DbState) (s : StateRow) : StateRow := { s with toDbState := updateState u s.toDbState }
theorem updateStateRow_key (u : DbState) (s : StateRow) : (updateStateRow u s).key = s.key := rfl
def updateCityRow (u : CityUpdate) (c : CityRow) : CityRow := { c with toDbCity := updateCity countryId u c.toDbCity }
theorem updateCityRow_key (u : CityUpdate) (c : CityRow) : (updateCityRow countryId u c).key = c.key := rfl
def bhutanState (s : DbState) : StateRow := { s with countryCode := bhutanCountryCode }
def bhutanCity (c : DbCity) : CityRow := { c with countryCode := bhutanCountryCode }

/-- The transaction; nothing where it throws. Deleting a state deletes its cities. -/
def applyPlan (plan : BhutanSyncPlan) (t : Tables) : Option Tables := do
  let updated := t.states.changeAll DbState.id updateStateRow updateStateRow_key plan.stateUpdates
  let created := createdStates countryId serials plan.stateCreates
  let states ← updated.insertAll (created.map bhutanState)
  let organisations := t.organisations.map fun o =>
    { o with stateId := cleared plan.stateDeletes o.stateId, cityId := cleared plan.cityDeletes o.cityId }
  let cities := t.cities.delete fun c => c.id ∈ plan.cityDeletes
  let states := states.delete fun s => s.id ∈ plan.stateDeletes
  let cities := cities.delete fun c => c.stateId ∈ plan.stateDeletes
  let cities := cities.changeAll CityUpdate.id (updateCityRow countryId) (updateCityRow_key countryId) plan.cityUpdates
  let rows ← plan.cityCreates.zipIdx.mapM (createdCity countryId serials (createdStateIds created))
  let cities ← cities.insertAll (rows.map bhutanCity)
  return { countries := t.countries, states, cities, organisations }

end

/-- The plan, and the tables afterwards. There is no plan without Bhutan or where the transaction throws. -/
def syncBhutanAddress (serials : Serials) (dzongkhags : List Dzongkhag) (dryRun : Bool) (t : Tables) :
    Option BhutanSyncPlan × Tables :=
  match t.countries.find? fun country => country.isoCode = bhutanCountryCode with
  | none => (none,t)
  | some country =>
    let plan := planBhutanSync country.id dzongkhags t.bhutanStates t.bhutanCities
    if dryRun || !plan.hasChanges then (some plan,t)
    else
      match applyPlan country.id serials plan t with
      | none => (none,t)
      | some after => (some plan,after)

def stays {Row : Type} {key : Row → Int} (before after : Keyed key) (id : Int) : Bool :=
  id ∉ before.rows.map key || id ∈ after.rows.map key

/-- No organisation refers to a deleted row, its other references are as they were, and so are the rows
of other countries. -/
structure Frame (before after : Tables) : Prop where
  organisations : after.organisations = before.organisations.map fun o =>
    { o with
      stateId := o.stateId.filter (stays before.states after.states)
      cityId := o.cityId.filter (stays before.cities after.cities) }
  countries : after.countries = before.countries
  states : ∀ s, s.bhutan = false → (s ∈ after.states.rows ↔ s ∈ before.states.rows)
  cities : ∀ c, c.bhutan = false → (c ∈ after.cities.rows ↔ c ∈ before.cities.rows)

/-- The serials give new ids, each once. -/
structure Fresh (serials : Serials) (t : Tables) : Prop where
  state : Function.Injective serials.state
  newState : ∀ n, ∀ s ∈ t.states.rows, s.id ≠ serials.state n
  city : Function.Injective serials.city
  newCity : ∀ n, ∀ c ∈ t.cities.rows, c.id ≠ serials.city n
/-- Every city of another country that lies under a state of Bhutan lies under one that is held. -/
def Sheltered (dzongkhags : List Dzongkhag) (t : Tables) : Prop :=
  ∀ c ∈ t.cities.rows, c.bhutan = false → ∀ s ∈ t.bhutanStates, c.stateId = s.id → ∃ e,
      Holds dzongkhags t.bhutanStates e s

section
variable {countryId : Int} {serials : Serials} {dzongkhags : List Dzongkhag} {t : Tables}

theorem frame_refl : Frame t t := by
  have whole : ∀ {Row : Type} {key : Row → Int} (table : Keyed key) (reference : Option Int),
      reference.filter (stays table table) = reference := by
    intro Row key table reference
    cases reference with
    | none => rfl
    | some id =>
      have known : stays table table id = true := by
        rw [stays,Bool.or_eq_true]
        exact (Decidable.em (id ∈ table.rows.map key)).symm.imp decide_eq_true decide_eq_true
      rw [Option.filter_some_pos known]
  refine ⟨?_,rfl,fun _ _ => .rfl,fun _ _ => .rfl⟩
  simp only [whole,List.map_id']

theorem bhutanStates_unique (t : Tables) : (t.bhutanStates.map DbState.id).Nodup := by
  rw [Tables.bhutanStates,List.map_map]
  exact t.states.unique.sublist (List.filter_sublist.map _)
theorem bhutanCities_unique (t : Tables) : (t.bhutanCities.map DbCity.id).Nodup := by
  rw [Tables.bhutanCities,List.map_map]
  exact t.cities.unique.sublist (List.filter_sublist.map _)
theorem foreign_state {s : StateRow} (listed : s ∈ t.states.rows) (foreign : s.bhutan = false) {own : DbState}
    (there : own ∈ t.bhutanStates) : own.id ≠ s.id := by
  obtain ⟨row,inside,rfl⟩ := List.mem_map.mp there
  obtain ⟨member,home⟩ := List.mem_filter.mp inside
  intro same
  rw [t.states.eq_of_key member listed same,foreign] at home
  cases home
theorem foreign_city {c : CityRow} (listed : c ∈ t.cities.rows) (foreign : c.bhutan = false) {own : DbCity}
    (there : own ∈ t.bhutanCities) : own.id ≠ c.id := by
  obtain ⟨row,inside,rfl⟩ := List.mem_map.mp there
  obtain ⟨member,home⟩ := List.mem_filter.mp inside
  intro same
  rw [t.cities.eq_of_key member listed same,foreign] at home
  cases home

variable (countryId) in
/-- The tables once the transaction is through: the old rows that are not deleted, as the updates make
them, and new ones of Bhutan. -/
theorem applyPlan_done {plan : BhutanSyncPlan} (fresh : Fresh serials t)
    (placed : ∀ p ∈ plan.cityCreates.zipIdx,
      (createdCity countryId serials (createdStateIds (createdStates countryId serials plan.stateCreates)) p).isSome =
      true) :
    ∃ after, ∃ states : List DbState, ∃ cities : List DbCity, applyPlan countryId serials plan t = some after ∧
        after.countries = t.countries ∧
      after.organisations = t.organisations.map (fun o =>
        { o with stateId := cleared plan.stateDeletes o.stateId, cityId := cleared plan.cityDeletes o.cityId }) ∧
      (∀ s ∈ states, ∃ n, s.id = serials.state n) ∧ (∀ c ∈ cities, ∃ n, c.id = serials.city n) ∧
      (∀ s, s ∈ after.states.rows ↔ s.id ∉ plan.stateDeletes ∧
        (s ∈ t.states.rows.map (changed DbState.id updateStateRow StateRow.key plan.stateUpdates) ∨ s ∈ states.map bhutanState)) ∧
      ∀ c, c ∈ after.cities.rows ↔ (∃ old ∈ t.cities.rows, old.id ∉ plan.cityDeletes ∧ old.stateId ∉ plan.stateDeletes ∧
        c = changed CityUpdate.id (updateCityRow countryId) CityRow.key plan.cityUpdates old) ∨
        c ∈ cities.map bhutanCity := by
  let created := createdStates countryId serials plan.stateCreates
  let left := (t.cities.delete fun c => c.id ∈ plan.cityDeletes).delete fun c => c.stateId ∈ plan.stateDeletes
  have stateIds : ∀ s ∈ created, ∃ n, s.id = serials.state n := by
    intro s listed
    obtain ⟨p,_,rfl⟩ := List.mem_map.mp listed
    exact ⟨p.2,rfl⟩
  have statesApart : ((created.map bhutanState).map StateRow.key).Nodup := by
    simp only [created,createdStates,List.map_map]
    exact Reconciliation.serials_unique fresh.state _
  have statesNew : ∀ row ∈ created.map bhutanState, ∀ old ∈ t.states.rows, old.key ≠ row.key := by
    intro row listed old there
    obtain ⟨s,inside,rfl⟩ := List.mem_map.mp listed
    obtain ⟨n,same⟩ := stateIds s inside
    exact fun alike => fresh.newState n old there (alike.trans same)
  obtain ⟨grown,inserted,order⟩ :=
      Keyed.changeAll_insertAll DbState.id updateStateRow updateStateRow_key plan.stateUpdates
    statesNew statesApart
  let row := fun p => (createdCity countryId serials (createdStateIds created) p).getD ⟨0,"",0,"",0⟩
  have made : plan.cityCreates.zipIdx.mapM (createdCity countryId serials (createdStateIds created)) =
      some (plan.cityCreates.zipIdx.map row) := by
    refine mapM_total fun p listed => ?_
    obtain ⟨c,found⟩ := Option.isSome_iff_exists.mp (placed p listed)
    simp only [row,created,found,Option.getD_some]
  have rowId : ∀ p ∈ plan.cityCreates.zipIdx, (row p).id = serials.city p.2 := by
    intro p listed
    obtain ⟨c,found⟩ := Option.isSome_iff_exists.mp (placed p listed)
    simp only [row,created,found,Option.getD_some]
    obtain ⟨stateId,_,rfl⟩ := Option.map_eq_some_iff.mp found
    rfl
  have cityIds : ∀ c ∈ plan.cityCreates.zipIdx.map row, ∃ n, c.id = serials.city n := by
    intro c listed
    obtain ⟨p,there,rfl⟩ := List.mem_map.mp listed
    exact ⟨p.2,rowId p there⟩
  have citiesApart : (((plan.cityCreates.zipIdx.map row).map bhutanCity).map CityRow.key).Nodup := by
    have same : ((plan.cityCreates.zipIdx.map row).map bhutanCity).map CityRow.key =
        plan.cityCreates.zipIdx.map fun p => serials.city p.2 := by
      rw [List.map_map,List.map_map]
      exact List.map_congr_left rowId
    rw [same]
    exact Reconciliation.serials_unique fresh.city _
  have citiesNew : ∀ c ∈ (plan.cityCreates.zipIdx.map row).map bhutanCity, ∀ old ∈ left.rows, old.key ≠ c.key := by
    intro c listed old there
    obtain ⟨city,inside,rfl⟩ := List.mem_map.mp listed
    obtain ⟨n,same⟩ := cityIds city inside
    have before : old ∈ t.cities.rows := (Keyed.mem_delete.mp (Keyed.mem_delete.mp there).1).1
    exact fun alike => fresh.newCity n old before (alike.trans same)
  obtain ⟨filled,added,cityOrder⟩ := Keyed.changeAll_insertAll CityUpdate.id (updateCityRow countryId)
    (updateCityRow_key countryId) plan.cityUpdates citiesNew citiesApart
  let after : Tables :=
    { countries := t.countries
      states := grown.delete fun s => s.id ∈ plan.stateDeletes
      cities := filled
      organisations := t.organisations.map fun o =>
        { o with stateId := cleared plan.stateDeletes o.stateId, cityId := cleared plan.cityDeletes o.cityId } }
  refine ⟨after,created,plan.cityCreates.zipIdx.map row,?_,rfl,rfl,stateIds,cityIds,?_,?_⟩
  · simp only [created] at inserted made
    simp only [left] at added
    simp only [applyPlan,inserted,made,Option.bind_eq_bind,Option.bind_some,added]
    rfl
  · intro s
    rw [Keyed.mem_delete,order.mem_iff,List.mem_append,decide_eq_false_iff_not,and_comm]
  · intro c
    rw [cityOrder.mem_iff,List.mem_append,List.mem_map]
    refine or_congr_left (exists_congr fun old => ?_)
    rw [Keyed.mem_delete,Keyed.mem_delete,decide_eq_false_iff_not,decide_eq_false_iff_not,and_assoc,and_assoc,
      eq_comm (a := c)]

variable (countryId dzongkhags t) in
def planOf : BhutanSyncPlan := planBhutanSync countryId dzongkhags t.bhutanStates t.bhutanCities
theorem stateDeletes_known {id : Int} (deleted : id ∈ (planOf countryId dzongkhags t).stateDeletes) :
    ∃ s ∈ t.bhutanStates, s.id = id := by
  rw [planOf,BhutanClaimants.plan_eq countryId dzongkhags _ (bhutanStates_unique t)] at deleted
  obtain ⟨s,left,rfl⟩ := List.mem_map.mp deleted
  exact ⟨s,(Pairing.pair_perm nameMatches _ _).mem_iff.mpr (List.mem_append_right _ left),rfl⟩
theorem cityDeletes_known {id : Int} (deleted : id ∈ (planOf countryId dzongkhags t).cityDeletes) :
    ∃ c ∈ t.bhutanCities, c.id = id := by
  rw [planOf,BhutanClaimants.plan_eq countryId dzongkhags _ (bhutanStates_unique t)] at deleted
  obtain ⟨c,free,rfl⟩ := List.mem_map.mp deleted
  exact ⟨c,List.mem_of_mem_filter free,rfl⟩

theorem deleted_under {c : DbCity} (listed : c ∈ t.bhutanCities)
    (deleted : c.stateId ∈ (planOf countryId dzongkhags t).stateDeletes) :
    c.id ∈ (planOf countryId dzongkhags t).cityDeletes := by
  have known := BhutanClaimants.plan_eq countryId dzongkhags t.bhutanCities (bhutanStates_unique t)
  have cities : (planOf countryId dzongkhags t).cityDeletes = _ := congrArg BhutanSyncPlan.cityDeletes known
  rw [cities]
  refine List.mem_map.mpr ⟨c,List.mem_filter.mpr ⟨listed,decide_eq_true fun kept => ?_⟩,rfl⟩
  obtain ⟨other,taken,same⟩ := List.mem_map.mp kept
  obtain ⟨dz,_,inside⟩ := List.mem_flatMap.mp taken
  obtain ⟨⟨gewog,_⟩,paired,rfl⟩ := List.mem_filterMap.mp inside
  obtain ⟨there,under⟩ := taken_city paired
  obtain rfl := List.inj_on_of_nodup_map (bhutanCities_unique t) there listed same
  obtain ⟨e,s,held,-,alike⟩ := ids_iff.mp under.symm
  rw [← alike] at deleted
  exact (deleted_iff countryId t.bhutanCities (bhutanStates_unique t) (holds_claimant held).2.1).mp deleted ⟨e,held⟩

theorem creates_placed : ∀ p ∈ (planOf countryId dzongkhags t).cityCreates.zipIdx,
    (createdCity countryId serials (createdStateIds (createdStates countryId serials (planOf countryId dzongkhags t).stateCreates)) p).isSome = true := by
  intro p listed
  have there := List.fst_mem_of_mem_zipIdx listed
  rw [planOf,BhutanClaimants.plan_eq countryId dzongkhags _ (bhutanStates_unique t)] at there ⊢
  obtain ⟨dz,asked,inside⟩ := List.mem_flatMap.mp there
  obtain ⟨q,_,created⟩ := List.mem_filterMap.mp inside
  have shape := (Option.some.inj (Option.ite_none_right_eq_some.mp created).2).symm
  rw [createdCity,shape,Option.isSome_map]
  cases known : (ids dzongkhags t.bhutanStates).lookup dz.dzongkhagId with
  | some id => rfl
  | none =>
    have new : dz ∈ dzongkhags.filter fun dz => (ids dzongkhags t.bhutanStates).lookup dz.dzongkhagId = none :=
      List.mem_filter.mpr ⟨asked,decide_eq_true known⟩
    rw [← List.zipIdx_map_fst 0 (List.filter _ _)] at new
    obtain ⟨⟨dz,n⟩,numbered,rfl⟩ := List.mem_map.mp new
    rw [Option.none_or]
    refine Option.isSome_iff_ne_none.mpr fun missing => ?_
    have entry : (dz.dzongkhagId,serials.state n) ∈ createdStateIds (createdStates countryId serials
        (dzongkhags.filter fun dz => (ids dzongkhags t.bhutanStates).lookup dz.dzongkhagId = none)) :=
      List.mem_reverse.mpr (List.mem_map.mpr ⟨_,List.mem_map_of_mem numbered,rfl⟩)
    simpa using List.lookup_eq_none_iff.mp missing _ entry

theorem changed_bhutan {updates : List DbState} (s : StateRow) :
    (changed DbState.id updateStateRow StateRow.key updates s).bhutan = s.bhutan := by
  induction updates generalizing s with
  | nil => rfl
  | cons u rest ih =>
    rw [changed,ih]
    split <;> rfl
theorem changed_bhutan_city {updates : List CityUpdate} (c : CityRow) :
    (changed CityUpdate.id (updateCityRow countryId) CityRow.key updates c).bhutan = c.bhutan := by
  induction updates generalizing c with
  | nil => rfl
  | cons u rest ih =>
    rw [changed,ih]
    split <;> rfl
theorem foreign_unchanged {s : StateRow} (listed : s ∈ t.states.rows) (foreign : s.bhutan = false) :
    changed DbState.id updateStateRow StateRow.key (planOf countryId dzongkhags t).stateUpdates s = s := by
  refine changed_other fun u updated same => ?_
  obtain ⟨own,there,known⟩ := stateUpdates_known (bhutanStates_unique t) u updated
  exact foreign_state listed foreign there (known.trans same.symm)
theorem foreign_city_unchanged {c : CityRow} (listed : c ∈ t.cities.rows) (foreign : c.bhutan = false) :
    changed CityUpdate.id (updateCityRow countryId) CityRow.key (planOf countryId dzongkhags t).cityUpdates c = c := by
  refine changed_other fun u updated same => ?_
  obtain ⟨own,there,known,-⟩ := cityUpdates_known (bhutanStates_unique t) u updated
  exact foreign_city listed foreign there (known.trans same.symm)

theorem cleared_stays {Row : Type} {key : Row → Int} {before after : Keyed key} {deletes : List Int}
    (known : ∀ id ∈ deletes, id ∈ before.rows.map key) (gone : ∀ id ∈ deletes, id ∉ after.rows.map key)
    (kept : ∀ row ∈ before.rows, key row ∉ deletes → key row ∈ after.rows.map key) (reference : Option Int) :
    cleared deletes reference = reference.filter (stays before after) := by
  cases reference with
  | none => rfl
  | some id =>
    rw [cleared,Option.filter_some,Option.filter_some]
    refine if_congr ?_ rfl rfl
    rw [stays,Bool.or_eq_true,decide_eq_true_iff,decide_eq_true_iff,decide_eq_true_iff]
    constructor
    · intro free
      by_cases there : id ∈ before.rows.map key
      · obtain ⟨row,listed,rfl⟩ := List.mem_map.mp there
        exact .inr (kept row listed free)
      · exact .inl there
    · rintro (unknown | there) deleted
      · exact unknown (known id deleted)
      · exact gone id deleted there

variable (countryId dzongkhags) in
theorem frame_iff (fresh : Fresh serials t) :
    ∃ after, applyPlan countryId serials (planOf countryId dzongkhags t) t = some after ∧
    (Frame t after ↔ ∀ c ∈ t.cities.rows, c.bhutan = false → c.stateId ∉ (planOf countryId dzongkhags t).stateDeletes) := by
  obtain ⟨after,states,cities,done,countries,organisations,stateIds,cityIds,statesAfter,citiesAfter⟩ :=
    applyPlan_done countryId fresh creates_placed
  have newState : ∀ s ∈ states.map bhutanState, s.bhutan = true ∧ ∃ n, s.id = serials.state n := by
    intro s listed
    obtain ⟨own,there,rfl⟩ := List.mem_map.mp listed
    exact ⟨decide_eq_true rfl,stateIds own there⟩
  have newCity : ∀ c ∈ cities.map bhutanCity, c.bhutan = true ∧ ∃ n, c.id = serials.city n := by
    intro c listed
    obtain ⟨own,there,rfl⟩ := List.mem_map.mp listed
    exact ⟨decide_eq_true rfl,cityIds own there⟩
  refine ⟨after,done,?_⟩
  constructor
  · intro frame c listed foreign deleted
    rcases (citiesAfter c).mp ((frame.cities c foreign).mpr listed) with ⟨old,there,-,safe,changed⟩ | new
    · have same : old.key = c.key := by rw [changed,key_changed (updateCityRow_key countryId)]
      rw [t.cities.eq_of_key there listed same] at safe
      exact safe deleted
    · rw [(newCity c new).1] at foreign
      cases foreign
  · intro sheltered
    have statesKnown : ∀ id ∈ (planOf countryId dzongkhags t).stateDeletes, id ∈ t.states.rows.map StateRow.key := by
      intro id deleted
      obtain ⟨own,there,rfl⟩ := stateDeletes_known deleted
      obtain ⟨row,listed,rfl⟩ := List.mem_map.mp there
      exact List.mem_map_of_mem (List.mem_of_mem_filter listed)
    have statesGone : ∀ id ∈ (planOf countryId dzongkhags t).stateDeletes, id ∉ after.states.rows.map StateRow.key := by
      intro id deleted there
      obtain ⟨row,listed,rfl⟩ := List.mem_map.mp there
      exact ((statesAfter row).mp listed).1 deleted
    have statesKept : ∀ row ∈ t.states.rows, row.key ∉ (planOf countryId dzongkhags t).stateDeletes →
        row.key ∈ after.states.rows.map StateRow.key := by
      intro row listed free
      have same : (changed DbState.id updateStateRow StateRow.key (planOf countryId dzongkhags t).stateUpdates row).key = row.key :=
        key_changed updateStateRow_key
      rw [← same] at free ⊢
      exact List.mem_map_of_mem ((statesAfter _).mpr ⟨free,.inl (List.mem_map_of_mem listed)⟩)
    have citiesKnown : ∀ id ∈ (planOf countryId dzongkhags t).cityDeletes, id ∈ t.cities.rows.map CityRow.key := by
      intro id deleted
      obtain ⟨own,there,rfl⟩ := cityDeletes_known deleted
      obtain ⟨row,listed,rfl⟩ := List.mem_map.mp there
      exact List.mem_map_of_mem (List.mem_of_mem_filter listed)
    have citiesGone : ∀ id ∈ (planOf countryId dzongkhags t).cityDeletes, id ∉ after.cities.rows.map CityRow.key := by
      intro id deleted there
      obtain ⟨row,listed,rfl⟩ := List.mem_map.mp there
      rcases (citiesAfter row).mp listed with ⟨old,-,free,-,rfl⟩ | new
      · rw [key_changed (updateCityRow_key countryId)] at deleted
        exact free deleted
      · obtain ⟨-,n,serial⟩ := newCity row new
        obtain ⟨before,there,same⟩ := List.mem_map.mp (citiesKnown _ deleted)
        exact fresh.newCity n before there (same.trans serial)
    have safe : ∀ row ∈ t.cities.rows, row.key ∉ (planOf countryId dzongkhags t).cityDeletes →
        row.stateId ∉ (planOf countryId dzongkhags t).stateDeletes := by
      intro row listed free
      cases home : row.bhutan with
      | false => exact sheltered row listed home
      | true =>
        have own : row.toDbCity ∈ t.bhutanCities := List.mem_map_of_mem (List.mem_filter.mpr ⟨listed,home⟩)
        exact fun deleted => free (deleted_under own deleted)
    have citiesKept : ∀ row ∈ t.cities.rows, row.key ∉ (planOf countryId dzongkhags t).cityDeletes →
        row.key ∈ after.cities.rows.map CityRow.key := by
      intro row listed free
      have same : (changed CityUpdate.id (updateCityRow countryId) CityRow.key (planOf countryId dzongkhags t).cityUpdates row).key =
          row.key := key_changed (updateCityRow_key countryId)
      rw [← same]
      exact List.mem_map_of_mem ((citiesAfter _).mpr (.inl ⟨row,listed,free,safe row listed free,rfl⟩))
    refine ⟨?_,countries,?_,?_⟩
    · rw [organisations]
      refine List.map_congr_left fun o _ => ?_
      rw [cleared_stays statesKnown statesGone statesKept,cleared_stays citiesKnown citiesGone citiesKept]
    · intro s foreign
      rw [statesAfter s]
      constructor
      · rintro ⟨-,before | new⟩
        · obtain ⟨old,there,rfl⟩ := List.mem_map.mp before
          rw [changed_bhutan] at foreign
          rwa [foreign_unchanged there foreign]
        · rw [(newState s new).1] at foreign
          cases foreign
      · intro there
        refine ⟨fun deleted => ?_,.inl (List.mem_map.mpr ⟨s,there,foreign_unchanged there foreign⟩)⟩
        obtain ⟨own,listed,same⟩ := stateDeletes_known deleted
        exact foreign_state there foreign listed same
    · intro c foreign
      rw [citiesAfter c]
      constructor
      · rintro (⟨old,there,-,-,rfl⟩ | new)
        · rw [changed_bhutan_city] at foreign
          rwa [foreign_city_unchanged there foreign]
        · rw [(newCity c new).1] at foreign
          cases foreign
      · intro there
        refine .inl ⟨c,there,fun deleted => ?_,sheltered c there foreign,(foreign_city_unchanged there foreign).symm⟩
        obtain ⟨own,listed,same⟩ := cityDeletes_known deleted
        exact foreign_city there foreign listed same

variable (countryId dzongkhags) in
theorem sheltered_iff : Sheltered dzongkhags t ↔
    ∀ c ∈ t.cities.rows, c.bhutan = false → c.stateId ∉ (planOf countryId dzongkhags t).stateDeletes := by
  refine forall₂_congr fun c _ => forall_congr' fun _ => ?_
  constructor
  · intro held deleted
    obtain ⟨s,there,same⟩ := stateDeletes_known deleted
    rw [← same] at deleted
    exact (deleted_iff countryId t.bhutanCities (bhutanStates_unique t) there).mp deleted (held s there same.symm)
  · intro safe s there same
    rw [same] at safe
    by_contra free
    exact safe ((deleted_iff countryId t.bhutanCities (bhutanStates_unique t) there).mpr free)

variable (dzongkhags) in
theorem sync_frame_iff {country : Country}
    (there : (t.countries.find? fun country => country.isoCode = bhutanCountryCode) = some country)
    (fresh : Fresh serials t) :
    Frame t (syncBhutanAddress serials dzongkhags false t).2 ↔ Sheltered dzongkhags t := by
  obtain ⟨after,done,frame⟩ := frame_iff country.id dzongkhags fresh
  rw [planOf] at done
  rw [sheltered_iff country.id dzongkhags]
  simp only [syncBhutanAddress,there,Bool.false_or]
  by_cases changes : (planOf country.id dzongkhags t).hasChanges = true
  · rw [planOf] at changes
    simp only [changes,done,Bool.not_true,Bool.false_eq_true,if_false]
    exact frame
  · have none_ : (planOf country.id dzongkhags t).stateDeletes = [] := by
      simp only [BhutanSyncPlan.hasChanges,ne_eq,Bool.or_eq_true,decide_eq_true_eq,not_or,not_not] at changes
      exact changes.1.1.1.2
    rw [planOf] at changes
    simp only [changes,Bool.not_false,if_true,none_]
    exact iff_of_true frame_refl fun _ _ _ => List.not_mem_nil

/-- A sync preserves identity exactly when every state named like a dzongkhag finds its place, no city
is rewritten twice, and no other country's city lies under a state that goes. -/
theorem identity_kept_iff {country : Country}
    (there : (t.countries.find? fun country => country.isoCode = bhutanCountryCode) = some country)
    (fresh : Fresh serials t) :
    (PlanKeeps (planBhutanSync country.id dzongkhags t.bhutanStates t.bhutanCities) dzongkhags t.bhutanStates t.bhutanCities ∧
      Frame t (syncBhutanAddress serials dzongkhags false t).2) ↔
      Named dzongkhags t.bhutanStates ∧ Once country.id dzongkhags t.bhutanStates t.bhutanCities ∧
          Sheltered dzongkhags t := by
  rw [sync_frame_iff dzongkhags there fresh,planKeeps_iff country.id dzongkhags (bhutanStates_unique t) (bhutanCities_unique t),
    and_assoc]

end

def counting : Serials := { state := fun n => n + 1000, city := fun n => n + 1000 }

theorem counting_fresh {t : Tables} (states : ∀ s ∈ t.states.rows, s.id < 1000)
    (cities : ∀ c ∈ t.cities.rows, c.id < 1000) :
    Fresh counting t := by
  have apart : Function.Injective fun n : Nat => (n : Int) + 1000 := by
    intro n m same
    simpa using same
  refine ⟨apart,fun n s there => ?_,apart,fun n c there => ?_⟩
  · have small := states s there
    simp only [counting]
    omega
  · have small := cities c there
    simp only [counting]
    omega

def bumthang : List Dzongkhag :=
  [{ dzongkhagId := "01", dzongkhagName := "Bumthang", gewogs := [{ gewogId := "0101", gewogName := "Chhoekhor" }] }]
/-- A state of Bhutan with a city of its own and a city of another country, and the organisations there. -/
def legacyTables (stateName : String) : Tables :=
  { countries := [{ id := 26, isoCode := "BT" },{ id := 150, isoCode := "MK" }]
    states := ⟨[{ id := 438, name := stateName, isoCode := "33", countryId := 26, countryCode := "BT" }],by simp⟩
    cities := ⟨[{ id := 1, name := "Jakar", stateId := 438, stateCode := "33", countryId := 26, countryCode := "BT" },
      { id := 2, name := "Skopje", stateId := 438, stateCode := "85", countryId := 150, countryCode := "MK" }],by decide⟩
    organisations :=
        [{ id := 1, stateId := some 438, cityId := some 1 },{ id := 2, stateId := none, cityId := some 2 }] }
theorem legacy_fresh (stateName : String) : Fresh counting (legacyTables stateName) :=
  counting_fresh (by simp [legacyTables]) (by simp [legacyTables])

theorem identity_kept_bumthang :
    PlanKeeps (planBhutanSync 26 bumthang (legacyTables "Bumthang District").bhutanStates (legacyTables "Bumthang District").bhutanCities)
      bumthang (legacyTables "Bumthang District").bhutanStates (legacyTables "Bumthang District").bhutanCities ∧
    Frame (legacyTables "Bumthang District")
        (syncBhutanAddress counting bumthang false (legacyTables "Bumthang District")).2 := by
  have distinct : (bumthang.map Dzongkhag.dzongkhagId).Nodup := by decide
  have own : ∀ s ∈ (legacyTables "Bumthang District").bhutanStates, aliased s.name ≠ "constructor" := by decide
  have there : ((legacyTables "Bumthang District").countries.find? fun country => country.isoCode = bhutanCountryCode) =
      some { id := 26, isoCode := "BT" } := by decide
  refine (identity_kept_iff there (legacy_fresh _)).mpr ⟨named_of_distinct distinct own,once_of_distinct distinct,?_⟩
  intro c _ _ s there _
  obtain rfl : s = { id := 438, name := "Bumthang District", isoCode := "33", countryId := 26 } := by
    simpa [Tables.bhutanStates,legacyTables,StateRow.bhutan,bhutanCountryCode] using there
  refine ⟨bumthang.head (by decide),?_⟩
  rw [Holds]
  decide

/-- The city of another country goes with the state nobody holds. -/
theorem foreign_city_deleted : Fresh counting (legacyTables "Nowhere Province") ∧
    ¬Frame (legacyTables "Nowhere Province")
    (syncBhutanAddress counting bumthang false (legacyTables "Nowhere Province")).2 := by
  refine ⟨legacy_fresh _,fun frame => ?_⟩
  have there := (frame.cities { id := 2, name := "Skopje", stateId := 438, stateCode := "85", countryId := 150, countryCode := "MK" }
    (by decide)).mpr (by decide)
  exact absurd there (by decide)

end Ngotag.BhutanTables
