import Ngotag.BhutanClaimants

/-!
What a plan for Bhutan's addresses keeps. A row is deleted only where a namesake stands for it, no row
is named twice, and an updated city stays under its state.
-/
namespace Ngotag.BhutanIdentity
open Pairing KeyedTable Reconciliation BhutanPlan BhutanSync BhutanClaimants

def aliased (name : String) : String :=
  (legacyStateAliases.lookup (BhutanPlan.normalize name)).getD (BhutanPlan.normalize name)

theorem aliased_key {name key : String} (keyed : stateKey name = some key) : aliased name = key := by
  rw [stateKey,JsObject.read] at keyed
  rw [aliased]
  cases found : legacyStateAliases.lookup (BhutanPlan.normalize name) with
  | some value =>
    rw [found] at keyed
    exact Option.some.inj keyed
  | none =>
    rw [found] at keyed
    by_cases own : BhutanPlan.normalize name ∈ JsObject.inherited
    · rw [if_pos own] at keyed
      cases keyed
    · rw [if_neg own] at keyed
      exact Option.some.inj keyed

theorem stateKey_aliased {name : String} (own : aliased name ≠ "constructor") : stateKey name = some (aliased name) := by
  rw [aliased] at own ⊢
  rw [stateKey,JsObject.read]
  cases found : legacyStateAliases.lookup (BhutanPlan.normalize name) with
  | some value => rfl
  | none =>
    rw [found] at own
    rw [if_neg fun there => own (normalize_inherited there)]
    rfl

section
variable (plan : BhutanSyncPlan)

def rowAfter (s : DbState) : DbState := changed DbState.id updateState DbState.id plan.stateUpdates s
/-- The plan keeps the state as that of the dzongkhag. -/
def KeptFor (dz : Dzongkhag) (s : DbState) :
    Prop := s.id ∉ plan.stateDeletes ∧ (rowAfter plan s).isoCode = dz.dzongkhagId
/-- The plan keeps the city under the name of the gewog. -/
def KeptAs (gewog : Gewog) (c : DbCity) : Prop :=
  c.id ∉ plan.cityDeletes ∧ (c.name = gewog.gewogName ∨ ∃ u ∈ plan.cityUpdates, u.id = c.id ∧ u.name = gewog.gewogName)

/-- The plan touches each row once, and what it deletes has a namesake that stays. -/
structure PlanKeeps (dzongkhags : List Dzongkhag) (states : List DbState) (cities : List DbCity) : Prop where
  statesOnce : (plan.stateUpdates.map DbState.id ++ plan.stateDeletes).Nodup
  citiesOnce : (plan.cityUpdates.map CityUpdate.id ++ plan.cityDeletes).Nodup
  namesakes : ∀ s ∈ states, ∀ dz ∈ dzongkhags, aliased s.name = BhutanPlan.normalize dz.dzongkhagName →
      s.id ∈ plan.stateDeletes →
    ∃ other ∈ states, other.id ≠ s.id ∧ aliased other.name = aliased s.name ∧ KeptFor plan dz other
  gewogs : ∀ s ∈ states, ∀ dz ∈ dzongkhags, KeptFor plan dz s → ∀ c ∈ cities, c.stateId = s.id → ∀ gewog ∈ dz.gewogs,
    BhutanPlan.normalize c.name = BhutanPlan.normalize gewog.gewogName → c.id ∈ plan.cityDeletes →
      ∃ other ∈ cities, other.id ≠ c.id ∧ other.stateId = c.stateId ∧
        BhutanPlan.normalize other.name = BhutanPlan.normalize c.name ∧ KeptAs plan gewog other
  stateIds : ∀ u ∈ plan.stateUpdates, ∃ s ∈ states, s.id = u.id
  cityStates : ∀ u ∈ plan.cityUpdates, ∃ c ∈ cities, c.id = u.id ∧ u.stateId = some c.stateId

end
section
variable (countryId : Int) (dzongkhags : List Dzongkhag) (states : List DbState) (cities : List DbCity)

def gewogNamesake (gewog other : Gewog) :
    Bool := BhutanPlan.normalize other.gewogName = BhutanPlan.normalize gewog.gewogName
/-- The gewogs of a name take the cities of that name under the state in their order. -/
def Takes (stateId : Int) (dz : Dzongkhag) (gewog : Gewog) (c : DbCity) : Prop :=
  (gewog,c) ∈ (dz.gewogs.filter (gewogNamesake gewog)).zip ((citiesOf cities (some stateId)).filter (gewogMatches gewog))
/-- Some column of the city is not what the gewog asks for. -/
def Stale (dz : Dzongkhag) (gewog : Gewog) (c : DbCity) : Prop :=
  c.name ≠ gewog.gewogName ∨ c.stateCode ≠ dz.dzongkhagId ∨ c.countryId ≠ countryId
/-- The plan updates the city for the dzongkhag. -/
def Rewrites (dz : Dzongkhag) (c : DbCity) : Prop :=
  ∃ e s gewog, Holds dzongkhags states e s ∧ e.dzongkhagId = dz.dzongkhagId ∧ Takes cities s.id dz gewog c ∧
      Stale countryId dz gewog c
/-- Every state named like a dzongkhag is held, or a claimant with the dzongkhag's id and name is. -/
def Named : Prop :=
  ∀ s ∈ states, ∀ dz ∈ dzongkhags, aliased s.name = BhutanPlan.normalize dz.dzongkhagName →
    (∃ e, Holds dzongkhags states e s) ∨
      ∃ e ∈ claimants dzongkhags states, e.dzongkhagId = dz.dzongkhagId ∧ namesake dz e = true
/-- No two dzongkhags of one id rewrite the same city. -/
def Once : Prop :=
  dzongkhags.Pairwise fun dz dz' => dz.dzongkhagId = dz'.dzongkhagId →
    ∀ c, ¬(Rewrites countryId dzongkhags states cities dz c ∧ Rewrites countryId dzongkhags states cities dz' c)
end
variable {countryId : Int} {dzongkhags : List Dzongkhag} {states : List DbState} {cities : List DbCity}

variable {dz : Dzongkhag}
theorem takes_iff {stateId : Int} {gewog : Gewog} {c : DbCity} :
    Takes cities stateId dz gewog c ↔ (gewog,some c) ∈ cityPairs cities (some stateId) dz := by
  have named : ∀ (gewog : Gewog) (c : DbCity),
      gewogMatches gewog c = decide (BhutanPlan.normalize c.name = BhutanPlan.normalize gewog.gewogName) :=
      fun _ _ => rfl
  rw [cityPairs,pair_zip named]
  rfl

variable (countryId dzongkhags states cities) in
def rewritten (dz : Dzongkhag) : List CityUpdate :=
  (cityPairs cities ((ids dzongkhags states).lookup dz.dzongkhagId) dz).filterMap fun p =>
    p.2.bind (cityUpdate countryId ((ids dzongkhags states).lookup dz.dzongkhagId) dz p.1)

theorem mem_rewritten {u : CityUpdate} : u ∈ rewritten countryId dzongkhags states cities dz ↔
    ∃ e s gewog c, Holds dzongkhags states e s ∧ e.dzongkhagId = dz.dzongkhagId ∧ Takes cities s.id dz gewog c ∧
      Stale countryId dz gewog c ∧
      u = { id := c.id, name := gewog.gewogName, stateId := some s.id, stateCode := dz.dzongkhagId } := by
  rw [rewritten,List.mem_filterMap]
  constructor
  · rintro ⟨⟨gewog,taken⟩,listed,bound⟩
    obtain ⟨c,rfl,updated⟩ := Option.bind_eq_some_iff.mp bound
    cases known : (ids dzongkhags states).lookup dz.dzongkhagId with
    | none =>
      rw [known] at listed
      exact absurd (taken_city listed).2 (by simp)
    | some id =>
      rw [known] at listed updated
      obtain ⟨e,s,held,same,rfl⟩ := ids_iff.mp known
      exact ⟨e,s,gewog,c,held,same,takes_iff.mpr listed,(Option.ite_none_right_eq_some.mp updated).1,
          cityUpdate_some updated⟩
  · rintro ⟨e,s,gewog,c,held,same,takes,stale,rfl⟩
    rw [ids_iff.mpr ⟨e,s,held,same,rfl⟩]
    exact ⟨(gewog,some c),takes_iff.mp takes,if_pos stale⟩

theorem mem_rewritten_id {id : Int} : id ∈ (rewritten countryId dzongkhags states cities dz).map CityUpdate.id ↔
    ∃ c, Rewrites countryId dzongkhags states cities dz c ∧ c.id = id := by
  constructor
  · intro listed
    obtain ⟨u,there,rfl⟩ := List.mem_map.mp listed
    obtain ⟨e,s,gewog,c,held,same,takes,stale,rfl⟩ := mem_rewritten.mp there
    exact ⟨c,⟨e,s,gewog,held,same,takes,stale⟩,rfl⟩
  · rintro ⟨c,⟨e,s,gewog,held,same,takes,stale⟩,rfl⟩
    exact List.mem_map.mpr ⟨_,mem_rewritten.mpr ⟨e,s,gewog,c,held,same,takes,stale,rfl⟩,rfl⟩
theorem takes_city {stateId : Int} {gewog : Gewog} {c : DbCity} (takes : Takes cities stateId dz gewog c) :
    c ∈ cities ∧ c.stateId = stateId := by
  obtain ⟨listed,under⟩ := taken_city (takes_iff.mp takes)
  exact ⟨listed,Option.some.inj under⟩

theorem left_taken {Key Row : Type} {fits : Key → Row → Bool} {keys : List Key} {pool : List Row} {k : Key} {row : Row}
    (asked : k ∈ keys) (left : row ∈ (pair fits keys pool).2) (fit : fits k row = true) :
    ∃ taken, (k,some taken) ∈ (pair fits keys pool).1 := by
  induction keys generalizing pool with
  | nil => cases asked
  | cons head keys ih =>
    rcases List.mem_cons.mp asked with rfl | later
    · have there : row ∈ pool :=
        List.mem_of_mem_eraseP ((pair_perm fits keys _).mem_iff.mpr (List.mem_append_right _ left))
      obtain ⟨taken,found⟩ := Option.isSome_iff_exists.mp (List.find?_isSome.mpr ⟨row,there,fit⟩)
      exact ⟨taken,List.mem_cons.mpr (.inl (by rw [found]))⟩
    · obtain ⟨taken,listed⟩ := ih later left
      exact ⟨taken,List.mem_cons_of_mem _ listed⟩

theorem pairs_once (unique : (cities.map DbCity.id).Nodup) (stateId : Option Int) (dz : Dzongkhag) :
    ((kept (cityPairs cities stateId dz)).map DbCity.id).Nodup :=
  taken_unique (unique.sublist (List.filter_sublist.map _)) (pair_perm gewogMatches dz.gewogs (citiesOf cities stateId))

/-- With dzongkhag ids of their own, only a name that cannot be a key loses its state. -/
theorem named_of_distinct (distinct : (dzongkhags.map Dzongkhag.dzongkhagId).Nodup)
    (own : ∀ s ∈ states, aliased s.name ≠ "constructor") : Named dzongkhags states := by
  intro s listed dz there same
  rcases served_or_spent states distinct there with claims | spent
  · exact .inr ⟨dz,claims,rfl,decide_eq_true rfl⟩
  · have key : stateKey s.name = nameKey dz := by
      rw [nameKey,← same]
      exact stateKey_aliased (own s listed)
    have later : (statePairs (claimants dzongkhags states) states).2.filter
        (fun s => stateKey s.name = nameKey dz) = _ :=
      pair_left states_named (nameKey dz)
    rw [namesake_key,List.drop_eq_nil_iff.mpr (by rw [← List.countP_eq_length_filter]; exact spent)] at later
    rcases List.mem_append.mp
        ((pair_perm nameMatches (claimants dzongkhags states) states).mem_iff.mp listed) with taken | left
    · obtain ⟨⟨e,_⟩,paired,rfl⟩ := List.mem_filterMap.mp taken
      exact .inl ⟨e,holds_iff.mpr paired⟩
    · have none_ := List.filter_eq_nil_iff.mp later s left
      exact absurd (decide_eq_true key) none_

theorem once_of_distinct (distinct : (dzongkhags.map Dzongkhag.dzongkhagId).Nodup) :
    Once countryId dzongkhags states cities :=
  (List.pairwise_map.mp distinct).imp fun different same => absurd same different

section
variable (unique : (states.map DbState.id).Nodup)
include unique

variable {s : DbState}
theorem kept_row {e : Dzongkhag} (held : Holds dzongkhags states e s) :
    rowAfter (planBhutanSync countryId dzongkhags states cities) s = stateRow countryId s.id e := by
  rw [rowAfter,BhutanClaimants.plan_eq countryId dzongkhags cities unique]
  refine (changed_taken unique (pair_perm nameMatches (claimants dzongkhags states) states) DbState.id updateState updateState_id
    (stateUpdate countryId) (fun dz s u updated => by rw [stateUpdate_some updated]; rfl) (holds_iff.mp held)).trans ?_
  cases updated : stateUpdate countryId e s with
  | some u => rw [stateUpdate_some updated]; rfl
  | none => exact stateUpdate_none.mp updated

theorem keptFor_iff {dz : Dzongkhag} (listed : s ∈ states) :
    KeptFor (planBhutanSync countryId dzongkhags states cities) dz s ↔
      ∃ e, Holds dzongkhags states e s ∧ e.dzongkhagId = dz.dzongkhagId := by
  rw [KeptFor,deleted_iff countryId cities unique listed,not_not]
  constructor
  · rintro ⟨⟨e,held⟩,same⟩
    rw [kept_row unique held] at same
    exact ⟨e,held,same⟩
  · rintro ⟨e,held,same⟩
    refine ⟨⟨e,held⟩,?_⟩
    rw [kept_row unique held]
    exact same

theorem named_iff : Named dzongkhags states ↔
    ∀ s ∈ states, ∀ dz ∈ dzongkhags, aliased s.name = BhutanPlan.normalize dz.dzongkhagName →
      s.id ∈ (planBhutanSync countryId dzongkhags states cities).stateDeletes →
      ∃ other ∈ states, other.id ≠ s.id ∧ aliased other.name = aliased s.name ∧
        KeptFor (planBhutanSync countryId dzongkhags states cities) dz other := by
  constructor
  · intro named s listed dz there same gone
    have free := (deleted_iff countryId cities unique listed).mp gone
    obtain ⟨e,claims,id,key⟩ := (named s listed dz there same).resolve_left free
    obtain ⟨other,held⟩ := claimant_holds claims
    obtain ⟨-,inside,matched⟩ := holds_claimant held
    refine ⟨other,inside,fun alike => ?_,?_,(keptFor_iff unique inside).mpr ⟨e,held,id⟩⟩
    · exact free ⟨e,List.inj_on_of_nodup_map unique inside listed alike ▸ held⟩
    · rw [aliased_key (of_decide_eq_true matched),same]
      exact of_decide_eq_true key
  · intro deletes s listed dz there same
    by_cases held : ∃ e, Holds dzongkhags states e s
    · exact .inl held
    · obtain ⟨other,inside,-,alike,kept⟩ :=
        deletes s listed dz there same ((deleted_iff countryId cities unique listed).mpr held)
      obtain ⟨e,held,id⟩ := (keptFor_iff unique inside).mp kept
      obtain ⟨claims,-,matched⟩ := holds_claimant held
      refine .inr ⟨e,claims,id,decide_eq_true ?_⟩
      rw [← same,← alike,aliased_key (of_decide_eq_true matched)]

theorem updates_once (cityUnique : (cities.map DbCity.id).Nodup) :
    ((cityUpdates countryId dzongkhags states cities).map CityUpdate.id).Nodup ↔
    Once countryId dzongkhags states cities := by
  have parts : cityUpdates countryId dzongkhags states cities =
      dzongkhags.flatMap (rewritten countryId dzongkhags states cities) := rfl
  have each : ∀ dz ∈ dzongkhags, ((rewritten countryId dzongkhags states cities dz).map CityUpdate.id).Nodup :=
    fun dz _ => (pairs_once cityUnique _ dz).sublist
    (targets_sublist fun _ _ _ updated => by rw [cityUpdate_some updated])
  rw [parts,List.map_flatMap,List.nodup_flatMap,and_iff_right each]
  refine List.Pairwise.iff fun {dz dz'} => ?_
  constructor
  · rintro apart - c ⟨first,second⟩
    exact apart (mem_rewritten_id.mpr ⟨c,first,rfl⟩) (mem_rewritten_id.mpr ⟨c,second,rfl⟩)
  · intro once id first second
    obtain ⟨c,rewrites,rfl⟩ := mem_rewritten_id.mp first
    obtain ⟨c',rewrites',same⟩ := mem_rewritten_id.mp second
    have ⟨e,s,gewog,held,own,takes,_⟩ := rewrites
    have ⟨e',s',gewog',held',own',takes',_⟩ := rewrites'
    obtain rfl := List.inj_on_of_nodup_map cityUnique (takes_city takes').1 (takes_city takes).1 same
    have under : s.id = s'.id := (takes_city takes).2.symm.trans (takes_city takes').2
    obtain ⟨rfl,rfl⟩ := held_once unique held held' under
    exact once (own.symm.trans own') c' ⟨rewrites,rewrites'⟩

theorem states_once :
    ((planBhutanSync countryId dzongkhags states cities).stateUpdates.map DbState.id ++
      (planBhutanSync countryId dzongkhags states cities).stateDeletes).Nodup := by
  have split := split_unique unique (pair_perm nameMatches (claimants dzongkhags states) states)
  rw [List.map_append] at split
  rw [BhutanClaimants.plan_eq countryId dzongkhags cities unique]
  exact split.sublist ((targets_sublist fun _ _ _ updated => by rw [stateUpdate_some updated]; rfl).append_right _)

theorem cities_once (cityUnique : (cities.map DbCity.id).Nodup) :
    ((planBhutanSync countryId dzongkhags states cities).cityUpdates.map CityUpdate.id ++
      (planBhutanSync countryId dzongkhags states cities).cityDeletes).Nodup ↔
      Once countryId dzongkhags states cities := by
  rw [BhutanClaimants.plan_eq countryId dzongkhags cities unique,← updates_once unique cityUnique,List.nodup_append]
  have deletes :
      ((cities.filter fun c => c.id ∉ (keptCities dzongkhags states cities).map DbCity.id).map DbCity.id).Nodup :=
    cityUnique.sublist (List.filter_sublist.map _)
  refine ⟨fun parts => parts.1,fun once => ⟨once,deletes,?_⟩⟩
  intro id updated other deleted same
  obtain ⟨c,free,rfl⟩ := List.mem_map.mp deleted
  obtain ⟨u,listed,rfl⟩ := List.mem_map.mp updated
  obtain ⟨dz,there,inside⟩ := List.mem_flatMap.mp listed
  obtain ⟨e,s,gewog,taken,held,own,takes,-,rfl⟩ := mem_rewritten.mp inside
  refine of_decide_eq_true (List.mem_filter.mp free).2 (List.mem_map.mpr ⟨taken,List.mem_flatMap.mpr ⟨dz,there,?_⟩,same⟩)
  rw [ids_iff.mpr ⟨e,s,held,own,rfl⟩]
  exact List.mem_filterMap.mpr ⟨_,takes_iff.mp takes,rfl⟩

variable (countryId) in
theorem taken_kept {dz e : Dzongkhag} {gewog : Gewog} {c : DbCity} (there : dz ∈ dzongkhags)
    (held : Holds dzongkhags states e s) (own : e.dzongkhagId = dz.dzongkhagId) (takes : Takes cities s.id dz gewog c) :
    KeptAs (planBhutanSync countryId dzongkhags states cities) gewog c := by
  rw [KeptAs,BhutanClaimants.plan_eq countryId dzongkhags cities unique]
  constructor
  · intro deleted
    obtain ⟨other,free,same⟩ := List.mem_map.mp deleted
    refine of_decide_eq_true (List.mem_filter.mp free).2
        (List.mem_map.mpr ⟨c,List.mem_flatMap.mpr ⟨dz,there,?_⟩,same.symm⟩)
    rw [ids_iff.mpr ⟨e,s,held,own,rfl⟩]
    exact List.mem_filterMap.mpr ⟨_,takes_iff.mp takes,rfl⟩
  · by_cases same : c.name = gewog.gewogName
    · exact .inl same
    · exact .inr ⟨_,List.mem_flatMap.mpr ⟨dz,there,mem_rewritten.mpr ⟨e,s,gewog,c,held,own,takes,.inl same,rfl⟩⟩,rfl,rfl⟩

theorem gewogs_kept {dz e : Dzongkhag} (there : dz ∈ dzongkhags)
    (held : Holds dzongkhags states e s) (own : e.dzongkhagId = dz.dzongkhagId) {c : DbCity} (listed : c ∈ cities)
    (under : c.stateId = s.id) {gewog : Gewog} (asked : gewog ∈ dz.gewogs)
    (named : BhutanPlan.normalize c.name = BhutanPlan.normalize gewog.gewogName)
    (gone : c.id ∈ (planBhutanSync countryId dzongkhags states cities).cityDeletes) :
    ∃ other ∈ cities, other.id ≠ c.id ∧ other.stateId = c.stateId ∧
        BhutanPlan.normalize other.name = BhutanPlan.normalize c.name ∧
      KeptAs (planBhutanSync countryId dzongkhags states cities) gewog other := by
  have here : c ∈ citiesOf cities (some s.id) := List.mem_filter.mpr ⟨listed,decide_eq_true (congrArg some under)⟩
  have served : ∃ other, (gewog,some other) ∈ cityPairs cities (some s.id) dz := by
    rcases List.mem_append.mp
        ((pair_perm gewogMatches dz.gewogs (citiesOf cities (some s.id))).mem_iff.mp here) with taken | left
    · obtain ⟨⟨other,_⟩,paired,rfl⟩ := List.mem_filterMap.mp taken
      have kept := taken_kept countryId unique there held own (takes_iff.mpr paired)
      exact absurd gone kept.1
    · exact left_taken asked left (decide_eq_true named)
  obtain ⟨other,paired⟩ := served
  have takes := takes_iff.mpr paired
  have kept := taken_kept countryId unique there held own takes
  obtain ⟨inside,beneath⟩ := takes_city takes
  have matched : gewogMatches gewog other = true := taken_fits paired
  exact ⟨other,inside,fun same => kept.1 (same ▸ gone),beneath.trans under.symm,
      (of_decide_eq_true matched).trans named.symm,kept⟩

theorem stateUpdates_known :
    ∀ u ∈ (planBhutanSync countryId dzongkhags states cities).stateUpdates, ∃ s ∈ states, s.id = u.id := by
  intro u updated
  rw [BhutanClaimants.plan_eq countryId dzongkhags cities unique] at updated
  obtain ⟨⟨e,taken⟩,listed,bound⟩ := List.mem_filterMap.mp updated
  obtain ⟨s,rfl,stale⟩ := Option.bind_eq_some_iff.mp bound
  refine ⟨s,(holds_claimant (holds_iff.mpr listed)).2.1,?_⟩
  rw [stateUpdate_some stale]
  rfl
theorem cityUpdates_known : ∀ u ∈ (planBhutanSync countryId dzongkhags states cities).cityUpdates,
    ∃ c ∈ cities, c.id = u.id ∧ u.stateId = some c.stateId := by
  intro u updated
  rw [BhutanClaimants.plan_eq countryId dzongkhags cities unique] at updated
  obtain ⟨dz,_,inside⟩ := List.mem_flatMap.mp updated
  obtain ⟨e,s,gewog,c,_,_,takes,_,rfl⟩ := mem_rewritten.mp inside
  obtain ⟨listed,under⟩ := takes_city takes
  exact ⟨c,listed,rfl,congrArg some under.symm⟩

variable (countryId dzongkhags) in
theorem planKeeps_iff (cityUnique : (cities.map DbCity.id).Nodup) :
    PlanKeeps (planBhutanSync countryId dzongkhags states cities) dzongkhags states cities ↔
      Named dzongkhags states ∧ Once countryId dzongkhags states cities := by
  constructor
  · exact fun keeps => ⟨(named_iff unique).mpr keeps.namesakes,(cities_once unique cityUnique).mp keeps.citiesOnce⟩
  · rintro ⟨named,once⟩
    refine ⟨states_once unique,(cities_once unique cityUnique).mpr once,(named_iff unique).mp named,?_,
        stateUpdates_known unique,
      cityUpdates_known unique⟩
    · intro s listed dz there kept c inside under gewog asked same gone
      obtain ⟨e,held,own⟩ := (keptFor_iff unique listed).mp kept
      exact gewogs_kept unique there held own inside under asked same gone

end
end Ngotag.BhutanIdentity
