import Ngotag.BhutanSync

/-!
The plan for any list of dzongkhags. An id that occurs again is passed over once it has a state, so
only some dzongkhags claim one; those of a name take the states of that name one after the other.
-/
namespace Ngotag.BhutanClaimants
open Pairing Reconciliation BhutanPlan BhutanSync

def namesake (dz other : Dzongkhag) : Bool :=
  BhutanPlan.normalize other.dzongkhagName = BhutanPlan.normalize dz.dzongkhagName
/-- A dzongkhag is served when its id is not yet and there are more states of its name than
dzongkhags served. -/
def serve (states : List DbState) (served : List Dzongkhag) (dz : Dzongkhag) : List Dzongkhag :=
  if (∀ e ∈ served, e.dzongkhagId ≠ dz.dzongkhagId) ∧ served.countP (namesake dz) < states.countP (nameMatches dz) then
    served ++ [dz]
  else served
def claimants (dzongkhags : List Dzongkhag) (states : List DbState) :
    List Dzongkhag := dzongkhags.foldl (serve states) []
/-- The claimants of a name hold the states of that name in their order. -/
def Holds (dzongkhags : List Dzongkhag) (states : List DbState) (e : Dzongkhag) (s : DbState) : Prop :=
  (e,s) ∈ ((claimants dzongkhags states).filter (namesake e)).zip (states.filter (nameMatches e))

section
variable {countryId : Int} {dzongkhags : List Dzongkhag} {states : List DbState}

def nameKey (dz : Dzongkhag) : Option String := some (BhutanPlan.normalize dz.dzongkhagName)
theorem states_named (dz : Dzongkhag) (s : DbState) : nameMatches dz s = decide (stateKey s.name = nameKey dz) := rfl
theorem namesake_key (dz : Dzongkhag) : (fun other => decide (nameKey other = nameKey dz)) = namesake dz := by
  funext other
  simp only [nameKey,namesake,Option.some.injEq]
theorem holds_iff {e : Dzongkhag} {s : DbState} :
    Holds dzongkhags states e s ↔ (e,some s) ∈ (statePairs (claimants dzongkhags states) states).1 := by
  rw [statePairs,pair_zip states_named,namesake_key]
  rfl
/-- Claimants have ids of their own, and there are states enough for them. -/
structure Served (states : List DbState) (served : List Dzongkhag) : Prop where
  distinct : (served.map Dzongkhag.dzongkhagId).Nodup
  enough : ∀ e ∈ served, served.countP (namesake e) ≤ states.countP (nameMatches e)

variable {served : List Dzongkhag}
theorem serve_served (before : Served states served) (dz : Dzongkhag) :
    Served states (serve states served dz) := by
  rw [serve]
  split
  · next asks =>
    refine ⟨?_,fun e there => ?_⟩
    · rw [List.map_append,List.map_singleton,List.nodup_append]
      refine ⟨before.distinct,List.nodup_singleton _,fun id listed other here => ?_⟩
      obtain ⟨e,there,rfl⟩ := List.mem_map.mp listed
      exact fun same => asks.1 e there (same.trans (List.mem_singleton.mp here))
    · rw [List.countP_append,List.countP_singleton]
      by_cases same : namesake e dz = true
      · have key := of_decide_eq_true same
        have asked : namesake dz = namesake e := funext fun x => by rw [namesake,namesake,key]
        have matched : nameMatches dz = nameMatches e := funext fun s => by rw [nameMatches,nameMatches,key]
        rw [if_pos same,← asked,← matched]
        exact asks.2
      · rw [if_neg same]
        rcases List.mem_append.mp there with earlier | here
        · exact before.enough e earlier
        · obtain rfl := List.mem_singleton.mp here
          exact absurd (decide_eq_true rfl) same
  · exact before

variable (dzongkhags states) in
theorem claimants_served : Served states (claimants dzongkhags states) := by
  have run : ∀ served, Served states served → Served states (dzongkhags.foldl (serve states) served) := by
    induction dzongkhags with
    | nil => exact fun served fits => fits
    | cons dz rest ih => exact fun served fits => ih _ (serve_served fits dz)
  exact run [] ⟨List.nodup_nil,fun e there => nomatch there⟩
theorem claimant_holds {e : Dzongkhag} (claims : e ∈ claimants dzongkhags states) :
    ∃ s, Holds dzongkhags states e s := by
  have enough := (claimants_served dzongkhags states).enough e claims
  rw [← namesake_key] at enough
  obtain ⟨s,taken⟩ := pair_served states_named claims enough
  exact ⟨s,holds_iff.mpr taken⟩
theorem holds_claimant {e : Dzongkhag} {s : DbState} (held : Holds dzongkhags states e s) :
    e ∈ claimants dzongkhags states ∧ s ∈ states ∧ nameMatches e s = true := by
  obtain ⟨claims,there⟩ := List.of_mem_zip held
  exact ⟨List.mem_of_mem_filter claims,List.mem_filter.mp there⟩

variable (states) in
theorem served_or_spent (distinct : (dzongkhags.map Dzongkhag.dzongkhagId).Nodup) {dz : Dzongkhag}
    (listed : dz ∈ dzongkhags) :
    dz ∈ claimants dzongkhags states ∨
      states.countP (nameMatches dz) ≤ (claimants dzongkhags states).countP (namesake dz) := by
  have grows : ∀ (rest served : List Dzongkhag), served.Sublist (rest.foldl (serve states) served) := by
    intro rest
    induction rest with
    | nil => exact fun served => .refl served
    | cons other rest ih =>
      intro served
      refine .trans ?_ (ih (serve states served other))
      rw [serve]
      split
      · exact List.sublist_append_left served [other]
      · exact .refl served
  have run : ∀ served, (∀ e ∈ served, ∀ other ∈ dzongkhags, e.dzongkhagId ≠ other.dzongkhagId) →
      dz ∈ dzongkhags.foldl (serve states) served ∨
        states.countP (nameMatches dz) ≤ (dzongkhags.foldl (serve states) served).countP (namesake dz) := by
    induction dzongkhags with
    | nil => cases listed
    | cons head rest ih =>
      intro served apart
      obtain ⟨alone,distinct⟩ := List.nodup_cons.mp distinct
      have later : ∀ e ∈ serve states served head, ∀ other ∈ rest, e.dzongkhagId ≠ other.dzongkhagId := by
        intro e there other inside
        rw [serve] at there
        split at there
        · rcases List.mem_append.mp there with earlier | here
          · exact apart e earlier other (List.mem_cons_of_mem head inside)
          · rw [List.mem_singleton.mp here]
            exact fun same => alone (same ▸ List.mem_map_of_mem inside)
        · exact apart e there other (List.mem_cons_of_mem head inside)
      rw [List.foldl_cons]
      rcases List.mem_cons.mp listed with rfl | inside
      · by_cases more : served.countP (namesake dz) < states.countP (nameMatches dz)
        · refine .inl ((grows rest _).subset ?_)
          rw [serve,if_pos ⟨fun e there => apart e there dz List.mem_cons_self,more⟩]
          exact List.mem_append_right _ (List.mem_singleton.mpr rfl)
        · have spent : states.countP (nameMatches dz) ≤ (serve states served dz).countP (namesake dz) := by
            rw [serve,if_neg fun asks => more asks.2]
            exact Nat.not_lt.mp more
          exact .inr (spent.trans ((grows rest _).countP_le))
      · exact ih distinct inside _ later
  exact run [] fun e there => nomatch there

def claimed (countryId : Int) (states : List DbState) (served : List Dzongkhag) : Claims :=
  served.foldl (claimState countryId) { unmatchedStates := states, stateIdByDzongkhag := [], stateUpdates := [] }
theorem claimed_eq (fits : Served states served) (unique : (states.map DbState.id).Nodup) :
    claimed countryId states served =
      { unmatchedStates := (statePairs served states).2
        stateIdByDzongkhag := claimedIds served states
        stateUpdates := (statePairs served states).1.filterMap fun p => p.2.bind (stateUpdate countryId p.1) } := by
  rw [claimed,claims_run fits.distinct _ (fun _ _ => rfl) unique]
  simp only [List.append_nil,List.nil_append]
  rfl

theorem claim_serve (fits : Served states served) (unique : (states.map DbState.id).Nodup)
    (dz : Dzongkhag) : claimState countryId (claimed countryId states served) dz = claimed countryId states
    (serve states served dz) := by
  rw [serve]
  split
  · rw [claimed,claimed,List.foldl_append]
    rfl
  · next passed =>
    rw [claimState]
    split
    · rfl
    · next unclaimed =>
      have alone : ∀ e ∈ served, e.dzongkhagId ≠ dz.dzongkhagId := by
        intro e there same
        have enough := fits.enough e there
        rw [← namesake_key] at enough
        obtain ⟨s,taken⟩ := pair_served states_named there enough
        have known : (claimedIds served states).lookup e.dzongkhagId = some s.id := lookup_claimed fits.distinct taken
        rw [claimed_eq fits unique,← same,known] at unclaimed
        exact unclaimed rfl
      have spent : states.countP (nameMatches dz) ≤ served.countP (namesake dz) :=
        Nat.not_lt.mp fun more => passed ⟨alone,more⟩
      have left : ((statePairs served states).2.filter (nameMatches dz)) = [] := by
        have later : (statePairs served states).2.filter (fun s => stateKey s.name = nameKey dz) = _ :=
          pair_left states_named (nameKey dz)
        rw [namesake_key] at later
        refine later.trans (List.drop_eq_nil_iff.mpr ?_)
        rw [← List.countP_eq_length_filter]
        exact spent
      have none_ : (claimed countryId states served).unmatchedStates.find? (nameMatches dz) = none := by
        rw [claimed_eq fits unique,← List.head?_filter,left]
        rfl
      rw [none_]

variable (countryId dzongkhags) in
theorem claims_eq (unique : (states.map DbState.id).Nodup) :
    dzongkhags.foldl (claimState countryId) (claimed countryId states []) =
      claimed countryId states (claimants dzongkhags states) := by
  have run : ∀ served, Served states served →
      dzongkhags.foldl (claimState countryId) (claimed countryId states served) =
        claimed countryId states (dzongkhags.foldl (serve states) served) := by
    induction dzongkhags with
    | nil => exact fun _ _ => rfl
    | cons dz rest ih =>
      intro served fits
      rw [List.foldl_cons,claim_serve fits unique,ih _ (serve_served fits dz)]
      rfl
  exact run [] ⟨List.nodup_nil,fun e there => nomatch there⟩

end
variable (countryId : Int) (dzongkhags : List Dzongkhag) (states : List DbState) (cities : List DbCity)

/-- `stateIdByDzongkhag` -/
def ids : List (String × Int) := claimedIds (claimants dzongkhags states) states
def cityUpdates : List CityUpdate :=
  dzongkhags.flatMap fun dz => (cityPairs cities ((ids dzongkhags states).lookup dz.dzongkhagId) dz).filterMap fun p =>
    p.2.bind (cityUpdate countryId ((ids dzongkhags states).lookup dz.dzongkhagId) dz p.1)
def keptCities : List DbCity :=
  dzongkhags.flatMap fun dz => kept (cityPairs cities ((ids dzongkhags states).lookup dz.dzongkhagId) dz)

variable {states} in
theorem plan_eq (unique : (states.map DbState.id).Nodup) :
    planBhutanSync countryId dzongkhags states cities =
      { stateUpdates := (statePairs (claimants dzongkhags states) states).1.filterMap fun p =>
      p.2.bind (stateUpdate countryId p.1)
        stateCreates := dzongkhags.filter fun dz => (ids dzongkhags states).lookup dz.dzongkhagId = none
        stateDeletes := (statePairs (claimants dzongkhags states) states).2.map DbState.id
        cityUpdates := cityUpdates countryId dzongkhags states cities
        cityCreates :=
            dzongkhags.flatMap fun dz => (cityPairs cities ((ids dzongkhags states).lookup dz.dzongkhagId) dz).filterMap
          (cityCreate ((ids dzongkhags states).lookup dz.dzongkhagId) dz)
        cityDeletes :=
            (cities.filter fun c => c.id ∉ (keptCities dzongkhags states cities).map DbCity.id).map DbCity.id } := by
  obtain ⟨existing,run⟩ := dzongkhags_run countryId (ids dzongkhags states) cities dzongkhags
    { stateCreates := [], existing := [], keptCityIds := [], cityUpdates := [], cityCreates := [] }
  have claims := (claims_eq countryId dzongkhags unique).trans
    (claimed_eq (claimants_served dzongkhags states) unique)
  rw [claimed,List.foldl_nil] at claims
  rw [planBhutanSync,claims]
  simp only [List.nil_append] at run
  rw [ids] at run ⊢
  rw [run]
  simp only [keptCities,List.map_flatMap]
  rfl

variable {dzongkhags states}
theorem ids_iff {x : String} {id : Int} :
    (ids dzongkhags states).lookup x = some id ↔ ∃ e s, Holds dzongkhags states e s ∧ e.dzongkhagId = x ∧ s.id = id := by
  constructor
  · intro known
    obtain ⟨e,s,taken,rfl,rfl⟩ := claimed_pair known
    exact ⟨e,s,holds_iff.mpr taken,rfl,rfl⟩
  · rintro ⟨e,s,held,rfl,rfl⟩
    exact lookup_claimed (claimants_served dzongkhags states).distinct (holds_iff.mp held)

variable (unique : (states.map DbState.id).Nodup)
include unique
theorem held_once {e e' : Dzongkhag} {s s' : DbState} (held : Holds dzongkhags states e s)
    (held' : Holds dzongkhags states e' s')
    (same : s.id = s'.id) : e = e' ∧ s = s' :=
  own_pair unique (pair_perm nameMatches _ states) (holds_iff.mp held) (holds_iff.mp held') same

theorem deleted_iff {s : DbState} (listed : s ∈ states) :
    s.id ∈ (planBhutanSync countryId dzongkhags states cities).stateDeletes ↔ ¬∃ e, Holds dzongkhags states e s := by
  have all := pair_perm nameMatches (claimants dzongkhags states) states
  rw [plan_eq countryId dzongkhags cities unique]
  constructor
  · rintro left ⟨e,held⟩
    exact taken_apart unique all (holds_iff.mp held) left
  · intro free
    rcases List.mem_append.mp (all.mem_iff.mp listed) with taken | left
    · obtain ⟨⟨e,_⟩,there,rfl⟩ := List.mem_filterMap.mp taken
      exact absurd ⟨e,holds_iff.mpr there⟩ free
    · exact List.mem_map_of_mem left

end Ngotag.BhutanClaimants
