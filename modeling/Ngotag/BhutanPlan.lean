import Ngotag.JsObject
import Ngotag.Pairing

/-!
The plan that brings Bhutan's states and cities in line with the address master. A dzongkhag takes
the first state left that has its name, a gewog the first city left of its dzongkhag's state that has
its name; what nobody takes is deleted.
-/
namespace Ngotag.BhutanPlan
open Pairing

structure Gewog where
  gewogId : String
  gewogName : String
  deriving DecidableEq
structure Dzongkhag where
  dzongkhagId : String
  dzongkhagName : String
  gewogs : List Gewog
  deriving DecidableEq
structure DbState where
  id : Int
  name : String
  isoCode : String
  countryId : Int
  deriving DecidableEq
structure DbCity where
  id : Int
  name : String
  stateId : Int
  stateCode : String
  countryId : Int
  deriving DecidableEq
/-- A gewog of a dzongkhag that is itself being created has no `stateId` yet. -/
structure CityCreate where
  name : String
  stateId : Option Int
  stateCode : String
structure CityUpdate where
  id : Int
  name : String
  stateId : Option Int
  stateCode : String
structure BhutanSyncPlan where
  stateUpdates : List DbState
  stateCreates : List Dzongkhag
  stateDeletes : List Int
  cityUpdates : List CityUpdate
  cityCreates : List CityCreate
  cityDeletes : List Int

def BhutanSyncPlan.hasChanges (plan : BhutanSyncPlan) : Bool :=
  plan.stateUpdates ≠ [] || plan.stateCreates ≠ [] || plan.stateDeletes ≠ [] || plan.cityUpdates ≠ [] ||
    plan.cityCreates ≠ [] || plan.cityDeletes ≠ []
/-- `\w` -/
def isWord (c : Char) : Bool := c.isAlphanum || c == '_'
/-- The letters of a name in lower case. Of those outside ASCII only the Kelvin sign and the dotted I
become ASCII letters. -/
def toLowerCase (cs : List Char) : List Char :=
  cs.flatMap fun c =>
    if c = Char.ofNat 0x212a then ['k'] else if c = Char.ofNat 0x130 then ['i',Char.ofNat 0x307] else [c.toLower]

/-- `.replace(/\bdistrict\b/g, '')`: `inWord` tells whether a word character came before, `skip` how
many characters of a match are still to come. -/
def dropDistrict : Bool → Nat → List Char → List Char
  | _,_,[] => []
  | _,skip + 1,c :: rest => dropDistrict (isWord c) skip rest
  | inWord,0,c :: rest =>
    if !inWord && "district".toList.isPrefixOf (c :: rest) && !(rest.drop 7).head?.any isWord then
      dropDistrict (isWord c) 7 rest
    else c :: dropDistrict (isWord c) 0 rest
/-- `[a-z0-9]` -/
def plain (c : Char) : Bool := c.isLower || c.isDigit
def normalize (s : String) : String := String.ofList ((dropDistrict false 0 (toLowerCase s.toList)).filter plain)
/-- Legacy state names that differ from the dzongkhag name beyond "District". -/
def legacyStateAliases : List (String × String) := [("lhuntse","lhuentse")]
/-- `LEGACY_STATE_ALIASES[normalize(name)] ?? normalize(name)`; an inherited property is no string. -/
def stateKey (name : String) : Option String :=
  (JsObject.read legacyStateAliases (normalize name)).getD (some (normalize name))

theorem normalize_inherited {name : String} (inherited : normalize name ∈ JsObject.inherited) :
    normalize name = "constructor" := by
  have each : ∀ k ∈ JsObject.inherited, k.toList.all plain = true → k = "constructor" := by decide
  refine each _ inherited ?_
  rw [normalize,String.toList_ofList,List.all_eq_true]
  exact fun c there => (List.mem_filter.mp there).2
theorem stateKey_plain {name : String} (alias_ : normalize name ∉ JsObject.keys legacyStateAliases)
    (own : normalize name ≠ "constructor") : stateKey name = some (normalize name) := by
  have missing : legacyStateAliases.lookup (normalize name) = none := by
    simpa [legacyStateAliases,JsObject.keys] using alias_
  rw [stateKey,JsObject.read,missing]
  simp only [if_neg fun there => own (normalize_inherited there),Option.getD_none]
/-- The constructor every object inherits stands in for an alias, so nothing has that key. -/
theorem stateKey_constructor (name : String) : stateKey name ≠ some "constructor" := by
  intro key
  by_cases own : normalize name = "constructor"
  · simp [stateKey,own,JsObject.read,legacyStateAliases,JsObject.inherited] at key
  · by_cases alias_ : normalize name ∈ JsObject.keys legacyStateAliases
    · obtain same : normalize name = "lhuntse" := by simpa [legacyStateAliases,JsObject.keys] using alias_
      simp [stateKey,same,JsObject.read,legacyStateAliases] at key
    · rw [stateKey_plain alias_ own] at key
      exact own (Option.some.inj key)

structure Claims where
  unmatchedStates : List DbState
  stateIdByDzongkhag : List (String × Int)
  stateUpdates : List DbState

variable (countryId : Int)
def stateRow (id : Int) (dz : Dzongkhag) : DbState :=
  { id, name := dz.dzongkhagName, isoCode := dz.dzongkhagId, countryId }
def nameMatches (dz : Dzongkhag) (s : DbState) : Bool := stateKey s.name = some (normalize dz.dzongkhagName)

def claimState (c : Claims) (dz : Dzongkhag) : Claims :=
  if (c.stateIdByDzongkhag.lookup dz.dzongkhagId).isSome then c
  else
    match c.unmatchedStates.find? (nameMatches dz) with
    | none => c
    | some state =>
      { unmatchedStates := c.unmatchedStates.filter fun s => s.id ≠ state.id
        stateIdByDzongkhag := (dz.dzongkhagId,state.id) :: c.stateIdByDzongkhag
        stateUpdates :=
          if state.name ≠ dz.dzongkhagName ∨ state.isoCode ≠ dz.dzongkhagId ∨ state.countryId ≠ countryId then
            c.stateUpdates ++ [stateRow countryId state.id dz]
          else c.stateUpdates }

/-- What the loop over the dzongkhags and their gewogs changes; `existing` are the cities left of the
dzongkhag at hand. -/
structure Cities where
  stateCreates : List Dzongkhag
  existing : List DbCity
  keptCityIds : List Int
  cityUpdates : List CityUpdate
  cityCreates : List CityCreate
def gewogMatches (gewog : Gewog) (c : DbCity) : Bool := normalize c.name = normalize gewog.gewogName

def matchGewog (dz : Dzongkhag) (stateId : Option Int) (m : Cities) (gewog : Gewog) : Cities :=
  match m.existing.find? (gewogMatches gewog) with
  | none =>
      { m with cityCreates := m.cityCreates ++ [{ name := gewog.gewogName, stateId, stateCode := dz.dzongkhagId }] }
  | some city =>
    { m with
      existing := m.existing.eraseP (gewogMatches gewog)
      keptCityIds := m.keptCityIds ++ [city.id]
      cityUpdates :=
        if city.name ≠ gewog.gewogName ∨ city.stateCode ≠ dz.dzongkhagId ∨ city.countryId ≠ countryId then
          m.cityUpdates ++ [{ id := city.id, name := gewog.gewogName, stateId, stateCode := dz.dzongkhagId }]
        else m.cityUpdates }

/-- `citiesByState.get(stateId) ?? []` -/
def citiesOf (cities : List DbCity) (stateId : Option Int) : List DbCity :=
  cities.filter fun city => some city.stateId = stateId
def matchDzongkhag (stateIdByDzongkhag : List (String × Int)) (cities : List DbCity) (m : Cities) (dz : Dzongkhag) :
    Cities :=
  let stateId := stateIdByDzongkhag.lookup dz.dzongkhagId
  let started :=
    { m with
      stateCreates := if stateId = none then m.stateCreates ++ [dz] else m.stateCreates
      existing := citiesOf cities stateId }
  dz.gewogs.foldl (matchGewog countryId dz stateId) started

def planBhutanSync (dzongkhags : List Dzongkhag) (states : List DbState) (cities : List DbCity) : BhutanSyncPlan :=
  let claims := dzongkhags.foldl (claimState countryId)
    { unmatchedStates := states, stateIdByDzongkhag := [], stateUpdates := [] }
  let m := dzongkhags.foldl (matchDzongkhag countryId claims.stateIdByDzongkhag cities)
    { stateCreates := [], existing := [], keptCityIds := [], cityUpdates := [], cityCreates := [] }
  { stateUpdates := claims.stateUpdates
    stateCreates := m.stateCreates
    stateDeletes := claims.unmatchedStates.map DbState.id
    cityUpdates := m.cityUpdates
    cityCreates := m.cityCreates
    cityDeletes := (cities.filter fun c => c.id ∉ m.keptCityIds).map DbCity.id }

def statePairs (dzongkhags : List Dzongkhag) (states : List DbState) :
    List (Dzongkhag × Option DbState) × List DbState :=
  pair nameMatches dzongkhags states
def stateIds (pairs : List (Dzongkhag × Option DbState)) : List (String × Int) :=
  pairs.filterMap fun p => p.2.map fun s => (p.1.dzongkhagId,s.id)
def stateUpdate (dz : Dzongkhag) (s : DbState) : Option DbState :=
  if s.name ≠ dz.dzongkhagName ∨ s.isoCode ≠ dz.dzongkhagId ∨ s.countryId ≠ countryId then
    some (stateRow countryId s.id dz)
  else none

variable {countryId}
variable {dz : Dzongkhag}
theorem stateUpdate_some {s u : DbState} (updated : stateUpdate countryId dz s = some u) :
    u = stateRow countryId s.id dz := (Option.some.inj (Option.ite_none_right_eq_some.mp updated).2).symm
theorem stateUpdate_none {s : DbState} :
    stateUpdate countryId dz s = none ↔ s = stateRow countryId s.id dz := by
  obtain ⟨id,name,isoCode,country⟩ := s
  simp [stateUpdate,stateRow]

theorem claims_run {dzongkhags : List Dzongkhag} (distinct : (dzongkhags.map Dzongkhag.dzongkhagId).Nodup) (c : Claims)
    (new : ∀ dz ∈ dzongkhags, c.stateIdByDzongkhag.lookup dz.dzongkhagId = none)
    (unique : (c.unmatchedStates.map DbState.id).Nodup) :
    dzongkhags.foldl (claimState countryId) c =
      { unmatchedStates := (statePairs dzongkhags c.unmatchedStates).2
        stateIdByDzongkhag := (stateIds (statePairs dzongkhags c.unmatchedStates).1).reverse ++ c.stateIdByDzongkhag
        stateUpdates := c.stateUpdates ++
          (statePairs dzongkhags c.unmatchedStates).1.filterMap fun p => p.2.bind (stateUpdate countryId p.1) } := by
  induction dzongkhags generalizing c with
  | nil => simp [statePairs,pair,stateIds]
  | cons dz rest ih =>
    obtain ⟨alone,distinct⟩ := List.nodup_cons.mp distinct
    have fresh : (c.stateIdByDzongkhag.lookup dz.dzongkhagId).isSome = false := by simp [new dz List.mem_cons_self]
    rw [List.foldl_cons,claimState,if_neg (by simp [fresh])]
    cases found : c.unmatchedStates.find? (nameMatches dz) with
    | none =>
      rw [ih distinct c (fun other listed => new other (List.mem_cons_of_mem dz listed)) unique]
      simp [statePairs,pair,found,erase_of_find_none found,stateIds]
    | some state =>
      have left := filter_ne_eq_erase unique found
      rw [ih distinct]
      · simp only [left,statePairs,pair,found,stateIds]
        split
        · next stale => simp [stateUpdate,stale]
        · next fits => simp [stateUpdate,fits]
      · intro other listed
        have apart : other.dzongkhagId ≠ dz.dzongkhagId := fun same => alone (same ▸ List.mem_map_of_mem listed)
        simp [List.lookup_cons,beq_false_of_ne apart,new other (List.mem_cons_of_mem dz listed)]
      · exact unique.sublist (List.filter_sublist.map DbState.id)

def cityPairs (cities : List DbCity) (stateId : Option Int) (dz : Dzongkhag) : List (Gewog × Option DbCity) :=
  (pair gewogMatches dz.gewogs (citiesOf cities stateId)).1
def kept (pairs : List (Gewog × Option DbCity)) : List DbCity := pairs.filterMap Prod.snd

variable (countryId) in
def cityUpdate (stateId : Option Int) (dz : Dzongkhag) (gewog : Gewog) (city : DbCity) : Option CityUpdate :=
  if city.name ≠ gewog.gewogName ∨ city.stateCode ≠ dz.dzongkhagId ∨ city.countryId ≠ countryId then
    some { id := city.id, name := gewog.gewogName, stateId, stateCode := dz.dzongkhagId }
  else none

theorem cityUpdate_some {stateId : Option Int} {gewog : Gewog} {city : DbCity} {u : CityUpdate}
    (updated : cityUpdate countryId stateId dz gewog city = some u) :
    u = { id := city.id, name := gewog.gewogName, stateId, stateCode := dz.dzongkhagId } :=
  (Option.some.inj (Option.ite_none_right_eq_some.mp updated).2).symm
theorem cityUpdate_none {stateId : Option Int} {gewog : Gewog} {city : DbCity} :
    cityUpdate countryId stateId dz gewog city = none ↔
      city.name = gewog.gewogName ∧ city.stateCode = dz.dzongkhagId ∧ city.countryId = countryId := by
  simp [cityUpdate]
def cityCreate (stateId : Option Int) (dz : Dzongkhag) (p : Gewog × Option DbCity) : Option CityCreate :=
  if p.2 = none then some { name := p.1.gewogName, stateId, stateCode := dz.dzongkhagId } else none

theorem gewogs_run (dz : Dzongkhag) (stateId : Option Int) (gewogs : List Gewog) (m : Cities) :
    gewogs.foldl (matchGewog countryId dz stateId) m =
      { m with
        existing := (pair gewogMatches gewogs m.existing).2
        keptCityIds := m.keptCityIds ++ (kept (pair gewogMatches gewogs m.existing).1).map DbCity.id
        cityUpdates := m.cityUpdates ++
          (pair gewogMatches gewogs m.existing).1.filterMap fun p => p.2.bind (cityUpdate countryId stateId dz p.1)
        cityCreates := m.cityCreates ++ (pair gewogMatches gewogs m.existing).1.filterMap (cityCreate stateId dz) } := by
  induction gewogs generalizing m with
  | nil => simp [pair,kept]
  | cons gewog rest ih =>
    rw [List.foldl_cons,matchGewog]
    cases found : m.existing.find? (gewogMatches gewog) with
    | none => simp [ih,pair,found,erase_of_find_none found,kept,cityCreate]
    | some city =>
      simp only [ih,pair,found,kept]
      split
      · next stale => simp [cityUpdate,cityCreate,stale]
      · next fits => simp [cityUpdate,cityCreate,fits]

variable (countryId) in
theorem dzongkhags_run (claimed : List (String × Int)) (cities : List DbCity) (dzongkhags : List Dzongkhag)
    (m : Cities) :
    ∃ existing, dzongkhags.foldl (matchDzongkhag countryId claimed cities) m =
      { stateCreates := m.stateCreates ++ dzongkhags.filter fun dz => claimed.lookup dz.dzongkhagId = none
        existing
        keptCityIds := m.keptCityIds ++
          dzongkhags.flatMap fun dz => (kept (cityPairs cities (claimed.lookup dz.dzongkhagId) dz)).map DbCity.id
        cityUpdates := m.cityUpdates ++ dzongkhags.flatMap fun dz =>
          (cityPairs cities (claimed.lookup dz.dzongkhagId) dz).filterMap fun p =>
            p.2.bind (cityUpdate countryId (claimed.lookup dz.dzongkhagId) dz p.1)
        cityCreates := m.cityCreates ++ dzongkhags.flatMap fun dz =>
          (cityPairs cities (claimed.lookup dz.dzongkhagId) dz).filterMap
              (cityCreate (claimed.lookup dz.dzongkhagId) dz) } := by
  induction dzongkhags generalizing m with
  | nil => exact ⟨m.existing,by simp⟩
  | cons dz rest ih =>
    obtain ⟨existing,run⟩ := ih (matchDzongkhag countryId claimed cities m dz)
    refine ⟨existing,?_⟩
    rw [List.foldl_cons,run]
    cases found : claimed.lookup dz.dzongkhagId with
    | none => simp [matchDzongkhag,gewogs_run,found,cityPairs]
    | some id => simp [matchDzongkhag,gewogs_run,found,cityPairs]

/-- `stateIdByDzongkhag` once every dzongkhag has been seen. -/
def claimedIds (dzongkhags : List Dzongkhag) (states : List DbState) : List (String × Int) :=
  (stateIds (statePairs dzongkhags states).1).reverse

theorem plan_eq {dzongkhags : List Dzongkhag} (distinct : (dzongkhags.map Dzongkhag.dzongkhagId).Nodup)
    {states : List DbState} (unique : (states.map DbState.id).Nodup) (cities : List DbCity) :
    planBhutanSync countryId dzongkhags states cities =
      let stateId := fun dz : Dzongkhag => (claimedIds dzongkhags states).lookup dz.dzongkhagId
      { stateUpdates := (statePairs dzongkhags states).1.filterMap fun p => p.2.bind (stateUpdate countryId p.1)
        stateCreates := dzongkhags.filter fun dz => stateId dz = none
        stateDeletes := (statePairs dzongkhags states).2.map DbState.id
        cityUpdates := dzongkhags.flatMap fun dz =>
          (cityPairs cities (stateId dz) dz).filterMap fun p => p.2.bind (cityUpdate countryId (stateId dz) dz p.1)
        cityCreates := dzongkhags.flatMap fun dz => (cityPairs cities (stateId dz) dz).filterMap
            (cityCreate (stateId dz) dz)
        cityDeletes := (cities.filter fun c =>
          c.id ∉ dzongkhags.flatMap fun dz => (kept (cityPairs cities (stateId dz) dz)).map DbCity.id).map
              DbCity.id } := by
  obtain ⟨existing,run⟩ := dzongkhags_run countryId (claimedIds dzongkhags states) cities dzongkhags
    { stateCreates := [], existing := [], keptCityIds := [], cityUpdates := [], cityCreates := [] }
  rw [planBhutanSync,claims_run distinct _ (fun _ _ => rfl) unique]
  simp only [List.append_nil,List.nil_append]
  rw [claimedIds] at run ⊢
  rw [run]
  rfl

section
variable {dzongkhags : List Dzongkhag} {states : List DbState}

theorem pairs_unique (distinct : (dzongkhags.map Dzongkhag.dzongkhagId).Nodup) :
    ((statePairs dzongkhags states).1.map fun p => p.1.dzongkhagId).Nodup := by
  rw [statePairs,pair_map nameMatches Dzongkhag.dzongkhagId]
  exact distinct

theorem lookup_claimed (distinct : (dzongkhags.map Dzongkhag.dzongkhagId).Nodup) {dz : Dzongkhag}
    {taken : Option DbState}
    (listed : (dz,taken) ∈ (statePairs dzongkhags states).1) :
    (claimedIds dzongkhags states).lookup dz.dzongkhagId = taken.map DbState.id := by
  have one : ∀ other ∈ (statePairs dzongkhags states).1, other.1.dzongkhagId = dz.dzongkhagId → other = (dz,taken) :=
    fun other there same => List.inj_on_of_nodup_map (pairs_unique distinct) there listed same
  have entry : ∀ id, (dz.dzongkhagId,id) ∈ claimedIds dzongkhags states ↔ taken.map DbState.id = some id := by
    intro id
    simp only [claimedIds,List.mem_reverse,stateIds,List.mem_filterMap,Option.map_eq_some_iff,Prod.mk.injEq]
    constructor
    · rintro ⟨other,there,state,found,same,rfl⟩
      rw [one other there same] at found
      exact ⟨state,found,rfl⟩
    · rintro ⟨state,rfl,rfl⟩
      exact ⟨_,listed,state,rfl,rfl,rfl⟩
  cases found : (claimedIds dzongkhags states).lookup dz.dzongkhagId with
  | none =>
    symm
    refine Option.eq_none_iff_forall_ne_some.mpr fun id claimed => ?_
    simpa using List.lookup_eq_none_iff.mp found _ ((entry id).mpr claimed)
  | some id =>
    obtain ⟨front,back,split,_⟩ := List.lookup_eq_some_iff.mp found
    exact ((entry id).mp (split ▸ by simp)).symm

end
end Ngotag.BhutanPlan
