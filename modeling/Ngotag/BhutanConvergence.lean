import Ngotag.BhutanSync

/-!
Planning again after a sync. A dzongkhag whose name normalises to `constructor` never has a state: its
row is deleted and created anew in every sync. Without one there is nothing left to do.
-/
namespace Ngotag.BhutanConvergence
open Pairing KeyedTable BhutanPlan BhutanSync

variable {countryId : Int} {dzongkhags : List Dzongkhag} {states : List DbState} {cities : List DbCity}
    {idOf : String → Int}
theorem statePairs_synced (master : Master dzongkhags)
    (own : ∀ dz ∈ dzongkhags, BhutanPlan.normalize dz.dzongkhagName ≠ "constructor")
    (synced : states.Perm (dzongkhags.map fun dz => stateRow countryId (idOf dz.dzongkhagId) dz)) :
    statePairs dzongkhags states =
      (dzongkhags.map fun dz => (dz,some (stateRow countryId (idOf dz.dzongkhagId) dz)),[]) := by
  let pairs := dzongkhags.map fun dz => (dz,stateRow countryId (idOf dz.dzongkhagId) dz)
  have keys : pairs.map Prod.fst = dzongkhags := by simp [pairs,Function.comp_def]
  have rows : states.Perm (pairs.map Prod.snd) := by simpa [pairs,Function.comp_def] using synced
  have fit : ∀ p ∈ pairs, nameMatches p.1 p.2 = true := by
    intro p listed
    obtain ⟨dz,there,rfl⟩ := List.mem_map.mp listed
    exact decide_eq_true (stateKey_plain (master.aliases dz there) (own dz there))
  have apart : (pairs.map Prod.fst).Pairwise fun dz dz' => ∀ s, nameMatches dz' s = true → nameMatches dz s = false := by
    rw [keys]
    refine (List.pairwise_map.mp master.names).imp fun different s fits => ?_
    rw [nameMatches,of_decide_eq_true fits]
    simpa using Ne.symm different
  have done := pair_exact rows fit apart
  rw [keys] at done
  rw [statePairs,done]
  simp [pairs,Function.comp_def]

variable (countryId cities) in
theorem planned_constructor {dz : Dzongkhag} (distinct : (dzongkhags.map Dzongkhag.dzongkhagId).Nodup)
    (listed : dz ∈ dzongkhags) (named : BhutanPlan.normalize dz.dzongkhagName = "constructor")
    (unique : (states.map DbState.id).Nodup) :
    (planBhutanSync countryId dzongkhags states cities).hasChanges = true := by
  have none_ : ∀ s, nameMatches dz s = false := by
    intro s
    rw [nameMatches,named]
    exact decide_eq_false (stateKey_constructor s.name)
  have created : dz ∈ toCreate dzongkhags states := by
    rw [toCreate_eq distinct]
    exact List.mem_map.mpr ⟨_,List.mem_filter.mpr ⟨pair_unfit listed none_,rfl⟩,rfl⟩
  have creates : (planBhutanSync countryId dzongkhags states cities).stateCreates = toCreate dzongkhags states := by
    rw [plan_eq distinct unique]
    rfl
  have some_ : (planBhutanSync countryId dzongkhags states cities).stateCreates ≠ [] := by
    rw [creates]
    exact List.ne_nil_of_mem created
  simp [BhutanSyncPlan.hasChanges,some_]

theorem flatMap_one {A B : Type} {f : A → List B} {l : List A} (distinct : l.Nodup) {a : A} (there : a ∈ l)
    (others : ∀ b ∈ l, b ≠ a → f b = []) : l.flatMap f = f a := by
  induction l with
  | nil => simp at there
  | cons head rest ih =>
    obtain ⟨alone,distinct⟩ := List.nodup_cons.mp distinct
    rw [List.flatMap_cons]
    rcases List.mem_cons.mp there with rfl | later
    · have none_ : rest.flatMap f = [] := List.flatMap_eq_nil_iff.mpr fun b listed =>
        others b (List.mem_cons_of_mem a listed) fun same => alone (same ▸ listed)
      rw [none_,List.append_nil]
    · have apart : head ≠ a := fun same => alone (same ▸ later)
      rw [others head List.mem_cons_self apart,ih distinct later fun b listed => others b (List.mem_cons_of_mem head listed)]
      rfl

section
variable (master : Master dzongkhags)
  (synced : (cities.map content).Perm (dzongkhags.flatMap fun dz =>
    dz.gewogs.map fun gewog => (gewog.gewogName,idOf dz.dzongkhagId,dz.dzongkhagId,countryId)))
  (apart : ∀ dz ∈ dzongkhags, ∀ dz' ∈ dzongkhags, idOf dz.dzongkhagId = idOf dz'.dzongkhagId → dz = dz')
include master synced apart

theorem gewogs_synced {dz : Dzongkhag} (listed : dz ∈ dzongkhags) :
    ∃ pairs : List (Gewog × DbCity), pair gewogMatches dz.gewogs (citiesOf cities (some (idOf dz.dzongkhagId))) =
        (pairs.map fun p => (p.1,some p.2),[]) ∧
      ∀ p ∈ pairs, content p.2 = (p.1.gewogName,idOf dz.dzongkhagId,dz.dzongkhagId,countryId) := by
  have here : ((citiesOf cities (some (idOf dz.dzongkhagId))).map content).Perm
      (dz.gewogs.map fun gewog => (gewog.gewogName,idOf dz.dzongkhagId,dz.dzongkhagId,countryId)) := by
    have filtered := synced.filter fun c => c.2.1 = idOf dz.dzongkhagId
    rw [List.filter_flatMap,flatMap_one master.ids.of_map listed] at filtered
    · rw [List.filter_map] at filtered
      refine (List.Perm.of_eq ?_).trans (filtered.trans (.of_eq ?_))
      · refine congrArg (List.map content) (List.filter_congr fun c _ => ?_)
        rw [Function.comp_apply,decide_eq_decide]
        exact Option.some_inj
      · exact List.filter_eq_self.mpr (by simp)
    · intro dz' there different
      refine List.filter_eq_nil_iff.mpr fun c inside => ?_
      obtain ⟨gewog,_,rfl⟩ := List.mem_map.mp inside
      simpa using fun same => different (apart dz' there dz listed same)
  obtain ⟨pairs,keys,rows,met⟩ := pairs_in_order here
  refine ⟨pairs,?_,met⟩
  rw [← keys]
  refine pair_exact rows (fun p there => ?_) ?_
  · have name : p.2.name = p.1.gewogName := congrArg Prod.fst (met p there)
    rw [gewogMatches,name]
    exact decide_eq_true rfl
  · rw [keys]
    refine (List.pairwise_map.mp (master.gewogs dz listed)).imp fun different city fits => ?_
    rw [gewogMatches,of_decide_eq_true fits]
    exact decide_eq_false (Ne.symm different)

end

theorem replan_unchanged (master : Master dzongkhags)
    (own : ∀ dz ∈ dzongkhags, BhutanPlan.normalize dz.dzongkhagName ≠ "constructor") {states : Keyed DbState.id}
    {cities : Keyed DbCity.id} (synced : Synced countryId dzongkhags idOf states.rows cities.rows) :
    (planBhutanSync countryId dzongkhags states.rows cities.rows).hasChanges = false := by
  have pairs := statePairs_synced master own synced.states
  have rowIds : (dzongkhags.map fun dz => idOf dz.dzongkhagId).Nodup := by
    have same := (synced.states.map DbState.id).nodup_iff.mp states.unique
    rwa [List.map_map] at same
  have apart : ∀ dz ∈ dzongkhags, ∀ dz' ∈ dzongkhags, idOf dz.dzongkhagId = idOf dz'.dzongkhagId → dz = dz' :=
    fun dz there dz' there' same => List.inj_on_of_nodup_map rowIds there there' same
  have claimed : ∀ dz ∈ dzongkhags, (claimedIds dzongkhags states.rows).lookup dz.dzongkhagId =
      some (idOf dz.dzongkhagId) := by
    intro dz there
    have listed : (dz,some (stateRow countryId (idOf dz.dzongkhagId) dz)) ∈ (statePairs dzongkhags states.rows).1 := by
      rw [pairs]
      exact List.mem_map_of_mem there
    rw [lookup_claimed master.ids listed]
    rfl
  have each : ∀ p ∈ allPairs dzongkhags (claimedIds dzongkhags states.rows) cities.rows,
      ∃ city, p.2 = some city ∧ content city = (p.1.2.gewogName,idOf p.1.1.dzongkhagId,p.1.1.dzongkhagId,countryId) := by
    intro p listed
    obtain ⟨there,paired⟩ := mem_allPairs listed
    obtain ⟨own,all,met⟩ := gewogs_synced master synced.cities apart there
    rw [cityPairs,claimed _ there,all] at paired
    obtain ⟨q,inside,same⟩ := List.mem_map.mp paired
    obtain ⟨gewog,city⟩ := Prod.mk.inj same
    exact ⟨q.2,city.symm,gewog ▸ met q inside⟩
  obtain ⟨updates,creates,deletes,cityUpdates,cityCreates,cityDeletes⟩ :=
    plan_fields countryId states cities master.ids
  have noUpdates : stateUpdates countryId dzongkhags states = [] := by
    rw [stateUpdates,pairs,List.filterMap_eq_nil_iff]
    intro p listed
    obtain ⟨dz,_,rfl⟩ := List.mem_map.mp listed
    exact stateUpdate_none.mpr rfl
  have noCreates : toCreate dzongkhags states.rows = [] := by
    rw [toCreate,List.filter_eq_nil_iff]
    intro dz there
    simp [claimed dz there]
  have noDeletes : (statePairs dzongkhags states.rows).2.map DbState.id = [] := by rw [pairs]; rfl
  have noCityUpdates : ((allPairs dzongkhags (claimedIds dzongkhags states.rows) cities.rows).filterMap fun p =>
      p.2.bind (updateOf countryId (claimedIds dzongkhags states.rows) p.1)) = [] := by
    rw [List.filterMap_eq_nil_iff]
    intro p listed
    obtain ⟨city,taken,row⟩ := each p listed
    simp only [content,Prod.mk.injEq] at row
    obtain ⟨name,_,code,country⟩ := row
    rw [taken]
    exact cityUpdate_none.mpr ⟨name,code,country⟩
  have noCityCreates : ((allPairs dzongkhags (claimedIds dzongkhags states.rows) cities.rows).filter fun p =>
      p.2.isNone) = [] := by
    rw [List.filter_eq_nil_iff]
    intro p listed
    obtain ⟨city,taken,_⟩ := each p listed
    simp [taken]
  have noCityDeletes : untaken dzongkhags (claimedIds dzongkhags states.rows) cities = [] := by
    rw [untaken,List.filter_eq_nil_iff]
    intro c there
    have row := synced.cities.mem_iff.mp (List.mem_map_of_mem there)
    obtain ⟨dz,listed,inside⟩ := List.mem_flatMap.mp row
    obtain ⟨gewog,_,same⟩ := List.mem_map.mp inside
    have state : idOf dz.dzongkhagId = c.stateId := congrArg (fun row => row.2.1) same
    obtain ⟨_,none_left,_⟩ := gewogs_synced master synced.cities apart listed
    have all := pair_perm gewogMatches dz.gewogs (citiesOf cities.rows (some (idOf dz.dzongkhagId)))
    have under : c ∈ citiesOf cities.rows (some (idOf dz.dzongkhagId)) :=
      List.mem_filter.mpr ⟨there,by simp [state]⟩
    have taken := all.mem_iff.mp under
    rw [List.mem_append,none_left] at taken
    obtain ⟨⟨gewog',_⟩,paired,rfl⟩ := List.mem_filterMap.mp (taken.resolve_right List.not_mem_nil)
    have kept : ((dz,gewog'),some c) ∈ allPairs dzongkhags (claimedIds dzongkhags states.rows) cities.rows := by
      refine List.mem_flatMap.mpr ⟨dz,listed,List.mem_map.mpr ⟨(gewog',some c),?_,rfl⟩⟩
      rw [claimed dz listed,cityPairs,none_left]
      exact paired
    have id : c.id ∈
        ((allPairs dzongkhags (claimedIds dzongkhags states.rows) cities.rows).filterMap Prod.snd).map DbCity.id :=
      List.mem_map_of_mem (List.mem_filterMap.mpr ⟨_,kept,rfl⟩)
    simp [id]
  simp [BhutanSyncPlan.hasChanges,updates,creates,deletes,cityUpdates,cityCreates,cityDeletes,noUpdates,
      noCreates,noDeletes,
    noCityUpdates,noCityCreates,noCityDeletes]

/-- The sync converges exactly when no dzongkhag's name normalises to `constructor`. -/
theorem sync_converges_iff {serials : Serials} {geo : Geo} (master : Master dzongkhags) (fresh : Fresh serials geo) :
    (∃ after, syncBhutanAddress countryId serials dzongkhags geo = some after ∧
      (∃ idOf, Synced countryId dzongkhags idOf after.states.rows after.cities.rows) ∧
      ∀ states cities, states.Perm after.states.rows → cities.Perm after.cities.rows →
        (planBhutanSync countryId dzongkhags states cities).hasChanges = false) ↔
    ∀ dz ∈ dzongkhags, BhutanPlan.normalize dz.dzongkhagName ≠ "constructor" := by
  obtain ⟨after,idOf,done,synced⟩ := sync_synced countryId master.ids fresh
  constructor
  · rintro ⟨after',done',_,unchanged⟩ dz listed named
    obtain rfl := Option.some.inj (done.symm.trans done')
    have changes := planned_constructor countryId after.cities.rows master.ids listed named
      after.states.unique
    rw [unchanged _ _ (.refl _) (.refl _)] at changes
    cases changes
  · intro own
    refine ⟨after,done,⟨idOf,synced⟩,fun states cities order order' => ?_⟩
    let states' : Keyed DbState.id := ⟨states,(order.map _).nodup_iff.mpr after.states.unique⟩
    let cities' : Keyed DbCity.id := ⟨cities,(order'.map _).nodup_iff.mpr after.cities.unique⟩
    have still : Synced countryId dzongkhags idOf states'.rows cities'.rows :=
      ⟨order.trans synced.states,(order'.map content).trans synced.cities⟩
    exact replan_unchanged master own still

def one (name : String) : List Dzongkhag :=
  [{ dzongkhagId := "1", dzongkhagName := name, gewogs := [{ gewogId := "2", gewogName := "Ura" }] }]
def noRows : Geo := { states := ⟨[],.nil⟩, cities := ⟨[],.nil⟩, organisations := [] }
/-- A state under its legacy name, with a stray city. -/
def legacyRows : Geo :=
  { states := ⟨[{ id := 7, name := "Bumthang District", isoCode := "33", countryId := 26 }],by decide⟩
    cities := ⟨[{ id := 9, name := "Jakar", stateId := 7, stateCode := "33", countryId := 26 }],by decide⟩
    organisations := [] }
def counting : Serials := { state := fun n => n + 100, city := fun n => n + 100 }
theorem one_master {name : String} (alias_ : BhutanPlan.normalize name ∉ JsObject.keys legacyStateAliases) :
    Master (one name) :=
  { ids := by simp [one]
    names := by simp [one]
    aliases := by simpa [one] using alias_
    gewogs := by simp [one] }

theorem counting_fresh {geo : Geo} (states : ∀ s ∈ geo.states.rows, s.id < 100)
    (cities : ∀ c ∈ geo.cities.rows, c.id < 100) :
    Fresh counting geo := by
  have apart : Function.Injective fun n : Nat => (n : Int) + 100 := by
    intro n m same
    simpa using same
  refine ⟨apart,fun n s there => ?_,apart,fun n c there => ?_⟩
  · have := states s there
    simp only [counting]
    omega
  · have := cities c there
    simp only [counting]
    omega

theorem sync_converges_bumthang : ∃ after, syncBhutanAddress 26 counting (one "Bumthang") legacyRows = some after ∧
    (∃ idOf, Synced 26 (one "Bumthang") idOf after.states.rows after.cities.rows) ∧
    ∀ states cities, states.Perm after.states.rows → cities.Perm after.cities.rows →
      (planBhutanSync 26 (one "Bumthang") states cities).hasChanges = false :=
  (sync_converges_iff (one_master (by decide)) (counting_fresh (by decide) (by decide))).mpr (by decide)
/-- The state made for the dzongkhag is deleted by the next sync. -/
theorem constructor_replanned : Master (one "Constructor District") ∧ Fresh counting noRows ∧
    (syncBhutanAddress 26 counting (one "Constructor District") noRows).map (fun after =>
      (planBhutanSync 26 (one "Constructor District") after.states.rows after.cities.rows).stateDeletes) = some [100] :=
  ⟨one_master (by decide),counting_fresh (by decide) (by decide),by decide⟩

end Ngotag.BhutanConvergence
