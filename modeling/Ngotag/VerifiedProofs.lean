import Ngotag.JsObject

/-!
What a verifier is told of a verified Indy proof. The ids of an entry are taken from the first
restriction of its attribute or predicate, or else from wherever the loop has left them; which
credential was used for it is not looked at.
-/
namespace Ngotag.VerifiedProofs

structure Restriction where
  cred_def_id : Option String
  schema_id : Option String
/-- A single name, or a list of names. -/
structure RequestedAttribute where
  name : Option String
  names : Option (List String)
  restrictions : Option (List Restriction)
structure RequestedPredicate where
  name : String
  p_type : String
  p_value : Int
  restrictions : Option (List Restriction)

/-- The properties of both objects are in the order in which they are gone through. -/
structure Request where
  requested_attributes : List (String × RequestedAttribute)
  requested_predicates : List (String × RequestedPredicate)
structure Identifier where
  schema_id : String
  cred_def_id : String
structure Revealed where
  sub_proof_index : Nat
  raw : String
structure RevealedGroup where
  sub_proof_index : Nat
  values : List (String × String)

structure Presentation where
  revealed_attrs : List (String × Revealed)
  revealed_attr_groups : List (String × RevealedGroup)
  /-- The index of the proof of each predicate. -/
  predicates : List (String × Nat)
  identifiers : Option (List Identifier)

inductive Failure where
  | typeError
  /-- `ResponseMessages.errorMessages.serverError` -/
  | internalServerError
/-- The variables `credDefId` and `schemaId`. -/
structure Ids where
  credDefId : Option String
  schemaId : Option String
abbrev Entry := List (String × Option String)
/-- `o.hasOwnProperty(key)`, which is no function where there is a property of that name. -/
def hasOwnProperty {V : Type} (o : List (String × V)) (key : String) : Except Failure Bool :=
  if "hasOwnProperty" ∈ JsObject.keys o then .error .typeError else .ok (key ∈ JsObject.keys o)
/-- `value || null` -/
def orNull (id : Option String) : Option String := id.filter (· ≠ "")
/-- `{ [name]: value, credDefId: credDefId || null, schemaId: schemaId || null }` -/
def entry (name : Option String) (value : String) (ids : Ids) : Entry :=
  JsObject.put "schemaId" (orNull ids.schemaId)
    (JsObject.put "credDefId" (orNull ids.credDefId) [(name.getD "undefined",some value)])
def restrictionIds (restrictions : List Restriction) : Ids where
  credDefId := restrictions.head?.bind Restriction.cred_def_id
  schemaId := restrictions.head?.bind Restriction.schema_id
def identifierIds : List Identifier → Except Failure Ids
  | [] => .error .typeError
  | first :: _ => .ok { credDefId := some first.cred_def_id, schemaId := some first.schema_id }
def schemaCredDefRestriction (restrictions : Option (List Restriction)) (presentation : Presentation) :
    Except Failure Ids :=
  match restrictions,presentation.identifiers with
  | some restrictions,_ => .ok (restrictionIds restrictions)
  | none,some identifiers => identifierIds identifiers
  | none,none => .ok { credDefId := none, schemaId := none }

section
variable (request : Request) (presentation : Presentation)

def predicateText (predicate : RequestedPredicate) : String := predicate.p_type ++ toString predicate.p_value
def attributeEntry (key : String) (requested : RequestedAttribute) (ids : Ids) : Except Failure (List Entry) := do
  if ← hasOwnProperty presentation.revealed_attrs key then
    return ((presentation.revealed_attrs.lookup key).map fun revealed => entry requested.name revealed.raw ids).toList
  else return []
/-- The ids of the first restriction or of `identifiers[0]`, or else those of the attribute before. -/
def carriedIds (carried : Ids) (restrictions : Option (List Restriction)) : Except Failure Ids :=
  match restrictions,presentation.identifiers with
  | some restrictions,_ => .ok (restrictionIds restrictions)
  | none,some identifiers => identifierIds identifiers
  | none,none => .ok carried

/-- `for (const key in o) { if (o.hasOwnProperty(key)) { .. } }`, with the ids that are carried on. -/
def forOwn {V : Type} (o : List (String × V)) (body : Ids → String × V → Except Failure (List Entry × Ids)) :
    Ids → List (String × V) → Except Failure (List Entry × Ids)
  | carried,[] => .ok ([],carried)
  | carried,p :: rest => do
    if ← hasOwnProperty o p.1 then
      let (own,ids) ← body carried p
      let (entries,last) ← forOwn o body ids rest
      return (own ++ entries,last)
    else forOwn o body carried rest

/-- The attributes of a request with predicates, and the ids that are left. -/
def mixedAttributes (carried : Ids) : Except Failure (List Entry × Ids) :=
  forOwn request.requested_attributes (fun carried p => do
    let ids ← carriedIds presentation carried p.2.restrictions
    return (← attributeEntry presentation p.1 p.2 ids,ids)) carried request.requested_attributes
def mixedPredicates (carried : Ids) : Except Failure (List Entry × Ids) :=
  forOwn request.requested_predicates (fun carried p =>
    let ids := (p.2.restrictions.map restrictionIds).getD carried
    .ok ([entry (some p.2.name) (predicateText p.2) ids],ids)) carried request.requested_predicates
def onlyAttributes (carried : Ids) : Except Failure (List Entry × Ids) :=
  forOwn request.requested_attributes (fun _ p => do
    let ids ← schemaCredDefRestriction p.2.restrictions presentation
    return (← attributeEntry presentation p.1 p.2 ids,ids)) carried request.requested_attributes
def onlyPredicates (carried : Ids) : Except Failure (List Entry × Ids) :=
  forOwn request.requested_predicates (fun _ p => do
    let ids ← schemaCredDefRestriction p.2.restrictions presentation
    return ([entry (some p.2.name) (predicateText p.2) ids],ids)) carried request.requested_predicates
end

/-- The report: the entries of the attributes, and after them those of the predicates. -/
structure Report where
  attributes : List Entry
  predicates : List Entry
def Report.extractedDataArray (report : Report) : List Entry := report.attributes ++ report.predicates

/-- The Indy part of `getVerifiedProofdetails`. -/
def getVerifiedProofdetails (request : Request) (presentation : Presentation) : Except Failure Report := do
  let start : Ids := { credDefId := none, schemaId := none }
  if request.requested_attributes ≠ [] ∧ request.requested_predicates ≠ [] then
    let (attributes,last) ← mixedAttributes request presentation start
    let (predicates,_) ← mixedPredicates request last
    return { attributes, predicates }
  else if request.requested_attributes ≠ [] then
    let (attributes,_) ← onlyAttributes request presentation start
    return { attributes, predicates := [] }
  else if request.requested_predicates ≠ [] then
    let (predicates,_) ← onlyPredicates request presentation start
    return { attributes := [], predicates }
  else .error .internalServerError

/-- A value under its name, with the ids it is reported to come from. -/
structure Fact where
  name : String
  value : Option String
  credDefId : Option String
  schemaId : Option String
def idNames : List String := ["credDefId","schemaId"]
/-- An entry says of each of its other properties that it comes from its ids. -/
def factsOf (entry : Entry) : List Fact :=
  (entry.filter fun property => property.1 ∉ idNames).map fun property =>
    { name := property.1
      value := property.2
      credDefId := (entry.lookup "credDefId").join
      schemaId := (entry.lookup "schemaId").join }
def fact (identifiers : List Identifier) (index : Nat) (name value : String) : Fact where
  name := name
  value := some value
  credDefId := identifiers[index]?.map Identifier.cred_def_id
  schemaId := identifiers[index]?.map Identifier.schema_id

section
variable (presentation : Presentation) (identifiers : List Identifier)

def attributeFacts (p : String × RequestedAttribute) : List Fact :=
  (presentation.revealed_attrs.lookup p.1).toList.map (fun revealed =>
    fact identifiers revealed.sub_proof_index (p.2.name.getD "undefined") revealed.raw) ++
  (presentation.revealed_attr_groups.lookup p.1).toList.flatMap fun group =>
    group.values.map fun value => fact identifiers group.sub_proof_index value.1 value.2
def predicateFacts (p : String × RequestedPredicate) : List Fact :=
  (presentation.predicates.lookup p.1).toList.map fun index => fact identifiers index p.2.name (predicateText p.2)
def expected (request : Request) : List Fact :=
  request.requested_attributes.flatMap (attributeFacts presentation identifiers) ++
    request.requested_predicates.flatMap (predicateFacts presentation identifiers)
/-- The credential has the ids one of the restrictions asks for. -/
def Meets (restrictions : Option (List Restriction)) (index : Nat) : Prop :=
  ∀ listed, restrictions = some listed → listed ≠ [] → ∃ restriction ∈ listed, ∃ used, identifiers[index]? = some used ∧
    (∀ id, restriction.cred_def_id = some id → id = used.cred_def_id) ∧ ∀ id, restriction.schema_id = some id →
    id = used.schema_id

/-- The presentation answers the request. -/
structure Answers (request : Request) : Prop where
  identified : presentation.identifiers = some identifiers
  attributeKeys : (JsObject.keys request.requested_attributes).Nodup
  predicateKeys : (JsObject.keys request.requested_predicates).Nodup
  revealed : ∀ key revealed, presentation.revealed_attrs.lookup key = some revealed →
    ∃ requested, request.requested_attributes.lookup key = some requested ∧ requested.name.isSome = true ∧
      revealed.sub_proof_index < identifiers.length ∧ Meets identifiers requested.restrictions revealed.sub_proof_index
  groups : ∀ key group, presentation.revealed_attr_groups.lookup key = some group →
    ∃ requested, request.requested_attributes.lookup key = some requested ∧ requested.name = none ∧
      requested.names = some (JsObject.keys group.values) ∧
      group.sub_proof_index < identifiers.length ∧ Meets identifiers requested.restrictions group.sub_proof_index
  predicates : ∀ p ∈ request.requested_predicates, ∃ index, presentation.predicates.lookup p.1 = some index ∧
    index < identifiers.length ∧ Meets identifiers p.2.restrictions index

end

/-- The report says what it should, and its attributes and its predicates do not depend on each other. -/
structure Right (request : Request) (presentation : Presentation) (identifiers : List Identifier) : Prop where
  exact_ : ∃ report, getVerifiedProofdetails request presentation = .ok report ∧
    report.extractedDataArray.flatMap factsOf = expected presentation identifiers request
  attributes : ∀ report alone, getVerifiedProofdetails request presentation = .ok report →
    getVerifiedProofdetails { request with requested_predicates := [] } presentation = .ok alone →
    alone.attributes = report.attributes
  predicates : ∀ report alone, getVerifiedProofdetails request presentation = .ok report →
    getVerifiedProofdetails { request with requested_attributes := [] } presentation = .ok alone →
    alone.predicates = report.predicates

def firstIds (identifiers : List Identifier) : Ids where
  credDefId := identifiers.head?.map Identifier.cred_def_id
  schemaId := identifiers.head?.map Identifier.schema_id
/-- The ids of the first restriction, or else those of the first credential. -/
def pick (identifiers : List Identifier) (restrictions : Option (List Restriction)) : Ids :=
  (restrictions.map restrictionIds).getD (firstIds identifiers)
def Names (identifiers : List Identifier) (index : Nat) (ids : Ids) : Prop :=
  orNull ids.credDefId = identifiers[index]?.map Identifier.cred_def_id ∧
      orNull ids.schemaId = identifiers[index]?.map Identifier.schema_id
/-- The ids that are left when the loop has come past these predicates. -/
def left (start : Ids) (before : List (String × RequestedPredicate)) : Ids :=
  (before.reverse.findSome? fun p => p.2.restrictions.map restrictionIds).getD start
def lastAttribute (identifiers : List Identifier) (attributes : List (String × RequestedAttribute)) : Ids :=
  (attributes.getLast?.map fun p => pick identifiers p.2.restrictions).getD { credDefId := none, schemaId := none }

/-- What is asked is named apart from the ids and answered one by one, and the ids a request is taken to
mean are those of the credentials used. -/
structure Agrees (request : Request) (presentation : Presentation) (identifiers : List Identifier) : Prop where
  asked : request.requested_attributes ≠ [] ∨ request.requested_predicates ≠ []
  attributeLoop : "hasOwnProperty" ∉ JsObject.keys request.requested_attributes
  predicateLoop : "hasOwnProperty" ∉ JsObject.keys request.requested_predicates
  identified : ∀ p ∈ request.requested_attributes, p.2.restrictions = none → identifiers ≠ []
  revealed : ∀ p ∈ request.requested_attributes, ∀ revealed, presentation.revealed_attrs.lookup p.1 = some revealed →
    p.2.name.getD "undefined" ∉ idNames ∧ Names identifiers revealed.sub_proof_index (pick identifiers p.2.restrictions)
  groups : ∀ p ∈ request.requested_attributes, ∀ group, presentation.revealed_attr_groups.lookup p.1 = some group →
      group.values = []
  predicates : ∀ p ∈ request.requested_predicates, ∀ index, presentation.predicates.lookup p.1 = some index →
    p.2.name ∉ idNames ∧ Names identifiers index (pick identifiers p.2.restrictions)
  carried : request.requested_attributes ≠ [] → ∀ before p after, request.requested_predicates = before ++ p :: after →
    p.2.restrictions = none → ∀ index, presentation.predicates.lookup p.1 = some index →
      Names identifiers index (left (lastAttribute identifiers request.requested_attributes) before)

section
variable {request : Request} {presentation : Presentation} {identifiers : List Identifier}

theorem own_iff {V : Type} {o : List (String × V)} {key : String} (there : key ∈ JsObject.keys o) {b : Bool} :
    hasOwnProperty o key = .ok b ↔ "hasOwnProperty" ∉ JsObject.keys o ∧ b = true := by
  rw [hasOwnProperty]
  split
  · next taken => simp [taken]
  · next free => simp [free,there,eq_comm]
def ownEntries (presentation : Presentation) (identifiers : List Identifier) (p : String × RequestedAttribute) :
    List Entry :=
  ((presentation.revealed_attrs.lookup p.1).map fun revealed => entry p.2.name revealed.raw (pick identifiers p.2.restrictions)).toList

variable {ids : Ids}
theorem attributeEntry_ok {key : String} {requested : RequestedAttribute} {entries : List Entry} :
    attributeEntry presentation key requested ids = .ok entries ↔
    "hasOwnProperty" ∉ JsObject.keys presentation.revealed_attrs ∧
      entries = ((presentation.revealed_attrs.lookup key).map fun revealed => entry requested.name revealed.raw ids).toList := by
  rw [attributeEntry,hasOwnProperty]
  by_cases taken : "hasOwnProperty" ∈ JsObject.keys presentation.revealed_attrs
  · rw [if_pos taken]
    exact iff_of_false (fun same => nomatch same) fun both => both.1 taken
  · rw [if_neg taken]
    by_cases there : key ∈ JsObject.keys presentation.revealed_attrs
    · simp [there,taken,pure,Except.pure,bind,Except.bind,eq_comm]
    · have none_ : presentation.revealed_attrs.lookup key = none := by
        rw [JsObject.mem_keys] at there
        exact Option.not_isSome_iff_eq_none.mp there
      simp [there,taken,none_,pure,Except.pure,bind,Except.bind,eq_comm]

theorem bind_ok {A B : Type} {x : Except Failure A} {f : A → Except Failure B} {b : B} :
    x >>= f = .ok b ↔ ∃ a, x = .ok a ∧ f a = .ok b := by
  cases x with
  | error e => exact iff_of_false (fun same => nomatch same) fun ⟨_,same,_⟩ => nomatch same
  | ok a => exact ⟨fun done => ⟨a,rfl,done⟩,fun ⟨_,same,done⟩ => Except.ok.inj same ▸ done⟩
theorem identifierIds_ok : identifierIds identifiers = .ok ids ↔ identifiers ≠ [] ∧ ids = firstIds identifiers := by
  cases identifiers with
  | nil => exact iff_of_false (fun same => nomatch same) fun both => both.1 rfl
  | cons first rest => simp [identifierIds,firstIds,eq_comm]
def ownEntry (identifiers : List Identifier) (p : String × RequestedPredicate) : Entry :=
  entry (some p.2.name) (predicateText p.2) (pick identifiers p.2.restrictions)

/-- What the steps of a loop make, and the ids each leaves to the next. -/
def runEntries {V : Type} (made : Ids → V → List Entry) (next : Ids → V → Ids) : Ids → List V → List Entry × Ids
  | carried,[] => ([],carried)
  | carried,p :: rest =>
    let others := runEntries made next (next carried p) rest
    (made carried p ++ others.1,others.2)

theorem forOwn_ok {V : Type} {o : List (String × V)} {body : Ids → String × V → Except Failure (List Entry × Ids)}
    {made : Ids → String × V → List Entry} {next : Ids → String × V → Ids} {Ends : String × V → Prop}
    (step : ∀ carried p result, body carried p = .ok result ↔ Ends p ∧ result = (made carried p,next carried p))
    {carried : Ids} {result : List Entry × Ids} : forOwn o body carried o = .ok result ↔
      (o ≠ [] → "hasOwnProperty" ∉ JsObject.keys o ∧ ∀ p ∈ o, Ends p) ∧ result = runEntries made next carried o := by
  have loop : ∀ (rest : List (String × V)) carried result, (∀ p ∈ rest, p.1 ∈ JsObject.keys o) →
      (forOwn o body carried rest = .ok result ↔
        (rest ≠ [] → "hasOwnProperty" ∉ JsObject.keys o ∧ ∀ p ∈ rest, Ends p) ∧
        result = runEntries made next carried rest) := by
    intro rest
    induction rest with
    | nil => simp [forOwn,runEntries,eq_comm]
    | cons p rest ih =>
      intro carried result inside
      have later := fun carried result => ih carried result fun p there => inside p (List.mem_cons_of_mem _ there)
      rw [forOwn,bind_ok]
      simp only [own_iff (inside _ List.mem_cons_self)]
      constructor
      · rintro ⟨_,⟨free,rfl⟩,done⟩
        rw [if_pos rfl,bind_ok] at done
        obtain ⟨⟨own,ids⟩,ownDone,done⟩ := done
        obtain ⟨⟨others,last⟩,restDone,done⟩ := bind_ok.mp done
        obtain ⟨ends,same⟩ := (step carried p _).mp ownDone
        obtain ⟨rfl,rfl⟩ := Prod.mk.inj same
        obtain ⟨passes,same⟩ := (later _ _).mp restDone
        refine ⟨fun _ => ⟨free,List.forall_mem_cons.mpr ⟨ends,fun q there => (passes (List.ne_nil_of_mem there)).2 q there⟩⟩,?_⟩
        rw [runEntries,← same]
        exact (Except.ok.inj done).symm
      · rintro ⟨passes,rfl⟩
        obtain ⟨free,ends⟩ := passes (List.cons_ne_nil _ _)
        refine ⟨true,⟨free,rfl⟩,?_⟩
        rw [if_pos rfl]
        refine bind_ok.mpr ⟨_,(step carried p _).mpr ⟨ends p List.mem_cons_self,rfl⟩,?_⟩
        exact bind_ok.mpr
            ⟨_,(later _ _).mpr ⟨fun _ => ⟨free,fun q there => ends q (List.mem_cons_of_mem _ there)⟩,rfl⟩,rfl⟩
  exact loop o carried result fun _ there => List.mem_map_of_mem there

theorem runEntries_flatMap {V : Type} (made : V → List Entry) (next : Ids → V → Ids) (carried : Ids) (l : List V) :
    (runEntries (fun _ => made) next carried l).1 = l.flatMap made := by
  induction l generalizing carried with
  | nil => rfl
  | cons p rest ih => exact congrArg (made p ++ ·) (ih _)
theorem runEntries_last {V : Type} (made : Ids → V → List Entry) (next : V → Ids) (carried : Ids) (l : List V) :
    (runEntries made (fun _ => next) carried l).2 = (l.getLast?.map next).getD carried := by
  induction l generalizing carried with
  | nil => rfl
  | cons p rest ih =>
    refine (ih _).trans ?_
    cases rest <;> rfl

/-- The ids of a predicate's own restriction, or else those that are carried on. -/
def idsFrom (carried : Ids) (p : String × RequestedPredicate) : Ids := (p.2.restrictions.map restrictionIds).getD carried
/-- The entries of predicates one after the other, and the ids that are left. -/
def carriedEntries : Ids → List (String × RequestedPredicate) → List Entry × Ids :=
  runEntries (fun carried p => [entry (some p.2.name) (predicateText p.2) (idsFrom carried p)]) idsFrom
/-- What the loops need to come to an end. -/
def Passes (request : Request) (presentation : Presentation) (identifiers : List Identifier) : Prop :=
  request.requested_attributes ≠ [] → "hasOwnProperty" ∉ JsObject.keys request.requested_attributes ∧
    ∀ p ∈ request.requested_attributes, (p.2.restrictions = none → identifiers ≠ []) ∧
      "hasOwnProperty" ∉ JsObject.keys presentation.revealed_attrs

section
variable (known : presentation.identifiers = some identifiers)
include known

variable {restrictions : Option (List Restriction)}
theorem picked_ok {ids : Ids} :
    schemaCredDefRestriction restrictions presentation = .ok ids ↔
      (restrictions = none → identifiers ≠ []) ∧ ids = pick identifiers restrictions := by
  cases restrictions with
  | none => simpa [schemaCredDefRestriction,known,pick] using identifierIds_ok
  | some listed => simp [schemaCredDefRestriction,pick,eq_comm]
theorem carried_pick {carried ids : Ids} :
    carriedIds presentation carried restrictions = .ok ids ↔
      (restrictions = none → identifiers ≠ []) ∧ ids = pick identifiers restrictions := by
  rw [← picked_ok known,schemaCredDefRestriction.eq_def,carriedIds.eq_def]
  cases restrictions with
  | none => simp only [known]
  | some listed => rfl

variable {result : List Entry × Ids}
omit known in
theorem attribute_step {found : Except Failure Ids} {p : String × RequestedAttribute}
    (ids : ∀ ids, found = .ok ids ↔ (p.2.restrictions = none → identifiers ≠ []) ∧ ids = pick identifiers p.2.restrictions) :
    (do
      let ids ← found
      return (← attributeEntry presentation p.1 p.2 ids,ids)) = .ok result ↔
      ((p.2.restrictions = none → identifiers ≠ []) ∧ "hasOwnProperty" ∉ JsObject.keys presentation.revealed_attrs) ∧
        result = (ownEntries presentation identifiers p,pick identifiers p.2.restrictions) := by
  constructor
  · intro done
    obtain ⟨picked,foundDone,done⟩ := bind_ok.mp done
    obtain ⟨own,ownDone,done⟩ := bind_ok.mp done
    obtain ⟨identified,rfl⟩ := (ids picked).mp foundDone
    obtain ⟨revealed,rfl⟩ := attributeEntry_ok.mp ownDone
    exact ⟨⟨identified,revealed⟩,(Except.ok.inj done).symm⟩
  · rintro ⟨⟨identified,revealed⟩,rfl⟩
    exact bind_ok.mpr ⟨_,(ids _).mpr ⟨identified,rfl⟩,bind_ok.mpr ⟨_,attributeEntry_ok.mpr ⟨revealed,rfl⟩,rfl⟩⟩

variable {carried : Ids}
theorem onlyAttributes_ok : onlyAttributes request presentation carried = .ok result ↔
    Passes request presentation identifiers ∧
      result = runEntries (fun _ => ownEntries presentation identifiers)
      (fun _ p => pick identifiers p.2.restrictions) carried
        request.requested_attributes := by
  rw [onlyAttributes,Passes]
  refine forOwn_ok fun carried p result => ?_
  exact attribute_step fun ids => picked_ok known
theorem mixedAttributes_ok : mixedAttributes request presentation carried = .ok result ↔
    Passes request presentation identifiers ∧
      result = runEntries (fun _ => ownEntries presentation identifiers)
      (fun _ p => pick identifiers p.2.restrictions) carried
        request.requested_attributes := by
  rw [mixedAttributes,Passes]
  refine forOwn_ok fun carried p result => ?_
  exact attribute_step fun ids => carried_pick known

omit known in
theorem mixedPredicates_ok : mixedPredicates request carried = .ok result ↔
    (request.requested_predicates ≠ [] → "hasOwnProperty" ∉ JsObject.keys request.requested_predicates ∧
      ∀ p ∈ request.requested_predicates, True) ∧ result = carriedEntries carried request.requested_predicates :=
  forOwn_ok fun _ _ _ => ⟨fun done => ⟨trivial,(Except.ok.inj done).symm⟩,fun both => congrArg Except.ok both.2.symm⟩

theorem onlyPredicates_ok : onlyPredicates request presentation carried = .ok result ↔
    (request.requested_predicates ≠ [] → "hasOwnProperty" ∉ JsObject.keys request.requested_predicates ∧
      ∀ p ∈ request.requested_predicates, p.2.restrictions = none → identifiers ≠ []) ∧
      result = runEntries (fun _ p => [ownEntry identifiers p]) (fun _ p => pick identifiers p.2.restrictions) carried
        request.requested_predicates := by
  rw [onlyPredicates]
  refine forOwn_ok fun carried p result => ?_
  constructor
  · intro done
    obtain ⟨ids,picked,done⟩ := bind_ok.mp done
    obtain ⟨identified,rfl⟩ := (picked_ok known).mp picked
    exact ⟨identified,(Except.ok.inj done).symm⟩
  · rintro ⟨identified,rfl⟩
    exact bind_ok.mpr ⟨_,(picked_ok known).mpr ⟨identified,rfl⟩,rfl⟩

def predicateEntries (identifiers : List Identifier) (request : Request) : List Entry :=
  if request.requested_attributes = [] then request.requested_predicates.map (ownEntry identifiers)
  else (carriedEntries (lastAttribute identifiers request.requested_attributes) request.requested_predicates).1
/-- What it takes for there to be a report. -/
structure Reports (request : Request) (presentation : Presentation) (identifiers : List Identifier) : Prop where
  asked : request.requested_attributes ≠ [] ∨ request.requested_predicates ≠ []
  attributes : Passes request presentation identifiers
  predicateLoop : "hasOwnProperty" ∉ JsObject.keys request.requested_predicates
  identified : request.requested_attributes = [] → ∀ p ∈ request.requested_predicates, p.2.restrictions = none →
      identifiers ≠ []

theorem reported_iff {report : Report} : getVerifiedProofdetails request presentation = .ok report ↔
    Reports request presentation identifiers ∧
      report = ⟨request.requested_attributes.flatMap (ownEntries presentation identifiers),
      predicateEntries identifiers request⟩ := by
  rw [getVerifiedProofdetails,predicateEntries]
  by_cases attributes : request.requested_attributes = []
  · by_cases predicates : request.requested_predicates = []
    · rw [if_neg (by simp [attributes]),if_neg (by simp [attributes]),if_neg (by simp [predicates])]
      exact iff_of_false (fun same => nomatch same) fun ⟨done,_⟩ => done.asked.elim (· attributes) (· predicates)
    · rw [if_neg (by simp [attributes]),if_neg (by simp [attributes]),if_pos predicates,if_pos attributes,bind_ok]
      simp only [onlyPredicates_ok known]
      have alone :
          (runEntries (fun _ p => [ownEntry identifiers p]) (fun _ p => pick identifiers p.2.restrictions) ⟨none,none⟩
          request.requested_predicates).1 = request.requested_predicates.map (ownEntry identifiers) :=
        (runEntries_flatMap _ _ _ _).trans (List.flatMap_pure_eq_map _ _)
      constructor
      · rintro ⟨_,⟨passes,rfl⟩,done⟩
        have ⟨free,identified⟩ := passes predicates
        refine ⟨⟨.inr predicates,fun other => absurd attributes other,free,fun _ => identified⟩,?_⟩
        rw [attributes,← alone]
        exact (Except.ok.inj done).symm
      · rintro ⟨done,rfl⟩
        refine ⟨_,⟨fun _ => ⟨done.predicateLoop,done.identified attributes⟩,rfl⟩,?_⟩
        rw [attributes,← alone]
        rfl
  · by_cases predicates : request.requested_predicates = []
    · rw [if_neg (by simp [predicates]),if_pos attributes,if_neg attributes,predicates,bind_ok]
      simp only [onlyAttributes_ok known]
      constructor
      · rintro ⟨_,⟨passes,rfl⟩,done⟩
        refine ⟨⟨.inl attributes,passes,?_,fun none_ => absurd none_ attributes⟩,?_⟩
        · rw [predicates]
          exact List.not_mem_nil
        · rw [← runEntries_flatMap]
          exact (Except.ok.inj done).symm
      · rintro ⟨done,rfl⟩
        refine ⟨_,⟨done.attributes,rfl⟩,?_⟩
        rw [← runEntries_flatMap]
        rfl
    · rw [if_pos ⟨attributes,predicates⟩,if_neg attributes,bind_ok,lastAttribute,← runEntries_last,← runEntries_flatMap]
      simp only [mixedAttributes_ok known]
      constructor
      · rintro ⟨_,⟨passes,rfl⟩,done⟩
        obtain ⟨_,restDone,done⟩ := bind_ok.mp done
        obtain ⟨free,rfl⟩ := mixedPredicates_ok.mp restDone
        exact ⟨⟨.inl attributes,passes,(free predicates).1,fun none_ => absurd none_ attributes⟩,
            (Except.ok.inj done).symm⟩
      · rintro ⟨done,rfl⟩
        refine ⟨_,⟨done.attributes,rfl⟩,?_⟩
        exact bind_ok.mpr ⟨_,mixedPredicates_ok.mpr ⟨fun _ => ⟨done.predicateLoop,fun _ _ => trivial⟩,rfl⟩,rfl⟩

end

variable {name : Option String}
theorem factsOf_entry {value : String} :
    factsOf (entry name value ids) = if name.getD "undefined" ∈ idNames then [] else
      [{ name := name.getD "undefined", value := some value, credDefId := orNull ids.credDefId, schemaId := orNull ids.schemaId }] := by
  have apart : ("credDefId" : String) ≠ "schemaId" := by decide
  rw [factsOf,entry]
  generalize name.getD "undefined" = n
  by_cases first : n = "credDefId"
  · simp [first,idNames,JsObject.put,apart]
  · by_cases second : n = "schemaId"
    · simp [second,idNames,JsObject.put]
    · have apart₁ := beq_false_of_ne (Ne.symm first)
      have apart₂ := beq_false_of_ne (Ne.symm second)
      simp [first,second,idNames,JsObject.put,apart,List.lookup_cons,apart₁,apart₂]

theorem factsOf_eq {value : String} {index : Nat} :
    factsOf (entry name value ids) = [fact identifiers index (name.getD "undefined") value] ↔
      name.getD "undefined" ∉ idNames ∧ Names identifiers index ids := by
  rw [factsOf_entry,fact,Names]
  split
  · next taken => exact iff_of_false (fun same => nomatch same) fun both => both.1 taken
  · next free => simp [free]
theorem factsOf_length (name : Option String) (value : String) (ids : Ids) :
    (factsOf (entry name value ids)).length ≤ 1 := by
  rw [factsOf_entry]
  split
  · exact Nat.zero_le 1
  · exact Nat.le_refl 1

theorem flatten_eq_iff {A : Type} {xs ys : List (List A)}
    (shorter : List.Forall₂ (fun x y => x.length ≤ y.length) xs ys) :
    xs.flatten = ys.flatten ↔ xs = ys := by
  have total : ∀ {xs ys : List (List A)}, List.Forall₂ (fun x y => x.length ≤ y.length) xs ys →
      xs.flatten.length ≤ ys.flatten.length := by
    intro xs ys shorter
    induction shorter with
    | nil => exact Nat.le_refl _
    | cons head _ ih => simpa using Nat.add_le_add head ih
  refine ⟨fun same => ?_,fun same => same ▸ rfl⟩
  induction shorter with
  | nil => rfl
  | cons head rest ih =>
    rename_i x y xs ys
    have below := total rest
    have lengths : x.length + xs.flatten.length = y.length + ys.flatten.length := by
      simpa using congrArg List.length same
    rw [List.flatten_cons,List.flatten_cons] at same
    obtain ⟨first,others⟩ := List.append_inj same (by omega)
    rw [first,ih others]

theorem own_eq {p : String × RequestedAttribute} :
    (ownEntries presentation identifiers p).flatMap factsOf = attributeFacts presentation identifiers p ↔
      (∀ revealed, presentation.revealed_attrs.lookup p.1 = some revealed →
        p.2.name.getD "undefined" ∉ idNames ∧ Names identifiers revealed.sub_proof_index
        (pick identifiers p.2.restrictions)) ∧
      ∀ group, presentation.revealed_attr_groups.lookup p.1 = some group → group.values = [] := by
  have groups : (presentation.revealed_attr_groups.lookup p.1).toList.flatMap (fun group =>
      group.values.map fun value => fact identifiers group.sub_proof_index value.1 value.2) = [] ↔
      ∀ group, presentation.revealed_attr_groups.lookup p.1 = some group → group.values = [] := by
    simp [List.flatMap_eq_nil_iff]
  rw [← groups,ownEntries,attributeFacts]
  cases presentation.revealed_attrs.lookup p.1 with
  | none => exact ⟨fun same => ⟨fun _ absent => (nomatch absent),same.symm⟩,fun both => both.2.symm⟩
  | some revealed =>
    simp only [Option.map_some,Option.toList_some,List.map_cons,List.map_nil,List.flatMap_cons,List.flatMap_nil,
        List.append_nil,
      List.singleton_append,Option.some.injEq,forall_eq']
    have short := factsOf_length p.2.name revealed.raw (pick identifiers p.2.restrictions)
    constructor
    · intro same
      have none_ := List.length_eq_zero_iff.mp (Nat.le_zero.mp (Nat.le_of_succ_le_succ (same ▸ short)))
      rw [none_] at same
      exact ⟨factsOf_eq.mp same,none_⟩
    · rintro ⟨right,none_⟩
      rw [none_]
      exact factsOf_eq.mpr right

theorem own_length (p : String × RequestedAttribute) :
    ((ownEntries presentation identifiers p).flatMap factsOf).length ≤
    (attributeFacts presentation identifiers p).length := by
  rw [ownEntries,attributeFacts,List.length_append,List.length_map]
  cases presentation.revealed_attrs.lookup p.1 with
  | none => exact Nat.zero_le _
  | some revealed =>
    refine Nat.le_trans ?_ (Nat.le_add_right _ _)
    simpa using factsOf_length p.2.name revealed.raw (pick identifiers p.2.restrictions)

section
variable (answered : ∀ p ∈ request.requested_predicates, ∃ index, presentation.predicates.lookup p.1 = some index)

theorem predicate_eq {p : String × RequestedPredicate}
    (answered : ∃ index, presentation.predicates.lookup p.1 = some index) {ids : Ids} :
    factsOf (entry (some p.2.name) (predicateText p.2) ids) = predicateFacts presentation identifiers p ↔
      ∀ index, presentation.predicates.lookup p.1 = some index → p.2.name ∉ idNames ∧ Names identifiers index ids := by
  obtain ⟨index,found⟩ := answered
  rw [predicateFacts,found]
  refine Iff.trans factsOf_eq ?_
  simp
theorem left_cons (start : Ids) (p : String × RequestedPredicate) (before : List (String × RequestedPredicate)) :
    left start (p :: before) = left (idsFrom start p) before := by
  rw [left,left,List.reverse_cons,List.findSome?_append]
  cases before.reverse.findSome? fun p => p.2.restrictions.map restrictionIds with
  | none => cases own : p.2.restrictions <;> simp [idsFrom,own]
  | some ids => rfl

theorem carried_eq {B : Type} {f : Entry → B} {right : String × RequestedPredicate → B} {start : Ids}
    {predicates : List (String × RequestedPredicate)} :
    (carriedEntries start predicates).1.map f = predicates.map right ↔
        ∀ before p after, predicates = before ++ p :: after →
      f (entry (some p.2.name) (predicateText p.2) (idsFrom (left start before) p)) = right p := by
  induction predicates generalizing start with
  | nil => exact iff_of_true rfl fun before p after same => absurd same (by simp)
  | cons p rest ih =>
    have step : (carriedEntries start (p :: rest)).1.map f =
        f (entry (some p.2.name) (predicateText p.2) (idsFrom start p)) ::
        (carriedEntries (idsFrom start p) rest).1.map f := rfl
    rw [step,List.map_cons,List.cons.injEq,ih]
    constructor
    · rintro ⟨first,later⟩ before q after same
      cases before with
      | nil =>
        obtain ⟨rfl,rfl⟩ := List.cons.inj same
        exact first
      | cons head before =>
        obtain ⟨rfl,rfl⟩ := List.cons.inj same
        rw [left_cons]
        exact later before q after rfl
    · intro each
      refine ⟨each [] p rest rfl,fun before q after same => ?_⟩
      rw [← left_cons]
      exact each (p :: before) q after (by rw [same]; rfl)

/-- There is an entry for the predicate, whatever its ids. -/
def Entered (p : String × RequestedPredicate) (entered : Entry) : Prop :=
  ∃ ids, entered = entry (some p.2.name) (predicateText p.2) ids
theorem carried_entered (start : Ids) (predicates : List (String × RequestedPredicate)) :
    List.Forall₂ Entered predicates (carriedEntries start predicates).1 := by
  induction predicates generalizing start with
  | nil => exact .nil
  | cons p rest ih => exact .cons ⟨_,rfl⟩ (ih _)
theorem predicates_entered :
    List.Forall₂ Entered request.requested_predicates (predicateEntries identifiers request) := by
  rw [predicateEntries]
  split
  · exact List.forall₂_map_right_iff.mpr (List.forall₂_same.mpr fun p _ => ⟨_,rfl⟩)
  · exact carried_entered _ _

include answered in
theorem exact_eq : (Report.extractedDataArray
      ⟨request.requested_attributes.flatMap (ownEntries presentation identifiers),
      predicateEntries identifiers request⟩).flatMap factsOf =
        expected presentation identifiers request ↔
      (∀ p ∈ request.requested_attributes,
        (ownEntries presentation identifiers p).flatMap factsOf = attributeFacts presentation identifiers p) ∧
      (predicateEntries identifiers request).map factsOf = request.requested_predicates.map
          (predicateFacts presentation identifiers) := by
  have attributes : List.Forall₂ (fun x y : List Fact => x.length ≤ y.length)
      (request.requested_attributes.map fun p => (ownEntries presentation identifiers p).flatMap factsOf)
      (request.requested_attributes.map (attributeFacts presentation identifiers)) :=
    List.forall₂_map_left_iff.mpr (List.forall₂_map_right_iff.mpr (List.forall₂_same.mpr fun p _ => own_length p))
  have predicates : List.Forall₂ (fun x y : List Fact => x.length ≤ y.length)
      ((predicateEntries identifiers request).map factsOf)
      (request.requested_predicates.map (predicateFacts presentation identifiers)) := by
    have each : ∀ p ∈ request.requested_predicates, (predicateFacts presentation identifiers p).length = 1 := by
      intro p there
      obtain ⟨index,found⟩ := answered p there
      rw [predicateFacts,found]
      rfl
    rw [List.forall₂_map_left_iff,List.forall₂_map_right_iff]
    refine List.Forall₂.flip (((List.forall₂_and_left _ _).mpr ⟨each,predicates_entered⟩).imp ?_)
    rintro p _ ⟨single,ids,rfl⟩
    exact Nat.le_trans (factsOf_length _ _ _) (Nat.le_of_eq single.symm)
  have blocks := flatten_eq_iff (List.rel_append attributes predicates)
  rw [List.flatten_append,List.flatten_append] at blocks
  rw [Report.extractedDataArray,expected,List.flatMap_append,List.flatMap_assoc]
  refine blocks.trans ⟨fun same => ?_,fun ⟨own,others⟩ => ?_⟩
  · obtain ⟨own,others⟩ := List.append_inj same (by simp)
    exact ⟨List.map_inj_left.mp own,others⟩
  · rw [List.map_inj_left.mpr own,others]

end

theorem alone_predicates (known : presentation.identifiers = some identifiers) {report : Report}
    (done : getVerifiedProofdetails { request with requested_attributes := [] } presentation = .ok report) :
    report.predicates = request.requested_predicates.map (ownEntry identifiers) := by
  obtain ⟨-,rfl⟩ := (reported_iff known).mp done
  simp only [predicateEntries,if_true]

theorem own_ids (agrees : Agrees request presentation identifiers) {before after : List (String × RequestedPredicate)}
    {p : String × RequestedPredicate} (attributes : request.requested_attributes ≠ [])
    (split_ : request.requested_predicates = before ++ p :: after) {index : Nat}
    (found : presentation.predicates.lookup p.1 = some index) :
    Names identifiers index (idsFrom (left (lastAttribute identifiers request.requested_attributes) before) p) := by
  rw [idsFrom]
  have there : p ∈ request.requested_predicates := split_ ▸ List.mem_append_right _ List.mem_cons_self
  cases restricted : p.2.restrictions with
  | none => exact agrees.carried attributes before p after split_ restricted index found
  | some listed =>
    have own := (agrees.predicates p there index found).2
    rw [restricted] at own
    exact own

theorem entry_congr {value : String} {index : Nat} {ids others : Ids} (first : Names identifiers index ids)
    (second : Names identifiers index others) : entry name value ids = entry name value others := by
  rw [entry,entry,first.1,first.2,second.1,second.2]

section
variable (answers : Answers presentation identifiers request)
include answers

theorem right_of_agrees (agrees : Agrees request presentation identifiers) : Right request presentation identifiers := by
  have known := answers.identified
  have answered : ∀ p ∈ request.requested_predicates, ∃ index, presentation.predicates.lookup p.1 = some index :=
      fun p there =>
    have ⟨index,found,_⟩ := answers.predicates p there
    ⟨index,found⟩
  have revealedLoop : "hasOwnProperty" ∉ JsObject.keys presentation.revealed_attrs := by
    intro there
    obtain ⟨revealed,found⟩ := Option.isSome_iff_exists.mp (JsObject.mem_keys.mp there)
    obtain ⟨requested,asked,-⟩ := answers.revealed _ revealed found
    exact agrees.attributeLoop (JsObject.mem_keys.mpr (by rw [asked]; rfl))
  have reports : Reports request presentation identifiers := by
    refine ⟨agrees.asked,fun _ => ⟨agrees.attributeLoop,fun p there => ⟨agrees.identified p there,revealedLoop⟩⟩,
        agrees.predicateLoop,
      fun _ p there _ => ?_⟩
    obtain ⟨index,-,inside,-⟩ := answers.predicates p there
    exact List.ne_nil_of_length_pos (Nat.zero_lt_of_lt inside)
  refine ⟨⟨_,(reported_iff known).mpr ⟨reports,rfl⟩,(exact_eq answered).mpr ⟨fun p there => ?_,?_⟩⟩,?_,?_⟩
  · exact own_eq.mpr ⟨agrees.revealed p there,agrees.groups p there⟩
  · rw [predicateEntries]
    split
    · rw [List.map_map]
      exact List.map_inj_left.mpr fun p there => (predicate_eq (answered p there)).mpr (agrees.predicates p there)
    · next attributes =>
      refine carried_eq.mpr fun before p after split_ => ?_
      have there : p ∈ request.requested_predicates := split_ ▸ List.mem_append_right _ List.mem_cons_self
      refine (predicate_eq (answered p there)).mpr fun index found => ⟨(agrees.predicates p there index found).1,?_⟩
      exact own_ids agrees attributes split_ found
  · intro report alone done aloneDone
    obtain ⟨-,rfl⟩ := (reported_iff known).mp done
    obtain ⟨-,rfl⟩ := (reported_iff known).mp aloneDone
    rfl
  · intro report alone done aloneDone
    obtain ⟨-,rfl⟩ := (reported_iff known).mp done
    rw [alone_predicates known aloneDone,predicateEntries]
    split
    · rfl
    · next attributes =>
      refine Eq.symm (Eq.trans (List.map_id _).symm (carried_eq.mpr fun before p after split_ => ?_))
      have there : p ∈ request.requested_predicates := split_ ▸ List.mem_append_right _ List.mem_cons_self
      obtain ⟨index,found⟩ := answered p there
      exact entry_congr (own_ids agrees attributes split_ found) (agrees.predicates p there index found).2

theorem agrees_of_right (right : Right request presentation identifiers) : Agrees request presentation identifiers := by
  have known := answers.identified
  have answered : ∀ p ∈ request.requested_predicates, ∃ index, presentation.predicates.lookup p.1 = some index :=
      fun p there =>
    have ⟨index,found,_⟩ := answers.predicates p there
    ⟨index,found⟩
  obtain ⟨report,done,exact_⟩ := right.exact_
  obtain ⟨reports,rfl⟩ := (reported_iff known).mp done
  obtain ⟨own,others⟩ := (exact_eq answered).mp exact_
  -- The predicates alone have a report too, with the same entries.
  have same : request.requested_predicates.map (ownEntry identifiers) = predicateEntries identifiers request := by
    by_cases none_ : request.requested_predicates = []
    · have entered : List.Forall₂ Entered request.requested_predicates (predicateEntries identifiers request) :=
        predicates_entered
      rw [none_] at entered
      rw [none_,List.forall₂_nil_left_iff.mp entered]
      rfl
    · have alone : Reports { request with requested_attributes := [] } presentation identifiers := by
        refine ⟨.inr none_,fun other => absurd rfl other,reports.predicateLoop,fun _ p there _ => ?_⟩
        obtain ⟨index,-,inside,-⟩ := answers.predicates p there
        exact List.ne_nil_of_length_pos (Nat.zero_lt_of_lt inside)
      exact right.predicates _ _ done ((reported_iff known).mpr ⟨alone,rfl⟩)
  have each : ∀ p ∈ request.requested_predicates,
      factsOf (ownEntry identifiers p) = predicateFacts presentation identifiers p := by
    rw [← same,List.map_map] at others
    exact List.map_inj_left.mp others
  refine ⟨reports.asked,?_,reports.predicateLoop,fun p there => ?_,fun p there => (own_eq.mp (own p there)).1,
    fun p there => (own_eq.mp (own p there)).2,fun p there => (predicate_eq (answered p there)).mp (each p there),?_⟩
  · by_cases attributes : request.requested_attributes = []
    · rw [attributes]
      exact List.not_mem_nil
    · exact (reports.attributes attributes).1
  · exact ((reports.attributes (List.ne_nil_of_mem there)).2 p there).1
  · intro attributes before p after split_ unrestricted index found
    have there : p ∈ request.requested_predicates := split_ ▸ List.mem_append_right _ List.mem_cons_self
    rw [predicateEntries,if_neg attributes] at others
    have carried := (predicate_eq (answered p there)).mp (carried_eq.mp others before p after split_) index found
    rw [idsFrom,unrestricted] at carried
    exact carried.2

/-- A verified proof is reported exactly when what is asked is named apart from the ids and answered one by
one, and the ids the request is taken to mean are those of the credentials used. -/
theorem right_iff : Right request presentation identifiers ↔ Agrees request presentation identifiers :=
  ⟨agrees_of_right answers,right_of_agrees answers⟩
end
end

def identityCredential : Identifier where
  schema_id := "schema-identity"
  cred_def_id := "cred-identity"
def studentCredential : Identifier where
  schema_id := "schema-student"
  cred_def_id := "cred-student"
def definedBy (credential : Identifier) : Restriction where
  cred_def_id := some credential.cred_def_id
  schema_id := some credential.schema_id
/-- A name from either credential, and an age from the identity. -/
def askedOf (credentials : List Identifier) : Request where
  requested_attributes := [("attribute_1",
    { name := some "name", names := none, restrictions := some (credentials.map definedBy) })]
  requested_predicates := [("predicate_1",
    { name := "age", p_type := ">=", p_value := 18, restrictions := some [definedBy identityCredential] })]
def shown : Presentation where
  revealed_attrs := [("attribute_1",{ sub_proof_index := 1, raw := "Karma" })]
  revealed_attr_groups := []
  predicates := [("predicate_1",0)]
  identifiers := some [identityCredential,studentCredential]

theorem shown_answers {credentials : List Identifier} (student : studentCredential ∈ credentials) :
    Answers shown [identityCredential,studentCredential] (askedOf credentials) where
  identified := rfl
  attributeKeys := List.nodup_singleton _
  predicateKeys := List.nodup_singleton _
  revealed key revealed found := by
    have same : key = "attribute_1" := by
      by_contra other
      simp [shown,List.lookup_cons,beq_false_of_ne other] at found
    subst same
    obtain rfl : { sub_proof_index := 1, raw := "Karma" } = revealed := by simpa [shown] using found
    refine ⟨_,rfl,rfl,by decide,fun listed restricted _ => ?_⟩
    obtain rfl := Option.some.inj restricted
    exact ⟨_,List.mem_map_of_mem student,studentCredential,rfl,fun id same => (Option.some.inj same).symm,fun id same =>
        (Option.some.inj same).symm⟩
  groups _ _ found := nomatch found
  predicates p there := by
    obtain rfl := List.mem_singleton.mp there
    refine ⟨0,rfl,by decide,fun listed restricted _ => ?_⟩
    obtain rfl := Option.some.inj restricted
    exact ⟨_,List.mem_singleton_self _,identityCredential,rfl,fun id same => (Option.some.inj same).symm,fun id same =>
        (Option.some.inj same).symm⟩

theorem right_student : Right (askedOf [studentCredential]) shown [identityCredential,studentCredential] := by
  refine (right_iff (shown_answers List.mem_cons_self)).mpr
      ⟨.inl (List.cons_ne_nil _ _),by decide,by decide,?_,?_,?_,?_,?_⟩
  · intro p there unrestricted
    obtain rfl := List.mem_singleton.mp there
    exact nomatch unrestricted
  · intro p there revealed found
    obtain rfl := List.mem_singleton.mp there
    obtain rfl := Option.some.inj found
    exact ⟨by decide,by decide,by decide⟩
  · intro p _ group found
    exact nomatch found
  · intro p there index found
    obtain rfl := List.mem_singleton.mp there
    obtain rfl := Option.some.inj found
    exact ⟨by decide,by decide,by decide⟩
  · intro _ before p after split_ unrestricted
    have there : p ∈ (askedOf [studentCredential]).requested_predicates :=
        split_ ▸ List.mem_append_right _ List.mem_cons_self
    obtain rfl := List.mem_singleton.mp there
    exact nomatch unrestricted

/-- Where the identity would have done as well, the name is said to come from it. -/
theorem alternative_misnamed :
    Answers shown [identityCredential,studentCredential] (askedOf [identityCredential,studentCredential]) ∧
    ¬ Right (askedOf [identityCredential,studentCredential]) shown [identityCredential,studentCredential] := by
  have answers := @shown_answers [identityCredential,studentCredential] (List.mem_cons_of_mem _ List.mem_cons_self)
  refine ⟨answers,fun right => ?_⟩
  have named := ((agrees_of_right answers right).revealed _ List.mem_cons_self _ rfl).2.1
  exact absurd named (by decide)

end Ngotag.VerifiedProofs
