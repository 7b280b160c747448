import Ngotag.VerifiedProofs

/-!
What a verifier is told of a proof in the format of presentation exchange. Of each descriptor the
first field is looked at alone, and its values are those of the credential in the place of the
descriptor, not of the one that is submitted for it.
-/
namespace Ngotag.ExchangeProofs
open VerifiedProofs (Failure orNull bind_ok)

structure Field where
  path : List String
  deriving DecidableEq
structure InputDescriptor where
  id : String
  /-- The `uri` of each schema. -/
  schema : List String
  /-- There may be constraints without `fields`. -/
  constraints : Option (Option (List Field))
def InputDescriptor.fields (descriptor : InputDescriptor) : List Field := descriptor.constraints.join.getD []

structure Credential (V : Type) where
  credentialSubject : Option (List (String × V))
  /-- `prettyVc?.certificate` -/
  certificate : Option String
/-- A presentation with a credential for each of the descriptors. -/
structure Presentation (V : Type) (input_descriptors : List InputDescriptor) where
  verifiableCredential : List (Credential V)
  /-- The place of the credential that is submitted for an id. -/
  descriptor_map : List (String × Nat)
  answered : ∀ descriptor ∈ input_descriptors,
    ((descriptor_map.lookup descriptor.id).bind (verifiableCredential[·]?)).isSome = true
/-- A property of an entry: a value of a credential, which may be an inherited one, or a text of the entry's own. -/
inductive Property (V : Type) where
  | value (attributeValue : Option V)
  | own (text : Option String)
abbrev Entry (V : Type) := List (String × Property V)
/-- What is pushed for each path of each field. -/
abbrev Pushes (V : Type) := List (List (Option (Entry V)))

/-- `.*?'\]`, where a dot is no line terminator. -/
def closing : List Char → Option (List Char)
  | [] => none
  | c :: rest =>
    if c = '\'' ∧ rest.head? = some ']' then some []
    else if c ∈ ['\n','\r','\u2028','\u2029'] then none
    else (closing rest).map (c :: ·)
/-- The group of `ATTRIBUTE_NAME_REGEX`. -/
def matched : List Char → Option (List Char)
  | [] => none
  | c :: rest => if c = '[' ∧ rest.head? = some '\'' then (closing rest.tail).or (matched rest) else matched rest
def attributeName (requestedAttributeKey : String) : String :=
  match matched requestedAttributeKey.toList with
  | some (c :: name) => String.ofList (c :: name)
  | _ => String.ofList (requestedAttributeKey.toList.reverse.takeWhile (· ≠ '.')).reverse

variable {V : Type}
def attributeValue (credential : Option (Credential V)) (name : String) : Option (Option V) :=
  (credential.bind Credential.credentialSubject).bind (JsObject.read · name)
def entry (name : String) (value : Property V) (schemaId certificate : Option String) : Entry V :=
  JsObject.put "certificateTemplate" (.own certificate) (JsObject.put "schemaId" (.own (orNull schemaId)) [(name,value)])
/-- What is pushed for a path, if anything is. -/
def extractedData (credentials : List (Credential V)) (index : Nat) (descriptor : InputDescriptor) (key : String) :
    Option (Entry V) :=
  if attributeName key = "" then none
  else (attributeValue credentials[index]? (attributeName key)).map fun value =>
    entry (attributeName key) (.value value) descriptor.schema.head? (credentials.head?.bind Credential.certificate)
/-- Of the fields only `fields[0]` is gone through. -/
def pushed (credentials : List (Credential V)) (index : Nat) (descriptor : InputDescriptor) : Pushes V :=
  (descriptor.fields.take 1).map fun field => field.path.map (extractedData credentials index descriptor)
/-- The loop over the descriptors: the constraints need `fields`, and the certificate a first credential. -/
def visits (credentials : List (Credential V)) : Nat → List InputDescriptor → Except Failure (List (Pushes V))
  | _,[] => .ok []
  | index,descriptor :: rest => do
    if descriptor.constraints = some none ∨ credentials = [] then throw .typeError
    else return pushed credentials index descriptor :: (← visits credentials (index + 1) rest)
/-- The presentation exchange part of `getVerifiedProofdetails`. -/
def getVerifiedProofdetails (credentials : List (Credential V)) (input_descriptors : List InputDescriptor) :
    Except Failure (List (Entry V)) := do
  return (← visits credentials 0 input_descriptors).flatten.flatten.reduceOption

section
variable {input_descriptors : List InputDescriptor} (names : String → String)
    (presentation : Presentation V input_descriptors)

/-- The credential that is submitted for a descriptor. -/
def Presentation.answering (descriptor : InputDescriptor) : Option (Credential V) :=
  (presentation.descriptor_map.lookup descriptor.id).bind (presentation.verifiableCredential[·]?)
def Presentation.valueOf (descriptor : InputDescriptor) (attribute_ : String) : Option V :=
  ((presentation.answering descriptor).bind Credential.credentialSubject).bind (·.lookup attribute_)
def Presentation.certificateOf (descriptor : InputDescriptor) : Option String :=
  (presentation.answering descriptor).bind Credential.certificate
/-- The value of the attribute that a path names, in the credential that answers the descriptor, or nothing. -/
def Presentation.expected (descriptor : InputDescriptor) (key : String) : Option (Entry V) :=
  (presentation.valueOf descriptor (names key)).map fun value => [(names key,.value (some value)),
    ("schemaId",.own (orNull descriptor.schema.head?)),("certificateTemplate",
    .own (presentation.certificateOf descriptor))]
/-- The report is what is pushed for the paths, and for each of them that is what is expected. -/
def Right : Prop :=
  ∃ visited, visits presentation.verifiableCredential 0 input_descriptors = .ok visited ∧
    getVerifiedProofdetails presentation.verifiableCredential input_descriptors =
    .ok visited.flatten.flatten.reduceOption ∧
    ∀ (i j k : Nat) (descriptor : InputDescriptor) (field : Field) (key : String),
        input_descriptors[i]? = some descriptor →
      descriptor.fields[j]? = some field → field.path[k]? = some key →
        ((visited[i]?.bind (·[j]?)).bind (·[k]?)).join = presentation.expected names descriptor key
/-- The credential in a place has what the one that answers the descriptor has, under the name cut out of the path
and with the certificate of the first one. -/
structure Fits (index : Nat) (descriptor : InputDescriptor) (key : String) : Prop where
  held : ∀ value, presentation.valueOf descriptor (names key) = some value →
    attributeName key = names key ∧ names key ∉ ["","schemaId","certificateTemplate"] ∧
    attributeValue presentation.verifiableCredential[index]? (names key) = some (some value) ∧
    presentation.verifiableCredential.head?.bind Credential.certificate = presentation.certificateOf descriptor
  absent : presentation.valueOf descriptor (names key) = none →
    attributeName key = "" ∨ attributeValue presentation.verifiableCredential[index]? (attributeName key) = none
/-- The first field of each descriptor fits the credential in its place, and the others name nothing there is. -/
structure Agrees : Prop where
  constrained : ∀ descriptor ∈ input_descriptors, descriptor.constraints ≠ some none
  first : ∀ (i : Nat) descriptor, input_descriptors[i]? = some descriptor → ∀ field, descriptor.fields[0]? = some field →
    ∀ key ∈ field.path, Fits names presentation i descriptor key
  later : ∀ descriptor ∈ input_descriptors, ∀ (j : Nat) field, descriptor.fields[j + 1]? = some field →
      ∀ key ∈ field.path,
    presentation.valueOf descriptor (names key) = none

end
section
variable {credentials : List (Credential V)} {input_descriptors : List InputDescriptor} {names : String → String}
  {presentation : Presentation V input_descriptors}

theorem entry_plain {name : String} {value : Property V} {schemaId certificate : Option String}
    (plain : name ∉ ["schemaId","certificateTemplate"]) : entry name value schemaId certificate =
      [(name,value),("schemaId",.own (orNull schemaId)),("certificateTemplate",.own certificate)] := by
  rw [List.mem_pair,not_or] at plain
  rw [entry,JsObject.put,if_neg plain.1,JsObject.put,JsObject.put,if_neg plain.2]
  rfl

theorem fits_iff {index : Nat} {descriptor : InputDescriptor} {key : String} :
    extractedData presentation.verifiableCredential index descriptor key = presentation.expected names descriptor key ↔
      Fits names presentation index descriptor key := by
  rw [extractedData,Presentation.expected]
  by_cases empty : attributeName key = ""
  · rw [if_pos empty]
    cases found : presentation.valueOf descriptor (names key) with
    | none => exact iff_of_true rfl ⟨fun value is => (nomatch found.symm.trans is),fun _ => .inl empty⟩
    | some value =>
      refine iff_of_false nofun fun fits => ?_
      obtain ⟨same,plain,-⟩ := fits.held value found
      exact plain (same ▸ empty ▸ List.mem_cons_self)
  rw [if_neg empty]
  cases found : presentation.valueOf descriptor (names key) with
  | none =>
    rw [Option.map_none,Option.map_eq_none_iff]
    exact ⟨fun none_ => ⟨fun value is => (nomatch found.symm.trans is),fun _ => .inr none_⟩,
      fun fits => (fits.absent found).resolve_left empty⟩
  | some value =>
    rw [Option.map_some,Option.map_eq_some_iff]
    refine ⟨fun ⟨read,there,made⟩ => ?_,fun fits => ?_⟩
    · have plain : attributeName key ∉ ["schemaId","certificateTemplate"] := by
        intro taken
        have short : ∀ certificate,
            (entry (attributeName key) (.value read) descriptor.schema.head? certificate).length = 2 := by
          rcases List.mem_pair.mp taken with same | same <;> rw [same] <;> exact fun _ => rfl
        exact absurd (made ▸ short _) (by simp)
      rw [entry_plain plain] at made
      simp only [List.cons.injEq,Prod.mk.injEq,Property.value.injEq,Property.own.injEq,true_and,and_true] at made
      obtain ⟨⟨same,rfl⟩,certificate⟩ := made
      refine ⟨fun other is => ?_,fun none_ => nomatch found.symm.trans none_⟩
      obtain rfl := Option.some.inj (found.symm.trans is)
      exact ⟨same,same ▸ List.not_mem_cons_of_ne_of_not_mem empty plain,same ▸ there,certificate⟩
    · obtain ⟨same,plain,there,certificate⟩ := fits.held value found
      rw [same,certificate]
      exact ⟨_,there,entry_plain fun taken => plain (List.mem_cons_of_mem _ taken)⟩

theorem visits_ok {index : Nat} {visited : List (Pushes V)} (some_ : input_descriptors ≠ [] → credentials ≠ []) :
    visits credentials index input_descriptors = .ok visited ↔
      (∀ descriptor ∈ input_descriptors, descriptor.constraints ≠ some none) ∧
        input_descriptors.mapIdx (fun i => pushed credentials (index + i)) = visited := by
  induction input_descriptors generalizing index visited with
  | nil => simp [visits]
  | cons descriptor rest ih =>
    have all_ := some_ (List.cons_ne_nil _ _)
    have shift : (fun i => pushed credentials (index + (i + 1))) = fun i => pushed credentials (index + 1 + i) :=
      funext fun i => by rw [Nat.add_right_comm,Nat.add_assoc]
    rw [visits,List.mapIdx_cons,List.forall_mem_cons,shift,Nat.add_zero]
    by_cases bare : descriptor.constraints = some none
    · rw [if_pos (.inl bare)]
      exact iff_of_false nofun fun both => both.1.1 bare
    · rw [if_neg (not_or.mpr ⟨bare,all_⟩),bind_ok]
      constructor
      · rintro ⟨later,ran,made⟩
        obtain ⟨others,rfl⟩ := (ih fun _ => all_).mp ran
        exact ⟨⟨bare,others⟩,Except.ok.inj made⟩
      · rintro ⟨⟨-,others⟩,rfl⟩
        exact ⟨_,(ih fun _ => all_).mpr ⟨others,rfl⟩,rfl⟩

theorem some_credential (presentation : Presentation V input_descriptors) (asked : input_descriptors ≠ []) :
    presentation.verifiableCredential ≠ [] := by
  obtain ⟨descriptor,there⟩ := List.exists_mem_of_ne_nil _ asked
  intro none_
  have answered := presentation.answered descriptor there
  simp [none_] at answered

variable {i j k : Nat} {descriptor : InputDescriptor} {field : Field} {key : String}
theorem pushed_at (at_ : input_descriptors[i]? = some descriptor) (listed : descriptor.fields[j]? = some field)
    (named : field.path[k]? = some key) :
    (((input_descriptors.mapIdx fun i => pushed credentials (0 + i))[i]?.bind (·[j]?)).bind (·[k]?)).join =
      if j = 0 then extractedData credentials i descriptor key else none := by
  simp only [List.getElem?_mapIdx,at_,Option.map_some,Option.bind_some,pushed,List.getElem?_map,List.getElem?_take]
  cases j with
  | zero => simp [listed,named]
  | succ j => simp

theorem agrees_of_right (right : Right names presentation) : Agrees names presentation := by
  obtain ⟨visited,done,-,each⟩ := right
  obtain ⟨constrained,rfl⟩ := (visits_ok (some_credential presentation)).mp done
  refine ⟨constrained,fun i descriptor at_ field listed key path => ?_,fun descriptor there j field listed key path => ?_⟩
  · obtain ⟨k,named⟩ := List.getElem?_of_mem path
    have same := each i 0 k descriptor field key at_ listed named
    rw [pushed_at at_ listed named,if_pos rfl] at same
    exact fits_iff.mp same
  · obtain ⟨i,at_⟩ := List.getElem?_of_mem there
    obtain ⟨k,named⟩ := List.getElem?_of_mem path
    have same := each i (j + 1) k descriptor field key at_ listed named
    rw [pushed_at at_ listed named,if_neg j.succ_ne_zero] at same
    exact Option.map_eq_none_iff.mp same.symm

theorem right_of_agrees (agrees : Agrees names presentation) : Right names presentation := by
  have done := (@visits_ok _ _ _ 0 _ (some_credential presentation)).mpr ⟨agrees.constrained,rfl⟩
  refine ⟨_,done,?_,fun i j k descriptor field key at_ listed named => ?_⟩
  · rw [getVerifiedProofdetails,done]
    rfl
  · have path := List.mem_of_getElem? named
    rw [pushed_at at_ listed named]
    cases j with
    | zero => exact (if_pos rfl).trans (fits_iff.mpr (agrees.first i descriptor at_ field listed key path))
    | succ j =>
      rw [if_neg j.succ_ne_zero,Presentation.expected,agrees.later descriptor (List.mem_of_getElem? at_) j field listed key path]
      rfl

/-- A proof is reported right exactly where the credentials stand in the order of the descriptors and the first
field of each names what it has. -/
theorem exchange_right_iff : Right names presentation ↔ Agrees names presentation :=
  ⟨agrees_of_right,right_of_agrees⟩
end

/-- A name and an age are asked for, each by a field of its own. -/
def identity : InputDescriptor where
  id := "identity"
  schema := ["schema:identity"]
  constraints := some (some [⟨["$.credentialSubject['name']"]⟩,⟨["$.credentialSubject['age']"]⟩])
def submitted : Presentation String [identity] where
  verifiableCredential := [⟨some [("name","Karma"),("age","30")],none⟩]
  descriptor_map := [("identity",0)]
  answered := by decide
/-- The age is not reported. -/
theorem age_unreported : ¬Right attributeName submitted := fun right =>
  absurd ((agrees_of_right right).later identity List.mem_cons_self 0 _ rfl _ List.mem_cons_self) (by decide)

end Ngotag.ExchangeProofs
