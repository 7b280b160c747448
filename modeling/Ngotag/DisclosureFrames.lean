import Mathlib.Tactic.MkIffOfInductiveProp
import Ngotag.CredentialPayloads
import Ngotag.JsObject

/-!
The disclosure frame of a credential and what it makes of the payload. Below the elements of a list the
frame is built without the payload, so a list inside of them is framed as if it were an object.
-/
namespace Ngotag.DisclosureFrames
open CredentialPayloads

/-- What a frame has under a name. A frame is an object; what is assigned to `__proto__` becomes what it
inherits from. -/
inductive Entry where
  | names (keys : List String)
  | object (own : List (String × Entry)) (proto : Option Entry)
  | list (frames : List Entry)
abbrev DisclosureFrame := Entry
def Entry.own : Entry → List (String × Entry)
  | .object own _ => own
  | _ => []
/-- `entry[key]` -/
def Entry.get : Entry → String → Option Entry
  | .object own none,key => own.lookup key
  | .object own (some proto),key => (own.lookup key).or (proto.get key)
  | _,_ => none
/-- Whether `entry.length` is truthy. -/
def Entry.hasLength : Entry → Bool
  | .names keys => !keys.isEmpty
  | .list frames => !frames.isEmpty
  | .object own none => (own.lookup "length").isSome
  | .object own (some proto) => (own.lookup "length").isSome || proto.hasLength

/-- `{ ...childFrame }` -/
def Entry.spread (frame : Entry) : Entry := .object frame.own none
/-- A frame while it is built. -/
structure Building where
  own : List (String × Entry)
  proto : Option Entry
  sd : List String
def Building.start : Building := { own := [], proto := none, sd := [] }
/-- `frame[key] = entry` -/
def Building.assign (built : Building) (key : String) (entry : Entry) : Building :=
  if key = "__proto__" then { built with proto := some entry }
  else { built with own := JsObject.put key entry built.own }
def Building.finish (built : Building) : DisclosureFrame :=
  if 0 < built.sd.length then .object (JsObject.put "_sd" (.names built.sd) built.own) built.proto
  else .object built.own built.proto
/-- `childFrame._sd?.length || Object.keys(childFrame).some((k) => '_sd' !== k)` -/
def hasChildDisclosure (childFrame : DisclosureFrame) : Bool :=
  (childFrame.get "_sd").any Entry.hasLength || (JsObject.keys childFrame.own).any (· ≠ "_sd")

section
variable {realm : Realm}

mutual

def addAttribute (payload : Option (Data realm)) (built : Building) : Attribute → Building
  | .mk key _ disclose children =>
    if children.isEmpty then
      if disclose then { built with sd := built.sd ++ [key] } else built
    else
      let payloadValue := payload.bind fun data => data.read key
      match payloadValue.bind Data.listLength with
      | some length =>
        let childFrame := (addAttributes none .start children).finish
        built.assign key (.list (List.replicate length childFrame.spread))
      | none =>
        let childFrame := (addAttributes payloadValue .start children).finish
        if hasChildDisclosure childFrame then built.assign key childFrame else built

def addAttributes (payload : Option (Data realm)) (built : Building) : List Attribute → Building
  | [] => built
  | attr :: rest => addAttributes payload (addAttribute payload built attr) rest
end

def buildDisclosureFrameFromTemplate (attributes : List Attribute) (payload : Option (Data realm)) : DisclosureFrame :=
  (addAttributes payload .start attributes).finish
end

/-- The claims of an object that its frame makes selectively disclosable. -/
def namesOf (frame : DisclosureFrame) : List String :=
  match frame.own.lookup "_sd" with
  | some (.names keys) => keys
  | _ => []
/-- The frame of a claim. `_sd` is none. -/
def entryOf (frame : DisclosureFrame) (key : String) : Option Entry := if key = "_sd" then none else frame.own.lookup key
def noFrame : DisclosureFrame := .object [] none

/-- The objects of a payload, and its lists of objects, are those of the tree, and no field has two
attributes. -/
@[mk_iff]
inductive Follows : List Attribute → List (String × Value) → Prop where
  | mk {attrs : List Attribute} {fields : List (String × Value)}
      (one : ∀ attr ∈ attrs, ∀ other ∈ attrs, other.key = attr.key → (fields.lookup attr.key).isSome = true → other = attr)
      (shape : ∀ attr ∈ attrs, attr.children ≠ [] → ∀ v, fields.lookup attr.key = some v →
        (∃ inside, v = .object inside) ∨ ∃ items, v = .list items ∧ ∀ item ∈ items, ∃ inside, item = .object inside)
      (objects : ∀ attr ∈ attrs, attr.children ≠ [] → ∀ inside, fields.lookup attr.key = some (.object inside) →
        Follows attr.children inside)
      (elements : ∀ attr ∈ attrs, attr.children ≠ [] → ∀ items, fields.lookup attr.key = some (.list items) →
        ∀ inside, Value.object inside ∈ items → Follows attr.children inside) : Follows attrs fields

/-- The frame says of each leaf what its attribute says, and has a list of frames for each list. -/
@[mk_iff]
inductive Framed : List Attribute → List (String × Value) → DisclosureFrame → Prop where
  | mk {attrs : List Attribute} {fields : List (String × Value)} {frame : DisclosureFrame}
      (leaves : ∀ attr ∈ attrs, attr.children = [] → (fields.lookup attr.key).isSome = true →
        (attr.key ∈ namesOf frame ↔ attr.disclose = true))
      (strangers : ∀ key, (∀ attr ∈ attrs, attr.key ≠ key) → key ∉ namesOf frame)
      (objects : ∀ attr ∈ attrs, attr.children ≠ [] → ∀ inside, fields.lookup attr.key = some (.object inside) →
        Framed attr.children inside ((entryOf frame attr.key).getD noFrame))
      (lists : ∀ attr ∈ attrs, attr.children ≠ [] → ∀ items, fields.lookup attr.key = some (.list items) →
        ∃ frames, entryOf frame attr.key = some (.list frames) ∧ frames.length = items.length)
      (elements : ∀ attr ∈ attrs, attr.children ≠ [] → ∀ items, fields.lookup attr.key = some (.list items) →
        ∀ frames, entryOf frame attr.key = some (.list frames) → ∀ (i : Nat) inside element,
        items[i]? = some (Value.object inside) →
          frames[i]? = some element → Framed attr.children inside element) : Framed attrs fields frame

/-- Nothing is to be disclosed selectively, and there are no lists of objects. -/
@[mk_iff]
inductive Blank : List Attribute → List (String × Value) → Prop where
  | mk {attrs : List Attribute} {fields : List (String × Value)}
      (leaves : ∀ attr ∈ attrs, attr.children = [] → (fields.lookup attr.key).isSome = true → attr.disclose = false)
      (objects : ∀ attr ∈ attrs, attr.children ≠ [] → ∀ inside, fields.lookup attr.key = some (.object inside) →
        Blank attr.children inside)
      (lists : ∀ attr ∈ attrs, attr.children ≠ [] → ∀ items, fields.lookup attr.key ≠ some (.list items)) :
          Blank attrs fields
/-- Names under which a frame has no frame of a claim. -/
def reserved : List String := ["__proto__","_sd"]

/-- No list lies inside an element of a list, and what has a reserved name needs no frame. -/
@[mk_iff]
inductive Clean : Bool → List Attribute → List (String × Value) → Prop where
  | mk {inElement : Bool} {attrs : List Attribute} {fields : List (String × Value)}
      (blank : ∀ attr ∈ attrs, attr.children ≠ [] → attr.key ∈ reserved →
        (∀ inside, fields.lookup attr.key = some (.object inside) → Blank attr.children inside) ∧
          ∀ items, fields.lookup attr.key ≠ some (.list items))
      (objects : ∀ attr ∈ attrs, attr.children ≠ [] → attr.key ∉ reserved → ∀ inside,
        fields.lookup attr.key = some (.object inside) → Clean inElement attr.children inside)
      (lists : ∀ attr ∈ attrs, attr.children ≠ [] → attr.key ∉ reserved → ∀ items,
        fields.lookup attr.key = some (.list items) → inElement = false)
      (elements : ∀ attr ∈ attrs, attr.children ≠ [] → attr.key ∉ reserved → ∀ items,
        fields.lookup attr.key = some (.list items) → ∀ inside, Value.object inside ∈ items →
        Clean true attr.children inside) :
      Clean inElement attrs fields

section
variable {realm : Realm} {payload : Option (Data realm)} {built : Building} {attrs : List Attribute} {attr : Attribute}

variable (payload) in
/-- The frame an attribute with children gets. -/
def assigned (attr : Attribute) : Option Entry :=
  let payloadValue := payload.bind fun data => data.read attr.key
  match payloadValue.bind Data.listLength with
  | some length => 
    let childFrame := buildDisclosureFrameFromTemplate attr.children (none : Option (Data realm))
    some (.list (List.replicate length childFrame.spread))
  | none =>
    let childFrame := buildDisclosureFrameFromTemplate attr.children payloadValue
    if hasChildDisclosure childFrame then some childFrame else none

theorem add_leaf (leaf : attr.children = []) :
    addAttribute payload built attr = if attr.disclose then { built with sd := built.sd ++ [attr.key] } else built := by
  obtain ⟨key,mandatory,disclose,children⟩ := attr
  obtain rfl : children = [] := leaf
  rw [addAttribute]
  rfl

theorem add_branch (branch : attr.children ≠ []) :
    addAttribute payload built attr = ((assigned payload attr).map (built.assign attr.key)).getD built := by
  obtain ⟨key,mandatory,disclose,children⟩ := attr
  have some_ : children.isEmpty = false := by simpa [Attribute.children] using branch
  rw [addAttribute,assigned]
  simp only [some_,Bool.false_eq_true,if_false,Attribute.key,Attribute.children,buildDisclosureFrameFromTemplate]
  split
  · rfl
  · split
    · next shown => simp only [shown,if_true,Option.map_some,Option.getD_some]
    · next hidden => simp only [hidden,if_false,Option.map_none,Option.getD_none,Bool.false_eq_true]

theorem assign_sd (key : String) (entry : Entry) : (built.assign key entry).sd = built.sd := by
  rw [Building.assign]
  split <;> rfl
theorem branch_sd (branch : attr.children ≠ []) : (addAttribute payload built attr).sd = built.sd := by
  rw [add_branch branch]
  cases assigned payload attr with
  | none => rfl
  | some entry => exact assign_sd attr.key entry
def disclosed (attr : Attribute) : Bool := attr.children.isEmpty && attr.disclose

theorem added_sd : (addAttributes payload built attrs).sd = built.sd ++ (attrs.filter disclosed).map Attribute.key := by
  induction attrs generalizing built with
  | nil => simp [addAttributes]
  | cons head rest ih =>
    rw [addAttributes,ih]
    by_cases leaf : head.children = []
    · rw [add_leaf leaf]
      cases shown : head.disclose with
      | true => simp [disclosed,leaf,shown]
      | false => simp [disclosed,leaf,shown]
    · rw [branch_sd leaf,List.filter_cons_of_neg (by simp [disclosed,leaf])]

def Unnamed (own : List (String × Entry)) : Prop := ∀ entry ∈ own, ∀ keys, entry.2 ≠ .names keys

theorem unnamed_assign {key : String} {entry : Entry} (unnamed : Unnamed built.own)
    (frame : ∀ keys, entry ≠ .names keys) :
    Unnamed (built.assign key entry).own := by
  rw [Building.assign]
  split
  · exact unnamed
  · intro other there
    rcases JsObject.mem_put there with rfl | earlier
    · exact frame
    · exact unnamed other earlier
theorem finish_object (built : Building) : ∃ own, built.finish = .object own built.proto := by
  rw [Building.finish]
  split
  · exact ⟨_,rfl⟩
  · exact ⟨_,rfl⟩
theorem assigned_frame {entry : Entry} (given : assigned payload attr = some entry) : ∀ keys, entry ≠ .names keys := by
  intro keys same
  rw [assigned] at given
  split at given
  · rw [same] at given
    simp at given
  · obtain ⟨_,is⟩ := Option.ite_none_right_eq_some.mp given
    obtain ⟨own,shape⟩ :=
        finish_object (addAttributes (payload.bind fun data => data.read attr.key) .start attr.children)
    rw [buildDisclosureFrameFromTemplate,shape,same] at is
    cases is

theorem added_unnamed (unnamed : Unnamed built.own) : Unnamed (addAttributes payload built attrs).own := by
  induction attrs generalizing built with
  | nil => exact unnamed
  | cons head rest ih =>
    refine ih ?_
    by_cases leaf : head.children = []
    · rw [add_leaf leaf]
      split
      · exact unnamed
      · exact unnamed
    · rw [add_branch leaf]
      cases given : assigned payload head with
      | none => exact unnamed
      | some entry => exact unnamed_assign unnamed (assigned_frame given)

theorem finish_own :
    built.finish.own = if 0 < built.sd.length then JsObject.put "_sd" (.names built.sd) built.own else built.own := by
  rw [Building.finish]
  split <;> rfl

theorem namesOf_build :
    namesOf (buildDisclosureFrameFromTemplate attrs payload) = (attrs.filter disclosed).map Attribute.key := by
  have sd : (addAttributes payload .start attrs).sd = (attrs.filter disclosed).map Attribute.key := added_sd
  rw [← sd,namesOf,buildDisclosureFrameFromTemplate,finish_own]
  by_cases some_ : 0 < (addAttributes payload .start attrs).sd.length
  · rw [if_pos some_,JsObject.lookup_put,if_pos rfl]
  · have none_ : (addAttributes payload .start attrs).sd = [] :=
      List.length_eq_zero_iff.mp (Nat.eq_zero_of_not_pos some_)
    have unnamed : Unnamed (addAttributes payload .start attrs).own := added_unnamed fun _ there => nomatch there
    rw [if_neg some_,none_]
    split
    · next keys found =>
      obtain ⟨front,back,listed,_⟩ := List.lookup_eq_some_iff.mp found
      exact absurd rfl (unnamed ("_sd",.names keys) (by rw [listed]; simp) keys)
    · rfl

theorem lookup_assign {key other : String} {entry : Entry} : (built.assign key entry).own.lookup other =
    if other = key ∧ key ≠ "__proto__" then some entry else built.own.lookup other := by
  rw [Building.assign]
  by_cases proto : key = "__proto__"
  · rw [if_pos proto,if_neg fun asked => asked.2 proto]
  · rw [if_neg proto,JsObject.lookup_put]
    by_cases same : other = key <;> simp [same,proto]

variable (payload) in
/-- What is assigned as a property of the frame. -/
def property (attr : Attribute) : Option Entry := if attr.key = "__proto__" then none else assigned payload attr
theorem lookup_step {head : Attribute} (branch : attr.children ≠ []) (one : head.key = attr.key → head = attr) :
    (addAttribute payload built head).own.lookup attr.key =
      if head.key = attr.key then (property payload attr).or
      (built.own.lookup attr.key) else built.own.lookup attr.key := by
  by_cases same : head.key = attr.key
  · obtain rfl := one same
    rw [if_pos rfl,add_branch branch,property]
    cases assigned payload head with
    | none => simp
    | some entry =>
      rw [Option.map_some,Option.getD_some,lookup_assign]
      by_cases proto : head.key = "__proto__" <;> simp [proto]
  · rw [if_neg same]
    by_cases leaf : head.children = []
    · rw [add_leaf leaf]
      split <;> rfl
    · rw [add_branch leaf]
      cases assigned payload head with
      | none => rfl
      | some entry => rw [Option.map_some,Option.getD_some,lookup_assign,if_neg fun asked => same asked.1.symm]

theorem lookup_settled (branch : attr.children ≠ []) (one : ∀ other ∈ attrs, other.key = attr.key → other = attr)
    {rest : Option Entry} (settled : built.own.lookup attr.key = (property payload attr).or rest) :
    (addAttributes payload built attrs).own.lookup attr.key = (property payload attr).or rest := by
  induction attrs generalizing built with
  | nil => exact settled
  | cons head others ih =>
    refine ih (fun other there => one other (List.mem_cons_of_mem head there)) ?_
    rw [lookup_step branch (one head List.mem_cons_self),settled]
    split
    · cases property payload attr <;> rfl
    · rfl

section

variable (there : attr ∈ attrs) (branch : attr.children ≠ [])
  (one : ∀ other ∈ attrs, other.key = attr.key → other = attr)
include there branch one
theorem lookup_added :
    (addAttributes payload built attrs).own.lookup attr.key = (property payload attr).or
    (built.own.lookup attr.key) := by
  induction attrs generalizing built with
  | nil => cases there
  | cons head rest ih =>
    have others : ∀ other ∈ rest, other.key = attr.key → other = attr :=
        fun other listed => one other (List.mem_cons_of_mem head listed)
    have step : (addAttribute payload built head).own.lookup attr.key = _ :=
        lookup_step branch (one head List.mem_cons_self)
    rw [addAttributes]
    by_cases same : head.key = attr.key
    · rw [if_pos same] at step
      exact lookup_settled branch others step
    · rw [if_neg same] at step
      rcases List.mem_cons.mp there with rfl | later
      · exact absurd rfl same
      · rw [ih later others,step]

theorem entryOf_build :
    entryOf (buildDisclosureFrameFromTemplate attrs payload) attr.key =
      if attr.key ∈ reserved then none else assigned payload attr := by
  have entry : (addAttributes payload .start attrs).own.lookup attr.key = (property payload attr).or none :=
      lookup_added there branch one
  rw [entryOf,buildDisclosureFrameFromTemplate,finish_own]
  by_cases sd : attr.key = "_sd"
  · simp [sd,reserved]
  · have own : (if 0 < (addAttributes payload .start attrs).sd.length then
        JsObject.put "_sd" (.names (addAttributes payload .start attrs).sd) (addAttributes payload .start attrs).own
        else (addAttributes payload .start attrs).own).lookup attr.key = (addAttributes payload .start attrs).own.lookup
            attr.key := by
      split
      · rw [JsObject.lookup_put,if_neg sd]
      · rfl
    rw [if_neg sd,own,entry,Option.or_none,property]
    by_cases proto : attr.key = "__proto__" <;> simp [proto,sd,reserved]

end

variable {fields : List (String × Value)}

section

variable {frame other : DisclosureFrame} (names : namesOf other = namesOf frame)
  (entries : ∀ key, entryOf other key = entryOf frame key)
include names entries
theorem framed_alike (framed : Framed attrs fields frame) : Framed attrs fields other := by
  cases framed with
  | mk leaves strangers objects lists elements =>
    simp only [← names,← entries] at leaves strangers objects lists elements
    exact .mk leaves strangers objects lists elements
theorem framed_iff_of_alike : Framed attrs fields other ↔ Framed attrs fields frame :=
  ⟨framed_alike names.symm fun key => (entries key).symm,framed_alike names entries⟩
end

theorem framed_spread {frame : DisclosureFrame} : Framed attrs fields frame.spread ↔ Framed attrs fields frame :=
  framed_iff_of_alike rfl fun _ => rfl
theorem get_own {own : List (String × Entry)} {proto : Option Entry} {key : String} {entry : Entry}
    (found : own.lookup key = some entry) : (Entry.object own proto).get key = some entry := by
  cases proto with
  | none => rw [Entry.get,found]
  | some inherits => rw [Entry.get,found,Option.some_or]

theorem framed_hidden {frame : DisclosureFrame} (hidden : hasChildDisclosure frame = false) :
    Framed attrs fields frame ↔ Framed attrs fields noFrame := by
  obtain ⟨sd,others⟩ := Bool.or_eq_false_iff.mp hidden
  refine framed_iff_of_alike ?_ fun key => ?_
  · cases frame with
    | names keys => rfl
    | list frames => rfl
    | object own proto =>
      rw [namesOf]
      split
      · next keys found =>
        have got : (Entry.object own proto).get "_sd" = some (.names keys) := get_own found
        rw [got] at sd
        exact List.isEmpty_iff.mp (by simpa [Entry.hasLength] using sd)
      · rfl
  · rw [entryOf,entryOf]
    split
    · rfl
    · next claim =>
      refine List.lookup_eq_none_iff.mpr fun entry there => ?_
      have other := List.any_eq_false.mp others entry.1 (List.mem_map_of_mem there)
      have sd : entry.1 = "_sd" := by simpa using other
      exact bne_iff_ne.mpr (sd ▸ claim)

theorem framed_noFrame (attrs : List Attribute) (fields : List (String × Value)) :
    Framed attrs fields noFrame ↔ Blank attrs fields := by
  have none_ : ∀ key, entryOf noFrame key = none := by
    intro key
    rw [entryOf]
    split <;> rfl
  have each : ∀ attr ∈ attrs, ∀ inside, Framed attr.children inside ((entryOf noFrame attr.key).getD noFrame) ↔
      Blank attr.children inside := by
    intro attr listed inside
    rw [none_,Option.getD_none]
    exact framed_noFrame attr.children inside
  rw [framed_iff,blank_iff]
  constructor
  · rintro ⟨leaves,_,objects,lists,_⟩
    refine ⟨fun attr listed leaf there => ?_,fun attr listed branch inside found => ?_,
        fun attr listed branch items found => ?_⟩
    · exact Bool.eq_false_iff.mpr fun shown => List.not_mem_nil ((leaves attr listed leaf there).mpr shown)
    · exact (each attr listed inside).mp (objects attr listed branch inside found)
    · obtain ⟨frames,entry,_⟩ := lists attr listed branch items found
      rw [none_] at entry
      cases entry
  · rintro ⟨leaves,objects,lists⟩
    refine ⟨fun attr listed leaf there => ?_,fun key _ there => List.not_mem_nil there,
        fun attr listed branch inside found => ?_,
      fun attr listed branch items found => absurd found (lists attr listed branch items),
      fun attr listed branch items found => absurd found (lists attr listed branch items)⟩
    · rw [leaves attr listed leaf there]
      exact iff_of_false List.not_mem_nil Bool.false_ne_true
    · exact (each attr listed inside).mpr (objects attr listed branch inside found)
termination_by sizeOf attrs
decreasing_by exact children_smaller listed

def Given (fields : List (String × Value)) (payload : Option (Data realm)) : Prop :=
  payload = none ∨ payload = some (.value (.object fields))
theorem given_read (given : Given fields payload) {key : String} {v : Value} (found : fields.lookup key = some v) :
    payload = none ∧ (payload.bind fun data => data.read key) = none ∨
      payload.isNone = false ∧ (payload.bind fun data => data.read key) = some (.value v) := by
  rcases given with rfl | rfl
  · exact .inl ⟨rfl,rfl⟩
  · exact .inr ⟨rfl,read_field found⟩

theorem framed_assigned {inside : List (String × Value)} (given : Given fields payload)
    (found : fields.lookup attr.key = some (.object inside)) :
    Framed attr.children inside ((assigned payload attr).getD noFrame) ↔
      Framed attr.children inside
        (buildDisclosureFrameFromTemplate attr.children (payload.bind fun data => data.read attr.key)) := by
  have plain : (payload.bind fun data => data.read attr.key).bind Data.listLength = none := by
    rcases given_read given found with ⟨-,none_⟩ | ⟨-,some_⟩
    · rw [none_]
      rfl
    · rw [some_]
      rfl
  rw [assigned,plain]
  cases hidden : hasChildDisclosure
    (buildDisclosureFrameFromTemplate attr.children (payload.bind fun data => data.read attr.key)) with
  | true => simp [hidden]
  | false => simp [hidden,framed_hidden hidden]

theorem assigned_list {items : List Value} (found : fields.lookup attr.key = some (.list items))
    (given : payload = some (.value (.object fields))) :
    assigned payload attr = some (.list (List.replicate items.length
      (buildDisclosureFrameFromTemplate attr.children (none : Option (Data realm))).spread)) := by
  rw [assigned,given,Option.bind_some,read_field found]
  rfl
theorem assigned_none (frames : List Entry) : assigned (none : Option (Data realm)) attr ≠ some (.list frames) := by
  intro same
  rw [assigned] at same
  obtain ⟨_,is⟩ := Option.ite_none_right_eq_some.mp same
  obtain ⟨own,shape⟩ := finish_object (addAttributes (none : Option (Data realm)) .start attr.children)
  have object : buildDisclosureFrameFromTemplate attr.children (none : Option (Data realm)) = .object own _ := shape
  rw [Option.bind_none,object] at is
  cases is

theorem leaves_framed (follows : Follows attrs fields) (listed : attr ∈ attrs) (leaf : attr.children = [])
    (there : (fields.lookup attr.key).isSome = true) :
    attr.key ∈ namesOf (buildDisclosureFrameFromTemplate attrs payload) ↔ attr.disclose = true := by
  rw [namesOf_build,List.mem_map]
  constructor
  · rintro ⟨other,shown,same⟩
    obtain ⟨inside,discloses⟩ := List.mem_filter.mp shown
    obtain rfl := ((follows_iff _ _).mp follows).1 attr listed other inside same there
    exact (Bool.and_eq_true_iff.mp discloses).2
  · intro shown
    exact ⟨attr,List.mem_filter.mpr ⟨listed,by simp [disclosed,leaf,shown]⟩,rfl⟩

theorem strangers_framed {key : String} (stranger : ∀ attr ∈ attrs, attr.key ≠ key) :
    key ∉ namesOf (buildDisclosureFrameFromTemplate attrs payload) := by
  rw [namesOf_build]
  intro there
  obtain ⟨attr,shown,same⟩ := List.mem_map.mp there
  exact stranger attr (List.mem_of_mem_filter shown) same

theorem framed_build (attrs : List Attribute) (fields : List (String × Value)) (payload : Option (Data realm))
    (given : Given fields payload) (follows : Follows attrs fields) :
    Framed attrs fields (buildDisclosureFrameFromTemplate attrs payload) ↔ Clean payload.isNone attrs fields := by
  obtain ⟨one,shape,objects,elements⟩ := (follows_iff attrs fields).mp follows
  have entry : ∀ attr ∈ attrs, attr.children ≠ [] → ∀ v, fields.lookup attr.key = some v →
      entryOf (buildDisclosureFrameFromTemplate attrs payload) attr.key = if attr.key ∈ reserved then none else assigned
      payload attr := by
    intro attr listed branch v found
    exact entryOf_build listed branch fun other there same =>
        one attr listed other there same (Option.isSome_iff_exists.mpr ⟨v,found⟩)
  have object : ∀ attr ∈ attrs, attr.children ≠ [] → ∀ inside, fields.lookup attr.key = some (.object inside) →
      (Framed attr.children inside ((entryOf (buildDisclosureFrameFromTemplate attrs payload) attr.key).getD noFrame) ↔
        if attr.key ∈ reserved then Blank attr.children inside else Clean payload.isNone attr.children inside) := by
    intro attr listed branch inside found
    rw [entry attr listed branch _ found]
    split
    · exact framed_noFrame attr.children inside
    · rw [framed_assigned given found]
      have below := objects attr listed branch inside found
      rcases given_read given found with ⟨none_,read⟩ | ⟨some_,read⟩
      · rw [read,none_]
        exact framed_build attr.children inside none (.inl rfl) below
      · rw [read,some_]
        exact framed_build attr.children inside (some (.value (.object inside))) (.inr rfl) below
  have element : ∀ attr ∈ attrs, attr.children ≠ [] → ∀ items, fields.lookup attr.key = some (.list items) →
      ∀ inside, Value.object inside ∈ items →
        (Framed attr.children inside (buildDisclosureFrameFromTemplate attr.children (none : Option (Data realm))).spread ↔
          Clean true attr.children inside) := by
    intro attr listed branch items found inside there
    rw [framed_spread]
    exact framed_build attr.children inside none (.inl rfl) (elements attr listed branch items found inside there)
  have whole : payload.isNone = false → payload = some (.value (.object fields)) := by
    intro some_
    rcases given with rfl | same
    · cases some_
    · exact same
  rw [framed_iff,clean_iff]
  constructor
  · rintro ⟨-,-,nested,lists,inner⟩
    have listed_free : ∀ attr ∈ attrs, attr.children ≠ [] → attr.key ∉ reserved → ∀ items,
        fields.lookup attr.key = some (.list items) → payload.isNone = false := by
      intro attr listed branch free items found
      obtain ⟨frames,is,_⟩ := lists attr listed branch items found
      rw [entry attr listed branch _ found,if_neg free] at is
      cases payload with
      | none => exact absurd is (assigned_none frames)
      | some data => rfl
    refine ⟨fun attr listed branch kept => ⟨fun inside found => ?_,fun items found => ?_⟩,
      fun attr listed branch free inside found =>
      ?_,listed_free,fun attr listed branch free items found inside there => ?_⟩
    · have framed := (object attr listed branch inside found).mp (nested attr listed branch inside found)
      rwa [if_pos kept] at framed
    · obtain ⟨frames,is,_⟩ := lists attr listed branch items found
      rw [entry attr listed branch _ found,if_pos kept] at is
      cases is
    · have framed := (object attr listed branch inside found).mp (nested attr listed branch inside found)
      rwa [if_neg free] at framed
    · have is := entry attr listed branch _ found
      rw [if_neg free,assigned_list found (whole (listed_free attr listed branch free items found))] at is
      obtain ⟨i,bound,at_⟩ := List.mem_iff_getElem.mp there
      refine (element attr listed branch items found inside there).mp
        (inner attr listed branch items found _ is i inside _ (List.getElem?_eq_some_iff.mpr ⟨bound,at_⟩) ?_)
      rw [List.getElem?_replicate,if_pos bound]
  · rintro ⟨blank,nested,lists,inner⟩
    refine ⟨fun attr listed leaf there => leaves_framed follows listed leaf there,fun key stranger =>
        strangers_framed stranger,
      fun attr listed branch inside found => ?_,fun attr listed branch items found => ?_,
      fun attr listed branch items found frames is i inside frame at_ framed => ?_⟩
    · refine (object attr listed branch inside found).mpr ?_
      split
      · next kept => exact (blank attr listed branch kept).1 inside found
      · next free => exact nested attr listed branch free inside found
    · have free : attr.key ∉ reserved := fun kept => (blank attr listed branch kept).2 items found
      rw [entry attr listed branch _ found,if_neg free,assigned_list found (whole (lists attr listed branch free items found))]
      exact ⟨_,rfl,List.length_replicate⟩
    · have free : attr.key ∉ reserved := fun kept => (blank attr listed branch kept).2 items found
      rw [entry attr listed branch _ found,if_neg free,assigned_list found (whole (lists attr listed branch free items found))] at is
      obtain rfl := Entry.list.inj (Option.some.inj is)
      obtain rfl := List.eq_of_mem_replicate (List.mem_of_getElem? framed)
      have there := List.mem_of_getElem? at_
      exact (element attr listed branch items found inside there).mpr
          (inner attr listed branch free items found inside there)
termination_by sizeOf attrs
decreasing_by all_goals exact children_smaller listed

variable (realm) in
/-- The frame fits the payload exactly when no list lies inside an element of a list, and what has a
reserved name needs no frame. -/
theorem frame_exact_iff {attributes : List Attribute} {payload : List (String × Value)}
    (follows : Follows attributes payload) :
    Framed attributes payload
    (buildDisclosureFrameFromTemplate attributes (some (.value (.object payload) : Data realm))) ↔
      Clean false attributes payload :=
  framed_build attributes payload _ (.inr rfl) follows
end

def leaf (key : String) : Attribute := .mk key false true []
def branch (key : String) (child : Attribute) : Attribute := .mk key false false [child]

section
variable {key : String} {child : Attribute} {fields : List (String × Value)} {items : List Value} {inElement : Bool}

theorem leaf_follows : Follows [leaf key] fields := by
  refine .mk (fun attr listed other there _ _ => ?_) (fun attr listed branch => ?_) (fun attr listed branch => ?_)
    (fun attr listed branch => ?_)
  · rw [List.mem_singleton.mp listed,List.mem_singleton.mp there]
  all_goals exact absurd (List.mem_singleton.mp listed ▸ rfl) branch
theorem leaf_clean : Clean inElement [leaf key] fields := by
  refine .mk (fun attr listed branch => ?_) (fun attr listed branch => ?_) (fun attr listed branch => ?_)
      (fun attr listed branch => ?_)
  all_goals exact absurd (List.mem_singleton.mp listed ▸ rfl) branch
theorem list_found {attr : Attribute} {v : Value} (listed : attr ∈ [branch key child])
    (found : [(key,Value.list items)].lookup attr.key = some v) : attr = branch key child ∧ v = .list items := by
  obtain rfl := List.mem_singleton.mp listed
  refine ⟨rfl,?_⟩
  rw [branch,Attribute.key,List.lookup_cons_self] at found
  exact (Option.some.inj found).symm

theorem list_follows (objects : ∀ item ∈ items, ∃ inside, item = .object inside ∧ Follows [child] inside) :
    Follows [branch key child] [(key,.list items)] := by
  refine .mk (fun attr listed other there _ _ => ?_) (fun attr listed _ v found => ?_)
      (fun attr listed _ inside found => ?_)
    (fun attr listed _ others found inside there => ?_)
  · rw [List.mem_singleton.mp listed,List.mem_singleton.mp there]
  · obtain ⟨rfl,rfl⟩ := list_found listed found
    refine .inr ⟨items,rfl,fun item there => ?_⟩
    obtain ⟨inside,same,_⟩ := objects item there
    exact ⟨inside,same⟩
  · cases (list_found listed found).2
  · obtain ⟨rfl,same⟩ := list_found listed found
    obtain ⟨fields,alike,follows⟩ := objects _ (Value.list.inj same ▸ there)
    exact Value.object.inj alike ▸ follows

theorem list_clean (usual : key ∉ reserved) (each : ∀ inside, Value.object inside ∈ items → Clean true [child] inside) :
    Clean false [branch key child] [(key,.list items)] := by
  refine .mk (fun attr listed _ kept => ?_) (fun attr listed _ _ inside found => ?_) (fun _ _ _ _ _ _ => rfl)
    (fun attr listed _ _ others found inside there => ?_)
  · rw [List.mem_singleton.mp listed] at kept
    exact absurd kept usual
  · cases (list_found listed found).2
  · obtain ⟨rfl,same⟩ := list_found listed found
    exact each inside (Value.list.inj same ▸ there)

end

def street : List (String × Value) := [("street",.text "Norzin Lam")]
def addresses : List (String × Value) := [("addresses",.list [.object street])]
theorem frame_exact_addresses : Framed [branch "addresses" (leaf "street")] addresses
    (buildDisclosureFrameFromTemplate [branch "addresses" (leaf "street")] (some (.value (.object addresses) : Data bare))) := by
  refine (frame_exact_iff bare (list_follows fun item there => ?_)).mpr (list_clean (by decide) fun _ _ => leaf_clean)
  exact ⟨street,List.mem_singleton.mp there,leaf_follows⟩

/-- A list inside an element of a list gets no list of frames, and what is in it is always disclosed. -/
theorem inner_list_unframed :
    let attributes := [branch "departments" (branch "members" (leaf "street"))]
    let departments := [("departments",Value.list [.object [("members",.list [.object street])]])]
    Follows attributes departments ∧
      ¬Framed attributes departments
      (buildDisclosureFrameFromTemplate attributes (some (.value (.object departments) : Data bare))) := by
  intro attributes departments
  have follows : Follows attributes departments := by
    refine list_follows fun item there => ⟨_,List.mem_singleton.mp there,list_follows fun inner inside => ?_⟩
    exact ⟨street,List.mem_singleton.mp inside,leaf_follows⟩
  refine ⟨follows,fun framed => ?_⟩
  have clean := (framed_build attributes departments _ (.inr rfl) follows).mp framed
  obtain ⟨-,-,-,elements⟩ := (clean_iff _ _ _).mp clean
  have inner := elements _ List.mem_cons_self (by simp [branch,Attribute.children])
      (by decide) _ rfl _ List.mem_cons_self
  obtain ⟨-,-,lists,-⟩ := (clean_iff _ _ _).mp inner
  cases lists _ List.mem_cons_self (by simp [branch,Attribute.children]) (by decide) _ rfl

end Ngotag.DisclosureFrames
