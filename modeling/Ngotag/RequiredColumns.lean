import Ngotag.CsvRows

/-!
The check of the required columns of an uploaded CSV file. The values it looks at are those of the
objects the rows were made into, and an empty cell is not among them: no file is rejected.
-/
namespace Ngotag.RequiredColumns
open JsHeap JsHeap.Js CsvRows

structure Attribute where
  attributeName : String
  isRequired : Bool
inductive HeaderError where
  /-- `ResponseMessages.bulkIssuance.error.emailColumn` -/
  | emailColumn
  /-- `ResponseMessages.bulkIssuance.error.attributeNumber` -/
  | attributeNumber
  /-- `ResponseMessages.bulkIssuance.error.mismatchedAttributes` -/
  | mismatchedAttributes
  deriving DecidableEq
def validateFileHeaders (fileHeader schemaAttributes : List String) : Except HeaderError Unit :=
  if fileHeader.head? ≠ some emailColumn then .error .emailColumn
  else
    let fileSchemaHeader := fileHeader.tail
    if schemaAttributes.length ≠ fileSchemaHeader.length then .error .attributeNumber
    else if (fileSchemaHeader.filter fun value => value ∉ schemaAttributes) ≠ [] then .error .mismatchedAttributes
    else .ok ()
def requiredText (item : Attribute) (i : Nat) : String :=
  "Attribute " ++ item.attributeName ++ " is required at row " ++ toString (i + 1)
/-- The values of the objects with the headers that stand at their places. -/
def validateFileData (fileData : List (List Value)) (attributesArray : List Attribute) (fileHeader : List String) :
    Except (List String) Unit :=
  let filedata := fileData.map fun item => item.zipIdx.map fun element => (element.1,fileHeader[element.2]?)
  let errorFileData := filedata.zipIdx.flatMap fun attr => attr.1.flatMap fun eachElement => attributesArray.filterMap
      fun eachItem =>
    if some eachItem.attributeName = eachElement.2 ∧ eachItem.isRequired ∧
        !eachElement.1.truthy then some (requiredText eachItem attr.2)
    else none
  if errorFileData ≠ [] then .error errorFileData else .ok ()

section
variable (realm : Realm)

/-- `Object.values(value)` -/
def valuesOf (value : Value) : Js (List Value) := do
  let names ← keys value
  mapEach (get realm value) names
/-- `nestedObject.map(Object.values)` -/
def fileDataOf (depth : Nat) (rows : List Row) : Js (List (List Value)) := do
  let nestedObject ← mapEach (unflattenCsvRow realm depth) rows
  mapEach (valuesOf realm) nestedObject
end

/-- The cell of a required attribute is empty. -/
def Missing (row : Row) (item : Attribute) : Prop :=
  item.isRequired = true ∧ (row.lookup item.attributeName).getD "" = ""
/-- A file whose headers passed is rejected for the cells that are missing. -/
structure Right (rows : List Row) (attributesArray : List Attribute) (outcome : Except (List String) Unit) : Prop where
  rejects_iff : (∃ errors, outcome = .error errors) ↔ ∃ row ∈ rows, ∃ item ∈ attributesArray, Missing row item
  named : ∀ errors, outcome = .error errors → ∀ e ∈ errors, ∃ i row item, rows[i]? = some row ∧ item ∈ attributesArray ∧
    Missing row item ∧ e = requiredText item i
/-- The object is there and is no result. -/
def Away (results : List Nat) (h : Heap) (r : Nat) : Prop := r < h.length ∧ r ∉ results
def Free (results : List Nat) (h : Heap) (value : Value) : Prop := ∀ r, value = .ref r → Away results h r

/-- Nothing leads to a result, and what a result has is truthy. -/
structure Kept (realm : Realm) (results : List Nat) (h : Heap) : Prop where
  prototypes : ∀ p ∈ [realm.objectPrototype,realm.arrayPrototype,realm.stringPrototype,realm.numberPrototype,
      realm.booleanPrototype],
    Away results h p
  proto : ∀ (r : Nat) (o : Object) p, h[r]? = some o → o.proto = some p → Away results h p
  stored : ∀ (r : Nat) (o : Object) k v w, h[r]? = some o → (k,.data v w) ∈ o.props → Free results h v
  full : ∀ r ∈ results, ∃ o, h[r]? = some o ∧ o.length = none ∧ ∀ k P, (k,P) ∈ o.props → ∃ v w, P = .data v w ∧
      v.truthy = true
/-- The program keeps the heap, which only grows, and returns what it should. -/
structure Keeps (realm : Realm) (results : List Nat) {A : Type} (m : Js A) (h : Heap) (Q : A → Heap → Prop) : Prop where
  kept : Kept realm results (m h).2
  grows : h.length ≤ (m h).2.length
  returns : ∀ a, (m h).1 = .ok a → Q a (m h).2

section
variable {realm : Realm} {results : List Nat} {h : Heap} {A B : Type}

variable {after : Heap}
theorem Free.mono {value : Value} (free : Free results h value) (grows : h.length ≤ after.length) :
    Free results after value := fun r is => ⟨Nat.lt_of_lt_of_le (free r is).1 grows,(free r is).2⟩
theorem free_text (s : String) : Free results h (.text s) := fun _ is => nomatch is

theorem get_free (kept : Kept realm results h) {value w : Value} {key : String}
    (got : JsHeap.get realm h value key = .ok w) :
    Free results h w := by
  have proto : Free results h (prototypeOf realm h value) := by
    intro r is
    unfold prototypeOf at is
    split at is
    · split at is
      · cases is
      · next o at_ =>
        split at is
        · cases is
        · next p same =>
          cases is
          exact kept.proto _ _ _ at_ same
    · cases is
      exact kept.prototypes _ (by simp)
    · cases is
      exact kept.prototypes _ (by simp)
    · cases is
      exact kept.prototypes _ (by simp)
    · cases is
    · cases is
  have read {fuel r : Nat} (same : readProperty realm h value (findFrom h fuel r key) = .ok w) : Free results h w := by
    unfold readProperty at same
    split at same
    · cases same
      exact fun _ is => nomatch is
    · next v writable found =>
      cases same
      obtain ⟨r,o,at_,own⟩ := findFrom_own found
      rcases own_data own with there | ⟨n,rfl⟩
      · exact kept.stored r o _ _ _ at_ there
      · exact fun _ is => nomatch is
    · cases same
      exact proto
    · cases same
  unfold JsHeap.get at got
  split at got
  · cases got
  · cases got
  · exact read got
  · split at got
    · cases got
      exact fun _ is => nomatch is
    · split at got
      · cases got
        exact free_text _
      · exact read got
  · exact read got
  · exact read got

theorem Kept.replace (kept : Kept realm results h) {r : Nat} {o o' : Object} (at_ : h[r]? = some o)
    (proto : ∀ p, o'.proto = some p → Away results h p) (stored : ∀ k v w, (k,.data v w) ∈ o'.props → Free results h v)
    (full : r ∈ results → o'.length = none ∧ ∀ k P, (k,P) ∈ o'.props → ∃ v w, P = .data v w ∧ v.truthy = true) :
    Kept realm results (h.set r o') := by
  have inside : r < h.length := (List.getElem?_eq_some_iff.mp at_).1
  have size : (h.set r o').length = h.length := List.length_set
  have away {p : Nat} (before : Away results h p) : Away results (h.set r o') p := ⟨size ▸ before.1,before.2⟩
  have cases_ {s : Nat} {o₁ : Object} (found : (h.set r o')[s]? = some o₁) : o₁ = o' ∨ h[s]? = some o₁ := by
    by_cases same : r = s
    · rw [← same,List.getElem?_set_self inside] at found
      exact .inl (Option.some.inj found).symm
    · rw [List.getElem?_set_ne same] at found
      exact .inr found
  refine ⟨fun p there => away (kept.prototypes p there),fun s o₁ p found is => ?_,fun s o₁ k v w found there q is => ?_,
      fun s there => ?_⟩
  · rcases cases_ found with rfl | before
    · exact away (proto p is)
    · exact away (kept.proto s o₁ p before is)
  · rcases cases_ found with rfl | before
    · exact away (stored k v w there q is)
    · exact away (kept.stored s o₁ k v w before there q is)
  · by_cases same : r = s
    · subst same
      exact ⟨o',List.getElem?_set_self inside,full there⟩
    · obtain ⟨o₁,found,rest⟩ := kept.full s there
      exact ⟨o₁,(List.getElem?_set_ne same).trans found,rest⟩

variable {value assigned : Value}
theorem set_kept (kept : Kept realm results h) {key : String} (free : Free results h assigned)
    (truthy : ∀ r ∈ results, value = .ref r → assigned.truthy = true)
    (done : JsHeap.set realm h value key assigned = .ok after) :
    Kept realm results after ∧ after.length = h.length := by
  rcases set_cases done with rfl | ⟨r,o,o',rfl,at_,rfl,how⟩
  · exact ⟨kept,rfl⟩
  refine ⟨?_,List.length_set⟩
  have proto := kept.proto r o
  have stored := kept.stored r o
  have full (there : r ∈ results) : o.length = none ∧ ∀ k P, (k,P) ∈ o.props → ∃ v w, P = .data v w ∧
      v.truthy = true := by
    obtain ⟨o₁,found,rest⟩ := kept.full r there
    obtain rfl := Option.some.inj (found.symm.trans at_)
    exact rest
  cases how with
  | written =>
    refine kept.replace at_ (fun p is => proto p at_ is) (fun k v w there => ?_) fun there => ⟨?_,fun k P member => ?_⟩
    · rcases JsObject.mem_put there with same | before
      · obtain ⟨rfl,-⟩ := Property.data.inj (Prod.mk.inj same).2
        exact free
      · exact stored k v w at_ before
    · rw [Object.write,(full there).1]
      rfl
    · rcases JsObject.mem_put member with same | before
      · obtain ⟨-,rfl⟩ := Prod.mk.inj same
        exact ⟨_,_,rfl,truthy r there rfl⟩
      · exact (full there).2 k P before
  | resized n array =>
    refine kept.replace at_ (fun p is => proto p at_ is) (fun k v w there => ?_) fun there => ?_
    · exact stored k v w at_ (List.mem_of_mem_filter there)
    · rw [(full there).1] at array
      cases array
  | inherits p is =>
    exact kept.replace at_ (fun q same => Option.some.inj same ▸ free p is) (fun k v w => stored k v w at_) full
  | orphaned => exact kept.replace at_ (fun _ none_ => nomatch none_) (fun k v w => stored k v w at_) full

theorem Kept.append (kept : Kept realm results h) {p : Nat} {o : Object} {more : List Nat} (proto : o.proto = some p)
    (away : Away results h p) (empty : o.props = []) (new : more = [] ∨ more = [h.length] ∧ o.length = none) :
    Kept realm (more ++ results) (h ++ [o]) := by
  have fresh {q : Nat} (before : Away results h q) : Away (more ++ results) (h ++ [o]) q := by
    refine ⟨Nat.lt_of_lt_of_le before.1 (by simp),fun there => ?_⟩
    rcases List.mem_append.mp there with there | there
    · rcases new with rfl | ⟨rfl,-⟩
      · cases there
      · exact Nat.ne_of_lt before.1 (List.mem_singleton.mp there)
    · exact before.2 there
  have cases_ {s : Nat} {o₁ : Object} (found : (h ++ [o])[s]? = some o₁) : o₁ = o ∨ h[s]? = some o₁ := by
    rw [List.getElem?_append] at found
    split at found
    · exact .inr found
    · have only := List.mem_of_getElem? found
      exact .inl (List.mem_singleton.mp only)
  refine ⟨fun q there => fresh (kept.prototypes q there),fun s o₁ q found is => ?_,fun s o₁ k v w found there q is =>
      ?_,fun s there => ?_⟩
  · rcases cases_ found with rfl | before
    · rw [proto] at is
      exact Option.some.inj is ▸ fresh away
    · exact fresh (kept.proto s o₁ q before is)
  · rcases cases_ found with rfl | before
    · rw [empty] at there
      cases there
    · exact fresh (kept.stored s o₁ k v w before there q is)
  · rcases List.mem_append.mp there with there | there
    · rcases new with rfl | ⟨rfl,array⟩
      · cases there
      · obtain rfl := List.mem_singleton.mp there
        refine ⟨o,by simp,array,fun k P member => ?_⟩
        rw [empty] at member
        cases member
    · obtain ⟨o₁,found,rest⟩ := kept.full s there
      exact ⟨o₁,(List.getElem?_append_left (List.getElem?_eq_some_iff.mp found).1).trans found,rest⟩

section
variable {Q : A → Heap → Prop} {R : B → Heap → Prop} {m : Js A} {f : A → Js B}

theorem Keeps.done (kept : Kept realm results h) {a : A} (right : Q a h) : Keeps realm results (pure a : Js A) h Q :=
  ⟨kept,Nat.le_refl _,fun _ same => Except.ok.inj same ▸ right⟩
theorem Keeps.throw (kept : Kept realm results h) (e : Failure) : Keeps realm results (Js.throw e : Js A) h Q :=
  ⟨kept,Nat.le_refl _,fun _ same => nomatch same⟩
theorem Keeps.reads (kept : Kept realm results h) {read : Heap → Except Failure A}
    (right : ∀ a, read h = .ok a → Q a h) :
    Keeps realm results (Js.reads read) h Q := ⟨kept,Nat.le_refl _,right⟩

theorem Keeps.bind (first : Keeps realm results m h Q)
    (rest : ∀ a after, Kept realm results after → h.length ≤ after.length → Q a after → Keeps realm results (f a) after R) :
    Keeps realm results (m >>= f) h R := by
  obtain ⟨kept,grows,returns⟩ := first
  cases is : m h with
  | mk outcome after =>
    rw [is] at kept grows returns
    cases outcome with
    | error e =>
      have run : (m >>= f) h = (.error e,after) := by rw [bind_eq,is]
      exact ⟨run ▸ kept,run ▸ grows,fun b same => by rw [run] at same; cases same⟩
    | ok a =>
      obtain ⟨kept',grows',returns'⟩ := rest a after kept grows (returns a rfl)
      have same : (m >>= f) h = f a after := by rw [bind_eq,is]
      rw [← same] at kept' grows' returns'
      exact ⟨kept',Nat.le_trans grows grows',returns'⟩

end

/-- Whatever it is given, the program keeps the heap. -/
def Harmless (realm : Realm) (results : List Nat) {A : Type} (m : Js A) : Prop :=
  ∀ h, Kept realm results h → Keeps realm results m h fun _ _ => True
theorem Harmless.bind {m : Js A} {f : A → Js B} (first : Harmless realm results m)
    (rest : ∀ a, Harmless realm results (f a)) :
    Harmless realm results (m >>= f) := fun h kept => (first h kept).bind fun a after kept _ _ => rest a after kept
theorem Harmless.done (a : A) : Harmless realm results (pure a : Js A) := fun _ kept => .done kept trivial
theorem Harmless.throw (e : Failure) : Harmless realm results (Js.throw e : Js A) := fun _ kept => .throw kept e
theorem Harmless.reads (read : Heap → Except Failure A) : Harmless realm results (Js.reads read) :=
  fun _ kept => .reads kept fun _ _ => trivial
theorem harmless_ite {c : Prop} [Decidable c] {m n : Js A} (yes : c → Harmless realm results m)
    (no : ¬c → Harmless realm results n) :
    Harmless realm results (if c then m else n) := by
  split
  · next holds => exact yes holds
  · next fails => exact no fails

section

variable (kept : Kept realm results h)
include kept
theorem get_keeps (value : Value) (key : String) :
    Keeps realm results (Js.get realm value key) h fun w after => Free results after w :=
  .reads kept fun _ got => get_free kept got

theorem set_keeps {key : String} (free : Free results h assigned)
    (truthy : ∀ r ∈ results, value = .ref r → assigned.truthy = true) :
    Keeps realm results (Js.set realm value key assigned) h fun _ _ => True := by
  cases is : JsHeap.set realm h value key assigned with
  | error e =>
    have run : Js.set realm value key assigned h = (.error e,h) := by rw [Js.set,Js.updates,is]
    exact ⟨run ▸ kept,run ▸ Nat.le_refl _,fun _ _ => trivial⟩
  | ok after =>
    have run : Js.set realm value key assigned h = (.ok (),after) := by rw [Js.set,Js.updates,is]
    obtain ⟨kept',size⟩ := set_kept kept free truthy is
    exact ⟨run ▸ kept',run ▸ Nat.le_of_eq size.symm,fun _ _ => trivial⟩

theorem set_free (key : String) (away : Free results h value)
    (free : Free results h assigned) : Keeps realm results (Js.set realm value key assigned) h fun _ _ => True :=
  set_keeps kept free fun r there is => absurd there (away r is).2
theorem results_inside : h.length ∉ results := fun there =>
  have ⟨_,found,_⟩ := kept.full _ there
  Nat.lt_irrefl _ (List.getElem?_eq_some_iff.mp found).1
theorem alloc_keeps {o : Object} {p : Nat} (proto : o.proto = some p) (away : Away results h p)
    (empty : o.props = []) : Keeps realm results (alloc o) h fun v after => Free results after v ∧ v.truthy = true := by
  refine ⟨kept.append proto away empty (.inl rfl),by simp [alloc],fun v same => ?_⟩
  obtain rfl := Except.ok.inj same
  refine ⟨fun r is => ?_,rfl⟩
  obtain rfl := Value.ref.inj is
  exact ⟨by simp [alloc],results_inside kept⟩
theorem newObject_keeps :
    Keeps realm results (newObject realm) h fun v after => Free results after v ∧ v.truthy = true :=
  alloc_keeps kept rfl (kept.prototypes _ (by simp)) rfl
theorem newArray_keeps :
    Keeps realm results (newArray realm) h fun v after => Free results after v ∧ v.truthy = true :=
  alloc_keeps kept rfl (kept.prototypes _ (by simp)) rfl
end

theorem each_harmless {items : List A} {body : A → Js Unit} (step : ∀ item ∈ items, Harmless realm results (body item)) :
    Harmless realm results (each items body) := by
  induction items with
  | nil => exact .done ()
  | cons item rest ih =>
    exact .bind (step item List.mem_cons_self) fun _ => ih fun other there => step other (List.mem_cons_of_mem _ there)
theorem each_keeps {I : Heap → Prop} (stays : ∀ before after : Heap, before.length ≤ after.length → I before → I after)
    {items : List A}
    {body : A → Js Unit}
    (step : ∀ item ∈ items, ∀ h, Kept realm results h → I h → Keeps realm results (body item) h fun _ _ => True)
    (kept : Kept realm results h) (holds : I h) : Keeps realm results (each items body) h fun _ _ => True := by
  induction items generalizing h with
  | nil => exact .done kept trivial
  | cons item rest ih =>
    refine (step item List.mem_cons_self h kept holds).bind fun _ after kept grows _ => ?_
    exact ih (fun other there => step other (List.mem_cons_of_mem _ there)) kept (stays _ _ grows holds)
theorem isFilledObject_harmless (value : Value) : Harmless realm results (isFilledObject value) :=
  .bind (.bind (.reads _) fun _ => .done _) fun _ => .done _
theorem object_harmless (value : Value) : Harmless realm results (object value) := .reads _
theorem get_harmless (value : Value) (key : String) : Harmless realm results (Js.get realm value key) := .reads _

theorem delete_harmless (value : Value) (key : String) : Harmless realm results (Js.delete value key) := by
  intro h kept
  refine ⟨?_,?_,fun _ _ => trivial⟩
  all_goals
    simp only [Js.delete,Js.updates]
    split
  · split
    · next o at_ =>
      refine kept.replace at_ (fun p is => kept.proto _ o p at_ is) (fun k v w there => ?_) fun there => ?_
      · exact kept.stored _ o k v w at_ (List.mem_of_mem_filter there)
      · obtain ⟨o₁,found,array,truthy⟩ := kept.full _ there
        obtain rfl := Option.some.inj (found.symm.trans at_)
        exact ⟨array,fun k P member => truthy k P (List.mem_of_mem_filter member)⟩
    · exact kept
  · exact kept
  · split
    · exact Nat.le_of_eq List.length_set.symm
    · exact Nat.le_refl _
  · exact Nat.le_refl _

theorem forEach_keeps {I : Heap → Prop}
    (stays : ∀ before after : Heap, before.length ≤ after.length → I before → I after) (array : Value)
    {body : Value → Nat → Js Unit}
    (step : ∀ item i h, Kept realm results h → I h → Keeps realm results (body item i) h fun _ _ => True)
    (kept : Kept realm results h) (holds : I h) : Keeps realm results (forEach realm array body) h fun _ _ => True := by
  refine (object_harmless array h kept).bind fun o after kept grows _ => ?_
  refine each_keeps stays (fun i _ h kept holds => ?_) kept (stays _ _ grows holds)
  refine (Harmless.reads _ _ kept).bind fun there after kept grows _ => ?_
  split
  · exact (get_harmless _ _ _ kept).bind fun item last kept grows' _ =>
      step item i last kept (stays _ _ grows' (stays _ _ grows holds))
  · exact .done kept trivial
theorem always (before after : Heap) (_ : before.length ≤ after.length) (_ : True) : True := trivial
theorem forEach_harmless (array : Value) {body : Value → Nat → Js Unit}
    (step : ∀ item i, Harmless realm results (body item i)) :
    Harmless realm results (forEach realm array body) := fun _ kept =>
  forEach_keeps always array (fun item i h kept _ => step item i h kept) kept trivial
theorem free_stays (value : Value) (before after : Heap) (grows : before.length ≤ after.length)
    (free : Free results before value) :
    Free results after value := free.mono grows

section
variable {merge : Value → Js Unit} (merges : ∀ value, Harmless realm results (merge value))
include merges

theorem mergeItems_harmless (array : Value) : Harmless realm results (mergeItems realm merge array) :=
  forEach_harmless array fun item _ => .bind (isFilledObject_harmless item) fun _ => harmless_ite (fun _ => merges item)
      fun _ => .done ()

omit merges in
theorem addToItems_keeps (kept : Kept realm results h) (value : Value) {array : Value} (free : Free results h array)
    (names : List String) :
    Keeps realm results (addToItems realm value array names) h fun _ _ => True := by
  unfold addToItems
  split
  · refine forEach_keeps (free_stays array) array (fun item i h kept free => ?_) kept free
    refine Keeps.bind (Q := fun _ _ => True) ?_ fun _ after kept _ _ => ?_
    · refine (isFilledObject_harmless item h kept).bind fun filled after kept grows _ => ?_
      split
      · exact .done kept trivial
      · exact (newObject_keeps kept).bind fun made last kept grows' fresh =>
          set_free kept _ (free.mono (Nat.le_trans grows grows')) fresh.1
    · refine each_harmless (fun k _ h kept => ?_) after kept
      refine (get_keeps kept _ _).bind fun item after kept _ place => ?_
      exact (get_keeps kept _ _).bind fun member last kept grows own => set_free kept _ (place.mono grows) own
  · exact .done kept trivial

theorem toArray_keeps (kept : Kept realm results h) (value : Value) (names : List String) :
    Keeps realm results (toArray realm merge value names) h fun v after => Free results after v ∧ v.truthy = true := by
  refine (newArray_keeps kept).bind fun tempArray after kept _ fresh => ?_
  refine Keeps.bind (Q := fun _ _ => True) ?_ fun _ last kept grows _ => ?_
  · refine each_keeps (free_stays tempArray) (fun k _ h kept free => ?_) kept fresh.1
    refine (get_keeps kept _ _).bind fun member after kept grows own => ?_
    refine (set_free kept _ (free.mono grows) own).bind fun _ after kept _ _ => ?_
    refine (get_harmless _ _ _ kept).bind fun member after kept _ _ => ?_
    refine (isFilledObject_harmless member _ kept).bind fun filled after kept _ _ => ?_
    exact harmless_ite (fun _ => merges member) (fun _ => .done ()) after kept
  · refine (addToItems_keeps kept value (fresh.1.mono grows) _).bind fun _ end_ kept grows' _ => ?_
    exact .done kept ⟨fresh.1.mono (Nat.le_trans grows grows'),fresh.2⟩

theorem convertNumericKeys_harmless (obj : Value) (key : String) :
    Harmless realm results (convertNumericKeys realm merge obj key) := by
  refine .bind (.bind (.reads _) fun _ => .done _) fun own => harmless_ite (fun _ => ?_) fun _ => .done ()
  refine .bind (get_harmless _ _) fun value => .bind (isFilledObject_harmless value) fun filled =>
      harmless_ite (fun _ => ?_) fun _ => .done ()
  refine .bind (.bind (.reads _) fun _ => .done _) fun array =>
      harmless_ite (fun _ => mergeItems_harmless merges value) fun _ => ?_
  refine .bind (.bind (.reads _) fun _ => .done _) fun names => harmless_ite (fun _ h kept => ?_) fun _ => merges value
  exact (toArray_keeps merges kept value names).bind fun made after kept _ fresh => set_keeps kept fresh.1
      fun _ _ _ => fresh.2

omit merges in
theorem groupNumbered_harmless (item : Value) : Harmless realm results (groupNumbered realm item) := by
  refine .bind (.bind (.reads _) fun _ => .done _) fun names => each_harmless fun group _ h kept => ?_
  refine (newArray_keeps kept).bind fun tempArray after kept _ fresh => ?_
  refine Keeps.bind (Q := fun _ _ => True) ?_ fun _ last kept grows _ => ?_
  · refine each_keeps (free_stays tempArray) (fun p _ h kept free => ?_) kept fresh.1
    refine (get_keeps kept _ _).bind fun member after kept grows own => ?_
    refine (set_free kept _ (free.mono grows) own).bind fun _ last kept _ _ => delete_harmless _ _ last kept
  · exact set_keeps kept (fresh.1.mono grows) fun _ _ _ => fresh.2
theorem convertSuffixes_harmless (obj : Value) (key : String) :
    Harmless realm results (convertSuffixes realm merge obj key) := by
  refine .bind (.bind (.reads _) fun _ => .done _) fun own => harmless_ite (fun _ => ?_) fun _ => .done ()
  refine .bind (get_harmless _ _) fun value => .bind (.bind (.reads _) fun _ => .done _) fun array =>
      harmless_ite (fun _ => ?_) fun _ => .done ()
  refine forEach_harmless value fun item _ => .bind (isFilledObject_harmless item) fun _ => harmless_ite (fun _ => ?_)
      fun _ => .done ()
  exact .bind (groupNumbered_harmless item) fun _ => merges item

end

theorem mergeArrayObjects_harmless (depth : Nat) (obj : Value) :
    Harmless realm results (mergeArrayObjects realm depth obj) := by
  induction depth generalizing obj with
  | zero => exact .throw _
  | succ depth ih =>
    refine .bind (isFilledObject_harmless obj) fun _ => harmless_ite (fun _ => ?_) fun _ => .done ()
    refine .bind (.bind (.reads _) fun _ => .done _) fun names =>
        .bind (each_harmless fun key _ => convertNumericKeys_harmless ih obj key) fun _ => ?_
    exact .bind (.bind (.reads _) fun _ => .done _) fun names => each_harmless fun key _ =>
        convertSuffixes_harmless ih obj key
theorem atMost_harmless (value : Value) (n : Int) : Harmless realm results (atMost realm value n) :=
  .bind (.reads _) fun _ => .done _
theorem ensure_keeps (kept : Kept realm results h) (obj : Value) (part : String) {fresh : Js Value}
    (makes : ∀ h, Kept realm results h → Keeps realm results fresh h fun v after => Free results after v ∧
    v.truthy = true) :
    Keeps realm results (ensure realm obj part fresh) h fun _ _ => True := by
  refine (get_harmless obj part h kept).bind fun found after kept _ _ => ?_
  split
  · exact .done kept trivial
  · exact (makes after kept).bind fun made last kept _ fresh => set_keeps kept fresh.1 fun _ _ _ => fresh.2

theorem push_keeps (kept : Kept realm results h) {list item : Value} (away : Free results h list)
    (free : Free results h item) :
    Keeps realm results (push realm list item) h fun _ _ => True := by
  refine (get_harmless _ _ h kept).bind fun method after kept grows _ => ?_
  refine (object_harmless method after kept).bind fun o after kept grows' _ => ?_
  split
  · refine (object_harmless list after kept).bind fun o last kept grows'' _ => ?_
    have more := Nat.le_trans grows (Nat.le_trans grows' grows'')
    split
    · split
      · exact set_free kept _ (away.mono more) (free.mono more)
      · exact .throw kept _
    · exact .throw kept _
  · exact .throw kept _

theorem fill_harmless (obj : Value) (part : String) (index : Option Int) :
    Harmless realm results (fill realm (Js.get realm obj part) index) := by
  have rounds (index : Int) (n : Nat) : Harmless realm results (fillTo realm (Js.get realm obj part) index n) := by
    induction n with
    | zero => exact .done ()
    | succ n ih =>
      refine .bind (get_harmless _ _) fun _ => .bind (get_harmless _ _) fun length => .bind (atMost_harmless _ _)
          fun short => ?_
      refine harmless_ite (fun _ h kept => ?_) fun _ => .done ()
      refine (get_keeps kept _ _).bind fun list after kept _ away => ?_
      refine (newObject_keeps kept).bind fun item last kept grows fresh => ?_
      exact (push_keeps kept (away.mono grows) fresh.1).bind fun _ end_ kept _ _ => ih end_ kept
  cases index with
  | none =>
    exact .bind (get_harmless _ _) fun _ => .bind (get_harmless _ _) fun _ => .bind (atMost_harmless _ _) fun _ => .done ()
  | some index => exact rounds index _

theorem processRemainingParts_keeps (kept : Kept realm results h) {value current : Value} (free : Free results h value)
    (away : Free results h current) (parts : List String) :
    Keeps realm results (processRemainingParts realm value current parts) h fun _ _ => True := by
  induction current, parts using processRemainingParts.induct generalizing h with
  | case1 current => exact .done kept trivial
  | case2 current part => exact set_free kept _ away free
  | case3 current part next rest numeric ih =>
    rw [processRemainingParts,if_pos numeric]
    refine (ensure_keeps kept current part fun _ => newArray_keeps).bind fun _ ensured kept grows _ => ?_
    refine (fill_harmless _ _ _ ensured kept).bind fun _ filled kept grows₁ _ => ?_
    refine (get_harmless _ _ _ kept).bind fun list after kept grows₂ _ => ?_
    refine (get_keeps kept _ _).bind fun item last kept grows₃ away => ih item kept (free.mono ?_) away
    exact Nat.le_trans (Nat.le_trans grows grows₁) (Nat.le_trans grows₂ grows₃)
  | case4 current part next rest named ih =>
    rw [processRemainingParts,if_neg named]
    refine (ensure_keeps kept current part fun _ => newObject_keeps).bind fun _ after kept grows _ => ?_
    exact (get_keeps kept _ _).bind fun item last kept grows' away =>
        ih item kept (free.mono (Nat.le_trans grows grows')) away

theorem assignNested_keeps (kept : Kept realm results h) {value : Value} (free : Free results h value)
    (truthy : value.truthy = true)
    (current : Value) (parts : List String) :
    Keeps realm results (assignNested realm value current parts) h fun _ _ => True := by
  induction current, parts using assignNested.induct generalizing h with
  | case1 current => exact .done kept trivial
  | case2 current part => exact set_keeps kept free fun _ _ _ => truthy
  | case3 current part next rest ih =>
    refine (ensure_keeps kept current part fun _ => newObject_keeps).bind fun _ after kept grows _ => ?_
    exact (get_keeps kept _ _).bind fun item last kept grows' _ => ih item kept (free.mono (Nat.le_trans grows grows'))
theorem addToGroup_harmless (groupedKeys : Value) (groupKey key : String) :
    Harmless realm results (addToGroup realm groupedKeys groupKey key) := by
  intro h kept
  refine (ensure_keeps kept groupedKeys groupKey fun _ => newArray_keeps).bind fun _ after kept _ _ => ?_
  exact (get_keeps kept _ _).bind fun list last kept _ away => push_keeps kept away (free_text key)
theorem readCell_harmless (result groupedKeys : Value) (cell : String × String) :
    Harmless realm results (readCell realm result groupedKeys cell) := by
  refine harmless_ite (fun _ => .done ()) fun filled => ?_
  have truthy : (Value.text cell.2).truthy = true := decide_eq_true filled
  refine harmless_ite (fun _ h kept => set_keeps kept (free_text _) fun _ _ _ => truthy) fun _ => ?_
  refine harmless_ite (fun _ => addToGroup_harmless _ _ _) fun _ => harmless_ite (fun _ => addToGroup_harmless _ _ _)
      fun _ h kept => ?_
  exact assignNested_keeps kept (free_text _) truthy result _
theorem cellOf_free (row : Row) (key : String) : Free results h (cellOf row key) := by
  intro r is
  unfold cellOf at is
  split at is <;> cases is
theorem eachKey_harmless (keys : Value) {body : String → Js Unit} (step : ∀ key, Harmless realm results (body key)) :
    Harmless realm results (eachKey realm keys body) := by
  refine .bind (object_harmless keys) fun _ => each_harmless fun i _ => .bind (get_harmless _ _) fun key => ?_
  split
  · exact step _
  · exact .throw _
theorem readGroup_harmless (row : Row) (result groupedKeys : Value) (grpKey : String) :
    Harmless realm results (readGroup realm row result groupedKeys grpKey) := by
  refine .bind (.bind (.reads _) fun _ => .done _) fun own => harmless_ite (fun _ => ?_) fun _ => .done ()
  refine .bind (get_harmless _ _) fun keys => harmless_ite (fun _ => ?_) fun _ => ?_
  · refine .bind (fun h kept => ensure_keeps kept result _ fun _ => newArray_keeps) fun _ =>
      .bind (fill_harmless _ _ _) fun _ => ?_
    refine eachKey_harmless keys fun key => .bind (get_harmless _ _) fun list h kept => ?_
    exact (get_keeps kept _ _).bind fun item after kept _ away =>
        processRemainingParts_keeps kept (cellOf_free row key) away _
  · refine .bind (fun h kept => ensure_keeps kept result _ fun _ => newObject_keeps) fun _ => eachKey_harmless keys
      fun key h kept => ?_
    exact (get_keeps kept _ _).bind fun item after kept _ away =>
        processRemainingParts_keeps kept (cellOf_free row key) away _

theorem unflattenCsvRow_keeps (kept : Kept realm results h) (depth : Nat) (row : Row) :
    Keeps realm (h.length :: results) (unflattenCsvRow realm depth row) h fun v _ => v = .ref h.length := by
  have begun : Kept realm (h.length :: results) (newObject realm h).2 := by
    have away := kept.prototypes realm.objectPrototype (by simp)
    exact kept.append rfl away rfl (.inr ⟨rfl,rfl⟩)
  have rest : Keeps realm (h.length :: results) (do
      let groupedKeys ← newObject realm
      each row (readCell realm (.ref h.length) groupedKeys)
      each (← keys groupedKeys) (readGroup realm row (.ref h.length) groupedKeys)
      mergeArrayObjects realm depth (.ref h.length)
      return Value.ref h.length : Js Value) (newObject realm h).2 fun v _ => v = .ref h.length := by
    refine (newObject_keeps begun).bind fun groupedKeys _ kept _ _ => ?_
    refine (each_harmless (fun cell _ => readCell_harmless _ _ cell) _ kept).bind fun _ _ kept _ _ => ?_
    refine Keeps.bind (Q := fun _ _ => True) (Harmless.bind (.reads _) (fun _ => .done _) _ kept)
        fun names _ kept _ _ => ?_
    refine (each_harmless (fun key _ => readGroup_harmless row _ _ key) _ kept).bind fun _ _ kept _ _ => ?_
    exact (mergeArrayObjects_harmless depth _ _ kept).bind fun _ _ kept _ _ => .done kept rfl
  have larger : h.length ≤ (newObject realm h).2.length := by simp [newObject,alloc]
  exact ⟨rest.kept,Nat.le_trans larger rest.grows,rest.returns⟩

theorem rows_kept {depth : Nat} {rows : List Row} (kept : Kept realm results h) {nestedObject : List Value}
    (done : mapEach (unflattenCsvRow realm depth) rows h = (.ok nestedObject,after)) :
    ∃ all, Kept realm all after ∧ (∀ r ∈ results, r ∈ all) ∧ ∀ v ∈ nestedObject, ∃ r ∈ all, v = .ref r := by
  induction rows generalizing results h nestedObject with
  | nil =>
    obtain ⟨made,rfl⟩ := Prod.mk.inj done
    obtain rfl := Except.ok.inj made
    exact ⟨results,kept,fun _ there => there,fun _ there => absurd there List.not_mem_nil⟩
  | cons row rest ih =>
    obtain ⟨v,mid,first,done⟩ := bind_ok done
    obtain ⟨vs,last,others,done⟩ := bind_ok done
    obtain ⟨made,rfl⟩ := Prod.mk.inj done
    obtain rfl := Except.ok.inj made
    have row_ := unflattenCsvRow_keeps kept depth row
    have is := row_.returns v (by rw [first])
    have kept := row_.kept
    rw [first] at kept
    obtain ⟨all,kept,more,each⟩ := ih kept others
    refine ⟨all,kept,fun r there => more r (List.mem_cons_of_mem _ there),List.forall_mem_cons.mpr ⟨?_,each⟩⟩
    exact ⟨h.length,more _ List.mem_cons_self,is⟩

theorem values_truthy (kept : Kept realm results h) {value : Value} (there : ∃ r ∈ results, value = .ref r)
    {values : List Value}
    (done : valuesOf realm value h = (.ok values,after)) : after = h ∧ ∀ v ∈ values, v.truthy = true := by
  obtain ⟨r,there,rfl⟩ := there
  obtain ⟨o,at_,plain,truthy⟩ := kept.full r there
  obtain ⟨names,mid,read,done⟩ := bind_ok done
  obtain ⟨rfl,rfl⟩ : o.keys = names ∧ h = mid := by
    have same : keys (.ref r) h = (.ok o.keys,h) := by
      have object_ : object (.ref r) h = (.ok (some o),h) := congrArg (fun found => (Except.ok found,h)) at_
      exact congrArg (fun found : Option Object => (Except.ok ((found.map Object.keys).getD []),h)) at_
    obtain ⟨first,second⟩ := Prod.mk.inj (same.symm.trans read)
    exact ⟨Except.ok.inj first,second⟩
  have each : ∀ (names : List String) values, (∀ key ∈ names, key ∈ JsObject.keys o.props) →
      mapEach (Js.get realm (.ref r)) names h = (.ok values,after) → after = h ∧ ∀ v ∈ values, v.truthy = true := by
    intro names
    induction names with
    | nil =>
      intro values _ done
      obtain ⟨made,rfl⟩ := Prod.mk.inj done
      obtain rfl := Except.ok.inj made
      exact ⟨rfl,fun _ there => absurd there List.not_mem_nil⟩
    | cons key rest ih =>
      intro values own done
      obtain ⟨v,mid,first,done⟩ := bind_ok done
      obtain ⟨vs,last,others,done⟩ := bind_ok done
      obtain ⟨made,rfl⟩ := Prod.mk.inj done
      obtain rfl := Except.ok.inj made
      obtain ⟨got,rfl⟩ := Prod.mk.inj first
      obtain ⟨same,others⟩ := ih vs (fun other there => own other (List.mem_cons_of_mem _ there)) others
      refine ⟨same,List.forall_mem_cons.mpr ⟨?_,others⟩⟩
      obtain ⟨P,found⟩ : ∃ P, o.props.lookup key = some P :=
          Option.isSome_iff_exists.mp (JsObject.mem_keys.mp (own key List.mem_cons_self))
      obtain ⟨w,writable,rfl,filled⟩ := truthy key P (Grouping.mem_of_lookup found)
      have own_ : o.own key = some (.data w writable) := by simp only [Object.own,plain,found]
      have read : readProperty realm h (.ref r) (find h r key) = .ok v := got
      rw [find_of_own at_ own_] at read
      exact Except.ok.inj read ▸ filled
  exact each _ _ (fun key there => own_of_keys there) done

theorem fileDataOf_truthy (kept : Kept realm results h) {depth : Nat} {rows : List Row} {fileData : List (List Value)}
    (done : fileDataOf realm depth rows h = (.ok fileData,after)) : ∀ item ∈ fileData, ∀ v ∈ item, v.truthy = true := by
  obtain ⟨nestedObject,mid,made,run⟩ := bind_ok done
  obtain ⟨all,kept,-,each⟩ := rows_kept kept made
  clear made done
  induction nestedObject generalizing fileData after with
  | nil =>
    obtain ⟨same,-⟩ := Prod.mk.inj run
    obtain rfl := Except.ok.inj same
    exact fun _ there => absurd there List.not_mem_nil
  | cons value rest ih =>
    obtain ⟨values,next,first,done⟩ := bind_ok run
    obtain ⟨others,last,later,done⟩ := bind_ok done
    obtain ⟨same,-⟩ := Prod.mk.inj done
    obtain rfl := Except.ok.inj same
    obtain ⟨rfl,truthy⟩ := values_truthy kept (each value List.mem_cons_self) first
    exact List.forall_mem_cons.mpr ⟨truthy,ih later fun v there => each v (List.mem_cons_of_mem _ there)⟩

end

theorem validateFileData_ok {fileData : List (List Value)} (truthy : ∀ item ∈ fileData, ∀ v ∈ item, v.truthy = true)
    (attributesArray : List Attribute) (fileHeader : List String) :
    validateFileData fileData attributesArray fileHeader = .ok () := by
  refine if_neg (not_not.mpr (List.flatMap_eq_nil_iff.mpr fun attr there => ?_))
  obtain ⟨item,listed,is⟩ := List.mem_map.mp (List.fst_mem_of_mem_zipIdx there)
  refine List.flatMap_eq_nil_iff.mpr fun element member => List.filterMap_eq_nil_iff.mpr fun eachItem _ => ?_
  rw [← is] at member
  obtain ⟨p,placed,rfl⟩ := List.mem_map.mp member
  have filled := truthy item listed p.1 (List.fst_mem_of_mem_zipIdx placed)
  exact if_neg fun all => by simp [filled] at all

/-- The check is right when no required cell is empty: it rejects no file. -/
theorem required_iff {realm : Realm} {h after : Heap} (kept : Kept realm [] h) {depth : Nat} {rows : List Row}
    {fileData : List (List Value)}
    (done : fileDataOf realm depth rows h = (.ok fileData,after)) (attributesArray : List Attribute)
    (fileHeader : List String) :
    Right rows attributesArray (validateFileData fileData attributesArray fileHeader) ↔
      ∀ row ∈ rows, ∀ item ∈ attributesArray, ¬Missing row item := by
  rw [validateFileData_ok (fileDataOf_truthy kept done)]
  constructor
  · intro right row there item listed missing
    obtain ⟨errors,same⟩ := right.rejects_iff.mpr ⟨row,there,item,listed,missing⟩
    cases same
  · intro full
    refine ⟨⟨fun ⟨_,same⟩ => (nomatch same),fun ⟨row,there,item,listed,missing⟩ => absurd missing (full row there item listed)⟩,?_⟩
    intro errors same
    cases same

/-- The prototypes, and `push`. -/
def builtins : Heap :=
  let method : Object :=
      { proto := some 0, props := [], length := none, callable := true, extensible := true, immutable := false }
  let prototype : Object := { method with callable := false }
  [{ prototype with proto := none, props := [("__proto__",.proto)], immutable := true },
    { prototype with props := [("push",.data (.ref 2) true)], length := some 0 },method,prototype,prototype,prototype]
def realm : Realm where
  objectPrototype := 0
  arrayPrototype := 1
  stringPrototype := 3
  numberPrototype := 4
  booleanPrototype := 5
  primitive _ _ := .ok (.text "[object Object]")

theorem builtins_kept : Kept realm [] builtins := by
  have inside : ∀ o ∈ builtins, (∀ p, o.proto = some p → p < builtins.length) ∧ ∀ k v w, (k,.data v w) ∈ o.props →
      v = .ref 2 := by
    simp [builtins]
  have away {p : Nat} (there : p < builtins.length) : Away [] builtins p := ⟨there,List.not_mem_nil⟩
  refine ⟨fun p there => away ?_,fun r o p at_ is => away ((inside o (List.mem_of_getElem? at_)).1 p is),?_,
      fun r there => absurd there List.not_mem_nil⟩
  · revert p
    decide
  · intro r o k v w at_ there q is
    obtain rfl := (inside o (List.mem_of_getElem? at_)).2 k v w there
    obtain rfl := Value.ref.inj is
    exact away (by decide)

def columns : List Attribute :=
    [{ attributeName := "name", isRequired := true },{ attributeName := "phone", isRequired := false }]
def header : List String := ["email_identifier","name","phone"]

/-- The row has a name and no phone. -/
theorem right_named : Right [[("email_identifier","karma@dk.bt"),("name","Karma"),("phone","")]] columns
    (validateFileData [[.text "karma@dk.bt",.text "Karma"]] columns header) := by
  have done : (fileDataOf realm 2 [[("email_identifier","karma@dk.bt"),("name","Karma"),("phone","")]] builtins).1 =
      .ok [[.text "karma@dk.bt",.text "Karma"]] := by decide
  refine (required_iff builtins_kept (Prod.ext done rfl) columns header).mpr fun row there item listed missing => ?_
  obtain rfl := List.mem_singleton.mp there
  simp [columns] at listed
  rcases listed with rfl | rfl
  · exact absurd missing.2 (by decide)
  · exact absurd missing.1 (by decide)

/-- A row without the required name is not rejected. -/
theorem nameless_accepted : validateFileHeaders header (columns.map Attribute.attributeName) = .ok () ∧
    (fileDataOf realm 2 [[("email_identifier","karma@dk.bt"),("name",""),("phone","17000000")]] builtins).1 =
      .ok [[.text "karma@dk.bt",.text "17000000"]] ∧
    ¬ Right [[("email_identifier","karma@dk.bt"),("name",""),("phone","17000000")]] columns
      (validateFileData [[.text "karma@dk.bt",.text "17000000"]] columns header) := by
  refine ⟨by decide,by decide,fun right => ?_⟩
  have missing : Missing [("email_identifier","karma@dk.bt"),("name",""),("phone","17000000")] ⟨"name",true⟩ := by
    constructor <;> decide
  obtain ⟨errors,rejected⟩ := right.rejects_iff.mpr ⟨_,List.mem_singleton_self _,_,List.mem_cons_self,missing⟩
  have accepted : validateFileData [[.text "karma@dk.bt",.text "17000000"]] columns header = .ok () := by decide
  rw [accepted] at rejected
  cases rejected

end Ngotag.RequiredColumns
