import Mathlib.Data.List.Perm.Basic
import Mathlib.Data.List.Nodup

/-!
The own properties of a JavaScript object, in order, and what an assignment does
to them. An object into which a list of properties is assigned one after the
other has one property for each of them exactly when the keys are different and
none is `__proto__` (`keys_collect_perm`).
-/
namespace Ngotag.JsObject

/-- A string by its truth value: an empty one is as good as none. -/
def truthy (text : Option String) : Option String := text.filter (· ≠ "")
theorem truthy_some {text : String} (filled : text ≠ "") : truthy (some text) = some text := by
  simp [truthy,filled]

variable {V : Type}
def keys (o : List (String × V)) : List String := o.map Prod.fst
/-- The property is overwritten where it is, or comes last. -/
def put (key : String) (value : V) : List (String × V) → List (String × V)
  | [] => [(key,value)]
  | (k,v) :: rest => if k = key then (key,value) :: rest else (k,v) :: put key value rest
/-- `o[key] = value`. The prototype is not a property of its own. -/
def assign (o : List (String × V)) (key : String) (value : V) : List (String × V) :=
  if key = "__proto__" then o else put key value o
/-- The properties, those that have a value, are assigned one after the other. -/
def collect (o : List (String × V)) (entries : List (String × Option V)) : List (String × V) :=
  entries.foldl (fun o entry => match entry.2 with | some value => assign o entry.1 value | none => o) o
/-- What every object inherits from `Object.prototype`. -/
def inherited : List String :=
  ["constructor","__defineGetter__","__defineSetter__","hasOwnProperty","__lookupGetter__","__lookupSetter__",
    "isPrototypeOf","propertyIsEnumerable","toString","valueOf","__proto__","toLocaleString"]
/-- `o[key]`: nothing, or a value, which is none of `V` when it is inherited. -/
def read (o : List (String × V)) (key : String) : Option (Option V) :=
  match o.lookup key with
  | some value => some (some value)
  | none => if key ∈ inherited then some none else none

section
variable {o : List (String × V)} {key other : String} {value : V} {entries : List (String × Option V)}

theorem put_fresh (fresh : key ∉ keys o) : put key value o = o ++ [(key,value)] := by
  induction o with
  | nil => rfl
  | cons entry rest ih =>
    have different : entry.1 ≠ key := fun same => fresh (same ▸ List.mem_cons_self)
    have later : key ∉ keys rest := fun there => fresh (List.mem_cons_of_mem _ there)
    simp [put,different,ih later]

theorem lookup_put : (put key value o).lookup other = if other = key then some value else o.lookup other := by
  induction o with
  | nil => by_cases same : other = key <;> simp [put,same]
  | cons entry rest ih =>
    obtain ⟨k,v⟩ := entry
    rw [put]
    by_cases same : k = key
    · subst same
      rw [if_pos rfl,List.lookup_cons,List.lookup_cons]
      by_cases asked : other = k
      · simp [asked]
      · simp [asked,beq_false_of_ne asked]
    · rw [if_neg same,List.lookup_cons,List.lookup_cons,ih]
      by_cases asked : other = k
      · subst asked
        simp [same]
      · simp [beq_false_of_ne asked]

theorem mem_put {entry : String × V} (there : entry ∈ put key value o) :
    entry = (key,value) ∨ entry ∈ o := by
  induction o with
  | nil => exact .inl (List.mem_singleton.mp there)
  | cons head rest ih =>
    rw [put] at there
    split at there
    · exact (List.mem_cons.mp there).imp_right (List.mem_cons_of_mem head)
    · rcases List.mem_cons.mp there with rfl | later
      · exact .inr List.mem_cons_self
      · exact (ih later).imp_right (List.mem_cons_of_mem head)

theorem mem_keys : key ∈ keys o ↔ (o.lookup key).isSome = true := by
  induction o with
  | nil => simp [keys]
  | cons head rest ih =>
    rw [keys,List.map_cons,List.mem_cons,List.lookup_cons]
    by_cases same : key = head.1
    · simp [same]
    · rw [keys] at ih
      simp [same,ih,beq_false_of_ne same]

theorem keys_put : keys (put key value o) = if key ∈ keys o then keys o else keys o ++ [key] := by
  induction o with
  | nil => simp [put,keys]
  | cons entry rest ih =>
    by_cases same : entry.1 = key
    · simp [put,keys,same]
    · have cons : keys (put key value (entry :: rest)) = entry.1 :: keys (put key value rest) := by
        simp [put,same,keys]
      have there : key ∈ keys (entry :: rest) ↔ key ∈ keys rest := by
        simp [keys,Ne.symm same]
      rw [cons,ih]
      simp only [there]
      split <;> rfl

theorem nodup_put (distinct : (keys o).Nodup) : (keys (put key value o)).Nodup := by
  rw [keys_put]
  split
  · exact distinct
  · next fresh =>
    exact List.nodup_append.mpr ⟨distinct,List.nodup_singleton _,by rintro _ there _ (_ | ⟨_,⟨⟩⟩) rfl; exact fresh there⟩

theorem nodup_collect (distinct : (keys o).Nodup) : (keys (collect o entries)).Nodup := by
  induction entries generalizing o with
  | nil => exact distinct
  | cons entry rest ih =>
    refine ih ?_
    rcases entry with ⟨key,_ | value⟩
    · exact distinct
    · change (keys (assign o key value)).Nodup
      unfold assign
      split
      · exact distinct
      · exact nodup_put distinct

theorem mem_collect (there : key ∈ keys (collect o entries)) :
    key ∈ keys o ∨ key ≠ "__proto__" ∧ ∃ value, (key,some value) ∈ entries := by
  induction entries generalizing o with
  | nil => exact .inl there
  | cons entry rest ih =>
    rcases ih there with before | ⟨usual,value,later⟩
    · rcases entry with ⟨k,_ | v⟩
      · exact .inl before
      · change key ∈ keys (assign o k v) at before
        unfold assign at before
        split at before
        · exact .inl before
        · next usual =>
          rw [keys_put] at before
          split at before
          · exact .inl before
          · rcases List.mem_append.mp before with before | now
            · exact .inl before
            · obtain rfl := List.mem_singleton.mp now
              exact .inr ⟨usual,v,List.mem_cons_self⟩
    · exact .inr ⟨usual,value,List.mem_cons_of_mem _ later⟩

end

def given (o : List (String × V)) : List (String × Option V) := o.map fun entry => (entry.1,some entry.2)

theorem collect_given {o properties : List (String × V)} (distinct : (keys o ++ keys properties).Nodup)
    (usual : "__proto__" ∉ keys properties) : collect o (given properties) = o ++ properties := by
  induction properties generalizing o with
  | nil => simp [given,collect]
  | cons entry rest ih =>
    obtain ⟨key,value⟩ := entry
    have fresh : key ∉ keys o := fun there => (List.nodup_append.mp distinct).2.2 key there key List.mem_cons_self rfl
    have named : key ≠ "__proto__" := by
      rintro rfl
      exact usual List.mem_cons_self
    have step : assign o key value = o ++ [(key,value)] := by
      rw [assign,if_neg named,put_fresh fresh]
    change collect (assign o key value) (given rest) = _
    rw [step,ih]
    · simp
    · simpa [keys] using distinct
    · exact fun there => usual (List.mem_cons_of_mem _ there)

/-- The object has one property for each of the list exactly when all of them have a value,
    their keys are different, and none is `__proto__`. -/
theorem keys_collect_perm {entries : List (String × Option V)} :
    (keys (collect [] entries)).Perm (entries.map Prod.fst) ↔
      ∃ properties, entries = given properties ∧ (keys properties).Nodup ∧ "__proto__" ∉ keys properties := by
  constructor
  · intro perm
    have distinct : (entries.map Prod.fst).Nodup := perm.nodup_iff.mp (nodup_collect List.nodup_nil)
    have assigned : ∀ key ∈ entries.map Prod.fst, key ≠ "__proto__" ∧ ∃ value, (key,some value) ∈ entries := by
      intro key there
      rcases mem_collect (perm.mem_iff.mpr there) with none_ | found
      · cases none_
      · exact found
    have each : ∀ entry ∈ entries, ∃ value, entry = (entry.1,some value) := by
      intro entry there
      obtain ⟨-,value,there'⟩ := assigned entry.1 (List.mem_map_of_mem there)
      exact ⟨value,List.inj_on_of_nodup_map distinct there there' rfl⟩
    obtain ⟨properties,rfl⟩ : ∃ properties, given properties = entries := by
      clear perm distinct assigned
      induction entries with
      | nil => exact ⟨[],rfl⟩
      | cons entry rest ih =>
        obtain ⟨value,same⟩ := each entry List.mem_cons_self
        obtain ⟨properties,rfl⟩ := ih fun other there => each other (List.mem_cons_of_mem _ there)
        exact ⟨(entry.1,value) :: properties,by rw [same]; rfl⟩
    have names : (given properties).map Prod.fst = keys properties := by simp [given,keys,Function.comp_def]
    rw [names] at distinct assigned
    exact ⟨properties,rfl,distinct,fun there => (assigned _ there).1 rfl⟩
  · rintro ⟨properties,rfl,distinct,usual⟩
    rw [collect_given (by simpa [keys] using distinct) usual]
    simp [given,keys,Function.comp_def]

end Ngotag.JsObject
