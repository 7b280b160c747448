import Ngotag.JsObject
import Std.Data.String.ToNat
import Mathlib.Data.List.Forall2
import Mathlib.Data.List.Induction
import Mathlib.Algebra.Ring.Nat

/-!
The payload of an Indy proof request. One pass over the attributes makes the requested ones, and puts the
predicates into an object beside them. The bound of a predicate is the number that is written where it is
a whole one that a double has, with its digits before the point.
-/
namespace Ngotag.IndyRequests
open JsObject

inductive JsNumber where
  | NaN
  | finite (n : Int)
  | infinite (negative : Bool)
def decimal (digits : List Char) : Nat := digits.foldl (fun n c => 10 * n + (c.toNat - 48)) 0
/-- What the last of the 53 bits of a double counts. -/
def unit (n : Nat) : Nat := 2 ^ (n.log2 - 52)
/-- The nearest number with 53 bits, and of two the even one. -/
def round (n : Nat) : Nat :=
  unit n * if unit n < 2 * (n % unit n) ∨ unit n = 2 * (n % unit n) ∧
      n / unit n % 2 = 1 then n / unit n + 1 else n / unit n
def toNumber (negative : Bool) (n : Nat) : JsNumber :=
  if 2 ^ 1024 ≤ round n then .infinite negative else .finite (if negative then -round n else round n)
/-- Whether there is a minus, and the text without its sign. -/
def unsigned : List Char → Bool × List Char
  | '-' :: rest => (true,rest)
  | '+' :: rest => (false,rest)
  | rest => (false,rest)
/-- `parseInt(text)`, where the text has no blank and no `0x` at its start. -/
def parseInt (text : String) : JsNumber :=
  let (negative,rest) := unsigned text.toList
  let digits := rest.takeWhile Char.isDigit
  if digits = [] then .NaN else toNumber negative (decimal digits)

/-- What `IsNumberString` accepts: `^[+-]?([0-9]*[.])?[0-9]+$`. -/
structure NumberString where
  sign : List Char
  whole : List Char
  fraction : Option (List Char)
  signed : sign ∈ [[],['+'],['-']]
  digits : ∀ c ∈ whole ++ fraction.getD [], c.isDigit = true
  given : fraction.getD whole ≠ []
inductive Names where
  | attributeName (name : String)
  | attributeNames (names : List String)
  deriving DecidableEq

/-- An attribute that the DTO accepts, with a name or a list of names. -/
structure ProofRequestAttribute where
  names : Names
  schemaId : Option String
  credDefId : Option String
  condition : Option String
  value : Option NumberString
  named : names ≠ .attributeName "" ∧ names ≠ .attributeNames [] ∧ ∀ all, names = .attributeNames all → "" ∉ all
  ids : schemaId ≠ some "" ∧ credDefId ≠ some ""
  conditional : condition ≠ some "" ∧ condition.isSome = value.isSome

structure Restriction where
  cred_def_id : Option String
  schema_id : Option String
/-- With `name` or `names`. -/
structure RequestedAttribute where
  names : Names
  restrictions : List Restriction
structure RequestedPredicate where
  p_type : Option String
  name : Names
  p_value : JsNumber
  restrictions : List Restriction
/-- An attribute whose value is `undefined` is not sent. -/
structure Payload where
  requestedAttributes : List (String × Option RequestedAttribute)
  requestedPredicates : List (String × RequestedPredicate)
inductive Failure where
  | proofNotSend

section
variable (value : NumberString) (attr : ProofRequestAttribute)

def NumberString.text : String := String.ofList (value.sign ++ (value.whole ++ (value.fraction.map ('.' :: ·)).getD []))
def ProofRequestAttribute.restrictions : List Restriction := [⟨attr.credDefId.filter (· ≠ ""),attr.schemaId⟩]
def ProofRequestAttribute.requested : RequestedAttribute := ⟨attr.names,attr.restrictions⟩
def ProofRequestAttribute.predicate : RequestedPredicate where
  p_type := attr.condition
  name := attr.names
  p_value := (attr.value.map fun value => parseInt value.text).getD .NaN
  restrictions := attr.restrictions
def referent (index : Nat) : String := "additionalProp" ++ toString (index + 1)
/-- The callback: the entry, and the predicates after it. -/
def visit (index : Nat) (requestedPredicates : List (String × RequestedPredicate)) :
    (String × Option RequestedAttribute) × List (String × RequestedPredicate) :=
  let attributeReferent := referent index
  if (attr.condition.filter (· ≠ "")).isNone ∧ attr.value.isNone then
    ((attributeReferent,some attr.requested),requestedPredicates)
  else ((attributeReferent,none),assign requestedPredicates attributeReferent attr.predicate)

end

/-- `attributes.map(..)` from an index on. -/
def visits : List ProofRequestAttribute → Nat → List (String × RequestedPredicate) →
    List (String × Option RequestedAttribute) × List (String × RequestedPredicate)
  | [],_,requestedPredicates => ([],requestedPredicates)
  | attr :: rest,index,requestedPredicates =>
    let first := visit attr index requestedPredicates
    let later := visits rest (index + 1) first.2
    (first.1 :: later.1,later.2)
def proofRequestPayload : Option (List ProofRequestAttribute) → Except Failure Payload
  | none => .error .proofNotSend
  | some attributes =>
    let visited := visits attributes 0 []
    .ok ⟨collect [] (given visited.1),visited.2⟩
def NumberString.Equals (value : NumberString) : JsNumber → Prop
  | .finite n =>
    let scale := 10 ^ (value.fraction.getD []).length
    n * scale = (if value.sign = ['-'] then -1 else 1) *
        ((decimal value.whole * scale + decimal (value.fraction.getD []) : Nat) : Int)
  | _ => False
structure Bounds (attr : ProofRequestAttribute) (predicate : RequestedPredicate) : Prop where
  p_type : predicate.p_type = attr.condition
  name : predicate.name = attr.names
  restrictions : predicate.restrictions = [⟨attr.credDefId,attr.schemaId⟩]
  bound : ∃ value, attr.value = some value ∧ value.Equals predicate.p_value

/-- Each attribute is asked for once, in its place, and nothing else is. -/
structure Right (attributes : List ProofRequestAttribute) (payload : Payload) : Prop where
  plain : payload.requestedAttributes.filterMap Prod.snd = (attributes.filter (·.condition.isNone)).map fun attr =>
    ⟨attr.names,[⟨attr.credDefId,attr.schemaId⟩]⟩
  conditional : List.Forall₂ Bounds (attributes.filter (·.condition.isSome)) (payload.requestedPredicates.map Prod.snd)
/-- A whole number that a double has, with its digits before the point. -/
structure NumberString.Exact (value : NumberString) : Prop where
  whole : value.whole ≠ []
  fraction : decimal (value.fraction.getD []) = 0
  double : unit (decimal value.whole) ∣ decimal value.whole ∧ decimal value.whole < 2 ^ 1024

section
variable {n : Nat} {value : NumberString} {attr : ProofRequestAttribute}

theorem round_eq_iff : round n = n ↔ unit n ∣ n := by
  have positive : 0 < unit n := Nat.two_pow_pos _
  constructor
  · intro same
    exact ⟨_,same.symm⟩
  · intro divides
    rw [round,Nat.mod_eq_zero_of_dvd divides,if_neg (by omega)]
    exact Nat.mul_div_cancel' divides

theorem decimal_lt {digits : List Char} (all : ∀ c ∈ digits, c.isDigit = true) :
    decimal digits < 10 ^ digits.length := by
  induction digits using List.reverseRecOn with
  | nil => decide
  | append_singleton digits c ih =>
    have last : c.toNat ≤ 57 := by
      have digit := all c (by simp)
      simp only [Char.isDigit,ge_iff_le,Bool.and_eq_true,decide_eq_true_eq] at digit
      exact digit.2
    have before := ih fun d there => all d (List.mem_append_left _ there)
    rw [decimal,List.foldl_append,List.length_append,Nat.pow_add]
    change 10 * decimal digits + (c.toNat - 48) < _
    simp only [List.length_singleton,Nat.pow_one]
    omega

theorem scaled_iff {a w f scale : Nat} (small : f < scale) : a * scale = w * scale + f ↔ a = w ∧ f = 0 := by
  constructor
  · intro same
    obtain rfl : f = 0 := by
      have rest := congrArg (· % scale) same
      simpa [Nat.mod_eq_of_lt small,eq_comm] using rest
    exact ⟨Nat.eq_of_mul_eq_mul_right small same,rfl⟩
  · rintro ⟨rfl,rfl⟩
    rfl

theorem parseInt_text : parseInt value.text =
    if value.whole = [] then .NaN else toNumber (value.sign = ['-']) (decimal value.whole) := by
  obtain ⟨sign,whole,fraction,signed,digits,-⟩ := value
  have all : ∀ c ∈ whole, c.isDigit = true := fun c there => digits c (List.mem_append_left _ there)
  have taken : (whole ++ (fraction.map ('.' :: ·)).getD []).takeWhile Char.isDigit = whole := by
    rw [List.takeWhile_append_of_pos all]
    cases fraction <;> simp
  have bare : unsigned (whole ++ (fraction.map ('.' :: ·)).getD []) =
      (false,whole ++ (fraction.map ('.' :: ·)).getD []) := by
    have first (c : Char) (rest : List Char) (starts : whole ++ (fraction.map ('.' :: ·)).getD [] = c :: rest) :
        c.isDigit = true ∨ c = '.' := by
      cases whole with
      | nil =>
        cases fraction with
        | none => cases starts
        | some digits => exact .inr (List.cons.inj starts).1.symm
      | cons d whole =>
        obtain rfl := (List.cons.inj starts).1
        exact .inl (all _ List.mem_cons_self)
    unfold unsigned
    split
    · next starts => rcases first _ _ starts with digit | dot <;> contradiction
    · next starts => rcases first _ _ starts with digit | dot <;> contradiction
    · rfl
  have stripped : unsigned (sign ++ (whole ++ (fraction.map ('.' :: ·)).getD [])) =
      (decide (sign = ['-']),whole ++ (fraction.map ('.' :: ·)).getD []) := by
    rcases List.mem_cons.mp signed with rfl | signed
    · exact bare
    · rcases List.mem_pair.mp signed with rfl | rfl <;> rfl
  rw [parseInt,NumberString.text,String.toList_ofList,stripped]
  simp only [taken]

theorem bound_iff : value.Equals (parseInt value.text) ↔ value.Exact := by
  rw [parseInt_text]
  by_cases whole : value.whole = []
  · rw [if_pos whole]
    exact iff_of_false id fun exact_ => exact_.whole whole
  rw [if_neg whole,toNumber]
  have small := decimal_lt fun c there => value.digits c (List.mem_append_right value.whole there)
  by_cases beyond : 2 ^ 1024 ≤ round (decimal value.whole)
  · rw [if_pos beyond]
    refine iff_of_false id fun exact_ => absurd beyond ?_
    rw [round_eq_iff.mpr exact_.double.1]
    exact Nat.not_le_of_lt exact_.double.2
  rw [if_neg beyond]
  have equal : value.Equals
      (.finite (if value.sign = ['-'] then -round (decimal value.whole) else round (decimal value.whole))) ↔
      round (decimal value.whole) = decimal value.whole ∧ decimal (value.fraction.getD []) = 0 := by
    rw [← scaled_iff small]
    by_cases minus : value.sign = ['-']
    · simp only [NumberString.Equals,if_pos minus,Int.neg_mul,Int.one_mul,Int.neg_inj]
      exact_mod_cast Iff.rfl
    · simp only [NumberString.Equals,if_neg minus,Int.one_mul]
      exact_mod_cast Iff.rfl
  constructor
  · intro equals
    obtain ⟨same,fraction⟩ := equal.mp (by simpa using equals)
    exact ⟨whole,fraction,round_eq_iff.mp same,by rwa [← same,← Nat.not_le]⟩
  · intro exact_
    simpa using equal.mpr ⟨round_eq_iff.mpr exact_.double.1,exact_.fraction⟩

theorem visit_cases {index : Nat} {predicates : List (String × RequestedPredicate)} :
    (attr.condition = none ∧ visit attr index predicates = ((referent index,some attr.requested),predicates)) ∨
    (attr.condition.isSome ∧ visit attr index predicates = ((referent index,none),
      assign predicates (referent index) attr.predicate)) := by
  have both := attr.conditional.2
  rw [visit]
  cases condition : attr.condition with
  | none =>
    rw [condition] at both
    refine .inl ⟨rfl,if_pos ⟨rfl,?_⟩⟩
    simpa using both
  | some text =>
    refine .inr ⟨rfl,if_neg fun none_ => ?_⟩
    rw [condition,Option.isNone_iff_eq_none.mp none_.2] at both
    cases both

theorem visits_spec {attributes : List ProofRequestAttribute} {index : Nat}
    {before : List (String × RequestedPredicate)} :
    ∃ predicates, (visits attributes index before).2 = collect before (given predicates) ∧
      predicates.map Prod.snd = (attributes.filter (·.condition.isSome)).map ProofRequestAttribute.predicate ∧
      (keys predicates).Sublist ((List.range' index attributes.length).map referent) ∧
      keys (visits attributes index before).1 =
        (List.range' index attributes.length).map referent ∧
      (visits attributes index before).1.filterMap Prod.snd =
        (attributes.filter (·.condition.isNone)).map ProofRequestAttribute.requested := by
  induction attributes generalizing index before with
  | nil => exact ⟨[],rfl,rfl,.slnil,rfl,rfl⟩
  | cons attr rest ih =>
    rw [List.length_cons,List.range'_succ,List.map_cons]
    rcases @visit_cases attr index before with ⟨condition,visited⟩ | ⟨condition,visited⟩
    · obtain ⟨predicates,made,values,named,entries,plain⟩ := @ih (index + 1) before
      refine ⟨predicates,?_,?_,named.cons _,?_,?_⟩
      · simpa [visits,visited] using made
      · simpa [condition] using values
      · simpa [visits,visited,keys] using entries
      · simpa [visits,visited,condition] using plain
    · obtain ⟨predicates,made,values,named,entries,plain⟩ :=
        @ih (index + 1) (assign before (referent index) attr.predicate)
      refine ⟨(referent index,attr.predicate) :: predicates,?_,?_,named.cons_cons _,?_,?_⟩
      · rw [visits,visited]
        exact made
      · simpa [condition] using values
      · simpa [visits,visited,keys] using entries
      · simpa [visits,visited,Option.ne_none_iff_isSome.mpr condition] using plain

theorem referents_nodup {index count : Nat} : ((List.range' index count).map referent).Nodup := by
  refine List.Nodup.map (fun i j same => ?_) List.nodup_range'
  have letters := congrArg String.toList same
  rw [referent,referent,String.toList_append,String.toList_append,List.append_cancel_left_eq,
      String.toList_inj] at letters
  exact Nat.succ.inj (Nat.repr_injective letters)
theorem referent_usual {index count : Nat} : "__proto__" ∉ (List.range' index count).map referent := by
  intro there
  obtain ⟨i,-,same⟩ := List.mem_map.mp there
  have letters := congrArg (·.toList.head?) same
  rw [referent,String.toList_append] at letters
  cases letters
theorem restrictions_own : attr.restrictions = [⟨attr.credDefId,attr.schemaId⟩] := by
  have given_ := attr.ids.2
  rw [ProofRequestAttribute.restrictions]
  cases credDefId : attr.credDefId with
  | none => rfl
  | some id => rw [Option.filter_some_pos (by simpa [credDefId] using given_)]

theorem bounds_iff (conditional : attr.condition.isSome = true) :
    Bounds attr attr.predicate ↔ ∀ value, attr.value = some value → value.Exact := by
  obtain ⟨value,is_value⟩ := Option.isSome_iff_exists.mp (attr.conditional.2.symm.trans conditional)
  have bound : attr.predicate.p_value = parseInt value.text := by rw [ProofRequestAttribute.predicate,is_value]; rfl
  constructor
  · rintro ⟨-,-,-,other,is_other,equals⟩ _ is_same
    obtain rfl := Option.some.inj (is_value.symm.trans is_same)
    obtain rfl := Option.some.inj (is_value.symm.trans is_other)
    exact bound_iff.mp (bound ▸ equals)
  · intro exact_
    exact ⟨rfl,rfl,restrictions_own,value,is_value,bound ▸ bound_iff.mpr (exact_ value is_value)⟩

end

/-- The payload asks what was specified exactly where the numbers of the predicates are whole ones that a
    double has, with digits before the point. -/
theorem payload_right_iff (attributes : Option (List ProofRequestAttribute)) :
    (∀ payload, proofRequestPayload attributes = .ok payload → Right (attributes.getD []) payload) ↔
      ∀ attr ∈ attributes.getD [], ∀ value, attr.value = some value → value.Exact := by
  cases attributes with
  | none => exact iff_of_true (fun _ made => nomatch made) (by rintro _ ⟨⟩)
  | some attributes =>
    obtain ⟨predicates,made,values,named,entries,plain⟩ := @visits_spec attributes 0 []
    have stored : (visits attributes 0 []).2 = predicates :=
      made.trans (collect_given (named.nodup referents_nodup) fun there => referent_usual (named.subset there))
    have listed : collect [] (given (visits attributes 0 []).1) = (visits attributes 0 []).1 :=
      collect_given (entries ▸ referents_nodup) (entries ▸ referent_usual)
    have payload : proofRequestPayload (some attributes) = .ok ⟨(visits attributes 0 []).1,predicates⟩ := by
      rw [proofRequestPayload,listed,stored]
    have asked : (attributes.filter (·.condition.isNone)).map ProofRequestAttribute.requested =
        (attributes.filter (·.condition.isNone)).map fun attr => ⟨attr.names,[⟨attr.credDefId,attr.schemaId⟩]⟩ :=
      List.map_congr_left fun attr _ => by rw [ProofRequestAttribute.requested,restrictions_own]
    have right : Right attributes ⟨(visits attributes 0 []).1,predicates⟩ ↔
        ∀ attr ∈ attributes.filter (·.condition.isSome), Bounds attr attr.predicate := by
      have each : List.Forall₂ Bounds (attributes.filter (·.condition.isSome)) (predicates.map Prod.snd) ↔
          ∀ attr ∈ attributes.filter (·.condition.isSome), Bounds attr attr.predicate := by
        rw [values,List.forall₂_map_right_iff,List.forall₂_same]
      exact ⟨fun right => each.mp right.conditional,fun bounds => ⟨plain.trans asked,each.mpr bounds⟩⟩
    simp only [payload,Except.ok.injEq,forall_eq',Option.getD_some,right]
    constructor
    · intro bounds attr there value is_value
      have conditional : attr.condition.isSome = true := attr.conditional.2.trans (is_value ▸ rfl)
      exact (bounds_iff conditional).mp (bounds attr (List.mem_filter.mpr ⟨there,conditional⟩)) value is_value
    · intro exact_ attr there
      obtain ⟨there,conditional⟩ := List.mem_filter.mp there
      exact (bounds_iff conditional).mpr (exact_ attr there)

/-- `>= 2.5` -/
def adult : ProofRequestAttribute where
  names := .attributeName "age"
  schemaId := none
  credDefId := none
  condition := some ">="
  value := some ⟨[],['2'],some ['5'],by decide,List.all_eq_true.mp (by decide),by decide⟩
  named := ⟨by decide,by decide,fun _ named => nomatch named⟩
  ids := ⟨nofun,nofun⟩
  conditional := ⟨by decide,rfl⟩

/-- The bound is 2. -/
theorem bound_weakened :
    ¬∀ attributes payload, proofRequestPayload (some attributes) = .ok payload → Right attributes payload := by
  intro right
  obtain ⟨-,conditional⟩ := right [adult] _ rfl
  cases conditional with
  | cons bounds _ => exact absurd ((bounds_iff rfl).mp bounds _ rfl).fraction (by decide)

end Ngotag.IndyRequests
