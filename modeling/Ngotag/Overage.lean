import Ngotag.Marketplace
import Ngotag.Quota
import Mathlib.Data.Rat.Cast.Order

/-!
The aggregation of `MeteringService.aggregateSubscriptionUsage`: billing events in
the order of time, their running totals by dimension, and what goes beyond the
plan, hour by hour. The buckets are the hours with something to bill, each once
(`nodup_overage`).
-/
namespace Ngotag.Overage
open Marketplace Quota

inductive Dimension where
  | setupFee
  | issuanceTxn
  | verificationTxn
  | schemaCreate
  deriving DecidableEq
def dimensionByEventType (eventType : String) : Option Dimension :=
  if eventType = "organization_setup_completed" then some .setupFee
  else if eventType = "issuance_completed" then some .issuanceTxn
  else if eventType = "verification_completed" then some .verificationTxn
  else if eventType = "schema_created" then some .schemaCreate
  else none
structure Event where
  id : Nat
  marketplaceSubscriptionId : Option Nat
  orgId : Nat
  eventType : String
  sourceId : String
  occurredAt : Nat
  quantity : ℚ
  deriving DecidableEq
def Event.dimension (e : Event) : Option Dimension := dimensionByEventType e.eventType
/-- `setUTCMinutes(0, 0, 0)` -/
def hourOf (time : Nat) : Nat := time - time % 3600000
def Event.hour (e : Event) : Nat := hourOf e.occurredAt
def includedUsage (plan : Option Plan) : Dimension → ℚ
  | .setupFee => 0
  | .issuanceTxn => (plan.elim 0 Plan.includedIssuanceTransactions : Int)
  | .verificationTxn => (plan.elim 0 Plan.includedVerificationTransactions : Int)
  | .schemaCreate => (plan.elim 0 Plan.includedSchemas : Int)
/-- An entry of `hourlyOverage`. -/
structure Bucket where
  dimension : Dimension
  hour : Nat
  quantity : ℚ
  sourceEventIds : List Nat
def Bucket.key (b : Bucket) : Dimension × Nat := (b.dimension,b.hour)
def addTo (dimension : Dimension) (hour : Nat) (quantity : ℚ) (id : Nat) : List Bucket → List Bucket
  | [] => [⟨dimension,hour,quantity,[id]⟩]
  | b :: rest =>
    if b.key = (dimension,hour) then
      { b with quantity := b.quantity + quantity, sourceEventIds := b.sourceEventIds ++ [id] } :: rest
    else b :: addTo dimension hour quantity id rest
structure Tally where
  runningTotals : Dimension → ℚ
  hourlyOverage : List Bucket

def accrue (included : Dimension → ℚ) (tally : Tally) (e : Event) : Tally :=
  match e.dimension with
  | none => tally
  | some dimension =>
    let previousTotal := tally.runningTotals dimension
    let total := previousTotal + e.quantity
    let tally := { tally with runningTotals := Function.update tally.runningTotals dimension total }
    if total ≤ included dimension then tally
    else
      let billableQuantity := min e.quantity (total - max previousTotal (included dimension))
      { tally with hourlyOverage := addTo dimension e.hour billableQuantity e.id tally.hourlyOverage }

def overage (included : Dimension → ℚ) (events : List Event) : List Bucket :=
  (events.foldl (accrue included) ⟨fun _ => 0,[]⟩).hourlyOverage
def quantityAt (buckets : List Bucket) (key : Dimension × Nat) : ℚ :=
  (buckets.find? fun b => b.key = key).elim 0 Bucket.quantity

section
variable {dimension : Dimension} {hour id : Nat} {quantity : ℚ} {buckets : List Bucket}

theorem keys_addTo : (addTo dimension hour quantity id buckets).map Bucket.key =
    if (dimension,hour) ∈ buckets.map Bucket.key then buckets.map Bucket.key
    else buckets.map Bucket.key ++ [(dimension,hour)] := by
  induction buckets with
  | nil => rfl
  | cons b rest ih =>
    rw [addTo]
    by_cases here : b.key = (dimension,hour)
    · rw [if_pos here,← here]
      simp [Bucket.key]
    · rw [if_neg here,List.map_cons,ih,List.map_cons]
      by_cases later : (dimension,hour) ∈ rest.map Bucket.key
      · rw [if_pos later,if_pos (List.mem_cons_of_mem _ later)]
      · have absent : (dimension,hour) ∉ b.key :: rest.map Bucket.key := by
          simp only [List.mem_cons,not_or]
          exact ⟨Ne.symm here,later⟩
        rw [if_neg later,if_neg absent,List.cons_append]

theorem nodup_addTo (once : (buckets.map Bucket.key).Nodup) :
    ((addTo dimension hour quantity id buckets).map Bucket.key).Nodup := by
  rw [keys_addTo]
  split
  · exact once
  · rename_i absent
    exact once.append (List.nodup_singleton _) (List.disjoint_singleton.mpr absent)

theorem find_absent {key : Dimension × Nat} (absent : key ∉ buckets.map Bucket.key) :
    buckets.find? (fun b => b.key = key) = none := by
  refine List.find?_eq_none.mpr fun b member holds => absent ?_
  exact List.mem_map.mpr ⟨b,member,of_decide_eq_true holds⟩
theorem quantityAt_absent {key : Dimension × Nat} (absent : key ∉ buckets.map Bucket.key) :
    quantityAt buckets key = 0 := by
  rw [quantityAt,find_absent absent]
  rfl
theorem find_mem (once : (buckets.map Bucket.key).Nodup) {b : Bucket} (member : b ∈ buckets) :
    buckets.find? (fun other => other.key = b.key) = some b := by
  induction buckets with
  | nil => cases member
  | cons first rest ih =>
    obtain ⟨absent,later⟩ := List.nodup_cons.mp once
    rcases List.mem_cons.mp member with rfl | inRest
    · simp
    · have different : first.key ≠ b.key := fun equal => absent (equal ▸ List.mem_map_of_mem inRest)
      simpa [different] using ih later inRest
theorem quantityAt_mem (once : (buckets.map Bucket.key).Nodup) {b : Bucket} (member : b ∈ buckets) :
    quantityAt buckets b.key = b.quantity := by
  rw [quantityAt,find_mem once member]
  rfl
end

variable {included : Dimension → ℚ} {tally : Tally} {events : List Event}
theorem accrue_skip {e : Event} (unbilled : e.dimension = none) : accrue included tally e = tally := by
  rw [accrue,unbilled]
theorem accrue_totals {e : Event} {dimension : Dimension} (billed : e.dimension = some dimension) :
    (accrue included tally e).runningTotals =
      Function.update tally.runningTotals dimension (tally.runningTotals dimension + e.quantity) := by
  simp only [accrue,billed]
  split <;> rfl
theorem foldl_once (once : (tally.hourlyOverage.map Bucket.key).Nodup) :
    ((events.foldl (accrue included) tally).hourlyOverage.map Bucket.key).Nodup := by
  induction events generalizing tally with
  | nil => exact once
  | cons e rest ih =>
    rw [List.foldl_cons]
    apply ih
    cases billed : e.dimension with
    | none => rw [accrue_skip billed]; exact once
    | some dimension =>
      simp only [accrue,billed]
      split
      · exact once
      · exact nodup_addTo once

theorem nodup_overage : ((overage included events).map Bucket.key).Nodup := foldl_once List.nodup_nil

end Ngotag.Overage
