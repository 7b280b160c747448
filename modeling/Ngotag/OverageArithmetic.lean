import Ngotag.Entitlements
import Mathlib.Algebra.BigOperators.Group.List.Basic
import Mathlib.Tactic.Linarith
import Mathlib.Tactic.Ring

/-!
What the buckets of a period come to: in each dimension the excess of its events over
the plan (`billed_aggregated`), whatever the hours. The sums are exact, as they are for
the whole quantities that the gateway records.
-/
namespace Ngotag.OverageArithmetic
open Marketplace
open Quota
open Overage
open Metering
open Entitlements

def total (dimension : Dimension) (events : List Event) : ℚ :=
  ((events.filter fun e => e.dimension = some dimension).map Event.quantity).sum
def billed (dimension : Dimension) (buckets : List Bucket) : ℚ :=
  ((buckets.filter fun b => b.dimension = dimension).map Bucket.quantity).sum
def aggregated (plan : Option Plan) (sourceEvents : List Event) :
    List Bucket := overage (includedUsage plan) sourceEvents

theorem dimension_iff {eventType : String} (dimension : Dimension) {text : String}
    (entry : (dimension,text) ∈ eventTypeByDimension) :
    dimensionByEventType eventType = some dimension ↔ eventType = text := by
  unfold dimensionByEventType
  simp only [eventTypeByDimension,List.mem_cons,Prod.mk.injEq,List.not_mem_nil,or_false] at entry
  rcases entry with ⟨rfl,rfl⟩ | ⟨rfl,rfl⟩ | ⟨rfl,rfl⟩ | ⟨rfl,rfl⟩ <;> split_ifs <;> simp_all

section
variable {dimension : Dimension} {hour id : Nat} {quantity : ℚ} {buckets : List Bucket}

theorem total_perm {first second : List Event} (same : first.Perm second) :
    total dimension first = total dimension second :=
  ((same.filter _).map _).sum_eq

theorem billed_addTo (other : Dimension) : billed other (addTo dimension hour quantity id buckets) =
    billed other buckets + if dimension = other then quantity else 0 := by
  induction buckets with
  | nil => by_cases same : dimension = other <;> simp [billed,addTo,same]
  | cons b rest ih =>
    rw [addTo]
    by_cases here : b.key = (dimension,hour)
    · have its : b.dimension = dimension := congrArg Prod.fst here
      rw [if_pos here]
      by_cases same : dimension = other
      · simp only [billed,List.filter_cons,its,same,decide_true,if_true,List.map_cons,List.sum_cons]
        ring
      · simp [billed,its,same]
    · rw [if_neg here]
      by_cases own : b.dimension = other
      · simp only [billed,own,List.filter_cons,decide_true,if_true,List.map_cons,List.sum_cons] at ih ⊢
        rw [ih,add_assoc]
      · simpa [billed,own] using ih

end

variable {included : Dimension → ℚ} {tally : Tally} {events sourceEvents : List Event} {plan : Option Plan}
    {dimension : Dimension}
theorem foldl_billed (positive : ∀ e ∈ events, 0 < e.quantity) (dimension : Dimension) :
    billed dimension (events.foldl (accrue included) tally).hourlyOverage = billed dimension tally.hourlyOverage +
      (excess (included dimension) (tally.runningTotals dimension + total dimension events) -
        excess (included dimension) (tally.runningTotals dimension)) := by
  induction events generalizing tally with
  | nil => simp [total]
  | cons e rest ih =>
    rw [List.foldl_cons,ih fun e there => positive e (List.mem_cons_of_mem _ there)]
    cases known : e.dimension with
    | none =>
      have same : total dimension (e :: rest) = total dimension rest := by simp [total,known]
      rw [accrue_skip known,same]
    | some own =>
      have added : billed dimension (accrue included tally e).hourlyOverage = billed dimension tally.hourlyOverage +
          if own = dimension then charge (included own) (tally.runningTotals own) e.quantity else 0 := by
        simp only [accrue,known,charge]
        by_cases within : tally.runningTotals own + e.quantity ≤ included own
        · simp [within]
        · simp only [within,if_false]
          exact billed_addTo dimension
      rw [accrue_totals known,added]
      by_cases same : own = dimension
      · subst same
        have grows : total own (e :: rest) = e.quantity + total own rest := by simp [total,known]
        rw [if_pos rfl,Function.update_self,grows,charge_eq (positive e List.mem_cons_self).le]
        ring_nf
      · have same' : total dimension (e :: rest) = total dimension rest := by simp [total,known,same]
        rw [if_neg same,Function.update_of_ne (Ne.symm same),same',add_zero]

/-- The buckets of a dimension come to what its events exceed the plan by. -/
theorem billed_aggregated (positive : ∀ e ∈ sourceEvents, 0 < e.quantity) (included : 0 ≤ includedUsage plan dimension) :
    billed dimension (aggregated plan sourceEvents) = max
    (total dimension sourceEvents - includedUsage plan dimension) 0 := by
  rw [aggregated,overage,foldl_billed positive,zero_add,excess_of_le included,sub_zero]
  exact zero_add _

end Ngotag.OverageArithmetic
