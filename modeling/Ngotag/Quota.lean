import Mathlib.Algebra.Order.Group.Defs
import Mathlib.Algebra.Order.Group.MinMax
import Mathlib.Tactic.Abel

/-!
Charging what goes beyond a quota. Amounts come one after another; the charge of
an amount is the part of it beyond the quota, given the total before it, and adds
what the total then exceeds the quota by more than before (`charge_eq`).
-/
namespace Ngotag.Quota

variable {K : Type} [AddCommGroup K] [LinearOrder K] [IsOrderedAddMonoid K]

def excess (quota total : K) : K := max (total - quota) 0
/-- The part of an amount beyond the quota, after a total. -/
def charge (quota total amount : K) : K :=
  if total + amount ≤ quota then 0 else min amount (total + amount - max total quota)

variable {quota total : K}
theorem excess_of_le (within : total ≤ quota) : excess quota total = 0 :=
  max_eq_right (sub_nonpos.mpr within)
theorem excess_of_ge (beyond : quota ≤ total) : excess quota total = total - quota :=
  max_eq_left (sub_nonneg.mpr beyond)

theorem charge_eq {quota total amount : K} (nonneg : 0 ≤ amount) :
    charge quota total amount = excess quota (total + amount) - excess quota total := by
  have grows : total ≤ total + amount := le_add_of_nonneg_right nonneg
  rw [charge]
  by_cases within : total + amount ≤ quota
  · rw [if_pos within,excess_of_le within,excess_of_le (grows.trans within),sub_zero]
  rw [if_neg within]
  have beyond : quota ≤ total + amount := (not_le.mp within).le
  rw [excess_of_ge beyond]
  by_cases before : total ≤ quota
  · have partly : total + amount - quota ≤ amount := by
      rw [sub_le_iff_le_add,add_comm]
      exact add_le_add_right before amount
    rw [max_eq_right before,min_eq_right partly,excess_of_le before,sub_zero]
  · have over_ : quota ≤ total := (not_le.mp before).le
    rw [max_eq_left over_,excess_of_ge over_,add_sub_cancel_left,min_self]
    abel

end Ngotag.Quota
