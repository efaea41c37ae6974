import Mathlib.Algebra.Order.BigOperators.Group.List
import Mathlib.Algebra.Order.Ring.Nat
import Mathlib.Data.List.Induction

/-! Sum, least and greatest of a list of samples, as they change with one more sample. -/

namespace Ws63Examples.Samples

def least (xs : List Nat) : Nat := xs.min?.getD 0
def greatest (xs : List Nat) : Nat := xs.foldl max 0

theorem least_le {xs : List Nat} {x : Nat} (hx : x ∈ xs) : least xs ≤ x := by
  cases h : xs.min? with
  | none => exact absurd (List.min?_eq_none_iff.mp h ▸ hx) List.not_mem_nil
  | some a =>
    rw [least, h]
    exact (List.min?_eq_some_iff.mp h).2 x hx

theorem least_snoc (xs : List Nat) (x : Nat) :
    least (xs ++ [x]) = if xs.length = 0 then x else min (least xs) x := by
  cases xs with
  | nil => rfl
  | cons y ys =>
    have some_sample : (y :: ys).length ≠ 0 := Nat.succ_ne_zero _
    rw [if_neg some_sample, least, least, List.cons_append, List.min?_cons', List.min?_cons',
      List.foldl_append]
    rfl

theorem greatest_snoc (xs : List Nat) (x : Nat) :
    greatest (xs ++ [x]) = max (greatest xs) x := by
  rw [greatest, List.foldl_append]
  rfl

theorem le_greatest {xs : List Nat} {x : Nat} (hx : x ∈ xs) : x ≤ greatest xs := by
  induction xs using List.reverseRecOn with
  | nil => exact absurd hx List.not_mem_nil
  | append_singleton xs last ih =>
    rw [greatest_snoc]
    rcases List.mem_append.mp hx with hx | hx
    · exact Nat.le_trans (ih hx) (Nat.le_max_left ..)
    · exact List.mem_singleton.mp hx ▸ Nat.le_max_right ..

theorem greatest_le {xs : List Nat} {bound : Nat} (small : ∀ x ∈ xs, x ≤ bound) :
    greatest xs ≤ bound := by
  induction xs using List.reverseRecOn with
  | nil => exact Nat.zero_le bound
  | append_singleton xs last ih =>
    rw [greatest_snoc]
    exact Nat.max_le.mpr ⟨ih fun x hx => small x (List.mem_append_left _ hx),
      small last (List.mem_append_right _ (List.mem_singleton_self last))⟩

theorem length_mul_least_le_sum (xs : List Nat) : xs.length * least xs ≤ xs.sum :=
  xs.card_nsmul_le_sum (least xs) fun _ hx => least_le hx

theorem sum_le_length_mul {xs : List Nat} {bound : Nat} (small : ∀ x ∈ xs, x ≤ bound) :
    xs.sum ≤ xs.length * bound :=
  xs.sum_le_card_nsmul bound small

theorem sum_le_length_mul_greatest (xs : List Nat) : xs.sum ≤ xs.length * greatest xs :=
  sum_le_length_mul fun _ hx => le_greatest hx

/-- The average lies between the least and the greatest sample. -/
theorem average_between {xs : List Nat} (some_sample : 0 < xs.length) :
    least xs ≤ xs.sum / xs.length ∧ xs.sum / xs.length ≤ greatest xs := by
  constructor
  · apply (Nat.le_div_iff_mul_le some_sample).mpr
    rw [Nat.mul_comm]
    exact length_mul_least_le_sum xs
  · exact Nat.div_le_of_le_mul (sum_le_length_mul_greatest xs)

end Ws63Examples.Samples
