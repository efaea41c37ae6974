import Mathlib.Algebra.Order.Ring.Nat

/-!
# Machine integers

Counters are naturals here, each operation naming the largest value of its
width where that matters. Times are `UInt64`, whose subtraction wraps.
-/

namespace Ws63Examples.Word

def u8Max : Nat := 2 ^ 8 - 1
def u32Max : Nat := 2 ^ 32 - 1

/-- Addresses and lengths of the 32-bit target. -/
def usizeMax : Nat := 2 ^ 32 - 1

/-- `a + b` where an overflow panics. -/
def checkedAdd (max a b : Nat) : Option Nat := if a + b ≤ max then some (a + b) else none

/-- `a - b` where an underflow panics. -/
def checkedSub (a b : Nat) : Option Nat := if b ≤ a then some (a - b) else none

def saturatingAdd (max a b : Nat) : Nat := min (a + b) max

@[simp] theorem checkedAdd_of_le {max a b : Nat} (h : a + b ≤ max) :
    checkedAdd max a b = some (a + b) := if_pos h

@[simp] theorem checkedSub_of_le {a b : Nat} (h : b ≤ a) : checkedSub a b = some (a - b) :=
  if_pos h

theorem saturatingAdd_of_le {max a b : Nat} (h : a + b ≤ max) :
    saturatingAdd max a b = a + b := Nat.min_eq_left h

/-- Saturating a count that was already clipped only clips it again. -/
theorem saturatingAdd_clipped (max a b : Nat) :
    saturatingAdd max (min a max) b = min (a + b) max := by
  simp only [saturatingAdd]
  omega

/-- `u64::saturating_add` -/
def saturatingAdd64 (a b : UInt64) : UInt64 :=
  if a.toNat + b.toNat < 2 ^ 64 then a + b else .ofNat (2 ^ 64 - 1)

theorem saturatingAdd64_toNat {a b : UInt64} (h : a.toNat + b.toNat < 2 ^ 64) :
    (saturatingAdd64 a b).toNat = a.toNat + b.toNat := by
  rw [saturatingAdd64, if_pos h, UInt64.toNat_add, Nat.mod_eq_of_lt h]

/-- `u32::saturating_sub` -/
def saturatingSub32 (a b : UInt32) : UInt32 := if b ≤ a then a - b else 0

theorem saturatingSub32_toNat (a b : UInt32) :
    (saturatingSub32 a b).toNat = a.toNat - b.toNat := by
  unfold saturatingSub32
  split
  · rename_i le
    exact UInt32.toNat_sub_of_le _ _ le
  · rename_i lt
    have := UInt32.lt_iff_toNat_lt.mp (UInt32.not_le.mp lt)
    rw [UInt32.toNat_zero]
    omega

end Ws63Examples.Word
