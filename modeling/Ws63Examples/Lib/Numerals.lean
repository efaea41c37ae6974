import Mathlib.Data.Nat.Digits.Lemmas

/-!
# Numerals

The digits of a number as a loop divides them out, the units first, and as they
are read. A padded numeral has a fixed number of digits.
-/

namespace Ws63Examples.Numerals

/-- The digits that a loop divides out of a number, at least one. -/
def places (b n : Nat) : List Nat := if n = 0 then [0] else Nat.digits b n

/-- The number as it is read: the units last, and no zero in front. -/
def numeral (b n : Nat) : List Nat := (places b n).reverse

/-- The last `k` digits as they are read, with the zeros in front. -/
def padded (b k n : Nat) : List Nat := (List.range k).map fun i => n / b ^ (k - 1 - i) % b

section
variable {b n : Nat}

theorem places_ne_nil (b n : Nat) : places b n ≠ [] := by
  unfold places
  split
  · nofun
  · rename_i positive
    exact fun none => positive (Nat.digits_eq_nil_iff_eq_zero.mp none)

/-- One turn of the loop. -/
theorem places_loop (base : 1 < b) (n : Nat) :
    places b n = n % b :: if n / b = 0 then [] else places b (n / b) := by
  unfold places
  by_cases zero : n = 0
  · simp [zero]
  · rw [if_neg zero, Nat.digits_def' base (Nat.pos_of_ne_zero zero)]
    by_cases last : n / b = 0
    · simp [last]
    · simp [last]

theorem places_of_lt (base : 1 < b) (small : n < b) : places b n = [n] := by
  rw [places_loop base, Nat.mod_eq_of_lt small, Nat.div_eq_of_lt small, if_pos rfl]

theorem places_of_le (base : 1 < b) (large : b ≤ n) :
    places b n = n % b :: places b (n / b) := by
  have more : n / b ≠ 0 := Nat.div_ne_zero_iff.mpr ⟨by omega, large⟩
  rw [places_loop base, if_neg more]

theorem places_value (b n : Nat) : Nat.ofDigits b (places b n) = n := by
  unfold places
  split
  · rename_i zero
    simp [zero]
  · exact Nat.ofDigits_digits b n

theorem places_lt (base : 1 < b) : ∀ d ∈ places b n, d < b := by
  intro d member
  unfold places at member
  split at member
  · obtain rfl := List.mem_singleton.mp member
    omega
  · exact Nat.digits_lt_base base member

theorem places_length_le (base : 1 < b) {k : Nat} (some_place : 0 < k) (fits : n < b ^ k) :
    (places b n).length ≤ k := by
  unfold places
  split
  · exact some_place
  · exact (Nat.digits_length_le_iff base n).mpr fits

/-- The place in front of others is no zero. -/
theorem places_last (more : 1 < (places b n).length) :
    (places b n).getLast? ≠ some 0 := by
  unfold places at more ⊢
  split at more
  · exact absurd more (by decide)
  · rename_i positive
    rw [if_neg positive, List.getLast?_eq_some_getLast (Nat.digits_ne_nil_iff_ne_zero.mpr positive)]
    intro zero
    exact Nat.getLast_digit_ne_zero b positive (Option.some.inj zero)

@[simp] theorem numeral_length : (numeral b n).length = (places b n).length :=
  List.length_reverse

theorem numeral_ne_nil (b n : Nat) : numeral b n ≠ [] := by
  simp [numeral, places_ne_nil]

theorem numeral_of_lt (base : 1 < b) (small : n < b) : numeral b n = [n] := by
  rw [numeral, places_of_lt base small]
  rfl

theorem numeral_of_le (base : 1 < b) (large : b ≤ n) :
    numeral b n = numeral b (n / b) ++ [n % b] := by
  rw [numeral, places_of_le base large, List.reverse_cons]
  rfl

theorem numeral_value (b n : Nat) : Nat.ofDigits b (numeral b n).reverse = n := by
  rw [numeral, List.reverse_reverse, places_value]

theorem numeral_lt (base : 1 < b) : ∀ d ∈ numeral b n, d < b := by
  intro d member
  exact places_lt base d (List.mem_reverse.mp member)

theorem numeral_head (more : 1 < (numeral b n).length) :
    (numeral b n).head? ≠ some 0 := by
  rw [numeral, List.head?_reverse]
  exact places_last (by simpa using more)

@[simp] theorem padded_length (b k n : Nat) : (padded b k n).length = k := by
  simp [padded]

/-- A padded numeral gains its digits at the end. -/
theorem padded_succ (b k n : Nat) : padded b (k + 1) n = padded b k (n / b) ++ [n % b] := by
  unfold padded
  rw [List.range_succ, List.map_append, List.map_singleton]
  congr 1
  · apply List.map_congr_left
    intro i inside
    have below : i < k := List.mem_range.mp inside
    rw [show k + 1 - 1 - i = (k - 1 - i) + 1 by omega, Nat.pow_succ', Nat.div_div_eq_div_mul]
  · simp

theorem padded_append (b j k n : Nat) :
    padded b (j + k) n = padded b j (n / b ^ k) ++ padded b k n := by
  induction k generalizing n with
  | zero => simp [padded]
  | succ k ih =>
    rw [← Nat.add_assoc, padded_succ, ih, padded_succ b k n, List.append_assoc, Nat.pow_succ',
      Nat.div_div_eq_div_mul]

theorem padded_value (b k n : Nat) : Nat.ofDigits b (padded b k n).reverse = n % b ^ k := by
  induction k generalizing n with
  | zero => simp [padded, Nat.mod_one]
  | succ k ih =>
    rw [padded_succ, List.reverse_append, List.reverse_singleton, List.singleton_append,
      Nat.ofDigits_cons, ih, Nat.pow_succ', Nat.mod_mul]

theorem padded_mod (b k n : Nat) : padded b k (n % b ^ k) = padded b k n := by
  induction k generalizing n with
  | zero => rfl
  | succ k ih =>
    have low : n % b ^ (k + 1) % b = n % b := by
      rw [Nat.pow_succ', Nat.mod_mul_right_mod]
    have high : n % b ^ (k + 1) / b = n / b % b ^ k := by
      rw [Nat.pow_succ', Nat.mod_mul_right_div_self]
    rw [padded_succ, padded_succ, low, high, ih]

theorem padded_lt (base : 0 < b) (k n : Nat) : ∀ d ∈ padded b k n, d < b := by
  intro d member
  obtain ⟨i, -, rfl⟩ := List.mem_map.mp member
  exact Nat.mod_lt _ base

end

end Ws63Examples.Numerals
