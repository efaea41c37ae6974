import Mathlib.Data.Nat.ModEq

/-!
# Ones' complement sums

Words from `0` to `m`, all ones, added with the carry brought around. Such a
sum is the wide sum modulo `m`, where a multiple of `m` other than `0` is all
ones.
-/

namespace Ws63Examples.OnesComplement

section
variable {m : Nat}

/-- Addition with an end-around carry. -/
def add (m a b : Nat) : Nat := if a + b ≤ m then a + b else a + b - m

def sum (m : Nat) (words : List Nat) : Nat := words.foldl (add m) 0

def complement (m a : Nat) : Nat := m - a

/-- The carries of a wide sum added back in once. -/
def foldCarries (m x : Nat) : Nat := x % (m + 1) + x / (m + 1)

/-- The word a wide sum folds to. -/
def reduce (m x : Nat) : Nat := if x = 0 then 0 else (x - 1) % m + 1

theorem reduce_eq_zero (x : Nat) : reduce m x = 0 ↔ x = 0 := by
  unfold reduce
  split
  · rename_i zero
    simp only [zero]
  · rename_i positive
    simp only [positive, iff_false]
    exact Nat.succ_ne_zero _

theorem reduce_le (positive : 0 < m) (x : Nat) : reduce m x ≤ m := by
  unfold reduce
  split
  · exact Nat.zero_le m
  · exact Nat.mod_lt _ positive

theorem reduce_modEq (x : Nat) : reduce m x ≡ x [MOD m] := by
  unfold reduce
  split
  · rename_i zero
    rw [zero]
  · have whole : x - 1 + 1 = x := by omega
    have := (Nat.mod_modEq (x - 1) m).add_right 1
    rwa [whole] at this

/-- The multiples of `m` apart, a residue has one word; of those, `0` is the sum of no carry. -/
theorem eq_of_modEq {a b : Nat} (ha : a ≤ m) (hb : b ≤ m) (same : a ≡ b [MOD m])
    (zero : a = 0 ↔ b = 0) : a = b := by
  by_cases top : a = m
  · by_cases top' : b = m
    · rw [top, top']
    · have inside : b < m := by omega
      have : b = 0 := by
        have := same.symm
        rwa [top, Nat.ModEq, Nat.mod_self, Nat.mod_eq_of_lt inside] at this
      rw [zero.mpr this, this]
  · have inside : a < m := by omega
    by_cases top' : b = m
    · have : a = 0 := by
        rwa [top', Nat.ModEq, Nat.mod_self, Nat.mod_eq_of_lt inside] at same
      rw [zero.mp this, this]
    · exact same.eq_of_lt_of_lt inside (by omega)

theorem reduce_unique (positive : 0 < m) {x y : Nat} (le : y ≤ m) (same : y ≡ x [MOD m])
    (zero : y = 0 ↔ x = 0) : reduce m x = y :=
  eq_of_modEq (reduce_le positive x) le ((reduce_modEq x).trans same.symm)
    ((reduce_eq_zero x).trans zero.symm)

theorem reduce_of_le (positive : 0 < m) {x : Nat} (le : x ≤ m) : reduce m x = x :=
  reduce_unique positive le rfl Iff.rfl

theorem foldCarries_split (x : Nat) : x = foldCarries m x + m * (x / (m + 1)) := by
  have := Nat.mod_add_div x (m + 1)
  rw [Nat.succ_mul] at this
  unfold foldCarries
  omega

/-- Folding keeps the word. -/
theorem reduce_foldCarries (positive : 0 < m) (x : Nat) :
    reduce m (foldCarries m x) = reduce m x := by
  have split := foldCarries_split (m := m) x
  apply Eq.symm
  apply reduce_unique positive (reduce_le positive _)
  · apply (reduce_modEq _).trans
    conv_rhs => rw [split]
    exact (Nat.add_mul_mod_self_left _ _ _).symm
  · rw [reduce_eq_zero]
    constructor
    · intro none
      have high : x / (m + 1) = 0 := (Nat.add_eq_zero_iff.mp none).2
      rw [split, none, high, Nat.mul_zero]
    · intro none
      rw [none, foldCarries, Nat.zero_mod, Nat.zero_div]

theorem add_eq_reduce {a b : Nat} (positive : 0 < m) (ha : a ≤ m) (hb : b ≤ m) :
    add m a b = reduce m (a + b) := by
  unfold add
  split
  · rename_i fits
    exact (reduce_of_le positive fits).symm
  · rename_i carried
    have whole : a + b - m + m = a + b := by omega
    have same : a + b - m ≡ a + b [MOD m] := by
      conv_rhs => rw [← whole]
      exact (Nat.add_modEq_right).symm
    exact (reduce_unique positive (by omega) same (by omega)).symm

theorem reduce_add (positive : 0 < m) (x y : Nat) :
    reduce m (reduce m x + y) = reduce m (x + y) := by
  apply reduce_unique positive (reduce_le positive _)
  · exact (reduce_modEq _).trans ((reduce_modEq x).add_right y).symm
  · have := reduce_eq_zero (m := m) x
    rw [reduce_eq_zero]
    omega

/-- Carries brought around at each word or all at the end give the same sum. -/
theorem sum_eq_reduce (positive : 0 < m) {words : List Nat} (small : ∀ w ∈ words, w ≤ m) :
    sum m words = reduce m words.sum := by
  have from_any : ∀ start, words.foldl (add m) (reduce m start) = reduce m (start + words.sum) := by
    induction words with
    | nil => intro start; rfl
    | cons w words ih =>
      intro start
      have hw : w ≤ m := small w (List.mem_cons_self ..)
      rw [List.foldl_cons, add_eq_reduce positive (reduce_le positive start) hw,
        reduce_add positive, ih (fun v hv => small v (List.mem_cons_of_mem w hv)), List.sum_cons,
        Nat.add_assoc]
  have := from_any 0
  rwa [Nat.zero_add] at this

/-- A sum with its complement added is all ones. -/
theorem reduce_add_complement (positive : 0 < m) (x : Nat) :
    reduce m (x + complement m (reduce m x)) = m := by
  have le := reduce_le positive x
  have whole : reduce m x + (m - reduce m x) = m := by omega
  apply reduce_unique positive (Nat.le_refl m)
  · have := (reduce_modEq (m := m) x).add_right (m - reduce m x)
    rwa [whole] at this
  · have := reduce_eq_zero (m := m) x
    unfold complement
    omega

end

end Ws63Examples.OnesComplement
