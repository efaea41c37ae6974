import Mathlib.Algebra.Order.Ring.Nat

/-!
# Records in a ring

Record `i` of a log is stored in slot `i % n` of a ring of `n` slots, over the
record that was there. A reader keeps a cursor and follows the log through
snapshots of its total.
-/

namespace Ws63Examples.Retention

section
variable {α : Type} {n : Nat}

/-- A ring after `total` records, whatever it held at the start. -/
inductive Stored (log : Nat → α) : Nat → Vector α n → Prop
  | start (slots : Vector α n) : Stored log 0 slots
  | store {total : Nat} {slots : Vector α n} (before : Stored log total slots) (room : 0 < n) :
      Stored log (total + 1) (slots.set (total % n) (log total) (Nat.mod_lt _ room))

/-- Two records closer than the ring is long have slots of their own. -/
theorem slots_differ {i j : Nat} (later : i < j) (near : j < i + n) : j % n ≠ i % n := by
  intro same
  have hi := Nat.div_add_mod i n
  have hj := Nat.div_add_mod j n
  rw [same] at hj
  rcases Nat.lt_or_ge (i / n) (j / n) with lt | le
  · have := Nat.mul_le_mul_left n (Nat.succ_le_of_lt lt)
    rw [Nat.mul_succ] at this
    omega
  · have := Nat.mul_le_mul_left n le
    omega

theorem Stored.retained {log : Nat → α} {total : Nat} {slots : Vector α n}
    (stored : Stored log total slots) {i : Nat} (inside : i < total) (kept : total ≤ i + n) :
    slots[i % n]? = some (log i) := by
  induction stored with
  | start => exact absurd inside (Nat.not_lt_zero _)
  | @store total slots before room ih =>
    have slot : i % n < n := Nat.mod_lt _ room
    rw [Vector.getElem?_eq_getElem slot]
    rcases Nat.lt_or_ge i total with earlier | now
    · have near : total < i + n := by omega
      have differs := slots_differ earlier near
      have old := ih earlier (by omega)
      rw [Vector.getElem?_eq_getElem slot] at old
      rw [Vector.getElem_set_ne _ _ differs]
      exact old
    · obtain rfl : i = total := by omega
      rw [Vector.getElem_set_self]

end

/-- The records a reader at `cursor` takes from a snapshot. -/
def readFrom (n cursor total : Nat) : List Nat :=
  List.range' (max cursor (total - n)) (total - max cursor (total - n))

theorem mem_readFrom {n cursor total i : Nat} :
    i ∈ readFrom n cursor total ↔ cursor ≤ i ∧ i < total ∧ total ≤ i + n := by
  rw [readFrom, List.mem_range'_1]
  omega

theorem readFrom_sorted (n cursor total : Nat) : (readFrom n cursor total).Pairwise (· < ·) :=
  List.pairwise_lt_range'

/-- The records taken from a sequence of snapshots, the cursor left at each total. -/
def readAll (n : Nat) : Nat → List Nat → List Nat
  | _, [] => []
  | cursor, total :: totals => readFrom n cursor total ++ readAll n total totals

/-- Each record is taken from the first snapshot that counts it, or never. -/
theorem mem_readAll {n cursor : Nat} {totals : List Nat}
    (sorted : (cursor :: totals).Pairwise (· ≤ ·)) {i : Nat} :
    i ∈ readAll n cursor totals ↔
      cursor ≤ i ∧ ∃ total, totals.find? (i < ·) = some total ∧ total ≤ i + n := by
  induction totals generalizing cursor with
  | nil => simp [readAll]
  | cons total totals ih =>
    obtain ⟨first, rest⟩ := List.pairwise_cons.mp sorted
    have ahead : cursor ≤ total := first total List.mem_cons_self
    rw [readAll, List.mem_append, mem_readFrom, ih rest, List.find?_cons]
    by_cases counted : i < total
    · simp only [counted, decide_true, Option.some.injEq, exists_eq_left', true_and]
      omega
    · simp only [counted, decide_false, false_and, and_false, false_or]
      have : total ≤ i ↔ cursor ≤ i := by omega
      rw [this]

theorem readAll_sorted {n cursor : Nat} {totals : List Nat}
    (sorted : (cursor :: totals).Pairwise (· ≤ ·)) : (readAll n cursor totals).Pairwise (· < ·) := by
  induction totals generalizing cursor with
  | nil => exact .nil
  | cons total totals ih =>
    obtain ⟨-, rest⟩ := List.pairwise_cons.mp sorted
    refine List.pairwise_append.mpr ⟨readFrom_sorted n cursor total, ih rest, ?_⟩
    intro i hi j hj
    have := mem_readFrom.mp hi
    have := (mem_readAll rest).mp hj
    omega

end Ws63Examples.Retention
