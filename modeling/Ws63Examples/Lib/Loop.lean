import Ws63Examples.Lib.Word

/-!
# Loops

A `while` loop that writes as it goes, run on fuel. It stops where its body
panics or its fuel runs out; a variant says how much fuel is enough.
-/

namespace Ws63Examples.Loop

open Word

inductive Stop where
  | panicked
  | outOfFuel
  deriving DecidableEq, Repr

/-- A missing value is a panic. -/
def orPanic {α : Type} : Option α → Except Stop α
  | some a => .ok a
  | none => .error .panicked

@[simp] theorem orPanic_some {α : Type} (a : α) : orPanic (some a) = .ok a := rfl

theorem ok_bind {ε α β : Type} (a : α) (f : α → Except ε β) : (Except.ok a >>= f) = f a := rfl

theorem orPanic_bind {α β : Type} (a : α) (f : α → Except Stop β) :
    (orPanic (some a) >>= f) = f a := rfl

section
variable {σ ο : Type}

def whileLoop (cond : σ → Bool) (body : σ → Option (σ × List ο)) :
    Nat → σ → Except Stop (σ × List ο)
  | 0, _ => .error .outOfFuel
  | fuel + 1, s =>
    if cond s then
      match body s with
      | none => .error .panicked
      | some (t, out) => (whileLoop cond body fuel t).map fun r => (r.1, out ++ r.2)
    else .ok (s, [])

/-- A loop computes `result` if its body does one turn of it, keeps an invariant
and brings a variant down. -/
theorem whileLoop_eq_of {cond : σ → Bool} {body : σ → Option (σ × List ο)} (inv : σ → Prop)
    (variant : σ → Nat) (result : σ → σ × List ο)
    (done : ∀ s, inv s → cond s = false → result s = (s, []))
    (turn : ∀ s, inv s → cond s = true → ∃ t out, body s = some (t, out) ∧ inv t ∧
      variant t < variant s ∧ result s = ((result t).1, out ++ (result t).2)) {fuel : Nat} {s : σ}
    (start : inv s) (enough : variant s < fuel) : whileLoop cond body fuel s = .ok (result s) := by
  induction fuel generalizing s with
  | zero => exact absurd enough (Nat.not_lt_zero _)
  | succ fuel ih =>
    unfold whileLoop
    by_cases going : cond s = true
    · obtain ⟨t, out, next, kept, smaller, split⟩ := turn s start going
      have rest := ih kept (Nat.lt_of_lt_of_le smaller (Nat.le_of_lt_succ enough))
      simp only [going, if_true, next, rest]
      rw [split]
      rfl
    · rw [if_neg going, done s start (by simpa using going)]

/-- The same where no invariant is needed. -/
theorem whileLoop_eq {cond : σ → Bool} {body : σ → Option (σ × List ο)} (variant : σ → Nat)
    (result : σ → σ × List ο) (done : ∀ s, cond s = false → result s = (s, []))
    (turn : ∀ s, cond s = true → ∃ t out, body s = some (t, out) ∧ variant t < variant s ∧
      result s = ((result t).1, out ++ (result t).2)) {fuel : Nat} {s : σ}
    (enough : variant s < fuel) : whileLoop cond body fuel s = .ok (result s) := by
  apply whileLoop_eq_of (fun _ => True) variant result (fun s _ => done s) _ trivial enough
  intro s _ going
  obtain ⟨t, out, next, smaller, split⟩ := turn s going
  exact ⟨t, out, next, trivial, smaller, split⟩

/-- A loop whose states are known turn by turn. -/
theorem whileLoop_states {cond : σ → Bool} {body : σ → Option (σ × List ο)} (state : Nat → σ)
    (out : Nat → List ο) {n fuel : Nat}
    (going : ∀ k < n, cond (state k) = true ∧ body (state k) = some (state (k + 1), out k))
    (done : cond (state n) = false) (enough : n < fuel) :
    whileLoop cond body fuel (state 0) = .ok (state n, (List.range n).flatMap out) := by
  have from_any : ∀ rest fuel k, k + rest = n → rest < fuel →
      whileLoop cond body fuel (state k) = .ok (state n, (List.range' k rest).flatMap out) := by
    intro rest
    induction rest with
    | zero =>
      intro fuel k last enough
      obtain ⟨fuel, rfl⟩ := Nat.exists_eq_succ_of_ne_zero (Nat.ne_of_gt enough)
      obtain rfl : k = n := last
      unfold whileLoop
      rw [if_neg (by simpa using done)]
      rfl
    | succ rest ih =>
      intro fuel k more enough
      obtain ⟨fuel, rfl⟩ := Nat.exists_eq_succ_of_ne_zero (Nat.ne_of_gt (Nat.zero_lt_of_lt enough))
      obtain ⟨open_now, turn⟩ := going k (by omega)
      unfold whileLoop
      rw [if_pos open_now, turn]
      simp only [ih fuel (k + 1) (by omega) (by omega)]
      rfl
  rw [List.range_eq_range']
  exact from_any n fuel 0 (Nat.zero_add n) enough

end

/-- The indices from `a` up to `b`. -/
def span (a b : UInt32) : List UInt32 := (List.range' a.toNat (b.toNat - a.toNat)).map .ofNat

theorem span_of_le {a b : UInt32} (h : b ≤ a) : span a b = [] := by
  rw [span, Nat.sub_eq_zero_of_le (UInt32.le_iff_toNat_le.mp h)]
  rfl

theorem toNat_succ {a b : UInt32} (h : a < b) : (a + 1).toNat = a.toNat + 1 := by
  have := UInt32.lt_iff_toNat_lt.mp h
  have := b.toNat_lt
  rw [UInt32.toNat_add, UInt32.toNat_one, Nat.mod_eq_of_lt (by omega)]

theorem span_of_lt {a b : UInt32} (h : a < b) : span a b = a :: span (a + 1) b := by
  have below : a.toNat < b.toNat := UInt32.lt_iff_toNat_lt.mp h
  have length : b.toNat - a.toNat = (b.toNat - (a.toNat + 1)) + 1 := by omega
  rw [span, span, toNat_succ h, length, List.range'_succ, List.map_cons, UInt32.ofNat_toNat]

theorem span_toNat (a b : UInt32) :
    (span a b).map UInt32.toNat = List.range' a.toNat (b.toNat - a.toNat) := by
  rw [span, List.map_map]
  refine (List.map_congr_left ?_).trans (List.map_id _)
  intro i hi
  have := List.mem_range'_1.mp hi
  have := b.toNat_lt
  exact Nat.mod_eq_of_lt (by omega)

theorem mem_span {a b i : UInt32} : i ∈ span a b ↔ a ≤ i ∧ i < b := by
  have same : i ∈ span a b ↔ i.toNat ∈ (span a b).map UInt32.toNat := by
    constructor
    · exact fun h => List.mem_map_of_mem h
    · intro h
      obtain ⟨j, hj, same⟩ := List.mem_map.mp h
      exact UInt32.toNat_inj.mp same ▸ hj
  rw [same, span_toNat, List.mem_range'_1, UInt32.le_iff_toNat_le, UInt32.lt_iff_toNat_lt]
  omega

theorem span_sorted (a b : UInt32) : (span a b).Pairwise (· < ·) := by
  have sorted : ((span a b).map UInt32.toNat).Pairwise (· < ·) := by
    rw [span_toNat]
    exact List.pairwise_lt_range'
  exact (List.pairwise_map.mp sorted).imp UInt32.lt_iff_toNat_lt.mpr

theorem max_of_le {a b : UInt32} (h : b ≤ a) : max a b = a := by
  change (if a ≤ b then b else a) = a
  split
  · rename_i h'
    exact UInt32.le_antisymm h h'
  · rfl

theorem max_of_lt {a b : UInt32} (h : a < b) : max a b = b :=
  if_pos (UInt32.le_of_lt h)

theorem max_toNat (a b : UInt32) : (max a b).toNat = max a.toNat b.toNat := by
  by_cases h : a < b
  · have := UInt32.lt_iff_toNat_lt.mp h
    rw [max_of_lt h]
    omega
  · have le := UInt32.not_lt.mp h
    have := UInt32.le_iff_toNat_le.mp le
    rw [max_of_le le]
    omega

section
variable {ο : Type}

/-- `while index < total { …; index = index.wrapping_add(1) }` -/
def countUp (line : UInt32 → Option ο) (total : UInt32) (fuel : Nat) (index : UInt32) :
    Except Stop (UInt32 × List ο) :=
  whileLoop (fun index => index < total) (fun index => (line index).map fun l => (index + 1, [l]))
    fuel index

/-- The count ends, whatever the total: `2 ^ 32` turns are always enough. -/
theorem countUp_eq {line : UInt32 → Option ο} (lines : ∀ i, (line i).isSome) (total index : UInt32)
    {fuel : Nat} (enough : 2 ^ 32 ≤ fuel) :
    countUp line total fuel index = .ok (max index total, (span index total).filterMap line) := by
  apply whileLoop_eq (fun index => total.toNat - index.toNat)
    (fun index => (max index total, (span index total).filterMap line))
  · intro i past
    have le : total ≤ i := by simpa using past
    rw [span_of_le le, max_of_le le]
    rfl
  · intro i going
    have lt : i < total := of_decide_eq_true going
    have below := UInt32.lt_iff_toNat_lt.mp lt
    have next := toNat_succ lt
    obtain ⟨l, written⟩ := Option.isSome_iff_exists.mp (lines i)
    refine ⟨i + 1, [l], by rw [written]; rfl, by omega, ?_⟩
    have same : max (i + 1) total = max i total := by
      apply UInt32.toNat_inj.mp
      rw [max_toNat, max_toNat, next]
      omega
    rw [span_of_lt lt, same, List.filterMap_cons_some written]
    rfl
  · have := total.toNat_lt
    omega

end

end Ws63Examples.Loop
