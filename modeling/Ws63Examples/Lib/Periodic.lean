import Mathlib.Algebra.Order.Ring.Nat

/-!
# A periodic action

The clock is read from time to time, and the action is taken whenever a period has
passed since it was taken last. Differences of times may wrap.
-/

namespace Ws63Examples.Periodic

section
variable {τ : Type} [Sub τ] [LE τ] [DecidableLE τ]

/-- The readings at which the action is taken, the last time apart. -/
def firings (period : τ) : τ → List τ → List τ
  | _, [] => []
  | last, now :: later =>
    if period ≤ now - last then now :: firings period now later else firings period last later

/-- When the action was taken last. -/
def latest (period last : τ) (readings : List τ) : τ := (firings period last readings).getLastD last

theorem latest_cons (period last now : τ) (later : List τ) :
    latest period last (now :: later) =
      if period ≤ now - last then latest period now later else latest period last later := by
  unfold latest
  rw [firings]
  split
  · rw [List.getLastD_cons]
  · rfl

/-- One more reading. -/
theorem firings_snoc (period last now : τ) (readings : List τ) :
    firings period last (readings ++ [now]) = firings period last readings ++
      if period ≤ now - latest period last readings then [now] else [] := by
  induction readings generalizing last with
  | nil => rfl
  | cons first later ih =>
    rw [List.cons_append, firings, firings, latest_cons]
    split
    · rw [ih, List.cons_append]
    · exact ih last

theorem latest_snoc (period last now : τ) (readings : List τ) :
    latest period last (readings ++ [now]) =
      if period ≤ now - latest period last readings then now else latest period last readings := by
  unfold latest
  rw [firings_snoc]
  change _ = if period ≤ now - latest period last readings then _ else _
  split
  · simp [List.getLastD_eq_getLast?]
  · rw [List.append_nil]

/-- Two actions in a row are a period apart. -/
theorem firings_spaced (period last : τ) (readings : List τ) :
    (last :: firings period last readings).IsChain fun a b => period ≤ b - a := by
  induction readings generalizing last with
  | nil => exact .singleton last
  | cons now later ih =>
    rw [firings]
    split
    · rename_i due
      exact .cons_cons due (ih now)
    · exact ih last

end

section
variable {period last now : UInt64} {readings : List UInt64}

/-- Right after a reading the action is not due, whatever the clock does. -/
theorem not_overdue (positive : 0 < period) :
    now - latest period last (readings ++ [now]) < period := by
  rw [latest_snoc]
  split
  · rwa [UInt64.sub_self]
  · rename_i early
    exact UInt64.not_le.mp early

end

end Ws63Examples.Periodic
