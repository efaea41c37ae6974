import Mathlib.Algebra.Order.Ring.Nat

/-!
# A deadline that moves on

Items come with a time each. One that finds the deadline passed fires, and sets the
deadline that the later ones are held against.
-/

namespace Ws63Examples.Deadline

section
variable {τ α : Type} [LE τ] [DecidableLE τ] (time : α → τ) (next : τ → τ)

/-- The items that fire. -/
def firings (due : τ) : List α → List α
  | [] => []
  | item :: later =>
    if due ≤ time item then item :: firings (next (time item)) later else firings due later

/-- The deadline behind some items. -/
def deadline (due : τ) : List α → τ
  | [] => due
  | item :: later =>
    if due ≤ time item then deadline (next (time item)) later else deadline due later

/-- One more item. -/
theorem firings_snoc (due : τ) (items : List α) (item : α) :
    firings time next due (items ++ [item]) = firings time next due items ++
      if deadline time next due items ≤ time item then [item] else [] := by
  induction items generalizing due with
  | nil => rfl
  | cons first later ih =>
    rw [List.cons_append, firings, firings, deadline]
    split
    · rw [ih, List.cons_append]
    · exact ih due

theorem deadline_snoc (due : τ) (items : List α) (item : α) :
    deadline time next due (items ++ [item]) =
      if deadline time next due items ≤ time item then next (time item)
      else deadline time next due items := by
  induction items generalizing due with
  | nil => rfl
  | cons first later ih =>
    rw [List.cons_append, deadline, deadline]
    split
    · exact ih _
    · exact ih due

/-- An item that fires meets the deadline that the one before it set. -/
theorem firings_spaced (last : τ) (items : List α) :
    (last :: (firings time next (next last) items).map time).IsChain fun a b => next a ≤ b := by
  induction items generalizing last with
  | nil => exact .singleton last
  | cons item later ih =>
    rw [firings]
    split
    · rename_i passed
      exact .cons_cons passed (ih (time item))
    · exact ih last

end

end Ws63Examples.Deadline
