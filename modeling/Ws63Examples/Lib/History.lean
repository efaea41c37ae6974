import Mathlib.Algebra.Order.Ring.Nat

/-! Histories, which grow at their end. -/

namespace Ws63Examples.History

section
variable {α β : Type}

/-- A place in a history is its last entry or a place in the history before it. -/
theorem snoc_split {past pre post : List α} {last x : α}
    (split : past ++ [last] = pre ++ x :: post) :
    (past = pre ∧ last = x ∧ post = []) ∨
      ∃ rest, post = rest ++ [last] ∧ past = pre ++ x :: rest := by
  rcases List.eq_nil_or_concat post with rfl | ⟨rest, y, rfl⟩
  · left
    obtain ⟨same, entry⟩ := List.append_inj' split rfl
    exact ⟨same, List.singleton_inj.mp entry, rfl⟩
  · right
    rw [List.concat_eq_append] at split ⊢
    rw [← List.cons_append, ← List.append_assoc] at split
    obtain ⟨before, entry⟩ := List.append_inj' split rfl
    exact ⟨rest, by rw [entry], before⟩

theorem filterMap_snoc (f : α → Option β) (past : List α) (last : α) :
    (past ++ [last]).filterMap f = past.filterMap f ++ (f last).toList := by
  rw [List.filterMap_append]
  cases h : f last <;> simp [h]

/-- The last reading of a history. -/
theorem getLastD_filterMap_snoc (f : α → Option β) (past : List α) (last : α) (d : β) :
    ((past ++ [last]).filterMap f).getLastD d = (f last).getD ((past.filterMap f).getLastD d) := by
  rw [filterMap_snoc]
  cases f last with
  | none => simp
  | some b => simp [List.getLastD_eq_getLast?]

/-- The first entry of a kind is the new one only where there was none before. -/
theorem find?_snoc (p : α → Bool) (past : List α) (last : α) :
    ((past ++ [last]).find? p).toList =
      (past.find? p).toList ++ if past.any p = false ∧ p last then [last] else [] := by
  rw [List.find?_append]
  cases found : past.find? p with
  | none =>
    have before : past.any p = false := by
      rw [List.any_eq_false]
      exact fun x member => by simpa using List.find?_eq_none.mp found x member
    rw [before]
    by_cases now : p last = true
    · simp [now]
    · simp [now]
  | some x =>
    have before : past.any p = true :=
      List.any_eq_true.mpr ⟨x, List.mem_of_find?_eq_some found, List.find?_some found⟩
    simp [before]

end

end Ws63Examples.History
