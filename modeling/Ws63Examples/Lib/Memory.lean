import Mathlib.Logic.Function.Basic

/-!
# Stores into one memory

A memory behind a list of stores by several writers. What one of them wrote stands as
it was written where no two of its stores meet and the others keep off its addresses.
-/

namespace Ws63Examples.Memory

section
variable {α β : Type}

/-- Every store of a list is the last at its address. -/
def Holds (memory : α → β) (stores : List (α × β)) : Prop := ∀ s ∈ stores, memory s.1 = s.2

variable {memory : α → β} {stores : List (α × β)} {address : α} {value : β}

theorem Holds.nil : Holds memory ([] : List (α × β)) :=
  fun _ none => absurd none List.not_mem_nil

variable [DecidableEq α]

/-- One more store of the same writer, at an address of its own. -/
theorem Holds.store (h : Holds memory stores) (fresh : address ∉ stores.map Prod.fst) :
    Holds (Function.update memory address value) (stores ++ [(address, value)]) := by
  intro s member
  rcases List.mem_append.mp member with old | new
  · have other : s.1 ≠ address := fun same => fresh (same ▸ List.mem_map_of_mem old)
    rw [Function.update_of_ne other]
    exact h s old
  · obtain rfl := List.mem_singleton.mp new
    exact Function.update_self ..

/-- A store of another writer. -/
theorem Holds.foreign (h : Holds memory stores) (apart : address ∉ stores.map Prod.fst) :
    Holds (Function.update memory address value) stores :=
  fun s member => h.store apart s (List.mem_append_left _ member)

end

end Ws63Examples.Memory
