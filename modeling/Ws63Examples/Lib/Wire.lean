import Mathlib.Algebra.Order.Ring.Nat
import Mathlib.Data.List.Perm.Basic

/-!
# A network that loses, delays, reorders and duplicates

The packets in flight are a list whose order means nothing: any of them may be
taken out next, dropped, or copied, but none is made up.
-/

namespace Ws63Examples.Wire

section
variable {α : Type}

/-- The packet at `index`, and those that stay in flight. -/
def take (wire : List α) (index : Nat) : Option (α × List α) :=
  wire[index]?.map fun packet => (packet, wire.eraseIdx index)

def lose (wire : List α) (index : Nat) : List α := wire.eraseIdx index

def duplicate (wire : List α) (index : Nat) : List α := wire[index]?.toList ++ wire

theorem take_mem {wire rest : List α} {index : Nat} {packet : α}
    (h : take wire index = some (packet, rest)) : packet ∈ wire ∧ rest ⊆ wire := by
  obtain ⟨found, there, same⟩ := Option.map_eq_some_iff.mp h
  obtain ⟨rfl, rfl⟩ := Prod.mk.inj same
  exact ⟨List.mem_of_getElem? there, (List.eraseIdx_sublist _ _).subset⟩

/-- Taking a packet moves it and no other. -/
theorem take_perm {wire rest : List α} {index : Nat} {packet : α}
    (h : take wire index = some (packet, rest)) : wire.Perm (packet :: rest) := by
  obtain ⟨found, there, same⟩ := Option.map_eq_some_iff.mp h
  obtain ⟨rfl, rfl⟩ := Prod.mk.inj same
  obtain ⟨inside, rfl⟩ := List.getElem?_eq_some_iff.mp there
  exact (List.getElem_cons_eraseIdx_perm inside).symm

theorem lose_sublist (wire : List α) (index : Nat) : (lose wire index).Sublist wire :=
  List.eraseIdx_sublist _ _

theorem lose_subset (wire : List α) (index : Nat) : lose wire index ⊆ wire :=
  (List.eraseIdx_sublist _ _).subset

theorem duplicate_subset (wire : List α) (index : Nat) : duplicate wire index ⊆ wire := by
  intro packet h
  rcases List.mem_append.mp h with copied | there
  · exact List.mem_of_getElem? (Option.mem_toList.mp copied)
  · exact there

end

end Ws63Examples.Wire
