import Mathlib.Algebra.Order.Ring.Nat

/-!
# Mailboxes

A mailbox of a fixed depth stands between a party that posts and one that takes.
What is posted waits behind what waits already, or is dropped where the mailbox is
full, and what has waited longest is taken first.
-/

namespace Ws63Examples

structure Mailbox (ε : Type) where
  State : Type
  empty : State
  post : State → ε → State
  take : State → Option ε × State
  /-- What waits, the next to be taken first. -/
  waiting : State → List ε

namespace Mailbox

variable {ε : Type}

/-- What either party relies on. -/
structure Lawful (box : Mailbox ε) (depth : Nat) : Prop where
  empty : box.waiting box.empty = []
  kept : ∀ q e, (box.waiting q).length < depth → box.waiting (box.post q e) = box.waiting q ++ [e]
  dropped : ∀ q e, depth ≤ (box.waiting q).length → box.waiting (box.post q e) = box.waiting q
  taken : ∀ q, (box.take q).1 = (box.waiting q).head?
  left : ∀ q, box.waiting (box.take q).2 = (box.waiting q).tail

def posts (box : Mailbox ε) (q : box.State) (posted : List ε) : box.State :=
  posted.foldl box.post q

/-- What waits behind what waited before: as much as there is room for. -/
def joined (depth : Nat) (before posted : List ε) : List ε :=
  before ++ posted.take (depth - before.length)

theorem joined_nil (depth : Nat) (before : List ε) : joined depth before [] = before := by
  simp [joined]

theorem joined_single {depth : Nat} (room : 0 < depth) (e : ε) : joined depth [] [e] = [e] := by
  rw [joined, List.nil_append, List.take_of_length_le]
  exact room

/-- Nothing gets ahead of what waits. -/
theorem joined_cons (depth : Nat) (e : ε) (later posted : List ε) :
    ∃ rest, joined depth (e :: later) posted = e :: rest :=
  ⟨_, rfl⟩

theorem Lawful.posts {box : Mailbox ε} {depth : Nat} (lawful : box.Lawful depth) (q : box.State)
    (posted : List ε) : box.waiting (box.posts q posted) =
      joined depth (box.waiting q) posted := by
  induction posted generalizing q with
  | nil => exact (joined_nil _ _).symm
  | cons e posted ih =>
    refine (ih (box.post q e)).trans ?_
    unfold joined
    rcases Nat.lt_or_ge (box.waiting q).length depth with room | full
    · obtain ⟨free, more⟩ := Nat.exists_eq_add_of_lt room
      rw [lawful.kept q e room, List.length_append, List.length_singleton, List.append_assoc,
        show depth - ((box.waiting q).length + 1) = free by omega,
        show depth - (box.waiting q).length = free + 1 by omega]
      rfl
    · rw [lawful.dropped q e full, Nat.sub_eq_zero_of_le full]
      rfl

/-- A mailbox that is a list. -/
def bounded (ε : Type) (depth : Nat) : Mailbox ε where
  State := List ε
  empty := []
  post q e := if q.length < depth then q ++ [e] else q
  take q := (q.head?, q.tail)
  waiting q := q

theorem bounded_lawful (depth : Nat) : (bounded ε depth).Lawful depth where
  empty := rfl
  kept _ _ room := if_pos room
  dropped _ _ full := if_neg (Nat.not_lt.mpr full)
  taken _ := rfl
  left _ := rfl

end Mailbox

end Ws63Examples
