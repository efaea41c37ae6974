import Ws63Examples.Lib.History

/-!
# A watchdog over a resource that comes and goes

The watchdog looks at the resource from time to time. It arms a deadline when
it first sees the resource down, fires when a look finds the deadline passed,
arms the next one at once, and disarms when it sees the resource up.
-/

namespace Ws63Examples.Watchdog

open History

/-- One look: when, what it saw, and whether the watchdog fired. -/
structure Look where
  time : Nat
  up : Bool
  fired : Bool
  deriving DecidableEq, Repr

/-- The deadline after a look, and whether it fires. -/
def observe (period : Nat) (deadline : Option Nat) (time : Nat) (up : Bool) :
    Option Nat × Bool :=
  if up then (none, false)
  else
    match deadline with
    | some due => if due ≤ time then (some (time + period), true) else (some due, false)
    | none => (some (time + period), false)

/-- The looks of one watchdog so far, and its deadline after them. -/
inductive Watched (period : Nat) : List Look → Option Nat → Prop
  | start : Watched period [] none
  | look {past deadline} (time : Nat) (up : Bool) : Watched period past deadline →
      Watched period (past ++ [⟨time, up, (observe period deadline time up).2⟩])
        (observe period deadline time up).1

/-- The resource was down from `first` to the end of `looks` without a fire in
between, and `first` found it newly down or fired itself. -/
structure DownSince (looks : List Look) (first : Look) : Prop where
  down : first.up = false
  since : ∃ before during, looks = before ++ first :: during ∧
    (∀ x ∈ during, x.up = false ∧ x.fired = false) ∧
    (first.fired = true ∨ ∀ last, before.getLast? = some last → last.up = true)

/-- What a deadline says about the looks before it. -/
def Armed (period : Nat) (looks : List Look) : Option Nat → Prop
  | none => ∀ last, looks.getLast? = some last → last.up = true
  | some due => ∃ first, DownSince looks first ∧ due = first.time + period

theorem DownSince.snoc {looks : List Look} {first : Look} (h : DownSince looks first)
    {x : Look} (down : x.up = false) (quiet : x.fired = false) :
    DownSince (looks ++ [x]) first := by
  obtain ⟨before, during, rfl, still, why⟩ := h.since
  refine ⟨h.down, before, during ++ [x], by simp, ?_, why⟩
  intro y hy
  rcases List.mem_append.mp hy with hy | hy
  · exact still y hy
  · obtain rfl := List.mem_singleton.mp hy
    exact ⟨down, quiet⟩

theorem DownSince.last {looks : List Look} {x : Look} (down : x.up = false)
    (why : x.fired = true ∨ ∀ last, looks.getLast? = some last → last.up = true) :
    DownSince (looks ++ [x]) x :=
  ⟨down, looks, [], rfl, nofun, why⟩

theorem Watched.armed {period : Nat} {looks : List Look} {deadline : Option Nat}
    (h : Watched period looks deadline) : Armed period looks deadline := by
  induction h with
  | start => exact nofun
  | @look past deadline time up _ ih =>
    cases up with
    | true =>
      intro last hlast
      rw [List.getLast?_concat] at hlast
      cases hlast
      rfl
    | false =>
      cases deadline with
      | none => exact ⟨_, .last rfl (.inr ih), rfl⟩
      | some due =>
        by_cases passed : due ≤ time
        · have fires : observe period (some due) time false = (some (time + period), true) :=
            if_pos passed
          rw [fires]
          exact ⟨_, .last rfl (.inl rfl), rfl⟩
        · have waits : observe period (some due) time false = (some due, false) := if_neg passed
          obtain ⟨first, since, hdue⟩ := ih
          rw [waits]
          exact ⟨first, since.snoc rfl rfl, hdue⟩

/-- A watchdog fires only on a look that finds the resource down, a period
after it was first seen down or after the fire before. -/
theorem Watched.fired {period : Nat} {looks : List Look} {deadline : Option Nat}
    (h : Watched period looks deadline) {pre post : List Look} {x : Look}
    (split : looks = pre ++ x :: post) (fired : x.fired = true) :
    x.up = false ∧ ∃ first, DownSince pre first ∧ first.time + period ≤ x.time := by
  induction h generalizing post with
  | start => simp at split
  | @look past deadline time up watched ih =>
    rcases snoc_split split with ⟨rfl, rfl, -⟩ | ⟨rest, -, before⟩
    · cases up with
      | true => cases fired
      | false =>
        cases deadline with
        | none => cases fired
        | some due =>
          by_cases passed : due ≤ time
          · obtain ⟨first, since, hdue⟩ := watched.armed
            exact ⟨rfl, first, since, hdue ▸ passed⟩
          · simp [observe, passed] at fired
    · exact ih before

/-- Looks in the order of time. -/
def Ordered (looks : List Look) : Prop := looks.Pairwise fun a b => a.time ≤ b.time

/-- Whatever was up, or fired, before a fire was so a period before it. -/
theorem Watched.spaced {period : Nat} {looks : List Look} {deadline : Option Nat}
    (h : Watched period looks deadline) (ordered : Ordered looks) {pre post : List Look}
    {x y : Look} (split : looks = pre ++ x :: post) (fired : x.fired = true) (earlier : y ∈ pre)
    (seen : y.up = true ∨ y.fired = true) : y.time + period ≤ x.time := by
  obtain ⟨-, first, since, le⟩ := h.fired split fired
  obtain ⟨before, during, rfl, still, -⟩ := since.since
  have not_later : y.time ≤ first.time := by
    rcases List.mem_append.mp earlier with hy | hy
    · rw [split, Ordered, List.append_assoc] at ordered
      exact (List.pairwise_append.mp ordered).2.2 y hy first (by simp)
    · rcases List.mem_cons.mp hy with rfl | hy
      · exact Nat.le_refl _
      · obtain ⟨down, quiet⟩ := still y hy
        rcases seen with up | fired
        · cases up.symm.trans down
        · cases fired.symm.trans quiet
  omega

end Ws63Examples.Watchdog
