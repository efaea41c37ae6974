import Ws63Examples.Lib.History

/-!
# Paced attempts

A sender makes numbered attempts. It leaves an interval behind each success,
opens with a burst and waits for a gate before it goes on, and stops at a
limit. A failed attempt is made again under its number.
-/

namespace Ws63Examples.Pacing

open History

structure Attempt where
  time : Nat
  number : Nat
  ok : Bool
  deriving DecidableEq, Repr

/-- `gate` is the time from which the burst no longer limits the sender. -/
structure Plan where
  interval : Nat
  burst : Nat
  gate : Nat
  limit : Nat

def successes (attempts : List Attempt) : List Attempt := attempts.filter Attempt.ok

/-- What a sender needs to know before its next attempt. -/
structure Plan.Allows (plan : Plan) (past : List Attempt) (time : Nat) : Prop where
  limit : (successes past).length < plan.limit
  gate : (successes past).length < plan.burst ∨ plan.gate ≤ time
  interval : ∀ last ∈ (successes past).getLast?, last.time + plan.interval ≤ time

/-- The attempts so far of a sender that keeps to its plan. -/
inductive Paced (plan : Plan) : List Attempt → Prop
  | start : Paced plan []
  | attempt {past} (time : Nat) (ok : Bool) : Paced plan past → plan.Allows past time →
      Paced plan (past ++ [⟨time, (successes past).length, ok⟩])

theorem successes_snoc (past : List Attempt) (x : Attempt) :
    successes (past ++ [x]) = successes past ++ if x.ok then [x] else [] := by
  simp only [successes, List.filter_append, List.filter_cons, List.filter_nil]

namespace Paced

variable {plan : Plan} {attempts : List Attempt}

/-- Successes are numbered from zero, none repeated and none skipped. -/
theorem numbered (h : Paced plan attempts) :
    (successes attempts).map Attempt.number = List.range (successes attempts).length := by
  induction h with
  | start => rfl
  | attempt time ok _ _ ih =>
    rw [successes_snoc]
    cases ok with
    | false => simpa using ih
    | true =>
      rw [if_pos rfl, List.map_append, ih, List.length_append, List.length_singleton,
        List.range_succ]
      rfl

/-- Every attempt, failed or not, carries the number of successes before it. -/
theorem retried (h : Paced plan attempts) {pre post : List Attempt} {x : Attempt}
    (split : attempts = pre ++ x :: post) : x.number = (successes pre).length := by
  induction h generalizing post with
  | start => simp at split
  | attempt time ok _ _ ih =>
    rcases snoc_split split with ⟨rfl, rfl, -⟩ | ⟨rest, -, before⟩
    · rfl
    · exact ih before

theorem limited (h : Paced plan attempts) : (successes attempts).length ≤ plan.limit := by
  induction h with
  | start => exact Nat.zero_le _
  | attempt time ok _ allowed ih =>
    rw [successes_snoc]
    cases ok with
    | false => simpa using ih
    | true =>
      rw [if_pos rfl, List.length_append]
      exact allowed.limit

/-- No more than the burst succeeds before the gate. -/
theorem gated (h : Paced plan attempts) :
    (successes attempts).countP (fun x => x.time < plan.gate) ≤ plan.burst := by
  induction h with
  | start => exact Nat.zero_le _
  | @attempt past time ok _ allowed ih =>
    rw [successes_snoc]
    cases ok with
    | false => simpa using ih
    | true =>
      rw [if_pos rfl, List.countP_append, List.countP_singleton]
      have all : (successes past).countP (fun x => x.time < plan.gate) ≤ (successes past).length :=
        List.countP_le_length
      rcases allowed.gate with few | late
      · split <;> omega
      · rw [if_neg (by simpa using late)]
        exact ih

theorem last_latest {past : List Attempt}
    (spaced : (successes past).Pairwise fun a b => a.time + plan.interval ≤ b.time)
    {a : Attempt} (ha : a ∈ successes past) :
    ∃ last ∈ (successes past).getLast?, a.time ≤ last.time := by
  rcases List.eq_nil_or_concat (successes past) with none | ⟨init, last, split⟩
  · rw [none] at ha
    cases ha
  · rw [List.concat_eq_append] at split
    rw [split] at ha spaced ⊢
    refine ⟨last, List.getLast?_concat, ?_⟩
    rcases List.mem_append.mp ha with earlier | same
    · have := (List.pairwise_append.mp spaced).2.2 a earlier last List.mem_cons_self
      exact Nat.le_trans (Nat.le_add_right _ _) this
    · exact Nat.le_of_eq (congrArg Attempt.time (List.mem_singleton.mp same))

/-- Any two successes are an interval apart. -/
theorem spaced (h : Paced plan attempts) :
    (successes attempts).Pairwise fun a b => a.time + plan.interval ≤ b.time := by
  induction h with
  | start => exact .nil
  | attempt time ok _ allowed ih =>
    rw [successes_snoc]
    cases ok with
    | false => simpa using ih
    | true =>
      rw [if_pos rfl]
      refine List.pairwise_append.mpr ⟨ih, List.pairwise_singleton _ _, ?_⟩
      intro a ha b hb
      obtain rfl := List.mem_singleton.mp hb
      obtain ⟨last, hlast, le⟩ := last_latest ih ha
      exact Nat.le_trans (Nat.add_le_add_right le _) (allowed.interval last hlast)

end Paced

end Ws63Examples.Pacing
