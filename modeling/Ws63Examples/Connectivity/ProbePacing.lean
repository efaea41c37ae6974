import Ws63Examples.Connectivity.LocalProbe
import Ws63Examples.Lib.Pacing

/-! When the local probe sends. -/

namespace Ws63Examples.Connectivity.LocalProbe

open Execution History Pacing Word

variable {stack : Smoltcp}

/-- A reading of the clock, in milliseconds. -/
def reading (m : Probing stack) : Option Nat :=
  match m.input with
  | .clock ticks => some (monotonicMs ticks).toNat
  | _ => none

def readings (ms : List (Probing stack)) : List Nat := ms.filterMap reading

/-- A `send_slice`: the reading it was decided on and the byte it carries. -/
def attempt (m : Probing stack) : Option Attempt :=
  match m.before.point, m.effects with
  | .send current, [.send [sequence] _ ok] => some ⟨current.toNat, sequence.toNat, ok⟩
  | _, _ => none

def attempts (ms : List (Probing stack)) : List Attempt := ms.filterMap attempt

/-- The reading on which the recovery marker was written. -/
def marker (m : Probing stack) : Option Nat :=
  if m.effects.any fun e => e matches .write (.localEchoRecovery _) then reading m else none

def markers (ms : List (Probing stack)) : List Nat := ms.filterMap marker

/-- The probe's plan once it has read its start from the clock. -/
def plan (s : LocalProbe stack) : Plan where
  interval := localProbeIntervalMs.toNat
  burst := localProbePrimaryAttempts
  gate := s.startedAt.toNat + localProbeRecoveryDelayMs.toNat
  limit := localProbeAttempts

section
variable (ms : List (Probing stack)) (m : Probing stack)

theorem readings_snoc : readings (ms ++ [m]) = readings ms ++ (reading m).toList :=
  filterMap_snoc reading ms m

theorem attempts_snoc : attempts (ms ++ [m]) = attempts ms ++ (attempt m).toList :=
  filterMap_snoc attempt ms m

theorem markers_snoc : markers (ms ++ [m]) = markers ms ++ (marker m).toList :=
  filterMap_snoc marker ms m

end

theorem monotonicMs_small (ticks : UInt64) : (monotonicMs ticks).toNat ≤ (2 ^ 64 - 1) / 24000 := by
  have := ticks.toNat_lt
  simp only [monotonicMs, UInt64.toNat_div, UInt64.reduceToNat]
  omega

/-- A comparison of an elapsed time is one of readings. -/
theorem le_elapsed {period since now : UInt64} (later : since.toNat ≤ now.toNat) :
    period ≤ now - since ↔ since.toNat + period.toNat ≤ now.toNat := by
  rw [UInt64.le_iff_toNat_le, UInt64.toNat_sub_of_le _ _ (UInt64.le_iff_toNat_le.mpr later)]
  omega

/-- Before the first success the interval has always passed: the difference
does not wrap because no reading comes near the width. -/
theorem interval_open {started now : UInt64} (later : started.toNat ≤ now.toNat)
    (small : now.toNat ≤ (2 ^ 64 - 1) / 24000) :
    localProbeIntervalMs ≤ now - (started - localProbeIntervalMs) := by
  have interval : localProbeIntervalMs.toNat = 500 := rfl
  rw [UInt64.le_iff_toNat_le, UInt64.toNat_sub, UInt64.toNat_sub, interval]
  omega

/-- The probe may send, as decided on the reading `current`. -/
structure Ready (ms : List (Probing stack)) (s : LocalProbe stack) (current : Nat) : Prop where
  read : (readings ms).getLast? = some current
  allows : s.plan.Allows (attempts ms) current
  announced : localProbePrimaryAttempts ≤ s.sent → s.recoveryAnnounced = true

/-- The pacing variables after a history of moves. -/
structure Paces (ms : List (Probing stack)) (s : LocalProbe stack) : Prop where
  begun : s.point ≠ .start → (readings ms).head? = some s.startedAt.toNat
  idle : s.point = .start → ms = []
  small : ∀ time ∈ readings ms, time ≤ (2 ^ 64 - 1) / 24000
  paced : Paced s.plan (attempts ms)
  sent : s.sent = (successes (attempts ms)).length
  fresh : s.point ≠ .start → successes (attempts ms) = [] →
    s.lastSendAt = s.startedAt - localProbeIntervalMs
  last : ∀ a ∈ (successes (attempts ms)).getLast?,
    s.lastSendAt.toNat = a.time ∧ a.time ∈ readings ms
  sending : ∀ current, s.point = .send current → Ready ms s current.toNat
  waiting : s.point = .wait → attempts ms ≠ []
  announced : s.recoveryAnnounced = true ↔ markers ms ≠ []
  once : (markers ms).length ≤ 1
  late : ∀ time ∈ markers ms, s.plan.gate ≤ time
  marked : localProbePrimaryAttempts < s.sent → s.recoveryAnnounced = true

theorem begin_paces (net : Net stack) (target : Ipv4Address) : Paces [] (begin net target) := by
  constructor
  case begun =>
    intro moved
    exact absurd rfl moved
  case idle => exact fun _ => rfl
  case paced => exact .start
  case sent => rfl
  case fresh =>
    intro moved
    exact absurd rfl moved
  case announced => exact ⟨nofun, fun marked => absurd rfl marked⟩
  case once => exact Nat.zero_le _
  case marked =>
    intro many
    exact absurd many (Nat.not_lt_zero _)
  all_goals nofun

theorem unmarked_of_unread {m : Probing stack} (unread : reading m = none) : marker m = none := by
  unfold marker
  split
  · exact unread
  · rfl

theorem kept {ms : List (Probing stack)} {time : Nat} (h : time ∈ readings ms)
    (m : Probing stack) : time ∈ readings (ms ++ [m]) := by
  rw [readings_snoc]
  exact List.mem_append_left _ h

theorem first_kept {ms : List (Probing stack)} {time : Nat} (h : (readings ms).head? = some time)
    (m : Probing stack) : (readings (ms ++ [m])).head? = some time := by
  rw [readings_snoc, List.head?_append, h]
  rfl

theorem small_snoc {ms : List (Probing stack)} (small : ∀ time ∈ readings ms,
    time ≤ (2 ^ 64 - 1) / 24000) (m : Probing stack) :
    ∀ time ∈ readings (ms ++ [m]), time ≤ (2 ^ 64 - 1) / 24000 := by
  intro time h
  rw [readings_snoc] at h
  rcases List.mem_append.mp h with h | h
  · exact small time h
  · unfold reading at h
    split at h
    · obtain rfl := List.mem_singleton.mp h
      exact monotonicMs_small _
    · cases h

/-- What has to be shown of a move that does not send. -/
theorem Paces.keep {ms : List (Probing stack)} {s t : LocalProbe stack} (paces : Paces ms s)
    {input : Input stack} {out : List Effect} (moved : s.point ≠ .start) (moving : t.point ≠ .start)
    (same : t.startedAt = s.startedAt ∧ t.sent = s.sent ∧ t.lastSendAt = s.lastSendAt)
    (unsent : attempt ⟨s, input, out, t⟩ = none)
    (sending : ∀ current, t.point = .send current →
      Ready (ms ++ [⟨s, input, out, t⟩]) t current.toNat)
    (waiting : t.point = .wait → attempts ms ≠ [])
    (announced : t.recoveryAnnounced = true ↔ markers (ms ++ [⟨s, input, out, t⟩]) ≠ [])
    (once : (markers (ms ++ [⟨s, input, out, t⟩])).length ≤ 1)
    (late : ∀ time ∈ markers (ms ++ [⟨s, input, out, t⟩]), s.plan.gate ≤ time)
    (marked : localProbePrimaryAttempts < s.sent → t.recoveryAnnounced = true) :
    Paces (ms ++ [⟨s, input, out, t⟩]) t := by
  obtain ⟨started, sent, lastSend⟩ := same
  have plan : t.plan = s.plan := by rw [LocalProbe.plan, started, LocalProbe.plan]
  have attempts_same : attempts (ms ++ [⟨s, input, out, t⟩]) = attempts ms := by
    rw [attempts_snoc, unsent, Option.toList_none, List.append_nil]
  constructor
  case begun =>
    intro _
    rw [started]
    exact first_kept (paces.begun moved) _
  case idle => exact fun at_start => absurd at_start moving
  case small => exact small_snoc paces.small _
  case paced =>
    rw [plan, attempts_same]
    exact paces.paced
  case sent =>
    rw [sent, attempts_same]
    exact paces.sent
  case fresh =>
    intro _ none
    rw [lastSend, started]
    rw [attempts_same] at none
    exact paces.fresh moved none
  case last =>
    intro a ha
    rw [attempts_same] at ha
    obtain ⟨at_a, read⟩ := paces.last a ha
    exact ⟨lastSend ▸ at_a, kept read _⟩
  case sending => exact sending
  case waiting =>
    rw [attempts_same]
    exact waiting
  case announced => exact announced
  case once => exact once
  case late =>
    rw [plan]
    exact late
  case marked =>
    rw [sent]
    exact marked

/-- A move that neither starts the clock, nor paces, nor sends. -/
theorem Paces.pass {ms : List (Probing stack)} {s t : LocalProbe stack} (paces : Paces ms s)
    {input : Input stack} {out : List Effect} (moved : s.point ≠ .start) (moving : t.point ≠ .start)
    (same : t.startedAt = s.startedAt ∧ t.sent = s.sent ∧ t.lastSendAt = s.lastSendAt)
    (unannounced : t.recoveryAnnounced = s.recoveryAnnounced)
    (unsent : attempt ⟨s, input, out, t⟩ = none) (unmarked : marker ⟨s, input, out, t⟩ = none)
    (idle : ∀ current, t.point ≠ .send current) (going : t.point ≠ .wait) :
    Paces (ms ++ [⟨s, input, out, t⟩]) t := by
  have markers_same : markers (ms ++ [⟨s, input, out, t⟩]) = markers ms := by
    rw [markers_snoc, unmarked, Option.toList_none, List.append_nil]
  apply paces.keep moved moving same unsent
  · exact fun current sending => absurd sending (idle current)
  · exact fun waiting => absurd waiting going
  · rw [unannounced, markers_same]
    exact paces.announced
  · rw [markers_same]
    exact paces.once
  · rw [markers_same]
    exact paces.late
  · rw [unannounced]
    exact paces.marked

/-- The recovery marker is written when due, and only the first time. -/
theorem announce_cases (s : LocalProbe stack) (current : UInt64) :
    (∃ elapsed, s.announce current =
        ({ s with recoveryAnnounced := true }, [.write (.localEchoRecovery elapsed)]) ∧
      s.sent = localProbePrimaryAttempts ∧ s.recoveryReady current = true ∧
      s.recoveryAnnounced = false) ∨
    (s.announce current = (s, []) ∧ (s.sent = localProbePrimaryAttempts →
      s.recoveryReady current = true → s.recoveryAnnounced = true)) := by
  unfold announce
  split
  · rename_i due
    left
    exact ⟨_, rfl, due.1, due.2.1, Bool.eq_false_iff.mpr due.2.2⟩
  · rename_i not_due
    right
    refine ⟨rfl, ?_⟩
    intro all ready
    by_contra unannounced
    exact not_due ⟨all, ready, unannounced⟩

theorem recoveryReady_iff {s : LocalProbe stack} {current : UInt64}
    (later : s.startedAt.toNat ≤ current.toNat) :
    s.recoveryReady current = true ↔
      s.sent < localProbePrimaryAttempts ∨ s.plan.gate ≤ current.toNat := by
  rw [recoveryReady, Bool.or_eq_true, decide_eq_true_eq, decide_eq_true_eq, le_elapsed later]
  rfl

/-- What the pacing decision finds due is what the plan allows. -/
theorem Paces.allows {ms : List (Probing stack)} {s : LocalProbe stack} (paces : Paces ms s)
    (moved : s.point ≠ .start) {current : UInt64}
    (latest : ∀ time ∈ readings ms, time ≤ current.toNat) (due : s.due current = true) :
    s.plan.Allows (attempts ms) current.toNat ∧ s.recoveryReady current = true := by
  simp only [LocalProbe.due, Bool.and_eq_true, decide_eq_true_eq] at due
  obtain ⟨⟨few, ready⟩, spaced⟩ := due
  have later := latest _ (List.mem_of_head? (paces.begun moved))
  refine ⟨⟨?_, ?_, ?_⟩, ready⟩
  · rw [← paces.sent]
    exact few
  · rw [← paces.sent]
    exact (recoveryReady_iff later).mp ready
  · intro a ha
    obtain ⟨at_a, read⟩ := paces.last a ha
    rw [← at_a]
    exact (le_elapsed (at_a ▸ latest _ read)).mp spaced

/-- As long as nothing succeeded, an attempt is due. -/
theorem Paces.due {ms : List (Probing stack)} {s : LocalProbe stack} (paces : Paces ms s)
    (moved : s.point ≠ .start) {ticks : UInt64}
    (latest : ∀ time ∈ readings ms, time ≤ (monotonicMs ticks).toNat)
    (none : successes (attempts ms) = []) : s.due (monotonicMs ticks) = true := by
  have nothing : s.sent = 0 := by rw [paces.sent, none, List.length_nil]
  have opened := interval_open (latest _ (List.mem_of_head? (paces.begun moved)))
    (monotonicMs_small ticks)
  simp only [LocalProbe.due, LocalProbe.recoveryReady, nothing, paces.fresh moved none, opened,
    decide_true, Bool.and_true]
  rfl

theorem Paces.start {ms : List (Probing stack)} {s : LocalProbe stack} (paces : Paces ms s)
    (at_point : s.point = .start) (ticks : UInt64) {t : LocalProbe stack} {out : List Effect}
    (ht : t = { s with
      startedAt := monotonicMs ticks
      lastSendAt := monotonicMs ticks - localProbeIntervalMs
      point := .loopHead }) (silent : out = [.write (.localNeighborBegin s.target)]) :
    Paces (ms ++ [⟨s, .clock ticks, out, t⟩]) t := by
  obtain rfl := paces.idle at_point
  subst ht silent
  have no_attempts : attempts [(⟨s, .clock ticks, [.write (.localNeighborBegin s.target)],
      { s with
        startedAt := monotonicMs ticks
        lastSendAt := monotonicMs ticks - localProbeIntervalMs
        point := .loopHead }⟩ : Probing stack)] = [] := by
    simp only [attempts, attempt, at_point, List.filterMap_cons_none, List.filterMap_nil]
  rw [List.nil_append]
  constructor
  case begun => exact fun _ => rfl
  case idle => nofun
  case small => exact small_snoc paces.small _
  case paced =>
    rw [no_attempts]
    exact .start
  case sent =>
    rw [no_attempts]
    exact paces.sent
  case fresh => exact fun _ _ => rfl
  case last =>
    rw [no_attempts]
    nofun
  case sending => nofun
  case waiting => nofun
  case announced => exact paces.announced
  case once => exact Nat.zero_le _
  case late => nofun
  case marked => exact paces.marked

/-- The pacing decision, whatever was announced on it. -/
theorem Paces.decide {ms : List (Probing stack)} {s t : LocalProbe stack} (paces : Paces ms s)
    (at_point : s.point = .pace) (ticks : UInt64)
    (latest : ∀ time ∈ readings ms, time ≤ (monotonicMs ticks).toNat) {announced : Bool}
    {out : List Effect}
    (ht : t = { s with
      recoveryAnnounced := announced
      point := if s.due (monotonicMs ticks) then .send (monotonicMs ticks) else .wait })
    (known : s.recoveryReady (monotonicMs ticks) = true →
      localProbePrimaryAttempts ≤ s.sent → announced = true)
    (marked : localProbePrimaryAttempts < s.sent → announced = true)
    (marks : announced = true ↔ markers (ms ++ [⟨s, .clock ticks, out, t⟩]) ≠ [])
    (once : (markers (ms ++ [⟨s, .clock ticks, out, t⟩])).length ≤ 1)
    (late : ∀ time ∈ markers (ms ++ [⟨s, .clock ticks, out, t⟩]), s.plan.gate ≤ time) :
    Paces (ms ++ [⟨s, .clock ticks, out, t⟩]) t := by
  have moved : s.point ≠ .start := by
    rw [at_point]
    nofun
  have unsent : attempt (⟨s, .clock ticks, out, t⟩ : Probing stack) = none := by
    simp only [attempt, at_point]
  have here : t.point = if s.due (monotonicMs ticks) then .send (monotonicMs ticks) else .wait := by
    rw [ht]
  have flagged : t.recoveryAnnounced = announced := by rw [ht]
  refine paces.keep moved ?_ (by rw [ht]; exact ⟨rfl, rfl, rfl⟩) unsent ?_ ?_ (flagged ▸ marks)
    once late (flagged ▸ marked)
  · rw [here]
    split <;> nofun
  · intro current sending
    rw [here] at sending
    split at sending
    · rename_i due
      cases sending
      obtain ⟨allows, ready⟩ := paces.allows moved latest due
      refine ⟨?_, ?_, ?_⟩
      · rw [readings_snoc]
        exact List.getLast?_concat
      · rw [attempts_snoc, unsent, Option.toList_none, List.append_nil, ht]
        exact allows
      · rw [ht]
        exact known ready
    · cases sending
  · intro waiting none
    rw [here, if_pos (paces.due moved latest (by rw [none]; rfl))] at waiting
    cases waiting

theorem Paces.pace {ms : List (Probing stack)} {s : LocalProbe stack} (paces : Paces ms s)
    (at_point : s.point = .pace) (ticks : UInt64)
    (latest : ∀ time ∈ readings ms, time ≤ (monotonicMs ticks).toNat) {t : LocalProbe stack}
    {out : List Effect}
    (ht : t = { (s.announce (monotonicMs ticks)).1 with
      point := if (s.announce (monotonicMs ticks)).1.due (monotonicMs ticks)
        then .send (monotonicMs ticks) else .wait })
    (hout : out = (s.announce (monotonicMs ticks)).2) :
    Paces (ms ++ [⟨s, .clock ticks, out, t⟩]) t := by
  have moved : s.point ≠ .start := by
    rw [at_point]
    nofun
  rcases announce_cases s (monotonicMs ticks) with
    ⟨elapsed, announced, all, ready, unannounced⟩ | ⟨silent, known⟩
  · rw [announced] at ht hout
    have first : markers ms = [] := by
      by_contra marked
      exact absurd (paces.announced.mpr marked) (by rw [unannounced]; nofun)
    have marks : markers (ms ++ [⟨s, .clock ticks, out, t⟩]) = [(monotonicMs ticks).toNat] := by
      rw [markers_snoc, first, hout]
      rfl
    apply paces.decide at_point ticks latest ht (fun _ _ => rfl) (fun _ => rfl)
    · rw [marks]
      exact ⟨fun _ => List.cons_ne_nil _ _, fun _ => rfl⟩
    · rw [marks]
      exact le_rfl
    · rw [marks]
      intro time h
      obtain rfl := List.mem_singleton.mp h
      have later := latest _ (List.mem_of_head? (paces.begun moved))
      rcases (recoveryReady_iff later).mp ready with few | late
      · exact absurd few (all ▸ Nat.lt_irrefl _)
      · exact late
  · rw [silent] at ht hout
    have marks : markers (ms ++ [⟨s, .clock ticks, out, t⟩]) = markers ms := by
      rw [markers_snoc, hout]
      exact List.append_nil _
    refine paces.decide at_point ticks latest ht ?_ paces.marked ?_ ?_ ?_
    · intro ready many
      rcases Nat.eq_or_lt_of_le many with all | more
      · exact known all.symm ready
      · exact paces.marked more
    · rw [marks]
      exact paces.announced
    · rw [marks]
      exact paces.once
    · rw [marks]
      exact paces.late

theorem attempt_sendProbe {s : LocalProbe stack} {current : UInt64}
    (at_point : s.point = .send current) (few : s.sent < localProbeAttempts) (ok : Bool)
    (t : LocalProbe stack) :
    attempt (⟨s, .sendSlice ok, (s.sendProbe current ok).2, t⟩ : Probing stack) =
      some ⟨current.toNat, s.sent, ok⟩ := by
  have carried : (UInt8.ofNat s.sent).toNat = s.sent :=
    UInt8.toNat_ofNat_of_lt' (Nat.lt_trans few (by decide))
  have effect : (s.sendProbe current ok).2 = [.send [.ofNat s.sent] s.endpoint ok] := by
    rw [sendProbe]
    split <;> rfl
  simp only [attempt, at_point, effect, carried]

/-- Below the limit the count does not saturate. -/
theorem sendProbe_few {s : LocalProbe stack} (few : s.sent < localProbeAttempts)
    (current : UInt64) (ok : Bool) :
    (s.sendProbe current ok).1 =
      if ok then { s with sent := s.sent + 1, lastSendAt := current, point := .wait }
      else { s with point := .wait } := by
  rw [sendProbe]
  cases ok with
  | false => rfl
  | true =>
    have counted : saturatingAdd u8Max s.sent 1 = s.sent + 1 :=
      saturatingAdd_of_le (Nat.le_trans few (by decide))
    simp only [if_true, counted]

/-- One attempt, taken or refused. -/
theorem Paces.send {ms : List (Probing stack)} {s : LocalProbe stack} (paces : Paces ms s)
    {current : UInt64} (at_point : s.point = .send current) (ok : Bool) {t : LocalProbe stack}
    {out : List Effect} (ht : t = (s.sendProbe current ok).1)
    (hout : out = (s.sendProbe current ok).2) :
    Paces (ms ++ [⟨s, .sendSlice ok, out, t⟩]) t := by
  have moved : s.point ≠ .start := by
    rw [at_point]
    nofun
  obtain ⟨read, allows, announced⟩ := paces.sending current at_point
  have few : s.sent < localProbeAttempts := by
    rw [paces.sent]
    exact allows.limit
  have sent : attempt (⟨s, .sendSlice ok, out, t⟩ : Probing stack) =
      some ⟨current.toNat, (successes (attempts ms)).length, ok⟩ := by
    rw [hout, attempt_sendProbe at_point few, paces.sent]
  have attempts_more : attempts (ms ++ [⟨s, .sendSlice ok, out, t⟩]) =
      attempts ms ++ [⟨current.toNat, (successes (attempts ms)).length, ok⟩] := by
    rw [attempts_snoc, sent, Option.toList_some]
  have markers_same : markers (ms ++ [⟨s, .sendSlice ok, out, t⟩]) = markers ms := by
    rw [markers_snoc, unmarked_of_unread (m := ⟨s, .sendSlice ok, out, t⟩) rfl, Option.toList_none,
      List.append_nil]
  have again : Paced s.plan (attempts (ms ++ [⟨s, .sendSlice ok, out, t⟩])) := by
    rw [attempts_more]
    exact paces.paced.attempt current.toNat ok allows
  have successes_more : successes (attempts (ms ++ [⟨s, .sendSlice ok, out, t⟩])) =
      successes (attempts ms) ++ if ok then
        [⟨current.toNat, (successes (attempts ms)).length, ok⟩] else [] := by
    rw [attempts_more, successes_snoc]
  have after := ht.trans (sendProbe_few few current ok)
  have same : t.startedAt = s.startedAt ∧ t.recoveryAnnounced = s.recoveryAnnounced ∧
      t.point = .wait := by
    rw [after]
    split <;> exact ⟨rfl, rfl, rfl⟩
  obtain ⟨started, flagged, here⟩ := same
  have plan : t.plan = s.plan := by rw [LocalProbe.plan, started, LocalProbe.plan]
  constructor
  case begun =>
    intro _
    rw [started]
    exact first_kept (paces.begun moved) _
  case idle =>
    rw [here]
    nofun
  case small => exact small_snoc paces.small _
  case paced => exact plan ▸ again
  case sent =>
    rw [successes_more, List.length_append, after, ← paces.sent]
    cases ok <;> rfl
  case fresh =>
    intro _ none
    rw [successes_more] at none
    cases ok with
    | false =>
      rw [after]
      exact paces.fresh moved (List.append_eq_nil_iff.mp none).1
    | true => exact absurd (List.append_eq_nil_iff.mp none).2 (List.cons_ne_nil _ _)
  case last =>
    intro a ha
    rw [successes_more] at ha
    cases ok with
    | false =>
      rw [if_neg nofun, List.append_nil] at ha
      obtain ⟨at_a, earlier⟩ := paces.last a ha
      rw [after]
      exact ⟨at_a, kept earlier _⟩
    | true =>
      rw [if_pos rfl, List.getLast?_concat] at ha
      cases ha
      rw [after]
      exact ⟨rfl, kept (List.mem_of_getLast? read) _⟩
  case sending =>
    rw [here]
    nofun
  case waiting =>
    intro _
    rw [attempts_more]
    exact List.append_ne_nil_of_right_ne_nil _ (List.cons_ne_nil _ _)
  case announced =>
    rw [flagged, markers_same]
    exact paces.announced
  case once =>
    rw [markers_same]
    exact paces.once
  case late =>
    rw [plan, markers_same]
    exact paces.late
  case marked =>
    intro many
    rw [flagged]
    apply announced
    have := many
    rw [after] at this
    cases ok with
    | false => exact Nat.le_of_lt this
    | true => exact Nat.le_of_lt_succ this

/-- A datagram does not touch the pacing variables. -/
theorem receive_same (s : LocalProbe stack) (response : Datagram) :
    ((s.receive response).1.startedAt = s.startedAt ∧ (s.receive response).1.sent = s.sent ∧
      (s.receive response).1.lastSendAt = s.lastSendAt) ∧
    (s.receive response).1.recoveryAnnounced = s.recoveryAnnounced ∧
    ((s.receive response).1.point = s.point ∨ (s.receive response).1.point = .panicked) := by
  unfold receive
  split
  · split
    · split
      · exact ⟨⟨rfl, rfl, rfl⟩, rfl, .inr rfl⟩
      · split <;> exact ⟨⟨rfl, rfl, rfl⟩, rfl, .inl rfl⟩
    · exact ⟨⟨rfl, rfl, rfl⟩, rfl, .inl rfl⟩
  · exact ⟨⟨rfl, rfl, rfl⟩, rfl, .inl rfl⟩

theorem step_paces {ms : List (Probing stack)} {s t : LocalProbe stack} (paces : Paces ms s)
    {input : Input stack} {out : List Effect}
    (h : localNeighborProbe s input = some (t, out))
    (ordered : (readings (ms ++ [⟨s, input, out, t⟩])).Pairwise (· ≤ ·)) :
    Paces (ms ++ [⟨s, input, out, t⟩]) t := by
  have quiet {p : Point} (at_point : s.point = p) (begun : p ≠ .start) : s.point ≠ .start :=
    at_point ▸ begun
  cases step_cases h with
  | start at_point ticks => exact paces.start at_point ticks rfl rfl
  | pace at_point ticks =>
    refine paces.pace at_point ticks ?_ rfl rfl
    intro time earlier
    rw [readings_snoc] at ordered
    exact (List.pairwise_append.mp ordered).2.2 time earlier _ (List.mem_singleton_self _)
  | send current at_point ok => exact paces.send at_point ok rfl rfl
  | enter at_point | finish at_point =>
    refine paces.pass (quiet at_point nofun) nofun ⟨rfl, rfl, rfl⟩ rfl ?_ rfl nofun nofun
    simp only [attempt, at_point]
  | poll at_point | pollPanic at_point | drained at_point | exit at_point | resume at_point =>
    refine paces.pass (quiet at_point nofun) nofun ⟨rfl, rfl, rfl⟩ rfl ?_
      (unmarked_of_unread rfl) nofun nofun
    simp only [attempt, at_point]
  | receive at_point response =>
    obtain ⟨same, flagged, here⟩ := receive_same s response
    rw [at_point] at here
    refine paces.pass (quiet at_point nofun) ?_ same flagged ?_ (unmarked_of_unread rfl) ?_ ?_
    · rcases here with here | here <;>
        · rw [here]
          nofun
    · simp only [attempt, at_point]
    · intro current
      rcases here with here | here <;>
        · rw [here]
          nofun
    · rcases here with here | here <;>
        · rw [here]
          nofun

theorem run_paces {net : Net stack} {target : Ipv4Address} {ms : List (Probing stack)}
    {s : LocalProbe stack} (run : Run localNeighborProbe (begin net target) ms s)
    (ordered : (readings ms).Pairwise (· ≤ ·)) : Paces ms s := by
  revert ordered
  refine run.history (P := fun ms s => (readings ms).Pairwise (· ≤ ·) → Paces ms s)
    (fun _ => begin_paces net target) ?_
  intro ms u input v out _ ih h ordered
  refine step_paces (ih ?_) h ordered
  rw [readings_snoc] at ordered
  exact (List.pairwise_append.mp ordered).1

theorem prefix_ordered {ms pre post : List (Probing stack)} {m : Probing stack}
    (split : ms = pre ++ m :: post) (ordered : (readings ms).Pairwise (· ≤ ·)) :
    (readings (pre ++ [m])).Pairwise (· ≤ ·) := by
  rw [split, List.append_cons, readings, List.filterMap_append] at ordered
  exact (List.pairwise_append.mp ordered).1

/-- A move of a run, with what its history says of the pacing variables. -/
theorem at_move {net : Net stack} {target : Ipv4Address} {ms pre post : List (Probing stack)}
    {m : Probing stack} {s : LocalProbe stack}
    (run : Run localNeighborProbe (begin net target) ms s)
    (ordered : (readings ms).Pairwise (· ≤ ·)) (split : ms = pre ++ m :: post) :
    Paces pre m.before ∧ localNeighborProbe m.before m.input = some (m.after, m.effects) := by
  have first := prefix_ordered split ordered
  rw [readings_snoc] at first
  subst split
  obtain ⟨before, step, -⟩ := run.at_move
  exact ⟨run_paces before (List.pairwise_append.mp first).1, step⟩

/-- Until a probe has been taken, every pass of the loop decides to send. -/
theorem pace_sends {net : Net stack} {target : Ipv4Address} {ms pre post : List (Probing stack)}
    {m : Probing stack} {s : LocalProbe stack}
    (run : Run localNeighborProbe (begin net target) ms s)
    (ordered : (readings ms).Pairwise (· ≤ ·)) (split : ms = pre ++ m :: post)
    (at_point : m.before.point = .pace) (none : successes (attempts pre) = []) :
    ∃ current, m.after.point = .send current := by
  obtain ⟨paces, step⟩ := at_move run ordered split
  have first := prefix_ordered split ordered
  rw [readings_snoc] at first
  have moved : m.before.point ≠ .start := by
    rw [at_point]
    nofun
  obtain ⟨s, input, out, t⟩ := m
  have cases_of : Step s input t out := step_cases step
  cases cases_of with
  | pace _ ticks =>
    have latest : ∀ time ∈ readings pre, time ≤ (monotonicMs ticks).toNat := fun time earlier =>
      (List.pairwise_append.mp first).2.2 time earlier _ (List.mem_singleton_self _)
    have due := paces.due moved latest none
    rw [announce_same]
    exact ⟨_, if_pos due⟩
  | start here | enter here | finish here | poll here | pollPanic here | receive here
  | drained here | send _ here | exit here | resume here => cases here.symm.trans at_point

theorem wait_attempted {net : Net stack} {target : Ipv4Address}
    {ms pre post : List (Probing stack)} {m : Probing stack} {s : LocalProbe stack}
    (run : Run localNeighborProbe (begin net target) ms s)
    (ordered : (readings ms).Pairwise (· ≤ ·)) (split : ms = pre ++ m :: post)
    {event : Option WifiEvent} (waits : m.input = .nextEvent event) : attempts pre ≠ [] := by
  obtain ⟨paces, step⟩ := at_move run ordered split
  obtain ⟨s, input, out, t⟩ := m
  have cases_of : Step s input t out := step_cases step
  cases waits
  cases cases_of with
  | exit here | resume here => exact paces.waiting here

theorem attempt_announced {net : Net stack} {target : Ipv4Address}
    {ms pre post : List (Probing stack)} {m : Probing stack} {s : LocalProbe stack}
    (run : Run localNeighborProbe (begin net target) ms s)
    (ordered : (readings ms).Pairwise (· ≤ ·)) (split : ms = pre ++ m :: post) {a : Attempt}
    (made : attempt m = some a) (later : localProbePrimaryAttempts ≤ a.number) :
    markers pre ≠ [] := by
  obtain ⟨paces, -⟩ := at_move run ordered split
  have listed : attempts ms = attempts pre ++ a :: attempts post := by
    rw [split, attempts, List.filterMap_append, List.filterMap_cons_some made]
    rfl
  have numbered : a.number = (successes (attempts pre)).length :=
    (run_paces run ordered).paced.retried listed
  unfold attempt at made
  split at made
  · rename_i current _ _ _ at_point _
    refine paces.announced.mp ((paces.sending current at_point).announced ?_)
    rw [paces.sent, ← numbered]
    exact later
  · cases made

/-- An attempt's time is the reading right before it. -/
theorem attempt_read {net : Net stack} {target : Ipv4Address}
    {ms pre post : List (Probing stack)} {m : Probing stack} {s : LocalProbe stack}
    (run : Run localNeighborProbe (begin net target) ms s)
    (ordered : (readings ms).Pairwise (· ≤ ·)) (split : ms = pre ++ m :: post) {a : Attempt}
    (made : attempt m = some a) : (readings pre).getLast? = some a.time := by
  obtain ⟨paces, -⟩ := at_move run ordered split
  unfold attempt at made
  split at made
  · rename_i current _ _ _ at_point _
    cases made
    exact (paces.sending current at_point).read
  · cases made

/-- The probe keeps to its plan on every run whose clock does not go back. -/
theorem local_neighbor_probe_paces (net : Net stack) (target : Ipv4Address)
    (ms : List (Probing stack)) (s : LocalProbe stack)
    (run : Run localNeighborProbe (begin net target) ms s)
    (ordered : (readings ms).Pairwise (· ≤ ·)) :
    (∀ pre m post, ms = pre ++ m :: post →
      (m.before.point = .pace → successes (attempts pre) = [] →
        ∃ current, m.after.point = .send current) ∧
      (∀ event, m.input = .nextEvent event → attempts pre ≠ []) ∧
      ∀ a, attempt m = some a → (readings pre).getLast? = some a.time ∧
        (localProbePrimaryAttempts ≤ a.number → markers pre ≠ [])) ∧
    (s.point ≠ .start → (readings ms).head? = some s.startedAt.toNat) ∧
    (successes (attempts ms)).Pairwise (fun a b => a.time + 500 ≤ b.time) ∧
    (successes (attempts ms)).countP (fun a => a.time < s.startedAt.toNat + 5000) ≤
      localProbePrimaryAttempts ∧
    (successes (attempts ms)).length ≤ localProbeAttempts ∧
    (successes (attempts ms)).map Attempt.number =
      List.range (successes (attempts ms)).length ∧
    (∀ pre a post, attempts ms = pre ++ a :: post → a.number = (successes pre).length) ∧
    (markers ms).length ≤ 1 ∧ ∀ time ∈ markers ms, s.startedAt.toNat + 5000 ≤ time := by
  have paces := run_paces run ordered
  have paced := paces.paced
  refine ⟨?_, paces.begun, paced.spaced, paced.gated, paced.limited, paced.numbered,
    fun _ _ _ split => paced.retried split, paces.once, paces.late⟩
  intro pre m post split
  exact ⟨pace_sends run ordered split, fun event => wait_attempted run ordered split,
    fun _ made => ⟨attempt_read run ordered split made,
      attempt_announced run ordered split made⟩⟩

/-- Started at 100 ms: a refused probe, the same probe 10 ms later, and the
next one 500 ms after that. -/
def refusedScript : List (Input plainStack) :=
  [.clock 2400000, .clock 2400000, .poll () none, .recv none, .clock 2400000, .sendSlice false,
    .nextEvent none, .clock 2640000, .poll () none, .recv none, .clock 2640000, .sendSlice true,
    .nextEvent none, .clock 14640000, .poll () none, .recv none, .clock 14640000, .sendSlice true,
    .nextEvent none]

theorem local_neighbor_probe_paces_refused :
    ∃ ms s, Run localNeighborProbe (begin plainNet ⟨192, 168, 4, 1⟩) ms s ∧
      attempts ms = [⟨100, 0, false⟩, ⟨110, 0, true⟩, ⟨610, 1, true⟩] ∧
      [(⟨110, 0, true⟩ : Attempt), ⟨610, 1, true⟩].Pairwise fun a b => a.time + 500 ≤ b.time := by
  have run : Run localNeighborProbe (begin plainNet ⟨192, 168, 4, 1⟩) _ _ :=
    exec_run refusedScript rfl
  have spaced := (local_neighbor_probe_paces _ _ _ _ run (by decide)).2.2.1
  exact ⟨_, _, run, rfl, spaced⟩

end Ws63Examples.Connectivity.LocalProbe
