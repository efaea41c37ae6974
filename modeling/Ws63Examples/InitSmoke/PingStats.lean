import Ws63Examples.InitSmoke.PingSeries
import Ws63Examples.Lib.History
import Ws63Examples.Lib.Samples

/-!
The statistics of a series of pings against the statuses it printed, for both
implementations: one status a sample, in the order of the sequence numbers.
-/

namespace Ws63Examples.InitSmoke

open Execution Samples Word

def SampleStatus.rtt : SampleStatus → Option Nat
  | .ok rttMs => some rttMs
  | _ => none

def roundTrips (statuses : List SampleStatus) : List Nat := statuses.filterMap SampleStatus.rtt

/-- The sequence numbers that got their reply. -/
def replied (statuses : List SampleStatus) : List Nat :=
  (statuses.zipIdx 1).filterMap fun (status, sequence) => status.rtt.map fun _ => sequence

/-- The statistics that a list of statuses stands for. -/
def PingStats.of (statuses : List SampleStatus) : PingStats where
  tx := statuses.length - statuses.count .txError
  rx := (roundTrips statuses).length
  txErrors := statuses.count .txError
  rttTotalMs := (roundTrips statuses).sum
  rttMinMs := least (roundTrips statuses)
  rttMaxMs := greatest (roundTrips statuses)

section
variable {statuses : List SampleStatus} {status : SampleStatus}

theorem roundTrips_snoc (statuses : List SampleStatus) (status : SampleStatus) :
    roundTrips (statuses ++ [status]) = roundTrips statuses ++ status.rtt.toList :=
  History.filterMap_snoc SampleStatus.rtt statuses status

theorem replied_snoc (statuses : List SampleStatus) (status : SampleStatus) :
    replied (statuses ++ [status]) =
      replied statuses ++ (status.rtt.map fun _ => statuses.length + 1).toList := by
  rw [replied, List.zipIdx_append, List.zipIdx_singleton, Nat.add_comm 1 statuses.length]
  exact History.filterMap_snoc _ _ _

theorem replied_length (statuses : List SampleStatus) :
    (replied statuses).length = (roundTrips statuses).length := by
  induction statuses using List.reverseRecOn with
  | nil => rfl
  | append_singleton statuses status ih =>
    rw [replied_snoc, roundTrips_snoc, List.length_append, List.length_append, ih]
    cases status <;> rfl

theorem mem_replied_le {sequence : Nat} (h : sequence ∈ replied statuses) :
    1 ≤ sequence ∧ sequence ≤ statuses.length := by
  obtain ⟨⟨status, number⟩, there, same⟩ := List.mem_filterMap.mp h
  obtain ⟨rttMs, -, rfl⟩ := Option.map_eq_some_iff.mp same
  have := List.mem_zipIdx there
  omega

theorem replied_sorted (statuses : List SampleStatus) : (replied statuses).Pairwise (· < ·) := by
  induction statuses using List.reverseRecOn with
  | nil => exact .nil
  | append_singleton statuses status ih =>
    rw [replied_snoc]
    refine List.pairwise_append.mpr ⟨ih, ?_, ?_⟩
    · cases status.rtt with
      | none => exact .nil
      | some _ => exact List.pairwise_singleton _ _
    · intro before hb after ha
      obtain ⟨_, -, rfl⟩ := Option.map_eq_some_iff.mp (Option.mem_toList.mp ha)
      exact Nat.lt_succ_of_le (mem_replied_le hb).2

theorem roundTrips_le (statuses : List SampleStatus) :
    (roundTrips statuses).length + statuses.count .txError ≤ statuses.length := by
  induction statuses using List.reverseRecOn with
  | nil => exact Nat.le_refl 0
  | append_singleton statuses status ih =>
    rw [roundTrips_snoc, List.length_append, List.length_append, List.count_append,
      List.length_singleton]
    cases status <;> simp [SampleStatus.rtt] <;> omega

namespace PingStats

theorem of_samples (statuses : List SampleStatus) :
    (of statuses).tx + (of statuses).txErrors = statuses.length := by
  have le := roundTrips_le statuses
  change statuses.length - statuses.count .txError + statuses.count .txError = statuses.length
  omega

theorem of_received (statuses : List SampleStatus) : (of statuses).rx ≤ (of statuses).tx := by
  have le := roundTrips_le statuses
  change (roundTrips statuses).length ≤ statuses.length - statuses.count .txError
  omega

theorem of_sent (statuses : List SampleStatus) {status : SampleStatus} (sent : status ≠ .txError) :
    (of (statuses ++ [status])).tx = (of statuses).tx + 1 := by
  have le := roundTrips_le statuses
  have count : (statuses ++ [status]).count .txError = statuses.count .txError := by
    have none : [status].count .txError = 0 := by
      apply List.count_eq_zero_of_not_mem
      simpa using sent.symm
    rw [List.count_append, none, Nat.add_zero]
  change (statuses ++ [status]).length - (statuses ++ [status]).count .txError =
    statuses.length - statuses.count .txError + 1
  rw [count, List.length_append, List.length_singleton]
  omega

theorem of_txError (statuses : List SampleStatus) :
    of (statuses ++ [.txError]) = { of statuses with txErrors := (of statuses).txErrors + 1 } := by
  simp [of, roundTrips_snoc, SampleStatus.rtt]

theorem of_timeout (statuses : List SampleStatus) :
    of (statuses ++ [.timeout]) = { of statuses with tx := (of statuses).tx + 1 } := by
  rw [← of_sent statuses (show SampleStatus.timeout ≠ .txError by decide)]
  simp [of, roundTrips_snoc, SampleStatus.rtt]

theorem of_ok (statuses : List SampleStatus) (rttMs : Nat) :
    of (statuses ++ [.ok rttMs]) = { of statuses with
      tx := (of statuses).tx + 1
      rx := (of statuses).rx + 1
      rttTotalMs := (of statuses).rttTotalMs + rttMs
      rttMinMs := if (of statuses).rx + 1 = 1 then rttMs else min (of statuses).rttMinMs rttMs
      rttMaxMs := max (of statuses).rttMaxMs rttMs } := by
  have other : SampleStatus.ok rttMs ≠ .txError := SampleStatus.noConfusion
  rw [← of_sent statuses other]
  simp [of, roundTrips_snoc, SampleStatus.rtt, least_snoc, greatest_snoc]

end PingStats

/-- Where a sample stands: none is open, its request is not sent, its reply not in. -/
inductive Stage where
  | between
  | preparing
  | waiting

/-- Samples open. -/
def Stage.opened : Stage → Nat
  | .between => 0
  | _ => 1

/-- Requests sent whose status is not printed. -/
def Stage.pending : Stage → Nat
  | .waiting => 1
  | _ => 0

/-- The statistics once these statuses are printed, at this sequence number. -/
structure Account (statuses : List SampleStatus) (counted : List Nat) (sequence : Nat)
    (stage : Stage) (stats : PingStats) : Prop where
  small : ∀ rttMs ∈ roundTrips statuses, rttMs ≤ u32Max
  counted : counted = replied statuses
  number : sequence = statuses.length + stage.opened
  stats : stats =
    { PingStats.of statuses with tx := (PingStats.of statuses).tx + stage.pending }

namespace Account

variable {counted : List Nat} {sequence : Nat} {stats : PingStats}

theorem start : Account [] [] 0 .between .default :=
  ⟨List.forall_mem_nil _, rfl, rfl, rfl⟩

theorem next (h : Account statuses counted sequence .between stats) :
    Account statuses counted (sequence + 1) .preparing stats :=
  ⟨h.small, h.counted, congrArg (· + 1) h.number, h.stats⟩

theorem few_statuses {stage : Stage} (h : Account statuses counted sequence stage stats)
    (few : sequence < 2 ^ 16) : statuses.length < 2 ^ 16 := by
  have := h.number
  omega

theorem send (h : Account statuses counted sequence .preparing stats) (few : sequence < 2 ^ 16) :
    Account statuses counted sequence .waiting
      { stats with tx := saturatingAdd u32Max stats.tx 1 } := by
  have := h.few_statuses few
  have samples := PingStats.of_samples statuses
  have fits : (PingStats.of statuses).tx + 1 ≤ u32Max := by
    unfold u32Max
    omega
  refine ⟨h.small, h.counted, h.number, ?_⟩
  rw [h.stats]
  exact congrArg (fun tx => { PingStats.of statuses with tx := tx }) (saturatingAdd_of_le fits)

theorem refuse (h : Account statuses counted sequence .preparing stats) (few : sequence < 2 ^ 16) :
    Account (statuses ++ [.txError]) counted sequence .between
      { stats with txErrors := saturatingAdd u32Max stats.txErrors 1 } := by
  have := h.few_statuses few
  have samples := PingStats.of_samples statuses
  have fits : (PingStats.of statuses).txErrors + 1 ≤ u32Max := by
    unfold u32Max
    omega
  refine ⟨?_, ?_, ?_, ?_⟩
  · rw [roundTrips_snoc]
    simpa [SampleStatus.rtt] using h.small
  · rw [replied_snoc, h.counted]
    exact (List.append_nil _).symm
  · rw [List.length_append]
    exact h.number
  · rw [h.stats, PingStats.of_txError]
    exact congrArg (fun errors => { PingStats.of statuses with txErrors := errors })
      (saturatingAdd_of_le fits)

theorem timeout (h : Account statuses counted sequence .waiting stats) :
    Account (statuses ++ [.timeout]) counted sequence .between stats := by
  refine ⟨?_, ?_, ?_, ?_⟩
  · rw [roundTrips_snoc]
    simpa [SampleStatus.rtt] using h.small
  · rw [replied_snoc, h.counted]
    exact (List.append_nil _).symm
  · rw [List.length_append]
    exact h.number
  · rw [h.stats, PingStats.of_timeout]
    rfl

theorem total_le {stage : Stage} (h : Account statuses counted sequence stage stats)
    (few : sequence < 2 ^ 16) : (PingStats.of statuses).rttTotalMs ≤ 2 ^ 16 * u32Max := by
  have := h.few_statuses few
  have := roundTrips_le statuses
  have length_le : (roundTrips statuses).length ≤ 2 ^ 16 := by omega
  exact Nat.le_trans (sum_le_length_mul h.small) (Nat.mul_le_mul_right u32Max length_le)

theorem rx_fits {stage : Stage} (h : Account statuses counted sequence stage stats)
    (few : sequence < 2 ^ 16) : stats.rx + 1 ≤ u32Max := by
  have := h.few_statuses few
  have samples := PingStats.of_samples statuses
  have received := PingStats.of_received statuses
  rw [h.stats]
  change (PingStats.of statuses).rx + 1 ≤ u32Max
  unfold u32Max
  omega

theorem reply (h : Account statuses counted sequence .waiting stats) (few : sequence < 2 ^ 16)
    {rttMs : Nat} (small : rttMs ≤ u32Max) :
    Account (statuses ++ [.ok rttMs]) (counted ++ [sequence]) sequence .between { stats with
      rx := saturatingAdd u32Max stats.rx 1
      rttTotalMs := min (stats.rttTotalMs + rttMs) (2 ^ 64 - 1)
      rttMinMs := if saturatingAdd u32Max stats.rx 1 = 1 then rttMs else min stats.rttMinMs rttMs
      rttMaxMs := max stats.rttMaxMs rttMs } := by
  have fits : (PingStats.of statuses).rx + 1 ≤ u32Max := by
    have := h.rx_fits few
    rwa [h.stats] at this
  have total_fits : (PingStats.of statuses).rttTotalMs + rttMs ≤ 2 ^ 64 - 1 := by
    have := h.total_le few
    unfold u32Max at *
    omega
  refine ⟨?_, ?_, ?_, ?_⟩
  · intro x hx
    rw [roundTrips_snoc] at hx
    rcases List.mem_append.mp hx with hx | hx
    · exact h.small x hx
    · exact List.mem_singleton.mp hx ▸ small
  · rw [replied_snoc, h.counted, h.number]
    rfl
  · rw [List.length_append]
    exact h.number
  · rw [h.stats, PingStats.of_ok]
    simp only [saturatingAdd_of_le fits, Nat.min_eq_left total_fits]
    rfl

end Account

/-- In percent, rounded down; all of nothing is lost. -/
def PingStats.lossPct (stats : PingStats) : Nat :=
  if stats.tx = 0 then 100 else 100 * (stats.tx - stats.rx) / stats.tx

/-- What the statistics of `count` samples satisfy. -/
structure Consistent (count : Nat) (statuses : List SampleStatus) (stats : PingStats) : Prop where
  /-- Sums, least and greatest are exact: nothing saturated. -/
  exact : stats = .of statuses
  samples : stats.tx + stats.txErrors = count
  received : stats.rx ≤ stats.tx
  loss : stats.lossPct ≤ 100
  lossFits : 100 * stats.tx ≤ u32Max
  totalMin : stats.rx * stats.rttMinMs ≤ stats.rttTotalMs
  totalMax : stats.rttTotalMs ≤ stats.rx * stats.rttMaxMs
  average : 0 < stats.rx →
    stats.rttMinMs ≤ stats.rttTotalMs / stats.rx ∧ stats.rttTotalMs / stats.rx ≤ stats.rttMaxMs
  narrow : stats.rttMaxMs ≤ u32Max

/-- The percentage does not saturate. -/
theorem Consistent.dropped {count : Nat} {statuses : List SampleStatus} {stats : PingStats}
    (h : Consistent count statuses stats) :
    min ((stats.tx - stats.rx) * 100) u32Max = 100 * (stats.tx - stats.rx) := by
  have := h.lossFits
  omega

/-- The average fits the word it is narrowed to. -/
theorem Consistent.average_le {count : Nat} {statuses : List SampleStatus} {stats : PingStats}
    (h : Consistent count statuses stats) (heard : stats.rx ≠ 0) :
    stats.rttTotalMs / stats.rx ≤ u32Max :=
  Nat.le_trans (h.average (Nat.pos_of_ne_zero heard)).2 h.narrow

theorem PingStats.lossPct_le (stats : PingStats) : stats.lossPct ≤ 100 := by
  unfold lossPct
  split
  · exact Nat.le_refl 100
  · apply Nat.div_le_of_le_mul
    rw [Nat.mul_comm]
    exact Nat.mul_le_mul_right 100 (Nat.sub_le ..)

theorem Account.consistent {counted : List Nat} {sequence : Nat} {stats : PingStats}
    (h : Account statuses counted sequence .between stats) (few : sequence < 2 ^ 16) :
    Consistent sequence statuses stats := by
  obtain rfl : stats = .of statuses := h.stats
  obtain rfl : sequence = statuses.length := h.number
  have samples := PingStats.of_samples statuses
  exact {
    exact := rfl
    samples := samples
    received := PingStats.of_received statuses
    loss := PingStats.lossPct_le _
    lossFits := by
      unfold u32Max
      omega
    totalMin := length_mul_least_le_sum _
    totalMax := sum_le_length_mul_greatest _
    average := fun heard => average_between heard
    narrow := greatest_le h.small }

end

/-- How to read a machine as a series of pings. -/
structure Reading (σ ι ο : Type) where
  sequence : σ → Nat
  stage : σ → Stage
  /-- A reply is in and not counted yet. -/
  heard : σ → Bool
  stats : σ → PingStats
  status : ο → Option SampleStatus
  /-- The move reads a reply to the request of this sequence number. -/
  hears : Move σ ι ο → Nat → Prop

namespace Reading

variable {σ ι ο : Type} {r : Reading σ ι ο} {count : Nat} {written : List ο}
  {ms : List (Move σ ι ο)} {m : Move σ ι ο}

variable (r) in
def statuses (written : List ο) : List SampleStatus := written.filterMap r.status

variable (r) in
/-- The sequence number that a move counts as received. -/
def counts (m : Move σ ι ο) : Option Nat :=
  if (r.stats m.before).rx < (r.stats m.after).rx then some (r.sequence m.before) else none

variable (r) in
def counted (ms : List (Move σ ι ο)) : List Nat := ms.filterMap r.counts

variable (r) in
structure Tallied (count : Nat) (written : List ο) (ms : List (Move σ ι ο)) (s : σ) : Prop where
  le : r.sequence s ≤ count
  account : Account (r.statuses written) (r.counted ms) (r.sequence s) (r.stage s) (r.stats s)
  replies : ∀ sequence ∈ r.counted ms, ∃ m ∈ ms, r.hears m sequence
  heard : r.heard s = true → ∃ m ∈ ms, r.hears m (r.sequence s)

variable (r) in
/-- How a sample ends, with the statistics it leaves. -/
inductive Closes (s : σ) : SampleStatus → PingStats → Prop
  | refuse (ready : r.stage s = .preparing) : Closes s .txError
      { r.stats s with txErrors := saturatingAdd u32Max (r.stats s).txErrors 1 }
  | timeout (waiting : r.stage s = .waiting) : Closes s .timeout (r.stats s)
  | reply (waiting : r.stage s = .waiting) (heard : r.heard s = true) {rttMs : Nat}
      (small : rttMs ≤ u32Max) : Closes s (.ok rttMs) { r.stats s with
        rx := saturatingAdd u32Max (r.stats s).rx 1
        rttTotalMs := min ((r.stats s).rttTotalMs + rttMs) (2 ^ 64 - 1)
        rttMinMs := if saturatingAdd u32Max (r.stats s).rx 1 = 1 then rttMs
          else min (r.stats s).rttMinMs rttMs
        rttMaxMs := max (r.stats s).rttMaxMs rttMs }

variable (r) in
/-- What a move does to a series of `count` samples. -/
inductive Turn (count : Nat) (m : Move σ ι ο) : Prop
  | pass (number : r.sequence m.after = r.sequence m.before)
      (stage : r.stage m.after = r.stage m.before) (stats : r.stats m.after = r.stats m.before)
      (quiet : r.statuses m.effects = [])
      (heard : r.heard m.after = true → r.heard m.before = true ∨ r.hears m (r.sequence m.before))
  | send (number : r.sequence m.after = r.sequence m.before)
      (ready : r.stage m.before = .preparing) (waiting : r.stage m.after = .waiting)
      (stats : r.stats m.after =
        { r.stats m.before with tx := saturatingAdd u32Max (r.stats m.before).tx 1 })
      (quiet : r.statuses m.effects = []) (unheard : r.heard m.after = false)
  | next (status : SampleStatus) (written : r.statuses m.effects = [status])
      (closes : r.Closes m.before status (r.stats m.after))
      (number : r.sequence m.after = r.sequence m.before + 1) (le : r.sequence m.after ≤ count)
      (ready : r.stage m.after = .preparing) (unheard : r.heard m.after = false)
  | last (status : SampleStatus) (written : r.statuses m.effects = [status])
      (closes : r.Closes m.before status (r.stats m.after))
      (number : r.sequence m.after = r.sequence m.before)
      (done : r.stage m.after = .between) (unheard : r.heard m.after = false)

theorem statuses_append (written out : List ο) :
    r.statuses (written ++ out) = r.statuses written ++ r.statuses out :=
  List.filterMap_append

theorem counted_snoc (ms : List (Move σ ι ο)) (m : Move σ ι ο) :
    r.counted (ms ++ [m]) = r.counted ms ++ (r.counts m).toList :=
  History.filterMap_snoc r.counts ms m

theorem counted_same (same : (r.stats m.after).rx = (r.stats m.before).rx) :
    r.counted (ms ++ [m]) = r.counted ms := by
  have none_counted : r.counts m = none := if_neg (by omega)
  rw [counted_snoc, none_counted]
  exact List.append_nil _

theorem Tallied.replies_snoc (h : r.Tallied count written ms m.before) :
    ∀ sequence ∈ r.counted ms, ∃ n ∈ ms ++ [m], r.hears n sequence := by
  intro sequence counted
  obtain ⟨n, hn, hears⟩ := h.replies sequence counted
  exact ⟨n, List.mem_append_left _ hn, hears⟩

/-- A sample that ends is accounted for, whatever its status. -/
theorem Tallied.closes (h : r.Tallied count written ms m.before) (few : count < 2 ^ 16)
    {status : SampleStatus} (one : r.statuses m.effects = [status])
    (closes : r.Closes m.before status (r.stats m.after)) :
    Account (r.statuses (written ++ m.effects)) (r.counted (ms ++ [m])) (r.sequence m.before)
      .between (r.stats m.after) ∧
    ∀ sequence ∈ r.counted (ms ++ [m]), ∃ n ∈ ms ++ [m], r.hears n sequence := by
  have few : r.sequence m.before < 2 ^ 16 := Nat.lt_of_le_of_lt h.le few
  have account := h.account
  rw [statuses_append, one]
  generalize after : r.stats m.after = stats at closes
  cases closes with
  | refuse ready =>
    rw [counted_same (by rw [after])]
    exact ⟨(ready ▸ account).refuse few, h.replies_snoc⟩
  | timeout waiting =>
    rw [counted_same (by rw [after])]
    exact ⟨(waiting ▸ account).timeout, h.replies_snoc⟩
  | reply waiting heard small =>
    have account := waiting ▸ account
    have fits : (r.stats m.before).rx + 1 ≤ u32Max := account.rx_fits few
    have counts : r.counts m = some (r.sequence m.before) := by
      apply if_pos
      rw [after, saturatingAdd_of_le fits]
      exact Nat.lt_succ_self _
    rw [counted_snoc, counts]
    refine ⟨account.reply few small, ?_⟩
    intro sequence counted
    rcases List.mem_append.mp counted with counted | counted
    · exact h.replies_snoc sequence counted
    · obtain ⟨n, hn, hears⟩ := h.heard heard
      exact ⟨n, List.mem_append_left _ hn, List.mem_singleton.mp counted ▸ hears⟩

theorem Turn.tallied (turn : r.Turn count m) (few : count < 2 ^ 16)
    (h : r.Tallied count written ms m.before) :
    r.Tallied count (written ++ m.effects) (ms ++ [m]) m.after := by
  cases turn with
  | pass number stage stats quiet heard =>
    have same : r.counted (ms ++ [m]) = r.counted ms := counted_same (by rw [stats])
    refine ⟨number ▸ h.le, ?_, same ▸ h.replies_snoc, ?_⟩
    · rw [statuses_append, quiet, List.append_nil, same, number, stage, stats]
      exact h.account
    · intro now
      rw [number]
      rcases heard now with before | hears
      · obtain ⟨n, hn, hears⟩ := h.heard before
        exact ⟨n, List.mem_append_left _ hn, hears⟩
      · exact ⟨m, List.mem_append_right _ (List.mem_singleton_self m), hears⟩
  | send number ready waiting stats quiet unheard =>
    have same : r.counted (ms ++ [m]) = r.counted ms := counted_same (by rw [stats])
    refine ⟨number ▸ h.le, ?_, same ▸ h.replies_snoc, ?_⟩
    · rw [statuses_append, quiet, List.append_nil, same, number, waiting, stats]
      exact (ready ▸ h.account).send (Nat.lt_of_le_of_lt h.le few)
    · intro now
      exact absurd (unheard.symm.trans now) Bool.false_ne_true
  | next status one closes number le ready unheard =>
    obtain ⟨account, replies⟩ := h.closes few one closes
    refine ⟨le, ?_, replies, ?_⟩
    · rw [number, ready]
      exact account.next
    · intro now
      exact absurd (unheard.symm.trans now) Bool.false_ne_true
  | last status one closes number done unheard =>
    obtain ⟨account, replies⟩ := h.closes few one closes
    refine ⟨number ▸ h.le, ?_, replies, ?_⟩
    · rw [number, done]
      exact account
    · intro now
      exact absurd (unheard.symm.trans now) Bool.false_ne_true

/-- A machine whose every move is a turn of the series keeps the tally. -/
theorem run_tallied {step : σ → ι → Option (σ × List ο)} {start s : σ} {out : List ο}
    (inv : σ → Prop) (turns : ∀ m : Move σ ι ο, inv m.before →
      step m.before m.input = some (m.after, m.effects) → r.Turn count m ∧ inv m.after)
    (few : count < 2 ^ 16) (begins : inv start ∧ r.Tallied count out [] start)
    (run : Run step start ms s) : inv s ∧ r.Tallied count (out ++ effects ms) ms s := by
  apply run.history (P := fun ms s => inv s ∧ r.Tallied count (out ++ effects ms) ms s)
  · rw [effects_nil, List.append_nil]
    exact begins
  · intro ms u input v out' _ before stepped
    obtain ⟨turn, kept⟩ := turns ⟨u, input, out', v⟩ before.1 stepped
    rw [effects_append, effects_singleton, ← List.append_assoc]
    exact ⟨kept, turn.tallied few before.2⟩

variable (r) in
/-- The statistics at any moment of a series. -/
structure Accounts (count : Nat) (written : List ο) (ms : List (Move σ ι ο)) (s : σ) : Prop where
  /-- Exactly what the statuses say, a request under way apart: nothing saturated. -/
  exact : ∃ pending ≤ 1, r.stats s = { PingStats.of (r.statuses written) with
    tx := (PingStats.of (r.statuses written)).tx + pending }
  received : (r.counted ms).length = (r.stats s).rx
  once : (r.counted ms).Pairwise (· < ·)
  replies : ∀ sequence ∈ r.counted ms,
    1 ≤ sequence ∧ sequence ≤ count ∧ ∃ m ∈ ms, r.hears m sequence

theorem Tallied.accounts {s : σ} (h : r.Tallied count written ms s) :
    r.Accounts count written ms s := by
  have account := h.account
  have pending : (r.stage s).pending ≤ 1 := by cases r.stage s <;> decide
  refine ⟨⟨_, pending, account.stats⟩, ?_, ?_, ?_⟩
  · rw [account.counted, replied_length, account.stats]
    rfl
  · rw [account.counted]
    exact replied_sorted _
  · intro sequence counted
    have bounds := mem_replied_le (account.counted ▸ counted)
    have := account.number
    have := h.le
    exact ⟨bounds.1, by omega, h.replies sequence counted⟩

theorem Tallied.consistent {s : σ} (h : r.Tallied count written ms s) (few : count < 2 ^ 16)
    (done : r.stage s = .between) (last : r.sequence s = count) :
    Consistent count (r.statuses written) (r.stats s) := by
  have account := h.account
  rw [done, last] at account
  exact account.consistent few

end Reading

end Ws63Examples.InitSmoke
