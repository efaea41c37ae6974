import Ws63Examples.Connectivity.PollNetwork
import Ws63Examples.Lib.Execution
import Ws63Examples.Lib.Watchdog
import Ws63Examples.Lib.Word

/-! The steady polling loop and its DHCP recovery timer. -/

namespace Ws63Examples.Connectivity

open Execution History Watchdog Word

def dhcpRecoveryRestartMs : UInt64 := 10000
def heartbeatMs : UInt64 := 10000

/-- Where `keep_polling` stands, before the input it needs next. -/
inductive KeepPolling.Point where
  | start
  | poll
  | clock
  | diagnostics (current : UInt64)
  | wait
  | returned (exit : NetworkExit)
  | panicked

structure KeepPolling (stack : Smoltcp) where
  net : Net stack
  dhcpBaseline : DhcpDiagnostics
  heartbeatAt : UInt64
  renewReported : Bool
  dhcpRestartAt : Option UInt64
  point : KeepPolling.Point

namespace KeepPolling

variable {stack : Smoltcp}

def begin (net : Net stack) (dhcpBaseline : DhcpDiagnostics) : KeepPolling stack where
  net := net
  dhcpBaseline := dhcpBaseline
  heartbeatAt := 0
  renewReported := false
  dhcpRestartAt := none
  point := .start

/-- The recovery timer, looked at once in every iteration. -/
def checkTimer (s : KeepPolling stack) (current : UInt64) : KeepPolling stack × List Effect :=
  if s.net.lease.isSome then ({ s with dhcpRestartAt := none }, [])
  else
    match s.dhcpRestartAt with
    | some restartAt =>
      if restartAt ≤ current then
        ({ s with dhcpRestartAt := some (saturatingAdd64 current dhcpRecoveryRestartMs) },
          [.resetDhcp, .write (.dhcpRestart .leaseDownTimeout)])
      else (s, [])
    | none =>
      ({ s with dhcpRestartAt := some (saturatingAdd64 current dhcpRecoveryRestartMs) }, [])

def reportRenewal (s : KeepPolling stack) (dhcp : DhcpDiagnostics) :
    KeepPolling stack × List Effect :=
  if ¬ s.renewReported ∧ s.dhcpBaseline.clientPackets < dhcp.clientPackets ∧
      s.dhcpBaseline.serverPackets < dhcp.serverPackets then
    ({ s with renewReported := true },
      [.write (.renewOk (dhcp.clientPackets - s.dhcpBaseline.clientPackets)
        (dhcp.serverPackets - s.dhcpBaseline.serverPackets))])
  else (s, [])

def heartbeat (s : KeepPolling stack) (current : UInt64) : KeepPolling stack × List Effect :=
  if s.heartbeatAt ≤ current then
    ({ s with heartbeatAt := saturatingAdd64 current heartbeatMs },
      [.write (.alive s.net.lease.isSome)])
  else (s, [])

end KeepPolling

variable {stack : Smoltcp}

def keepPolling (s : KeepPolling stack) (input : Input stack) :
    Option (KeepPolling stack × List Effect) :=
  match s.point, input with
  | .start, .clock ticks =>
    some ({ s with
      heartbeatAt := saturatingAdd64 (monotonicMs ticks) heartbeatMs
      renewReported := false
      dhcpRestartAt := none
      point := .poll }, [])
  | .poll, .poll traffic event =>
    let hadLease := s.net.lease.isSome
    match pollNetwork traffic event s.net with
    | some (net, out) =>
      let loss := if hadLease ∧ net.lease.isNone then [.write .leaseLoss] else []
      some ({ s with net := net, point := .clock }, out ++ loss)
    | none => some ({ s with point := .panicked }, [])
  | .clock, .clock ticks =>
    let current := monotonicMs ticks
    let (s, out) := s.checkTimer current
    some ({ s with point := .diagnostics current }, out)
  | .diagnostics current, .dhcpDiagnostics dhcp =>
    let (s, renewal) := s.reportRenewal dhcp
    let (s, alive) := s.heartbeat current
    some ({ s with point := .wait }, renewal ++ alive)
  | .wait, .nextEvent event =>
    match waitPollInterval event with
    | (some exit, out) => some ({ s with point := .returned exit }, out)
    | (none, out) => some ({ s with point := .poll }, out)
  | _, _ => none

namespace KeepPolling

/-- What a step can do. -/
inductive Step (s : KeepPolling stack) : Input stack → KeepPolling stack → List Effect → Prop
  | start (at_point : s.point = .start) (ticks : UInt64) :
      Step s (.clock ticks) { s with
        heartbeatAt := saturatingAdd64 (monotonicMs ticks) heartbeatMs
        renewReported := false
        dhcpRestartAt := none
        point := .poll } []
  | poll (at_point : s.point = .poll) (traffic : stack.Traffic) (event : Option DhcpEvent)
      (net : Net stack) (out loss : List Effect)
      (polled : pollNetwork traffic event s.net = some (net, out))
      (reported : loss = if s.net.lease.isSome ∧ net.lease.isNone then [.write .leaseLoss] else []) :
      Step s (.poll traffic event) { s with net := net, point := .clock } (out ++ loss)
  | pollPanic (at_point : s.point = .poll) (traffic : stack.Traffic) (event : Option DhcpEvent)
      (polled : pollNetwork traffic event s.net = none) :
      Step s (.poll traffic event) { s with point := .panicked } []
  | clock (at_point : s.point = .clock) (ticks : UInt64) :
      Step s (.clock ticks) { (s.checkTimer (monotonicMs ticks)).1 with
        point := .diagnostics (monotonicMs ticks) } (s.checkTimer (monotonicMs ticks)).2
  | diagnostics (current : UInt64) (at_point : s.point = .diagnostics current)
      (dhcp : DhcpDiagnostics) :
      Step s (.dhcpDiagnostics dhcp) { ((s.reportRenewal dhcp).1.heartbeat current).1 with
        point := .wait }
        ((s.reportRenewal dhcp).2 ++ ((s.reportRenewal dhcp).1.heartbeat current).2)
  | exit (at_point : s.point = .wait) (event : Option WifiEvent) (exit : NetworkExit)
      (out : List Effect) (waited : waitPollInterval event = (some exit, out)) :
      Step s (.nextEvent event) { s with point := .returned exit } out
  | resume (at_point : s.point = .wait) (event : Option WifiEvent) (out : List Effect)
      (waited : waitPollInterval event = (none, out)) :
      Step s (.nextEvent event) { s with point := .poll } out

theorem step_cases {s t : KeepPolling stack} {input : Input stack} {out : List Effect}
    (h : keepPolling s input = some (t, out)) : Step s input t out := by
  unfold keepPolling at h
  split at h
  case h_1 ticks at_point =>
    cases h
    exact .start at_point ticks
  case h_2 traffic event at_point =>
    dsimp only at h
    split at h
    · rename_i polled
      cases h
      exact .poll at_point traffic event _ _ _ polled rfl
    · rename_i polled
      cases h
      exact .pollPanic at_point traffic event polled
  case h_3 ticks at_point =>
    cases h
    exact .clock at_point ticks
  case h_4 current dhcp at_point =>
    cases h
    exact .diagnostics current at_point dhcp
  case h_5 event at_point =>
    split at h
    · rename_i waited
      cases h
      exact .exit at_point event _ _ waited
    · rename_i waited
      cases h
      exact .resume at_point event _ waited
  case h_6 => cases h

/-- A move of the loop. -/
abbrev Polling (stack : Smoltcp) := Move (KeepPolling stack) (Input stack) Effect

/-- What the timer branch of one iteration saw: the lease as the poll of this
iteration left it. -/
def look (m : Polling stack) : Option Look :=
  match m.before.point, m.input with
  | .clock, .clock ticks =>
    some ⟨(monotonicMs ticks).toNat, m.before.net.lease.isSome, decide (.resetDhcp ∈ m.effects)⟩
  | _, _ => none

def iterations (ms : List (Polling stack)) : List Look := ms.filterMap look

/-- Every reading of the clock. -/
def reading (m : Polling stack) : Option Nat :=
  match m.input with
  | .clock ticks => some (monotonicMs ticks).toNat
  | _ => none

def readings (ms : List (Polling stack)) : List Nat := ms.filterMap reading

/-- Times the deadline is computed from are far below the width. -/
theorem restart_toNat (ticks : UInt64) :
    (saturatingAdd64 (monotonicMs ticks) dhcpRecoveryRestartMs).toNat =
      (monotonicMs ticks).toNat + 10000 := by
  have bound : (monotonicMs ticks).toNat ≤ (2 ^ 64 - 1) / 24000 := by
    have := ticks.toNat_lt
    simp only [monotonicMs, UInt64.toNat_div, UInt64.reduceToNat]
    omega
  have period : dhcpRecoveryRestartMs.toNat = 10000 := rfl
  rw [saturatingAdd64_toNat (by omega), period]

/-- The timer branch is a watchdog over the lease. -/
theorem checkTimer_observe (s : KeepPolling stack) (ticks : UInt64) :
    observe 10000 (s.dhcpRestartAt.map UInt64.toNat) (monotonicMs ticks).toNat s.net.lease.isSome =
      ((s.checkTimer (monotonicMs ticks)).1.dhcpRestartAt.map UInt64.toNat,
        decide (.resetDhcp ∈ (s.checkTimer (monotonicMs ticks)).2)) := by
  unfold observe checkTimer
  cases s.net.lease with
  | some lease => rfl
  | none =>
    cases armed : s.dhcpRestartAt with
    | none =>
      simp only [Option.isSome_none, Bool.false_eq_true, if_false, Option.map_none, Option.map_some,
        restart_toNat]
      rfl
    | some restartAt =>
      simp only [Option.isSome_none, Bool.false_eq_true, if_false, Option.map_some]
      by_cases passed : restartAt ≤ monotonicMs ticks
      · rw [if_pos passed, if_pos (UInt64.le_iff_toNat_le.mp passed)]
        simp only [Option.map_some, restart_toNat]
        rfl
      · rw [if_neg passed, if_neg fun h => passed (UInt64.le_iff_toNat_le.mpr h)]
        simp [armed]

theorem reportRenewal_same (s : KeepPolling stack) (dhcp : DhcpDiagnostics) :
    (∃ reported, (s.reportRenewal dhcp).1 = { s with renewReported := reported }) ∧
      .resetDhcp ∉ (s.reportRenewal dhcp).2 := by
  unfold reportRenewal
  split
  · exact ⟨⟨_, rfl⟩, by simp⟩
  · exact ⟨⟨_, rfl⟩, List.not_mem_nil⟩

theorem heartbeat_same (s : KeepPolling stack) (current : UInt64) :
    (∃ next, (s.heartbeat current).1 = { s with heartbeatAt := next }) ∧
      .resetDhcp ∉ (s.heartbeat current).2 := by
  unfold heartbeat
  split
  · exact ⟨⟨_, rfl⟩, by simp⟩
  · exact ⟨⟨_, rfl⟩, List.not_mem_nil⟩

theorem iterations_snoc (ms : List (Polling stack)) (m : Polling stack) :
    iterations (ms ++ [m]) = iterations ms ++ (look m).toList :=
  filterMap_snoc look ms m

/-- The timer after a history: that of a watchdog with the looks of the history. -/
structure Sound (ms : List (Polling stack)) (s : KeepPolling stack) : Prop where
  watched : Watched 10000 (iterations ms) (s.dhcpRestartAt.map UInt64.toNat)
  start : s.point = .start → s.dhcpRestartAt = none

theorem Sound.pass {ms : List (Polling stack)} {s t : KeepPolling stack} (sound : Sound ms s)
    {input : Input stack} {out : List Effect} (same : t.dhcpRestartAt = s.dhcpRestartAt)
    (begun : t.point ≠ .start) (unseen : look ⟨s, input, out, t⟩ = none) :
    Sound (ms ++ [⟨s, input, out, t⟩]) t := by
  constructor
  · rw [iterations_snoc, unseen, same, Option.toList_none, List.append_nil]
    exact sound.watched
  · exact fun at_start => absurd at_start begun

theorem step_sound {ms : List (Polling stack)} {s t : KeepPolling stack} (sound : Sound ms s)
    {input : Input stack} {out : List Effect} (h : keepPolling s input = some (t, out)) :
    Sound (ms ++ [⟨s, input, out, t⟩]) t := by
  cases step_cases h with
  | start at_point ticks =>
    refine sound.pass (sound.start at_point).symm nofun ?_
    simp only [look, at_point]
  | clock at_point ticks =>
    constructor
    · have next := sound.watched.look (monotonicMs ticks).toNat s.net.lease.isSome
      rw [checkTimer_observe] at next
      have seen : look (⟨s, .clock ticks, (s.checkTimer (monotonicMs ticks)).2,
          { (s.checkTimer (monotonicMs ticks)).1 with
            point := .diagnostics (monotonicMs ticks) }⟩ : Polling stack) =
          some ⟨(monotonicMs ticks).toNat, s.net.lease.isSome,
            decide (.resetDhcp ∈ (s.checkTimer (monotonicMs ticks)).2)⟩ := by
        simp only [look, at_point]
      rw [iterations_snoc, seen]
      exact next
    · nofun
  | diagnostics current at_point dhcp =>
    refine sound.pass ?_ nofun ?_
    · obtain ⟨reported, renewal⟩ := (reportRenewal_same s dhcp).1
      obtain ⟨next, alive⟩ := (heartbeat_same (s.reportRenewal dhcp).1 current).1
      rw [alive, renewal]
    · simp only [look, at_point]
  | poll at_point | pollPanic at_point | exit at_point | resume at_point =>
    refine sound.pass rfl nofun ?_
    simp only [look, at_point]

theorem run_sound {net : Net stack} {baseline : DhcpDiagnostics} {ms : List (Polling stack)}
    {s : KeepPolling stack} (run : Run keepPolling (begin net baseline) ms s) : Sound ms s :=
  run.history ⟨.start, fun _ => rfl⟩ fun _ _ _ _ _ _ sound h => step_sound sound h

theorem look_reading {m : Polling stack} {l : Look} (h : look m = some l) :
    reading m = some l.time := by
  unfold look at h
  split at h
  · rename_i ticks _ input
    cases h
    rw [reading, input]
  · cases h

theorem times_sublist (ms : List (Polling stack)) :
    ((iterations ms).map Look.time).Sublist (readings ms) := by
  induction ms with
  | nil => exact .slnil
  | cons m ms ih =>
    cases seen : look m with
    | none =>
      rw [iterations, List.filterMap_cons_none seen]
      cases read : reading m with
      | none =>
        rw [readings, List.filterMap_cons_none read]
        exact ih
      | some time =>
        rw [readings, List.filterMap_cons_some read]
        exact ih.cons _
    | some l =>
      rw [iterations, List.filterMap_cons_some seen, readings,
        List.filterMap_cons_some (look_reading seen)]
      exact ih.cons_cons _

/-- The looks come in the order of the clock. -/
theorem iterations_ordered {ms : List (Polling stack)} (ordered : (readings ms).Pairwise (· ≤ ·)) :
    Ordered (iterations ms) :=
  List.pairwise_map.mp (ordered.sublist (times_sublist ms))

/-- A timer reset is one of the two ways to reset the DHCP client. -/
theorem reset_iff {m : Polling stack}
    (step : keepPolling m.before m.input = some (m.after, m.effects)) :
    .resetDhcp ∈ m.effects ↔ (∃ l, look m = some l ∧ l.fired = true) ∨
      (∃ traffic, m.input = .poll traffic (some .deconfigured)) ∧ m.before.net.lease.isSome := by
  obtain ⟨s, input, out, t⟩ := m
  have unseen (h : look (⟨s, input, out, t⟩ : Polling stack) = none) :
      ¬ ∃ l, look (⟨s, input, out, t⟩ : Polling stack) = some l ∧ l.fired = true := by
    rw [h]
    rintro ⟨l, ⟨⟩, -⟩
  have cases_of : Step s input t out := step_cases step
  cases cases_of with
  | start at_point ticks =>
    have := unseen (by simp only [look, at_point])
    simp only [this, List.not_mem_nil, reduceCtorEq, exists_false, false_and, or_self]
  | poll at_point traffic event net out loss polled reported =>
    have := unseen (by simp only [look, at_point])
    have silent : Effect.resetDhcp ∉ loss := by
      rw [reported]
      split <;> simp
    rw [List.mem_append, pollNetwork_reset polled]
    simp [this, silent]
  | pollPanic at_point traffic event polled =>
    have := unseen (by simp only [look, at_point])
    have configured : event ≠ some .deconfigured := by
      rintro rfl
      cases polled
    simp [this, configured]
  | clock at_point ticks => simp [look, at_point]
  | diagnostics current at_point dhcp =>
    have := unseen (by simp only [look, at_point])
    simp [this, (reportRenewal_same s dhcp).2, (heartbeat_same (s.reportRenewal dhcp).1 current).2]
  | exit at_point event exit out waited | resume at_point event out waited =>
    have := unseen (by simp only [look, at_point])
    have silent : Effect.resetDhcp ∉ out := by
      intro reset
      obtain ⟨line, h⟩ := waitPollInterval_writes waited _ reset
      cases h
    simp [this, silent]

/-- An iteration that sees a lease disarms the timer. -/
theorem held_disarms {m : Polling stack}
    (step : keepPolling m.before m.input = some (m.after, m.effects)) {l : Look}
    (seen : look m = some l) (held : l.up = true) :
    m.after.dhcpRestartAt = none ∧ l.fired = false := by
  obtain ⟨s, input, out, t⟩ := m
  unfold look at seen
  split at seen
  · rename_i ticks at_point read
    cases seen
    dsimp only at read at_point held
    subst read
    simp only [keepPolling, at_point, checkTimer, held, if_true] at step
    cases step
    exact ⟨rfl, by simp⟩
  · cases seen

/-- Every reset of the DHCP client is a poll's that lost a held lease or the
timer's, and the timer's follow a whole period without a lease. -/
theorem keep_polling_resets (net : Net stack) (baseline : DhcpDiagnostics)
    (ms : List (Polling stack)) (s : KeepPolling stack)
    (run : Run keepPolling (begin net baseline) ms s)
    (ordered : (readings ms).Pairwise (· ≤ ·)) :
    (∀ pre x post, iterations ms = pre ++ x :: post → x.fired = true →
      x.up = false ∧ (∃ first, DownSince pre first ∧ first.time + 10000 ≤ x.time) ∧
      ∀ y ∈ pre, y.up = true ∨ y.fired = true → y.time + 10000 ≤ x.time) ∧
    (∀ m ∈ ms, ∀ l, look m = some l → l.up = true →
      m.after.dhcpRestartAt = none ∧ l.fired = false) ∧
    (∀ m ∈ ms, .resetDhcp ∈ m.effects ↔ (∃ l, look m = some l ∧ l.fired = true) ∨
      (∃ traffic, m.input = .poll traffic (some .deconfigured)) ∧ m.before.net.lease.isSome) := by
  have watched := (run_sound run).watched
  refine ⟨?_, fun m hm l => held_disarms (run.of_mem hm), fun m hm => reset_iff (run.of_mem hm)⟩
  intro pre x post split fired
  obtain ⟨down, since⟩ := watched.fired split fired
  refine ⟨down, since, ?_⟩
  intro y earlier seen
  exact watched.spaced (iterations_ordered ordered) split fired earlier seen

/-- No lease at 0 ms, and none 10 s later. -/
def outageScript : List (Input plainStack) :=
  [.clock 0, .poll () none, .clock 0, .dhcpDiagnostics ⟨0, 0⟩, .nextEvent none,
    .poll () none, .clock 240000000]

theorem keep_polling_resets_outage :
    ∃ ms s, Run keepPolling (begin plainNet ⟨0, 0⟩) ms s ∧
      iterations ms = [⟨0, false, false⟩, ⟨10000, false, true⟩] ∧
      ∃ first, DownSince [⟨0, false, false⟩] first ∧ first.time + 10000 ≤ 10000 := by
  have run : Run keepPolling (begin plainNet ⟨0, 0⟩) _ _ := exec_run outageScript rfl
  have fired := (keep_polling_resets _ _ _ _ run (by decide)).1 [⟨0, false, false⟩]
    ⟨10000, false, true⟩ [] rfl rfl
  exact ⟨_, _, run, rfl, fired.2.1⟩

end KeepPolling

end Ws63Examples.Connectivity
