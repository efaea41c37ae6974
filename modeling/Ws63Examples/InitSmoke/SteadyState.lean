import Ws63Examples.InitSmoke.NetworkLease
import Ws63Examples.Lib.Deadline
import Ws63Examples.Lib.History

/-! `keep_polling` of the smoke test: one report on the renewal, and the heartbeats. -/

namespace Ws63Examples.InitSmoke.Runner

open Connectivity (DhcpDiagnostics)
open Deadline Execution History Word

variable {stack : Smoltcp} {icmp : IcmpWire}

/-- What one turn of the loop has read. -/
structure Turn where
  time : UInt64
  leaseUp : Bool
  dhcp : DhcpDiagnostics

def turn (m : Running stack) : Option Turn :=
  match m.before, m.input with
  | .keep s, .dhcpDiagnostics now =>
    match s.point with
    | .diagnostics current => some ⟨current, s.net.lease.isSome, now⟩
    | _ => none
  | _, _ => none

/-- The clock and the baseline at the start of the loop. -/
def beginning (m : Running stack) : Option (UInt64 × DhcpDiagnostics) :=
  match m.before, m.input with
  | .keep s, .clock ms =>
    match s.point with
    | .start => some (ms, s.dhcpBaseline)
    | _ => none
  | _, _ => none

def Effect.alive : Effect → Option Bool
  | .write (.alive leaseUp) => some leaseUp
  | _ => none

def Effect.renewal : Effect → Option (Nat × Nat)
  | .write (.renewOk client server) => some (client.toNat, server.toNat)
  | _ => none

def turns (ms : List (Running stack)) : List Turn := ms.filterMap turn

def beginnings (ms : List (Running stack)) : List (UInt64 × DhcpDiagnostics) :=
  ms.filterMap beginning

def alives (written : List Effect) : List Bool := written.filterMap Effect.alive

def renewals (written : List Effect) : List (Nat × Nat) := written.filterMap Effect.renewal

/-- The time of the next heartbeat. -/
def nextBeat (time : UInt64) : UInt64 := saturatingAdd64 time heartbeatMs

/-- The turns with a heartbeat, ten seconds behind the start or the heartbeat before. -/
def beats (start : UInt64) (turns : List Turn) : List Turn :=
  firings Turn.time nextBeat (nextBeat start) turns

/-- Both counters are past the baseline. -/
def Turn.renewed (baseline : DhcpDiagnostics) (turn : Turn) : Bool :=
  baseline.clientPackets < turn.dhcp.clientPackets ∧
    baseline.serverPackets < turn.dhcp.serverPackets

def Turn.gain (baseline : DhcpDiagnostics) (turn : Turn) : Nat × Nat :=
  (turn.dhcp.clientPackets.toNat - baseline.clientPackets.toNat,
    turn.dhcp.serverPackets.toNat - baseline.serverPackets.toNat)

section
variable {ms : List (Running stack)} {r t : Runner stack} {input : Input stack} {out : List Effect}

/-- The loop has not begun. -/
structure Unbegun (ms : List (Running stack)) : Prop where
  beginnings : beginnings ms = []
  turns : turns ms = []
  alives : alives (effects ms) = []
  renewals : renewals (effects ms) = []

/-- The loop runs since `start`. -/
structure Begun (ms : List (Running stack)) (start : UInt64) (baseline : DhcpDiagnostics) :
    Prop where
  beginnings : beginnings ms = [(start, baseline)]
  alives : alives (effects ms) = (beats start (turns ms)).map Turn.leaseUp
  renewals : renewals (effects ms) =
    ((turns ms).find? (Turn.renewed baseline)).toList.map (Turn.gain baseline)

/-- What the state of the loop remembers. -/
structure Remembers (ms : List (Running stack)) (s : KeepPolling stack) (start : UInt64) : Prop where
  begun : Begun ms start s.dhcpBaseline
  heartbeat : s.heartbeatAt = deadline Turn.time nextBeat (nextBeat start) (turns ms)
  reported : s.renewReported = (turns ms).any (Turn.renewed s.dhcpBaseline)

def Steady (ms : List (Running stack)) : Runner stack → Prop
  | .keep s => (s.point = .start → Unbegun ms) ∧
      (s.point ≠ .start → ∃ start, Remembers ms s start)
  | .panicked => Unbegun ms ∨ ∃ start baseline, Begun ms start baseline
  | _ => Unbegun ms

/-- A move that reads no turn and prints nothing of the two. -/
structure Silent (m : Running stack) : Prop where
  beginning : beginning m = none
  turn : turn m = none
  alives : alives m.effects = []
  renewals : renewals m.effects = []

theorem Silent.turns {m : Running stack} (h : Silent m) (ms : List (Running stack)) :
    turns (ms ++ [m]) = turns ms := by
  rw [Runner.turns, filterMap_snoc, h.turn]
  exact List.append_nil _

theorem Silent.same {m : Running stack} (h : Silent m) (ms : List (Running stack)) :
    beginnings (ms ++ [m]) = beginnings ms ∧
      Runner.alives (effects (ms ++ [m])) = Runner.alives (effects ms) ∧
      Runner.renewals (effects (ms ++ [m])) = Runner.renewals (effects ms) := by
  have quiet := h.alives
  have still := h.renewals
  unfold Runner.alives at quiet
  unfold Runner.renewals at still
  rw [beginnings, filterMap_snoc, h.beginning, effects_append, effects_singleton, Runner.alives,
    Runner.renewals, List.filterMap_append, List.filterMap_append, quiet, still]
  exact ⟨List.append_nil _, List.append_nil _, List.append_nil _⟩

theorem Unbegun.later (h : Unbegun ms) {m : Running stack} (silent : Silent m) :
    Unbegun (ms ++ [m]) := by
  obtain ⟨first, quiet, still⟩ := silent.same ms
  exact ⟨first.trans h.beginnings, (silent.turns ms).trans h.turns, quiet.trans h.alives,
    still.trans h.renewals⟩

theorem Begun.later {start : UInt64} {baseline : DhcpDiagnostics} (h : Begun ms start baseline)
    {m : Running stack} (silent : Silent m) : Begun (ms ++ [m]) start baseline := by
  obtain ⟨first, quiet, still⟩ := silent.same ms
  constructor
  · rw [first, h.beginnings]
  · rw [quiet, silent.turns, h.alives]
  · rw [still, silent.turns, h.renewals]

theorem Remembers.later {start : UInt64} {s u : KeepPolling stack} (h : Remembers ms s start)
    {m : Running stack} (silent : Silent m) (baseline : u.dhcpBaseline = s.dhcpBaseline)
    (heartbeat : u.heartbeatAt = s.heartbeatAt) (reported : u.renewReported = s.renewReported) :
    Remembers (ms ++ [m]) u start := by
  constructor
  · rw [baseline]
    exact h.begun.later silent
  · rw [heartbeat, silent.turns, h.heartbeat]
  · rw [reported, silent.turns, baseline, h.reported]

theorem heartbeat_eq (s : KeepPolling stack) (current : UInt64) :
    (s.heartbeat current).1.heartbeatAt =
        (if s.heartbeatAt ≤ current then nextBeat current else s.heartbeatAt) ∧
      (s.heartbeat current).1.dhcpBaseline = s.dhcpBaseline ∧
      (s.heartbeat current).1.renewReported = s.renewReported ∧
      alives (s.heartbeat current).2 =
        (if s.heartbeatAt ≤ current then [s.net.lease.isSome] else []) ∧
      renewals (s.heartbeat current).2 = [] := by
  unfold KeepPolling.heartbeat nextBeat
  by_cases due : s.heartbeatAt ≤ current
  · simp only [due, if_true]
    exact ⟨trivial, trivial, trivial, rfl, rfl⟩
  · simp only [due, if_false]
    exact ⟨trivial, trivial, trivial, rfl, rfl⟩

/-- The counters in the report do not wrap: both have grown. -/
theorem reportRenewal_eq (s : KeepPolling stack) (turn : Turn) :
    (s.reportRenewal turn.dhcp).1.renewReported =
        (s.renewReported || turn.renewed s.dhcpBaseline) ∧
      (s.reportRenewal turn.dhcp).1.dhcpBaseline = s.dhcpBaseline ∧
      (s.reportRenewal turn.dhcp).1.heartbeatAt = s.heartbeatAt ∧
      (s.reportRenewal turn.dhcp).1.net = s.net ∧
      alives (s.reportRenewal turn.dhcp).2 = [] ∧
      renewals (s.reportRenewal turn.dhcp).2 =
        if s.renewReported = false ∧ turn.renewed s.dhcpBaseline then [turn.gain s.dhcpBaseline]
        else [] := by
  unfold KeepPolling.reportRenewal Turn.renewed
  by_cases due : ¬ s.renewReported = true ∧ s.dhcpBaseline.clientPackets < turn.dhcp.clientPackets ∧
      s.dhcpBaseline.serverPackets < turn.dhcp.serverPackets
  · obtain ⟨unreported, client, server⟩ := due
    have fresh : s.renewReported = false := by simpa using unreported
    rw [if_pos ⟨unreported, client, server⟩, if_pos ⟨fresh, by simp [client, server]⟩, fresh]
    refine ⟨by simp [client, server], rfl, rfl, rfl, rfl, ?_⟩
    have clients := UInt32.toNat_sub_of_le _ _ (UInt32.le_of_lt client)
    have servers := UInt32.toNat_sub_of_le _ _ (UInt32.le_of_lt server)
    unfold Turn.gain
    rw [← clients, ← servers]
    rfl
  · rw [if_neg due, if_neg (by simpa using due)]
    refine ⟨?_, rfl, rfl, rfl, rfl, rfl⟩
    cases known : s.renewReported with
    | true => rfl
    | false =>
      have not_yet : ¬ (s.dhcpBaseline.clientPackets < turn.dhcp.clientPackets ∧
          s.dhcpBaseline.serverPackets < turn.dhcp.serverPackets) := by
        intro both
        exact due ⟨by simp [known], both⟩
      simp [not_yet]

/-- Output without a heartbeat or a report on the renewal. -/
structure Still (out : List Effect) : Prop where
  alives : alives out = []
  renewals : renewals out = []

theorem Still.append {first rest : List Effect} (h : Still first) (later : Still rest) :
    Still (first ++ rest) where
  alives := by
    rw [Runner.alives, List.filterMap_append]
    exact List.append_eq_nil_iff.mpr ⟨h.alives, later.alives⟩
  renewals := by
    rw [Runner.renewals, List.filterMap_append]
    exact List.append_eq_nil_iff.mpr ⟨h.renewals, later.renewals⟩

theorem still_pings (sent : List InitSmoke.Effect) : Still (sent.map .ping) := by
  induction sent with
  | nil => exact ⟨rfl, rfl⟩
  | cons effect rest ih => exact ⟨ih.alives, ih.renewals⟩

theorem still_writeDhcp (lines : List DhcpLine) : Still (writeDhcp lines) := by
  induction lines with
  | nil => exact ⟨rfl, rfl⟩
  | cons line rest ih => exact ⟨ih.alives, ih.renewals⟩

theorem still_pingGateway (active : Lease) (now : DhcpDiagnostics) (net : Net stack) :
    Still (pingGateway active now net).2 := by
  unfold pingGateway
  split
  · rename_i router _
    have still := still_pings (PingSeries.begin net false router pingCount).2
    exact ⟨still.alives, still.renewals⟩
  · exact still_pings _

/-- The phases ahead of the loop. -/
def Ahead : Runner stack → Prop
  | .keep s => s.point = .start
  | _ => True

theorem Unbegun.steady (h : Unbegun ms) (ahead : Ahead r) : Steady ms r := by
  cases r with
  | keep s =>
    exact ⟨fun _ => h, fun running => absurd ahead running⟩
  | panicked => exact .inl h
  | _ => exact h

theorem ahead_afterGateway (active : Lease) (now : DhcpDiagnostics) (s : PingSeries stack) :
    Ahead (afterGateway active now s).1 ∧ Still (afterGateway active now s).2 := by
  unfold afterGateway
  split
  · exact ⟨trivial, still_pings _⟩
  · exact ⟨trivial, rfl, rfl⟩
  · exact ⟨trivial, rfl, rfl⟩

theorem ahead_afterPublic (active : Lease) (now : DhcpDiagnostics) (gateway : PingStats)
    (s : PingSeries stack) : Ahead (afterPublic active now gateway s) := by
  unfold afterPublic
  split <;> exact trivial

theorem ahead_pingGateway (active : Lease) (now : DhcpDiagnostics) (net : Net stack) :
    Ahead (pingGateway active now net).1 := by
  unfold pingGateway
  split <;> exact trivial

theorem steady_keep {s : KeepPolling stack} (h : ∃ start, Remembers ms s start)
    (running : s.point ≠ .start) : Steady ms (.keep s) :=
  ⟨fun at_start => absurd at_start running, fun _ => h⟩

theorem Remembers.report {s : KeepPolling stack} {start : UInt64} (h : Remembers ms s start)
    {current : UInt64} (at_point : s.point = .diagnostics current) (now : DhcpDiagnostics) :
    Remembers (ms ++ [⟨.keep s, .dhcpDiagnostics now,
        (s.reportRenewal now).2 ++ ((s.reportRenewal now).1.heartbeat current).2, t⟩])
      { ((s.reportRenewal now).1.heartbeat current).1 with point := .sleep } start := by
  let this_turn : Turn := ⟨current, s.net.lease.isSome, now⟩
  obtain ⟨reported, base, due, net, silent, renewal⟩ := reportRenewal_eq s this_turn
  obtain ⟨beat, same, kept, alive, still⟩ := heartbeat_eq (s.reportRenewal now).1 current
  change (s.reportRenewal now).1.heartbeatAt = s.heartbeatAt at due
  rw [due] at beat alive
  have grown : turns (ms ++ [⟨.keep s, .dhcpDiagnostics now,
      (s.reportRenewal now).2 ++ ((s.reportRenewal now).1.heartbeat current).2, t⟩]) =
      turns ms ++ [this_turn] := by
    rw [turns, filterMap_snoc]
    simp only [turn, at_point]
    rfl
  have baseline : ({ ((s.reportRenewal now).1.heartbeat current).1 with
      point := .sleep } : KeepPolling stack).dhcpBaseline = s.dhcpBaseline := same.trans base
  have overdue := h.heartbeat
  refine ⟨⟨?_, ?_, ?_⟩, ?_, ?_⟩
  · rw [beginnings, filterMap_snoc, baseline]
    simp only [beginning]
    exact (List.append_nil _).trans h.begun.beginnings
  · rw [effects_append, effects_singleton, grown, beats, firings_snoc, List.map_append,
      ← h.heartbeat]
    simp only [alives, List.filterMap_append]
    change alives (effects ms) ++ (alives _ ++ alives _) = _
    rw [silent, alive, net, h.begun.alives]
    split <;> rfl
  · rw [effects_append, effects_singleton, grown, baseline]
    simp only [renewals, List.filterMap_append]
    change renewals (effects ms) ++ (renewals _ ++ renewals _) = _
    rw [renewal, still, h.begun.renewals, h.reported, find?_snoc, List.map_append]
    split <;> rfl
  · rw [grown, deadline_snoc, ← h.heartbeat]
    exact beat
  · rw [grown, List.any_append, baseline, ← h.reported]
    refine kept.trans (reported.trans ?_)
    simp

theorem step_steady (steady : Steady ms r) (h : networkRunner icmp r input = some (t, out)) :
    Steady (ms ++ [⟨r, input, out, t⟩]) t := by
  cases step_cases h with
  | unaddressed | boot | bound | bindPanic | start | enter | late | leased | unleased | timeout
  | giveUp | summary | idle | idlePanic | acquirePanic | acquireSleepPanic =>
    exact (Unbegun.later steady ⟨rfl, rfl, rfl, rfl⟩).steady (by first | exact trivial | rfl)
  | acquire s at_point traffic event net lines polled =>
    have still := still_writeDhcp lines
    exact (Unbegun.later steady ⟨rfl, rfl, still.alives, still.renewals⟩).steady trivial
  | baseline active net now =>
    have still := still_pingGateway active now net
    exact (Unbegun.later steady ⟨rfl, rfl, still.alives, still.renewals⟩).steady
      (ahead_pingGateway active now net)
  | gatewayPing active now s u input sent stepped =>
    obtain ⟨ahead, more⟩ := ahead_afterGateway active now u
    have still := (still_pings sent).append more
    exact (Unbegun.later steady ⟨rfl, rfl, still.alives, still.renewals⟩).steady ahead
  | publicPing active now gateway s u input sent stepped =>
    have still := still_pings sent
    exact (Unbegun.later steady ⟨rfl, rfl, still.alives, still.renewals⟩).steady
      (ahead_afterPublic active now gateway u)
  | keepStart s at_point start =>
    have unbegun := steady.1 at_point
    have begins : beginnings (ms ++ [⟨.keep s, .clock start, [], .keep { s with
        heartbeatAt := saturatingAdd64 start heartbeatMs
        renewReported := false
        point := .poll }⟩]) = [(start, s.dhcpBaseline)] := by
      rw [beginnings, filterMap_snoc, show List.filterMap beginning ms = [] from unbegun.beginnings]
      simp only [beginning, at_point]
      rfl
    have none_read : turns (ms ++ [⟨.keep s, .clock start, [], .keep { s with
        heartbeatAt := saturatingAdd64 start heartbeatMs
        renewReported := false
        point := .poll }⟩]) = [] := by
      rw [turns, filterMap_snoc, show List.filterMap turn ms = [] from unbegun.turns]
      rfl
    refine steady_keep ⟨start, ⟨begins, ?_, ?_⟩, ?_, ?_⟩ (by simp)
    · rw [none_read, effects_append, effects_singleton, List.append_nil, unbegun.alives]
      rfl
    · rw [none_read, effects_append, effects_singleton, List.append_nil, unbegun.renewals]
      rfl
    · rw [none_read, deadline, nextBeat]
    · rw [none_read]
      rfl
  | keepPoll s at_point traffic event net lines polled =>
    have still := still_writeDhcp lines
    obtain ⟨start, remembers⟩ := steady.2 (by simp [at_point])
    exact steady_keep ⟨start, remembers.later ⟨rfl, rfl, still.alives, still.renewals⟩ rfl rfl rfl⟩ (by simp)
  | keepPanic s at_point | keepSleepPanic s at_point =>
    obtain ⟨start, remembers⟩ := steady.2 (by simp [at_point])
    exact .inr ⟨start, _, remembers.begun.later ⟨rfl, rfl, rfl, rfl⟩⟩
  | keepClock s at_point ms' =>
    obtain ⟨start, remembers⟩ := steady.2 (by simp [at_point])
    have unread : beginning (⟨.keep s, .clock ms', [], .keep { s with point := .diagnostics ms' }⟩ :
        Running stack) = none := by simp only [beginning, at_point]
    exact steady_keep ⟨start, remembers.later ⟨unread, rfl, rfl, rfl⟩ rfl rfl rfl⟩ (by simp)
  | keepReport s current at_point now =>
    obtain ⟨start, remembers⟩ := steady.2 (by simp [at_point])
    exact steady_keep ⟨start, remembers.report at_point now⟩ (by simp)
  | keepResume s at_point =>
    obtain ⟨start, remembers⟩ := steady.2 (by simp [at_point])
    exact steady_keep ⟨start, remembers.later ⟨rfl, rfl, rfl, rfl⟩ rfl rfl rfl⟩ (by simp)

theorem run_steady {iface : stack.Interface} (run : Run (networkRunner icmp) (.boot iface) ms r) :
    Unbegun ms ∨ ∃ start baseline, Begun ms start baseline := by
  have steady : Steady ms r :=
    run.history (P := Steady) ⟨rfl, rfl, rfl, rfl⟩ fun _ _ _ _ _ _ steady h => step_steady steady h
  cases r with
  | keep s =>
    by_cases running : s.point = .start
    · exact .inl (steady.1 running)
    · obtain ⟨start, remembers⟩ := steady.2 running
      exact .inr ⟨start, s.dhcpBaseline, remembers.begun⟩
  | panicked => exact steady
  | _ => exact .inl steady

/-- The lease that a turn has seen is the one that the events before it leave. -/
theorem turn_lease (law : stack.Lawful) {iface : stack.Interface} (bare : stack.Bare iface)
    (room : stack.Room iface) {pre post : List (Running stack)} {m : Running stack} {seen : Turn}
    (run : Run (networkRunner icmp) (.boot iface) (pre ++ m :: post) r) (read : turn m = some seen) :
    seen.leaseUp = ((polled pre).foldl leaseAfter none).isSome := by
  obtain ⟨before, -, -⟩ := run.at_move
  unfold turn at read
  split at read
  · rename_i s now held _
    split at read
    · cases read
      have leased := run_leased law bare room before
      rw [held] at leased
      rw [← (leased.net s.net rfl).2]
    · cases read
  · cases read

/-- The answer of `dhcp_diagnostics`. -/
def Input.diagnosed : Input stack → Option DhcpDiagnostics
  | .dhcpDiagnostics now => some now
  | _ => none

def diagnosed (ms : List (Running stack)) : List DhcpDiagnostics :=
  (inputs ms).filterMap Input.diagnosed

theorem readings_snoc (ms : List (Running stack)) (m : Running stack) :
    readings (ms ++ [m]) = readings ms ++ (reading m.input).toList := by
  rw [readings, inputs_append, inputs_singleton, filterMap_snoc]
  rfl

theorem diagnosed_snoc (ms : List (Running stack)) (m : Running stack) :
    diagnosed (ms ++ [m]) = diagnosed ms ++ m.input.diagnosed.toList := by
  rw [diagnosed, inputs_append, inputs_singleton, filterMap_snoc]
  rfl

/-- What the phases remember of their last answers: the baseline up to the start of the loop,
and the time of a turn. -/
def Recalls (ms : List (Running stack)) : Runner stack → Prop
  | .gatewayPing _ dhcpBaseline _ | .publicPing _ dhcpBaseline _ _
  | .queue _ dhcpBaseline _ _ _ => (diagnosed ms).getLast? = some dhcpBaseline
  | .keep s =>
    (s.point = .start → (diagnosed ms).getLast? = some s.dhcpBaseline) ∧
      ∀ current, s.point = .diagnostics current → (readings ms).getLast? = some current
  | _ => True

theorem recalls_pingGateway {now : DhcpDiagnostics} (recalled : (diagnosed ms).getLast? = some now)
    (active : Lease) (net : Net stack) : Recalls ms (pingGateway active now net).1 := by
  unfold pingGateway
  split <;> exact recalled

theorem recalls_afterGateway {now : DhcpDiagnostics} (recalled : (diagnosed ms).getLast? = some now)
    (active : Lease) (s : PingSeries stack) : Recalls ms (afterGateway active now s).1 := by
  unfold afterGateway
  split
  · exact recalled
  · exact trivial
  · exact recalled

theorem recalls_afterPublic {now : DhcpDiagnostics} (recalled : (diagnosed ms).getLast? = some now)
    (active : Lease) (gateway : PingStats) (s : PingSeries stack) :
    Recalls ms (afterPublic active now gateway s) := by
  unfold afterPublic
  split
  · exact recalled
  · exact trivial
  · exact recalled

theorem step_recalls (recalls : Recalls ms r) (h : networkRunner icmp r input = some (t, out)) :
    Recalls (ms ++ [⟨r, input, out, t⟩]) t := by
  -- A step that asks nothing of the driver keeps the baseline.
  have kept {baseline : DhcpDiagnostics} (unasked : input.diagnosed = none)
      (recalled : (diagnosed ms).getLast? = some baseline) :
      (diagnosed (ms ++ [⟨r, input, out, t⟩])).getLast? = some baseline := by
    rw [diagnosed_snoc, unasked, Option.toList_none, List.append_nil, recalled]
  cases step_cases h with
  | giveUp net now =>
    refine ⟨fun _ => ?_, nofun⟩
    rw [diagnosed_snoc]
    exact List.getLast?_concat
  | baseline active net now =>
    apply recalls_pingGateway
    rw [diagnosed_snoc]
    exact List.getLast?_concat
  | gatewayPing active now s u => exact recalls_afterGateway (kept rfl recalls) active u
  | publicPing active now gateway s u =>
    exact recalls_afterPublic (kept rfl recalls) active gateway u
  | summary => exact ⟨fun _ => kept rfl recalls, nofun⟩
  | keepClock s at_point time =>
    refine ⟨nofun, ?_⟩
    rintro current ⟨⟩
    rw [readings_snoc]
    exact List.getLast?_concat
  | keepStart | keepPoll | keepReport | keepResume => exact ⟨nofun, nofun⟩
  | _ => exact trivial

theorem run_recalls {iface : stack.Interface} (run : Run (networkRunner icmp) (.boot iface) ms r) :
    Recalls ms r :=
  run.history (P := Recalls) trivial fun _ _ _ _ _ _ recalls h => step_recalls recalls h

/-- A turn has the last reading of the clock and what the driver answers it. -/
theorem turn_read {iface : stack.Interface} {pre post : List (Running stack)} {m : Running stack}
    {seen : Turn} (run : Run (networkRunner icmp) (.boot iface) (pre ++ m :: post) r)
    (read : turn m = some seen) :
    (readings pre).getLast? = some seen.time ∧ m.input = .dhcpDiagnostics seen.dhcp := by
  obtain ⟨before, -, -⟩ := run.at_move
  have recalls := run_recalls before
  unfold turn at read
  split at read
  · rename_i s now held asked
    split at read
    · rename_i current at_point
      cases read
      rw [held] at recalls
      exact ⟨recalls.2 current at_point, asked⟩
    · cases read
  · cases read

/-- The loop begins at a reading of the clock, with the last answer of the driver. -/
theorem beginning_read {iface : stack.Interface} {pre post : List (Running stack)}
    {m : Running stack} {start : UInt64} {baseline : DhcpDiagnostics}
    (run : Run (networkRunner icmp) (.boot iface) (pre ++ m :: post) r)
    (begins : beginning m = some (start, baseline)) :
    m.input = .clock start ∧ (diagnosed pre).getLast? = some baseline := by
  obtain ⟨before, -, -⟩ := run.at_move
  have recalls := run_recalls before
  unfold beginning at begins
  split at begins
  · rename_i s time held asked
    split at begins
    · rename_i at_point
      cases begins
      rw [held] at recalls
      exact ⟨asked, recalls.1 at_point⟩
    · cases begins
  · cases begins

theorem Begun.gains {start : UInt64} {baseline : DhcpDiagnostics} (h : Begun ms start baseline) :
    (Runner.renewals (effects ms)).length ≤ 1 ∧
      ∀ gain ∈ Runner.renewals (effects ms), 0 < gain.1 ∧ 0 < gain.2 := by
  rw [h.renewals]
  cases found : (turns ms).find? (Turn.renewed baseline) with
  | none => exact ⟨Nat.zero_le 1, nofun⟩
  | some first =>
    refine ⟨Nat.le_refl 1, ?_⟩
    intro gain member
    obtain rfl : gain = first.gain baseline := List.mem_singleton.mp member
    have renewed := List.find?_some found
    simp only [Turn.renewed, decide_eq_true_eq, UInt32.lt_iff_toNat_lt] at renewed
    exact ⟨Nat.sub_pos_of_lt renewed.1, Nat.sub_pos_of_lt renewed.2⟩

/-- The heartbeats are those that a deadline ten seconds behind the start, or behind the
heartbeat before, calls for at the turns, with the lease as the events leave it. The
renewal is reported once, at the first turn with both counters past the baseline, and
by how much they are. A turn has the last reading of the clock, and the baseline is the
driver's last answer ahead of the loop. -/
theorem network_runner_steady (law : stack.Lawful) {iface : stack.Interface}
    (bare : stack.Bare iface) (room : stack.Room iface)
    (run : Run (networkRunner icmp) (.boot iface) ms r) :
    (∀ pre m post seen, ms = pre ++ m :: post → turn m = some seen →
      (readings pre).getLast? = some seen.time ∧ m.input = .dhcpDiagnostics seen.dhcp ∧
        seen.leaseUp = ((polled pre).foldl leaseAfter none).isSome) ∧
    (∀ pre m post start baseline, ms = pre ++ m :: post → beginning m = some (start, baseline) →
      m.input = .clock start ∧ (diagnosed pre).getLast? = some baseline) ∧
    (Unbegun ms ∨ ∃ start baseline, Begun ms start baseline ∧
      (start :: (beats start (turns ms)).map Turn.time).IsChain (fun a b => nextBeat a ≤ b) ∧
      (renewals (effects ms)).length ≤ 1 ∧
      ∀ gain ∈ renewals (effects ms), 0 < gain.1 ∧ 0 < gain.2) := by
  refine ⟨?_, ?_, ?_⟩
  · rintro pre m post seen rfl read
    obtain ⟨time, answer⟩ := turn_read run read
    exact ⟨time, answer, turn_lease law bare room run read⟩
  · rintro pre m post start baseline rfl begins
    exact beginning_read run begins
  · rcases run_steady run with unbegun | ⟨start, baseline, begun⟩
    · exact .inl unbegun
    · exact .inr ⟨start, baseline, begun, firings_spaced Turn.time nextBeat start _, begun.gains⟩

theorem network_runner_steady_renewed : ∃ (ms : List (Running plainStack)) (r : Runner plainStack),
    Run (networkRunner rfcIcmp) plainBoot ms r ∧ inputs ms = steadyScript ∧
      renewals (effects ms) = [(1, 1)] ∧ alives (effects ms) = [false] ∧
      ∃ start baseline, Begun ms start baseline := by
  obtain ⟨ms, r, run, script, shown⟩ := exec_shows (networkRunner rfcIcmp) plainBoot steadyScript
    (fun ms _ => renewals (effects ms) = [(1, 1)] && alives (effects ms) = [false])
    (by decide +kernel)
  obtain ⟨renewal, alive⟩ := Bool.and_eq_true_iff.mp shown
  have reported := of_decide_eq_true renewal
  obtain ⟨-, -, unbegun | ⟨start, baseline, begun, -⟩⟩ := network_runner_steady plainStack_lawful
    ⟨rfl, rfl⟩ (show plainStack.Room _ from Nat.zero_lt_one) run
  · cases reported.symm.trans unbegun.renewals
  · exact ⟨ms, r, run, script, reported, of_decide_eq_true alive, start, baseline, begun⟩

end

end Ws63Examples.InitSmoke.Runner
