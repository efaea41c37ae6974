import Ws63Examples.InitSmoke.PingSeries

/-!
`run` of the smoke test's `network_runner.rs`: a lease, a ping series to its router and one
to the public target, and the polling that never ends.
-/

namespace Ws63Examples.InitSmoke

open Execution Word

def dhcpTimeoutMs : UInt64 := 30000
def heartbeatMs : UInt64 := 10000

namespace Runner

/-- What one step asks of its environment, with the answer. -/
inductive Input (stack : Smoltcp) where
  | hardwareAddress (mac : Option (Vector UInt8 6))
  /-- `bind` of the ICMP socket, whose `expect` panics on an error. -/
  | bind (ok : Bool)
  | clock (ms : UInt64)
  | poll (traffic : stack.Traffic) (event : Option DhcpEvent)
  /-- `sleep_ms`, whose `expect` panics on an error. -/
  | sleep (ok : Bool)
  /-- `rx_received` and `tx_count` -/
  | counters (rxReceived txCount : Nat)
  | dhcpDiagnostics (now : Connectivity.DhcpDiagnostics)
  | queueDiagnostics (dropped : Nat)
  | ping (input : InitSmoke.Input stack)

inductive Line where
  | noMac
  | runnerBegin
  | dhcpBegin
  | dhcpTimeout (rxReceived txCount : Nat)
  | arpBegin (target : Ipv4Address)
  | connectivitySummary (gatewayTx gatewayRx publicTx publicRx rxQueueDrop : Nat)
  | steady
  | renewOk (client server : UInt32)
  | alive (leaseUp : Bool)
  | dhcp (line : DhcpLine)
  deriving DecidableEq, Repr

inductive Effect where
  | write (line : Line)
  | ping (effect : InitSmoke.Effect)
  deriving DecidableEq, Repr

end Runner

/-- Where the wait for a lease stands, before the input it needs next. -/
inductive Acquisition.Point where
  | start
  | loopHead
  | poll
  | sleep

structure Acquisition (stack : Smoltcp) where
  net : Net stack
  startedAt : UInt64
  point : Acquisition.Point

inductive KeepPolling.Point where
  | start
  | poll
  | clock
  | diagnostics (current : UInt64)
  | sleep

structure KeepPolling (stack : Smoltcp) where
  net : Net stack
  dhcpBaseline : Connectivity.DhcpDiagnostics
  heartbeatAt : UInt64
  renewReported : Bool
  point : KeepPolling.Point

/-- The runner in one of its phases, with what the later ones need. -/
inductive Runner (stack : Smoltcp) where
  | boot (iface : stack.Interface)
  | bind (iface : stack.Interface)
  | dhcp (s : Acquisition stack)
  | timeout (net : Net stack)
  | timeoutBaseline (net : Net stack)
  | baseline (active : Lease) (net : Net stack)
  | gatewayPing (active : Lease) (dhcpBaseline : Connectivity.DhcpDiagnostics)
      (s : PingSeries stack)
  | publicPing (active : Lease) (dhcpBaseline : Connectivity.DhcpDiagnostics)
      (gateway : PingStats) (s : PingSeries stack)
  | queue (active : Lease) (dhcpBaseline : Connectivity.DhcpDiagnostics)
      (gateway publicStats : PingStats) (net : Net stack)
  | keep (s : KeepPolling stack)
  | idle
  | panicked

variable {stack : Smoltcp}

def KeepPolling.begin (net : Net stack) (dhcpBaseline : Connectivity.DhcpDiagnostics) :
    KeepPolling stack where
  net := net
  dhcpBaseline := dhcpBaseline
  heartbeatAt := 0
  renewReported := false
  point := .start

namespace Runner

def writeDhcp (lines : List DhcpLine) : List Effect := lines.map fun line => .write (Line.dhcp line)

/-- The `while` loop of `run`; its condition asks for the lease first. -/
def acquireLease (s : Acquisition stack) (input : Input stack) :
    Option (Runner stack × List Effect) :=
  match s.point, input with
  | .start, .clock ms => some (.dhcp { s with startedAt := ms, point := .loopHead }, [])
  | .loopHead, .clock ms =>
    if ms - s.startedAt < dhcpTimeoutMs then some (.dhcp { s with point := .poll }, [])
    else some (.timeout s.net, [])
  | .poll, .poll traffic event =>
    match pollNetwork traffic event s.net with
    | some (net, lines) => some (.dhcp { s with net := net, point := .sleep }, writeDhcp lines)
    | none => some (.panicked, [])
  | .sleep, .sleep true =>
    match s.net.lease with
    | some active => some (.baseline active s.net, [])
    | none => some (.dhcp { s with point := .loopHead }, [])
  | .sleep, .sleep false => some (.panicked, [])
  | _, _ => none

def pingPublic (active : Lease) (dhcpBaseline : Connectivity.DhcpDiagnostics)
    (gateway : PingStats) (net : Net stack) (neighborConfirmed : Bool) :
    Runner stack × List Effect :=
  let (s, out) := PingSeries.begin net neighborConfirmed publicTarget pingCount
  (.publicPing active dhcpBaseline gateway s, out.map .ping)

/-- Without a router the statistics of the first series are the default ones. -/
def pingGateway (active : Lease) (dhcpBaseline : Connectivity.DhcpDiagnostics) (net : Net stack) :
    Runner stack × List Effect :=
  match active.router with
  | some gateway =>
    let (s, out) := PingSeries.begin net false gateway pingCount
    (.gatewayPing active dhcpBaseline s, .write (.arpBegin gateway) :: out.map .ping)
  | none => pingPublic active dhcpBaseline .default net false

def afterGateway (active : Lease) (dhcpBaseline : Connectivity.DhcpDiagnostics)
    (s : PingSeries stack) : Runner stack × List Effect :=
  match s.point with
  | .returned stats => pingPublic active dhcpBaseline stats s.net s.neighborConfirmed
  | .panicked => (.panicked, [])
  | _ => (.gatewayPing active dhcpBaseline s, [])

def afterPublic (active : Lease) (dhcpBaseline : Connectivity.DhcpDiagnostics)
    (gateway : PingStats) (s : PingSeries stack) : Runner stack :=
  match s.point with
  | .returned stats => .queue active dhcpBaseline gateway stats s.net
  | .panicked => .panicked
  | _ => .publicPing active dhcpBaseline gateway s

end Runner

namespace KeepPolling

def reportRenewal (s : KeepPolling stack) (now : Connectivity.DhcpDiagnostics) :
    KeepPolling stack × List Runner.Effect :=
  if ¬ s.renewReported ∧ s.dhcpBaseline.clientPackets < now.clientPackets ∧
      s.dhcpBaseline.serverPackets < now.serverPackets then
    ({ s with renewReported := true },
      [.write (.renewOk (now.clientPackets - s.dhcpBaseline.clientPackets)
        (now.serverPackets - s.dhcpBaseline.serverPackets))])
  else (s, [])

def heartbeat (s : KeepPolling stack) (current : UInt64) :
    KeepPolling stack × List Runner.Effect :=
  if s.heartbeatAt ≤ current then
    ({ s with heartbeatAt := saturatingAdd64 current heartbeatMs },
      [.write (.alive s.net.lease.isSome)])
  else (s, [])

end KeepPolling

namespace Runner

def keepPolling (s : KeepPolling stack) (input : Input stack) :
    Option (Runner stack × List Effect) :=
  match s.point, input with
  | .start, .clock ms =>
    some (.keep { s with
      heartbeatAt := saturatingAdd64 ms heartbeatMs
      renewReported := false
      point := .poll }, [])
  | .poll, .poll traffic event =>
    match pollNetwork traffic event s.net with
    | some (net, lines) => some (.keep { s with net := net, point := .clock }, writeDhcp lines)
    | none => some (.panicked, [])
  | .clock, .clock ms => some (.keep { s with point := .diagnostics ms }, [])
  | .diagnostics current, .dhcpDiagnostics now =>
    let (s, renewal) := s.reportRenewal now
    let (s, alive) := s.heartbeat current
    some (.keep { s with point := .sleep }, renewal ++ alive)
  | .sleep, .sleep true => some (.keep { s with point := .poll }, [])
  | .sleep, .sleep false => some (.panicked, [])
  | _, _ => none

end Runner

open Runner in
def networkRunner (icmp : IcmpWire) (r : Runner stack) (input : Runner.Input stack) :
    Option (Runner stack × List Runner.Effect) :=
  match r, input with
  | .boot _, .hardwareAddress none => some (.idle, [.write .noMac])
  | .boot iface, .hardwareAddress (some _) => some (.bind iface, [])
  | .bind iface, .bind true =>
    some (.dhcp ⟨⟨iface, none⟩, 0, .start⟩, [.write .runnerBegin, .write .dhcpBegin])
  | .bind _, .bind false => some (.panicked, [])
  | .dhcp s, input => acquireLease s input
  | .timeout net, .counters rxReceived txCount =>
    some (.timeoutBaseline net, [.write (.dhcpTimeout rxReceived txCount)])
  | .timeoutBaseline net, .dhcpDiagnostics now => some (.keep (.begin net now), [])
  | .baseline active net, .dhcpDiagnostics now => some (pingGateway active now net)
  | .gatewayPing active dhcpBaseline s, .ping input => do
    let (s, out) ← pingSeries icmp s input
    let (r, more) := afterGateway active dhcpBaseline s
    return (r, out.map .ping ++ more)
  | .publicPing active dhcpBaseline gateway s, .ping input => do
    let (s, out) ← pingSeries icmp s input
    return (afterPublic active dhcpBaseline gateway s, out.map .ping)
  | .queue _ dhcpBaseline gateway publicStats net, .queueDiagnostics dropped =>
    some (.keep (.begin net dhcpBaseline),
      [.write (.connectivitySummary gateway.tx gateway.rx publicStats.tx publicStats.rx dropped),
        .write .steady])
  | .keep s, input => keepPolling s input
  | .idle, .sleep true => some (.idle, [])
  | .idle, .sleep false => some (.panicked, [])
  | _, _ => none

namespace Runner

variable {icmp : IcmpWire} {r t : Runner stack} {input : Input stack} {out : List Effect}

/-- What a step can do. -/
inductive Step (icmp : IcmpWire) :
    Runner stack → Input stack → Runner stack → List Effect → Prop
  | unaddressed (iface : stack.Interface) :
      Step icmp (.boot iface) (.hardwareAddress none) .idle [.write .noMac]
  | boot (iface : stack.Interface) (mac : Vector UInt8 6) :
      Step icmp (.boot iface) (.hardwareAddress (some mac)) (.bind iface) []
  | bound (iface : stack.Interface) :
      Step icmp (.bind iface) (.bind true) (.dhcp ⟨⟨iface, none⟩, 0, .start⟩)
        [.write .runnerBegin, .write .dhcpBegin]
  | bindPanic (iface : stack.Interface) : Step icmp (.bind iface) (.bind false) .panicked []
  | start (s : Acquisition stack) (at_point : s.point = .start) (ms : UInt64) :
      Step icmp (.dhcp s) (.clock ms) (.dhcp { s with startedAt := ms, point := .loopHead }) []
  | enter (s : Acquisition stack) (at_point : s.point = .loopHead) (ms : UInt64)
      (early : ms - s.startedAt < dhcpTimeoutMs) :
      Step icmp (.dhcp s) (.clock ms) (.dhcp { s with point := .poll }) []
  | late (s : Acquisition stack) (at_point : s.point = .loopHead) (ms : UInt64)
      (late : ¬ ms - s.startedAt < dhcpTimeoutMs) :
      Step icmp (.dhcp s) (.clock ms) (.timeout s.net) []
  | acquire (s : Acquisition stack) (at_point : s.point = .poll) (traffic : stack.Traffic)
      (event : Option DhcpEvent) (net : Net stack) (lines : List DhcpLine)
      (polled : pollNetwork traffic event s.net = some (net, lines)) :
      Step icmp (.dhcp s) (.poll traffic event) (.dhcp { s with net := net, point := .sleep })
        (writeDhcp lines)
  | acquirePanic (s : Acquisition stack) (at_point : s.point = .poll) (traffic : stack.Traffic)
      (event : Option DhcpEvent) (polled : pollNetwork traffic event s.net = none) :
      Step icmp (.dhcp s) (.poll traffic event) .panicked []
  | leased (s : Acquisition stack) (at_point : s.point = .sleep) (active : Lease)
      (held : s.net.lease = some active) :
      Step icmp (.dhcp s) (.sleep true) (.baseline active s.net) []
  | unleased (s : Acquisition stack) (at_point : s.point = .sleep) (lost : s.net.lease = none) :
      Step icmp (.dhcp s) (.sleep true) (.dhcp { s with point := .loopHead }) []
  | acquireSleepPanic (s : Acquisition stack) (at_point : s.point = .sleep) :
      Step icmp (.dhcp s) (.sleep false) .panicked []
  | timeout (net : Net stack) (rxReceived txCount : Nat) :
      Step icmp (.timeout net) (.counters rxReceived txCount) (.timeoutBaseline net)
        [.write (.dhcpTimeout rxReceived txCount)]
  | giveUp (net : Net stack) (now : Connectivity.DhcpDiagnostics) :
      Step icmp (.timeoutBaseline net) (.dhcpDiagnostics now) (.keep (.begin net now)) []
  | baseline (active : Lease) (net : Net stack) (now : Connectivity.DhcpDiagnostics) :
      Step icmp (.baseline active net) (.dhcpDiagnostics now) (pingGateway active now net).1
        (pingGateway active now net).2
  | gatewayPing (active : Lease) (dhcpBaseline : Connectivity.DhcpDiagnostics)
      (s u : PingSeries stack) (input : InitSmoke.Input stack) (sent : List InitSmoke.Effect)
      (stepped : pingSeries icmp s input = some (u, sent)) :
      Step icmp (.gatewayPing active dhcpBaseline s) (.ping input)
        (afterGateway active dhcpBaseline u).1
        (sent.map .ping ++ (afterGateway active dhcpBaseline u).2)
  | publicPing (active : Lease) (dhcpBaseline : Connectivity.DhcpDiagnostics)
      (gateway : PingStats) (s u : PingSeries stack) (input : InitSmoke.Input stack)
      (sent : List InitSmoke.Effect) (stepped : pingSeries icmp s input = some (u, sent)) :
      Step icmp (.publicPing active dhcpBaseline gateway s) (.ping input)
        (afterPublic active dhcpBaseline gateway u) (sent.map .ping)
  | summary (active : Lease) (dhcpBaseline : Connectivity.DhcpDiagnostics)
      (gateway publicStats : PingStats) (net : Net stack) (dropped : Nat) :
      Step icmp (.queue active dhcpBaseline gateway publicStats net) (.queueDiagnostics dropped)
        (.keep (.begin net dhcpBaseline))
        [.write (.connectivitySummary gateway.tx gateway.rx publicStats.tx publicStats.rx dropped),
          .write .steady]
  | keepStart (s : KeepPolling stack) (at_point : s.point = .start) (ms : UInt64) :
      Step icmp (.keep s) (.clock ms) (.keep { s with
        heartbeatAt := saturatingAdd64 ms heartbeatMs
        renewReported := false
        point := .poll }) []
  | keepPoll (s : KeepPolling stack) (at_point : s.point = .poll) (traffic : stack.Traffic)
      (event : Option DhcpEvent) (net : Net stack) (lines : List DhcpLine)
      (polled : pollNetwork traffic event s.net = some (net, lines)) :
      Step icmp (.keep s) (.poll traffic event) (.keep { s with net := net, point := .clock })
        (writeDhcp lines)
  | keepPanic (s : KeepPolling stack) (at_point : s.point = .poll) (traffic : stack.Traffic)
      (event : Option DhcpEvent) (polled : pollNetwork traffic event s.net = none) :
      Step icmp (.keep s) (.poll traffic event) .panicked []
  | keepClock (s : KeepPolling stack) (at_point : s.point = .clock) (ms : UInt64) :
      Step icmp (.keep s) (.clock ms) (.keep { s with point := .diagnostics ms }) []
  | keepReport (s : KeepPolling stack) (current : UInt64)
      (at_point : s.point = .diagnostics current) (now : Connectivity.DhcpDiagnostics) :
      Step icmp (.keep s) (.dhcpDiagnostics now)
        (.keep { ((s.reportRenewal now).1.heartbeat current).1 with point := .sleep })
        ((s.reportRenewal now).2 ++ ((s.reportRenewal now).1.heartbeat current).2)
  | keepResume (s : KeepPolling stack) (at_point : s.point = .sleep) :
      Step icmp (.keep s) (.sleep true) (.keep { s with point := .poll }) []
  | keepSleepPanic (s : KeepPolling stack) (at_point : s.point = .sleep) :
      Step icmp (.keep s) (.sleep false) .panicked []
  | idle : Step icmp .idle (.sleep true) .idle []
  | idlePanic : Step icmp .idle (.sleep false) .panicked []

theorem acquireLease_cases {s : Acquisition stack} (h : acquireLease s input = some (t, out)) :
    Step icmp (.dhcp s) input t out := by
  unfold acquireLease at h
  split at h
  case h_1 ms at_point =>
    cases h
    exact .start s at_point ms
  case h_2 ms at_point =>
    split at h
    · rename_i early
      cases h
      exact .enter s at_point ms early
    · rename_i late
      cases h
      exact .late s at_point ms late
  case h_3 traffic event at_point =>
    split at h
    · rename_i polled
      cases h
      exact .acquire s at_point traffic event _ _ polled
    · rename_i polled
      cases h
      exact .acquirePanic s at_point traffic event polled
  case h_4 at_point =>
    split at h
    · rename_i held
      cases h
      exact .leased s at_point _ held
    · rename_i lost
      cases h
      exact .unleased s at_point lost
  case h_5 at_point =>
    cases h
    exact .acquireSleepPanic s at_point
  case h_6 => cases h

theorem keepPolling_cases {s : KeepPolling stack} (h : keepPolling s input = some (t, out)) :
    Step icmp (.keep s) input t out := by
  unfold keepPolling at h
  split at h
  case h_1 ms at_point =>
    cases h
    exact .keepStart s at_point ms
  case h_2 traffic event at_point =>
    split at h
    · rename_i polled
      cases h
      exact .keepPoll s at_point traffic event _ _ polled
    · rename_i polled
      cases h
      exact .keepPanic s at_point traffic event polled
  case h_3 ms at_point =>
    cases h
    exact .keepClock s at_point ms
  case h_4 current now at_point =>
    cases h
    exact .keepReport s current at_point now
  case h_5 at_point =>
    cases h
    exact .keepResume s at_point
  case h_6 at_point =>
    cases h
    exact .keepSleepPanic s at_point
  case h_7 => cases h

theorem step_cases (h : networkRunner icmp r input = some (t, out)) : Step icmp r input t out := by
  unfold networkRunner at h
  split at h
  case h_1 iface =>
    cases h
    exact .unaddressed iface
  case h_2 iface mac =>
    cases h
    exact .boot iface mac
  case h_3 iface =>
    cases h
    exact .bound iface
  case h_4 iface =>
    cases h
    exact .bindPanic iface
  case h_5 s input => exact acquireLease_cases h
  case h_6 net rxReceived txCount =>
    cases h
    exact .timeout net rxReceived txCount
  case h_7 net now =>
    cases h
    exact .giveUp net now
  case h_8 active net now =>
    obtain ⟨rfl, rfl⟩ := answer_parts h
    exact .baseline active net now
  case h_9 active dhcpBaseline s input =>
    obtain ⟨⟨u, sent⟩, stepped, same⟩ := Option.bind_eq_some_iff.mp h
    cases same
    exact .gatewayPing active dhcpBaseline s u input sent stepped
  case h_10 active dhcpBaseline gateway s input =>
    obtain ⟨⟨u, sent⟩, stepped, same⟩ := Option.bind_eq_some_iff.mp h
    cases same
    exact .publicPing active dhcpBaseline gateway s u input sent stepped
  case h_11 active dhcpBaseline gateway publicStats net dropped =>
    cases h
    exact .summary active dhcpBaseline gateway publicStats net dropped
  case h_12 s input => exact keepPolling_cases h
  case h_13 =>
    cases h
    exact .idle
  case h_14 =>
    cases h
    exact .idlePanic
  case h_15 => cases h

theorem panicked_stuck (input : Input stack) : networkRunner icmp .panicked input = none := rfl

/-- A move of the runner. -/
abbrev Running (stack : Smoltcp) := Move (Runner stack) (Input stack) Effect

end Runner

end Ws63Examples.InitSmoke
