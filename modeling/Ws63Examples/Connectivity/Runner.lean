import Ws63Examples.Connectivity.DnsProbe
import Ws63Examples.Connectivity.KeepPolling
import Ws63Examples.Connectivity.LocalProbe

/-! The network runner: its phases, and how each ends with the link. -/

namespace Ws63Examples.Connectivity

open Execution

def dhcpTimeoutMs : UInt64 := 30000

/-- Where the DHCP acquisition loop stands, before the input it needs next. -/
inductive Acquisition.Point where
  | start
  | loopHead
  | poll
  | wait
  | returned (result : Except NetworkExit (Option Lease))
  | panicked

structure Acquisition (stack : Smoltcp) where
  net : Net stack
  startedAt : UInt64
  point : Acquisition.Point

variable {stack : Smoltcp}

namespace Acquisition

def begin (net : Net stack) : Acquisition stack := ⟨net, 0, .start⟩

/-- The loop condition asks for the lease first and the clock only without one. -/
def resume (s : Acquisition stack) : Acquisition stack :=
  match s.net.lease with
  | some lease => { s with point := .returned (.ok (some lease)) }
  | none => { s with point := .loopHead }

end Acquisition

def acquireLease (s : Acquisition stack) (input : Input stack) :
    Option (Acquisition stack × List Effect) :=
  match s.point, input with
  | .start, .clock ticks => some ({ s with startedAt := monotonicMs ticks }.resume, [])
  | .loopHead, .clock ticks =>
    if monotonicMs ticks - s.startedAt < dhcpTimeoutMs then
      some ({ s with point := .poll }, [])
    else some ({ s with point := .returned (.ok none) }, [])
  | .poll, .poll traffic event =>
    match pollNetwork traffic event s.net with
    | some (net, out) => some ({ s with net := net, point := .wait }, out)
    | none => some ({ s with point := .panicked }, [])
  | .wait, .nextEvent event =>
    match waitPollInterval event with
    | (some exit, out) => some ({ s with point := .returned (.error exit) }, out)
    | (none, out) => some (s.resume, out)
  | _, _ => none

/-- What a step of the loop can do. -/
inductive Acquisition.Step (s : Acquisition stack) :
    Input stack → Acquisition stack → List Effect → Prop
  | start (at_point : s.point = .start) (ticks : UInt64) :
      Step s (.clock ticks) { s with startedAt := monotonicMs ticks }.resume []
  | enter (at_point : s.point = .loopHead) (ticks : UInt64)
      (early : monotonicMs ticks - s.startedAt < dhcpTimeoutMs) :
      Step s (.clock ticks) { s with point := .poll } []
  | timeout (at_point : s.point = .loopHead) (ticks : UInt64)
      (late : ¬ monotonicMs ticks - s.startedAt < dhcpTimeoutMs) :
      Step s (.clock ticks) { s with point := .returned (.ok none) } []
  | poll (at_point : s.point = .poll) (traffic : stack.Traffic) (event : Option DhcpEvent)
      (net : Net stack) (out : List Effect)
      (polled : pollNetwork traffic event s.net = some (net, out)) :
      Step s (.poll traffic event) { s with net := net, point := .wait } out
  | pollPanic (at_point : s.point = .poll) (traffic : stack.Traffic) (event : Option DhcpEvent)
      (polled : pollNetwork traffic event s.net = none) :
      Step s (.poll traffic event) { s with point := .panicked } []
  | exit (at_point : s.point = .wait) (event : Option WifiEvent) (exit : NetworkExit)
      (out : List Effect) (waited : waitPollInterval event = (some exit, out)) :
      Step s (.nextEvent event) { s with point := .returned (.error exit) } out
  | resume (at_point : s.point = .wait) (event : Option WifiEvent) (out : List Effect)
      (waited : waitPollInterval event = (none, out)) :
      Step s (.nextEvent event) s.resume out

theorem Acquisition.step_cases {s t : Acquisition stack} {input : Input stack} {out : List Effect}
    (h : acquireLease s input = some (t, out)) : Step s input t out := by
  unfold acquireLease at h
  split at h
  case h_1 ticks at_point =>
    obtain ⟨rfl, rfl⟩ := answer_parts h
    exact .start at_point ticks
  case h_2 ticks at_point =>
    split at h
    · rename_i early
      cases h
      exact .enter at_point ticks early
    · rename_i late
      cases h
      exact .timeout at_point ticks late
  case h_3 traffic event at_point =>
    split at h
    · rename_i polled
      cases h
      exact .poll at_point traffic event _ _ polled
    · rename_i polled
      cases h
      exact .pollPanic at_point traffic event polled
  case h_4 event at_point =>
    split at h
    · rename_i waited
      cases h
      exact .exit at_point event _ _ waited
    · rename_i waited
      obtain ⟨rfl, rfl⟩ := answer_parts h
      exact .resume at_point event _ waited
  case h_5 => cases h

/-- The runner in one of its phases, with what the later ones need. -/
inductive Runner (stack : Smoltcp) where
  | boot (iface : stack.Interface)
  | dhcp (s : Acquisition stack)
  | baseline (active : Lease) (net : Net stack)
  | probe (active : Lease) (dhcpBaseline : DhcpDiagnostics) (s : LocalProbe stack)
  | dns (active : Lease) (dhcpBaseline : DhcpDiagnostics) (localEcho : Bool) (s : DnsProbe stack)
  | gate (active : Lease) (dhcpBaseline : DhcpDiagnostics) (localEcho : Bool) (stats : DnsStats)
      (net : Net stack)
  | summary (dhcpBaseline : DhcpDiagnostics) (stats : DnsStats) (net : Net stack)
  | keep (s : KeepPolling stack)
  | halted
  | returned (exit : NetworkExit)
  | panicked

namespace Runner

def localTarget (active : Lease) : Ipv4Address := active.router.getD active.server

/-- `let Some(active_lease) = lease else { … halt() }` -/
def afterDhcp (s : Acquisition stack) : Runner stack × List Effect :=
  match s.point with
  | .returned (.error exit) => (.returned exit, [])
  | .returned (.ok (some active)) => (.baseline active s.net, [])
  | .returned (.ok none) => (.halted, [.write .dhcpTimeout])
  | .panicked => (.panicked, [])
  | _ => (.dhcp s, [])

def afterDns (active : Lease) (dhcpBaseline : DhcpDiagnostics) (localEcho : Bool)
    (s : DnsProbe stack) : Runner stack :=
  match s.point with
  | .returned (.error exit) => .returned exit
  | .returned (.ok stats) => .gate active dhcpBaseline localEcho stats s.net
  | .panicked => .panicked
  | _ => .dns active dhcpBaseline localEcho s

def afterProbe (active : Lease) (dhcpBaseline : DhcpDiagnostics) (s : LocalProbe stack) :
    Runner stack × List Effect :=
  match s.point with
  | .returned (.error exit) => (.returned exit, [])
  | .returned (.ok localEcho) =>
    if active.router.isSome then
      let (first, out) := DnsProbe.begin s.net publicTargets
      (afterDns active dhcpBaseline localEcho first, out)
    else (.gate active dhcpBaseline localEcho .default s.net, [.write .publicDnsSkip])
  | .panicked => (.panicked, [])
  | _ => (.probe active dhcpBaseline s, [])

def afterKeep (s : KeepPolling stack) : Runner stack :=
  match s.point with
  | .returned exit => .returned exit
  | .panicked => .panicked
  | _ => .keep s

/-- The lines on the local data path and on public DNS. -/
def reportGate (active : Lease) (localEcho : Bool) (stats : DnsStats) (gate : L2Diagnostics) :
    List Effect :=
  let localLines :=
    if gate.rxArpReplies ≠ 0 ∧ localEcho then
      [.write .arpOk, .write (.localDataPath true localEcho gate active.router)]
    else [.write (.localDataPath false localEcho gate active.router)]
  localLines ++
    if active.router.isSome then
      [.write (.publicDns stats.successfulTarget stats.attempts stats.responses stats.invalid
        stats.txErrors)]
    else []

end Runner

def networkRunner (r : Runner stack) (input : Input stack) :
    Option (Runner stack × List Effect) :=
  match r, input with
  | .boot iface, .stationMacAddress present =>
    if present then some (.dhcp (.begin ⟨iface, none⟩), [.write .runnerBegin, .write .dhcpBegin])
    else some (.halted, [.write .noMac])
  | .dhcp s, input => do
    let (s, out) ← acquireLease s input
    let (r, more) := Runner.afterDhcp s
    return (r, out ++ more)
  | .baseline active net, .dhcpDiagnostics dhcpBaseline =>
    some (.probe active dhcpBaseline (.begin net (Runner.localTarget active)), [])
  | .probe active dhcpBaseline s, input => do
    let (s, out) ← localNeighborProbe s input
    let (r, more) := Runner.afterProbe active dhcpBaseline s
    return (r, out ++ more)
  | .dns active dhcpBaseline localEcho s, input => do
    let (s, out) ← dnsProbe s input
    return (Runner.afterDns active dhcpBaseline localEcho s, out)
  | .gate active dhcpBaseline localEcho stats net, .l2Diagnostics gate =>
    some (.summary dhcpBaseline stats net, Runner.reportGate active localEcho stats gate)
  | .summary dhcpBaseline stats net, .l2Diagnostics l2 =>
    some (.keep (.begin net dhcpBaseline),
      [.write (.connectivitySummary l2 stats.attempts stats.responses stats.invalid stats.txErrors),
        .write .runnerSteady])
  | .keep s, input => do
    let (s, out) ← keepPolling s input
    return (Runner.afterKeep s, out)
  | _, _ => none

/-- A step exits exactly with the loss its input delivers, and then only
writes lines. -/
structure Ends (input : Input stack) (out : List Effect) (exit : Option NetworkExit) : Prop where
  exit : exit = input.linkLoss
  writes : input.linkLoss.isSome → ∀ e ∈ out, ∃ line, e = .write line

theorem Ends.going {input : Input stack} {out : List Effect} (kept : input.linkLoss = none) :
    Ends input out none :=
  ⟨kept.symm, by simp [kept]⟩

theorem Ends.waited {event : Option WifiEvent} {exit : Option NetworkExit} {out : List Effect}
    (h : waitPollInterval event = (exit, out)) : Ends (.nextEvent event : Input stack) out exit :=
  ⟨(waitPollInterval_linkLoss h).symm, fun _ => waitPollInterval_writes h⟩

namespace Acquisition

def Point.exit : Point → Option NetworkExit
  | .returned (.error exit) => some exit
  | _ => none

theorem resume_exit (s : Acquisition stack) : s.resume.point.exit = none := by
  unfold resume
  split <;> rfl

theorem step_ends {s t : Acquisition stack} {input : Input stack} {out : List Effect}
    (h : acquireLease s input = some (t, out)) : Ends input out t.point.exit := by
  cases step_cases h with
  | start at_point ticks =>
    rw [resume_exit]
    exact .going rfl
  | enter | timeout | poll | pollPanic => exact .going rfl
  | exit at_point event exit out waited => exact .waited waited
  | resume at_point event out waited =>
    rw [resume_exit]
    exact .waited waited

end Acquisition

namespace LocalProbe

def Point.exit : Point → Option NetworkExit
  | .returned (.error exit) => some exit
  | _ => none

theorem receive_exit {s : LocalProbe stack} (at_point : s.point = .drain) (response : Datagram) :
    (s.receive response).1.point.exit = none := by
  have drain : s.point.exit = none := by rw [at_point]; rfl
  unfold receive
  split
  · split
    · split
      · rfl
      · split <;> exact drain
    · exact drain
  · exact drain

theorem step_ends {s t : LocalProbe stack} {input : Input stack} {out : List Effect}
    (h : localNeighborProbe s input = some (t, out)) : Ends input out t.point.exit := by
  cases step_cases h with
  | start | enter | finish | poll | pollPanic | drained => exact .going rfl
  | receive at_point response =>
    rw [receive_exit at_point]
    exact .going rfl
  | pace at_point ticks =>
    dsimp only
    split <;> exact .going rfl
  | send current at_point ok => cases ok <;> exact .going rfl
  | exit at_point event exit out waited | resume at_point event out waited => exact .waited waited

end LocalProbe

namespace DnsProbe

def Point.exit : Point → Option NetworkExit
  | .returned (.error exit) => some exit
  | _ => none

theorem advance_exit (s : DnsProbe stack) : s.advance.point.exit = none := by
  unfold advance
  split <;> rfl

theorem sendQuery_exit (s : DnsProbe stack) (ok : Bool) :
    (s.sendQuery ok).1.point.exit = none := by
  unfold sendQuery
  split
  · rfl
  · cases ok
    · exact advance_exit _
    · rfl

theorem receive_exit {s : DnsProbe stack} (at_point : s.point = .drain) (response : Datagram) :
    (s.receive response).1.point.exit = none := by
  rcases receive_cases s response with ⟨-, received⟩ | ⟨-, received⟩
  · rw [received]
    rfl
  · rw [received, reject, at_point]
    rfl

theorem step_ends {s t : DnsProbe stack} {input : Input stack} {out : List Effect}
    (h : dnsProbe s input = some (t, out)) : Ends input out t.point.exit := by
  cases step_cases h with
  | send at_point ok =>
    rw [sendQuery_exit]
    exact .going rfl
  | timeout at_point ticks late =>
    rw [advance_exit]
    exact .going rfl
  | receive at_point response =>
    rw [receive_exit at_point]
    exact .going rfl
  | sent | enter | poll | pollPanic | drained => exact .going rfl
  | exit at_point event exit out waited | resume at_point event out waited => exact .waited waited

end DnsProbe

namespace KeepPolling

def Point.exit : Point → Option NetworkExit
  | .returned exit => some exit
  | _ => none

theorem step_ends {s t : KeepPolling stack} {input : Input stack} {out : List Effect}
    (h : keepPolling s input = some (t, out)) : Ends input out t.point.exit := by
  cases step_cases h with
  | start | poll | pollPanic | clock | diagnostics => exact .going rfl
  | exit at_point event exit out waited | resume at_point event out waited => exact .waited waited

end KeepPolling

namespace Runner

def exit : Runner stack → Option NetworkExit
  | .returned exit => some exit
  | _ => none

theorem exit_eq_some {r : Runner stack} {exit : NetworkExit} :
    r.exit = some exit ↔ r = .returned exit := by
  cases r <;> simp [Runner.exit]

/-- Each phase hands the exit of its loop on, and adds nothing to it. -/
theorem afterDhcp_exit (s : Acquisition stack) :
    (afterDhcp s).1.exit = s.point.exit ∧ (s.point.exit.isSome → (afterDhcp s).2 = []) := by
  unfold afterDhcp
  split <;> rename_i at_point
  · rw [at_point]
    exact ⟨rfl, fun _ => rfl⟩
  · rw [at_point]
    exact ⟨rfl, fun _ => rfl⟩
  · rw [at_point]
    exact ⟨rfl, nofun⟩
  · rw [at_point]
    exact ⟨rfl, nofun⟩
  · refine ⟨?_, fun _ => rfl⟩
    cases going : s.point with
    | returned result =>
      cases result with
      | error exit => simp_all
      | ok lease => rfl
    | _ => rfl

theorem afterDns_exit (active : Lease) (dhcpBaseline : DhcpDiagnostics) (localEcho : Bool)
    (s : DnsProbe stack) : (afterDns active dhcpBaseline localEcho s).exit = s.point.exit := by
  unfold afterDns
  cases s.point with
  | returned result => cases result <;> rfl
  | _ => rfl

theorem begin_exit (net : Net stack) (targets : List Ipv4Address) :
    (DnsProbe.begin net targets).1.point.exit = none := by
  unfold DnsProbe.begin
  dsimp only
  split
  · exact DnsProbe.advance_exit _
  · rfl

theorem afterProbe_exit (active : Lease) (dhcpBaseline : DhcpDiagnostics) (s : LocalProbe stack) :
    (afterProbe active dhcpBaseline s).1.exit = s.point.exit ∧
      (s.point.exit.isSome → (afterProbe active dhcpBaseline s).2 = []) := by
  unfold afterProbe
  cases s.point with
  | returned result =>
    cases result with
    | error exit => exact ⟨rfl, fun _ => rfl⟩
    | ok localEcho =>
      refine ⟨?_, nofun⟩
      dsimp only
      split
      · exact (afterDns_exit active dhcpBaseline localEcho _).trans (begin_exit s.net publicTargets)
      · rfl
  | panicked => exact ⟨rfl, nofun⟩
  | _ => exact ⟨rfl, fun _ => rfl⟩

theorem afterKeep_exit (s : KeepPolling stack) : (afterKeep s).exit = s.point.exit := by
  unfold afterKeep
  cases s.point <;> rfl

end Runner

theorem Ends.append {input : Input stack} {out more : List Effect} {exit : Option NetworkExit}
    (h : Ends input out exit) (silent : exit.isSome → more = []) : Ends input (out ++ more) exit := by
  refine ⟨h.exit, ?_⟩
  intro lost
  rw [silent (h.exit ▸ lost), List.append_nil]
  exact h.writes lost

namespace Runner

/-- A step inside a phase is a step of the phase's loop. -/
theorem dhcp_step {s : Acquisition stack} {input : Input stack} {r' : Runner stack}
    {out : List Effect} (h : networkRunner (.dhcp s) input = some (r', out)) :
    ∃ t mid, acquireLease s input = some (t, mid) ∧ r' = (afterDhcp t).1 ∧
      out = mid ++ (afterDhcp t).2 := by
  obtain ⟨⟨t, mid⟩, stepped, next⟩ := Option.bind_eq_some_iff.mp h
  have parts := Prod.mk.inj (Option.some.inj next)
  exact ⟨t, mid, stepped, parts.1.symm, parts.2.symm⟩

theorem probe_step {active : Lease} {dhcpBaseline : DhcpDiagnostics} {s : LocalProbe stack}
    {input : Input stack} {r' : Runner stack} {out : List Effect}
    (h : networkRunner (.probe active dhcpBaseline s) input = some (r', out)) :
    ∃ t mid, localNeighborProbe s input = some (t, mid) ∧
      r' = (afterProbe active dhcpBaseline t).1 ∧
      out = mid ++ (afterProbe active dhcpBaseline t).2 := by
  obtain ⟨⟨t, mid⟩, stepped, next⟩ := Option.bind_eq_some_iff.mp h
  have parts := Prod.mk.inj (Option.some.inj next)
  exact ⟨t, mid, stepped, parts.1.symm, parts.2.symm⟩

theorem dns_step {active : Lease} {dhcpBaseline : DhcpDiagnostics} {localEcho : Bool}
    {s : DnsProbe stack} {input : Input stack} {r' : Runner stack} {out : List Effect}
    (h : networkRunner (.dns active dhcpBaseline localEcho s) input = some (r', out)) :
    ∃ t, dnsProbe s input = some (t, out) ∧ r' = afterDns active dhcpBaseline localEcho t := by
  obtain ⟨⟨t, mid⟩, stepped, next⟩ := Option.bind_eq_some_iff.mp h
  obtain ⟨rfl, rfl⟩ := Prod.mk.inj (Option.some.inj next)
  exact ⟨t, stepped, rfl⟩

theorem keep_step {s : KeepPolling stack} {input : Input stack} {r' : Runner stack}
    {out : List Effect} (h : networkRunner (.keep s) input = some (r', out)) :
    ∃ t, keepPolling s input = some (t, out) ∧ r' = afterKeep t := by
  obtain ⟨⟨t, mid⟩, stepped, next⟩ := Option.bind_eq_some_iff.mp h
  obtain ⟨rfl, rfl⟩ := Prod.mk.inj (Option.some.inj next)
  exact ⟨t, stepped, rfl⟩

theorem step_ends {r r' : Runner stack} {input : Input stack} {out : List Effect}
    (h : networkRunner r input = some (r', out)) : Ends input out r'.exit := by
  cases r with
  | boot iface =>
    cases input with
    | stationMacAddress present =>
      cases present <;>
        · cases h
          exact .going rfl
    | _ => cases h
  | dhcp s =>
    obtain ⟨t, mid, stepped, rfl, rfl⟩ := dhcp_step h
    obtain ⟨exit, silent⟩ := afterDhcp_exit t
    rw [exit]
    exact (Acquisition.step_ends stepped).append silent
  | baseline active net =>
    cases input with
    | dhcpDiagnostics dhcpBaseline =>
      cases h
      exact .going rfl
    | _ => cases h
  | probe active dhcpBaseline s =>
    obtain ⟨t, mid, stepped, rfl, rfl⟩ := probe_step h
    obtain ⟨exit, silent⟩ := afterProbe_exit active dhcpBaseline t
    rw [exit]
    exact (LocalProbe.step_ends stepped).append silent
  | dns active dhcpBaseline localEcho s =>
    obtain ⟨t, stepped, rfl⟩ := dns_step h
    rw [afterDns_exit]
    exact DnsProbe.step_ends stepped
  | gate active dhcpBaseline localEcho stats net | summary dhcpBaseline stats net =>
    cases input with
    | l2Diagnostics l2 =>
      cases h
      exact .going rfl
    | _ => cases h
  | keep s =>
    obtain ⟨t, stepped, rfl⟩ := keep_step h
    rw [afterKeep_exit]
    exact KeepPolling.step_ends stepped
  | halted | returned exit | panicked => cases h

/-- What the runner knows: the interface and the lease, the probe's counters,
the DNS statistics and the restart timer. -/
structure Data (stack : Smoltcp) where
  net : Option (Net stack)
  counters : Option (Nat × Nat × BitVec 16)
  stats : Option DnsStats
  restartAt : Option UInt64

def data : Runner stack → Data stack
  | .boot iface => ⟨some ⟨iface, none⟩, none, none, none⟩
  | .dhcp s => ⟨some s.net, none, none, none⟩
  | .baseline _ net => ⟨some net, none, none, none⟩
  | .probe _ _ s => ⟨some s.net, some (s.sent, s.replies, s.receivedSequences), none, none⟩
  | .dns _ _ _ s => ⟨some s.net, none, some s.stats, none⟩
  | .gate _ _ _ stats net | .summary _ stats net => ⟨some net, none, some stats, none⟩
  | .keep s => ⟨some s.net, none, none, s.dhcpRestartAt⟩
  | .halted | .returned _ | .panicked => ⟨none, none, none, none⟩

def Ended : Runner stack → Prop
  | .halted | .returned _ | .panicked => True
  | _ => False

/-- An event that is not the loss of the link, or the timeout, changes nothing. -/
theorem event_ignored {r r' : Runner stack} {event : Option WifiEvent} {out : List Effect}
    (h : networkRunner r (.nextEvent event) = some (r', out))
    (kept : (Input.nextEvent event : Input stack).linkLoss = none) :
    r'.data = r.data ∧ ¬ r'.Ended := by
  cases r with
  | dhcp s =>
    obtain ⟨t, mid, stepped, rfl, -⟩ := dhcp_step h
    cases Acquisition.step_cases stepped with
    | exit _ _ _ _ waited => cases (waitPollInterval_linkLoss waited).symm.trans kept
    | resume =>
      unfold Acquisition.resume
      cases held : s.net.lease <;> exact ⟨rfl, id⟩
  | probe active dhcpBaseline s =>
    obtain ⟨t, mid, stepped, rfl, -⟩ := probe_step h
    cases LocalProbe.step_cases stepped with
    | exit _ _ _ _ waited => cases (waitPollInterval_linkLoss waited).symm.trans kept
    | resume => exact ⟨rfl, id⟩
  | dns active dhcpBaseline localEcho s =>
    obtain ⟨t, stepped, rfl⟩ := dns_step h
    cases DnsProbe.step_cases stepped with
    | exit _ _ _ _ waited => cases (waitPollInterval_linkLoss waited).symm.trans kept
    | resume => exact ⟨rfl, id⟩
  | keep s =>
    obtain ⟨t, stepped, rfl⟩ := keep_step h
    cases KeepPolling.step_cases stepped with
    | exit _ _ _ _ waited => cases (waitPollInterval_linkLoss waited).symm.trans kept
    | resume => exact ⟨rfl, id⟩
  | _ => cases h

/-- A move of the runner. -/
abbrev Running (stack : Smoltcp) := Move (Runner stack) (Input stack) Effect

/-- The link was never lost, or the last move dequeued its loss and ended the run. -/
def Watches (ms : List (Running stack)) (s : Runner stack) : Prop :=
  (s.exit = none ∧ ∀ m ∈ ms, m.input.linkLoss = none) ∨
  ∃ init last exit, ms = init ++ [last] ∧ (∀ m ∈ init, m.input.linkLoss = none) ∧
    last.input.linkLoss = some exit ∧ s = .returned exit ∧
    ∀ e ∈ last.effects, ∃ line, e = .write line

theorem run_watches {iface : stack.Interface} {ms : List (Running stack)} {s : Runner stack}
    (run : Run networkRunner (.boot iface) ms s) : Watches ms s := by
  refine run.history (P := Watches) (.inl ⟨rfl, fun m hm => absurd hm List.not_mem_nil⟩) ?_
  rintro ms u input v out - (⟨going, kept⟩ | ⟨_, _, exit, _, _, _, rfl, _⟩) h
  · have ends := step_ends h
    cases lost : input.linkLoss with
    | none =>
      refine .inl ⟨ends.exit.trans lost, ?_⟩
      intro m hm
      rcases List.mem_append.mp hm with hm | hm
      · exact kept m hm
      · obtain rfl := List.mem_singleton.mp hm
        exact lost
    | some exit =>
      have returned := exit_eq_some.mp (ends.exit.trans lost)
      exact .inr ⟨ms, _, exit, rfl, kept, lost, returned, ends.writes (by rw [lost]; rfl)⟩
  · cases h

/-- The run returns exactly when it has dequeued the loss of the link, with
the value of that event, and does nothing after it. -/
theorem run_returns_on_link_loss (iface : stack.Interface) (ms : List (Running stack))
    (s : Runner stack) (run : Run networkRunner (.boot iface) ms s) :
    ((∃ exit, s = .returned exit) ↔ ∃ m ∈ ms, m.input.linkLoss.isSome) ∧
    (∀ exit, s = .returned exit →
      (∃ init last event, ms = init ++ [last] ∧ (∀ m ∈ init, m.input.linkLoss = none) ∧
        last.input = .nextEvent (some event) ∧ event.exit = some exit ∧
        ∀ e ∈ last.effects, ∃ line, e = .write line) ∧
      ∀ input, networkRunner s input = none) ∧
    ∀ m ∈ ms, ∀ event, m.input = .nextEvent (some event) → event.exit = none →
      m.after.data = m.before.data ∧ ¬ m.after.Ended := by
  refine ⟨?_, ?_, ?_⟩
  · rcases run_watches run with ⟨going, kept⟩ | ⟨init, last, exit, rfl, -, lost, rfl, -⟩
    · constructor
      · rintro ⟨exit, rfl⟩
        cases going
      · rintro ⟨m, hm, lost⟩
        rw [kept m hm] at lost
        cases lost
    · constructor
      · exact fun _ => ⟨last, by simp, by rw [lost]; rfl⟩
      · exact fun _ => ⟨exit, rfl⟩
  · rintro exit rfl
    rcases run_watches run with ⟨going, -⟩ | ⟨init, last, exit', rfl, kept, lost, same, writes⟩
    · cases going
    · cases same
      refine ⟨?_, fun input => rfl⟩
      unfold Input.linkLoss at lost
      split at lost
      · rename_i event delivered
        exact ⟨init, last, event, rfl, kept, delivered, lost, writes⟩
      · cases lost
  · intro m hm event delivered benign
    have stepped := run.of_mem hm
    rw [delivered] at stepped
    exact event_ignored stepped benign

/-- Still without a lease, the link is lost. -/
def lostScript : List (Input plainStack) :=
  [.stationMacAddress true, .clock 0, .clock 0, .poll () none, .nextEvent (some .connected),
    .clock 240000, .poll () none, .nextEvent (some (.disconnected 8))]

theorem run_returns_on_link_loss_early :
    ∃ ms s, Run networkRunner (.boot plainNet.iface) ms s ∧ s = .returned (.disconnected 8) ∧
      ∃ m ∈ ms, m.input.linkLoss.isSome := by
  have run : Run networkRunner (.boot plainNet.iface) _ _ := exec_run lostScript rfl
  have returns := (run_returns_on_link_loss plainNet.iface _ _ run).1
  exact ⟨_, _, run, rfl, returns.mp ⟨_, rfl⟩⟩

end Runner

end Ws63Examples.Connectivity
