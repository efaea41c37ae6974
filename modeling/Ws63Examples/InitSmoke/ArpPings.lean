import Ws63Examples.InitSmoke.ArpProbe
import Ws63Examples.InitSmoke.EchoRequests
import Ws63Examples.InitSmoke.PingAccounts

/-! The ARP request of `run_arp_probe`, and the pings behind its reply. -/

namespace Ws63Examples.InitSmoke.FullInit

open Execution History Loop Slice Word

/-- An ARP request on the wire, padded to `n` bytes. -/
def arpFrame (n : Nat) (mac : Vector UInt8 6) (address target : Vector UInt8 4) : List UInt8 :=
  List.replicate 6 0xff ++ mac.toList ++ [0x08, 0x06] ++ [0x00, 0x01, 0x08, 0x00, 6, 4, 0x00, 0x01] ++
    mac.toList ++ address.toList ++ List.replicate 6 0 ++ target.toList ++ List.replicate (n - 42) 0

theorem arpRequest_eq {n : Nat} (room : 42 ≤ n) (mac : Vector UInt8 6)
    (address target : Vector UInt8 4) : ∃ request, arpRequest n mac address target = some request ∧
      request.toList = arpFrame n mac address target := by
  have mac_length : mac.toList.length = 6 := Vector.length_toList
  have address_length : address.toList.length = 4 := Vector.length_toList
  have target_length : target.toList.length = 4 := Vector.length_toList
  obtain ⟨_, h₁, z₁⟩ :=
    (ZeroFrom.start (n := n)).copy 0 6 (List.replicate 6 0xff) (by omega) rfl (by omega)
  obtain ⟨_, h₂, z₂⟩ := z₁.copy 6 12 mac.toList (by omega) (by omega) (by omega)
  obtain ⟨_, h₃, z₃⟩ := z₂.copy 12 14 [0x08, 0x06] (by omega) rfl (by omega)
  obtain ⟨_, h₄, z₄⟩ := z₃.copy 14 22 [0x00, 0x01, 0x08, 0x00, 6, 4, 0x00, 0x01] (by omega) rfl
    (by omega)
  obtain ⟨_, h₅, z₅⟩ := z₄.copy 22 28 mac.toList (by omega) (by omega) (by omega)
  obtain ⟨_, h₆, z₆⟩ := z₅.copy 28 32 address.toList (by omega) (by omega) (by omega)
  obtain ⟨request, h₇, z₇⟩ := z₆.copy 38 42 target.toList (by omega) (by omega) (by omega)
  refine ⟨request, ?_, ?_⟩
  · have filled : fill (Vector.replicate n 0) 0 6 0xff =
        copyFromSlice (Vector.replicate n (0 : UInt8)) 0 6 (List.replicate 6 0xff) := rfl
    rw [arpRequest, filled, h₁, some_bind, h₂, some_bind, h₃, some_bind, h₄, some_bind, h₅,
      some_bind, h₆, some_bind, h₇]
  · rw [z₇.whole]
    simp [arpFrame]

/-- What makes a received frame the reply of `gateway`. -/
structure ArpReply {mtu : Mtu} (gateway : Vector UInt8 4) (length : Nat)
    (frame : Vector UInt8 mtu.size) : Prop where
  headers : 42 ≤ length
  etherType : part frame 12 14 = [0x08, 0x06]
  operation : part frame 20 22 = [0x00, 0x02]
  sender : part frame 28 32 = gateway.toList

theorem isArpReply_spec {mtu : Mtu} {gateway : Vector UInt8 4} {length : Nat}
    {frame : Vector UInt8 mtu.size} (h : isArpReply gateway length frame = true) :
    ArpReply gateway length frame := by
  simp only [isArpReply, Bool.and_eq_true, decide_eq_true_eq, and_assoc] at h
  obtain ⟨headers, etherType, operation, sender⟩ := h
  exact ⟨headers, etherType, operation, sender⟩

namespace ArpProbe

/-- The answer of `hardware_address`. -/
def Input.hardware {mtu : Mtu} : Input mtu → Option (Option (Vector UInt8 6))
  | .hardwareAddress mac => some mac
  | _ => none

/-- The answer of `dhcp_probe`. -/
def Input.lease {mtu : Mtu} : Input mtu → Option (Option DhcpConfig)
  | .dhcpProbe lease => some lease
  | _ => none

def Input.toPing {mtu : Mtu} : Input mtu → Option (FullInit.Input mtu)
  | .ping input => some input
  | _ => none

def Input.taken {mtu : Mtu} : Input mtu → Bool
  | .takeReceived _ => true
  | _ => false

def Effect.toPing : Effect → Option FullInit.Effect
  | .ping effect => some effect
  | _ => none

def Effect.frame : Effect → Option (List UInt8)
  | .transmit frame => some frame
  | _ => none

def Effect.summary : Effect → Option (Nat × Nat × Nat × Nat)
  | .write (.connectivitySummary gatewayTx gatewayRx publicTx publicRx) =>
    some (gatewayTx, gatewayRx, publicTx, publicRx)
  | _ => none

/-- What the ping series are asked. -/
def asked {mtu : Mtu} (ms : List (Probing mtu)) : List (FullInit.Input mtu) :=
  (inputs ms).filterMap Input.toPing

/-- What the ping series did. -/
def pinged (written : List Effect) : List FullInit.Effect := written.filterMap Effect.toPing

/-- The ARP requests. -/
def arpFrames (written : List Effect) : List (List UInt8) := written.filterMap Effect.frame

def summaries (written : List Effect) : List (Nat × Nat × Nat × Nat) :=
  written.filterMap Effect.summary

/-- How often the probe itself looks for a frame. -/
def takes {mtu : Mtu} (ms : List (Probing mtu)) : Nat := (inputs ms).countP Input.taken

/-- One ping series, from its start to where it stands. -/
def Series (mtu : Mtu) (fuel : Nat) (config : PingConfig) (series : RunPingSeries)
    (asked : List (FullInit.Input mtu)) (seen : List FullInit.Effect) : Prop :=
  ∃ ms, Run (runPingSeries fuel) (RunPingSeries.begin fuel config sampleCount).1 ms series ∧
    inputs ms = asked ∧ (RunPingSeries.begin fuel config sampleCount).2 ++ effects ms = seen

section
variable {mtu : Mtu} {fuel : Nat} {config : PingConfig} {series next : RunPingSeries}
  {asked : List (FullInit.Input mtu)} {seen sent : List FullInit.Effect}

theorem Series.begin : Series mtu fuel config (RunPingSeries.begin fuel config sampleCount).1 []
    (RunPingSeries.begin fuel config sampleCount).2 :=
  ⟨[], .start, rfl, List.append_nil _⟩

theorem Series.step (h : Series mtu fuel config series asked seen) {input : FullInit.Input mtu}
    (stepped : runPingSeries fuel series input = some (next, sent)) :
    Series mtu fuel config next (asked ++ [input]) (seen ++ sent) := by
  obtain ⟨ms, run, rfl, rfl⟩ := h
  refine ⟨_, run.next stepped, ?_, ?_⟩
  · rw [inputs_append, inputs_singleton]
  · rw [effects_append, effects_singleton, List.append_assoc]

/-- Some of the five requests are out, all of them once the series has returned. -/
theorem Series.requests (h : Series mtu fuel config series asked seen) (enough : 3 ≤ fuel) :
    ∃ sent ≤ 5, FullInit.requests seen = FullInit.series config sent ∧
      ((∃ stats, series.point = .returned stats) → sent = 5) := by
  obtain ⟨ms, run, -, rfl⟩ := h
  have now := RunPingSeries.run_requesting enough run
  have five : sampleCount.toNat = 5 := rfl
  by_cases ready : series.point.ready = true
  · have before := now.ready ready
    obtain ⟨sent, number, whole⟩ := before.sent
    have bound := before.le
    refine ⟨sent, by omega, whole, ?_⟩
    rintro ⟨stats, returned⟩
    rw [returned] at ready
    cases ready
  · have before := now.sent (by simpa using ready)
    refine ⟨series.sequence, before.le, before.sent, ?_⟩
    rintro ⟨stats, returned⟩
    exact now.ended (by rw [returned]; rfl)

/-- The statuses printed by a series. -/
def statuses (seen : List FullInit.Effect) : List SampleStatus :=
  seen.filterMap RunPingSeries.status

/-- What a series returns is what its five statuses say. -/
theorem Series.returned (h : Series mtu fuel config series asked seen) {stats : PingStats}
    (returned : series.point = .returned stats) :
    (statuses seen).length = 5 ∧ stats.toPingStats = .of (statuses seen) := by
  obtain ⟨ms, run, -, rfl⟩ := h
  have consistent := (RunPingSeries.run_accounts run).2.1 stats returned
  have exact_stats : stats.toPingStats = .of (statuses _) := consistent.exact
  refine ⟨?_, exact_stats⟩
  have samples := consistent.samples
  rw [exact_stats, PingStats.of_samples] at samples
  exact samples

end

section
variable {mtu : Mtu} {fuel : Nat} {ms : List (Probing mtu)} {s t : ArpProbe} {input : Input mtu}
  {out : List Effect}

/-- No series so far. -/
structure Quiet (ms : List (Probing mtu)) : Prop where
  asked : asked ms = []
  pinged : pinged (effects ms) = []
  summaries : summaries (effects ms) = []

/-- What the probe was told of its hardware address and its lease, and the requests it
transmitted. -/
structure Known (ms : List (Probing mtu)) (hardware : List (Option (Vector UInt8 6)))
    (leases : List (Option DhcpConfig)) (frames : List (List UInt8)) : Prop where
  hardware : (inputs ms).filterMap Input.hardware = hardware
  leases : (inputs ms).filterMap Input.lease = leases
  frames : arpFrames (effects ms) = frames

/-- The probe has its lease and its router, and transmitted these requests. -/
def Leased (ms : List (Probing mtu)) (s : ArpProbe) (frames : List (List UInt8)) : Prop :=
  ∃ prefixLen, Known ms [some s.mac] [some ⟨s.address, prefixLen, some s.gateway⟩] frames

/-- There is no lease, and the static request was transmitted. -/
def Leaseless (ms : List (Probing mtu)) (s : ArpProbe) : Prop :=
  Known ms [some s.mac] [none] [arpFrame 42 s.mac staticAddress staticGateway]

/-- The request for the router of the lease was transmitted. -/
def Asks (ms : List (Probing mtu)) (s : ArpProbe) : Prop :=
  Leased ms s [arpFrame 74 s.mac s.address s.gateway]

/-- Ahead of any series, but behind the request for it, a reply from the gateway was
taken, with these bytes for its address. -/
def Heard (ms : List (Probing mtu)) (s : ArpProbe) (sender : List UInt8) : Prop :=
  ∃ pre m post length frame, ms = pre ++ m :: post ∧ Quiet pre ∧ Asks pre s ∧
    m.input = .takeReceived (some (length, frame)) ∧ ArpReply s.gateway length frame ∧
    sender = part frame 6 12

/-- The series to the gateway has returned, and the public one runs. -/
def Second (fuel : Nat) (s : ArpProbe) (asked : List (FullInit.Input mtu))
    (seen : List FullInit.Effect) (gateway : PingStats) (series : RunPingSeries) : Prop :=
  ∃ first firstAsked firstSeen laterAsked laterSeen,
    Series mtu fuel (s.config s.gateway) first firstAsked firstSeen ∧
      first.point = .returned gateway ∧
      Series mtu fuel (s.config publicAddress) series laterAsked laterSeen ∧
      asked = firstAsked ++ laterAsked ∧ seen = firstSeen ++ laterSeen

/-- Both series have returned, and the summary is printed. -/
def Summarized (fuel : Nat) (ms : List (Probing mtu)) (s : ArpProbe) : Prop :=
  Heard ms s s.gatewayMac.toList ∧ ∃ gateway series stats,
    Second fuel s (asked ms) (pinged (effects ms)) gateway series ∧
      series.point = .returned stats ∧
      summaries (effects ms) = [(gateway.tx, gateway.rx, stats.tx, stats.rx)]

/-- No request yet, or the one for the router of the lease, or without a lease the static
one. -/
def OneRequest (ms : List (Probing mtu)) (s : ArpProbe) : Prop :=
  arpFrames (effects ms) = [] ∨ Asks ms s ∨ Leaseless ms s

/-- What is known and has been requested by each point. -/
def Requested (ms : List (Probing mtu)) (s : ArpProbe) : Prop :=
  match s.point with
  | .hardwareAddress => Known ms [] [] []
  | .clock | .dhcpProbe => Known ms [some s.mac] [] []
  | .elapsed lease => Known ms [some s.mac] [lease] []
  | .leaseless | .lastRx | .lastTx | .staticTransmit => Known ms [some s.mac] [none] []
  | .transmit => Leased ms s []
  | .receive | .sleep | .accepted _ | .unanswered | .gatewayPing _ | .publicPing _ _ => Asks ms s
  | .staticReceive | .staticSleep => Leaseless ms s
  | .returned | .stopped _ => OneRequest ms s

/-- What has been pinged by each point. -/
def Account (fuel : Nat) (ms : List (Probing mtu)) (s : ArpProbe) : Prop :=
  match s.point with
  | .accepted sender => Quiet ms ∧ Heard ms s sender
  | .gatewayPing series => Heard ms s s.gatewayMac.toList ∧
      Series mtu fuel (s.config s.gateway) series (asked ms) (pinged (effects ms)) ∧
      summaries (effects ms) = []
  | .publicPing gateway series => Heard ms s s.gatewayMac.toList ∧
      Second fuel s (asked ms) (pinged (effects ms)) gateway series ∧ summaries (effects ms) = []
  | .returned => Quiet ms ∨ Summarized fuel ms s
  | _ => Quiet ms

theorem Heard.later {sender : List UInt8} (h : Heard ms s sender) (m : Probing mtu) :
    Heard (ms ++ [m]) s sender := by
  obtain ⟨pre, n, post, length, frame, rfl, heard⟩ := h
  exact ⟨pre, n, post ++ [m], length, frame, by simp, heard⟩

theorem asked_snoc (ms : List (Probing mtu)) (m : Probing mtu) :
    asked (ms ++ [m]) = asked ms ++ m.input.toPing.toList := by
  rw [asked, inputs_append, inputs_singleton, filterMap_snoc]
  rfl

theorem pinged_append (first rest : List Effect) :
    pinged (first ++ rest) = pinged first ++ pinged rest := List.filterMap_append

theorem pinged_pings (sent : List FullInit.Effect) : pinged (sent.map .ping) = sent := by
  induction sent with
  | nil => rfl
  | cons effect rest ih => exact congrArg (effect :: ·) ih

theorem summaries_append (first rest : List Effect) :
    summaries (first ++ rest) = summaries first ++ summaries rest := List.filterMap_append

theorem summaries_pings (sent : List FullInit.Effect) : summaries (sent.map .ping) = [] := by
  induction sent with
  | nil => rfl
  | cons effect rest ih => exact ih

/-- A move apart from the series. -/
theorem Quiet.later (h : Quiet ms) (m : Probing mtu) (unasked : m.input.toPing = none)
    (unpinged : ArpProbe.pinged m.effects = []) (open_still : ArpProbe.summaries m.effects = []) :
    Quiet (ms ++ [m]) where
  asked := by rw [asked_snoc, h.asked, unasked]; rfl
  pinged := by rw [effects_append, effects_singleton, pinged_append, h.pinged, unpinged]; rfl
  summaries := by
    rw [effects_append, effects_singleton, summaries_append, h.summaries, open_still]
    rfl

theorem arpFrames_append (first rest : List Effect) :
    arpFrames (first ++ rest) = arpFrames first ++ arpFrames rest := List.filterMap_append

theorem arpFrames_pings (sent : List FullInit.Effect) : arpFrames (sent.map .ping) = [] := by
  induction sent with
  | nil => rfl
  | cons effect rest ih => exact ih

theorem Known.later {hardware : List (Option (Vector UInt8 6))} {leases : List (Option DhcpConfig)}
    {frames : List (List UInt8)} (h : Known ms hardware leases frames) (m : Probing mtu) :
    Known (ms ++ [m]) (hardware ++ m.input.hardware.toList) (leases ++ m.input.lease.toList)
      (frames ++ arpFrames m.effects) where
  hardware := by rw [inputs_append, inputs_singleton, filterMap_snoc, h.hardware]
  leases := by rw [inputs_append, inputs_singleton, filterMap_snoc, h.leases]
  frames := by rw [effects_append, effects_singleton, arpFrames_append, h.frames]

/-- A move that learns and requests nothing. -/
theorem Known.pass {hardware : List (Option (Vector UInt8 6))} {leases : List (Option DhcpConfig)}
    {frames : List (List UInt8)} (h : Known ms hardware leases frames) (m : Probing mtu)
    (untold : m.input.hardware = none) (unleased : m.input.lease = none)
    (quiet : arpFrames m.effects = []) : Known (ms ++ [m]) hardware leases frames := by
  have later := h.later m
  rw [untold, unleased, quiet] at later
  simpa using later

theorem Leased.pass {frames : List (List UInt8)} (h : Leased ms s frames) (m : Probing mtu)
    (untold : m.input.hardware = none) (unleased : m.input.lease = none)
    (quiet : arpFrames m.effects = []) : Leased (ms ++ [m]) s frames := by
  obtain ⟨prefixLen, known⟩ := h
  exact ⟨prefixLen, known.pass m untold unleased quiet⟩

/-- Behind a step of the first series: it has returned, or goes on. -/
theorem afterGateway_cases (fuel : Nat) (s : ArpProbe) (series : RunPingSeries) :
    (∃ stats, series.point = .returned stats ∧ s.afterGateway fuel series =
      let next := RunPingSeries.begin fuel (s.config publicAddress) sampleCount
      ({ s with point := .publicPing stats next.1 }, next.2.map .ping)) ∨
      s.afterGateway fuel series = ({ s with point := .gatewayPing series }, []) := by
  unfold afterGateway
  cases series.point with
  | returned stats => exact .inl ⟨stats, rfl, rfl⟩
  | _ => exact .inr rfl

theorem afterPublic_cases (s : ArpProbe) (gateway : PingStats) (series : RunPingSeries) :
    (∃ stats, series.point = .returned stats ∧ s.afterPublic gateway series =
      ({ s with point := .returned },
        [.write (.connectivitySummary gateway.tx gateway.rx stats.tx stats.rx)])) ∨
      s.afterPublic gateway series = ({ s with point := .publicPing gateway series }, []) := by
  unfold afterPublic
  cases series.point with
  | returned stats => exact .inl ⟨stats, rfl, rfl⟩
  | _ => exact .inr rfl

theorem sendRequest_eq (s : ArpProbe) (ok : Bool) : s.sendRequest ok =
    if ok then ({ s with turn := 0, point := .receive },
      [.transmit (arpFrame 74 s.mac s.address s.gateway)])
    else ({ s with point := .returned },
      [.transmit (arpFrame 74 s.mac s.address s.gateway), .write .arpTxError]) := by
  obtain ⟨request, built, whole⟩ := arpRequest_eq (n := 74) (by decide) s.mac s.address s.gateway
  have same : probeRequest s.mac s.address s.gateway = some request := built
  rw [sendRequest, same, ← whole]

theorem sendStatic_eq (s : ArpProbe) (ok : Bool) : s.sendStatic ok =
    if ok then ({ s with turn := 0, point := .staticReceive },
      [.write .staticArpBegin, .transmit (arpFrame 42 s.mac staticAddress staticGateway)])
    else ({ s with point := .returned },
      [.write .staticArpBegin, .transmit (arpFrame 42 s.mac staticAddress staticGateway),
        .write .staticArpTxError]) := by
  obtain ⟨request, built, whole⟩ :=
    arpRequest_eq (n := 42) (by decide) s.mac staticAddress staticGateway
  have same : FullInit.staticRequest s.mac = some request := built
  rw [sendStatic, same, ← whole]

theorem step_requested (h : Step fuel s input t out) (requested : Requested ms s) :
    Requested (ms ++ [⟨s, input, out, t⟩]) t := by
  unfold Requested at requested
  cases h with
  | unaddressed at_point =>
    rw [at_point] at requested
    exact .inl (requested.later _).frames
  | addressed at_point | dhcpProbe at_point =>
    rw [at_point] at requested
    exact requested.later _
  | clock at_point | leaseless at_point | counters at_point | lastRx at_point | lastTx at_point =>
    rw [at_point] at requested
    exact requested.pass _ rfl rfl rfl
  | leased lease at_point =>
    rw [at_point] at requested
    obtain ⟨address, prefixLen, router⟩ := lease
    cases router with
    | none => exact .inl (requested.later _).frames
    | some gateway => exact ⟨prefixLen, requested.pass _ rfl rfl rfl⟩
  | request at_point ok =>
    rw [at_point] at requested
    obtain ⟨prefixLen, requested⟩ := requested
    rw [sendRequest_eq]
    cases ok with
    | true => exact ⟨prefixLen, requested.later _⟩
    | false => exact .inr (.inl ⟨prefixLen, requested.later _⟩)
  | receive at_point received =>
    rw [at_point] at requested
    have next : Asks _ s := requested.pass ⟨s, .takeReceived received, [], s.receive received⟩
      rfl rfl rfl
    revert next
    unfold ArpProbe.receive
    split
    · exact id
    · split
      · exact id
      · exact id
  | resume at_point =>
    rw [at_point] at requested
    have next : Asks _ s := requested.pass ⟨s, .msleep, [], s.nextTurn⟩ rfl rfl rfl
    revert next
    unfold nextTurn
    split
    · exact id
    · exact id
  | pingGateway sender at_point rx tx txFailed rxDropped =>
    rw [at_point] at requested
    unfold ArpProbe.pingGateway
    split
    · exact .inr (.inl (requested.pass _ rfl rfl rfl))
    · exact requested.pass _ rfl rfl (arpFrames_pings _)
  | unanswered at_point =>
    rw [at_point] at requested
    exact .inr (.inl (requested.pass _ rfl rfl rfl))
  | gatewayPing series next at_point input sent =>
    rw [at_point] at requested
    obtain ⟨stats, -, after⟩ | after := afterGateway_cases fuel s next <;> rw [after]
    · refine requested.pass _ rfl rfl ?_
      rw [arpFrames_append, arpFrames_pings, arpFrames_pings]
      rfl
    · refine requested.pass _ rfl rfl ?_
      rw [arpFrames_append, arpFrames_pings]
      rfl
  | publicPing stats series next at_point input sent =>
    rw [at_point] at requested
    obtain ⟨latest, -, after⟩ | after := afterPublic_cases s stats next <;> rw [after]
    · refine .inr (.inl (requested.pass _ rfl rfl ?_))
      rw [arpFrames_append, arpFrames_pings]
      rfl
    · refine requested.pass _ rfl rfl ?_
      rw [arpFrames_append, arpFrames_pings]
      rfl
  | staticRequest at_point ok =>
    rw [at_point] at requested
    rw [sendStatic_eq]
    cases ok with
    | true => exact requested.later _
    | false => exact .inr (.inr (requested.later _))
  | staticReceive at_point received =>
    rw [at_point] at requested
    unfold receiveStatic
    split
    · exact requested.pass _ rfl rfl rfl
    · split
      · exact .inr (.inr (requested.pass _ rfl rfl rfl))
      · split
        · exact .inr (.inr (requested.pass _ rfl rfl rfl))
        · exact requested.pass _ rfl rfl rfl
  | staticResume at_point =>
    rw [at_point] at requested
    unfold nextStaticTurn
    split
    · exact requested.pass _ rfl rfl rfl
    · exact .inr (.inr (requested.pass _ rfl rfl rfl))

theorem run_requested (run : Run (runArpProbe fuel) begin ms s) : Requested ms s := by
  induction run with
  | start => exact ⟨rfl, rfl, rfl⟩
  | next run hs ih => exact step_requested (step_cases hs) ih

theorem receive_account (quiet : Quiet ms) (asks : Asks ms s)
    (received : Option (Nat × Vector UInt8 mtu.size)) :
    Account fuel (ms ++ [⟨s, .takeReceived received, [], s.receive received⟩])
      (s.receive received) := by
  have later : Quiet (ms ++ [⟨s, .takeReceived received, [], s.receive received⟩]) :=
    quiet.later _ rfl rfl rfl
  cases received with
  | none => exact later
  | some packet =>
    obtain ⟨length, frame⟩ := packet
    by_cases answered : isArpReply s.gateway length frame = true
    · have next : s.receive (some (length, frame)) =
          { s with point := .accepted (part frame 6 12) } := by simp [receive, answered]
      rw [next] at later ⊢
      exact ⟨later, ms, _, [], length, frame, rfl, quiet, asks, rfl, isArpReply_spec answered, rfl⟩
    · have next : s.receive (some (length, frame)) = { s with point := .sleep } := by
        simp [receive, answered]
      rw [next] at later ⊢
      exact later

theorem pingGateway_account (quiet : Quiet ms) {sender : List UInt8}
    (heard : Heard ms s sender) (rx tx txFailed rxDropped : Nat) :
    Account fuel (ms ++ [⟨s, .counters rx tx txFailed rxDropped, (s.pingGateway fuel sender rx).2,
      (s.pingGateway fuel sender rx).1⟩]) (s.pingGateway fuel sender rx).1 := by
  have size : sender.length = 6 := by
    obtain ⟨_, _, _, _, frame, -, -, -, -, -, rfl⟩ := heard
    exact part_length frame (by decide)
  obtain ⟨gatewayMac, copied, whole⟩ :=
    copyFromSlice_toList (Vector.replicate 6 (0 : UInt8)) (Nat.zero_le 6) (Nat.le_refl 6) size
  have same : gatewayMac.toList = sender := by simpa using whole
  have next : s.pingGateway fuel sender rx =
      ({ s with
        gatewayMac := gatewayMac
        point := .gatewayPing (RunPingSeries.begin fuel ({ s with gatewayMac := gatewayMac }.config
          s.gateway) sampleCount).1 },
        .write (.arpOk rx) :: (RunPingSeries.begin fuel ({ s with gatewayMac := gatewayMac }.config
          s.gateway) sampleCount).2.map .ping) := by
    simp [pingGateway, copied]
  rw [next]
  refine ⟨same ▸ heard.later _, ?_, ?_⟩
  · have unasked : (ArpProbe.Input.counters rx tx txFailed rxDropped : Input mtu).toPing = none :=
      rfl
    rw [asked_snoc, quiet.asked, unasked, effects_append, effects_singleton, pinged_append,
      quiet.pinged]
    have begun := pinged_pings (RunPingSeries.begin fuel
      ({ s with gatewayMac := gatewayMac }.config s.gateway) sampleCount).2
    dsimp only
    rw [List.nil_append, List.nil_append]
    change Series mtu fuel _ _ [] (pinged (List.map _ _))
    rw [begun]
    exact .begin
  · rw [effects_append, effects_singleton, summaries_append, quiet.summaries]
    exact summaries_pings _

theorem asked_ping (s t : ArpProbe) (input : FullInit.Input mtu) (out : List Effect)
    (ms : List (Probing mtu)) : asked (ms ++ [⟨s, .ping input, out, t⟩]) = asked ms ++ [input] :=
  asked_snoc ms _

theorem pinged_ping (s t : ArpProbe) (input : Input mtu) (sent : List FullInit.Effect)
    (rest : List Effect) (ms : List (Probing mtu)) :
    pinged (effects (ms ++ [⟨s, input, sent.map .ping ++ rest, t⟩])) =
      pinged (effects ms) ++ (sent ++ pinged rest) := by
  rw [effects_append, effects_singleton, pinged_append, pinged_append, pinged_pings]

theorem summaries_ping (s t : ArpProbe) (input : Input mtu) (sent : List FullInit.Effect)
    (rest : List Effect) (ms : List (Probing mtu)) :
    summaries (effects (ms ++ [⟨s, input, sent.map .ping ++ rest, t⟩])) =
      summaries (effects ms) ++ summaries rest := by
  rw [effects_append, effects_singleton, summaries_append, summaries_append, summaries_pings,
    List.nil_append]

theorem gateway_account {series next : RunPingSeries} {input : FullInit.Input mtu}
    {sent : List FullInit.Effect} (stepped : runPingSeries fuel series input = some (next, sent))
    (heard : Heard ms s s.gatewayMac.toList)
    (first : Series mtu fuel (s.config s.gateway) series (asked ms) (pinged (effects ms)))
    (open_still : summaries (effects ms) = []) :
    Account fuel (ms ++ [⟨s, .ping input, sent.map .ping ++ (s.afterGateway fuel next).2,
      (s.afterGateway fuel next).1⟩]) (s.afterGateway fuel next).1 := by
  have further := first.step stepped
  obtain ⟨stats, returned, after⟩ | after := afterGateway_cases fuel s next <;> rw [after]
  · refine ⟨heard.later _, ⟨next, _, _, [], _, further, returned, .begin, ?_, ?_⟩, ?_⟩
    · rw [asked_ping, List.append_nil]
    · rw [pinged_ping, pinged_pings, List.append_assoc]
      rfl
    · rw [summaries_ping, open_still]
      exact summaries_pings _
  · refine ⟨heard.later _, ?_, ?_⟩
    · have none : pinged [] = [] := rfl
      rw [asked_ping, pinged_ping, none, List.append_nil]
      exact further
    · rw [summaries_ping, open_still]
      rfl

theorem public_account {gateway : PingStats} {series next : RunPingSeries}
    {input : FullInit.Input mtu} {sent : List FullInit.Effect}
    (stepped : runPingSeries fuel series input = some (next, sent))
    (heard : Heard ms s s.gatewayMac.toList)
    (second : Second fuel s (asked ms) (pinged (effects ms)) gateway series)
    (open_still : summaries (effects ms) = []) :
    Account fuel (ms ++ [⟨s, .ping input, sent.map .ping ++ (s.afterPublic gateway next).2,
      (s.afterPublic gateway next).1⟩]) (s.afterPublic gateway next).1 := by
  obtain ⟨first, firstAsked, firstSeen, laterAsked, laterSeen, done, returned, later, hasked,
    hseen⟩ := second
  have further := later.step stepped
  have goes : Second fuel s (asked ms ++ [input]) (pinged (effects ms) ++ sent) gateway next :=
    ⟨first, firstAsked, firstSeen, _, _, done, returned, further, by simp [hasked], by simp [hseen]⟩
  obtain ⟨stats, ended, after⟩ | after := afterPublic_cases s gateway next <;> rw [after]
  · refine .inr ⟨heard.later _, gateway, next, stats, ?_, ended, ?_⟩
    · have line : pinged [.write (.connectivitySummary gateway.tx gateway.rx stats.tx stats.rx)] =
          [] := rfl
      rw [asked_ping, pinged_ping, line, List.append_nil]
      exact goes
    · rw [summaries_ping, open_still]
      rfl
  · refine ⟨heard.later _, ?_, ?_⟩
    · have none : pinged [] = [] := rfl
      rw [asked_ping, pinged_ping, none, List.append_nil]
      exact goes
    · rw [summaries_ping, open_still]
      rfl

theorem step_account (h : Step fuel s input t out) (requested : Requested ms s)
    (account : Account fuel ms s) : Account fuel (ms ++ [⟨s, input, out, t⟩]) t := by
  unfold Account at account
  cases h with
  | unaddressed at_point =>
    rw [at_point] at account
    exact .inl (account.later _ rfl rfl rfl)
  | addressed at_point | clock at_point | dhcpProbe at_point | leaseless at_point
  | counters at_point | lastRx at_point | lastTx at_point =>
    rw [at_point] at account
    exact account.later _ rfl rfl rfl
  | unanswered at_point =>
    rw [at_point] at account
    exact .inl (account.later _ rfl rfl rfl)
  | leased lease at_point =>
    rw [at_point] at account
    unfold ArpProbe.leased
    cases lease.router with
    | none => exact .inl (account.later _ rfl rfl rfl)
    | some gateway => exact account.later _ rfl rfl rfl
  | request at_point ok =>
    rw [at_point] at account
    unfold sendRequest
    split
    · exact account.later _ rfl rfl rfl
    · cases ok with
      | true => exact account.later _ rfl rfl rfl
      | false => exact .inl (account.later _ rfl rfl rfl)
  | receive at_point received =>
    unfold Requested at requested
    rw [at_point] at account requested
    exact receive_account account requested received
  | resume at_point =>
    rw [at_point] at account
    unfold nextTurn
    split
    · exact account.later _ rfl rfl rfl
    · exact account.later _ rfl rfl rfl
  | pingGateway sender at_point rx tx txFailed rxDropped =>
    rw [at_point] at account
    exact pingGateway_account account.1 account.2 rx tx txFailed rxDropped
  | gatewayPing series next at_point input sent stepped =>
    rw [at_point] at account
    exact gateway_account stepped account.1 account.2.1 account.2.2
  | publicPing stats series next at_point input sent stepped =>
    rw [at_point] at account
    exact public_account stepped account.1 account.2.1 account.2.2
  | staticRequest at_point ok =>
    rw [at_point] at account
    unfold sendStatic
    split
    · exact account.later _ rfl rfl rfl
    · cases ok with
      | true => exact account.later _ rfl rfl rfl
      | false => exact .inl (account.later _ rfl rfl rfl)
  | staticReceive at_point received =>
    rw [at_point] at account
    unfold receiveStatic
    cases received with
    | none => exact account.later _ rfl rfl rfl
    | some packet =>
      dsimp only
      split
      · exact account.later _ rfl rfl rfl
      · split
        · exact .inl (account.later _ rfl rfl rfl)
        · exact account.later _ rfl rfl rfl
  | staticResume at_point =>
    rw [at_point] at account
    unfold nextStaticTurn
    split
    · exact account.later _ rfl rfl rfl
    · exact .inl (account.later _ rfl rfl rfl)

theorem run_account (run : Run (runArpProbe fuel) begin ms s) : Account fuel ms s := by
  induction run with
  | start => exact ⟨rfl, rfl, rfl⟩
  | next run hs ih => exact step_account (step_cases hs) (run_requested run) ih

/-- How often the probe has looked for a frame by each point. -/
def Counted (looks : Nat) (s : ArpProbe) : Prop :=
  match s.point with
  | .receive => looks = s.turn ∧ s.turn < arpTurns
  | .sleep => looks = s.turn + 1 ∧ s.turn < arpTurns
  | .staticReceive => looks = s.turn ∧ s.turn < staticTurns
  | .staticSleep => looks = s.turn + 1 ∧ s.turn < staticTurns
  | .accepted _ | .unanswered | .gatewayPing _ | .publicPing _ _ | .returned | .stopped _ =>
    looks ≤ arpTurns
  | _ => looks = 0

theorem step_counted (h : Step fuel s input t out) {looks : Nat} (counted : Counted looks s) :
    Counted (looks + if input.taken then 1 else 0) t := by
  unfold Counted at counted
  cases h with
  | unaddressed at_point =>
    rw [at_point] at counted
    exact Nat.le_trans (Nat.le_of_eq counted) (Nat.zero_le _)
  | addressed at_point | clock at_point | dhcpProbe at_point | leaseless at_point
  | counters at_point | lastRx at_point | lastTx at_point =>
    rw [at_point] at counted
    exact counted
  | leased lease at_point =>
    rw [at_point] at counted
    unfold ArpProbe.leased
    cases lease.router with
    | none => exact Nat.le_trans (Nat.le_of_eq counted) (Nat.zero_le _)
    | some gateway => exact counted
  | request at_point ok =>
    rw [at_point] at counted
    rw [sendRequest_eq]
    cases ok with
    | true =>
      have more : 0 < arpTurns := by decide
      exact ⟨counted, more⟩
    | false => exact Nat.le_trans (Nat.le_of_eq counted) (Nat.zero_le _)
  | receive at_point received =>
    rw [at_point] at counted
    obtain ⟨rfl, more⟩ := counted
    change Counted (s.turn + 1) _
    unfold ArpProbe.receive
    split
    · exact ⟨rfl, more⟩
    · split
      · exact more
      · exact ⟨rfl, more⟩
  | resume at_point =>
    rw [at_point] at counted
    obtain ⟨rfl, more⟩ := counted
    unfold nextTurn
    by_cases again : s.turn + 1 < arpTurns
    · rw [if_pos again]
      exact ⟨rfl, again⟩
    · rw [if_neg again]
      exact more
  | pingGateway sender at_point =>
    rw [at_point] at counted
    change Counted looks _
    unfold ArpProbe.pingGateway
    split
    · exact counted
    · exact counted
  | unanswered at_point =>
    rw [at_point] at counted
    exact counted
  | gatewayPing series next at_point =>
    rw [at_point] at counted
    change Counted looks _
    obtain ⟨_, -, after⟩ | after := afterGateway_cases fuel s next <;> rw [after] <;> exact counted
  | publicPing stats series next at_point =>
    rw [at_point] at counted
    change Counted looks _
    obtain ⟨_, -, after⟩ | after := afterPublic_cases s stats next <;> rw [after] <;> exact counted
  | staticRequest at_point ok =>
    rw [at_point] at counted
    rw [sendStatic_eq]
    cases ok with
    | true =>
      have more : 0 < staticTurns := by decide
      exact ⟨counted, more⟩
    | false => exact Nat.le_trans (Nat.le_of_eq counted) (Nat.zero_le _)
  | staticReceive at_point received =>
    rw [at_point] at counted
    obtain ⟨rfl, more⟩ := counted
    have few : s.turn + 1 ≤ arpTurns := by
      unfold staticTurns at more
      unfold arpTurns
      omega
    change Counted (s.turn + 1) _
    unfold receiveStatic
    split
    · exact ⟨rfl, more⟩
    · split
      · exact few
      · split
        · exact few
        · exact ⟨rfl, more⟩
  | staticResume at_point =>
    rw [at_point] at counted
    obtain ⟨rfl, more⟩ := counted
    unfold nextStaticTurn
    by_cases again : s.turn + 1 < staticTurns
    · rw [if_pos again]
      exact ⟨rfl, again⟩
    · have few : s.turn + 1 ≤ arpTurns := by
        unfold staticTurns at more
        unfold arpTurns
        omega
      rw [if_neg again]
      exact few

theorem run_counted (run : Run (runArpProbe fuel) begin ms s) : Counted (takes ms) s := by
  induction run with
  | start => rfl
  | @next ms u i t out run hs ih =>
    have counted := step_counted (step_cases hs) ih
    rw [takes, inputs_append, inputs_singleton, List.countP_append, List.countP_singleton]
    exact counted

theorem Counted.few {looks : Nat} (h : Counted looks s) : looks ≤ arpTurns := by
  have short : staticTurns ≤ arpTurns := by decide
  unfold Counted at h
  split at h
  case h_1 => omega
  case h_2 => omega
  case h_3 => omega
  case h_4 => omega
  case h_5 | h_6 | h_7 | h_8 | h_9 | h_10 => exact h
  case h_11 => omega

/-- The requests of the two series so far, the public ones behind all of the first. -/
def Requests (s : ArpProbe) (seen : List FullInit.Effect) : Prop :=
  ∃ gateway ≤ 5, ∃ behind ≤ 5, FullInit.requests seen =
      FullInit.series (s.config s.gateway) gateway ++
        FullInit.series (s.config publicAddress) behind ∧
    (0 < behind → gateway = 5)

theorem Second.requests {asked : List (FullInit.Input mtu)} {seen : List FullInit.Effect}
    {gateway : PingStats} {series : RunPingSeries} (enough : 3 ≤ fuel)
    (h : Second fuel s asked seen gateway series) : Requests s seen := by
  obtain ⟨first, _, firstSeen, _, laterSeen, done, returned, later, -, rfl⟩ := h
  obtain ⟨count, few, whole, all⟩ := done.requests enough
  obtain ⟨behind, fewer, rest, -⟩ := later.requests enough
  refine ⟨count, few, behind, fewer, ?_, fun _ => all ⟨_, returned⟩⟩
  rw [requests_append, whole, rest]

/-- A summary against the statuses of the two series. -/
def Tells (seen : List FullInit.Effect) (summary : Nat × Nat × Nat × Nat) : Prop :=
  ∃ gateway behind : List SampleStatus, statuses seen = gateway ++ behind ∧
    gateway.length = 5 ∧ behind.length = 5 ∧
    summary = ((InitSmoke.PingStats.of gateway).tx, (InitSmoke.PingStats.of gateway).rx,
      (InitSmoke.PingStats.of behind).tx, (InitSmoke.PingStats.of behind).rx)

theorem Second.tells {asked : List (FullInit.Input mtu)} {seen : List FullInit.Effect}
    {gateway stats : PingStats} {series : RunPingSeries}
    (h : Second fuel s asked seen gateway series) (ended : series.point = .returned stats) :
    Tells seen (gateway.tx, gateway.rx, stats.tx, stats.rx) := by
  obtain ⟨first, _, firstSeen, _, laterSeen, done, returned, later, -, rfl⟩ := h
  obtain ⟨five, told⟩ := done.returned returned
  obtain ⟨fiveLater, toldLater⟩ := later.returned ended
  refine ⟨statuses firstSeen, statuses laterSeen, List.filterMap_append, five, fiveLater, ?_⟩
  rw [← told, ← toldLater]

/-- What the probe has pinged and summed up. -/
structure Sound (ms : List (Probing mtu)) (s : ArpProbe) : Prop where
  heard : asked ms = [] ∧ pinged (effects ms) = [] ∨ Heard ms s s.gatewayMac.toList
  requests : Requests s (pinged (effects ms))
  once : (summaries (effects ms)).length ≤ 1
  summary : ∀ summary ∈ summaries (effects ms), Tells (pinged (effects ms)) summary

theorem Quiet.sound (h : Quiet ms) : Sound ms s where
  heard := .inl ⟨h.asked, h.pinged⟩
  requests := ⟨0, Nat.zero_le 5, 0, Nat.zero_le 5, by rw [h.pinged]; rfl, fun none => by omega⟩
  once := by rw [h.summaries]; exact Nat.zero_le 1
  summary := by
    rw [h.summaries]
    exact fun _ none => absurd none List.not_mem_nil

theorem Account.sound (enough : 3 ≤ fuel) (account : Account fuel ms s) : Sound ms s := by
  unfold Account at account
  split at account
  · exact account.1.sound
  · obtain ⟨heard, first, open_still⟩ := account
    obtain ⟨count, few, whole, -⟩ := first.requests enough
    refine ⟨.inr heard, ⟨count, few, 0, Nat.zero_le 5, ?_, fun none => by omega⟩, ?_, ?_⟩
    · rw [whole]
      exact (List.append_nil _).symm
    · rw [open_still]
      exact Nat.zero_le 1
    · rw [open_still]
      exact fun _ none => absurd none List.not_mem_nil
  · obtain ⟨heard, second, open_still⟩ := account
    refine ⟨.inr heard, second.requests enough, ?_, ?_⟩
    · rw [open_still]
      exact Nat.zero_le 1
    · rw [open_still]
      exact fun _ none => absurd none List.not_mem_nil
  · rcases account with quiet | ⟨heard, gateway, series, stats, second, ended, line⟩
    · exact quiet.sound
    · refine ⟨.inr heard, second.requests enough, ?_, ?_⟩
      · rw [line]
        exact Nat.le_refl 1
      · intro summary member
        rw [line] at member
        rw [List.mem_singleton.mp member]
        exact second.tells ended
  · exact account.sound

/-- The probe looks for a frame 300 times at most and sends one ARP request at most, for
the router of the lease it was given or without a lease the static one. It pings only
behind the reply that the router gave to the request, at the address that this reply came
from: five requests to the router, then five to the public address. The summary, printed
once at most, counts what the statuses of both series say. -/
theorem arp_probe_sound (enough : 3 ≤ fuel) (run : Run (runArpProbe fuel) begin ms s) :
    takes ms ≤ 300 ∧ OneRequest ms s ∧ Sound ms s := by
  refine ⟨(run_counted run).few, ?_, (run_account run).sound enough⟩
  have requested := run_requested run
  unfold Requested at requested
  split at requested
  case h_1 | h_2 | h_3 | h_4 | h_5 | h_6 | h_7 | h_8 => exact .inl requested.frames
  case h_9 =>
    obtain ⟨prefixLen, known⟩ := requested
    exact .inl known.frames
  case h_10 | h_11 | h_12 | h_13 | h_14 | h_15 => exact .inr (.inl requested)
  case h_16 | h_17 => exact .inr (.inr requested)
  case h_18 | h_19 => exact requested

end

/-- 192.168.4.1 is at 02:00:00:00:00:02. -/
def arpReplyFrame : Vector UInt8 42 :=
  #v[2, 0, 0, 0, 0, 1, 2, 0, 0, 0, 0, 2, 8, 6, 0, 1, 8, 0, 6, 4, 0, 2, 2, 0, 0, 0, 0, 2,
    192, 168, 4, 1, 2, 0, 0, 0, 0, 1, 192, 168, 4, 2]

/-- The reply is in at the second turn, and the first ping is refused. -/
def probedScript : List (Input smallMtu) :=
  [.hardwareAddress (some plainConfig.mac), .clock 10,
    .dhcpProbe (some ⟨plainConfig.address, 24, some plainConfig.gateway⟩), .clock 95,
    .transmit true, .takeReceived none, .msleep, .takeReceived (some (42, arpReplyFrame)),
    .counters 3 2 0 0, .ping (.clock 96), .ping (.transmit false)]

theorem arp_probe_sound_refused : ∃ (ms : List (Probing smallMtu)) (s : ArpProbe),
    Run (runArpProbe 3) begin ms s ∧ inputs ms = probedScript ∧
      (∃ series, s.point = .gatewayPing series) ∧
      takes ms ≤ 300 ∧ OneRequest ms s ∧ Sound ms s := by
  obtain ⟨ms, s, run, script, pinging⟩ := exec_reaches (runArpProbe 3) begin probedScript
    (fun s => s.point matches .gatewayPing _) (by decide +kernel)
  refine ⟨ms, s, run, script, ?_, arp_probe_sound (by decide) run⟩
  split at pinging
  · exact ⟨_, ‹_›⟩
  · cases pinging

end ArpProbe

end Ws63Examples.InitSmoke.FullInit
