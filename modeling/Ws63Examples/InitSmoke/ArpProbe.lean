import Ws63Examples.InitSmoke.RunPingSeries

/-!
`run_arp_probe` of `main.rs`: with a lease, an ARP request for its router on raw frames
and two ping series through the gateway that answers; without one, the ARP request of
`run_static_arp_diagnostic`.
-/

namespace Ws63Examples.InitSmoke.FullInit

open Execution Loop Slice

def sampleCount : UInt16 := 5

/-- 1.1.1.1 -/
def publicAddress : Vector UInt8 4 := .replicate 4 1

def arpTurns : Nat := 300
def staticTurns : Nat := 200
def staticAddress : Vector UInt8 4 := #v[192, 168, 155, 2]
def staticGateway : Vector UInt8 4 := #v[192, 168, 155, 1]

/-- What `dhcp_probe` returns. -/
structure DhcpConfig where
  address : Vector UInt8 4
  prefixLen : UInt8
  router : Option (Vector UInt8 4)
  deriving DecidableEq

/-- The ARP request, in a buffer of `n` bytes. -/
def arpRequest (n : Nat) (mac : Vector UInt8 6) (address target : Vector UInt8 4) :
    Option (Vector UInt8 n) := do
  let request := Vector.replicate n 0
  let request ← fill request 0 6 0xff
  let request ← copyFromSlice request 6 12 mac.toList
  let request ← copyFromSlice request 12 14 [0x08, 0x06]
  let request ← copyFromSlice request 14 22 [0x00, 0x01, 0x08, 0x00, 6, 4, 0x00, 0x01]
  let request ← copyFromSlice request 22 28 mac.toList
  let request ← copyFromSlice request 28 32 address.toList
  copyFromSlice request 38 42 target.toList

/-- The request of the probe has the size of an echo request. -/
def probeRequest (mac : Vector UInt8 6) (address gateway : Vector UInt8 4) :
    Option (Vector UInt8 74) :=
  arpRequest 74 mac address gateway

def staticRequest (mac : Vector UInt8 6) : Option (Vector UInt8 42) :=
  arpRequest 42 mac staticAddress staticGateway

section
variable {mtu : Mtu}

/-- An ARP reply from `gateway`. -/
def isArpReply (gateway : Vector UInt8 4) (length : Nat) (frame : Vector UInt8 mtu.size) : Bool :=
  42 ≤ length && part frame 12 14 = [0x08, 0x06] && part frame 20 22 = [0x00, 0x02] &&
    part frame 28 32 = gateway.toList

/-- The static diagnostic asks for its own address too. -/
def isStaticArpReply (length : Nat) (frame : Vector UInt8 mtu.size) : Bool :=
  isArpReply staticGateway length frame && part frame 38 42 = staticAddress.toList

end

namespace ArpProbe

/-- Where `run_arp_probe` stands, before the input it needs next. -/
inductive Point where
  | hardwareAddress
  | clock
  | dhcpProbe
  | elapsed (lease : Option DhcpConfig)
  | leaseless
  | lastRx
  | lastTx
  | transmit
  | receive
  | sleep
  /-- A reply is in, with these bytes for the gateway's address. -/
  | accepted (sender : List UInt8)
  | unanswered
  | gatewayPing (series : RunPingSeries)
  | publicPing (gateway : PingStats) (series : RunPingSeries)
  | staticTransmit
  | staticReceive
  | staticSleep
  | returned
  | stopped (why : Stop)

/-- What one step asks of its environment, with the answer. -/
inductive Input (mtu : Mtu) where
  | hardwareAddress (mac : Option (Vector UInt8 6))
  | clock (ms : UInt64)
  | dhcpProbe (lease : Option DhcpConfig)
  | counters (rx tx txFailed rxDropped : Nat)
  /-- `last_rx` or `last_tx`: the length returned, and the buffer. -/
  | lastFrame (length : Nat) (bytes : Vector UInt8 64)
  | transmit (ok : Bool)
  | takeReceived (received : Option (Nat × Vector UInt8 mtu.size))
  | msleep
  | ping (input : FullInit.Input mtu)

inductive FrameMarker where
  | dhcpRx
  | dhcpTx
  | staticArpRx
  deriving DecidableEq, Repr

inductive Line where
  | noMac
  | dhcpBegin
  | dhcpElapsed (ms : UInt32)
  | dhcpTimeout (rx tx txFailed rxDropped : Nat)
  | frame (marker : FrameMarker) (fullLen : Nat) (bytes : List UInt8)
  | dhcpOk (address : Vector UInt8 4) (prefixLen : UInt8) (router : Option (Vector UInt8 4))
  | arpBegin (target : Vector UInt8 4)
  | arpTxError
  | arpOk (rx : Nat)
  | arpTimeout (rx txFailed : Nat)
  | connectivitySummary (gatewayTx gatewayRx publicTx publicRx : Nat)
  | staticArpBegin
  | staticArpTxError
  | staticArpOk
  | staticArpTimeout
  deriving DecidableEq

inductive Effect where
  | write (line : Line)
  | transmit (frame : List UInt8)
  | ping (effect : FullInit.Effect)
  deriving DecidableEq

end ArpProbe

structure ArpProbe where
  mac : Vector UInt8 6
  startedAt : UInt64
  address : Vector UInt8 4
  gateway : Vector UInt8 4
  gatewayMac : Vector UInt8 6
  /-- The turn of the wait for a reply. -/
  turn : Nat
  point : ArpProbe.Point

namespace ArpProbe

def begin : ArpProbe where
  mac := .replicate 6 0
  startedAt := 0
  address := .replicate 4 0
  gateway := .replicate 4 0
  gatewayMac := .replicate 6 0
  turn := 0
  point := .hardwareAddress

def panicked (s : ArpProbe) : ArpProbe := { s with point := .stopped .panicked }

/-- With a lease, up to the `transmit` of the request. -/
def leased (s : ArpProbe) (lease : DhcpConfig) : ArpProbe × List Effect :=
  match lease.router with
  | none =>
    ({ s with point := .returned }, [.write (.dhcpOk lease.address lease.prefixLen none)])
  | some gateway =>
    ({ s with address := lease.address, gateway := gateway, point := .transmit },
      [.write (.dhcpOk lease.address lease.prefixLen (some gateway)), .write (.arpBegin gateway)])

/-- `write_frame_prefix` -/
def writeFrame (marker : FrameMarker) (fullLen : Nat) (bytes : List UInt8) : Effect :=
  .write (.frame marker (fullLen % 2 ^ 32) bytes)

def sendRequest (s : ArpProbe) (ok : Bool) : ArpProbe × List Effect :=
  match probeRequest s.mac s.address s.gateway with
  | none => (s.panicked, [])
  | some request =>
    if ok then ({ s with turn := 0, point := .receive }, [.transmit request.toList])
    else ({ s with point := .returned }, [.transmit request.toList, .write .arpTxError])

def nextTurn (s : ArpProbe) : ArpProbe :=
  if s.turn + 1 < arpTurns then { s with turn := s.turn + 1, point := .receive }
  else { s with point := .unanswered }

/-- The arguments of a ping series. -/
def config (s : ArpProbe) (target : Vector UInt8 4) : PingConfig where
  mac := s.mac
  address := s.address
  gateway := s.gateway
  gatewayMac := s.gatewayMac
  target := target

/-- Behind the reply: the series to the gateway. -/
def pingGateway (fuel : Nat) (s : ArpProbe) (sender : List UInt8) (rx : Nat) :
    ArpProbe × List Effect :=
  match copyFromSlice (Vector.replicate 6 0) 0 6 sender with
  | none => (s.panicked, [.write (.arpOk rx)])
  | some gatewayMac =>
    let s := { s with gatewayMac := gatewayMac }
    let next := RunPingSeries.begin fuel (s.config s.gateway) sampleCount
    ({ s with point := .gatewayPing next.1 }, .write (.arpOk rx) :: next.2.map .ping)

/-- The series to the gateway goes on, or the public one begins. -/
def afterGateway (fuel : Nat) (s : ArpProbe) (series : RunPingSeries) : ArpProbe × List Effect :=
  match series.point with
  | .returned stats =>
    let next := RunPingSeries.begin fuel (s.config publicAddress) sampleCount
    ({ s with point := .publicPing stats next.1 }, next.2.map .ping)
  | .clock | .send | .receive | .matched | .sleep | .diagnostics | .stopped _ =>
    ({ s with point := .gatewayPing series }, [])

def afterPublic (s : ArpProbe) (gateway : PingStats) (series : RunPingSeries) :
    ArpProbe × List Effect :=
  match series.point with
  | .returned stats =>
    ({ s with point := .returned },
      [.write (.connectivitySummary gateway.tx gateway.rx stats.tx stats.rx)])
  | .clock | .send | .receive | .matched | .sleep | .diagnostics | .stopped _ =>
    ({ s with point := .publicPing gateway series }, [])

/-- `run_static_arp_diagnostic` -/
def sendStatic (s : ArpProbe) (ok : Bool) : ArpProbe × List Effect :=
  match staticRequest s.mac with
  | none => (s.panicked, [])
  | some request =>
    if ok then
      ({ s with turn := 0, point := .staticReceive },
        [.write .staticArpBegin, .transmit request.toList])
    else
      ({ s with point := .returned },
        [.write .staticArpBegin, .transmit request.toList, .write .staticArpTxError])

def nextStaticTurn (s : ArpProbe) : ArpProbe × List Effect :=
  if s.turn + 1 < staticTurns then ({ s with turn := s.turn + 1, point := .staticReceive }, [])
  else ({ s with point := .returned }, [.write .staticArpTimeout])

section
variable {mtu : Mtu}

def receive (s : ArpProbe) (received : Option (Nat × Vector UInt8 mtu.size)) : ArpProbe :=
  match received with
  | none => { s with point := .sleep }
  | some (length, frame) =>
    if isArpReply s.gateway length frame then { s with point := .accepted (part frame 6 12) }
    else { s with point := .sleep }

/-- Every frame is printed, as far as the length returned says. -/
def receiveStatic (s : ArpProbe) (received : Option (Nat × Vector UInt8 mtu.size)) :
    ArpProbe × List Effect :=
  match received with
  | none => ({ s with point := .staticSleep }, [])
  | some (length, frame) =>
    match slice frame.toList 0 length with
    | none => (s.panicked, [])
    | some bytes =>
      if isStaticArpReply length frame then
        ({ s with point := .returned }, [writeFrame .staticArpRx length bytes, .write .staticArpOk])
      else ({ s with point := .staticSleep }, [writeFrame .staticArpRx length bytes])

end

end ArpProbe

open ArpProbe in
def runArpProbe {mtu : Mtu} (fuel : Nat) (s : ArpProbe) (input : ArpProbe.Input mtu) :
    Option (ArpProbe × List ArpProbe.Effect) :=
  match s.point, input with
  | .hardwareAddress, .hardwareAddress none =>
    some ({ s with point := .returned }, [.write .noMac])
  | .hardwareAddress, .hardwareAddress (some mac) =>
    some ({ s with mac := mac, point := .clock }, [.write .dhcpBegin])
  | .clock, .clock ms => some ({ s with startedAt := ms, point := .dhcpProbe }, [])
  | .dhcpProbe, .dhcpProbe lease => some ({ s with point := .elapsed lease }, [])
  | .elapsed none, .clock ms =>
    some ({ s with point := .leaseless }, [.write (.dhcpElapsed (ms - s.startedAt).toUInt32)])
  | .elapsed (some lease), .clock ms =>
    let next := s.leased lease
    some (next.1, .write (.dhcpElapsed (ms - s.startedAt).toUInt32) :: next.2)
  | .leaseless, .counters rx tx txFailed rxDropped =>
    some ({ s with point := .lastRx }, [.write (.dhcpTimeout rx tx txFailed rxDropped)])
  | .lastRx, .lastFrame length bytes =>
    some ({ s with point := .lastTx }, [writeFrame .dhcpRx length bytes.toList])
  | .lastTx, .lastFrame length bytes =>
    some ({ s with point := .staticTransmit },
      [writeFrame .dhcpTx length (bytes.toList.take (min length 64))])
  | .transmit, .transmit ok => some (s.sendRequest ok)
  | .receive, .takeReceived received => some (s.receive received, [])
  | .sleep, .msleep => some (s.nextTurn, [])
  | .accepted sender, .counters rx _ _ _ => some (s.pingGateway fuel sender rx)
  | .unanswered, .counters rx _ txFailed _ =>
    some ({ s with point := .returned }, [.write (.arpTimeout rx txFailed)])
  | .gatewayPing series, .ping input => do
    let (series, out) ← runPingSeries fuel series input
    let next := s.afterGateway fuel series
    return (next.1, out.map .ping ++ next.2)
  | .publicPing gateway series, .ping input => do
    let (series, out) ← runPingSeries fuel series input
    let next := s.afterPublic gateway series
    return (next.1, out.map .ping ++ next.2)
  | .staticTransmit, .transmit ok => some (s.sendStatic ok)
  | .staticReceive, .takeReceived received => some (s.receiveStatic received)
  | .staticSleep, .msleep => some s.nextStaticTurn
  | _, _ => none

namespace ArpProbe

variable {mtu : Mtu} {fuel : Nat} {s t : ArpProbe} {input : Input mtu} {out : List Effect}

/-- What a step can do. -/
inductive Step (fuel : Nat) (s : ArpProbe) : Input mtu → ArpProbe → List Effect → Prop
  | unaddressed (at_point : s.point = .hardwareAddress) :
      Step fuel s (.hardwareAddress none) { s with point := .returned } [.write .noMac]
  | addressed (at_point : s.point = .hardwareAddress) (mac : Vector UInt8 6) :
      Step fuel s (.hardwareAddress (some mac)) { s with mac := mac, point := .clock }
        [.write .dhcpBegin]
  | clock (at_point : s.point = .clock) (ms : UInt64) :
      Step fuel s (.clock ms) { s with startedAt := ms, point := .dhcpProbe } []
  | dhcpProbe (at_point : s.point = .dhcpProbe) (lease : Option DhcpConfig) :
      Step fuel s (.dhcpProbe lease) { s with point := .elapsed lease } []
  | leaseless (at_point : s.point = .elapsed none) (ms : UInt64) :
      Step fuel s (.clock ms) { s with point := .leaseless }
        [.write (.dhcpElapsed (ms - s.startedAt).toUInt32)]
  | leased (lease : DhcpConfig) (at_point : s.point = .elapsed (some lease)) (ms : UInt64) :
      Step fuel s (.clock ms) (s.leased lease).1
        (.write (.dhcpElapsed (ms - s.startedAt).toUInt32) :: (s.leased lease).2)
  | counters (at_point : s.point = .leaseless) (rx tx txFailed rxDropped : Nat) :
      Step fuel s (.counters rx tx txFailed rxDropped) { s with point := .lastRx }
        [.write (.dhcpTimeout rx tx txFailed rxDropped)]
  | lastRx (at_point : s.point = .lastRx) (length : Nat) (bytes : Vector UInt8 64) :
      Step fuel s (.lastFrame length bytes) { s with point := .lastTx }
        [writeFrame .dhcpRx length bytes.toList]
  | lastTx (at_point : s.point = .lastTx) (length : Nat) (bytes : Vector UInt8 64) :
      Step fuel s (.lastFrame length bytes) { s with point := .staticTransmit }
        [writeFrame .dhcpTx length (bytes.toList.take (min length 64))]
  | request (at_point : s.point = .transmit) (ok : Bool) :
      Step fuel s (.transmit ok) (s.sendRequest ok).1 (s.sendRequest ok).2
  | receive (at_point : s.point = .receive) (received : Option (Nat × Vector UInt8 mtu.size)) :
      Step fuel s (.takeReceived received) (s.receive received) []
  | resume (at_point : s.point = .sleep) : Step fuel s .msleep s.nextTurn []
  | pingGateway (sender : List UInt8) (at_point : s.point = .accepted sender)
      (rx tx txFailed rxDropped : Nat) :
      Step fuel s (.counters rx tx txFailed rxDropped) (s.pingGateway fuel sender rx).1
        (s.pingGateway fuel sender rx).2
  | unanswered (at_point : s.point = .unanswered) (rx tx txFailed rxDropped : Nat) :
      Step fuel s (.counters rx tx txFailed rxDropped) { s with point := .returned }
        [.write (.arpTimeout rx txFailed)]
  | gatewayPing (series next : RunPingSeries) (at_point : s.point = .gatewayPing series)
      (input : FullInit.Input mtu) (sent : List FullInit.Effect)
      (stepped : runPingSeries fuel series input = some (next, sent)) :
      Step fuel s (.ping input) (s.afterGateway fuel next).1
        (sent.map .ping ++ (s.afterGateway fuel next).2)
  | publicPing (stats : PingStats) (series next : RunPingSeries)
      (at_point : s.point = .publicPing stats series) (input : FullInit.Input mtu)
      (sent : List FullInit.Effect) (stepped : runPingSeries fuel series input = some (next, sent)) :
      Step fuel s (.ping input) (s.afterPublic stats next).1
        (sent.map .ping ++ (s.afterPublic stats next).2)
  | staticRequest (at_point : s.point = .staticTransmit) (ok : Bool) :
      Step fuel s (.transmit ok) (s.sendStatic ok).1 (s.sendStatic ok).2
  | staticReceive (at_point : s.point = .staticReceive)
      (received : Option (Nat × Vector UInt8 mtu.size)) :
      Step fuel s (.takeReceived received) (s.receiveStatic received).1 (s.receiveStatic received).2
  | staticResume (at_point : s.point = .staticSleep) :
      Step fuel s .msleep s.nextStaticTurn.1 s.nextStaticTurn.2

theorem step_cases (h : runArpProbe fuel s input = some (t, out)) : Step fuel s input t out := by
  unfold runArpProbe at h
  split at h
  case h_1 at_point =>
    cases h
    exact .unaddressed at_point
  case h_2 mac at_point =>
    cases h
    exact .addressed at_point mac
  case h_3 ms at_point =>
    cases h
    exact .clock at_point ms
  case h_4 lease at_point =>
    cases h
    exact .dhcpProbe at_point lease
  case h_5 ms at_point =>
    cases h
    exact .leaseless at_point ms
  case h_6 lease ms at_point =>
    obtain ⟨rfl, rfl⟩ := answer_parts h
    exact .leased lease at_point ms
  case h_7 rx tx txFailed rxDropped at_point =>
    cases h
    exact .counters at_point rx tx txFailed rxDropped
  case h_8 length bytes at_point =>
    cases h
    exact .lastRx at_point length bytes
  case h_9 length bytes at_point =>
    cases h
    exact .lastTx at_point length bytes
  case h_10 ok at_point =>
    obtain ⟨rfl, rfl⟩ := answer_parts h
    exact .request at_point ok
  case h_11 received at_point =>
    cases h
    exact .receive at_point received
  case h_12 at_point =>
    cases h
    exact .resume at_point
  case h_13 sender rx tx txFailed rxDropped at_point =>
    obtain ⟨rfl, rfl⟩ := answer_parts h
    exact .pingGateway sender at_point rx tx txFailed rxDropped
  case h_14 rx tx txFailed rxDropped at_point =>
    cases h
    exact .unanswered at_point rx tx txFailed rxDropped
  case h_15 series input at_point =>
    obtain ⟨⟨next, sent⟩, stepped, same⟩ := Option.bind_eq_some_iff.mp h
    cases same
    exact .gatewayPing series next at_point input sent stepped
  case h_16 stats series input at_point =>
    obtain ⟨⟨next, sent⟩, stepped, same⟩ := Option.bind_eq_some_iff.mp h
    cases same
    exact .publicPing stats series next at_point input sent stepped
  case h_17 ok at_point =>
    obtain ⟨rfl, rfl⟩ := answer_parts h
    exact .staticRequest at_point ok
  case h_18 received at_point =>
    obtain ⟨rfl, rfl⟩ := answer_parts h
    exact .staticReceive at_point received
  case h_19 at_point =>
    obtain ⟨rfl, rfl⟩ := answer_parts h
    exact .staticResume at_point
  case h_20 => cases h

/-- A move of the probe. -/
abbrev Probing (mtu : Mtu) := Move ArpProbe (Input mtu) Effect

end ArpProbe

end Ws63Examples.InitSmoke.FullInit
