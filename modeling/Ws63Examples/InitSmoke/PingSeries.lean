import Ws63Examples.InitSmoke.PollNetwork
import Ws63Examples.Lib.Bits
import Ws63Examples.Lib.Execution
import Ws63Examples.Lib.Word

/-! The smoke test's series of ICMP echo requests. -/

namespace Ws63Examples.InitSmoke

open Execution Word

def pingTimeoutMs : UInt64 := 1000
def pingCount : Nat := 5
def icmpIdentifier : UInt16 := 0x5753
def publicTarget : Ipv4Address := ⟨1, 1, 1, 1⟩

/-- `Icmpv4Repr`, as far as the series reads it. -/
inductive Icmpv4Repr where
  | echoRequest (ident seqNo : UInt16) (data : List UInt8)
  | echoReply (ident seqNo : UInt16) (data : List UInt8)
  | other
  deriving DecidableEq, Repr

/-- `Icmpv4Packet` and `Icmpv4Repr` of the stack. -/
structure IcmpWire where
  newChecked : List UInt8 → Bool
  parse : List UInt8 → Option Icmpv4Repr
  emit : Icmpv4Repr → List UInt8

/-- The sum of the 16-bit words of a message. -/
def wordSum : List UInt8 → Nat
  | hi :: lo :: rest => hi.toNat * 256 + lo.toNat + wordSum rest
  | [hi] => hi.toNat * 256
  | [] => 0

/-- The Internet checksum: carries are added back in, the sum is complemented. -/
def checksum (bytes : List UInt8) : UInt16 :=
  let sum := wordSum bytes
  .ofNat (0xffff - if sum = 0 then 0 else (sum - 1) % 0xffff + 1)

def echoMessage (kind : UInt8) (ident seqNo : UInt16) (data : List UInt8) : List UInt8 :=
  let behind := Bits.toBeBytes ident ++ Bits.toBeBytes seqNo ++ data
  [kind, 0] ++ Bits.toBeBytes (checksum ([kind, 0, 0, 0] ++ behind)) ++ behind

/-- Echo messages as on the wire. -/
def rfcIcmp : IcmpWire where
  newChecked := fun bytes => 8 ≤ bytes.length
  parse := fun bytes =>
    if checksum bytes ≠ 0 then none
    else
      match bytes with
      | kind :: 0 :: _ :: _ :: i :: i' :: n :: n' :: data =>
        if kind = 8 then some (.echoRequest (Bits.fromBeBytes i i') (Bits.fromBeBytes n n') data)
        else if kind = 0 then some (.echoReply (Bits.fromBeBytes i i') (Bits.fromBeBytes n n') data)
        else some .other
      | _ => some .other
  emit := fun repr =>
    match repr with
    | .echoRequest ident seqNo data => echoMessage 8 ident seqNo data
    | .echoReply ident seqNo data => echoMessage 0 ident seqNo data
    | .other => []

structure PingStats where
  tx : Nat
  rx : Nat
  txErrors : Nat
  rttTotalMs : Nat
  rttMinMs : Nat
  rttMaxMs : Nat
  deriving DecidableEq, Repr

def PingStats.default : PingStats := ⟨0, 0, 0, 0, 0, 0⟩

/-- Where `ping_series` stands, before the input it needs next. -/
inductive PingSeries.Point where
  | clock
  | send
  | loopHead
  | poll
  | drain
  | reply
  | sleep
  | returned (stats : PingStats)
  | panicked

structure PingSeries (stack : Smoltcp) where
  net : Net stack
  neighborConfirmed : Bool
  target : Ipv4Address
  count : Nat
  sequence : Nat
  startedAt : UInt64
  stats : PingStats
  point : PingSeries.Point

/-- What one step of the series asks of its environment, with the answer. -/
inductive Input (stack : Smoltcp) where
  | clock (ms : UInt64)
  | send (ok : Bool)
  | poll (traffic : stack.Traffic) (event : Option DhcpEvent)
  /-- `can_recv` and `recv`; `none` is an empty queue. -/
  | recv (packet : Option (List UInt8 × Ipv4Address))
  /-- `sleep_ms`, whose `expect` panics on an error. -/
  | sleep (ok : Bool)

inductive SampleStatus where
  | txError
  | ok (rttMs : Nat)
  | timeout
  deriving DecidableEq, Repr

/-- The lines the series writes, with the values printed in them. -/
inductive Line where
  | pingSeriesBegin (target : Ipv4Address) (count : Nat)
  | pingSample (target : Ipv4Address) (sequence : Nat)
  | status (status : SampleStatus)
  | arpOk
  | ping (ok : Bool) (target : Ipv4Address) (tx rx drop txErrors lossPct : Nat)
      (rtt : Option (Nat × Nat × Nat))
  | dhcp (line : DhcpLine)
  deriving DecidableEq, Repr

inductive Effect where
  | write (line : Line)
  /-- A `send`, and whether the socket took it. -/
  | send (packet : List UInt8) (target : Ipv4Address) (ok : Bool)
  deriving DecidableEq, Repr

/-- `u64::to_le_bytes` -/
def toLeBytes64 (x : UInt64) : List UInt8 :=
  (List.range 8).map fun i => .ofNat (x.toNat / 256 ^ i)

/-- `u16::to_le_bytes` -/
def toLeBytes16 (x : UInt16) : List UInt8 := [.ofNat x.toNat, .ofNat (x.toNat / 256)]

namespace PingSeries

variable {stack : Smoltcp}

def payload (s : PingSeries stack) : List UInt8 :=
  toLeBytes64 s.startedAt ++ toLeBytes16 (.ofNat s.sequence) ++ .replicate 22 0

def request (s : PingSeries stack) : Icmpv4Repr :=
  .echoRequest icmpIdentifier (.ofNat s.sequence) s.payload

/-- The last line of the series. -/
def summary (s : PingSeries stack) : Line :=
  let stats := s.stats
  let dropped := stats.tx - stats.rx
  let lossPct := if stats.tx = 0 then 100 else min (dropped * 100) u32Max / stats.tx
  let rtt :=
    if stats.rx ≠ 0 then
      some (stats.rttMinMs, stats.rttTotalMs / stats.rx % 2 ^ 32, stats.rttMaxMs)
    else none
  .ping (stats.rx ≠ 0) s.target stats.tx stats.rx dropped stats.txErrors lossPct rtt

/-- The head of the `for` loop. -/
def advance (s : PingSeries stack) : PingSeries stack × List Effect :=
  if s.sequence < s.count then ({ s with sequence := s.sequence + 1, point := .clock }, [])
  else ({ s with point := .returned s.stats }, [.write s.summary])

/-- Up to the head of the `for` loop. -/
def begin (net : Net stack) (neighborConfirmed : Bool) (target : Ipv4Address) (count : Nat) :
    PingSeries stack × List Effect :=
  let s : PingSeries stack := {
    net := net
    neighborConfirmed := neighborConfirmed
    target := target
    count := count
    sequence := 0
    startedAt := 0
    stats := .default
    point := .clock }
  let (s, out) := s.advance
  (s, .write (.pingSeriesBegin target count) :: out)

/-- The answer to `send`. -/
def sendRequest (icmp : IcmpWire) (s : PingSeries stack) (ok : Bool) :
    PingSeries stack × List Effect :=
  let out := [.send (icmp.emit s.request) s.target ok, .write (.pingSample s.target s.sequence)]
  if ok then
    let stats := { s.stats with tx := saturatingAdd u32Max s.stats.tx 1 }
    ({ s with stats := stats, point := .loopHead }, out)
  else
    let stats := { s.stats with txErrors := saturatingAdd u32Max s.stats.txErrors 1 }
    let (s, more) := { s with stats := stats }.advance
    (s, out ++ .write (.status .txError) :: more)

/-- Whether a packet is the reply to the request under way. -/
def answers (icmp : IcmpWire) (s : PingSeries stack) (bytes : List UInt8)
    (endpoint : Ipv4Address) : Bool :=
  icmp.newChecked bytes &&
    match icmp.parse bytes with
    | some (.echoReply ident seqNo _) =>
      endpoint = s.target && ident = icmpIdentifier && seqNo = .ofNat s.sequence
    | _ => false

/-- The reply is in, and the clock read for its round trip. -/
def finish (s : PingSeries stack) (now : UInt64) : PingSeries stack × List Effect :=
  let rttMs := min (now - s.startedAt).toNat u32Max
  let rx := saturatingAdd u32Max s.stats.rx 1
  let stats := { s.stats with
    rx := rx
    rttTotalMs := min (s.stats.rttTotalMs + rttMs) (2 ^ 64 - 1)
    rttMinMs := if rx = 1 then rttMs else min s.stats.rttMinMs rttMs
    rttMaxMs := max s.stats.rttMaxMs rttMs }
  let (s, more) := { s with stats := stats }.advance
  (s, .write (.status (.ok rttMs)) :: more)

end PingSeries

variable {stack : Smoltcp}

def pingSeries (icmp : IcmpWire) (s : PingSeries stack) (input : Input stack) :
    Option (PingSeries stack × List Effect) :=
  match s.point, input with
  | .clock, .clock ms => some ({ s with startedAt := ms, point := .send }, [])
  | .send, .send ok => some (s.sendRequest icmp ok)
  | .loopHead, .clock ms =>
    if ms - s.startedAt < pingTimeoutMs then some ({ s with point := .poll }, [])
    else
      let (s, more) := s.advance
      some (s, .write (.status .timeout) :: more)
  | .poll, .poll traffic event =>
    match pollNetwork traffic event s.net with
    | some (net, lines) =>
      some ({ s with net := net, point := .drain }, lines.map fun line => .write (.dhcp line))
    | none => some ({ s with point := .panicked }, [])
  | .drain, .recv (some (bytes, endpoint)) =>
    if s.answers icmp bytes endpoint then
      if s.neighborConfirmed then some ({ s with point := .reply }, [])
      else some ({ s with neighborConfirmed := true, point := .reply }, [.write .arpOk])
    else some (s, [])
  | .drain, .recv none => some ({ s with point := .sleep }, [])
  | .reply, .clock ms => some (s.finish ms)
  | .sleep, .sleep true => some ({ s with point := .loopHead }, [])
  | .sleep, .sleep false => some ({ s with point := .panicked }, [])
  | _, _ => none

namespace PingSeries

variable {icmp : IcmpWire}

/-- The moves of the series, one constructor for each. -/
inductive Step (icmp : IcmpWire) (s : PingSeries stack) :
    Input stack → PingSeries stack → List Effect → Prop
  | clock (at_point : s.point = .clock) (ms : UInt64) :
      Step icmp s (.clock ms) { s with startedAt := ms, point := .send } []
  | send (at_point : s.point = .send) (ok : Bool) :
      Step icmp s (.send ok) (s.sendRequest icmp ok).1 (s.sendRequest icmp ok).2
  | enter (at_point : s.point = .loopHead) (ms : UInt64)
      (early : ms - s.startedAt < pingTimeoutMs) :
      Step icmp s (.clock ms) { s with point := .poll } []
  | timeout (at_point : s.point = .loopHead) (ms : UInt64)
      (late : ¬ ms - s.startedAt < pingTimeoutMs) :
      Step icmp s (.clock ms) s.advance.1 (.write (.status .timeout) :: s.advance.2)
  | poll (at_point : s.point = .poll) (traffic : stack.Traffic) (event : Option DhcpEvent)
      (net : Net stack) (lines : List DhcpLine)
      (polled : pollNetwork traffic event s.net = some (net, lines)) :
      Step icmp s (.poll traffic event) { s with net := net, point := .drain }
        (lines.map fun line => .write (.dhcp line))
  | pollPanic (at_point : s.point = .poll) (traffic : stack.Traffic) (event : Option DhcpEvent)
      (polled : pollNetwork traffic event s.net = none) :
      Step icmp s (.poll traffic event) { s with point := .panicked } []
  | reply (at_point : s.point = .drain) (bytes : List UInt8) (endpoint : Ipv4Address)
      (answered : s.answers icmp bytes endpoint = true) (out : List Effect)
      (confirms : out = if s.neighborConfirmed then [] else [.write .arpOk]) :
      Step icmp s (.recv (some (bytes, endpoint)))
        { s with neighborConfirmed := true, point := .reply } out
  | discard (at_point : s.point = .drain) (bytes : List UInt8) (endpoint : Ipv4Address)
      (answered : ¬ s.answers icmp bytes endpoint = true) :
      Step icmp s (.recv (some (bytes, endpoint))) s []
  | drained (at_point : s.point = .drain) : Step icmp s (.recv none) { s with point := .sleep } []
  | finish (at_point : s.point = .reply) (ms : UInt64) :
      Step icmp s (.clock ms) (s.finish ms).1 (s.finish ms).2
  | resume (at_point : s.point = .sleep) :
      Step icmp s (.sleep true) { s with point := .loopHead } []
  | sleepPanic (at_point : s.point = .sleep) :
      Step icmp s (.sleep false) { s with point := .panicked } []

theorem step_cases {s t : PingSeries stack} {input : Input stack} {out : List Effect}
    (h : pingSeries icmp s input = some (t, out)) : Step icmp s input t out := by
  unfold pingSeries at h
  split at h
  case h_1 ms at_point =>
    cases h
    exact .clock at_point ms
  case h_2 ok at_point =>
    obtain ⟨rfl, rfl⟩ := answer_parts h
    exact .send at_point ok
  case h_3 ms at_point =>
    split at h
    · rename_i early
      cases h
      exact .enter at_point ms early
    · rename_i late
      obtain ⟨rfl, rfl⟩ := answer_parts h
      exact .timeout at_point ms late
  case h_4 traffic event at_point =>
    split at h
    · rename_i polled
      cases h
      exact .poll at_point traffic event _ _ polled
    · rename_i polled
      cases h
      exact .pollPanic at_point traffic event polled
  case h_5 bytes endpoint at_point =>
    split at h
    · rename_i answered
      split at h
      · rename_i confirmed
        cases h
        have same : ({ s with point := .reply } : PingSeries stack) =
            { s with neighborConfirmed := true, point := .reply } := by rw [← confirmed]
        rw [same]
        exact .reply at_point bytes endpoint answered [] (by rw [if_pos confirmed])
      · rename_i unconfirmed
        cases h
        exact .reply at_point bytes endpoint answered _ (by rw [if_neg unconfirmed])
    · rename_i answered
      cases h
      exact .discard at_point bytes endpoint answered
  case h_6 at_point =>
    cases h
    exact .drained at_point
  case h_7 ms at_point =>
    obtain ⟨rfl, rfl⟩ := answer_parts h
    exact .finish at_point ms
  case h_8 at_point =>
    cases h
    exact .resume at_point
  case h_9 at_point =>
    cases h
    exact .sleepPanic at_point
  case h_10 => cases h

/-- A move of the series. -/
abbrev Pinging (stack : Smoltcp) := Move (PingSeries stack) (Input stack) Effect

end PingSeries

end Ws63Examples.InitSmoke
