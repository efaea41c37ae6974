import Ws63Examples.InitSmoke.Checksum
import Ws63Examples.Lib.Slice

/-!
`run_ping_series` of `main.rs`: the builds without a network stack ping on raw
Ethernet frames, from one request buffer that each sample patches.
-/

namespace Ws63Examples.InitSmoke.FullInit

open Bits Execution Loop Slice Word

def identifier : UInt16 := 0x5753
def sampleTimeoutSteps : Nat := 100

/-- The arguments of `run_ping_series`. -/
structure PingConfig where
  mac : Vector UInt8 6
  address : Vector UInt8 4
  gateway : Vector UInt8 4
  gatewayMac : Vector UInt8 6
  target : Vector UInt8 4
  deriving DecidableEq

/-- The size of a receive buffer: the headers read from it fit. -/
structure Mtu where
  size : Nat
  headers : 42 ≤ size

structure RxQueueDiagnostics where
  dropped : Nat
  highWatermark : Nat
  pending : Nat
  icmpEchoReplies : Nat
  icmpSequenceMask : Nat
  deriving DecidableEq, Repr

structure PingStats extends InitSmoke.PingStats where
  rxQueueDropped : Nat
  rxQueueHighWatermark : Nat
  rxQueuePending : Nat
  rxEchoReplies : Nat
  rxEchoSequenceMask : Nat
  deriving DecidableEq, Repr

def PingStats.default : PingStats := ⟨.default, 0, 0, 0, 0, 0⟩

/-- One more reply, after `rttMs`. -/
def PingStats.reply (stats : PingStats) (rttMs : Nat) : PingStats :=
  let rx := saturatingAdd u32Max stats.rx 1
  { stats with
    rx := rx
    rttTotalMs := min (stats.rttTotalMs + rttMs) (2 ^ 64 - 1)
    rttMinMs := if rx = 1 then rttMs else min stats.rttMinMs rttMs
    rttMaxMs := max stats.rttMaxMs rttMs }

def echoData : List UInt8 := (List.range 32).map .ofNat

/-- The request buffer ahead of the `for` loop. -/
def requestBuffer (config : PingConfig) : Option (Vector UInt8 74) := do
  let request := Vector.replicate 74 0
  let request ← copyFromSlice request 0 6 config.gatewayMac.toList
  let request ← copyFromSlice request 6 12 config.mac.toList
  let request ← copyFromSlice request 12 14 [0x08, 0x00]
  let request ← store request 14 0x45
  let request ← copyFromSlice request 16 18 (toBeBytes (.ofNat (74 - 14)))
  let request ← store request 22 64
  let request ← store request 23 1
  let request ← copyFromSlice request 26 30 config.address.toList
  let request ← copyFromSlice request 30 34 config.target.toList
  let request ← store request 34 8
  let request ← copyFromSlice request 38 40 (toBeBytes identifier)
  copyFromSlice request 42 74 echoData

/-- The patches at the head of the `for` loop's body. -/
def patchRequest (fuel : Nat) (request : Vector UInt8 74) (sequence : UInt16) :
    Except Stop (Vector UInt8 74) := do
  let request ← orPanic (copyFromSlice request 18 20 (toBeBytes sequence))
  let request ← orPanic (fill request 24 26 0)
  let header ← orPanic (slice request.toList 14 34)
  let ipChecksum ← internetChecksum fuel header
  let request ← orPanic (copyFromSlice request 24 26 (toBeBytes ipChecksum))
  let request ← orPanic (copyFromSlice request 40 42 (toBeBytes sequence))
  let request ← orPanic (fill request 36 38 0)
  let message ← orPanic (slice request.toList 34 74)
  let icmpChecksum ← internetChecksum fuel message
  orPanic (copyFromSlice request 36 38 (toBeBytes icmpChecksum))

section
variable {mtu : Mtu}

/-- `frame[a..b]` of the receive buffer. -/
def part (frame : Vector UInt8 mtu.size) (a b : Nat) : List UInt8 := (frame.toList.take b).drop a

theorem part_length (frame : Vector UInt8 mtu.size) {a b : Nat} (hb : b ≤ 42) :
    (part frame a b).length = b - a := by
  have := mtu.headers
  rw [part, List.length_drop, List.length_take, Vector.length_toList]
  omega

/-- An ARP request for `address`. -/
def isArpRequest (address : Vector UInt8 4) (length : Nat) (frame : Vector UInt8 mtu.size) : Bool :=
  42 ≤ length && part frame 12 14 = [0x08, 0x06] && part frame 20 22 = [0x00, 0x01] &&
    part frame 38 42 = address.toList

def arpReply (config : PingConfig) (frame : Vector UInt8 mtu.size) : Option (Vector UInt8 42) := do
  let reply := Vector.replicate 42 0
  let reply ← copyFromSlice reply 0 6 (part frame 22 28)
  let reply ← copyFromSlice reply 6 12 config.mac.toList
  let reply ← copyFromSlice reply 12 14 [0x08, 0x06]
  let reply ← copyFromSlice reply 14 22 [0x00, 0x01, 0x08, 0x00, 0x06, 0x04, 0x00, 0x02]
  let reply ← copyFromSlice reply 22 28 config.mac.toList
  let reply ← copyFromSlice reply 28 32 config.address.toList
  let reply ← copyFromSlice reply 32 38 (part frame 22 28)
  copyFromSlice reply 38 42 (part frame 28 32)

/-- The echo reply to the request with this sequence number. -/
def isEchoReply (config : PingConfig) (sequence : UInt16) (length : Nat)
    (frame : Vector UInt8 mtu.size) : Bool :=
  42 ≤ length && part frame 12 14 = [0x08, 0x00] && part frame 23 24 = [1] &&
    part frame 26 30 = config.target.toList && part frame 30 34 = config.address.toList &&
    part frame 34 35 = [0] && part frame 38 40 = toBeBytes identifier &&
    part frame 40 42 = toBeBytes sequence

end

/-- Where `run_ping_series` stands, before the input it needs next. -/
inductive RunPingSeries.Point where
  | clock
  | send
  | receive
  | matched
  | sleep
  | diagnostics
  | returned (stats : PingStats)
  | stopped (why : Stop)

structure RunPingSeries where
  config : PingConfig
  sampleCount : UInt16
  request : Vector UInt8 74
  sequence : Nat
  startedAt : UInt64
  /-- The turn of the wait for a reply, below `sampleTimeoutSteps`. -/
  turn : Nat
  stats : PingStats
  point : RunPingSeries.Point

/-- What one step asks of its environment, with the answer. -/
inductive Input (mtu : Mtu) where
  | clock (ms : UInt64)
  | transmit (ok : Bool)
  /-- The length returned, and the whole buffer as `take_received` left it. -/
  | takeReceived (received : Option (Nat × Vector UInt8 mtu.size))
  | msleep
  | diagnostics (queue : RxQueueDiagnostics)

inductive Line where
  | pingSeriesBegin (target via : Vector UInt8 4) (count : Nat)
  | pingSample (target : Vector UInt8 4) (sequence : Nat)
  | status (status : SampleStatus)
  | ping (ok : Bool) (target : Vector UInt8 4) (tx rx drops txErrors : Nat)
      (queue : RxQueueDiagnostics) (lossPct rttMinMs rttAvgMs rttMaxMs : Nat)
  deriving DecidableEq

inductive Effect where
  | write (line : Line)
  | resetRxQueueDiagnostics
  | transmit (frame : List UInt8)
  deriving DecidableEq

namespace RunPingSeries

/-- The head of the `for` loop, and its body up to the clock. -/
def advance (fuel : Nat) (s : RunPingSeries) : RunPingSeries × List Effect :=
  if s.sequence < s.sampleCount.toNat then
    match patchRequest fuel s.request (.ofNat (s.sequence + 1)) with
    | .ok request =>
      ({ s with sequence := s.sequence + 1, request := request, point := .clock },
        [.write (.pingSample s.config.target (s.sequence + 1))])
    | .error why => ({ s with sequence := s.sequence + 1, point := .stopped why }, [])
  else ({ s with point := .diagnostics }, [])

def begin (fuel : Nat) (config : PingConfig) (sampleCount : UInt16) :
    RunPingSeries × List Effect :=
  let s : RunPingSeries := {
    config := config
    sampleCount := sampleCount
    request := .replicate 74 0
    sequence := 0
    startedAt := 0
    turn := 0
    stats := .default
    point := .stopped .panicked }
  match requestBuffer config with
  | none => (s, [])
  | some request =>
    let next := { s with request := request }.advance fuel
    (next.1, .write (.pingSeriesBegin config.target config.gateway sampleCount.toNat) ::
      .resetRxQueueDiagnostics :: next.2)

/-- The request is out, the wait for its reply begins. -/
def sent (s : RunPingSeries) : RunPingSeries :=
  { s with
    stats := { s.stats with tx := saturatingAdd u32Max s.stats.tx 1 }
    turn := 0
    point := .receive }

def refused (s : RunPingSeries) : RunPingSeries :=
  { s with stats := { s.stats with txErrors := saturatingAdd u32Max s.stats.txErrors 1 } }

/-- The answer to `transmit`. -/
def sendRequest (fuel : Nat) (s : RunPingSeries) (ok : Bool) : RunPingSeries × List Effect :=
  if ok then (s.sent, [.transmit s.request.toList])
  else
    let next := s.refused.advance fuel
    (next.1, .transmit s.request.toList :: .write (.status .txError) :: next.2)

/-- On to the next turn of the wait. -/
def nextTurn (fuel : Nat) (s : RunPingSeries) : RunPingSeries × List Effect :=
  if s.turn + 1 < sampleTimeoutSteps then ({ s with turn := s.turn + 1, point := .receive }, [])
  else
    let next := s.advance fuel
    (next.1, .write (.status .timeout) :: next.2)

/-- The answer to `take_received`. -/
def receive {mtu : Mtu} (fuel : Nat) (s : RunPingSeries)
    (received : Option (Nat × Vector UInt8 mtu.size)) : RunPingSeries × List Effect :=
  match received with
  | none => ({ s with point := .sleep }, [])
  | some (length, frame) =>
    if isArpRequest s.config.address length frame then
      match arpReply s.config frame with
      | some reply =>
        let next := s.nextTurn fuel
        (next.1, .transmit reply.toList :: next.2)
      | none => ({ s with point := .stopped .panicked }, [])
    else if isEchoReply s.config (.ofNat s.sequence) length frame then
      ({ s with point := .matched }, [])
    else ({ s with point := .sleep }, [])

def rttMs (s : RunPingSeries) (now : UInt64) : Nat := min (now - s.startedAt).toNat u32Max

def answered (s : RunPingSeries) (rttMs : Nat) : RunPingSeries :=
  { s with stats := s.stats.reply rttMs }

/-- The reply is in, and the clock read for its round trip. -/
def finish (fuel : Nat) (s : RunPingSeries) (now : UInt64) : RunPingSeries × List Effect :=
  let next := (s.answered (s.rttMs now)).advance fuel
  (next.1, .write (.status (.ok (s.rttMs now))) :: next.2)

/-- The last line, from the queue's counters and the statistics. -/
def conclude (s : RunPingSeries) (queue : RxQueueDiagnostics) : RunPingSeries × List Effect :=
  let stats := { s.stats with
    rxQueueDropped := queue.dropped
    rxQueueHighWatermark := queue.highWatermark % 2 ^ 32
    rxQueuePending := queue.pending % 2 ^ 32
    rxEchoReplies := queue.icmpEchoReplies
    rxEchoSequenceMask := queue.icmpSequenceMask }
  let drops := stats.tx - stats.rx
  let lossPct := if stats.tx = 0 then 100 else min (drops * 100) u32Max / stats.tx
  let rttAvgMs := min (if stats.rx = 0 then 0 else stats.rttTotalMs / stats.rx) u32Max
  let printed : RxQueueDiagnostics := {
    dropped := stats.rxQueueDropped
    highWatermark := stats.rxQueueHighWatermark
    pending := stats.rxQueuePending
    icmpEchoReplies := stats.rxEchoReplies
    icmpSequenceMask := stats.rxEchoSequenceMask }
  ({ s with stats := stats, point := .returned stats },
    [.write (.ping (stats.rx ≠ 0) s.config.target stats.tx stats.rx drops stats.txErrors printed
      lossPct stats.rttMinMs rttAvgMs stats.rttMaxMs)])

end RunPingSeries

def runPingSeries {mtu : Mtu} (fuel : Nat) (s : RunPingSeries) (input : Input mtu) :
    Option (RunPingSeries × List Effect) :=
  match s.point, input with
  | .clock, .clock ms => some ({ s with startedAt := ms, point := .send }, [])
  | .send, .transmit ok => some (s.sendRequest fuel ok)
  | .receive, .takeReceived received => some (s.receive fuel received)
  | .matched, .clock ms => some (s.finish fuel ms)
  | .sleep, .msleep => some (s.nextTurn fuel)
  | .diagnostics, .diagnostics queue => some (s.conclude queue)
  | _, _ => none

namespace RunPingSeries

variable {mtu : Mtu} {fuel : Nat}

/-- The moves of the series, one constructor for each. -/
inductive Step (fuel : Nat) (s : RunPingSeries) : Input mtu → RunPingSeries → List Effect → Prop
  | clock (at_point : s.point = .clock) (ms : UInt64) :
      Step fuel s (.clock ms) { s with startedAt := ms, point := .send } []
  | send (at_point : s.point = .send) :
      Step fuel s (.transmit true) s.sent [.transmit s.request.toList]
  | refuse (at_point : s.point = .send) :
      Step fuel s (.transmit false) (s.refused.advance fuel).1
        (.transmit s.request.toList :: .write (.status .txError) :: (s.refused.advance fuel).2)
  | idle (at_point : s.point = .receive) :
      Step fuel s (.takeReceived none) { s with point := .sleep } []
  | arp (at_point : s.point = .receive) (length : Nat) (frame : Vector UInt8 mtu.size)
      (reply : Vector UInt8 42) (built : arpReply s.config frame = some reply) :
      Step fuel s (.takeReceived (some (length, frame))) (s.nextTurn fuel).1
        (.transmit reply.toList :: (s.nextTurn fuel).2)
  | reply (at_point : s.point = .receive) (length : Nat) (frame : Vector UInt8 mtu.size)
      (answered : isEchoReply s.config (.ofNat s.sequence) length frame = true) :
      Step fuel s (.takeReceived (some (length, frame))) { s with point := .matched } []
  | discard (at_point : s.point = .receive) (length : Nat) (frame : Vector UInt8 mtu.size) :
      Step fuel s (.takeReceived (some (length, frame))) { s with point := .sleep } []
  | finish (at_point : s.point = .matched) (ms : UInt64) :
      Step fuel s (.clock ms) ((s.answered (s.rttMs ms)).advance fuel).1
        (.write (.status (.ok (s.rttMs ms))) :: ((s.answered (s.rttMs ms)).advance fuel).2)
  | resume (at_point : s.point = .sleep) :
      Step fuel s .msleep (s.nextTurn fuel).1 (s.nextTurn fuel).2
  | conclude (at_point : s.point = .diagnostics) (queue : RxQueueDiagnostics) :
      Step fuel s (.diagnostics queue) (s.conclude queue).1 (s.conclude queue).2

theorem arpReply_isSome (config : PingConfig) (frame : Vector UInt8 mtu.size) :
    ∃ reply, arpReply config frame = some reply := by
  have sender : (part frame 22 28).length = 6 := part_length frame (by decide)
  have source : (part frame 28 32).length = 4 := part_length frame (by decide)
  have mac : config.mac.toList.length = 6 := Vector.length_toList
  have address : config.address.toList.length = 4 := Vector.length_toList
  have copy (reply : Vector UInt8 42) (a b : Nat) (src : List UInt8) (h : a ≤ b) (hb : b ≤ 42)
      (hs : src.length = b - a) : ∃ out, copyFromSlice reply a b src = some out :=
    copyFromSlice_isSome reply h hb hs
  obtain ⟨r₁, h₁⟩ := copy (.replicate 42 0) 0 6 (part frame 22 28) (by decide) (by decide) sender
  obtain ⟨r₂, h₂⟩ := copy r₁ 6 12 config.mac.toList (by decide) (by decide) mac
  obtain ⟨r₃, h₃⟩ := copy r₂ 12 14 [0x08, 0x06] (by decide) (by decide) rfl
  obtain ⟨r₄, h₄⟩ := copy r₃ 14 22 [0x00, 0x01, 0x08, 0x00, 0x06, 0x04, 0x00, 0x02] (by decide)
    (by decide) rfl
  obtain ⟨r₅, h₅⟩ := copy r₄ 22 28 config.mac.toList (by decide) (by decide) mac
  obtain ⟨r₆, h₆⟩ := copy r₅ 28 32 config.address.toList (by decide) (by decide) address
  obtain ⟨r₇, h₇⟩ := copy r₆ 32 38 (part frame 22 28) (by decide) (by decide) sender
  obtain ⟨r₈, h₈⟩ := copy r₇ 38 42 (part frame 28 32) (by decide) (by decide) source
  refine ⟨r₈, ?_⟩
  rw [arpReply, h₁, some_bind, h₂, some_bind, h₃, some_bind, h₄, some_bind, h₅, some_bind, h₆,
    some_bind, h₇, some_bind, h₈]

theorem receive_cases {s t : RunPingSeries} {out : List Effect}
    (received : Option (Nat × Vector UInt8 mtu.size)) (at_point : s.point = .receive)
    (h : s.receive fuel received = (t, out)) : Step fuel s (.takeReceived received) t out := by
  cases received with
  | none =>
    cases h
    exact .idle at_point
  | some packet =>
    obtain ⟨length, frame⟩ := packet
    obtain ⟨reply, built⟩ := arpReply_isSome s.config frame
    simp only [receive, built] at h
    split at h
    · cases h
      exact .arp at_point length frame reply built
    · split at h
      · rename_i answered
        cases h
        exact .reply at_point length frame answered
      · cases h
        exact .discard at_point length frame

theorem step_cases {s t : RunPingSeries} {input : Input mtu} {out : List Effect}
    (h : runPingSeries fuel s input = some (t, out)) : Step fuel s input t out := by
  unfold runPingSeries at h
  split at h
  case h_1 ms at_point =>
    cases h
    exact .clock at_point ms
  case h_2 ok at_point =>
    cases ok with
    | true =>
      cases h
      exact .send at_point
    | false =>
      rw [sendRequest, if_neg Bool.false_ne_true] at h
      obtain ⟨rfl, rfl⟩ := answer_parts h
      exact .refuse at_point
  case h_3 received at_point => exact receive_cases received at_point (Option.some.inj h)
  case h_4 ms at_point =>
    obtain ⟨rfl, rfl⟩ := answer_parts h
    exact .finish at_point ms
  case h_5 at_point =>
    obtain ⟨rfl, rfl⟩ := answer_parts h
    exact .resume at_point
  case h_6 queue at_point =>
    obtain ⟨rfl, rfl⟩ := answer_parts h
    exact .conclude at_point queue
  case h_7 => cases h

/-- A move of the series. -/
abbrev Pinging (mtu : Mtu) := Move RunPingSeries (Input mtu) Effect

end RunPingSeries

end Ws63Examples.InitSmoke.FullInit
