import Ws63Examples.InitSmoke.PingSeries
import Ws63Examples.NetPing.Mac

/-!
# The ping over the synthetic MAC

`main` of `net_ping` beside its interrupt handler. The handler runs between any two
steps of `main` once interrupts are enabled; the two share the hit counter and the MAC.
-/

namespace Ws63Examples.NetPing

open Execution Words
open InitSmoke (IcmpWire)

def nmCtrl : Nat := netmac
def nmMacLo : Nat := netmac + 0x020
def nmMacHi : Nat := netmac + 0x024
def nmEn : UInt32 := 0x1
def nmRxIrqEn : UInt32 := 0x2
def wlmacIrq : UInt32 := 45
def ident : UInt16 := 0x1234

/-- The counter's two words, low first, in milliseconds. -/
def nowMs (lo hi : UInt32) : UInt64 := ((hi.toUInt64 <<< 32) ||| lo.toUInt64) / 24000

/-- `b"ws63-rs ping...."` -/
def pingPayload : List UInt8 :=
  [0x77, 0x73, 0x36, 0x33, 0x2d, 0x72, 0x73, 0x20, 0x70, 0x69, 0x6e, 0x67, 0x2e, 0x2e, 0x2e, 0x2e]

/-- `b"ws63-rs net_ping\n"` -/
def udpPayload : List UInt8 :=
  [0x77, 0x73, 0x36, 0x33, 0x2d, 0x72, 0x73, 0x20, 0x6e, 0x65, 0x74, 0x5f, 0x70, 0x69, 0x6e, 0x67,
    0x0a]

def macOf (lo hi : UInt32) : List UInt8 :=
  [lo.toUInt8, (lo >>> 8).toUInt8, (lo >>> 16).toUInt8, (lo >>> 24).toUInt8, hi.toUInt8,
    (hi >>> 8).toUInt8]

def saturatingSub (a b : UInt64) : UInt64 := if b ≤ a then a - b else 0

inductive Verdict where
  | pass
  /-- No echo reply. -/
  | fail
  deriving DecidableEq, Repr

/-- Where `main` stands, before the input it needs next. -/
inductive Point where
  | registers
  | interface
  | route
  | start
  | clock
  | poll
  /-- In `mac_tx`, with these accesses still to make. -/
  | transmitting (rest : List Access)
  | ping
  | receive
  | udp
  | irqHits (verdict : Verdict)
  | finished (verdict : Verdict)
  | panicked
  deriving DecidableEq

/-- The counters of `main`, and `IRQ_HITS`. -/
structure Main where
  irqHits : UInt32
  seq : UInt16
  received : UInt32
  udpSent : Bool
  nextSend : UInt64
  start : UInt64
  now : UInt64
  point : Point
  deriving DecidableEq

/-- What a socket answers: whether it is open, whether it could be bound, whether it
can send, and whether it took the packet. -/
structure SocketAnswers where
  isOpen : Bool
  bound : Bool
  canSend : Bool
  sent : Bool

inductive Input where
  | registers (lo hi : UInt32)
  /-- The clock, for the interface. -/
  | interface (lo hi : UInt32)
  | route (added : Bool)
  /-- The clock ahead of the loop, and at the head of each turn. -/
  | start (lo hi : UInt32)
  | clock (lo hi : UInt32)
  /-- The interface's `poll` calls the sink with a frame. -/
  | transmit (frame : List UInt8)
  | access
  | polled
  | icmp (socket : SocketAnswers)
  /-- `can_recv` and `recv`; `none` where either says no. -/
  | recv (payload : Option (List UInt8))
  | udp (socket : SocketAnswers)
  | irqHits
  /-- A trap, and what stands at the addresses that the handler reads. -/
  | interrupt (mcause : UInt32) (read : Nat → UInt32)

inductive Line where
  | banner
  | mac (mac : List UInt8)
  | ping (seq : UInt16)
  | reply (seqNo : UInt16)
  | udp
  | verdict (irqHits : UInt32) (verdict : Verdict)
  deriving DecidableEq, Repr

inductive Effect where
  | write (line : Line)
  | access (access : Access)
  | enableInterrupts
  | clearPending
  | sendEcho (ident seqNo : UInt16) (data : List UInt8) (sent : Bool)
  | sendUdp (data : List UInt8) (sent : Bool)
  deriving DecidableEq, Repr

namespace Main

def boot : Main where
  irqHits := 0
  seq := 0
  received := 0
  udpSent := false
  nextSend := 0
  start := 0
  now := 0
  point := .registers

/-- The end of a turn: the verdict, or on to the next. -/
def judge (s : Main) : Main :=
  if 1 ≤ s.received then { s with point := .irqHits .pass }
  else if 5000 < saturatingSub s.now s.start then { s with point := .irqHits .fail }
  else { s with point := .clock }

/-- The request, if one is due; a `send` that fails takes its number along. -/
def sendPing (s : Main) (socket : SocketAnswers) : Main × List Effect :=
  if !socket.isOpen && !socket.bound then ({ s with point := .panicked }, [])
  else if socket.canSend && s.seq < 20 && s.nextSend ≤ s.now then
    ({ s with seq := s.seq + 1, nextSend := s.now + 100, point := .receive },
      .sendEcho ident s.seq pingPayload socket.sent ::
        if socket.sent then [.write (.ping s.seq)] else [])
  else ({ s with point := .receive }, [])

/-- The sequence number of an echo reply. -/
def echoReply (icmp : IcmpWire) (payload : List UInt8) : Option UInt16 :=
  if icmp.newChecked payload then
    match icmp.parse payload with
    | some (.echoReply _ seqNo _) => some seqNo
    | _ => none
  else none

/-- Behind the reply: the datagram, until it is out once. -/
def afterReceive (s : Main) : Main :=
  if s.udpSent then s.judge else { s with point := .udp }

def receive (icmp : IcmpWire) (s : Main) (payload : Option (List UInt8)) :
    Main × List Effect :=
  match payload.bind (echoReply icmp) with
  | some seqNo =>
    ({ s with received := s.received + 1 }.afterReceive, [.write (.reply seqNo)])
  | none => (s.afterReceive, [])

def sendUdp (s : Main) (socket : SocketAnswers) : Main × List Effect :=
  if !socket.isOpen && !socket.bound then ({ s with point := .panicked }, [])
  else if socket.canSend then
    if socket.sent then
      ({ s with udpSent := true }.judge, [.sendUdp udpPayload true, .write .udp])
    else (s.judge, [.sendUdp udpPayload false])
  else (s.judge, [])

/-- The trap handler. -/
def nmacHandle (fuel : Nat) (s : Main) (mcause : UInt32) (read : Nat → UInt32) :
    Main × List Effect :=
  if mcause &&& 0x80000000 = 0 || mcause &&& 0xFFF ≠ wlmacIrq then (s, [])
  else
    match drainRx fuel read with
    | .ok (true, accesses) =>
      ({ s with irqHits := s.irqHits + 1 }, accesses.map .access ++ [.clearPending])
    | .ok (false, accesses) => (s, accesses.map .access ++ [.clearPending])
    | .error _ => ({ s with point := .panicked }, [])

/-- The call of the sink, up to its first access. -/
def callSink (fuel : Nat) (s : Main) (frame : List UInt8) : Main :=
  match macTx fuel frame with
  | .ok accesses => { s with point := .transmitting accesses }
  | .error _ => { s with point := .panicked }

end Main

def main (fuel : Nat) (icmp : IcmpWire) (s : Main) (input : Input) :
    Option (Main × List Effect) :=
  match s.point, input with
  | .registers, .registers lo hi =>
    some ({ s with point := .interface },
      [.write .banner, .access (.load nmMacLo), .access (.load nmMacHi),
        .write (.mac (macOf lo hi)), .access (.store nmCtrl (nmEn ||| nmRxIrqEn)),
        .enableInterrupts])
  | .registers, _ => none
  | _, .interrupt mcause read => some (s.nmacHandle fuel mcause read)
  | .interface, .interface _ _ => some ({ s with point := .route }, [])
  | .route, .route added => some ({ s with point := if added then .start else .panicked }, [])
  | .start, .start lo hi => some ({ s with start := nowMs lo hi, point := .clock }, [])
  | .clock, .clock lo hi => some ({ s with now := nowMs lo hi, point := .poll }, [])
  | .poll, .transmit frame => some (s.callSink fuel frame, [])
  | .transmitting (access :: rest), .access =>
    some ({ s with point := if rest = [] then .poll else .transmitting rest }, [.access access])
  | .poll, .polled => some ({ s with point := .ping }, [])
  | .ping, .icmp socket => some (s.sendPing socket)
  | .receive, .recv payload => some (s.receive icmp payload)
  | .udp, .udp socket => some (s.sendUdp socket)
  | .irqHits verdict, .irqHits =>
    some ({ s with point := .finished verdict }, [.write (.verdict s.irqHits verdict)])
  | _, _ => none

namespace Main

variable {fuel : Nat} {icmp : IcmpWire} {s t : Main} {input : Input} {out : List Effect}

/-- The end of a turn only moves on. -/
theorem judge_eq (s : Main) : s.judge = { s with point := s.judge.point } := by
  unfold judge
  split
  · rfl
  · split
    · rfl
    · rfl

theorem afterReceive_eq (s : Main) : s.afterReceive = { s with point := s.afterReceive.point } := by
  unfold afterReceive
  split
  · exact judge_eq s
  · rfl

/-- The frame that a trap finds waiting in the MAC. -/
def waiting (mcause : UInt32) (read : Nat → UInt32) : Option (List UInt8) :=
  if mcause &&& 0x80000000 = 0 || mcause &&& 0xFFF ≠ wlmacIrq then none
  else if read nmIntStatus &&& nmIntRx = 0 then none
  else some ((List.range (min (read nmRxLen).toNat nmBufMax)).map
    (byteAt fun k => read (nmRxBuf + 4 * k)))

/-- The handler's counter behind a trap. -/
def hit (s : Main) (frame : Option (List UInt8)) : Main :=
  { s with irqHits := s.irqHits + .ofNat frame.toList.length }

/-- What a step can do. -/
inductive Step (fuel : Nat) (icmp : IcmpWire) (s : Main) : Input → Main → List Effect → Prop
  | registers (at_point : s.point = .registers) (lo hi : UInt32) :
      Step fuel icmp s (.registers lo hi) { s with point := .interface }
        [.write .banner, .access (.load nmMacLo), .access (.load nmMacHi),
          .write (.mac (macOf lo hi)), .access (.store nmCtrl (nmEn ||| nmRxIrqEn)),
          .enableInterrupts]
  | interrupt (enabled : s.point ≠ .registers) (mcause : UInt32) (read : Nat → UInt32)
      (accesses : List Access) (drained : ∀ access ∈ accesses, Drained access)
      (pushed : pushes accesses = (waiting mcause read).toList)
      (tail : List Effect) (clears : tail = [] ∨ tail = [.clearPending]) :
      Step fuel icmp s (.interrupt mcause read) (s.hit (waiting mcause read))
        (accesses.map .access ++ tail)
  | interface (at_point : s.point = .interface) (lo hi : UInt32) :
      Step fuel icmp s (.interface lo hi) { s with point := .route } []
  | route (at_point : s.point = .route) (added : Bool) :
      Step fuel icmp s (.route added) { s with point := if added then .start else .panicked } []
  | start (at_point : s.point = .start) (lo hi : UInt32) :
      Step fuel icmp s (.start lo hi) { s with start := nowMs lo hi, point := .clock } []
  | clock (at_point : s.point = .clock) (lo hi : UInt32) :
      Step fuel icmp s (.clock lo hi) { s with now := nowMs lo hi, point := .poll } []
  | transmit (at_point : s.point = .poll) (frame : List UInt8) (accesses : List Access)
      (called : macTx fuel frame = .ok accesses) :
      Step fuel icmp s (.transmit frame) { s with point := .transmitting accesses } []
  | access (access : Access) (rest : List Access)
      (at_point : s.point = .transmitting (access :: rest)) :
      Step fuel icmp s .access
        { s with point := if rest = [] then .poll else .transmitting rest } [.access access]
  | polled (at_point : s.point = .poll) : Step fuel icmp s .polled { s with point := .ping } []
  | unbound (at_point : s.point = .ping) (socket : SocketAnswers)
      (closed : socket.isOpen = false ∧ socket.bound = false) :
      Step fuel icmp s (.icmp socket) { s with point := .panicked } []
  | request (at_point : s.point = .ping) (socket : SocketAnswers) (ready : socket.canSend = true)
      (left : s.seq < 20) (due : s.nextSend ≤ s.now) :
      Step fuel icmp s (.icmp socket)
        { s with seq := s.seq + 1, nextSend := s.now + 100, point := .receive }
        (.sendEcho ident s.seq pingPayload socket.sent ::
          if socket.sent then [.write (.ping s.seq)] else [])
  | hold (at_point : s.point = .ping) (socket : SocketAnswers)
      (held : ¬ (socket.canSend = true ∧ s.seq < 20 ∧ s.nextSend ≤ s.now)) :
      Step fuel icmp s (.icmp socket) { s with point := .receive } []
  | reply (at_point : s.point = .receive) (payload : List UInt8) (seqNo : UInt16)
      (heard : echoReply icmp payload = some seqNo) :
      Step fuel icmp s (.recv (some payload)) { s with received := s.received + 1 }.afterReceive
        [.write (.reply seqNo)]
  | silence (at_point : s.point = .receive) (payload : Option (List UInt8))
      (unheard : payload.bind (echoReply icmp) = none) :
      Step fuel icmp s (.recv payload) s.afterReceive []
  | unboundUdp (at_point : s.point = .udp) (socket : SocketAnswers) :
      Step fuel icmp s (.udp socket) { s with point := .panicked } []
  | datagram (at_point : s.point = .udp) (socket : SocketAnswers) :
      Step fuel icmp s (.udp socket) { s with udpSent := true }.judge
        [.sendUdp udpPayload true, .write .udp]
  | undelivered (at_point : s.point = .udp) (socket : SocketAnswers) (out : List Effect)
      (refused : out = [] ∨ out = [.sendUdp udpPayload false]) :
      Step fuel icmp s (.udp socket) s.judge out
  | irqHits (verdict : Verdict) (at_point : s.point = .irqHits verdict) :
      Step fuel icmp s .irqHits { s with point := .finished verdict }
        [.write (.verdict s.irqHits verdict)]

theorem nmacHandle_spec (mcause : UInt32) (read : Nat → UInt32) (enough : 512 < fuel) :
    ∃ accesses tail, s.nmacHandle fuel mcause read =
        (s.hit (waiting mcause read), accesses.map .access ++ tail) ∧
      (∀ access ∈ accesses, Drained access) ∧ pushes accesses = (waiting mcause read).toList ∧
      (tail = [] ∨ tail = [.clearPending]) := by
  obtain ⟨accesses, run, drained, pushed⟩ := drainRx_drained read enough
  unfold nmacHandle waiting
  split
  · refine ⟨[], [], ?_, fun _ none => absurd none List.not_mem_nil, rfl, .inl rfl⟩
    simp [hit]
  · refine ⟨accesses, [.clearPending], ?_, drained, ?_, .inr rfl⟩
    · rw [run]
      by_cases idle : read nmIntStatus &&& nmIntRx = 0
      · simp [idle, hit]
      · simp [idle, hit]
    · rw [pushed]
      split
      · rfl
      · rfl

theorem sendPing_cases (at_point : s.point = .ping) (socket : SocketAnswers)
    (h : s.sendPing socket = (t, out)) : Step fuel icmp s (.icmp socket) t out := by
  unfold sendPing at h
  split at h
  · rename_i closed
    simp only [Bool.and_eq_true, Bool.not_eq_true'] at closed
    cases h
    exact .unbound at_point socket closed
  · split at h
    · rename_i going
      simp only [Bool.and_eq_true, decide_eq_true_eq] at going
      cases h
      exact .request at_point socket going.1.1 going.1.2 going.2
    · rename_i held
      simp only [Bool.and_eq_true, decide_eq_true_eq, and_assoc] at held
      cases h
      exact .hold at_point socket held

theorem receive_cases (at_point : s.point = .receive) (payload : Option (List UInt8))
    (h : s.receive icmp payload = (t, out)) : Step fuel icmp s (.recv payload) t out := by
  unfold receive at h
  split at h
  · rename_i seqNo heard
    obtain ⟨bytes, rfl, heard⟩ := Option.bind_eq_some_iff.mp heard
    cases h
    exact .reply at_point bytes seqNo heard
  · rename_i unheard
    cases h
    exact .silence at_point payload unheard

theorem sendUdp_cases (at_point : s.point = .udp) (socket : SocketAnswers)
    (h : s.sendUdp socket = (t, out)) : Step fuel icmp s (.udp socket) t out := by
  unfold sendUdp at h
  split at h
  · cases h
    exact .unboundUdp at_point socket
  · split at h
    · split at h
      · cases h
        exact .datagram at_point socket
      · cases h
        exact .undelivered at_point socket _ (.inr rfl)
    · cases h
      exact .undelivered at_point socket [] (.inl rfl)

theorem step_cases (enough : 512 < fuel) (h : main fuel icmp s input = some (t, out)) :
    Step fuel icmp s input t out := by
  unfold main at h
  split at h
  case h_1 lo hi at_point =>
    cases h
    exact .registers at_point lo hi
  case h_2 => cases h
  case h_3 mcause read enabled =>
    obtain ⟨accesses, tail, handled, drained, pushed, clears⟩ :=
      nmacHandle_spec mcause read enough (s := s)
    rw [handled] at h
    cases h
    exact .interrupt enabled mcause read accesses drained pushed tail clears
  case h_4 lo hi at_point =>
    cases h
    exact .interface at_point lo hi
  case h_5 added at_point =>
    cases h
    exact .route at_point added
  case h_6 lo hi at_point =>
    cases h
    exact .start at_point lo hi
  case h_7 lo hi at_point =>
    cases h
    exact .clock at_point lo hi
  case h_8 frame at_point =>
    obtain ⟨accesses, called, -⟩ := macTx_sent frame enough
    rw [callSink, called] at h
    cases h
    exact .transmit at_point frame accesses called
  case h_9 access rest at_point =>
    cases h
    exact .access access rest at_point
  case h_10 at_point =>
    cases h
    exact .polled at_point
  case h_11 socket at_point => exact sendPing_cases at_point socket (Option.some.inj h)
  case h_12 payload at_point => exact receive_cases at_point payload (Option.some.inj h)
  case h_13 socket at_point => exact sendUdp_cases at_point socket (Option.some.inj h)
  case h_14 verdict at_point =>
    cases h
    exact .irqHits verdict at_point
  case h_15 => cases h

/-- A move of the program. -/
abbrev Moved := Move Main Input Effect

end Main

end Ws63Examples.NetPing
