import Ws63Examples.TwoBoard.Echo

/-!
# Room for the echo burst

The two sockets of the echo probe behind receive buffers of bounded size. What
is under way anywhere was sent by this probe, so no buffer ever fills up.
-/

namespace Ws63Examples.TwoBoard

open Execution
open Connectivity (LocalProbe localNeighborProbe localProbeAttempts)
open Softap (AccessPoint serverAddress)

/-- The room of a receive buffer: its metadata slots and its payload bytes. -/
structure PacketBuffer where
  slots : Nat
  bytes : Nat

def unreadBytes (rx : List Datagram) : Nat := (rx.map fun d => d.payload.length).sum

namespace PacketBuffer

/-- No slot is free for a datagram, or too few bytes. -/
def full (buffer : PacketBuffer) (rx : List Datagram) (payload : List UInt8) : Bool :=
  buffer.slots ≤ rx.length || buffer.bytes < unreadBytes rx + payload.length

structure Holds (buffer : PacketBuffer) (rx : List Datagram) : Prop where
  slots : rx.length ≤ buffer.slots
  bytes : unreadBytes rx ≤ buffer.bytes

end PacketBuffer

def udpRxPacketCapacity : Nat := localProbeAttempts
def dnsRxBufferBytes : Nat := 128

/-- The station's shared socket. -/
def dnsRx : PacketBuffer := ⟨udpRxPacketCapacity, dnsRxBufferBytes⟩

/-- The echo socket of the access point. -/
def echoRx : PacketBuffer := ⟨16, 512⟩

/-- A datagram that reaches a socket may be discarded there, but only for lack of
room. Nothing keeps a delivery from exceeding the room. -/
inductive BufferedInput (stack : Smoltcp) where
  | system (input : EchoSystem.Input stack)
  | stationDiscard (index : Nat)
  | echoDiscard (index : Nat)

section
variable {stack : Smoltcp}

def bufferedSystem (codec : Softap.DhcpWire) (home : Ipv4Address → Bool) (s : EchoSystem stack) :
    BufferedInput stack → Option (EchoSystem stack × List Effect)
  | .system input => echoSystem codec home s input
  | .stationDiscard index =>
    match Wire.take s.wire index with
    | some (packet, rest) =>
      if AtStation home packet.destination ∧ dnsRx.full s.socket.rx packet.payload then
        some ({ s with wire := rest }, [])
      else none
    | none => none
  | .echoDiscard index =>
    match Wire.take s.wire index with
    | some (packet, rest) =>
      if packet.destination = echoEndpoint ∧
          echoRx.full s.accessPoint.echo.rx packet.payload then
        some ({ s with wire := rest }, [])
      else none
    | none => none

/-- A packet on its way to one of the two sockets. -/
def Bound (home : Ipv4Address → Bool) (packet : Packet) : Prop :=
  packet.destination = echoEndpoint ∨ AtStation home packet.destination

instance (home : Ipv4Address → Bool) (packet : Packet) : Decidable (Bound home packet) :=
  inferInstanceAs (Decidable (_ ∨ _))

/-- The network makes no copies, and nothing else reaches the two sockets. -/
def Undisturbed (home : Ipv4Address → Bool) : BufferedInput stack → Prop
  | .system (.duplicate _) => False
  | .system (.other packet) => ¬ Bound home packet
  | _ => True

/-- Whether a socket discards a datagram. -/
def BufferedInput.discards : BufferedInput stack → Bool
  | .system _ => false
  | .stationDiscard _ | .echoDiscard _ => true

def payloads (datagrams : List Datagram) : List (List UInt8) := datagrams.map Datagram.payload

def inFlight (home : Ipv4Address → Bool) (wire : List Packet) : List (List UInt8) :=
  wire.filterMap fun packet => if Bound home packet then some packet.payload else none

/-- Every payload on its way from one board to the other and back. -/
def underWay (home : Ipv4Address → Bool) (s : EchoSystem stack) : List (List UInt8) :=
  payloads s.socket.tx ++ (inFlight home s.wire ++ (payloads s.accessPoint.echo.rx ++
    (payloads s.accessPoint.echo.tx ++ payloads s.socket.rx)))

end

section
variable {home : Ipv4Address → Bool}

theorem payloads_append (ds es : List Datagram) :
    payloads (ds ++ es) = payloads ds ++ payloads es :=
  List.map_append

theorem inFlight_cons_bound {packet : Packet} (bound : Bound home packet) (wire : List Packet) :
    inFlight home (packet :: wire) = packet.payload :: inFlight home wire :=
  List.filterMap_cons_some (if_pos bound)

theorem inFlight_cons_other {packet : Packet} (other : ¬ Bound home packet) (wire : List Packet) :
    inFlight home (packet :: wire) = inFlight home wire :=
  List.filterMap_cons_none (if_neg other)

variable (home) in
theorem inFlight_cons_count (packet : Packet) (wire : List Packet) (x : List UInt8) :
    (inFlight home (packet :: wire)).count x ≤
      [packet.payload].count x + (inFlight home wire).count x := by
  by_cases bound : Bound home packet
  · rw [inFlight_cons_bound bound, ← List.count_append]
    exact le_rfl
  · rw [inFlight_cons_other bound]
    exact Nat.le_add_left _ _

theorem inFlight_take {wire rest : List Packet} {index : Nat} {packet : Packet}
    (taken : Wire.take wire index = some (packet, rest)) (bound : Bound home packet) :
    (inFlight home wire).Perm (packet.payload :: inFlight home rest) := by
  rw [← inFlight_cons_bound bound]
  exact (Wire.take_perm taken).filterMap _

variable (home) in
theorem inFlight_lose (wire : List Packet) (index : Nat) :
    (inFlight home (Wire.lose wire index)).Sublist (inFlight home wire) :=
  (Wire.lose_sublist wire index).filterMap _

/-- Datagrams of one byte take as many bytes as slots. -/
theorem unreadBytes_eq {rx : List Datagram} (single : ∀ d ∈ rx, d.payload.length = 1) :
    unreadBytes rx = rx.length := by
  unfold unreadBytes
  induction rx with
  | nil => rfl
  | cons d rx ih =>
    obtain ⟨one, ones⟩ := List.forall_mem_cons.mp single
    rw [List.map_cons, List.sum_cons, one, ih ones, List.length_cons, Nat.add_comm]

theorem PacketBuffer.holds_of_le {buffer : PacketBuffer} {rx : List Datagram}
    (single : ∀ d ∈ rx, d.payload.length = 1) (slots : rx.length ≤ buffer.slots)
    (bytes : rx.length ≤ buffer.bytes) : buffer.Holds rx :=
  ⟨slots, unreadBytes_eq single ▸ bytes⟩

theorem PacketBuffer.not_full_of_lt {buffer : PacketBuffer} {rx : List Datagram}
    {payload : List UInt8} (single : ∀ d ∈ rx, d.payload.length = 1) (one : payload.length = 1)
    (slots : rx.length < buffer.slots) (bytes : rx.length < buffer.bytes) :
    buffer.full rx payload = false := by
  unfold PacketBuffer.full
  rw [unreadBytes_eq single, one, Bool.or_eq_false_iff, decide_eq_false_iff_not,
    decide_eq_false_iff_not]
  exact ⟨Nat.not_le.mpr slots, Nat.not_lt.mpr bytes⟩

/-! Each step keeps what is under way, or loses some of it, but for the probes that the
station's socket takes. -/

variable {stack : Smoltcp} {codec : Softap.DhcpWire}

def Conserves (home : Ipv4Address → Bool) (s t : EchoSystem stack) (out : List Effect) : Prop :=
  ∀ x, (underWay home t).count x ≤ (underWay home s).count x + (probes out).count x

theorem underWay_count (s : EchoSystem stack) (x : List UInt8) :
    (underWay home s).count x = (payloads s.socket.tx).count x + (inFlight home s.wire).count x +
      (payloads s.accessPoint.echo.rx).count x + (payloads s.accessPoint.echo.tx).count x +
      (payloads s.socket.rx).count x := by
  simp only [underWay, List.count_append]
  omega

theorem payloads_cons_count (d : Datagram) (ds : List Datagram) (x : List UInt8) :
    (payloads (d :: ds)).count x = [d.payload].count x + (payloads ds).count x := by
  rw [← List.count_append]
  rfl

theorem payloads_snoc_count (ds : List Datagram) (d : Datagram) (x : List UInt8) :
    (payloads (ds ++ [d])).count x = (payloads ds).count x + [d.payload].count x := by
  rw [payloads_append, List.count_append]
  rfl

theorem inFlight_take_count {wire rest : List Packet} {index : Nat} {packet : Packet}
    (taken : Wire.take wire index = some (packet, rest)) (bound : Bound home packet)
    (x : List UInt8) : (inFlight home wire).count x =
      [packet.payload].count x + (inFlight home rest).count x := by
  rw [(inFlight_take taken bound).count_eq, ← List.count_append]
  rfl

/-- The echo service queues at most what it took. -/
theorem echoed_count {ap ap' : AccessPoint} {accepts : Bool} {out : List Softap.Effect}
    (h : Softap.Echoed ap accepts (ap', out)) (x : List UInt8) :
    (payloads ap'.echo.rx).count x + (payloads ap'.echo.tx).count x ≤
      (payloads ap.echo.rx).count x + (payloads ap.echo.tx).count x := by
  cases h with
  | idle => exact le_rfl
  | truncated datagram rx next | refused datagram rx next =>
    rw [next, payloads_cons_count]
    dsimp only
    omega
  | returned datagram rx next =>
    rw [next, payloads_cons_count]
    dsimp only
    rw [payloads_snoc_count]
    omega

/-- A call of the access point's loop that shifts datagrams between its echo socket and the
network. -/
theorem serve_conserves {s t : EchoSystem stack} {wire : List Packet} {call : AccessPoint.Input}
    {out : List Effect} (h : { s with wire := wire }.serve codec call = some (t, out))
    (shifts : ∀ ap calls, Softap.accessPoint codec s.accessPoint call = some (ap, calls) → ∀ x,
      (inFlight home wire).count x + (payloads ap.echo.rx).count x +
        (payloads ap.echo.tx).count x ≤ (inFlight home s.wire).count x +
        (payloads s.accessPoint.echo.rx).count x + (payloads s.accessPoint.echo.tx).count x) :
    Conserves home s t out := by
  obtain ⟨ap, calls, served, rfl, rfl⟩ := serve_cases h
  intro x
  have := shifts ap calls served x
  rw [underWay_count, underWay_count]
  dsimp only
  omega

theorem station_conserves (s : EchoSystem stack) (station : LocalProbe stack)
    (input : Connectivity.Input stack) (out : List Connectivity.Effect) :
    Conserves home s { s with station := station, socket := socketAfter s.socket input out }
      (out.map .inl) := by
  intro x
  have queued : (payloads (s.socket.tx ++ queuedBy out)).count x =
      (payloads s.socket.tx).count x + (probes (out.map .inl)).count x := by
    rw [payloads_append, List.count_append, probes_inl]
    rfl
  have read : (payloads (socketAfter s.socket input out).rx).count x ≤
      (payloads s.socket.rx).count x := by
    unfold socketAfter
    split
    · exact ((List.tail_sublist _).map _).count_le x
    · exact le_rfl
  rw [underWay_count, underWay_count]
  dsimp only [socketAfter] at read ⊢
  omega

/-- The step of a network that neither copies nor forges. -/
theorem step_conserves {s t : EchoSystem stack} {input : EchoSystem.Input stack}
    {out : List Effect} (h : echoSystem codec home s input = some (t, out))
    (undisturbed : Undisturbed home (.system input)) : Conserves home s t out := by
  cases input with
  | station input =>
    simp only [echoSystem, Option.ite_none_right_eq_some, Option.map_eq_some_iff] at h
    obtain ⟨-, ⟨station, out⟩, -, same⟩ := h
    obtain ⟨rfl, rfl⟩ := Prod.mk.inj same
    exact station_conserves s station input out
  | stationTransmit source =>
    simp only [echoSystem] at h
    split at h
    · rename_i datagram tx next
      rw [Option.ite_none_right_eq_some] at h
      obtain ⟨own, same⟩ := h
      cases same
      intro x
      have := inFlight_cons_count home
        ⟨source, datagram.endpoint, datagram.payload⟩ s.wire x
      rw [underWay_count, underWay_count, next, payloads_cons_count]
      dsimp only at this ⊢
      omega
    · cases h
  | stationDeliver index =>
    simp only [echoSystem] at h
    split at h
    · rename_i packet rest taken
      rw [Option.ite_none_right_eq_some] at h
      obtain ⟨own, same⟩ := h
      cases same
      intro x
      have := inFlight_take_count taken (.inr own) x
      rw [underWay_count, underWay_count, payloads_snoc_count]
      dsimp only
      omega
    · cases h
  | serviceDhcp accepts =>
    apply serve_conserves h
    intro ap calls served x
    obtain ⟨same, -⟩ := Softap.service_dhcp_quiet codec s.accessPoint accepts
    rw [Option.some.inj served] at same
    rw [same]
  | serviceEcho accepts =>
    apply serve_conserves h
    intro ap calls served x
    have echoed := Softap.echo_cases s.accessPoint accepts
    rw [Option.some.inj served] at echoed
    have := echoed_count echoed x
    omega
  | dhcpTraffic traffic =>
    apply serve_conserves h
    intro ap calls served x
    obtain ⟨rfl, rfl⟩ := answer_parts served
    simp [UdpSocket.poll, UdpTraffic.quiet]
  | echoTransmit =>
    simp only [echoSystem] at h
    split at h
    · rename_i datagram tx next
      apply serve_conserves h
      intro ap calls served x
      obtain ⟨rfl, rfl⟩ := answer_parts served
      have := inFlight_cons_count home
        ⟨echoEndpoint, datagram.endpoint, datagram.payload⟩ s.wire x
      simp only [UdpSocket.poll, List.append_nil, next, List.drop_one, List.tail_cons,
        payloads_cons_count]
      dsimp only at this
      omega
    · cases h
  | echoDeliver index =>
    simp only [echoSystem] at h
    split at h
    · rename_i packet rest taken
      rw [Option.ite_none_right_eq_some] at h
      obtain ⟨there, h⟩ := h
      apply serve_conserves h
      intro ap calls served x
      obtain ⟨rfl, rfl⟩ := answer_parts served
      have bound : Bound home packet := .inl there
      have := inFlight_take_count taken bound x
      simp only [UdpSocket.poll, List.drop_zero, payloads_snoc_count]
      omega
    · cases h
  | lose index =>
    cases h
    intro x
    have := (inFlight_lose home s.wire index).count_le x
    rw [underWay_count, underWay_count]
    dsimp only
    omega
  | duplicate index => exact undisturbed.elim
  | other packet =>
    simp only [echoSystem, Option.ite_none_left_eq_some] at h
    obtain ⟨-, same⟩ := h
    cases same
    intro x
    rw [underWay_count, underWay_count]
    dsimp only
    rw [inFlight_cons_other undisturbed]
    exact Nat.le_add_right _ _

/-- What the system behind the two buffers can do. -/
inductive Buffered (codec : Softap.DhcpWire) (home : Ipv4Address → Bool) (s : EchoSystem stack) :
    BufferedInput stack → EchoSystem stack → List Effect → Prop
  | system (input : EchoSystem.Input stack) (t : EchoSystem stack) (out : List Effect)
      (moved : echoSystem codec home s input = some (t, out)) :
      Buffered codec home s (.system input) t out
  | stationDiscard (index : Nat) (packet : Packet) (rest : List Packet)
      (taken : Wire.take s.wire index = some (packet, rest))
      (own : AtStation home packet.destination)
      (full : dnsRx.full s.socket.rx packet.payload = true) :
      Buffered codec home s (.stationDiscard index) { s with wire := rest } []
  | echoDiscard (index : Nat) (packet : Packet) (rest : List Packet)
      (taken : Wire.take s.wire index = some (packet, rest))
      (there : packet.destination = echoEndpoint)
      (full : echoRx.full s.accessPoint.echo.rx packet.payload = true) :
      Buffered codec home s (.echoDiscard index) { s with wire := rest } []

theorem buffered_cases {s t : EchoSystem stack} {input : BufferedInput stack} {out : List Effect}
    (h : bufferedSystem codec home s input = some (t, out)) :
    Buffered codec home s input t out := by
  cases input with
  | system input => exact .system input t out h
  | stationDiscard index =>
    simp only [bufferedSystem] at h
    split at h
    · rename_i packet rest taken
      rw [Option.ite_none_right_eq_some] at h
      obtain ⟨⟨own, full⟩, same⟩ := h
      cases same
      exact .stationDiscard index packet rest taken own full
    · cases h
  | echoDiscard index =>
    simp only [bufferedSystem] at h
    split at h
    · rename_i packet rest taken
      rw [Option.ite_none_right_eq_some] at h
      obtain ⟨⟨there, full⟩, same⟩ := h
      cases same
      exact .echoDiscard index packet rest taken there full
    · cases h

/-- A discard loses a packet. -/
theorem buffered_conserves {s t : EchoSystem stack} {input : BufferedInput stack}
    {out : List Effect} (h : bufferedSystem codec home s input = some (t, out))
    (undisturbed : Undisturbed home input) : Conserves home s t out := by
  have less {index : Nat} {packet : Packet} {rest : List Packet}
      (taken : Wire.take s.wire index = some (packet, rest)) (bound : Bound home packet) :
      Conserves home s { s with wire := rest } [] := by
    intro x
    have := inFlight_take_count taken bound x
    rw [underWay_count, underWay_count]
    dsimp only
    omega
  cases buffered_cases h with
  | system input t out moved => exact step_conserves moved undisturbed
  | stationDiscard index packet rest taken own => exact less taken (.inr own)
  | echoDiscard index packet rest taken there => exact less taken (.inl there)

theorem queuedBy_writes {out : List Connectivity.Effect} (writes : ∀ e ∈ out, ∀ payload remote ok,
    e ≠ .send payload remote ok) : queuedBy out = [] := by
  apply List.filterMap_eq_nil_iff.mpr
  intro e he
  cases e with
  | send payload remote ok => exact absurd rfl (writes _ he payload remote ok)
  | write | resetDhcp => rfl

theorem pollNetwork_queuedBy {traffic : stack.Traffic} {event : Option DhcpEvent}
    {net net' : Connectivity.Net stack} {out : List Connectivity.Effect}
    (h : Connectivity.pollNetwork traffic event net = some (net', out)) : queuedBy out = [] := by
  cases Connectivity.pollNetwork_cases h with
  | quiet | configured => rfl
  | deconfigured => cases net.lease <;> rfl

theorem waitPollInterval_queuedBy {event : Option Connectivity.WifiEvent}
    {exit : Option Connectivity.NetworkExit} {out : List Connectivity.Effect}
    (h : Connectivity.waitPollInterval event = (exit, out)) : queuedBy out = [] := by
  apply queuedBy_writes
  rintro e he payload remote ok rfl
  obtain ⟨line, same⟩ := Connectivity.waitPollInterval_writes h _ he
  cases same

/-- Each probe the socket takes is counted, and has one byte. -/
theorem probe_counted {s t : LocalProbe stack} {input : Connectivity.Input stack}
    {out : List Connectivity.Effect} (h : localNeighborProbe s input = some (t, out))
    (sending : ∀ current, s.point = .send current → s.sent < localProbeAttempts) :
    t.sent = s.sent + (queuedBy out).length ∧ ∀ d ∈ queuedBy out, d.payload.length = 1 := by
  have still {u : LocalProbe stack} {calls : List Connectivity.Effect} (same : u.sent = s.sent)
      (none : queuedBy calls = []) :
      u.sent = s.sent + (queuedBy calls).length ∧ ∀ d ∈ queuedBy calls, d.payload.length = 1 := by
    rw [none, same]
    exact ⟨rfl, nofun⟩
  cases LocalProbe.step_cases h with
  | start | enter | finish | pollPanic | drained => exact still rfl rfl
  | poll at_point traffic event net out polled => exact still rfl (pollNetwork_queuedBy polled)
  | exit at_point event exit out waited | resume at_point event out waited =>
    exact still rfl (waitPollInterval_queuedBy waited)
  | receive at_point response =>
    unfold LocalProbe.receive
    repeat' split
    all_goals exact still rfl rfl
  | pace at_point ticks =>
    rw [LocalProbe.announce_same]
    apply still rfl
    unfold LocalProbe.announce
    split <;> rfl
  | send current at_point ok =>
    cases ok with
    | false => exact still rfl rfl
    | true =>
      refine ⟨Word.saturatingAdd_of_le (Nat.le_trans (sending current at_point) (by decide)), ?_⟩
      intro d hd
      obtain rfl := List.mem_singleton.mp hd
      rfl

theorem probes_inr (out : List Softap.Effect) : probes (out.map .inr) = [] := by
  simp [probes, queuedBy, List.filterMap_map]

/-- Only the station's own steps send probes. -/
theorem station_cases {s t : EchoSystem stack} {input : BufferedInput stack} {out : List Effect}
    (h : bufferedSystem codec home s input = some (t, out)) :
    (∃ asked calls, localNeighborProbe s.station asked = some (t.station, calls) ∧
      out = calls.map .inl) ∨ t.station = s.station ∧ probes out = [] := by
  cases buffered_cases h with
  | system input t out moved =>
    cases step_cases moved with
    | station asked station calls agrees probed => exact .inl ⟨asked, calls, probed, rfl⟩
    | stationTransmit | stationDeliver | lose | duplicate | other => exact .inr ⟨rfl, rfl⟩
    | serviceDhcp | serviceEcho | dhcpTraffic | echoTransmit | echoDeliver =>
      exact .inr ⟨rfl, probes_inr _⟩
  | stationDiscard | echoDiscard => exact .inr ⟨rfl, rfl⟩

/-- What holds after a history with the effects `out`: whatever is under way is one of the
probes, and the probes are those the station has counted. -/
structure Conserved (net : Connectivity.Net stack) (home : Ipv4Address → Bool)
    (out : List Effect) (s : EchoSystem stack) : Prop where
  probing : ∃ ns, Run localNeighborProbe (.begin net serverAddress) ns s.station
  counted : s.station.sent = (probes out).length
  single : ∀ payload ∈ probes out, payload.length = 1
  conserved : ∀ x, (underWay home s).count x ≤ (probes out).count x

theorem step_conserved {net : Connectivity.Net stack} {out more : List Effect}
    {s t : EchoSystem stack} {input : BufferedInput stack} (sound : Conserved net home out s)
    (h : bufferedSystem codec home s input = some (t, more))
    (undisturbed : Undisturbed home input) : Conserved net home (out ++ more) t := by
  have kept := buffered_conserves h undisturbed
  have conserved : ∀ x, (underWay home t).count x ≤ (probes (out ++ more)).count x := by
    intro x
    have := kept x
    have := sound.conserved x
    rw [probes_append, List.count_append]
    omega
  obtain ⟨ns, run⟩ := sound.probing
  rcases station_cases h with ⟨asked, calls, probed, rfl⟩ | ⟨same, quiet⟩
  · obtain ⟨counted, single⟩ := probe_counted probed (LocalProbe.run_sound run).sending
    refine ⟨⟨_, run.next probed⟩, ?_, ?_, conserved⟩
    · rw [counted, sound.counted, probes_append, List.length_append, probes_inl, List.length_map]
    · intro payload sent
      rw [probes_append, probes_inl] at sent
      rcases List.mem_append.mp sent with sent | sent
      · exact sound.single payload sent
      · obtain ⟨d, hd, rfl⟩ := List.mem_map.mp sent
        exact single d hd
  · refine ⟨⟨ns, same ▸ run⟩, ?_, ?_, conserved⟩
    · rw [same, sound.counted, probes_append, quiet, List.append_nil]
    · rw [probes_append, quiet, List.append_nil]
      exact sound.single

/-- At most as many datagrams are under way as probes are allowed, and each has one byte. -/
theorem Conserved.few {net : Connectivity.Net stack} {out : List Effect} {s : EchoSystem stack}
    (sound : Conserved net home out s) :
    (underWay home s).length ≤ localProbeAttempts ∧
      ∀ payload ∈ underWay home s, payload.length = 1 := by
  have some : (underWay home s).Subperm (probes out) :=
    List.subperm_ext_iff.mpr fun x _ => sound.conserved x
  obtain ⟨ns, run⟩ := sound.probing
  constructor
  · calc (underWay home s).length ≤ (probes out).length := some.length_le
      _ = s.station.sent := sound.counted.symm
      _ ≤ localProbeAttempts := (LocalProbe.run_sound run).sent
  · intro payload here
    exact sound.single payload (some.subset here)

theorem underWay_length (s : EchoSystem stack) :
    (underWay home s).length = s.socket.tx.length + (inFlight home s.wire).length +
      s.accessPoint.echo.rx.length + s.accessPoint.echo.tx.length + s.socket.rx.length := by
  simp only [underWay, payloads, List.length_append, List.length_map]
  omega

theorem Conserved.single_rx {net : Connectivity.Net stack} {out : List Effect}
    {s : EchoSystem stack} (sound : Conserved net home out s) :
    (∀ d ∈ s.accessPoint.echo.rx, d.payload.length = 1) ∧
      ∀ d ∈ s.socket.rx, d.payload.length = 1 := by
  obtain ⟨-, single⟩ := sound.few
  constructor
  · intro d hd
    apply single
    simp only [underWay, List.mem_append]
    exact .inr (.inr (.inl (List.mem_map_of_mem hd)))
  · intro d hd
    apply single
    simp only [underWay, List.mem_append]
    exact .inr (.inr (.inr (.inr (List.mem_map_of_mem hd))))

/-- A datagram in flight takes the place of one that could be unread. -/
theorem Conserved.bound {net : Connectivity.Net stack} {out : List Effect} {s : EchoSystem stack}
    (sound : Conserved net home out s) {index : Nat} {packet : Packet} {rest : List Packet}
    (taken : Wire.take s.wire index = some (packet, rest)) (bound : Bound home packet) :
    packet.payload.length = 1 ∧ s.accessPoint.echo.rx.length < localProbeAttempts ∧
      s.socket.rx.length < localProbeAttempts := by
  obtain ⟨few, single⟩ := sound.few
  have moved := inFlight_take taken bound
  have flying : packet.payload ∈ inFlight home s.wire :=
    moved.symm.subset List.mem_cons_self
  have one : (inFlight home s.wire).length = (inFlight home rest).length + 1 := moved.length_eq
  rw [underWay_length] at few
  refine ⟨?_, by omega, by omega⟩
  apply single
  simp only [underWay, List.mem_append]
  exact .inr (.inl flying)

/-- No socket is ever too full for what reaches it. -/
theorem Conserved.not_discards {net : Connectivity.Net stack} {out more : List Effect}
    {s t : EchoSystem stack} {input : BufferedInput stack} (sound : Conserved net home out s)
    (h : bufferedSystem codec home s input = some (t, more)) : input.discards = false := by
  obtain ⟨echo, station⟩ := sound.single_rx
  cases buffered_cases h with
  | system => rfl
  | stationDiscard index packet rest taken own full =>
    obtain ⟨one, -, unread⟩ := sound.bound taken (.inr own)
    have room : dnsRx.full s.socket.rx packet.payload = false :=
      PacketBuffer.not_full_of_lt station one unread (Nat.lt_of_lt_of_le unread (by decide))
    exact absurd (room.symm.trans full) nofun
  | echoDiscard index packet rest taken there full =>
    have bound : Bound home packet := .inl there
    obtain ⟨one, unread, -⟩ := sound.bound taken bound
    have room : echoRx.full s.accessPoint.echo.rx packet.payload = false :=
      PacketBuffer.not_full_of_lt echo one (Nat.lt_of_lt_of_le unread (by decide))
        (Nat.lt_of_lt_of_le unread (by decide))
    exact absurd (room.symm.trans full) nofun

theorem begin_conserved (net : Connectivity.Net stack) (dhcp : UdpSocket) {wire : List Packet}
    (empty : ∀ packet ∈ wire, ¬ Bound home packet) :
    Conserved net home [] (.begin net ⟨[], []⟩ dhcp ⟨[], []⟩ wire) := by
  have none : inFlight home wire = [] := by
    apply List.filterMap_eq_nil_iff.mpr
    intro packet there
    exact if_neg (empty packet there)
  refine ⟨⟨[], .start⟩, rfl, nofun, ?_⟩
  intro x
  rw [underWay_count]
  dsimp only [EchoSystem.begin]
  rw [none]
  exact le_rfl

/-- Over a network that makes no copies and carries nothing else to the two sockets, neither
buffer is ever exceeded and neither side ever discards a datagram for lack of room, however
the two sides and the network take turns. -/
theorem echo_probe_never_overflows (codec : Softap.DhcpWire) (home : Ipv4Address → Bool)
    (net : Connectivity.Net stack) (dhcp : UdpSocket) (wire : List Packet)
    (empty : ∀ packet ∈ wire, ¬ Bound home packet)
    (ms : List (Move (EchoSystem stack) (BufferedInput stack) Effect)) (s : EchoSystem stack)
    (run : Run (bufferedSystem codec home) (.begin net ⟨[], []⟩ dhcp ⟨[], []⟩ wire) ms s)
    (undisturbed : ∀ input ∈ inputs ms, Undisturbed home input) :
    echoRx.Holds s.accessPoint.echo.rx ∧ dnsRx.Holds s.socket.rx ∧
      ∀ input ∈ inputs ms, input.discards = false := by
  obtain ⟨sound, kept⟩ : Conserved net home (effects ms) s ∧
      ∀ input ∈ inputs ms, input.discards = false := by
    refine run.history (P := fun ms s => (∀ input ∈ inputs ms, Undisturbed home input) →
      Conserved net home (effects ms) s ∧ ∀ input ∈ inputs ms, input.discards = false) ?_ ?_
      undisturbed
    · intro _
      exact ⟨begin_conserved net dhcp empty, nofun⟩
    · intro ms u input v out _ ih h undisturbed
      simp only [inputs_append, inputs_singleton, List.forall_mem_append,
        List.forall_mem_singleton] at undisturbed ⊢
      obtain ⟨sound, kept⟩ := ih undisturbed.1
      rw [effects_append, effects_singleton]
      exact ⟨step_conserved sound h undisturbed.2, kept, sound.not_discards h⟩
  obtain ⟨echo, station⟩ := sound.single_rx
  obtain ⟨few, -⟩ := sound.few
  rw [underWay_length] at few
  have attempts : localProbeAttempts = 10 := rfl
  refine ⟨PacketBuffer.holds_of_le echo ?_ ?_, PacketBuffer.holds_of_le station ?_ ?_, kept⟩
  · show _ ≤ 16
    omega
  · show _ ≤ 512
    omega
  · show _ ≤ localProbeAttempts
    omega
  · show _ ≤ 128
    omega

end

/-- Two probes reach the access point together, and their echoes the station, the second
first, before either side reads. -/
def burstScript : List (BufferedInput plainStack) :=
  [.station (.clock 0), .station (.clock 0), .station (.poll () none), .station (.recv none),
    .station (.clock 0), .station (.sendSlice true), .station (.nextEvent none),
    .stationTransmit ⟨Softap.clientAddress, dnsLocalPort⟩, .station (.clock 12000000),
    .station (.poll () none), .station (.recv none), .station (.clock 12000000),
    .station (.sendSlice true), .stationTransmit ⟨Softap.clientAddress, dnsLocalPort⟩,
    .echoDeliver 0, .echoDeliver 0, .serviceEcho true, .serviceEcho true, .echoTransmit,
    .echoTransmit, .stationDeliver 1, .stationDeliver 0].map .system

theorem echo_probe_never_overflows_burst :
    ∃ ms s, Run (bufferedSystem Softap.rfcWire leased)
        (.begin Connectivity.plainNet ⟨[], []⟩ ⟨[], []⟩ ⟨[], []⟩ []) ms s ∧
      s.socket.rx = [⟨[1], echoEndpoint⟩, ⟨[0], echoEndpoint⟩] ∧ dnsRx.Holds s.socket.rx ∧
      ∀ input ∈ inputs ms, input.discards = false := by
  have run : Run (bufferedSystem Softap.rfcWire leased)
      (.begin Connectivity.plainNet ⟨[], []⟩ ⟨[], []⟩ ⟨[], []⟩ []) _ _ :=
    exec_run burstScript rfl
  have undisturbed : ∀ input ∈ burstScript, Undisturbed leased input := by
    simp [burstScript, Undisturbed]
  obtain ⟨-, holds, kept⟩ :=
    echo_probe_never_overflows Softap.rfcWire leased _ _ []
      (fun _ there => absurd there List.not_mem_nil) _ _ run undisturbed
  exact ⟨_, _, run, by decide, holds, kept⟩

end Ws63Examples.TwoBoard
