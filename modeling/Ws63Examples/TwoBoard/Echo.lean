import Ws63Examples.Connectivity.LocalProbe
import Ws63Examples.Lib.Wire
import Ws63Examples.Softap.Echo

/-!
# The echo probe between two boards

One run of the station's local probe, the access point's services, and the
network between them, which may deliver any packet in flight at any time.
-/

namespace Ws63Examples.TwoBoard

open Bits Execution Word
open Connectivity (LocalProbe localNeighborProbe localProbeAttempts)
open Softap (AccessPoint accessPoint serverAddress udpEchoPort)

/-- The port of the socket the station shares between its probes. -/
def dnsLocalPort : UInt16 := 49153

/-- Where the station sends its probes. -/
def echoEndpoint : IpEndpoint := ⟨serverAddress, udpEchoPort⟩

structure Packet where
  source : IpEndpoint
  destination : IpEndpoint
  payload : List UInt8
  deriving DecidableEq, Repr

structure EchoSystem (stack : Smoltcp) where
  station : LocalProbe stack
  socket : UdpSocket
  accessPoint : AccessPoint
  wire : List Packet

/-- What happens next, anywhere in the system. An interface poll is as many
transmissions and deliveries as it moves datagrams. -/
inductive EchoSystem.Input (stack : Smoltcp) where
  | station (input : Connectivity.Input stack)
  | stationTransmit (source : IpEndpoint)
  | stationDeliver (index : Nat)
  | serviceDhcp (accepts : Bool)
  | serviceEcho (accepts : Bool)
  | dhcpTraffic (traffic : UdpTraffic)
  | echoTransmit
  | echoDeliver (index : Nat)
  | lose (index : Nat)
  | duplicate (index : Nat)
  /-- Traffic between other endpoints, or to one of these two. -/
  | other (packet : Packet)

abbrev Effect := Connectivity.Effect ⊕ Softap.Effect

/-- The datagrams a socket took from the station, in order. -/
def queuedBy (out : List Connectivity.Effect) : List Datagram :=
  out.filterMap fun
    | .send payload remote true => some ⟨payload, remote⟩
    | _ => none

/-- An endpoint of the station, which may hold any of the addresses `home`. -/
def AtStation (home : Ipv4Address → Bool) (endpoint : IpEndpoint) : Prop :=
  home endpoint.addr = true ∧ endpoint.port = dnsLocalPort

instance (home : Ipv4Address → Bool) (endpoint : IpEndpoint) :
    Decidable (AtStation home endpoint) := inferInstanceAs (Decidable (_ ∧ _))

/-- The ports tell the two boards apart, whatever their addresses. -/
theorem echoEndpoint_foreign (home : Ipv4Address → Bool) : ¬ AtStation home echoEndpoint := by
  rintro ⟨-, port⟩
  cases port

section
variable {stack : Smoltcp}

/-- Whether the station's socket can give this answer now. -/
def Agrees (socket : UdpSocket) : Connectivity.Input stack → Bool
  | .recv datagram => socket.rx.head? == datagram
  | _ => true

/-- The station's socket after one step of the probe. -/
def socketAfter (socket : UdpSocket) (input : Connectivity.Input stack)
    (out : List Connectivity.Effect) : UdpSocket where
  rx := match input with
    | .recv _ => socket.rx.tail
    | _ => socket.rx
  tx := socket.tx ++ queuedBy out

/-- One call of the access point's service loop. -/
def EchoSystem.serve (codec : Softap.DhcpWire) (s : EchoSystem stack)
    (call : AccessPoint.Input) : Option (EchoSystem stack × List Effect) :=
  (Softap.accessPoint codec s.accessPoint call).map fun (ap, out) =>
    ({ s with accessPoint := ap }, out.map .inr)

def echoSystem (codec : Softap.DhcpWire) (home : Ipv4Address → Bool) (s : EchoSystem stack) :
    EchoSystem.Input stack → Option (EchoSystem stack × List Effect)
  | .station input =>
    if Agrees s.socket input then
      (localNeighborProbe s.station input).map fun (station, out) =>
        ({ s with station := station, socket := socketAfter s.socket input out }, out.map .inl)
    else none
  | .stationTransmit source =>
    match s.socket.tx with
    | datagram :: tx =>
      if AtStation home source then
        some ({ s with
          socket := { s.socket with tx := tx }
          wire := ⟨source, datagram.endpoint, datagram.payload⟩ :: s.wire }, [])
      else none
    | [] => none
  | .stationDeliver index =>
    match Wire.take s.wire index with
    | some (packet, rest) =>
      if AtStation home packet.destination then
        some ({ s with
          socket := { s.socket with rx := s.socket.rx ++ [⟨packet.payload, packet.source⟩] }
          wire := rest }, [])
      else none
    | none => none
  | .serviceDhcp accepts => s.serve codec (.serviceDhcp accepts)
  | .serviceEcho accepts => s.serve codec (.serviceEcho accepts)
  | .dhcpTraffic traffic => s.serve codec (.poll traffic .quiet)
  | .echoTransmit =>
    match s.accessPoint.echo.tx with
    | datagram :: _ =>
      { s with wire := ⟨echoEndpoint, datagram.endpoint, datagram.payload⟩ :: s.wire }.serve codec
        (.poll .quiet ⟨[], 1⟩)
    | [] => none
  | .echoDeliver index =>
    match Wire.take s.wire index with
    | some (packet, rest) =>
      if packet.destination = echoEndpoint then
        { s with wire := rest }.serve codec
          (.poll .quiet ⟨[⟨packet.payload, packet.source⟩], 0⟩)
      else none
    | none => none
  | .lose index => some ({ s with wire := Wire.lose s.wire index }, [])
  | .duplicate index => some ({ s with wire := Wire.duplicate s.wire index }, [])
  | .other packet =>
    if AtStation home packet.source ∨ packet.source = echoEndpoint then none
    else some ({ s with wire := packet :: s.wire }, [])

/-- What a step can do. -/
inductive Step (codec : Softap.DhcpWire) (home : Ipv4Address → Bool) (s : EchoSystem stack) :
    EchoSystem stack → List Effect → Prop
  | station (input : Connectivity.Input stack) (station : LocalProbe stack)
      (out : List Connectivity.Effect) (agrees : Agrees s.socket input = true)
      (probed : localNeighborProbe s.station input = some (station, out)) :
      Step codec home s
        { s with station := station, socket := socketAfter s.socket input out } (out.map .inl)
  | stationTransmit (source : IpEndpoint) (datagram : Datagram) (tx : List Datagram)
      (next : s.socket.tx = datagram :: tx) (own : AtStation home source) :
      Step codec home s { s with
        socket := { s.socket with tx := tx }
        wire := ⟨source, datagram.endpoint, datagram.payload⟩ :: s.wire } []
  | stationDeliver (index : Nat) (packet : Packet) (rest : List Packet)
      (taken : Wire.take s.wire index = some (packet, rest))
      (own : AtStation home packet.destination) :
      Step codec home s { s with
        socket := { s.socket with rx := s.socket.rx ++ [⟨packet.payload, packet.source⟩] }
        wire := rest } []
  | serviceDhcp (accepts : Bool) (ap : AccessPoint) (out : List Softap.Effect)
      (served : accessPoint codec s.accessPoint (.serviceDhcp accepts) = some (ap, out)) :
      Step codec home s { s with accessPoint := ap } (out.map .inr)
  | serviceEcho (accepts : Bool) (ap : AccessPoint) (out : List Softap.Effect)
      (served : accessPoint codec s.accessPoint (.serviceEcho accepts) = some (ap, out)) :
      Step codec home s { s with accessPoint := ap } (out.map .inr)
  | dhcpTraffic (traffic : UdpTraffic) (ap : AccessPoint) (out : List Softap.Effect)
      (served : accessPoint codec s.accessPoint (.poll traffic .quiet) = some (ap, out)) :
      Step codec home s { s with accessPoint := ap } (out.map .inr)
  | echoTransmit (datagram : Datagram) (tx : List Datagram) (ap : AccessPoint)
      (out : List Softap.Effect) (next : s.accessPoint.echo.tx = datagram :: tx)
      (served : accessPoint codec s.accessPoint (.poll .quiet ⟨[], 1⟩) = some (ap, out)) :
      Step codec home s { s with
        accessPoint := ap
        wire := ⟨echoEndpoint, datagram.endpoint, datagram.payload⟩ :: s.wire } (out.map .inr)
  | echoDeliver (index : Nat) (packet : Packet) (rest : List Packet) (ap : AccessPoint)
      (out : List Softap.Effect) (taken : Wire.take s.wire index = some (packet, rest))
      (there : packet.destination = echoEndpoint)
      (served : accessPoint codec s.accessPoint
        (.poll .quiet ⟨[⟨packet.payload, packet.source⟩], 0⟩) = some (ap, out)) :
      Step codec home s { s with accessPoint := ap, wire := rest } (out.map .inr)
  | lose (index : Nat) : Step codec home s { s with wire := Wire.lose s.wire index } []
  | duplicate (index : Nat) : Step codec home s { s with wire := Wire.duplicate s.wire index } []
  | other (packet : Packet)
      (foreign : ¬ (AtStation home packet.source ∨ packet.source = echoEndpoint)) :
      Step codec home s { s with wire := packet :: s.wire } []

theorem serve_cases {codec : Softap.DhcpWire} {s t : EchoSystem stack} {call : AccessPoint.Input}
    {out : List Effect} (h : s.serve codec call = some (t, out)) :
    ∃ ap calls, accessPoint codec s.accessPoint call = some (ap, calls) ∧
      t = { s with accessPoint := ap } ∧ out = calls.map .inr := by
  obtain ⟨⟨ap, calls⟩, served, same⟩ := Option.map_eq_some_iff.mp h
  obtain ⟨rfl, rfl⟩ := Prod.mk.inj same
  exact ⟨ap, calls, served, rfl, rfl⟩

theorem step_cases {codec : Softap.DhcpWire} {home : Ipv4Address → Bool} {s t : EchoSystem stack}
    {input : EchoSystem.Input stack} {out : List Effect}
    (h : echoSystem codec home s input = some (t, out)) : Step codec home s t out := by
  cases input with
  | station input =>
    simp only [echoSystem, Option.ite_none_right_eq_some, Option.map_eq_some_iff] at h
    obtain ⟨agrees, ⟨station, out⟩, probed, same⟩ := h
    obtain ⟨rfl, rfl⟩ := Prod.mk.inj same
    exact .station input station out agrees probed
  | stationTransmit source =>
    simp only [echoSystem] at h
    split at h
    · rename_i datagram tx next
      rw [Option.ite_none_right_eq_some] at h
      obtain ⟨own, same⟩ := h
      cases same
      exact .stationTransmit source datagram tx next own
    · cases h
  | stationDeliver index =>
    simp only [echoSystem] at h
    split at h
    · rename_i packet rest taken
      rw [Option.ite_none_right_eq_some] at h
      obtain ⟨own, same⟩ := h
      cases same
      exact .stationDeliver index packet rest taken own
    · cases h
  | serviceDhcp accepts =>
    obtain ⟨ap, calls, served, rfl, rfl⟩ := serve_cases h
    exact .serviceDhcp accepts ap calls served
  | serviceEcho accepts =>
    obtain ⟨ap, calls, served, rfl, rfl⟩ := serve_cases h
    exact .serviceEcho accepts ap calls served
  | dhcpTraffic traffic =>
    obtain ⟨ap, calls, served, rfl, rfl⟩ := serve_cases h
    exact .dhcpTraffic traffic ap calls served
  | echoTransmit =>
    simp only [echoSystem] at h
    split at h
    · rename_i datagram tx next
      obtain ⟨ap, calls, served, rfl, rfl⟩ := serve_cases h
      exact .echoTransmit datagram tx ap calls next served
    · cases h
  | echoDeliver index =>
    simp only [echoSystem] at h
    split at h
    · rename_i packet rest taken
      rw [Option.ite_none_right_eq_some] at h
      obtain ⟨there, h⟩ := h
      obtain ⟨ap, calls, served, rfl, rfl⟩ := serve_cases h
      exact .echoDeliver index packet rest ap calls taken there served
    · cases h
  | lose index =>
    cases h
    exact .lose index
  | duplicate index =>
    cases h
    exact .duplicate index
  | other packet =>
    simp only [echoSystem, Option.ite_none_left_eq_some] at h
    obtain ⟨foreign, same⟩ := h
    cases same
    exact .other packet foreign

end

/-- The payloads of the probes the station's socket took, in order. -/
def probes (out : List Effect) : List (List UInt8) :=
  (queuedBy (out.filterMap Sum.getLeft?)).map Datagram.payload

def callsOf (out : List Effect) : List Softap.Effect := out.filterMap Sum.getRight?

/-- The datagrams the access point's echo socket took back, in order. -/
def echoes (out : List Effect) : List Datagram := Softap.sends .echo true (callsOf out)

/-- A payload this run sent, and the access point returned to the station. -/
def Returned (home : Ipv4Address → Bool) (out : List Effect) (payload : List UInt8) : Prop :=
  payload ∈ probes out ∧ ∃ endpoint, AtStation home endpoint ∧ ⟨payload, endpoint⟩ ∈ echoes out

section
variable (out more : List Effect)

theorem probes_append : probes (out ++ more) = probes out ++ probes more := by
  simp only [probes, queuedBy, List.filterMap_append, List.map_append]

theorem callsOf_nil : callsOf [] = [] := rfl

theorem callsOf_append : callsOf (out ++ more) = callsOf out ++ callsOf more :=
  List.filterMap_append

theorem echoes_append : echoes (out ++ more) = echoes out ++ echoes more := by
  simp only [echoes, callsOf_append, Softap.sends_append]

theorem callsOf_inl (out : List Connectivity.Effect) : callsOf (out.map .inl) = [] := by
  simp [callsOf, List.filterMap_map]

theorem callsOf_inr (out : List Softap.Effect) : callsOf (out.map .inr) = out := by
  simp [callsOf, List.filterMap_map, Function.comp_def]

theorem echoes_inr (out : List Softap.Effect) :
    echoes (out.map .inr) = Softap.sends .echo true out := by
  rw [echoes, callsOf_inr]

theorem probes_inl (out : List Connectivity.Effect) :
    probes (out.map .inl) = (queuedBy out).map Datagram.payload := by
  simp [probes, List.filterMap_map, Function.comp_def]

variable {out}

theorem Returned.later {home : Ipv4Address → Bool} {payload : List UInt8}
    (h : Returned home out payload) : Returned home (out ++ more) payload := by
  obtain ⟨sent, endpoint, own, returned⟩ := h
  rw [Returned, probes_append, echoes_append]
  exact ⟨List.mem_append_left _ sent, endpoint, own, List.mem_append_left _ returned⟩

end

section
variable {stack : Smoltcp} {codec : Softap.DhcpWire} {home : Ipv4Address → Bool}

/-- Every probe on its way to the access point is one of `asked`, and every
echo on its way back one of `answered`. -/
structure Genuine (home : Ipv4Address → Bool) (asked answered : List UInt8 → Prop)
    (s : EchoSystem stack) : Prop where
  leaving : ∀ d ∈ s.socket.tx, d.endpoint = echoEndpoint → asked d.payload
  toEcho : ∀ p ∈ s.wire, AtStation home p.source → p.destination = echoEndpoint → asked p.payload
  arrived : ∀ d ∈ s.accessPoint.echo.rx, AtStation home d.endpoint → asked d.payload
  returning : ∀ d ∈ s.accessPoint.echo.tx, AtStation home d.endpoint → answered d.payload
  toStation : ∀ p ∈ s.wire, p.source = echoEndpoint → AtStation home p.destination →
    answered p.payload
  waiting : ∀ d ∈ s.socket.rx, d.endpoint = echoEndpoint → answered d.payload

theorem Genuine.mono {asked asked' answered answered' : List UInt8 → Prop} {s : EchoSystem stack}
    (genuine : Genuine home asked answered s) (more_asked : ∀ payload, asked payload → asked' payload)
    (more_answered : ∀ payload, answered payload → answered' payload) :
    Genuine home asked' answered' s where
  leaving := fun d hd there => more_asked _ (genuine.leaving d hd there)
  toEcho := fun p hp own there => more_asked _ (genuine.toEcho p hp own there)
  arrived := fun d hd own => more_asked _ (genuine.arrived d hd own)
  returning := fun d hd own => more_answered _ (genuine.returning d hd own)
  toStation := fun p hp back own => more_answered _ (genuine.toStation p hp back own)
  waiting := fun d hd back => more_answered _ (genuine.waiting d hd back)

/-- Packets may leave the network. -/
theorem Genuine.fewer {asked answered : List UInt8 → Prop} {s : EchoSystem stack}
    (genuine : Genuine home asked answered s) {wire : List Packet} (sub : wire ⊆ s.wire) :
    Genuine home asked answered { s with wire := wire } :=
  { genuine with
    toEcho := fun p hp => genuine.toEcho p (sub hp)
    toStation := fun p hp => genuine.toStation p (sub hp) }

/-- A packet from one of the two boards that is as it should be. -/
theorem Genuine.emit {asked answered : List UInt8 → Prop} {s : EchoSystem stack}
    (genuine : Genuine home asked answered s) (packet : Packet)
    (toEcho : AtStation home packet.source → packet.destination = echoEndpoint →
      asked packet.payload)
    (toStation : packet.source = echoEndpoint → AtStation home packet.destination →
      answered packet.payload) :
    Genuine home asked answered { s with wire := packet :: s.wire } :=
  { genuine with
    toEcho := by
      intro p hp
      rcases List.mem_cons.mp hp with rfl | hp
      · exact toEcho
      · exact genuine.toEcho p hp
    toStation := by
      intro p hp
      rcases List.mem_cons.mp hp with rfl | hp
      · exact toStation
      · exact genuine.toStation p hp }

/-- The access point may lose datagrams of its echo socket. -/
theorem Genuine.shrink {asked answered : List UInt8 → Prop} {s : EchoSystem stack}
    (genuine : Genuine home asked answered s) {ap : AccessPoint}
    (rx : ap.echo.rx ⊆ s.accessPoint.echo.rx) (tx : ap.echo.tx ⊆ s.accessPoint.echo.tx) :
    Genuine home asked answered { s with accessPoint := ap } :=
  { genuine with
    arrived := fun d hd => genuine.arrived d (rx hd)
    returning := fun d hd => genuine.returning d (tx hd) }

theorem poll_rx (socket : UdpSocket) (transmitted : Nat) :
    (socket.poll ⟨[], transmitted⟩).rx ⊆ socket.rx := by
  simp [UdpSocket.poll]

theorem socketAfter_rx (socket : UdpSocket) (input : Connectivity.Input stack)
    (out : List Connectivity.Effect) : (socketAfter socket input out).rx ⊆ socket.rx := by
  unfold socketAfter
  split
  · exact List.tail_subset _
  · exact List.Subset.refl _

/-- The echo service returns what it received and nothing else. -/
theorem Genuine.serveEcho {out : List Effect} {s : EchoSystem stack} {accepts : Bool}
    {ap : AccessPoint} {calls : List Softap.Effect}
    (genuine : Genuine home (· ∈ probes out) (Returned home out) s)
    (served : Softap.Echoed s.accessPoint accepts (ap, calls)) :
    Genuine home (· ∈ probes out) (Returned home (out ++ calls.map .inr))
      { s with accessPoint := ap } := by
  have later := genuine.mono (fun _ => id) fun _ => Returned.later (calls.map .inr)
  cases served with
  | idle => exact later
  | truncated datagram rx next | refused datagram rx next =>
    exact later.shrink (next ▸ List.subset_cons_self _ _) (List.Subset.refl _)
  | returned datagram rx next =>
    refine { later with arrived := ?_, returning := ?_ }
    · intro d hd
      exact later.arrived d (next ▸ List.mem_cons_of_mem _ hd)
    · intro d hd own
      rcases List.mem_append.mp hd with hd | hd
      · exact later.returning d hd own
      · obtain rfl := List.mem_singleton.mp hd
        have sent : d.payload ∈ probes out :=
          genuine.arrived d (next ▸ List.mem_cons_self) own
        rw [Returned, probes_append, echoes_append, echoes_inr]
        exact ⟨List.mem_append_left _ sent, d.endpoint, own,
          List.mem_append_right _ List.mem_cons_self⟩

/-- Every step keeps the datagrams in flight genuine. -/
theorem step_genuine {out more : List Effect} {s t : EchoSystem stack}
    (h : Step codec home s t more)
    (genuine : Genuine home (· ∈ probes out) (Returned home out) s) :
    Genuine home (· ∈ probes (out ++ more)) (Returned home (out ++ more)) t := by
  have grows : ∀ payload ∈ probes out, payload ∈ probes (out ++ more) := by
    intro payload sent
    rw [probes_append]
    exact List.mem_append_left _ sent
  have later := genuine.mono grows fun _ => Returned.later more
  cases h with
  | station input station calls agrees probed =>
    refine { later with leaving := ?_, waiting := ?_ }
    · intro d hd there
      rcases List.mem_append.mp hd with hd | hd
      · exact later.leaving d hd there
      · rw [probes_append, probes_inl]
        exact List.mem_append_right _ (List.mem_map_of_mem hd)
    · intro d hd
      exact later.waiting d (socketAfter_rx _ _ _ hd)
  | stationTransmit source datagram tx next own =>
    have sent := later.emit ⟨source, datagram.endpoint, datagram.payload⟩
      (fun _ => later.leaving datagram (next ▸ List.mem_cons_self))
      fun back => absurd (back ▸ own) (echoEndpoint_foreign home)
    refine { sent with leaving := ?_ }
    intro d hd
    exact later.leaving d (next ▸ List.mem_cons_of_mem _ hd)
  | stationDeliver index packet rest taken own =>
    obtain ⟨there, sub⟩ := Wire.take_mem taken
    refine { later.fewer sub with waiting := ?_ }
    intro d hd back
    rcases List.mem_append.mp hd with hd | hd
    · exact later.waiting d hd back
    · obtain rfl := List.mem_singleton.mp hd
      exact later.toStation packet there back own
  | serviceDhcp accepts ap calls served =>
    obtain ⟨same, -⟩ := Softap.service_dhcp_quiet codec s.accessPoint accepts
    rw [Option.some.inj served] at same
    exact later.shrink (same ▸ List.Subset.refl _) (same ▸ List.Subset.refl _)
  | serviceEcho accepts ap calls served =>
    have echoed := Softap.echo_cases s.accessPoint accepts
    rw [Option.some.inj served] at echoed
    exact (genuine.serveEcho echoed).mono grows fun _ => id
  | dhcpTraffic traffic ap calls served =>
    obtain ⟨rfl, rfl⟩ := answer_parts served
    exact later.shrink (poll_rx _ _) (List.drop_subset _ _)
  | echoTransmit datagram tx ap calls next served =>
    obtain ⟨rfl, rfl⟩ := answer_parts served
    have sent := later.emit ⟨echoEndpoint, datagram.endpoint, datagram.payload⟩
      (fun own => absurd own (echoEndpoint_foreign home))
      fun _ => later.returning datagram (next ▸ List.mem_cons_self)
    exact sent.shrink (poll_rx _ _) (List.drop_subset _ _)
  | echoDeliver index packet rest ap calls taken there served =>
    obtain ⟨rfl, rfl⟩ := answer_parts served
    obtain ⟨flying, sub⟩ := Wire.take_mem taken
    refine { later.fewer sub with arrived := ?_, returning := ?_ }
    · intro d hd own
      rcases List.mem_append.mp hd with hd | hd
      · exact later.arrived d hd own
      · obtain rfl := List.mem_singleton.mp hd
        exact later.toEcho packet flying own there
    · exact later.returning
  | lose index => exact later.fewer (Wire.lose_subset _ _)
  | duplicate index => exact later.fewer (Wire.duplicate_subset _ _)
  | other packet foreign =>
    exact later.emit packet (fun own => absurd (.inl own) foreign)
      fun back => absurd (.inr back) foreign

/-- The access point counts every datagram it returns, whoever sent it. -/
theorem step_tallied {out more : List Effect} {s t : EchoSystem stack}
    (h : Step codec home s t more)
    (tallied : Softap.EchoTallied (callsOf out) s.accessPoint.diagnostics) :
    Softap.EchoTallied (callsOf (out ++ more)) t.accessPoint.diagnostics := by
  rw [callsOf_append]
  cases h with
  | station input station calls =>
    rw [callsOf_inl, List.append_nil]
    exact tallied
  | stationTransmit | stationDeliver | lose | duplicate | other =>
    rw [callsOf_nil, List.append_nil]
    exact tallied
  | serviceDhcp _ ap calls served | serviceEcho _ ap calls served | dhcpTraffic _ ap calls served
  | echoTransmit _ _ ap calls _ served | echoDeliver _ _ _ ap calls _ _ served =>
    rw [callsOf_inr]
    exact Softap.step_echo_tallied served tallied

/-- The station's part is a run of its probe that hears from the access point
only what was returned to it. -/
def Probed (net : Connectivity.Net stack) (home : Ipv4Address → Bool) (out : List Effect)
    (station : LocalProbe stack) : Prop :=
  ∃ ns, Run localNeighborProbe (.begin net serverAddress) ns station ∧
    ∀ n ∈ ns, ∀ d, n.input = .recv (some d) → d.endpoint = echoEndpoint →
      Returned home out d.payload

theorem Probed.later {net : Connectivity.Net stack} {out : List Effect}
    {station : LocalProbe stack} (probed : Probed net home out station) (more : List Effect) :
    Probed net home (out ++ more) station := by
  obtain ⟨ns, run, hears⟩ := probed
  exact ⟨ns, run, fun n hn d received back => (hears n hn d received back).later more⟩

theorem step_probed {net : Connectivity.Net stack} {out more : List Effect}
    {s t : EchoSystem stack} (h : Step codec home s t more)
    (genuine : Genuine home (· ∈ probes out) (Returned home out) s)
    (probed : Probed net home out s.station) : Probed net home (out ++ more) t.station := by
  cases h with
  | station input station calls agrees step =>
    obtain ⟨ns, run, hears⟩ := probed
    refine ⟨_, run.next step, ?_⟩
    intro n hn d received back
    rcases List.mem_append.mp hn with hn | hn
    · exact (hears n hn d received back).later _
    · obtain rfl := List.mem_singleton.mp hn
      obtain rfl : input = .recv (some d) := received
      have first : s.socket.rx.head? = some d := beq_iff_eq.mp agrees
      exact (genuine.waiting d (List.mem_of_head? first) back).later _
  | _ => exact probed.later _

/-- What holds after a history with the effects `out`. -/
structure Sound (net : Connectivity.Net stack) (home : Ipv4Address → Bool) (out : List Effect)
    (s : EchoSystem stack) : Prop where
  genuine : Genuine home (· ∈ probes out) (Returned home out) s
  tallied : Softap.EchoTallied (callsOf out) s.accessPoint.diagnostics
  probed : Probed net home out s.station

def EchoSystem.begin (net : Connectivity.Net stack) (socket dhcp echo : UdpSocket)
    (wire : List Packet) : EchoSystem stack where
  station := .begin net serverAddress
  socket := socket
  accessPoint := .begin dhcp echo
  wire := wire

/-- No datagram of an earlier session is on its way between the two boards. -/
def Fresh (home : Ipv4Address → Bool) (s : EchoSystem stack) : Prop :=
  Genuine home (fun _ => False) (fun _ => False) s

theorem run_sound {net : Connectivity.Net stack} {socket dhcp echo : UdpSocket}
    {wire : List Packet} (fresh : Fresh home (.begin net socket dhcp echo wire))
    {ms : List (Move (EchoSystem stack) (EchoSystem.Input stack) Effect)} {s : EchoSystem stack}
    (run : Run (echoSystem codec home) (.begin net socket dhcp echo wire) ms s) :
    Sound net home (effects ms) s := by
  apply run.history (P := fun ms s => Sound net home (effects ms) s)
  · refine ⟨fresh.mono (fun _ => False.elim) (fun _ => False.elim), Softap.begin_echo_tallied, ?_⟩
    refine ⟨[], .start, ?_⟩
    intro n hn
    exact absurd hn List.not_mem_nil
  · intro ms u input v out _ sound h
    have step := step_cases h
    rw [effects_append, effects_singleton]
    exact ⟨step_genuine step sound.genuine, step_tallied step sound.tallied,
      step_probed step sound.genuine sound.probed⟩

/-- A sequence heard by the station was sent and returned. -/
theorem Probed.returned {net : Connectivity.Net stack} {out : List Effect}
    {station : LocalProbe stack} (probed : Probed net home out station) {i : Nat}
    (set : i ∈ bitSet station.receivedSequences) : Returned home out [.ofNat i] := by
  obtain ⟨ns, run, hears⟩ := probed
  obtain ⟨n, hn, sequence, received, rfl, -⟩ := ((LocalProbe.run_sound run).heard i).mp set
  rw [UInt8.ofNat_toNat]
  exact hears n hn _ received rfl

/-- Distinct sequences take distinct echoes. -/
theorem card_le_echoes {out : List Effect} (mask : BitVec 16)
    (returned : ∀ i ∈ bitSet mask, Returned home out [.ofNat i]) :
    (bitSet mask).card ≤ (echoes out).length := by
  have each : ∀ i ∈ bitSet mask,
      [UInt8.ofNat i] ∈ ((echoes out).map Datagram.payload).toFinset := by
    intro i set
    obtain ⟨-, endpoint, -, echoed⟩ := returned i set
    exact List.mem_toFinset.mpr (List.mem_map_of_mem echoed)
  have distinct : Set.InjOn (fun i => [UInt8.ofNat i]) (bitSet mask : Set Nat) := by
    intro i hi j hj same
    have narrow_i := BitVec.lt_of_getLsbD ((mem_bitSet mask i).mp hi)
    have narrow_j := BitVec.lt_of_getLsbD ((mem_bitSet mask j).mp hj)
    have bytes := congrArg UInt8.toNat (List.singleton_inj.mp same)
    rwa [UInt8.toNat_ofNat_of_lt' (Nat.lt_trans narrow_i (by decide)),
      UInt8.toNat_ofNat_of_lt' (Nat.lt_trans narrow_j (by decide))] at bytes
  calc (bitSet mask).card ≤ ((echoes out).map Datagram.payload).toFinset.card :=
        Finset.card_le_card_of_injOn _ each distinct
    _ ≤ ((echoes out).map Datagram.payload).length := List.toFinset_card_le _
    _ = (echoes out).length := List.length_map _

/-- At every point of every run, each sequence the station has heard was sent
by this run and returned by the access point, and the counters of the two
boards agree on how many there can be. -/
theorem echo_probe_agrees (codec : Softap.DhcpWire) (home : Ipv4Address → Bool)
    (net : Connectivity.Net stack) (socket dhcp echo : UdpSocket) (wire : List Packet)
    (fresh : Fresh home (.begin net socket dhcp echo wire))
    (ms : List (Move (EchoSystem stack) (EchoSystem.Input stack) Effect)) (s : EchoSystem stack)
    (run : Run (echoSystem codec home) (.begin net socket dhcp echo wire) ms s) :
    (∀ i, s.station.receivedSequences.getLsbD i = true → Returned home (effects ms) [.ofNat i]) ∧
    s.station.replies = (bitSet s.station.receivedSequences).card ∧
    s.station.replies ≤ s.station.sent ∧ s.station.sent ≤ localProbeAttempts ∧
    s.accessPoint.diagnostics.echoTx = min (echoes (effects ms)).length u32Max ∧
    s.station.replies ≤ s.accessPoint.diagnostics.echoTx ∧
    s.accessPoint.diagnostics.echoTx ≤ s.accessPoint.diagnostics.echoRx ∧
    (s.station.point = .returned (.ok true) →
      ∃ sequence, Returned home (effects ms) [sequence]) := by
  obtain ⟨-, tallied, probed⟩ := run_sound fresh run
  have returned : ∀ i ∈ bitSet s.station.receivedSequences,
      Returned home (effects ms) [.ofNat i] := fun i set => probed.returned set
  obtain ⟨ns, alone, -⟩ := probed
  have sound := LocalProbe.run_sound alone
  have few := card_le_echoes _ returned
  refine ⟨?_, sound.replies, sound.replies_le, sound.sent, tallied.tx, ?_, ?_, ?_⟩
  · intro i set
    exact returned i ((mem_bitSet _ i).mpr set)
  · have limit : s.station.replies ≤ u32Max :=
      Nat.le_trans sound.replies_le (Nat.le_trans sound.sent (by decide))
    rw [tallied.tx]
    exact Nat.le_min.mpr ⟨sound.replies ▸ few, limit⟩
  · rw [tallied.tx, tallied.rx]
    have := tallied.attempts
    exact Nat.le_min.mpr ⟨Nat.le_trans (Nat.min_le_left _ _) this, Nat.min_le_right _ _⟩
  · intro verdict
    have heard := of_decide_eq_true (sound.result true verdict).symm
    rw [sound.replies] at heard
    obtain ⟨i, set⟩ := Finset.card_pos.mp heard
    exact ⟨_, returned i set⟩

end

/-- The station's only address. -/
def leased (address : Ipv4Address) : Bool := address = Softap.clientAddress

/-- One probe is duplicated on its way, echoed twice, and one of the two echoes
is lost on the way back. -/
def duplicatedScript : List (EchoSystem.Input plainStack) :=
  [.station (.clock 0), .station (.clock 0), .station (.poll () none), .station (.recv none),
    .station (.clock 0), .station (.sendSlice true), .station (.nextEvent none),
    .stationTransmit ⟨Softap.clientAddress, dnsLocalPort⟩, .duplicate 0, .echoDeliver 1,
    .echoDeliver 0, .serviceEcho true, .serviceEcho true, .echoTransmit, .echoTransmit, .lose 0,
    .stationDeliver 0, .station (.clock 240000), .station (.poll () none),
    .station (.recv (some ⟨[0], echoEndpoint⟩)), .station (.recv none),
    .station (.clock 240000), .station (.nextEvent none), .station (.clock 288000000)]

theorem echo_probe_agrees_duplicated :
    ∃ ms s, Run (echoSystem Softap.rfcWire leased)
        (.begin Connectivity.plainNet ⟨[], []⟩ ⟨[], []⟩ ⟨[], []⟩ []) ms s ∧
      s.station.point = .returned (.ok true) ∧ s.accessPoint.diagnostics.echoTx = 2 ∧
      s.station.replies ≤ s.station.sent ∧ s.station.replies ≤ 2 ∧
      ∃ sequence, Returned leased (effects ms) [sequence] := by
  have run : Run (echoSystem Softap.rfcWire leased)
      (.begin Connectivity.plainNet ⟨[], []⟩ ⟨[], []⟩ ⟨[], []⟩ []) _ _ :=
    exec_run duplicatedScript rfl
  have fresh : Fresh leased (.begin Connectivity.plainNet ⟨[], []⟩ ⟨[], []⟩ ⟨[], []⟩ []) :=
    ⟨nofun, nofun, nofun, nofun, nofun, nofun⟩
  obtain ⟨-, -, heard, -, -, returned, -, verdict⟩ :=
    echo_probe_agrees Softap.rfcWire leased _ _ _ _ _ fresh _ _ run
  exact ⟨_, _, run, rfl, rfl, heard, returned, verdict rfl⟩

end Ws63Examples.TwoBoard
