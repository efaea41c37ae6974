import Ws63Examples.Softap.Dhcp

/-! Where a DHCP reply goes, what its flag says, and where it is counted. -/

namespace Ws63Examples.Softap

open Execution Word

namespace NetworkDiagnostics

/-- One more reply to every station, and none to a single one. -/
structure CountsBroadcast (before after : NetworkDiagnostics) : Prop where
  up : after.dhcpReplyBroadcast = saturatingAdd u32Max before.dhcpReplyBroadcast 1
  same : after.dhcpReplyUnicast = before.dhcpReplyUnicast

/-- One more reply to a single station, and none to every one. -/
structure CountsUnicast (before after : NetworkDiagnostics) : Prop where
  up : after.dhcpReplyUnicast = saturatingAdd u32Max before.dhcpReplyUnicast 1
  same : after.dhcpReplyBroadcast = before.dhcpReplyBroadcast

end NetworkDiagnostics

open NetworkDiagnostics

/-- The flag of a reply, its destination and its counter say the same. -/
def FlagAgrees (wire : DhcpWire) (request : DhcpRequest) (reply : Datagram)
    (before after : NetworkDiagnostics) : Prop :=
  ∃ parsed, wire.parse reply.payload = some parsed ∧
    (parsed.broadcast = true ↔
      reply.endpoint.addr = broadcastAddress ∧ CountsBroadcast before after) ∧
    (parsed.broadcast = false →
      reply.endpoint.addr = request.clientIp ∧ CountsUnicast before after)

section
variable {wire : DhcpWire}

/-- A request that is answered leaves the counters of the replies alone. -/
theorem replyType_replies {messageType answer : DhcpMessageType} {d d' : NetworkDiagnostics}
    (h : replyType messageType d = some (answer, d')) :
    d'.dhcpReplyBroadcast = d.dhcpReplyBroadcast ∧ d'.dhcpReplyUnicast = d.dhcpReplyUnicast := by
  rcases replyType_cases h with ⟨-, -, rfl⟩ | ⟨-, -, rfl⟩ <;> exact ⟨rfl, rfl⟩

theorem countReply_broadcast (d : NetworkDiagnostics) (id : UInt32) :
    CountsBroadcast d (d.countReply broadcastAddress id) := by
  unfold NetworkDiagnostics.countReply
  rw [if_pos rfl]
  exact ⟨rfl, rfl⟩

theorem countReply_unicast (d : NetworkDiagnostics) {address : Ipv4Address}
    (one : address ≠ broadcastAddress) (id : UInt32) :
    CountsUnicast d (d.countReply address id) := by
  unfold NetworkDiagnostics.countReply
  rw [if_neg one]
  exact ⟨rfl, rfl⟩

namespace Answers

variable {request : DhcpRequest} {messageType : DhcpMessageType} {reply : Datagram}

theorem to_all (answers : Answers wire request messageType reply) (all : request.toAll = true) :
    reply.endpoint.addr = broadcastAddress := by
  rw [answers.endpoint, if_pos all]

theorem to_one (answers : Answers wire request messageType reply) (one : request.toAll = false) :
    reply.endpoint.addr = request.clientIp := by
  rw [answers.endpoint, if_neg (Bool.eq_false_iff.mp one)]

/-- The flag is the expression that chose the destination. -/
theorem flag (answers : Answers wire request messageType reply) :
    ∃ parsed, wire.parse reply.payload = some parsed ∧ parsed.broadcast = request.toAll := by
  obtain ⟨parsed, read, tells⟩ := answers.tells
  exact ⟨parsed, read, tells.broadcast⟩

/-- The counter goes by the address, so the flag agrees with it unless the
client's own address is the one of every station. -/
theorem flag_agrees_iff (answers : Answers wire request messageType reply)
    (d : NetworkDiagnostics) :
    FlagAgrees wire request reply d (d.countReply reply.endpoint.addr request.transactionId) ↔
      request.toAll = true ∨ request.clientIp ≠ broadcastAddress := by
  obtain ⟨parsed, read, flag⟩ := answers.flag
  constructor
  · rintro ⟨parsed', read', agrees, -⟩
    obtain rfl : parsed = parsed' := Option.some.inj (read.symm.trans read')
    by_cases all : request.toAll = true
    · exact .inl all
    · right
      intro limited
      have sent := (answers.to_one (Bool.eq_false_iff.mpr all)).trans limited
      rw [flag, sent] at agrees
      exact all (agrees.mpr ⟨rfl, countReply_broadcast d _⟩)
  · intro apart
    refine ⟨parsed, read, ?_⟩
    rw [flag]
    cases all : request.toAll with
    | true =>
      have sent := answers.to_all all
      rw [sent]
      exact ⟨⟨fun _ => ⟨rfl, countReply_broadcast d _⟩, fun _ => rfl⟩, nofun⟩
    | false =>
      have one : request.clientIp ≠ broadcastAddress := by
        rcases apart with all' | one
        · exact absurd (all.symm.trans all') nofun
        · exact one
      have sent := answers.to_one all
      rw [sent]
      exact ⟨⟨nofun, fun counted => absurd counted.1 one⟩,
        fun _ => ⟨rfl, countReply_unicast d one _⟩⟩

end Answers

/-- An unspecified client address is not the broadcast address. -/
theorem DhcpRequest.toAll_or (request : DhcpRequest) :
    (request.toAll = true ∨ request.clientIp ≠ broadcastAddress) ↔
      (request.broadcast = true ∨ request.clientIp ≠ broadcastAddress) := by
  have apart : Ipv4Address.unspecified ≠ broadcastAddress := by decide
  unfold DhcpRequest.toAll
  rw [Bool.or_eq_true, beq_iff_eq]
  constructor
  · rintro ((all | nowhere) | one)
    · exact .inl all
    · exact .inr (nowhere ▸ apart)
    · exact .inr one
  · rintro (all | one)
    · exact .inl (.inl all)
    · exact .inr one

theorem FlagAgrees.congr {request : DhcpRequest} {reply : Datagram}
    {before before' after : NetworkDiagnostics}
    (same : before'.dhcpReplyBroadcast = before.dhcpReplyBroadcast ∧
      before'.dhcpReplyUnicast = before.dhcpReplyUnicast) :
    FlagAgrees wire request reply before' after ↔ FlagAgrees wire request reply before after := by
  have all : CountsBroadcast before' after ↔ CountsBroadcast before after :=
    ⟨fun h => ⟨same.1 ▸ h.up, same.2 ▸ h.same⟩, fun h => ⟨same.1 ▸ h.up, same.2 ▸ h.same⟩⟩
  have one : CountsUnicast before' after ↔ CountsUnicast before after :=
    ⟨fun h => ⟨same.2 ▸ h.up, same.1 ▸ h.same⟩, fun h => ⟨same.2 ▸ h.up, same.1 ▸ h.same⟩⟩
  unfold FlagAgrees
  rw [all, one]

end

/-- In every state, a call that answers takes one request, and the flag of the
reply agrees with its destination and its counter exactly when the request asks
for a broadcast or does not carry the broadcast address as its client's. -/
theorem dhcp_reply_flag_agrees_iff (wire : DhcpWire) (law : wire.Lawful) (s : AccessPoint)
    (accepts : Bool) (reply : Datagram)
    (answered : reply ∈ sends .dhcp true (serviceDhcp wire s accepts).2) :
    ∃ datagram request, received .dhcp (serviceDhcp wire s accepts).2 = [datagram] ∧
      parseDhcpRequest wire datagram.payload = some request ∧
      (FlagAgrees wire request reply s.diagnostics (serviceDhcp wire s accepts).1.diagnostics ↔
        request.broadcast = true ∨ request.clientIp ≠ broadcastAddress) := by
  have serviced := service_cases law s accepts
  generalize serviceDhcp wire s accepts = result at serviced answered
  cases serviced with
  | idle | invalid | ignored | refused => exact absurd answered List.not_mem_nil
  | answered datagram rx request messageType diagnostics queued next parsed asked answers =>
    obtain rfl : reply = queued := List.mem_singleton.mp answered
    refine ⟨datagram, request, rfl, parsed, ?_⟩
    rw [← FlagAgrees.congr (replyType_replies asked), answers.flag_agrees_iff,
      request.toAll_or]

/-- A request of the client `clientIp` that does not ask for a broadcast. -/
def renewal (clientIp : Ipv4Address) : DhcpRequest where
  messageType := .request
  transactionId := 5
  secs := 0
  clientHardwareAddress := ⟨2, 0, 0, 0, 0, 1⟩
  clientIp := clientIp
  broadcast := false

def renewalRequest (clientIp : Ipv4Address) : Datagram where
  payload := messageOf { (renewal clientIp).replyRepr .request with
    clientIp := clientIp
    yourIp := .unspecified
    serverIp := .unspecified
    subnetMask := none
    broadcast := false }
  endpoint := ⟨clientAddress, dhcpClientPort⟩

def renewalReply (clientIp : Ipv4Address) : Datagram where
  payload := messageOf ((renewal clientIp).replyRepr .ack)
  endpoint := ⟨clientIp, dhcpClientPort⟩

/-- The access point with that request waiting. -/
def waiting (clientIp : Ipv4Address) : AccessPoint :=
  .begin ⟨[renewalRequest clientIp], []⟩ ⟨[], []⟩

theorem dhcp_reply_flag_agrees_iff_renewed :
    FlagAgrees rfcWire (renewal clientAddress) (renewalReply clientAddress) .init
      (serviceDhcp rfcWire (waiting clientAddress) true).1.diagnostics := by
  have answered : renewalReply clientAddress ∈
      sends .dhcp true (serviceDhcp rfcWire (waiting clientAddress) true).2 := by
    decide +kernel
  have heard : received .dhcp (serviceDhcp rfcWire (waiting clientAddress) true).2 =
      [renewalRequest clientAddress] := by
    decide +kernel
  have understood : parseDhcpRequest rfcWire (renewalRequest clientAddress).payload =
      some (renewal clientAddress) := by
    decide +kernel
  obtain ⟨datagram, request, taken, parsed, agrees⟩ :=
    dhcp_reply_flag_agrees_iff rfcWire rfcWire_lawful (waiting clientAddress) true _ answered
  obtain rfl := List.singleton_inj.mp (taken.symm.trans heard)
  obtain rfl := Option.some.inj (parsed.symm.trans understood)
  exact agrees.mpr (.inr (by decide))

/-- A request whose client address is the broadcast address, with the broadcast
bit clear: the reply goes to every station and is counted so, and its flag is
clear. -/
theorem dhcp_reply_flag_clear :
    parseDhcpRequest rfcWire (renewalRequest broadcastAddress).payload =
        some (renewal broadcastAddress) ∧
      sends .dhcp true (serviceDhcp rfcWire (waiting broadcastAddress) true).2 =
        [renewalReply broadcastAddress] ∧
      (serviceDhcp rfcWire (waiting broadcastAddress) true).1.diagnostics.dhcpReplyBroadcast = 1 ∧
      (rfcWire.parse (renewalReply broadcastAddress).payload).map DhcpRepr.broadcast =
        some false ∧
      ¬ FlagAgrees rfcWire (renewal broadcastAddress) (renewalReply broadcastAddress) .init
        (serviceDhcp rfcWire (waiting broadcastAddress) true).1.diagnostics := by
  have clear : (rfcWire.parse (renewalReply broadcastAddress).payload).map DhcpRepr.broadcast =
      some false := by
    decide +kernel
  have counted : CountsBroadcast .init
      (serviceDhcp rfcWire (waiting broadcastAddress) true).1.diagnostics := by
    constructor <;> decide +kernel
  refine ⟨by decide +kernel, by decide +kernel, counted.up, clear, ?_⟩
  rintro ⟨parsed, read, agrees, -⟩
  have set := agrees.mpr ⟨rfl, counted⟩
  rw [read, Option.map_some, set] at clear
  cases clear

end Ws63Examples.Softap
