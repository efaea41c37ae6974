import Ws63Examples.Softap.Network

/-! What the DHCP service answers, and what its counters count. -/

namespace Ws63Examples.Softap

open Execution Word

section
variable {wire : DhcpWire}

theorem DhcpRequest.replyRepr_plain {messageType : DhcpMessageType} (request : DhcpRequest)
    (known : ∀ value, messageType ≠ .unknown value) : (request.replyRepr messageType).Plain :=
  ⟨known, rfl, rfl, rfl⟩

/-- A reply of a known type always fits the buffer and reads back. -/
theorem emitDhcpReply_spec (law : wire.Lawful) (request : DhcpRequest)
    {messageType : DhcpMessageType} (known : ∀ value, messageType ≠ .unknown value) :
    ∃ length payload,
      emitDhcpReply wire request messageType (.replicate 300 0) = some (length, payload) ∧
      wire.newChecked (payload.take length) = true ∧
      ∃ parsed, wire.parse (payload.take length) = some parsed ∧
        parsed.Tells (request.replyRepr messageType) := by
  have plain := request.replyRepr_plain known
  have fits := law.fits _ plain
  have buffer : (List.take (wire.bufferLen (request.replyRepr messageType))
      (.replicate 300 (0 : UInt8))).length = wire.bufferLen (request.replyRepr messageType) := by
    rw [List.length_take, List.length_replicate, Nat.min_eq_left fits]
  obtain ⟨bytes, emitted⟩ := law.emits _ _ plain (Nat.le_of_eq buffer.symm)
  have whole : bytes.length = wire.bufferLen (request.replyRepr messageType) :=
    (law.inPlace _ _ _ emitted).trans buffer
  have written : emitDhcpReply wire request messageType (.replicate 300 0) =
      some (wire.bufferLen (request.replyRepr messageType),
        bytes ++ List.drop (wire.bufferLen (request.replyRepr messageType)) (.replicate 300 0)) := by
    unfold emitDhcpReply
    rw [List.length_replicate, if_neg (Nat.not_lt.mpr fits), emitted]
    rfl
  refine ⟨_, _, written, ?_⟩
  rw [List.take_left' whole]
  exact law.reads _ _ _ plain emitted

/-- `reply` is what a request is answered with. -/
structure Answers (wire : DhcpWire) (request : DhcpRequest) (messageType : DhcpMessageType)
    (reply : Datagram) : Prop where
  wellFormed : wire.newChecked reply.payload = true
  tells : ∃ parsed, wire.parse reply.payload = some parsed ∧
    parsed.Tells (request.replyRepr messageType)
  endpoint : reply.endpoint =
    ⟨if request.toAll then broadcastAddress else request.clientIp, dhcpClientPort⟩

/-- What one call can do. -/
inductive Serviced (wire : DhcpWire) (s : AccessPoint) (accepts : Bool) :
    AccessPoint × List Effect → Prop
  | idle (empty : s.dhcp.rx = []) : Serviced wire s accepts (s, [])
  | invalid (datagram : Datagram) (rx : List Datagram) (next : s.dhcp.rx = datagram :: rx)
      (malformed : parseDhcpRequest wire datagram.payload = none) :
      Serviced wire s accepts ({ s with
        dhcp := { s.dhcp with rx := rx }
        diagnostics := s.diagnostics.countInvalid }, [.recv .dhcp datagram])
  | ignored (datagram : Datagram) (rx : List Datagram) (request : DhcpRequest)
      (next : s.dhcp.rx = datagram :: rx)
      (parsed : parseDhcpRequest wire datagram.payload = some request)
      (other : replyType request.messageType s.diagnostics = none) :
      Serviced wire s accepts ({ s with dhcp := { s.dhcp with rx := rx } },
        [.recv .dhcp datagram])
  | refused (datagram : Datagram) (rx : List Datagram) (request : DhcpRequest)
      (messageType : DhcpMessageType) (diagnostics : NetworkDiagnostics) (reply : Datagram)
      (next : s.dhcp.rx = datagram :: rx)
      (parsed : parseDhcpRequest wire datagram.payload = some request)
      (asked : replyType request.messageType s.diagnostics = some (messageType, diagnostics))
      (full : accepts = false) :
      Serviced wire s accepts ({ s with
        dhcp := { s.dhcp with rx := rx }
        diagnostics := diagnostics }, [.recv .dhcp datagram, .sendSlice .dhcp reply false])
  | answered (datagram : Datagram) (rx : List Datagram) (request : DhcpRequest)
      (messageType : DhcpMessageType) (diagnostics : NetworkDiagnostics) (reply : Datagram)
      (next : s.dhcp.rx = datagram :: rx)
      (parsed : parseDhcpRequest wire datagram.payload = some request)
      (asked : replyType request.messageType s.diagnostics = some (messageType, diagnostics))
      (answers : Answers wire request messageType reply) (room : accepts = true) :
      Serviced wire s accepts ({ s with
        dhcp := ⟨rx, s.dhcp.tx ++ [reply]⟩
        diagnostics := diagnostics.countReply reply.endpoint.addr request.transactionId },
        [.recv .dhcp datagram, .sendSlice .dhcp reply true])

/-- Only two types are answered, each with its own. -/
theorem replyType_cases {messageType answer : DhcpMessageType} {d d' : NetworkDiagnostics}
    (h : replyType messageType d = some (answer, d')) :
    (messageType = .discover ∧ answer = .offer ∧
      d' = { d with dhcpDiscover := saturatingAdd u32Max d.dhcpDiscover 1 }) ∨
    (messageType = .request ∧ answer = .ack ∧
      d' = { d with dhcpRequest := saturatingAdd u32Max d.dhcpRequest 1 }) := by
  cases messageType with
  | discover =>
    left
    cases h
    exact ⟨rfl, rfl, rfl⟩
  | request =>
    right
    cases h
    exact ⟨rfl, rfl, rfl⟩
  | _ => cases h

theorem service_cases (law : wire.Lawful) (s : AccessPoint) (accepts : Bool) :
    Serviced wire s accepts (serviceDhcp wire s accepts) := by
  unfold serviceDhcp UdpSocket.recv
  cases next : s.dhcp.rx with
  | nil => exact .idle next
  | cons datagram rx =>
    cases parsed : parseDhcpRequest wire datagram.payload with
    | none =>
      simp only [parsed]
      exact .invalid datagram rx next parsed
    | some request =>
      cases asked : replyType request.messageType s.diagnostics with
      | none =>
        simp only [parsed, asked]
        exact .ignored datagram rx request next parsed asked
      | some answer =>
        obtain ⟨messageType, diagnostics⟩ := answer
        have known : ∀ value, messageType ≠ .unknown value := by
          rcases replyType_cases asked with ⟨-, rfl, -⟩ | ⟨-, rfl, -⟩ <;> exact nofun
        obtain ⟨length, payload, emitted, wellFormed, tells⟩ :=
          emitDhcpReply_spec law request known
        simp only [parsed, asked, emitted]
        cases accepts with
        | false => exact .refused datagram rx request messageType diagnostics _ next parsed asked rfl
        | true =>
          exact .answered datagram rx request messageType diagnostics _ next parsed asked
            ⟨wellFormed, tells, rfl⟩ rfl

/-- What becomes of a received payload. -/
inductive DhcpKind where
  | invalid
  | discover
  | request
  | other
  deriving DecidableEq, Repr

def DhcpMessageType.kind : DhcpMessageType → DhcpKind
  | discover => .discover
  | request => .request
  | _ => .other

def dhcpKind (wire : DhcpWire) (datagram : Datagram) : DhcpKind :=
  match parseDhcpRequest wire datagram.payload with
  | none => .invalid
  | some request => request.messageType.kind

/-- How many datagrams of one kind the service has received. -/
def kindCount (wire : DhcpWire) (kind : DhcpKind) (out : List Effect) : Nat :=
  (received .dhcp out).countP fun datagram => dhcpKind wire datagram = kind

theorem kindCount_append (kind : DhcpKind) (out out' : List Effect) :
    kindCount wire kind (out ++ out') = kindCount wire kind out + kindCount wire kind out' := by
  simp only [kindCount, received_append, List.countP_append]

/-- Every datagram is of exactly one kind. -/
theorem received_kinds (out : List Effect) :
    (received .dhcp out).length = kindCount wire .invalid out + kindCount wire .discover out +
      kindCount wire .request out + kindCount wire .other out := by
  unfold kindCount
  induction received .dhcp out with
  | nil => rfl
  | cons datagram datagrams ih =>
    simp only [List.length_cons, List.countP_cons, ih]
    cases dhcpKind wire datagram <;> simp <;> omega

/-- Whether a reply goes to every station. -/
def broadcasts (reply : Datagram) : Bool := reply.endpoint.addr = broadcastAddress

/-- The counter of a received kind, one up. -/
def NetworkDiagnostics.count (d : NetworkDiagnostics) : DhcpKind → NetworkDiagnostics
  | .invalid => d.countInvalid
  | .discover => { d with dhcpDiscover := saturatingAdd u32Max d.dhcpDiscover 1 }
  | .request => { d with dhcpRequest := saturatingAdd u32Max d.dhcpRequest 1 }
  | .other => d

theorem kindCount_recv (kind : DhcpKind) (datagram : Datagram) :
    kindCount wire kind [.recv .dhcp datagram] =
      if dhcpKind wire datagram = kind then 1 else 0 := by
  simp only [kindCount, received_recv, received_nil, List.countP_singleton, decide_eq_true_eq]

theorem kindCount_sendSlice (kind : DhcpKind) (reply : Datagram) (ok : Bool) :
    kindCount wire kind [.sendSlice .dhcp reply ok] = 0 := rfl

theorem sends_one_recv (ok : Bool) (datagram : Datagram) :
    sends .dhcp ok [.recv .dhcp datagram] = [] := rfl

theorem replyType_some {messageType answer : DhcpMessageType} {d d' : NetworkDiagnostics}
    (h : replyType messageType d = some (answer, d')) :
    d' = d.count messageType.kind ∧
      (messageType.kind = .discover ∨ messageType.kind = .request) := by
  rcases replyType_cases h with ⟨rfl, -, rfl⟩ | ⟨rfl, -, rfl⟩
  · exact ⟨rfl, .inl rfl⟩
  · exact ⟨rfl, .inr rfl⟩

theorem replyType_none {messageType : DhcpMessageType} {d : NetworkDiagnostics}
    (h : replyType messageType d = none) : messageType.kind = .other := by
  cases messageType with
  | discover | request => cases h
  | _ => rfl

/-- The counters after a history of calls, each clipped at the largest `u32`. -/
structure Tallied (wire : DhcpWire) (out : List Effect) (d : NetworkDiagnostics) : Prop where
  invalid : d.dhcpInvalid = min (kindCount wire .invalid out) u32Max
  discover : d.dhcpDiscover = min (kindCount wire .discover out) u32Max
  request : d.dhcpRequest = min (kindCount wire .request out) u32Max
  reply : d.dhcpReply = min (sends .dhcp true out).length u32Max
  toAll : d.dhcpReplyBroadcast = min ((sends .dhcp true out).countP broadcasts) u32Max
  toOne : d.dhcpReplyUnicast =
    min ((sends .dhcp true out).countP fun reply => !broadcasts reply) u32Max
  last : ∀ reply ∈ (sends .dhcp true out).getLast?,
    ∃ parsed, wire.parse reply.payload = some parsed ∧
      parsed.transactionId = d.dhcpLastTransactionId

theorem begin_tallied : Tallied wire [] .init := by
  constructor
  case last => exact nofun
  all_goals rfl

/-- Calls that do not concern the DHCP socket. -/
theorem Tallied.pass {out more : List Effect} {d d' : NetworkDiagnostics}
    (tallied : Tallied wire out d) (unheard : received .dhcp more = [])
    (unsent : sends .dhcp true more = [])
    (same : d' = { d with echoRx := d'.echoRx, echoTx := d'.echoTx }) :
    Tallied wire (out ++ more) d' := by
  rw [same]
  obtain ⟨invalid, discover, request, reply, toAll, toOne, last⟩ := tallied
  constructor <;>
    simpa only [kindCount, received_append, unheard, sends_append, unsent, List.append_nil]

/-- A datagram received bumps the counter of its kind and no other. -/
theorem Tallied.recv {out : List Effect} {d : NetworkDiagnostics} (tallied : Tallied wire out d)
    (datagram : Datagram) :
    Tallied wire (out ++ [.recv .dhcp datagram]) (d.count (dhcpKind wire datagram)) := by
  have unsent : sends .dhcp true (out ++ [.recv .dhcp datagram]) = sends .dhcp true out := by
    rw [sends_append, sends_one_recv, List.append_nil]
  constructor
  case invalid =>
    rw [kindCount_append, kindCount_recv]
    cases dhcpKind wire datagram <;>
      simp [NetworkDiagnostics.count, NetworkDiagnostics.countInvalid, tallied.invalid,
        saturatingAdd_clipped]
  case discover =>
    rw [kindCount_append, kindCount_recv]
    cases dhcpKind wire datagram <;>
      simp [NetworkDiagnostics.count, NetworkDiagnostics.countInvalid, tallied.discover,
        saturatingAdd_clipped]
  case request =>
    rw [kindCount_append, kindCount_recv]
    cases dhcpKind wire datagram <;>
      simp [NetworkDiagnostics.count, NetworkDiagnostics.countInvalid, tallied.request,
        saturatingAdd_clipped]
  case reply =>
    rw [unsent]
    cases dhcpKind wire datagram <;> exact tallied.reply
  case toAll =>
    rw [unsent]
    cases dhcpKind wire datagram <;> exact tallied.toAll
  case toOne =>
    rw [unsent]
    cases dhcpKind wire datagram <;> exact tallied.toOne
  case last =>
    rw [unsent]
    cases dhcpKind wire datagram <;> exact tallied.last

theorem Tallied.refuse {out : List Effect} {d : NetworkDiagnostics} (tallied : Tallied wire out d)
    (reply : Datagram) : Tallied wire (out ++ [.sendSlice .dhcp reply false]) d :=
  tallied.pass rfl rfl rfl

theorem countReply_same (d : NetworkDiagnostics) (address : Ipv4Address) (id : UInt32) :
    d.countReply address id = { d with
      dhcpReply := saturatingAdd u32Max d.dhcpReply 1
      dhcpReplyBroadcast := (d.countReply address id).dhcpReplyBroadcast
      dhcpReplyUnicast := (d.countReply address id).dhcpReplyUnicast
      dhcpLastTransactionId := id } := by
  unfold NetworkDiagnostics.countReply
  split <;> rfl

theorem Tallied.accept {out : List Effect} {d : NetworkDiagnostics} {request : DhcpRequest}
    {messageType : DhcpMessageType} {reply : Datagram} (tallied : Tallied wire out d)
    (answers : Answers wire request messageType reply) :
    Tallied wire (out ++ [.sendSlice .dhcp reply true])
      (d.countReply reply.endpoint.addr request.transactionId) := by
  have queued : sends .dhcp true (out ++ [.sendSlice .dhcp reply true]) =
      sends .dhcp true out ++ [reply] := sends_append _ _ _ _
  constructor
  case invalid =>
    rw [countReply_same, kindCount_append, kindCount_sendSlice]
    exact tallied.invalid
  case discover =>
    rw [countReply_same, kindCount_append, kindCount_sendSlice]
    exact tallied.discover
  case request =>
    rw [countReply_same, kindCount_append, kindCount_sendSlice]
    exact tallied.request
  case reply =>
    rw [countReply_same, queued, List.length_append, List.length_singleton, tallied.reply,
      saturatingAdd_clipped]
  case toAll =>
    by_cases all : reply.endpoint.addr = broadcastAddress <;>
      simp [NetworkDiagnostics.countReply, queued, broadcasts, all, tallied.toAll,
        saturatingAdd_clipped]
  case toOne =>
    by_cases all : reply.endpoint.addr = broadcastAddress <;>
      simp [NetworkDiagnostics.countReply, queued, broadcasts, all, tallied.toOne,
        saturatingAdd_clipped]
  case last =>
    rw [queued, List.getLast?_append, List.getLast?_singleton, Option.some_or, countReply_same]
    rintro _ ⟨⟩
    obtain ⟨parsed, read, tells⟩ := answers.tells
    exact ⟨parsed, read, tells.transactionId⟩

/-- Every request of an answered type is answered or refused. -/
def Balanced (wire : DhcpWire) (out : List Effect) : Prop :=
  (sends .dhcp true out).length + (sends .dhcp false out).length =
    kindCount wire .discover out + kindCount wire .request out

theorem Balanced.append {out more : List Effect} (balanced : Balanced wire out)
    (kept : Balanced wire more) : Balanced wire (out ++ more) := by
  unfold Balanced at *
  simp only [sends_append, List.length_append, kindCount_append]
  omega

theorem dhcpKind_invalid {datagram : Datagram}
    (malformed : parseDhcpRequest wire datagram.payload = none) :
    dhcpKind wire datagram = .invalid := by
  rw [dhcpKind, malformed]

theorem dhcpKind_parsed {datagram : Datagram} {request : DhcpRequest}
    (parsed : parseDhcpRequest wire datagram.payload = some request) :
    dhcpKind wire datagram = request.messageType.kind := by
  rw [dhcpKind, parsed]

theorem service_tallied {out more : List Effect} {s t : AccessPoint} {accepts : Bool}
    (h : Serviced wire s accepts (t, more)) (tallied : Tallied wire out s.diagnostics) :
    Tallied wire (out ++ more) t.diagnostics := by
  cases h with
  | idle => exact tallied.pass rfl rfl rfl
  | invalid datagram rx next malformed =>
    have counted := tallied.recv datagram
    rwa [dhcpKind_invalid malformed] at counted
  | ignored datagram rx request next parsed other =>
    have counted := tallied.recv datagram
    rwa [dhcpKind_parsed parsed, replyType_none other] at counted
  | refused datagram rx request messageType diagnostics reply next parsed asked =>
    have counted := tallied.recv datagram
    rw [dhcpKind_parsed parsed, ← (replyType_some asked).1] at counted
    rw [List.append_cons]
    exact counted.refuse reply
  | answered datagram rx request messageType diagnostics reply next parsed asked answers =>
    have counted := tallied.recv datagram
    rw [dhcpKind_parsed parsed, ← (replyType_some asked).1] at counted
    rw [List.append_cons]
    exact counted.accept answers

theorem service_balanced {s t : AccessPoint} {out : List Effect} {accepts : Bool}
    (h : Serviced wire s accepts (t, out)) : Balanced wire out := by
  cases h with
  | idle => rfl
  | invalid datagram rx next malformed =>
    unfold Balanced
    rw [kindCount_recv, kindCount_recv, dhcpKind_invalid malformed]
    rfl
  | ignored datagram rx request next parsed other =>
    unfold Balanced
    rw [kindCount_recv, kindCount_recv, dhcpKind_parsed parsed, replyType_none other]
    rfl
  | refused datagram rx request messageType diagnostics reply next parsed asked
  | answered datagram rx request messageType diagnostics reply next parsed asked =>
    have one : kindCount wire .discover [.recv .dhcp datagram] +
        kindCount wire .request [.recv .dhcp datagram] = 1 := by
      rw [kindCount_recv, kindCount_recv, dhcpKind_parsed parsed]
      rcases (replyType_some asked).2 with kind | kind <;> rw [kind] <;> rfl
    exact one.symm

/-- `reply` is the answer to `request`. -/
structure RepliesTo (reply : DhcpRepr) (request : DhcpRequest) : Prop where
  type : request.messageType = .discover ∧ reply.messageType = .offer ∨
    request.messageType = .request ∧ reply.messageType = .ack
  transactionId : reply.transactionId = request.transactionId
  secs : reply.secs = request.secs
  clientHardwareAddress : reply.clientHardwareAddress = request.clientHardwareAddress
  yourIp : reply.yourIp = clientAddress
  serverIdentifier : reply.serverIdentifier = some serverAddress

/-- A move of the access point. -/
abbrev Serving := Move AccessPoint AccessPoint.Input Effect

/-- A call takes at most one datagram off the socket and queues at most one
reply, which answers a request read from that datagram. -/
structure Call (wire : DhcpWire) (before : UdpSocket) (out : List Effect) (after : UdpSocket) :
    Prop where
  taken : before.rx = received .dhcp out ++ after.rx
  queued : after.tx = before.tx ++ sends .dhcp true out
  one_taken : (received .dhcp out).length ≤ 1
  one_queued : (sends .dhcp true out).length ≤ 1
  answers : ∀ reply ∈ sends .dhcp true out, ∃ datagram ∈ received .dhcp out,
    ∃ request parsed, parseDhcpRequest wire datagram.payload = some request ∧
      wire.newChecked reply.payload = true ∧ wire.parse reply.payload = some parsed ∧
      RepliesTo parsed request

theorem Answers.replies {request : DhcpRequest} {messageType : DhcpMessageType}
    {reply : Datagram} {d d' : NetworkDiagnostics} (answers : Answers wire request messageType reply)
    (asked : replyType request.messageType d = some (messageType, d')) :
    ∃ parsed, wire.parse reply.payload = some parsed ∧ RepliesTo parsed request := by
  obtain ⟨parsed, read, tells⟩ := answers.tells
  refine ⟨parsed, read, ?_, tells.transactionId, tells.secs, tells.clientHardwareAddress,
    tells.yourIp, tells.serverIdentifier⟩
  rcases replyType_cases asked with ⟨type, rfl, -⟩ | ⟨type, rfl, -⟩
  · exact .inl ⟨type, tells.messageType⟩
  · exact .inr ⟨type, tells.messageType⟩

theorem service_call {s t : AccessPoint} {out : List Effect} {accepts : Bool}
    (h : Serviced wire s accepts (t, out)) : Call wire s.dhcp out t.dhcp := by
  cases h with
  | idle empty => exact ⟨rfl, (List.append_nil _).symm, Nat.zero_le _, Nat.zero_le _, nofun⟩
  | invalid datagram rx next | ignored datagram rx request next =>
    exact ⟨next, (List.append_nil _).symm, le_rfl, Nat.zero_le _, nofun⟩
  | refused datagram rx request messageType diagnostics reply next =>
    exact ⟨next, (List.append_nil _).symm, le_rfl, Nat.zero_le _, nofun⟩
  | answered datagram rx request messageType diagnostics reply next parsed asked answers =>
    refine ⟨next, rfl, le_rfl, le_rfl, ?_⟩
    intro other queued
    obtain rfl : other = reply := List.mem_singleton.mp queued
    obtain ⟨message, read, replies⟩ := answers.replies asked
    exact ⟨datagram, List.mem_singleton_self _, request, message, parsed, answers.wellFormed, read,
      replies⟩

theorem service_echo_quiet (s : AccessPoint) (accepts : Bool) :
    received .dhcp (serviceEcho s accepts).1.2 = [] ∧
      (∀ ok, sends .dhcp ok (serviceEcho s accepts).1.2 = []) ∧
      (serviceEcho s accepts).1.1.diagnostics = { s.diagnostics with
        echoRx := (serviceEcho s accepts).1.1.diagnostics.echoRx
        echoTx := (serviceEcho s accepts).1.1.diagnostics.echoTx } := by
  unfold serviceEcho
  split
  · exact ⟨rfl, fun _ => rfl, rfl⟩
  · dsimp only
    split <;> exact ⟨rfl, fun _ => rfl, rfl⟩

theorem step_tallied {out more : List Effect} {s t : AccessPoint} {input : AccessPoint.Input}
    (law : wire.Lawful) (h : accessPoint wire s input = some (t, more))
    (tallied : Tallied wire out s.diagnostics) (balanced : Balanced wire out) :
    Tallied wire (out ++ more) t.diagnostics ∧ Balanced wire (out ++ more) := by
  cases input with
  | poll dhcp echo =>
    obtain ⟨rfl, rfl⟩ := answer_parts h
    rw [List.append_nil]
    exact ⟨tallied, balanced⟩
  | serviceDhcp accepts =>
    have serviced := service_cases law s accepts
    rw [Option.some.inj h] at serviced
    exact ⟨service_tallied serviced tallied, balanced.append (service_balanced serviced)⟩
  | serviceEcho accepts =>
    obtain ⟨unheard, unsent, same⟩ := service_echo_quiet s accepts
    rw [Option.some.inj h] at unheard unsent same
    refine ⟨tallied.pass unheard (unsent true) same, balanced.append ?_⟩
    unfold Balanced kindCount
    rw [unsent, unsent, unheard]
    rfl

theorem run_tallied (law : wire.Lawful) {dhcp echo : UdpSocket} {ms : List Serving}
    {s : AccessPoint} (run : Run (accessPoint wire) (.begin dhcp echo) ms s) :
    Tallied wire (effects ms) s.diagnostics ∧ Balanced wire (effects ms) := by
  refine run.history (P := fun ms s => Tallied wire (effects ms) s.diagnostics ∧
    Balanced wire (effects ms)) ⟨begin_tallied, rfl⟩ ?_
  intro ms u i v out _ sound h
  rw [effects_append, effects_singleton]
  exact step_tallied law h sound.1 sound.2

/-- No DHCP counter has reached the largest `u32`. -/
structure NetworkDiagnostics.Unsaturated (d : NetworkDiagnostics) : Prop where
  invalid : d.dhcpInvalid < u32Max
  discover : d.dhcpDiscover < u32Max
  request : d.dhcpRequest < u32Max
  reply : d.dhcpReply < u32Max
  toAll : d.dhcpReplyBroadcast < u32Max
  toOne : d.dhcpReplyUnicast < u32Max

/-- Below its clip a counter is exact. -/
theorem exact_of_lt {count n max : Nat} (clipped : count = min n max) (below : count < max) :
    count = n := by
  omega

end

/-- Each call answers at most the one request it takes, and at every point of
every run the counters account for every datagram received and every answer. -/
theorem service_dhcp_conserves (wire : DhcpWire) (law : wire.Lawful) (dhcp echo : UdpSocket)
    (ms : List Serving) (s : AccessPoint)
    (run : Run (accessPoint wire) (.begin dhcp echo) ms s) :
    (∀ m ∈ ms, ∀ accepts, m.input = .serviceDhcp accepts →
      Call wire m.before.dhcp m.effects m.after.dhcp) ∧
    (s.diagnostics.Unsaturated →
      s.diagnostics.dhcpReply =
        s.diagnostics.dhcpReplyBroadcast + s.diagnostics.dhcpReplyUnicast ∧
      s.diagnostics.dhcpReply + (sends .dhcp false (effects ms)).length =
        s.diagnostics.dhcpDiscover + s.diagnostics.dhcpRequest ∧
      (received .dhcp (effects ms)).length = s.diagnostics.dhcpInvalid +
        s.diagnostics.dhcpDiscover + s.diagnostics.dhcpRequest +
        kindCount wire .other (effects ms)) ∧
    ∀ reply ∈ (sends .dhcp true (effects ms)).getLast?,
      ∃ parsed, wire.parse reply.payload = some parsed ∧
        parsed.transactionId = s.diagnostics.dhcpLastTransactionId := by
  obtain ⟨tallied, balanced⟩ := run_tallied law run
  refine ⟨?_, ?_, tallied.last⟩
  · intro m hm accepts input
    have step := run.of_mem hm
    have serviced := service_cases law m.before accepts
    rw [input] at step
    rw [Option.some.inj step] at serviced
    exact service_call serviced
  · intro unsaturated
    have invalid := exact_of_lt tallied.invalid unsaturated.invalid
    have discover := exact_of_lt tallied.discover unsaturated.discover
    have request := exact_of_lt tallied.request unsaturated.request
    have reply := exact_of_lt tallied.reply unsaturated.reply
    have toAll := exact_of_lt tallied.toAll unsaturated.toAll
    have toOne := exact_of_lt tallied.toOne unsaturated.toOne
    have kinds := @received_kinds wire (effects ms)
    have split := List.length_eq_countP_add_countP broadcasts (l := sends .dhcp true (effects ms))
    simp only [Bool.not_eq_true, Bool.decide_eq_false] at split
    unfold Balanced at balanced
    omega

/-- A station's message without an address of its own. -/
def stationMessage (messageType : DhcpMessageType) (transactionId : UInt32) : Datagram where
  payload := messageOf {
    messageType := messageType
    transactionId := transactionId
    secs := 3
    clientHardwareAddress := ⟨2, 0, 0, 0, 0, 1⟩
    clientIp := .unspecified
    yourIp := .unspecified
    serverIp := .unspecified
    router := none
    subnetMask := none
    relayAgentIp := .unspecified
    broadcast := false
    requestedIp := none
    clientIdentifier := none
    serverIdentifier := none
    parameterRequestList := none
    dnsServers := none
    maxSize := some 576
    leaseDuration := none
    renewDuration := none
    rebindDuration := none
    additionalOptions := [] }
  endpoint := ⟨.unspecified, dhcpClientPort⟩

/-- An answered discovery, a malformed payload, a release, and a request whose
answer the socket refuses. -/
def mixedScript : List AccessPoint.Input :=
  [.poll ⟨[stationMessage .discover 7, ⟨[1], ⟨.unspecified, 68⟩⟩, stationMessage .release 8,
      stationMessage .request 9], 0⟩ ⟨[], 0⟩,
    .serviceDhcp true, .serviceDhcp true, .serviceDhcp true, .serviceDhcp false]

/-- The counters behind that script. -/
def mixedDiagnostics : NetworkDiagnostics where
  dhcpDiscover := 1
  dhcpRequest := 1
  dhcpReply := 1
  dhcpReplyBroadcast := 1
  dhcpReplyUnicast := 0
  dhcpInvalid := 1
  dhcpLastTransactionId := 7
  echoRx := 0
  echoTx := 0

theorem service_dhcp_conserves_mixed :
    ∃ ms s, Run (accessPoint rfcWire) (.begin ⟨[], []⟩ ⟨[], []⟩) ms s ∧
      s.diagnostics = mixedDiagnostics ∧
      1 + (sends .dhcp false (effects ms)).length = 1 + 1 ∧
      (received .dhcp (effects ms)).length = 1 + 1 + 1 + kindCount rfcWire .other (effects ms) := by
  obtain ⟨ms, s, run, counted⟩ : ∃ ms s,
      Run (accessPoint rfcWire) (.begin ⟨[], []⟩ ⟨[], []⟩) ms s ∧
        s.diagnostics = mixedDiagnostics :=
    ⟨_, _, exec_run mixedScript rfl, by decide +kernel⟩
  have unsaturated : s.diagnostics.Unsaturated := by
    rw [counted]
    constructor <;> decide
  obtain ⟨-, conserved, -⟩ := service_dhcp_conserves rfcWire rfcWire_lawful _ _ ms s run
  obtain ⟨-, answered, kinds⟩ := conserved unsaturated
  rw [counted] at answered kinds
  exact ⟨ms, s, run, counted, answered, kinds⟩

end Ws63Examples.Softap
