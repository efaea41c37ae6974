import Ws63Examples.Lib.Bits
import Ws63Examples.Smoltcp

/-! DHCP messages, and the codec the access point relies on. -/

namespace Ws63Examples.Softap

open Bits

structure EthernetAddress where
  a : UInt8
  b : UInt8
  c : UInt8
  d : UInt8
  e : UInt8
  f : UInt8
  deriving DecidableEq, Repr

inductive DhcpMessageType where
  | discover
  | offer
  | request
  | decline
  | ack
  | nak
  | release
  | inform
  | unknown (value : UInt8)
  deriving DecidableEq, Repr

structure DhcpRepr where
  messageType : DhcpMessageType
  transactionId : UInt32
  secs : UInt16
  clientHardwareAddress : EthernetAddress
  clientIp : Ipv4Address
  yourIp : Ipv4Address
  serverIp : Ipv4Address
  router : Option Ipv4Address
  subnetMask : Option Ipv4Address
  relayAgentIp : Ipv4Address
  broadcast : Bool
  requestedIp : Option Ipv4Address
  clientIdentifier : Option EthernetAddress
  serverIdentifier : Option Ipv4Address
  parameterRequestList : Option (List UInt8)
  dnsServers : Option (List Ipv4Address)
  maxSize : Option UInt16
  leaseDuration : Option UInt32
  renewDuration : Option UInt32
  rebindDuration : Option UInt32
  additionalOptions : List (UInt8 × List UInt8)
  deriving DecidableEq, Repr

/-- `DhcpPacket` and `DhcpRepr` of the stack. `emit` fills a buffer. -/
structure DhcpWire where
  newChecked : List UInt8 → Bool
  parse : List UInt8 → Option DhcpRepr
  bufferLen : DhcpRepr → Nat
  emit : DhcpRepr → List UInt8 → Option (List UInt8)

/-- A message of a known type without the options of unbounded length. -/
structure DhcpRepr.Plain (repr : DhcpRepr) : Prop where
  known : ∀ value, repr.messageType ≠ .unknown value
  parameters : repr.parameterRequestList = none
  dns : repr.dnsServers = none
  additional : repr.additionalOptions = []

/-- What a parsed message tells of the emitted one. -/
structure DhcpRepr.Tells (parsed repr : DhcpRepr) : Prop where
  messageType : parsed.messageType = repr.messageType
  transactionId : parsed.transactionId = repr.transactionId
  secs : parsed.secs = repr.secs
  clientHardwareAddress : parsed.clientHardwareAddress = repr.clientHardwareAddress
  clientIp : parsed.clientIp = repr.clientIp
  yourIp : parsed.yourIp = repr.yourIp
  broadcast : parsed.broadcast = repr.broadcast
  serverIdentifier : parsed.serverIdentifier = repr.serverIdentifier

/-- The documented behaviour: a plain message takes at most 300 bytes, fits a
buffer of its announced length, is written in place, and parses back. -/
structure DhcpWire.Lawful (wire : DhcpWire) : Prop where
  fits : ∀ repr : DhcpRepr, repr.Plain → wire.bufferLen repr ≤ 300
  emits : ∀ (repr : DhcpRepr) buffer, repr.Plain → wire.bufferLen repr ≤ buffer.length →
    ∃ bytes, wire.emit repr buffer = some bytes
  inPlace : ∀ (repr : DhcpRepr) buffer bytes, wire.emit repr buffer = some bytes →
    bytes.length = buffer.length
  reads : ∀ (repr : DhcpRepr) buffer bytes, repr.Plain → wire.emit repr buffer = some bytes →
    wire.newChecked bytes = true ∧ ∃ parsed, wire.parse bytes = some parsed ∧ parsed.Tells repr

def EthernetAddress.octets (address : EthernetAddress) : List UInt8 :=
  [address.a, address.b, address.c, address.d, address.e, address.f]

namespace DhcpMessageType

def value : DhcpMessageType → UInt8
  | discover => 1
  | offer => 2
  | request => 3
  | decline => 4
  | ack => 5
  | nak => 6
  | release => 7
  | inform => 8
  | unknown value => value

def ofValue (value : UInt8) : DhcpMessageType :=
  if value = 1 then discover
  else if value = 2 then offer
  else if value = 3 then request
  else if value = 4 then decline
  else if value = 5 then ack
  else if value = 6 then nak
  else if value = 7 then release
  else if value = 8 then inform
  else unknown value

theorem ofValue_value {messageType : DhcpMessageType}
    (known : ∀ value, messageType ≠ unknown value) : ofValue messageType.value = messageType := by
  cases messageType with
  | unknown value => exact absurd rfl (known value)
  | _ => rfl

/-- Requests travel as BOOTREQUEST, replies as BOOTREPLY. -/
def opcode : DhcpMessageType → UInt8
  | offer | ack | nak => 2
  | _ => 1

end DhcpMessageType

/-! A codec of RFC 2131 messages, option by option, that behaves so. -/

/-- Kind, length and data of one option. -/
def emitOption (option : UInt8 × List UInt8) : List UInt8 :=
  option.1 :: .ofNat option.2.length :: option.2

/-- Options up to the end mark; `fuel` bounds their number. -/
def parseOptions : Nat → List UInt8 → List (UInt8 × List UInt8)
  | fuel + 1, kind :: rest =>
    if kind = 255 then []
    else if kind = 0 then parseOptions fuel rest
    else
      match rest with
      | len :: rest =>
        if len.toNat ≤ rest.length then
          (kind, rest.take len.toNat) :: parseOptions fuel (rest.drop len.toNat)
        else []
      | [] => []
  | _, _ => []

/-- An option that is neither padding nor the end mark, and not too long. -/
def Sized (option : UInt8 × List UInt8) : Prop :=
  option.1 ≠ 0 ∧ option.1 ≠ 255 ∧ option.2.length < 256

theorem parseOptions_emit (options : List (UInt8 × List UInt8)) (sized : ∀ o ∈ options, Sized o)
    (fuel : Nat) (enough : options.length < fuel) (junk : List UInt8) :
    parseOptions fuel (options.flatMap emitOption ++ 255 :: junk) = options := by
  induction options generalizing fuel with
  | nil =>
    obtain ⟨fuel, rfl⟩ := Nat.exists_eq_add_one_of_ne_zero (Nat.ne_of_gt enough)
    simp [parseOptions]
  | cons option options ih =>
    obtain ⟨fuel, rfl⟩ := Nat.exists_eq_add_one_of_ne_zero (Nat.ne_zero_of_lt enough)
    obtain ⟨kind, data⟩ := option
    obtain ⟨not_pad, not_end, short⟩ := sized (kind, data) List.mem_cons_self
    have len : (UInt8.ofNat data.length).toNat = data.length := UInt8.toNat_ofNat_of_lt' short
    have rest := ih (fun o ho => sized o (List.mem_cons_of_mem _ ho)) fuel
      (Nat.lt_of_succ_lt_succ enough)
    simp only [List.flatMap_cons, emitOption, List.cons_append, List.append_assoc, parseOptions]
    rw [if_neg not_end, if_neg not_pad, len, if_pos (by simp), List.take_left', List.drop_left']
    · rw [rest]
    · rfl
    · rfl

/-- The options of a message, in the order they are emitted. -/
def optionsOf (repr : DhcpRepr) : List (UInt8 × List UInt8) :=
  (53, [repr.messageType.value]) ::
    (repr.serverIdentifier.toList.map fun ip => (54, ip.octets)) ++
    (repr.requestedIp.toList.map fun ip => (50, ip.octets)) ++
    (repr.clientIdentifier.toList.map fun mac => (61, 1 :: mac.octets)) ++
    (repr.router.toList.map fun ip => (3, ip.octets)) ++
    (repr.subnetMask.toList.map fun ip => (1, ip.octets)) ++
    (repr.maxSize.toList.map fun size => (57, toBeBytes size)) ++
    (repr.leaseDuration.toList.map fun secs => (51, toBeBytes32 secs)) ++
    (repr.renewDuration.toList.map fun secs => (58, toBeBytes32 secs)) ++
    (repr.rebindDuration.toList.map fun secs => (59, toBeBytes32 secs)) ++
    (repr.dnsServers.toList.map fun ips => (6, ips.flatMap Ipv4Address.octets)) ++
    (repr.parameterRequestList.toList.map fun kinds => (55, kinds)) ++
    repr.additionalOptions

/-- The fixed fields up to the client's hardware address. -/
def headerOf (repr : DhcpRepr) : List UInt8 :=
  [repr.messageType.opcode, 1, 6, 0] ++ toBeBytes32 repr.transactionId ++ toBeBytes repr.secs ++
    [if repr.broadcast then 0x80 else 0, 0] ++ repr.clientIp.octets ++ repr.yourIp.octets ++
    repr.serverIp.octets ++ repr.relayAgentIp.octets ++ repr.clientHardwareAddress.octets

/-- The rest of the hardware address, the server name and the boot file. -/
def unusedFields : List UInt8 := List.replicate 202 0

def messageOf (repr : DhcpRepr) : List UInt8 :=
  headerOf repr ++ (unusedFields ++ ([99, 130, 83, 99] ++
    ((optionsOf repr).flatMap emitOption ++ [255])))

def readIp : List UInt8 → Option Ipv4Address
  | [a, b, c, d] => some ⟨a, b, c, d⟩
  | _ => none

def readMac : List UInt8 → Option EthernetAddress
  | [_, a, b, c, d, e, f] => some ⟨a, b, c, d, e, f⟩
  | _ => none

def readU16 : List UInt8 → Option UInt16
  | [a, b] => some (fromBeBytes a b)
  | _ => none

def readU32 : List UInt8 → Option UInt32
  | [a, b, c, d] => some (fromBeBytes32 a b c d)
  | _ => none

def readMessageType (opcode : UInt8) : List UInt8 → Option DhcpMessageType
  | [value] =>
    let messageType := DhcpMessageType.ofValue value
    if messageType.opcode = opcode then some messageType else none
  | _ => none

/-- The options behind the fixed fields `fixed`. -/
def parseTail (fixed : DhcpRepr) (opcode : UInt8) (rest : List UInt8) : Option DhcpRepr :=
  match rest.drop 202 with
  | 99 :: 130 :: 83 :: 99 :: tail => do
    let options := parseOptions tail.length tail
    let messageType ← (options.lookup 53).bind (readMessageType opcode)
    return { fixed with
      messageType := messageType
      router := (options.lookup 3).bind readIp
      subnetMask := (options.lookup 1).bind readIp
      requestedIp := (options.lookup 50).bind readIp
      clientIdentifier := (options.lookup 61).bind readMac
      serverIdentifier := (options.lookup 54).bind readIp
      parameterRequestList := options.lookup 55
      dnsServers := (options.lookup 6).map fun ips => (ips.toChunks 4).filterMap readIp
      maxSize := (options.lookup 57).bind readU16
      leaseDuration := (options.lookup 51).bind readU32
      renewDuration := (options.lookup 58).bind readU32
      rebindDuration := (options.lookup 59).bind readU32 }
  | _ => none

def parseMessage (bytes : List UInt8) : Option DhcpRepr :=
  match bytes with
  | opcode :: 1 :: 6 :: _ :: x₀ :: x₁ :: x₂ :: x₃ :: s₀ :: s₁ :: flags :: _ ::
      c₀ :: c₁ :: c₂ :: c₃ :: y₀ :: y₁ :: y₂ :: y₃ :: i₀ :: i₁ :: i₂ :: i₃ ::
      g₀ :: g₁ :: g₂ :: g₃ :: m₀ :: m₁ :: m₂ :: m₃ :: m₄ :: m₅ :: rest =>
    parseTail {
      messageType := .unknown 0
      transactionId := fromBeBytes32 x₀ x₁ x₂ x₃
      secs := fromBeBytes s₀ s₁
      clientHardwareAddress := ⟨m₀, m₁, m₂, m₃, m₄, m₅⟩
      clientIp := ⟨c₀, c₁, c₂, c₃⟩
      yourIp := ⟨y₀, y₁, y₂, y₃⟩
      serverIp := ⟨i₀, i₁, i₂, i₃⟩
      router := none
      subnetMask := none
      relayAgentIp := ⟨g₀, g₁, g₂, g₃⟩
      broadcast := flags &&& 0x80 ≠ 0
      requestedIp := none
      clientIdentifier := none
      serverIdentifier := none
      parameterRequestList := none
      dnsServers := none
      maxSize := none
      leaseDuration := none
      renewDuration := none
      rebindDuration := none
      additionalOptions := [] } opcode rest
  | _ => none

def rfcWire : DhcpWire where
  newChecked := fun bytes => 240 ≤ bytes.length
  parse := parseMessage
  bufferLen := fun repr => (messageOf repr).length
  emit := fun repr buffer =>
    if (messageOf repr).length ≤ buffer.length then
      some (messageOf repr ++ buffer.drop (messageOf repr).length)
    else none

section
variable {α : Type}

/-- A present option is found under its kind and no other. -/
theorem lookup_option (o : Option α) (kind k : UInt8) (data : α → List UInt8) :
    (o.toList.map fun x => (kind, data x)).lookup k = if k = kind then o.map data else none := by
  by_cases same : k = kind
  · cases o <;> simp [same]
  · have differs : (k == kind) = false := beq_eq_false_iff_ne.mpr same
    cases o <;> simp [same, differs, List.lookup_cons]

theorem option_sized (o : Option α) (kind : UInt8) (data : α → List UInt8) (n : Nat)
    (marks : kind ≠ 0 ∧ kind ≠ 255) (short : n < 256) (len : ∀ x, (data x).length = n) :
    ∀ option ∈ o.toList.map fun x => (kind, data x), Sized option := by
  intro option h
  obtain ⟨x, -, rfl⟩ := List.mem_map.mp h
  exact ⟨marks.1, marks.2, by rw [len]; exact short⟩

theorem option_length (o : Option α) (kind : UInt8) (data : α → List UInt8) (n : Nat)
    (len : ∀ x, (data x).length = n) :
    ((o.toList.map fun x => (kind, data x)).flatMap emitOption).length ≤ n + 2 := by
  cases o with
  | none => exact Nat.zero_le _
  | some x => simp [emitOption, len]

end

theorem optionsOf_sized {repr : DhcpRepr} (plain : repr.Plain) :
    ∀ option ∈ optionsOf repr, Sized option := by
  have word (o : Option UInt32) (kind : UInt8) (marks : kind ≠ 0 ∧ kind ≠ 255) :=
    option_sized o kind toBeBytes32 4 marks (by decide) fun _ => rfl
  have address (o : Option Ipv4Address) (kind : UInt8) (marks : kind ≠ 0 ∧ kind ≠ 255) :=
    option_sized o kind Ipv4Address.octets 4 marks (by decide) fun _ => rfl
  have type : Sized (53, [repr.messageType.value]) :=
    ⟨(by decide : (53 : UInt8) ≠ 0), (by decide : (53 : UInt8) ≠ 255), (by decide : 1 < 256)⟩
  simp only [optionsOf, plain.dns, plain.parameters, plain.additional, Option.toList_none,
    List.map_nil, List.append_nil, List.forall_mem_append, List.forall_mem_cons, and_assoc]
  refine ⟨type, address _ 54 (by decide), address _ 50 (by decide),
    option_sized repr.clientIdentifier 61 (fun mac => 1 :: mac.octets) 7 (by decide) (by decide)
      fun _ => rfl,
    address _ 3 (by decide), address _ 1 (by decide),
    option_sized repr.maxSize 57 toBeBytes 2 (by decide) (by decide) fun _ => rfl,
    word _ 51 (by decide), word _ 58 (by decide), word _ 59 (by decide)⟩

theorem optionsOf_type (repr : DhcpRepr) :
    (optionsOf repr).lookup 53 = some [repr.messageType.value] := rfl

theorem optionsOf_server {repr : DhcpRepr} (plain : repr.Plain) :
    (optionsOf repr).lookup 54 = repr.serverIdentifier.map Ipv4Address.octets := by
  have later : (53 : UInt8) ≠ 54 := by decide
  simp only [optionsOf, plain.dns, plain.parameters, plain.additional, Option.toList_none,
    List.map_nil, List.append_nil, List.cons_append, List.lookup_cons, List.lookup_append,
    lookup_option]
  simp

theorem messageOf_length {repr : DhcpRepr} (plain : repr.Plain) :
    240 ≤ (messageOf repr).length ∧ (messageOf repr).length ≤ 300 := by
  have word (o : Option UInt32) (kind : UInt8) := option_length o kind toBeBytes32 4 fun _ => rfl
  have address (o : Option Ipv4Address) (kind : UInt8) :=
    option_length o kind Ipv4Address.octets 4 fun _ => rfl
  have mac := option_length repr.clientIdentifier 61 (fun mac => 1 :: mac.octets) 7 fun _ => rfl
  have size := option_length repr.maxSize 57 toBeBytes 2 fun _ => rfl
  have options : ((optionsOf repr).flatMap emitOption).length ≤ 58 := by
    simp only [optionsOf, plain.dns, plain.parameters, plain.additional, Option.toList_none,
      List.map_nil, List.append_nil, List.flatMap_append, List.flatMap_cons, List.length_append]
    have type : (emitOption (53, [repr.messageType.value])).length = 3 := rfl
    have := address repr.serverIdentifier 54
    have := address repr.requestedIp 50
    have := address repr.router 3
    have := address repr.subnetMask 1
    have := word repr.leaseDuration 51
    have := word repr.renewDuration 58
    have := word repr.rebindDuration 59
    omega
  have fixed : (messageOf repr).length =
      241 + ((optionsOf repr).flatMap emitOption).length := by
    have header : (headerOf repr).length = 34 := rfl
    have unused : unusedFields.length = 202 := List.length_replicate
    simp only [messageOf, List.length_append, header, unused, List.length_cons, List.length_nil]
    omega
  omega

/-- The fields before the options, read into `fixed`. -/
structure DhcpRepr.Begins (fixed repr : DhcpRepr) : Prop where
  transactionId : fixed.transactionId = repr.transactionId
  secs : fixed.secs = repr.secs
  clientHardwareAddress : fixed.clientHardwareAddress = repr.clientHardwareAddress
  clientIp : fixed.clientIp = repr.clientIp
  yourIp : fixed.yourIp = repr.yourIp
  broadcast : fixed.broadcast = repr.broadcast

theorem parseMessage_header (repr : DhcpRepr) (rest : List UInt8) :
    ∃ fixed, parseMessage (headerOf repr ++ rest) =
      parseTail fixed repr.messageType.opcode rest ∧ fixed.Begins repr := by
  refine ⟨_, rfl, fromBeBytes32_toBeBytes32 _, fromBeBytes_toBeBytes _, rfl, rfl, rfl, ?_⟩
  cases repr.broadcast <;> rfl

/-- No option is emitted as nothing. -/
theorem options_length (options : List (UInt8 × List UInt8)) :
    options.length ≤ (options.flatMap emitOption).length := by
  induction options with
  | nil => exact Nat.le_refl _
  | cons option options ih =>
    simp only [List.flatMap_cons, List.length_append, List.length_cons, emitOption]
    omega

theorem parseTail_options {repr fixed : DhcpRepr} (plain : repr.Plain)
    (begins : fixed.Begins repr) (junk : List UInt8) :
    ∃ parsed, parseTail fixed repr.messageType.opcode (unusedFields ++ ([99, 130, 83, 99] ++
        ((optionsOf repr).flatMap emitOption ++ 255 :: junk))) = some parsed ∧
      parsed.Tells repr := by
  have enough : (optionsOf repr).length <
      ((optionsOf repr).flatMap emitOption ++ 255 :: junk).length := by
    rw [List.length_append, List.length_cons]
    have := options_length (optionsOf repr)
    omega
  have read := parseOptions_emit _ (optionsOf_sized plain) _ enough junk
  have type : readMessageType repr.messageType.opcode [repr.messageType.value] =
      some repr.messageType := by
    simp only [readMessageType, DhcpMessageType.ofValue_value plain.known, if_true]
  have server : ((optionsOf repr).lookup 54).bind readIp = repr.serverIdentifier := by
    rw [optionsOf_server plain]
    cases repr.serverIdentifier <;> rfl
  have past (rest : List UInt8) : List.drop 202 (unusedFields ++ rest) = rest :=
    List.drop_left' List.length_replicate
  unfold parseTail
  rw [past]
  simp only [List.cons_append, List.nil_append, read, optionsOf_type, Option.bind_some, type,
    Option.bind_eq_bind, server]
  exact ⟨_, rfl, rfl, begins.transactionId, begins.secs, begins.clientHardwareAddress,
    begins.clientIp, begins.yourIp, begins.broadcast, rfl⟩

theorem parseMessage_messageOf {repr : DhcpRepr} (plain : repr.Plain) (junk : List UInt8) :
    ∃ parsed, parseMessage (messageOf repr ++ junk) = some parsed ∧ parsed.Tells repr := by
  have shape : messageOf repr ++ junk = headerOf repr ++ (unusedFields ++ ([99, 130, 83, 99] ++
      ((optionsOf repr).flatMap emitOption ++ 255 :: junk))) := by
    simp only [messageOf, List.append_assoc, List.singleton_append]
  obtain ⟨fixed, header, begins⟩ := parseMessage_header repr
    (unusedFields ++ ([99, 130, 83, 99] ++ ((optionsOf repr).flatMap emitOption ++ 255 :: junk)))
  rw [shape, header]
  exact parseTail_options plain begins junk

theorem rfcWire_lawful : rfcWire.Lawful where
  fits := fun repr plain => (messageOf_length plain).2
  emits := fun repr buffer plain fits => ⟨_, if_pos fits⟩
  inPlace := by
    intro repr buffer bytes emitted
    simp only [rfcWire, Option.ite_none_right_eq_some, Option.some.injEq] at emitted
    obtain ⟨fits, rfl⟩ := emitted
    rw [List.length_append, List.length_drop, Nat.add_sub_cancel' fits]
  reads := by
    intro repr buffer bytes plain emitted
    simp only [rfcWire, Option.ite_none_right_eq_some, Option.some.injEq] at emitted
    obtain ⟨fits, rfl⟩ := emitted
    refine ⟨?_, parseMessage_messageOf plain _⟩
    simp only [rfcWire, decide_eq_true_eq, List.length_append]
    exact Nat.le_trans (messageOf_length plain).1 (Nat.le_add_right _ _)

end Ws63Examples.Softap
