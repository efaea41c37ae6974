import Ws63Examples.Lib.Execution
import Ws63Examples.Lib.Word
import Ws63Examples.Softap.DhcpWire

/-! The IPv4 services of the access point. -/

namespace Ws63Examples.Softap

open Execution Word

def serverAddress : Ipv4Address := ⟨192, 168, 4, 1⟩
def clientAddress : Ipv4Address := ⟨192, 168, 4, 2⟩
def broadcastAddress : Ipv4Address := ⟨255, 255, 255, 255⟩
def dhcpClientPort : UInt16 := 68
def udpEchoPort : UInt16 := 9
def dhcpLeaseSeconds : UInt32 := 20

structure DhcpRequest where
  messageType : DhcpMessageType
  transactionId : UInt32
  secs : UInt16
  clientHardwareAddress : EthernetAddress
  clientIp : Ipv4Address
  broadcast : Bool
  deriving DecidableEq, Repr

structure NetworkDiagnostics where
  dhcpDiscover : Nat
  dhcpRequest : Nat
  dhcpReply : Nat
  dhcpReplyBroadcast : Nat
  dhcpReplyUnicast : Nat
  dhcpInvalid : Nat
  dhcpLastTransactionId : UInt32
  echoRx : Nat
  echoTx : Nat
  deriving DecidableEq, Repr

namespace NetworkDiagnostics

def init : NetworkDiagnostics := ⟨0, 0, 0, 0, 0, 0, 0, 0, 0⟩

end NetworkDiagnostics

inductive SocketHandle where
  | dhcp
  | echo
  deriving DecidableEq, Repr

/-- A call on a socket that came back with a datagram, or with the socket's
answer to one. -/
inductive Effect where
  | recv (handle : SocketHandle) (datagram : Datagram)
  | sendSlice (handle : SocketHandle) (datagram : Datagram) (ok : Bool)
  deriving DecidableEq, Repr

/-- The datagrams a socket handed out, in order. -/
def received (handle : SocketHandle) (out : List Effect) : List Datagram :=
  out.filterMap fun
    | .recv h datagram => if h = handle then some datagram else none
    | .sendSlice _ _ _ => none

/-- The datagrams a socket answered `ok` to, in order. -/
def sends (handle : SocketHandle) (ok : Bool) (out : List Effect) : List Datagram :=
  out.filterMap fun
    | .recv _ _ => none
    | .sendSlice h datagram answer => if h = handle ∧ answer = ok then some datagram else none

section
variable (handle : SocketHandle) (ok : Bool) (out out' : List Effect)

@[simp] theorem received_nil : received handle [] = [] := rfl

@[simp] theorem received_append :
    received handle (out ++ out') = received handle out ++ received handle out' :=
  List.filterMap_append

@[simp] theorem received_recv (datagram : Datagram) :
    received handle (.recv handle datagram :: out) = datagram :: received handle out := by
  simp [received]

@[simp] theorem sends_nil : sends handle ok [] = [] := rfl

@[simp] theorem sends_append :
    sends handle ok (out ++ out') = sends handle ok out ++ sends handle ok out' :=
  List.filterMap_append

end

structure AccessPoint where
  dhcp : UdpSocket
  echo : UdpSocket
  diagnostics : NetworkDiagnostics

def parseDhcpRequest (wire : DhcpWire) (payload : List UInt8) : Option DhcpRequest :=
  if wire.newChecked payload then
    (wire.parse payload).map fun repr => {
      messageType := repr.messageType
      transactionId := repr.transactionId
      secs := repr.secs
      clientHardwareAddress := repr.clientHardwareAddress
      clientIp := repr.clientIp
      broadcast := repr.broadcast }
  else none

namespace DhcpRequest

/-- Whether the reply has to go to every station. -/
def toAll (request : DhcpRequest) : Bool :=
  request.broadcast || request.clientIp == .unspecified

def replyRepr (request : DhcpRequest) (messageType : DhcpMessageType) : DhcpRepr where
  messageType := messageType
  transactionId := request.transactionId
  secs := request.secs
  clientHardwareAddress := request.clientHardwareAddress
  clientIp := .unspecified
  yourIp := clientAddress
  serverIp := serverAddress
  router := none
  subnetMask := some ⟨255, 255, 255, 0⟩
  relayAgentIp := .unspecified
  broadcast := request.toAll
  requestedIp := none
  clientIdentifier := none
  serverIdentifier := some serverAddress
  parameterRequestList := none
  dnsServers := none
  maxSize := none
  leaseDuration := some dhcpLeaseSeconds
  renewDuration := some (dhcpLeaseSeconds / 2)
  rebindDuration := some (dhcpLeaseSeconds * 7 / 8)
  additionalOptions := []

end DhcpRequest

/-- The length of the reply and the buffer it was written to. -/
def emitDhcpReply (wire : DhcpWire) (request : DhcpRequest) (messageType : DhcpMessageType)
    (output : List UInt8) : Option (Nat × List UInt8) :=
  let repr := request.replyRepr messageType
  let length := wire.bufferLen repr
  if output.length < length then none
  else (wire.emit repr (output.take length)).map fun bytes =>
    (length, bytes ++ output.drop length)

/-- The reply a request asks for, counted; every other message is ignored. -/
def replyType (messageType : DhcpMessageType) (diagnostics : NetworkDiagnostics) :
    Option (DhcpMessageType × NetworkDiagnostics) :=
  match messageType with
  | .discover =>
    some (.offer, { diagnostics with
      dhcpDiscover := saturatingAdd u32Max diagnostics.dhcpDiscover 1 })
  | .request =>
    some (.ack, { diagnostics with
      dhcpRequest := saturatingAdd u32Max diagnostics.dhcpRequest 1 })
  | _ => none

def NetworkDiagnostics.countInvalid (diagnostics : NetworkDiagnostics) : NetworkDiagnostics :=
  { diagnostics with dhcpInvalid := saturatingAdd u32Max diagnostics.dhcpInvalid 1 }

/-- The counters behind a reply to `replyAddress` that was queued. -/
def NetworkDiagnostics.countReply (diagnostics : NetworkDiagnostics)
    (replyAddress : Ipv4Address) (transactionId : UInt32) : NetworkDiagnostics :=
  let counted := { diagnostics with
    dhcpReply := saturatingAdd u32Max diagnostics.dhcpReply 1
    dhcpLastTransactionId := transactionId }
  if replyAddress = broadcastAddress then
    { counted with
      dhcpReplyBroadcast := saturatingAdd u32Max diagnostics.dhcpReplyBroadcast 1 }
  else
    { counted with dhcpReplyUnicast := saturatingAdd u32Max diagnostics.dhcpReplyUnicast 1 }

def serviceDhcp (wire : DhcpWire) (s : AccessPoint) (accepts : Bool) :
    AccessPoint × List Effect :=
  match s.dhcp.recv with
  | none => (s, [])
  | some (datagram, dhcp) =>
    let received := Effect.recv .dhcp datagram
    match parseDhcpRequest wire datagram.payload with
    | none =>
      ({ s with dhcp := dhcp, diagnostics := s.diagnostics.countInvalid }, [received])
    | some request =>
      match replyType request.messageType s.diagnostics with
      | none => ({ s with dhcp := dhcp }, [received])
      | some (messageType, diagnostics) =>
        match emitDhcpReply wire request messageType (.replicate 300 0) with
        | none => ({ s with dhcp := dhcp, diagnostics := diagnostics.countInvalid }, [received])
        | some (length, payload) =>
          let replyAddress := if request.toAll then broadcastAddress else request.clientIp
          let endpoint : IpEndpoint := ⟨replyAddress, dhcpClientPort⟩
          let reply : Datagram := ⟨payload.take length, endpoint⟩
          match dhcp.sendSlice reply.payload reply.endpoint accepts with
          | none =>
            ({ s with dhcp := dhcp, diagnostics := diagnostics },
              [received, .sendSlice .dhcp reply false])
          | some dhcp =>
            ({ s with
                dhcp := dhcp
                diagnostics := diagnostics.countReply replyAddress request.transactionId },
              [received, .sendSlice .dhcp reply true])

/-- The last component is the sequence number of a one-byte echo. -/
def serviceEcho (s : AccessPoint) (accepts : Bool) :
    (AccessPoint × List Effect) × Option UInt8 :=
  match s.echo.recvSlice 256 with
  | (none, echo) => (({ s with echo := echo }, []), none)
  | (some datagram, echo) =>
    let diagnostics := { s.diagnostics with
      echoRx := saturatingAdd u32Max s.diagnostics.echoRx 1 }
    match echo.sendSlice datagram.payload datagram.endpoint accepts with
    | none =>
      (({ s with echo := echo, diagnostics := diagnostics },
        [.recv .echo datagram, .sendSlice .echo datagram false]), none)
    | some echo =>
      (({ s with
          echo := echo
          diagnostics := { diagnostics with
            echoTx := saturatingAdd u32Max s.diagnostics.echoTx 1 } },
        [.recv .echo datagram, .sendSlice .echo datagram true]),
        match datagram.payload with
        | [sequence] => some sequence
        | _ => none)

inductive AccessPoint.Input where
  | poll (dhcp echo : UdpTraffic)
  | serviceDhcp (accepts : Bool)
  | serviceEcho (accepts : Bool)

/-- The calls of the service loop, in any order. -/
def accessPoint (wire : DhcpWire) (s : AccessPoint) :
    AccessPoint.Input → Option (AccessPoint × List Effect)
  | .poll dhcp echo => some ({ s with dhcp := s.dhcp.poll dhcp, echo := s.echo.poll echo }, [])
  | .serviceDhcp accepts => some (serviceDhcp wire s accepts)
  | .serviceEcho accepts => some (serviceEcho s accepts).1

namespace AccessPoint

/-- The counters start at zero; the sockets may hold anything. -/
def begin (dhcp echo : UdpSocket) : AccessPoint := ⟨dhcp, echo, .init⟩

end AccessPoint

end Ws63Examples.Softap
