import Ws63Examples.Connectivity.DnsContract
import Ws63Examples.Smoltcp

/-! What the station's network runner exchanges with the world around it. -/

namespace Ws63Examples.Connectivity

structure Lease where
  address : Ipv4Address
  prefixLen : UInt8
  server : Ipv4Address
  router : Option Ipv4Address
  deriving DecidableEq, Repr

/-- The controller's events, with the payloads the runner reads. -/
inductive WifiEvent where
  | initialized
  | scanCompleted
  | connected
  | disconnected (reason : UInt16)
  | failed
  deriving DecidableEq, Repr

inductive NetworkExit where
  | disconnected (reason : UInt16)
  | backendFailed
  deriving DecidableEq, Repr

/-- DHCP datagrams counted since boot. -/
structure DhcpDiagnostics where
  clientPackets : UInt32
  serverPackets : UInt32
  deriving DecidableEq, Repr

/-- The part of the L2 diagnostics the runner decides on. -/
structure L2Diagnostics where
  txArpRequests : UInt32
  rxArpReplies : UInt32
  deriving DecidableEq, Repr

/-- The stations's only view of time: a 24 MHz counter read in milliseconds. -/
def monotonicMs (ticks : UInt64) : UInt64 := ticks / 24000

/-- What one step of the runner asks of its environment, with the answer. -/
inductive Input (stack : Smoltcp) where
  | stationMacAddress (present : Bool)
  | clock (ticks : UInt64)
  | poll (traffic : stack.Traffic) (event : Option DhcpEvent)
  /-- `can_recv` and `recv`; `none` is an empty queue. -/
  | recv (datagram : Option Datagram)
  | sendSlice (ok : Bool)
  | dhcpDiagnostics (diagnostics : DhcpDiagnostics)
  | l2Diagnostics (diagnostics : L2Diagnostics)
  /-- `next_event` under a timeout; `none` is the timeout. -/
  | nextEvent (event : Option WifiEvent)

inductive RestartReason where
  | leaseLost
  | leaseDownTimeout
  deriving DecidableEq, Repr

/-- The end of a public DNS sample line. -/
inductive SampleStatus where
  | txError
  | ok (answers : UInt16)
  | invalid (reason : ResponseError)
  | timeout
  deriving DecidableEq, Repr

/-- The lines the runner writes, with the values printed in them. The plain
counter dumps between them are left out. -/
inductive Line where
  | noMac
  | runnerBegin
  | dhcpBegin
  | dhcpOk (address : Ipv4Address) (prefixLen : UInt8) (router : Option Ipv4Address)
  | dhcpRenewed
  | dhcpDeconfigured
  | dhcpRestart (reason : RestartReason)
  | dhcpTimeout
  | leaseLoss
  | renewOk (client server : UInt32)
  | alive (lease : Bool)
  | localNeighborBegin (target : Ipv4Address)
  | localEchoReply (sequence : UInt8) (replies : Nat)
  | localEchoRecovery (elapsed : UInt32)
  | localEcho (ok : Bool) (target : Ipv4Address) (attempts replies lost : Nat)
  | publicDnsBegin (primary secondary : Ipv4Address) (attempts : Nat)
  | publicDnsSample (attempt : Nat) (transactionId : UInt16) (target : Ipv4Address)
      (status : SampleStatus)
  | publicDnsSkip
  | arpOk
  | localDataPath (ok echo : Bool) (arp : L2Diagnostics) (gateway : Option Ipv4Address)
  | publicDns (target : Option Ipv4Address) (attempts responses invalid txErrors : Nat)
  | connectivitySummary (arp : L2Diagnostics) (attempts responses invalid txErrors : Nat)
  | runnerSteady
  | radioDisconnected (reason : UInt16)
  | radioFailed
  | eventIgnored (event : WifiEvent)
  deriving DecidableEq, Repr

inductive Effect where
  | write (line : Line)
  /-- A `send_slice`, and whether the socket took it. -/
  | send (payload : List UInt8) (remote : IpEndpoint) (ok : Bool)
  | resetDhcp
  deriving DecidableEq, Repr

/-- The runner's reaction to what it dequeued: the exit to propagate, if any,
and the line it writes. -/
def waitPollInterval : Option WifiEvent → Option NetworkExit × List Effect
  | none => (none, [])
  | some (.disconnected reason) =>
    (some (.disconnected reason), [.write (.radioDisconnected reason)])
  | some .failed => (some .backendFailed, [.write .radioFailed])
  | some event => (none, [.write (.eventIgnored event)])

/-- An event that ends the run, with the value the run must return. -/
def WifiEvent.exit : WifiEvent → Option NetworkExit
  | disconnected reason => some (.disconnected reason)
  | failed => some .backendFailed
  | initialized | scanCompleted | connected => none

/-- The end of the link, if this input delivers it. -/
def Input.linkLoss {stack : Smoltcp} : Input stack → Option NetworkExit
  | .nextEvent (some event) => event.exit
  | _ => none

theorem waitPollInterval_linkLoss {stack : Smoltcp} {event : Option WifiEvent}
    {exit : Option NetworkExit} {out : List Effect} (h : waitPollInterval event = (exit, out)) :
    (Input.nextEvent event : Input stack).linkLoss = exit := by
  cases event with
  | none =>
    cases h
    rfl
  | some event =>
    cases event <;>
      · cases h
        rfl

/-- Whatever was dequeued, only a line is written. -/
theorem waitPollInterval_writes {event : Option WifiEvent} {exit : Option NetworkExit}
    {out : List Effect} (h : waitPollInterval event = (exit, out)) :
    ∀ e ∈ out, ∃ line, e = .write line := by
  cases event with
  | none =>
    cases h
    exact nofun
  | some event =>
    cases event <;>
      · cases h
        intro e he
        exact ⟨_, List.mem_singleton.mp he⟩

end Ws63Examples.Connectivity
