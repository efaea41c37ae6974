import Ws63Examples.Lib.Periodic
import Ws63Examples.Lib.Slice
import Ws63Examples.Softap.Coexistence
import Ws63Examples.Softap.Network

/-!
# The access point's main loop

Each turn services the coexistence server, the authenticator, the interface and its
two sockets, accepts the coexistence run once ten echoes were returned, and reports
the counters from time to time.
-/

namespace Ws63Examples.Softap

open Execution Slice Word

def minRfHeapFreeBytes : Nat := 16 * 1024
def maxReadyLatencyMs : Nat := 2000
def maxIrqSpanMs : Nat := 100

def monotonicMs (ticks : UInt64) : UInt64 := ticks / 24000

/-- The event counters of the coexistence controller. -/
structure EventDiagnostics where
  accepted : Nat
  consumed : Nat
  pending : Nat
  dropped : Nat
  highWater : Nat
  deriving DecidableEq, Repr

structure HeapMetrics where
  arenaBytes : Nat
  freeBytes : Nat
  peakUsedBytes : Nat
  allocationFailures : Nat
  deriving DecidableEq, Repr

structure SchedulerDiagnostics where
  readyOwnershipViolations : Nat
  readyQueueDuplicateMemberships : Nat
  readyQueueWrongPriorities : Nat
  readyQueueInvalidLinks : Nat
  deriving DecidableEq, Repr

structure TaskDiagnostic where
  maxReadyLatencyMs : Nat
  maxIrqSpanMs : Nat
  deriving DecidableEq, Repr

/-- What `write_acceptance_values` is given and what it asks for. -/
structure AcceptanceValues where
  events : EventDiagnostics
  heap : HeapMetrics
  scheduler : SchedulerDiagnostics
  tasks : Vector TaskDiagnostic 17
  count : Nat

inductive AcceptanceLine where
  | eventConservation (accepted consumed pending dropped highWater : Nat)
  | resourceAcceptance (arena free peak failures maxReadyMs maxIrqMs : Nat)
      (scheduler : SchedulerDiagnostics)
  | acceptanceErr
  deriving DecidableEq, Repr

/-- `u32::try_from(value).unwrap_or(u32::MAX)` -/
def clipU32 (value : Nat) : Nat := min value u32Max

/-- `iter().max().unwrap_or(0)` -/
def maxOrZero (values : List Nat) : Nat := values.max?.getD 0

/-- The condition of the panic. -/
def rejected (values : AcceptanceValues) (maxReadyMs maxIrqMs : Nat) : Bool :=
  values.events.accepted ≠ saturatingAdd u32Max values.events.consumed
      (clipU32 values.events.pending) ||
    values.events.dropped ≠ 0 || values.heap.allocationFailures ≠ 0 ||
    values.heap.arenaBytes < values.heap.peakUsedBytes ||
    values.heap.freeBytes < minRfHeapFreeBytes || maxReadyLatencyMs < maxReadyMs ||
    maxIrqSpanMs < maxIrqMs || values.scheduler.readyOwnershipViolations ≠ 0 ||
    values.scheduler.readyQueueDuplicateMemberships ≠ 0 ||
    values.scheduler.readyQueueWrongPriorities ≠ 0 ||
    values.scheduler.readyQueueInvalidLinks ≠ 0

/-- Whether the values are accepted, and the lines; a count past the array panics
before the first. -/
def writeAcceptanceValues (values : AcceptanceValues) : Bool × List AcceptanceLine :=
  match slice values.tasks.toList 0 values.count with
  | none => (false, [])
  | some tasks =>
    let maxReadyMs := maxOrZero (tasks.map TaskDiagnostic.maxReadyLatencyMs)
    let maxIrqMs := maxOrZero (tasks.map TaskDiagnostic.maxIrqSpanMs)
    let events := values.events
    let heap := values.heap
    let lines := [.eventConservation events.accepted events.consumed (clipU32 events.pending)
        events.dropped (clipU32 events.highWater),
      .resourceAcceptance (clipU32 heap.arenaBytes) (clipU32 heap.freeBytes)
        (clipU32 heap.peakUsedBytes) (clipU32 heap.allocationFailures) (min maxReadyMs u32Max)
        (min maxIrqMs u32Max) values.scheduler]
    if rejected values maxReadyMs maxIrqMs then (false, lines ++ [.acceptanceErr])
    else (true, lines)

namespace ServiceLoop

/-- Where a turn stands, before the answer it needs next. -/
inductive Point where
  | coexistence
  | authenticator
  | poll
  | dhcp
  | echo
  | pollAgain
  | wait
  | acceptance
  | clock
  | panicked
  deriving DecidableEq, Repr

inductive Input (ε : Type) where
  /-- What the coexistence server asks for. -/
  | coexistence (input : CoexServer.Input ε)
  | pollAuthenticator (ok : Bool)
  | pollInterface (dhcp echo : UdpTraffic)
  | serviceDhcp (accepts : Bool)
  | serviceEcho (accepts : Bool)
  | waitForWork (ok : Bool)
  | acceptance (values : AcceptanceValues)
  | clock (ticks : UInt64)

inductive Effect where
  | coexistence (effect : CoexEffect)
  | network (effect : Softap.Effect)
  | acceptance (line : AcceptanceLine)
  /-- The diagnostics of the access point and of the network. -/
  | diagnostics (diagnostics : NetworkDiagnostics)
  | taskDiagnostics

end ServiceLoop

/-- What the main loop keeps from turn to turn. -/
structure ServiceLoop where
  point : ServiceLoop.Point
  coexistence : CoexServer.Service
  accessPoint : AccessPoint
  acceptanceReported : Bool
  nextDiagnosticMs : UInt64
  nextTaskDiagnosticMs : UInt64

namespace ServiceLoop

/-- The state ahead of the loop, after its two readings of the clock. -/
def begin (diagnosticTicks taskDiagnosticTicks : UInt64) : ServiceLoop where
  point := .coexistence
  coexistence := .init
  accessPoint := .begin ⟨[], []⟩ ⟨[], []⟩
  acceptanceReported := false
  nextDiagnosticMs := monotonicMs diagnosticTicks
  nextTaskDiagnosticMs := monotonicMs taskDiagnosticTicks

/-- A service call that returned leaves its server idle. -/
def afterCoexistence (s : ServiceLoop) (coexistence : CoexServer.Service) : ServiceLoop :=
  { s with
    coexistence := coexistence
    point := match coexistence.point with
      | .idle => .authenticator
      | .panicked => .panicked
      | _ => .coexistence }

/-- Behind the wait: the acceptance, once ten echoes were returned. -/
def afterWait (s : ServiceLoop) : ServiceLoop :=
  if !s.acceptanceReported && 10 ≤ s.accessPoint.diagnostics.echoTx then
    { s with point := .acceptance }
  else { s with point := .clock }

/-- The two reports at the end of a turn. -/
def report (s : ServiceLoop) (currentMs : UInt64) : ServiceLoop × List Effect :=
  let (s, out) := if 1000 ≤ currentMs - s.nextDiagnosticMs then
      ({ s with nextDiagnosticMs := currentMs }, [.diagnostics s.accessPoint.diagnostics])
    else (s, [])
  let (s, more) := if 5000 ≤ currentMs - s.nextTaskDiagnosticMs then
      ({ s with nextTaskDiagnosticMs := currentMs }, [.taskDiagnostics])
    else (s, [])
  ({ s with point := .coexistence }, out ++ more)

end ServiceLoop

/-- The loop of `run`, beside the coexistence server `server`. -/
def serviceLoop {ε : Type} (server : CoexServer ε) (wire : DhcpWire) (s : ServiceLoop)
    (input : ServiceLoop.Input ε) : Option (ServiceLoop × List ServiceLoop.Effect) :=
  match s.point, input with
  | .coexistence, .coexistence input => do
    let (coexistence, out) ← CoexServer.service server s.coexistence input
    return (s.afterCoexistence coexistence, out.map .coexistence)
  | .authenticator, .pollAuthenticator ok =>
    some ({ s with point := if ok then .poll else .panicked }, [])
  | .poll, .pollInterface dhcp echo => do
    let (accessPoint, out) ← accessPoint wire s.accessPoint (.poll dhcp echo)
    return ({ s with accessPoint := accessPoint, point := .dhcp }, out.map .network)
  | .dhcp, .serviceDhcp accepts => do
    let (accessPoint, out) ← accessPoint wire s.accessPoint (.serviceDhcp accepts)
    return ({ s with accessPoint := accessPoint, point := .echo }, out.map .network)
  | .echo, .serviceEcho accepts => do
    let (accessPoint, out) ← accessPoint wire s.accessPoint (.serviceEcho accepts)
    return ({ s with accessPoint := accessPoint, point := .pollAgain }, out.map .network)
  | .pollAgain, .pollInterface dhcp echo => do
    let (accessPoint, out) ← accessPoint wire s.accessPoint (.poll dhcp echo)
    return ({ s with accessPoint := accessPoint, point := .wait }, out.map .network)
  | .wait, .waitForWork ok => some (if ok then s.afterWait else { s with point := .panicked }, [])
  | .acceptance, .acceptance values =>
    match writeAcceptanceValues values with
    | (true, lines) =>
      some ({ s with acceptanceReported := true, point := .clock }, lines.map .acceptance)
    | (false, lines) => some ({ s with point := .panicked }, lines.map .acceptance)
  | .clock, .clock ticks => some (s.report (monotonicMs ticks))
  | _, _ => none

namespace ServiceLoop

variable {ε : Type} {server : CoexServer ε} {wire : DhcpWire}

/-- The point behind a call on the interface or a socket. -/
def Point.serviced : Point → Point
  | .poll => .dhcp
  | .dhcp => .echo
  | .echo => .pollAgain
  | _ => .wait

/-- The call on the access point. -/
def Input.toNetwork : Input ε → Option AccessPoint.Input
  | .pollInterface dhcp echo => some (.poll dhcp echo)
  | .serviceDhcp accepts => some (.serviceDhcp accepts)
  | .serviceEcho accepts => some (.serviceEcho accepts)
  | _ => none

def Input.toServer : Input ε → Option (CoexServer.Input ε)
  | .coexistence input => some input
  | _ => none

def Effect.ofNetwork : Effect → Option Softap.Effect
  | .network effect => some effect
  | _ => none

def Effect.ofServer : Effect → Option CoexEffect
  | .coexistence effect => some effect
  | _ => none

/-- What a step can do. -/
inductive Step (server : CoexServer ε) (wire : DhcpWire) (s : ServiceLoop) :
    Input ε → ServiceLoop → List Effect → Prop
  | coexistence (at_point : s.point = .coexistence) (input : CoexServer.Input ε)
      (next : CoexServer.Service) (out : List CoexEffect)
      (stepped : CoexServer.service server s.coexistence input = some (next, out)) :
      Step server wire s (.coexistence input) (s.afterCoexistence next) (out.map .coexistence)
  | authenticator (at_point : s.point = .authenticator) (ok : Bool) :
      Step server wire s (.pollAuthenticator ok)
        { s with point := if ok then .poll else .panicked } []
  | network (at_point : s.point = .poll ∨ s.point = .dhcp ∨ s.point = .echo ∨
        s.point = .pollAgain) (input : Input ε) (call : AccessPoint.Input)
      (asks : input.toNetwork = some call) (next : AccessPoint) (out : List Softap.Effect)
      (stepped : Softap.accessPoint wire s.accessPoint call = some (next, out)) :
      Step server wire s input { s with accessPoint := next, point := s.point.serviced }
        (out.map .network)
  | waited (at_point : s.point = .wait) :
      Step server wire s (.waitForWork true) s.afterWait []
  | unwaited (at_point : s.point = .wait) :
      Step server wire s (.waitForWork false) { s with point := .panicked } []
  | accepted (at_point : s.point = .acceptance) (values : AcceptanceValues)
      (lines : List AcceptanceLine) (accepts : writeAcceptanceValues values = (true, lines)) :
      Step server wire s (.acceptance values)
        { s with acceptanceReported := true, point := .clock } (lines.map .acceptance)
  | rejected (at_point : s.point = .acceptance) (values : AcceptanceValues)
      (lines : List AcceptanceLine) (rejects : writeAcceptanceValues values = (false, lines)) :
      Step server wire s (.acceptance values) { s with point := .panicked }
        (lines.map .acceptance)
  | clock (at_point : s.point = .clock) (ticks : UInt64) :
      Step server wire s (.clock ticks) (s.report (monotonicMs ticks)).1
        (s.report (monotonicMs ticks)).2

theorem step_cases {s t : ServiceLoop} {input : Input ε} {out : List Effect}
    (h : serviceLoop server wire s input = some (t, out)) : Step server wire s input t out := by
  unfold serviceLoop at h
  split at h
  case h_1 input at_point =>
    obtain ⟨⟨next, sent⟩, stepped, same⟩ := Option.bind_eq_some_iff.mp h
    cases same
    exact .coexistence at_point input next sent stepped
  case h_2 ok at_point =>
    cases h
    exact .authenticator at_point ok
  case h_3 dhcp echo at_point =>
    obtain ⟨⟨next, sent⟩, stepped, same⟩ := Option.bind_eq_some_iff.mp h
    cases same
    have next_point : Point.dhcp = s.point.serviced := by rw [at_point]; rfl
    exact next_point ▸ .network (.inl at_point) _ _ rfl next sent stepped
  case h_4 accepts at_point =>
    obtain ⟨⟨next, sent⟩, stepped, same⟩ := Option.bind_eq_some_iff.mp h
    cases same
    have next_point : Point.echo = s.point.serviced := by rw [at_point]; rfl
    exact next_point ▸ .network (.inr (.inl at_point)) _ _ rfl next sent stepped
  case h_5 accepts at_point =>
    obtain ⟨⟨next, sent⟩, stepped, same⟩ := Option.bind_eq_some_iff.mp h
    cases same
    have next_point : Point.pollAgain = s.point.serviced := by rw [at_point]; rfl
    exact next_point ▸ .network (.inr (.inr (.inl at_point))) _ _ rfl next sent stepped
  case h_6 dhcp echo at_point =>
    obtain ⟨⟨next, sent⟩, stepped, same⟩ := Option.bind_eq_some_iff.mp h
    cases same
    have next_point : Point.wait = s.point.serviced := by rw [at_point]; rfl
    exact next_point ▸ .network (.inr (.inr (.inr at_point))) _ _ rfl next sent stepped
  case h_7 ok at_point =>
    cases ok with
    | true =>
      cases h
      exact .waited at_point
    | false =>
      cases h
      exact .unwaited at_point
  case h_8 values at_point =>
    split at h
    · rename_i lines accepts
      cases h
      exact .accepted at_point values lines accepts
    · rename_i lines rejects
      cases h
      exact .rejected at_point values lines rejects
  case h_9 ticks at_point =>
    obtain ⟨rfl, rfl⟩ := answer_parts h
    exact .clock at_point ticks
  case h_10 => cases h

end ServiceLoop

end Ws63Examples.Softap
