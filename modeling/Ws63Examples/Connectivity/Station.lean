import Ws63Examples.Connectivity.Runner
import Ws63Examples.Connectivity.Scan
import Ws63Examples.Lib.History
import Ws63Examples.Lib.Word

/-!
# The connectivity task

The radio is brought up, the test network searched, and then one network session
follows another until something stops the task. What `next_event` hands over is up
to the controller.
-/

namespace Ws63Examples.Connectivity

open Execution Word

/-- What the task is built with: the driver's diagnostics and its checks of the
credentials, and the test network. -/
structure Setup (β : Type) where
  code : WifiError β → DiagnosticCode
  Passphrase : Type
  tryFromAscii : List UInt8 → Option Passphrase
  StationConfig : Type
  wpa2Personal : ScanResult → Passphrase → Option StationConfig
  testSsid : List UInt8
  testPassphrase : List UInt8

inductive ExpectedEvent where
  | initialized
  | connected
  deriving DecidableEq, Repr

variable {β : Type}

namespace Station

/-- What stops the task for good, in a `halt()` of its own or of one it calls. -/
inductive Halt where
  | initErr
  | initTimeout
  | eventTimeout
  | unexpectedEvent
  | scan (reason : ScanHalt)
  | invalidCredentials
  | securityMismatch
  | connectErr
  | connectTimeout
  | network
  | backendFailed
  deriving DecidableEq, Repr

inductive Line (β : Type) where
  | initErr (error : WifiError β)
  | initErrTimeout
  | initializeOk (elapsed : Nat)
  | radioEvent (event : ExpectedEvent)
  | eventErrTimeout
  | eventErrUnexpected (event : RadioEvent β)
  | scan (line : ScanLine β)
  | scanOk (elapsed count : Nat) (truncated : Bool)
  | invalidCredentials
  | securityMismatch
  | connectBegin (reconnects : Nat)
  | connectErr (error : WifiError β)
  | connectErrTimeout
  | connectOk (elapsed reconnects : Nat)
  | a5bEvidence
  | reconnect (reason : UInt16)
  | netErrBackendFailed

inductive Effect (setup : Setup β) where
  | write (line : Line β)
  /-- A call of `connect`. -/
  | connect (station : setup.StationConfig)
  /-- What the network runner does. -/
  | network (effect : Connectivity.Effect)

/-- Where the task stands, before the answer it needs next. -/
inductive Point (setup : Setup β) (stack : Smoltcp) where
  | initializing
  | expectInitialized
  | scanClock
  | scan (startedAt : UInt64) (loop : ScanLoop β)
  | scanned (startedAt : UInt64) (loop : ScanLoop β) (outcome : ScanOutcome)
  | connect (result : ScanResult) (station : setup.StationConfig)
  | expectConnected (result : ScanResult)
  | newInterface (result : ScanResult)
  | network (result : ScanResult) (runner : Runner stack)
  | delay (result : ScanResult)
  | halted (reason : Halt)
  | panicked

/-- A call of the controller under its outer timeout, which is `none`. -/
abbrev Reply (β : Type) := Option (Except (WifiError β) Unit)

inductive Input (β : Type) (stack : Smoltcp) where
  | initializeController (startedAt : UInt64) (reply : Reply β) (finishedAt : UInt64)
  | clock (ticks : UInt64)
  | scan (reply : Option (ScanReply β × ScanResults))
  | connect (startedAt : UInt64) (reply : Reply β) (finishedAt : UInt64)
  | newInterface (iface : stack.Interface)
  /-- Anything the network runner asks for but an event. -/
  | network (input : Connectivity.Input stack)
  /-- `next_event`; `none` is its timeout. -/
  | nextEvent (event : Option (RadioEvent β))
  | delay

end Station

structure Station (setup : Setup β) (stack : Smoltcp) where
  point : Station.Point setup stack
  reconnects : Nat

variable [DecidableEq β] {setup : Setup β} {stack : Smoltcp}

namespace Station

def begin (setup : Setup β) (stack : Smoltcp) : Station setup stack := ⟨.initializing, 0⟩

/-- The milliseconds a line shows, at most those of an `u32`. -/
def elapsedMs (startedAt finishedAt : UInt64) : Nat :=
  min (monotonicMs finishedAt - monotonicMs startedAt).toNat u32Max

def halt (s : Station setup stack) (reason : Halt) : Station setup stack :=
  { s with point := .halted reason }

/-- The line of an event that is the expected one. -/
def matchesExpected : ExpectedEvent → RadioEvent β → Bool
  | .initialized, .initialized => true
  | .connected, .connected => true
  | _, _ => false

/-- `expect_event`, with what follows it. -/
def expectEvent (s : Station setup stack) (expected : ExpectedEvent) (next : Point setup stack)
    (out : List (Effect setup)) :
    Option (RadioEvent β) → Station setup stack × List (Effect setup)
  | none => (s.halt .eventTimeout, [.write .eventErrTimeout])
  | some event =>
    if matchesExpected expected event then
      ({ s with point := next }, .write (.radioEvent expected) :: out)
    else (s.halt .unexpectedEvent, [.write (.eventErrUnexpected event)])

/-- Where the scan loop leaves the task. -/
def afterScan (s : Station setup stack) (startedAt : UInt64) (loop : ScanLoop β) :
    Station setup stack :=
  match loop.point with
  | .left outcome => { s with point := .scanned startedAt loop outcome }
  | .halted .slicePanic => { s with point := .panicked }
  | .halted reason => s.halt (.scan reason)
  | _ => { s with point := .scan startedAt loop }

def runScan (s : Station setup stack) (startedAt : UInt64) (loop : ScanLoop β)
    (input : ScanLoop.Input β) : Option (Station setup stack × List (Effect setup)) := do
  let (loop, out) ← scanLoop setup.code setup.testSsid loop input
  return (s.afterScan startedAt loop, out.map fun line => .write (.scan line))

/-- The head of the connect loop, up to the call of `connect`. -/
def beginConnect (s : Station setup stack) (result : ScanResult) :
    Station setup stack × List (Effect setup) :=
  match setup.tryFromAscii setup.testPassphrase with
  | none => (s.halt .invalidCredentials, [.write .invalidCredentials])
  | some passphrase =>
    match setup.wpa2Personal result passphrase with
    | none => (s.halt .securityMismatch, [.write .securityMismatch])
    | some station =>
      ({ s with point := .connect result station },
        [.write (.connectBegin s.reconnects), .connect station])

/-- Behind the scan loop; a slice or an `expect` that fails is a panic. -/
def selectResult (s : Station setup stack) (loop : ScanLoop β) (outcome : ScanOutcome) :
    Station setup stack × List (Effect setup) :=
  match ScanSystem.selected setup.testSsid loop outcome with
  | some result => s.beginConnect result
  | none => ({ s with point := .panicked }, [])

/-- How the connect loop goes on with the network runner. -/
def afterNetwork (s : Station setup stack) (result : ScanResult) (runner : Runner stack) :
    Station setup stack × List (Effect setup) :=
  match runner with
  | .returned (.disconnected reason) =>
    ({ s with point := .delay result, reconnects := saturatingAdd u32Max s.reconnects 1 },
      [.write (.reconnect reason)])
  | .returned .backendFailed =>
    (s.halt .backendFailed, [.write .netErrBackendFailed, .write .a5bEvidence])
  | .halted => (s.halt .network, [])
  | .panicked => ({ s with point := .panicked }, [])
  | runner => ({ s with point := .network result runner }, [])

def runNetwork (s : Station setup stack) (result : ScanResult) (runner : Runner stack)
    (input : Connectivity.Input stack) : Option (Station setup stack × List (Effect setup)) := do
  let (runner, out) ← networkRunner runner input
  let (s, more) := s.afterNetwork result runner
  return (s, out.map .network ++ more)

/-- Whether an input of the runner is an event. -/
def dequeues : Connectivity.Input stack → Bool
  | .nextEvent _ => true
  | _ => false

end Station

/-- The task `connectivity`. -/
def connectivity (s : Station setup stack) (input : Station.Input β stack) :
    Option (Station setup stack × List (Station.Effect setup)) :=
  match s.point, input with
  | .initializing, .initializeController _ none _ =>
    some (s.halt .initTimeout, [.write .initErrTimeout])
  | .initializing, .initializeController _ (some (.error error)) _ =>
    some (s.halt .initErr, [.write (.initErr error)])
  | .initializing, .initializeController startedAt (some (.ok ())) finishedAt =>
    some ({ s with point := .expectInitialized },
      [.write (.initializeOk (Station.elapsedMs startedAt finishedAt))])
  | .expectInitialized, .nextEvent event => some (s.expectEvent .initialized .scanClock [] event)
  | .scanClock, .clock ticks => some ({ s with point := .scan ticks (.begin β) }, [])
  | .scan startedAt loop, .scan reply => s.runScan startedAt loop (.scan reply)
  | .scan startedAt loop, .nextEvent event => s.runScan startedAt loop (.nextEvent event)
  | .scan startedAt loop, .delay => s.runScan startedAt loop .delay
  | .scanned startedAt loop outcome, .clock ticks =>
    let (s, out) := s.selectResult loop outcome
    some (s, .write (.scanOk (Station.elapsedMs startedAt ticks) (min outcome.count u32Max)
      outcome.truncated) :: out)
  | .connect _ _, .connect _ none _ =>
    some (s.halt .connectTimeout, [.write .connectErrTimeout])
  | .connect _ _, .connect _ (some (.error error)) _ =>
    some (s.halt .connectErr, [.write (.connectErr error), .write .a5bEvidence])
  | .connect result _, .connect startedAt (some (.ok ())) finishedAt =>
    some ({ s with point := .expectConnected result },
      [.write (.connectOk (Station.elapsedMs startedAt finishedAt) s.reconnects)])
  | .expectConnected result, .nextEvent event =>
    some (s.expectEvent .connected (.newInterface result) [.write .a5bEvidence] event)
  | .newInterface result, .newInterface iface =>
    some ({ s with point := .network result (.boot iface) }, [])
  | .network result runner, .network input =>
    if Station.dequeues input then none else s.runNetwork result runner input
  | .network result runner, .nextEvent event =>
    s.runNetwork result runner (.nextEvent (event.map RadioEvent.plain))
  | .delay result, .delay => some (s.beginConnect result)
  | _, _ => none

namespace Station

/-- A halt over an event that is missing or not the expected one. -/
def Halt.OfEvent : Halt → Prop
  | .eventTimeout | .unexpectedEvent | .scan .eventTimeout | .scan .unexpectedEvent => True
  | _ => False

/-- The event a point waits for. -/
def Point.expected : Point setup stack → Option ExpectedEvent
  | .expectInitialized => some .initialized
  | .expectConnected _ => some .connected
  | _ => none

/-- What the scan loop is answered. -/
def Input.scanning : Input β stack → Option (ScanLoop.Input β)
  | .scan reply => some (.scan reply)
  | .nextEvent event => some (.nextEvent event)
  | .delay => some .delay
  | _ => none

/-- What `next_event` hands over. -/
def Input.handed : Input β stack → Option (RadioEvent β)
  | .nextEvent event => event
  | _ => none

/-- The lines and calls a connection begins with. -/
def Effect.opens : Effect setup → Bool
  | .write (.connectBegin _) | .connect _ => true
  | _ => false

def Effect.lost : Effect setup → Option UInt16
  | .write (.reconnect reason) => some reason
  | _ => none

/-- Nothing of a connection that begins or ends. -/
structure Quiet (out : List (Effect setup)) : Prop where
  opens : out.filter Effect.opens = []
  lost : out.filterMap Effect.lost = []

omit [DecidableEq β] in
theorem Quiet.of_forall {out : List (Effect setup)}
    (all : ∀ e ∈ out, e.opens = false ∧ e.lost = none) : Quiet out where
  opens := List.filter_eq_nil_iff.mpr fun e he => Bool.eq_false_iff.mp (all e he).1
  lost := List.filterMap_eq_nil_iff.mpr fun e he => (all e he).2

/-- What a step can do. -/
inductive Step (s : Station setup stack) :
    Input β stack → Station setup stack → List (Effect setup) → Prop
  | refused (input : Input β stack) (other : ∀ event, input ≠ .nextEvent event) (reason : Halt)
      (own : ¬ reason.OfEvent) (out : List (Effect setup)) (quiet : Quiet out) :
      Step s input (s.halt reason) out
  | initialized (at_point : s.point = .initializing) (startedAt finishedAt : UInt64) :
      Step s (.initializeController startedAt (some (.ok ())) finishedAt)
        { s with point := .expectInitialized }
        [.write (.initializeOk (elapsedMs startedAt finishedAt))]
  | eventTimeout (expected : ExpectedEvent) (expects : s.point.expected = some expected) :
      Step s (.nextEvent none) (s.halt .eventTimeout) [.write .eventErrTimeout]
  | unexpected (expected : ExpectedEvent) (expects : s.point.expected = some expected)
      (event : RadioEvent β) (differs : matchesExpected expected event = false) :
      Step s (.nextEvent (some event)) (s.halt .unexpectedEvent)
        [.write (.eventErrUnexpected event)]
  | expectInitialized (at_point : s.point = .expectInitialized) :
      Step s (.nextEvent (some .initialized)) { s with point := .scanClock }
        [.write (.radioEvent .initialized)]
  | expectConnected (result : ScanResult) (at_point : s.point = .expectConnected result) :
      Step s (.nextEvent (some .connected)) { s with point := .newInterface result }
        [.write (.radioEvent .connected), .write .a5bEvidence]
  | scanClock (at_point : s.point = .scanClock) (ticks : UInt64) :
      Step s (.clock ticks) { s with point := .scan ticks (.begin β) } []
  | scan (startedAt : UInt64) (loop : ScanLoop β) (at_point : s.point = .scan startedAt loop)
      (input : Input β stack) (answer : ScanLoop.Input β) (asks : input.scanning = some answer)
      (next : ScanLoop β) (lines : List (ScanLine β))
      (stepped : scanLoop setup.code setup.testSsid loop answer = some (next, lines)) :
      Step s input (s.afterScan startedAt next) (lines.map fun line => .write (.scan line))
  | scanned (startedAt : UInt64) (loop : ScanLoop β) (outcome : ScanOutcome)
      (at_point : s.point = .scanned startedAt loop outcome) (ticks : UInt64) (line : Line β)
      (quiet : Quiet [(.write line : Effect setup)]) :
      Step s (.clock ticks) (s.selectResult loop outcome).1
        (.write line :: (s.selectResult loop outcome).2)
  | connected (result : ScanResult) (station : setup.StationConfig)
      (at_point : s.point = .connect result station) (startedAt finishedAt : UInt64) :
      Step s (.connect startedAt (some (.ok ())) finishedAt)
        { s with point := .expectConnected result }
        [.write (.connectOk (elapsedMs startedAt finishedAt) s.reconnects)]
  | newInterface (result : ScanResult) (at_point : s.point = .newInterface result)
      (iface : stack.Interface) :
      Step s (.newInterface iface) { s with point := .network result (.boot iface) } []
  | network (result : ScanResult) (runner : Runner stack)
      (at_point : s.point = .network result runner) (input : Connectivity.Input stack)
      (other : dequeues input = false) (next : Runner stack) (out : List Connectivity.Effect)
      (stepped : networkRunner runner input = some (next, out)) :
      Step s (.network input) (s.afterNetwork result next).1
        (out.map .network ++ (s.afterNetwork result next).2)
  | networkEvent (result : ScanResult) (runner : Runner stack)
      (at_point : s.point = .network result runner) (event : Option (RadioEvent β))
      (next : Runner stack) (out : List Connectivity.Effect)
      (stepped : networkRunner runner (.nextEvent (event.map RadioEvent.plain)) =
        some (next, out)) :
      Step s (.nextEvent event) (s.afterNetwork result next).1
        (out.map .network ++ (s.afterNetwork result next).2)
  | delay (result : ScanResult) (at_point : s.point = .delay result) :
      Step s .delay (s.beginConnect result).1 (s.beginConnect result).2

omit [DecidableEq β] in
theorem expectEvent_cases (s : Station setup stack) (expected : ExpectedEvent)
    (next : Point setup stack) (out : List (Effect setup)) (event : Option (RadioEvent β)) :
    (event = none ∧ s.expectEvent expected next out event =
      (s.halt .eventTimeout, [.write .eventErrTimeout])) ∨
    ∃ handed, event = some handed ∧
      ((matchesExpected expected handed = true ∧ s.expectEvent expected next out event =
        ({ s with point := next }, .write (.radioEvent expected) :: out)) ∨
      (matchesExpected expected handed = false ∧ s.expectEvent expected next out event =
        (s.halt .unexpectedEvent, [.write (.eventErrUnexpected handed)]))) := by
  cases event with
  | none => exact .inl ⟨rfl, rfl⟩
  | some handed =>
    refine .inr ⟨handed, rfl, ?_⟩
    cases matched : matchesExpected expected handed with
    | true => exact .inl ⟨rfl, if_pos matched⟩
    | false => exact .inr ⟨rfl, if_neg (Bool.eq_false_iff.mp matched)⟩

theorem runScan_cases {s t : Station setup stack} {startedAt : UInt64} {loop : ScanLoop β}
    {input : ScanLoop.Input β} {out : List (Effect setup)}
    (h : s.runScan startedAt loop input = some (t, out)) :
    ∃ next lines, scanLoop setup.code setup.testSsid loop input = some (next, lines) ∧
      t = s.afterScan startedAt next ∧ out = lines.map fun line => .write (.scan line) := by
  unfold runScan at h
  obtain ⟨⟨next, lines⟩, stepped, same⟩ := Option.bind_eq_some_iff.mp h
  cases same
  exact ⟨next, lines, stepped, rfl, rfl⟩

omit [DecidableEq β] in
theorem runNetwork_cases {s t : Station setup stack} {result : ScanResult} {runner : Runner stack}
    {input : Connectivity.Input stack} {out : List (Effect setup)}
    (h : s.runNetwork result runner input = some (t, out)) :
    ∃ next sent, networkRunner runner input = some (next, sent) ∧
      t = (s.afterNetwork result next).1 ∧
      out = sent.map .network ++ (s.afterNetwork result next).2 := by
  unfold runNetwork at h
  obtain ⟨⟨next, sent⟩, stepped, same⟩ := Option.bind_eq_some_iff.mp h
  cases same
  exact ⟨next, sent, stepped, rfl, rfl⟩

theorem step_cases {s t : Station setup stack} {input : Input β stack}
    {out : List (Effect setup)} (h : connectivity s input = some (t, out)) :
    Step s input t out := by
  have quiet {line : Line β} (silent : (Effect.write line : Effect setup).opens = false ∧
      (Effect.write line : Effect setup).lost = none) : Quiet [(.write line : Effect setup)] := by
    apply Quiet.of_forall
    intro e he
    obtain rfl := List.mem_singleton.mp he
    exact silent
  unfold connectivity at h
  split at h
  case h_1 | h_2 | h_10 =>
    cases h
    refine .refused _ ?_ _ ?_ _ (quiet ?_)
    · exact nofun
    · exact id
    · exact ⟨rfl, rfl⟩
  case h_11 =>
    cases h
    refine .refused _ ?_ _ ?_ _ ?_
    · exact nofun
    · exact id
    · exact ⟨rfl, rfl⟩
  case h_3 startedAt finishedAt at_point =>
    cases h
    exact .initialized at_point startedAt finishedAt
  case h_4 event at_point =>
    have expects : s.point.expected = some .initialized := by rw [at_point]; rfl
    rcases expectEvent_cases s .initialized .scanClock [] event with ⟨rfl, same⟩ |
      ⟨handed, rfl, ⟨matched, same⟩ | ⟨differs, same⟩⟩
    · cases same ▸ h
      exact .eventTimeout _ expects
    · cases same ▸ h
      cases handed <;> cases matched
      exact .expectInitialized at_point
    · cases same ▸ h
      exact .unexpected _ expects handed differs
  case h_5 ticks at_point =>
    cases h
    exact .scanClock at_point ticks
  case h_6 startedAt loop _ at_point | h_7 startedAt loop _ at_point
      | h_8 startedAt loop at_point =>
    obtain ⟨next, lines, stepped, rfl, rfl⟩ := runScan_cases h
    exact .scan startedAt loop at_point _ _ rfl next lines stepped
  case h_9 startedAt loop outcome ticks at_point =>
    obtain ⟨rfl, rfl⟩ := answer_parts h
    exact .scanned startedAt loop outcome at_point ticks _ (quiet ⟨rfl, rfl⟩)
  case h_12 result station startedAt finishedAt at_point =>
    cases h
    exact .connected result station at_point startedAt finishedAt
  case h_13 result event at_point =>
    have expects : s.point.expected = some .connected := by rw [at_point]; rfl
    rcases expectEvent_cases s .connected (.newInterface result) [.write .a5bEvidence] event with
      ⟨rfl, same⟩ | ⟨handed, rfl, ⟨matched, same⟩ | ⟨differs, same⟩⟩
    · cases same ▸ h
      exact .eventTimeout _ expects
    · cases same ▸ h
      cases handed <;> cases matched
      exact .expectConnected result at_point
    · cases same ▸ h
      exact .unexpected _ expects handed differs
  case h_14 result iface at_point =>
    cases h
    exact .newInterface result at_point iface
  case h_15 result runner input at_point =>
    split at h
    · cases h
    · rename_i other
      obtain ⟨next, sent, stepped, rfl, rfl⟩ := runNetwork_cases h
      exact .network result runner at_point input (Bool.not_eq_true _ ▸ other) next sent stepped
  case h_16 result runner event at_point =>
    obtain ⟨next, sent, stepped, rfl, rfl⟩ := runNetwork_cases h
    exact .networkEvent result runner at_point event next sent stepped
  case h_17 result at_point =>
    obtain ⟨rfl, rfl⟩ := answer_parts h
    exact .delay result at_point
  case h_18 => cases h

end Station

end Ws63Examples.Connectivity
