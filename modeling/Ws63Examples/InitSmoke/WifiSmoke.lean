import Ws63Examples.InitSmoke.Flush
import Ws63Examples.InitSmoke.NetworkRunner

/-!
`run_wifi_smoke` of `main.rs` with a station profile: the radio is brought up, the test
network searched and joined, the vendor log drained and the network left to its runner.
Vendor callbacks log all the while.
-/

namespace Ws63Examples.InitSmoke

open Execution Slice

namespace WifiSmoke

/-- The station profiles; the last builds on `upstream-supplicant`. -/
inductive Profile where
  | wpa
  | wpa3
  | upstreamSupplicant
  | upstreamWpa3
  deriving DecidableEq, Repr

def Profile.upstream : Profile → Bool
  | .wpa | .wpa3 => false
  | .upstreamSupplicant | .upstreamWpa3 => true

inductive BackendErrorClass where
  | initializing
  | busy
  | operationTimeout
  | backendTimeout
  | cancelled
  | resourceUnavailable
  | unsupportedSecurity
  | connect
  | other
  deriving DecidableEq, Repr

structure BackendError where
  errorClass : BackendErrorClass
  code : UInt32
  deriving DecidableEq, Repr

/-- `hisi_rf::Error` -/
inductive RadioError where
  | alreadyInitialized
  | protocol
  | backend (error : BackendError)
  deriving DecidableEq, Repr

/-- `hisi_rf_rtos_driver::Error` -/
inductive RuntimeError where
  | notInstalled
  | alreadyInstalled
  | resourceExhausted
  | noTaskSlots
  | invalidHandle
  | invalidContext
  | timedOut
  | runtime
  | incompatibleContract
  | incompatibleExecutionProfile
  deriving DecidableEq, Repr

def radioErrorClassCode : BackendErrorClass → UInt32
  | .initializing => 1
  | .busy => 2
  | .operationTimeout => 3
  | .backendTimeout => 9
  | .cancelled => 7
  | .resourceUnavailable => 8
  | .unsupportedSecurity => 4
  | .connect => 5
  | .other => 6

def radioRuntimeErrorCode : RuntimeError → UInt32
  | .notInstalled => 1
  | .alreadyInstalled => 2
  | .resourceExhausted => 3
  | .noTaskSlots => 4
  | .invalidHandle => 5
  | .invalidContext => 6
  | .timedOut => 7
  | .runtime => 8
  | .incompatibleContract => 9
  | .incompatibleExecutionProfile => 10

/-- The class and the code of an error's line. -/
def radioErrorCodes : RadioError → UInt32 × UInt32
  | .alreadyInitialized => (0, 1)
  | .protocol => (0, 2)
  | .backend error => (radioErrorClassCode error.errorClass, error.code)

/-- The error a runner task that cannot be spawned stands for. -/
def spawnError (error : RuntimeError) : RadioError :=
  .backend ⟨.initializing, 0x30000000 ||| radioRuntimeErrorCode error⟩

inductive Security where
  | wpa3Personal
  | wpa2Wpa3PersonalTransition
  | other
  deriving DecidableEq, Repr

structure ScanResult where
  ssid : List UInt8
  frequencyMhz : UInt16
  rssiDbm : Int
  bssid : Vector UInt8 6
  security : Security
  deriving DecidableEq

structure ScanOutcome where
  count : Nat
  truncated : Bool
  deriving DecidableEq, Repr

/-- The controller's events, as far as their line tells them apart. -/
inductive RadioEvent where
  | initialized
  | scanCompleted
  | connected
  | disconnected
  | failed
  deriving DecidableEq, Repr

inductive SaePwe where
  | both

/-- What the program is built with: its profile, the driver's checks of a network, and
the test network. -/
structure Setup where
  profile : Profile
  maxScanResults : Nat
  Passphrase : Type
  tryFromAscii : List UInt8 → Option Passphrase
  StationConfig : Type
  wpa2Personal : ScanResult → Passphrase → (timeoutMs : Nat) → Option StationConfig
  wpa3Personal : ScanResult → Passphrase → SaePwe → (timeoutMs : Nat) → Option StationConfig
  stationSsid : StationConfig → List UInt8
  testSsid : List UInt8
  testPassphrase : List UInt8

inductive ErrorMarker where
  | init
  | scan
  | connect
  deriving DecidableEq, Repr

/-- The lines on the console. A profile's own prefix is left out, and a text that the
profile redacts is `none`. -/
inductive Line where
  | initBegin
  | initOk
  | error (marker : ErrorMarker) (errorClass code : UInt32)
  | radioEvent (kind : RadioEvent)
  | scanBegin
  | scanOk (count : Nat) (truncated : Bool)
  | accessPoint (ssid : Option (List UInt8)) (frequency : UInt16) (rssi : BitVec 32)
      (bssid : Vector UInt8 6)
  | runnerRxReady
  | apNotFound (ssid : Option (List UInt8))
  | invalidPassphrase
  | apSecurity (security : Security)
  | scanSecurity
  | unsupportedSecurity
  | connectBegin (ssid : Option (List UInt8))
  | connectOk (frequency : UInt16)
  | profileOk
  | supplicantDiagnostics
  | taskMetrics
  | heapMetrics
  deriving DecidableEq

/-- Whether a line says that the program gives up. -/
def Line.isFailure : Line → Bool
  | .error _ _ _ | .apNotFound _ | .invalidPassphrase | .scanSecurity | .unsupportedSecurity => true
  | _ => false

inductive Effect (setup : Setup) where
  | write (line : Line)
  /-- A call of `connect`. -/
  | connect (station : setup.StationConfig)
  | log (effect : FlushEffect)
  | network (effect : Runner.Effect)

/-- What follows a flush: the network runner, or the end of the function, whose guard
is dropped. -/
inductive After where
  | runner
  | returned
  deriving DecidableEq, Repr

/-- Where the program stands, before the answer it needs next. -/
inductive Point (setup : Setup) (stack : Smoltcp) where
  | begin
  | init
  | spawn
  | initController
  | initEvent
  | scan
  | scanEvent (scan : ScanOutcome) (results : Vector ScanResult setup.maxScanResults)
  | connect
  | connectEvent
  | flush (after : After)
  | device
  | network (runner : Runner stack)
  | returned
  | panicked

/-- What one step asks of its environment, with the answer. -/
inductive Input (setup : Setup) (stack : Smoltcp) where
  | begin
  | init (result : Except RadioError Unit)
  | spawn (result : Except RuntimeError Unit)
  /-- `radio_block_on` polls in vain and yields. -/
  | pending (yielded : Bool)
  | initController (result : Except RadioError Unit)
  | nextEvent (event : RadioEvent)
  | scan (result : Except RadioError ScanOutcome)
      (results : Vector ScanResult setup.maxScanResults)
  /-- `connect`, with the frequency of the network joined. -/
  | connect (result : Except RadioError UInt16)
  /-- A vendor callback logs. -/
  | push (bytes : List UInt8)
  /-- The drain of the vendor log goes on. -/
  | drain
  | device (iface : stack.Interface)
  | network (input : Runner.Input stack)

end WifiSmoke

/-- The program, with the buffer its guard drains. -/
structure WifiSmoke (setup : WifiSmoke.Setup) (stack : Smoltcp) where
  vendorLog : Flush vendorLogCapacity
  flushed : Bool
  point : WifiSmoke.Point setup stack

namespace WifiSmoke

variable {setup : Setup} {stack : Smoltcp}

def begin (setup : Setup) (stack : Smoltcp) : WifiSmoke setup stack :=
  ⟨Flush.begin .new, false, .begin⟩

def After.point : After → Point setup stack
  | .runner => .device
  | .returned => .returned

def panicked (s : WifiSmoke setup stack) : WifiSmoke setup stack := { s with point := .panicked }

/-- `VendorLogGuard::flush`, which drains the log once. -/
def flush (s : WifiSmoke setup stack) (after : After) : WifiSmoke setup stack :=
  if s.flushed then { s with point := after.point } else { s with point := .flush after }

/-- The lines before a `return`, which drops the guard. -/
def giveUp (s : WifiSmoke setup stack) (lines : List Line) :
    WifiSmoke setup stack × List (Effect setup) :=
  (s.flush .returned, lines.map .write)

/-- `write_radio_error` -/
def radioError (marker : ErrorMarker) (error : RadioError) : Line :=
  .error marker (radioErrorCodes error).1 (radioErrorCodes error).2

namespace Setup

variable (setup : Setup)

def redacted (ssid : List UInt8) : Option (List UInt8) :=
  if setup.profile = .upstreamWpa3 then none else some ssid

def accessPoint (result : ScanResult) : Line :=
  .accessPoint (setup.redacted result.ssid) result.frequencyMhz (.ofInt 32 result.rssiDbm)
    result.bssid

/-- Behind the list of access points. -/
def scanned : List Line :=
  if setup.profile.upstream then [.runnerRxReady, .taskMetrics, .heapMetrics] else []

/-- The security of the scan decides only in the upstream WPA3 profile. -/
def checkSecurity (result : ScanResult) : List Line × Bool :=
  match setup.profile, result.security with
  | .upstreamWpa3, .wpa3Personal => ([.apSecurity .wpa3Personal], true)
  | .upstreamWpa3, .wpa2Wpa3PersonalTransition => ([.apSecurity .wpa2Wpa3PersonalTransition], true)
  | .upstreamWpa3, .other => ([.scanSecurity], false)
  | _, _ => ([], true)

def stationConfig (result : ScanResult) (passphrase : setup.Passphrase) :
    Option setup.StationConfig :=
  match setup.profile with
  | .wpa | .upstreamSupplicant => setup.wpa2Personal result passphrase 30000
  | .wpa3 | .upstreamWpa3 => setup.wpa3Personal result passphrase .both 30000

/-- The lines up to the call of `connect`, and its argument. -/
def configure (result : ScanResult) : List Line × Option setup.StationConfig :=
  match setup.tryFromAscii setup.testPassphrase with
  | none => ([.invalidPassphrase], none)
  | some passphrase =>
    match setup.checkSecurity result with
    | (lines, false) => (lines, none)
    | (lines, true) =>
      match setup.stationConfig result passphrase with
      | none => (lines ++ [.unsupportedSecurity], none)
      | some station =>
        (lines ++ [.connectBegin (setup.redacted (setup.stationSsid station))], some station)

def connected : List Line :=
  if setup.profile.upstream then [.supplicantDiagnostics] else [.profileOk]

def connectFailed : List Line :=
  if setup.profile.upstream then [.supplicantDiagnostics, .taskMetrics] else [.taskMetrics]

end Setup

/-- Behind the event of the scan, up to the call of `connect`. -/
def selectNetwork (s : WifiSmoke setup stack) (scan : ScanOutcome)
    (results : Vector ScanResult setup.maxScanResults) :
    WifiSmoke setup stack × List (Effect setup) :=
  match slice results.toList 0 scan.count with
  | none => (s.panicked, [])
  | some found =>
    let shown := found.map setup.accessPoint ++ setup.scanned
    match found.find? fun result => result.ssid = setup.testSsid with
    | none => s.giveUp (shown ++ [.apNotFound (setup.redacted setup.testSsid)])
    | some result =>
      match setup.configure result with
      | (lines, none) => s.giveUp (shown ++ lines)
      | (lines, some station) =>
        ({ s with point := .connect }, (shown ++ lines).map .write ++ [.connect station])

/-- A callback that logs, in whatever state the program is. -/
def push (s : WifiSmoke setup stack) (bytes : List UInt8) :
    Option (WifiSmoke setup stack × List (Effect setup)) := do
  let (vendorLog, out) ← flushVendorLog s.vendorLog (.push bytes)
  let s := { s with vendorLog := vendorLog }
  return (if vendorLog.point = .panicked then s.panicked else s, out.map .log)

def drain (s : WifiSmoke setup stack) (after : After) :
    Option (WifiSmoke setup stack × List (Effect setup)) := do
  let (vendorLog, out) ← flushVendorLog s.vendorLog .resume
  let s := { s with vendorLog := vendorLog }
  return (if vendorLog.point = .panicked then s.panicked
    else if vendorLog.point = .finished then { s with flushed := true, point := after.point }
    else s, out.map .log)

/-- Whether the program waits in `radio_block_on`. -/
def Point.blocked : Point setup stack → Bool
  | .initController | .initEvent | .scan | .scanEvent _ _ | .connect | .connectEvent => true
  | _ => false

def runNetwork (icmp : IcmpWire) (s : WifiSmoke setup stack) (runner : Runner stack)
    (input : Runner.Input stack) : Option (WifiSmoke setup stack × List (Effect setup)) := do
  let (runner, out) ← networkRunner icmp runner input
  return ({ s with point := .network runner }, out.map .network)

end WifiSmoke

open WifiSmoke in
def runWifiSmoke {setup : Setup} {stack : Smoltcp} (icmp : IcmpWire) (s : WifiSmoke setup stack)
    (input : WifiSmoke.Input setup stack) :
    Option (WifiSmoke setup stack × List (WifiSmoke.Effect setup)) :=
  match s.point, input with
  | .panicked, _ => none
  | _, .push bytes => s.push bytes
  | .begin, .begin => some ({ s with point := .init }, [.write .initBegin])
  | .init, .init (.error error) => some (s.giveUp [radioError .init error])
  | .init, .init (.ok ()) => some ({ s with point := .spawn }, [])
  | .spawn, .spawn (.error error) => some (s.giveUp [radioError .init (spawnError error)])
  | .spawn, .spawn (.ok ()) => some ({ s with point := .initController }, [])
  | .initController, .initController (.error error) =>
    some (s.giveUp [radioError .init error, .taskMetrics])
  | .initController, .initController (.ok ()) =>
    some ({ s with point := .initEvent }, [.write .initOk])
  | .initEvent, .nextEvent event =>
    some ({ s with point := .scan }, [.write (.radioEvent event), .write .scanBegin])
  | .scan, .scan (.error error) _ => some (s.giveUp [radioError .scan error])
  | .scan, .scan (.ok scan) results =>
    some ({ s with point := .scanEvent scan results }, [.write (.scanOk scan.count scan.truncated)])
  | .scanEvent scan results, .nextEvent event =>
    let (s, out) := s.selectNetwork scan results
    some (s, .write (.radioEvent event) :: out)
  | .connect, .connect (.error error) =>
    some (s.giveUp (radioError .connect error :: setup.connectFailed))
  | .connect, .connect (.ok frequency) =>
    some ({ s with point := .connectEvent }, (.connectOk frequency :: setup.connected).map .write)
  | .connectEvent, .nextEvent event => some (s.flush .runner, [.write (.radioEvent event)])
  | .flush after, .drain => s.drain after
  | .device, .device iface => some ({ s with point := .network (.boot iface) }, [])
  | .network runner, .network input => runNetwork icmp s runner input
  | point, .pending yielded =>
    if point.blocked then some (if yielded then s else s.panicked, []) else none
  | _, _ => none

namespace WifiSmoke

variable {setup : Setup} {stack : Smoltcp} {icmp : IcmpWire}

/-- What a step can do. -/
inductive Step (icmp : IcmpWire) (s : WifiSmoke setup stack) :
    Input setup stack → WifiSmoke setup stack → List (Effect setup) → Prop
  | push (running : s.point ≠ .panicked) (bytes : List UInt8) (vendorLog : Flush vendorLogCapacity)
      (out : List FlushEffect)
      (stepped : flushVendorLog s.vendorLog (.push bytes) = some (vendorLog, out)) :
      Step icmp s (.push bytes)
        (if vendorLog.point = .panicked then { s with vendorLog := vendorLog }.panicked
          else { s with vendorLog := vendorLog }) (out.map .log)
  | begin (at_point : s.point = .begin) :
      Step icmp s .begin { s with point := .init } [.write .initBegin]
  | initErr (at_point : s.point = .init) (error : RadioError) :
      Step icmp s (.init (.error error)) (s.flush .returned) [.write (radioError .init error)]
  | init (at_point : s.point = .init) : Step icmp s (.init (.ok ())) { s with point := .spawn } []
  | spawnErr (at_point : s.point = .spawn) (error : RuntimeError) :
      Step icmp s (.spawn (.error error)) (s.flush .returned)
        [.write (radioError .init (spawnError error))]
  | spawn (at_point : s.point = .spawn) :
      Step icmp s (.spawn (.ok ())) { s with point := .initController } []
  | initControllerErr (at_point : s.point = .initController) (error : RadioError) :
      Step icmp s (.initController (.error error)) (s.flush .returned)
        [.write (radioError .init error), .write .taskMetrics]
  | initController (at_point : s.point = .initController) :
      Step icmp s (.initController (.ok ())) { s with point := .initEvent } [.write .initOk]
  | initEvent (at_point : s.point = .initEvent) (event : RadioEvent) :
      Step icmp s (.nextEvent event) { s with point := .scan }
        [.write (.radioEvent event), .write .scanBegin]
  | scanErr (at_point : s.point = .scan) (error : RadioError)
      (results : Vector ScanResult setup.maxScanResults) :
      Step icmp s (.scan (.error error) results) (s.flush .returned)
        [.write (radioError .scan error)]
  | scan (at_point : s.point = .scan) (scan : ScanOutcome)
      (results : Vector ScanResult setup.maxScanResults) :
      Step icmp s (.scan (.ok scan) results) { s with point := .scanEvent scan results }
        [.write (.scanOk scan.count scan.truncated)]
  | scanEvent (scan : ScanOutcome) (results : Vector ScanResult setup.maxScanResults)
      (at_point : s.point = .scanEvent scan results) (event : RadioEvent) :
      Step icmp s (.nextEvent event) (s.selectNetwork scan results).1
        (.write (.radioEvent event) :: (s.selectNetwork scan results).2)
  | connectErr (at_point : s.point = .connect) (error : RadioError) :
      Step icmp s (.connect (.error error)) (s.flush .returned)
        ((radioError .connect error :: setup.connectFailed).map .write)
  | connect (at_point : s.point = .connect) (frequency : UInt16) :
      Step icmp s (.connect (.ok frequency)) { s with point := .connectEvent }
        ((.connectOk frequency :: setup.connected).map .write)
  | connectEvent (at_point : s.point = .connectEvent) (event : RadioEvent) :
      Step icmp s (.nextEvent event) (s.flush .runner) [.write (.radioEvent event)]
  | drain (after : After) (at_point : s.point = .flush after) (vendorLog : Flush vendorLogCapacity)
      (out : List FlushEffect)
      (stepped : flushVendorLog s.vendorLog .resume = some (vendorLog, out)) :
      Step icmp s .drain
        (if vendorLog.point = .panicked then { s with vendorLog := vendorLog }.panicked
          else if vendorLog.point = .finished then ⟨vendorLog, true, after.point⟩
          else { s with vendorLog := vendorLog }) (out.map .log)
  | device (at_point : s.point = .device) (iface : stack.Interface) :
      Step icmp s (.device iface) { s with point := .network (.boot iface) } []
  | network (runner next : Runner stack) (at_point : s.point = .network runner)
      (input : Runner.Input stack) (out : List Runner.Effect)
      (stepped : networkRunner icmp runner input = some (next, out)) :
      Step icmp s (.network input) { s with point := .network next } (out.map .network)
  | pending (blocked : s.point.blocked = true) : Step icmp s (.pending true) s []
  | yieldErr (blocked : s.point.blocked = true) : Step icmp s (.pending false) s.panicked []

/-- The ways on from the results of a scan. -/
inductive Selected (s : WifiSmoke setup stack) (scan : ScanOutcome)
    (results : Vector ScanResult setup.maxScanResults) :
    WifiSmoke setup stack → List (Effect setup) → Prop
  | panicked (outside : slice results.toList 0 scan.count = none) :
      Selected s scan results s.panicked []
  | notFound (found : List ScanResult) (inside : slice results.toList 0 scan.count = some found)
      (missing : found.find? (fun result => result.ssid = setup.testSsid) = none) :
      Selected s scan results (s.flush .returned) ((found.map setup.accessPoint ++ setup.scanned ++
        [Line.apNotFound (setup.redacted setup.testSsid)]).map .write)
  | refused (found : List ScanResult) (inside : slice results.toList 0 scan.count = some found)
      (result : ScanResult)
      (first : found.find? (fun result => result.ssid = setup.testSsid) = some result)
      (lines : List Line) (configured : setup.configure result = (lines, none)) :
      Selected s scan results (s.flush .returned)
        ((found.map setup.accessPoint ++ setup.scanned ++ lines).map .write)
  | connect (found : List ScanResult) (inside : slice results.toList 0 scan.count = some found)
      (result : ScanResult)
      (first : found.find? (fun result => result.ssid = setup.testSsid) = some result)
      (lines : List Line) (station : setup.StationConfig)
      (configured : setup.configure result = (lines, some station)) :
      Selected s scan results { s with point := .connect }
        ((found.map setup.accessPoint ++ setup.scanned ++ lines).map .write ++ [.connect station])

theorem selectNetwork_cases (s : WifiSmoke setup stack) (scan : ScanOutcome)
    (results : Vector ScanResult setup.maxScanResults) :
    Selected s scan results (s.selectNetwork scan results).1 (s.selectNetwork scan results).2 := by
  unfold selectNetwork
  split
  · rename_i outside
    exact .panicked outside
  · rename_i found inside
    dsimp only
    split
    · rename_i missing
      exact .notFound found inside missing
    · rename_i result first
      split
      · rename_i lines configured
        exact .refused found inside result first lines configured
      · rename_i lines station configured
        exact .connect found inside result first lines station configured

variable {s t : WifiSmoke setup stack} {input : Input setup stack} {out : List (Effect setup)}

theorem step_cases (h : runWifiSmoke icmp s input = some (t, out)) : Step icmp s input t out := by
  unfold runWifiSmoke at h
  split at h
  case h_1 => cases h
  case h_2 bytes running =>
    obtain ⟨⟨vendorLog, said⟩, stepped, same⟩ := Option.bind_eq_some_iff.mp h
    cases same
    exact .push running bytes vendorLog said stepped
  case h_3 at_point =>
    cases h
    exact .begin at_point
  case h_4 error at_point =>
    cases h
    exact .initErr at_point error
  case h_5 at_point =>
    cases h
    exact .init at_point
  case h_6 error at_point =>
    cases h
    exact .spawnErr at_point error
  case h_7 at_point =>
    cases h
    exact .spawn at_point
  case h_8 error at_point =>
    cases h
    exact .initControllerErr at_point error
  case h_9 at_point =>
    cases h
    exact .initController at_point
  case h_10 event at_point =>
    cases h
    exact .initEvent at_point event
  case h_11 error results at_point =>
    cases h
    exact .scanErr at_point error results
  case h_12 scan results at_point =>
    cases h
    exact .scan at_point scan results
  case h_13 scan results event at_point =>
    cases h
    exact .scanEvent scan results at_point event
  case h_14 error at_point =>
    cases h
    exact .connectErr at_point error
  case h_15 frequency at_point =>
    cases h
    exact .connect at_point frequency
  case h_16 event at_point =>
    cases h
    exact .connectEvent at_point event
  case h_17 after at_point =>
    obtain ⟨⟨vendorLog, said⟩, stepped, same⟩ := Option.bind_eq_some_iff.mp h
    cases same
    exact .drain after at_point vendorLog said stepped
  case h_18 iface at_point =>
    cases h
    exact .device at_point iface
  case h_19 runner input at_point =>
    obtain ⟨⟨next, said⟩, stepped, same⟩ := Option.bind_eq_some_iff.mp h
    cases same
    exact .network runner next at_point input said stepped
  case h_20 yielded _ =>
    split at h
    · rename_i blocked
      cases yielded <;> cases h
      · exact .yieldErr blocked
      · exact .pending blocked
    · cases h
  case h_21 => cases h

/-- A move of the program. -/
abbrev Smoking (setup : Setup) (stack : Smoltcp) :=
  Move (WifiSmoke setup stack) (Input setup stack) (Effect setup)

end WifiSmoke

end Ws63Examples.InitSmoke
