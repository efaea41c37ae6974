import Ws63Examples.InitSmoke.SmokeLog

/-!
# The outcome of the smoke test

Where the program stands tells what it was answered: each stage once and in order. The
one line it gives up with names the stage that failed, and it joins nothing but the test
network.
-/

namespace Ws63Examples.InitSmoke

open Execution Slice

namespace WifiSmoke

variable {setup : Setup} {stack : Smoltcp} {icmp : IcmpWire} {s t : WifiSmoke setup stack}
  {ms : List (Smoking setup stack)}

/-- Why the test network cannot be joined, with the line that says so. -/
inductive Refused (setup : Setup) (result : ScanResult) : Line → Prop
  | passphrase (bad : setup.tryFromAscii setup.testPassphrase = none) :
      Refused setup result .invalidPassphrase
  | scanSecurity (profile : setup.profile = .upstreamWpa3) (other : result.security = .other) :
      Refused setup result .scanSecurity
  | unsupported (passphrase : setup.Passphrase)
      (known : setup.tryFromAscii setup.testPassphrase = some passphrase)
      (rejected : setup.stationConfig result passphrase = none) :
      Refused setup result .unsupportedSecurity

/-- A configuration made of a scan result and the test passphrase. -/
structure Configures (setup : Setup) (result : ScanResult) (station : setup.StationConfig) :
    Prop where
  made : ∃ passphrase, setup.tryFromAscii setup.testPassphrase = some passphrase ∧
    setup.stationConfig result passphrase = some station
  secure : setup.profile = .upstreamWpa3 → result.security ≠ .other

/-- The lines that say the program gives up. -/
def failureLines (lines : List Line) : List Line := lines.filter Line.isFailure

inductive Security.Checked (setup : Setup) (result : ScanResult) : List Line × Bool → Prop
  | secure (lines : List Line) (quiet : failureLines lines = [])
      (secure : setup.profile = .upstreamWpa3 → result.security ≠ .other) :
      Checked setup result (lines, true)
  | refused (profile : setup.profile = .upstreamWpa3) (other : result.security = .other) :
      Checked setup result ([.scanSecurity], false)

theorem checkSecurity_cases (setup : Setup) (result : ScanResult) :
    Security.Checked setup result (setup.checkSecurity result) := by
  unfold Setup.checkSecurity
  split
  · rename_i personal
    exact .secure _ rfl (fun _ => by rw [personal]; nofun)
  · rename_i transition
    exact .secure _ rfl (fun _ => by rw [transition]; nofun)
  · rename_i profile other
    exact .refused profile other
  · rename_i first second third
    refine .secure _ rfl ?_
    intro profile other
    exact third profile other

/-- Either a refusal with its one line, or a configuration without any. -/
inductive Configured (setup : Setup) (result : ScanResult) :
    List Line × Option setup.StationConfig → Prop
  | refused (lines : List Line) (line : Line) (said : failureLines lines = [line])
      (why : Refused setup result line) : Configured setup result (lines, none)
  | station (lines : List Line) (quiet : failureLines lines = []) (station : setup.StationConfig)
      (made : Configures setup result station) : Configured setup result (lines, some station)

theorem configure_cases (setup : Setup) (result : ScanResult) :
    Configured setup result (setup.configure result) := by
  unfold Setup.configure
  split
  · rename_i bad
    exact .refused _ .invalidPassphrase rfl (.passphrase bad)
  · rename_i passphrase known
    have checked := checkSecurity_cases setup result
    split
    · rename_i lines decision
      rw [decision] at checked
      cases checked with
      | refused profile other => exact .refused _ .scanSecurity rfl (.scanSecurity profile other)
    · rename_i lines decision
      rw [decision] at checked
      cases checked with
      | secure _ quiet secure =>
        split
        · rename_i rejected
          refine .refused _ .unsupportedSecurity ?_ (.unsupported passphrase known rejected)
          rw [failureLines, List.filter_append] at *
          rw [quiet]
          rfl
        · rename_i station made
          refine .station _ ?_ station ⟨⟨passphrase, known, made⟩, secure⟩
          rw [failureLines, List.filter_append] at *
          rw [quiet]
          rfl

/-- The first access point of the test network among those a scan counts. -/
def Chosen (setup : Setup) (scan : ScanOutcome) (results : Vector ScanResult setup.maxScanResults)
    (result : ScanResult) : Prop :=
  ∃ found, slice results.toList 0 scan.count = some found ∧
    found.find? (fun result => result.ssid = setup.testSsid) = some result

/-- An answer of the radio or of the runtime, the waiting apart. -/
def Input.answers : Input setup stack → Bool
  | .init _ | .spawn _ | .initController _ | .nextEvent _ | .scan _ _ | .connect _ => true
  | _ => false

def Effect.line? : Effect setup → Option Line
  | .write line => some line
  | _ => none

def Effect.station? : Effect setup → Option setup.StationConfig
  | .connect station => some station
  | _ => none

def answers (ms : List (Smoking setup stack)) : List (Input setup stack) :=
  (inputs ms).filter Input.answers

/-- The lines a history gave up with. -/
def failures (ms : List (Smoking setup stack)) : List Line :=
  failureLines ((effects ms).filterMap Effect.line?)

/-- The networks a history called `connect` for. -/
def stations (ms : List (Smoking setup stack)) : List setup.StationConfig :=
  (effects ms).filterMap Effect.station?

/-- The radio is up. -/
def started : List (Input setup stack) :=
  [.init (.ok ()), .spawn (.ok ()), .initController (.ok ())]

/-- The radio is up, the scan is over and its event was read. -/
def searched (e : RadioEvent) (scan : ScanOutcome)
    (results : Vector ScanResult setup.maxScanResults) (e' : RadioEvent) :
    List (Input setup stack) :=
  started ++ [.nextEvent e, .scan (.ok scan) results, .nextEvent e']

/-- The answers that end in a failure, the calls of `connect` before it and its line. -/
inductive Failed (setup : Setup) {stack : Smoltcp} :
    List (Input setup stack) → List setup.StationConfig → Line → Prop
  | init (error : RadioError) : Failed setup [.init (.error error)] [] (radioError .init error)
  | spawn (error : RuntimeError) :
      Failed setup [.init (.ok ()), .spawn (.error error)] [] (radioError .init (spawnError error))
  | initController (error : RadioError) :
      Failed setup [.init (.ok ()), .spawn (.ok ()), .initController (.error error)] []
        (radioError .init error)
  | scan (e : RadioEvent) (error : RadioError) (results : Vector ScanResult setup.maxScanResults) :
      Failed setup (started ++ [.nextEvent e, .scan (.error error) results]) []
        (radioError .scan error)
  | notFound (e e' : RadioEvent) (scan : ScanOutcome)
      (results : Vector ScanResult setup.maxScanResults) (found : List ScanResult)
      (inside : slice results.toList 0 scan.count = some found)
      (missing : ∀ result ∈ found, result.ssid ≠ setup.testSsid) :
      Failed setup (searched e scan results e') []
        (.apNotFound (setup.redacted setup.testSsid))
  | refused (e e' : RadioEvent) (scan : ScanOutcome)
      (results : Vector ScanResult setup.maxScanResults) (result : ScanResult)
      (chosen : Chosen setup scan results result) (line : Line)
      (why : Refused setup result line) : Failed setup (searched e scan results e') [] line
  | connect (e e' : RadioEvent) (scan : ScanOutcome)
      (results : Vector ScanResult setup.maxScanResults) (result : ScanResult)
      (chosen : Chosen setup scan results result) (station : setup.StationConfig)
      (made : Configures setup result station) (error : RadioError) :
      Failed setup (searched e scan results e' ++ [.connect (.error error)]) [station]
        (radioError .connect error)

/-- Every stage answered well, and the test network was joined. -/
inductive Joined (setup : Setup) {stack : Smoltcp} :
    List (Input setup stack) → List setup.StationConfig → Prop
  | joined (e e' e'' : RadioEvent) (scan : ScanOutcome)
      (results : Vector ScanResult setup.maxScanResults) (result : ScanResult)
      (chosen : Chosen setup scan results result) (station : setup.StationConfig)
      (made : Configures setup result station) (frequency : UInt16) :
      Joined setup (searched e scan results e' ++ [.connect (.ok frequency), .nextEvent e''])
        [station]

/-- The program has given up, or flushes its log to do so. -/
def Point.gaveUp : Point setup stack → Bool
  | .flush .returned | .returned => true
  | _ => false

/-- The network runner has the network, or is about to. -/
def Point.online : Point setup stack → Bool
  | .flush .runner | .device | .network _ => true
  | _ => false

/-- What a point on the way tells: the answers so far and the calls of `connect`. -/
inductive Stage (setup : Setup) {stack : Smoltcp} : Point setup stack →
    List (Input setup stack) → List setup.StationConfig → Prop
  | begin : Stage setup .begin [] []
  | init : Stage setup .init [] []
  | spawn : Stage setup .spawn [.init (.ok ())] []
  | initController : Stage setup .initController [.init (.ok ()), .spawn (.ok ())] []
  | initEvent : Stage setup .initEvent started []
  | scan (e : RadioEvent) : Stage setup .scan (started ++ [.nextEvent e]) []
  | scanEvent (e : RadioEvent) (scan : ScanOutcome)
      (results : Vector ScanResult setup.maxScanResults) :
      Stage setup (.scanEvent scan results)
        (started ++ [.nextEvent e, .scan (.ok scan) results]) []
  | connect (e e' : RadioEvent) (scan : ScanOutcome)
      (results : Vector ScanResult setup.maxScanResults) (result : ScanResult)
      (chosen : Chosen setup scan results result) (station : setup.StationConfig)
      (made : Configures setup result station) :
      Stage setup .connect (searched e scan results e') [station]
  | connectEvent (e e' : RadioEvent) (scan : ScanOutcome)
      (results : Vector ScanResult setup.maxScanResults) (result : ScanResult)
      (chosen : Chosen setup scan results result) (station : setup.StationConfig)
      (made : Configures setup result station) (frequency : UInt16) :
      Stage setup .connectEvent (searched e scan results e' ++ [.connect (.ok frequency)])
        [station]

/-- What any point tells, with the failure lines. -/
inductive Progress (setup : Setup) {stack : Smoltcp} : Point setup stack →
    List (Input setup stack) → List setup.StationConfig → List Line → Prop
  | stage (point : Point setup stack) (answers : List (Input setup stack))
      (stations : List setup.StationConfig) (stage : Stage setup point answers stations) :
      Progress setup point answers stations []
  | online (point : Point setup stack) (online : point.online = true)
      (answers : List (Input setup stack)) (stations : List setup.StationConfig)
      (joined : Joined setup answers stations) : Progress setup point answers stations []
  | gaveUp (point : Point setup stack) (gaveUp : point.gaveUp = true)
      (answers : List (Input setup stack)) (stations : List setup.StationConfig) (line : Line)
      (failed : Failed setup answers stations line) : Progress setup point answers stations [line]
  | panicked (before : Point setup stack) (answers : List (Input setup stack))
      (stations : List setup.StationConfig) (stage : Stage setup before answers stations)
      (more : List (Input setup stack)) : Progress setup .panicked (answers ++ more) stations []

theorem online_late {point : Point setup stack} (h : point.online = true) :
    point.phase ≠ .before := by
  intro before
  cases point with
  | flush | device | network => cases before
  | _ => cases h

theorem gaveUp_late {point : Point setup stack} (h : point.gaveUp = true) :
    point.phase ≠ .before := by
  intro before
  cases point with
  | flush | returned => cases before
  | _ => cases h

theorem gaveUp_offline {point : Point setup stack} (h : point.gaveUp = true) :
    point.online = false := by
  cases point with
  | flush after => cases after <;> first | rfl | cases h
  | device | network => cases h
  | _ => rfl

theorem Progress.staged {point : Point setup stack} {answers : List (Input setup stack)}
    {stations : List setup.StationConfig} {failures : List Line} (before : point.phase = .before)
    (running : point ≠ .panicked) (h : Progress setup point answers stations failures) :
    Stage setup point answers stations ∧ failures = [] := by
  cases h with
  | stage _ _ _ stage => exact ⟨stage, rfl⟩
  | online _ online => exact absurd before (online_late online)
  | gaveUp _ gaveUp => exact absurd before (gaveUp_late gaveUp)
  | panicked => exact absurd rfl running

@[simp] theorem filterMap_line (lines : List Line) :
    (lines.map (.write : Line → Effect setup)).filterMap Effect.line? = lines := by
  simp [List.filterMap_map, Function.comp_def, Effect.line?]

@[simp] theorem filterMap_station (lines : List Line) :
    (lines.map (.write : Line → Effect setup)).filterMap Effect.station? = [] := by
  simp [List.filterMap_eq_nil_iff, Effect.station?]

theorem failureLines_append (xs ys : List Line) :
    failureLines (xs ++ ys) = failureLines xs ++ failureLines ys :=
  List.filter_append ..

/-- The list of access points is no failure. -/
theorem shown_quiet (setup : Setup) (found : List ScanResult) :
    failureLines (found.map setup.accessPoint ++ setup.scanned) = [] := by
  rw [failureLines_append, List.append_eq_nil_iff]
  constructor
  · simp [failureLines, List.filter_eq_nil_iff, Setup.accessPoint, Line.isFailure]
  · unfold Setup.scanned
    split <;> rfl

theorem connected_quiet (setup : Setup) : failureLines setup.connected = [] := by
  unfold Setup.connected
  split <;> rfl

theorem connectFailed_quiet (setup : Setup) : failureLines setup.connectFailed = [] := by
  unfold Setup.connectFailed
  split <;> rfl

/-- What one move adds to the answers, the calls of `connect` and the failure lines. -/
def Advances (s : WifiSmoke setup stack) (input : Input setup stack) (t : WifiSmoke setup stack)
    (out : List (Effect setup)) : Prop :=
  ∀ answers stations failures, Progress setup s.point answers stations failures →
    Progress setup t.point (answers ++ [input].filter Input.answers)
      (stations ++ out.filterMap Effect.station?)
      (failures ++ failureLines (out.filterMap Effect.line?))

/-- A move that only waits, logs or drains. -/
theorem advances_still {input : Input setup stack} {out : List (Effect setup)}
    (other : input.answers = false) (uncalled : out.filterMap Effect.station? = [])
    (unsaid : out.filterMap Effect.line? = [])
    (still : ∀ answers stations failures, Progress setup s.point answers stations failures →
      Progress setup t.point answers stations failures) :
    Advances s input t out := by
  intro answers stations failures progress
  simpa [other, uncalled, unsaid, failureLines] using still _ _ _ progress

theorem selected_failures (setup : Setup) (e' : RadioEvent) (found : List ScanResult)
    (lines : List Line) (rest : List (Effect setup)) (unsaid : rest.filterMap Effect.line? = []) :
    failureLines ((.write (.radioEvent e') :: ((found.map setup.accessPoint ++ setup.scanned ++
      lines).map .write ++ rest)).filterMap Effect.line?) = failureLines lines := by
  have event : (.write (.radioEvent e') : Effect setup).line? = some (.radioEvent e') := rfl
  rw [List.filterMap_cons_some event, List.filterMap_append, unsaid, List.append_nil,
    filterMap_line, ← List.singleton_append, failureLines_append, failureLines_append,
    shown_quiet]
  rfl

theorem selected_stations (setup : Setup) (e' : RadioEvent) (found : List ScanResult)
    (lines : List Line) (rest : List (Effect setup)) :
    (.write (.radioEvent e') :: ((found.map setup.accessPoint ++ setup.scanned ++
      lines).map .write ++ rest)).filterMap Effect.station? = rest.filterMap Effect.station? := by
  have event : (.write (.radioEvent e') : Effect setup).station? = none := rfl
  rw [List.filterMap_cons_none event, List.filterMap_append, filterMap_station, List.nil_append]

/-- A move on the way. -/
theorem advances_from {point : Point setup stack} (at_point : s.point = point)
    (before : point.phase = .before) (running : point ≠ .panicked) {input : Input setup stack}
    {out : List (Effect setup)}
    (on : ∀ answers stations, Stage setup point answers stations →
      Progress setup t.point (answers ++ [input].filter Input.answers)
        (stations ++ out.filterMap Effect.station?) (failureLines (out.filterMap Effect.line?))) :
    Advances s input t out := by
  intro answers stations failures progress
  rw [at_point] at progress
  obtain ⟨stage, rfl⟩ := progress.staged before running
  exact on answers stations stage

theorem selected_advances {e' : RadioEvent} {scan : ScanOutcome}
    {results : Vector ScanResult setup.maxScanResults}
    (at_point : s.point = .scanEvent scan results) (unflushed : s.flushed = false)
    {out : List (Effect setup)} (h : Selected s scan results t out) :
    Advances s (.nextEvent e') t (.write (.radioEvent e') :: out) := by
  refine advances_from at_point rfl nofun ?_
  intro answers stations stage
  cases stage with
  | scanEvent e =>
    cases h with
    | panicked outside => exact .panicked _ _ _ (.scanEvent e scan results) _
    | notFound found inside missing =>
      have said := selected_failures setup e' found
        [.apNotFound (setup.redacted setup.testSsid)] [] rfl
      have called := selected_stations setup e' found
        [.apNotFound (setup.redacted setup.testSsid)] []
      rw [List.append_nil] at said called
      rw [said, called, flush_unflushed unflushed]
      refine .gaveUp _ rfl _ _ _ (.notFound e e' scan results found inside ?_)
      intro result member
      simpa using List.find?_eq_none.mp missing result member
    | refused found inside result first lines configured =>
      have decided := configure_cases setup result
      rw [configured] at decided
      cases decided with
      | refused _ line one why =>
        have said := selected_failures setup e' found lines [] rfl
        have called := selected_stations setup e' found lines []
        rw [List.append_nil] at said called
        rw [said, called, one, flush_unflushed unflushed]
        exact .gaveUp _ rfl _ _ _
          (.refused e e' scan results result ⟨found, inside, first⟩ line why)
    | connect found inside result first lines station configured =>
      have decided := configure_cases setup result
      rw [configured] at decided
      cases decided with
      | station _ quiet _ made =>
        rw [selected_failures setup e' found lines [.connect station] rfl,
          selected_stations setup e' found lines [.connect station], quiet]
        exact .stage _ _ _ (.connect e e' scan results result ⟨found, inside, first⟩ station made)

/-- Behind a flush the program stands where it was to go. -/
theorem drained_progress {after : After} {answers : List (Input setup stack)}
    {stations : List setup.StationConfig} {failures : List Line}
    (progress : Progress setup (.flush after : Point setup stack) answers stations failures) :
    Progress setup (after.point : Point setup stack) answers stations failures := by
  cases progress with
  | stage _ _ _ stage => cases stage
  | online _ online _ _ joined =>
    cases after with
    | runner => exact .online _ rfl _ _ joined
    | returned => cases online
  | gaveUp _ gaveUp _ _ line failed =>
    cases after with
    | runner => cases gaveUp
    | returned => exact .gaveUp _ rfl _ _ _ failed

theorem online_progress {point next : Point setup stack} {answers : List (Input setup stack)}
    {stations : List setup.StationConfig} {failures : List Line}
    (after : point.phase = .after) (online : point.online = true) (stays : next.online = true)
    (progress : Progress setup point answers stations failures) :
    Progress setup next answers stations failures := by
  cases progress with
  | stage _ _ _ stage => cases stage <;> cases after
  | online _ _ _ _ joined => exact .online _ stays _ _ joined
  | gaveUp _ gaveUp => cases online.symm.trans (gaveUp_offline gaveUp)
  | panicked => cases after

theorem step_advances {input : Input setup stack} {out : List (Effect setup)}
    (h : Step icmp s input t out) (unflushed : s.point.phase = .before → s.flushed = false)
    (running : t.vendorLog.point ≠ .panicked) : Advances s input t out := by
  have fresh {point : Point setup stack} (at_point : s.point = point)
      (before : point.phase = .before) (after : After) :
      s.flush after = { s with point := .flush after } :=
    flush_unflushed (unflushed (at_point ▸ before)) after
  cases h with
  | push running' bytes vendorLog said stepped =>
    split at running
    · rename_i full
      exact absurd full running
    · rename_i more
      rw [if_neg more]
      refine advances_still rfl ?_ ?_ fun _ _ _ progress => progress
      · simp [List.filterMap_eq_nil_iff, Effect.station?]
      · simp [List.filterMap_eq_nil_iff, Effect.line?]
  | drain after at_point vendorLog said stepped =>
    split at running
    · rename_i full
      exact absurd full running
    · rename_i more
      rw [if_neg more]
      refine advances_still rfl ?_ ?_ ?_
      · simp [List.filterMap_eq_nil_iff, Effect.station?]
      · simp [List.filterMap_eq_nil_iff, Effect.line?]
      · intro answers stations failures progress
        split
        · rw [at_point] at progress
          exact drained_progress progress
        · exact progress
  | device at_point iface =>
    refine advances_still rfl rfl rfl fun _ _ _ progress => ?_
    rw [at_point] at progress
    exact online_progress rfl rfl rfl progress
  | network runner next at_point input said stepped =>
    refine advances_still rfl ?_ ?_ fun _ _ _ progress => ?_
    · simp [List.filterMap_eq_nil_iff, Effect.station?]
    · simp [List.filterMap_eq_nil_iff, Effect.line?]
    · rw [at_point] at progress
      exact online_progress rfl rfl rfl progress
  | pending blocked => exact advances_still rfl rfl rfl fun _ _ _ progress => progress
  | yieldErr blocked =>
    refine advances_still rfl rfl rfl fun answers stations failures progress => ?_
    have running : s.point ≠ .panicked := by
      intro at_point
      rw [at_point] at blocked
      cases blocked
    obtain ⟨stage, rfl⟩ := progress.staged (blocked_before blocked) running
    have := Progress.panicked s.point answers stations stage []
    rwa [List.append_nil] at this
  | begin at_point =>
    refine advances_from at_point rfl nofun fun _ _ stage => ?_
    cases stage
    exact .stage _ _ _ .init
  | initErr at_point error =>
    rw [fresh at_point rfl]
    refine advances_from at_point rfl nofun fun _ _ stage => ?_
    cases stage
    exact .gaveUp _ rfl _ _ _ (.init error)
  | init at_point =>
    refine advances_from at_point rfl nofun fun _ _ stage => ?_
    cases stage
    exact .stage _ _ _ .spawn
  | spawnErr at_point error =>
    rw [fresh at_point rfl]
    refine advances_from at_point rfl nofun fun _ _ stage => ?_
    cases stage
    exact .gaveUp _ rfl _ _ _ (.spawn error)
  | spawn at_point =>
    refine advances_from at_point rfl nofun fun _ _ stage => ?_
    cases stage
    exact .stage _ _ _ .initController
  | initControllerErr at_point error =>
    rw [fresh at_point rfl]
    refine advances_from at_point rfl nofun fun _ _ stage => ?_
    cases stage
    exact .gaveUp _ rfl _ _ _ (.initController error)
  | initController at_point =>
    refine advances_from at_point rfl nofun fun _ _ stage => ?_
    cases stage
    exact .stage _ _ _ .initEvent
  | initEvent at_point event =>
    refine advances_from at_point rfl nofun fun _ _ stage => ?_
    cases stage
    exact .stage _ _ _ (.scan event)
  | scanErr at_point error results =>
    rw [fresh at_point rfl]
    refine advances_from at_point rfl nofun fun _ _ stage => ?_
    cases stage with
    | scan e => exact .gaveUp _ rfl _ _ _ (.scan e error results)
  | scan at_point scan results =>
    refine advances_from at_point rfl nofun fun _ _ stage => ?_
    cases stage with
    | scan e => exact .stage _ _ _ (.scanEvent e scan results)
  | scanEvent scan results at_point event =>
    have before : s.point.phase = .before := by
      rw [at_point]
      rfl
    exact selected_advances at_point (unflushed before) (selectNetwork_cases s scan results)
  | connectErr at_point error =>
    rw [fresh at_point rfl]
    refine advances_from at_point rfl nofun fun _ _ stage => ?_
    cases stage with
    | connect e e' scan results result chosen station made =>
      have said : failureLines (radioError .connect error :: setup.connectFailed) =
          [radioError .connect error] := by
        rw [← List.singleton_append, failureLines_append, connectFailed_quiet]
        rfl
      rw [filterMap_line, filterMap_station, said]
      exact .gaveUp _ rfl _ _ _ (.connect e e' scan results result chosen station made error)
  | connect at_point frequency =>
    refine advances_from at_point rfl nofun fun _ _ stage => ?_
    cases stage with
    | connect e e' scan results result chosen station made =>
      have said : failureLines (.connectOk frequency :: setup.connected) = [] := by
        rw [← List.singleton_append, failureLines_append, connected_quiet]
        rfl
      rw [filterMap_line, filterMap_station, said]
      exact .stage _ _ _ (.connectEvent e e' scan results result chosen station made frequency)
  | connectEvent at_point event =>
    rw [fresh at_point rfl]
    refine advances_from at_point rfl nofun fun _ _ stage => ?_
    cases stage with
    | connectEvent e e' scan results result chosen station made frequency =>
      exact .online _ rfl _ _
        (.joined e e' event scan results result chosen station made frequency)

theorem run_progress (run : Run (runWifiSmoke icmp) (.begin setup stack) ms s) :
    Progress setup s.point (answers ms) (stations ms) (failures ms) := by
  refine run.history (P := fun ms s => Progress setup s.point (answers ms) (stations ms)
    (failures ms)) (.stage _ _ _ .begin) ?_
  intro ms u i v out before progress stepped
  have guarded := run_guarded before
  have running := (run_kind before guarded stepped).1
  have unflushed : u.point.phase = .before → u.flushed = false := by
    intro phase
    rw [guarded.flushed, phase]
    rfl
  have next := step_advances (step_cases stepped) unflushed running _ _ _ progress
  simpa [answers, stations, failures, failureLines_append] using next

/-- The one call of `connect` is for the test network, as the scan showed it. -/
structure Called (setup : Setup) {stack : Smoltcp} (answers : List (Input setup stack))
    (stations : List setup.StationConfig) (station : setup.StationConfig) : Prop where
  only : stations = [station]
  chosen : ∃ scan results result, .scan (.ok scan) results ∈ answers ∧
    Chosen setup scan results result ∧ Configures setup result station

theorem searched_scan (e e' : RadioEvent) (scan : ScanOutcome)
    (results : Vector ScanResult setup.maxScanResults) :
    .scan (.ok scan) results ∈ (searched e scan results e' : List (Input setup stack)) := by
  simp [searched]

section
variable {point : Point setup stack} {asked : List (Input setup stack)}
  {calls : List setup.StationConfig} {said : List Line} {station : setup.StationConfig}

theorem Stage.called (h : Stage setup point asked calls) (member : station ∈ calls) :
    Called setup asked calls station := by
  cases h with
  | connect e e' scan results result chosen station' made =>
    obtain rfl := List.mem_singleton.mp member
    exact ⟨rfl, scan, results, result, searched_scan e e' scan results, chosen, made⟩
  | connectEvent e e' scan results result chosen station' made frequency =>
    obtain rfl := List.mem_singleton.mp member
    exact ⟨rfl, scan, results, result,
      List.mem_append_left _ (searched_scan e e' scan results), chosen, made⟩
  | _ => cases member

theorem Progress.called (h : Progress setup point asked calls said) (member : station ∈ calls) :
    Called setup asked calls station := by
  cases h with
  | stage _ _ _ stage => exact stage.called member
  | online _ _ _ _ joined =>
    cases joined with
    | joined e e' e'' scan results result chosen station' made frequency =>
      obtain rfl := List.mem_singleton.mp member
      exact ⟨rfl, scan, results, result,
        List.mem_append_left _ (searched_scan e e' scan results), chosen, made⟩
  | gaveUp _ _ _ _ line failed =>
    cases failed with
    | connect e e' scan results result chosen station' made error =>
      obtain rfl := List.mem_singleton.mp member
      exact ⟨rfl, scan, results, result,
        List.mem_append_left _ (searched_scan e e' scan results), chosen, made⟩
    | _ => cases member
  | panicked before _ _ stage more =>
    obtain ⟨only, scan, results, result, told, chosen, made⟩ := stage.called member
    exact ⟨only, scan, results, result, List.mem_append_left _ told, chosen, made⟩

theorem Progress.quiet (h : Progress setup point asked calls said)
    (going : point.gaveUp = false) : said = [] := by
  cases h with
  | gaveUp _ gaveUp => cases gaveUp.symm.trans going
  | _ => rfl

theorem Progress.failed (h : Progress setup point asked calls said)
    (gaveUp : point.gaveUp = true) : ∃ line, said = [line] ∧ Failed setup asked calls line := by
  cases h with
  | stage _ _ _ stage => cases stage <;> cases gaveUp
  | online _ online => cases online.symm.trans (gaveUp_offline gaveUp)
  | gaveUp _ _ _ _ line failed => exact ⟨line, rfl, failed⟩
  | panicked => cases gaveUp

theorem Progress.joined (h : Progress setup point asked calls said)
    (online : point.online = true) : Joined setup asked calls := by
  cases h with
  | stage _ _ _ stage => cases stage <;> cases online
  | online _ _ _ _ joined => exact joined
  | gaveUp _ gaveUp => cases online.symm.trans (gaveUp_offline gaveUp)
  | panicked => cases online

end

/-- A program that gives up says so in one line, which names the stage that failed:
everything before it was answered well, once and in order. The network runner has the
console only where every stage did. `connect` is called at most once, for the first
access point of the test network among those the scan counted, with the test
passphrase. -/
theorem smoke_outcome (run : Run (runWifiSmoke icmp) (.begin setup stack) ms s) :
    (s.point.gaveUp = true → ∃ line, failures ms = [line] ∧
        Failed setup (answers ms) (stations ms) line) ∧
      (s.point.gaveUp = false → failures ms = []) ∧
      (s.point.online = true → Joined setup (answers ms) (stations ms)) ∧
      ∀ station ∈ stations ms, Called setup (answers ms) (stations ms) station := by
  have progress := run_progress run
  exact ⟨progress.failed, progress.quiet, progress.joined, fun _ => progress.called⟩

/-- Another network comes first, and a poll in vain. -/
def joinedScript : List (Input plainSetup plainStack) :=
  [.begin, .init (.ok ()), .spawn (.ok ()), .pending true, .initController (.ok ()),
    .nextEvent .initialized,
    .scan (.ok ⟨2, false⟩) #v[⟨[1], 2412, -40, .replicate 6 1, .other⟩,
      ⟨[72, 105], 2437, -60, .replicate 6 2, .other⟩],
    .nextEvent .scanCompleted, .connect (.ok 2437), .nextEvent .connected]

theorem smoke_outcome_joined :
    ∃ (ms : List (Smoking plainSetup plainStack)) (s : WifiSmoke plainSetup plainStack),
      Run (runWifiSmoke rfcIcmp) (.begin plainSetup plainStack) ms s ∧
        inputs ms = joinedScript ∧ failures ms = [] ∧
        Joined plainSetup (answers ms) (stations ms) := by
  obtain ⟨ms, s, run, script, point⟩ := exec_reaches (runWifiSmoke rfcIcmp)
    (.begin plainSetup plainStack) joinedScript (fun s => s.point.online && !s.point.gaveUp)
    (by decide +kernel)
  obtain ⟨online, going⟩ := Bool.and_eq_true_iff.mp point
  obtain ⟨-, quiet, joined, -⟩ := smoke_outcome run
  exact ⟨ms, s, run, script, quiet (by simpa using going), joined online⟩

end WifiSmoke

end Ws63Examples.InitSmoke
