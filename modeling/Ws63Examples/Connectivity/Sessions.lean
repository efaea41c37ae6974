import Ws63Examples.Connectivity.Station

/-! What the events of the controller tell of the link, and that the task follows it. -/

namespace Ws63Examples.Connectivity

open Execution History Word

variable {β : Type}

/-- A link as its events alone tell it: the reasons of the sessions that were lost,
and what else was reported in the one under way. -/
inductive Link (β : Type) where
  | dark
  | searching (scans : Nat)
  | down (lost : List UInt16)
  | up (lost : List UInt16) (ignored : List (RadioEvent β))

namespace Link

def lost : Link β → List UInt16
  | .dark | .searching _ => []
  | .down lost | .up lost _ => lost

/-- The result of a scan, found or failed. -/
def ScanEvent : RadioEvent β → Prop
  | .scanCompleted _ _ | .failed _ => True
  | _ => False

/-- The events of a radio that comes up, finds its network within two scans, and
then connects and is disconnected in turn. -/
inductive Told : List (RadioEvent β) → Link β → Prop
  | dark : Told [] .dark
  | initialized : Told [.initialized] (.searching 0)
  | scanned {es : List (RadioEvent β)} {scans : Nat} {event : RadioEvent β}
      (before : Told es (.searching scans)) (again : scans ≤ 1) (scan : ScanEvent event) :
      Told (es ++ [event]) (.searching (scans + 1))
  | found {es : List (RadioEvent β)} {scans : Nat} (before : Told es (.searching scans))
      (some : 0 < scans) : Told es (.down [])
  | connected {es : List (RadioEvent β)} {lost : List UInt16} (before : Told es (.down lost)) :
      Told (es ++ [.connected]) (.up lost [])
  | ignored {es ignored : List (RadioEvent β)} {lost : List UInt16} {event : RadioEvent β}
      (before : Told es (.up lost ignored)) (kept : event.plain.exit = none) :
      Told (es ++ [event]) (.up lost (ignored ++ [event]))
  | lost {es ignored : List (RadioEvent β)} {lost : List UInt16} (reason : UInt16)
      (before : Told es (.up lost ignored)) :
      Told (es ++ [.disconnected reason]) (.down (lost ++ [reason]))

/-- A session that was lost. -/
structure Session (β : Type) where
  ignored : List (RadioEvent β)
  reason : UInt16
  kept : ∀ event ∈ ignored, event.plain.exit = none

def Session.events (session : Session β) : List (RadioEvent β) :=
  .connected :: (session.ignored ++ [.disconnected session.reason])

/-- The events of the link, read as a whole. -/
def Reads (es : List (RadioEvent β)) : Link β → Prop
  | .dark => es = []
  | .searching scans => ∃ searched, es = .initialized :: searched ∧
    (searched.length = scans ∧ scans ≤ 2) ∧ ∀ event ∈ searched, ScanEvent event
  | .down lost => ∃ searched, ∃ sessions : List (Session β),
    es = .initialized :: (searched ++ sessions.flatMap Session.events) ∧
    (0 < searched.length ∧ searched.length ≤ 2) ∧ (∀ event ∈ searched, ScanEvent event) ∧
    sessions.map Session.reason = lost
  | .up lost ignored => ∃ searched, ∃ sessions : List (Session β),
    es = .initialized :: (searched ++ sessions.flatMap Session.events ++ .connected :: ignored) ∧
    (0 < searched.length ∧ searched.length ≤ 2) ∧ (∀ event ∈ searched, ScanEvent event) ∧
    sessions.map Session.reason = lost ∧ ∀ event ∈ ignored, event.plain.exit = none

/-- A story that is told event by event is one of sessions, each lost but the last. -/
theorem Told.reads {es : List (RadioEvent β)} {link : Link β} (told : Told es link) :
    Reads es link := by
  induction told with
  | dark => exact rfl
  | initialized => exact ⟨[], rfl, ⟨rfl, Nat.zero_le 2⟩, nofun⟩
  | scanned _ again scan ih =>
    obtain ⟨searched, rfl, ⟨rfl, -⟩, scans⟩ := ih
    refine ⟨searched ++ [_], rfl, ⟨by simp, Nat.succ_le_succ again⟩, ?_⟩
    intro event member
    rcases List.mem_append.mp member with member | member
    · exact scans event member
    · exact List.mem_singleton.mp member ▸ scan
  | found _ some ih =>
    obtain ⟨searched, rfl, ⟨rfl, few⟩, scans⟩ := ih
    exact ⟨searched, [], by simp, ⟨some, few⟩, scans, rfl⟩
  | connected _ ih =>
    obtain ⟨searched, sessions, rfl, few, scans, reasons⟩ := ih
    exact ⟨searched, sessions, by simp, few, scans, reasons, nofun⟩
  | ignored _ kept ih =>
    obtain ⟨searched, sessions, rfl, few, scans, reasons, all⟩ := ih
    refine ⟨searched, sessions, by simp, few, scans, reasons, ?_⟩
    intro event member
    rcases List.mem_append.mp member with member | member
    · exact all event member
    · exact List.mem_singleton.mp member ▸ kept
  | lost reason _ ih =>
    obtain ⟨searched, sessions, rfl, few, scans, reasons, all⟩ := ih
    refine ⟨searched, sessions ++ [⟨_, reason, all⟩], ?_, few, scans, ?_⟩
    · simp [Session.events]
    · simp [reasons]

end Link

/-- The events the runner was handed. -/
def Runner.received {stack : Smoltcp} (ms : List (Runner.Running stack)) : List WifiEvent :=
  ms.filterMap fun m => match m.input with
    | .nextEvent event => event
    | _ => none

variable {setup : Setup β} {stack : Smoltcp}

/-- A runner under way since the link came up, with the events it was handed. -/
def Runner.InSession (runner : Runner stack) (ignored : List (RadioEvent β)) : Prop :=
  ∃ iface ns, Run networkRunner (.boot iface) ns runner ∧
    Runner.received ns = ignored.map RadioEvent.plain

namespace Station

/-- The configurations the task may connect with: those of the test network. -/
def Permitted (setup : Setup β) (station : setup.StationConfig) : Prop :=
  ∃ result passphrase, result.ssid = setup.testSsid ∧
    setup.tryFromAscii setup.testPassphrase = some passphrase ∧
    setup.wpa2Personal result passphrase = some station

/-- Where the link stands while the task stands at a point, and how many
connections it has begun. -/
def Point.Fits : Point setup stack → Link β → Nat → Prop
  | .initializing, link, begun | .expectInitialized, link, begun => link = .dark ∧ begun = 0
  | .scanClock, link, begun => link = .searching 0 ∧ begun = 0
  | .scan _ loop, link, begun =>
    loop.retries ≤ 1 ∧ link = .searching loop.retries ∧ begun = 0
  | .scanned _ loop outcome, link, begun =>
    (∃ scans, scans ≤ 1 ∧ link = .searching (scans + 1)) ∧
      ScanLoop.Finds setup.testSsid loop.scanResults outcome ∧ begun = 0
  | .connect result _, link, begun | .expectConnected result, link, begun =>
    result.ssid = setup.testSsid ∧ ∃ lost, link = .down lost ∧ begun = lost.length + 1
  | .newInterface result, link, begun =>
    result.ssid = setup.testSsid ∧ ∃ lost, link = .up lost [] ∧ begun = lost.length + 1
  | .network result runner, link, begun => result.ssid = setup.testSsid ∧
    ∃ lost ignored, link = .up lost ignored ∧ begun = lost.length + 1 ∧ runner.InSession ignored
  | .delay result, link, begun =>
    result.ssid = setup.testSsid ∧ ∃ lost, link = .down lost ∧ begun = lost.length
  | .halted _, _, _ | .panicked, _, _ => False

/-- The lines and calls of connections numbered from the first, to these stations. -/
def connections (stations : List setup.StationConfig) : List (Effect setup) :=
  stations.zipIdx.flatMap fun (station, reconnects) =>
    [.write (.connectBegin (min reconnects u32Max)), .connect station]

theorem connections_snoc (stations : List setup.StationConfig) (station : setup.StationConfig) :
    connections (stations ++ [station]) = connections stations ++
      [.write (.connectBegin (min stations.length u32Max)), .connect station] := by
  simp [connections, List.zipIdx_append]

/-- What the task has written and counted, and where it has connected to, against what
the link has been through. -/
structure Telling (setup : Setup β) (es : List (RadioEvent β)) (out : List (Effect setup))
    (reconnects : Nat) (link : Link β) (stations : List setup.StationConfig) : Prop where
  told : Link.Told es link
  opens : out.filter Effect.opens = connections stations
  permitted : ∀ station ∈ stations, Permitted setup station
  paired : link.lost.length ≤ stations.length ∧ stations.length ≤ link.lost.length + 1
  lost : out.filterMap Effect.lost = link.lost
  reconnects : reconnects = min link.lost.length u32Max

def Point.Over : Point setup stack → Prop
  | .halted _ | .panicked => True
  | _ => False

/-- The task follows the link, up to the one event it may have stopped at. -/
inductive Keeps (es : List (RadioEvent β)) (out : List (Effect setup)) (s : Station setup stack) :
    Prop
  | live (link : Link β) (stations : List setup.StationConfig)
      (telling : Telling setup es out s.reconnects link stations)
      (fits : s.point.Fits link stations.length)
  | stopped (before last : List (RadioEvent β)) (split : es = before ++ last)
      (one : last.length ≤ 1) (link : Link β) (stations : List setup.StationConfig)
      (telling : Telling setup before out s.reconnects link stations) (stopped : s.point.Over)

namespace Telling

variable {es : List (RadioEvent β)} {out more : List (Effect setup)} {reconnects : Nat}
  {link : Link β} {stations : List setup.StationConfig}

theorem quiet (telling : Telling setup es out reconnects link stations) (quiet : Quiet more) :
    Telling setup es (out ++ more) reconnects link stations where
  told := telling.told
  opens := by rw [List.filter_append, quiet.opens, List.append_nil, telling.opens]
  permitted := telling.permitted
  paired := telling.paired
  lost := by rw [List.filterMap_append, quiet.lost, List.append_nil, telling.lost]
  reconnects := telling.reconnects

/-- An event that neither ends a session nor is written down. -/
theorem hear {es' : List (RadioEvent β)} {link' : Link β}
    (telling : Telling setup es out reconnects link stations) (told : Link.Told es' link')
    (same : link'.lost = link.lost) : Telling setup es' out reconnects link' stations where
  told := told
  opens := telling.opens
  permitted := telling.permitted
  paired := same ▸ telling.paired
  lost := telling.lost.trans same.symm
  reconnects := same ▸ telling.reconnects

/-- The connection that follows the sessions lost so far. -/
theorem connect {lost : List UInt16} {station : setup.StationConfig}
    (telling : Telling setup es out reconnects (.down lost) stations)
    (between : stations.length = lost.length) (permitted : Permitted setup station) :
    Telling setup es (out ++ [.write (.connectBegin reconnects), .connect station]) reconnects
      (.down lost) (stations ++ [station]) where
  told := telling.told
  opens := by
    have shown : reconnects = min lost.length u32Max := telling.reconnects
    rw [List.filter_append, telling.opens, connections_snoc, between, shown]
    rfl
  permitted := by
    rw [List.forall_mem_append, List.forall_mem_singleton]
    exact ⟨telling.permitted, permitted⟩
  paired := by
    rw [List.length_append, List.length_singleton, between]
    exact ⟨Nat.le_succ _, Nat.le_refl _⟩
  lost := by
    rw [List.filterMap_append, telling.lost]
    exact List.append_nil _
  reconnects := telling.reconnects

/-- The loss of the session under way. -/
theorem lose {lost : List UInt16} {ignored : List (RadioEvent β)} (reason : UInt16)
    (telling : Telling setup es out reconnects (.up lost ignored) stations)
    (begun : stations.length = lost.length + 1) :
    Telling setup (es ++ [.disconnected reason]) (out ++ [.write (.reconnect reason)])
      (saturatingAdd u32Max reconnects 1) (.down (lost ++ [reason])) stations where
  told := .lost reason telling.told
  opens := by
    rw [List.filter_append, telling.opens]
    exact List.append_nil _
  permitted := telling.permitted
  paired := by
    have longer : (Link.down (lost ++ [reason]) : Link β).lost.length = lost.length + 1 :=
      List.length_append
    rw [longer, begun]
    exact ⟨Nat.le_refl _, Nat.le_succ _⟩
  lost := by
    rw [List.filterMap_append, telling.lost]
    rfl
  reconnects := by
    have shown : reconnects = min lost.length u32Max := telling.reconnects
    have longer : (Link.down (lost ++ [reason]) : Link β).lost.length = lost.length + 1 :=
      List.length_append
    rw [shown, saturatingAdd_clipped, longer]

end Telling

theorem quiet_network (setup : Setup β) (sent : List Connectivity.Effect) :
    Quiet (sent.map .network : List (Effect setup)) := by
  apply Quiet.of_forall
  intro e he
  obtain ⟨_, -, rfl⟩ := List.mem_map.mp he
  exact ⟨rfl, rfl⟩

theorem quiet_scan (setup : Setup β) (lines : List (ScanLine β)) :
    Quiet (lines.map fun line => .write (.scan line) : List (Effect setup)) := by
  apply Quiet.of_forall
  intro e he
  obtain ⟨_, -, rfl⟩ := List.mem_map.mp he
  exact ⟨rfl, rfl⟩

theorem Input.handed_other {input : Input β stack} (other : ∀ event, input ≠ .nextEvent event) :
    input.handed = none := by
  cases input <;> first | rfl | exact absurd rfl (other _)

variable [DecidableEq β]

omit [DecidableEq β] in
/-- A connection to a result that names the test network. -/
theorem beginConnect_keeps {s : Station setup stack} {es : List (RadioEvent β)}
    {out : List (Effect setup)} {result : ScanResult} {lost : List UInt16}
    {stations : List setup.StationConfig}
    (telling : Telling setup es out s.reconnects (.down lost) stations)
    (between : stations.length = lost.length) (named : result.ssid = setup.testSsid) :
    Keeps es (out ++ (s.beginConnect result).2) (s.beginConnect result).1 := by
  have stop {reason : Halt} {line : Line β} (quiet : Quiet [(.write line : Effect setup)]) :
      Keeps es (out ++ [.write line]) (s.halt reason) :=
    .stopped es [] (List.append_nil es).symm (Nat.zero_le 1) _ _ (telling.quiet quiet) trivial
  unfold beginConnect
  split
  · exact stop ⟨rfl, rfl⟩
  · rename_i passphrase accepted
    split
    · exact stop ⟨rfl, rfl⟩
    · rename_i station secured
      have permitted : Permitted setup station := ⟨result, passphrase, named, accepted, secured⟩
      have begun : (stations ++ [station]).length = lost.length + 1 := by
        rw [List.length_append, List.length_singleton, between]
      exact .live _ _ (telling.connect between permitted) ⟨named, lost, rfl, begun⟩

omit [DecidableEq β] in
theorem scanEvent_of_posts {result : ScanReply β} {event : RadioEvent β}
    (posts : ScanLoop.Posts result event) : Link.ScanEvent event := by
  cases posts <;> exact trivial

omit [DecidableEq β] in
/-- A state of the scan loop, with the scans told so far. -/
theorem afterScan_keeps {s : Station setup stack} {es : List (RadioEvent β)}
    {out : List (Effect setup)} {scans : Nat} (startedAt : UInt64) (loop : ScanLoop β)
    (telling : Telling setup es out s.reconnects (.searching scans) [])
    (inside : ¬ loop.Over → loop.retries = scans ∧ scans ≤ 1)
    (left : ∀ outcome, loop.point = .left outcome →
      (∃ before, before ≤ 1 ∧ scans = before + 1) ∧
        ScanLoop.Finds setup.testSsid loop.scanResults outcome) :
    Keeps es out (s.afterScan startedAt loop) := by
  unfold ScanLoop.Over at inside
  unfold afterScan
  cases at_point : loop.point with
  | scan | expectEvent | delay =>
    obtain ⟨rfl, few⟩ := inside (by simp [at_point])
    exact .live _ _ telling ⟨few, rfl, rfl⟩
  | left outcome =>
    obtain ⟨⟨before, few, rfl⟩, finds⟩ := left outcome at_point
    exact .live _ _ telling ⟨⟨before, few, rfl⟩, finds, rfl⟩
  | halted reason =>
    cases reason <;>
      exact .stopped es [] (List.append_nil es).symm (Nat.zero_le 1) _ _ telling trivial

omit [DecidableEq β] in
/-- A step that is handed no event. -/
theorem unread {t : Station setup stack} {es : List (RadioEvent β)} {out : List (Effect setup)}
    {input : Input β stack} (keeps : Keeps es out t) (nothing : input.handed = none) :
    Keeps (es ++ input.handed.toList) out t := by
  rw [nothing, Option.toList_none, List.append_nil]
  exact keeps

/-- One move of the scan loop. -/
theorem scan_keeps {s : Station setup stack} {es : List (RadioEvent β)}
    {out : List (Effect setup)} {loop next : ScanLoop β} {input : Input β stack}
    {answer : ScanLoop.Input β} {lines : List (ScanLine β)} (startedAt : UInt64)
    (telling : Telling setup es out s.reconnects (.searching loop.retries) [])
    (few : loop.retries ≤ 1) (asks : input.scanning = some answer)
    (stepped : scanLoop setup.code setup.testSsid loop answer = some (next, lines)) :
    Keeps (es ++ input.handed.toList) (out ++ lines.map fun line => .write (.scan line))
      (s.afterScan startedAt next) := by
  have quiet := telling.quiet (quiet_scan setup lines)
  have step := ScanLoop.step_cases stepped
  cases input with
  | nextEvent event =>
    cases asks
    cases step with
    | eventTimeout result at_point =>
      refine unread ?_ rfl
      exact afterScan_keeps startedAt _ quiet (fun inside => absurd (.inr ⟨_, rfl⟩) inside) nofun
    | accepted result at_point event posts _ decided =>
      have told := Link.Told.scanned telling.told few (scanEvent_of_posts posts)
      have heard := quiet.hear told rfl
      cases decided with
      | left outcome ok finds =>
        refine afterScan_keeps startedAt _ heard (fun inside => absurd (.inl ⟨_, rfl⟩) inside) ?_
        rintro _ ⟨⟩
        exact ⟨⟨_, few, rfl⟩, finds⟩
      | retry first =>
        refine afterScan_keeps startedAt _ heard (fun _ => ?_) nofun
        simp [first]
      | halt reason =>
        exact afterScan_keeps startedAt _ heard (fun inside => absurd (.inr ⟨_, rfl⟩) inside)
          nofun
    | unexpected result at_point event =>
      exact .stopped es [event] rfl (Nat.le_refl 1) _ _ quiet trivial
  | scan reply =>
    cases asks
    refine unread ?_ rfl
    cases step with
    | outerTimeout at_point =>
      exact afterScan_keeps startedAt _ quiet (fun inside => absurd (.inr ⟨_, rfl⟩) inside) nofun
    | completed at_point result scanResults =>
      exact afterScan_keeps startedAt _ quiet (fun _ => ⟨rfl, few⟩) nofun
  | delay =>
    cases asks
    refine unread ?_ rfl
    cases step with
    | delay at_point => exact afterScan_keeps startedAt _ quiet (fun _ => ⟨rfl, few⟩) nofun
  | _ => cases asks

omit [DecidableEq β] in
/-- How the session goes on, with the events it has ignored so far. -/
theorem afterNetwork_keeps {s : Station setup stack} {es : List (RadioEvent β)}
    {out : List (Effect setup)} {result : ScanResult} {next : Runner stack}
    {lost : List UInt16} {ignored : List (RadioEvent β)} {stations : List setup.StationConfig}
    (telling : Telling setup es out s.reconnects (.up lost ignored) stations)
    (begun : stations.length = lost.length + 1) (named : result.ssid = setup.testSsid)
    (going : next.exit = none) (session : next.InSession ignored) :
    Keeps es (out ++ (s.afterNetwork result next).2) (s.afterNetwork result next).1 := by
  have live : Telling setup es (out ++ []) s.reconnects (.up lost ignored) stations :=
    telling.quiet ⟨rfl, rfl⟩
  unfold afterNetwork
  split
  · cases going
  · cases going
  · exact .stopped es [] (List.append_nil es).symm (Nat.zero_le 1) _ _ live trivial
  · exact .stopped es [] (List.append_nil es).symm (Nat.zero_le 1) _ _ live trivial
  · exact .live _ _ live ⟨named, lost, ignored, rfl, begun, session⟩

omit [DecidableEq β] in
/-- The event that ends a session is its disconnection, or the failure that stops
the task. -/
theorem afterNetwork_exit {s : Station setup stack} {es : List (RadioEvent β)}
    {out : List (Effect setup)} {result : ScanResult} {event : RadioEvent β}
    {exit : NetworkExit} {lost : List UInt16} {ignored : List (RadioEvent β)}
    {stations : List setup.StationConfig}
    (telling : Telling setup es out s.reconnects (.up lost ignored) stations)
    (begun : stations.length = lost.length + 1) (named : result.ssid = setup.testSsid)
    (ends : event.plain.exit = some exit) :
    Keeps (es ++ [event]) (out ++ (s.afterNetwork result (.returned exit)).2)
      (s.afterNetwork result (.returned exit)).1 := by
  cases event with
  | disconnected reason =>
    cases ends
    refine .live _ _ (telling.lose reason begun) ⟨named, _, rfl, ?_⟩
    rw [List.length_append, List.length_singleton, begun]
  | failed error =>
    cases ends
    exact .stopped es [.failed error] rfl (Nat.le_refl 1) _ _ (telling.quiet ⟨rfl, rfl⟩)
      trivial
  | initialized | scanCompleted | connected => cases ends

theorem received_snoc (ns : List (Runner.Running stack)) (m : Runner.Running stack) :
    Runner.received (ns ++ [m]) = Runner.received ns ++ Runner.received [m] :=
  List.filterMap_append

omit [DecidableEq β] in
/-- A session that is handed nothing. -/
theorem session_quiet {runner next : Runner stack} {ignored : List (RadioEvent β)}
    {input : Connectivity.Input stack} {sent : List Connectivity.Effect}
    (session : runner.InSession ignored) (stepped : networkRunner runner input = some (next, sent))
    (nothing : ∀ event, input ≠ .nextEvent (some event)) : next.InSession ignored := by
  obtain ⟨iface, ns, run, same⟩ := session
  refine ⟨iface, _, run.next stepped, ?_⟩
  rw [received_snoc, same]
  cases input with
  | nextEvent event =>
    cases event with
    | none => exact List.append_nil _
    | some event => exact absurd rfl (nothing event)
  | _ => exact List.append_nil _

omit [DecidableEq β] in
/-- A session that is handed an event. -/
theorem session_handed {runner next : Runner stack} {ignored : List (RadioEvent β)}
    {event : RadioEvent β} {sent : List Connectivity.Effect} (session : runner.InSession ignored)
    (stepped : networkRunner runner (.nextEvent (some event.plain)) = some (next, sent)) :
    next.InSession (ignored ++ [event]) := by
  obtain ⟨iface, ns, run, same⟩ := session
  refine ⟨iface, _, run.next stepped, ?_⟩
  rw [received_snoc, same, List.map_append]
  rfl

/-- A task that still follows the link after any step. -/
theorem step_keeps {s t : Station setup stack} {es : List (RadioEvent β)}
    {out more : List (Effect setup)} {input : Input β stack} (keeps : Keeps es out s)
    (going : ¬ s.point.Over) (step : Step s input t more) :
    Keeps (es ++ input.handed.toList) (out ++ more) t := by
  cases keeps with
  | stopped _ _ _ _ _ _ _ ended => exact absurd ended going
  | live link stations telling fits =>
    cases step with
    | refused _ other reason own _ quiet =>
      refine unread ?_ (Input.handed_other other)
      exact .stopped es [] (List.append_nil es).symm (Nat.zero_le 1) _ _ (telling.quiet quiet)
        trivial
    | initialized at_point =>
      rw [at_point] at fits
      refine unread ?_ rfl
      exact .live _ _ (telling.quiet ⟨rfl, rfl⟩) fits
    | eventTimeout =>
      refine unread ?_ rfl
      exact .stopped es [] (List.append_nil es).symm (Nat.zero_le 1) _ _
        (telling.quiet ⟨rfl, rfl⟩) trivial
    | unexpected _ _ event =>
      exact .stopped es [event] rfl (Nat.le_refl 1) _ _ (telling.quiet ⟨rfl, rfl⟩) trivial
    | expectInitialized at_point =>
      rw [at_point] at fits
      obtain ⟨rfl, begun⟩ := fits
      have first : es = [] := telling.told.reads
      have told : Link.Told (es ++ [.initialized]) (.searching 0) := by
        rw [first]
        exact .initialized
      exact .live _ _ ((telling.hear told rfl).quiet ⟨rfl, rfl⟩) ⟨rfl, begun⟩
    | expectConnected result at_point =>
      rw [at_point] at fits
      obtain ⟨named, lost, rfl, begun⟩ := fits
      have told := Link.Told.connected telling.told
      exact .live _ _ ((telling.hear told rfl).quiet ⟨rfl, rfl⟩) ⟨named, lost, rfl, begun⟩
    | scanClock at_point ticks =>
      rw [at_point] at fits
      obtain ⟨rfl, begun⟩ := fits
      refine unread ?_ rfl
      exact .live _ _ (telling.quiet ⟨rfl, rfl⟩) ⟨Nat.zero_le 1, rfl, begun⟩
    | scan startedAt loop at_point _ answer asks next lines stepped =>
      rw [at_point] at fits
      obtain ⟨few, rfl, begun⟩ := fits
      obtain rfl := List.length_eq_zero_iff.mp begun
      exact scan_keeps startedAt telling few asks stepped
    | scanned startedAt loop outcome at_point ticks line quiet =>
      rw [at_point] at fits
      obtain ⟨⟨scans, -, rfl⟩, finds, begun⟩ := fits
      rw [← List.singleton_append, ← List.append_assoc]
      refine unread ?_ rfl
      have found := Link.Told.found telling.told (Nat.succ_pos scans)
      have telling := (telling.hear found rfl).quiet quiet
      have picked := ScanSystem.selected_isSome finds
      unfold selectResult
      split
      · rename_i result selected
        have named : result.ssid = setup.testSsid := by
          obtain ⟨results, -, first⟩ := Option.bind_eq_some_iff.mp selected
          simpa using List.find?_some first
        exact beginConnect_keeps telling begun named
      · rename_i none
        rw [none] at picked
        cases picked
    | connected result station at_point =>
      rw [at_point] at fits
      refine unread ?_ rfl
      exact .live _ _ (telling.quiet ⟨rfl, rfl⟩) fits
    | newInterface result at_point iface =>
      rw [at_point] at fits
      obtain ⟨named, lost, rfl, begun⟩ := fits
      refine unread ?_ rfl
      exact .live _ _ (telling.quiet ⟨rfl, rfl⟩)
        ⟨named, lost, [], rfl, begun, iface, [], .start, rfl⟩
    | network result runner at_point input other next sent stepped =>
      rw [at_point] at fits
      obtain ⟨named, lost, ignored, rfl, begun, session⟩ := fits
      rw [← List.append_assoc]
      refine unread ?_ rfl
      have nothing : ∀ event, input ≠ .nextEvent (some event) := by
        rintro event rfl
        cases other
      have kept : input.linkLoss = none := by
        cases input <;> first | rfl | cases other
      have telling := telling.quiet (quiet_network setup sent)
      exact afterNetwork_keeps telling begun named ((Runner.step_ends stepped).exit.trans kept)
        (session_quiet session stepped nothing)
    | networkEvent result runner at_point event next sent stepped =>
      rw [at_point] at fits
      obtain ⟨named, lost, ignored, rfl, begun, session⟩ := fits
      rw [← List.append_assoc]
      have telling := telling.quiet (quiet_network setup sent)
      have ends := (Runner.step_ends stepped).exit
      cases event with
      | none =>
        refine unread ?_ rfl
        exact afterNetwork_keeps telling begun named ends (session_quiet session stepped nofun)
      | some event =>
        cases kept : event.plain.exit with
        | none =>
          have told := Link.Told.ignored telling.told kept
          exact afterNetwork_keeps (telling.hear told rfl) begun named (ends.trans kept)
            (session_handed session stepped)
        | some exit =>
          obtain rfl := Runner.exit_eq_some.mp (ends.trans kept)
          exact afterNetwork_exit telling begun named kept
    | delay result at_point =>
      rw [at_point] at fits
      obtain ⟨named, lost, rfl, begun⟩ := fits
      refine unread ?_ rfl
      exact beginConnect_keeps telling begun named

/-- A task that is stopped does nothing more. -/
theorem Over.stuck {s : Station setup stack} (ended : s.point.Over) (input : Input β stack) :
    connectivity s input = none := by
  unfold connectivity
  cases at_point : s.point <;> first | rfl | (rw [at_point] at ended; cases ended)

abbrev Moving (setup : Setup β) (stack : Smoltcp) :=
  Move (Station setup stack) (Input β stack) (Effect setup)

/-- The events the task has consumed. -/
def consumed (ms : List (Moving setup stack)) : List (RadioEvent β) :=
  (inputs ms).filterMap Input.handed

theorem run_keeps {ms : List (Moving setup stack)} {s : Station setup stack}
    (run : Run connectivity (begin setup stack) ms s) : Keeps (consumed ms) (effects ms) s := by
  apply run.history (P := fun ms s => Keeps (consumed ms) (effects ms) s)
  · refine .live .dark [] ⟨.dark, rfl, nofun, ⟨Nat.le_refl 0, Nat.zero_le 1⟩, rfl, rfl⟩ ⟨rfl, rfl⟩
  · intro ms u input v out _ keeps h
    have going : ¬ u.point.Over := by
      intro ended
      cases (Over.stuck ended input).symm.trans h
    have next := step_keeps keeps going (step_cases h)
    rw [effects_append, effects_singleton, consumed, inputs_append, inputs_singleton,
      filterMap_snoc]
    exact next

/-- A network `hil` whose passphrase has the eight characters it needs. -/
def hilSetup : Setup Nat where
  code := ScanSystem.numberedCode
  Passphrase := Unit
  tryFromAscii bytes := if 8 ≤ bytes.length ∧ bytes.length ≤ 63 then some () else none
  StationConfig := List UInt8
  wpa2Personal result _ := some result.ssid
  testSsid := [0x68, 0x69, 0x6c]
  testPassphrase := List.replicate 8 0x61

/-- Up to the first session. -/
def hilBoot : List (Input Nat plainStack) :=
  [.initializeController 0 (some (.ok ())) 24000, .nextEvent (some .initialized), .clock 24000,
    .scan (some (.ok ⟨1, false⟩, ScanSystem.hilResults)),
    .nextEvent (some (.scanCompleted 1 false)), .clock 48000,
    .connect 48000 (some (.ok ())) 72000, .nextEvent (some .connected),
    .newInterface ⟨[], none⟩, .network (.stationMacAddress true), .network (.clock 72000),
    .network (.clock 72000), .network (.poll () none)]

end Station

end Ws63Examples.Connectivity
