import Ws63Examples.InitSmoke.NetworkRunner

/-! The lease over a whole run of the network runner, through all its phases. -/

namespace Ws63Examples.InitSmoke

open Execution

variable {stack : Smoltcp}

/-- The lease a configuration stands for. -/
def leaseOf (config : DhcpConfig) : Lease :=
  ⟨config.address.address, config.address.prefixLen, config.router⟩

/-- What an event does to a lease. -/
def leaseAfter (lease : Option Lease) : Option DhcpEvent → Option Lease
  | some (.configured config) => some (leaseOf config)
  | some .deconfigured => none
  | none => lease

/-- The lines an event calls for. -/
def linesFor (lease : Option Lease) : Option DhcpEvent → List DhcpLine
  | some (.configured config) =>
    [if lease.isNone then .dhcpOk config.address.address config.address.prefixLen config.router
      else .dhcpRenewed]
  | some .deconfigured => [.dhcpDeconfigured]
  | none => []

/-- The lines a sequence of events calls for. -/
def story : Option Lease → List (Option DhcpEvent) → List DhcpLine
  | _, [] => []
  | lease, event :: events => linesFor lease event ++ story (leaseAfter lease event) events

theorem story_append (first rest : List (Option DhcpEvent)) : ∀ lease : Option Lease,
    story lease (first ++ rest) = story lease first ++ story (first.foldl leaseAfter lease) rest := by
  induction first with
  | nil => exact fun _ => rfl
  | cons event first ih =>
    intro lease
    rw [List.cons_append, story, story, ih, List.append_assoc]
    rfl

/-- The interface carries what the lease says, and nothing without a lease. -/
def Net.Agrees (net : Net stack) : Prop :=
  match net.lease with
  | some lease => stack.Carries net.iface ⟨lease.address, lease.prefixLen⟩ lease.router
  | none => stack.Bare net.iface

/-- Agreement, and a free slot for the default route. -/
structure Net.Sound (net : Net stack) : Prop where
  agrees : net.Agrees
  room : stack.Room net.iface

/-- The other copy's state with this lease, from any server. -/
def lift (net : Net stack) : Connectivity.Net stack :=
  ⟨net.iface, net.lease.map fun lease =>
    ⟨lease.address, lease.prefixLen, .unspecified, lease.router⟩⟩

theorem project_lift (net : Net stack) : project (lift net) = net := by
  obtain ⟨iface, lease⟩ := net
  cases lease <;> rfl

theorem lift_sound {net : Net stack} (sound : net.Sound) : (lift net).Sound := by
  obtain ⟨iface, lease⟩ := net
  obtain ⟨agrees, room⟩ := sound
  cases lease <;> exact ⟨agrees, room⟩

theorem project_sound {net : Connectivity.Net stack} (sound : net.Sound) : (project net).Sound := by
  obtain ⟨iface, lease⟩ := net
  obtain ⟨agrees, room⟩ := sound
  cases lease <;> exact ⟨agrees, room⟩

theorem pollNetwork_lines {traffic : stack.Traffic} {event : Option DhcpEvent}
    {net next : Net stack} {lines : List DhcpLine}
    (h : pollNetwork traffic event net = some (next, lines)) :
    next.lease = leaseAfter net.lease event ∧ lines = linesFor net.lease event := by
  cases event with
  | none =>
    cases h
    exact ⟨rfl, rfl⟩
  | some event =>
    cases event with
    | deconfigured =>
      cases h
      exact ⟨rfl, rfl⟩
    | configured config =>
      obtain ⟨iface, -, same⟩ := Option.bind_eq_some_iff.mp h
      cases same
      exact ⟨rfl, rfl⟩

/-- What some polls have done to the network, and the lines behind them. -/
structure Tracks (net next : Net stack) (events : List (Option DhcpEvent))
    (lines : List DhcpLine) : Prop where
  sound : next.Sound
  lease : next.lease = events.foldl leaseAfter net.lease
  lines : lines = story net.lease events

theorem Tracks.still {net next : Net stack} {lines : List DhcpLine} (sound : net.Sound)
    (same : next = net) (quiet : lines = []) : Tracks net next [] lines := by
  subst same quiet
  exact ⟨sound, rfl, rfl⟩

/-- A poll of a sound network does not panic. -/
theorem pollNetwork_tracks (law : stack.Lawful) (traffic : stack.Traffic)
    (event : Option DhcpEvent) {net : Net stack} (sound : net.Sound) :
    ∃ next lines, pollNetwork traffic event net = some (next, lines) ∧
      Tracks net next [event] lines := by
  obtain ⟨other, _, polled, sound', -⟩ :=
    Connectivity.pollNetwork_spec law traffic event (lift_sound sound)
  have copy := pollNetwork_project traffic event (lift net)
  rw [project_lift, polled] at copy
  obtain ⟨⟨next, lines⟩, ours, same⟩ := Option.map_eq_some_iff.mp copy
  obtain rfl : next = project other := same
  obtain ⟨lease, told⟩ := pollNetwork_lines ours
  refine ⟨_, lines, ours, project_sound sound', lease, ?_⟩
  rw [told]
  exact (List.append_nil _).symm

/-- A poll in the code, with its panic apart. -/
theorem polled_tracks (law : stack.Lawful) {traffic : stack.Traffic} {event : Option DhcpEvent}
    {net next : Net stack} {lines : List DhcpLine} (sound : net.Sound)
    (polled : pollNetwork traffic event net = some (next, lines)) :
    Tracks net next [event] lines := by
  obtain ⟨_, _, same, tracks⟩ := pollNetwork_tracks law traffic event sound
  cases polled.symm.trans same
  exact tracks

theorem not_poll_panic (law : stack.Lawful) {traffic : stack.Traffic} {event : Option DhcpEvent}
    {net : Net stack} (sound : net.Sound) : pollNetwork traffic event net ≠ none := by
  obtain ⟨_, _, same, -⟩ := pollNetwork_tracks law traffic event sound
  rw [same]
  exact nofun

namespace PingSeries

/-- The event that an input polls. -/
def polls : Input stack → List (Option DhcpEvent)
  | .poll _ event => [event]
  | _ => []

/-- A sleep that fails. -/
def fails : Input stack → Bool
  | .sleep ok => !ok
  | _ => false

def dhcpLine : Effect → Option DhcpLine
  | .write (.dhcp line) => some line
  | _ => none

variable {icmp : IcmpWire} {s t : PingSeries stack} {input : Input stack} {out : List Effect}

theorem advance_net (s : PingSeries stack) : s.advance.1.net = s.net ∧
    s.advance.1.point ≠ .panicked ∧ s.advance.2.filterMap dhcpLine = [] := by
  unfold advance
  split
  · exact ⟨rfl, nofun, rfl⟩
  · exact ⟨rfl, nofun, rfl⟩

theorem begin_net (net : Net stack) (confirmed : Bool) (target : Ipv4Address) (count : Nat) :
    (begin net confirmed target count).1.net = net ∧
      (begin net confirmed target count).1.point ≠ .panicked ∧
      (begin net confirmed target count).2.filterMap dhcpLine = [] :=
  advance_net _

/-- A series polls the network as `run` does, and panics only when a sleep fails. -/
theorem step_tracks (law : stack.Lawful) (sound : s.net.Sound)
    (h : pingSeries icmp s input = some (t, out)) :
    Tracks s.net t.net (polls input) (out.filterMap dhcpLine) ∧
      (t.point = .panicked ↔ fails input = true) := by
  cases step_cases h with
  | clock at_point ms => exact ⟨.still sound rfl rfl, iff_of_false nofun nofun⟩
  | send at_point ok =>
    unfold sendRequest
    cases ok with
    | true => exact ⟨.still sound rfl rfl, iff_of_false nofun nofun⟩
    | false =>
      obtain ⟨same, going, quiet⟩ := advance_net { s with stats := { s.stats with
        txErrors := Word.saturatingAdd Word.u32Max s.stats.txErrors 1 } }
      exact ⟨.still sound same quiet, iff_of_false going nofun⟩
  | enter at_point ms early => exact ⟨.still sound rfl rfl, iff_of_false nofun nofun⟩
  | timeout at_point ms late =>
    obtain ⟨same, going, quiet⟩ := advance_net s
    exact ⟨.still sound same quiet, iff_of_false going nofun⟩
  | poll at_point traffic event net lines polled =>
    refine ⟨?_, iff_of_false nofun nofun⟩
    have told : (lines.map fun line => Effect.write (.dhcp line)).filterMap dhcpLine = lines := by
      rw [List.filterMap_map]
      exact List.filterMap_some
    rw [told]
    exact polled_tracks law sound polled
  | pollPanic at_point traffic event polled => exact absurd polled (not_poll_panic law sound)
  | reply at_point bytes endpoint answered out confirms =>
    refine ⟨?_, iff_of_false nofun nofun⟩
    have silent : out.filterMap dhcpLine = [] := by
      rw [confirms]
      split <;> rfl
    exact .still sound rfl silent
  | discard at_point bytes endpoint answered =>
    refine ⟨.still sound rfl rfl, ?_⟩
    rw [at_point]
    exact iff_of_false nofun nofun
  | drained at_point => exact ⟨.still sound rfl rfl, iff_of_false nofun nofun⟩
  | finish at_point ms =>
    unfold finish
    obtain ⟨same, going, quiet⟩ := advance_net { s with stats := _ }
    exact ⟨.still sound same quiet, iff_of_false going nofun⟩
  | resume at_point => exact ⟨.still sound rfl rfl, iff_of_false nofun nofun⟩
  | sleepPanic at_point => exact ⟨.still sound rfl rfl, iff_of_true rfl rfl⟩

end PingSeries

namespace Runner

variable {icmp : IcmpWire} {r t : Runner stack} {input : Input stack} {out : List Effect}

/-- The interface and the lease, in whichever phase. -/
def net : Runner stack → Option (Net stack)
  | .boot iface | .bind iface => some ⟨iface, none⟩
  | .dhcp s => some s.net
  | .timeout net => some net
  | .timeoutBaseline net => some net
  | .baseline _ net => some net
  | .gatewayPing _ _ s => some s.net
  | .publicPing _ _ _ s => some s.net
  | .queue _ _ _ _ net => some net
  | .keep s => some s.net
  | .idle => none
  | .panicked => none

/-- The events that an input polls, in the runner or in a series. -/
def polls : Input stack → List (Option DhcpEvent)
  | .poll _ event => [event]
  | .ping input => PingSeries.polls input
  | _ => []

/-- The socket cannot be bound, or a sleep fails, in the runner or in a series. -/
def fails : Input stack → Bool
  | .bind ok | .sleep ok => !ok
  | .ping input => PingSeries.fails input
  | _ => false

def dhcpLine : Effect → Option DhcpLine
  | .write (.dhcp line) => some line
  | .ping effect => PingSeries.dhcpLine effect
  | _ => none

/-- A reading of the clock, by the runner or by a series. -/
def reading : Input stack → Option UInt64
  | .clock ms | .ping (.clock ms) => some ms
  | _ => none

def polled (ms : List (Running stack)) : List (Option DhcpEvent) := (inputs ms).flatMap polls

def readings (ms : List (Running stack)) : List UInt64 := (inputs ms).filterMap reading

/-- What has been said of the lease, by the runner and by the series. -/
def dhcpLines (written : List Effect) : List DhcpLine := written.filterMap dhcpLine

theorem dhcpLines_pings (sent : List InitSmoke.Effect) :
    dhcpLines (sent.map .ping) = sent.filterMap PingSeries.dhcpLine := List.filterMap_map

theorem dhcpLines_writeDhcp (lines : List DhcpLine) : dhcpLines (writeDhcp lines) = lines := by
  rw [dhcpLines, writeDhcp, List.filterMap_map]
  exact List.filterMap_some

/-- What a step does to the network, and when it panics. -/
def Kept (r t : Runner stack) (input : Input stack) (out : List Effect) : Prop :=
  (t = .panicked ↔ fails input = true) ∧ ((∃ net next, r.net = some net ∧ t.net = some next ∧
    Tracks net next (polls input) (dhcpLines out)) ∨
      t.net = none ∧ polls input = [] ∧ dhcpLines out = [])

theorem Kept.still (sound : ∀ net ∈ r.net, net.Sound) (going : t ≠ .panicked)
    (trusted : fails input = false) (same : t.net = r.net) (unasked : polls input = [])
    (quiet : dhcpLines out = []) : Kept r t input out := by
  refine ⟨iff_of_false going (by rw [trusted]; nofun), ?_⟩
  cases held : r.net with
  | none => exact .inr ⟨same.trans held, unasked, quiet⟩
  | some net =>
    rw [unasked]
    exact .inl ⟨net, net, rfl, same.trans held, .still (sound net held) rfl quiet⟩

theorem pingPublic_net (active : Lease) (now : Connectivity.DhcpDiagnostics) (gateway : PingStats)
    (net : Net stack) (confirmed : Bool) :
    (pingPublic active now gateway net confirmed).1 ≠ .panicked ∧
      (pingPublic active now gateway net confirmed).1.net = some net ∧
      dhcpLines (pingPublic active now gateway net confirmed).2 = [] := by
  obtain ⟨same, -, quiet⟩ := PingSeries.begin_net net confirmed publicTarget pingCount
  refine ⟨nofun, congrArg some same, ?_⟩
  rw [pingPublic, dhcpLines_pings]
  exact quiet

theorem pingGateway_net (active : Lease) (now : Connectivity.DhcpDiagnostics) (net : Net stack) :
    (pingGateway active now net).1 ≠ .panicked ∧ (pingGateway active now net).1.net = some net ∧
      dhcpLines (pingGateway active now net).2 = [] := by
  unfold pingGateway
  split
  · rename_i gateway _
    obtain ⟨same, -, quiet⟩ := PingSeries.begin_net net false gateway pingCount
    refine ⟨nofun, congrArg some same, ?_⟩
    exact (dhcpLines_pings _).trans quiet
  · exact pingPublic_net active now .default net false

theorem afterGateway_net (active : Lease) (now : Connectivity.DhcpDiagnostics)
    (s : PingSeries stack) :
    ((afterGateway active now s).1 = .panicked ↔ s.point = .panicked) ∧
      (s.point ≠ .panicked → (afterGateway active now s).1.net = some s.net) ∧
      dhcpLines (afterGateway active now s).2 = [] := by
  unfold afterGateway
  split
  · rename_i stats returned
    obtain ⟨going, same, quiet⟩ := pingPublic_net active now stats s.net s.neighborConfirmed
    rw [returned]
    exact ⟨iff_of_false going nofun, fun _ => same, quiet⟩
  · rename_i panicked
    exact ⟨iff_of_true rfl panicked, fun going => absurd panicked going, rfl⟩
  · rename_i going
    exact ⟨iff_of_false nofun going, fun _ => rfl, rfl⟩

theorem afterPublic_net (active : Lease) (now : Connectivity.DhcpDiagnostics) (gateway : PingStats)
    (s : PingSeries stack) :
    (afterPublic active now gateway s = .panicked ↔ s.point = .panicked) ∧
      (s.point ≠ .panicked → (afterPublic active now gateway s).net = some s.net) := by
  unfold afterPublic
  split
  · rename_i stats returned
    rw [returned]
    exact ⟨iff_of_false nofun nofun, fun _ => rfl⟩
  · rename_i panicked
    exact ⟨iff_of_true rfl panicked, fun going => absurd panicked going⟩
  · rename_i going
    exact ⟨iff_of_false nofun going, fun _ => rfl⟩

theorem report_net (s : KeepPolling stack) (now : Connectivity.DhcpDiagnostics) (current : UInt64) :
    ((s.reportRenewal now).1.heartbeat current).1.net = s.net ∧
      dhcpLines ((s.reportRenewal now).2 ++ ((s.reportRenewal now).1.heartbeat current).2) = [] := by
  have renewal : (s.reportRenewal now).1.net = s.net ∧ dhcpLines (s.reportRenewal now).2 = [] := by
    unfold KeepPolling.reportRenewal
    split <;> exact ⟨rfl, rfl⟩
  have alive (u : KeepPolling stack) :
      (u.heartbeat current).1.net = u.net ∧ dhcpLines (u.heartbeat current).2 = [] := by
    unfold KeepPolling.heartbeat
    split <;> exact ⟨rfl, rfl⟩
  refine ⟨(alive _).1.trans renewal.1, ?_⟩
  rw [dhcpLines, List.filterMap_append]
  exact List.append_eq_nil_iff.mpr ⟨renewal.2, (alive _).2⟩

/-- What a step of a series does to the runner around it. -/
theorem Kept.ping {s u : PingSeries stack} {input : InitSmoke.Input stack} {lines : List DhcpLine}
    (held : r.net = some s.net) (tracks : Tracks s.net u.net (PingSeries.polls input) lines)
    (panics : u.point = .panicked ↔ PingSeries.fails input = true)
    (stops : t = .panicked ↔ u.point = .panicked)
    (goes : u.point ≠ .panicked → t.net = some u.net) (told : dhcpLines out = lines)
    (unpolled : PingSeries.fails input = true → PingSeries.polls input = []) :
    Kept r t (.ping input) out := by
  refine ⟨stops.trans panics, ?_⟩
  by_cases panicked : u.point = .panicked
  · have failed := panics.mp panicked
    have quiet := tracks.lines
    rw [unpolled failed] at quiet
    refine .inr ⟨?_, unpolled failed, told.trans quiet⟩
    rw [stops.mpr panicked]
    rfl
  · rw [← told] at tracks
    exact .inl ⟨s.net, u.net, held, goes panicked, tracks⟩

theorem fails_unpolled {input : InitSmoke.Input stack} (failed : PingSeries.fails input = true) :
    PingSeries.polls input = [] := by
  cases input <;> first | rfl | cases failed

theorem step_kept (law : stack.Lawful) (h : Step icmp r input t out)
    (sound : ∀ net ∈ r.net, net.Sound) : Kept r t input out := by
  cases h with
  | unaddressed iface => exact ⟨iff_of_false nofun nofun, .inr ⟨rfl, rfl, rfl⟩⟩
  | boot iface | bound iface =>
    exact .still sound nofun rfl (show some (⟨iface, none⟩ : Net stack) = _ from rfl) rfl rfl
  | start | enter | late | leased | unleased | timeout | giveUp | summary | keepClock | keepResume
  | idle => exact .still sound nofun rfl rfl rfl rfl
  | bindPanic | acquireSleepPanic | keepSleepPanic | idlePanic =>
    exact ⟨iff_of_true rfl rfl, .inr ⟨rfl, rfl, rfl⟩⟩
  | keepStart s at_point ms =>
    exact .still sound nofun rfl (show some s.net = some s.net from rfl) rfl rfl
  | acquire s at_point traffic event net lines polled
  | keepPoll s at_point traffic event net lines polled =>
    refine ⟨iff_of_false nofun nofun, .inl ⟨s.net, net, rfl, rfl, ?_⟩⟩
    rw [dhcpLines_writeDhcp]
    exact polled_tracks law (sound _ rfl) polled
  | acquirePanic s at_point traffic event polled | keepPanic s at_point traffic event polled =>
    exact absurd polled (not_poll_panic law (sound _ rfl))
  | baseline active net now =>
    obtain ⟨going, same, quiet⟩ := pingGateway_net active now net
    exact .still sound going rfl same rfl quiet
  | gatewayPing active now s u input sent stepped =>
    obtain ⟨tracks, panics⟩ := PingSeries.step_tracks law (sound _ rfl) stepped
    obtain ⟨stops, goes, quiet⟩ := afterGateway_net active now u
    refine .ping rfl tracks panics stops goes ?_ fails_unpolled
    rw [dhcpLines, List.filterMap_append]
    change dhcpLines _ ++ dhcpLines _ = _
    rw [quiet, dhcpLines_pings, List.append_nil]
  | publicPing active now gateway s u input sent stepped =>
    obtain ⟨tracks, panics⟩ := PingSeries.step_tracks law (sound _ rfl) stepped
    obtain ⟨stops, goes⟩ := afterPublic_net active now gateway u
    exact .ping rfl tracks panics stops goes (dhcpLines_pings sent) fails_unpolled
  | keepReport s current at_point now =>
    obtain ⟨same, quiet⟩ := report_net s now current
    exact .still sound nofun rfl (congrArg some same) rfl quiet

/-- What holds of the lease after a run, and when the run has panicked. -/
structure Leased (ms : List (Running stack)) (r : Runner stack) : Prop where
  panics : r = .panicked ↔ ∃ i ∈ inputs ms, fails i = true
  net : ∀ net ∈ r.net, net.Sound ∧ net.lease = (polled ms).foldl leaseAfter none
  lines : dhcpLines (effects ms) = story none (polled ms)

/-- A step that panics is the only one that fails. -/
theorem Leased.panics_next {ms : List (Running stack)} (leased : Leased ms r)
    (h : networkRunner icmp r input = some (t, out)) (stops : t = .panicked ↔ fails input = true) :
    t = .panicked ↔ ∃ i ∈ inputs (ms ++ [⟨r, input, out, t⟩]), fails i = true := by
  have going : ¬ ∃ i ∈ inputs ms, fails i = true := by
    rw [← leased.panics]
    rintro rfl
    cases (panicked_stuck input).symm.trans h
  rw [stops, inputs_append, inputs_singleton]
  constructor
  · exact fun failed => ⟨input, List.mem_append_right _ (List.mem_singleton_self _), failed⟩
  · rintro ⟨i, asked, failed⟩
    rcases List.mem_append.mp asked with old | new
    · exact absurd ⟨i, old, failed⟩ going
    · rwa [List.mem_singleton.mp new] at failed

theorem Leased.step {ms : List (Running stack)} (law : stack.Lawful) (leased : Leased ms r)
    (h : networkRunner icmp r input = some (t, out)) : Leased (ms ++ [⟨r, input, out, t⟩]) t := by
  obtain ⟨stops, kept⟩ := step_kept law (step_cases h) fun net held => (leased.net net held).1
  have panics := leased.panics_next h stops
  have events : polled (ms ++ [⟨r, input, out, t⟩]) = polled ms ++ polls input := by
    rw [polled, inputs_append, inputs_singleton, List.flatMap_append, List.flatMap_singleton]
    rfl
  have written : dhcpLines (effects (ms ++ [⟨r, input, out, t⟩])) =
      dhcpLines (effects ms) ++ dhcpLines out := by
    rw [effects_append, effects_singleton, dhcpLines, List.filterMap_append]
    rfl
  obtain ⟨net, next, held, now, tracks⟩ | ⟨none_left, unasked, quiet⟩ := kept
  · obtain ⟨-, lease⟩ := leased.net net held
    refine ⟨panics, ?_, ?_⟩
    · intro net' held'
      cases now.symm.trans held'
      refine ⟨tracks.sound, ?_⟩
      rw [events, List.foldl_append, ← lease]
      exact tracks.lease
    · rw [written, events, story_append, leased.lines, ← lease, ← tracks.lines]
  · refine ⟨panics, ?_, ?_⟩
    · rw [none_left]
      nofun
    · rw [written, events, unasked, quiet, List.append_nil, List.append_nil]
      exact leased.lines

theorem run_leased (law : stack.Lawful) {iface : stack.Interface} (bare : stack.Bare iface)
    (room : stack.Room iface) {ms : List (Running stack)}
    (run : Run (networkRunner icmp) (.boot iface) ms r) : Leased ms r := by
  refine run.history (P := Leased) ⟨iff_of_false nofun ?_, ?_, rfl⟩
    fun _ _ _ _ _ _ leased h => leased.step law h
  · rintro ⟨i, none, -⟩
    cases none
  · rintro net ⟨⟩
    exact ⟨⟨bare, room⟩, rfl⟩

/-- The runner panics exactly when its socket could not be bound or a sleep has failed, and
on no event that its polls meet. In every phase its lease is the one that the events so
far leave, its interface carries exactly this lease, and each event has had its line. -/
theorem network_runner_leased (law : stack.Lawful) {iface : stack.Interface}
    (bare : stack.Bare iface) (room : stack.Room iface) {ms : List (Running stack)}
    (run : Run (networkRunner icmp) (.boot iface) ms r) :
    (r = .panicked ↔ ∃ i ∈ inputs ms, fails i = true) ∧
      (∀ net ∈ r.net, net.Agrees ∧ net.lease = (polled ms).foldl leaseAfter none) ∧
      dhcpLines (effects ms) = story none (polled ms) := by
  have leased := run_leased law bare room run
  refine ⟨leased.panics, fun net held => ?_, leased.lines⟩
  obtain ⟨sound, lease⟩ := leased.net net held
  exact ⟨sound.agrees, lease⟩

def plainBoot : Runner plainStack := .boot ⟨[], none⟩

def smokeConfig : DhcpConfig := ⟨⟨⟨192, 168, 4, 2⟩, 24⟩, ⟨192, 168, 4, 1⟩, some ⟨192, 168, 4, 1⟩⟩

/-- Five requests that the socket refuses. -/
def refusedSeries : List (Input plainStack) :=
  (List.replicate 5 [.ping (.clock 10), .ping (.send false)]).flatten

/-- A lease, both series, then a renewal and the loss of the lease. -/
def steadyScript : List (Input plainStack) :=
  [.hardwareAddress (some (.replicate 6 2)), .bind true, .clock 0, .clock 5,
    .poll () (some (.configured smokeConfig)), .sleep true, .dhcpDiagnostics ⟨2, 2⟩] ++
    refusedSeries ++ refusedSeries ++
    [.queueDiagnostics 0, .clock 100, .poll () (some (.configured smokeConfig)), .clock 110,
      .dhcpDiagnostics ⟨3, 3⟩, .sleep true, .poll () (some .deconfigured), .clock 10100,
      .dhcpDiagnostics ⟨4, 4⟩]

theorem network_runner_leased_steady : ∃ (ms : List (Running plainStack)) (r : Runner plainStack),
    Run (networkRunner rfcIcmp) plainBoot ms r ∧ inputs ms = steadyScript ∧
      r ≠ .panicked ∧ dhcpLines (effects ms) =
        [.dhcpOk ⟨192, 168, 4, 2⟩ 24 (some ⟨192, 168, 4, 1⟩), .dhcpRenewed, .dhcpDeconfigured] := by
  obtain ⟨ms, r, run, script, -⟩ := exec_reaches (networkRunner rfcIcmp) plainBoot steadyScript
    (fun _ => true) (by decide +kernel)
  obtain ⟨panics, -, lines⟩ := network_runner_leased plainStack_lawful ⟨rfl, rfl⟩
    (show plainStack.Room _ from Nat.zero_lt_one) run
  refine ⟨ms, r, run, script, ?_, ?_⟩
  · rw [ne_eq, panics, script]
    decide
  · rw [lines, polled, script]
    rfl

end Runner

end Ws63Examples.InitSmoke
