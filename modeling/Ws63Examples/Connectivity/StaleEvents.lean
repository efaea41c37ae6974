import Ws63Examples.Connectivity.Sessions
import Ws63Examples.Lib.Mailbox

/-! The task and a controller that posts what it should: what can still go wrong is an
event left over from a session. The controller's own queue is a mailbox of any depth. -/

namespace Ws63Examples.Connectivity.Station

open Execution Mailbox

variable {β : Type} {setup : Setup β} {stack : Smoltcp} {box : Mailbox (RadioEvent β)}

/-- The task with the events the controller has posted. -/
structure System (box : Mailbox (RadioEvent β)) (setup : Setup β) (stack : Smoltcp) where
  station : Station setup stack
  events : box.State

/-- What the controller posts until an answer, and the answer; `none` is what
`next_event` finds. -/
structure System.Input (β : Type) (stack : Smoltcp) where
  posted : List (RadioEvent β)
  answer : Option (Station.Input β stack)

def System.begin (box : Mailbox (RadioEvent β)) (setup : Setup β) (stack : Smoltcp) :
    System box setup stack :=
  ⟨Station.begin setup stack, box.empty⟩

/-- An empty mailbox runs into the timeout of `next_event`. -/
def system [DecidableEq β] (s : System box setup stack) (input : System.Input β stack) :
    Option (System box setup stack × List (Effect setup)) :=
  let events := box.posts s.events input.posted
  match input.answer with
  | some (.nextEvent _) => none
  | some answer => (connectivity s.station answer).map fun r => (⟨r.1, events⟩, r.2)
  | none =>
    (connectivity s.station (.nextEvent (box.take events).1)).map fun r =>
      (⟨r.1, (box.take events).2⟩, r.2)

/-- What a faithful controller posts until an answer: one event for each operation that
succeeds, one for each scan, and what it likes while the link is up. -/
def Faithful (s : Station setup stack) (input : System.Input β stack) : Prop :=
  match s.point, input.answer with
  | .initializing, some (.initializeController _ (some (.ok ())) _) =>
    input.posted = [.initialized]
  | .scan _ _, some (.scan (some (result, _))) =>
    ∃ event, input.posted = [event] ∧ ScanLoop.Posts result event
  | .connect _ _, some (.connect _ (some (.ok ())) _) => input.posted = [.connected]
  | .expectConnected _, _ | .newInterface _, _ | .network _ _, _ => True
  | _, _ => input.posted = []

/-- Out of a session and on to the next connection. -/
def Leaves (s t : Station setup stack) : Prop :=
  (∃ result runner, s.point = .network result runner) ∧ ∃ result, t.point = .delay result

/-- What waits inside the scan loop: the event of the scan under way. -/
def ScanWaiting (loop : ScanLoop β) (waiting : List (RadioEvent β)) : Prop :=
  match loop.point with
  | .expectEvent result => ∃ event, waiting = [event] ∧ ScanLoop.Posts result event
  | _ => waiting = []

/-- What waits between the operations, with nothing left over. -/
def InStep (s : Station setup stack) (waiting : List (RadioEvent β)) : Prop :=
  match s.point with
  | .expectInitialized => waiting = [.initialized]
  | .scan _ loop => ScanWaiting loop waiting
  | .expectConnected _ => ∃ later, waiting = .connected :: later
  | .newInterface _ | .network _ _ => True
  | .halted reason => ¬ reason.OfEvent
  | .panicked => True
  | _ => waiting = []

theorem afterNetwork_inStep (s : Station setup stack) (result : ScanResult)
    (runner : Runner stack) {waiting : List (RadioEvent β)}
    (left : (∃ result', (s.afterNetwork result runner).1.point = .delay result') →
      waiting = []) : InStep (s.afterNetwork result runner).1 waiting := by
  revert left
  unfold afterNetwork
  split
  · intro left
    exact left ⟨result, rfl⟩
  · exact fun _ => id
  · exact fun _ => id
  · exact fun _ => trivial
  · exact fun _ => trivial

theorem beginConnect_inStep (s : Station setup stack) (result : ScanResult) :
    InStep (s.beginConnect result).1 [] := by
  unfold beginConnect
  split
  · exact id
  · split
    · exact id
    · exact rfl

theorem afterScan_inStep (s : Station setup stack) (startedAt : UInt64) {loop : ScanLoop β}
    {waiting : List (RadioEvent β)} (kept : ScanWaiting loop waiting)
    (own : ∀ reason, loop.point = .halted reason →
      reason ≠ .eventTimeout ∧ reason ≠ .unexpectedEvent) :
    InStep (s.afterScan startedAt loop) waiting := by
  unfold afterScan
  cases at_point : loop.point with
  | scan | expectEvent | delay => exact kept
  | left outcome =>
    rw [ScanWaiting, at_point] at kept
    exact kept
  | halted reason =>
    obtain ⟨timely, expected⟩ := own reason at_point
    cases reason with
    | eventTimeout => exact absurd rfl timely
    | unexpectedEvent => exact absurd rfl expected
    | slicePanic => exact trivial
    | _ => exact id

variable [DecidableEq β] {code : WifiError β → DiagnosticCode} {testSsid : List UInt8}

/-- A scan whose event is posted with its completion. -/
theorem scan_inStep (s : Station setup stack) (startedAt : UInt64) {loop next : ScanLoop β}
    {reply : Option (ScanReply β × ScanResults)} {lines : List (ScanLine β)}
    {waiting : List (RadioEvent β)}
    (posted : match reply with
      | none => waiting = []
      | some (result, _) => ∃ event, waiting = [event] ∧ ScanLoop.Posts result event)
    (stepped : scanLoop code testSsid loop (.scan reply) = some (next, lines)) :
    InStep (s.afterScan startedAt next) waiting := by
  cases ScanLoop.step_cases stepped with
  | outerTimeout at_point =>
    refine afterScan_inStep s startedAt posted ?_
    rintro _ ⟨⟩
    exact ⟨nofun, nofun⟩
  | completed at_point result scanResults => exact afterScan_inStep s startedAt posted nofun

/-- The event of a scan, taken by the loop. -/
theorem event_inStep (s : Station setup stack) (startedAt : UInt64) {loop next : ScanLoop β}
    {lines : List (ScanLine β)} {waiting : List (RadioEvent β)} (kept : ScanWaiting loop waiting)
    (stepped : scanLoop code testSsid loop (.nextEvent waiting.head?) = some (next, lines)) :
    InStep (s.afterScan startedAt next) waiting.tail := by
  unfold ScanWaiting at kept
  have step := ScanLoop.step_cases stepped
  generalize head : waiting.head? = event at step
  cases step with
  | eventTimeout result at_point =>
    rw [at_point] at kept
    obtain ⟨event, rfl, -⟩ := kept
    cases head
  | unexpected result at_point event differs =>
    rw [at_point] at kept
    obtain ⟨event, rfl, posts⟩ := kept
    cases head
    exact absurd posts differs
  | accepted result at_point event posts t decided =>
    rw [at_point] at kept
    obtain ⟨event, rfl, -⟩ := kept
    cases decided with
    | left | retry => exact afterScan_inStep s startedAt rfl nofun
    | halt reason own =>
      refine afterScan_inStep s startedAt rfl ?_
      rintro _ ⟨⟩
      exact own

theorem delay_inStep (s : Station setup stack) (startedAt : UInt64) {loop next : ScanLoop β}
    {lines : List (ScanLine β)} {waiting : List (RadioEvent β)} (kept : ScanWaiting loop waiting)
    (stepped : scanLoop code testSsid loop .delay = some (next, lines)) :
    InStep (s.afterScan startedAt next) waiting := by
  cases ScanLoop.step_cases stepped with
  | delay at_point =>
    rw [ScanWaiting, at_point] at kept
    exact afterScan_inStep s startedAt kept nofun

/-- A step of the system is one of the task, on an answer of its environment or on what
the mailbox hands over. -/
theorem system_cases {s t : System box setup stack} {input : System.Input β stack}
    {out : List (Effect setup)} (h : system s input = some (t, out)) :
    (∃ answer, input.answer = some answer ∧ (∀ event, answer ≠ .nextEvent event) ∧
      Step s.station answer t.station out ∧ t.events = box.posts s.events input.posted) ∨
    input.answer = none ∧
      Step s.station (.nextEvent (box.take (box.posts s.events input.posted)).1) t.station out ∧
      t.events = (box.take (box.posts s.events input.posted)).2 := by
  obtain ⟨posted, answer⟩ := input
  unfold system at h
  split at h
  · cases h
  · rename_i answer other asked
    obtain ⟨_, stepped, same⟩ := Option.map_eq_some_iff.mp h
    cases same
    exact .inl ⟨answer, asked, other, step_cases stepped, rfl⟩
  · rename_i asked
    obtain ⟨_, stepped, same⟩ := Option.map_eq_some_iff.mp h
    cases same
    exact .inr ⟨asked, step_cases stepped, rfl⟩

/-- What holds between the operations is kept by any answer but an event, as long as no
session leaves one. -/
theorem answered_inStep {s t : Station setup stack} {answer : Input β stack}
    {out : List (Effect setup)} {before posted : List (RadioEvent β)} {depth : Nat}
    (room : 0 < depth) (kept : InStep s before) (faithful : Faithful s ⟨posted, some answer⟩)
    (empty : Leaves s t → joined depth before posted = [])
    (other : ∀ event, answer ≠ .nextEvent event) (step : Step s answer t out) :
    InStep t (joined depth before posted) := by
  obtain ⟨point, reconnects⟩ := s
  cases step with
  | refused _ _ reason own => exact own
  | initialized at_point =>
    cases at_point
    obtain rfl : before = [] := kept
    obtain rfl : posted = [.initialized] := faithful
    exact joined_single room _
  | eventTimeout | unexpected | expectInitialized | expectConnected | networkEvent =>
    exact absurd rfl (other _)
  | scanClock at_point =>
    cases at_point
    obtain rfl : before = [] := kept
    obtain rfl : posted = [] := faithful
    exact joined_nil depth []
  | scan startedAt loop at_point _ input asks next lines stepped =>
    cases at_point
    have kept : ScanWaiting loop before := kept
    cases answer with
    | scan reply =>
      cases asks
      have idle : before = [] := by
        rw [ScanWaiting] at kept
        cases ScanLoop.step_cases stepped with
        | outerTimeout at_point | completed at_point =>
          rw [at_point] at kept
          exact kept
      subst idle
      refine scan_inStep _ startedAt ?_ stepped
      cases reply with
      | none =>
        obtain rfl : posted = [] := faithful
        exact joined_nil depth []
      | some answered =>
        obtain ⟨event, rfl, posts⟩ := faithful
        exact ⟨event, joined_single room event, posts⟩
    | nextEvent => exact absurd rfl (other _)
    | delay =>
      cases asks
      obtain rfl : posted = [] := faithful
      rw [joined_nil]
      exact delay_inStep _ startedAt kept stepped
    | _ => cases asks
  | scanned startedAt loop outcome at_point =>
    cases at_point
    obtain rfl : before = [] := kept
    obtain rfl : posted = [] := faithful
    rw [joined_nil]
    unfold selectResult
    split
    · exact beginConnect_inStep _ _
    · exact trivial
  | connected result station at_point =>
    cases at_point
    obtain rfl : before = [] := kept
    obtain rfl : posted = [.connected] := faithful
    exact ⟨[], joined_single room _⟩
  | newInterface => exact trivial
  | network result runner at_point input _ next sent =>
    exact afterNetwork_inStep _ result next fun left => empty ⟨⟨result, runner, at_point⟩, left⟩
  | delay result at_point =>
    cases at_point
    obtain rfl : before = [] := kept
    obtain rfl : posted = [] := faithful
    rw [joined_nil]
    exact beginConnect_inStep _ result

/-- So it is where the task takes an event. -/
theorem handed_inStep {s t : Station setup stack} {out : List (Effect setup)}
    {before posted : List (RadioEvent β)} {depth : Nat} (kept : InStep s before)
    (faithful : Faithful s ⟨posted, none⟩)
    (empty : Leaves s t → (joined depth before posted).tail = [])
    (step : Step s (.nextEvent (joined depth before posted).head?) t out) :
    InStep t (joined depth before posted).tail := by
  obtain ⟨point, reconnects⟩ := s
  generalize head : (joined depth before posted).head? = event at step
  cases step with
  | refused _ other => exact absurd rfl (other _)
  | eventTimeout expected expects =>
    cases point <;> cases expects
    · obtain rfl : before = [.initialized] := kept
      cases head
    · obtain ⟨later, rfl⟩ := kept
      cases head
  | unexpected expected expects event differs =>
    cases point <;> cases expects
    · obtain rfl : before = [.initialized] := kept
      cases head
      cases differs
    · obtain ⟨later, rfl⟩ := kept
      cases head
      cases differs
  | expectInitialized at_point =>
    cases at_point
    obtain rfl : before = [.initialized] := kept
    obtain rfl : posted = [] := faithful
    rw [joined_nil]
    exact rfl
  | expectConnected => exact trivial
  | scan startedAt loop at_point _ input asks next lines stepped =>
    cases at_point
    cases asks
    obtain rfl : posted = [] := faithful
    rw [joined_nil] at head ⊢
    subst head
    exact event_inStep _ startedAt kept stepped
  | networkEvent result runner at_point _ next sent =>
    exact afterNetwork_inStep _ result next fun left => empty ⟨⟨result, runner, at_point⟩, left⟩

theorem step_inStep {depth : Nat} (lawful : box.Lawful depth) (room : 0 < depth)
    {s t : System box setup stack} {input : System.Input β stack} {out : List (Effect setup)}
    (kept : InStep s.station (box.waiting s.events)) (faithful : Faithful s.station input)
    (empty : Leaves s.station t.station → box.waiting t.events = [])
    (h : system s input = some (t, out)) : InStep t.station (box.waiting t.events) := by
  obtain ⟨posted, asked⟩ := input
  rcases system_cases h with ⟨answer, rfl, other, step, events⟩ | ⟨rfl, step, events⟩
  · rw [events, lawful.posts] at empty ⊢
    exact answered_inStep room kept faithful empty other step
  · rw [lawful.taken, lawful.posts] at step
    rw [events, lawful.left, lawful.posts] at empty ⊢
    exact handed_inStep kept faithful empty step

abbrev Passing (box : Mailbox (RadioEvent β)) (setup : Setup β) (stack : Smoltcp) :=
  Move (System box setup stack) (System.Input β stack) (Effect setup)

theorem run_inStep {depth : Nat} (lawful : box.Lawful depth) (room : 0 < depth)
    {ms : List (Passing box setup stack)} {s : System box setup stack}
    (run : Run system (System.begin box setup stack) ms s)
    (faithful : ∀ m ∈ ms, Faithful m.before.station m.input)
    (empty : ∀ m ∈ ms, Leaves m.before.station m.after.station →
      box.waiting m.after.events = []) : InStep s.station (box.waiting s.events) := by
  induction run with
  | start => exact lawful.empty
  | next _ h ih =>
    rw [List.forall_mem_append, List.forall_mem_singleton] at faithful empty
    exact step_inStep lawful room (ih faithful.1 empty.1) faithful.2 empty.2 h

/-- On the way to the next connection with `event` waiting before all others, or stopped. -/
def Stale (event : RadioEvent β) (s : Station setup stack) (waiting : List (RadioEvent β)) :
    Prop :=
  match s.point with
  | .delay _ | .connect _ _ | .expectConnected _ => ∃ later, waiting = event :: later
  | .halted _ | .panicked => True
  | _ => False

omit [DecidableEq β] in
theorem beginConnect_stale {event : RadioEvent β} {waiting : List (RadioEvent β)}
    (head : ∃ later, waiting = event :: later) (s : Station setup stack) (result : ScanResult) :
    Stale event (s.beginConnect result).1 waiting := by
  unfold beginConnect
  split
  · exact trivial
  · split
    · exact trivial
    · exact head

/-- The event is kept waiting by any answer but an event. -/
theorem answered_stale {event : RadioEvent β} {s t : Station setup stack}
    {answer : Input β stack} {out : List (Effect setup)} {before : List (RadioEvent β)}
    (stale : Stale event s before) (depth : Nat) (posted : List (RadioEvent β))
    (other : ∀ event, answer ≠ .nextEvent event) (step : Step s answer t out) :
    Stale event t (joined depth before posted) := by
  obtain ⟨point, reconnects⟩ := s
  cases step with
  | refused => exact trivial
  | connected result station at_point =>
    cases at_point
    obtain ⟨later, rfl⟩ := stale
    exact joined_cons depth event later posted
  | delay result at_point =>
    cases at_point
    obtain ⟨later, rfl⟩ := stale
    exact beginConnect_stale (joined_cons depth event later posted) _ result
  | eventTimeout | unexpected | expectInitialized | expectConnected | networkEvent =>
    exact absurd rfl (other _)
  | initialized at_point | scanClock at_point | scan _ _ at_point | scanned _ _ _ at_point
  | newInterface _ at_point | network _ _ at_point =>
    cases at_point
    cases stale

/-- An event that is not the expected connection is never got past. -/
theorem handed_stale {event : RadioEvent β} (unlike : event ≠ .connected)
    {s t : Station setup stack} {out : List (Effect setup)} {before posted : List (RadioEvent β)}
    {depth : Nat} (stale : Stale event s before)
    (step : Step s (.nextEvent (joined depth before posted).head?) t out) :
    t.point = .halted .unexpectedEvent := by
  obtain ⟨point, reconnects⟩ := s
  generalize head : (joined depth before posted).head? = handed at step
  cases step with
  | refused _ other => exact absurd rfl (other _)
  | eventTimeout expected expects =>
    cases point <;> cases expects
    · cases stale
    · obtain ⟨later, rfl⟩ := stale
      cases head
  | unexpected => exact rfl
  | expectConnected result at_point =>
    cases at_point
    obtain ⟨later, rfl⟩ := stale
    cases head
    exact absurd rfl unlike
  | expectInitialized at_point | scan _ _ at_point | networkEvent _ _ at_point =>
    cases at_point
    cases stale

theorem step_stale {depth : Nat} (lawful : box.Lawful depth) {event : RadioEvent β}
    (unlike : event ≠ .connected) {s t : System box setup stack} {input : System.Input β stack}
    {out : List (Effect setup)} (stale : Stale event s.station (box.waiting s.events))
    (h : system s input = some (t, out)) :
    Stale event t.station (box.waiting t.events) ∧
      (input.answer = none → t.station.point = .halted .unexpectedEvent) := by
  obtain ⟨posted, asked⟩ := input
  rcases system_cases h with ⟨answer, rfl, other, step, events⟩ | ⟨rfl, step, events⟩
  · rw [events, lawful.posts]
    exact ⟨answered_stale stale depth posted other step, nofun⟩
  · rw [lawful.taken, lawful.posts] at step
    have halted := handed_stale unlike stale step
    rw [Stale, halted]
    exact ⟨trivial, fun _ => rfl⟩

theorem run_stale {depth : Nat} (lawful : box.Lawful depth) {event : RadioEvent β}
    (unlike : event ≠ .connected) {s t : System box setup stack}
    {ms : List (Passing box setup stack)} (stale : Stale event s.station (box.waiting s.events))
    (run : Run system s ms t) : Stale event t.station (box.waiting t.events) ∧
      ∀ m ∈ ms, (m.input.answer = none → m.after.station.point = .halted .unexpectedEvent) ∧
        Stale event m.after.station (box.waiting m.after.events) := by
  induction run with
  | start => exact ⟨stale, fun _ member => absurd member List.not_mem_nil⟩
  | next _ h ih =>
    obtain ⟨before, moves⟩ := ih
    obtain ⟨after, read⟩ := step_stale lawful unlike before h
    refine ⟨after, ?_⟩
    rw [List.forall_mem_append, List.forall_mem_singleton]
    exact ⟨moves, read, after⟩

/-- The controller's queue keeps the order of its events and drops one only where it is
full. With a faithful controller no event is missing or unexpected, as long as each
session that ends leaves the queue empty. One event left over that is not a new
connection is fatal: no session follows, and the next event the task reads stops it. -/
theorem connectivity_stale_event_fatal (box : Mailbox (RadioEvent β)) (depth : Nat)
    (lawful : box.Lawful depth) (room : 0 < depth) (setup : Setup β) (stack : Smoltcp)
    (ms : List (Passing box setup stack)) (s : System box setup stack)
    (run : Run system (System.begin box setup stack) ms s) :
    ((∀ m ∈ ms, Faithful m.before.station m.input) →
      (∀ m ∈ ms, Leaves m.before.station m.after.station → box.waiting m.after.events = []) →
      ∀ reason, s.station.point = .halted reason → ¬ reason.OfEvent) ∧
    ∀ pre m post event, ms = pre ++ m :: post → Leaves m.before.station m.after.station →
      (box.waiting m.after.events).head? = some event → event ≠ .connected → ∀ n ∈ post,
        (n.input.answer = none → n.after.station.point = .halted .unexpectedEvent) ∧
        ∀ result runner, n.after.station.point ≠ .network result runner := by
  constructor
  · intro faithful empty reason halted
    have kept := run_inStep lawful room run faithful empty
    rw [InStep, halted] at kept
    exact kept
  · rintro pre m post event rfl leaves head unlike n member
    obtain ⟨-, -, rest⟩ := run.at_move
    obtain ⟨later, waiting⟩ := List.head?_eq_some_iff.mp head
    obtain ⟨-, result, at_point⟩ := leaves
    have stale : Stale event m.after.station (box.waiting m.after.events) := by
      rw [Stale, at_point]
      exact ⟨later, waiting⟩
    obtain ⟨read, still⟩ := (run_stale lawful unlike stale rest).2 n member
    refine ⟨read, ?_⟩
    intro result runner at_session
    rw [Stale, at_session] at still
    exact still

/-- Up to the first session, with each event posted by the operation it reports. -/
def hilPosted : List (System.Input Nat plainStack) :=
  hilBoot.map fun
    | .nextEvent _ => ⟨[], none⟩
    | .initializeController startedAt reply finishedAt =>
      ⟨[.initialized], some (.initializeController startedAt reply finishedAt)⟩
    | .scan reply => ⟨[.scanCompleted 1 false], some (.scan reply)⟩
    | .connect startedAt reply finishedAt =>
      ⟨[.connected], some (.connect startedAt reply finishedAt)⟩
    | answer => ⟨[], some answer⟩

/-- The session is lost and its event read, then the next connection fails. -/
theorem lost_once : ∃ (ms : List (Passing (bounded (RadioEvent Nat) 8) hilSetup plainStack))
    (s : System (bounded (RadioEvent Nat) 8) hilSetup plainStack),
    Run system (System.begin _ hilSetup plainStack) ms s ∧
      (∀ m ∈ ms, Faithful m.before.station m.input) ∧
      (∀ m ∈ ms, Leaves m.before.station m.after.station →
        (bounded (RadioEvent Nat) 8).waiting m.after.events = []) ∧
      s.station.point = .halted .connectErr := by
  have run : Run system (System.begin (bounded (RadioEvent Nat) 8) hilSetup plainStack) _ _ :=
    exec_run (hilPosted ++ [⟨[.disconnected 8], none⟩, ⟨[], some .delay⟩,
      ⟨[], some (.connect 96000 (some (.error .protocol)) 96000)⟩]) rfl
  refine ⟨_, _, run, ?_, ?_, rfl⟩
  · simp only [List.forall_mem_cons]
    exact ⟨rfl, rfl, rfl, ⟨_, rfl, .completed _⟩, rfl, rfl, rfl, trivial, trivial, trivial,
      trivial, trivial, trivial, trivial, rfl, rfl, List.forall_mem_nil _⟩
  · simp only [List.forall_mem_cons]
    refine ⟨?_, fun _ => rfl, fun _ => rfl, ?_, fun _ => rfl, fun _ => rfl, ?_, fun _ => rfl,
      fun _ => rfl, fun _ => rfl, fun _ => rfl, fun _ => rfl, fun _ => rfl, fun _ => rfl,
      fun _ => rfl, fun _ => rfl, List.forall_mem_nil _⟩
    -- these wait with an event that was just posted, outside a session
    all_goals
      rintro ⟨⟨_, _, here⟩, -⟩
      cases here

/-- The task gets past one disconnection, and not past a second one that is posted before
it has read the first. -/
theorem connectivity_stale_event_fatal_twice :
    (∃ ms s, Run system (System.begin (bounded (RadioEvent Nat) 8) hilSetup plainStack) ms s ∧
      ∃ reason, s.station.point = .halted reason ∧ ¬ reason.OfEvent) ∧
    ∃ ms s, Run system (System.begin (bounded (RadioEvent Nat) 8) hilSetup plainStack) ms s ∧
      s.station.point = .halted .unexpectedEvent := by
  constructor
  · obtain ⟨ms, s, run, faithful, empty, halted⟩ := lost_once
    have own := (connectivity_stale_event_fatal (bounded (RadioEvent Nat) 8) 8
      (bounded_lawful 8) (by decide) hilSetup plainStack ms s run).1 faithful empty _ halted
    exact ⟨ms, s, run, _, halted, own⟩
  · have boot : Run system (System.begin (bounded (RadioEvent Nat) 8) hilSetup plainStack) _ _ :=
      exec_run hilPosted rfl
    have run := boot.trans (Run.trans
      (exec_run [⟨[.disconnected 8, .disconnected 8], none⟩] rfl)
      (exec_run [⟨[], some .delay⟩,
        ⟨[.connected], some (.connect 96000 (some (.ok ())) 96000)⟩, ⟨[], none⟩] rfl))
    obtain ⟨-, fatal⟩ := connectivity_stale_event_fatal (bounded (RadioEvent Nat) 8) 8
      (bounded_lawful 8) (by decide) hilSetup plainStack _ _ run
    have stops := fatal _ _ _ (.disconnected 8) rfl ⟨⟨_, _, rfl⟩, _, rfl⟩ rfl nofun
    exact ⟨_, _, run, (stops _ (.tail _ (.tail _ (.head _)))).1 rfl⟩

end Ws63Examples.Connectivity.Station
