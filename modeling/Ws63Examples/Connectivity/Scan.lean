import Ws63Examples.Connectivity.Events
import Ws63Examples.Lib.Execution
import Ws63Examples.Lib.Slice

/-! The scan loop of the connectivity task, and the controller's event queue. -/

namespace Ws63Examples.Connectivity

open Execution Slice

def scanResultDepth : Nat := 32

/-- `hisi_rf::Error`; what a backend reports is the driver's. -/
inductive WifiError (β : Type) where
  | backend (error : β)
  | protocol
  deriving DecidableEq, Repr

/-- `error.diagnostic().code()`, as far as the loop compares it. -/
inductive DiagnosticCode where
  | operationTimeout
  | other
  deriving DecidableEq, Repr

structure ScanOutcome where
  count : Nat
  truncated : Bool
  deriving DecidableEq, Repr

structure ScanResult where
  ssid : List UInt8
  deriving DecidableEq, Repr

abbrev ScanResults := Vector ScanResult scanResultDepth

abbrev ScanReply (β : Type) := Except (WifiError β) ScanOutcome

/-- The controller's events, with the payloads the task reads. -/
inductive RadioEvent (β : Type) where
  | initialized
  | scanCompleted (count : Nat) (truncated : Bool)
  | connected
  | disconnected (reason : UInt16)
  | failed (error : β)
  deriving DecidableEq, Repr

/-- What the network runner reads of an event. -/
def RadioEvent.plain {β : Type} : RadioEvent β → WifiEvent
  | .initialized => .initialized
  | .scanCompleted _ _ => .scanCompleted
  | .connected => .connected
  | .disconnected reason => .disconnected reason
  | .failed _ => .failed

/-- What stops the task for good: a `halt()`, or the panic of the slice. -/
inductive ScanHalt where
  | outerTimeout
  | eventTimeout
  | unexpectedEvent
  | slicePanic
  | apNotFound
  | scanErr
  deriving DecidableEq, Repr

inductive ScanLine (β : Type) where
  | scanDiagnostics (attempt : Nat)
  | scanErrOuterTimeout
  | eventErrTimeout
  | eventErrUnexpected (event : RadioEvent β)
  | scanInventory (results : List ScanResult)
  | apNotFound
  | scanErr (error : WifiError β)
  deriving DecidableEq, Repr

/-- Where the scan loop stands, before the input it needs next. -/
inductive ScanLoop.Point (β : Type) where
  | scan
  | expectEvent (result : ScanReply β)
  | delay
  | left (outcome : ScanOutcome)
  | halted (reason : ScanHalt)

structure ScanLoop (β : Type) where
  scanResults : ScanResults
  retries : Nat
  point : ScanLoop.Point β

inductive ScanLoop.Input (β : Type) where
  /-- A scan, with its result and the buffer it leaves; `none` is the outer
  timeout. -/
  | scan (reply : Option (ScanReply β × ScanResults))
  /-- `next_event`; `none` is its timeout. -/
  | nextEvent (event : Option (RadioEvent β))
  | delay

variable {β : Type} [DecidableEq β]

/-- The decision of `expect_scan_event`. -/
def matchesScan (result : ScanReply β) (event : RadioEvent β) : Bool :=
  match result, event with
  | .ok expected, .scanCompleted count truncated =>
    count = expected.count && truncated = expected.truncated
  | .error (.backend expected), .failed actual => expected = actual
  | .error .protocol, .failed _ => true
  | _, _ => false

namespace ScanLoop

def begin (β : Type) : ScanLoop β := ⟨.replicate _ ⟨[]⟩, 0, .scan⟩

/-- `&scan_results[..outcome.count]` -/
def firstResults (s : ScanLoop β) (outcome : ScanOutcome) : Option (List ScanResult) :=
  slice s.scanResults.toList 0 outcome.count

def halt (s : ScanLoop β) (reason : ScanHalt) : ScanLoop β := { s with point := .halted reason }

/-- The result, once its event was consumed. -/
def decideResult (code : WifiError β → DiagnosticCode) (testSsid : List UInt8) (s : ScanLoop β)
    (result : ScanReply β) : ScanLoop β × List (ScanLine β) :=
  match result with
  | .ok outcome =>
    match s.firstResults outcome with
    | none => (s.halt .slicePanic, [])
    | some results =>
      if results.any fun result => result.ssid = testSsid then
        ({ s with point := .left outcome }, [])
      else if s.retries = 0 then ({ s with retries := 1, point := .delay }, [])
      else (s.halt .apNotFound, [.scanInventory results, .apNotFound])
  | .error error =>
    if s.retries = 0 ∧ code error = .operationTimeout then
      ({ s with retries := 1, point := .delay }, [.scanDiagnostics 1])
    else (s.halt .scanErr, [.scanDiagnostics (s.retries + 1), .scanErr error])

end ScanLoop

/-- The loop of `connectivity` that scans for the test network. -/
def scanLoop (code : WifiError β → DiagnosticCode) (testSsid : List UInt8) (s : ScanLoop β)
    (input : ScanLoop.Input β) : Option (ScanLoop β × List (ScanLine β)) :=
  match s.point, input with
  | .scan, .scan none =>
    some (s.halt .outerTimeout, [.scanDiagnostics (s.retries + 1), .scanErrOuterTimeout])
  | .scan, .scan (some (result, scanResults)) =>
    some ({ s with scanResults := scanResults, point := .expectEvent result }, [])
  | .expectEvent _, .nextEvent none => some (s.halt .eventTimeout, [.eventErrTimeout])
  | .expectEvent result, .nextEvent (some event) =>
    if matchesScan result event then some (s.decideResult code testSsid result)
    else some (s.halt .unexpectedEvent, [.eventErrUnexpected event])
  | .delay, .delay => some ({ s with point := .scan }, [])
  | _, _ => none

/-- The loop with the queue its events wait in. -/
structure ScanSystem (β : Type) where
  loop : ScanLoop β
  queue : List (RadioEvent β)

inductive ScanSystem.Input (β : Type) where
  /-- A scan, and what the controller posts with its completion. -/
  | scan (reply : Option (ScanReply β × ScanResults)) (posted : List (RadioEvent β))
  | nextEvent
  | delay

/-- An empty queue runs into the timeout of `next_event`. -/
def scanSystem (code : WifiError β → DiagnosticCode) (testSsid : List UInt8) (s : ScanSystem β)
    (input : ScanSystem.Input β) : Option (ScanSystem β × List (ScanLine β)) :=
  match input with
  | .scan reply posted =>
    (scanLoop code testSsid s.loop (.scan reply)).map fun r => (⟨r.1, s.queue ++ posted⟩, r.2)
  | .nextEvent =>
    (scanLoop code testSsid s.loop (.nextEvent s.queue.head?)).map fun r =>
      (⟨r.1, s.queue.tail⟩, r.2)
  | .delay => (scanLoop code testSsid s.loop .delay).map fun r => (⟨r.1, s.queue⟩, r.2)

namespace ScanLoop

/-- A scan that found the test network among the results it counts. -/
def Finds (testSsid : List UInt8) (scanResults : ScanResults) (outcome : ScanOutcome) : Prop :=
  ∃ results, slice scanResults.toList 0 outcome.count = some results ∧
    ∃ result ∈ results, result.ssid = testSsid

/-- A scan worth another one: it did not show the test network, or timed out. -/
def Retriable (code : WifiError β → DiagnosticCode) (testSsid : List UInt8) :
    ScanReply β → ScanResults → Prop
  | .ok outcome, scanResults => ∃ results, slice scanResults.toList 0 outcome.count = some results ∧
    ∀ result ∈ results, result.ssid ≠ testSsid
  | .error error, _ => code error = .operationTimeout

/-- What a faithful controller posts with a completed scan. -/
inductive Posts : ScanReply β → RadioEvent β → Prop
  | completed (outcome : ScanOutcome) :
      Posts (.ok outcome) (.scanCompleted outcome.count outcome.truncated)
  | failed (error : β) : Posts (.error (.backend error)) (.failed error)
  | protocol (error : β) : Posts (.error .protocol) (.failed error)

theorem matchesScan_iff {result : ScanReply β} {event : RadioEvent β} :
    matchesScan result event = true ↔ Posts result event := by
  constructor
  · intro accepted
    unfold matchesScan at accepted
    split at accepted
    · simp only [Bool.and_eq_true, decide_eq_true_eq] at accepted
      obtain ⟨rfl, rfl⟩ := accepted
      exact .completed _
    · obtain rfl := of_decide_eq_true accepted
      exact .failed _
    · exact .protocol _
    · cases accepted
  · rintro (outcome | error | error) <;> simp [matchesScan]

variable {code : WifiError β → DiagnosticCode} {testSsid : List UInt8}

/-- The three ends of a result: the loop is left, goes round once more, or halts. -/
inductive Decision (code : WifiError β → DiagnosticCode) (testSsid : List UInt8) (s : ScanLoop β)
    (result : ScanReply β) : ScanLoop β → Prop
  | left (outcome : ScanOutcome) (ok : result = .ok outcome)
      (finds : Finds testSsid s.scanResults outcome) :
      Decision code testSsid s result { s with point := .left outcome }
  | retry (first : s.retries = 0) (retriable : Retriable code testSsid result s.scanResults) :
      Decision code testSsid s result { s with retries := 1, point := .delay }
  | halt (reason : ScanHalt) (own : reason ≠ .eventTimeout ∧ reason ≠ .unexpectedEvent)
      (unfound : ∀ outcome, result = .ok outcome → ¬ Finds testSsid s.scanResults outcome) :
      Decision code testSsid s result (s.halt reason)

omit [DecidableEq β] in
theorem decideResult_spec (code : WifiError β → DiagnosticCode) (testSsid : List UInt8)
    (s : ScanLoop β) (result : ScanReply β) :
    Decision code testSsid s result (s.decideResult code testSsid result).1 := by
  unfold decideResult
  split
  · rename_i outcome
    split
    · rename_i outside
      refine .halt _ ⟨nofun, nofun⟩ ?_
      rintro _ ⟨⟩ ⟨results, inside, -⟩
      cases outside.symm.trans inside
    · rename_i results inside
      split
      · rename_i found
        obtain ⟨result, member, named⟩ := List.any_eq_true.mp found
        exact .left outcome rfl ⟨results, inside, result, member, of_decide_eq_true named⟩
      · rename_i missing
        have absent : ∀ result ∈ results, result.ssid ≠ testSsid := by
          intro result member named
          exact missing (List.any_eq_true.mpr ⟨result, member, decide_eq_true named⟩)
        split
        · rename_i first
          exact .retry first ⟨results, inside, absent⟩
        · refine .halt _ ⟨nofun, nofun⟩ ?_
          rintro _ ⟨⟩ ⟨results', inside', result, member, named⟩
          obtain rfl := Option.some.inj (inside.symm.trans inside')
          exact absent result member named
  · split
    · rename_i timeout
      exact .retry timeout.1 timeout.2
    · exact .halt _ ⟨nofun, nofun⟩ nofun

/-- What a step can do. -/
inductive Step (code : WifiError β → DiagnosticCode) (testSsid : List UInt8) (s : ScanLoop β) :
    Input β → ScanLoop β → Prop
  | outerTimeout (at_point : s.point = .scan) :
      Step code testSsid s (.scan none) (s.halt .outerTimeout)
  | completed (at_point : s.point = .scan) (result : ScanReply β) (scanResults : ScanResults) :
      Step code testSsid s (.scan (some (result, scanResults)))
        { s with scanResults := scanResults, point := .expectEvent result }
  | eventTimeout (result : ScanReply β) (at_point : s.point = .expectEvent result) :
      Step code testSsid s (.nextEvent none) (s.halt .eventTimeout)
  | accepted (result : ScanReply β) (at_point : s.point = .expectEvent result)
      (event : RadioEvent β) (posts : Posts result event) (t : ScanLoop β)
      (decided : Decision code testSsid s result t) :
      Step code testSsid s (.nextEvent (some event)) t
  | unexpected (result : ScanReply β) (at_point : s.point = .expectEvent result)
      (event : RadioEvent β) (differs : ¬ Posts result event) :
      Step code testSsid s (.nextEvent (some event)) (s.halt .unexpectedEvent)
  | delay (at_point : s.point = .delay) : Step code testSsid s .delay { s with point := .scan }

theorem step_cases {s t : ScanLoop β} {input : Input β} {out : List (ScanLine β)}
    (h : scanLoop code testSsid s input = some (t, out)) : Step code testSsid s input t := by
  unfold scanLoop at h
  split at h
  case h_1 at_point =>
    cases h
    exact .outerTimeout at_point
  case h_2 result scanResults at_point =>
    cases h
    exact .completed at_point result scanResults
  case h_3 result at_point =>
    cases h
    exact .eventTimeout result at_point
  case h_4 result event at_point =>
    split at h
    · rename_i accepted
      obtain ⟨rfl, -⟩ := answer_parts h
      exact .accepted result at_point event (matchesScan_iff.mp accepted) _
        (decideResult_spec code testSsid s result)
    · rename_i differs
      cases h
      exact .unexpected result at_point event fun posts => differs (matchesScan_iff.mpr posts)
  case h_5 at_point =>
    cases h
    exact .delay at_point
  case h_6 => cases h

abbrev Scanning (β : Type) := Move (ScanLoop β) (Input β) (ScanLine β)

def Over (s : ScanLoop β) : Prop :=
  (∃ outcome, s.point = .left outcome) ∨ ∃ reason, s.point = .halted reason

theorem Over.stuck {s : ScanLoop β} (ended : s.Over) (input : Input β) :
    scanLoop code testSsid s input = none := by
  unfold scanLoop
  rcases ended with ⟨outcome, at_point⟩ | ⟨reason, at_point⟩ <;> rw [at_point]

/-- How many steps are left, whatever the controller does. -/
def remaining (s : ScanLoop β) : Nat :=
  match s.point with
  | .scan => if s.retries = 0 then 5 else 2
  | .expectEvent _ => if s.retries = 0 then 4 else 1
  | .delay => if s.retries = 0 then 6 else 3
  | .left _ | .halted _ => 0

theorem step_remaining {s t : ScanLoop β} {input : Input β} {out : List (ScanLine β)}
    (h : scanLoop code testSsid s input = some (t, out)) : t.remaining < s.remaining := by
  cases step_cases h with
  | outerTimeout at_point | eventTimeout _ at_point | unexpected _ at_point =>
    simp only [remaining, at_point, halt]
    split <;> decide
  | completed at_point | delay at_point =>
    simp only [remaining, at_point]
    split <;> decide
  | accepted result at_point event posts t decided =>
    cases decided with
    | left | halt =>
      simp only [remaining, at_point, halt]
      split <;> decide
    | retry first => simp [remaining, at_point, first]

theorem run_bounded {ms : List (Scanning β)} {s : ScanLoop β}
    (run : Run (scanLoop code testSsid) (begin β) ms s) : ms.length + s.remaining ≤ 5 := by
  apply run.history (P := fun ms s => ms.length + s.remaining ≤ 5) (Nat.le_refl 5)
  intro ms u input v out _ bound h
  have := step_remaining h
  rw [List.length_append, List.length_singleton]
  omega

/-- Whatever the controller posts, an event that does not match stops the task. -/
theorem unmatched_halts {m : Scanning β} {ms pre post : List (Scanning β)} {s : ScanLoop β}
    (run : Run (scanLoop code testSsid) (begin β) ms s) (split : ms = pre ++ m :: post)
    {result : ScanReply β} (at_point : m.before.point = .expectEvent result)
    (unmatched : ∀ event, m.input = .nextEvent (some event) → ¬ Posts result event) :
    (∃ reason, m.after.point = .halted reason) ∧ post = [] := by
  obtain ⟨-, step, rest⟩ := (split ▸ run).at_move
  have halted : ∃ reason, m.after.point = .halted reason := by
    obtain ⟨u, input, out, v⟩ := m
    have cases_of : Step code testSsid u input v := step_cases step
    cases cases_of with
    | eventTimeout => exact ⟨_, rfl⟩
    | unexpected => exact ⟨_, rfl⟩
    | accepted result' here event posts =>
      cases here.symm.trans at_point
      exact absurd posts (unmatched event rfl)
    | outerTimeout here | completed here | delay here => cases here.symm.trans at_point
  refine ⟨halted, ?_⟩
  cases post with
  | nil => rfl
  | cons n post =>
    obtain ⟨-, step, -⟩ := rest.uncons
    cases (Over.stuck (.inr halted) n.input).symm.trans step

end ScanLoop

namespace ScanSystem

open ScanLoop

def begin (β : Type) : ScanSystem β := ⟨.begin β, []⟩

abbrev Moving (β : Type) := Move (ScanSystem β) (Input β) (ScanLine β)

/-- One event, the right one, for each completed scan. -/
def Faithful (m : Moving β) : Prop :=
  ∀ result scanResults posted, m.input = .scan (some (result, scanResults)) posted →
    ∃ event, posted = [event] ∧ Posts result event

omit [DecidableEq β] in
theorem faithful_scan {u v : ScanSystem β} {result : ScanReply β} {scanResults : ScanResults}
    {event : RadioEvent β} {out : List (ScanLine β)} (posts : Posts result event) :
    Faithful ⟨u, .scan (some (result, scanResults)) [event], out, v⟩ := by
  rintro _ _ _ ⟨⟩
  exact ⟨event, rfl, posts⟩

omit [DecidableEq β] in
theorem faithful_quiet {u v : ScanSystem β} {input : Input β} {out : List (ScanLine β)}
    (quiet : ∀ reply posted, input ≠ .scan reply posted) : Faithful ⟨u, input, out, v⟩ := by
  intro result scanResults posted scanned
  exact absurd scanned (quiet _ _)

/-- The scan a move started, with the controller's answer. -/
def reply (m : Moving β) : Option (Option (ScanReply β × ScanResults)) :=
  match m.input with
  | .scan reply _ => some reply
  | _ => none

def replies (ms : List (Moving β)) : List (Option (ScanReply β × ScanResults)) :=
  ms.filterMap reply

variable {code : WifiError β → DiagnosticCode} {testSsid : List UInt8}

/-- The replies behind a state, the current one apart: none, or one to try again. -/
inductive Tried (code : WifiError β → DiagnosticCode) (testSsid : List UInt8) :
    List (Option (ScanReply β × ScanResults)) → Nat → Prop
  | fresh : Tried code testSsid [] 0
  | once (result : ScanReply β) (scanResults : ScanResults)
      (retriable : Retriable code testSsid result scanResults) :
      Tried code testSsid [some (result, scanResults)] 1

/-- Results and events in lock-step. -/
def LockStep (code : WifiError β → DiagnosticCode) (testSsid : List UInt8)
    (replies : List (Option (ScanReply β × ScanResults))) (s : ScanSystem β) : Prop :=
  match s.loop.point with
  | .scan | .delay => s.queue = [] ∧ Tried code testSsid replies s.loop.retries
  | .expectEvent result => ∃ event before, s.queue = [event] ∧ Posts result event ∧
    replies = before ++ [some (result, s.loop.scanResults)] ∧
    Tried code testSsid before s.loop.retries
  | .left outcome => s.queue = [] ∧ Finds testSsid s.loop.scanResults outcome ∧
    ∃ before, replies = before ++ [some (.ok outcome, s.loop.scanResults)] ∧
      Tried code testSsid before s.loop.retries
  | .halted reason => (reason ≠ .eventTimeout ∧ reason ≠ .unexpectedEvent) ∧
    ∃ before last, replies = before ++ [last] ∧ Tried code testSsid before s.loop.retries ∧
      ∀ outcome scanResults, last = some (.ok outcome, scanResults) →
        ¬ Finds testSsid scanResults outcome

theorem step_lockStep {ms : List (Moving β)} {s t : ScanSystem β} {input : Input β}
    {out : List (ScanLine β)} (kept : LockStep code testSsid (replies ms) s)
    (faithful : Faithful ⟨s, input, out, t⟩)
    (h : scanSystem code testSsid s input = some (t, out)) :
    LockStep code testSsid (replies (ms ++ [⟨s, input, out, t⟩])) t := by
  have snoc : replies (ms ++ [⟨s, input, out, t⟩]) =
      replies ms ++ (reply ⟨s, input, out, t⟩).toList := by
    rw [replies, List.filterMap_append]
    cases seen : reply ⟨s, input, out, t⟩ <;> simp [seen, replies]
  rw [snoc]
  unfold LockStep at kept
  cases input with
  | scan answer posted =>
    obtain ⟨⟨loop, _⟩, stepped, same⟩ := Option.map_eq_some_iff.mp h
    cases same
    cases step_cases stepped with
    | outerTimeout at_point =>
      rw [at_point] at kept
      exact ⟨⟨nofun, nofun⟩, replies ms, none, rfl, kept.2, nofun⟩
    | completed at_point result scanResults =>
      rw [at_point] at kept
      obtain ⟨event, rfl, posts⟩ := faithful result scanResults posted rfl
      exact ⟨event, replies ms, by rw [kept.1]; rfl, posts, rfl, kept.2⟩
  | nextEvent =>
    obtain ⟨⟨loop, _⟩, stepped, same⟩ := Option.map_eq_some_iff.mp h
    cases same
    rw [reply, Option.toList_none, List.append_nil]
    have cases_of := step_cases stepped
    generalize next : s.queue.head? = head at cases_of
    cases cases_of with
    | eventTimeout result at_point =>
      rw [at_point] at kept
      obtain ⟨event, before, waiting, -⟩ := kept
      rw [waiting] at next
      cases next
    | unexpected result at_point event differs =>
      rw [at_point] at kept
      obtain ⟨event, before, waiting, posts, -⟩ := kept
      rw [waiting] at next
      cases next
      exact absurd posts differs
    | accepted result at_point event posts t decided =>
      rw [at_point] at kept
      obtain ⟨event, before, waiting, -, split, tried⟩ := kept
      have empty : s.queue.tail = [] := by rw [waiting]; rfl
      cases decided with
      | left outcome ok finds => exact ⟨empty, finds, before, ok ▸ split, tried⟩
      | retry first retriable =>
        rw [first] at tried
        cases tried
        refine ⟨empty, ?_⟩
        rw [split]
        exact .once result _ retriable
      | halt reason own unfound =>
        refine ⟨own, before, _, split, tried, ?_⟩
        rintro outcome _ ⟨⟩
        exact unfound outcome rfl
  | delay =>
    obtain ⟨⟨loop, _⟩, stepped, same⟩ := Option.map_eq_some_iff.mp h
    cases same
    rw [reply, Option.toList_none, List.append_nil]
    cases step_cases stepped with
    | delay at_point =>
      rw [at_point] at kept
      exact kept

theorem run_lockStep {ms : List (Moving β)} {s : ScanSystem β}
    (run : Run (scanSystem code testSsid) (begin β) ms s) (faithful : ∀ m ∈ ms, Faithful m) :
    LockStep code testSsid (replies ms) s := by
  refine run.history (P := fun ms s => (∀ m ∈ ms, Faithful m) →
    LockStep code testSsid (replies ms) s) (fun _ => ⟨rfl, .fresh⟩) ?_ faithful
  intro ms u input v out _ kept h faithful
  refine step_lockStep (kept fun m hm => faithful m (List.mem_append_left _ hm)) ?_ h
  exact faithful _ (List.mem_append_right _ (List.mem_singleton_self _))

/-- The loop's own run, with the events the queue handed it. -/
theorem run_loop {ms : List (Moving β)} {s : ScanSystem β}
    (run : Run (scanSystem code testSsid) (begin β) ms s) :
    ∃ ns, Run (scanLoop code testSsid) (.begin β) ns s.loop ∧ ns.length = ms.length := by
  refine run.history (P := fun ms s => ∃ ns, Run (scanLoop code testSsid) (.begin β) ns s.loop ∧
    ns.length = ms.length) ⟨[], .start, rfl⟩ ?_
  rintro ms u input v out - ⟨ns, loop, same⟩ h
  have stepped : ∃ i, scanLoop code testSsid u.loop i = some (v.loop, out) := by
    cases input <;>
      · obtain ⟨⟨t, written⟩, stepped, parts⟩ := Option.map_eq_some_iff.mp h
        cases parts
        exact ⟨_, stepped⟩
  obtain ⟨i, stepped⟩ := stepped
  exact ⟨_, loop.next stepped, by rw [List.length_append, List.length_append, same]; rfl⟩

theorem over_iff (s : ScanSystem β) :
    (∀ input, scanSystem code testSsid s input = none) ↔ s.loop.Over := by
  constructor
  · intro stuck
    unfold Over
    cases at_point : s.loop.point with
    | scan => simpa [scanSystem, scanLoop, at_point] using stuck (.scan none [])
    | expectEvent result =>
      have := stuck .nextEvent
      cases next : s.queue.head? with
      | none => simp [scanSystem, scanLoop, at_point, next] at this
      | some event =>
        simp only [scanSystem, scanLoop, at_point, next, Option.map_eq_none_iff] at this
        split at this <;> cases this
    | delay => simpa [scanSystem, scanLoop, at_point] using stuck .delay
    | left outcome => exact .inl ⟨outcome, rfl⟩
    | halted reason => exact .inr ⟨reason, rfl⟩
  · intro ended input
    cases input <;> simp [scanSystem, ended.stuck]

omit [DecidableEq β] in
/-- The replies are at most two, the first of two one to try again. -/
theorem LockStep.retried {answers : List (Option (ScanReply β × ScanResults))} {s : ScanSystem β}
    (kept : LockStep code testSsid answers s) : answers.length ≤ 2 ∧
      ∀ first second rest, answers = first :: second :: rest →
        ∃ result scanResults, first = some (result, scanResults) ∧
          Retriable code testSsid result scanResults := by
  have one {before : List (Option (ScanReply β × ScanResults))} {retries : Nat}
      (tried : Tried code testSsid before retries) (last : List (Option (ScanReply β × ScanResults)))
      (single : last.length ≤ 1) : (before ++ last).length ≤ 2 ∧
        ∀ first second rest, before ++ last = first :: second :: rest →
          ∃ result scanResults, first = some (result, scanResults) ∧
            Retriable code testSsid result scanResults := by
    cases tried with
    | fresh =>
      refine ⟨Nat.le_succ_of_le single, ?_⟩
      rintro first second rest rfl
      simp at single
    | once result scanResults retriable =>
      refine ⟨Nat.succ_le_succ single, ?_⟩
      intro first second rest split
      cases split
      exact ⟨result, scanResults, rfl, retriable⟩
  unfold LockStep at kept
  split at kept
  · simpa using one kept.2 [] (Nat.zero_le _)
  · simpa using one kept.2 [] (Nat.zero_le _)
  · obtain ⟨event, before, -, -, rfl, tried⟩ := kept
    exact one tried _ (Nat.le_refl _)
  · obtain ⟨-, -, before, rfl, tried⟩ := kept
    exact one tried _ (Nat.le_refl _)
  · obtain ⟨-, before, last, rfl, tried, -⟩ := kept
    exact one tried _ (Nat.le_refl _)

/-- The result that the task goes on with; `none` is the `expect` firing. -/
def selected (testSsid : List UInt8) (s : ScanLoop β) (outcome : ScanOutcome) :
    Option ScanResult := do
  let results ← s.firstResults outcome
  results.find? fun result => result.ssid = testSsid

omit [DecidableEq β] in
theorem selected_isSome {s : ScanLoop β} {outcome : ScanOutcome}
    (finds : Finds testSsid s.scanResults outcome) : (selected testSsid s outcome).isSome := by
  obtain ⟨results, inside, result, member, named⟩ := finds
  have first : s.firstResults outcome = some results := inside
  rw [selected, first]
  exact List.find?_isSome.mpr ⟨result, member, decide_eq_true named⟩

/-- With a faithful controller the loop scans at most twice, keeps its queue in
step, and ends within five steps: left with the test network, or halted. With
any controller an event that does not match halts it. -/
theorem scan_loop_lockstep (ms : List (Moving β)) (s : ScanSystem β)
    (run : Run (scanSystem code testSsid) (begin β) ms s) (faithful : ∀ m ∈ ms, Faithful m)
    (ns : List (Scanning β)) (t : ScanLoop β)
    (anyRun : Run (scanLoop code testSsid) (.begin β) ns t) :
    ((replies ms).length ≤ 2 ∧ ∀ first second rest, replies ms = first :: second :: rest →
      ∃ result scanResults, first = some (result, scanResults) ∧
        Retriable code testSsid result scanResults) ∧
    (∀ m ∈ ms, (reply m).isSome → m.before.queue = []) ∧
    (∀ outcome, s.loop.point = .left outcome → s.queue = [] ∧
      (replies ms).getLast? = some (some (.ok outcome, s.loop.scanResults)) ∧
      Finds testSsid s.loop.scanResults outcome ∧ (selected testSsid s.loop outcome).isSome) ∧
    (∀ reason, s.loop.point = .halted reason →
      (reason ≠ .eventTimeout ∧ reason ≠ .unexpectedEvent) ∧
      ∀ outcome scanResults, (replies ms).getLast? = some (some (.ok outcome, scanResults)) →
        ¬ Finds testSsid scanResults outcome) ∧
    ms.length ≤ 5 ∧ ((∀ input, scanSystem code testSsid s input = none) ↔ s.loop.Over) ∧
    ∀ pre m post result, ns = pre ++ m :: post → m.before.point = .expectEvent result →
      (∀ event, m.input = .nextEvent (some event) → ¬ Posts result event) →
      (∃ reason, m.after.point = .halted reason) ∧ post = [] := by
  have kept := run_lockStep run faithful
  refine ⟨kept.retried, ?_, ?_, ?_, ?_, over_iff s, ?_⟩
  · intro m hm started
    obtain ⟨pre, post, rfl⟩ := List.append_of_mem hm
    obtain ⟨before, step, -⟩ := run.at_move
    have earlier := run_lockStep before fun n hn => faithful n (List.mem_append_left _ hn)
    obtain ⟨u, input, out, v⟩ := m
    cases input with
    | scan answer posted =>
      obtain ⟨⟨loop, _⟩, stepped, -⟩ := Option.map_eq_some_iff.mp step
      unfold LockStep at earlier
      cases step_cases stepped with
      | outerTimeout at_point | completed at_point =>
        dsimp only at earlier
        rw [at_point] at earlier
        exact earlier.1
    | nextEvent | delay => cases started
  · intro outcome left
    unfold LockStep at kept
    rw [left] at kept
    obtain ⟨empty, finds, before, split, -⟩ := kept
    exact ⟨empty, by rw [split, List.getLast?_concat], finds, selected_isSome finds⟩
  · intro reason halted
    unfold LockStep at kept
    rw [halted] at kept
    obtain ⟨own, before, last, split, -, unfound⟩ := kept
    refine ⟨own, ?_⟩
    intro outcome scanResults same
    rw [split, List.getLast?_concat] at same
    exact unfound outcome scanResults (Option.some.inj same)
  · obtain ⟨loopMoves, loopRun, same⟩ := run_loop run
    have := run_bounded loopRun
    omega
  · intro pre m post result split
    exact unmatched_halts anyRun split

/-- Backend errors by number, with the operation timeout as the first. -/
def numberedCode : WifiError Nat → DiagnosticCode
  | .backend 0 => .operationTimeout
  | _ => .other

/-- One result, `hil`. -/
def hilResults : ScanResults := (Vector.replicate _ ⟨[]⟩).set 0 ⟨[0x68, 0x69, 0x6c]⟩

/-- The first scan times out, the second finds the network; under a controller
that posts a failure for a success, the loop halts. -/
theorem scan_loop_lockstep_retried :
    ∃ ms s ns t, Run (scanSystem numberedCode [0x68, 0x69, 0x6c]) (begin Nat) ms s ∧
      Run (scanLoop numberedCode [0x68, 0x69, 0x6c]) (.begin Nat) ns t ∧
      s.loop.point = .left ⟨1, false⟩ ∧ s.queue = [] ∧
      (selected [0x68, 0x69, 0x6c] s.loop ⟨1, false⟩).isSome ∧
      ∃ reason, t.point = .halted reason := by
  have run : Run (scanSystem numberedCode [0x68, 0x69, 0x6c]) (begin Nat) _ _ :=
    exec_run [.scan (some (.error (.backend 0), hilResults)) [.failed 0], .nextEvent, .delay,
      .scan (some (.ok ⟨1, false⟩, hilResults)) [.scanCompleted 1 false], .nextEvent] rfl
  have anyRun : Run (scanLoop numberedCode [0x68, 0x69, 0x6c]) (.begin Nat) _ _ :=
    exec_run [.scan (some (.ok ⟨1, false⟩, hilResults)), .nextEvent (some (.failed 0))] rfl
  obtain ⟨-, -, left, -, -, -, unmatched⟩ :=
    scan_loop_lockstep _ _ run (by
      simp only [List.forall_mem_cons]
      exact ⟨faithful_scan (.failed 0), faithful_quiet nofun, faithful_quiet nofun,
        faithful_scan (.completed ⟨1, false⟩), faithful_quiet nofun,
        List.forall_mem_nil _⟩) _ _ anyRun
  obtain ⟨halted, -⟩ := unmatched [_] _ [] _ rfl rfl (by rintro event ⟨⟩ ⟨⟩)
  obtain ⟨empty, -, -, found⟩ := left _ rfl
  exact ⟨_, _, _, _, run, anyRun, rfl, empty, found, halted⟩

end ScanSystem

end Ws63Examples.Connectivity
