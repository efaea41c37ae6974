import Ws63Examples.Softap.Dhcp
import Ws63Examples.Softap.Echo
import Ws63Examples.Softap.ServiceLoop

/-! What the access point's main loop does over a whole run: its parts, the acceptance
of the coexistence run, and the reports. -/

namespace Ws63Examples.Softap.ServiceLoop

open Execution Periodic Slice Word

variable {ε : Type} {server : CoexServer ε} {wire : DhcpWire}

abbrev Looping (ε : Type) := Move ServiceLoop (Input ε) Effect

theorem reports_quiet (s : ServiceLoop) (currentMs : UInt64) :
    (s.report currentMs).1.accessPoint = s.accessPoint ∧
      (s.report currentMs).1.coexistence = s.coexistence ∧
      (s.report currentMs).1.acceptanceReported = s.acceptanceReported ∧
      (s.report currentMs).1.point = .coexistence ∧
      (s.report currentMs).2.filterMap Effect.ofNetwork = [] ∧
      (s.report currentMs).2.filterMap Effect.ofServer = [] := by
  by_cases due : 1000 ≤ currentMs - s.nextDiagnosticMs <;>
    by_cases tasksDue : 5000 ≤ currentMs - s.nextTaskDiagnosticMs <;>
      simp [report, due, tasksDue, Effect.ofNetwork, Effect.ofServer]

theorem afterWait_quiet (s : ServiceLoop) : s.afterWait.accessPoint = s.accessPoint ∧
    s.afterWait.coexistence = s.coexistence ∧
    s.afterWait.acceptanceReported = s.acceptanceReported := by
  unfold afterWait
  split <;> exact ⟨rfl, rfl, rfl⟩

theorem ofNetwork_network (sent : List Softap.Effect) :
    (sent.map Effect.network).filterMap Effect.ofNetwork = sent := by
  induction sent with
  | nil => rfl
  | cons e sent ih => exact congrArg (e :: ·) ih

theorem ofServer_coexistence (sent : List CoexEffect) :
    (sent.map Effect.coexistence).filterMap Effect.ofServer = sent := by
  induction sent with
  | nil => rfl
  | cons e sent ih => exact congrArg (e :: ·) ih

theorem filterMap_map_nil {α β γ : Type} {f : β → Option γ} {g : α → β}
    (none : ∀ x, f (g x) = none) (xs : List α) : (xs.map g).filterMap f = [] := by
  rw [List.filterMap_map]
  exact List.filterMap_eq_nil_iff.mpr fun x _ => none x

/-- What the loop does on its sockets is what the access point does, call by call. -/
theorem run_network {s t : ServiceLoop} {ms : List (Looping ε)}
    (run : Run (serviceLoop server wire) s ms t) :
    ∃ ns, Run (Softap.accessPoint wire) s.accessPoint ns t.accessPoint ∧
      inputs ns = (inputs ms).filterMap Input.toNetwork ∧
      effects ns = (effects ms).filterMap Effect.ofNetwork := by
  apply run.project ServiceLoop.accessPoint Input.toNetwork Effect.ofNetwork
  · intro u i v out call h asks
    cases step_cases h with
    | network _ _ call' asks' next sent stepped =>
      cases asks.symm.trans asks'
      rw [ofNetwork_network]
      exact stepped
    | _ => cases asks
  · intro u i v out h other
    cases step_cases h with
    | network _ _ call' asks' => cases other.symm.trans asks'
    | coexistence _ _ _ sent =>
      exact ⟨rfl, filterMap_map_nil (f := Effect.ofNetwork) (fun _ => rfl) sent⟩
    | accepted _ _ lines | rejected _ _ lines =>
      exact ⟨rfl, filterMap_map_nil (f := Effect.ofNetwork) (fun _ => rfl) lines⟩
    | waited => exact ⟨(afterWait_quiet u).1, rfl⟩
    | clock _ ticks =>
      obtain ⟨same, -, -, -, silent, -⟩ := reports_quiet u (monotonicMs ticks)
      exact ⟨same, silent⟩
    | _ => exact ⟨rfl, rfl⟩

/-- What the loop does with the coexistence controller is what its server does. -/
theorem run_server {s t : ServiceLoop} {ms : List (Looping ε)}
    (run : Run (serviceLoop server wire) s ms t) :
    ∃ ns, Run (CoexServer.service server) s.coexistence ns t.coexistence ∧
      inputs ns = (inputs ms).filterMap Input.toServer ∧
      effects ns = (effects ms).filterMap Effect.ofServer := by
  apply run.project ServiceLoop.coexistence Input.toServer Effect.ofServer
  · intro u i v out call h asks
    cases step_cases h with
    | coexistence _ input next sent stepped =>
      cases asks
      rw [ofServer_coexistence]
      exact stepped
    | network _ _ _ asks' =>
      cases i <;> cases asks
      cases asks'
    | _ => cases asks
  · intro u i v out h other
    cases step_cases h with
    | coexistence => cases other
    | network _ _ _ _ _ sent =>
      exact ⟨rfl, filterMap_map_nil (f := Effect.ofServer) (fun _ => rfl) sent⟩
    | accepted _ _ lines | rejected _ _ lines =>
      exact ⟨rfl, filterMap_map_nil (f := Effect.ofServer) (fun _ => rfl) lines⟩
    | waited => exact ⟨(afterWait_quiet u).2.1, rfl⟩
    | clock _ ticks =>
      obtain ⟨-, same, -, -, -, silent⟩ := reports_quiet u (monotonicMs ticks)
      exact ⟨same, silent⟩
    | _ => exact ⟨rfl, rfl⟩

/-- What the loop did on its sockets. -/
def network (ms : List (Looping ε)) : List Softap.Effect := (effects ms).filterMap Effect.ofNetwork

/-- The echoes returned, as the socket took them. -/
def echoed (ms : List (Looping ε)) : Nat := (sends .echo true (network ms)).length

theorem network_snoc (ms : List (Looping ε)) (m : Looping ε) :
    network (ms ++ [m]) = network ms ++ m.effects.filterMap Effect.ofNetwork := by
  rw [network, effects_append, effects_singleton, List.filterMap_append]
  rfl

theorem echoed_snoc (ms : List (Looping ε)) (m : Looping ε) :
    echoed (ms ++ [m]) =
      echoed ms + (sends .echo true (m.effects.filterMap Effect.ofNetwork)).length := by
  rw [echoed, network_snoc, sends_append, List.length_append]
  rfl

theorem run_echo_tallied {d t : UInt64} {ms : List (Looping ε)} {s : ServiceLoop}
    (run : Run (serviceLoop server wire) (begin d t) ms s) :
    EchoTallied (network ms) s.accessPoint.diagnostics := by
  obtain ⟨ns, own, -, same⟩ := run_network run
  rw [network, ← same]
  apply own.history (P := fun ns u => EchoTallied (effects ns) u.diagnostics)
  · exact begin_echo_tallied
  · intro ns u i v out _ tallied h
    rw [effects_append, effects_singleton]
    exact step_echo_tallied h tallied

theorem ten_echoes {d t : UInt64} {ms : List (Looping ε)} {s : ServiceLoop}
    (run : Run (serviceLoop server wire) (begin d t) ms s) :
    10 ≤ s.accessPoint.diagnostics.echoTx ↔ 10 ≤ echoed ms := by
  rw [(run_echo_tallied run).tx, Nat.le_min]
  exact and_iff_left (by decide)

/-- A run of the coexistence profile that may be accepted. -/
structure Healthy (values : AcceptanceValues) : Prop where
  conserved : values.events.accepted =
    min (values.events.consumed + min values.events.pending u32Max) u32Max
  dropped : values.events.dropped = 0
  allocated : values.heap.allocationFailures = 0
  peak : values.heap.peakUsedBytes ≤ values.heap.arenaBytes
  free : minRfHeapFreeBytes ≤ values.heap.freeBytes
  listed : values.count ≤ 17
  ready : ∀ task ∈ values.tasks.toList.take values.count,
    task.maxReadyLatencyMs ≤ maxReadyLatencyMs
  irq : ∀ task ∈ values.tasks.toList.take values.count, task.maxIrqSpanMs ≤ maxIrqSpanMs
  owned : values.scheduler.readyOwnershipViolations = 0
  single : values.scheduler.readyQueueDuplicateMemberships = 0
  placed : values.scheduler.readyQueueWrongPriorities = 0
  linked : values.scheduler.readyQueueInvalidLinks = 0

theorem maxOrZero_le (values : List Nat) (bound : Nat) :
    maxOrZero values ≤ bound ↔ ∀ value ∈ values, value ≤ bound := by
  unfold maxOrZero
  cases most : values.max? with
  | none =>
    rw [List.max?_eq_none_iff.mp most]
    simp
  | some value => exact List.max?_le_iff most

theorem rejected_iff (values : AcceptanceValues) (maxReadyMs maxIrqMs : Nat) :
    rejected values maxReadyMs maxIrqMs = false ↔
      values.events.accepted =
        min (values.events.consumed + min values.events.pending u32Max) u32Max ∧
      values.events.dropped = 0 ∧ values.heap.allocationFailures = 0 ∧
      values.heap.peakUsedBytes ≤ values.heap.arenaBytes ∧
      minRfHeapFreeBytes ≤ values.heap.freeBytes ∧ maxReadyMs ≤ maxReadyLatencyMs ∧
      maxIrqMs ≤ maxIrqSpanMs ∧ values.scheduler.readyOwnershipViolations = 0 ∧
      values.scheduler.readyQueueDuplicateMemberships = 0 ∧
      values.scheduler.readyQueueWrongPriorities = 0 ∧
      values.scheduler.readyQueueInvalidLinks = 0 := by
  simp only [rejected, Bool.or_eq_false_iff, decide_eq_false_iff_not, ne_eq, Decidable.not_not,
    Nat.not_lt, and_assoc]
  rfl

/-- With a count inside the array the condition alone decides. -/
theorem writeAcceptanceValues_listed {values : AcceptanceValues} (listed : values.count ≤ 17) :
    (writeAcceptanceValues values).1 = !rejected values
      (maxOrZero ((values.tasks.toList.take values.count).map TaskDiagnostic.maxReadyLatencyMs))
      (maxOrZero ((values.tasks.toList.take values.count).map TaskDiagnostic.maxIrqSpanMs)) := by
  have inside : values.count ≤ values.tasks.toList.length := by simpa using listed
  have cut := slice_prefix inside
  unfold writeAcceptanceValues
  rw [cut]
  dsimp only
  split
  · rename_i refused
    rw [refused]
    rfl
  · rename_i passed
    rw [Bool.eq_false_of_not_eq_true passed]
    rfl

theorem writeAcceptanceValues_unlisted {values : AcceptanceValues} (past : ¬ values.count ≤ 17) :
    writeAcceptanceValues values = (false, []) := by
  have outside : slice values.tasks.toList 0 values.count = none := by
    apply if_neg
    simpa using past
  rw [writeAcceptanceValues, outside]

/-- The values are accepted exactly when the run was healthy. -/
theorem writeAcceptanceValues_iff (values : AcceptanceValues) :
    (writeAcceptanceValues values).1 = true ↔ Healthy values := by
  by_cases listed : values.count ≤ 17
  · rw [writeAcceptanceValues_listed listed, Bool.not_eq_true', rejected_iff, maxOrZero_le,
      maxOrZero_le, List.forall_mem_map, List.forall_mem_map]
    constructor
    · rintro ⟨conserved, dropped, allocated, peak, free, ready, irq, owned, single, placed, linked⟩
      exact ⟨conserved, dropped, allocated, peak, free, listed, ready, irq, owned, single, placed,
        linked⟩
    · intro healthy
      exact ⟨healthy.conserved, healthy.dropped, healthy.allocated, healthy.peak, healthy.free,
        healthy.ready, healthy.irq, healthy.owned, healthy.single, healthy.placed, healthy.linked⟩
  · rw [writeAcceptanceValues_unlisted listed]
    exact iff_of_false nofun fun healthy => listed healthy.listed

def Input.isAcceptance : Input ε → Bool
  | .acceptance _ => true
  | _ => false

/-- A call of `write_coexistence_acceptance`. -/
def reportsAcceptance (m : Looping ε) : Bool := m.input.isAcceptance

/-- The acceptance against the echoes returned. -/
structure Reports (ms : List (Looping ε)) (s : ServiceLoop) : Prop where
  once : ms.countP reportsAcceptance ≤ 1
  unreported : s.acceptanceReported = false → s.point ≠ .panicked →
    ms.countP reportsAcceptance = 0
  called : s.acceptanceReported = true → ms.countP reportsAcceptance = 1
  earned : s.acceptanceReported = true → 10 ≤ echoed ms
  due : s.point = .acceptance → s.acceptanceReported = false ∧ 10 ≤ echoed ms
  prompt : s.point = .clock → 10 ≤ echoed ms → s.acceptanceReported = true

/-- A move that neither accepts nor ends a turn. -/
theorem Reports.pass {ms : List (Looping ε)} {s : ServiceLoop} {m : Looping ε}
    (reports : Reports ms s) (live : s.point ≠ .panicked) (other : reportsAcceptance m = false)
    (same : m.after.acceptanceReported = s.acceptanceReported)
    (due : m.after.point ≠ .acceptance) (prompt : m.after.point ≠ .clock) :
    Reports (ms ++ [m]) m.after where
  once := by
    rw [List.countP_append, List.countP_singleton, other]
    exact reports.once
  unreported := by
    intro unreported _
    rw [List.countP_append, List.countP_singleton, other]
    exact reports.unreported (same ▸ unreported) live
  called := by
    intro reported
    rw [List.countP_append, List.countP_singleton, other]
    exact reports.called (same ▸ reported)
  earned := by
    intro reported
    rw [echoed_snoc]
    exact Nat.le_add_right_of_le (reports.earned (same ▸ reported))
  due := fun at_point => absurd at_point due
  prompt := fun at_point => absurd at_point prompt

theorem afterCoexistence_point (s : ServiceLoop) (coexistence : CoexServer.Service) :
    (s.afterCoexistence coexistence).point ≠ .acceptance ∧
      (s.afterCoexistence coexistence).point ≠ .clock := by
  unfold afterCoexistence
  cases coexistence.point <;> exact ⟨nofun, nofun⟩

theorem step_reports {ms : List (Looping ε)} {s t : ServiceLoop} {input : Input ε}
    {out : List Effect} (reports : Reports ms s)
    (ten : 10 ≤ s.accessPoint.diagnostics.echoTx ↔ 10 ≤ echoed ms)
    (step : Step server wire s input t out) : Reports (ms ++ [⟨s, input, out, t⟩]) t := by
  have live {p : Point} (at_point : s.point = p) (going : p ≠ .panicked) : s.point ≠ .panicked :=
    fun stopped => going (at_point.symm.trans stopped)
  have quiet {m : Looping ε} (silent : m.effects.filterMap Effect.ofNetwork = []) :
      echoed (ms ++ [m]) = echoed ms := by
    rw [echoed_snoc, silent]
    rfl
  cases step with
  | coexistence at_point input next =>
    obtain ⟨due, prompt⟩ := afterCoexistence_point s next
    exact reports.pass (live at_point nofun) rfl rfl due prompt
  | authenticator at_point ok =>
    apply reports.pass (live at_point nofun) rfl rfl <;> cases ok <;> exact nofun
  | network at_point _ call asks =>
    have other : input.isAcceptance = false := by
      cases input <;> first | rfl | cases asks
    rcases at_point with at_point | at_point | at_point | at_point <;>
      · refine reports.pass (live at_point nofun) ?_ rfl ?_ ?_
        · exact other
        · rw [at_point]
          exact nofun
        · rw [at_point]
          exact nofun
  | waited at_point =>
    have unreported := reports.unreported
    unfold afterWait
    split
    · rename_i due
      rw [Bool.and_eq_true, Bool.not_eq_true', decide_eq_true_eq, ten] at due
      have silent := unreported due.1 (live at_point nofun)
      have untold : s.acceptanceReported ≠ true := by simp [due.1]
      refine ⟨?_, fun _ _ => ?_, fun reported => absurd reported untold,
        fun reported => absurd reported untold, fun _ => ⟨due.1, ?_⟩, nofun⟩
      · rw [List.countP_append, silent]
        exact Nat.zero_le 1
      · rw [List.countP_append, silent]
        rfl
      · rw [quiet rfl]
        exact due.2
    · rename_i undue
      refine ⟨?_, fun none _ => ?_, fun reported => ?_, fun reported => ?_, nofun,
        fun _ many => ?_⟩
      · rw [List.countP_append]
        exact reports.once
      · rw [List.countP_append]
        exact unreported none (live at_point nofun)
      · rw [List.countP_append]
        exact reports.called reported
      · rw [quiet rfl]
        exact reports.earned reported
      · rw [quiet rfl, ← ten] at many
        simpa [many] using undue
  | unwaited at_point => exact reports.pass (live at_point nofun) rfl rfl nofun nofun
  | accepted at_point values lines =>
    obtain ⟨unreported, many⟩ := reports.due at_point
    have none := reports.unreported unreported (live at_point nofun)
    have silent := filterMap_map_nil (f := Effect.ofNetwork) (g := .acceptance) (fun _ => rfl) lines
    have still : 10 ≤ echoed (ms ++ [⟨s, .acceptance values, lines.map .acceptance,
        { s with acceptanceReported := true, point := .clock }⟩]) := by
      rw [quiet silent]
      exact many
    have one : (ms ++ [(⟨s, .acceptance values, lines.map .acceptance,
        { s with acceptanceReported := true, point := .clock }⟩ : Looping ε)]).countP
          reportsAcceptance = 1 := by
      rw [List.countP_append, none]
      rfl
    exact ⟨Nat.le_of_eq one, nofun, fun _ => one, fun _ => still, nofun, fun _ _ => rfl⟩
  | rejected at_point values lines =>
    obtain ⟨unreported, many⟩ := reports.due at_point
    have none := reports.unreported unreported (live at_point nofun)
    have untold : s.acceptanceReported ≠ true := by simp [unreported]
    refine ⟨?_, fun _ going => absurd rfl going, fun reported => absurd reported untold,
      fun reported => absurd reported untold, nofun, nofun⟩
    rw [List.countP_append, none]
    exact Nat.le_refl 1
  | clock at_point ticks =>
    obtain ⟨-, -, same, next, -⟩ := reports_quiet s (monotonicMs ticks)
    apply reports.pass (live at_point nofun) rfl same <;> rw [next] <;> exact nofun

theorem run_reports {d t : UInt64} {ms : List (Looping ε)} {s : ServiceLoop}
    (run : Run (serviceLoop server wire) (begin d t) ms s) : Reports ms s := by
  apply run.history (P := Reports)
  · exact ⟨Nat.zero_le 1, fun _ _ => rfl, nofun, nofun, nofun, nofun⟩
  · intro ms u i v out before reports h
    exact step_reports reports (ten_echoes before) (step_cases h)

theorem panicked_stuck {s : ServiceLoop} (panicked : s.point = .panicked) (input : Input ε) :
    serviceLoop server wire s input = none := by
  unfold serviceLoop
  rw [panicked]

/-- What a call of the acceptance decides. -/
theorem acceptance_decides {s t : ServiceLoop} {values : AcceptanceValues} {out : List Effect}
    (h : serviceLoop server wire s (.acceptance values) = some (t, out)) :
    s.point = .acceptance ∧ (Healthy values → t.point = .clock ∧ t.acceptanceReported = true) ∧
    (¬ Healthy values → t.point = .panicked) := by
  have decided := writeAcceptanceValues_iff values
  cases step_cases h with
  | accepted at_point _ lines accepts =>
    rw [accepts] at decided
    exact ⟨at_point, fun _ => ⟨rfl, rfl⟩, fun ill => absurd (decided.mp rfl) ill⟩
  | rejected at_point _ lines rejects =>
    rw [rejects] at decided
    refine ⟨at_point, fun healthy => ?_, fun _ => rfl⟩
    cases decided.mpr healthy
  | network _ _ _ asks => cases asks

theorem clock_point {s t : ServiceLoop} {ticks : UInt64} {out : List Effect}
    (h : serviceLoop server wire s (.clock ticks) = some (t, out)) :
    s.point = .clock ∧ t = (s.report (monotonicMs ticks)).1 ∧
      out = (s.report (monotonicMs ticks)).2 := by
  cases step_cases h with
  | clock at_point => exact ⟨at_point, rfl, rfl⟩
  | network _ _ _ asks => cases asks

/-- At the end of a turn the acceptance has been called exactly if ten echoes were
returned. -/
theorem Reports.settled {ms : List (Looping ε)} {s : ServiceLoop} (reports : Reports ms s)
    (at_point : s.point = .clock) :
    ms.countP reportsAcceptance = 1 ↔ 10 ≤ echoed ms := by
  constructor
  · intro one
    apply reports.earned
    by_contra unreported
    have none := reports.unreported (Bool.eq_false_of_not_eq_true unreported)
      (by rw [at_point]; nofun)
    cases none.symm.trans one
  · exact fun many => reports.called (reports.prompt at_point many)

/-- The coexistence run is reported at most once, with ten echoes returned: at the end
of each turn it has been if and only if ten were. The loop goes on exactly when the
run was healthy. Beside that the coexistence server is serviced as on its own. -/
theorem acceptance_reported_once (server : CoexServer ε) (wire : DhcpWire) (d t : UInt64)
    (ms : List (Looping ε)) (s : ServiceLoop)
    (run : Run (serviceLoop server wire) (begin d t) ms s) :
    ms.countP reportsAcceptance ≤ 1 ∧
    (∀ pre m post values, ms = pre ++ m :: post → m.input = .acceptance values →
      10 ≤ echoed pre ∧ pre.countP reportsAcceptance = 0 ∧
      (Healthy values → m.after.point = .clock ∧ m.after.acceptanceReported = true) ∧
      (¬ Healthy values → m.after.point = .panicked ∧ post = [])) ∧
    (∀ pre m post ticks, ms = pre ++ m :: post → m.input = .clock ticks →
      (pre.countP reportsAcceptance = 1 ↔ 10 ≤ echoed pre)) ∧
    ∃ ns, Run (CoexServer.service server) .init ns s.coexistence ∧
      inputs ns = (inputs ms).filterMap Input.toServer ∧
      effects ns = (effects ms).filterMap Effect.ofServer := by
  refine ⟨(run_reports run).once, ?_, ?_, run_server run⟩
  · rintro pre m post values rfl asked
    obtain ⟨before, stepped, rest⟩ := run.at_move
    rw [asked] at stepped
    obtain ⟨at_point, healthy, ill⟩ := acceptance_decides stepped
    have reports := run_reports before
    obtain ⟨unreported, many⟩ := reports.due at_point
    refine ⟨many, reports.unreported unreported (by rw [at_point]; nofun), healthy,
      fun unhealthy => ?_⟩
    have panicked := ill unhealthy
    refine ⟨panicked, ?_⟩
    cases post with
    | nil => rfl
    | cons n post =>
      obtain ⟨-, next, -⟩ := rest.uncons
      cases (panicked_stuck panicked n.input).symm.trans next
  · rintro pre m post ticks rfl asked
    obtain ⟨before, stepped, -⟩ := run.at_move
    rw [asked] at stepped
    exact (run_reports before).settled (clock_point stepped).1

/-- A turn without an event, in which the echo socket is handed what arrived. -/
def plainTurn (arrived : List Datagram) (ending : List (Input BleEvent)) : List (Input BleEvent) :=
  [.coexistence .service, .coexistence (.nextEvent none), .coexistence (.droppedEvents 0),
    .pollAuthenticator true, .pollInterface ⟨[], 0⟩ ⟨arrived, 0⟩, .serviceDhcp true,
    .serviceEcho true, .pollInterface ⟨[], 0⟩ ⟨[], 1⟩, .waitForWork true] ++ ending

/-- Ten one-byte echoes, and a healthy run to accept with the tenth. -/
def tenEchoes : List (Input BleEvent) :=
  plainTurn (List.replicate 10 ⟨[7], ⟨clientAddress, 5353⟩⟩) [.clock 0] ++
    (List.replicate 8 (plainTurn [] [.clock 0])).flatten ++
    plainTurn [] [.acceptance ⟨⟨3, 2, 1, 0, 4⟩, ⟨65536, 20000, 45536, 0⟩, ⟨0, 0, 0, 0⟩,
      .replicate 17 ⟨2000, 100⟩, 17⟩]

theorem acceptance_reported_once_ten : ∃ ms s,
    Run (serviceLoop bleServer rfcWire) (begin 0 0) ms s ∧ s.point = .clock ∧
      ms.countP reportsAcceptance = 1 ∧ 10 ≤ echoed ms := by
  obtain ⟨ms, s, run, -, shown⟩ := exec_shows (serviceLoop bleServer rfcWire) (begin 0 0)
    tenEchoes (fun ms s => s.point = .clock && ms.countP reportsAcceptance = 1)
    (by decide +kernel)
  obtain ⟨at_point, one⟩ := Bool.and_eq_true_iff.mp shown
  have ended : serviceLoop bleServer rfcWire s (.clock 0) =
      some ((s.report (monotonicMs 0)).1, (s.report (monotonicMs 0)).2) := by
    simp [serviceLoop, of_decide_eq_true at_point]
  obtain ⟨-, -, settled, -⟩ :=
    acceptance_reported_once bleServer rfcWire 0 0 _ _ (run.next ended)
  have one := of_decide_eq_true one
  exact ⟨ms, s, run, of_decide_eq_true at_point, one, (settled ms _ [] 0 rfl rfl).mp one⟩

/-- The clock at the end of a turn, in milliseconds. -/
def Input.reading : Input ε → Option UInt64
  | .clock ticks => some (monotonicMs ticks)
  | _ => none

def readings (ms : List (Looping ε)) : List UInt64 := (inputs ms).filterMap Input.reading

def Effect.isDiagnostics : Effect → Bool
  | .diagnostics _ => true
  | _ => false

def Effect.isTaskDiagnostics : Effect → Bool
  | .taskDiagnostics => true
  | _ => false

/-- The readings at which a report of one kind was written. -/
def reported (kind : Effect → Bool) (ms : List (Looping ε)) : List UInt64 :=
  ms.filterMap fun m => if m.effects.any kind then m.input.reading else none

theorem reported_snoc (kind : Effect → Bool) (ms : List (Looping ε)) (m : Looping ε) :
    reported kind (ms ++ [m]) =
      reported kind ms ++ (if m.effects.any kind then m.input.reading else none).toList :=
  History.filterMap_snoc _ ms m

/-- One timer of the loop against the readings so far. -/
structure Paces (period start next : UInt64) (kind : Effect → Bool) (ms : List (Looping ε)) :
    Prop where
  next : next = latest period start (readings ms)
  times : reported kind ms = firings period start (readings ms)
  count : (effects ms).countP kind = (reported kind ms).length

theorem Paces.pass {period start next : UInt64} {kind : Effect → Bool} {ms : List (Looping ε)}
    {m : Looping ε} (paces : Paces period start next kind ms) (unread : m.input.reading = none)
    (silent : m.effects.countP kind = 0) : Paces period start next kind (ms ++ [m]) := by
  have same : readings (ms ++ [m]) = readings ms := by simp [readings, unread]
  have still : reported kind (ms ++ [m]) = reported kind ms := by
    rw [reported_snoc, unread, ite_self]
    exact List.append_nil _
  refine ⟨same ▸ paces.next, ?_, ?_⟩
  · rw [same, still, paces.times]
  · rw [still, effects_append, effects_singleton, List.countP_append, silent, paces.count]
    rfl

theorem Paces.read {period start next now : UInt64} {kind : Effect → Bool}
    {ms : List (Looping ε)} {m : Looping ε} (paces : Paces period start next kind ms)
    (seen : m.input.reading = some now)
    (due : m.effects.countP kind = if period ≤ now - next then 1 else 0) :
    Paces period start (if period ≤ now - next then now else next) kind (ms ++ [m]) := by
  have grown : readings (ms ++ [m]) = readings ms ++ [now] := by simp [readings, seen]
  have more : reported kind (ms ++ [m]) =
      reported kind ms ++ if period ≤ now - next then [now] else [] := by
    have any_iff : m.effects.any kind = decide (period ≤ now - next) := by
      rw [Bool.eq_iff_iff, List.any_eq_true, ← List.countP_pos_iff, due, decide_eq_true_iff]
      split <;> simp [*]
    rw [reported_snoc, seen, any_iff]
    by_cases fires : period ≤ now - next <;> simp [fires]
  refine ⟨?_, ?_, ?_⟩
  · rw [grown, latest_snoc, ← paces.next]
  · rw [grown, more, firings_snoc, ← paces.times, ← paces.next]
  · rw [more, effects_append, effects_singleton, List.countP_append, due, paces.count,
      List.length_append]
    split <;> rfl

theorem report_effects (s : ServiceLoop) (now : UInt64) : (s.report now).2 =
    (if 1000 ≤ now - s.nextDiagnosticMs then [.diagnostics s.accessPoint.diagnostics] else []) ++
      if 5000 ≤ now - s.nextTaskDiagnosticMs then [.taskDiagnostics] else [] := by
  by_cases due : 1000 ≤ now - s.nextDiagnosticMs <;>
    by_cases tasksDue : 5000 ≤ now - s.nextTaskDiagnosticMs <;> simp [report, due, tasksDue]

theorem report_times (s : ServiceLoop) (now : UInt64) :
    (s.report now).2.countP Effect.isDiagnostics =
      (if 1000 ≤ now - s.nextDiagnosticMs then 1 else 0) ∧
    (s.report now).2.countP Effect.isTaskDiagnostics =
      (if 5000 ≤ now - s.nextTaskDiagnosticMs then 1 else 0) ∧
    (s.report now).1.nextDiagnosticMs =
      (if 1000 ≤ now - s.nextDiagnosticMs then now else s.nextDiagnosticMs) ∧
    (s.report now).1.nextTaskDiagnosticMs =
      (if 5000 ≤ now - s.nextTaskDiagnosticMs then now else s.nextTaskDiagnosticMs) := by
  by_cases due : 1000 ≤ now - s.nextDiagnosticMs <;>
    by_cases tasksDue : 5000 ≤ now - s.nextTaskDiagnosticMs <;>
      simp [report, due, tasksDue, Effect.isDiagnostics, Effect.isTaskDiagnostics,
        List.countP_cons]

/-- A report: of the counters, or of the tasks. -/
def Effect.isReport (e : Effect) : Bool := e.isDiagnostics || e.isTaskDiagnostics

theorem map_unreported {α : Type} {f : α → Effect} (other : ∀ x, (f x).isReport = false)
    (sent : List α) :
    (sent.map f).countP Effect.isDiagnostics = 0 ∧
      (sent.map f).countP Effect.isTaskDiagnostics = 0 := by
  have none (kind : Effect → Bool) (report : ∀ e, kind e = true → e.isReport = true) :
      (sent.map f).countP kind = 0 := by
    rw [List.countP_map, List.countP_eq_zero]
    intro x _ shown
    exact absurd (report (f x) shown) (by rw [other x]; exact Bool.false_ne_true)
  exact ⟨none _ fun e shown => by simp [Effect.isReport, shown],
    none _ fun e shown => by simp [Effect.isReport, shown]⟩

/-- A report is written at the end of a turn. -/
theorem report_at_clock {s t : ServiceLoop} {input : Input ε} {out : List Effect} {e : Effect}
    (h : serviceLoop server wire s input = some (t, out)) (written : e ∈ out)
    (report : e.isReport = true) : ∃ ticks, input = .clock ticks := by
  cases step_cases h with
  | clock _ ticks => exact ⟨ticks, rfl⟩
  | coexistence | network | accepted | rejected =>
    obtain ⟨x, -, rfl⟩ := List.mem_map.mp written
    cases report
  | _ => cases written

theorem run_paces {d t : UInt64} {ms : List (Looping ε)} {s : ServiceLoop}
    (run : Run (serviceLoop server wire) (begin d t) ms s) :
    Paces 1000 (monotonicMs d) s.nextDiagnosticMs Effect.isDiagnostics ms ∧
    Paces 5000 (monotonicMs t) s.nextTaskDiagnosticMs Effect.isTaskDiagnostics ms := by
  apply run.history (P := fun ms s =>
    Paces 1000 (monotonicMs d) s.nextDiagnosticMs Effect.isDiagnostics ms ∧
    Paces 5000 (monotonicMs t) s.nextTaskDiagnosticMs Effect.isTaskDiagnostics ms)
  · exact ⟨⟨rfl, rfl, rfl⟩, rfl, rfl, rfl⟩
  · rintro ms u i v out - ⟨paces, tasks⟩ h
    cases step_cases h with
    | clock _ ticks =>
      obtain ⟨due, tasksDue, next, tasksNext⟩ := report_times u (monotonicMs ticks)
      rw [next, tasksNext]
      exact ⟨paces.read rfl due, tasks.read rfl tasksDue⟩
    | waited =>
      unfold afterWait
      split <;> exact ⟨paces.pass rfl rfl, tasks.pass rfl rfl⟩
    | network _ _ _ asks =>
      have unread : i.reading = none := by
        cases i <;> first | rfl | cases asks
      obtain ⟨none, tasksNone⟩ := map_unreported (f := .network) (fun _ => rfl) _
      exact ⟨paces.pass unread none, tasks.pass unread tasksNone⟩
    | coexistence =>
      obtain ⟨none, tasksNone⟩ := map_unreported (f := .coexistence) (fun _ => rfl) _
      exact ⟨paces.pass rfl none, tasks.pass rfl tasksNone⟩
    | accepted | rejected =>
      obtain ⟨none, tasksNone⟩ := map_unreported (f := .acceptance) (fun _ => rfl) _
      exact ⟨paces.pass rfl none, tasks.pass rfl tasksNone⟩
    | authenticator | unwaited => exact ⟨paces.pass rfl rfl, tasks.pass rfl rfl⟩

/-- The counters of a report are those of the access point. -/
theorem diagnostics_shown {s t : ServiceLoop} {input : Input ε} {out : List Effect}
    {shown : NetworkDiagnostics} (h : serviceLoop server wire s input = some (t, out))
    (written : .diagnostics shown ∈ out) : shown = s.accessPoint.diagnostics := by
  obtain ⟨ticks, rfl⟩ := report_at_clock h written rfl
  obtain ⟨-, -, rfl⟩ := clock_point h
  rw [report_effects] at written
  rcases List.mem_append.mp written with first | second
  · split at first
    · simpa using first
    · cases first
  · split at second <;> simp at second

end Ws63Examples.Softap.ServiceLoop
