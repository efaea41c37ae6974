import Ws63Examples.InitSmoke.NetworkLease
import Ws63Examples.InitSmoke.WifiSmoke

/-!
# The vendor log is flushed once

The guard of the vendor log drains it on every way out of the program but a panic, and
before the network runner takes the console. What the drain leaves out it counts.
-/

namespace Ws63Examples.InitSmoke

open Execution Slice Word VendorLogBuffer

/-- What one step of the drain can do, panics apart. -/
inductive FlushStep {capacity : Nat} (s : Flush capacity) :
    FlushInput → FlushPoint → List FlushEffect → Prop
  | push (bytes : List UInt8) : FlushStep s (.push bytes) s.point []
  | start (at_point : s.point = .starting) : FlushStep s .resume .reading [.began]
  | read (at_point : s.point = .reading) (count : Nat) : FlushStep s .resume (.writing count) []
  | finish (at_point : s.point = .reading) (dropped : Nat) :
      FlushStep s .resume .finished [.ended dropped]
  | write (count : Nat) (at_point : s.point = .writing count) (bytes : List UInt8) :
      FlushStep s .resume .reading [.chunk bytes]

theorem flush_cases {capacity : Nat} {s t : Flush capacity} {i : FlushInput}
    {out : List FlushEffect} (h : flushVendorLog s i = some (t, out))
    (running : t.point ≠ .panicked) : FlushStep s i t.point out := by
  cases i with
  | push bytes =>
    simp only [flushVendorLog] at h
    split at h
    · cases h
    · obtain ⟨rfl, rfl⟩ := answer_parts h
      unfold rfLogBuffered at running ⊢
      split
      · exact .push bytes
      · rename_i full
        rw [full] at running
        exact absurd rfl running
  | resume =>
    cases at_point : s.point with
    | starting =>
      simp only [flushVendorLog, at_point] at h
      obtain ⟨rfl, rfl⟩ := answer_parts h
      exact .start at_point
    | reading =>
      simp only [flushVendorLog, at_point] at h
      obtain ⟨rfl, rfl⟩ := answer_parts h
      unfold readChunk at running ⊢
      split
      · rename_i outside
        rw [outside] at running
        exact absurd rfl running
      · split
        · exact .finish at_point _
        · exact .read at_point _
    | writing count =>
      simp only [flushVendorLog, at_point] at h
      obtain ⟨rfl, rfl⟩ := answer_parts h
      unfold writeChunk at running ⊢
      split at running
      · exact .write count at_point _
      · exact absurd rfl running
    | finished | panicked =>
      simp only [flushVendorLog, at_point] at h
      cases h

/-- What the drain has written, by where it stands. -/
inductive Shown : FlushPoint → List FlushEffect → Prop
  | starting : Shown .starting []
  | reading (chunks : List (List UInt8)) : Shown .reading (.began :: chunks.map .chunk)
  | writing (count : Nat) (chunks : List (List UInt8)) :
      Shown (.writing count) (.began :: chunks.map .chunk)
  | finished (chunks : List (List UInt8)) (dropped : Nat) :
      Shown .finished (.began :: (chunks.map .chunk ++ [.ended dropped]))

section
variable {capacity : Nat} [NeZero capacity] {start : List UInt8} {log : VendorLogBuffer capacity}
  {ns : FlushMoves capacity} {d : Flush capacity}

theorem drain_shown (fits : 2 * capacity ≤ usizeMax) (h : Refines log start)
    (run : Run flushVendorLog (Flush.begin log) ns d) : Shown d.point (effects ns) := by
  refine run.history (P := fun ns d => Shown d.point (effects ns)) .starting ?_
  intro ms u i v out before shown stepped
  have running := (run_drained fits h (before.next stepped)).running
  have step := flush_cases stepped running
  rw [effects_append, effects_singleton]
  dsimp only
  generalize effects ms = said at shown
  generalize v.point = point at step
  cases step with
  | push bytes => simpa using shown
  | start at_point =>
    rw [at_point] at shown
    cases shown
    exact .reading []
  | read at_point count =>
    rw [at_point] at shown
    cases shown with
    | reading chunks => simpa using Shown.writing count chunks
  | finish at_point dropped =>
    rw [at_point] at shown
    cases shown with
    | reading chunks => exact .finished chunks dropped
  | write count at_point bytes =>
    rw [at_point] at shown
    cases shown with
    | writing _ chunks => simpa using Shown.reading (chunks ++ [bytes])

end

/-- Until the drain begins there are only pushes, and it begins at its head. -/
theorem undrained {capacity : Nat} {log : VendorLogBuffer capacity} {ns : FlushMoves capacity}
    {d : Flush capacity} (run : Run flushVendorLog (Flush.begin log) ns d)
    (waits : d.point = .starting) :
    ∃ log', d = Flush.begin log' := by
  refine run.history (P := fun _ d => d.point = .starting → ∃ log', d = Flush.begin log')
    (fun _ => ⟨log, rfl⟩) ?_ waits
  intro ms u i v out before ih stepped starting
  cases i with
  | push bytes =>
    simp only [flushVendorLog] at stepped
    split at stepped
    · cases stepped
    · obtain ⟨rfl, -⟩ := answer_parts stepped
      unfold rfLogBuffered at starting ⊢
      split
      · rename_i log' pushed
        rw [pushed] at starting
        obtain ⟨log, rfl⟩ := ih starting
        exact ⟨log', rfl⟩
      · rename_i full
        rw [full] at starting
        cases starting
  | resume =>
    have running : v.point ≠ .panicked := by
      rw [starting]
      intro panicked
      cases panicked
    have step := flush_cases stepped running
    rw [starting] at step
    cases step

namespace WifiSmoke

variable {setup : Setup} {stack : Smoltcp} {icmp : IcmpWire} {s t u : WifiSmoke setup stack}
  {ms : List (Smoking setup stack)}

/-- The inputs that concern the vendor log. -/
def Input.logInput : Input setup stack → Option FlushInput
  | .push bytes => some (.push bytes)
  | .drain => some .resume
  | _ => none

def Effect.log? : Effect setup → Option FlushEffect
  | .log effect => some effect
  | _ => none

def Effect.network? : Effect setup → Option Runner.Effect
  | .network effect => some effect
  | _ => none

/-- What the program does itself. -/
def Effect.own : Effect setup → Bool
  | .write _ | .connect _ => true
  | .log _ | .network _ => false

def own (ms : List (Smoking setup stack)) : List (Effect setup) := (effects ms).filter Effect.own

def logged (ms : List (Smoking setup stack)) : List FlushEffect :=
  (effects ms).filterMap Effect.log?

def networked (ms : List (Smoking setup stack)) : List Runner.Effect :=
  (effects ms).filterMap Effect.network?

/-- The bytes vendor callbacks logged. -/
def pushed (ms : List (Smoking setup stack)) : List UInt8 :=
  ((inputs ms).filterMap Input.logInput).flatMap FlushInput.bytes

/-- The bytes of the log on the console. -/
def shown (ms : List (Smoking setup stack)) : List UInt8 := (logged ms).flatMap FlushEffect.bytes

theorem filterMap_log (out : List FlushEffect) :
    (out.map (.log : FlushEffect → Effect setup)).filterMap Effect.log? = out := by
  simp [List.filterMap_map, Function.comp_def, Effect.log?]

/-- What concerns neither the vendor log nor the runner. -/
structure Own (out : List (Effect setup)) : Prop where
  own : out.filter Effect.own = out
  unlogged : out.filterMap Effect.log? = []
  offline : out.filterMap Effect.network? = []

theorem Own.of_forall {out : List (Effect setup)} (h : ∀ e ∈ out, e.own = true) : Own out where
  own := List.filter_eq_self.mpr h
  unlogged := by
    rw [List.filterMap_eq_nil_iff]
    intro e member
    have := h e member
    cases e <;> first | rfl | cases this
  offline := by
    rw [List.filterMap_eq_nil_iff]
    intro e member
    have := h e member
    cases e <;> first | rfl | cases this

theorem own_writes (lines : List Line) :
    ∀ e ∈ lines.map (.write : Line → Effect setup), e.own := by
  intro e member
  obtain ⟨line, -, rfl⟩ := List.mem_map.mp member
  rfl

/-- The parts of the program around the flush. -/
inductive Phase where
  | before
  | flushing
  | after
  deriving DecidableEq

def Point.phase : Point setup stack → Phase
  | .flush _ => .flushing
  | .device | .network _ | .returned => .after
  | _ => .before

/-- The steps as the vendor log sees them. -/
inductive Kind (icmp : IcmpWire) (s : WifiSmoke setup stack) :
    Input setup stack → WifiSmoke setup stack → List (Effect setup) → Prop
  | own (input : Input setup stack) (other : input.logInput = none)
      (before : s.point.phase = .before) (t : WifiSmoke setup stack) (on : t.point.phase ≠ .after)
      (log : t.vendorLog = s.vendorLog) (flushed : t.flushed = s.flushed)
      (out : List (Effect setup)) (said : Own out) : Kind icmp s input t out
  | push (bytes : List UInt8) (vendorLog : Flush vendorLogCapacity) (out : List FlushEffect)
      (stepped : flushVendorLog s.vendorLog (.push bytes) = some (vendorLog, out)) :
      Kind icmp s (.push bytes) { s with vendorLog := vendorLog } (out.map .log)
  | drain (after : After) (at_point : s.point = .flush after) (vendorLog : Flush vendorLogCapacity)
      (out : List FlushEffect)
      (stepped : flushVendorLog s.vendorLog .resume = some (vendorLog, out))
      (unfinished : vendorLog.point ≠ .finished) :
      Kind icmp s .drain { s with vendorLog := vendorLog } (out.map .log)
  | finish (after : After) (at_point : s.point = .flush after) (vendorLog : Flush vendorLogCapacity)
      (out : List FlushEffect)
      (stepped : flushVendorLog s.vendorLog .resume = some (vendorLog, out))
      (finished : vendorLog.point = .finished) :
      Kind icmp s .drain ⟨vendorLog, true, after.point⟩ (out.map .log)
  | device (at_point : s.point = .device) (iface : stack.Interface) :
      Kind icmp s (.device iface) { s with point := .network (.boot iface) } []
  | network (runner next : Runner stack) (at_point : s.point = .network runner)
      (input : Runner.Input stack) (out : List Runner.Effect)
      (stepped : networkRunner icmp runner input = some (next, out)) :
      Kind icmp s (.network input) { s with point := .network next } (out.map .network)

theorem flush_unflushed (h : s.flushed = false) (after : After) :
    s.flush after = { s with point := .flush after } := by
  simp [flush, h]

theorem blocked_before {point : Point setup stack} (h : point.blocked = true) :
    point.phase = .before := by
  cases point <;> first | rfl | cases h

theorem selected_kind {scan : ScanOutcome} {results : Vector ScanResult setup.maxScanResults}
    (unflushed : s.flushed = false) {out : List (Effect setup)}
    (h : Selected s scan results t out) :
    t.point.phase ≠ .after ∧ t.vendorLog = s.vendorLog ∧ t.flushed = s.flushed ∧
      ∀ e ∈ out, e.own = true := by
  cases h with
  | panicked outside => exact ⟨nofun, rfl, rfl, fun _ none => absurd none List.not_mem_nil⟩
  | notFound found inside missing =>
    rw [flush_unflushed unflushed]
    exact ⟨nofun, rfl, rfl, own_writes _⟩
  | refused found inside result first lines configured =>
    rw [flush_unflushed unflushed]
    exact ⟨nofun, rfl, rfl, own_writes _⟩
  | connect found inside result first lines station configured =>
    refine ⟨nofun, rfl, rfl, ?_⟩
    intro e member
    rcases List.mem_append.mp member with written | called
    · exact own_writes _ e written
    · obtain rfl := List.mem_singleton.mp called
      rfl

theorem step_kinds {input : Input setup stack} {out : List (Effect setup)}
    (h : runWifiSmoke icmp s input = some (t, out))
    (unflushed : s.point.phase = .before → s.flushed = false)
    (running : t.vendorLog.point ≠ .panicked) : Kind icmp s input t out := by
  have own (before : s.point.phase = .before) (other : input.logInput = none)
      (on : t.point.phase ≠ .after) (log : t.vendorLog = s.vendorLog)
      (flushed : t.flushed = s.flushed) (said : ∀ e ∈ out, e.own = true) :
      Kind icmp s input t out :=
    .own input other before t on log flushed out (.of_forall said)
  cases step_cases h with
  | push running' bytes vendorLog said stepped =>
    split at running
    · rename_i full
      exact absurd full running
    · rename_i more
      rw [if_neg more]
      exact .push bytes vendorLog said stepped
  | begin at_point | initController at_point | initEvent at_point event
  | scan at_point scan results =>
    have before : s.point.phase = .before := by
      rw [at_point]
      rfl
    exact own before rfl nofun rfl rfl (by simp [Effect.own])
  | connect at_point frequency =>
    have before : s.point.phase = .before := by
      rw [at_point]
      rfl
    exact own before rfl nofun rfl rfl (own_writes _)
  | init at_point | spawn at_point =>
    have before : s.point.phase = .before := by
      rw [at_point]
      rfl
    exact own before rfl nofun rfl rfl (fun _ none => absurd none List.not_mem_nil)
  | initErr at_point error | spawnErr at_point error | initControllerErr at_point error
  | scanErr at_point error results | connectEvent at_point event =>
    have before : s.point.phase = .before := by
      rw [at_point]
      rfl
    rw [flush_unflushed (unflushed before)] at own ⊢
    exact own before rfl nofun rfl rfl (by simp [Effect.own])
  | connectErr at_point error =>
    have before : s.point.phase = .before := by
      rw [at_point]
      rfl
    rw [flush_unflushed (unflushed before)] at own ⊢
    exact own before rfl nofun rfl rfl (own_writes _)
  | scanEvent scan results at_point event =>
    have before : s.point.phase = .before := by
      rw [at_point]
      rfl
    obtain ⟨on, log, flushed, said⟩ :=
      selected_kind (unflushed before) (selectNetwork_cases s scan results)
    refine own before rfl on log flushed ?_
    intro e member
    rcases List.mem_cons.mp member with rfl | member
    · rfl
    · exact said e member
  | drain after at_point vendorLog said stepped =>
    split at running
    · rename_i full
      exact absurd full running
    · rename_i more
      rw [if_neg more]
      split
      · rename_i finished
        exact .finish after at_point vendorLog said stepped finished
      · rename_i unfinished
        exact .drain after at_point vendorLog said stepped unfinished
  | device at_point iface => exact .device at_point iface
  | network runner next at_point input said stepped =>
    exact .network runner next at_point input said stepped
  | pending blocked =>
    refine own (blocked_before blocked) rfl ?_ rfl rfl (fun _ none => absurd none List.not_mem_nil)
    rw [blocked_before blocked]
    nofun
  | yieldErr blocked =>
    exact own (blocked_before blocked) rfl nofun rfl rfl
      (fun _ none => absurd none List.not_mem_nil)

@[simp] theorem flush_vendorLog (s : WifiSmoke setup stack) (after : After) :
    (s.flush after).vendorLog = s.vendorLog := by
  unfold flush
  split <;> rfl

theorem unlogged_writes (lines : List Line) :
    (lines.map (.write : Line → Effect setup)).filterMap Effect.log? = [] :=
  (Own.of_forall (own_writes lines)).unlogged

theorem selected_apart {scan : ScanOutcome} {results : Vector ScanResult setup.maxScanResults}
    {out : List (Effect setup)} (h : Selected s scan results t out) :
    t.vendorLog = s.vendorLog ∧ out.filterMap Effect.log? = [] := by
  cases h with
  | panicked outside => exact ⟨rfl, rfl⟩
  | notFound found inside missing => exact ⟨flush_vendorLog s _, unlogged_writes _⟩
  | refused found inside result first lines configured =>
    exact ⟨flush_vendorLog s _, unlogged_writes _⟩
  | connect found inside result first lines station configured =>
    refine ⟨rfl, ?_⟩
    rw [List.filterMap_append, unlogged_writes]
    rfl

/-- The buffer and its drain make a run of their own. -/
theorem vendorLog_run (run : Run (runWifiSmoke icmp) s ms t) :
    ∃ ns, Run flushVendorLog s.vendorLog ns t.vendorLog ∧
      inputs ns = (inputs ms).filterMap Input.logInput ∧ effects ns = logged ms := by
  refine run.project WifiSmoke.vendorLog Input.logInput Effect.log? ?_ ?_
  · intro u i v out i' stepped picked
    cases step_cases stepped with
    | push running bytes vendorLog said pushed =>
      cases picked
      rw [filterMap_log]
      split <;> exact pushed
    | drain after at_point vendorLog said drained =>
      cases picked
      rw [filterMap_log]
      split
      · exact drained
      · split <;> exact drained
    | _ => cases picked
  · intro u i v out stepped picked
    cases step_cases stepped with
    | push | drain => cases picked
    | initErr | spawnErr | initControllerErr | scanErr | connectEvent =>
      exact ⟨flush_vendorLog _ _, rfl⟩
    | connectErr at_point error => exact ⟨flush_vendorLog _ _, unlogged_writes _⟩
    | connect at_point frequency => exact ⟨rfl, unlogged_writes _⟩
    | scanEvent scan results at_point event =>
      obtain ⟨same, silent⟩ := selected_apart (selectNetwork_cases u scan results)
      exact ⟨same, silent⟩
    | network runner next at_point input said ran =>
      refine ⟨rfl, ?_⟩
      simp [List.filterMap_map, Function.comp_def, Effect.log?]
    | _ => exact ⟨rfl, rfl⟩

theorem pushed_eq {ns : FlushMoves vendorLogCapacity}
    (asked : inputs ns = (inputs ms).filterMap Input.logInput) :
    InitSmoke.pushed ns = pushed ms := by
  rw [InitSmoke.pushed, asked, pushed]

theorem shown_eq {ns : FlushMoves vendorLogCapacity} (said : effects ns = logged ms) :
    written ns = shown ms := by
  rw [written, said, shown]

/-- From boot: the buffer keeps up with the callbacks, and never panics. -/
theorem boot_drained (run : Run (runWifiSmoke icmp) (.begin setup stack) ms s) :
    ∃ ns, Run flushVendorLog (Flush.begin .new) ns s.vendorLog ∧ Drained [] ns s.vendorLog ∧
      InitSmoke.pushed ns = pushed ms ∧ effects ns = logged ms := by
  obtain ⟨ns, drained, asked, said⟩ := vendorLog_run run
  exact ⟨ns, drained, run_drained vendorLogCapacity_fits new_refines drained, pushed_eq asked, said⟩

/-- Where the drain stands in each part of the program. -/
structure Guarded (s : WifiSmoke setup stack) : Prop where
  flushed : s.flushed = decide (s.point.phase = .after)
  waits : s.point.phase = .before → s.vendorLog.point = .starting
  runs : s.point.phase = .flushing → s.vendorLog.point ≠ .finished
  done : s.point.phase = .after → s.vendorLog.point = .finished

theorem After.phase (after : After) : (after.point : Point setup stack).phase = .after := by
  cases after <;> rfl

theorem kind_guarded {input : Input setup stack} {out : List (Effect setup)}
    (h : Kind icmp s input t out) (running : t.vendorLog.point ≠ .panicked) (guarded : Guarded s) :
    Guarded t := by
  obtain ⟨flag, waits, runs, done⟩ := guarded
  cases h with
  | own input other before t on log flushed out said =>
    have starting := waits before
    rw [← log] at starting
    refine ⟨?_, fun _ => starting, ?_, fun h => absurd h on⟩
    · rw [flushed, flag, before, decide_eq_false on]
      rfl
    · rw [starting]
      nofun
  | push bytes vendorLog said stepped =>
    have same : vendorLog.point = s.vendorLog.point := by
      have step := flush_cases stepped running
      generalize vendorLog.point = point at step
      cases step
      rfl
    constructor
    · exact flag
    · simpa only [same] using waits
    · simpa only [same] using runs
    · simpa only [same] using done
  | drain after at_point vendorLog said stepped unfinished =>
    rw [at_point] at flag
    refine ⟨?_, ?_, fun _ => unfinished, ?_⟩
    · dsimp only
      rw [at_point]
      exact flag
    · rw [at_point]
      nofun
    · rw [at_point]
      nofun
  | finish after at_point vendorLog said stepped finished =>
    have phase : (after.point : Point setup stack).phase = .after := After.phase after
    refine ⟨?_, ?_, ?_, fun _ => finished⟩
    · dsimp only
      rw [phase]
      rfl
    · dsimp only
      rw [phase]
      nofun
    · dsimp only
      rw [phase]
      nofun
  | device at_point iface =>
    rw [at_point] at flag done
    exact ⟨flag, nofun, nofun, fun _ => done rfl⟩
  | network runner next at_point input said stepped =>
    rw [at_point] at flag done
    exact ⟨flag, nofun, nofun, fun _ => done rfl⟩

theorem run_kind (run : Run (runWifiSmoke icmp) (.begin setup stack) ms s)
    {input : Input setup stack} {out : List (Effect setup)} (guarded : Guarded s)
    (stepped : runWifiSmoke icmp s input = some (t, out)) :
    t.vendorLog.point ≠ .panicked ∧ Kind icmp s input t out := by
  obtain ⟨ns, -, drained, -, -⟩ := boot_drained (run.next stepped)
  refine ⟨drained.running, step_kinds stepped ?_ drained.running⟩
  intro before
  rw [guarded.flushed, before]
  rfl

theorem run_guarded (run : Run (runWifiSmoke icmp) (.begin setup stack) ms s) : Guarded s := by
  refine run.history (P := fun _ s => Guarded s) ⟨rfl, fun _ => rfl, nofun, nofun⟩ ?_
  intro ms u i v out before guarded stepped
  obtain ⟨running, kind⟩ := run_kind before guarded stepped
  exact kind_guarded kind running guarded

/-- What the network runner has written, by where the program stands. -/
def Online (icmp : IcmpWire) (s : WifiSmoke setup stack) (lines : List Runner.Effect) : Prop :=
  match s.point with
  | .network runner => ∃ iface ns, Run (networkRunner icmp) (.boot iface) ns runner ∧
      effects ns = lines
  | _ => lines = []

/-- The console shows the program's own lines, then the vendor log, then the network
runner's lines. -/
structure Console (icmp : IcmpWire) (ms : List (Smoking setup stack)) (s : WifiSmoke setup stack) :
    Prop where
  parts : effects ms = own ms ++ ((logged ms).map .log ++ (networked ms).map .network)
  online : Online icmp s (networked ms)

theorem offline_phase (h : s.point.phase ≠ .after) {lines : List Runner.Effect}
    (online : Online icmp s lines) : lines = [] := by
  unfold Online at online
  split at online
  · rename_i at_point
    rw [at_point] at h
    exact absurd rfl h
  · exact online

theorem own_append (ms ns : List (Smoking setup stack)) : own (ms ++ ns) = own ms ++ own ns := by
  simp [own]

theorem logged_append (ms ns : List (Smoking setup stack)) :
    logged (ms ++ ns) = logged ms ++ logged ns := by
  simp [logged]

theorem networked_append (ms ns : List (Smoking setup stack)) :
    networked (ms ++ ns) = networked ms ++ networked ns := by
  simp [networked]

theorem pushed_append (ms ns : List (Smoking setup stack)) :
    pushed (ms ++ ns) = pushed ms ++ pushed ns := by
  simp [pushed]

theorem shown_append (ms ns : List (Smoking setup stack)) :
    shown (ms ++ ns) = shown ms ++ shown ns := by
  simp [shown, logged_append]

/-- The log on the console, by where the drain stands. -/
theorem run_shown (run : Run (runWifiSmoke icmp) (.begin setup stack) ms s) :
    Shown s.vendorLog.point (logged ms) := by
  obtain ⟨ns, drained, -, -, said⟩ := boot_drained run
  rw [← said]
  exact drain_shown vendorLogCapacity_fits new_refines drained

theorem unlogged_before (run : Run (runWifiSmoke icmp) (.begin setup stack) ms s)
    (before : s.point.phase = .before) : logged ms = [] := by
  have shown := run_shown run
  rw [(run_guarded run).waits before] at shown
  generalize logged ms = said at shown ⊢
  cases shown
  rfl

theorem log_step {bytes : List UInt8} {vendorLog : Flush vendorLogCapacity} {out : List FlushEffect}
    (stepped : flushVendorLog s.vendorLog (.push bytes) = some (vendorLog, out))
    (running : vendorLog.point ≠ .panicked) : out = [] := by
  have step := flush_cases stepped running
  generalize vendorLog.point = point at step
  cases step
  rfl

theorem online_off (h : ∀ runner, s.point ≠ .network runner) : Online icmp s [] := by
  unfold Online
  split
  · rename_i runner at_point
    exact absurd at_point (h runner)
  · rfl

theorem online_nil (offline : networked ms = []) {m : Smoking setup stack}
    (silent : m.effects.filterMap Effect.network? = []) (h : ∀ runner, s.point ≠ .network runner) :
    Online icmp s (networked (ms ++ [m])) := by
  have still : networked (ms ++ [m]) = [] := by
    rw [networked_append, offline, List.nil_append, networked, effects_singleton, silent]
  rw [still]
  exact online_off h

theorem parts_log
    (parts : effects ms = own ms ++ ((logged ms).map .log ++ (networked ms).map .network))
    (offline : networked ms = []) (input : Input setup stack) (said : List FlushEffect) :
    let all := ms ++ [⟨s, input, said.map .log, t⟩]
    effects all = own all ++ ((logged all).map .log ++ (networked all).map .network) := by
  have own_none : (said.map (.log : FlushEffect → Effect setup)).filter Effect.own = [] := by
    simp [List.filter_eq_nil_iff, Effect.own]
  have network_none :
      (said.map (.log : FlushEffect → Effect setup)).filterMap Effect.network? = [] := by
    simp [List.filterMap_eq_nil_iff, Effect.network?]
  simp only [own_append, logged_append, networked_append, effects_append, effects_singleton, parts,
    offline]
  simp [own, logged, networked, own_none, network_none, Function.comp_def, Effect.log?]

theorem unconsoled (h : s.point.phase ≠ .after) (runner : Runner stack) :
    s.point ≠ .network runner := by
  rintro at_point
  rw [at_point] at h
  exact h rfl

theorem After.unconsoled (after : After) (runner : Runner stack) :
    (after.point : Point setup stack) ≠ .network runner := by
  cases after <;> intro at_point <;> cases at_point

theorem console_kept (run : Run (runWifiSmoke icmp) (.begin setup stack) ms s)
    (console : Console icmp ms s) {input : Input setup stack} {out : List (Effect setup)}
    (stepped : runWifiSmoke icmp s input = some (t, out)) :
    Console icmp (ms ++ [⟨s, input, out, t⟩]) t := by
  obtain ⟨running, kind⟩ := run_kind run (run_guarded run) stepped
  obtain ⟨parts, online⟩ := console
  cases kind with
  | own input other before t on log flushed out said =>
    have unlogged := unlogged_before run before
    have offline : networked ms = [] := offline_phase (by rw [before]; nofun) online
    refine ⟨?_, online_nil offline said.offline (unconsoled on)⟩
    rw [own_append, logged_append, networked_append, effects_append, effects_singleton, parts,
      unlogged, offline]
    simp [own, logged, networked, said.own, said.unlogged, said.offline]
  | push bytes vendorLog said moved =>
    obtain rfl := log_step moved running
    refine ⟨by simpa [own, logged, networked] using parts, ?_⟩
    have same (m : Smoking setup stack) (silent : m.effects = []) :
        networked (ms ++ [m]) = networked ms := by simp [networked, silent]
    rw [same _ rfl]
    exact online
  | drain after at_point vendorLog said moved unfinished =>
    have offline : networked ms = [] := offline_phase (by rw [at_point]; nofun) online
    refine ⟨parts_log parts offline _ said, online_nil offline ?_ ?_⟩
    · simp [List.filterMap_eq_nil_iff, Effect.network?]
    · exact unconsoled (by rw [at_point]; nofun)
  | finish after at_point vendorLog said moved finished =>
    have offline : networked ms = [] := offline_phase (by rw [at_point]; nofun) online
    refine ⟨parts_log parts offline _ said, online_nil offline ?_ ?_⟩
    · simp [List.filterMap_eq_nil_iff, Effect.network?]
    · exact After.unconsoled after
  | device at_point iface =>
    refine ⟨by simpa [own, logged, networked] using parts, ?_⟩
    unfold Online at online
    rw [at_point] at online
    exact ⟨iface, [], .start, by simpa [networked] using online.symm⟩
  | network runner next at_point input said moved =>
    unfold Online at online
    rw [at_point] at online
    obtain ⟨iface, ns, ran, lines⟩ := online
    have network_all : (said.map (.network : Runner.Effect → Effect setup)).filterMap
        Effect.network? = said := by
      simp [List.filterMap_map, Function.comp_def, Effect.network?]
    constructor
    · have own_none : (said.map (.network : Runner.Effect → Effect setup)).filter
          Effect.own = [] := by
        simp [List.filter_eq_nil_iff, Effect.own]
      have log_none : (said.map (.network : Runner.Effect → Effect setup)).filterMap
          Effect.log? = [] := by
        simp [List.filterMap_eq_nil_iff, Effect.log?]
      simp only [own_append, logged_append, networked_append, effects_append, effects_singleton,
        parts]
      simp [own, logged, networked, own_none, log_none, network_all]
    · refine ⟨iface, _, ran.next moved, ?_⟩
      rw [effects_append, effects_singleton, lines, networked_append]
      simp [networked, network_all]

theorem run_console (run : Run (runWifiSmoke icmp) (.begin setup stack) ms s) :
    Console icmp ms s :=
  run.history (P := fun ms s => Console icmp ms s) ⟨rfl, rfl⟩
    fun _ _ _ _ _ before console stepped => console_kept before console stepped

theorem pushed_of_drains (only : ∀ i ∈ inputs ms, i = .drain) : pushed ms = [] := by
  have none : (inputs ms).filterMap Input.logInput = (inputs ms).map fun _ => .resume := by
    rw [← List.filterMap_eq_map]
    refine List.filterMap_congr ?_
    intro i asked
    rw [only i asked]
    rfl
  rw [pushed, none, List.flatMap_eq_nil_iff]
  intro i member
  obtain ⟨-, -, rfl⟩ := List.mem_map.mp member
  rfl

/-- A move that writes of the vendor log is one of the drain. -/
structure Drains (m : Smoking setup stack) (out : List FlushEffect) : Prop where
  asked : m.input = .drain
  moved : flushVendorLog m.before.vendorLog .resume = some (m.after.vendorLog, out)
  said : m.effects = out.map .log
  step : FlushStep m.before.vendorLog .resume m.after.vendorLog.point out

theorem log_move {m : Smoking setup stack} {effect : FlushEffect}
    (run : Run (runWifiSmoke icmp) (.begin setup stack) (ms ++ [m]) s)
    (said : .log effect ∈ m.effects) : ∃ out, Drains m out ∧ effect ∈ out := by
  obtain ⟨before, stepped, after⟩ := run.at_move
  obtain ⟨running, kind⟩ := run_kind before (run_guarded before) stepped
  obtain ⟨r, input, effects, u⟩ := m
  dsimp only at said kind running
  cases kind with
  | own input other phase t on log flushed out own =>
    have := List.filterMap_eq_nil_iff.mp own.unlogged _ said
    cases this
  | push bytes vendorLog out moved =>
    obtain rfl := log_step moved running
    cases said
  | drain point at_point vendorLog out moved unfinished =>
    obtain ⟨e, member, same⟩ := List.mem_map.mp said
    cases same
    exact ⟨out, ⟨rfl, moved, rfl, flush_cases moved running⟩, member⟩
  | finish point at_point vendorLog out moved finished =>
    obtain ⟨e, member, same⟩ := List.mem_map.mp said
    cases same
    exact ⟨out, ⟨rfl, moved, rfl, flush_cases moved running⟩, member⟩
  | device at_point iface => cases said
  | network runner next at_point input out moved =>
    obtain ⟨e, member, same⟩ := List.mem_map.mp said
    cases same

/-- The log begins at the head of the drain. -/
theorem began_at {m : Smoking setup stack} {out : List FlushEffect} (drains : Drains m out)
    (began : .began ∈ out) : m.before.vendorLog.point = .starting := by
  have step := drains.step
  generalize m.after.vendorLog.point = point at step
  cases step with
  | start at_point => exact at_point
  | read | finish | write => simp at began

/-- The log ends with the closing line alone. -/
theorem ended_at {m : Smoking setup stack} {out : List FlushEffect} {d : Nat}
    (drains : Drains m out) (ended : .ended d ∈ out) :
    out = [.ended d] ∧ m.after.vendorLog.point = .finished := by
  have step := drains.step
  generalize m.after.vendorLog.point = point at step ⊢
  cases step with
  | finish at_point dropped =>
    obtain rfl : d = dropped := by simpa using ended
    exact ⟨rfl, rfl⟩
  | start | read | write => simp at ended

theorem Drains.shown {m : Smoking setup stack} {out : List FlushEffect} (drains : Drains m out) :
    shown [m] = out.flatMap FlushEffect.bytes := by
  rw [WifiSmoke.shown, logged, effects_singleton, drains.said, filterMap_log]

theorem Drains.pushed {m : Smoking setup stack} {out : List FlushEffect} (drains : Drains m out) :
    pushed [m] = [] := by
  rw [WifiSmoke.pushed, inputs_singleton, drains.asked]
  rfl

/-- What the closing line of the log stands for: it counts, as far as a `usize` counts, what
callbacks had logged by then and is not shown, and if none logged during the drain the
newest are shown. -/
structure Accounted (ms pre : List (Smoking setup stack)) (dropped : Nat) : Prop where
  closed : shown ms = shown pre
  ordered : (shown ms).Sublist (pushed pre)
  account : dropped = min ((pushed pre).length - (shown ms).length) usizeMax
  newest : ∀ head k mid, pre = head ++ k :: mid → .log .began ∈ k.effects → pushed mid = [] →
    shown ms = (pushed head).rtake vendorLogCapacity

/-- Left alone since it began, the drain has shown the newest of what was logged. -/
theorem newest_shown {head mid : List (Smoking setup stack)} {k m : Smoking setup stack}
    (run : Run (runWifiSmoke icmp) (.begin setup stack) (head ++ k :: (mid ++ [m])) s)
    (began : .log .began ∈ k.effects) (quiet : pushed mid = []) {d : Nat}
    (ended : .log (.ended d) ∈ m.effects) :
    shown (head ++ k :: (mid ++ [m])) = (pushed head).rtake vendorLogCapacity := by
  obtain ⟨before, stepped, rest⟩ := run.at_move
  obtain ⟨out, drains, member⟩ := log_move (before.next stepped) began
  have regrouped : Run (runWifiSmoke icmp) (.begin setup stack) ((head ++ k :: mid) ++ [m]) s := by
    simpa using run
  obtain ⟨last, closing, closes⟩ := log_move regrouped ended
  obtain ⟨ns, filled, kept, pushed_all, said⟩ := boot_drained before
  have waits := began_at drains member
  obtain ⟨log, at_head⟩ := undrained filled waits
  have hidden : shown head = [] := by
    have prior := run_shown before
    rw [waits] at prior
    rw [shown]
    generalize logged head = lines at prior ⊢
    cases prior
    rfl
  obtain ⟨nq, drained, asked, written_all⟩ := vendorLog_run ((Run.single stepped).trans rest)
  rw [at_head] at drained
  have alone : InitSmoke.pushed nq = [] := by
    rw [pushed_eq asked, pushed_append, pushed_append, drains.pushed, quiet, closing.pushed]
    rfl
  have refines : Refines log (pushed head) := by
    have := kept.refines
    rw [pushed_all, List.nil_append, at_head] at this
    exact this
  obtain ⟨only, finished⟩ := ended_at closing closes
  have last_state : s = m.after := by
    have : Run (runWifiSmoke icmp) k.after (mid ++ m :: []) s := rest
    exact this.at_move.2.2.nil
  have result := (run_drained vendorLogCapacity_fits refines drained).alone alone
    (last_state ▸ finished)
  rw [shown_append, hidden, List.nil_append, ← result, shown_eq written_all]
  rfl

theorem ended_accounted {pre post : List (Smoking setup stack)} {m : Smoking setup stack}
    (run : Run (runWifiSmoke icmp) (.begin setup stack) (pre ++ m :: post) s) {d : Nat}
    (ended : .log (.ended d) ∈ m.effects) : Accounted (pre ++ m :: post) pre d := by
  obtain ⟨before, stepped, after⟩ := run.at_move
  obtain ⟨out, drains, member⟩ := log_move (before.next stepped) ended
  obtain ⟨only, finished⟩ := ended_at drains member
  obtain ⟨ns, filled, kept, pushed_all, said⟩ := boot_drained before
  have silent : shown post = [] := by
    obtain ⟨nq, drained, -, written_all⟩ := vendorLog_run after
    rw [shown, ← written_all, finished_silent drained finished]
    rfl
  have closed : shown (pre ++ m :: post) = shown pre := by
    rw [← List.singleton_append, shown_append, shown_append, drains.shown, only, silent]
    simp
  have moved := drains.moved
  rw [only] at moved
  obtain ⟨-, -, account⟩ := ended_accounts vendorLogCapacity_fits new_refines
    (filled.next moved) (List.mem_singleton_self (FlushEffect.ended d))
  have same : written ns = shown pre := shown_eq said
  rw [List.nil_append, pushed_all, same] at account
  refine ⟨closed, ?_, by rw [closed, account], ?_⟩
  · rw [closed, ← same, ← pushed_all]
    exact kept.ordered
  · rintro head k mid rfl began quiet
    have run' : Run (runWifiSmoke icmp) (.begin setup stack) (head ++ k :: (mid ++ [m]))
        m.after := by
      simpa using before.next stepped
    have shown_all := newest_shown run' began quiet ended
    rw [closed, ← shown_all, show head ++ k :: (mid ++ [m]) = (head ++ k :: mid) ++ [m] by simp,
      shown_append (head ++ k :: mid) [m], drains.shown, only]
    simp

/-- An input that lets the drain go on. -/
def Input.drains : Input setup stack → Bool
  | .drain => true
  | _ => false

theorem logInput_resume (input : Input setup stack) :
    (input.logInput.map (· == .resume)).getD false = input.drains := by
  cases input <;> rfl

/-- The drain takes so many steps, whatever is logged meanwhile. -/
theorem drains_bounded (run : Run (runWifiSmoke icmp) (.begin setup stack) ms s) :
    (inputs ms).countP Input.drains ≤ 2 * vendorLogCapacity + 2 := by
  obtain ⟨ns, drained, asked, -⟩ := vendorLog_run run
  have few := resumes_bounded vendorLogCapacity_fits new_refines drained
  rw [asked, List.countP_filterMap, funext logInput_resume] at few
  exact few

theorem drain_enabled (run : Run (runWifiSmoke icmp) (.begin setup stack) ms s) {after : After}
    (at_point : s.point = .flush after) : ∃ t out, runWifiSmoke icmp s .drain = some (t, out) := by
  obtain ⟨ns, -, drained, -, -⟩ := boot_drained run
  have unfinished := (run_guarded run).runs (by rw [at_point]; rfl)
  obtain ⟨vendorLog, out, moved⟩ := drained.resumes unfinished
  simp only [runWifiSmoke, at_point, drain, moved, Option.bind_eq_bind, Option.bind_some]
  exact ⟨_, _, rfl⟩

/-- Left alone, a drain that began goes on to what follows it. -/
theorem drains_through (run : Run (runWifiSmoke icmp) (.begin setup stack) ms s) {after : After}
    (at_point : s.point = .flush after) : ∃ ns t, Run (runWifiSmoke icmp) s ns t ∧
      t.point = after.point ∧ ∀ i ∈ inputs ns, i = .drain := by
  generalize left : 2 * vendorLogCapacity + 2 - (inputs ms).countP Input.drains = n
  induction n generalizing ms s with
  | zero =>
    obtain ⟨t, out, stepped⟩ := drain_enabled run at_point
    have few := drains_bounded (run.next stepped)
    rw [inputs_append, inputs_singleton, List.countP_append] at few
    simp only [List.countP_cons, List.countP_nil, Input.drains, if_true] at few
    omega
  | succ n ih =>
    obtain ⟨t, out, stepped⟩ := drain_enabled run at_point
    have single := Run.single stepped
    have fewer : 2 * vendorLogCapacity + 2 - (inputs (ms ++ [⟨s, .drain, out, t⟩])).countP
        Input.drains = n := by
      rw [inputs_append, inputs_singleton, List.countP_append]
      simp only [List.countP_cons, List.countP_nil, Input.drains, if_true]
      omega
    cases (run_kind run (run_guarded run) stepped).2 with
    | own input other before t on log flushed out said => cases other
    | drain after' at_point' vendorLog said moved unfinished =>
      obtain ⟨ns, u, rest, reached, only⟩ := ih (run.next stepped) at_point fewer
      refine ⟨_, u, single.trans rest, reached, ?_⟩
      intro i member
      rw [inputs_append, inputs_singleton] at member
      rcases List.mem_append.mp member with first | later
      · exact List.mem_singleton.mp first
      · exact only i later
    | finish after' at_point' vendorLog said moved finished =>
      obtain rfl : after = after' := by
        rw [at_point] at at_point'
        cases at_point'
        rfl
      exact ⟨_, _, single, rfl, fun i member => List.mem_singleton.mp member⟩

def plainSetup : Setup where
  profile := .upstreamSupplicant
  maxScanResults := 2
  Passphrase := List UInt8
  tryFromAscii := fun bytes => if 8 ≤ bytes.length then some bytes else none
  StationConfig := List UInt8
  wpa2Personal := fun result _ _ => some result.ssid
  wpa3Personal := fun result _ _ _ => some result.ssid
  stationSsid := id
  testSsid := [72, 105]
  testPassphrase := [1, 2, 3, 4, 5, 6, 7, 8]

/-- Two bytes are logged, the radio cannot be brought up, and the drain begins. -/
theorem drain_began : ∃ (head : List (Smoking plainSetup plainStack))
    (k : Smoking plainSetup plainStack) (s : WifiSmoke plainSetup plainStack),
    Run (runWifiSmoke rfcIcmp) (.begin plainSetup plainStack) (head ++ [k]) s ∧
      pushed head = [1, 2] ∧ pushed [k] = [] ∧ k.effects = [.log .began] ∧
      logged head = [] ∧ s.point = .flush .returned := by
  obtain ⟨log, added, -⟩ := push_refines vendorLogCapacity_fits new_refines [1, 2]
  have late : flushVendorLog (Flush.begin new) (.push [1, 2]) = some (Flush.begin log, []) := by
    simp [flushVendorLog, rfLogBuffered, Flush.begin, added]
  have starts : (Flush.begin log).point ≠ .panicked := by simp [Flush.begin]
  have logs : runWifiSmoke rfcIcmp ⟨Flush.begin new, false, .init⟩ (.push [1, 2]) =
      some ((⟨Flush.begin log, false, .init⟩ : WifiSmoke plainSetup plainStack), []) := by
    simp [runWifiSmoke, push, late, starts]
  have failed : Run (runWifiSmoke rfcIcmp) (.begin plainSetup plainStack) _ _ :=
    ((Run.start.next (i := .begin) rfl).next (i := .push [1, 2]) logs).next
      (i := .init (.error .protocol)) rfl
  exact ⟨_, _, _, failed.next (i := .drain) rfl, rfl, rfl, rfl, rfl, rfl⟩

end WifiSmoke

end Ws63Examples.InitSmoke
