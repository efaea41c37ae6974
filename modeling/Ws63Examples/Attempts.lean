import Ws63Examples.Connectivity.DnsProbe
import Ws63Examples.Connectivity.LocalProbe
import Ws63Examples.InitSmoke.PingSeries

/-! What the three probing loops do between two attempts to send. -/

namespace Ws63Examples

open Execution

section
variable {stack : Smoltcp} {σ : Type}

/-- A `send_slice` on the probe's socket, taken or refused. -/
def Connectivity.Attempts (m : Move σ (Connectivity.Input stack) Connectivity.Effect) : Prop :=
  ∃ ok, m.input = .sendSlice ok

/-- A `poll_network`. -/
def Connectivity.Polls (m : Move σ (Connectivity.Input stack) Connectivity.Effect) : Prop :=
  ∃ traffic event, m.input = .poll traffic event

/-- A `send` on the ICMP socket, taken or refused. -/
def InitSmoke.Attempts (m : Move σ (InitSmoke.Input stack) InitSmoke.Effect) : Prop :=
  ∃ ok, m.input = .send ok

def InitSmoke.Polls (m : Move σ (InitSmoke.Input stack) InitSmoke.Effect) : Prop :=
  ∃ traffic event, m.input = .poll traffic event

end

namespace Connectivity.LocalProbe

variable {stack : Smoltcp}

/-- The points between a poll and the send that may follow it. -/
def Point.polled : Point → Prop
  | .drain | .pace | .send _ => True
  | _ => False

theorem attempt_guarded {m : Probing stack}
    (step : localNeighborProbe m.before m.input = some (m.after, m.effects))
    (sends : Attempts m) : m.before.point.polled ∧ ¬ m.after.point.polled := by
  obtain ⟨s, input, out, t⟩ := m
  obtain ⟨ok, sending⟩ := sends
  have cases_of : Step s input t out := step_cases step
  cases sending
  cases cases_of with
  | send current at_point =>
    constructor
    · rw [at_point]
      exact trivial
    · unfold sendProbe
      split <;> exact id

theorem poll_opens {m : Probing stack}
    (step : localNeighborProbe m.before m.input = some (m.after, m.effects))
    (shut : ¬ m.before.point.polled) (opened : m.after.point.polled) : Polls m := by
  obtain ⟨s, input, out, t⟩ := m
  have cases_of : Step s input t out := step_cases step
  cases cases_of with
  | poll _ traffic event => exact ⟨traffic, event, rfl⟩
  | receive at_point | drained at_point | pace at_point =>
    dsimp only at shut
    rw [at_point] at shut
    exact absurd trivial shut
  | send current at_point =>
    dsimp only at shut
    rw [at_point] at shut
    exact absurd trivial shut
  | start | enter | finish | pollPanic | exit | resume => exact absurd opened id

/-- The local probe polls between any two attempts. -/
theorem run_separated {net : Net stack} {target : Ipv4Address} {ms : List (Probing stack)}
    {s : LocalProbe stack} (run : Run localNeighborProbe (begin net target) ms s) :
    Separated Attempts Polls ms :=
  run.separated (fun s => s.point.polled) (fun _ => attempt_guarded) fun _ => poll_opens

end Connectivity.LocalProbe

namespace Connectivity.DnsProbe

variable {stack : Smoltcp}

/-- A query that a later one follows was taken, and the first check of its wait
found time left. -/
def Waited (ms : List (Probing stack)) : Prop :=
  ∀ pre m mid n post, ms = pre ++ m :: (mid ++ n :: post) → Attempts m → Attempts n →
    m.input = .sendSlice true ∧ ∃ started checked rest,
      inputs mid = .clock started :: .clock checked :: rest ∧
        monotonicMs checked - monotonicMs started < dnsTimeoutMs

/-- No query is under way. -/
def Dry (s : DnsProbe stack) : Prop := ¬ s.point.underway

theorem advance_dry (s : DnsProbe stack) : Dry s.advance := by
  unfold advance
  split <;> exact id

theorem attempt_point {m : Probing stack}
    (step : dnsProbe m.before m.input = some (m.after, m.effects)) (sends : Attempts m) :
    m.before.point = .send := by
  obtain ⟨s, input, out, t⟩ := m
  obtain ⟨ok, sending⟩ := sends
  have cases_of : Step s input t out := step_cases step
  cases sending
  cases cases_of with
  | send at_point => exact at_point

theorem refused_dry {m : Probing stack}
    (step : dnsProbe m.before m.input = some (m.after, m.effects))
    (refused : m.input = .sendSlice false) : Dry m.after := by
  obtain ⟨s, input, out, t⟩ := m
  have cases_of : Step s input t out := step_cases step
  cases refused
  cases cases_of with
  | send at_point =>
    unfold sendQuery
    split
    · exact id
    · exact advance_dry _

theorem panicked_stuck {s t : DnsProbe stack} {ms : List (Probing stack)}
    (at_point : s.point = .panicked) (run : Run dnsProbe s ms t) : t = s := by
  cases ms with
  | nil => exact run.nil
  | cons m ms =>
    obtain ⟨-, step, -⟩ := run.uncons
    unfold dnsProbe at step
    rw [at_point] at step
    cases step

/-- A taken query waits for its answer, if anything is sent after it. -/
theorem taken_after {m : Probing stack}
    (step : dnsProbe m.before m.input = some (m.after, m.effects))
    (taken : m.input = .sendSlice true) {mid : List (Probing stack)} {t : DnsProbe stack}
    (to_point : t.point = .send) (run : Run dnsProbe m.after mid t) : m.after.point = .sent := by
  have after : m.after.point = .sent ∨ m.after.point = .panicked := by
    obtain ⟨s, input, out, t⟩ := m
    have cases_of : Step s input t out := step_cases step
    cases taken
    cases cases_of with
    | send at_point =>
      unfold sendQuery
      split
      · exact .inr rfl
      · exact .inl rfl
  rcases after with sent | panicked
  · exact sent
  · rw [panicked_stuck panicked run, panicked] at to_point
    cases to_point

/-- Without a query under way the next move is another query. -/
theorem dry_goes (m : Probing stack)
    (step : dnsProbe m.before m.input = some (m.after, m.effects))
    (dry : Dry m.before) : Attempts m ∨ Dry m.after ∧ ¬ Polls m := by
  unfold Dry at dry
  obtain ⟨s, input, out, t⟩ := m
  have cases_of : Step s input t out := step_cases step
  cases cases_of with
  | send at_point ok => exact .inl ⟨ok, rfl⟩
  | sent at_point | enter at_point | timeout at_point | poll at_point | pollPanic at_point
  | receive at_point | drained at_point | exit at_point | resume at_point =>
    dsimp only at dry
    rw [at_point] at dry
    exact absurd trivial dry

theorem sent_goes {m : Probing stack}
    (step : dnsProbe m.before m.input = some (m.after, m.effects))
    (at_point : m.before.point = .sent) :
    ∃ ticks, m.input = .clock ticks ∧ m.after.point = .loopHead ∧
      m.after.startedAt = monotonicMs ticks := by
  obtain ⟨s, input, out, t⟩ := m
  have cases_of : Step s input t out := step_cases step
  cases cases_of with
  | sent _ ticks => exact ⟨ticks, rfl, rfl, rfl⟩
  | send here | enter here | timeout here | poll here | pollPanic here | receive here
  | drained here | exit here | resume here => cases here.symm.trans at_point

theorem loopHead_goes {m : Probing stack}
    (step : dnsProbe m.before m.input = some (m.after, m.effects))
    (at_point : m.before.point = .loopHead) :
    ∃ ticks, m.input = .clock ticks ∧
      if monotonicMs ticks - m.before.startedAt < dnsTimeoutMs then m.after.point = .poll
      else Dry m.after := by
  obtain ⟨s, input, out, t⟩ := m
  have cases_of : Step s input t out := step_cases step
  cases cases_of with
  | enter _ ticks early =>
    refine ⟨ticks, rfl, ?_⟩
    rw [if_pos early]
  | timeout _ ticks late =>
    refine ⟨ticks, rfl, ?_⟩
    rw [if_neg late]
    exact advance_dry s
  | send here | sent here | poll here | pollPanic here | receive here | drained here
  | exit here | resume here => cases here.symm.trans at_point

theorem poll_goes {m : Probing stack}
    (step : dnsProbe m.before m.input = some (m.after, m.effects))
    (at_point : m.before.point = .poll) : Polls m := by
  obtain ⟨s, input, out, t⟩ := m
  have cases_of : Step s input t out := step_cases step
  cases cases_of with
  | poll _ traffic event | pollPanic _ traffic event => exact ⟨traffic, event, rfl⟩
  | send here | sent here | enter here | timeout here | receive here | drained here
  | exit here | resume here => cases here.symm.trans at_point

/-- A taken query waits, or the first check of its wait finds its time over. -/
theorem sent_decided {s t : DnsProbe stack} {mid : List (Probing stack)}
    (run : Run dnsProbe s mid t) (at_point : s.point = .sent) (to_point : t.point = .send) :
    ∃ started checked rest, inputs mid = .clock started :: .clock checked :: rest ∧
      if monotonicMs checked - monotonicMs started < dnsTimeoutMs then ∃ k ∈ mid, Polls k
      else Parches dnsProbe Dry Polls mid t := by
  match mid with
  | [] => cases (run.nil ▸ at_point).symm.trans to_point
  | [k₀] =>
    obtain ⟨rfl, first, ended⟩ := run.uncons
    obtain ⟨-, -, loopHead, -⟩ := sent_goes first at_point
    rw [ended.nil, loopHead] at to_point
    cases to_point
  | k₀ :: k₁ :: rest =>
    obtain ⟨rfl, first, run₁⟩ := run.uncons
    obtain ⟨before, second, run₂⟩ := run₁.uncons
    obtain ⟨started, clock, loopHead, since⟩ := sent_goes first at_point
    rw [← before] at second loopHead since
    obtain ⟨checked, clock', decided⟩ := loopHead_goes second loopHead
    rw [since] at decided
    refine ⟨started, checked, inputs rest, by simp [inputs, clock, clock'], ?_⟩
    split
    · rename_i early
      rw [if_pos early] at decided
      cases rest with
      | nil =>
        rw [run₂.nil, decided] at to_point
        cases to_point
      | cons k rest =>
        obtain ⟨same, polls, -⟩ := run₂.uncons
        exact ⟨k, by simp, poll_goes (same ▸ polls) (same ▸ decided)⟩
    · rename_i late
      rw [if_neg late] at decided
      refine ⟨[k₀, k₁], rest, k₁.after, rfl, ?_, decided, run₂⟩
      rintro k hk ⟨traffic, event, polls⟩
      rcases List.mem_pair.mp hk with rfl | rfl
      · cases clock.symm.trans polls
      · cases clock'.symm.trans polls

/-- The DNS probe polls between its queries exactly when each that a later one
follows was taken and waited for. -/
theorem separated_iff {s t : DnsProbe stack} {ms : List (Probing stack)}
    (run : Run dnsProbe s ms t) : Separated Attempts Polls ms ↔ Waited ms := by
  apply run.separated_iff Dry dry_goes
  intro m mid n first middle last hm hn
  have to_point := attempt_point last hn
  obtain ⟨ok, sending⟩ := hm
  cases ok with
  | false =>
    refine .inr ⟨?_, [], mid, m.after, rfl, fun k hk => absurd hk List.not_mem_nil,
      refused_dry first sending, middle⟩
    rintro ⟨taken, -⟩
    cases sending.symm.trans taken
  | true =>
    obtain ⟨started, checked, rest, clocks, decided⟩ :=
      sent_decided middle (taken_after first sending to_point middle) to_point
    by_cases early : monotonicMs checked - monotonicMs started < dnsTimeoutMs
    · rw [if_pos early] at decided
      exact .inl ⟨⟨sending, started, checked, rest, clocks, early⟩, decided⟩
    · rw [if_neg early] at decided
      refine .inr ⟨?_, decided⟩
      rintro ⟨-, started', checked', rest', clocks', early'⟩
      cases clocks.symm.trans clocks'
      exact early early'

end Connectivity.DnsProbe

namespace InitSmoke.PingSeries

variable {stack : Smoltcp} {icmp : IcmpWire}

/-- A request that a later one follows was taken, and the first check of its wait
found time left. -/
def Waited (ms : List (Pinging stack)) : Prop :=
  ∀ pre m mid n post, ms = pre ++ m :: (mid ++ n :: post) → Attempts m → Attempts n →
    m.input = .send true ∧ ∃ checked rest, inputs mid = .clock checked :: rest ∧
      checked - m.before.startedAt < pingTimeoutMs

/-- The next request is on its way, or the series is over. -/
def Dry (s : PingSeries stack) : Prop :=
  match s.point with
  | .clock | .send | .returned _ | .panicked => True
  | _ => False

theorem advance_dry (s : PingSeries stack) : Dry s.advance.1 := by
  unfold advance
  split <;> exact trivial

theorem attempt_point {m : Pinging stack}
    (step : pingSeries icmp m.before m.input = some (m.after, m.effects)) (sends : Attempts m) :
    m.before.point = .send := by
  obtain ⟨s, input, out, t⟩ := m
  obtain ⟨ok, sending⟩ := sends
  have cases_of : Step icmp s input t out := step_cases step
  cases sending
  cases cases_of with
  | send at_point => exact at_point

theorem refused_dry {m : Pinging stack}
    (step : pingSeries icmp m.before m.input = some (m.after, m.effects))
    (refused : m.input = .send false) : Dry m.after := by
  obtain ⟨s, input, out, t⟩ := m
  have cases_of : Step icmp s input t out := step_cases step
  cases refused
  cases cases_of with
  | send at_point => exact advance_dry _

theorem taken_after {m : Pinging stack}
    (step : pingSeries icmp m.before m.input = some (m.after, m.effects))
    (taken : m.input = .send true) :
    m.after.point = .loopHead ∧ m.after.startedAt = m.before.startedAt := by
  obtain ⟨s, input, out, t⟩ := m
  have cases_of : Step icmp s input t out := step_cases step
  cases taken
  cases cases_of with
  | send at_point => exact ⟨rfl, rfl⟩

/-- On the way to the next request nothing is polled. -/
theorem dry_goes (m : Pinging stack)
    (step : pingSeries icmp m.before m.input = some (m.after, m.effects))
    (dry : Dry m.before) : Attempts m ∨ Dry m.after ∧ ¬ Polls m := by
  unfold Dry at dry
  obtain ⟨s, input, out, t⟩ := m
  have cases_of : Step icmp s input t out := step_cases step
  cases cases_of with
  | clock at_point ms => exact .inr ⟨trivial, nofun⟩
  | send at_point ok => exact .inl ⟨ok, rfl⟩
  | enter at_point | timeout at_point | poll at_point | pollPanic at_point | reply at_point
  | discard at_point | drained at_point | finish at_point | resume at_point
  | sleepPanic at_point =>
    dsimp only at dry
    rw [at_point] at dry
    exact absurd dry id

theorem loopHead_goes {m : Pinging stack}
    (step : pingSeries icmp m.before m.input = some (m.after, m.effects))
    (at_point : m.before.point = .loopHead) :
    ∃ ms, m.input = .clock ms ∧
      if ms - m.before.startedAt < pingTimeoutMs then m.after.point = .poll
      else Dry m.after := by
  obtain ⟨s, input, out, t⟩ := m
  have cases_of : Step icmp s input t out := step_cases step
  cases cases_of with
  | enter _ ms early =>
    refine ⟨ms, rfl, ?_⟩
    rw [if_pos early]
  | timeout _ ms late =>
    refine ⟨ms, rfl, ?_⟩
    rw [if_neg late]
    exact advance_dry s
  | clock here | send here | poll here | pollPanic here | reply here | discard here
  | drained here | finish here | resume here | sleepPanic here => cases here.symm.trans at_point

theorem poll_goes {m : Pinging stack}
    (step : pingSeries icmp m.before m.input = some (m.after, m.effects))
    (at_point : m.before.point = .poll) : Polls m := by
  obtain ⟨s, input, out, t⟩ := m
  have cases_of : Step icmp s input t out := step_cases step
  cases cases_of with
  | poll _ traffic event | pollPanic _ traffic event => exact ⟨traffic, event, rfl⟩
  | clock here | send here | enter here | timeout here | reply here | discard here
  | drained here | finish here | resume here | sleepPanic here => cases here.symm.trans at_point

/-- A taken request waits, or the first check of its wait finds its time over. -/
theorem sent_decided {s t : PingSeries stack} {mid : List (Pinging stack)}
    (run : Run (pingSeries icmp) s mid t) (at_point : s.point = .loopHead)
    (to_point : t.point = .send) :
    ∃ checked rest, inputs mid = .clock checked :: rest ∧
      if checked - s.startedAt < pingTimeoutMs then ∃ k ∈ mid, Polls k
      else Parches (pingSeries icmp) Dry Polls mid t := by
  match mid with
  | [] => cases (run.nil ▸ at_point).symm.trans to_point
  | k₀ :: rest =>
    obtain ⟨rfl, first, run₁⟩ := run.uncons
    obtain ⟨checked, clock, decided⟩ := loopHead_goes first at_point
    refine ⟨checked, inputs rest, by simp [inputs, clock], ?_⟩
    split
    · rename_i early
      rw [if_pos early] at decided
      cases rest with
      | nil =>
        rw [run₁.nil, decided] at to_point
        cases to_point
      | cons k rest =>
        obtain ⟨same, polls, -⟩ := run₁.uncons
        exact ⟨k, by simp, poll_goes (same ▸ polls) (same ▸ decided)⟩
    · rename_i late
      rw [if_neg late] at decided
      refine ⟨[k₀], rest, k₀.after, rfl, ?_, decided, run₁⟩
      rintro k hk ⟨traffic, event, polls⟩
      obtain rfl := List.mem_singleton.mp hk
      cases clock.symm.trans polls

/-- The series polls between its requests exactly when each that a later one
follows was taken and waited for. -/
theorem separated_iff {s t : PingSeries stack} {ms : List (Pinging stack)}
    (run : Run (pingSeries icmp) s ms t) : Separated Attempts Polls ms ↔ Waited ms := by
  apply run.separated_iff Dry dry_goes
  intro m mid n first middle last hm hn
  have to_point := attempt_point last hn
  obtain ⟨ok, sending⟩ := hm
  cases ok with
  | false =>
    refine .inr ⟨?_, [], mid, m.after, rfl, fun k hk => absurd hk List.not_mem_nil,
      refused_dry first sending, middle⟩
    rintro ⟨taken, -⟩
    cases sending.symm.trans taken
  | true =>
    obtain ⟨loopHead, since⟩ := taken_after first sending
    obtain ⟨checked, rest, clocks, decided⟩ := sent_decided middle loopHead to_point
    rw [since] at decided
    by_cases early : checked - m.before.startedAt < pingTimeoutMs
    · rw [if_pos early] at decided
      exact .inl ⟨⟨sending, checked, rest, clocks, early⟩, decided⟩
    · rw [if_neg early] at decided
      refine .inr ⟨?_, decided⟩
      rintro ⟨-, checked', rest', clocks', early'⟩
      cases clocks.symm.trans clocks'
      exact early early'

end InitSmoke.PingSeries

section
variable {stack : Smoltcp}

/-- Of the three loops only the local probe always polls between two attempts.
The others do so exactly where each attempt that a later one follows was taken
and its wait began in time. -/
theorem probes_poll_between_attempts (net : Connectivity.Net stack)
    (target : Ipv4Address) (targets : List Ipv4Address) (icmp : InitSmoke.IcmpWire)
    (smokeNet : InitSmoke.Net stack) (neighborConfirmed : Bool) (pinged : Ipv4Address)
    (count : Nat) (locals : List (Connectivity.LocalProbe.Probing stack))
    (queries : List (Connectivity.DnsProbe.Probing stack))
    (pings : List (InitSmoke.PingSeries.Pinging stack)) (s : Connectivity.LocalProbe stack)
    (d : Connectivity.DnsProbe stack) (p : InitSmoke.PingSeries stack)
    (localRun : Run Connectivity.localNeighborProbe (.begin net target) locals s)
    (dnsRun : Run Connectivity.dnsProbe (Connectivity.DnsProbe.begin net targets).1 queries d)
    (pingRun : Run (InitSmoke.pingSeries icmp)
      (InitSmoke.PingSeries.begin smokeNet neighborConfirmed pinged count).1 pings p) :
    Separated Connectivity.Attempts Connectivity.Polls locals ∧
    (Separated Connectivity.Attempts Connectivity.Polls queries ↔
      Connectivity.DnsProbe.Waited queries) ∧
    (Separated InitSmoke.Attempts InitSmoke.Polls pings ↔ InitSmoke.PingSeries.Waited pings) :=
  ⟨Connectivity.LocalProbe.run_separated localRun, Connectivity.DnsProbe.separated_iff dnsRun,
    InitSmoke.PingSeries.separated_iff pingRun⟩

end

def plainSmoke : InitSmoke.Net plainStack := ⟨⟨[], none⟩, none⟩

/-- A refused probe, a poll and another probe; a query, its wait and the next
query; a refused request and the next request. -/
theorem probes_poll_between_attempts_refused :
    ∃ locals queries pings s d p,
      Run Connectivity.localNeighborProbe (.begin Connectivity.plainNet ⟨192, 168, 4, 1⟩)
        locals s ∧
      Run Connectivity.dnsProbe
        (Connectivity.DnsProbe.begin Connectivity.plainNet Connectivity.publicTargets).1 queries d ∧
      Run (InitSmoke.pingSeries InitSmoke.rfcIcmp)
        (InitSmoke.PingSeries.begin plainSmoke false
          InitSmoke.publicTarget InitSmoke.pingCount).1 pings p ∧
      Separated Connectivity.Attempts Connectivity.Polls locals ∧
      (Separated Connectivity.Attempts Connectivity.Polls queries ↔
        Connectivity.DnsProbe.Waited queries) ∧
      ¬ InitSmoke.PingSeries.Waited pings := by
  have localRun : Run Connectivity.localNeighborProbe
      (.begin Connectivity.plainNet ⟨192, 168, 4, 1⟩) _ _ :=
    exec_run [.clock 0, .clock 0, .poll () none, .recv none, .clock 0, .sendSlice false,
      .nextEvent none, .clock 240000, .poll () none, .recv none, .clock 240000,
      .sendSlice true] rfl
  have dnsRun : Run Connectivity.dnsProbe
      (Connectivity.DnsProbe.begin Connectivity.plainNet Connectivity.publicTargets).1 _ _ :=
    exec_run [.sendSlice true, .clock 0, .clock 0, .poll () none, .recv none, .nextEvent none,
      .clock 36000000, .sendSlice true] rfl
  have pingRun : Run (InitSmoke.pingSeries InitSmoke.rfcIcmp)
      (InitSmoke.PingSeries.begin plainSmoke false
        InitSmoke.publicTarget InitSmoke.pingCount).1 _ _ :=
    exec_run [.clock 0, .send false, .clock 0, .send true] rfl
  obtain ⟨locals, queries, pings⟩ := probes_poll_between_attempts _ _ _ _ _ _ _ _ _ _ _ _ _ _
    localRun dnsRun pingRun
  refine ⟨_, _, _, _, _, _, localRun, dnsRun, pingRun, locals, queries, ?_⟩
  intro waited
  obtain ⟨k, hk, traffic, event, polls⟩ :=
    pings.mpr waited [_] _ [_] _ [] rfl ⟨false, rfl⟩ ⟨true, rfl⟩
  obtain rfl := List.mem_singleton.mp hk
  cases polls

/-- Two refused queries, with nothing in between. -/
theorem dns_probe_spends_attempts :
    ∃ queries d, Run Connectivity.dnsProbe
        (Connectivity.DnsProbe.begin Connectivity.plainNet Connectivity.publicTargets).1 queries d ∧
      inputs queries = [.sendSlice false, .sendSlice false] ∧
      ¬ Separated Connectivity.Attempts Connectivity.Polls queries := by
  have run : Run Connectivity.dnsProbe
      (Connectivity.DnsProbe.begin Connectivity.plainNet Connectivity.publicTargets).1 _ _ :=
    exec_run [.sendSlice false, .sendSlice false] rfl
  refine ⟨_, _, run, rfl, ?_⟩
  intro separated
  obtain ⟨k, hk, -⟩ := separated [] _ [] _ [] rfl ⟨false, rfl⟩ ⟨false, rfl⟩
  exact absurd hk List.not_mem_nil

end Ws63Examples
