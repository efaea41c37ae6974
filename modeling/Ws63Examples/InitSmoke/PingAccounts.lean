import Ws63Examples.InitSmoke.EchoRequests
import Ws63Examples.InitSmoke.PingStats

/-! The statistics of both ping implementations. -/

namespace Ws63Examples.InitSmoke

open Execution Word

namespace PingSeries

variable {stack : Smoltcp} {icmp : IcmpWire} {target : Ipv4Address} {count : Nat}

def Point.stage : Point → Stage
  | .clock | .send => .preparing
  | .returned _ => .between
  | _ => .waiting

def status : Effect → Option SampleStatus
  | .write (.status status) => some status
  | _ => none

/-- A packet from the target that is the echo reply to this sequence number. -/
def Hears (icmp : IcmpWire) (target : Ipv4Address) (m : Pinging stack) (sequence : Nat) : Prop :=
  m.before.sequence = sequence ∧ ∃ bytes data, m.input = .recv (some (bytes, target)) ∧
    icmp.newChecked bytes = true ∧
    icmp.parse bytes = some (.echoReply icmpIdentifier (.ofNat sequence) data)

def reading (stack : Smoltcp) (icmp : IcmpWire) (target : Ipv4Address) :
    Reading (PingSeries stack) (Input stack) Effect where
  sequence := PingSeries.sequence
  stage := fun s => s.point.stage
  heard := fun s => s.point matches .reply
  stats := PingSeries.stats
  status := status
  hears := Hears icmp target

/-- What never changes, and where the series ends. -/
structure Fixed (target : Ipv4Address) (count : Nat) (s : PingSeries stack) : Prop where
  aim : s.target = target
  total : s.count = count
  le : s.sequence ≤ count
  returned : ∀ stats, s.point = .returned stats → stats = s.stats ∧ s.sequence = count

theorem advance_cases (s : PingSeries stack) :
    s.sequence < s.count ∧ s.advance = ({ s with sequence := s.sequence + 1, point := .clock }, []) ∨
      ¬ s.sequence < s.count ∧
        s.advance = ({ s with point := .returned s.stats }, [.write s.summary]) := by
  unfold advance
  by_cases more : s.sequence < s.count
  · exact .inl ⟨more, if_pos more⟩
  · exact .inr ⟨more, if_neg more⟩

theorem answers_spec {s : PingSeries stack} {bytes : List UInt8} {endpoint : Ipv4Address}
    (answered : s.answers icmp bytes endpoint = true) :
    endpoint = s.target ∧ icmp.newChecked bytes = true ∧ ∃ data,
      icmp.parse bytes = some (.echoReply icmpIdentifier (.ofNat s.sequence) data) := by
  unfold answers at answered
  obtain ⟨checked, rest⟩ := Bool.and_eq_true_iff.mp answered
  split at rest
  · rename_i ident seqNo data parsed
    simp only [Bool.and_eq_true, decide_eq_true_eq] at rest
    obtain ⟨⟨rfl, rfl⟩, rfl⟩ := rest
    exact ⟨rfl, checked, data, parsed⟩
  · cases rest

section
variable {m : Pinging stack} {u : PingSeries stack}

/-- A sample that ends with the head of the loop is a turn of the series. -/
theorem closed_turn (fixed : Fixed target count m.before) (pre : List Effect)
    {status : SampleStatus} (after : m.after = u.advance.1) (effects : m.effects = pre ++ u.advance.2)
    (one : (reading stack icmp target).statuses pre = [status])
    (same : u.sequence = m.before.sequence ∧ u.count = m.before.count ∧ u.target = m.before.target)
    (closes : (reading stack icmp target).Closes m.before status u.stats) :
    (reading stack icmp target).Turn count m ∧ Fixed target count m.after := by
  obtain ⟨number, total, aim⟩ := same
  have le := fixed.le
  have written : (reading stack icmp target).statuses m.effects = [status] := by
    rw [effects, Reading.statuses_append, one]
    obtain ⟨-, next⟩ | ⟨-, next⟩ := advance_cases u <;> rw [next] <;> rfl
  obtain ⟨s, input, out, t⟩ := m
  obtain rfl : t = u.advance.1 := after
  obtain ⟨more, next⟩ | ⟨done, next⟩ := advance_cases u
  · rw [total, fixed.total] at more
    rw [next] at written ⊢
    refine ⟨.next status written closes (congrArg (· + 1) number) more rfl rfl, ?_⟩
    exact ⟨aim.trans fixed.aim, total.trans fixed.total, more, nofun⟩
  · rw [total, fixed.total, number] at done
    rw [next] at written ⊢
    refine ⟨.last status written closes number rfl rfl, ?_⟩
    refine ⟨aim.trans fixed.aim, total.trans fixed.total, number ▸ le, ?_⟩
    rintro stats ⟨⟩
    exact ⟨rfl, number.trans (Nat.le_antisymm le (Nat.not_lt.mp done))⟩

/-- A move within a sample, at a point that is no return. -/
theorem passed_turn (fixed : Fixed target count m.before)
    (same : m.after.sequence = m.before.sequence ∧ m.after.count = m.before.count ∧
      m.after.target = m.before.target ∧ m.after.stats = m.before.stats)
    (stage : m.after.point.stage = m.before.point.stage)
    (quiet : (reading stack icmp target).statuses m.effects = [])
    (going : m.after.point.stage ≠ .between)
    (heard : m.after.point = .reply → Hears icmp target m m.before.sequence) :
    (reading stack icmp target).Turn count m ∧ Fixed target count m.after := by
  obtain ⟨number, total, aim, stats⟩ := same
  refine ⟨.pass number stage stats quiet ?_, ?_⟩
  · intro now
    refine .inr (heard ?_)
    change (m.after.point matches .reply) = true at now
    split at now
    · assumption
    · cases now
  · refine ⟨aim.trans fixed.aim, total.trans fixed.total, number ▸ fixed.le, ?_⟩
    intro stats returned
    rw [returned] at going
    exact absurd rfl going

theorem step_turn (fixed : Fixed target count m.before)
    (h : pingSeries icmp m.before m.input = some (m.after, m.effects)) :
    (reading stack icmp target).Turn count m ∧ Fixed target count m.after := by
  obtain ⟨s, input, out, t⟩ := m
  have cases_of : Step icmp s input t out := step_cases h
  cases cases_of with
  | clock at_point ms =>
    exact passed_turn fixed ⟨rfl, rfl, rfl, rfl⟩ (by rw [at_point]; rfl) rfl nofun nofun
  | send at_point ok =>
    have ready : (reading stack icmp target).stage s = .preparing := congrArg Point.stage at_point
    cases ok with
    | true =>
      refine ⟨.send rfl ready rfl rfl rfl rfl, ?_⟩
      exact ⟨fixed.aim, fixed.total, fixed.le, nofun⟩
    | false =>
      exact closed_turn fixed [.send (icmp.emit s.request) s.target false,
        .write (.pingSample s.target s.sequence), .write (.status .txError)] rfl rfl rfl
        ⟨rfl, rfl, rfl⟩ (.refuse ready)
  | enter at_point ms early =>
    exact passed_turn fixed ⟨rfl, rfl, rfl, rfl⟩ (by rw [at_point]; rfl) rfl nofun nofun
  | timeout at_point ms late =>
    have waiting : (reading stack icmp target).stage s = .waiting := congrArg Point.stage at_point
    exact closed_turn (u := s) fixed [.write (.status .timeout)] rfl rfl rfl ⟨rfl, rfl, rfl⟩
      (.timeout waiting)
  | poll at_point traffic event net lines polled =>
    have quiet : (reading stack icmp target).statuses
        (lines.map fun line => .write (.dhcp line)) = [] := by
      rw [Reading.statuses, List.filterMap_map]
      exact List.filterMap_eq_nil_iff.mpr fun _ _ => rfl
    exact passed_turn fixed ⟨rfl, rfl, rfl, rfl⟩ (by rw [at_point]; rfl) quiet nofun nofun
  | pollPanic at_point traffic event polled =>
    exact passed_turn fixed ⟨rfl, rfl, rfl, rfl⟩ (by rw [at_point]; rfl) rfl nofun nofun
  | reply at_point bytes endpoint answered out confirms =>
    obtain ⟨rfl, checked, data, parsed⟩ := answers_spec answered
    have quiet : (reading stack icmp target).statuses out = [] := by
      rw [confirms]
      split <;> rfl
    refine passed_turn fixed ⟨rfl, rfl, rfl, rfl⟩ (by rw [at_point]; rfl) quiet nofun fun _ => ?_
    exact ⟨rfl, bytes, data, by rw [← fixed.aim], checked, parsed⟩
  | discard at_point bytes endpoint answered =>
    refine passed_turn fixed ⟨rfl, rfl, rfl, rfl⟩ rfl rfl ?_ ?_
    · change s.point.stage ≠ .between
      rw [at_point]
      exact nofun
    · intro now
      exact absurd (at_point.symm.trans now) nofun
  | drained at_point =>
    exact passed_turn fixed ⟨rfl, rfl, rfl, rfl⟩ (by rw [at_point]; rfl) rfl nofun nofun
  | finish at_point ms =>
    have waiting : (reading stack icmp target).stage s = .waiting := congrArg Point.stage at_point
    have heard : (reading stack icmp target).heard s = true := by
      change (s.point matches .reply) = true
      rw [at_point]
    exact closed_turn fixed [.write (.status (.ok _))] rfl rfl rfl ⟨rfl, rfl, rfl⟩
      (.reply waiting heard (Nat.min_le_right _ _))
  | resume at_point | sleepPanic at_point =>
    exact passed_turn fixed ⟨rfl, rfl, rfl, rfl⟩ (by rw [at_point]; rfl) rfl nofun nofun

/-- The summary an effect prints. -/
def summaryOf : Effect → Option Line
  | .write (.ping ok target tx rx drop txErrors lossPct rtt) =>
    some (.ping ok target tx rx drop txErrors lossPct rtt)
  | _ => none

def summaries (written : List Effect) : List Line := written.filterMap summaryOf

theorem summaries_append (written out : List Effect) :
    summaries (written ++ out) = summaries written ++ summaries out :=
  List.filterMap_append

theorem advance_prints {s : PingSeries stack} {line : Line} (printed : line ∈ summaries s.advance.2) :
    s.advance.1.point = .returned s.advance.1.stats ∧ line = s.advance.1.summary := by
  obtain ⟨-, next⟩ | ⟨-, next⟩ := advance_cases s
  · rw [next] at printed
    exact absurd printed List.not_mem_nil
  · rw [next] at printed ⊢
    exact ⟨rfl, List.mem_singleton.mp printed⟩

theorem step_prints {s t : PingSeries stack} {input : Input stack} {out : List Effect} {line : Line}
    (h : pingSeries icmp s input = some (t, out)) (printed : line ∈ summaries out) :
    t.point = .returned t.stats ∧ line = t.summary := by
  cases step_cases h with
  | send at_point ok =>
    cases ok with
    | true => exact absurd printed List.not_mem_nil
    | false => exact advance_prints printed
  | timeout at_point ms late => exact advance_prints printed
  | poll at_point traffic event net lines polled =>
    have quiet : summaries (lines.map fun line => .write (.dhcp line)) = [] := by
      rw [summaries, List.filterMap_map]
      exact List.filterMap_eq_nil_iff.mpr fun _ _ => rfl
    exact absurd printed (quiet ▸ List.not_mem_nil)
  | reply at_point bytes endpoint answered out confirms =>
    have quiet : summaries out = [] := by
      rw [confirms]
      split <;> rfl
    exact absurd printed (quiet ▸ List.not_mem_nil)
  | finish at_point ms => exact advance_prints printed
  | _ => exact absurd printed List.not_mem_nil

/-- A summary is the last line: nothing follows the return. -/
theorem run_prints {net : Net stack} {confirmed : Bool} {ms : List (Pinging stack)}
    {s : PingSeries stack} (run : Run (pingSeries icmp) (begin net confirmed target count).1 ms s) :
    ∀ line ∈ summaries ((begin net confirmed target count).2 ++ effects ms),
      s.point = .returned s.stats ∧ line = s.summary := by
  refine run.history (P := fun ms s =>
    ∀ line ∈ summaries ((begin net confirmed target count).2 ++ effects ms),
      s.point = .returned s.stats ∧ line = s.summary) ?_ ?_
  · intro line printed
    rw [effects_nil, List.append_nil] at printed
    exact advance_prints printed
  · intro ms u input v out _ before stepped line printed
    rw [effects_append, effects_singleton, ← List.append_assoc, summaries_append] at printed
    rcases List.mem_append.mp printed with printed | printed
    · have returned := (before line printed).1
      cases step_cases stepped with
      | _ at_point => exact absurd (returned.symm.trans at_point) nofun
    · exact step_prints stepped printed

theorem begin_tallied (icmp : IcmpWire) (net : Net stack) (confirmed : Bool)
    (target : Ipv4Address) (count : Nat) :
    Fixed target count (begin net confirmed target count).1 ∧
      (reading stack icmp target).Tallied count (begin net confirmed target count).2 []
        (begin net confirmed target count).1 := by
  unfold begin
  obtain ⟨more, next⟩ | ⟨done, next⟩ := advance_cases ({
    net := net
    neighborConfirmed := confirmed
    target := target
    count := count
    sequence := 0
    startedAt := 0
    stats := .default
    point := .clock } : PingSeries stack)
  · simp only [next]
    refine ⟨⟨rfl, rfl, more, nofun⟩, more, ?_, List.forall_mem_nil _, nofun⟩
    exact Account.start.next
  · simp only [next]
    refine ⟨⟨rfl, rfl, Nat.zero_le _, ?_⟩, Nat.zero_le _, ?_, List.forall_mem_nil _, nofun⟩
    · rintro stats ⟨⟩
      exact ⟨rfl, (Nat.eq_zero_of_not_pos done).symm⟩
    · exact Account.start

end

/-- The last line that these statistics call for. -/
def report (target : Ipv4Address) (stats : PingStats) : Line :=
  .ping (stats.rx ≠ 0) target stats.tx stats.rx (stats.tx - stats.rx) stats.txErrors stats.lossPct
    (if stats.rx ≠ 0 then
      some (stats.rttMinMs, stats.rttTotalMs / stats.rx, stats.rttMaxMs)
    else none)

/-- Neither the percentage saturates nor the average loses a bit. -/
theorem summary_eq {s : PingSeries stack} {statuses : List SampleStatus}
    (h : Consistent count statuses s.stats) : s.summary = report s.target s.stats := by
  have loss := h.dropped
  have average : s.stats.rx ≠ 0 →
      s.stats.rttTotalMs / s.stats.rx % 2 ^ 32 = s.stats.rttTotalMs / s.stats.rx :=
    fun heard => Nat.mod_eq_of_lt (Nat.lt_succ_of_le (h.average_le heard))
  simp only [summary, report, PingStats.lossPct, loss]
  by_cases heard : s.stats.rx ≠ 0
  · rw [if_pos heard, if_pos heard, average heard]
  · rw [if_neg heard, if_neg heard]

/-- Everything a run of the series keeps. -/
theorem run_accounts {net : Net stack} {confirmed : Bool} {ms : List (Pinging stack)}
    {s : PingSeries stack} (few : count < 2 ^ 16)
    (run : Run (pingSeries icmp) (begin net confirmed target count).1 ms s) :
    (reading stack icmp target).Accounts count ((begin net confirmed target count).2 ++ effects ms)
      ms s ∧
    (∀ stats, s.point = .returned stats → Consistent count
      ((reading stack icmp target).statuses
        ((begin net confirmed target count).2 ++ effects ms)) stats) ∧
    ∀ line ∈ summaries ((begin net confirmed target count).2 ++ effects ms),
      ∃ stats, s.point = .returned stats ∧ line = report target stats := by
  obtain ⟨fixed, tallied⟩ := Reading.run_tallied (Fixed target count) (fun _ => step_turn) few
    (begin_tallied icmp net confirmed target count) run
  have consistent : ∀ stats, s.point = .returned stats → Consistent count
      ((reading stack icmp target).statuses
        ((begin net confirmed target count).2 ++ effects ms)) stats := by
    intro stats returned
    obtain ⟨rfl, last⟩ := fixed.returned stats returned
    exact tallied.consistent few (congrArg Point.stage returned) last
  refine ⟨tallied.accounts, consistent, ?_⟩
  intro line printed
  obtain ⟨returned, rfl⟩ := run_prints run line printed
  exact ⟨s.stats, returned, fixed.aim ▸ summary_eq (consistent _ returned)⟩

end PingSeries

namespace FullInit.RunPingSeries

variable {mtu : Mtu} {fuel : Nat} {config : PingConfig} {count : UInt16}

def Point.stage : Point → Stage
  | .clock | .send | .stopped _ => .preparing
  | .receive | .matched | .sleep => .waiting
  | .diagnostics | .returned _ => .between

def status : Effect → Option SampleStatus
  | .write (.status status) => some status
  | _ => none

/-- A frame that holds the echo reply to this sequence number. -/
structure EchoReply (config : PingConfig) (sequence : Nat) (length : Nat)
    (frame : Vector UInt8 mtu.size) : Prop where
  long : 42 ≤ length
  etherType : part frame 12 14 = [0x08, 0x00]
  protocol : part frame 23 24 = [1]
  source : part frame 26 30 = config.target.toList
  destination : part frame 30 34 = config.address.toList
  echoReply : part frame 34 35 = [0]
  identifier : part frame 38 40 = Bits.toBeBytes identifier
  seqNo : part frame 40 42 = Bits.toBeBytes (.ofNat sequence)

theorem isEchoReply_spec {sequence length : Nat} {frame : Vector UInt8 mtu.size}
    (h : isEchoReply config (.ofNat sequence) length frame = true) :
    EchoReply config sequence length frame := by
  simp only [isEchoReply, Bool.and_eq_true, decide_eq_true_eq] at h
  obtain ⟨⟨⟨⟨⟨⟨⟨long, etherType⟩, protocol⟩, source⟩, destination⟩, echoReply⟩, ident⟩, seqNo⟩ := h
  exact ⟨long, etherType, protocol, source, destination, echoReply, ident, seqNo⟩

def Hears (config : PingConfig) (m : Pinging mtu) (sequence : Nat) : Prop :=
  m.before.sequence = sequence ∧ ∃ length frame, m.input = .takeReceived (some (length, frame)) ∧
    EchoReply config sequence length frame

def reading (mtu : Mtu) (config : PingConfig) : Reading RunPingSeries (Input mtu) Effect where
  sequence := RunPingSeries.sequence
  stage := fun s => s.point.stage
  heard := fun s => s.point matches .matched
  stats := fun s => s.stats.toPingStats
  status := status
  hears := Hears config

/-- What never changes, and where the series ends. -/
structure Fixed (config : PingConfig) (count : UInt16) (s : RunPingSeries) : Prop where
  aim : s.config = config
  total : s.sampleCount = count
  le : s.sequence ≤ count.toNat
  last : s.point.stage = .between → s.sequence = count.toNat
  returned : ∀ stats, s.point = .returned stats → stats = s.stats

theorem advance_cases (fuel : Nat) (s : RunPingSeries) :
    (s.sequence < s.sampleCount.toNat ∧ ∃ request point out,
      s.advance fuel =
        ({ s with sequence := s.sequence + 1, request := request, point := point }, out) ∧
      (point = .clock ∨ ∃ why, point = .stopped why) ∧
      (out = [] ∨ out = [.write (.pingSample s.config.target (s.sequence + 1))])) ∨
    ¬ s.sequence < s.sampleCount.toNat ∧
      s.advance fuel = ({ s with point := .diagnostics }, []) := by
  unfold advance
  by_cases more : s.sequence < s.sampleCount.toNat
  · rw [if_pos more]
    refine .inl ⟨more, ?_⟩
    split
    · exact ⟨_, _, _, rfl, .inl rfl, .inr rfl⟩
    · exact ⟨_, _, _, rfl, .inr ⟨_, rfl⟩, .inl rfl⟩
  · exact .inr ⟨more, if_neg more⟩

theorem advance_unprinted (u : RunPingSeries) :
    (reading mtu config).statuses (u.advance fuel).2 = [] := by
  obtain ⟨-, _, _, out, next, -, quiet⟩ | ⟨-, next⟩ := advance_cases fuel u
  · rw [next]
    rcases quiet with rfl | rfl <;> rfl
  · rw [next]
    rfl

section
variable {m : Pinging mtu} {u : RunPingSeries}

/-- A sample that ends with the head of the loop is a turn of the series. -/
theorem closed_turn (fixed : Fixed config count m.before) (pre : List Effect)
    {status : SampleStatus} (after : m.after = (u.advance fuel).1)
    (effects : m.effects = pre ++ (u.advance fuel).2)
    (one : (reading mtu config).statuses pre = [status])
    (same : u.sequence = m.before.sequence ∧ u.sampleCount = m.before.sampleCount ∧
      u.config = m.before.config)
    (closes : (reading mtu config).Closes m.before status u.stats.toPingStats) :
    (reading mtu config).Turn count.toNat m ∧ Fixed config count m.after := by
  obtain ⟨number, total, aim⟩ := same
  have le := fixed.le
  have written : (reading mtu config).statuses m.effects = [status] := by
    rw [effects, Reading.statuses_append, one, advance_unprinted]
    rfl
  obtain ⟨s, input, out, t⟩ := m
  obtain rfl : t = (u.advance fuel).1 := after
  obtain ⟨more, request, point, _, next, reached, -⟩ | ⟨done, next⟩ := advance_cases fuel u
  · rw [total, fixed.total] at more
    rw [next]
    rcases reached with rfl | ⟨why, rfl⟩
    · refine ⟨.next status written closes (congrArg (· + 1) number) more rfl rfl, ?_⟩
      exact ⟨aim.trans fixed.aim, total.trans fixed.total, more, nofun, nofun⟩
    · refine ⟨.next status written closes (congrArg (· + 1) number) more rfl rfl, ?_⟩
      exact ⟨aim.trans fixed.aim, total.trans fixed.total, more, nofun, nofun⟩
  · rw [total, fixed.total, number] at done
    rw [next]
    refine ⟨.last status written closes number rfl rfl, ?_⟩
    refine ⟨aim.trans fixed.aim, total.trans fixed.total, number ▸ le, fun _ => ?_, nofun⟩
    exact number.trans (Nat.le_antisymm le (Nat.not_lt.mp done))

/-- A move within a sample. -/
theorem passed_turn (fixed : Fixed config count m.before)
    (same : m.after.sequence = m.before.sequence ∧ m.after.sampleCount = m.before.sampleCount ∧
      m.after.config = m.before.config ∧
      m.after.stats.toPingStats = m.before.stats.toPingStats)
    (stage : m.after.point.stage = m.before.point.stage)
    (quiet : (reading mtu config).statuses m.effects = [])
    (heard : m.after.point = .matched → Hears config m m.before.sequence)
    (returned : ∀ stats, m.after.point = .returned stats → stats = m.after.stats) :
    (reading mtu config).Turn count.toNat m ∧ Fixed config count m.after := by
  obtain ⟨number, total, aim, stats⟩ := same
  refine ⟨.pass number stage stats quiet ?_, ?_⟩
  · intro now
    refine .inr (heard ?_)
    change (m.after.point matches .matched) = true at now
    split at now
    · assumption
    · cases now
  · refine ⟨aim.trans fixed.aim, total.trans fixed.total, number ▸ fixed.le, ?_, returned⟩
    intro done
    rw [number]
    exact fixed.last (stage ▸ done)

/-- The next turn of the wait, or the end of the sample. -/
theorem waited_turn (fixed : Fixed config count m.before) (pre : List Effect)
    (quiet : (reading mtu config).statuses pre = [])
    (after : m.after = (m.before.nextTurn fuel).1)
    (effects : m.effects = pre ++ (m.before.nextTurn fuel).2)
    (waiting : m.before.point.stage = .waiting) :
    (reading mtu config).Turn count.toNat m ∧ Fixed config count m.after := by
  by_cases more : m.before.turn + 1 < sampleTimeoutSteps
  · have next : m.before.nextTurn fuel =
        ({ m.before with turn := m.before.turn + 1, point := .receive }, []) := if_pos more
    rw [next] at after effects
    rw [List.append_nil] at effects
    refine passed_turn fixed ?_ ?_ (effects ▸ quiet) ?_ ?_
    · rw [after]
      exact ⟨rfl, rfl, rfl, rfl⟩
    · rw [after, waiting]
      rfl
    · rw [after]
      exact nofun
    · rw [after]
      exact nofun
  · have next : m.before.nextTurn fuel = ((m.before.advance fuel).1,
        .write (.status .timeout) :: (m.before.advance fuel).2) := if_neg more
    have after : m.after = (m.before.advance fuel).1 := by rw [after, next]
    have effects : m.effects = pre ++ [.write (.status .timeout)] ++ (m.before.advance fuel).2 := by
      rw [effects, next, List.append_assoc, List.singleton_append]
    have one : (reading mtu config).statuses (pre ++ [.write (.status .timeout)]) = [.timeout] := by
      rw [Reading.statuses_append, quiet]
      rfl
    exact closed_turn fixed _ after effects one ⟨rfl, rfl, rfl⟩ (.timeout waiting)

theorem step_turn (fixed : Fixed config count m.before)
    (h : runPingSeries fuel m.before m.input = some (m.after, m.effects)) :
    (reading mtu config).Turn count.toNat m ∧ Fixed config count m.after := by
  obtain ⟨s, input, out, t⟩ := m
  have cases_of : Step fuel s input t out := step_cases h
  cases cases_of with
  | clock at_point ms =>
    exact passed_turn fixed ⟨rfl, rfl, rfl, rfl⟩ (by rw [at_point]; rfl) rfl nofun nofun
  | send at_point =>
    have ready : (reading mtu config).stage s = .preparing := congrArg Point.stage at_point
    refine ⟨.send rfl ready rfl rfl rfl rfl, ?_⟩
    exact ⟨fixed.aim, fixed.total, fixed.le, nofun, nofun⟩
  | refuse at_point =>
    have ready : (reading mtu config).stage s = .preparing := congrArg Point.stage at_point
    exact closed_turn (u := s.refused) fixed
      [.transmit s.request.toList, .write (.status .txError)] rfl rfl rfl ⟨rfl, rfl, rfl⟩
      (.refuse ready)
  | idle at_point =>
    exact passed_turn fixed ⟨rfl, rfl, rfl, rfl⟩ (by rw [at_point]; rfl) rfl nofun nofun
  | arp at_point length frame reply built =>
    exact waited_turn fixed [.transmit reply.toList] rfl rfl rfl (congrArg Point.stage at_point)
  | reply at_point length frame answered =>
    refine passed_turn fixed ⟨rfl, rfl, rfl, rfl⟩ (by rw [at_point]; rfl) rfl (fun _ => ?_) nofun
    rw [fixed.aim] at answered
    exact ⟨rfl, length, frame, rfl, isEchoReply_spec answered⟩
  | discard at_point length frame =>
    exact passed_turn fixed ⟨rfl, rfl, rfl, rfl⟩ (by rw [at_point]; rfl) rfl nofun nofun
  | finish at_point ms =>
    have waiting : (reading mtu config).stage s = .waiting := congrArg Point.stage at_point
    have heard : (reading mtu config).heard s = true := by
      change (s.point matches .matched) = true
      rw [at_point]
    exact closed_turn (u := s.answered (s.rttMs ms)) fixed
      [.write (.status (.ok (s.rttMs ms)))] rfl rfl rfl ⟨rfl, rfl, rfl⟩
      (.reply waiting heard (Nat.min_le_right _ _))
  | resume at_point =>
    exact waited_turn fixed [] rfl rfl rfl (congrArg Point.stage at_point)
  | conclude at_point queue =>
    refine passed_turn fixed ⟨rfl, rfl, rfl, rfl⟩ (by rw [at_point]; rfl) rfl nofun ?_
    rintro stats ⟨⟩
    rfl

end

/-- The summary an effect prints. -/
def summaryOf : Effect → Option Line
  | .write (.ping ok target tx rx drops txErrors queue lossPct rttMinMs rttAvgMs rttMaxMs) =>
    some (.ping ok target tx rx drops txErrors queue lossPct rttMinMs rttAvgMs rttMaxMs)
  | _ => none

def summaries (written : List Effect) : List Line := written.filterMap summaryOf

theorem summaries_append (written out : List Effect) :
    summaries (written ++ out) = summaries written ++ summaries out :=
  List.filterMap_append

theorem summaries_status (status : SampleStatus) (out : List Effect) :
    summaries (.write (.status status) :: out) = summaries out := rfl

theorem summaries_begin (target via : Vector UInt8 4) (count : Nat) (out : List Effect) :
    summaries (.write (.pingSeriesBegin target via count) :: .resetRxQueueDiagnostics :: out) =
      summaries out := rfl

theorem advance_silent (u : RunPingSeries) : summaries (u.advance fuel).2 = [] := by
  obtain ⟨-, _, _, out, next, -, quiet⟩ | ⟨-, next⟩ := advance_cases fuel u
  · rw [next]
    rcases quiet with rfl | rfl <;> rfl
  · rw [next]
    rfl

theorem nextTurn_silent (u : RunPingSeries) : summaries (u.nextTurn fuel).2 = [] := by
  by_cases more : u.turn + 1 < sampleTimeoutSteps
  · have next : u.nextTurn fuel = ({ u with turn := u.turn + 1, point := .receive }, []) :=
      if_pos more
    rw [next]
    rfl
  · have next : u.nextTurn fuel = ((u.advance fuel).1,
        .write (.status .timeout) :: (u.advance fuel).2) := if_neg more
    rw [next, summaries_status, advance_silent]

theorem begin_silent (fuel : Nat) (config : PingConfig) (count : UInt16) :
    summaries (begin fuel config count).2 = [] := by
  unfold begin
  split
  · rfl
  · dsimp only
    rw [summaries_begin, advance_silent]

/-- The last line that these statistics call for. -/
def report (target : Vector UInt8 4) (stats : PingStats) : Line :=
  .ping (stats.rx ≠ 0) target stats.tx stats.rx (stats.tx - stats.rx) stats.txErrors
    ⟨stats.rxQueueDropped, stats.rxQueueHighWatermark, stats.rxQueuePending, stats.rxEchoReplies,
      stats.rxEchoSequenceMask⟩
    stats.lossPct stats.rttMinMs (if stats.rx = 0 then 0 else stats.rttTotalMs / stats.rx)
    stats.rttMaxMs

/-- Neither the percentage saturates nor the average is clipped. -/
theorem conclude_prints {s : RunPingSeries} {statuses : List SampleStatus} {samples : Nat}
    (h : Consistent samples statuses s.stats.toPingStats) (queue : RxQueueDiagnostics) :
    summaries (s.conclude queue).2 = [report s.config.target (s.conclude queue).1.stats] := by
  have loss : min ((s.stats.tx - s.stats.rx) * 100) u32Max = 100 * (s.stats.tx - s.stats.rx) :=
    h.dropped
  have average : min (if s.stats.rx = 0 then 0 else s.stats.rttTotalMs / s.stats.rx) u32Max =
      if s.stats.rx = 0 then 0 else s.stats.rttTotalMs / s.stats.rx := by
    split
    · exact Nat.zero_min _
    · rename_i heard
      exact Nat.min_eq_left (h.average_le heard)
  simp only [conclude, loss, average]
  rfl

theorem begin_tallied (mtu : Mtu) (fuel : Nat) (config : PingConfig) (count : UInt16) :
    Fixed config count (begin fuel config count).1 ∧
      (reading mtu config).Tallied count.toNat (begin fuel config count).2 []
        (begin fuel config count).1 := by
  obtain ⟨request, built, -⟩ := requestBuffer_eq config
  unfold begin
  simp only [built]
  obtain ⟨more, patched, point, out, next, reached, quiet⟩ | ⟨done, next⟩ := advance_cases fuel {
    config := config
    sampleCount := count
    request := request
    sequence := 0
    startedAt := 0
    turn := 0
    stats := .default
    point := .stopped .panicked }
  · simp only [next]
    have silent : (reading mtu config).statuses (.write (.pingSeriesBegin config.target
        config.gateway count.toNat) :: .resetRxQueueDiagnostics :: out) = [] := by
      rcases quiet with rfl | rfl <;> rfl
    rcases reached with rfl | ⟨why, rfl⟩
    · refine ⟨⟨rfl, rfl, more, nofun, nofun⟩, more, ?_, List.forall_mem_nil _, nofun⟩
      rw [silent]
      exact Account.start.next
    · refine ⟨⟨rfl, rfl, more, nofun, nofun⟩, more, ?_, List.forall_mem_nil _, nofun⟩
      rw [silent]
      exact Account.start.next
  · simp only [next]
    refine ⟨⟨rfl, rfl, Nat.zero_le _, fun _ => ?_, nofun⟩, Nat.zero_le _, ?_,
      List.forall_mem_nil _, nofun⟩
    · exact (Nat.eq_zero_of_not_pos done).symm
    · exact Account.start

theorem run_tallied {ms : List (Pinging mtu)} {s : RunPingSeries}
    (run : Run (runPingSeries fuel) (begin fuel config count).1 ms s) :
    Fixed config count s ∧ (reading mtu config).Tallied count.toNat
      ((begin fuel config count).2 ++ effects ms) ms s :=
  Reading.run_tallied (Fixed config count) (fun _ => step_turn) count.toNat_lt
    (begin_tallied mtu fuel config count) run

/-- A summary is the last line, and the one its statistics call for. -/
theorem run_prints {ms : List (Pinging mtu)} {s : RunPingSeries}
    (run : Run (runPingSeries fuel) (begin fuel config count).1 ms s) :
    ∀ line ∈ summaries ((begin fuel config count).2 ++ effects ms),
      s.point = .returned s.stats ∧ line = report config.target s.stats := by
  refine run.history (P := fun ms s =>
    ∀ line ∈ summaries ((begin fuel config count).2 ++ effects ms),
      s.point = .returned s.stats ∧ line = report config.target s.stats) ?_ ?_
  · intro line printed
    rw [effects_nil, List.append_nil, begin_silent] at printed
    exact absurd printed List.not_mem_nil
  · intro ms u input v out past before stepped line printed
    rw [effects_append, effects_singleton, ← List.append_assoc, summaries_append] at printed
    rcases List.mem_append.mp printed with printed | printed
    · have returned := (before line printed).1
      cases step_cases stepped with
      | _ at_point => exact absurd (returned.symm.trans at_point) nofun
    · cases step_cases stepped with
      | refuse at_point => exact absurd printed (advance_silent u.refused ▸ List.not_mem_nil)
      | arp at_point length frame reply built =>
        exact absurd printed (nextTurn_silent u ▸ List.not_mem_nil)
      | finish at_point ms =>
        rw [summaries_status, advance_silent] at printed
        exact absurd printed List.not_mem_nil
      | resume at_point => exact absurd printed (nextTurn_silent u ▸ List.not_mem_nil)
      | conclude at_point queue =>
        obtain ⟨fixed, tallied⟩ := run_tallied past
        have done : u.point.stage = .between := congrArg Point.stage at_point
        have consistent := tallied.consistent count.toNat_lt done (fixed.last done)
        rw [conclude_prints consistent queue] at printed
        refine ⟨rfl, ?_⟩
        rw [List.mem_singleton.mp printed, fixed.aim]
      | _ => exact absurd printed List.not_mem_nil

/-- Everything a run of the series keeps. -/
theorem run_accounts {ms : List (Pinging mtu)} {s : RunPingSeries}
    (run : Run (runPingSeries fuel) (begin fuel config count).1 ms s) :
    (reading mtu config).Accounts count.toNat ((begin fuel config count).2 ++ effects ms) ms s ∧
    (∀ stats, s.point = .returned stats → Consistent count.toNat
      ((reading mtu config).statuses ((begin fuel config count).2 ++ effects ms))
      stats.toPingStats) ∧
    ∀ line ∈ summaries ((begin fuel config count).2 ++ effects ms),
      ∃ stats, s.point = .returned stats ∧ line = report config.target stats := by
  obtain ⟨fixed, tallied⟩ := run_tallied run
  refine ⟨tallied.accounts, ?_, ?_⟩
  · intro stats returned
    obtain rfl := fixed.returned stats returned
    have done : s.point.stage = .between := congrArg Point.stage returned
    exact tallied.consistent count.toNat_lt done (fixed.last done)
  · intro line printed
    exact ⟨s.stats, run_prints run line printed⟩

end FullInit.RunPingSeries

def plainNet : Net plainStack := ⟨⟨[], none⟩, none⟩

/-- A reply after 7 ms, then a refused request. -/
def answeredScript : List (Input plainStack) :=
  [.clock 10, .send true, .clock 11, .poll () none,
    .recv (some (rfcIcmp.emit (.echoReply icmpIdentifier 1 []), publicTarget)), .clock 17,
    .clock 20, .send false]

def smallMtu : FullInit.Mtu := ⟨42, by decide⟩

/-- The reply to the first request, headers only. -/
def replyFrame : Vector UInt8 42 :=
  #v[2, 0, 0, 0, 0, 1, 2, 0, 0, 0, 0, 2, 8, 0, 0x45, 0, 0, 28, 0, 0, 0, 0, 64, 1, 0, 0, 1, 1, 1, 1,
    192, 168, 4, 2, 0, 0, 0, 0, 0x57, 0x53, 0, 1]

def rawScript : List (FullInit.Input smallMtu) :=
  [.clock 10, .transmit true, .takeReceived (some (42, replyFrame)), .clock 14,
    .diagnostics ⟨0, 1, 0, 1, 2⟩]

end Ws63Examples.InitSmoke
