import Ws63Examples.Lib.Pacing
import Ws63Examples.NetPing.Frames

/-! The requests of the ping program and its verdict. -/

namespace Ws63Examples.NetPing

open Execution History Pacing
open InitSmoke (IcmpWire)

def Input.starting : Input → Option UInt64
  | .start lo hi => some (nowMs lo hi)
  | _ => none

def Input.turning : Input → Option UInt64
  | .clock lo hi => some (nowMs lo hi)
  | _ => none

/-- The clock ahead of the loop. -/
def startOf (ms : List Main.Moved) : UInt64 := ((inputs ms).filterMap Input.starting).getLastD 0

/-- The clock at the head of each turn. -/
def turns (ms : List Main.Moved) : List UInt64 := (inputs ms).filterMap Input.turning

def Effect.echo : Effect → Option UInt16
  | .sendEcho _ seqNo _ _ => some seqNo
  | _ => none

def Effect.datagram : Effect → Option Bool
  | .sendUdp _ sent => some sent
  | _ => none

/-- Whether each datagram was taken. -/
def datagrams (written : List Effect) : List Bool := written.filterMap Effect.datagram

/-- The echo request of a move, taken by the socket or not. -/
def attempted (m : Main.Moved) : List Attempt :=
  (m.effects.filterMap Effect.echo).map fun seqNo => ⟨m.before.now.toNat, seqNo.toNat, true⟩

def attempts (ms : List Main.Moved) : List Attempt := ms.flatMap attempted

/-- Twenty requests, 100 ms apart. -/
def plan : Plan := ⟨100, 20, 0, 20⟩

section
variable {fuel : Nat} {icmp : IcmpWire} {ms : List Main.Moved} {s t : Main} {input : Input}
  {out : List Effect}

theorem nowMs_fits (lo hi : UInt32) : (nowMs lo hi).toNat + 100 < 2 ^ 64 := by
  have bound := ((hi.toUInt64 <<< 32) ||| lo.toUInt64).toNat_lt
  have scale : (24000 : UInt64).toNat = 24000 := rfl
  rw [nowMs, UInt64.toNat_div, scale]
  omega

/-- Every request counts, so the successes of the plan are all of them. -/
theorem successes_counted {past : List Attempt} (counted : ∀ a ∈ past, a.ok = true) :
    successes past = past :=
  List.filter_eq_self.mpr counted

theorem attempts_snoc (ms : List Main.Moved) (m : Main.Moved) :
    attempts (ms ++ [m]) = attempts ms ++ attempted m := by
  simp [attempts]

/-- What the counters of the requests stand for. -/
structure Paces (past : List Attempt) (s : Main) : Prop where
  paced : Paced plan past
  counted : ∀ a ∈ past, a.ok = true
  seq : s.seq.toNat = past.length
  next : s.nextSend.toNat = (past.getLast?.map fun a => a.time + 100).getD 0
  clock : s.now.toNat + 100 < 2 ^ 64

theorem Paces.allows_iff {past : List Attempt} (h : Paces past s) :
    plan.Allows past s.now.toNat ↔ s.seq < 20 ∧ s.nextSend ≤ s.now := by
  have all := successes_counted h.counted
  have limit : s.seq < 20 ↔ past.length < 20 := by
    rw [UInt16.lt_iff_toNat_lt, h.seq]
    rfl
  have due : s.nextSend ≤ s.now ↔ ∀ last ∈ past.getLast?, last.time + 100 ≤ s.now.toNat := by
    rw [UInt64.le_iff_toNat_le, h.next]
    cases past.getLast? with
    | none => simp
    | some last => simp
  rw [limit, due]
  constructor
  · rintro ⟨few, -, spaced⟩
    rw [all] at few spaced
    exact ⟨few, spaced⟩
  · rintro ⟨few, spaced⟩
    refine ⟨?_, .inr (Nat.zero_le _), ?_⟩
    · rwa [all]
    · rwa [all]

/-- One more request. -/
theorem Paces.request {past : List Attempt} (h : Paces past s) (left : s.seq < 20)
    (due : s.nextSend ≤ s.now) (point : Point) :
    Paces (past ++ [⟨s.now.toNat, s.seq.toNat, true⟩])
      { s with seq := s.seq + 1, nextSend := s.now + 100, point := point } := by
  have allowed := h.allows_iff.mpr ⟨left, due⟩
  have number : s.seq.toNat = (successes past).length := by
    rw [successes_counted h.counted, h.seq]
  have few : s.seq.toNat < 20 := UInt16.lt_iff_toNat_lt.mp left
  constructor
  · rw [number]
    exact h.paced.attempt s.now.toNat true allowed
  · intro a member
    rcases List.mem_append.mp member with old | new
    · exact h.counted a old
    · obtain rfl := List.mem_singleton.mp new
      rfl
  · have one : (1 : UInt16).toNat = 1 := rfl
    change (s.seq + 1).toNat = _
    rw [UInt16.toNat_add, one, Nat.mod_eq_of_lt (by omega), List.length_append, h.seq]
    rfl
  · have hundred : (100 : UInt64).toNat = 100 := rfl
    have fits := h.clock
    change (s.now + 100).toNat = _
    rw [UInt64.toNat_add, hundred, Nat.mod_eq_of_lt fits, List.getLast?_concat]
    rfl
  · exact h.clock

theorem Paces.at_point {past : List Attempt} (h : Paces past s) (point : Point) :
    Paces past { s with point := point } :=
  ⟨h.paced, h.counted, h.seq, h.next, h.clock⟩

theorem quiet_snoc {m : Main.Moved} (quiet : m.effects.filterMap Effect.echo = []) :
    attempts (ms ++ [m]) = attempts ms := by
  rw [attempts_snoc, attempted, quiet]
  exact List.append_nil _

theorem echo_access (made : List Access) : (made.map Effect.access).filterMap Effect.echo = [] := by
  induction made with
  | nil => rfl
  | cons access rest ih => exact ih

open Main in
theorem step_paces (h : Step fuel icmp s input t out) (paces : Paces (attempts ms) s) :
    Paces (attempts (ms ++ [⟨s, input, out, t⟩])) t := by
  -- A step without a request.
  have quiet (silent : out.filterMap Effect.echo = []) (kept : Paces (attempts ms) t) :
      Paces (attempts (ms ++ [⟨s, input, out, t⟩])) t := by
    rwa [quiet_snoc silent]
  cases h with
  | registers => exact quiet rfl (paces.at_point _)
  | interrupt enabled mcause read made drained pushed tail clears =>
    refine quiet ?_ ⟨paces.paced, paces.counted, paces.seq, paces.next, paces.clock⟩
    rw [List.filterMap_append, echo_access]
    rcases clears with rfl | rfl
    · rfl
    · rfl
  | interface => exact quiet rfl (paces.at_point _)
  | route => exact quiet rfl (paces.at_point _)
  | start => exact quiet rfl ⟨paces.paced, paces.counted, paces.seq, paces.next, paces.clock⟩
  | clock at_point lo hi =>
    exact quiet rfl ⟨paces.paced, paces.counted, paces.seq, paces.next, nowMs_fits lo hi⟩
  | transmit => exact quiet rfl (paces.at_point _)
  | access => exact quiet rfl (paces.at_point _)
  | polled => exact quiet rfl (paces.at_point _)
  | unbound => exact quiet rfl (paces.at_point _)
  | request at_point socket ready left due =>
    have one : attempted ⟨s, .icmp socket, .sendEcho ident s.seq pingPayload socket.sent ::
        if socket.sent then [.write (.ping s.seq)] else [],
        { s with seq := s.seq + 1, nextSend := s.now + 100, point := .receive }⟩ =
        [⟨s.now.toNat, s.seq.toNat, true⟩] := by
      cases taken : socket.sent with
      | true => rfl
      | false => rfl
    rw [attempts_snoc, one]
    exact paces.request left due .receive
  | hold => exact quiet rfl (paces.at_point _)
  | reply =>
    refine quiet rfl ?_
    rw [afterReceive_eq]
    exact ⟨paces.paced, paces.counted, paces.seq, paces.next, paces.clock⟩
  | silence =>
    refine quiet rfl ?_
    rw [afterReceive_eq]
    exact paces.at_point _
  | unboundUdp => exact quiet rfl (paces.at_point _)
  | datagram =>
    refine quiet rfl ?_
    rw [judge_eq]
    exact ⟨paces.paced, paces.counted, paces.seq, paces.next, paces.clock⟩
  | undelivered at_point socket out refused =>
    refine quiet ?_ ?_
    · rcases refused with rfl | rfl
      · rfl
      · rfl
    · rw [judge_eq]
      exact paces.at_point _
  | irqHits => exact quiet rfl (paces.at_point _)

theorem run_paces (enough : 512 < fuel) (run : Run (main fuel icmp) .boot ms s) :
    Paces (attempts ms) s := by
  induction run with
  | start => exact ⟨.start, fun _ none => absurd none List.not_mem_nil, rfl, rfl, by decide⟩
  | next run hs ih => exact step_paces (Main.step_cases enough hs) ih

/-- The datagram is tried until it is out once. -/
def Delivers (sent : List Bool) (udpSent : Bool) : Prop :=
  ∃ failures, sent = List.replicate failures false ++ if udpSent then [true] else []

theorem datagrams_access (made : List Access) : datagrams (made.map Effect.access) = [] := by
  induction made with
  | nil => rfl
  | cons access rest ih => exact ih

theorem datagrams_append (first rest : List Effect) :
    datagrams (first ++ rest) = datagrams first ++ datagrams rest := List.filterMap_append

/-- At the datagram's turn it is not out yet. -/
def Unsent (s : Main) : Prop := s.point = .udp → s.udpSent = false

open Main in
theorem judge_point (s : Main) : s.judge.point ≠ .udp := by
  unfold judge
  split
  · nofun
  · split
    · nofun
    · nofun

open Main in
theorem afterReceive_unsent (s : Main) : Unsent s.afterReceive := by
  unfold afterReceive
  split
  · exact fun at_point => absurd at_point (judge_point s)
  · rename_i unsent
    exact fun _ => by simpa using unsent

open Main in
theorem step_delivers (h : Step fuel icmp s input t out) {sent : List Bool}
    (delivers : Delivers sent s.udpSent) (unsent : Unsent s) :
    Delivers (sent ++ datagrams out) t.udpSent ∧ Unsent t := by
  have same : Delivers (sent ++ []) s.udpSent := by rwa [List.append_nil]
  cases h with
  | interrupt enabled mcause read made drained pushed tail clears =>
    have silent : datagrams tail = [] := by
      rcases clears with rfl | rfl
      · rfl
      · rfl
    rw [datagrams_append, datagrams_access, silent]
    exact ⟨same, unsent⟩
  | route at_point added =>
    refine ⟨same, ?_⟩
    cases added with
    | true => nofun
    | false => nofun
  | access access rest =>
    refine ⟨same, ?_⟩
    by_cases last : rest = []
    · simp [Unsent, last]
    · simp [Unsent, last]
  | request at_point socket =>
    constructor
    · split
      · exact same
      · exact same
    · nofun
  | reply =>
    refine ⟨?_, afterReceive_unsent _⟩
    rw [afterReceive_eq]
    exact same
  | silence =>
    refine ⟨?_, afterReceive_unsent _⟩
    rw [afterReceive_eq]
    exact same
  | datagram at_point =>
    refine ⟨?_, fun at_point => absurd at_point (judge_point _)⟩
    obtain ⟨failures, rfl⟩ := delivers
    rw [unsent at_point, judge_eq]
    exact ⟨failures, by simp [datagrams, Effect.datagram]⟩
  | undelivered at_point socket out refused =>
    refine ⟨?_, fun at_point => absurd at_point (judge_point _)⟩
    rw [judge_eq]
    rcases refused with rfl | rfl
    · exact same
    · obtain ⟨failures, rfl⟩ := delivers
      refine ⟨failures + 1, ?_⟩
      simp [unsent at_point, datagrams, Effect.datagram, List.replicate_succ']
  | _ => exact ⟨same, nofun⟩

theorem run_delivers (enough : 512 < fuel) (run : Run (main fuel icmp) .boot ms s) :
    Delivers (datagrams (effects ms)) s.udpSent ∧ Unsent s := by
  induction run with
  | start => exact ⟨⟨0, rfl⟩, nofun⟩
  | next run hs ih =>
    rw [effects_append, effects_singleton, datagrams_append]
    exact step_delivers (Main.step_cases enough hs) ih.1 ih.2

open Main in
theorem step_clock (h : Step fuel icmp s input t out) :
    t.now = input.turning.getD s.now ∧ t.start = input.starting.getD s.start := by
  cases h with
  | reply =>
    rw [afterReceive_eq]
    exact ⟨rfl, rfl⟩
  | silence =>
    rw [afterReceive_eq]
    exact ⟨rfl, rfl⟩
  | datagram =>
    rw [judge_eq]
    exact ⟨rfl, rfl⟩
  | undelivered =>
    rw [judge_eq]
    exact ⟨rfl, rfl⟩
  | _ => exact ⟨rfl, rfl⟩

theorem run_clock (enough : 512 < fuel) (run : Run (main fuel icmp) .boot ms s) :
    s.now = (turns ms).getLastD 0 ∧ s.start = startOf ms := by
  induction run with
  | start => exact ⟨rfl, rfl⟩
  | @next ms u i t out run hs ih =>
    obtain ⟨now, start⟩ := step_clock (Main.step_cases enough hs)
    rw [turns, startOf, inputs_append, inputs_singleton, getLastD_filterMap_snoc,
      getLastD_filterMap_snoc, now, start, ih.1, ih.2]
    exact ⟨rfl, rfl⟩

theorem Delivers.out_iff {sent : List Bool} {udpSent : Bool} (delivers : Delivers sent udpSent) :
    true ∈ sent ↔ udpSent = true := by
  obtain ⟨failures, rfl⟩ := delivers
  cases udpSent with
  | true => simp
  | false => simp [List.mem_replicate]

theorem Delivers.once {sent : List Bool} {udpSent : Bool} (delivers : Delivers sent udpSent) :
    true ∉ sent.dropLast := by
  obtain ⟨failures, rfl⟩ := delivers
  cases udpSent with
  | true => simp [List.mem_replicate]
  | false =>
    intro member
    simpa [List.mem_replicate] using List.mem_of_mem_dropLast member

/-- The tries of a turn, by the answers of the socket. -/
def SocketAnswers.tries (socket : SocketAnswers) : List Bool :=
  if socket.isOpen = true ∨ socket.bound = true then
    if socket.canSend then [socket.sent] else []
  else []

theorem udp_tries {socket : SocketAnswers}
    (h : main fuel icmp s (.udp socket) = some (t, out)) : datagrams out = socket.tries := by
  have at_point : s.point = .udp := by
    cases at_point : s.point with
    | udp => rfl
    | transmitting rest => cases rest <;> simp [main, at_point] at h
    | _ => simp [main, at_point] at h
  obtain ⟨open_, bound, canSend, sent⟩ := socket
  simp only [main, at_point, Option.some.injEq, Main.sendUdp] at h
  rw [SocketAnswers.tries]
  cases open_ <;> cases bound <;> cases canSend <;> cases sent <;> cases h <;> rfl

open Main in
/-- A turn comes to the datagram while it is not out. -/
theorem receive_point {payload : Option (List UInt8)}
    (h : Step fuel icmp s (.recv payload) t out) : t.point = .udp ↔ s.udpSent = false := by
  have next (u : Main) : u.afterReceive.point = .udp ↔ u.udpSent = false := by
    unfold afterReceive
    split
    · rename_i delivered
      simp [delivered, judge_point]
    · rename_i unsent
      simp [unsent]
  cases h with
  | reply => exact next _
  | silence => exact next _

open Main in
/-- Nothing else happens at the datagram's turn but a trap. -/
theorem udp_waits (h : Step fuel icmp s input t out) (at_point : s.point = .udp) :
    (∃ socket, input = .udp socket) ∨ t.point = .udp := by
  cases h with
  | interrupt => exact .inr at_point
  | unboundUdp _ socket | datagram _ socket | undelivered _ socket => exact .inl ⟨socket, rfl⟩
  | access _ _ other => cases other.symm.trans at_point
  | registers other | interface other | route other | start other | clock other | transmit other
  | polled other | unbound other | request other | hold other | reply other | silence other
  | irqHits _ other => cases other.symm.trans at_point

open Main in
theorem datagrams_alone (h : Step fuel icmp s input t out) (tried : datagrams out ≠ []) :
    ∃ socket, input = .udp socket := by
  cases h with
  | unboundUdp _ socket | datagram _ socket | undelivered _ socket => exact ⟨socket, rfl⟩
  | interrupt enabled mcause read made drained pushed tail clears =>
    rw [datagrams_append, datagrams_access] at tried
    rcases clears with rfl | rfl <;> exact absurd rfl tried
  | request at_point socket => split at tried <;> exact absurd rfl tried
  | _ => exact absurd rfl tried

/-- The datagram is tried turn by turn until it is out once. -/
structure Tries (ms : List Main.Moved) : Prop where
  once : true ∉ (datagrams (effects ms)).dropLast
  /-- Every turn comes to it while it is not out, and none does after that. -/
  due : ∀ pre m post payload, ms = pre ++ m :: post → m.input = .recv payload →
    (m.after.point = .udp ↔ true ∉ datagrams (effects pre))
  waits : ∀ m ∈ ms, m.before.point = .udp →
    (∃ socket, m.input = .udp socket) ∨ m.after.point = .udp
  tried : ∀ m ∈ ms, ∀ socket, m.input = .udp socket → datagrams m.effects = socket.tries
  alone : ∀ m ∈ ms, datagrams m.effects ≠ [] → ∃ socket, m.input = .udp socket

theorem run_tries (enough : 512 < fuel) (run : Run (main fuel icmp) .boot ms s) : Tries ms where
  once := (run_delivers enough run).1.once
  due := by
    rintro pre m post payload rfl asked
    obtain ⟨before, stepped, -⟩ := run.at_move
    rw [asked] at stepped
    rw [receive_point (Main.step_cases enough stepped), (run_delivers enough before).1.out_iff,
      Bool.not_eq_true]
  waits := fun m member =>
    udp_waits (Main.step_cases enough (run.of_mem member))
  tried := by
    intro m member socket asked
    have stepped := run.of_mem member
    rw [asked] at stepped
    exact udp_tries stepped
  alone := fun m member =>
    datagrams_alone (Main.step_cases enough (run.of_mem member))

/-- A request leaves at its turn exactly if the plan allows it. -/
theorem attempted_iff (enough : 512 < fuel) {m : Main.Moved} {socket : SocketAnswers}
    (stepped : main fuel icmp m.before m.input = some (m.after, m.effects))
    (asked : m.input = .icmp socket) (open_or_bound : socket.isOpen = true ∨ socket.bound = true)
    {past : List Attempt} (paces : Paces past m.before) :
    attempted m ≠ [] ↔ socket.canSend = true ∧ plan.Allows past m.before.now.toNat := by
  have step := Main.step_cases enough stepped
  obtain ⟨s, input, out, t⟩ := m
  dsimp only at asked step paces ⊢
  subst asked
  rw [paces.allows_iff]
  cases step with
  | unbound at_point socket closed => simp [closed] at open_or_bound
  | request at_point socket ready left due =>
    constructor
    · exact fun _ => ⟨ready, left, due⟩
    · exact fun _ => by simp [attempted, Effect.echo]
  | hold at_point socket held =>
    constructor
    · exact fun sent => absurd rfl sent
    · exact fun allowed => absurd allowed held

/-- Open, and free to send or not. -/
def socketOpen (canSend sent : Bool) : SocketAnswers := ⟨true, true, canSend, sent⟩

/-- Three turns at 1000, 1050 and 1100 ms: a request that is not taken, a turn too early
for the next, and the next. -/
def requestScript : List Input :=
  [.registers 0x12005452 0x5634, .interface 0 0, .route true, .start 24000000 0,
    .clock 24000000 0, .polled, .icmp (socketOpen true false), .recv none,
    .udp (socketOpen true false), .clock 25200000 0, .polled, .icmp (socketOpen true true),
    .recv none, .udp (socketOpen true true), .clock 26400000 0, .polled,
    .icmp (socketOpen true true)]

/-- Past the time for a reply. -/
def Late (start now : UInt64) : Prop := 5000 < saturatingSub now start

def Effect.heard : Effect → Option UInt16
  | .write (.reply seqNo) => some seqNo
  | _ => none

/-- The replies reported so far. -/
def replies (written : List Effect) : List UInt16 := written.filterMap Effect.heard

def Effect.shown : Effect → Option (UInt32 × Verdict)
  | .write (.verdict irqHits verdict) => some (irqHits, verdict)
  | _ => none

/-- The verdicts, each with the hits shown beside it. -/
def verdicts (written : List Effect) : List (UInt32 × Verdict) := written.filterMap Effect.shown

/-- No turn but the last was late. -/
def Timely (start : UInt64) (turns : List UInt64) : Prop := ∀ now ∈ turns.dropLast, ¬ Late start now

/-- What has happened by each point of the program, after `heard` replies. -/
def Standing (start : UInt64) (turns : List UInt64) (heard : Nat) : Point → Prop
  | .registers | .interface | .route | .start => turns = [] ∧ heard = 0
  | .clock => heard = 0 ∧ ∀ now ∈ turns, ¬ Late start now
  | .poll | .transmitting _ | .ping | .receive => heard = 0 ∧ Timely start turns
  | .udp => heard ≤ 1 ∧ Timely start turns
  | .panicked => heard ≤ 1
  | .irqHits .pass | .finished .pass => heard = 1 ∧ Timely start turns
  | .irqHits .fail | .finished .fail =>
    heard = 0 ∧ Timely start turns ∧ Late start (turns.getLastD 0)

theorem timely_last {start : UInt64} {turns : List UInt64} (timely : Timely start turns)
    (last : ¬ Late start (turns.getLastD 0)) : ∀ now ∈ turns, ¬ Late start now := by
  rcases List.eq_nil_or_concat turns with rfl | ⟨init, now, rfl⟩
  · exact fun _ none => absurd none List.not_mem_nil
  · intro time member
    rw [List.concat_eq_append] at member timely last
    rcases List.mem_append.mp member with early | final
    · exact timely time (by simpa using early)
    · obtain rfl := List.mem_singleton.mp final
      simpa [List.getLastD_eq_getLast?] using last

open Main in
theorem judge_standing {turns : List UInt64} (few : s.received.toNat ≤ 1)
    (timely : Timely s.start turns) (clock : s.now = turns.getLastD 0) :
    Standing s.start turns s.received.toNat s.judge.point := by
  have one : 1 ≤ s.received ↔ 1 ≤ s.received.toNat := by
    rw [UInt32.le_iff_toNat_le]
    rfl
  unfold judge
  split
  · rename_i heard
    have heard := one.mp heard
    exact ⟨by omega, timely⟩
  · rename_i unheard
    have none : s.received.toNat = 0 := by
      rw [one] at unheard
      omega
    split
    · rename_i late
      rw [clock] at late
      exact ⟨none, timely, late⟩
    · rename_i early
      rw [clock] at early
      exact ⟨none, timely_last timely early⟩

open Main in
theorem afterReceive_standing {turns : List UInt64} (few : s.received.toNat ≤ 1)
    (timely : Timely s.start turns) (clock : s.now = turns.getLastD 0) :
    Standing s.start turns s.received.toNat s.afterReceive.point := by
  unfold afterReceive
  split
  · exact judge_standing few timely clock
  · exact ⟨few, timely⟩

theorem replies_access (made : List Access) : replies (made.map Effect.access) = [] := by
  induction made with
  | nil => rfl
  | cons access rest ih => exact ih

theorem replies_append (first rest : List Effect) :
    replies (first ++ rest) = replies first ++ replies rest := List.filterMap_append

open Main in
theorem step_standing (h : Step fuel icmp s input t out) {turns : List UInt64}
    (standing : Standing s.start turns s.received.toNat s.point)
    (clock : s.now = turns.getLastD 0) :
    Standing t.start (turns ++ input.turning.toList) t.received.toNat t.point ∧
      t.received.toNat = s.received.toNat + (replies out).length := by
  have same : turns ++ [] = turns := List.append_nil turns
  cases h with
  | registers at_point | interface at_point | transmit at_point | polled at_point
  | hold at_point =>
    rw [at_point] at standing
    exact ⟨same.symm ▸ standing, rfl⟩
  | interrupt enabled mcause read made drained pushed tail clears =>
    have silent : replies tail = [] := by
      rcases clears with rfl | rfl
      · rfl
      · rfl
    rw [replies_append, replies_access, silent]
    exact ⟨same.symm ▸ standing, rfl⟩
  | route at_point added =>
    rw [at_point] at standing
    obtain ⟨none, unheard⟩ := standing
    refine ⟨?_, rfl⟩
    cases added with
    | true => exact ⟨same.trans none, unheard⟩
    | false => exact Nat.le_trans (Nat.le_of_eq unheard) (Nat.zero_le 1)
  | start at_point lo hi =>
    rw [at_point] at standing
    obtain ⟨rfl, unheard⟩ := standing
    exact ⟨⟨unheard, fun _ none => absurd none List.not_mem_nil⟩, rfl⟩
  | clock at_point lo hi =>
    rw [at_point] at standing
    obtain ⟨unheard, early⟩ := standing
    refine ⟨⟨unheard, ?_⟩, rfl⟩
    intro now member
    have earlier : now ∈ turns := by simpa [Input.turning] using member
    exact early now earlier
  | access access rest at_point =>
    rw [at_point] at standing
    refine ⟨?_, rfl⟩
    dsimp only [Input.turning, Option.toList]
    rw [same]
    by_cases last : rest = []
    · rw [if_pos last]
      exact standing
    · rw [if_neg last]
      exact standing
  | unbound at_point =>
    rw [at_point] at standing
    exact ⟨Nat.le_trans (Nat.le_of_eq standing.1) (Nat.zero_le 1), rfl⟩
  | request at_point socket =>
    rw [at_point] at standing
    refine ⟨same.symm ▸ standing, ?_⟩
    split
    · rfl
    · rfl
  | reply at_point payload seqNo =>
    rw [at_point] at standing
    obtain ⟨unheard, timely⟩ := standing
    have first : (s.received + 1).toNat = 1 := by
      rw [UInt32.toNat_add, unheard]
      rfl
    have next : Standing s.start turns (s.received + 1).toNat
        { s with received := s.received + 1 }.afterReceive.point :=
      afterReceive_standing (Nat.le_of_eq first) timely clock
    dsimp only [Input.turning, Option.toList]
    rw [same, afterReceive_eq]
    exact ⟨next, by rw [unheard]; exact first⟩
  | silence at_point =>
    rw [at_point] at standing
    obtain ⟨unheard, timely⟩ := standing
    have few : s.received.toNat ≤ 1 := by omega
    have next := afterReceive_standing few timely clock
    dsimp only [Input.turning, Option.toList]
    rw [same, afterReceive_eq]
    exact ⟨next, rfl⟩
  | unboundUdp at_point =>
    rw [at_point] at standing
    exact ⟨standing.1, rfl⟩
  | datagram at_point =>
    rw [at_point] at standing
    have next : Standing s.start turns s.received.toNat { s with udpSent := true }.judge.point :=
      judge_standing standing.1 standing.2 clock
    dsimp only [Input.turning, Option.toList]
    rw [same, judge_eq]
    exact ⟨next, rfl⟩
  | undelivered at_point socket out refused =>
    rw [at_point] at standing
    have next := judge_standing standing.1 standing.2 clock
    have silent : replies out = [] := by
      rcases refused with rfl | rfl
      · rfl
      · rfl
    dsimp only [Input.turning, Option.toList]
    rw [same, judge_eq, silent]
    exact ⟨next, rfl⟩
  | irqHits verdict at_point =>
    rw [at_point] at standing
    dsimp only [Input.turning, Option.toList]
    rw [same]
    cases verdict with
    | pass => exact ⟨standing, rfl⟩
    | fail => exact ⟨standing, rfl⟩

theorem run_standing (enough : 512 < fuel) (run : Run (main fuel icmp) .boot ms s) :
    Standing (startOf ms) (turns ms) (replies (effects ms)).length s.point := by
  have sound : Standing s.start (turns ms) s.received.toNat s.point ∧
      s.received.toNat = (replies (effects ms)).length := by
    induction run with
    | start => exact ⟨⟨rfl, rfl⟩, rfl⟩
    | @next ms u i t out run hs ih =>
      have clock := (run_clock enough run).1
      obtain ⟨standing, heard⟩ := step_standing (Main.step_cases enough hs) ih.1 clock
      rw [turns, inputs_append, inputs_singleton, filterMap_snoc, effects_append,
        effects_singleton, replies_append, List.length_append, ← ih.2]
      exact ⟨standing, heard⟩
  obtain ⟨standing, heard⟩ := sound
  rw [(run_clock enough run).2, heard] at standing
  exact standing

/-- How many verdicts there have been by a point. -/
def Point.verdicts : Point → Nat
  | .finished _ => 1
  | _ => 0

theorem verdicts_access (made : List Access) : verdicts (made.map Effect.access) = [] := by
  induction made with
  | nil => rfl
  | cons access rest ih => exact ih

theorem verdicts_append (first rest : List Effect) :
    verdicts (first ++ rest) = verdicts first ++ verdicts rest := List.filterMap_append

open Main in
theorem judge_open (s : Main) : s.judge.point.verdicts = 0 := by
  unfold judge
  split
  · rfl
  · split
    · rfl
    · rfl

open Main in
theorem afterReceive_open (s : Main) : s.afterReceive.point.verdicts = 0 := by
  unfold afterReceive
  split
  · exact judge_open s
  · rfl

open Main in
theorem step_verdicts (h : Step fuel icmp s input t out) :
    t.point.verdicts = s.point.verdicts + (verdicts out).length := by
  cases h with
  | interrupt enabled mcause read made drained pushed tail clears =>
    have silent : verdicts tail = [] := by
      rcases clears with rfl | rfl
      · rfl
      · rfl
    rw [verdicts_append, verdicts_access, silent]
    rfl
  | route at_point added =>
    rw [at_point]
    cases added with
    | true => rfl
    | false => rfl
  | access access rest at_point =>
    have silent : verdicts [.access access] = [] := rfl
    rw [at_point, silent]
    by_cases last : rest = []
    · simp [last, Point.verdicts]
    · simp [last, Point.verdicts]
  | request at_point socket =>
    rw [at_point]
    split
    · rfl
    · rfl
  | reply at_point =>
    rw [afterReceive_open, at_point]
    rfl
  | silence at_point =>
    rw [afterReceive_open, at_point]
    rfl
  | datagram at_point =>
    rw [judge_open, at_point]
    rfl
  | undelivered at_point socket out refused =>
    rw [judge_open, at_point]
    rcases refused with rfl | rfl
    · rfl
    · rfl
  | registers at_point | interface at_point | start at_point | clock at_point
  | transmit at_point | polled at_point | unbound at_point | hold at_point
  | unboundUdp at_point | irqHits _ at_point =>
    rw [at_point]
    rfl

theorem run_verdicts (enough : 512 < fuel) (run : Run (main fuel icmp) .boot ms s) :
    s.point.verdicts = (verdicts (effects ms)).length := by
  induction run with
  | start => rfl
  | next run hs ih =>
    rw [effects_append, effects_singleton, verdicts_append, List.length_append, ← ih]
    exact step_verdicts (Main.step_cases enough hs)

open Main in
/-- A verdict is shown at its own step, with the handler's counter. -/
theorem step_shown (h : Step fuel icmp s input t out) {hits : UInt32} {verdict : Verdict}
    (shown : (hits, verdict) ∈ verdicts out) :
    s.point = .irqHits verdict ∧ hits = s.irqHits ∧ t.point = .finished verdict := by
  cases h with
  | interrupt enabled mcause read made drained pushed tail clears =>
    rw [verdicts_append, verdicts_access] at shown
    rcases clears with rfl | rfl
    · cases shown
    · cases shown
  | request at_point socket =>
    cases taken : socket.sent with
    | true => simp [taken, verdicts, Effect.shown] at shown
    | false => simp [taken, verdicts, Effect.shown] at shown
  | undelivered at_point socket out refused =>
    rcases refused with rfl | rfl
    · cases shown
    · cases shown
  | irqHits verdict' at_point =>
    have same : (hits, verdict) = (s.irqHits, verdict') := by
      simpa [verdicts, Effect.shown] using shown
    obtain ⟨rfl, rfl⟩ := Prod.mk.inj same
    exact ⟨at_point, rfl, rfl⟩
  | _ => simp [verdicts, Effect.shown] at shown

open Main in
theorem step_hits (h : Step fuel icmp s input t out) :
    t.irqHits = s.irqHits + .ofNat input.trapped.toList.length := by
  have still : s.irqHits = s.irqHits + .ofNat 0 := (UInt32.add_zero _).symm
  cases h with
  | interrupt => rfl
  | reply =>
    rw [afterReceive_eq]
    exact still
  | silence =>
    rw [afterReceive_eq]
    exact still
  | datagram =>
    rw [judge_eq]
    exact still
  | undelivered =>
    rw [judge_eq]
    exact still
  | _ => exact still

theorem run_hits (enough : 512 < fuel) (run : Run (main fuel icmp) .boot ms s) :
    s.irqHits = .ofNat (trapped ms).length := by
  induction run with
  | start => rfl
  | next run hs ih =>
    rw [step_hits (Main.step_cases enough hs), ih, trapped, trapped, inputs_append,
      inputs_singleton, filterMap_snoc, List.length_append, UInt32.ofNat_add]

/-- After the verdict only the handler runs. -/
theorem finished_traps {verdict : Verdict} {ms : List Main.Moved}
    (run : Run (main fuel icmp) s ms t) (finished : s.point = .finished verdict)
    (enough : 512 < fuel) :
    t.point = .finished verdict ∧ ∀ n ∈ ms, ∃ mcause read, n.input = .interrupt mcause read := by
  induction run with
  | start => exact ⟨finished, fun _ none => absurd none List.not_mem_nil⟩
  | @next ms u i t out run hs ih =>
    obtain ⟨there, traps⟩ := ih
    have only : ∃ mcause read, i = .interrupt mcause read ∧ t.point = .finished verdict := by
      have step := Main.step_cases enough hs
      cases i with
      | interrupt mcause read =>
        cases step with
        | interrupt => exact ⟨mcause, read, rfl, there⟩
      | _ => simp [main, there] at hs
    obtain ⟨mcause, read, rfl, still⟩ := only
    refine ⟨still, ?_⟩
    intro n member
    rcases List.mem_append.mp member with old | new
    · exact traps n old
    · obtain rfl := List.mem_singleton.mp new
      exact ⟨mcause, read, rfl⟩

/-- Each turn begins with no reply so far and no late turn. There is one verdict at most,
passed on the first reply and failed at the first late turn; it shows how many frames
the handler passed on, and only the handler runs behind it. -/
theorem verdict_sound (enough : 512 < fuel) (run : Run (main fuel icmp) .boot ms s) :
    (verdicts (effects ms)).length ≤ 1 ∧
      (s.point = .clock → replies (effects ms) = [] ∧ ∀ now ∈ turns ms, ¬ Late (startOf ms) now) ∧
      ∀ pre m post hits verdict, ms = pre ++ m :: post → (hits, verdict) ∈ verdicts m.effects →
        hits = .ofNat (pushes (accesses (effects pre))).length ∧
          (replies (effects pre)).length = (if verdict = .pass then 1 else 0) ∧
          Timely (startOf pre) (turns pre) ∧
          (verdict = .fail → Late (startOf pre) ((turns pre).getLastD 0)) ∧
          ∀ n ∈ post, ∃ mcause read, n.input = .interrupt mcause read := by
  refine ⟨?_, ?_, ?_⟩
  · rw [← run_verdicts enough run]
    cases s.point with
    | finished => exact Nat.le_refl 1
    | _ => exact Nat.zero_le 1
  · intro at_point
    have standing := run_standing enough run
    rw [at_point] at standing
    exact ⟨List.length_eq_zero_iff.mp standing.1, standing.2⟩
  · rintro pre m post hits verdict rfl shown
    obtain ⟨before, stepped, after⟩ := run.at_move
    obtain ⟨at_point, rfl, finished⟩ := step_shown (Main.step_cases enough stepped) shown
    have standing := run_standing enough before
    rw [at_point] at standing
    have only := (finished_traps after finished enough).2
    refine ⟨by rw [run_hits enough before, run_pushes enough before], ?_⟩
    cases verdict with
    | pass => exact ⟨standing.1, standing.2, nofun, only⟩
    | fail => exact ⟨standing.1, standing.2.1, fun _ => standing.2.2, only⟩

/-- A reply in the second turn. -/
def replyScript : List Input :=
  [.registers 0x12005452 0x5634, .interface 0 0, .route true, .start 24000000 0,
    .clock 24000000 0, .polled, .icmp (socketOpen true true), .recv none,
    .udp (socketOpen true true), .clock 25200000 0, .polled, .icmp (socketOpen true true),
    .recv (some (InitSmoke.echoMessage 0 ident 0 pingPayload)), .irqHits]

theorem verdict_sound_replied :
    ∃ ms s, Run (main 513 InitSmoke.rfcIcmp) .boot ms s ∧ inputs ms = replyScript ∧
      s.point = .finished .pass ∧ (verdicts (effects ms)).length ≤ 1 := by
  obtain ⟨ms, s, run, asked, passed⟩ := exec_reaches (main 513 InitSmoke.rfcIcmp) .boot
    replyScript (fun s => s.point = .finished .pass) (by decide +kernel)
  exact ⟨ms, s, run, asked, of_decide_eq_true passed, (verdict_sound (by decide) run).1⟩

end

end Ws63Examples.NetPing
