import Ws63Examples.Connectivity.PollNetwork
import Ws63Examples.Lib.Execution
import Ws63Examples.Lib.Word

/-! The public DNS probe. -/

namespace Ws63Examples.Connectivity

open Execution Word

def dnsTransactionBase : UInt16 := 0x5753
def dnsAttemptsPerTarget : Nat := 2
def dnsPort : UInt16 := 53
def dnsTimeoutMs : UInt64 := 1500

def publicTargets : List Ipv4Address := [⟨223, 5, 5, 5⟩, ⟨180, 76, 76, 76⟩]

structure DnsStats where
  attempts : Nat
  responses : Nat
  invalid : Nat
  txErrors : Nat
  successfulTarget : Option Ipv4Address
  deriving DecidableEq, Repr

def DnsStats.default : DnsStats := ⟨0, 0, 0, 0, none⟩

/-- Where `dns_probe` stands, before the input it needs next. -/
inductive DnsProbe.Point where
  | send
  | sent
  | loopHead
  | poll
  | drain
  | wait
  | returned (result : Except NetworkExit DnsStats)
  | panicked

/-- `target`, `transactionId` and `startedAt` are those of the attempt under way. -/
structure DnsProbe (stack : Smoltcp) where
  net : Net stack
  targets : List Ipv4Address
  stats : DnsStats
  totalAttempts : Nat
  attempt : Nat
  target : Ipv4Address
  transactionId : UInt16
  startedAt : UInt64
  point : DnsProbe.Point

namespace DnsProbe

variable {stack : Smoltcp}

/-- `DNS_ATTEMPTS_PER_TARGET.saturating_mul(targets.len() as u16)` -/
def totalAttemptsOf (targets : List Ipv4Address) : Nat :=
  min (dnsAttemptsPerTarget * (targets.length % 2 ^ 16)) (2 ^ 16 - 1)

/-- The head of the attempt loop. -/
def advance (s : DnsProbe stack) : DnsProbe stack :=
  if s.attempt < s.totalAttempts then { s with attempt := s.attempt + 1, point := .send }
  else { s with point := .returned (.ok s.stats) }

/-- Up to the head of the attempt loop. The two targets are indexed for the
first line, which panics without them. -/
def begin (net : Net stack) (targets : List Ipv4Address) : DnsProbe stack × List Effect :=
  let s : DnsProbe stack := {
    net := net
    targets := targets
    stats := .default
    totalAttempts := totalAttemptsOf targets
    attempt := 0
    target := .unspecified
    transactionId := 0
    startedAt := 0
    point := .send }
  match targets[0]?, targets[1]? with
  | some primary, some secondary =>
    (s.advance, [.write (.publicDnsBegin primary secondary s.totalAttempts)])
  | _, _ => ({ s with point := .panicked }, [])

def remote (s : DnsProbe stack) : IpEndpoint := ⟨s.target, dnsPort⟩

def sample (s : DnsProbe stack) (status : SampleStatus) : Effect :=
  .write (.publicDnsSample s.attempt s.transactionId s.target status)

/-- The target of the attempt to start, and its query. -/
def prepare (s : DnsProbe stack) : Option (DnsProbe stack × List UInt8) := do
  let target ← s.targets[(s.attempt - 1) % s.targets.length]?
  let transactionId := dnsTransactionBase + .ofNat s.attempt
  let query ← buildQuery transactionId
  return ({ s with target := target, transactionId := transactionId }, query.toList)

def sendQuery (s : DnsProbe stack) (ok : Bool) : DnsProbe stack × List Effect :=
  match s.prepare with
  | none => ({ s with point := .panicked }, [])
  | some (s, query) =>
    let attempts := saturatingAdd u32Max s.stats.attempts 1
    if ok then
      ({ s with stats := { s.stats with attempts := attempts }, point := .sent },
        [.send query s.remote true])
    else
      let stats := { s.stats with
        attempts := attempts, txErrors := saturatingAdd u32Max s.stats.txErrors 1 }
      (advance { s with stats := stats }, [.send query s.remote false, s.sample .txError])

def reject (s : DnsProbe stack) : DnsProbe stack :=
  { s with stats := { s.stats with invalid := saturatingAdd u32Max s.stats.invalid 1 } }

/-- One datagram of the drain loop. -/
def receive (s : DnsProbe stack) (response : Datagram) : DnsProbe stack × List Effect :=
  if response.endpoint ≠ s.remote then (s.reject, [])
  else
    match validateResponse response.payload s.transactionId with
    | some (.ok valid) =>
      let stats := { s.stats with
        responses := saturatingAdd u32Max s.stats.responses 1, successfulTarget := some s.target }
      ({ s with stats := stats, point := .returned (.ok stats) }, [s.sample (.ok valid.answerCount)])
    | some (.error error) => (s.reject, [s.sample (.invalid error)])
    | none => ({ s with point := .panicked }, [])

end DnsProbe

variable {stack : Smoltcp}

def dnsProbe (s : DnsProbe stack) (input : Input stack) :
    Option (DnsProbe stack × List Effect) :=
  match s.point, input with
  | .send, .sendSlice ok => some (s.sendQuery ok)
  | .sent, .clock ticks =>
    some ({ s with startedAt := monotonicMs ticks, point := .loopHead }, [])
  | .loopHead, .clock ticks =>
    if monotonicMs ticks - s.startedAt < dnsTimeoutMs then
      some ({ s with point := .poll }, [])
    else some (s.advance, [s.sample .timeout])
  | .poll, .poll traffic event =>
    match pollNetwork traffic event s.net with
    | some (net, out) => some ({ s with net := net, point := .drain }, out)
    | none => some ({ s with point := .panicked }, [])
  | .drain, .recv (some response) => some (s.receive response)
  | .drain, .recv none => some ({ s with point := .wait }, [])
  | .wait, .nextEvent event =>
    match waitPollInterval event with
    | (some exit, out) => some ({ s with point := .returned (.error exit) }, out)
    | (none, out) => some ({ s with point := .loopHead }, out)
  | _, _ => none

namespace DnsProbe

/-- What a step can do. -/
inductive Step (s : DnsProbe stack) : Input stack → DnsProbe stack → List Effect → Prop
  | send (at_point : s.point = .send) (ok : Bool) :
      Step s (.sendSlice ok) (s.sendQuery ok).1 (s.sendQuery ok).2
  | sent (at_point : s.point = .sent) (ticks : UInt64) :
      Step s (.clock ticks) { s with startedAt := monotonicMs ticks, point := .loopHead } []
  | enter (at_point : s.point = .loopHead) (ticks : UInt64)
      (early : monotonicMs ticks - s.startedAt < dnsTimeoutMs) :
      Step s (.clock ticks) { s with point := .poll } []
  | timeout (at_point : s.point = .loopHead) (ticks : UInt64)
      (late : ¬ monotonicMs ticks - s.startedAt < dnsTimeoutMs) :
      Step s (.clock ticks) s.advance [s.sample .timeout]
  | poll (at_point : s.point = .poll) (traffic : stack.Traffic) (event : Option DhcpEvent)
      (net : Net stack) (out : List Effect)
      (polled : pollNetwork traffic event s.net = some (net, out)) :
      Step s (.poll traffic event) { s with net := net, point := .drain } out
  | pollPanic (at_point : s.point = .poll) (traffic : stack.Traffic) (event : Option DhcpEvent)
      (polled : pollNetwork traffic event s.net = none) :
      Step s (.poll traffic event) { s with point := .panicked } []
  | receive (at_point : s.point = .drain) (response : Datagram) :
      Step s (.recv (some response)) (s.receive response).1 (s.receive response).2
  | drained (at_point : s.point = .drain) : Step s (.recv none) { s with point := .wait } []
  | exit (at_point : s.point = .wait) (event : Option WifiEvent) (exit : NetworkExit)
      (out : List Effect) (waited : waitPollInterval event = (some exit, out)) :
      Step s (.nextEvent event) { s with point := .returned (.error exit) } out
  | resume (at_point : s.point = .wait) (event : Option WifiEvent) (out : List Effect)
      (waited : waitPollInterval event = (none, out)) :
      Step s (.nextEvent event) { s with point := .loopHead } out

theorem step_cases {s t : DnsProbe stack} {input : Input stack} {out : List Effect}
    (h : dnsProbe s input = some (t, out)) : Step s input t out := by
  unfold dnsProbe at h
  split at h
  case h_1 ok at_point =>
    obtain ⟨rfl, rfl⟩ := answer_parts h
    exact .send at_point ok
  case h_2 ticks at_point =>
    cases h
    exact .sent at_point ticks
  case h_3 ticks at_point =>
    split at h
    · rename_i early
      cases h
      exact .enter at_point ticks early
    · rename_i late
      obtain ⟨rfl, rfl⟩ := answer_parts h
      exact .timeout at_point ticks late
  case h_4 traffic event at_point =>
    split at h
    · rename_i polled
      cases h
      exact .poll at_point traffic event _ _ polled
    · rename_i polled
      cases h
      exact .pollPanic at_point traffic event polled
  case h_5 response at_point =>
    obtain ⟨rfl, rfl⟩ := answer_parts h
    exact .receive at_point response
  case h_6 at_point =>
    cases h
    exact .drained at_point
  case h_7 event at_point =>
    split at h
    · rename_i waited
      cases h
      exact .exit at_point event _ _ waited
    · rename_i waited
      cases h
      exact .resume at_point event _ waited
  case h_8 => cases h

/-- A move of the probe. -/
abbrev Probing (stack : Smoltcp) := Move (DnsProbe stack) (Input stack) Effect

/-- The moves that sent a query, or failed to. -/
def sends (m : Probing stack) : Bool :=
  match m.input with
  | .sendSlice _ => true
  | _ => false

def fails (m : Probing stack) : Bool :=
  match m.input with
  | .sendSlice ok => !ok
  | _ => false

/-- The moves that found the attempt's time used up. -/
def timesOut (m : Probing stack) : Bool :=
  match m.input, m.before.point with
  | .clock ticks, .loopHead => !decide (monotonicMs ticks - m.before.startedAt < dnsTimeoutMs)
  | _, _ => false

/-- The datagrams an attempt may take for its answer. -/
def answers (s : DnsProbe stack) (response : Datagram) : Bool :=
  response.endpoint = s.remote &&
    match validateResponse response.payload s.transactionId with
    | some (.ok _) => true
    | _ => false

def accepts (m : Probing stack) : Bool :=
  match m.input with
  | .recv (some response) => m.before.answers response
  | _ => false

def rejects (m : Probing stack) : Bool :=
  match m.input with
  | .recv (some response) => !m.before.answers response
  | _ => false

/-- One for an attempt whose query is still to be sent. -/
def Point.unsent : Point → Nat
  | .send => 1
  | _ => 0

/-- One for an attempt that has neither failed, nor timed out, nor succeeded. -/
def Point.unfinished : Point → Nat
  | .send | .returned (.ok _) => 0
  | _ => 1

/-- The points between a sent query and the end of its attempt. -/
def Point.underway : Point → Prop
  | .sent | .loopHead | .poll | .drain | .wait => True
  | _ => False

def transactionIdOf (attempt : Nat) : UInt16 := dnsTransactionBase + .ofNat attempt

def targetOf (targets : List Ipv4Address) (attempt : Nat) : Option Ipv4Address :=
  targets[(attempt - 1) % targets.length]?

/-- The query of an attempt, to its own target under its own id. -/
def queryOf (targets : List Ipv4Address) (attempt : Nat) :
    Option (List UInt8 × IpEndpoint) := do
  let target ← targetOf targets attempt
  let query ← buildQuery (transactionIdOf attempt)
  return (query.toList, ⟨target, dnsPort⟩)

/-- What was handed to the socket, and for whom. -/
def asked : Effect → Option (List UInt8 × IpEndpoint)
  | .send payload remote _ => some (payload, remote)
  | _ => none

/-- Nothing was accepted, or the last move accepted the answer of the attempt
under way and ended the probe. -/
inductive Verdict (ms : List (Probing stack)) (s : DnsProbe stack) : Prop
  | none (unaccepted : ms.countP accepts = 0) (responses : s.stats.responses = 0)
      (target : s.stats.successfulTarget = none)
  | accepted (init : List (Probing stack)) (last : Probing stack) (split : ms = init ++ [last])
      (unaccepted : init.countP accepts = 0) (accepted : accepts last = true)
      (at_point : last.before.point = .drain) (attempt : last.before.attempt = s.attempt)
      (target : targetOf last.before.targets s.attempt = some last.before.target)
      (transactionId : last.before.transactionId = transactionIdOf s.attempt)
      (responses : s.stats.responses = 1)
      (successful : s.stats.successfulTarget = some last.before.target)
      (returned : s.point = .returned (.ok s.stats))

/-- The statistics after a history of moves. -/
structure Sound (targets : List Ipv4Address) (ms : List (Probing stack)) (s : DnsProbe stack) :
    Prop where
  given : s.targets = targets
  total : s.totalAttempts = totalAttemptsOf targets
  bounded : s.attempt ≤ s.totalAttempts
  numbered : s.stats.attempts + s.point.unsent = s.attempt
  queries : ms.countP sends = s.stats.attempts
  txErrors : ms.countP fails = s.stats.txErrors
  balance : s.stats.attempts =
    s.stats.txErrors + ms.countP timesOut + s.stats.responses + s.point.unfinished
  invalid : s.stats.invalid = min (ms.countP rejects) u32Max
  underway : s.point.underway → targetOf s.targets s.attempt = some s.target ∧
    s.transactionId = transactionIdOf s.attempt
  result : ∀ stats, s.point = .returned (.ok stats) → stats = s.stats
  verdict : Verdict ms s

/-- No success so far. -/
structure Open (ms : List (Probing stack)) (s : DnsProbe stack) : Prop where
  unaccepted : ms.countP accepts = 0
  responses : s.stats.responses = 0
  target : s.stats.successfulTarget = none

theorem Verdict.open {ms : List (Probing stack)} {s : DnsProbe stack} (verdict : Verdict ms s)
    (going : ∀ stats, s.point ≠ .returned (.ok stats)) : Open ms s := by
  cases verdict with
  | none unaccepted responses target => exact ⟨unaccepted, responses, target⟩
  | accepted init last split unaccepted accepted at_point attempt target transactionId responses
      successful returned => exact absurd returned (going _)

theorem Point.underway_going {point : Point} (h : point.underway) (stats : DnsStats) :
    point ≠ .returned (.ok stats) := by
  rintro rfl
  exact h

theorem Point.underway_count {point : Point} (h : point.underway) :
    point.unsent = 0 ∧ point.unfinished = 1 := by
  cases point <;> first | exact ⟨rfl, rfl⟩ | exact absurd h id

/-- The account at the head of the attempt loop. -/
theorem Sound.of_advance {targets : List Ipv4Address} {ms : List (Probing stack)}
    {u : DnsProbe stack} (given : u.targets = targets)
    (total : u.totalAttempts = totalAttemptsOf targets) (bounded : u.attempt ≤ u.totalAttempts)
    (numbered : u.stats.attempts = u.attempt) (queries : ms.countP sends = u.stats.attempts)
    (txErrors : ms.countP fails = u.stats.txErrors)
    (balance : u.stats.attempts = u.stats.txErrors + ms.countP timesOut)
    (invalid : u.stats.invalid = min (ms.countP rejects) u32Max) (fresh : Open ms u) :
    Sound targets ms u.advance := by
  unfold advance
  split
  · rename_i more
    constructor
    case given => exact given
    case total => exact total
    case bounded => exact more
    case numbered => exact congrArg (· + 1) numbered
    case queries => exact queries
    case txErrors => exact txErrors
    case balance => exact balance.trans (by rw [fresh.responses]; rfl)
    case invalid => exact invalid
    case underway => exact False.elim
    case result => nofun
    case verdict => exact .none fresh.unaccepted fresh.responses fresh.target
  · constructor
    case given => exact given
    case total => exact total
    case bounded => exact bounded
    case numbered => exact numbered
    case queries => exact queries
    case txErrors => exact txErrors
    case balance => exact balance.trans (by rw [fresh.responses]; rfl)
    case invalid => exact invalid
    case underway => exact False.elim
    case result =>
      rintro stats ⟨⟩
      rfl
    case verdict => exact .none fresh.unaccepted fresh.responses fresh.target

/-- A move no counter looks at. -/
structure Quiet (m : Probing stack) : Prop where
  sends : sends m = false
  fails : fails m = false
  timesOut : timesOut m = false
  accepts : accepts m = false
  rejects : rejects m = false

theorem countP_quiet {p : Probing stack → Bool} {ms : List (Probing stack)} {m : Probing stack}
    (h : p m = false) : (ms ++ [m]).countP p = ms.countP p := by
  rw [List.countP_append, List.countP_singleton, h]
  rfl

theorem countP_hit {p : Probing stack → Bool} {ms : List (Probing stack)} {m : Probing stack}
    (h : p m = true) : (ms ++ [m]).countP p = ms.countP p + 1 := by
  rw [List.countP_append, List.countP_singleton, h]
  rfl

/-- A move inside an attempt that changes no statistics. -/
theorem Sound.pass {targets : List Ipv4Address} {ms : List (Probing stack)}
    {s t : DnsProbe stack} (sound : Sound targets ms s) {input : Input stack} {out : List Effect}
    (at_point : s.point.underway)
    (same : t = { s with net := t.net, startedAt := t.startedAt, point := t.point })
    (unsent : t.point.unsent = 0) (unfinished : t.point.unfinished = 1)
    (quiet : Quiet ⟨s, input, out, t⟩) : Sound targets (ms ++ [⟨s, input, out, t⟩]) t := by
  obtain ⟨unsent_before, unfinished_before⟩ := Point.underway_count at_point
  have fresh := sound.verdict.open (Point.underway_going at_point)
  have numbered := sound.numbered
  have balance := sound.balance
  rw [unsent_before] at numbered
  rw [unfinished_before] at balance
  rw [same] at unsent unfinished ⊢
  constructor
  case given => exact sound.given
  case total => exact sound.total
  case bounded => exact sound.bounded
  case numbered => exact unsent.symm ▸ numbered
  case queries =>
    rw [countP_quiet (same ▸ quiet.sends)]
    exact sound.queries
  case txErrors =>
    rw [countP_quiet (same ▸ quiet.fails)]
    exact sound.txErrors
  case balance =>
    rw [countP_quiet (same ▸ quiet.timesOut), unfinished]
    exact balance
  case invalid =>
    rw [countP_quiet (same ▸ quiet.rejects)]
    exact sound.invalid
  case underway => exact fun _ => sound.underway at_point
  case result =>
    intro stats returned
    rw [returned] at unfinished
    cases unfinished
  case verdict =>
    refine .none ?_ fresh.responses fresh.target
    rw [countP_quiet (same ▸ quiet.accepts)]
    exact fresh.unaccepted

theorem prepare_spec (s : DnsProbe stack) (some_target : 0 < s.targets.length) :
    ∃ target query, targetOf s.targets s.attempt = some target ∧
      buildQuery (transactionIdOf s.attempt) = some query ∧
      s.prepare = some ({ s with
        target := target, transactionId := transactionIdOf s.attempt }, query.toList) := by
  obtain ⟨query, hquery, -⟩ := buildQuery_eq (transactionIdOf s.attempt)
  have inside : (s.attempt - 1) % s.targets.length < s.targets.length := Nat.mod_lt _ some_target
  have htarget : targetOf s.targets s.attempt = some s.targets[(s.attempt - 1) % s.targets.length] :=
    List.getElem?_eq_getElem inside
  refine ⟨_, query, htarget, hquery, ?_⟩
  unfold prepare
  unfold targetOf at htarget
  unfold transactionIdOf at hquery
  simp only [htarget, hquery, Option.bind_eq_bind, Option.bind_some]
  rfl

/-- The attempt's query goes to its own target under its own id. -/
theorem sendQuery_spec (s : DnsProbe stack) (some_target : 0 < s.targets.length)
    (counted : saturatingAdd u32Max s.stats.attempts 1 = s.attempt) :
    ∃ target, targetOf s.targets s.attempt = some target ∧
      (s.sendQuery true).1 = { s with
        target := target, transactionId := transactionIdOf s.attempt,
        stats := { s.stats with attempts := s.attempt }, point := .sent } ∧
      (s.sendQuery false).1 = advance { s with
        target := target, transactionId := transactionIdOf s.attempt,
        stats := { s.stats with
          attempts := s.attempt
          txErrors := saturatingAdd u32Max s.stats.txErrors 1 } } := by
  obtain ⟨target, query, htarget, -, prepared⟩ := prepare_spec s some_target
  refine ⟨target, htarget, ?_, ?_⟩
  · simp only [sendQuery, prepared, counted, if_true]
  · simp only [sendQuery, prepared, counted, Bool.false_eq_true, if_false]

/-- One query is sent, whether the socket takes it or not. -/
theorem sendQuery_asked (s : DnsProbe stack) (some_target : 0 < s.targets.length) (ok : Bool) :
    ((s.sendQuery ok).2.filterMap asked).map some = [queryOf s.targets s.attempt] := by
  obtain ⟨target, query, htarget, hquery, prepared⟩ := prepare_spec s some_target
  rw [queryOf, htarget, hquery]
  unfold sendQuery
  rw [prepared]
  cases ok <;> rfl

/-- The attempt's query, taken or refused by the socket. -/
theorem Sound.send {targets : List Ipv4Address} {ms : List (Probing stack)} {s : DnsProbe stack}
    (sound : Sound targets ms s) (some_target : 0 < targets.length) (at_point : s.point = .send)
    (ok : Bool) {out : List Effect} {t : DnsProbe stack} (ht : t = (s.sendQuery ok).1) :
    Sound targets (ms ++ [⟨s, .sendSlice ok, out, t⟩]) t := by
  have fresh := sound.verdict.open fun stats returned => nomatch at_point.symm.trans returned
  have numbered := sound.numbered
  have balance := sound.balance
  rw [at_point] at numbered balance
  have few : s.attempt ≤ u32Max := by
    apply Nat.le_trans sound.bounded
    rw [sound.total]
    exact Nat.le_trans (Nat.min_le_right _ _) (by decide)
  obtain ⟨target, htarget, taken, refused⟩ := sendQuery_spec s (sound.given ▸ some_target)
    ((saturatingAdd_of_le (numbered ▸ few)).trans numbered)
  have unaccepted : (ms ++ [(⟨s, .sendSlice ok, out, t⟩ : Probing stack)]).countP accepts = 0 := by
    rw [countP_quiet rfl]
    exact fresh.unaccepted
  have queries : (ms ++ [(⟨s, .sendSlice ok, out, t⟩ : Probing stack)]).countP sends = s.attempt := by
    rw [countP_hit rfl, sound.queries]
    exact numbered
  have invalid : s.stats.invalid =
      min ((ms ++ [(⟨s, .sendSlice ok, out, t⟩ : Probing stack)]).countP rejects) u32Max := by
    rw [countP_quiet rfl]
    exact sound.invalid
  have timeouts : (ms ++ [(⟨s, .sendSlice ok, out, t⟩ : Probing stack)]).countP timesOut =
      ms.countP timesOut := countP_quiet rfl
  cases ok with
  | true =>
    rw [taken] at ht
    subst ht
    constructor
    case given => exact sound.given
    case total => exact sound.total
    case bounded => exact sound.bounded
    case numbered => rfl
    case queries => exact queries
    case txErrors =>
      rw [countP_quiet rfl]
      exact sound.txErrors
    case balance =>
      rw [timeouts]
      exact numbered.symm.trans (congrArg (· + 1) balance)
    case invalid => exact invalid
    case underway => exact fun _ => ⟨htarget, rfl⟩
    case result => nofun
    case verdict => exact .none unaccepted fresh.responses fresh.target
  | false =>
    have before : s.stats.attempts = s.stats.txErrors + ms.countP timesOut := by
      rw [balance, fresh.responses]
      rfl
    have next : s.stats.attempts + 1 = s.attempt := numbered
    have errors : saturatingAdd u32Max s.stats.txErrors 1 = s.stats.txErrors + 1 :=
      saturatingAdd_of_le (by omega)
    rw [refused, errors] at ht
    subst ht
    refine Sound.of_advance sound.given sound.total sound.bounded rfl queries ?_ ?_ invalid
      ⟨unaccepted, fresh.responses, fresh.target⟩
    · rw [countP_hit rfl, sound.txErrors]
    · rw [timeouts]
      simp only
      omega

/-- An attempt whose time is up. -/
theorem Sound.timeout {targets : List Ipv4Address} {ms : List (Probing stack)}
    {s : DnsProbe stack} (sound : Sound targets ms s) (at_point : s.point = .loopHead)
    (ticks : UInt64) (late : ¬ monotonicMs ticks - s.startedAt < dnsTimeoutMs)
    {out : List Effect} :
    Sound targets (ms ++ [⟨s, .clock ticks, out, s.advance⟩]) s.advance := by
  have fresh := sound.verdict.open fun stats returned => nomatch at_point.symm.trans returned
  have numbered := sound.numbered
  have balance := sound.balance
  rw [at_point] at numbered balance
  have timed_out : timesOut (⟨s, .clock ticks, out, s.advance⟩ : Probing stack) = true := by
    simp only [timesOut, at_point, late, decide_false, Bool.not_false]
  apply Sound.of_advance sound.given sound.total sound.bounded numbered
  · rw [countP_quiet rfl]
    exact sound.queries
  · rw [countP_quiet rfl]
    exact sound.txErrors
  · rw [countP_hit timed_out, balance, fresh.responses]
    rfl
  · rw [countP_quiet rfl]
    exact sound.invalid
  · refine ⟨?_, fresh.responses, fresh.target⟩
    rw [countP_quiet rfl]
    exact fresh.unaccepted

/-- What a datagram does: end the probe with its answer, or be counted invalid. -/
theorem receive_cases (s : DnsProbe stack) (response : Datagram) :
    (s.answers response = true ∧ (s.receive response).1 = { s with
      stats := { s.stats with
        responses := saturatingAdd u32Max s.stats.responses 1
        successfulTarget := some s.target }
      point := .returned (.ok { s.stats with
        responses := saturatingAdd u32Max s.stats.responses 1
        successfulTarget := some s.target }) }) ∨
    (s.answers response = false ∧ (s.receive response).1 = s.reject) := by
  unfold answers receive
  by_cases ours : response.endpoint = s.remote
  · rw [if_neg (not_not_intro ours), validateResponse_eq]
    cases answerOf response.payload (firstViolation response.payload s.transactionId) with
    | ok valid =>
      left
      exact ⟨by simp [ours], rfl⟩
    | error error =>
      right
      exact ⟨by simp, rfl⟩
  · rw [if_pos ours]
    right
    exact ⟨by simp [ours], rfl⟩

/-- The answer of the attempt under way ends the probe. -/
theorem Sound.answer {targets : List Ipv4Address} {ms : List (Probing stack)}
    {s : DnsProbe stack} (sound : Sound targets ms s) (at_point : s.point = .drain)
    {response : Datagram} (answered : s.answers response = true) {out : List Effect}
    {t : DnsProbe stack} (received : t = { s with
      stats := { s.stats with responses := 1, successfulTarget := some s.target }
      point := .returned (.ok { s.stats with
        responses := 1
        successfulTarget := some s.target }) }) :
    Sound targets (ms ++ [⟨s, .recv (some response), out, t⟩]) t := by
  have under : s.point.underway := by
    rw [at_point]
    trivial
  obtain ⟨htarget, hid⟩ := sound.underway under
  have fresh := sound.verdict.open (Point.underway_going under)
  have numbered := sound.numbered
  have balance := sound.balance
  rw [at_point] at numbered balance
  rw [fresh.responses] at balance
  subst received
  constructor
  case given => exact sound.given
  case total => exact sound.total
  case bounded => exact sound.bounded
  case numbered => exact numbered
  case queries =>
    rw [countP_quiet rfl]
    exact sound.queries
  case txErrors =>
    rw [countP_quiet rfl]
    exact sound.txErrors
  case balance =>
    rw [countP_quiet rfl]
    exact balance
  case invalid =>
    rw [countP_quiet (by simp only [rejects, answered, Bool.not_true])]
    exact sound.invalid
  case underway => exact False.elim
  case result =>
    rintro stats ⟨⟩
    rfl
  case verdict =>
    exact .accepted ms _ rfl fresh.unaccepted answered at_point rfl htarget hid rfl rfl rfl

/-- Any other datagram is counted and changes nothing else. -/
theorem Sound.reject {targets : List Ipv4Address} {ms : List (Probing stack)}
    {s : DnsProbe stack} (sound : Sound targets ms s) (at_point : s.point = .drain)
    {response : Datagram} (unanswered : s.answers response = false) {out : List Effect} :
    Sound targets (ms ++ [⟨s, .recv (some response), out, s.reject⟩]) s.reject := by
  have fresh := sound.verdict.open fun stats returned => nomatch at_point.symm.trans returned
  constructor
  case given => exact sound.given
  case total => exact sound.total
  case bounded => exact sound.bounded
  case numbered => exact sound.numbered
  case queries =>
    rw [countP_quiet rfl]
    exact sound.queries
  case txErrors =>
    rw [countP_quiet rfl]
    exact sound.txErrors
  case balance =>
    rw [countP_quiet rfl]
    exact sound.balance
  case invalid =>
    rw [countP_hit (by simp only [rejects, unanswered, Bool.not_false]),
      ← saturatingAdd_clipped, ← sound.invalid]
    rfl
  case underway => exact sound.underway
  case result => exact fun stats returned => nomatch at_point.symm.trans returned
  case verdict =>
    refine .none ?_ fresh.responses fresh.target
    rw [countP_quiet unanswered]
    exact fresh.unaccepted

/-- A datagram of the drain loop. -/
theorem Sound.receive {targets : List Ipv4Address} {ms : List (Probing stack)}
    {s : DnsProbe stack} (sound : Sound targets ms s) (at_point : s.point = .drain)
    (response : Datagram) {out : List Effect} {t : DnsProbe stack}
    (ht : t = (s.receive response).1) :
    Sound targets (ms ++ [⟨s, .recv (some response), out, t⟩]) t := by
  rcases receive_cases s response with ⟨answered, received⟩ | ⟨unanswered, received⟩
  · have fresh := sound.verdict.open fun stats returned => nomatch at_point.symm.trans returned
    have one : saturatingAdd u32Max s.stats.responses 1 = 1 := by
      rw [fresh.responses]
      decide
    rw [received, one] at ht
    exact sound.answer at_point answered ht
  · rw [received] at ht
    subst ht
    exact sound.reject at_point unanswered

/-- Every step keeps the account. -/
theorem step_sound {targets : List Ipv4Address} (some_target : 0 < targets.length)
    {ms : List (Probing stack)} {s t : DnsProbe stack} (sound : Sound targets ms s)
    {input : Input stack} {out : List Effect} (h : dnsProbe s input = some (t, out)) :
    Sound targets (ms ++ [⟨s, input, out, t⟩]) t := by
  cases step_cases h with
  | send at_point ok => exact sound.send some_target at_point ok rfl
  | sent at_point ticks =>
    refine sound.pass (by rw [at_point]; trivial) rfl rfl rfl ⟨rfl, rfl, ?_, rfl, rfl⟩
    simp only [timesOut, at_point]
  | enter at_point ticks early =>
    refine sound.pass (by rw [at_point]; trivial) rfl rfl rfl ⟨rfl, rfl, ?_, rfl, rfl⟩
    simp only [timesOut, at_point, early, decide_true, Bool.not_true]
  | timeout at_point ticks late => exact sound.timeout at_point ticks late
  | poll at_point | pollPanic at_point | drained at_point | exit at_point | resume at_point =>
    exact sound.pass (by rw [at_point]; trivial) rfl rfl rfl ⟨rfl, rfl, rfl, rfl, rfl⟩
  | receive at_point response => exact sound.receive at_point response rfl

theorem begin_sound (net : Net stack) {targets : List Ipv4Address} (two : 2 ≤ targets.length) :
    Sound targets [] (begin net targets).1 := by
  unfold begin
  rw [List.getElem?_eq_getElem (show 0 < targets.length by omega),
    List.getElem?_eq_getElem (show 1 < targets.length by omega)]
  exact Sound.of_advance rfl rfl (Nat.zero_le _) rfl rfl rfl rfl rfl ⟨rfl, rfl, rfl⟩

theorem run_sound {net : Net stack} {targets : List Ipv4Address} (two : 2 ≤ targets.length)
    {ms : List (Probing stack)} {s : DnsProbe stack}
    (run : Run dnsProbe (begin net targets).1 ms s) : Sound targets ms s :=
  run.history (begin_sound net two) fun _ _ _ _ _ _ sound h =>
    step_sound (Nat.lt_of_lt_of_le Nat.zero_lt_two two) sound h

theorem pollNetwork_asks {traffic : stack.Traffic} {event : Option DhcpEvent}
    {net net' : Net stack} {out : List Effect}
    (h : pollNetwork traffic event net = some (net', out)) : out.filterMap asked = [] := by
  cases pollNetwork_cases h with
  | quiet | configured => rfl
  | deconfigured => cases net.lease <;> rfl

/-- Only a new attempt asks anything. -/
theorem step_unasked {s t : DnsProbe stack} {input : Input stack} {out : List Effect}
    (step : Step s input t out) (other : ∀ ok, input ≠ .sendSlice ok) :
    out.filterMap asked = [] ∧ t.stats.attempts = s.stats.attempts := by
  cases step with
  | send => exact absurd rfl (other _)
  | sent | enter | pollPanic | drained => exact ⟨rfl, rfl⟩
  | timeout =>
    refine ⟨rfl, ?_⟩
    unfold advance
    split <;> rfl
  | poll _ _ _ _ _ polled => exact ⟨pollNetwork_asks polled, rfl⟩
  | receive _ response =>
    unfold receive
    split
    · exact ⟨rfl, rfl⟩
    · split <;> exact ⟨rfl, rfl⟩
  | exit _ _ _ _ waited | resume _ _ _ waited =>
    refine ⟨List.filterMap_eq_nil_iff.mpr fun e he => ?_, rfl⟩
    obtain ⟨line, rfl⟩ := waitPollInterval_writes waited e he
    rfl

/-- The queries sent are those of the attempts, one after the other. -/
theorem run_asked {net : Net stack} {targets : List Ipv4Address} (two : 2 ≤ targets.length)
    {ms : List (Probing stack)} {s : DnsProbe stack}
    (run : Run dnsProbe (begin net targets).1 ms s) : ((effects ms).filterMap asked).map some =
      (List.range s.stats.attempts).map fun i => queryOf targets (i + 1) := by
  induction run with
  | start => rw [← (begin_sound net two).queries]; rfl
  | @next ms u input t out run h ih =>
    have sound := run_sound two run
    rw [effects_append, effects_singleton, List.filterMap_append, List.map_append, ih]
    have step := step_cases h
    by_cases sending : ∃ ok, input = .sendSlice ok
    · obtain ⟨ok, rfl⟩ := sending
      cases step with
      | send at_point =>
        have numbered := sound.numbered
        rw [at_point] at numbered
        have after := (step_sound (Nat.lt_of_lt_of_le Nat.zero_lt_two two) sound h).queries
        rw [countP_hit rfl, sound.queries] at after
        rw [← after, List.range_succ, List.map_append,
          sendQuery_asked u (sound.given ▸ Nat.lt_of_lt_of_le Nat.zero_lt_two two),
          sound.given, ← numbered]
        rfl
    · obtain ⟨none, same⟩ := step_unasked step fun ok here => sending ⟨ok, here⟩
      rw [none, same]
      exact List.append_nil _

theorem totalAttemptsOf_le (targets : List Ipv4Address) :
    totalAttemptsOf targets ≤ 2 * targets.length := by
  apply Nat.le_trans (Nat.min_le_left _ _)
  exact Nat.mul_le_mul_left 2 (Nat.mod_le _ _)

/-- Attempts of one probe have different transaction ids. -/
theorem transactionIdOf_inj {a b : Nat} (ha : a < 2 ^ 16) (hb : b < 2 ^ 16)
    (h : transactionIdOf a = transactionIdOf b) : a = b := by
  have same : UInt16.ofNat a = .ofNat b := (UInt16.add_right_inj dnsTransactionBase).mp h
  have := congrArg UInt16.toNat same
  rwa [UInt16.toNat_ofNat_of_lt' ha, UInt16.toNat_ofNat_of_lt' hb] at this

/-- An answer to one attempt is an answer to no other. -/
theorem answer_unique {message : List UInt8} {a b : Nat} (ha : a < 2 ^ 16) (hb : b < 2 ^ 16)
    (other : b ≠ a) {valid : ValidResponse}
    (h : validateResponse message (transactionIdOf a) = some (.ok valid)) (v : ValidResponse) :
    validateResponse message (transactionIdOf b) ≠ some (.ok v) := by
  intro h'
  cases valid with | mk n =>
  cases v with | mk n' =>
  have same := ((validateResponse_ok _ _ _).mp h').id_eq ((validateResponse_ok _ _ _).mp h)
  exact other (transactionIdOf_inj hb ha same)

theorem answers_spec {s : DnsProbe stack} {response : Datagram}
    (h : s.answers response = true) : response.endpoint = ⟨s.target, dnsPort⟩ ∧
      ∃ valid, validateResponse response.payload s.transactionId = some (.ok valid) := by
  simp only [answers, Bool.and_eq_true, decide_eq_true_eq] at h
  obtain ⟨source, valid⟩ := h
  refine ⟨source, ?_⟩
  split at valid
  · rename_i v accepted
    exact ⟨v, accepted⟩
  · cases valid

/-- The datagram `response` ended the probe as the answer of `attempt`, the
last query sent, and answers none of the other attempts. -/
structure Accepted (targets : List Ipv4Address) (ms : List (Probing stack)) (stats : DnsStats)
    (target : Ipv4Address) (attempt : Nat) (response : Datagram) : Prop where
  last : ∃ init last, ms = init ++ [last] ∧ last.input = .recv (some response) ∧
    last.before.point = .drain ∧ last.before.attempt = attempt ∧ init.countP accepts = 0
  asked : targetOf targets attempt = some target
  source : response.endpoint = ⟨target, dnsPort⟩
  valid : ∃ valid, validateResponse response.payload (transactionIdOf attempt) = some (.ok valid)
  fresh : ∀ other, other ≠ attempt → other ≤ 2 * targets.length →
    ∀ valid, validateResponse response.payload (transactionIdOf other) ≠ some (.ok valid)
  attempts : stats.attempts = attempt
  queries : ms.countP sends = attempt

/-- A probe that returns statistics has sent each attempt's own query, accounts for
every attempt and every datagram, and takes no answer but that of the attempt under
way. -/
theorem dns_probe_accounts (net : Net stack) (targets : List Ipv4Address)
    (two : 2 ≤ targets.length) (few : targets.length ≤ 32767) (ms : List (Probing stack))
    (s : DnsProbe stack) (stats : DnsStats) (run : Run dnsProbe (begin net targets).1 ms s)
    (returned : s.point = .returned (.ok stats)) :
    ((effects ms).filterMap asked).map some =
      (List.range stats.attempts).map (fun i => queryOf targets (i + 1)) ∧
    (stats.responses = 0 ∨ stats.responses = 1) ∧
    (stats.responses = 1 ↔ ∃ target, stats.successfulTarget = some target) ∧
    (∀ target, stats.successfulTarget = some target →
      ∃ attempt response, Accepted targets ms stats target attempt response) ∧
    stats.attempts = stats.txErrors + ms.countP timesOut + stats.responses ∧
    stats.attempts ≤ 2 * targets.length ∧
    (ms.countP rejects ≤ u32Max → stats.invalid = ms.countP rejects) := by
  have sound := run_sound two run
  obtain rfl := sound.result stats returned
  refine ⟨run_asked two run, ?_⟩
  have numbered := sound.numbered
  have balance := sound.balance
  rw [returned] at numbered balance
  have bound : s.attempt ≤ 2 * targets.length :=
    Nat.le_trans sound.bounded (sound.total ▸ totalAttemptsOf_le targets)
  have accounted : s.stats.attempts = s.stats.txErrors + ms.countP timesOut + s.stats.responses :=
    balance
  have attempts : s.stats.attempts = s.attempt := numbered
  have invalid (exact_count : ms.countP rejects ≤ u32Max) : s.stats.invalid = ms.countP rejects := by
    rw [sound.invalid, Nat.min_eq_left exact_count]
  cases sound.verdict with
  | none unaccepted responses target =>
    refine ⟨.inl responses, ?_, ?_, accounted, attempts ▸ bound, invalid⟩
    · rw [responses, target]
      simp
    · intro t successful
      cases target.symm.trans successful
  | accepted init last split unaccepted accepted at_point attempt target transactionId responses
      successful ended =>
    refine ⟨.inr responses, ⟨fun _ => ⟨_, successful⟩, fun _ => responses⟩, ?_, accounted,
      attempts ▸ bound, invalid⟩
    intro t found
    obtain rfl := Option.some.inj (successful.symm.trans found)
    obtain ⟨before, input, out, after⟩ := last
    cases input with
    | recv datagram =>
      cases datagram with
      | none => cases accepted
      | some response =>
        obtain ⟨source, valid, hvalid⟩ := answers_spec accepted
        have given : before.targets = targets := by
          subst split
          exact (run_sound two run.at_move.1).given
        have hvalid : validateResponse response.payload (transactionIdOf s.attempt) =
            some (.ok valid) := transactionId ▸ hvalid
        refine ⟨s.attempt, response, ⟨init, _, split, rfl, at_point, attempt, unaccepted⟩,
          given ▸ target, source, ⟨valid, hvalid⟩, ?_, attempts, sound.queries.trans attempts⟩
        intro other differs inside
        exact answer_unique (by omega) (by omega) differs hvalid
    | _ => cases accepted

/-- The first query is refused by the socket, the second is answered behind a
stray datagram. -/
def answeredScript : List (Input plainStack) :=
  [.sendSlice false, .sendSlice true, .clock 0, .clock 0, .poll () none,
    .recv (some ⟨[0], ⟨⟨192, 168, 4, 1⟩, 9⟩⟩),
    .recv (some ⟨[0x57, 0x55, 0x81, 0x80, 0, 1, 0, 1, 0, 0, 0, 0] ++ question,
      ⟨⟨180, 76, 76, 76⟩, 53⟩⟩)]

theorem dns_probe_accounts_answered :
    ∃ ms s, Run dnsProbe (begin plainNet publicTargets).1 ms s ∧
      s.point = .returned (.ok ⟨2, 1, 1, 1, some ⟨180, 76, 76, 76⟩⟩) ∧
      ∃ attempt response, Accepted publicTargets ms ⟨2, 1, 1, 1, some ⟨180, 76, 76, 76⟩⟩
        ⟨180, 76, 76, 76⟩ attempt response := by
  have run : Run dnsProbe (begin plainNet publicTargets).1 _ _ := exec_run answeredScript rfl
  obtain ⟨-, -, -, accepted, -⟩ :=
    dns_probe_accounts plainNet publicTargets (by decide) (by decide) _ _
      ⟨2, 1, 1, 1, some ⟨180, 76, 76, 76⟩⟩ run rfl
  exact ⟨_, _, run, rfl, accepted _ rfl⟩

end DnsProbe

end Ws63Examples.Connectivity
