import Ws63Examples.InitSmoke.NetworkLease
import Ws63Examples.InitSmoke.PingAccounts

/-! The ping series of the network runner, and the verdict behind them. -/

namespace Ws63Examples.InitSmoke

open Execution

variable {stack : Smoltcp} {icmp : IcmpWire}

/-- An echo request of a series, with the time it carries. -/
def requestAt (icmp : IcmpWire) (time : UInt64) (sequence : Nat) : List UInt8 :=
  icmp.emit (.echoRequest icmpIdentifier (.ofNat sequence)
    (toLeBytes64 time ++ toLeBytes16 (.ofNat sequence) ++ .replicate 22 0))

/-- The requests of a series that were made at these times. -/
def requestsAt (icmp : IcmpWire) (target : Ipv4Address) (times : List UInt64) :
    List (List UInt8 × Ipv4Address) :=
  (times.zipIdx 1).map fun (time, sequence) => (requestAt icmp time sequence, target)

theorem requestsAt_snoc (target : Ipv4Address) (times : List UInt64) (time : UInt64) :
    requestsAt icmp target (times ++ [time]) =
      requestsAt icmp target times ++ [(requestAt icmp time (times.length + 1), target)] := by
  rw [requestsAt, List.zipIdx_append, List.zipIdx_singleton, List.map_append,
    Nat.add_comm 1 times.length]
  rfl

namespace PingSeries

def request? : Effect → Option (List UInt8 × Ipv4Address)
  | .send packet target _ => some (packet, target)
  | _ => none

/-- `true` is the line on ARP, `false` a sample with its reply. -/
def mark : Effect → Option Bool
  | .write .arpOk => some true
  | .write (.status (.ok _)) => some false
  | _ => none

/-- What a series has asked the network for. -/
def requests (seen : List Effect) : List (List UInt8 × Ipv4Address) := seen.filterMap request?

def marks (seen : List Effect) : List Bool := seen.filterMap mark

def statuses (seen : List Effect) : List SampleStatus := seen.filterMap status

theorem requests_append (seen out : List Effect) :
    requests (seen ++ out) = requests seen ++ requests out := List.filterMap_append

theorem marks_append (seen out : List Effect) : marks (seen ++ out) = marks seen ++ marks out :=
  List.filterMap_append

theorem statuses_append (seen out : List Effect) :
    statuses (seen ++ out) = statuses seen ++ statuses out := List.filterMap_append

theorem count_marks (seen : List Effect) :
    (marks seen).count false = (roundTrips (statuses seen)).length := by
  induction seen with
  | nil => rfl
  | cons effect rest ih =>
    rw [← List.singleton_append, marks_append, statuses_append, List.count_append, roundTrips,
      List.filterMap_append, List.length_append, ih]
    refine congrArg (· + _) ?_
    unfold marks statuses
    match effect with
    | .write (.status .txError) | .write (.status (.ok _)) | .write (.status .timeout)
    | .write .arpOk | .write (.pingSeriesBegin _ _) | .write (.pingSample _ _)
    | .write (.ping _ _ _ _ _ _ _ _) | .write (.dhcp _) | .send _ _ _ => rfl

theorem finish_eq (s : PingSeries stack) (ms : UInt64) : ∃ stats rttMs, s.finish ms =
    ({ s with stats := stats }.advance.1,
      .write (.status (.ok rttMs)) :: { s with stats := stats }.advance.2) :=
  ⟨_, _, rfl⟩

/-- Requests that are prepared but not sent. -/
def Point.unsent : Point → Nat
  | .clock | .send => 1
  | _ => 0

variable {target : Ipv4Address} {s t : PingSeries stack} {input : Input stack}
  {seen out : List Effect} {times : List UInt64}

/-- The time that a request carries. -/
def stamp (s : PingSeries stack) : Input stack → Option UInt64
  | .send _ => some s.startedAt
  | _ => none

/-- The requests are those of the sequence numbers so far, made at these times. -/
structure Asked (icmp : IcmpWire) (target : Ipv4Address) (s : PingSeries stack)
    (seen : List Effect) (times : List UInt64) : Prop where
  aim : s.target = target
  sent : requests seen = requestsAt icmp target times
  count : times.length + s.point.unsent = s.sequence

theorem Asked.pass (h : Asked icmp target s seen times) (aim : t.target = s.target)
    (number : t.sequence = s.sequence) (unsent : t.point.unsent = s.point.unsent)
    (quiet : requests out = []) (unstamped : s.stamp input = none) :
    Asked icmp target t (seen ++ out) (times ++ (s.stamp input).toList) := by
  rw [unstamped]
  refine ⟨aim.trans h.aim, ?_, ?_⟩
  · rw [requests_append, quiet, List.append_nil, h.sent]
    exact congrArg _ (List.append_nil times).symm
  · rw [unsent, number, ← h.count]
    exact congrArg (List.length · + _) (List.append_nil times)

/-- A sample ends, and with it the number of requests is that of the samples. -/
theorem Asked.advance (aim : s.target = target)
    (sent : requests seen = requestsAt icmp target times) (count : times.length = s.sequence)
    (quiet : requests out = []) :
    Asked icmp target s.advance.1 (seen ++ (out ++ s.advance.2)) times := by
  obtain ⟨-, next⟩ | ⟨-, next⟩ := advance_cases s
  · rw [next]
    refine ⟨aim, ?_, congrArg (· + 1) count⟩
    rw [requests_append, requests_append, quiet]
    exact (List.append_nil _).trans sent
  · rw [next]
    refine ⟨aim, ?_, count⟩
    rw [requests_append, requests_append, quiet]
    exact (List.append_nil _).trans sent

theorem step_asked (asked : Asked icmp target s seen times)
    (h : pingSeries icmp s input = some (t, out)) :
    Asked icmp target t (seen ++ out) (times ++ (s.stamp input).toList) := by
  cases step_cases h with
  | clock at_point ms => exact asked.pass rfl rfl (by rw [at_point]; rfl) rfl rfl
  | send at_point ok =>
    obtain ⟨aim, sent, count⟩ := asked
    have grown : requests (seen ++ [.send (icmp.emit s.request) s.target ok,
        .write (.pingSample s.target s.sequence)]) =
        requestsAt icmp target (times ++ [s.startedAt]) := by
      rw [at_point] at count
      change times.length + 1 = s.sequence at count
      rw [requests_append, sent, requestsAt_snoc, count, ← aim]
      rfl
    have counted : (times ++ [s.startedAt]).length = s.sequence := by
      rw [at_point] at count
      rw [List.length_append]
      exact count
    cases ok with
    | true => exact ⟨aim, grown, counted⟩
    | false =>
      have next := Asked.advance (s := { s with stats := { s.stats with
        txErrors := Word.saturatingAdd Word.u32Max s.stats.txErrors 1 } }) aim grown counted
        (show requests [.write (.status .txError)] = [] from rfl)
      rw [List.append_assoc] at next
      exact next
  | timeout at_point ms late =>
    obtain ⟨aim, sent, count⟩ := asked
    rw [at_point] at count
    rw [show s.stamp (.clock ms) = none from rfl, Option.toList_none, List.append_nil]
    exact Asked.advance aim sent count (show requests [.write (.status .timeout)] = [] from rfl)
  | finish at_point ms =>
    obtain ⟨aim, sent, count⟩ := asked
    rw [at_point] at count
    obtain ⟨stats, rttMs, ended⟩ := finish_eq s ms
    rw [ended, show s.stamp (.clock ms) = none from rfl, Option.toList_none, List.append_nil]
    exact Asked.advance (s := { s with stats := stats }) aim sent count
      (show requests [.write (.status (.ok rttMs))] = [] from rfl)
  | poll at_point traffic event net lines polled =>
    refine asked.pass rfl rfl (by rw [at_point]; rfl) ?_ rfl
    rw [requests, List.filterMap_map]
    exact List.filterMap_eq_nil_iff.mpr fun _ _ => rfl
  | reply at_point bytes endpoint answered out confirms =>
    refine asked.pass rfl rfl (by rw [at_point]; rfl) ?_ rfl
    rw [confirms]
    split <;> rfl
  | discard at_point => exact asked.pass rfl rfl rfl rfl rfl
  | enter at_point | pollPanic at_point | drained at_point | resume at_point
  | sleepPanic at_point => exact asked.pass rfl rfl (by rw [at_point]; rfl) rfl rfl

theorem advance_unready (s : PingSeries stack) : s.advance.1.point ≠ .send := by
  obtain ⟨-, next⟩ | ⟨-, next⟩ := advance_cases s <;> rw [next] <;> nofun

/-- A request is made right behind the reading of its time. -/
theorem step_ready (h : pingSeries icmp s input = some (t, out)) (ready : t.point = .send) :
    input = .clock t.startedAt := by
  cases step_cases h with
  | clock => rfl
  | send at_point ok =>
    cases ok with
    | true => cases ready
    | false => exact absurd ready (advance_unready _)
  | timeout => exact absurd ready (advance_unready _)
  | finish at_point ms =>
    obtain ⟨stats, rttMs, ended⟩ := finish_eq s ms
    rw [ended] at ready
    exact absurd ready (advance_unready _)
  | discard at_point => cases at_point.symm.trans ready
  | enter | poll | pollPanic | reply | drained | resume | sleepPanic => cases ready

theorem step_stamp {time : UInt64} (h : pingSeries icmp s input = some (t, out))
    (stamped : s.stamp input = some time) : s.point = .send ∧ s.startedAt = time := by
  cases step_cases h with
  | send at_point => exact ⟨at_point, Option.some.inj stamped⟩
  | _ => cases stamped

theorem begin_asked (net : Net stack) (confirmed : Bool) (target : Ipv4Address) (count : Nat) :
    Asked icmp target (begin net confirmed target count).1
      (begin net confirmed target count).2 [] := by
  have unasked : requests [.write (.pingSeriesBegin target count)] = requestsAt icmp target [] := rfl
  have quiet : requests [] = [] := rfl
  exact Asked.advance (s := ⟨net, confirmed, target, count, 0, 0, .default, .clock⟩) rfl unasked rfl
    quiet

/-- The line on ARP comes ahead of the first reply, and only with a reply in. -/
def Confirms (confirmed : Bool) (replying : Prop) (marks : List Bool) : Prop :=
  if confirmed then ∃ n, marks = true :: List.replicate n false ∧ (n = 0 → replying)
  else marks = [] ∧ ¬ replying

theorem Confirms.pass {confirmed : Bool} {replying still : Prop} {marks more : List Bool}
    (h : Confirms confirmed replying marks) (same : replying ↔ still) (quiet : more = []) :
    Confirms confirmed still (marks ++ more) := by
  rw [quiet, List.append_nil]
  unfold Confirms at h ⊢
  rw [← same]
  exact h

/-- What the replies so far make of the marks. -/
theorem Confirms.told {confirmed : Bool} {marks : List Bool} (h : Confirms confirmed False marks) :
    marks = if marks.count false = 0 then [] else true :: .replicate (marks.count false) false := by
  unfold Confirms at h
  split at h
  · obtain ⟨n, rfl, some_in⟩ := h
    have count : (true :: List.replicate n false).count false = n := by simp
    rw [count, if_neg some_in]
  · obtain ⟨rfl, -⟩ := h
    rfl

theorem Confirms.ordered {confirmed : Bool} {replying : Prop} {marks : List Bool}
    (h : Confirms confirmed replying marks) :
    marks = [] ∨ ∃ n, marks = true :: List.replicate n false := by
  unfold Confirms at h
  split at h
  · obtain ⟨n, whole, -⟩ := h
    exact .inr ⟨n, whole⟩
  · exact .inl h.1

theorem advance_marks (s : PingSeries stack) : s.advance.1.neighborConfirmed = s.neighborConfirmed ∧
    s.advance.1.point ≠ .reply ∧ marks s.advance.2 = [] := by
  obtain ⟨-, next⟩ | ⟨-, next⟩ := advance_cases s <;> rw [next] <;> exact ⟨rfl, nofun, rfl⟩

theorem begin_marks (net : Net stack) (confirmed : Bool) (target : Ipv4Address) (count : Nat) :
    (begin net confirmed target count).1.neighborConfirmed = confirmed ∧
      (begin net confirmed target count).1.point ≠ .reply ∧
      marks (begin net confirmed target count).2 = [] :=
  advance_marks _

theorem step_confirms {past : List Bool}
    (confirms : Confirms s.neighborConfirmed (s.point = .reply) past)
    (h : pingSeries icmp s input = some (t, out)) :
    Confirms t.neighborConfirmed (t.point = .reply) (past ++ marks out) := by
  cases step_cases h with
  | clock at_point | enter at_point | pollPanic at_point | drained at_point | resume at_point
  | sleepPanic at_point => exact confirms.pass (by simp [at_point]) rfl
  | discard at_point => exact confirms.pass Iff.rfl rfl
  | send at_point ok =>
    cases ok with
    | true => exact confirms.pass (by simp [at_point, sendRequest]) rfl
    | false =>
      obtain ⟨same, going, quiet⟩ := advance_marks { s with stats := { s.stats with
        txErrors := Word.saturatingAdd Word.u32Max s.stats.txErrors 1 } }
      change Confirms (advance _).1.neighborConfirmed _ _
      rw [same]
      refine confirms.pass ?_ quiet
      rw [at_point]
      exact ⟨nofun, fun now => absurd now going⟩
  | timeout at_point ms late =>
    obtain ⟨same, going, quiet⟩ := advance_marks s
    rw [same]
    refine confirms.pass ?_ quiet
    rw [at_point]
    exact ⟨nofun, fun now => absurd now going⟩
  | poll at_point traffic event net lines polled =>
    refine confirms.pass (by simp [at_point]) ?_
    rw [marks, List.filterMap_map]
    exact List.filterMap_eq_nil_iff.mpr fun _ _ => rfl
  | reply at_point bytes endpoint answered out written =>
    rw [at_point] at confirms
    unfold Confirms at confirms ⊢
    rw [if_pos rfl, written]
    split at confirms
    · rename_i confirmed
      obtain ⟨n, rfl, some_in⟩ := confirms
      rw [if_pos confirmed]
      exact ⟨n, List.append_nil _, fun none_in => absurd (some_in none_in) nofun⟩
    · rename_i unconfirmed
      obtain ⟨rfl, -⟩ := confirms
      rw [if_neg unconfirmed]
      exact ⟨0, rfl, fun _ => rfl⟩
  | finish at_point ms =>
    obtain ⟨stats, rttMs, ended⟩ := finish_eq s ms
    obtain ⟨same, going, quiet⟩ := advance_marks { s with stats := stats }
    rw [ended]
    change Confirms (advance _).1.neighborConfirmed _ (past ++ false :: marks (advance _).2)
    rw [same, quiet]
    rw [at_point] at confirms
    unfold Confirms at confirms ⊢
    split at confirms
    · rename_i confirmed
      obtain ⟨n, rfl, -⟩ := confirms
      rw [if_pos confirmed]
      refine ⟨n + 1, ?_, nofun⟩
      rw [List.replicate_succ']
      rfl
    · exact absurd rfl confirms.2

end PingSeries

namespace Runner

open PingSeries (requests statuses marks Asked Confirms)

def Effect.toPing : Effect → Option InitSmoke.Effect
  | .ping effect => some effect
  | _ => none

/-- The series that is running. -/
def series : Runner stack → Option (PingSeries stack)
  | .gatewayPing _ _ s | .publicPing _ _ _ s => some s
  | _ => none

/-- The time that a request carries. -/
def stamp (m : Running stack) : Option UInt64 :=
  match series m.before, m.input with
  | some s, .ping input => s.stamp input
  | _, _ => none

def stamps (ms : List (Running stack)) : List UInt64 := ms.filterMap stamp

/-- What `run` prints when its series are over, or when there is no lease to ping with. -/
def Effect.verdict : Effect → Option (Option (Nat × Nat × Nat × Nat))
  | .write (.dhcpTimeout _ _) => some none
  | .write (.connectivitySummary gatewayTx gatewayRx publicTx publicRx _) =>
    some (some (gatewayTx, gatewayRx, publicTx, publicRx))
  | _ => none

/-- What the series did. -/
def pinged (written : List Effect) : List InitSmoke.Effect := written.filterMap Effect.toPing

def verdicts (written : List Effect) : List (Option (Nat × Nat × Nat × Nat)) :=
  written.filterMap Effect.verdict

/-- The lease that the events before any ping leave. -/
def Acquired (ms : List (Running stack)) (active : Lease) : Prop :=
  ∃ pre post, ms = pre ++ post ∧ pinged (effects pre) = [] ∧
    (polled pre).foldl leaseAfter none = some active

/-- One ping series, from its start to where it stands, with its requests stamped so. -/
def Series (icmp : IcmpWire) (confirmed : Bool) (target : Ipv4Address) (s : PingSeries stack)
    (seen : List InitSmoke.Effect) (times : List UInt64) : Prop :=
  ∃ net ms, Run (pingSeries icmp) (PingSeries.begin net confirmed target pingCount).1 ms s ∧
    (PingSeries.begin net confirmed target pingCount).2 ++ effects ms = seen ∧
    ms.filterMap (fun m => m.before.stamp m.input) = times

/-- The public series runs, behind the series to the router if there is one. -/
def Behind (icmp : IcmpWire) (active : Lease) (gateway : PingStats) (s : PingSeries stack)
    (seen : List InitSmoke.Effect) (times : List UInt64) : Prop :=
  match active.router with
  | some router => ∃ (first : PingSeries stack) (firstSeen laterSeen : List InitSmoke.Effect)
      (firstTimes laterTimes : List UInt64),
      Series icmp false router first firstSeen firstTimes ∧ first.point = .returned gateway ∧
      Series icmp first.neighborConfirmed publicTarget s laterSeen laterTimes ∧
      seen = firstSeen ++ laterSeen ∧ times = firstTimes ++ laterTimes
  | none => gateway = .default ∧ Series icmp false publicTarget s seen times

section
variable {confirmed : Bool} {target : Ipv4Address} {s u : PingSeries stack}
  {seen sent : List InitSmoke.Effect} {times : List UInt64} {input : InitSmoke.Input stack}
  {active : Lease} {gateway : PingStats}

theorem Series.begin (net : Net stack) : Series icmp confirmed target
    (PingSeries.begin net confirmed target pingCount).1
    (PingSeries.begin net confirmed target pingCount).2 [] :=
  ⟨net, [], .start, List.append_nil _, rfl⟩

theorem Series.step (h : Series icmp confirmed target s seen times)
    (stepped : pingSeries icmp s input = some (u, sent)) :
    Series icmp confirmed target u (seen ++ sent) (times ++ (s.stamp input).toList) := by
  obtain ⟨net, ms, run, rfl, rfl⟩ := h
  refine ⟨net, _, run.next stepped, ?_, ?_⟩
  · rw [effects_append, effects_singleton, List.append_assoc]
  · rw [History.filterMap_snoc]

theorem Behind.step (h : Behind icmp active gateway s seen times)
    (stepped : pingSeries icmp s input = some (u, sent)) :
    Behind icmp active gateway u (seen ++ sent) (times ++ (s.stamp input).toList) := by
  unfold Behind at h ⊢
  split at h
  · obtain ⟨first, firstSeen, laterSeen, firstTimes, laterTimes, done, returned, later, rfl, rfl⟩ := h
    exact ⟨first, firstSeen, _, firstTimes, _, done, returned, later.step stepped,
      List.append_assoc _ _ _, List.append_assoc _ _ _⟩
  · exact ⟨h.1, h.2.step stepped⟩

/-- Some of the five requests are out, all of them once the series has returned. -/
theorem Series.requests (h : Series icmp confirmed target s seen times) :
    requests seen = requestsAt icmp target times ∧ times.length ≤ 5 ∧
      ((∃ stats, s.point = .returned stats) → times.length = 5) := by
  obtain ⟨net, ms, run, rfl, rfl⟩ := h
  have asked : Asked icmp target s
      ((PingSeries.begin net confirmed target pingCount).2 ++ effects ms)
      (ms.filterMap fun m => m.before.stamp m.input) := by
    refine run.history (P := fun ms s => Asked icmp target s
      ((PingSeries.begin net confirmed target pingCount).2 ++ effects ms)
      (ms.filterMap fun m => m.before.stamp m.input)) ?_ ?_
    · rw [effects_nil, List.append_nil]
      exact PingSeries.begin_asked net confirmed target pingCount
    · intro ms u input v out _ before stepped
      rw [effects_append, effects_singleton, ← List.append_assoc, History.filterMap_snoc]
      exact PingSeries.step_asked before stepped
  obtain ⟨fixed, -⟩ := Reading.run_tallied (PingSeries.Fixed target pingCount)
    (fun _ => PingSeries.step_turn) (by decide)
    (PingSeries.begin_tallied icmp net confirmed target pingCount) run
  obtain ⟨-, whole, count⟩ := asked
  have le := fixed.le
  refine ⟨whole, ?_, ?_⟩
  · change s.sequence ≤ 5 at le
    omega
  · rintro ⟨stats, returned⟩
    rw [returned] at count
    exact count.trans (fixed.returned stats returned).2

/-- What a series returns is what its five statuses say. -/
theorem Series.returned (h : Series icmp confirmed target s seen times) {stats : PingStats}
    (returned : s.point = .returned stats) :
    (statuses seen).length = 5 ∧ stats = .of (statuses seen) := by
  obtain ⟨net, ms, run, rfl, -⟩ := h
  have consistent := (PingSeries.run_accounts (by decide) run).2.1 stats returned
  have exact_stats : stats = .of (statuses _) := consistent.exact
  refine ⟨?_, exact_stats⟩
  have samples := consistent.samples
  rw [exact_stats, PingStats.of_samples] at samples
  exact samples

end

/-- The requests so far, made at these times, the public ones behind all of those to the
router. -/
def Requested (icmp : IcmpWire) (active : Lease) (seen : List InitSmoke.Effect)
    (times : List UInt64) : Prop :=
  ∃ gateway behind, requests seen =
      active.router.elim [] (fun router => requestsAt icmp router gateway) ++
        requestsAt icmp publicTarget behind ∧
    times = gateway ++ behind ∧ gateway.length ≤ 5 ∧ behind.length ≤ 5 ∧
    (behind ≠ [] → active.router.isSome → gateway.length = 5)

/-- A summary against the statuses of the series and the line on ARP. -/
def Tells (active : Lease) (seen : List InitSmoke.Effect) (summary : Nat × Nat × Nat × Nat) :
    Prop :=
  ∃ gateway behind : List SampleStatus, statuses seen = gateway ++ behind ∧
    gateway.length = (if active.router.isSome then 5 else 0) ∧ behind.length = 5 ∧
    summary = ((PingStats.of gateway).tx, (PingStats.of gateway).rx, (PingStats.of behind).tx,
      (PingStats.of behind).rx) ∧
    marks seen = if (PingStats.of gateway).rx + (PingStats.of behind).rx = 0 then []
      else true :: .replicate ((PingStats.of gateway).rx + (PingStats.of behind).rx) false

section
variable {s : PingSeries stack} {seen : List InitSmoke.Effect} {times : List UInt64}
  {active : Lease} {gateway stats : PingStats}

theorem Tells.ordered {summary : Nat × Nat × Nat × Nat} (h : Tells active seen summary) :
    marks seen = [] ∨ ∃ n, marks seen = true :: List.replicate n false := by
  obtain ⟨_, _, -, -, -, -, told⟩ := h
  rw [told]
  split
  · exact .inl rfl
  · exact .inr ⟨_, rfl⟩

theorem Behind.requested (h : Behind icmp active gateway s seen times) :
    Requested icmp active seen times := by
  unfold Behind at h
  split at h
  · rename_i router routed
    obtain ⟨first, firstSeen, laterSeen, firstTimes, laterTimes, done, returned, later, rfl, rfl⟩ := h
    obtain ⟨whole, few, all⟩ := done.requests
    obtain ⟨rest, fewer, -⟩ := later.requests
    refine ⟨firstTimes, laterTimes, ?_, rfl, few, fewer, fun _ _ => all ⟨_, returned⟩⟩
    rw [PingSeries.requests_append, whole, rest, routed]
    rfl
  · rename_i unrouted
    obtain ⟨rest, fewer, -⟩ := h.2.requests
    refine ⟨[], times, ?_, rfl, Nat.zero_le 5, fewer, ?_⟩
    · rw [rest, unrouted]
      rfl
    · intro _ routed
      rw [unrouted] at routed
      cases routed

theorem Behind.tells (h : Behind icmp active gateway s seen times)
    (ended : s.point = .returned stats)
    (confirms : Confirms s.neighborConfirmed (s.point = .reply) (marks seen)) :
    Tells active seen (gateway.tx, gateway.rx, stats.tx, stats.rx) := by
  have told : marks seen = if (marks seen).count false = 0 then []
      else true :: .replicate ((marks seen).count false) false := by
    have still : (s.point = .reply) = False := by
      rw [ended]
      exact eq_false nofun
    rw [still] at confirms
    exact confirms.told
  rw [PingSeries.count_marks] at told
  unfold Behind at h
  split at h
  · rename_i router routed
    obtain ⟨first, firstSeen, laterSeen, _, _, done, returned, later, rfl, -⟩ := h
    obtain ⟨five, first_told⟩ := done.returned returned
    obtain ⟨five_later, later_told⟩ := later.returned ended
    refine ⟨_, _, PingSeries.statuses_append _ _, ?_, five_later, ?_, ?_⟩
    · rw [routed]
      exact five
    · rw [← first_told, ← later_told]
    · rw [PingSeries.statuses_append, roundTrips, List.filterMap_append, List.length_append] at told
      exact told
  · rename_i unrouted
    obtain ⟨rfl, only⟩ := h
    obtain ⟨five, only_told⟩ := only.returned ended
    refine ⟨[], statuses seen, rfl, ?_, five, ?_, ?_⟩
    · rw [unrouted]
      rfl
    · rw [← only_told]
      rfl
    · rw [show (PingStats.of []).rx = 0 from rfl, Nat.zero_add]
      exact told

end

section
variable {ms : List (Running stack)} {r t : Runner stack} {input : Input stack} {out : List Effect}

theorem pinged_append (first rest : List Effect) :
    pinged (first ++ rest) = pinged first ++ pinged rest := List.filterMap_append

theorem pinged_pings (sent : List InitSmoke.Effect) : pinged (sent.map .ping) = sent := by
  induction sent with
  | nil => rfl
  | cons effect rest ih => exact congrArg (effect :: ·) ih

theorem verdicts_append (first rest : List Effect) :
    verdicts (first ++ rest) = verdicts first ++ verdicts rest := List.filterMap_append

theorem verdicts_pings (sent : List InitSmoke.Effect) : verdicts (sent.map .ping) = [] := by
  induction sent with
  | nil => rfl
  | cons effect rest ih => exact ih

theorem writeDhcp_quiet (lines : List DhcpLine) :
    pinged (writeDhcp lines) = [] ∧ verdicts (writeDhcp lines) = [] := by
  induction lines with
  | nil => exact ⟨rfl, rfl⟩
  | cons line rest ih => exact ih

theorem report_quiet (s : KeepPolling stack) (now : Connectivity.DhcpDiagnostics)
    (current : UInt64) :
    pinged ((s.reportRenewal now).2 ++ ((s.reportRenewal now).1.heartbeat current).2) = [] ∧
      verdicts ((s.reportRenewal now).2 ++ ((s.reportRenewal now).1.heartbeat current).2) = [] := by
  have renewal : pinged (s.reportRenewal now).2 = [] ∧ verdicts (s.reportRenewal now).2 = [] := by
    unfold KeepPolling.reportRenewal
    split <;> exact ⟨rfl, rfl⟩
  have alive (u : KeepPolling stack) :
      pinged (u.heartbeat current).2 = [] ∧ verdicts (u.heartbeat current).2 = [] := by
    unfold KeepPolling.heartbeat
    split <;> exact ⟨rfl, rfl⟩
  rw [pinged_append, verdicts_append, renewal.1, renewal.2]
  exact alive _

theorem Acquired.later {active : Lease} (h : Acquired ms active) (m : Running stack) :
    Acquired (ms ++ [m]) active := by
  obtain ⟨pre, post, rfl, acquired⟩ := h
  exact ⟨pre, post ++ [m], List.append_assoc _ _ _, acquired⟩

/-- What the pings and the verdict come to, in whichever phase: there is no ping without a
lease, and the one that the events so far left is pinged with. -/
def Accounted (icmp : IcmpWire) (ms : List (Running stack)) (seen : List InitSmoke.Effect)
    (times : List UInt64) (told : List (Option (Nat × Nat × Nat × Nat))) : Prop :=
  seen = [] ∧ (told = [] ∨ told = [none]) ∨
    ∃ active, Acquired ms active ∧ Requested icmp active seen times ∧
      (marks seen = [] ∨ ∃ n, marks seen = true :: List.replicate n false) ∧
      (told = [] ∨ ∃ summary, told = [some summary] ∧ Tells active seen summary)

/-- What has been pinged and told by each phase. -/
def Account (icmp : IcmpWire) (ms : List (Running stack)) (seen : List InitSmoke.Effect)
    (times : List UInt64) (told : List (Option (Nat × Nat × Nat × Nat))) : Runner stack → Prop
  | .baseline active _ => (seen = [] ∧ times = []) ∧ told = [] ∧ Acquired ms active
  | .gatewayPing active _ s => told = [] ∧ Acquired ms active ∧
      Confirms s.neighborConfirmed (s.point = .reply) (marks seen) ∧
      ∃ router, active.router = some router ∧ Series icmp false router s seen times
  | .publicPing active _ gateway s => told = [] ∧ Acquired ms active ∧
      Confirms s.neighborConfirmed (s.point = .reply) (marks seen) ∧
      Behind icmp active gateway s seen times
  | .queue active _ gateway stats _ => told = [] ∧ Acquired ms active ∧
      Requested icmp active seen times ∧
      Tells active seen (gateway.tx, gateway.rx, stats.tx, stats.rx)
  | .timeoutBaseline _ => (seen = [] ∧ times = []) ∧ told = [none]
  | .keep _ => seen = [] ∧ told = [none] ∨ ∃ active summary, told = [some summary] ∧
      Acquired ms active ∧ Requested icmp active seen times ∧ Tells active seen summary
  | .panicked => Accounted icmp ms seen times told
  | _ => (seen = [] ∧ times = []) ∧ told = []

theorem Account.accounted {seen : List InitSmoke.Effect} {times : List UInt64}
    {told : List (Option (Nat × Nat × Nat × Nat))} (account : Account icmp ms seen times told r) :
    Accounted icmp ms seen times told := by
  cases r with
  | panicked => exact account
  | boot | bind | dhcp | timeout | idle => exact .inl ⟨account.1.1, .inl account.2⟩
  | timeoutBaseline => exact .inl ⟨account.1.1, .inr account.2⟩
  | baseline active net => exact .inl ⟨account.1.1, .inl account.2.1⟩
  | gatewayPing active now s =>
    obtain ⟨untold, acquired, confirms, router, routed, series⟩ := account
    obtain ⟨whole, few, -⟩ := series.requests
    refine .inr ⟨active, acquired, ⟨times, [], ?_, (List.append_nil times).symm, few,
      Nat.zero_le 5, fun none => absurd rfl none⟩, confirms.ordered, .inl untold⟩
    rw [whole, routed]
    exact (List.append_nil _).symm
  | publicPing active now gateway s =>
    obtain ⟨untold, acquired, confirms, behind⟩ := account
    exact .inr ⟨active, acquired, behind.requested, confirms.ordered, .inl untold⟩
  | queue active now gateway stats net =>
    obtain ⟨untold, acquired, requested, tells⟩ := account
    exact .inr ⟨active, acquired, requested, tells.ordered, .inl untold⟩
  | keep s =>
    rcases account with ⟨unpinged, told⟩ | ⟨active, summary, told, acquired, requested, tells⟩
    · exact .inl ⟨unpinged, .inr told⟩
    · exact .inr ⟨active, acquired, requested, tells.ordered, .inr ⟨summary, told, tells⟩⟩

theorem Accounted.later {seen : List InitSmoke.Effect} {times : List UInt64}
    {told : List (Option (Nat × Nat × Nat × Nat))} (h : Accounted icmp ms seen times told)
    (m : Running stack) : Accounted icmp (ms ++ [m]) seen times told := by
  rcases h with unpinged | ⟨active, acquired, rest⟩
  · exact .inl unpinged
  · exact .inr ⟨active, acquired.later m, rest⟩

theorem pingPublic_account {active : Lease} {now : Connectivity.DhcpDiagnostics}
    {gateway : PingStats} {net : Net stack} {confirmed : Bool} (seen : List InitSmoke.Effect)
    (times : List UInt64) (acquired : Acquired ms active)
    (confirms : Confirms confirmed False (marks seen))
    (behind : ∀ (s : PingSeries stack) (later : List InitSmoke.Effect) (laterTimes : List UInt64),
      Series icmp confirmed publicTarget s later laterTimes →
        Behind icmp active gateway s (seen ++ later) (times ++ laterTimes)) :
    Account icmp ms (seen ++ pinged (pingPublic active now gateway net confirmed).2) times []
        (pingPublic active now gateway net confirmed).1 ∧
      verdicts (pingPublic active now gateway net confirmed).2 = [] := by
  have begun := behind _ _ _ (.begin net)
  rw [List.append_nil] at begun
  unfold pingPublic
  rw [pinged_pings, verdicts_pings]
  obtain ⟨same, going, quiet⟩ := PingSeries.begin_marks net confirmed publicTarget pingCount
  refine ⟨⟨rfl, acquired, ?_, begun⟩, rfl⟩
  rw [PingSeries.marks_append, same]
  exact confirms.pass ⟨False.elim, fun now => absurd now going⟩ quiet

theorem afterGateway_account {active : Lease} (now : Connectivity.DhcpDiagnostics)
    {s : PingSeries stack} {seen : List InitSmoke.Effect} {times : List UInt64}
    {router : Ipv4Address} (acquired : Acquired ms active)
    (confirms : Confirms s.neighborConfirmed (s.point = .reply) (marks seen))
    (routed : active.router = some router) (series : Series icmp false router s seen times) :
    Account icmp ms (seen ++ pinged (afterGateway active now s).2) times []
        (afterGateway active now s).1 ∧
      verdicts (afterGateway active now s).2 = [] := by
  have goes : Account icmp ms seen times [] (.gatewayPing active now s) :=
    ⟨rfl, acquired, confirms, router, routed, series⟩
  unfold afterGateway
  split
  · rename_i stats returned
    refine pingPublic_account seen times acquired ?_ ?_
    · rw [returned] at confirms
      have still : (PingSeries.Point.returned stats = .reply) = False := eq_false nofun
      rwa [still] at confirms
    · intro u later laterTimes public_series
      unfold Behind
      rw [routed]
      exact ⟨s, seen, later, times, laterTimes, series, returned, public_series, rfl, rfl⟩
  · exact ⟨(List.append_nil seen).symm ▸ goes.accounted, rfl⟩
  · exact ⟨(List.append_nil seen).symm ▸ goes, rfl⟩

theorem pingGateway_account (icmp : IcmpWire) {active : Lease} (now : Connectivity.DhcpDiagnostics)
    (net : Net stack) (acquired : Acquired ms active) :
    Account icmp ms (pinged (pingGateway active now net).2) [] [] (pingGateway active now net).1 ∧
      verdicts (pingGateway active now net).2 = [] := by
  unfold pingGateway
  split
  · rename_i router routed
    obtain ⟨same, going, quiet⟩ := PingSeries.begin_marks net false router pingCount
    have sent : pinged (.write (.arpBegin router) ::
        (PingSeries.begin net false router pingCount).2.map .ping) =
        (PingSeries.begin net false router pingCount).2 := pinged_pings _
    refine ⟨⟨rfl, acquired, ?_, router, routed, ?_⟩, ?_⟩
    · rw [sent, same, quiet]
      exact ⟨rfl, going⟩
    · rw [sent]
      exact .begin net
    · exact verdicts_pings _
  · rename_i unrouted
    refine pingPublic_account [] [] acquired ⟨rfl, id⟩ ?_
    intro s later laterTimes series
    unfold Behind
    rw [unrouted]
    exact ⟨rfl, series⟩

theorem afterPublic_account {active : Lease} {now : Connectivity.DhcpDiagnostics}
    {s : PingSeries stack} {seen : List InitSmoke.Effect} {times : List UInt64}
    {gateway : PingStats} (acquired : Acquired ms active)
    (confirms : Confirms s.neighborConfirmed (s.point = .reply) (marks seen))
    (behind : Behind icmp active gateway s seen times) :
    Account icmp ms seen times [] (afterPublic active now gateway s) := by
  have goes : Account icmp ms seen times [] (.publicPing active now gateway s) :=
    ⟨rfl, acquired, confirms, behind⟩
  unfold afterPublic
  split
  · rename_i stats returned
    exact ⟨rfl, acquired, behind.requested, behind.tells returned confirms⟩
  · exact goes.accounted
  · exact goes

/-- A step of `keep_polling` changes nothing behind the verdict. -/
theorem keep_account {s u : KeepPolling stack} {seen : List InitSmoke.Effect} {times : List UInt64}
    {told : List (Option (Nat × Nat × Nat × Nat))}
    (account : Account icmp ms seen times told (.keep s)) (m : Running stack) :
    Account icmp (ms ++ [m]) seen times told (.keep u) := by
  rcases account with quiet | ⟨active, summary, one, acquired, rest⟩
  · exact .inl quiet
  · exact .inr ⟨active, summary, one, acquired.later m, rest⟩

theorem step_account (leased : Leased ms r)
    (account : Account icmp ms (pinged (effects ms)) (stamps ms) (verdicts (effects ms)) r)
    (h : networkRunner icmp r input = some (t, out)) :
    Account icmp (ms ++ [⟨r, input, out, t⟩]) (pinged (effects (ms ++ [⟨r, input, out, t⟩])))
      (stamps (ms ++ [⟨r, input, out, t⟩])) (verdicts (effects (ms ++ [⟨r, input, out, t⟩])))
      t := by
  rw [effects_append, effects_singleton, pinged_append, verdicts_append, stamps,
    History.filterMap_snoc]
  change Account icmp _ _ (stamps ms ++ _) _ _
  cases step_cases h with
  | unaddressed | boot | bound | start | enter | late | unleased | idle =>
    obtain ⟨⟨unpinged, unstamped⟩, untold⟩ := account
    rw [unpinged, unstamped, untold]
    exact ⟨⟨rfl, rfl⟩, rfl⟩
  | acquire s at_point traffic event net lines polled =>
    obtain ⟨⟨unpinged, unstamped⟩, untold⟩ := account
    rw [unpinged, unstamped, untold, (writeDhcp_quiet lines).1, (writeDhcp_quiet lines).2]
    exact ⟨⟨rfl, rfl⟩, rfl⟩
  | bindPanic | acquirePanic | acquireSleepPanic | keepPanic | keepSleepPanic | idlePanic =>
    rw [show pinged [] = [] from rfl, show verdicts [] = [] from rfl, List.append_nil,
      List.append_nil]
    have same : stamps ms ++ [] = stamps ms := List.append_nil _
    exact same.symm ▸ account.accounted.later _
  | leased s at_point active held =>
    obtain ⟨⟨unpinged, unstamped⟩, untold⟩ := account
    refine ⟨⟨?_, ?_⟩, ?_, ms, _, rfl, unpinged, ?_⟩
    · rw [unpinged]
      rfl
    · rw [unstamped]
      rfl
    · rw [untold]
      rfl
    · rw [← (leased.net s.net rfl).2, held]
  | timeout net =>
    obtain ⟨⟨unpinged, unstamped⟩, untold⟩ := account
    rw [unpinged, unstamped, untold]
    exact ⟨⟨rfl, rfl⟩, rfl⟩
  | giveUp net now =>
    obtain ⟨⟨unpinged, unstamped⟩, told⟩ := account
    rw [unpinged, told]
    exact .inl ⟨rfl, rfl⟩
  | baseline active net now =>
    obtain ⟨⟨unpinged, unstamped⟩, untold, acquired⟩ := account
    obtain ⟨next, quiet⟩ := pingGateway_account icmp now net
      (acquired.later ⟨.baseline active net, .dhcpDiagnostics now, (pingGateway active now net).2,
        (pingGateway active now net).1⟩)
    rw [unpinged, unstamped, untold, quiet]
    exact next
  | gatewayPing active now s u input sent stepped =>
    obtain ⟨untold, acquired, confirms, router, routed, series⟩ := account
    have confirmed := PingSeries.step_confirms confirms stepped
    rw [← PingSeries.marks_append] at confirmed
    obtain ⟨next, quiet⟩ :=
      afterGateway_account now (acquired.later _) confirmed routed (series.step stepped)
    rw [pinged_append, pinged_pings, verdicts_append, verdicts_pings, untold, quiet,
      ← List.append_assoc]
    exact next
  | publicPing active now gateway s u input sent stepped =>
    obtain ⟨untold, acquired, confirms, behind⟩ := account
    have confirmed := PingSeries.step_confirms confirms stepped
    rw [← PingSeries.marks_append] at confirmed
    rw [pinged_pings, verdicts_pings, untold]
    exact afterPublic_account (acquired.later _) confirmed (behind.step stepped)
  | summary active now gateway stats net dropped =>
    obtain ⟨untold, acquired, requested, tells⟩ := account
    rw [untold]
    have same : stamps ms ++ [] = stamps ms := List.append_nil _
    refine .inr ⟨active, _, rfl, acquired.later _, ?_, ?_⟩
    · exact same.symm ▸ (List.append_nil (pinged (effects ms))).symm ▸ requested
    · exact (List.append_nil (pinged (effects ms))).symm ▸ tells
  | keepPoll s at_point traffic event net lines polled =>
    have same : stamps ms ++ [] = stamps ms := List.append_nil _
    rw [(writeDhcp_quiet lines).1, (writeDhcp_quiet lines).2, List.append_nil, List.append_nil]
    exact same.symm ▸ keep_account account _
  | keepReport s current at_point now =>
    have same : stamps ms ++ [] = stamps ms := List.append_nil _
    rw [(report_quiet s now current).1, (report_quiet s now current).2, List.append_nil,
      List.append_nil]
    exact same.symm ▸ keep_account account _
  | keepStart | keepClock | keepResume =>
    have same : stamps ms ++ [] = stamps ms := List.append_nil _
    rw [show pinged [] = [] from rfl, show verdicts [] = [] from rfl, List.append_nil,
      List.append_nil]
    exact same.symm ▸ keep_account account _

theorem run_account (law : stack.Lawful) {iface : stack.Interface} (bare : stack.Bare iface)
    (room : stack.Room iface) (run : Run (networkRunner icmp) (.boot iface) ms r) :
    Account icmp ms (pinged (effects ms)) (stamps ms) (verdicts (effects ms)) r := by
  refine run.history
    (P := fun ms r => Account icmp ms (pinged (effects ms)) (stamps ms) (verdicts (effects ms)) r)
    ⟨⟨rfl, rfl⟩, rfl⟩ ?_
  intro ms u input v out before account stepped
  exact step_account (run_leased law bare room before) account stepped

/-- Right behind a step a series sends only a request whose time the step has read. -/
theorem step_ready (h : networkRunner icmp r input = some (t, out)) {s : PingSeries stack}
    (runs : series t = some s) (ready : s.point = .send) : input = .ping (.clock s.startedAt) := by
  cases step_cases h with
  | baseline active net now =>
    unfold pingGateway at runs
    split at runs <;> cases runs <;> cases ready
  | gatewayPing active now s' u input sent stepped =>
    unfold afterGateway at runs
    split at runs
    · cases runs
      cases ready
    · cases runs
    · cases runs
      exact congrArg Input.ping (PingSeries.step_ready stepped ready)
  | publicPing active now gateway s' u input sent stepped =>
    unfold afterPublic at runs
    split at runs
    · cases runs
    · cases runs
    · cases runs
      exact congrArg Input.ping (PingSeries.step_ready stepped ready)
  | _ => cases runs

/-- The time of a request is the last reading of the clock ahead of it. -/
theorem stamp_read {iface : stack.Interface} {pre post : List (Running stack)} {m : Running stack}
    {time : UInt64} (run : Run (networkRunner icmp) (.boot iface) (pre ++ m :: post) r)
    (stamped : stamp m = some time) : (readings pre).getLast? = some time := by
  obtain ⟨before, stepped, -⟩ := run.at_move
  have known : ∀ s, series m.before = some s → s.point = .send →
      (readings pre).getLast? = some s.startedAt := by
    refine before.history (P := fun pre r => ∀ s, series r = some s → s.point = .send →
      (readings pre).getLast? = some s.startedAt) (fun _ none => by cases none) ?_
    intro ms u input v out _ _ h s runs ready
    rw [step_ready h runs ready, readings, inputs_append, inputs_singleton,
      History.filterMap_snoc]
    exact List.getLast?_concat
  unfold stamp at stamped
  split at stamped
  · rename_i s input runs asked
    obtain ⟨before, asked', effects, after⟩ := m
    dsimp only at runs asked stepped known
    subst asked
    obtain ⟨u, sent, inner⟩ : ∃ u sent, pingSeries icmp s input = some (u, sent) := by
      cases step_cases stepped with
      | gatewayPing _ _ _ u _ sent inner | publicPing _ _ _ _ u _ sent inner =>
        cases runs
        exact ⟨u, sent, inner⟩
    obtain ⟨ready, rfl⟩ := PingSeries.step_stamp inner stamped
    exact known s runs ready
  · cases stamped

end

end Runner

end Ws63Examples.InitSmoke
