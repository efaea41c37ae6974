import Ws63Examples.Connectivity.Runner

/-! What the renewal marker of the steady loop says about the lease. -/

namespace Ws63Examples.Connectivity

open Execution

variable {stack : Smoltcp}

/-- Both counters have gone up since. -/
def DhcpDiagnostics.Above (base dhcp : DhcpDiagnostics) : Prop :=
  base.clientPackets < dhcp.clientPackets ∧ base.serverPackets < dhcp.serverPackets

/-- A poll that loses the lease, or would. -/
def Input.deconfigures : Input stack → Prop
  | .poll _ (some .deconfigured) => True
  | _ => False

/-- Only a poll touches the network. -/
def Polled (input : Input stack) (net net' : Net stack) : Prop :=
  match input with
  | .poll traffic event => ∃ out, pollNetwork traffic event net = some (net', out)
  | _ => net' = net

theorem pollNetwork_lease {traffic : stack.Traffic} {event : Option DhcpEvent}
    {net net' : Net stack} {out : List Effect}
    (h : pollNetwork traffic event net = some (net', out)) :
    net'.lease = leaseAfter net.lease event := by
  cases pollNetwork_cases h with
  | quiet | configured | deconfigured => rfl

theorem Polled.keeps {input : Input stack} {net net' : Net stack} (polled : Polled input net net')
    (kept : ¬ input.deconfigures) (held : net.lease.isSome) : net'.lease.isSome := by
  unfold Polled at polled
  split at polled
  · rename_i traffic event
    obtain ⟨out, h⟩ := polled
    rw [pollNetwork_lease h]
    cases event with
    | none => exact held
    | some event =>
      cases event with
      | configured config => rfl
      | deconfigured => exact absurd trivial kept
  · rw [polled]
    exact held

theorem Polled.loses {input : Input stack} {net net' : Net stack} (polled : Polled input net net')
    (lost : input.deconfigures) : net'.lease = none := by
  unfold Input.deconfigures at lost
  split at lost
  · obtain ⟨out, h⟩ := polled
    exact pollNetwork_lease h
  · exact absurd lost id

namespace LocalProbe

theorem receive_net (s : LocalProbe stack) (response : Datagram) :
    (s.receive response).1.net = s.net := by
  unfold receive
  split
  · split
    · split
      · rfl
      · split <;> rfl
    · rfl
  · rfl

theorem announce_net (s : LocalProbe stack) (current : UInt64) :
    (s.announce current).1.net = s.net := by
  unfold announce
  split <;> rfl

theorem step_polled {s t : LocalProbe stack} {input : Input stack} {out : List Effect}
    (h : localNeighborProbe s input = some (t, out)) :
    t.point = .panicked ∨ Polled input s.net t.net := by
  cases step_cases h with
  | poll _ _ _ _ _ polled => exact .inr ⟨_, polled⟩
  | pollPanic => exact .inl rfl
  | receive _ response => exact .inr (receive_net s response)
  | pace _ ticks => exact .inr (announce_net s (monotonicMs ticks))
  | send _ _ ok => cases ok <;> exact .inr rfl
  | start | enter | finish | drained | exit | resume => exact .inr rfl

end LocalProbe

namespace DnsProbe

theorem advance_net (s : DnsProbe stack) : s.advance.net = s.net := by
  unfold advance
  split <;> rfl

theorem begin_net (net : Net stack) (targets : List Ipv4Address) :
    (begin net targets).1.net = net := by
  unfold begin
  dsimp only
  split
  · exact advance_net _
  · rfl

theorem sendQuery_net (s : DnsProbe stack) (ok : Bool) :
    (s.sendQuery ok).1.point = .panicked ∨ (s.sendQuery ok).1.net = s.net := by
  unfold sendQuery
  split
  · exact .inl rfl
  · rename_i next query prepared
    have same : next.net = s.net := by
      simp only [prepare, Option.bind_eq_bind, Option.bind_eq_some_iff] at prepared
      obtain ⟨_, -, _, -, ⟨⟩⟩ := prepared
      rfl
    cases ok
    · exact .inr ((advance_net _).trans same)
    · exact .inr same

theorem receive_net (s : DnsProbe stack) (response : Datagram) :
    (s.receive response).1.net = s.net := by
  rcases receive_cases s response with ⟨-, received⟩ | ⟨-, received⟩
  · rw [received]
  · rw [received, reject]

theorem step_polled {s t : DnsProbe stack} {input : Input stack} {out : List Effect}
    (h : dnsProbe s input = some (t, out)) : t.point = .panicked ∨ Polled input s.net t.net := by
  cases step_cases h with
  | send _ ok => exact sendQuery_net s ok
  | timeout => exact .inr (advance_net s)
  | poll _ _ _ _ _ polled => exact .inr ⟨_, polled⟩
  | pollPanic => exact .inl rfl
  | receive _ response => exact .inr (receive_net s response)
  | sent | enter | drained | exit | resume => exact .inr rfl

end DnsProbe

namespace KeepPolling

theorem checkTimer_keeps (s : KeepPolling stack) (current : UInt64) :
    ∃ restartAt, (s.checkTimer current).1 = { s with dhcpRestartAt := restartAt } := by
  unfold checkTimer
  split
  · exact ⟨_, rfl⟩
  · split
    · split
      · exact ⟨_, rfl⟩
      · exact ⟨s.dhcpRestartAt, rfl⟩
    · exact ⟨_, rfl⟩

theorem step_polled {s t : KeepPolling stack} {input : Input stack} {out : List Effect}
    (h : keepPolling s input = some (t, out)) : t.point = .panicked ∨ Polled input s.net t.net := by
  cases step_cases h with
  | poll _ _ _ _ _ _ polled => exact .inr ⟨_, polled⟩
  | pollPanic => exact .inl rfl
  | clock _ ticks =>
    obtain ⟨restartAt, same⟩ := checkTimer_keeps s (monotonicMs ticks)
    refine .inr ?_
    dsimp only
    rw [same]
    rfl
  | diagnostics current _ dhcp =>
    obtain ⟨reported, renewal⟩ := (reportRenewal_same s dhcp).1
    obtain ⟨next, alive⟩ := (heartbeat_same (s.reportRenewal dhcp).1 current).1
    refine .inr ?_
    dsimp only
    rw [alive, renewal]
    rfl
  | start | exit | resume => exact .inr rfl

end KeepPolling

/-- `A4_DHCP_RENEW_OK` is written. -/
def writesRenewOk (out : List Effect) : Prop := ∃ client server, .write (.renewOk client server) ∈ out

theorem pollNetwork_silent {traffic : stack.Traffic} {event : Option DhcpEvent}
    {net net' : Net stack} {out : List Effect}
    (h : pollNetwork traffic event net = some (net', out)) : ¬ writesRenewOk out := by
  rintro ⟨client, server, marker⟩
  cases pollNetwork_cases h with
  | quiet => exact absurd marker List.not_mem_nil
  | configured config =>
    have line := List.mem_singleton.mp marker
    split at line <;> cases line
  | deconfigured => cases held : net.lease <;> simp [held] at marker

theorem waitPollInterval_silent {event : Option WifiEvent} {exit : Option NetworkExit}
    {out : List Effect} (h : waitPollInterval event = (exit, out)) : ¬ writesRenewOk out := by
  rintro ⟨client, server, marker⟩
  cases event with
  | none =>
    cases h
    exact absurd marker List.not_mem_nil
  | some event =>
    cases event <;>
      · cases h
        cases List.mem_singleton.mp marker

namespace KeepPolling

theorem checkTimer_silent (s : KeepPolling stack) (current : UInt64) :
    ¬ writesRenewOk (s.checkTimer current).2 := by
  rintro ⟨client, server, marker⟩
  unfold checkTimer at marker
  split at marker
  · exact absurd marker List.not_mem_nil
  · split at marker
    · split at marker
      · simp at marker
      · exact absurd marker List.not_mem_nil
    · exact absurd marker List.not_mem_nil

theorem heartbeat_silent (s : KeepPolling stack) (current : UInt64) :
    ¬ writesRenewOk (s.heartbeat current).2 := by
  rintro ⟨client, server, marker⟩
  unfold heartbeat at marker
  split at marker
  · cases List.mem_singleton.mp marker
  · exact absurd marker List.not_mem_nil

/-- The marker is written for the first reading above the baseline. -/
theorem reportRenewal_spec (s : KeepPolling stack) (dhcp : DhcpDiagnostics) :
    (writesRenewOk (s.reportRenewal dhcp).2 ↔
      s.renewReported = false ∧ s.dhcpBaseline.Above dhcp) ∧
    ((s.reportRenewal dhcp).1.renewReported = true ↔
      s.renewReported = true ∨ s.dhcpBaseline.Above dhcp) := by
  unfold reportRenewal DhcpDiagnostics.Above
  split
  · rename_i reports
    exact ⟨⟨fun _ => ⟨by simpa using reports.1, reports.2⟩, fun _ => ⟨_, _, List.mem_singleton_self _⟩⟩,
      ⟨fun _ => .inr reports.2, fun _ => rfl⟩⟩
  · rename_i silent
    refine ⟨⟨?_, ?_⟩, ⟨.inl, ?_⟩⟩
    · rintro ⟨client, server, marker⟩
      exact absurd marker List.not_mem_nil
    · rintro ⟨unreported, above⟩
      exact absurd ⟨by simp [unreported], above⟩ silent
    · rintro (reported | above)
      · exact reported
      · by_contra unreported
        exact silent ⟨unreported, above⟩

/-- What the runner keeps for its marker. -/
structure Remembers (s t : KeepPolling stack) (input : Input stack) (out : List Effect) :
    Prop where
  baseline : t.dhcpBaseline = s.dhcpBaseline
  begun : t.point ≠ .start
  marker : writesRenewOk out ↔
    ∃ dhcp, input = .dhcpDiagnostics dhcp ∧ s.renewReported = false ∧ s.dhcpBaseline.Above dhcp
  reported : (s.point = .start → s.renewReported = false) → (t.renewReported = true ↔
    s.renewReported = true ∨ ∃ dhcp, input = .dhcpDiagnostics dhcp ∧ s.dhcpBaseline.Above dhcp)

theorem Remembers.quiet {s t : KeepPolling stack} {input : Input stack} {out : List Effect}
    (baseline : t.dhcpBaseline = s.dhcpBaseline) (begun : t.point ≠ .start)
    (reported : (s.point = .start → s.renewReported = false) → t.renewReported = s.renewReported)
    (other : ∀ dhcp, input ≠ .dhcpDiagnostics dhcp) (silent : ¬ writesRenewOk out) :
    Remembers s t input out where
  baseline := baseline
  begun := begun
  marker := ⟨fun marker => absurd marker silent, fun ⟨dhcp, read, _⟩ => absurd read (other dhcp)⟩
  reported := by
    intro fresh
    rw [reported fresh]
    exact ⟨.inl, fun h => h.resolve_right fun ⟨dhcp, read, _⟩ => other dhcp read⟩

theorem step_remembers {s t : KeepPolling stack} {input : Input stack} {out : List Effect}
    (h : keepPolling s input = some (t, out)) : Remembers s t input out := by
  have none_silent : ¬ writesRenewOk [] := fun ⟨_, _, marker⟩ => absurd marker List.not_mem_nil
  cases step_cases h with
  | start at_point ticks =>
    exact .quiet rfl nofun (fun fresh => (fresh at_point).symm) nofun none_silent
  | poll at_point traffic event net out loss polled lost =>
    refine .quiet rfl nofun (fun _ => rfl) nofun ?_
    rintro ⟨client, server, marker⟩
    rcases List.mem_append.mp marker with marker | marker
    · exact pollNetwork_silent polled ⟨client, server, marker⟩
    · rw [lost] at marker
      split at marker <;> simp at marker
  | pollPanic => exact .quiet rfl nofun (fun _ => rfl) nofun none_silent
  | clock at_point ticks =>
    obtain ⟨restartAt, same⟩ := checkTimer_keeps s (monotonicMs ticks)
    refine .quiet ?_ nofun ?_ nofun (checkTimer_silent s _)
    · rw [same]
    · rw [same]
      exact fun _ => rfl
  | diagnostics current at_point dhcp =>
    obtain ⟨marker, reported⟩ := reportRenewal_spec s dhcp
    obtain ⟨_, renewal⟩ := (reportRenewal_same s dhcp).1
    obtain ⟨_, alive⟩ := (heartbeat_same (s.reportRenewal dhcp).1 current).1
    refine ⟨?_, nofun, ?_, ?_⟩
    · rw [alive, renewal]
    · have same : writesRenewOk ((s.reportRenewal dhcp).2 ++
          ((s.reportRenewal dhcp).1.heartbeat current).2) ↔
          writesRenewOk (s.reportRenewal dhcp).2 := by
        constructor
        · rintro ⟨client, server, written⟩
          refine ⟨client, server, (List.mem_append.mp written).resolve_right fun beat => ?_⟩
          exact heartbeat_silent _ _ ⟨client, server, beat⟩
        · rintro ⟨client, server, written⟩
          exact ⟨client, server, List.mem_append_left _ written⟩
      rw [same, marker]
      constructor
      · exact fun first => ⟨dhcp, rfl, first⟩
      · rintro ⟨_, ⟨⟩, first⟩
        exact first
    · intro _
      rw [alive]
      dsimp only
      rw [reported]
      refine or_congr_right ⟨fun above => ⟨dhcp, rfl, above⟩, ?_⟩
      rintro ⟨_, ⟨⟩, above⟩
      exact above
  | exit _ _ _ _ waited =>
    exact .quiet rfl nofun (fun _ => rfl) nofun (waitPollInterval_silent waited)
  | resume _ _ _ waited =>
    exact .quiet rfl nofun (fun _ => rfl) nofun (waitPollInterval_silent waited)

end KeepPolling

namespace Runner

/-- The network and the baseline, once that was taken. -/
def since : Runner stack → Option (Net stack × DhcpDiagnostics)
  | .probe _ base s => some (s.net, base)
  | .dns _ base _ s => some (s.net, base)
  | .gate _ base _ _ net => some (net, base)
  | .summary base _ net => some (net, base)
  | .keep s => some (s.net, s.dhcpBaseline)
  | _ => none

def Holds (r : Runner stack) : Prop := ∃ net base, r.since = some (net, base) ∧ net.lease.isSome

theorem Ended.stuck {r : Runner stack} (ended : r.Ended) (input : Input stack) :
    networkRunner r input = none := by
  cases r <;> first | rfl | exact absurd ended id

theorem Ended.since_none {r : Runner stack} (ended : r.Ended) : r.since = none := by
  cases r <;> first | rfl | exact absurd ended id

theorem Ended.not_holds {r : Runner stack} (ended : r.Ended) : ¬ r.Holds := by
  rintro ⟨net, base, same, -⟩
  cases ended.since_none.symm.trans same

theorem afterDns_since (active : Lease) (base : DhcpDiagnostics) (localEcho : Bool)
    (s : DnsProbe stack) :
    (afterDns active base localEcho s).Ended ∨
      s.point ≠ .panicked ∧ (afterDns active base localEcho s).since = some (s.net, base) := by
  unfold afterDns
  cases s.point with
  | returned result =>
    cases result with
    | error exit => exact .inl trivial
    | ok stats => exact .inr ⟨nofun, rfl⟩
  | panicked => exact .inl trivial
  | _ => exact .inr ⟨nofun, rfl⟩

theorem afterProbe_since (active : Lease) (base : DhcpDiagnostics) (s : LocalProbe stack) :
    (afterProbe active base s).1.Ended ∨
      s.point ≠ .panicked ∧ (afterProbe active base s).1.since = some (s.net, base) := by
  unfold afterProbe
  cases s.point with
  | returned result =>
    cases result with
    | error exit => exact .inl trivial
    | ok localEcho =>
      dsimp only
      split
      · rcases afterDns_since active base localEcho (DnsProbe.begin s.net publicTargets).1 with
          ended | ⟨-, same⟩
        · exact .inl ended
        · rw [DnsProbe.begin_net] at same
          exact .inr ⟨nofun, same⟩
      · exact .inr ⟨nofun, rfl⟩
  | panicked => exact .inl trivial
  | _ => exact .inr ⟨nofun, rfl⟩

theorem afterKeep_since (s : KeepPolling stack) :
    (afterKeep s).Ended ∨ s.point ≠ .panicked ∧ afterKeep s = .keep s := by
  unfold afterKeep
  cases s.point with
  | returned | panicked => exact .inl trivial
  | _ => exact .inr ⟨nofun, rfl⟩

/-- Behind the baseline a step ends the run, or keeps the baseline and polls at most. -/
theorem step_since {r r' : Runner stack} {input : Input stack} {out : List Effect}
    (h : networkRunner r input = some (r', out)) {net : Net stack} {base : DhcpDiagnostics}
    (behind : r.since = some (net, base)) :
    r'.Ended ∨ ∃ net', r'.since = some (net', base) ∧ Polled input net net' := by
  cases r with
  | probe active base s =>
    cases behind
    obtain ⟨t, mid, stepped, rfl, -⟩ := probe_step h
    apply (afterProbe_since active base t).imp_right
    rintro ⟨going, same⟩
    exact ⟨t.net, same, (LocalProbe.step_polled stepped).resolve_left going⟩
  | dns active base localEcho s =>
    cases behind
    obtain ⟨t, stepped, rfl⟩ := dns_step h
    apply (afterDns_since active base localEcho t).imp_right
    rintro ⟨going, same⟩
    exact ⟨t.net, same, (DnsProbe.step_polled stepped).resolve_left going⟩
  | gate active base localEcho stats net | summary base stats net =>
    cases behind
    cases input with
    | l2Diagnostics l2 =>
      cases h
      exact .inr ⟨net, rfl, rfl⟩
    | _ => cases h
  | keep s =>
    cases behind
    obtain ⟨t, stepped, rfl⟩ := keep_step h
    apply (afterKeep_since t).imp_right
    rintro ⟨going, same⟩
    refine ⟨t.net, ?_, (KeepPolling.step_polled stepped).resolve_left going⟩
    rw [same, since, (KeepPolling.step_remembers stepped).baseline]
  | boot | dhcp | baseline | halted | returned | panicked => cases behind

/-- Behind the baseline a run ends or keeps it. -/
theorem run_since {r t : Runner stack} {ms : List (Running stack)} (run : Run networkRunner r ms t)
    {net : Net stack} {base : DhcpDiagnostics} (behind : r.since = some (net, base)) :
    t.Ended ∨ ∃ net', t.since = some (net', base) := by
  refine run.history (P := fun _ t => t.Ended ∨ ∃ net', t.since = some (net', base))
    (.inr ⟨net, behind⟩) ?_
  rintro ms u input v out - (ended | ⟨net', same⟩) h
  · cases (ended.stuck input).symm.trans h
  · exact (step_since h same).imp_right fun ⟨net'', same', _⟩ => ⟨net'', same'⟩

/-- A lease is held as long as no poll deconfigures the client. -/
theorem run_holds {r t : Runner stack} {ms : List (Running stack)} (run : Run networkRunner r ms t)
    (held : r.Holds) (kept : ∀ k ∈ ms, ¬ k.input.deconfigures) : t.Ended ∨ t.Holds := by
  refine run.history (P := fun ms t => (∀ k ∈ ms, ¬ k.input.deconfigures) → t.Ended ∨ t.Holds)
    (fun _ => .inr held) ?_ kept
  intro ms u input v out _ before h kept
  have kept_before : ∀ k ∈ ms, ¬ k.input.deconfigures :=
    fun k hk => kept k (List.mem_append_left _ hk)
  rcases before kept_before with ended | ⟨net, base, same, held⟩
  · cases (ended.stuck input).symm.trans h
  · apply (step_since h same).imp_right
    rintro ⟨net', same', polled⟩
    exact ⟨net', base, same', polled.keeps (kept ⟨u, input, out, v⟩ (by simp)) held⟩

theorem not_ended {r t : Runner stack} {ms : List (Running stack)} (run : Run networkRunner r ms t)
    (goes : ms ≠ []) : ¬ r.Ended := by
  intro ended
  cases ms with
  | nil => exact goes rfl
  | cons m ms =>
    obtain ⟨-, stepped, -⟩ := run.uncons
    cases (ended.stuck m.input).symm.trans stepped

/-- The reading that becomes the baseline. -/
def TakesBaseline (m : Running stack) (base : DhcpDiagnostics) : Prop :=
  (∃ active net, m.before = .baseline active net) ∧ m.input = .dhcpDiagnostics base

/-- A reading of the counters in the steady loop. -/
def reads (m : Running stack) (dhcp : DhcpDiagnostics) : Prop :=
  (∃ s, m.before = .keep s) ∧ m.input = .dhcpDiagnostics dhcp

/-- The steady loop writes `A4_DHCP_RENEW_OK`. -/
def Renews (m : Running stack) : Prop := (∃ s, m.before = .keep s) ∧ writesRenewOk m.effects

def polls (m : Running stack) : Prop := ∃ traffic event, m.input = .poll traffic event

/-- Every marker comes with a lease that is held, and that every poll since the
baseline left held. -/
def Certifies (ms : List (Running stack)) : Prop :=
  ∀ pre m post, ms = pre ++ m :: post → Renews m → m.before.Holds ∧
    ∀ early b since base, pre = early ++ b :: since → TakesBaseline b base →
      ∀ k ∈ since, polls k → k.after.Holds

/-- No poll deconfigures the client between the baseline and the first reading
above it. -/
def Undisturbed (ms : List (Running stack)) : Prop :=
  ∀ early b since m post base dhcp, ms = early ++ b :: (since ++ m :: post) →
    TakesBaseline b base → reads m dhcp → base.Above dhcp →
    (∀ k ∈ since, ∀ dhcp, reads k dhcp → ¬ base.Above dhcp) → ∀ k ∈ since, ¬ k.input.deconfigures

theorem resume_lease {s : Acquisition stack} {active : Lease}
    (h : s.resume.point = .returned (.ok (some active))) : s.resume.net.lease = some active := by
  unfold Acquisition.resume at *
  cases held : s.net.lease with
  | some lease =>
    rw [held] at h
    cases h
    exact held
  | none =>
    rw [held] at h
    cases h

theorem acquired_lease {s t : Acquisition stack} {input : Input stack} {out : List Effect}
    (h : acquireLease s input = some (t, out)) {active : Lease}
    (returned : t.point = .returned (.ok (some active))) : t.net.lease = some active := by
  cases Acquisition.step_cases h with
  | start | resume => exact resume_lease returned
  | enter | timeout | poll | pollPanic | exit => cases returned

/-- The baseline is taken with the lease just acquired. -/
theorem step_baseline {r r' : Runner stack} {input : Input stack} {out : List Effect}
    (h : networkRunner r input = some (r', out)) {active : Lease} {net : Net stack}
    (at_baseline : r' = .baseline active net) : net.lease = some active := by
  have past {r : Runner stack} (behind : r.Ended ∨ ∃ pair, r.since = some pair) :
      r ≠ .baseline active net := by
    rintro rfl
    rcases behind with ended | ⟨_, ⟨⟩⟩
    exact ended
  cases r with
  | boot iface =>
    cases input with
    | stationMacAddress present =>
      cases present <;>
        · cases h
          cases at_baseline
    | _ => cases h
  | dhcp s =>
    obtain ⟨t, mid, stepped, rfl, -⟩ := dhcp_step h
    unfold afterDhcp at at_baseline
    split at at_baseline <;> cases at_baseline
    rename_i returned
    exact acquired_lease stepped returned
  | baseline active' net' =>
    cases input with
    | dhcpDiagnostics base =>
      cases h
      cases at_baseline
    | _ => cases h
  | probe | dns | gate | summary | keep =>
    refine absurd at_baseline (past ((step_since h rfl).imp_right ?_))
    rintro ⟨net', same, -⟩
    exact ⟨_, same⟩
  | halted | returned | panicked => cases h

/-- What the runner goes on with when it takes its baseline. -/
theorem baseline_taken {iface : stack.Interface} {early post : List (Running stack)}
    {b : Running stack} {s : Runner stack} {base : DhcpDiagnostics}
    (run : Run networkRunner (.boot iface) (early ++ b :: post) s) (takes : TakesBaseline b base) :
    ∃ active net, b.after = .probe active base (.begin net (localTarget active)) ∧
      net.lease = some active := by
  obtain ⟨before, step, -⟩ := run.at_move
  obtain ⟨⟨active, net, at_baseline⟩, read⟩ := takes
  rw [at_baseline, read] at step
  obtain ⟨after, -⟩ := answer_parts step
  refine ⟨active, net, after.symm, ?_⟩
  have reached := before.history (P := fun _ r => ∀ active net, r = .baseline active net →
    net.lease = some active) (fun _ _ h => nomatch h) fun _ _ _ _ _ _ _ h _ _ => step_baseline h
  exact reached active net at_baseline

/-- The steady loop is entered fresh, and left only for good. -/
theorem step_keep {r r' : Runner stack} {input : Input stack} {out : List Effect}
    (h : networkRunner r input = some (r', out)) {s : KeepPolling stack} (at_keep : r' = .keep s) :
    (∃ t, r = .keep t) ∨ s.point = .start ∧ s.renewReported = false := by
  cases r with
  | keep t => exact .inl ⟨t, rfl⟩
  | summary base stats net =>
    cases input with
    | l2Diagnostics l2 =>
      cases h
      cases at_keep
      exact .inr ⟨rfl, rfl⟩
    | _ => cases h
  | boot iface =>
    cases input with
    | stationMacAddress present =>
      cases present <;>
        · cases h
          cases at_keep
    | _ => cases h
  | dhcp s =>
    obtain ⟨t, mid, stepped, rfl, -⟩ := dhcp_step h
    unfold afterDhcp at at_keep
    split at at_keep <;> cases at_keep
  | baseline active net =>
    cases input with
    | dhcpDiagnostics base =>
      cases h
      cases at_keep
    | _ => cases h
  | probe active base s =>
    obtain ⟨t, mid, stepped, rfl, -⟩ := probe_step h
    unfold afterProbe at at_keep
    split at at_keep
    · cases at_keep
    · split at at_keep
      · dsimp only [afterDns] at at_keep
        split at at_keep <;> cases at_keep
      · cases at_keep
    · cases at_keep
    · cases at_keep
  | dns active base localEcho s =>
    obtain ⟨t, stepped, rfl⟩ := dns_step h
    unfold afterDns at at_keep
    split at at_keep <;> cases at_keep
  | gate active base localEcho stats net =>
    cases input with
    | l2Diagnostics l2 =>
      cases h
      cases at_keep
    | _ => cases h
  | halted | returned | panicked => cases h

/-- What the steady loop has reported of the readings since the baseline. -/
structure Reported (base : DhcpDiagnostics) (ms : List (Running stack)) (r : Runner stack) :
    Prop where
  loop : ∀ s, r = .keep s → (s.point = .start → s.renewReported = false) ∧
    (s.renewReported = true ↔ ∃ k ∈ ms, ∃ dhcp, reads k dhcp ∧ base.Above dhcp)
  before : ¬ r.Ended → (∀ s, r ≠ .keep s) → ∀ k ∈ ms, ∀ dhcp, ¬ reads k dhcp

theorem step_reported {base : DhcpDiagnostics} {ms : List (Running stack)} {r r' : Runner stack}
    {net : Net stack} (behind : r.since = some (net, base)) (reported : Reported base ms r)
    {input : Input stack} {out : List Effect} (h : networkRunner r input = some (r', out)) :
    Reported base (ms ++ [⟨r, input, out, r'⟩]) r' := by
  have going : ¬ r.Ended := fun ended => nomatch (ended.stuck input).symm.trans h
  by_cases at_keep : ∃ s, r = .keep s
  · obtain ⟨s, rfl⟩ := at_keep
    obtain ⟨fresh, so_far⟩ := reported.loop s rfl
    obtain ⟨t, stepped, rfl⟩ := keep_step h
    have remembers := KeepPolling.step_remembers stepped
    have same : s.dhcpBaseline = base := congrArg Prod.snd (Option.some.inj behind)
    constructor
    · intro u at_keep
      obtain rfl : t = u := by
        rcases afterKeep_since t with ended | ⟨-, same⟩
        · rw [at_keep] at ended
          exact absurd ended id
        · exact Runner.keep.inj (same.symm.trans at_keep)
      refine ⟨fun at_start => absurd at_start remembers.begun, ?_⟩
      rw [remembers.reported fresh, so_far, same]
      constructor
      · rintro (⟨k, hk, read⟩ | ⟨dhcp, read, above⟩)
        · exact ⟨k, List.mem_append_left _ hk, read⟩
        · exact ⟨⟨.keep s, input, out, afterKeep t⟩, by simp, dhcp, ⟨⟨s, rfl⟩, read⟩, above⟩
      · rintro ⟨k, hk, dhcp, read, above⟩
        rcases List.mem_append.mp hk with hk | hk
        · exact .inl ⟨k, hk, dhcp, read, above⟩
        · obtain rfl := List.mem_singleton.mp hk
          exact .inr ⟨dhcp, read.2, above⟩
    · intro going' other
      rcases afterKeep_since t with ended | ⟨-, same⟩
      · exact absurd ended going'
      · exact absurd same (other t)
  · have quiet : ∀ k ∈ ms ++ [⟨r, input, out, r'⟩], ∀ dhcp, ¬ reads k dhcp := by
      intro k hk dhcp read
      rcases List.mem_append.mp hk with hk | hk
      · exact reported.before going (fun s here => at_keep ⟨s, here⟩) k hk dhcp read
      · obtain rfl := List.mem_singleton.mp hk
        exact at_keep read.1
    constructor
    · intro s entered
      obtain ⟨-, unreported⟩ := (step_keep h entered).resolve_left at_keep
      refine ⟨fun _ => unreported, ?_⟩
      rw [unreported]
      constructor
      · exact nofun
      · rintro ⟨k, hk, dhcp, read, -⟩
        exact absurd read (quiet k hk dhcp)
    · exact fun _ _ => quiet

theorem run_reported {active : Lease} {base : DhcpDiagnostics} {s : LocalProbe stack}
    {ms : List (Running stack)} {r : Runner stack}
    (run : Run networkRunner (.probe active base s) ms r) : Reported base ms r := by
  have start : Reported base [] (.probe active base s) :=
    ⟨fun _ entered => (nomatch entered), fun _ _ _ hk => absurd hk List.not_mem_nil⟩
  apply run.history (P := Reported base) start
  intro ms u input v out run reported h
  rcases run_since run rfl with ended | ⟨net, same⟩
  · cases (ended.stuck input).symm.trans h
  · exact step_reported same reported h

/-- A reading writes the marker exactly when it is the first above the baseline. -/
theorem renews_iff {active : Lease} {base : DhcpDiagnostics} {s : LocalProbe stack}
    {since post : List (Running stack)} {m : Running stack} {r : Runner stack}
    (run : Run networkRunner (.probe active base s) (since ++ m :: post) r) :
    Renews m ↔ ∃ dhcp, reads m dhcp ∧ base.Above dhcp ∧
      ∀ k ∈ since, ∀ dhcp, reads k dhcp → ¬ base.Above dhcp := by
  obtain ⟨before, step, -⟩ := run.at_move
  have facts {loop : KeepPolling stack} (at_keep : m.before = .keep loop) :
      (writesRenewOk m.effects ↔ ∃ dhcp, m.input = .dhcpDiagnostics dhcp ∧
        loop.renewReported = false ∧ base.Above dhcp) ∧
      (loop.renewReported = false ↔ ∀ k ∈ since, ∀ dhcp, reads k dhcp → ¬ base.Above dhcp) := by
    rw [at_keep] at before step
    obtain ⟨t, stepped, -⟩ := keep_step step
    have same : loop.dhcpBaseline = base := by
      rcases run_since before rfl with ended | ⟨net, same⟩
      · exact absurd ended id
      · exact congrArg Prod.snd (Option.some.inj same)
    have marker := (KeepPolling.step_remembers stepped).marker
    rw [same] at marker
    refine ⟨marker, ?_⟩
    rw [← Bool.not_eq_true, ((run_reported before).loop loop rfl).2]
    push Not
    rfl
  constructor
  · rintro ⟨⟨loop, at_keep⟩, marker⟩
    obtain ⟨written, unreported⟩ := facts at_keep
    obtain ⟨dhcp, read, fresh, above⟩ := written.mp marker
    exact ⟨dhcp, ⟨⟨loop, at_keep⟩, read⟩, above, unreported.mp fresh⟩
  · rintro ⟨dhcp, ⟨⟨loop, at_keep⟩, read⟩, above, first⟩
    obtain ⟨written, unreported⟩ := facts at_keep
    exact ⟨⟨loop, at_keep⟩, written.mpr ⟨dhcp, read, unreported.mpr first, above⟩⟩

/-- A move that puts the run behind its baseline takes it. -/
theorem step_takes {r r' : Runner stack} {input : Input stack} {out : List Effect}
    (h : networkRunner r input = some (r', out)) {pair : Net stack × DhcpDiagnostics}
    (behind : r'.since = some pair) :
    (∃ pair, r.since = some pair) ∨ ∃ base, TakesBaseline ⟨r, input, out, r'⟩ base := by
  cases r with
  | baseline active net =>
    cases input with
    | dhcpDiagnostics base => exact .inr ⟨base, ⟨active, net, rfl⟩, rfl⟩
    | _ => cases h
  | boot iface =>
    cases input with
    | stationMacAddress present =>
      cases present <;>
        · cases h
          cases behind
    | _ => cases h
  | dhcp s =>
    obtain ⟨t, mid, stepped, rfl, -⟩ := dhcp_step h
    unfold afterDhcp at behind
    split at behind <;> cases behind
  | probe | dns | gate | summary | keep => exact .inl ⟨_, rfl⟩
  | halted | returned | panicked => cases h

theorem baseline_before {iface : stack.Interface} {ms : List (Running stack)} {r : Runner stack}
    (run : Run networkRunner (.boot iface) ms r) {pair : Net stack × DhcpDiagnostics}
    (behind : r.since = some pair) :
    ∃ early b since base, ms = early ++ b :: since ∧ TakesBaseline b base := by
  refine run.history (P := fun ms r => ∀ pair, r.since = some pair →
    ∃ early b since base, ms = early ++ b :: since ∧ TakesBaseline b base) nofun ?_ pair behind
  intro ms u input v out _ before h pair behind
  rcases step_takes h behind with ⟨pair, was⟩ | ⟨base, takes⟩
  · obtain ⟨early, b, since, base, rfl, takes⟩ := before pair was
    exact ⟨early, b, since ++ [⟨u, input, out, v⟩], base, by simp, takes⟩
  · exact ⟨ms, _, [], base, rfl, takes⟩

/-- A run that goes on behind its baseline holds its lease while no poll
deconfigures the client. -/
theorem taken_holds {iface : stack.Interface} {early since post : List (Running stack)}
    {b : Running stack} {s t : Runner stack} {base : DhcpDiagnostics}
    (run : Run networkRunner (.boot iface) (early ++ b :: (since ++ post)) s)
    (takes : TakesBaseline b base) (middle : Run networkRunner b.after since t)
    (rest : Run networkRunner t post s) (goes : post ≠ [])
    (kept : ∀ k ∈ since, ¬ k.input.deconfigures) : t.Holds := by
  obtain ⟨active, net, probes, held⟩ := baseline_taken run takes
  have start : b.after.Holds := ⟨net, base, by rw [probes]; rfl, by rw [held]; rfl⟩
  exact (run_holds middle start kept).resolve_left (not_ended rest goes)

theorem deconfigured_lost {r r' : Runner stack} {input : Input stack} {out : List Effect}
    (h : networkRunner r input = some (r', out)) {net : Net stack} {base : DhcpDiagnostics}
    (behind : r.since = some (net, base)) (lost : input.deconfigures) : ¬ r'.Holds := by
  rcases step_since h behind with ended | ⟨net', same, polled⟩
  · exact ended.not_holds
  · rintro ⟨net'', base', same', held⟩
    obtain ⟨rfl, -⟩ := Prod.mk.inj (Option.some.inj (same.symm.trans same'))
    rw [polled.loses lost] at held
    cases held

/-- What the marker says of the lease holds exactly in the runs whose polls
deconfigure nothing before the first reading above the baseline. -/
theorem renewal_certifies_iff (iface : stack.Interface) (ms : List (Running stack))
    (s : Runner stack) (run : Run networkRunner (.boot iface) ms s) :
    Certifies ms ↔ Undisturbed ms := by
  constructor
  · rintro certifies early b since m post base dhcp rfl takes read above first k hk lost
    obtain ⟨active, net, probes, -⟩ := baseline_taken run takes
    obtain ⟨-, -, behind⟩ := run.at_move
    rw [probes] at behind
    have renews := (renews_iff behind).mpr ⟨dhcp, read, above, first⟩
    have polled : polls k := by
      unfold Input.deconfigures at lost
      split at lost
      · rename_i traffic polled
        exact ⟨traffic, _, polled⟩
      · exact absurd lost id
    obtain ⟨-, held⟩ := certifies (early ++ b :: since) m post (by simp) renews
    have holds := held early b since base rfl takes k hk polled
    obtain ⟨mid, rest, rfl⟩ := List.append_of_mem hk
    rw [List.append_assoc] at behind
    obtain ⟨before, step, -⟩ := behind.at_move
    rcases run_since before rfl with ended | ⟨net', same⟩
    · cases (ended.stuck k.input).symm.trans step
    · exact deconfigured_lost step same lost holds
  · rintro undisturbed pre m post rfl renews
    have kept {early since : List (Running stack)} {b : Running stack} {base : DhcpDiagnostics}
        (split : pre = early ++ b :: since) (takes : TakesBaseline b base) :
        ∀ k ∈ since, ¬ k.input.deconfigures := by
      have split' : pre ++ m :: post = early ++ b :: (since ++ m :: post) := by simp [split]
      obtain ⟨active, net, probes, -⟩ := baseline_taken (split' ▸ run) takes
      obtain ⟨-, -, behind⟩ := (split' ▸ run).at_move
      rw [probes] at behind
      obtain ⟨dhcp, read, above, first⟩ := (renews_iff behind).mp renews
      exact undisturbed early b since m post base dhcp split' takes read above first
    constructor
    · obtain ⟨before, -, -⟩ := run.at_move
      obtain ⟨loop, at_keep⟩ := renews.1
      have behind : m.before.since = some (loop.net, loop.dhcpBaseline) := by rw [at_keep]; rfl
      obtain ⟨early, b, since, base, split, takes⟩ := baseline_before before behind
      have split' : pre ++ m :: post = early ++ b :: (since ++ m :: post) := by simp [split]
      obtain ⟨-, -, behind⟩ := (split' ▸ run).at_move
      obtain ⟨middle, step, rest⟩ := behind.at_move
      exact taken_holds (split' ▸ run) takes middle ((Run.single step).trans rest) (by simp)
        (kept split takes)
    · intro early b since base split takes k hk _
      have quiet := kept split takes
      obtain ⟨mid, rest, rfl⟩ := List.append_of_mem hk
      have split' : pre ++ m :: post =
          early ++ b :: ((mid ++ [k]) ++ (rest ++ m :: post)) := by simp [split]
      obtain ⟨-, -, behind⟩ := (split' ▸ run).at_move
      rw [List.append_assoc, List.singleton_append] at behind
      obtain ⟨before, step, later⟩ := behind.at_move
      apply taken_holds (split' ▸ run) takes (before.trans (Run.single step)) later (by simp)
      intro j hj
      apply quiet j
      simp only [List.mem_append, List.mem_cons, List.not_mem_nil, or_false] at hj ⊢
      exact hj.imp_right .inl

/-- `plainStack`, where the traffic of a poll is the DHCP datagrams sent and
received in it. -/
def countingStack : Smoltcp := { plainStack with Traffic := Nat × Nat, poll := fun _ i => i }

def countingIface : countingStack.Interface := PlainInterface.mk [] none

/-- Every reading is the number of datagrams sent and received so far. -/
def counts (client server : Nat) : List (Input countingStack) → Bool
  | [] => true
  | .poll traffic _ :: is => counts (client + traffic.1) (server + traffic.2) is
  | .dhcpDiagnostics total :: is =>
    total.clientPackets.toNat = client && total.serverPackets.toNat = server &&
      counts client server is
  | _ :: is => counts client server is

/-- A lease without a router is acquired, no neighbour answers within 12 s, the
loop starts and sends a renewal. -/
def renewingScript : List (Input countingStack) :=
  [.stationMacAddress true, .clock 0, .clock 0,
    .poll (2, 2) (some (.configured ⟨⟨⟨192, 168, 4, 2⟩, 24⟩, ⟨192, 168, 4, 1⟩, none⟩)),
    .nextEvent none, .dhcpDiagnostics ⟨2, 2⟩, .clock 0, .clock 288000000, .l2Diagnostics ⟨0, 0⟩,
    .l2Diagnostics ⟨0, 0⟩, .clock 288000000, .poll (1, 0) none, .clock 288000000,
    .dhcpDiagnostics ⟨3, 2⟩, .nextEvent none]

/-- The renewal is acknowledged. -/
theorem renewal_certifies_iff_renewed :
    ∃ ms s, Run networkRunner (.boot countingIface) ms s ∧
      counts 0 0 (inputs ms) = true ∧ (Certifies ms ↔ Undisturbed ms) ∧ ∃ m ∈ ms, Renews m := by
  have run : Run networkRunner (.boot countingIface) _ _ :=
    exec_run (renewingScript ++ [.poll (0, 1) none, .clock 288240000]) rfl
  have renewed := run.next (i := .dhcpDiagnostics ⟨3, 3⟩) rfl
  refine ⟨_, _, renewed, rfl, renewal_certifies_iff _ _ _ renewed, _,
    List.mem_append_right _ (List.mem_singleton_self _), ⟨_, rfl⟩, 1, 1, ?_⟩
  exact List.mem_singleton_self _

/-- The renewal is refused, and counted as one. -/
theorem renew_ok_without_lease :
    ∃ ms s, Run networkRunner (.boot countingIface) ms s ∧
      counts 0 0 (inputs ms) = true ∧ ¬ Certifies ms := by
  have run : Run networkRunner (.boot countingIface) _ _ :=
    exec_run (renewingScript ++ [.poll (0, 1) (some .deconfigured), .clock 288240000]) rfl
  have marked := run.next (i := .dhcpDiagnostics ⟨3, 3⟩) rfl
  refine ⟨_, _, marked, rfl, ?_⟩
  intro certifies
  obtain ⟨⟨net, base, held, some_lease⟩, -⟩ :=
    certifies _ _ [] rfl ⟨⟨_, rfl⟩, 1, 1, List.mem_singleton_self _⟩
  cases held
  cases some_lease

end Runner

end Ws63Examples.Connectivity
