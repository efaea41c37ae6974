import Ws63Examples.Connectivity.PollNetwork
import Ws63Examples.Lib.Execution
import Ws63Examples.Lib.Word

/-! The UDP echo probe of the local neighbour. -/

namespace Ws63Examples.Connectivity

open Bits Execution Word

def localProbePort : UInt16 := 9
def localProbePrimaryAttempts : Nat := 5
def localProbeAttempts : Nat := 10
def localProbeRequiredReplies : Nat := 1
def localProbeIntervalMs : UInt64 := 500
def localProbeRecoveryDelayMs : UInt64 := 5000
def localProbeTimeoutMs : UInt64 := 12000

/-- Where `local_neighbor_probe` stands, before the input it needs next. -/
inductive LocalProbe.Point where
  | start
  | loopHead
  | poll
  | drain
  | pace
  | send (current : UInt64)
  | wait
  | returned (result : Except NetworkExit Bool)
  | panicked

structure LocalProbe (stack : Smoltcp) where
  net : Net stack
  target : Ipv4Address
  startedAt : UInt64
  sent : Nat
  replies : Nat
  receivedSequences : BitVec 16
  lastSendAt : UInt64
  recoveryAnnounced : Bool
  point : LocalProbe.Point

namespace LocalProbe

variable {stack : Smoltcp}

def begin (net : Net stack) (target : Ipv4Address) : LocalProbe stack where
  net := net
  target := target
  startedAt := 0
  sent := 0
  replies := 0
  receivedSequences := 0
  lastSendAt := 0
  recoveryAnnounced := false
  point := .start

def endpoint (s : LocalProbe stack) : IpEndpoint := ⟨s.target, localProbePort⟩

/-- One datagram of the drain loop. -/
def receive (s : LocalProbe stack) (response : Datagram) : LocalProbe stack × List Effect :=
  match response.payload with
  | [sequence] =>
    if response.endpoint = s.endpoint ∧ sequence.toNat < s.sent then
      match checkedShl 1#16 sequence.toNat with
      | none => ({ s with point := .panicked }, [])
      | some sequenceBit =>
        if s.receivedSequences &&& sequenceBit ≠ 0 then (s, [])
        else
          let replies := saturatingAdd u8Max s.replies 1
          ({ s with
              receivedSequences := s.receivedSequences ||| sequenceBit
              replies := replies }, [.write (.localEchoReply sequence replies)])
    else (s, [])
  | _ => (s, [])

def recoveryReady (s : LocalProbe stack) (current : UInt64) : Bool :=
  s.sent < localProbePrimaryAttempts || localProbeRecoveryDelayMs ≤ current - s.startedAt

/-- Announces the recovery burst, once. -/
def announce (s : LocalProbe stack) (current : UInt64) : LocalProbe stack × List Effect :=
  if s.sent = localProbePrimaryAttempts ∧ s.recoveryReady current ∧ ¬ s.recoveryAnnounced then
    ({ s with recoveryAnnounced := true },
      [.write (.localEchoRecovery (min (current - s.startedAt) 0xffffffff).toUInt32)])
  else (s, [])

def due (s : LocalProbe stack) (current : UInt64) : Bool :=
  s.sent < localProbeAttempts && s.recoveryReady current &&
    localProbeIntervalMs ≤ current - s.lastSendAt

/-- The answer to `send_slice`. -/
def sendProbe (s : LocalProbe stack) (current : UInt64) (ok : Bool) :
    LocalProbe stack × List Effect :=
  let out := [.send [.ofNat s.sent] s.endpoint ok]
  if ok then
    ({ s with sent := saturatingAdd u8Max s.sent 1, lastSendAt := current, point := .wait }, out)
  else ({ s with point := .wait }, out)

/-- The end of the timed loop. -/
def finish (s : LocalProbe stack) : LocalProbe stack × List Effect :=
  let localPathReachable : Bool := localProbeRequiredReplies ≤ s.replies
  ({ s with point := .returned (.ok localPathReachable) },
    [.write (.localEcho localPathReachable s.target s.sent s.replies (s.sent - s.replies))])

end LocalProbe

variable {stack : Smoltcp}

def localNeighborProbe (s : LocalProbe stack) (input : Input stack) :
    Option (LocalProbe stack × List Effect) :=
  match s.point, input with
  | .start, .clock ticks =>
    let startedAt := monotonicMs ticks
    some ({ s with
      startedAt := startedAt
      lastSendAt := startedAt - localProbeIntervalMs
      point := .loopHead }, [.write (.localNeighborBegin s.target)])
  | .loopHead, .clock ticks =>
    if monotonicMs ticks - s.startedAt < localProbeTimeoutMs then
      some ({ s with point := .poll }, [])
    else some s.finish
  | .poll, .poll traffic event =>
    match pollNetwork traffic event s.net with
    | some (net, out) => some ({ s with net := net, point := .drain }, out)
    | none => some ({ s with point := .panicked }, [])
  | .drain, .recv (some response) => some (s.receive response)
  | .drain, .recv none => some ({ s with point := .pace }, [])
  | .pace, .clock ticks =>
    let current := monotonicMs ticks
    let (s, out) := s.announce current
    some ({ s with point := if s.due current then .send current else .wait }, out)
  | .send current, .sendSlice ok => some (s.sendProbe current ok)
  | .wait, .nextEvent event =>
    match waitPollInterval event with
    | (some exit, out) => some ({ s with point := .returned (.error exit) }, out)
    | (none, out) => some ({ s with point := .loopHead }, out)
  | _, _ => none

namespace LocalProbe

/-- What a step can do. -/
inductive Step (s : LocalProbe stack) : Input stack → LocalProbe stack → List Effect → Prop
  | start (at_point : s.point = .start) (ticks : UInt64) :
      Step s (.clock ticks) { s with
        startedAt := monotonicMs ticks
        lastSendAt := monotonicMs ticks - localProbeIntervalMs
        point := .loopHead } [.write (.localNeighborBegin s.target)]
  | enter (at_point : s.point = .loopHead) (ticks : UInt64)
      (early : monotonicMs ticks - s.startedAt < localProbeTimeoutMs) :
      Step s (.clock ticks) { s with point := .poll } []
  | finish (at_point : s.point = .loopHead) (ticks : UInt64)
      (late : ¬ monotonicMs ticks - s.startedAt < localProbeTimeoutMs) :
      Step s (.clock ticks) s.finish.1 s.finish.2
  | poll (at_point : s.point = .poll) (traffic : stack.Traffic) (event : Option DhcpEvent)
      (net : Net stack) (out : List Effect)
      (polled : pollNetwork traffic event s.net = some (net, out)) :
      Step s (.poll traffic event) { s with net := net, point := .drain } out
  | pollPanic (at_point : s.point = .poll) (traffic : stack.Traffic) (event : Option DhcpEvent)
      (polled : pollNetwork traffic event s.net = none) :
      Step s (.poll traffic event) { s with point := .panicked } []
  | receive (at_point : s.point = .drain) (response : Datagram) :
      Step s (.recv (some response)) (s.receive response).1 (s.receive response).2
  | drained (at_point : s.point = .drain) : Step s (.recv none) { s with point := .pace } []
  | pace (at_point : s.point = .pace) (ticks : UInt64) :
      Step s (.clock ticks) { (s.announce (monotonicMs ticks)).1 with
        point := if (s.announce (monotonicMs ticks)).1.due (monotonicMs ticks)
          then .send (monotonicMs ticks) else .wait } (s.announce (monotonicMs ticks)).2
  | send (current : UInt64) (at_point : s.point = .send current) (ok : Bool) :
      Step s (.sendSlice ok) (s.sendProbe current ok).1 (s.sendProbe current ok).2
  | exit (at_point : s.point = .wait) (event : Option WifiEvent) (exit : NetworkExit)
      (out : List Effect) (waited : waitPollInterval event = (some exit, out)) :
      Step s (.nextEvent event) { s with point := .returned (.error exit) } out
  | resume (at_point : s.point = .wait) (event : Option WifiEvent) (out : List Effect)
      (waited : waitPollInterval event = (none, out)) :
      Step s (.nextEvent event) { s with point := .loopHead } out

theorem step_cases {s t : LocalProbe stack} {input : Input stack} {out : List Effect}
    (h : localNeighborProbe s input = some (t, out)) : Step s input t out := by
  unfold localNeighborProbe at h
  split at h
  case h_1 ticks at_point =>
    cases h
    exact .start at_point ticks
  case h_2 ticks at_point =>
    split at h
    · rename_i early
      cases h
      exact .enter at_point ticks early
    · rename_i late
      cases h
      exact .finish at_point ticks late
  case h_3 traffic event at_point =>
    split at h
    · rename_i polled
      cases h
      exact .poll at_point traffic event _ _ polled
    · rename_i polled
      cases h
      exact .pollPanic at_point traffic event polled
  case h_4 response at_point =>
    obtain ⟨rfl, rfl⟩ := answer_parts h
    exact .receive at_point response
  case h_5 at_point =>
    cases h
    exact .drained at_point
  case h_6 ticks at_point =>
    cases h
    exact .pace at_point ticks
  case h_7 current ok at_point =>
    obtain ⟨rfl, rfl⟩ := answer_parts h
    exact .send current at_point ok
  case h_8 event at_point =>
    split at h
    · rename_i waited
      cases h
      exact .exit at_point event _ _ waited
    · rename_i waited
      cases h
      exact .resume at_point event _ waited
  case h_9 => cases h

/-- A move of the probe. -/
abbrev Probing (stack : Smoltcp) := Move (LocalProbe stack) (Input stack) Effect

/-- A move that dequeued the one-byte datagram `i` from the probed endpoint
when more than `i` probes were out. -/
def Heard (target : Ipv4Address) (m : Probing stack) (i : Nat) : Prop :=
  ∃ sequence : UInt8, m.input = .recv (some ⟨[sequence], ⟨target, localProbePort⟩⟩) ∧
    sequence.toNat = i ∧ i < m.before.sent

/-- What a datagram does: count a sequence heard for the first time, or nothing. -/
theorem receive_cases (s : LocalProbe stack) (few : s.sent ≤ localProbeAttempts)
    (response : Datagram) :
    (∃ sequence : UInt8, response = ⟨[sequence], s.endpoint⟩ ∧ sequence.toNat < s.sent ∧
      sequence.toNat ∉ bitSet s.receivedSequences ∧
      s.receive response = ({ s with
        receivedSequences := s.receivedSequences ||| 1#16 <<< sequence.toNat
        replies := saturatingAdd u8Max s.replies 1 },
        [.write (.localEchoReply sequence (saturatingAdd u8Max s.replies 1))])) ∨
    (s.receive response = (s, []) ∧
      ∀ sequence : UInt8, response = ⟨[sequence], s.endpoint⟩ → sequence.toNat < s.sent →
        sequence.toNat ∈ bitSet s.receivedSequences) := by
  obtain ⟨payload, source⟩ := response
  match payload with
  | [] | _ :: _ :: _ =>
    right
    exact ⟨rfl, nofun⟩
  | [sequence] =>
    by_cases ours : source = s.endpoint ∧ sequence.toNat < s.sent
    · have narrow : sequence.toNat < 16 := by
        unfold localProbeAttempts at few
        omega
      have shift : checkedShl 1#16 sequence.toNat = some (1#16 <<< sequence.toNat) :=
        if_pos narrow
      by_cases fresh : s.receivedSequences &&& 1#16 <<< sequence.toNat = 0#16
      · left
        refine ⟨sequence, by rw [ours.1], ours.2, (and_bit_eq_zero _ narrow).mp fresh, ?_⟩
        simp only [receive, if_pos ours, shift]
        exact if_neg (not_not_intro fresh)
      · right
        constructor
        · simp only [receive, if_pos ours, shift]
          exact if_pos fresh
        · rintro other ⟨⟩ -
          exact Classical.not_not.mp fun absent => fresh ((and_bit_eq_zero _ narrow).mpr absent)
    · right
      constructor
      · simp only [receive, if_neg ours]
      · rintro other ⟨⟩ early
        exact absurd ⟨rfl, early⟩ ours

/-- The counters after a history of moves. -/
structure Sound (target : Ipv4Address) (ms : List (Probing stack)) (s : LocalProbe stack) :
    Prop where
  probed : s.target = target
  sent : s.sent ≤ localProbeAttempts
  sending : ∀ current, s.point = .send current → s.sent < localProbeAttempts
  heard : ∀ i, i ∈ bitSet s.receivedSequences ↔ ∃ m ∈ ms, Heard target m i
  early : ∀ i ∈ bitSet s.receivedSequences, i < s.sent
  replies : s.replies = (bitSet s.receivedSequences).card
  result : ∀ b, s.point = .returned (.ok b) → b = decide (localProbeRequiredReplies ≤ s.replies)
  shifted : ∀ m ∈ ms, ∀ response, m.input = .recv (some response) → m.after.point ≠ .panicked

theorem begin_bits (net : Net stack) (target : Ipv4Address) :
    bitSet (begin net target).receivedSequences = ∅ := bitSet_zero

theorem begin_sound (net : Net stack) (target : Ipv4Address) :
    Sound target [] (begin net target) := by
  constructor
  case probed => rfl
  case sent => exact Nat.zero_le _
  case sending =>
    intro current now
    cases now
  case heard =>
    intro i
    rw [begin_bits]
    simp
  case early =>
    intro i set
    rw [begin_bits] at set
    exact absurd set (Finset.notMem_empty i)
  case replies =>
    rw [begin_bits]
    rfl
  case result =>
    intro b now
    cases now
  case shifted =>
    intro m hm
    exact absurd hm List.not_mem_nil

theorem not_heard {target : Ipv4Address} {m : Probing stack} {i : Nat}
    (other : ∀ response, m.input ≠ .recv (some response)) : ¬ Heard target m i := by
  rintro ⟨sequence, received, -⟩
  exact other _ received

/-- A move that hears nothing new keeps the account. -/
theorem Sound.keep {target : Ipv4Address} {ms : List (Probing stack)} {s t : LocalProbe stack}
    (sound : Sound target ms s) {input : Input stack} {out : List Effect}
    (same_target : t.target = s.target) (same_replies : t.replies = s.replies)
    (same_bits : t.receivedSequences = s.receivedSequences)
    (grows : s.sent ≤ t.sent) (bounded : t.sent ≤ localProbeAttempts)
    (known : ∀ i, Heard target ⟨s, input, out, t⟩ i → i ∈ bitSet s.receivedSequences)
    (sending : ∀ current, t.point = .send current → t.sent < localProbeAttempts)
    (result : ∀ b, t.point = .returned (.ok b) →
      b = decide (localProbeRequiredReplies ≤ s.replies))
    (shifted : ∀ response, input = .recv (some response) → t.point ≠ .panicked) :
    Sound target (ms ++ [⟨s, input, out, t⟩]) t := by
  constructor
  case probed => exact same_target.trans sound.probed
  case sent => exact bounded
  case sending => exact sending
  case heard =>
    intro i
    rw [same_bits, sound.heard]
    simp only [List.mem_append, List.mem_singleton]
    constructor
    · rintro ⟨m, hm, heard⟩
      exact ⟨m, .inl hm, heard⟩
    · rintro ⟨m, hm | rfl, heard⟩
      · exact ⟨m, hm, heard⟩
      · exact (sound.heard i).mp (known i heard)
  case early =>
    intro i set
    rw [same_bits] at set
    exact Nat.lt_of_lt_of_le (sound.early i set) grows
  case replies => rw [same_replies, same_bits, sound.replies]
  case result => exact same_replies ▸ result
  case shifted =>
    intro m hm response received
    rcases List.mem_append.mp hm with hm | hm
    · exact sound.shifted m hm response received
    · obtain rfl := List.mem_singleton.mp hm
      exact shifted response received

/-- A move that neither dequeues, nor sends, nor gives the verdict. -/
theorem Sound.pass {target : Ipv4Address} {ms : List (Probing stack)} {s t : LocalProbe stack}
    (sound : Sound target ms s) {input : Input stack} {out : List Effect}
    (same_target : t.target = s.target) (same_sent : t.sent = s.sent)
    (same_replies : t.replies = s.replies) (same_bits : t.receivedSequences = s.receivedSequences)
    (other : ∀ response, input ≠ .recv (some response))
    (idle : ∀ current, t.point ≠ .send current) (going : ∀ b, t.point ≠ .returned (.ok b)) :
    Sound target (ms ++ [⟨s, input, out, t⟩]) t := by
  refine sound.keep same_target same_replies same_bits (Nat.le_of_eq same_sent.symm)
    (same_sent ▸ sound.sent) ?_ ?_ ?_ ?_
  · intro i heard
    exact absurd heard (not_heard other)
  · intro current sending
    exact absurd sending (idle current)
  · intro b returned
    exact absurd returned (going b)
  · intro response received
    exact absurd received (other response)

/-- A sequence heard for the first time. -/
theorem Sound.hear {target : Ipv4Address} {ms : List (Probing stack)} {s : LocalProbe stack}
    (sound : Sound target ms s) (at_point : s.point = .drain) (sequence : UInt8)
    (early : sequence.toNat < s.sent) (fresh : sequence.toNat ∉ bitSet s.receivedSequences)
    {t : LocalProbe stack} {out : List Effect}
    (ht : t = { s with
      receivedSequences := s.receivedSequences ||| 1#16 <<< sequence.toNat
      replies := saturatingAdd u8Max s.replies 1 }) :
    Sound target (ms ++ [⟨s, .recv (some ⟨[sequence], s.endpoint⟩), out, t⟩]) t := by
  have narrow : sequence.toNat < 16 := by
    have := sound.sent
    unfold localProbeAttempts at this
    omega
  have bits : bitSet t.receivedSequences = insert sequence.toNat (bitSet s.receivedSequences) := by
    rw [ht]
    exact bitSet_or_bit s.receivedSequences narrow
  have now : t.point = .drain := by rw [ht, ← at_point]
  have few : (bitSet s.receivedSequences).card ≤ 16 := by
    have := Finset.card_filter_le (Finset.range 16) fun i => s.receivedSequences.getLsbD i = true
    rwa [Finset.card_range] at this
  constructor
  case probed => rw [ht, ← sound.probed]
  case sent =>
    rw [ht]
    exact sound.sent
  case sending =>
    intro current sending
    cases now.symm.trans sending
  case heard =>
    intro i
    rw [bits, Finset.mem_insert, sound.heard]
    simp only [List.mem_append, List.mem_singleton]
    constructor
    · rintro (rfl | ⟨m, hm, heard⟩)
      · refine ⟨_, .inr rfl, sequence, ?_, rfl, early⟩
        rw [← sound.probed]
        rfl
      · exact ⟨m, .inl hm, heard⟩
    · rintro ⟨m, hm | rfl, heard⟩
      · exact .inr ⟨m, hm, heard⟩
      · obtain ⟨other, received, hi, -⟩ := heard
        cases received
        exact .inl hi.symm
  case early =>
    intro i set
    rw [bits, Finset.mem_insert] at set
    rw [ht]
    rcases set with rfl | set
    · exact early
    · exact sound.early i set
  case replies =>
    rw [bits, Finset.card_insert_of_notMem fresh, ht, ← sound.replies]
    apply saturatingAdd_of_le
    rw [sound.replies]
    exact Nat.le_trans (Nat.succ_le_succ few) (by decide)
  case result =>
    intro b returned
    cases now.symm.trans returned
  case shifted =>
    intro m hm response received
    rcases List.mem_append.mp hm with hm | hm
    · exact sound.shifted m hm response received
    · obtain rfl := List.mem_singleton.mp hm
      intro panicked
      cases now.symm.trans panicked

theorem announce_same (s : LocalProbe stack) (current : UInt64) :
    (s.announce current).1 = { s with
      recoveryAnnounced := (s.announce current).1.recoveryAnnounced } := by
  unfold announce
  split <;> rfl

theorem due_few {s : LocalProbe stack} {current : UInt64} (h : s.due current = true) :
    s.sent < localProbeAttempts := by
  simp only [due, Bool.and_eq_true, decide_eq_true_eq] at h
  exact h.1.1

/-- Every step keeps the account. -/
theorem step_sound {target : Ipv4Address} {ms : List (Probing stack)} {s t : LocalProbe stack}
    (sound : Sound target ms s) {input : Input stack} {out : List Effect}
    (h : localNeighborProbe s input = some (t, out)) :
    Sound target (ms ++ [⟨s, input, out, t⟩]) t := by
  cases step_cases h with
  | start | enter | poll | pollPanic | drained | exit | resume =>
    exact sound.pass rfl rfl rfl rfl nofun nofun nofun
  | finish at_point ticks late =>
    refine sound.keep rfl rfl rfl le_rfl sound.sent (fun i heard => absurd heard (not_heard nofun))
      nofun ?_ nofun
    rintro b ⟨⟩
    rfl
  | receive at_point response =>
    rcases receive_cases s sound.sent response with
      ⟨sequence, rfl, early, fresh, received⟩ | ⟨received, known⟩
    · exact sound.hear at_point sequence early fresh (congrArg Prod.fst received)
    · rw [received]
      apply sound.keep rfl rfl rfl le_rfl sound.sent
      · rintro i ⟨sequence, ⟨⟩, rfl, early⟩
        exact known sequence (by rw [← sound.probed]; rfl) early
      · intro current sending
        cases at_point.symm.trans sending
      · intro b returned
        cases at_point.symm.trans returned
      · intro _ _ panicked
        cases at_point.symm.trans panicked
  | pace at_point ticks =>
    rw [announce_same]
    refine sound.keep rfl rfl rfl le_rfl sound.sent (fun i heard => absurd heard (not_heard nofun))
      ?_ ?_ nofun
    · intro current sending
      dsimp only at sending
      split at sending
      · rename_i due
        exact due_few due
      · cases sending
    · intro b returned
      dsimp only at returned
      split at returned <;> cases returned
  | send current at_point ok =>
    cases ok with
    | false => exact sound.pass rfl rfl rfl rfl nofun nofun nofun
    | true =>
      have few := sound.sending current at_point
      have more : (s.sendProbe current true).1.sent = s.sent + 1 :=
        saturatingAdd_of_le (Nat.le_trans few (by decide))
      refine sound.keep rfl rfl rfl ?_ ?_ (fun i heard => absurd heard (not_heard nofun))
        nofun nofun nofun
      · rw [more]
        exact Nat.le_succ _
      · rw [more]
        exact few

theorem run_sound {net : Net stack} {target : Ipv4Address} {ms : List (Probing stack)}
    {s : LocalProbe stack} (run : Run localNeighborProbe (begin net target) ms s) :
    Sound target ms s :=
  run.history (begin_sound net target) fun _ _ _ _ _ _ sound h => step_sound sound h

theorem Sound.replies_le {target : Ipv4Address} {ms : List (Probing stack)}
    {s : LocalProbe stack} (sound : Sound target ms s) : s.replies ≤ s.sent := by
  have inside : bitSet s.receivedSequences ⊆ Finset.range s.sent :=
    fun i set => Finset.mem_range.mpr (sound.early i set)
  rw [sound.replies]
  exact Finset.card_range s.sent ▸ Finset.card_le_card inside

/-- At every point of every run the mask, the reply counter and the verdict
are what the datagrams dequeued so far say. -/
theorem local_neighbor_probe_counts (net : Net stack) (target : Ipv4Address)
    (ms : List (Probing stack)) (s : LocalProbe stack)
    (run : Run localNeighborProbe (begin net target) ms s) :
    s.sent ≤ localProbeAttempts ∧
    (∀ i, s.receivedSequences.getLsbD i = true →
      i < s.sent ∧ ∃ m ∈ ms, Heard target m i) ∧
    s.replies = (bitSet s.receivedSequences).card ∧ s.replies ≤ s.sent ∧
    (∀ m ∈ ms, ∀ response, m.input = .recv (some response) → m.after.point ≠ .panicked) ∧
    ∀ b, s.point = .returned (.ok b) → (b = true ↔ ∃ m ∈ ms, ∃ i, Heard target m i) := by
  have sound := run_sound run
  refine ⟨sound.sent, ?_, sound.replies, sound.replies_le, sound.shifted, ?_⟩
  · intro i set
    have mem := (mem_bitSet _ _).mpr set
    exact ⟨sound.early i mem, (sound.heard i).mp mem⟩
  · intro b returned
    rw [sound.result b returned, decide_eq_true_eq, sound.replies, localProbeRequiredReplies,
      Nat.one_le_iff_ne_zero, Finset.card_ne_zero]
    constructor
    · rintro ⟨i, set⟩
      obtain ⟨m, hm, heard⟩ := (sound.heard i).mp set
      exact ⟨m, hm, i, heard⟩
    · rintro ⟨m, hm, i, heard⟩
      exact ⟨i, (sound.heard i).mpr ⟨m, hm, heard⟩⟩

/-- One probe sent at once, its echo heard 10 ms later, and the deadline. -/
def echoedScript : List (Input plainStack) :=
  [.clock 0, .clock 0, .poll () none, .recv none, .clock 0, .sendSlice true, .nextEvent none,
    .clock 240000, .poll () none, .recv (some ⟨[0], ⟨⟨192, 168, 4, 1⟩, 9⟩⟩), .recv none,
    .clock 240000, .nextEvent none, .clock 288000000]

theorem local_neighbor_probe_counts_echoed :
    ∃ ms s, Run localNeighborProbe (begin plainNet ⟨192, 168, 4, 1⟩) ms s ∧
      s.point = .returned (.ok true) ∧ s.replies ≤ s.sent ∧
      ∃ m ∈ ms, ∃ i, Heard ⟨192, 168, 4, 1⟩ m i := by
  have run : Run localNeighborProbe (begin plainNet ⟨192, 168, 4, 1⟩) _ _ :=
    exec_run echoedScript rfl
  obtain ⟨-, -, -, le, -, verdict⟩ := local_neighbor_probe_counts _ _ _ _ run
  exact ⟨_, _, run, rfl, le, (verdict true rfl).mp rfl⟩

end LocalProbe

end Ws63Examples.Connectivity
