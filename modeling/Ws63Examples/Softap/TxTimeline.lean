import Ws63Examples.TxTimeline

/-! The access point's reader of the transmit timeline. -/

namespace Ws63Examples.Softap

open Loop Retention

/-- The reader's cursors among the network diagnostics. -/
structure TxCursors where
  txSubmissionCursor : UInt32
  txCompletionCursor : UInt32
  deriving DecidableEq, Repr

variable {s c : UInt32}

/-- The cursors before the service loop. -/
def TxCursors.start (timeline : TxTimeline s c) : TxCursors :=
  ⟨timeline.submissionTotal, timeline.completionTotal⟩

/-- One length, that of the submissions, bounds both rings. -/
def writeNewTxTimeline (fuel : Nat) (timeline : TxTimeline s c) (diagnostics : TxCursors) :
    Except Stop (TxCursors × List TxLine) := do
  let slots := s
  let submissionStart := startAt diagnostics.txSubmissionCursor timeline.submissionTotal slots
  let (submissionCursor, submits) ←
    countUp timeline.submitLine timeline.submissionTotal fuel submissionStart
  let completionStart := startAt diagnostics.txCompletionCursor timeline.completionTotal slots
  let (completionCursor, completes) ←
    countUp timeline.completeLine timeline.completionTotal fuel completionStart
  return (⟨submissionCursor, completionCursor⟩, submits ++ completes)

/-- The calls on a sequence of snapshots: the cursors after each, and its lines. -/
def writeTxTimelines (fuel : Nat) :
    TxCursors → List (TxTimeline s c) → Except Stop (List (TxCursors × List TxLine))
  | _, [] => .ok []
  | diagnostics, timeline :: timelines => do
    let (diagnostics, lines) ← writeNewTxTimeline fuel timeline diagnostics
    let rest ← writeTxTimelines fuel diagnostics timelines
    return (diagnostics, lines) :: rest

/-- What a call writes, and where it leaves the cursors. -/
theorem writeNewTxTimeline_eq (room : 0 < s) (room' : 0 < c) (timeline : TxTimeline s c)
    (diagnostics : TxCursors) {fuel : Nat} (enough : 2 ^ 32 ≤ fuel) :
    writeNewTxTimeline fuel timeline diagnostics = .ok
      (⟨max (startAt diagnostics.txSubmissionCursor timeline.submissionTotal s)
          timeline.submissionTotal,
        max (startAt diagnostics.txCompletionCursor timeline.completionTotal s)
          timeline.completionTotal⟩,
        (span (startAt diagnostics.txSubmissionCursor timeline.submissionTotal s)
          timeline.submissionTotal).filterMap timeline.submitLine ++
        (span (startAt diagnostics.txCompletionCursor timeline.completionTotal s)
          timeline.completionTotal).filterMap timeline.completeLine) := by
  simp only [writeNewTxTimeline, countUp_eq (timeline.submitLine_isSome room) _ _ enough,
    countUp_eq (timeline.completeLine_isSome room') _ _ enough]
  rfl

/-- A call whose total is not behind the cursor leaves the cursor at the total. -/
theorem max_startAt {cursor total slots : UInt32} (ahead : cursor ≤ total) :
    max (startAt cursor total slots) total = total := by
  apply UInt32.toNat_inj.mp
  rw [max_toNat, startAt_toNat]
  have := UInt32.le_iff_toNat_le.mp ahead
  omega

/-- A call whose total is not behind the cursor writes its part of the log, each
index from its own slot, and leaves the cursor at the total. -/
theorem writeNewTxTimeline_follows (room : 0 < s) (room' : 0 < c) {log : Nat → TxSubmission}
    (timeline : TxTimeline s c) (produced : timeline.Produced log) (diagnostics : TxCursors)
    (ahead : diagnostics.txSubmissionCursor ≤ timeline.submissionTotal) {fuel : Nat}
    (enough : 2 ^ 32 ≤ fuel) :
    ∃ after lines, writeNewTxTimeline fuel timeline diagnostics = .ok (after, lines) ∧
      after.txSubmissionCursor = timeline.submissionTotal ∧
      (submitted lines).map (·.1.toNat) = readFrom s.toNat diagnostics.txSubmissionCursor.toNat
        timeline.submissionTotal.toNat ∧
      ∀ line ∈ submitted lines, line.2 = log line.1.toNat := by
  refine ⟨_, _, writeNewTxTimeline_eq room room' timeline diagnostics enough, max_startAt ahead,
    ?_, ?_⟩
  · rw [submitted_append, submitted_completes, List.append_nil, submitted_submits, ← span_startAt]
    conv => rhs; rw [← map_fst_read (timeline.submission_isSome room) (span _ _)]
    rw [List.map_map]
    rfl
  · rw [submitted_append, submitted_completes, List.append_nil, submitted_submits]
    intro line hl
    obtain ⟨i, hi, found⟩ := List.mem_filterMap.mp hl
    obtain ⟨record, read, rfl⟩ := Option.map_eq_some_iff.mp found
    obtain ⟨-, inside, kept⟩ := mem_span_startAt.mp hi
    exact Option.some.inj (read.symm.trans (produced.submission inside kept))

/-- The calls on snapshots whose totals do not decrease follow the log. -/
theorem writeTxTimelines_follow (room : 0 < s) (room' : 0 < c) {log : Nat → TxSubmission}
    {fuel : Nat} (enough : 2 ^ 32 ≤ fuel) (timelines : List (TxTimeline s c))
    (diagnostics : TxCursors)
    (sorted : (diagnostics.txSubmissionCursor.toNat ::
      timelines.map (·.submissionTotal.toNat)).Pairwise (· ≤ ·))
    (produced : ∀ timeline ∈ timelines, timeline.Produced log) :
    ∃ calls, writeTxTimelines fuel diagnostics timelines = .ok calls ∧
      calls.map (·.1.txSubmissionCursor) = timelines.map (·.submissionTotal) ∧
      (submitted (calls.flatMap Prod.snd)).map (·.1.toNat) =
        readAll s.toNat diagnostics.txSubmissionCursor.toNat
          (timelines.map (·.submissionTotal.toNat)) ∧
      ∀ line ∈ submitted (calls.flatMap Prod.snd), line.2 = log line.1.toNat := by
  induction timelines generalizing diagnostics with
  | nil => exact ⟨[], rfl, rfl, rfl, fun _ h => absurd h List.not_mem_nil⟩
  | cons timeline timelines ih =>
    obtain ⟨first, rest⟩ := List.pairwise_cons.mp sorted
    have ahead : diagnostics.txSubmissionCursor ≤ timeline.submissionTotal :=
      UInt32.le_iff_toNat_le.mpr (first _ List.mem_cons_self)
    obtain ⟨after, lines, call, cursor, indices, records⟩ := writeNewTxTimeline_follows room room'
      timeline (produced _ List.mem_cons_self) diagnostics ahead enough
    obtain ⟨calls, ran, cursors, later, laterRecords⟩ := ih after (by rw [cursor]; exact rest)
      fun t ht => produced t (List.mem_cons_of_mem _ ht)
    refine ⟨(after, lines) :: calls, ?_, ?_, ?_, ?_⟩
    · rw [writeTxTimelines, call]
      change (writeTxTimelines fuel after timelines >>= fun rest =>
        .ok ((after, lines) :: rest)) = _
      rw [ran]
      rfl
    · rw [List.map_cons, List.map_cons, cursors, cursor]
    · rw [List.flatMap_cons, submitted_append, List.map_append, indices, later, cursor]
      rfl
    · rw [List.flatMap_cons, submitted_append]
      intro line hl
      rcases List.mem_append.mp hl with hl | hl
      · exact records line hl
      · exact laterRecords line hl

end Ws63Examples.Softap
