import Ws63Examples.TxTimeline

/-! The station's reader of the transmit timeline. -/

namespace Ws63Examples.Connectivity

open Loop Retention Word

variable {s c : UInt32}

/-- The timeline of the local probe, from the totals before it. -/
def writeProbeTxTimeline (fuel : Nat) (timeline : TxTimeline s c)
    (submissionStart completionStart : UInt32) : Except Stop (List TxLine) := do
  let retainedSubmissionStart := saturatingSub32 timeline.submissionTotal s
  let retainedCompletionStart := saturatingSub32 timeline.completionTotal c
  let truncated :=
    if submissionStart < retainedSubmissionStart ∨ completionStart < retainedCompletionStart then
      [TxLine.truncated submissionStart completionStart]
    else []
  let (_, submits) ← countUp timeline.submitLine timeline.submissionTotal fuel
    (max submissionStart retainedSubmissionStart)
  let (_, completes) ← countUp timeline.completeLine timeline.completionTotal fuel
    (max completionStart retainedCompletionStart)
  return truncated ++ submits ++ completes

/-- The line that records were lost. -/
def reportsTruncation (lines : List TxLine) : Prop :=
  ∃ submissionStart completionStart, .truncated submissionStart completionStart ∈ lines

/-- Some record at or after `start` is no longer in its slot. -/
def SomeOverwritten (start total slots : UInt32) : Prop :=
  ∃ i : Nat, start.toNat ≤ i ∧ i < total.toNat ∧ i + slots.toNat < total.toNat

theorem someOverwritten_iff {start total slots : UInt32} :
    SomeOverwritten start total slots ↔ start < saturatingSub32 total slots := by
  rw [UInt32.lt_iff_toNat_lt, saturatingSub32_toNat]
  constructor
  · rintro ⟨i, behind, inside, gone⟩
    omega
  · intro early
    exact ⟨start.toNat, Nat.le_refl _, by omega, by omega⟩

/-- What the station writes of a timeline. -/
structure ProbeLines (timeline : TxTimeline s c) (submissionStart completionStart : UInt32)
    (lines : List TxLine) : Prop where
  submitted : (submitted lines).map Prod.fst =
    span (startAt submissionStart timeline.submissionTotal s) timeline.submissionTotal
  completed : (completed lines).map Prod.fst =
    span (startAt completionStart timeline.completionTotal c) timeline.completionTotal
  truncated : reportsTruncation lines ↔
    SomeOverwritten submissionStart timeline.submissionTotal s ∨
      SomeOverwritten completionStart timeline.completionTotal c

theorem writeProbeTxTimeline_eq (room : 0 < s) (room' : 0 < c) (timeline : TxTimeline s c)
    (submissionStart completionStart : UInt32) {fuel : Nat} (enough : 2 ^ 32 ≤ fuel) :
    writeProbeTxTimeline fuel timeline submissionStart completionStart = .ok
      ((if submissionStart < saturatingSub32 timeline.submissionTotal s ∨
          completionStart < saturatingSub32 timeline.completionTotal c then
        [TxLine.truncated submissionStart completionStart] else []) ++
      (span (startAt submissionStart timeline.submissionTotal s)
        timeline.submissionTotal).filterMap timeline.submitLine ++
      (span (startAt completionStart timeline.completionTotal c)
        timeline.completionTotal).filterMap timeline.completeLine) := by
  simp only [writeProbeTxTimeline, countUp_eq (timeline.submitLine_isSome room) _ _ enough,
    countUp_eq (timeline.completeLine_isSome room') _ _ enough]
  rfl

theorem not_truncated_submit (timeline : TxTimeline s c) (indices : List UInt32) :
    ¬ reportsTruncation (indices.filterMap timeline.submitLine) := by
  rintro ⟨a, b, h⟩
  obtain ⟨i, -, written⟩ := List.mem_filterMap.mp h
  obtain ⟨record, -, ⟨⟩⟩ := Option.map_eq_some_iff.mp written

theorem not_truncated_complete (timeline : TxTimeline s c) (indices : List UInt32) :
    ¬ reportsTruncation (indices.filterMap timeline.completeLine) := by
  rintro ⟨a, b, h⟩
  obtain ⟨i, -, written⟩ := List.mem_filterMap.mp h
  obtain ⟨record, -, ⟨⟩⟩ := Option.map_eq_some_iff.mp written

theorem reportsTruncation_append {xs ys : List TxLine} :
    reportsTruncation (xs ++ ys) ↔ reportsTruncation xs ∨ reportsTruncation ys := by
  simp only [reportsTruncation, List.mem_append, exists_or]

theorem writeProbeTxTimeline_lines (room : 0 < s) (room' : 0 < c) (timeline : TxTimeline s c)
    (submissionStart completionStart : UInt32) {fuel : Nat} (enough : 2 ^ 32 ≤ fuel) :
    ∃ lines, writeProbeTxTimeline fuel timeline submissionStart completionStart = .ok lines ∧
      ProbeLines timeline submissionStart completionStart lines := by
  refine ⟨_, writeProbeTxTimeline_eq room room' timeline submissionStart completionStart enough, ?_⟩
  constructor
  · have none : submitted (if submissionStart < saturatingSub32 timeline.submissionTotal s ∨
        completionStart < saturatingSub32 timeline.completionTotal c then
        [TxLine.truncated submissionStart completionStart] else []) = [] := by split <;> rfl
    rw [submitted_append, submitted_append, none, submitted_completes, submitted_submits,
      List.nil_append, List.append_nil, map_fst_read (timeline.submission_isSome room)]
  · have none : completed (if submissionStart < saturatingSub32 timeline.submissionTotal s ∨
        completionStart < saturatingSub32 timeline.completionTotal c then
        [TxLine.truncated submissionStart completionStart] else []) = [] := by split <;> rfl
    rw [completed_append, completed_append, none, completed_completes, completed_submits,
      List.nil_append, List.nil_append, map_fst_read (timeline.completion_isSome room')]
  · rw [reportsTruncation_append, reportsTruncation_append, someOverwritten_iff,
      someOverwritten_iff]
    simp only [not_truncated_submit, not_truncated_complete, or_false]
    split
    · rename_i early
      exact ⟨fun _ => early, fun _ => ⟨_, _, List.mem_singleton_self _⟩⟩
    · rename_i kept
      exact ⟨fun ⟨_, _, h⟩ => absurd h List.not_mem_nil, fun early => absurd early kept⟩

end Ws63Examples.Connectivity
