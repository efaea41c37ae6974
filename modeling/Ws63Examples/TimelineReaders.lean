import Ws63Examples.Connectivity.TxTimeline
import Ws63Examples.Softap.TxTimeline

/-! The two timeline readers against the producer's log, and against each other. -/

namespace Ws63Examples

open Connectivity Loop Retention Softap

variable {s c : UInt32}

theorem mem_map_toNat {indices : List UInt32} {i : UInt32} :
    i ∈ indices ↔ i.toNat ∈ indices.map UInt32.toNat := by
  constructor
  · exact fun h => List.mem_map_of_mem h
  · intro h
    obtain ⟨j, hj, same⟩ := List.mem_map.mp h
    exact UInt32.toNat_inj.mp same ▸ hj

/-- Over snapshots of one log the access point writes each submission once, in
order, from the slot that holds it, except those that were overwritten before
the first snapshot to count them. The station writes what its rings retain from
its starts on, and reports what they do not. -/
theorem tx_timelines_follow (room : 0 < s) (room' : 0 < c) (log : Nat → TxSubmission)
    (first : TxTimeline s c) (timelines : List (TxTimeline s c)) (diagnostics : TxCursors)
    (begun : diagnostics.txSubmissionCursor = first.submissionTotal)
    (sorted : ((first :: timelines).map (·.submissionTotal)).Pairwise (· ≤ ·))
    (produced : ∀ timeline ∈ timelines, timeline.Produced log) (probed : TxTimeline s c)
    (submissionStart completionStart : UInt32) (fuel : Nat) (enough : 2 ^ 32 ≤ fuel) :
    (∃ calls, writeTxTimelines fuel diagnostics timelines = .ok calls ∧
      calls.map (·.1.txSubmissionCursor) = timelines.map (·.submissionTotal) ∧
      ((submitted (calls.flatMap Prod.snd)).map Prod.fst).Pairwise (· < ·) ∧
      (∀ i, i ∈ (submitted (calls.flatMap Prod.snd)).map Prod.fst ↔
        first.submissionTotal ≤ i ∧
          ∃ timeline, timelines.find? (i < ·.submissionTotal) = some timeline ∧
            ¬ i.toNat + s.toNat < timeline.submissionTotal.toNat) ∧
      ∀ line ∈ submitted (calls.flatMap Prod.snd), line.2 = log line.1.toNat) ∧
    ∃ lines, writeProbeTxTimeline fuel probed submissionStart completionStart = .ok lines ∧
      ((submitted lines).map Prod.fst).Pairwise (· < ·) ∧
      (∀ i, i ∈ (submitted lines).map Prod.fst ↔ submissionStart ≤ i ∧
        i < probed.submissionTotal ∧ probed.submissionTotal.toNat ≤ i.toNat + s.toNat) ∧
      ((completed lines).map Prod.fst).Pairwise (· < ·) ∧
      (∀ i, i ∈ (completed lines).map Prod.fst ↔ completionStart ≤ i ∧
        i < probed.completionTotal ∧ probed.completionTotal.toNat ≤ i.toNat + c.toNat) ∧
      (reportsTruncation lines ↔
        SomeOverwritten submissionStart probed.submissionTotal s ∨
          SomeOverwritten completionStart probed.completionTotal c) := by
  constructor
  · have ordered : (diagnostics.txSubmissionCursor.toNat ::
        timelines.map (·.submissionTotal.toNat)).Pairwise (· ≤ ·) := by
      have inNat := List.pairwise_map.mpr (sorted.imp UInt32.le_iff_toNat_le.mp)
      rw [List.map_cons, List.map_cons, List.map_map] at inNat
      rw [begun]
      exact inNat
    obtain ⟨calls, ran, cursors, indices, records⟩ :=
      writeTxTimelines_follow room room' enough timelines diagnostics ordered produced
    have taken : ((submitted (calls.flatMap Prod.snd)).map Prod.fst).map UInt32.toNat =
        readAll s.toNat diagnostics.txSubmissionCursor.toNat
          (timelines.map (·.submissionTotal.toNat)) := by
      rw [List.map_map]
      exact indices
    refine ⟨calls, ran, cursors, ?_, ?_, records⟩
    · have inNat := readAll_sorted (n := s.toNat) ordered
      rw [← taken] at inNat
      exact (List.pairwise_map.mp inNat).imp UInt32.lt_iff_toNat_lt.mpr
    · intro i
      rw [mem_map_toNat, taken, mem_readAll ordered, begun, ← UInt32.le_iff_toNat_le]
      apply and_congr_right
      intro _
      rw [List.find?_map]
      simp only [Option.map_eq_some_iff, Function.comp_def, ← UInt32.lt_iff_toNat_lt]
      constructor
      · rintro ⟨_, ⟨timeline, found, rfl⟩, kept⟩
        exact ⟨timeline, found, Nat.not_lt.mpr kept⟩
      · rintro ⟨timeline, found, kept⟩
        exact ⟨_, ⟨timeline, found, rfl⟩, Nat.not_lt.mp kept⟩
  · obtain ⟨lines, ran, written⟩ := writeProbeTxTimeline_lines room room' probed submissionStart
      completionStart enough
    refine ⟨lines, ran, ?_, ?_, ?_, ?_, written.truncated⟩
    · rw [written.submitted]
      exact span_sorted _ _
    · intro i
      rw [written.submitted, mem_span_startAt]
    · rw [written.completed]
      exact span_sorted _ _
    · intro i
      rw [written.completed, mem_span_startAt]

def numbered (i : Nat) : TxSubmission := ⟨.ofNat (100 + i), .ofNat i⟩

/-- Two submission slots; the first two snapshots count one and four records. -/
def shortTimeline (total : UInt32) (timeMs echo : Vector UInt32 2) : TxTimeline 2 1 :=
  ⟨total, timeMs, echo, 2, #v[7], #v[8], #v[9], #v[10]⟩

theorem shortTimeline_produced :
    ∀ timeline ∈ [shortTimeline 1 #v[100, 0] #v[0, 0], shortTimeline 4 #v[102, 103] #v[2, 3]],
      timeline.Produced numbered := by
  intro timeline ht
  rcases List.mem_cons.mp ht with rfl | ht
  · exact ⟨(Stored.start #v[0, 0]).store (by decide), (Stored.start #v[0, 0]).store (by decide)⟩
  · obtain rfl := List.mem_singleton.mp ht
    have two : 0 < 2 := by decide
    exact ⟨((((Stored.start #v[0, 0]).store two).store two).store two).store two,
      ((((Stored.start #v[0, 0]).store two).store two).store two).store two⟩

/-- Three records between two snapshots, the first of them lost. -/
theorem tx_timelines_follow_burst :
    ∃ calls, writeTxTimelines (2 ^ 32) ⟨0, 0⟩
        [shortTimeline 1 #v[100, 0] #v[0, 0], shortTimeline 4 #v[102, 103] #v[2, 3]] = .ok calls ∧
      (1 : UInt32) ∉ (submitted (calls.flatMap Prod.snd)).map Prod.fst ∧
      (2 : UInt32) ∈ (submitted (calls.flatMap Prod.snd)).map Prod.fst := by
  obtain ⟨⟨calls, ran, -, -, written, -⟩, -⟩ := tx_timelines_follow (by decide) (by decide)
    numbered (shortTimeline 0 #v[0, 0] #v[0, 0]) _ ⟨0, 0⟩ rfl (by decide) shortTimeline_produced
    (shortTimeline 0 #v[0, 0] #v[0, 0]) 0 0 (2 ^ 32) (Nat.le_refl _)
  refine ⟨calls, ran, ?_, ?_⟩
  · rw [written]
    rintro ⟨-, timeline, found, kept⟩
    obtain rfl : shortTimeline 4 #v[102, 103] #v[2, 3] = timeline := Option.some.inj found
    exact kept (by decide)
  · rw [written]
    exact ⟨by decide, shortTimeline 4 #v[102, 103] #v[2, 3], rfl, by decide⟩

/-- The indices of the records at or after `start` that a ring of `slots` still holds. -/
def ReadsRetained (indices : List UInt32) (start total slots : UInt32) : Prop :=
  ∀ i, i ∈ indices ↔ start ≤ i ∧ i < total ∧ total.toNat ≤ i.toNat + slots.toNat

/-- Another length gives another range, unless the reader starts within both. -/
theorem span_retained_iff {start total slots other : UInt32} :
    ReadsRetained (span (startAt start total other) total) start total slots ↔
      other = slots ∨ total.toNat ≤ start.toNat + min other.toNat slots.toNat := by
  constructor
  · intro retained
    by_contra apart
    obtain ⟨differ, behind⟩ := not_or.mp apart
    have lengths : other.toNat ≠ slots.toNat := fun same => differ (UInt32.toNat_inj.mp same)
    -- the last record that only the longer of the two lengths reaches back to
    have below : total.toNat - min other.toNat slots.toNat - 1 < 2 ^ 32 := by
      have := total.toNat_lt
      omega
    have split := retained (.ofNat (total.toNat - min other.toNat slots.toNat - 1))
    rw [mem_span_startAt, UInt32.le_iff_toNat_le, UInt32.lt_iff_toNat_lt, UInt32.toNat_ofNat',
      Nat.mod_eq_of_lt below] at split
    omega
  · rintro (rfl | within) i
    · rw [mem_span_startAt]
    · rw [mem_span_startAt, UInt32.le_iff_toNat_le, UInt32.lt_iff_toNat_lt]
      omega

/-- Both readers write the completions that are retained exactly where the
rings are of one length or the start is within both. -/
theorem completion_readers_agree_iff (room : 0 < s) (room' : 0 < c) (timeline : TxTimeline s c)
    (start submissionCursor submissionStart : UInt32) (fuel : Nat) (enough : 2 ^ 32 ≤ fuel) :
    ∃ after apLines lines,
      writeNewTxTimeline fuel timeline ⟨submissionCursor, start⟩ = .ok (after, apLines) ∧
      writeProbeTxTimeline fuel timeline submissionStart start = .ok lines ∧
      (ReadsRetained ((completed apLines).map Prod.fst) start timeline.completionTotal c ∧
        ReadsRetained ((completed lines).map Prod.fst) start timeline.completionTotal c ↔
          s = c ∨ timeline.completionTotal.toNat ≤ start.toNat + min s.toNat c.toNat) := by
  obtain ⟨lines, ran, written⟩ := writeProbeTxTimeline_lines room room' timeline submissionStart
    start enough
  refine ⟨_, _, lines, writeNewTxTimeline_eq room room' timeline ⟨submissionCursor, start⟩ enough,
    ran, ?_⟩
  have station : ReadsRetained ((completed lines).map Prod.fst) start timeline.completionTotal c := by
    intro i
    rw [written.completed, mem_span_startAt]
  rw [completed_append, completed_submits, List.nil_append, completed_completes,
    map_fst_read (timeline.completion_isSome room'), span_retained_iff]
  exact and_iff_left station

/-- A start within both rings. -/
theorem completion_readers_agree_iff_within :
    ∃ after apLines lines,
      writeNewTxTimeline (2 ^ 32) (shortTimeline 0 #v[0, 0] #v[0, 0]) ⟨0, 1⟩ =
        .ok (after, apLines) ∧
      writeProbeTxTimeline (2 ^ 32) (shortTimeline 0 #v[0, 0] #v[0, 0]) 0 1 = .ok lines ∧
      ReadsRetained ((completed apLines).map Prod.fst) 1 2 1 ∧
      ReadsRetained ((completed lines).map Prod.fst) 1 2 1 := by
  obtain ⟨after, apLines, lines, ran, ran', agree⟩ := completion_readers_agree_iff (by decide)
    (by decide) (shortTimeline 0 #v[0, 0] #v[0, 0]) 1 0 0 (2 ^ 32) (Nat.le_refl _)
  exact ⟨after, apLines, lines, ran, ran', agree.mpr (.inr (by decide))⟩

/-- One completion slot and two records: the access point writes the second
record under both numbers. -/
theorem completion_readers_differ :
    ∃ after apLines lines,
      writeNewTxTimeline 3 (shortTimeline 0 #v[0, 0] #v[0, 0]) ⟨0, 0⟩ = .ok (after, apLines) ∧
      writeProbeTxTimeline 3 (shortTimeline 0 #v[0, 0] #v[0, 0]) 0 0 = .ok lines ∧
      completed apLines = [(0, ⟨7, 8, 9, 10⟩), (1, ⟨7, 8, 9, 10⟩)] ∧
      completed lines = [(1, ⟨7, 8, 9, 10⟩)] ∧
      ¬ ReadsRetained ((completed apLines).map Prod.fst) 0 2 1 := by
  refine ⟨⟨0, 2⟩, _, _, rfl, rfl, rfl, rfl, ?_⟩
  intro retained
  have stale := (retained 0).mp (by decide)
  revert stale
  decide

end Ws63Examples
