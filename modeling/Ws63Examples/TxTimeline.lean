import Ws63Examples.Lib.Loop
import Ws63Examples.Lib.Retention

/-! The driver's transmit timeline, as the two boards read it. -/

namespace Ws63Examples

open Loop Retention Word

structure TxSubmission where
  timeMs : UInt32
  echo : UInt32
  deriving DecidableEq, Repr

structure TxCompletion where
  timeMs : UInt32
  descriptor : UInt32
  packetNumber : UInt32
  echo : UInt32
  deriving DecidableEq, Repr

/-- `data_tx_timeline`: two rings, each with the number of records it was given.
A length is a `usize` of 32 bits. -/
structure TxTimeline (submissionSlots completionSlots : UInt32) where
  submissionTotal : UInt32
  submissionTimeMs : Vector UInt32 submissionSlots.toNat
  submissions : Vector UInt32 submissionSlots.toNat
  completionTotal : UInt32
  completionTimeMs : Vector UInt32 completionSlots.toNat
  completions : Vector UInt32 completionSlots.toNat
  packetNumberLsb : Vector UInt32 completionSlots.toNat
  completionEcho : Vector UInt32 completionSlots.toNat

/-- The lines of a timeline, each board's own prefix apart. -/
inductive TxLine where
  | submit (index : UInt32) (record : TxSubmission)
  | complete (index : UInt32) (record : TxCompletion)
  | truncated (submissionStart completionStart : UInt32)
  deriving DecidableEq, Repr

namespace TxTimeline

variable {s c : UInt32}

/-- The submission a line is written for; a ring without slots has no remainder
to index it with. -/
def submission (timeline : TxTimeline s c) (index : UInt32) : Option TxSubmission := do
  let slot := index.toNat % s.toNat
  let timeMs ← timeline.submissionTimeMs[slot]?
  let echo ← timeline.submissions[slot]?
  return ⟨timeMs, echo⟩

def completion (timeline : TxTimeline s c) (index : UInt32) : Option TxCompletion := do
  let slot := index.toNat % c.toNat
  let timeMs ← timeline.completionTimeMs[slot]?
  let descriptor ← timeline.completions[slot]?
  let packetNumber ← timeline.packetNumberLsb[slot]?
  let echo ← timeline.completionEcho[slot]?
  return ⟨timeMs, descriptor, packetNumber, echo⟩

def submitLine (timeline : TxTimeline s c) (index : UInt32) : Option TxLine :=
  (timeline.submission index).map (.submit index)

def completeLine (timeline : TxTimeline s c) (index : UInt32) : Option TxLine :=
  (timeline.completion index).map (.complete index)

/-- In a ring with slots every index reads one. -/
theorem submission_isSome (room : 0 < s) (timeline : TxTimeline s c) (index : UInt32) :
    (timeline.submission index).isSome := by
  have slot : index.toNat % s.toNat < s.toNat := Nat.mod_lt _ (UInt32.lt_iff_toNat_lt.mp room)
  simp only [submission, Vector.getElem?_eq_getElem slot, Option.bind_eq_bind, Option.bind_some]
  rfl

theorem completion_isSome (room : 0 < c) (timeline : TxTimeline s c) (index : UInt32) :
    (timeline.completion index).isSome := by
  have slot : index.toNat % c.toNat < c.toNat := Nat.mod_lt _ (UInt32.lt_iff_toNat_lt.mp room)
  simp only [completion, Vector.getElem?_eq_getElem slot, Option.bind_eq_bind, Option.bind_some]
  rfl

theorem submitLine_isSome (room : 0 < s) (timeline : TxTimeline s c) (index : UInt32) :
    (timeline.submitLine index).isSome :=
  Option.isSome_map.trans (timeline.submission_isSome room index)

theorem completeLine_isSome (room : 0 < c) (timeline : TxTimeline s c) (index : UInt32) :
    (timeline.completeLine index).isSome :=
  Option.isSome_map.trans (timeline.completion_isSome room index)

/-- The producer's submissions: record `i` went to slot `i` modulo the length. -/
structure Produced (log : Nat → TxSubmission) (timeline : TxTimeline s c) : Prop where
  timeMs : Stored (fun i => (log i).timeMs) timeline.submissionTotal.toNat
    timeline.submissionTimeMs
  echo : Stored (fun i => (log i).echo) timeline.submissionTotal.toNat timeline.submissions

theorem Produced.submission {log : Nat → TxSubmission} {timeline : TxTimeline s c}
    (produced : Produced log timeline) {index : UInt32} (inside : index < timeline.submissionTotal)
    (kept : timeline.submissionTotal.toNat ≤ index.toNat + s.toNat) :
    timeline.submission index = some (log index.toNat) := by
  have below := UInt32.lt_iff_toNat_lt.mp inside
  simp only [TxTimeline.submission, produced.timeMs.retained below kept,
    produced.echo.retained below kept]
  rfl

end TxTimeline

/-- The submissions among lines, with their indices. -/
def submitted (lines : List TxLine) : List (UInt32 × TxSubmission) :=
  lines.filterMap fun
    | .submit index record => some (index, record)
    | _ => none

def completed (lines : List TxLine) : List (UInt32 × TxCompletion) :=
  lines.filterMap fun
    | .complete index record => some (index, record)
    | _ => none

@[simp] theorem submitted_append (xs ys : List TxLine) :
    submitted (xs ++ ys) = submitted xs ++ submitted ys := List.filterMap_append

@[simp] theorem completed_append (xs ys : List TxLine) :
    completed (xs ++ ys) = completed xs ++ completed ys := List.filterMap_append

section
variable {s c : UInt32} (timeline : TxTimeline s c) (indices : List UInt32)

theorem submitted_submits : submitted (indices.filterMap timeline.submitLine) =
    indices.filterMap fun i => (timeline.submission i).map (i, ·) := by
  rw [submitted, List.filterMap_filterMap]
  congr 1
  funext i
  cases h : timeline.submission i <;> simp [TxTimeline.submitLine, h]

theorem submitted_completes : submitted (indices.filterMap timeline.completeLine) = [] := by
  rw [submitted, List.filterMap_filterMap, List.filterMap_eq_nil_iff]
  intro i _
  cases h : timeline.completion i <;> simp [TxTimeline.completeLine, h]

theorem completed_completes : completed (indices.filterMap timeline.completeLine) =
    indices.filterMap fun i => (timeline.completion i).map (i, ·) := by
  rw [completed, List.filterMap_filterMap]
  congr 1
  funext i
  cases h : timeline.completion i <;> simp [TxTimeline.completeLine, h]

theorem completed_submits : completed (indices.filterMap timeline.submitLine) = [] := by
  rw [completed, List.filterMap_filterMap, List.filterMap_eq_nil_iff]
  intro i _
  cases h : timeline.submission i <;> simp [TxTimeline.submitLine, h]

end

/-- Records read at some indices are those indices' records. -/
theorem map_fst_read {α : Type} {read : UInt32 → Option α} (reads : ∀ i, (read i).isSome)
    (indices : List UInt32) :
    (indices.filterMap fun i => (read i).map (i, ·)).map Prod.fst = indices := by
  induction indices with
  | nil => rfl
  | cons i indices ih =>
    obtain ⟨record, found⟩ := Option.isSome_iff_exists.mp (reads i)
    rw [List.filterMap_cons_some (by rw [found]; rfl), List.map_cons, ih]

/-- Where a reader at `cursor` starts in a ring of `slots`. -/
def startAt (cursor total slots : UInt32) : UInt32 := max cursor (saturatingSub32 total slots)

theorem startAt_toNat (cursor total slots : UInt32) :
    (startAt cursor total slots).toNat = max cursor.toNat (total.toNat - slots.toNat) := by
  rw [startAt, max_toNat, saturatingSub32_toNat]

/-- The indices it goes through are those a reader of the log takes. -/
theorem span_startAt (cursor total slots : UInt32) :
    (span (startAt cursor total slots) total).map UInt32.toNat =
      readFrom slots.toNat cursor.toNat total.toNat := by
  rw [span_toNat, startAt_toNat, readFrom]

theorem mem_span_startAt {cursor total slots i : UInt32} :
    i ∈ span (startAt cursor total slots) total ↔
      cursor ≤ i ∧ i < total ∧ total.toNat ≤ i.toNat + slots.toNat := by
  rw [mem_span, UInt32.le_iff_toNat_le, startAt_toNat, UInt32.le_iff_toNat_le,
    UInt32.lt_iff_toNat_lt]
  omega

end Ws63Examples
