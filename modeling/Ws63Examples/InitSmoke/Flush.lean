import Ws63Examples.InitSmoke.VendorLog
import Ws63Examples.Lib.Execution

/-! The drain loop of `flush_vendor_log`, with vendor callbacks that still hold
the buffering sink pushing between any two of its critical sections. -/

namespace Ws63Examples.InitSmoke

open Slice Word Ws63Examples.Ring Execution VendorLogBuffer

/-- Where the drain stands: before its banner, before a critical section, with
a chunk to write, or done. -/
inductive FlushPoint where
  | starting
  | reading
  | writing (count : Nat)
  | finished
  | panicked
  deriving DecidableEq, Repr

structure Flush (capacity : Nat) where
  log : VendorLogBuffer capacity
  offset : Nat
  chunk : Vector UInt8 128
  point : FlushPoint

/-- `push` is one callback's critical section, `resume` lets the drain go on. -/
inductive FlushInput where
  | push (bytes : List UInt8)
  | resume
  deriving DecidableEq, Repr

/-- What the drain writes to the UART: its banner, a chunk of the log, or the
closing line with the number of dropped bytes. -/
inductive FlushEffect where
  | began
  | chunk (bytes : List UInt8)
  | ended (dropped : Nat)
  deriving DecidableEq, Repr

variable {capacity : Nat}

def Flush.begin (log : VendorLogBuffer capacity) : Flush capacity :=
  ⟨log, 0, Vector.replicate 128 0, .starting⟩

/-- `rf_log_buffered`: one push inside `critical_section::with`. -/
def rfLogBuffered (s : Flush capacity) (bytes : List UInt8) : Flush capacity :=
  match s.log.push bytes with
  | some log => { s with log := log }
  | none => { s with point := .panicked }

/-- The critical section: a chunk and the dropped count are read together. -/
def readChunk (s : Flush capacity) : Flush capacity × List FlushEffect :=
  match s.log.copyFrom s.offset s.chunk with
  | none => ({ s with point := .panicked }, [])
  | some (count, chunk) =>
    if count = 0 then
      ({ s with chunk := chunk, point := .finished }, [.ended (min s.log.dropped u32Max)])
    else ({ s with chunk := chunk, point := .writing count }, [])

/-- `uart.write(&chunk[..count])` and `offset += count`. -/
def writeChunk (s : Flush capacity) (count : Nat) : Flush capacity × List FlushEffect :=
  match slice s.chunk.toList 0 count, checkedAdd usizeMax s.offset count with
  | some bytes, some offset => ({ s with offset := offset, point := .reading }, [.chunk bytes])
  | _, _ => ({ s with point := .panicked }, [])

def flushVendorLog (s : Flush capacity) : FlushInput → Option (Flush capacity × List FlushEffect)
  | .push bytes => if s.point = .panicked then none else some (rfLogBuffered s bytes, [])
  | .resume =>
    match s.point with
    | .starting => some ({ s with point := .reading }, [.began])
    | .reading => some (readChunk s)
    | .writing count => some (writeChunk s count)
    | .finished | .panicked => none

abbrev FlushMoves (capacity : Nat) := List (Move (Flush capacity) FlushInput FlushEffect)

@[simp] def FlushInput.bytes : FlushInput → List UInt8
  | .push bytes => bytes
  | .resume => []

@[simp] def FlushEffect.bytes : FlushEffect → List UInt8
  | .chunk bytes => bytes
  | .began | .ended _ => []

@[simp] def FlushEffect.isChunk : FlushEffect → Bool
  | .chunk _ => true
  | .began | .ended _ => false

/-- The bytes callbacks pushed during a history. -/
def pushed (ms : FlushMoves capacity) : List UInt8 := (inputs ms).flatMap FlushInput.bytes

/-- The bytes of the log a history wrote to the UART. -/
def written (ms : FlushMoves capacity) : List UInt8 := (effects ms).flatMap FlushEffect.bytes

/-- The number of chunks a history wrote. -/
def chunks (ms : FlushMoves capacity) : Nat := (effects ms).countP FlushEffect.isChunk

/-- Bytes read and not yet written. -/
def Flush.pending (s : Flush capacity) : List UInt8 :=
  match s.point with
  | .writing count => s.chunk.toList.take count
  | _ => []

@[simp] theorem pushed_nil : pushed ([] : FlushMoves capacity) = [] := rfl

@[simp] theorem pushed_append (ms ns : FlushMoves capacity) :
    pushed (ms ++ ns) = pushed ms ++ pushed ns := by
  simp [pushed]

@[simp] theorem pushed_singleton (m : Move (Flush capacity) FlushInput FlushEffect) :
    pushed [m] = m.input.bytes := by
  simp [pushed]

@[simp] theorem written_nil : written ([] : FlushMoves capacity) = [] := rfl

@[simp] theorem written_append (ms ns : FlushMoves capacity) :
    written (ms ++ ns) = written ms ++ written ns := by
  simp [written]

@[simp] theorem written_singleton (m : Move (Flush capacity) FlushInput FlushEffect) :
    written [m] = m.effects.flatMap FlushEffect.bytes := by
  simp [written]

@[simp] theorem chunks_nil : chunks ([] : FlushMoves capacity) = 0 := rfl

@[simp] theorem chunks_append (ms ns : FlushMoves capacity) :
    chunks (ms ++ ns) = chunks ms + chunks ns := by
  simp [chunks]

@[simp] theorem chunks_singleton (m : Move (Flush capacity) FlushInput FlushEffect) :
    chunks [m] = m.effects.countP FlushEffect.isChunk := by
  simp [chunks]

theorem pushed_of_resumes {ms : FlushMoves capacity} (only : ∀ i ∈ inputs ms, i = .resume) :
    pushed ms = [] := by
  rw [pushed, List.flatMap_eq_nil_iff]
  intro i member
  rw [only i member]
  rfl

/-- A finished drain writes nothing more, whatever is still pushed. -/
theorem finished_silent {ms : FlushMoves capacity} {s t : Flush capacity}
    (run : Run flushVendorLog s ms t) (done : s.point = .finished) : effects ms = [] := by
  have still : effects ms = [] ∧ (t.point = .finished ∨ t.point = .panicked) := by
    refine run.history (P := fun ms t => effects ms = [] ∧
      (t.point = .finished ∨ t.point = .panicked)) ⟨rfl, Or.inl done⟩ ?_
    rintro ns v i w out - ⟨quiet, stopped⟩ hs
    cases i with
    | push bytes =>
      simp only [flushVendorLog] at hs
      split at hs
      · cases hs
      · simp only [Option.some.injEq, Prod.mk.injEq] at hs
        obtain ⟨rfl, rfl⟩ := hs
        refine ⟨by simp [quiet], ?_⟩
        unfold rfLogBuffered
        split
        · exact stopped
        · exact Or.inr rfl
    | resume => rcases stopped with hp | hp <;> simp [flushVendorLog, hp] at hs
  exact still.1

/-- How far the drain is since its last chunk. -/
@[simp] def FlushPoint.rank : FlushPoint → Nat
  | .starting => 0
  | .reading => 1
  | .writing _ | .finished => 2
  | .panicked => 3

/-- The drain takes two steps a chunk and a few around them. -/
theorem resumes_le {log : VendorLogBuffer capacity} {ms : FlushMoves capacity}
    {s : Flush capacity} (run : Run flushVendorLog (Flush.begin log) ms s) :
    (inputs ms).countP (· == .resume) ≤ 2 * chunks ms + s.point.rank := by
  refine run.history (P := fun ms s => (inputs ms).countP (· == .resume) ≤
    2 * chunks ms + s.point.rank) (Nat.zero_le _) ?_
  rintro ns v i w out - bound hs
  cases i with
  | push bytes =>
    simp only [flushVendorLog] at hs
    split at hs
    · cases hs
    · simp only [Option.some.injEq, Prod.mk.injEq] at hs
      obtain ⟨rfl, rfl⟩ := hs
      have rank : v.point.rank ≤ (rfLogBuffered v bytes).point.rank := by
        unfold rfLogBuffered
        split
        · exact Nat.le_refl _
        · cases v.point <;> simp
      have none : List.countP (· == FlushInput.resume) [FlushInput.push bytes] = 0 := rfl
      simp only [inputs_append, inputs_singleton, List.countP_append, none, chunks_append,
        chunks_singleton, List.countP_nil]
      omega
  | resume =>
    cases hp : v.point with
    | starting =>
      simp only [flushVendorLog, hp, Option.some.injEq, Prod.mk.injEq] at hs
      obtain ⟨rfl, rfl⟩ := hs
      simp [hp] at bound ⊢
      omega
    | reading =>
      simp only [flushVendorLog, hp, Option.some.injEq, readChunk] at hs
      split at hs
      · obtain ⟨rfl, rfl⟩ := Prod.mk.injEq .. ▸ hs
        simp [hp] at bound ⊢
        omega
      · split at hs <;> obtain ⟨rfl, rfl⟩ := Prod.mk.injEq .. ▸ hs <;>
          simp [hp] at bound ⊢ <;> omega
    | writing count =>
      simp only [flushVendorLog, hp, Option.some.injEq, writeChunk] at hs
      split at hs <;> obtain ⟨rfl, rfl⟩ := Prod.mk.injEq .. ▸ hs <;>
        simp [hp] at bound ⊢ <;> omega
    | finished | panicked => simp [flushVendorLog, hp] at hs

variable [NeZero capacity]

/-- What holds between the drain and the whole pushed stream. -/
structure Drained (start : List UInt8) (ms : FlushMoves capacity) (s : Flush capacity) : Prop where
  refines : Refines s.log (start ++ pushed ms)
  reader : Reader (start ++ pushed ms) s.log.len (written ms ++ s.pending)
  length_eq : (written ms).length = s.offset
  running : s.point ≠ .panicked
  chunk_fits : ∀ count, s.point = .writing count → 0 < count ∧ count ≤ 128
  chunks_le : chunks ms ≤ s.offset
  resting : pushed ms = [] → written ms ++ s.pending <+: start.rtake s.log.len
  caught_up : s.point = .finished → pushed ms = [] → s.offset = s.log.len

section
variable {start : List UInt8} {ms : FlushMoves capacity} {s : Flush capacity}

theorem begin_drained {log : VendorLogBuffer capacity} (h : Refines log start) :
    Drained start [] (Flush.begin log) where
  refines := by simpa [Flush.begin] using h
  reader := Reader.start (by simpa [Flush.begin] using h.len_le_stream)
  length_eq := rfl
  running := by simp [Flush.begin]
  chunk_fits := by simp [Flush.begin]
  chunks_le := Nat.zero_le _
  resting := fun _ => List.nil_prefix
  caught_up := by simp [Flush.begin]

theorem push_drained (fits : 2 * capacity ≤ usizeMax) (h : Drained start ms s)
    (bytes : List UInt8) :
    Drained start (ms ++ [⟨s, .push bytes, [], rfLogBuffered s bytes⟩])
      (rfLogBuffered s bytes) := by
  obtain ⟨log, hpush, hlog⟩ := push_refines fits h.refines bytes
  have next : rfLogBuffered s bytes = { s with log := log } := by simp [rfLogBuffered, hpush]
  have before := h.refines.len_eq
  have after := hlog.len_eq
  have lengths : (start ++ pushed ms ++ bytes).length = (start ++ pushed ms).length + bytes.length :=
    List.length_append
  have moved : Reader (start ++ pushed ms ++ bytes) log.len (written ms ++ s.pending) :=
    h.reader.grow bytes (by omega) (by omega) (by omega)
  have same (none : pushed ms ++ bytes = []) : log.len = s.log.len := by
    rw [before, after, List.append_assoc, none, (List.append_eq_nil_iff.mp none).1]
  rw [next]
  exact {
    refines := by simpa using hlog
    reader := by simpa [Flush.pending] using moved
    length_eq := by simpa using h.length_eq
    running := h.running
    chunk_fits := h.chunk_fits
    chunks_le := by simpa using h.chunks_le
    resting := by
      intro none
      rw [pushed_append, pushed_singleton] at none
      simpa [same none, Flush.pending] using h.resting (List.append_eq_nil_iff.mp none).1
    caught_up := by
      intro done none
      rw [pushed_append, pushed_singleton] at none
      simpa [same none] using h.caught_up done (List.append_eq_nil_iff.mp none).1 }

theorem start_drained (h : Drained start ms s) (hp : s.point = .starting) :
    Drained start (ms ++ [⟨s, .resume, [.began], { s with point := .reading }⟩])
      { s with point := .reading } := by
  have reader := h.reader
  have resting := h.resting
  simp only [Flush.pending, hp] at reader resting
  exact {
    refines := by simpa using h.refines
    reader := by simpa [Flush.pending] using reader
    length_eq := by simpa using h.length_eq
    running := by simp
    chunk_fits := by simp
    chunks_le := by simpa using h.chunks_le
    resting := by simpa [Flush.pending] using resting
    caught_up := by simp }

/-- The critical section reads the next bytes of the stream, or nothing exactly
when the reader has caught up. -/
theorem readChunk_spec (fits : 2 * capacity ≤ usizeMax) (h : Drained start ms s)
    (hp : s.point = .reading) :
    ∃ chunk : Vector UInt8 128, let count := min (s.log.len - s.offset) 128
      s.offset ≤ s.log.len ∧
      readChunk s = (if count = 0 then
        ({ s with chunk := chunk, point := .finished }, [.ended (min s.log.dropped u32Max)])
        else ({ s with chunk := chunk, point := .writing count }, [])) ∧
      chunk.toList.take count = ((start ++ pushed ms).drop
        ((start ++ pushed ms).length - s.log.len + s.offset)).take count := by
  have inside := h.reader.inside
  simp only [Flush.pending, hp, List.append_nil, h.length_eq] at inside
  obtain ⟨chunk, hcopy, hout⟩ := copyFrom_spec fits h.refines.toHolds inside s.chunk
  refine ⟨chunk, inside, by simp [readChunk, hcopy], ?_⟩
  have := h.refines.len_le_stream
  rw [hout, List.take_append_of_le_length, List.take_take, Nat.min_self]
  simp only [List.length_take, List.length_drop]
  omega

theorem read_drained (fits : 2 * capacity ≤ usizeMax) (h : Drained start ms s)
    (hp : s.point = .reading) :
    Drained start (ms ++ [⟨s, .resume, (readChunk s).2, (readChunk s).1⟩]) (readChunk s).1 := by
  obtain ⟨chunk, inside, hread, hchunk⟩ := readChunk_spec fits h hp
  have reader := h.reader
  have resting := h.resting
  have window := h.refines.window_eq
  simp only [Flush.pending, hp, List.append_nil] at reader resting
  rw [hread]
  split
  · rename_i none_left
    exact {
      refines := by simpa using h.refines
      reader := by simpa [Flush.pending] using reader
      length_eq := by simpa using h.length_eq
      running := by simp
      chunk_fits := by simp
      chunks_le := by simpa using h.chunks_le
      resting := by simpa [Flush.pending] using resting
      caught_up := by
        intro _ _
        change s.offset = s.log.len
        omega }
  · rename_i some_left
    have more := reader.read (n := min (s.log.len - s.offset) 128)
      (by rw [h.length_eq]; omega)
    rw [h.length_eq, ← hchunk] at more
    exact {
      refines := by simpa using h.refines
      reader := by simpa [Flush.pending] using more
      length_eq := by simpa using h.length_eq
      running := by simp
      chunk_fits := by
        intro count hc
        obtain rfl : min (s.log.len - s.offset) 128 = count := by simpa using hc
        omega
      chunks_le := by simpa using h.chunks_le
      resting := by
        intro none
        have none : pushed ms = [] := by simpa using none
        have ahead := prefix_read (resting none) (min (s.log.len - s.offset) 128)
        rw [h.length_eq, List.rtake, List.drop_drop] at ahead
        simpa [Flush.pending, hchunk, none, List.rtake] using ahead
      caught_up := by simp }

theorem write_drained (fits : 2 * capacity ≤ usizeMax) (h : Drained start ms s) {count : Nat}
    (hp : s.point = .writing count) :
    Drained start (ms ++ [⟨s, .resume, (writeChunk s count).2, (writeChunk s count).1⟩])
      (writeChunk s count).1 := by
  obtain ⟨positive, hcount⟩ := h.chunk_fits count hp
  have reader := h.reader
  have resting := h.resting
  have length_eq := h.length_eq
  simp only [Flush.pending, hp] at reader resting
  have length : (s.chunk.toList.take count).length = count := by simp; omega
  have inside := reader.inside
  have len_le := h.refines.len_le
  simp only [List.length_append, length, length_eq] at inside
  have written_all : slice s.chunk.toList 0 count = some (s.chunk.toList.take count) :=
    slice_prefix (by simpa using hcount)
  have advanced : checkedAdd usizeMax s.offset count = some (s.offset + count) :=
    checkedAdd_of_le (by omega)
  have next : writeChunk s count =
      ({ s with offset := s.offset + count, point := .reading },
        [.chunk (s.chunk.toList.take count)]) := by
    simp only [writeChunk, written_all, advanced]
  rw [next]
  exact {
    refines := by simpa using h.refines
    reader := by simpa [Flush.pending] using reader
    length_eq := by simp [length_eq]; omega
    running := by simp
    chunk_fits := by simp
    chunks_le := by
      have := h.chunks_le
      simp
      omega
    resting := by simpa [Flush.pending] using resting
    caught_up := by simp }

/-- Every step of the drain and of the callbacks around it. -/
theorem step_drained (fits : 2 * capacity ≤ usizeMax) (h : Drained start ms s) {i : FlushInput}
    {t : Flush capacity} {out : List FlushEffect} (hs : flushVendorLog s i = some (t, out)) :
    Drained start (ms ++ [⟨s, i, out, t⟩]) t := by
  cases i with
  | push bytes =>
    simp only [flushVendorLog, h.running, if_false, Option.some.injEq, Prod.mk.injEq] at hs
    obtain ⟨rfl, rfl⟩ := hs
    exact push_drained fits h bytes
  | resume =>
    cases hp : s.point with
    | starting =>
      simp only [flushVendorLog, hp, Option.some.injEq, Prod.mk.injEq] at hs
      obtain ⟨rfl, rfl⟩ := hs
      exact start_drained h hp
    | reading =>
      simp only [flushVendorLog, hp, Option.some.injEq] at hs
      rw [← show (readChunk s).1 = t by rw [hs], ← show (readChunk s).2 = out by rw [hs]]
      exact read_drained fits h hp
    | writing count =>
      simp only [flushVendorLog, hp, Option.some.injEq] at hs
      rw [← show (writeChunk s count).1 = t by rw [hs],
        ← show (writeChunk s count).2 = out by rw [hs]]
      exact write_drained fits h hp
    | finished => simp [flushVendorLog, hp] at hs
    | panicked => exact absurd hp h.running

theorem run_drained (fits : 2 * capacity ≤ usizeMax) {log : VendorLogBuffer capacity}
    (h : Refines log start) (run : Run flushVendorLog (Flush.begin log) ms s) :
    Drained start ms s :=
  run.history (begin_drained h) fun _ _ _ _ _ _ drained hs => step_drained fits drained hs

/-- The closing line is written only by a reader that has caught up, with the
dropped count of the same critical section. -/
theorem ended_spec (fits : 2 * capacity ≤ usizeMax) (h : Drained start ms s) {i : FlushInput}
    {t : Flush capacity} {out : List FlushEffect} (hs : flushVendorLog s i = some (t, out))
    {d : Nat} (hd : .ended d ∈ out) :
    s.offset = s.log.len ∧ s.point = .reading ∧ out = [.ended d] ∧
      d = min s.log.dropped u32Max ∧ t.point = .finished := by
  cases i with
  | push bytes =>
    simp only [flushVendorLog, h.running, if_false, Option.some.injEq, Prod.mk.injEq] at hs
    obtain ⟨-, rfl⟩ := hs
    cases hd
  | resume =>
    cases hp : s.point with
    | starting =>
      simp only [flushVendorLog, hp, Option.some.injEq, Prod.mk.injEq] at hs
      obtain ⟨-, rfl⟩ := hs
      simp at hd
    | reading =>
      obtain ⟨chunk, inside, hread, -⟩ := readChunk_spec fits h hp
      simp only [flushVendorLog, hp, hread, Option.some.injEq] at hs
      split at hs
      · rename_i none_left
        obtain ⟨rfl, rfl⟩ := Prod.mk.injEq .. ▸ hs
        obtain rfl : d = min s.log.dropped u32Max := by simpa using hd
        exact ⟨by omega, rfl, rfl, rfl, rfl⟩
      · obtain ⟨-, rfl⟩ := Prod.mk.injEq .. ▸ hs
        cases hd
    | writing count =>
      simp only [flushVendorLog, hp, writeChunk, Option.some.injEq] at hs
      split at hs <;> obtain ⟨-, rfl⟩ := Prod.mk.injEq .. ▸ hs <;> simp at hd
    | finished | panicked => simp [flushVendorLog, hp] at hs

/-- The reader stays inside the buffer, and every chunk moves it on. -/
theorem Drained.inside (h : Drained start ms s) :
    s.offset ≤ s.log.len ∧ chunks ms ≤ capacity := by
  have inside := h.reader.inside
  have len_le := h.refines.len_le
  have chunks_le := h.chunks_le
  rw [List.length_append, h.length_eq] at inside
  omega

/-- The closing line counts what was pushed before it and not written, as far as a
`usize` counts. -/
theorem ended_accounts (fits : 2 * capacity ≤ usizeMax) {log : VendorLogBuffer capacity}
    (h : Refines log start) {pre post : FlushMoves capacity}
    {m : Move (Flush capacity) FlushInput FlushEffect}
    (run : Run flushVendorLog (Flush.begin log) (pre ++ m :: post) s) {d : Nat}
    (hd : .ended d ∈ m.effects) :
    written (pre ++ m :: post) = written pre ∧ d = m.before.log.dropped ∧
      d = min ((start ++ pushed pre).length - (written pre).length) usizeMax := by
  obtain ⟨before, hstep, after⟩ := run.at_move
  have drained := run_drained fits h before
  obtain ⟨caught_up, hp, hout, rfl, done⟩ := ended_spec fits drained hstep hd
  have silent : written post = [] := by simp [written, finished_silent after done]
  have quiet : written (pre ++ m :: post) = written pre := by
    rw [← List.singleton_append, written_append, written_append, silent]
    simp [hout]
  have read_all := drained.length_eq
  have dropped := drained.refines.dropped_eq
  have same_width : usizeMax = u32Max := rfl
  exact ⟨quiet, by omega, by omega⟩

/-- What the drain wrote is an ordered part of what was pushed. -/
theorem Drained.ordered (h : Drained start ms s) :
    (written ms).Sublist (start ++ pushed ms) :=
  (List.sublist_append_left _ _).trans (h.reader.ordered.trans (List.take_sublist _ _))

/-- Left alone, a finished drain has written the retained window. -/
theorem Drained.alone (h : Drained start ms s) (alone : pushed ms = [])
    (done : s.point = .finished) : written ms = start.rtake capacity := by
  have resting := h.resting alone
  have caught_up := h.caught_up done alone
  have window_all := h.refines.window_all
  have length_eq := h.length_eq
  simp only [Flush.pending, done, List.append_nil] at resting
  have same : (written ms).length = (start.rtake s.log.len).length := by
    have := h.refines.len_le_stream
    simp only [alone, List.append_nil] at this
    simp only [List.rtake, List.length_drop]
    omega
  rw [resting.eq_of_length same]
  simpa [alone] using window_all

/-- The drain takes so many steps, whatever is pushed meanwhile. -/
theorem resumes_bounded (fits : 2 * capacity ≤ usizeMax) {log : VendorLogBuffer capacity}
    (h : Refines log start) (run : Run flushVendorLog (Flush.begin log) ms s) :
    (inputs ms).countP (· == .resume) ≤ 2 * capacity + 2 := by
  have resumes := resumes_le run
  have drained := run_drained fits h run
  have few := drained.inside.2
  have rank : s.point.rank ≤ 2 := by
    cases at_point : s.point with
    | panicked => exact absurd at_point drained.running
    | starting | reading | writing | finished => simp
  omega

/-- Until it is finished the drain goes on when it is resumed. -/
theorem Drained.resumes (h : Drained start ms s) (unfinished : s.point ≠ .finished) :
    ∃ t out, flushVendorLog s .resume = some (t, out) := by
  cases at_point : s.point with
  | starting | reading | writing =>
    simp only [flushVendorLog, at_point]
    exact ⟨_, _, rfl⟩
  | finished => exact absurd at_point unfinished
  | panicked => exact absurd at_point h.running

/-- Left alone from anywhere on, the drain ends. -/
theorem drain_ends (fits : 2 * capacity ≤ usizeMax) {log : VendorLogBuffer capacity}
    (h : Refines log start) (run : Run flushVendorLog (Flush.begin log) ms s) :
    ∃ ns t, Run flushVendorLog s ns t ∧ (∀ i ∈ inputs ns, i = .resume) ∧
      t.point = .finished := by
  -- what is left of the bound goes down with every step
  generalize left : 2 * capacity + 2 - (inputs ms).countP (· == .resume) = n
  induction n generalizing ms s with
  | zero =>
    by_cases done : s.point = .finished
    · exact ⟨[], s, .start, fun i none => absurd none List.not_mem_nil, done⟩
    · obtain ⟨t, out, stepped⟩ := (run_drained fits h run).resumes done
      have bound := resumes_bounded fits h (run.next stepped)
      simp only [inputs_append, inputs_singleton, List.countP_append, List.countP_singleton,
        beq_self_eq_true, if_true] at bound
      omega
  | succ n ih =>
    by_cases done : s.point = .finished
    · exact ⟨[], s, .start, fun i none => absurd none List.not_mem_nil, done⟩
    · obtain ⟨t, out, stepped⟩ := (run_drained fits h run).resumes done
      have fewer : 2 * capacity + 2 -
          (inputs (ms ++ [⟨s, .resume, out, t⟩])).countP (· == .resume) = n := by
        simp only [inputs_append, inputs_singleton, List.countP_append, List.countP_singleton,
          beq_self_eq_true, if_true]
        omega
      obtain ⟨ns, u, rest, only, finished⟩ := ih (run.next stepped) fewer
      refine ⟨_, u, (Run.single stepped).trans rest, ?_, finished⟩
      intro i member
      rw [inputs_append, inputs_singleton] at member
      rcases List.mem_append.mp member with first | later
      · exact List.mem_singleton.mp first
      · exact only i later

/-- A drain that is resumed again and again ends. -/
theorem play_finishes (fits : 2 * capacity ≤ usizeMax) {log : VendorLogBuffer capacity}
    (h : Refines log start) (play : Play flushVendorLog (Flush.begin log))
    (fair : ∀ t, (play.state t).point ≠ .finished → ∃ u, t ≤ u ∧ play.input u = .resume) :
    ∃ t, (play.state t).point = .finished := by
  by_contra unfinished
  have running : ∀ t, (play.state t).point ≠ .finished := fun t done => unfinished ⟨t, done⟩
  apply play.bounded (· == .resume) (2 * capacity + 2)
  · intro t
    exact resumes_bounded fits h (play.run t)
  · intro t
    obtain ⟨u, htu, hu⟩ := fair t (running t)
    exact ⟨u, htu, by simp [hu]⟩

end

/-- Bytes that are logged behind the banner are drained as if they had been there before. -/
theorem logged_behind_banner {capacity : Nat} {log log' : VendorLogBuffer capacity}
    {bytes : List UInt8} (added : log.push bytes = some log') {ms : FlushMoves capacity}
    {t : Flush capacity} (run : Run flushVendorLog (Flush.begin log') ms t)
    (only : ∀ i ∈ inputs ms, i = .resume) (finished : t.point = .finished) :
    ∃ ns, Run flushVendorLog (Flush.begin log) ns t ∧ pushed ns = bytes ∧
      written ns = written ms := by
  cases ms with
  | nil =>
    rw [run.nil] at finished
    cases finished
  | cons m rest =>
    obtain ⟨-, stepped, behind⟩ := run.uncons
    have asked : m.input = .resume := only m.input List.mem_cons_self
    rw [asked] at stepped
    obtain ⟨reading, banner⟩ := answer_parts stepped
    have began : flushVendorLog (Flush.begin log) .resume =
        some ({ Flush.begin log with point := .reading }, [.began]) := rfl
    have late : flushVendorLog { Flush.begin log with point := .reading } (.push bytes) =
        some (m.after, []) := by
      rw [← reading]
      simp [flushVendorLog, rfLogBuffered, Flush.begin, added]
    refine ⟨_, ((Run.single began).next late).trans behind, ?_, ?_⟩
    · have alone := pushed_of_resumes fun i member => only i (List.mem_cons_of_mem _ member)
      rw [pushed_append, pushed_append, alone]
      simp
    · have first : written (m :: rest) = written rest := by
        rw [← List.singleton_append, written_append, written_singleton, ← banner]
        rfl
      rw [first, written_append, written_append]
      rfl

end Ws63Examples.InitSmoke
