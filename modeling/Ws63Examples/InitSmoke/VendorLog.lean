import Ws63Examples.Lib.Ring
import Ws63Examples.Lib.Word

namespace Ws63Examples.InitSmoke

open Slice Word Ws63Examples.Ring

/-- The fixed buffer vendor callbacks log into. The firmware's capacity is
`vendorLogCapacity`; nothing in the code depends on its value. -/
structure VendorLogBuffer (capacity : Nat) where
  bytes : Vector UInt8 capacity
  start : Nat
  len : Nat
  dropped : Nat

def vendorLogCapacity : Nat := 16 * 1024

instance : NeZero vendorLogCapacity := ⟨by simp [vendorLogCapacity]⟩

namespace VendorLogBuffer

variable {capacity : Nat}

def new : VendorLogBuffer capacity := ⟨Vector.replicate capacity 0, 0, 0, 0⟩

/-- The first branch of `push`: an oversized slice replaces the whole content
and only its last `capacity` bytes go on. -/
def keepTail (log : VendorLogBuffer capacity) (bytes : List UInt8) :
    Option (VendorLogBuffer capacity × List UInt8) :=
  if capacity ≤ bytes.length then do
    let excess ← checkedSub bytes.length capacity
    let dropped := saturatingAdd usizeMax (saturatingAdd usizeMax log.dropped log.len) excess
    let kept ← slice bytes excess bytes.length
    some ({ log with dropped := dropped, start := 0, len := 0 }, kept)
  else some (log, bytes)

/-- The overflow branch of `push`: the oldest bytes make room for `count` new ones. -/
def makeRoom (log : VendorLogBuffer capacity) (count : Nat) :
    Option (VendorLogBuffer capacity) :=
  let overflow := saturatingAdd usizeMax log.len count - capacity
  if overflow ≠ 0 then do
    let start ← checkedAdd usizeMax log.start overflow
    let len ← checkedSub log.len overflow
    some { log with
      start := start % capacity
      len := len
      dropped := saturatingAdd usizeMax log.dropped overflow }
  else some log

/-- The end of `push`: two copies, the second from the start of the array. -/
def append (log : VendorLogBuffer capacity) (bytes : List UInt8) :
    Option (VendorLogBuffer capacity) := do
  let stop := (← checkedAdd usizeMax log.start log.len) % capacity
  let first := min bytes.length (← checkedSub capacity stop)
  let upper ← copyFromSlice log.bytes stop (← checkedAdd usizeMax stop first)
    (← slice bytes 0 first)
  let both ← copyFromSlice upper 0 (← checkedSub bytes.length first)
    (← slice bytes first bytes.length)
  some { log with bytes := both, len := ← checkedAdd usizeMax log.len bytes.length }

/-- `none` is a panic: a range out of bounds, an overflow or an underflow. -/
def push (log : VendorLogBuffer capacity) (bytes : List UInt8) :
    Option (VendorLogBuffer capacity) := do
  let (log, bytes) ← log.keepTail bytes
  let log ← log.makeRoom bytes.length
  log.append bytes

def copyFrom {m : Nat} (log : VendorLogBuffer capacity) (offset : Nat)
    (output : Vector UInt8 m) : Option (Nat × Vector UInt8 m) := do
  let count := min (← checkedSub log.len offset) m
  let source := (← checkedAdd usizeMax log.start offset) % capacity
  let first := min count (← checkedSub capacity source)
  let upper ← copyFromSlice output 0 first
    (← slice log.bytes.toList source (← checkedAdd usizeMax source first))
  let both ← copyFromSlice upper first count
    (← slice log.bytes.toList 0 (← checkedSub count first))
  some (count, both)

/-- Every slice of a history pushed in turn. -/
def pushAll (log : VendorLogBuffer capacity) (slices : List (List UInt8)) :
    Option (VendorLogBuffer capacity) :=
  slices.foldlM push log

theorem pushAll_snoc {log held next : VendorLogBuffer capacity} {slices : List (List UInt8)}
    {bytes : List UInt8} (reached : pushAll log slices = some held)
    (added : push held bytes = some next) : pushAll log (slices ++ [bytes]) = some next := by
  rw [pushAll] at reached
  rw [pushAll, List.foldlM_append, reached, some_bind, List.foldlM_cons, added]
  rfl

variable [NeZero capacity]

/-- The buffer holds the last `len` bytes of a whole stream and counts the rest
as lost. The count is exact until it no longer fits. -/
structure Holds (log : VendorLogBuffer capacity) (stream : List UInt8) : Prop where
  start_lt : log.start < capacity
  len_le : log.len ≤ capacity
  len_le_stream : log.len ≤ stream.length
  dropped_eq : log.dropped = min (stream.length - log.len) usizeMax
  window_eq : window log.bytes log.start log.len = stream.rtake log.len

/-- The plain model of the buffer: as much of the stream's end as fits. -/
structure Refines (log : VendorLogBuffer capacity) (stream : List UInt8) : Prop
    extends Holds log stream where
  len_eq : log.len = min stream.length capacity

theorem Refines.window_all {log : VendorLogBuffer capacity} {stream : List UInt8}
    (h : Refines log stream) : stream.rtake log.len = stream.rtake capacity := by
  simp only [List.rtake, h.len_eq]
  congr 1
  omega

theorem new_refines : Refines (new : VendorLogBuffer capacity) [] where
  start_lt := Nat.pos_of_neZero _
  len_le := Nat.zero_le _
  len_le_stream := Nat.le_refl _
  dropped_eq := by simp [new]
  window_eq := rfl
  len_eq := by simp [new]

section
variable {log : VendorLogBuffer capacity} {stream : List UInt8}

/-- The slice of an oversized push stands for a stream that was lost whole. -/
theorem keepTail_holds (h : Holds log stream) (bytes : List UInt8) :
    ∃ log' kept lost, keepTail log bytes = some (log', kept) ∧ Holds log' lost ∧
      lost ++ kept = stream ++ bytes ∧
      (log' = log ∧ kept = bytes ∧ bytes.length < capacity ∨ kept.length = capacity) := by
  by_cases hb : capacity ≤ bytes.length
  · have excess : bytes.length - capacity ≤ bytes.length := by omega
    refine ⟨_, bytes.drop (bytes.length - capacity),
      stream ++ bytes.take (bytes.length - capacity),
      by simp [keepTail, hb, excess]; rfl, ?_, by simp, Or.inr (by simp; omega)⟩
    have hlen := h.len_le_stream
    exact {
      start_lt := Nat.pos_of_neZero _
      len_le := Nat.zero_le _
      len_le_stream := Nat.zero_le _
      dropped_eq := by
        simp only [h.dropped_eq, saturatingAdd_clipped, List.length_append, List.length_take]
        omega
      window_eq := by simp }
  · exact ⟨log, bytes, stream, by simp [keepTail, hb], h, rfl,
      Or.inl ⟨rfl, rfl, Nat.lt_of_not_le hb⟩⟩

theorem makeRoom_holds (fits : 2 * capacity ≤ usizeMax) (h : Holds log stream) {count : Nat}
    (hc : count ≤ capacity) :
    ∃ log', makeRoom log count = some log' ∧ Holds log' stream ∧
      log'.len = min log.len (capacity - count) := by
  have hlen := h.len_le
  have hsum : saturatingAdd usizeMax log.len count = log.len + count :=
    saturatingAdd_of_le (by omega)
  by_cases ho : log.len + count - capacity = 0
  · exact ⟨log, by simp [makeRoom, hsum, ho], h, by omega⟩
  · generalize hover : log.len + count - capacity = overflow at ho
    have hstart := h.start_lt
    have hstream := h.len_le_stream
    have advanced : checkedAdd usizeMax log.start overflow = some (log.start + overflow) :=
      checkedAdd_of_le (by omega)
    have shrunk : checkedSub log.len overflow = some (log.len - overflow) :=
      checkedSub_of_le (by omega)
    refine ⟨{ log with
        start := (log.start + overflow) % capacity
        len := log.len - overflow
        dropped := saturatingAdd usizeMax log.dropped overflow },
      by simp [makeRoom, hsum, hover, ho, advanced, shrunk], ?_, by simp only; omega⟩
    exact {
      start_lt := Nat.mod_lt _ (Nat.pos_of_neZero _)
      len_le := by simp only; omega
      len_le_stream := by simp only; omega
      dropped_eq := by
        simp only [h.dropped_eq, saturatingAdd_clipped]
        omega
      window_eq := by
        simp only [window_drop, h.window_eq, List.rtake, List.drop_drop]
        congr 1
        omega }

theorem append_holds (fits : 2 * capacity ≤ usizeMax) (h : Holds log stream)
    {bytes : List UInt8} (hb : log.len + bytes.length ≤ capacity) :
    ∃ log', append log bytes = some log' ∧ Holds log' (stream ++ bytes) ∧
      log'.len = log.len + bytes.length := by
  have hstart := h.start_lt
  generalize hstop : (log.start + log.len) % capacity = stop
  have stop_lt : stop < capacity := hstop ▸ Nat.mod_lt _ (Nat.pos_of_neZero _)
  generalize hfirst : min bytes.length (capacity - stop) = first
  have first_le : first ≤ bytes.length := by omega
  obtain ⟨upper, h₁⟩ := copyFromSlice_isSome log.bytes (Nat.le_add_right stop first) (by omega)
    (show (bytes.take first).length = _ by simp; omega)
  obtain ⟨both, h₂⟩ := copyFromSlice_isSome upper (Nat.zero_le (bytes.length - first)) (by omega)
    (List.length_drop : (bytes.drop first).length = _)
  have filled : window both log.start (log.len + bytes.length) =
      window log.bytes log.start log.len ++ bytes := by
    subst hfirst hstop
    exact window_fill hstart hb h₁ h₂
  refine ⟨{ log with bytes := both, len := log.len + bytes.length }, ?_, ?_, rfl⟩
  · simp [append, hstop, hfirst, h₁, h₂,
      checkedAdd_of_le (show log.start + log.len ≤ usizeMax by omega),
      checkedAdd_of_le (show stop + first ≤ usizeMax by omega),
      checkedAdd_of_le (show log.len + bytes.length ≤ usizeMax by omega),
      checkedSub_of_le (Nat.le_of_lt stop_lt)]
  · have hstream := h.len_le_stream
    exact {
      start_lt := hstart
      len_le := hb
      len_le_stream := by simp; omega
      dropped_eq := by
        simp only [h.dropped_eq, List.length_append]
        omega
      window_eq := by
        simp only [filled, h.window_eq, List.rtake, List.length_append]
        rw [List.drop_append, show stream.length + bytes.length - (log.len + bytes.length) =
          stream.length - log.len by omega,
          show stream.length - log.len - stream.length = 0 by omega, List.drop_zero] }

/-- `push` never panics and keeps the plain model. -/
theorem push_refines (fits : 2 * capacity ≤ usizeMax) (h : Refines log stream)
    (bytes : List UInt8) :
    ∃ log', push log bytes = some log' ∧ Refines log' (stream ++ bytes) := by
  obtain ⟨trimmed, kept, lost, hkeep, hlost, same, shape⟩ := keepTail_holds h.toHolds bytes
  have kept_le : kept.length ≤ capacity := by
    rcases shape with ⟨-, rfl, lt⟩ | eq
    · exact Nat.le_of_lt lt
    · exact Nat.le_of_eq eq
  obtain ⟨roomy, hroom, hheld, room⟩ := makeRoom_holds fits hlost kept_le
  obtain ⟨full, happ, hfull, len⟩ := append_holds fits hheld (show _ + kept.length ≤ _ by omega)
  refine ⟨full, by simp [push, hkeep, hroom, happ], { toHolds := same ▸ hfull, len_eq := ?_ }⟩
  have total := congrArg List.length same
  have lost_le := hlost.len_le_stream
  simp only [List.length_append] at total ⊢
  rcases shape with ⟨rfl, rfl, -⟩ | eq
  · have := h.len_eq
    omega
  · omega

theorem pushAll_refines (fits : 2 * capacity ≤ usizeMax) (h : Refines log stream)
    (slices : List (List UInt8)) :
    ∃ log', pushAll log slices = some log' ∧ Refines log' (stream ++ slices.flatten) := by
  induction slices generalizing log stream with
  | nil => exact ⟨log, rfl, by simpa using h⟩
  | cons bytes rest ih =>
    obtain ⟨next, hpush, hnext⟩ := push_refines fits h bytes
    obtain ⟨last, hall, hlast⟩ := ih hnext
    exact ⟨last, by simpa [pushAll, hpush] using hall, by simpa using hlast⟩

/-- `copyFrom` never panics at an offset inside the buffer and copies a part of
the retained window, the rest of the output left as it was. -/
theorem copyFrom_spec (fits : 2 * capacity ≤ usizeMax) (h : Holds log stream) {offset m : Nat}
    (ho : offset ≤ log.len) (output : Vector UInt8 m) :
    ∃ out, copyFrom log offset output = some (min (log.len - offset) m, out) ∧
      out.toList = (stream.drop (stream.length - log.len + offset)).take
        (min (log.len - offset) m) ++ output.toList.drop (min (log.len - offset) m) := by
  have hstart := h.start_lt
  have hlen := h.len_le
  have hstream := h.len_le_stream
  generalize hcount : min (log.len - offset) m = count
  generalize hsource : (log.start + offset) % capacity = source
  have source_lt : source < capacity := hsource ▸ Nat.mod_lt _ (Nat.pos_of_neZero _)
  generalize hfirst : min count (capacity - source) = first
  have window_part := window_read log.bytes hstart hlen (show offset + count ≤ log.len by omega)
  rw [h.window_eq, hsource, hfirst, List.rtake, List.drop_drop] at window_part
  have s₁ := slice_of_le log.bytes.toList (Nat.le_add_right source first) (by simp; omega)
  have first_len : ((log.bytes.toList.take (source + first)).drop source).length = first := by
    simp
    omega
  obtain ⟨upper, h₁, l₁⟩ := copyFromSlice_toList output (Nat.zero_le first) (by omega) first_len
  obtain ⟨both, h₂, l₂⟩ := copyFromSlice_toList upper (show first ≤ count by omega) (by omega)
    (show (log.bytes.toList.take (count - first)).length = _ by simp; omega)
  have s₂ := slice_prefix (show count - first ≤ log.bytes.toList.length by simp; omega)
  refine ⟨both, ?_, ?_⟩
  · simp only [copyFrom, Option.bind_eq_bind, Option.bind_some, checkedSub_of_le ho, hcount,
      checkedAdd_of_le (show log.start + offset ≤ usizeMax by omega), hsource,
      checkedSub_of_le (Nat.le_of_lt source_lt), hfirst,
      checkedAdd_of_le (show source + first ≤ usizeMax by omega), s₁, h₁,
      checkedSub_of_le (show first ≤ count by omega), s₂, h₂]
  · have rest : List.drop count ((log.bytes.toList.take (source + first)).drop source ++
        output.toList.drop first) = output.toList.drop count := by
      rw [List.drop_append, first_len, List.drop_eq_nil_of_le (by omega), List.nil_append,
        List.drop_drop, Nat.add_sub_cancel' (by omega)]
    rw [l₂, l₁, List.take_zero, List.nil_append, List.take_left' first_len, rest, window_part]

end

end VendorLogBuffer

open VendorLogBuffer

theorem vendorLogCapacity_fits : 2 * vendorLogCapacity ≤ usizeMax := by decide

/-- Every history of pushes leaves the end of the whole stream in the ring,
counts the rest as dropped, and any read inside it returns that part of the
stream. Nothing on the way panics. -/
theorem vendor_log_keeps_stream_end (slices : List (List UInt8)) :
    ∃ log : VendorLogBuffer vendorLogCapacity, pushAll new slices = some log ∧
      log.start < vendorLogCapacity ∧
      log.len = min slices.flatten.length vendorLogCapacity ∧
      (slices.flatten.length ≤ usizeMax → log.dropped = slices.flatten.length - log.len) ∧
      ∀ offset, offset ≤ log.len → ∀ (m : Nat) (output : Vector UInt8 m),
        let n := min (log.len - offset) m
        ∃ out, copyFrom log offset output = some (n, out) ∧
          out.toList = (slices.flatten.drop (slices.flatten.length - log.len + offset)).take n ++
            output.toList.drop n := by
  obtain ⟨log, hpush, h⟩ := pushAll_refines vendorLogCapacity_fits new_refines slices
  rw [List.nil_append] at h
  refine ⟨log, hpush, h.start_lt, h.len_eq, fun fits => ?_, fun offset ho m output => ?_⟩
  · rw [h.dropped_eq]
    exact Nat.min_eq_left (by omega)
  · exact copyFrom_spec vendorLogCapacity_fits h.toHolds ho output

theorem vendor_log_keeps_stream_end_three :
    ∃ log : VendorLogBuffer vendorLogCapacity, pushAll new [[7, 8], [], [9]] = some log ∧
      log.dropped = 0 ∧ ∃ out : Vector UInt8 4,
        copyFrom log 1 (Vector.replicate 4 0) = some (2, out) ∧ out.toList = [8, 9, 0, 0] := by
  obtain ⟨log, hpush, -, hlen, hdropped, hread⟩ := vendor_log_keeps_stream_end [[7, 8], [], [9]]
  have three : log.len = 3 := by simpa [vendorLogCapacity] using hlen
  obtain ⟨out, hcopy, hout⟩ := hread 1 (by omega) 4 (Vector.replicate 4 0)
  refine ⟨log, hpush, ?_, out, ?_, ?_⟩
  · simpa [three] using hdropped (by decide)
  · simpa [three] using hcopy
  · simpa [three] using hout

end Ws63Examples.InitSmoke
