import Ws63Examples.Lib.Loop
import Ws63Examples.Lib.Slice
import Ws63Examples.Lib.Words

/-! The frame buffers of the synthetic MAC, written and drained word by word. -/

namespace Ws63Examples.NetPing

open Loop Slice Words

def netmac : Nat := 0x44210000
def nmIntStatus : Nat := netmac + 0x004
def nmTxLen : Nat := netmac + 0x00C
def nmTxGo : Nat := netmac + 0x010
def nmRxLen : Nat := netmac + 0x014
def nmRxAck : Nat := netmac + 0x018
def nmTxBuf : Nat := netmac + 0x1000
def nmRxBuf : Nat := netmac + 0x2000
def nmIntRx : UInt32 := 0x1
def nmBufMax : Nat := 2048

/-- What the functions do outside their own memory. -/
inductive Access where
  | load (address : Nat)
  | store (address : Nat) (value : UInt32)
  | rxPush (frame : List UInt8)
  deriving DecidableEq, Repr

/-- One byte into the word, in the inner loop of `mac_tx`; an index behind the frame
panics. -/
def packByte (frame : List UInt8) (i : Nat) (s : UInt32 × Nat) :
    Option ((UInt32 × Nat) × List Empty) :=
  frame[i + s.2]?.map fun byte => ((s.1 ||| placed byte s.2, s.2 + 1), [])

/-- The inner loop; without the fuel to end it fails like a panic. -/
def packWord (fuel : Nat) (frame : List UInt8) (n i : Nat) : Option UInt32 :=
  match whileLoop (fun s => s.2 < 4 && i + s.2 < n) (packByte frame i) fuel (0, 0) with
  | .ok ((w, _), _) => some w
  | .error _ => none

/-- One turn of the outer loop. -/
def storeWord (fuel : Nat) (frame : List UInt8) (n i : Nat) : Option (Nat × List Access) :=
  (packWord fuel frame n i).map fun w => (i + 4, [.store (nmTxBuf + i) w])

def macTx (fuel : Nat) (frame : List UInt8) : Except Stop (List Access) := do
  let n := min frame.length nmBufMax
  let (_, out) ← whileLoop (fun i => i < n) (storeWord fuel frame n) fuel 0
  return out ++ [.store nmTxLen (.ofNat n), .store nmTxGo 1]

abbrev Frame := Vector UInt8 nmBufMax

/-- One byte out of the word, in the inner loop of `drain_rx`; an index behind the
array panics. -/
def unpackByte (w : UInt32) (i : Nat) (s : Frame × Nat) : Option ((Frame × Nat) × List Empty) :=
  (store s.1 (i + s.2) (byteOf w s.2)).map fun frame => ((frame, s.2 + 1), [])

/-- The inner loop, as in `packWord`. -/
def unpackWord (fuel : Nat) (w : UInt32) (len i : Nat) (frame : Frame) : Option Frame :=
  match whileLoop (fun s => s.2 < 4 && i + s.2 < len) (unpackByte w i) fuel (frame, 0) with
  | .ok ((frame, _), _) => some frame
  | .error _ => none

/-- One turn of the outer loop. Each address is read once: `read` says what is there. -/
def loadWord (fuel : Nat) (read : Nat → UInt32) (len : Nat) (s : Frame × Nat) :
    Option ((Frame × Nat) × List Access) :=
  (unpackWord fuel (read (nmRxBuf + s.2)) len s.2 s.1).map fun frame =>
    ((frame, s.2 + 4), [.load (nmRxBuf + s.2)])

def drainRx (fuel : Nat) (read : Nat → UInt32) : Except Stop (Bool × List Access) :=
  if read nmIntStatus &&& nmIntRx = 0 then .ok (false, [.load nmIntStatus])
  else do
    let len := min (read nmRxLen).toNat nmBufMax
    let ((frame, _), out) ← whileLoop (fun s => s.2 < len) (loadWord fuel read len) fuel
      (Vector.replicate nmBufMax 0, 0)
    let pushed ← orPanic (slice frame.toList 0 len)
    return (true, .load nmIntStatus :: .load nmRxLen :: out ++ [.rxPush pushed, .store nmRxAck 1])

/-- How many words hold `n` bytes. -/
def wordCount (n : Nat) : Nat := (n + 3) / 4

section
variable {fuel : Nat}

theorem lt_wordCount {n k : Nat} : k < wordCount n ↔ 4 * k < n := by
  unfold wordCount
  omega

theorem wordCount_le {n : Nat} (inside : n ≤ nmBufMax) : wordCount n ≤ 512 := by
  unfold wordCount nmBufMax at *
  omega

theorem packWord_eq {frame : List UInt8} {n : Nat} (i : Nat) (inside : n ≤ frame.length)
    (enough : 4 < fuel) :
    packWord fuel frame n i = some (pack (fun b => frame.getD (i + b) 0) (min 4 (n - i))) := by
  have loop : whileLoop (fun s => s.2 < 4 && i + s.2 < n) (packByte frame i) fuel (0, 0) =
      .ok ((pack (fun b => frame.getD (i + b) 0) (min 4 (n - i)), min 4 (n - i)),
        (List.range (min 4 (n - i))).flatMap fun _ => []) := by
    apply whileLoop_states (fun b => (pack (fun b => frame.getD (i + b) 0) b, b)) fun _ => []
    · intro b hb
      have there : i + b < frame.length := by omega
      have going : b < 4 ∧ i + b < n := by omega
      constructor
      · simp [going]
      · simp [packByte, there, pack]
    · simp only [Bool.and_eq_false_iff, decide_eq_false_iff_not]
      omega
    · omega
  rw [packWord, loop]

/-- The `k`th word that `mac_tx` stores. -/
def txWord (frame : List UInt8) (k : Nat) : UInt32 :=
  pack (fun b => frame.getD (4 * k + b) 0) (min 4 (min frame.length nmBufMax - 4 * k))

theorem macTx_eq (frame : List UInt8) (enough : 512 < fuel) :
    macTx fuel frame = .ok ((List.range (wordCount (min frame.length nmBufMax))).flatMap
      (fun k => [.store (nmTxBuf + 4 * k) (txWord frame k)]) ++
        [.store nmTxLen (.ofNat (min frame.length nmBufMax)), .store nmTxGo 1]) := by
  have inside : min frame.length nmBufMax ≤ nmBufMax := Nat.min_le_right ..
  have count := wordCount_le inside
  have loop : whileLoop (fun i => i < min frame.length nmBufMax)
      (storeWord fuel frame (min frame.length nmBufMax)) fuel 0 =
      .ok (4 * wordCount (min frame.length nmBufMax),
        (List.range (wordCount (min frame.length nmBufMax))).flatMap
          fun k => [Access.store (nmTxBuf + 4 * k) (txWord frame k)]) := by
    apply whileLoop_states (fun k => 4 * k)
      fun k => [Access.store (nmTxBuf + 4 * k) (txWord frame k)]
    · intro k hk
      have going := lt_wordCount.mp hk
      constructor
      · exact decide_eq_true going
      · rw [storeWord, packWord_eq (4 * k) (Nat.min_le_left ..) (by omega)]
        rfl
    · have := lt_wordCount.not.mp (Nat.lt_irrefl (wordCount (min frame.length nmBufMax)))
      exact decide_eq_false this
    · omega
  rw [macTx, loop]
  rfl

/-- The frame array with `m` bytes out of the words. -/
def frameAt (word : Nat → UInt32) (m : Nat) : Frame :=
  .ofFn fun j => if j.val < m then byteAt word j else 0

theorem frameAt_zero (word : Nat → UInt32) : frameAt word 0 = Vector.replicate nmBufMax 0 := by
  apply Vector.ext
  intro i hi
  simp [frameAt]

theorem frameAt_prefix (word : Nat → UInt32) {m : Nat} (inside : m ≤ nmBufMax) :
    (frameAt word m).toList.take m = (List.range m).map (byteAt word) := by
  apply List.ext_getElem
  · simp [inside]
  · intro i hi _
    have below : i < m := by
      rw [List.length_take] at hi
      omega
    simp [frameAt, below]

theorem store_frameAt (word : Nat → UInt32) {m : Nat} (inside : m < nmBufMax) :
    store (frameAt word m) m (byteAt word m) = some (frameAt word (m + 1)) := by
  have one : [byteAt word m].length = m + 1 - m := by simp
  obtain ⟨out, written⟩ :=
    copyFromSlice_isSome (frameAt word m) (Nat.le_succ m) (Nat.succ_le_of_lt inside) one
  have same : out = frameAt word (m + 1) := by
    apply Vector.ext
    intro i hi
    have entry := copyFromSlice_get? written i
    rw [Vector.getElem?_eq_getElem hi, Vector.getElem?_eq_getElem hi] at entry
    by_cases here : i = m
    · subst here
      simpa [frameAt] using entry
    · have outside : ¬ (m ≤ i ∧ i < m + 1) := by omega
      have old : i < m ↔ i < m + 1 := by omega
      rw [if_neg outside] at entry
      simpa [frameAt, old] using entry
  rw [store, written, same]

theorem unpackWord_eq (word : Nat → UInt32) {len k : Nat} (inside : len ≤ nmBufMax)
    (going : 4 * k < len) (enough : 4 < fuel) :
    unpackWord fuel (word k) len (4 * k) (frameAt word (4 * k)) =
      some (frameAt word (min len (4 * (k + 1)))) := by
  have loop : whileLoop (fun s => s.2 < 4 && 4 * k + s.2 < len) (unpackByte (word k) (4 * k)) fuel
      (frameAt word (4 * k), 0) =
      .ok ((frameAt word (4 * k + min 4 (len - 4 * k)), min 4 (len - 4 * k)),
        (List.range (min 4 (len - 4 * k))).flatMap fun _ => []) := by
    apply whileLoop_states (fun b => (frameAt word (4 * k + b), b)) fun _ => []
    -- The last word stops at the length, short of its fourth byte.
    · intro b hb
      have going : b < 4 ∧ 4 * k + b < len := by omega
      constructor
      · simp [going]
      · have stored := store_frameAt word (m := 4 * k + b) (by omega)
        rw [byteAt_word word k going.1] at stored
        rw [unpackByte, stored]
        rfl
    · simp only [Bool.and_eq_false_iff, decide_eq_false_iff_not]
      omega
    · omega
  have reached : 4 * k + min 4 (len - 4 * k) = min len (4 * (k + 1)) := by omega
  rw [unpackWord, loop, reached]

theorem drainRx_eq (read : Nat → UInt32) (pending : read nmIntStatus &&& nmIntRx ≠ 0)
    (enough : 512 < fuel) :
    drainRx fuel read = .ok (true, .load nmIntStatus :: .load nmRxLen ::
      (List.range (wordCount (min (read nmRxLen).toNat nmBufMax))).flatMap
        (fun k => [.load (nmRxBuf + 4 * k)]) ++
      [.rxPush ((List.range (min (read nmRxLen).toNat nmBufMax)).map
        (byteAt fun k => read (nmRxBuf + 4 * k))), .store nmRxAck 1]) := by
  generalize hlen : min (read nmRxLen).toNat nmBufMax = len
  have inside : len ≤ nmBufMax := hlen ▸ Nat.min_le_right ..
  have count := wordCount_le inside
  have start : frameAt (fun k => read (nmRxBuf + 4 * k)) (min len (4 * 0)) =
      Vector.replicate nmBufMax 0 := by
    rw [Nat.mul_zero, Nat.min_zero, frameAt_zero]
  have loop : whileLoop (fun s => s.2 < len) (loadWord fuel read len) fuel
      (frameAt (fun k => read (nmRxBuf + 4 * k)) (min len (4 * 0)), 4 * 0) =
      .ok ((frameAt (fun k => read (nmRxBuf + 4 * k)) (min len (4 * wordCount len)),
        4 * wordCount len),
        (List.range (wordCount len)).flatMap fun k => [Access.load (nmRxBuf + 4 * k)]) := by
    apply whileLoop_states
      (fun k => (frameAt (fun k => read (nmRxBuf + 4 * k)) (min len (4 * k)), 4 * k))
      fun k => [Access.load (nmRxBuf + 4 * k)]
    · intro k hk
      have going := lt_wordCount.mp hk
      constructor
      · exact decide_eq_true going
      · rw [Nat.min_eq_right (Nat.le_of_lt going), loadWord,
          unpackWord_eq (fun k => read (nmRxBuf + 4 * k)) inside going (by omega)]
        rfl
    · have := lt_wordCount.not.mp (Nat.lt_irrefl (wordCount len))
      exact decide_eq_false this
    · omega
  have whole : min len (4 * wordCount len) = len := by
    have := lt_wordCount.not.mp (Nat.lt_irrefl (wordCount len))
    omega
  rw [start, Nat.mul_zero] at loop
  rw [drainRx, if_neg pending, hlen]
  dsimp only
  rw [loop, ok_bind, whole]
  dsimp only
  have cut := slice_prefix (show len ≤ (frameAt (fun k => read (nmRxBuf + 4 * k)) len).toList.length
    by simpa using inside)
  rw [cut, orPanic_bind, frameAt_prefix _ inside]
  rfl

/-- A store of `mac_tx`: a whole word of the TX window with the frame's bytes at
its place and zeros behind them, or one of the two registers. -/
inductive Sent (frame : List UInt8) : Access → Prop where
  | word {i : Nat} {w : UInt32} (aligned : 4 ∣ i) (inside : i + 4 ≤ nmBufMax)
      (bytes : ∀ b < 4, byteOf w b = (frame.take nmBufMax).getD (i + b) 0) :
      Sent frame (.store (nmTxBuf + i) w)
  | length : Sent frame (.store nmTxLen (.ofNat (min frame.length nmBufMax)))
  | go : Sent frame (.store nmTxGo 1)

/-- An access of `drain_rx`: a whole word of the RX window, or a register. -/
inductive Drained : Access → Prop where
  | status : Drained (.load nmIntStatus)
  | length : Drained (.load nmRxLen)
  | word {i : Nat} (aligned : 4 ∣ i) (inside : i + 4 ≤ nmBufMax) : Drained (.load (nmRxBuf + i))
  | push (bytes : List UInt8) : Drained (.rxPush bytes)
  | ack : Drained (.store nmRxAck 1)

/-- The MAC has the sent words and their length for the receiver. -/
structure Copies (sent : List Access) (read : Nat → UInt32) : Prop where
  pending : read nmIntStatus &&& nmIntRx ≠ 0
  length : ∀ n, .store nmTxLen n ∈ sent → read nmRxLen = n
  words : ∀ i < nmBufMax, ∀ w, .store (nmTxBuf + i) w ∈ sent → read (nmRxBuf + i) = w

/-- The frames passed to `rx_push`. -/
def pushes (accesses : List Access) : List (List UInt8) :=
  accesses.filterMap fun access =>
    match access with
    | .rxPush frame => some frame
    | _ => none

theorem pushes_append (first rest : List Access) :
    pushes (first ++ rest) = pushes first ++ pushes rest := List.filterMap_append

theorem pushes_load (address : Nat) (rest : List Access) :
    pushes (.load address :: rest) = pushes rest := rfl

theorem pushes_loads (addresses : List Nat) (address : Nat → Nat) :
    pushes (addresses.flatMap fun k => [.load (address k)]) = [] := by
  induction addresses with
  | nil => rfl
  | cons k rest ih => exact ih

theorem word_inside {n k : Nat} (inside : n ≤ nmBufMax) (below : k < wordCount n) :
    4 * k + 4 ≤ nmBufMax := by
  have := lt_wordCount.mp below
  unfold nmBufMax at *
  omega

theorem txWord_byte (frame : List UInt8) (k : Nat) {b : Nat} (inside : b < 4) :
    byteOf (txWord frame k) b = (frame.take nmBufMax).getD (4 * k + b) 0 := by
  rw [txWord, byteOf_pack _ (Nat.min_le_left ..) inside, List.getD_eq_getElem?_getD,
    List.getD_eq_getElem?_getD, List.getElem?_take]
  by_cases sent : 4 * k + b < nmBufMax
  · rw [if_pos sent]
    split
    · rfl
    · have short : frame.length ≤ 4 * k + b := by omega
      rw [List.getElem?_eq_none short]
      rfl
  · rw [if_neg sent, if_neg (by omega)]
    rfl

theorem macTx_sent (frame : List UInt8) (enough : 512 < fuel) :
    ∃ sent, macTx fuel frame = .ok sent ∧ (∀ access ∈ sent, Sent frame access) ∧
      .store nmTxLen (.ofNat (min frame.length nmBufMax)) ∈ sent ∧
      ∀ k < wordCount (min frame.length nmBufMax),
        .store (nmTxBuf + 4 * k) (txWord frame k) ∈ sent := by
  refine ⟨_, macTx_eq frame enough, ?_, by simp, ?_⟩
  · intro access there
    rcases List.mem_append.mp there with word | register
    · obtain ⟨k, below, rfl⟩ := by simpa using word
      have inside := word_inside (Nat.min_le_right ..) below
      exact .word (Nat.dvd_mul_right 4 k) inside fun b hb => txWord_byte frame k hb
    · simp only [List.mem_cons, List.not_mem_nil, or_false] at register
      rcases register with rfl | rfl
      · exact .length
      · exact .go
  · intro k below
    apply List.mem_append_left
    exact List.mem_flatMap.mpr ⟨k, List.mem_range.mpr below, List.mem_singleton_self _⟩

theorem drainRx_drained (read : Nat → UInt32) (enough : 512 < fuel) :
    ∃ out, drainRx fuel read = .ok (decide (read nmIntStatus &&& nmIntRx ≠ 0), out) ∧
      (∀ access ∈ out, Drained access) ∧
      pushes out = if read nmIntStatus &&& nmIntRx = 0 then [] else
        [(List.range (min (read nmRxLen).toNat nmBufMax)).map
          (byteAt fun k => read (nmRxBuf + 4 * k))] := by
  by_cases idle : read nmIntStatus &&& nmIntRx = 0
  · refine ⟨[.load nmIntStatus], ?_, ?_, ?_⟩
    · rw [drainRx, if_pos idle, decide_eq_false (not_not_intro idle)]
    · intro access there
      obtain rfl := List.mem_singleton.mp there
      exact .status
    · rw [if_pos idle]
      rfl
  · refine ⟨_, (drainRx_eq read idle enough).trans (by rw [decide_eq_true idle]), ?_, ?_⟩
    · intro access there
      simp only [List.cons_append, List.mem_cons, List.mem_append, List.mem_flatMap,
        List.mem_range, List.not_mem_nil, or_false] at there
      rcases there with rfl | rfl | ⟨k, below, rfl⟩ | rfl | rfl
      · exact .status
      · exact .length
      · exact .word (Nat.dvd_mul_right 4 k) (word_inside (Nat.min_le_right ..) below)
      · exact .push _
      · exact .ack
    · have words := pushes_loads (List.range (wordCount (min (read nmRxLen).toNat nmBufMax)))
        fun k => nmRxBuf + 4 * k
      rw [if_neg idle, pushes_append, pushes_load, pushes_load, words]
      rfl

theorem copied_bytes {frame : List UInt8} {sent : List Access} {read : Nat → UInt32}
    (words : ∀ k < wordCount (min frame.length nmBufMax),
      .store (nmTxBuf + 4 * k) (txWord frame k) ∈ sent) (copies : Copies sent read) :
    (List.range (min frame.length nmBufMax)).map (byteAt fun k => read (nmRxBuf + 4 * k)) =
      frame.take (min frame.length nmBufMax) := by
  apply List.ext_getElem
  · simp
  · intro j hj _
    have below : j < min frame.length nmBufMax := by simpa using hj
    have held : j / 4 < wordCount (min frame.length nmBufMax) := lt_wordCount.mpr (by omega)
    have copied := copies.words (4 * (j / 4))
      (Nat.lt_of_lt_of_le (by omega) (word_inside (Nat.min_le_right ..) held)) _ (words _ held)
    have byte := txWord_byte frame (j / 4) (Nat.mod_lt j (by decide))
    rw [Nat.div_add_mod, List.getD_eq_getElem?_getD, List.getElem?_take_of_lt (by omega),
      List.getElem?_eq_getElem (by omega)] at byte
    simpa [byteAt, copied] using byte

/-- A frame comes through cut at the buffer's end, and nothing outside the
windows is touched on the way. -/
theorem mac_truncates (frame : List UInt8) (enough : 512 < fuel) :
    ∃ sent, macTx fuel frame = .ok sent ∧ (∀ access ∈ sent, Sent frame access) ∧
      (∀ read, ∃ out, drainRx fuel read = .ok (decide (read nmIntStatus &&& nmIntRx ≠ 0), out) ∧
        (∀ access ∈ out, Drained access) ∧
        (pushes out).map List.length =
          if read nmIntStatus &&& nmIntRx = 0 then [] else [min (read nmRxLen).toNat nmBufMax]) ∧
      ∀ read, Copies sent read → ∃ out, drainRx fuel read = .ok (true, out) ∧
        pushes out = [frame.take (min frame.length nmBufMax)] := by
  obtain ⟨sent, run, stores, length, words⟩ := macTx_sent frame enough
  refine ⟨sent, run, stores, ?_, ?_⟩
  · intro read
    obtain ⟨out, drained, accesses, pushed⟩ := drainRx_drained read enough
    refine ⟨out, drained, accesses, ?_⟩
    rw [pushed]
    split
    · rfl
    · simp
  · intro read copies
    obtain ⟨out, drained, _, pushed⟩ := drainRx_drained read enough
    have told : (read nmRxLen).toNat = min frame.length nmBufMax := by
      rw [copies.length _ length, UInt32.toNat_ofNat']
      exact Nat.mod_eq_of_lt (Nat.lt_of_le_of_lt (Nat.min_le_right ..) (by decide))
    refine ⟨out, ?_, ?_⟩
    · rw [drained, decide_eq_true copies.pending]
    · rw [pushed, if_neg copies.pending, told, Nat.min_eq_left (Nat.min_le_right ..),
        copied_bytes words copies]

/-- Five bytes: a whole word and a padded one. -/
theorem mac_truncates_five :
    let read address : UInt32 := if address = nmIntStatus then 1 else if address = nmRxLen then 5
      else if address = nmRxBuf then 0x04030201 else if address = nmRxBuf + 4 then 5 else 0
    ∃ out, drainRx 513 read = .ok (true, out) ∧ pushes out = [[1, 2, 3, 4, 5]] := by
  intro read
  obtain ⟨sent, run, _, _, through⟩ := mac_truncates [1, 2, 3, 4, 5] (show 512 < 513 by decide)
  have stored : macTx 513 [1, 2, 3, 4, 5] = .ok [.store nmTxBuf 0x04030201,
      .store (nmTxBuf + 4) 5, .store nmTxLen 5, .store nmTxGo 1] := by decide +kernel
  obtain rfl := Except.ok.inj (stored.symm.trans run)
  have length : ∀ n, Access.store nmTxLen n ∈ [Access.store nmTxBuf 0x04030201,
      .store (nmTxBuf + 4) 5, .store nmTxLen 5, .store nmTxGo 1] → read nmRxLen = n := by
    intro n there
    have apart : nmTxLen ≠ nmTxBuf ∧ nmTxLen ≠ nmTxBuf + 4 ∧ nmTxLen ≠ nmTxGo := by
      decide +kernel
    obtain rfl : n = 5 := by simpa [apart] using there
    rfl
  have words : ∀ i < nmBufMax, ∀ w, Access.store (nmTxBuf + i) w ∈
      [Access.store nmTxBuf 0x04030201, .store (nmTxBuf + 4) 5, .store nmTxLen 5,
        .store nmTxGo 1] → read (nmRxBuf + i) = w := by
    intro i _ w there
    have apart : nmTxBuf + i ≠ nmTxLen ∧ nmTxBuf + i ≠ nmTxGo := by
      unfold nmTxBuf nmTxLen nmTxGo netmac
      omega
    obtain ⟨rfl, rfl⟩ | ⟨rfl, rfl⟩ : (i = 0 ∧ w = 0x04030201) ∨ (i = 4 ∧ w = 5) := by
      simpa [apart] using there
    · decide
    · decide
  exact through read ⟨by decide, length, words⟩

end

end Ws63Examples.NetPing
