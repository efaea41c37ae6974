import Mathlib.Data.Finset.Card
import Mathlib.Algebra.Order.Ring.Nat

/-!
# Bytes and bit fields

Big-endian words, the fields masks select in them, and masks as sets.
-/

namespace Ws63Examples.Bits

/-- `u16::to_be_bytes` -/
def toBeBytes (x : UInt16) : List UInt8 := [.ofNat (x.toNat / 256), .ofNat (x.toNat % 256)]

/-- `u16::from_be_bytes` -/
def fromBeBytes (hi lo : UInt8) : UInt16 := .ofNat (hi.toNat * 256 + lo.toNat)

@[simp] theorem toBeBytes_length (x : UInt16) : (toBeBytes x).length = 2 := rfl

theorem fromBeBytes_toNat (hi lo : UInt8) :
    (fromBeBytes hi lo).toNat = hi.toNat * 256 + lo.toNat := by
  have := hi.toNat_lt
  have := lo.toNat_lt
  simp only [fromBeBytes, UInt16.toNat_ofNat']
  omega

theorem fromBeBytes_toBeBytes (x : UInt16) :
    fromBeBytes (.ofNat (x.toNat / 256)) (.ofNat (x.toNat % 256)) = x := by
  have := x.toNat_lt
  rw [← UInt16.toNat_inj, fromBeBytes_toNat, UInt8.toNat_ofNat', UInt8.toNat_ofNat']
  omega

/-- `u32::to_be_bytes` -/
def toBeBytes32 (x : UInt32) : List UInt8 :=
  [.ofNat (x.toNat / 2 ^ 24), .ofNat (x.toNat / 2 ^ 16 % 256), .ofNat (x.toNat / 2 ^ 8 % 256),
    .ofNat (x.toNat % 256)]

/-- `u32::from_be_bytes` -/
def fromBeBytes32 (a b c d : UInt8) : UInt32 :=
  .ofNat (a.toNat * 2 ^ 24 + b.toNat * 2 ^ 16 + c.toNat * 2 ^ 8 + d.toNat)

theorem fromBeBytes32_toBeBytes32 (x : UInt32) :
    fromBeBytes32 (.ofNat (x.toNat / 2 ^ 24)) (.ofNat (x.toNat / 2 ^ 16 % 256))
      (.ofNat (x.toNat / 2 ^ 8 % 256)) (.ofNat (x.toNat % 256)) = x := by
  have := x.toNat_lt
  rw [← UInt32.toNat_inj]
  simp only [fromBeBytes32, UInt32.toNat_ofNat', UInt8.toNat_ofNat']
  omega

/-- The `len` bits of `x` from bit `lo` on. -/
def field (x lo len : Nat) : Nat := x / 2 ^ lo % 2 ^ len

/-- A contiguous mask tests one field. -/
theorem and_mask (x lo len : Nat) : x &&& ((2 ^ len - 1) <<< lo) = field x lo len * 2 ^ lo := by
  apply Nat.eq_of_testBit_eq
  intro i
  simp only [field, Nat.testBit_and, Nat.testBit_shiftLeft, Nat.testBit_mul_two_pow,
    Nat.testBit_two_pow_sub_one, Nat.testBit_mod_two_pow, Nat.testBit_div_two_pow]
  by_cases hi : lo ≤ i
  · simp [hi, Bool.and_comm, Nat.sub_add_cancel hi]
  · simp [hi]

theorem and_mask_eq_zero (x lo len : Nat) :
    x &&& ((2 ^ len - 1) <<< lo) = 0 ↔ field x lo len = 0 := by
  rw [and_mask, Nat.mul_eq_zero]
  simp

/-- A field of a masked word inside the mask is the word's own. -/
theorem field_of_and_eq {x y m lo len : Nat} (h : x &&& m = y &&& m)
    (inside : m &&& ((2 ^ len - 1) <<< lo) = (2 ^ len - 1) <<< lo) :
    field x lo len = field y lo len := by
  have both : field x lo len * 2 ^ lo = field y lo len * 2 ^ lo := by
    rw [← and_mask, ← and_mask, ← inside, ← Nat.and_assoc, ← Nat.and_assoc, h]
  exact Nat.eq_of_mul_eq_mul_right (Nat.two_pow_pos lo) both

/-- Fields of a big-endian word above bit 8 lie in its first byte. -/
theorem field_high {hi lo len : Nat} (byte : Nat) (hb : byte < 256) :
    field (hi * 256 + byte) (8 + lo) len = field hi lo len := by
  have : (hi * 256 + byte) / 2 ^ (8 + lo) = hi / 2 ^ lo := by
    rw [Nat.pow_add, ← Nat.div_div_eq_div_mul]
    congr 1
    omega
  simp only [field, this]

/-- Fields inside a big-endian word's second byte. -/
theorem field_low {lo len : Nat} (hi byte : Nat) (inside : lo + len ≤ 8) :
    field (hi * 256 + byte) lo len = field byte lo len := by
  obtain ⟨k, hk⟩ := Nat.le.dest inside
  have base : 2 ^ (lo + len + k) = 256 := congrArg (2 ^ ·) hk
  have split : hi * 256 + byte = byte + 2 ^ lo * (2 ^ len * (hi * 2 ^ k)) := by
    calc hi * 256 + byte = byte + hi * 2 ^ (lo + len + k) := by rw [base, Nat.add_comm]
      _ = byte + 2 ^ lo * (2 ^ len * (hi * 2 ^ k)) := by
        rw [Nat.pow_add, Nat.pow_add, Nat.mul_comm hi, Nat.mul_comm hi, Nat.mul_assoc,
          Nat.mul_assoc]
  rw [field, field, split, Nat.add_mul_div_left _ _ (Nat.two_pow_pos lo),
    Nat.add_mul_mod_self_left]

section
variable {w : Nat}

/-- `x << n` where a shift by the width or more panics. -/
def checkedShl (x : BitVec w) (n : Nat) : Option (BitVec w) :=
  if n < w then some (x <<< n) else none

/-- The positions of the bits a mask has set. -/
def bitSet (mask : BitVec w) : Finset Nat :=
  (Finset.range w).filter fun i => mask.getLsbD i = true

@[simp] theorem mem_bitSet (mask : BitVec w) (i : Nat) :
    i ∈ bitSet mask ↔ mask.getLsbD i = true := by
  simp only [bitSet, Finset.mem_filter, Finset.mem_range]
  exact ⟨And.right, fun h => ⟨BitVec.lt_of_getLsbD h, h⟩⟩

theorem bitSet_zero : bitSet (0#w) = ∅ := by
  simp [bitSet]

theorem getLsbD_one_shiftLeft {i : Nat} (hi : i < w) (j : Nat) :
    (1#w <<< i).getLsbD j = decide (j = i) := by
  rw [← BitVec.twoPow_eq, BitVec.getLsbD_twoPow]
  by_cases h : j = i
  · simp [h, hi]
  · simp [h, Ne.symm h]

/-- A one-bit mask tests membership. -/
theorem and_bit_eq_zero (mask : BitVec w) {i : Nat} (hi : i < w) :
    mask &&& (1#w <<< i) = 0#w ↔ i ∉ bitSet mask := by
  rw [mem_bitSet, BitVec.eq_of_getLsbD_eq_iff]
  constructor
  · intro h set
    have := h i hi
    rw [BitVec.getLsbD_and, getLsbD_one_shiftLeft hi, set] at this
    simp at this
  · intro h j hj
    rw [BitVec.getLsbD_and, getLsbD_one_shiftLeft hi, BitVec.getLsbD_zero]
    by_cases same : j = i
    · simpa [same] using h
    · simp [same]

/-- Setting a bit inserts its position. -/
theorem bitSet_or_bit (mask : BitVec w) {i : Nat} (hi : i < w) :
    bitSet (mask ||| 1#w <<< i) = insert i (bitSet mask) := by
  ext j
  rw [Finset.mem_insert, mem_bitSet, mem_bitSet, BitVec.getLsbD_or, getLsbD_one_shiftLeft hi,
    Bool.or_eq_true, decide_eq_true_eq, or_comm]

end

end Ws63Examples.Bits
