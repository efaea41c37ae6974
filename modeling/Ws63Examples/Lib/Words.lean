import Mathlib.Algebra.Order.Ring.Nat

/-! Bytes packed into 32-bit words, the lowest byte first, and taken out again. -/

namespace Ws63Examples.Words

/-- `(byte as u32) << (8 * b)` -/
def placed (byte : UInt8) (b : Nat) : UInt32 := byte.toUInt32 <<< UInt32.ofNat (8 * b)

/-- `(w >> (8 * b)) as u8` -/
def byteOf (w : UInt32) (b : Nat) : UInt8 := (w >>> UInt32.ofNat (8 * b)).toUInt8

/-- The first `k` bytes of a word, the rest zero. -/
def pack (byte : Nat → UInt8) : Nat → UInt32
  | 0 => 0
  | k + 1 => pack byte k ||| placed (byte k) k

theorem shift_amount {b : Nat} (inside : b < 4) : (UInt32.ofNat (8 * b)).toNat % 32 = 8 * b := by
  rw [UInt32.toNat_ofNat', Nat.mod_eq_of_lt (by omega), Nat.mod_eq_of_lt (by omega)]

theorem testBit_byte (byte : UInt8) {i : Nat} (high : 8 ≤ i) : byte.toNat.testBit i = false := by
  apply Nat.testBit_lt_two_pow
  calc byte.toNat < 2 ^ 8 := byte.toNat_lt
    _ ≤ 2 ^ i := Nat.pow_le_pow_right (by decide) high

theorem placed_testBit (byte : UInt8) {b : Nat} (inside : b < 4) (i : Nat) :
    (placed byte b).toNat.testBit i =
      (decide (i / 8 = b) && byte.toNat.testBit (i % 8)) := by
  have amount := shift_amount inside
  rw [placed, UInt32.toNat_shiftLeft, amount, UInt8.toNat_toUInt32, Nat.testBit_mod_two_pow,
    Nat.testBit_shiftLeft]
  by_cases there : i / 8 = b
  · have low : 8 * b ≤ i := by omega
    have rest : i - 8 * b = i % 8 := by omega
    have fits : i < 32 := by omega
    simp [there, low, rest, fits]
  · simp only [there, decide_false, Bool.false_and]
    by_cases low : 8 * b ≤ i
    · simp [testBit_byte byte (show 8 ≤ i - 8 * b by omega)]
    · simp [low]

theorem pack_testBit (byte : Nat → UInt8) {k : Nat} (inside : k ≤ 4) (i : Nat) :
    (pack byte k).toNat.testBit i =
      (decide (i / 8 < k) && (byte (i / 8)).toNat.testBit (i % 8)) := by
  induction k with
  | zero => simp [pack]
  | succ k ih =>
    rw [pack, UInt32.toNat_or, Nat.testBit_or, ih (by omega), placed_testBit _ inside]
    by_cases there : i / 8 = k
    · simp [there]
    · by_cases below : i / 8 < k
      · simp [there, below, Nat.lt_succ_of_lt below]
      · simp [there, below, show ¬ i / 8 < k + 1 by omega]

theorem byteOf_testBit (w : UInt32) {b : Nat} (inside : b < 4) (i : Nat) :
    (byteOf w b).toNat.testBit i = (decide (i < 8) && w.toNat.testBit (8 * b + i)) := by
  rw [byteOf, UInt32.toNat_toUInt8, UInt32.toNat_shiftRight, shift_amount inside,
    Nat.testBit_mod_two_pow, Nat.testBit_shiftRight]

/-- A packed byte comes out as it went in; a byte not packed is zero. -/
theorem byteOf_pack (byte : Nat → UInt8) {k b : Nat} (hk : k ≤ 4) (inside : b < 4) :
    byteOf (pack byte k) b = if b < k then byte b else 0 := by
  apply UInt8.toNat_inj.mp
  apply Nat.eq_of_testBit_eq
  intro i
  rw [byteOf_testBit _ inside, pack_testBit byte hk]
  by_cases low : i < 8
  · have place : (8 * b + i) / 8 = b := by omega
    have rest : (8 * b + i) % 8 = i := by omega
    rw [place, rest]
    by_cases packed : b < k
    · simp [low, packed]
    · simp [packed]
  · have high : 8 ≤ i := by omega
    by_cases packed : b < k
    · simp [low, packed, testBit_byte _ high]
    · simp [low, packed]

/-- The byte at an index of a buffer of words. -/
def byteAt (word : Nat → UInt32) (j : Nat) : UInt8 := byteOf (word (j / 4)) (j % 4)

theorem byteAt_word (word : Nat → UInt32) (k : Nat) {b : Nat} (inside : b < 4) :
    byteAt word (4 * k + b) = byteOf (word k) b := by
  have place : (4 * k + b) / 4 = k := by omega
  have rest : (4 * k + b) % 4 = b := by omega
  rw [byteAt, place, rest]

end Ws63Examples.Words
