import Ws63Examples.Lib.Loop
import Ws63Examples.Lib.Text
import Mathlib.Data.Nat.Digits.Defs
import Mathlib.Tactic.Ring

/-! The delay before the radio starts, a decimal number given at build time. -/

namespace Ws63Examples.Connectivity.Config

open Text

/-- The two messages of the parser, and the arithmetic it is written in. -/
inductive Panic where
  | mustBeDecimal
  | exceeds
  | overflow
  deriving DecidableEq, Repr

def u32Max : UInt32 := 0xffffffff

def isDecimal (byte : UInt8) : Bool := 0x30 ≤ byte && byte ≤ 0x39

def digitOf (byte : UInt8) : UInt32 := (byte - 0x30).toUInt32

def checkedMul (a b : UInt32) : Except Panic UInt32 :=
  if a.toNat * b.toNat < 2 ^ 32 then .ok (a * b) else .error .overflow

def checkedAdd (a b : UInt32) : Except Panic UInt32 :=
  if a.toNat + b.toNat < 2 ^ 32 then .ok (a + b) else .error .overflow

/-- `parsed > (u32::MAX - digit) / 10` -/
def tooLarge (parsed digit : UInt32) : Bool := (u32Max - digit) / 10 < parsed

/-- One turn of the loop. -/
def parseByte (parsed : UInt32) (byte : UInt8) : Except Panic UInt32 :=
  if !isDecimal byte then .error .mustBeDecimal
  else if tooLarge parsed (digitOf byte) then .error .exceeds
  else do
    let shifted ← checkedMul parsed 10
    checkedAdd shifted (digitOf byte)

def parseDecimalU32 (value : List Char) : Except Panic UInt32 :=
  if (bytes value).isEmpty then .error .mustBeDecimal
  else (bytes value).foldlM parseByte 0

/-- The number that digits spell, the last one the units. -/
def decimal (digits : List UInt8) : Nat :=
  Nat.ofDigits 10 (digits.reverse.map fun byte => byte.toNat - 0x30)

theorem decimal_cons (byte : UInt8) (rest : List UInt8) :
    decimal (byte :: rest) = (byte.toNat - 0x30) * 10 ^ rest.length + decimal rest := by
  simp only [decimal, List.reverse_cons, List.map_append, List.map_cons, List.map_nil,
    Nat.ofDigits_append, Nat.ofDigits_singleton, List.length_map, List.length_reverse]
  ring

theorem isDecimal_iff {byte : UInt8} :
    isDecimal byte ↔ 0x30 ≤ byte.toNat ∧ byte.toNat ≤ 0x39 := by
  simp [isDecimal, UInt8.le_iff_toNat_le]

theorem digitOf_toNat {byte : UInt8} (digit : isDecimal byte) :
    (digitOf byte).toNat = byte.toNat - 0x30 := by
  have least : 0x30 ≤ byte := by
    simpa [UInt8.le_iff_toNat_le] using (isDecimal_iff.mp digit).1
  rw [digitOf, UInt8.toNat_toUInt32, UInt8.toNat_sub_of_le _ _ least]
  rfl

/-- The division rounds down, but never past the limit. -/
theorem tooLarge_iff (parsed digit : UInt32) :
    tooLarge parsed digit ↔ 2 ^ 32 - 1 < parsed.toNat * 10 + digit.toNat := by
  have := digit.toNat_lt
  have below : digit ≤ u32Max := by
    rw [UInt32.le_iff_toNat_le]
    exact Nat.le_of_lt_succ digit.toNat_lt
  have limit : ((u32Max - digit) / 10).toNat = (2 ^ 32 - 1 - digit.toNat) / 10 := by
    rw [UInt32.toNat_div, UInt32.toNat_sub_of_le _ _ below]
    rfl
  rw [tooLarge, decide_eq_true_iff, UInt32.lt_iff_toNat_lt, limit]
  omega

theorem parseByte_decimal {parsed : UInt32} {byte : UInt8} (digit : isDecimal byte)
    (fits : parsed.toNat * 10 + (byte.toNat - 0x30) ≤ 2 ^ 32 - 1) :
    ∃ next, parseByte parsed byte = .ok next ∧
      next.toNat = parsed.toNat * 10 + (byte.toNat - 0x30) := by
  have value := digitOf_toNat digit
  have small : ¬ tooLarge parsed (digitOf byte) := by
    rw [tooLarge_iff]
    omega
  have ten : (10 : UInt32).toNat = 10 := rfl
  have product : (parsed * 10).toNat = parsed.toNat * 10 := by
    rw [UInt32.toNat_mul, ten]
    exact Nat.mod_eq_of_lt (by omega)
  have sum : (parsed * 10 + digitOf byte).toNat = parsed.toNat * 10 + (byte.toNat - 0x30) := by
    rw [UInt32.toNat_add, product, value]
    exact Nat.mod_eq_of_lt (by omega)
  have mul : checkedMul parsed 10 = .ok (parsed * 10) := if_pos (by rw [ten]; omega)
  have add : checkedAdd (parsed * 10) (digitOf byte) = .ok (parsed * 10 + digitOf byte) :=
    if_pos (by rw [product, value]; omega)
  refine ⟨parsed * 10 + digitOf byte, ?_, sum⟩
  simp only [parseByte, digit, small, mul]
  exact add

/-- A turn takes a digit in or refuses it; its arithmetic stays in range. -/
theorem parseByte_cases (parsed : UInt32) (byte : UInt8) :
    (∃ next, parseByte parsed byte = .ok next ∧ isDecimal byte ∧
      next.toNat = parsed.toNat * 10 + (byte.toNat - 0x30)) ∨
    (parseByte parsed byte = .error .mustBeDecimal ∧ ¬ isDecimal byte) ∨
    (parseByte parsed byte = .error .exceeds ∧ isDecimal byte ∧
      2 ^ 32 - 1 < parsed.toNat * 10 + (byte.toNat - 0x30)) := by
  by_cases digit : isDecimal byte
  · by_cases fits : parsed.toNat * 10 + (byte.toNat - 0x30) ≤ 2 ^ 32 - 1
    · obtain ⟨next, run, value⟩ := parseByte_decimal digit fits
      exact .inl ⟨next, run, digit, value⟩
    · have large : tooLarge parsed (digitOf byte) := by
        rw [tooLarge_iff, digitOf_toNat digit]
        omega
      right
      right
      exact ⟨by simp [parseByte, digit, large], digit, by omega⟩
  · right
    left
    exact ⟨by simp [parseByte, digit], digit⟩

/-- From any prefix on, the rest is taken in whole if and only if it is digits and
the number in range. -/
theorem parseBytes_ok_iff (digits : List UInt8) (parsed result : UInt32) :
    digits.foldlM parseByte parsed = .ok result ↔ (∀ byte ∈ digits, isDecimal byte) ∧
      result.toNat = parsed.toNat * 10 ^ digits.length + decimal digits := by
  induction digits generalizing parsed with
  | nil =>
    have same : parsed.toNat * 10 ^ 0 + decimal [] = parsed.toNat := by
      rw [pow_zero, Nat.mul_one]
      rfl
    rw [List.foldlM_nil, List.length_nil, same]
    constructor
    · intro run
      cases run
      exact ⟨fun _ none => absurd none List.not_mem_nil, rfl⟩
    · rintro ⟨_, value⟩
      rw [UInt32.toNat_inj.mp value]
      rfl
  | cons byte rest ih =>
    have shift : parsed.toNat * 10 ^ (byte :: rest).length + decimal (byte :: rest) =
        (parsed.toNat * 10 + (byte.toNat - 0x30)) * 10 ^ rest.length + decimal rest := by
      rw [decimal_cons, List.length_cons]
      ring
    rw [List.foldlM_cons, shift, List.forall_mem_cons]
    rcases parseByte_cases parsed byte with ⟨next, run, digit, value⟩ | ⟨run, other⟩ |
      ⟨run, _, large⟩
    · rw [run, Loop.ok_bind, ih next, value]
      simp [digit]
    · rw [run]
      constructor
      · intro stopped
        cases stopped
      · intro all
        exact absurd all.1.1 other
    · rw [run]
      constructor
      · intro stopped
        cases stopped
      -- More digits only make the number larger.
      · rintro ⟨_, whole⟩
        have bound := result.toNat_lt
        have grows := Nat.le_mul_of_pos_right (parsed.toNat * 10 + (byte.toNat - 0x30))
          (Nat.pow_pos (n := rest.length) (show 0 < 10 by decide))
        omega

theorem parseBytes_never_overflows (digits : List UInt8) (parsed : UInt32) :
    digits.foldlM parseByte parsed ≠ .error .overflow := by
  induction digits generalizing parsed with
  | nil =>
    intro stopped
    cases stopped
  | cons byte rest ih =>
    rw [List.foldlM_cons]
    rcases parseByte_cases parsed byte with ⟨next, run, _⟩ | ⟨run, _⟩ | ⟨run, _⟩
    · rw [run, Loop.ok_bind]
      exact ih next
    · rw [run]
      intro stopped
      cases stopped
    · rw [run]
      intro stopped
      cases stopped

theorem parseDecimalU32_ok_iff (value : List Char) (result : UInt32) :
    parseDecimalU32 value = .ok result ↔ bytes value ≠ [] ∧
      (∀ byte ∈ bytes value, isDecimal byte) ∧ result.toNat = decimal (bytes value) := by
  unfold parseDecimalU32
  by_cases empty : bytes value = []
  · simp [empty]
  · simp [empty, parseBytes_ok_iff]

/-- The parser takes exactly the decimal numbers up to `u32::MAX`, at their value. -/
theorem parseDecimalU32_exact (value : List Char) :
    ((∃ result, parseDecimalU32 value = .ok result) ↔ value ≠ [] ∧
      (∀ byte ∈ bytes value, isDecimal byte) ∧ decimal (bytes value) ≤ u32Max.toNat) ∧
    (∀ result, parseDecimalU32 value = .ok result → result.toNat = decimal (bytes value)) ∧
    (∀ parsed digit, tooLarge parsed digit ↔
      u32Max.toNat < parsed.toNat * 10 + digit.toNat) ∧
    parseDecimalU32 value ≠ .error .overflow := by
  have nonempty : bytes value ≠ [] ↔ value ≠ [] := not_congr bytes_eq_nil
  refine ⟨?_, ?_, tooLarge_iff, ?_⟩
  · constructor
    · rintro ⟨result, run⟩
      obtain ⟨some, digits, same⟩ := (parseDecimalU32_ok_iff value result).mp run
      refine ⟨nonempty.mp some, digits, ?_⟩
      rw [← same]
      exact Nat.le_of_lt_succ result.toNat_lt
    · rintro ⟨some, digits, inside⟩
      refine ⟨.ofNat (decimal (bytes value)), (parseDecimalU32_ok_iff value _).mpr
        ⟨nonempty.mpr some, digits, ?_⟩⟩
      exact Nat.mod_eq_of_lt (Nat.lt_succ_of_le inside)
  · intro result run
    exact ((parseDecimalU32_ok_iff value result).mp run).2.2
  · unfold parseDecimalU32
    split
    · intro stopped
      cases stopped
    · exact parseBytes_never_overflows (bytes value) 0

example : parseDecimalU32 "0004294967295".toList = .ok u32Max ∧
    parseDecimalU32 "4294967296".toList = .error .exceeds := by
  decide +kernel

end Ws63Examples.Connectivity.Config
