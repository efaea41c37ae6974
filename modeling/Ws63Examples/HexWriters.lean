import Ws63Examples.Lib.Numerals
import Ws63Examples.Lib.Slice

/-!
# Hexadecimal numbers on the console

The ways in which the examples write a word, and those in which they write bytes.
-/

namespace Ws63Examples

open Slice Numerals

/-- `(n >> shift) & 0xf` -/
def nibble (n : UInt32) (shift : Nat) : UInt32 := (n >>> UInt32.ofNat shift) &&& 0xf

/-- `hex8` of `dma_loopback`, `rf_port_demo`, `wifi_blob_link` and `wifi_init_smoke` -/
def hex8 (n : UInt32) : List UInt8 :=
  (List.range 8).map fun i =>
    let nib := nibble n ((7 - i) * 4)
    if nib < 10 then 0x30 + nib.toUInt8 else 0x61 + (nib - 10).toUInt8

def InitSmoke.hex16 (n : UInt64) : List UInt8 :=
  (List.range 16).map fun i =>
    let nib := (n >>> UInt64.ofNat ((15 - i) * 4)) &&& 0xf
    if nib < 10 then 0x30 + nib.toUInt8 else 0x61 + (nib - 10).toUInt8

def Connectivity.hex8 (value : UInt32) : List UInt8 :=
  (List.range 8).map fun index =>
    let nibble := (nibble value ((7 - index) * 4)).toUInt8
    if nibble < 10 then 0x30 + nibble else 0x61 + nibble - 10

/-- `b"0123456789abcdef"` -/
def hexDigits : List UInt8 :=
  [0x30, 0x31, 0x32, 0x33, 0x34, 0x35, 0x36, 0x37, 0x38, 0x39, 0x61, 0x62, 0x63, 0x64, 0x65, 0x66]

def Softap.hex8 (value : UInt32) : Option (List UInt8) :=
  (List.range 8).mapM fun index => hexDigits[(nibble value ((8 - 1 - index) * 4)).toNat]?

/-- From the last digit to the first, into `0x00000000`. -/
def SoftwareIrq.writeHex (value : UInt32) : Option (List UInt8) := do
  let output : Vector UInt8 10 := ⟨#[0x30, 0x78, 0x30, 0x30, 0x30, 0x30, 0x30, 0x30, 0x30, 0x30], rfl⟩
  let output ← (List.range 8).foldlM (fun output i => do
    store output (9 - i) (← hexDigits[(nibble value (i * 4)).toNat]?)) output
  return output.toList

/-- The slots in reverse, each with the lowest digit of what is left of the number. -/
def CustomMemory.hexSlots : (slots : Nat) → UInt32 → List UInt8
  | 0, _ => []
  | slots + 1, n =>
    let d := (n &&& 0xf).toUInt8
    hexSlots slots (n >>> 4) ++ [if d < 10 then 0x30 + d else 0x61 + (d - 10)]

def CustomMemory.u32Hex (n : UInt32) : List UInt8 := hexSlots 8 n

/-- Both digits of a byte, looked up in a table. -/
def tableDigits (table : List UInt8) (byte : UInt8) : Option (List UInt8) := do
  return [← table[(byte >>> 4).toNat]?, ← table[(byte &&& 0x0f).toNat]?]

/-- `b"0123456789ABCDEF"` -/
def I2cScan.hexDigits : List UInt8 :=
  [0x30, 0x31, 0x32, 0x33, 0x34, 0x35, 0x36, 0x37, 0x38, 0x39, 0x41, 0x42, 0x43, 0x44, 0x45, 0x46]

def I2cScan.writeHex2 (byte : UInt8) : Option (List UInt8) := tableDigits I2cScan.hexDigits byte

def Softap.writeHexBytes (bytes : List UInt8) : Option (List UInt8) := do
  let parts ← bytes.mapM (tableDigits hexDigits)
  return parts.flatten

/-- One turn of the loop of `put_mac`. -/
def NetPing.putByte (s : Vector UInt8 17 × Nat) (entry : UInt8 × Nat) :
    Option (Vector UInt8 17 × Nat) := do
  let (b, j) := entry
  let (out, k) ← if 0 < j then (store s.1 s.2 0x3a).map fun out => (out, s.2 + 1) else some s
  let out ← store out k (← hexDigits[(b >>> 4).toNat]?)
  let out ← store out (k + 1) (← hexDigits[(b &&& 0x0f).toNat]?)
  return (out, k + 2)

def NetPing.putMac (mac : Vector UInt8 6) : Option (List UInt8) := do
  let (out, k) ← mac.toList.zipIdx.foldlM putByte (.replicate 17 0, 0)
  slice out.toList 0 k

/-- `hex8(byte as u32)[6..]`, as an address or a frame is shown by `wifi_connectivity` and
`wifi_init_smoke`. -/
def hexTail (byte : UInt8) : List UInt8 := (hex8 byte.toUInt32).drop 6

/-- A digit as the writers show it. -/
def hexDigit (d : Nat) : UInt8 := UInt8.ofNat (if d < 10 then 0x30 + d else 0x57 + d)

/-- A number in `k` hexadecimal digits. -/
def hexText (k n : Nat) : List UInt8 := (padded 16 k n).map hexDigit

/-- The value of a digit. -/
def hexValue (byte : UInt8) : Nat :=
  if byte.toNat < 0x3a then byte.toNat - 0x30 else byte.toNat - 0x57

theorem hexValue_hexDigit {d : Nat} (small : d < 16) : hexValue (hexDigit d) = d := by
  unfold hexValue hexDigit
  rw [UInt8.toNat_ofNat']
  split <;> split <;> omega

theorem nibble_toNat (n : UInt32) {j : Nat} (inside : j < 8) :
    (nibble n (j * 4)).toNat = n.toNat / 16 ^ j % 16 := by
  have amount : (UInt32.ofNat (j * 4)).toNat % 32 = j * 4 := by
    rw [UInt32.toNat_ofNat', Nat.mod_eq_of_lt (by omega), Nat.mod_eq_of_lt (by omega)]
  have mask : (0xf : UInt32).toNat = 2 ^ 4 - 1 := rfl
  rw [nibble, UInt32.toNat_and, UInt32.toNat_shiftRight, amount, mask, Nat.and_two_pow_sub_one_eq_mod,
    Nat.shiftRight_eq_div_pow, Nat.mul_comm, Nat.pow_mul]

theorem nibble_lt (n : UInt32) {j : Nat} (inside : j < 8) : (nibble n (j * 4)).toNat < 16 := by
  rw [nibble_toNat n inside]
  exact Nat.mod_lt _ (by decide)

/-- The branch of `hex8`, for all digits at once. -/
theorem hexDigit_branch {nib : UInt32} (small : nib.toNat < 16) :
    (if nib < 10 then 0x30 + nib.toUInt8 else 0x61 + (nib - 10).toUInt8) = hexDigit nib.toNat := by
  have every : ∀ d : Fin 16, (if UInt32.ofNat d < 10 then 0x30 + (UInt32.ofNat d).toUInt8
      else 0x61 + (UInt32.ofNat d - 10).toUInt8) = hexDigit d := by decide
  have := every ⟨nib.toNat, small⟩
  rwa [UInt32.ofNat_toNat] at this

/-- Digits that are computed one for one are those of the numeral. -/
theorem map_digits {digit : Nat → UInt8} {k n : Nat}
    (each : ∀ i < k, digit i = hexDigit (n / 16 ^ (k - 1 - i) % 16)) :
    (List.range k).map digit = hexText k n := by
  rw [hexText, padded, List.map_map]
  apply List.map_congr_left
  intro i inside
  exact each i (List.mem_range.mp inside)

theorem hex8_eq (n : UInt32) : hex8 n = hexText 8 n.toNat := by
  apply map_digits
  intro i inside
  have place : 7 - i < 8 := by omega
  rw [hexDigit_branch (nibble_lt n place), nibble_toNat n place]

theorem Connectivity.hex8_eq (value : UInt32) :
    Connectivity.hex8 value = hexText 8 value.toNat := by
  have every : ∀ d : Fin 16, (if (UInt32.ofNat d).toUInt8 < 10 then 0x30 + (UInt32.ofNat d).toUInt8
      else 0x61 + (UInt32.ofNat d).toUInt8 - 10) = hexDigit d := by decide
  apply map_digits
  intro i inside
  have place : 7 - i < 8 := by omega
  have digit := every ⟨_, nibble_lt value place⟩
  rw [UInt32.ofNat_toNat] at digit
  exact digit.trans (congrArg hexDigit (nibble_toNat value place))

theorem hexDigits_get {d : Nat} (small : d < 16) : hexDigits[d]? = some (hexDigit d) := by
  have every : ∀ d : Fin 16, hexDigits[d.val]? = some (hexDigit d) := by decide
  exact every ⟨d, small⟩

theorem Softap.hex8_eq (value : UInt32) : Softap.hex8 value = some (hexText 8 value.toNat) := by
  rw [Softap.hex8, mapM_eq_map fun index => hexDigit (nibble value ((8 - 1 - index) * 4)).toNat]
  · congr 1
    apply map_digits
    intro i inside
    rw [nibble_toNat value (show 8 - 1 - i < 8 by omega)]
  · intro i inside
    exact hexDigits_get (nibble_lt value (show 8 - 1 - i < 8 by omega))

theorem hexText_succ (k n : Nat) :
    hexText (k + 1) n = hexDigit (n / 16 ^ k % 16) :: hexText k n := by
  have one : padded 16 1 (n / 16 ^ k) = [n / 16 ^ k % 16] := by simp [padded]
  rw [hexText, Nat.add_comm, padded_append, one]
  rfl

/-- What stands in the array after so many turns. -/
theorem SoftwareIrq.written (value : UInt32) {k : Nat} (turns : k ≤ 8) :
    ∃ out, (List.range k).foldlM (fun (output : Vector UInt8 10) i => do
        store output (9 - i) (← hexDigits[(nibble value (i * 4)).toNat]?))
      ⟨#[0x30, 0x78, 0x30, 0x30, 0x30, 0x30, 0x30, 0x30, 0x30, 0x30], rfl⟩ = some out ∧
      out.toList = [0x30, 0x78] ++ List.replicate (8 - k) 0x30 ++ hexText k value.toNat := by
  induction k with
  | zero => exact ⟨_, rfl, rfl⟩
  | succ k ih =>
    obtain ⟨out, ran, shown⟩ := ih (Nat.le_of_succ_le turns)
    obtain ⟨next, stored, changed⟩ := store_toList out (show 9 - k < 10 by omega)
      (hexDigit (value.toNat / 16 ^ k % 16))
    refine ⟨next, ?_, ?_⟩
    · rw [List.range_succ, List.foldlM_append, ran]
      simp only [some_bind, List.foldlM_cons, List.foldlM_nil, nibble_toNat value turns,
        hexDigits_get (Nat.mod_lt (value.toNat / 16 ^ k) (show 16 > 0 by decide)), stored]
      rfl
    · have split : out.toList = ([0x30, 0x78] ++ List.replicate (8 - (k + 1)) 0x30) ++
          0x30 :: hexText k value.toNat := by
        rw [shown, show 8 - k = (8 - (k + 1)) + 1 by omega, List.replicate_succ']
        simp
      have front : ([0x30, 0x78] ++ List.replicate (8 - (k + 1)) (0x30 : UInt8)).length = 9 - k := by
        simp
        omega
      have kept : out.toList.take (9 - k) = [0x30, 0x78] ++ List.replicate (8 - (k + 1)) 0x30 := by
        rw [split, List.take_left' front]
      have rest : out.toList.drop (9 - k + 1) = hexText k value.toNat := by
        rw [split, List.append_cons, List.drop_left']
        rw [List.length_append, front]
        rfl
      rw [changed, kept, rest, hexText_succ]

theorem CustomMemory.hexSlots_eq (slots : Nat) (n : UInt32) :
    hexSlots slots n = hexText slots n.toNat := by
  have every : ∀ d : Fin 16, (if (UInt32.ofNat d).toUInt8 < 10 then 0x30 + (UInt32.ofNat d).toUInt8
      else 0x61 + ((UInt32.ofNat d).toUInt8 - 10)) = hexDigit d := by decide
  induction slots generalizing n with
  | zero => rfl
  | succ slots ih =>
    have low : (n &&& 0xf).toNat = n.toNat % 16 := by
      rw [UInt32.toNat_and]
      exact Nat.and_two_pow_sub_one_eq_mod n.toNat 4
    have rest : (n >>> 4).toNat = n.toNat / 16 := by
      rw [UInt32.toNat_shiftRight]
      exact Nat.shiftRight_eq_div_pow n.toNat 4
    have digit := every ⟨(n &&& 0xf).toNat, by rw [low]; exact Nat.mod_lt _ (by decide)⟩
    rw [UInt32.ofNat_toNat] at digit
    rw [hexSlots, ih, rest, hexText, hexText, padded_succ, List.map_append]
    congr 2
    exact digit.trans (congrArg hexDigit low)

theorem InitSmoke.hex16_eq (n : UInt64) : InitSmoke.hex16 n = hexText 16 n.toNat := by
  have every : ∀ d : Fin 16, (if UInt64.ofNat d < 10 then 0x30 + (UInt64.ofNat d).toUInt8
      else 0x61 + (UInt64.ofNat d - 10).toUInt8) = hexDigit d := by decide
  apply map_digits
  intro i inside
  have amount : (UInt64.ofNat ((15 - i) * 4)).toNat % 64 = (15 - i) * 4 := by
    rw [UInt64.toNat_ofNat', Nat.mod_eq_of_lt (by omega), Nat.mod_eq_of_lt (by omega)]
  have value : ((n >>> UInt64.ofNat ((15 - i) * 4)) &&& 0xf).toNat =
      n.toNat / 16 ^ (16 - 1 - i) % 16 := by
    have mask : (0xf : UInt64).toNat = 2 ^ 4 - 1 := rfl
    rw [UInt64.toNat_and, UInt64.toNat_shiftRight, amount, mask, Nat.and_two_pow_sub_one_eq_mod,
      Nat.shiftRight_eq_div_pow, Nat.mul_comm, Nat.pow_mul]
  have digit := every ⟨_, value ▸ Nat.mod_lt _ (by decide)⟩
  rw [UInt64.ofNat_toNat] at digit
  exact digit.trans (congrArg hexDigit value)

theorem CustomMemory.u32Hex_eq (n : UInt32) : CustomMemory.u32Hex n = hexText 8 n.toNat :=
  hexSlots_eq 8 n

theorem SoftwareIrq.writeHex_eq (value : UInt32) :
    SoftwareIrq.writeHex value = some ([0x30, 0x78] ++ hexText 8 value.toNat) := by
  obtain ⟨out, ran, shown⟩ := SoftwareIrq.written value (Nat.le_refl 8)
  simp only [SoftwareIrq.writeHex, ran, some_bind, shown]
  rfl

theorem hexText_value (k n : Nat) :
    Nat.ofDigits 16 ((hexText k n).reverse.map hexValue) = n % 16 ^ k := by
  have same : (hexText k n).reverse.map hexValue = (padded 16 k n).reverse := by
    rw [hexText, ← List.map_reverse, List.map_map]
    apply (List.map_congr_left _).trans (List.map_id _)
    intro d member
    exact hexValue_hexDigit (padded_lt (by decide) k n d (List.mem_reverse.mp member))
  rw [same, padded_value]

/-- The eight digits that all the ways to write a word share: read back they are the word.
The writer of a double word writes those of its halves. -/
theorem hex_writers (n : UInt32) :
    ∃ text, hex8 n = text ∧ Connectivity.hex8 n = text ∧ Softap.hex8 n = some text ∧
      CustomMemory.u32Hex n = text ∧ SoftwareIrq.writeHex n = some ([0x30, 0x78] ++ text) ∧
      text.length = 8 ∧ Nat.ofDigits 16 (text.reverse.map hexValue) = n.toNat ∧
      ∀ m : UInt64, m.toUInt32 = n →
        InitSmoke.hex16 m = hex8 (m >>> 32).toUInt32 ++ text := by
  refine ⟨hexText 8 n.toNat, hex8_eq n, Connectivity.hex8_eq n, Softap.hex8_eq n,
    CustomMemory.u32Hex_eq n, SoftwareIrq.writeHex_eq n, ?_, ?_, ?_⟩
  · simp [hexText]
  · rw [hexText_value]
    exact Nat.mod_eq_of_lt n.toNat_lt
  · rintro m rfl
    have high : (m >>> 32).toUInt32.toNat = m.toNat / 16 ^ 8 := by
      have := m.toNat_lt
      rw [UInt64.toNat_toUInt32, UInt64.toNat_shiftRight]
      have shifted : m.toNat >>> ((32 : UInt64).toNat % 64) = m.toNat / 16 ^ 8 :=
        Nat.shiftRight_eq_div_pow m.toNat 32
      rw [shifted]
      omega
    have low : hexText 8 m.toUInt32.toNat = hexText 8 m.toNat :=
      congrArg (List.map hexDigit) (padded_mod 16 8 m.toNat)
    rw [InitSmoke.hex16_eq, hex8_eq, high, low, hexText, padded_append 16 8 8, List.map_append]
    rfl

theorem hexTail_eq (byte : UInt8) : hexTail byte = hexText 2 byte.toNat := by
  have split : hexText 8 byte.toUInt32.toNat =
      hexText 6 (byte.toNat / 16 ^ 2) ++ hexText 2 byte.toNat := by
    rw [hexText, show 8 = 6 + 2 from rfl, padded_append, List.map_append]
    rfl
  rw [hexTail, hex8_eq, split, List.drop_left' (by simp [hexText])]

/-- The lookups of both digits of a byte. -/
theorem digits_get (byte : UInt8) : ∃ high low, hexDigits[(byte >>> 4).toNat]? = some high ∧
    hexDigits[(byte &&& 0x0f).toNat]? = some low ∧ hexText 2 byte.toNat = [high, low] := by
  have := byte.toNat_lt
  have high : (byte >>> 4).toNat = byte.toNat / 16 := by
    rw [UInt8.toNat_shiftRight]
    exact Nat.shiftRight_eq_div_pow byte.toNat 4
  have low : (byte &&& 0x0f).toNat = byte.toNat % 16 := by
    rw [UInt8.toNat_and]
    exact Nat.and_two_pow_sub_one_eq_mod byte.toNat 4
  have one : byte.toNat / 16 % 16 = byte.toNat / 16 := Nat.mod_eq_of_lt (by omega)
  rw [high, low, hexText_succ, hexText_succ, Nat.pow_one, one, Nat.pow_zero, Nat.div_one]
  exact ⟨_, _, hexDigits_get (by omega), hexDigits_get (Nat.mod_lt _ (by decide)), rfl⟩

theorem tableDigits_eq (byte : UInt8) :
    tableDigits hexDigits byte = some (hexText 2 byte.toNat) := by
  obtain ⟨high, low, first, second, both⟩ := digits_get byte
  rw [tableDigits, first, second, both]
  rfl

/-- A letter as a capital. -/
def capital (byte : UInt8) : UInt8 := if 0x61 ≤ byte then byte - 0x20 else byte

theorem tableDigits_map (f : UInt8 → UInt8) (table : List UInt8) (byte : UInt8) :
    tableDigits (table.map f) byte = (tableDigits table byte).map (List.map f) := by
  unfold tableDigits
  rw [List.getElem?_map, List.getElem?_map]
  cases table[(byte >>> 4).toNat]? with
  | none => rfl
  | some high =>
    cases table[(byte &&& 0x0f).toNat]? with
    | none => rfl
    | some low => rfl

theorem I2cScan.writeHex2_eq (byte : UInt8) :
    I2cScan.writeHex2 byte = some ((hexText 2 byte.toNat).map capital) := by
  have table : I2cScan.hexDigits = Ws63Examples.hexDigits.map capital := by decide
  rw [I2cScan.writeHex2, table, tableDigits_map, tableDigits_eq]
  rfl

theorem Softap.writeHexBytes_eq (bytes : List UInt8) :
    Softap.writeHexBytes bytes = some (bytes.flatMap fun byte => hexText 2 byte.toNat) := by
  rw [Softap.writeHexBytes, mapM_eq_map fun byte => hexText 2 byte.toNat]
  · rfl
  · exact fun byte _ => tableDigits_eq byte

theorem hexText_byte_injective {a b : UInt8} (same : hexText 2 a.toNat = hexText 2 b.toNat) :
    a = b := by
  have := a.toNat_lt
  have := b.toNat_lt
  have values := congrArg (fun text => Nat.ofDigits 16 (text.reverse.map hexValue)) same
  simp only [hexText_value] at values
  apply UInt8.toNat_inj.mp
  omega

theorem bytes_injective {bytes other : List UInt8}
    (same : (other.flatMap fun byte => hexText 2 byte.toNat) =
      bytes.flatMap fun byte => hexText 2 byte.toNat) : other = bytes := by
  induction bytes generalizing other with
  | nil =>
    cases other with
    | nil => rfl
    | cons a rest =>
      have := congrArg List.length same
      simp [hexText] at this
  | cons b bytes ih =>
    cases other with
    | nil =>
      have := congrArg List.length same
      simp [hexText] at this
      omega
    | cons a rest =>
      rw [List.flatMap_cons, List.flatMap_cons] at same
      obtain ⟨first, others⟩ := List.append_inj same (by simp [hexText])
      rw [hexText_byte_injective first, ih others]

namespace NetPing

/-- A byte behind the one before it. -/
theorem putByte_next {k : Nat} (out : Vector UInt8 17) (b : UInt8) (j : Nat) (room : k + 3 ≤ 17) :
    ∃ next, putByte (out, k) (b, j + 1) = some (next, k + 3) ∧
      next.toList.take (k + 3) = out.toList.take k ++ 0x3a :: hexText 2 b.toNat := by
  obtain ⟨high, low, first, second, both⟩ := digits_get b
  obtain ⟨colon, stored, one, -⟩ := store_ends out (show k < 17 by omega) 0x3a
  obtain ⟨upper, stored', two, -⟩ := store_ends colon (show k + 1 < 17 by omega) high
  obtain ⟨next, stored'', three, -⟩ := store_ends upper (show k + 1 + 1 < 17 by omega) low
  refine ⟨next, ?_, ?_⟩
  · simp only [putByte, Nat.succ_pos, if_true, stored, Option.map_some, some_bind, first, second,
      stored', stored'']
    rfl
  · rw [three, two, one, both]
    simp

theorem putByte_first (out : Vector UInt8 17) (b : UInt8) :
    ∃ next, putByte (out, 0) (b, 0) = some (next, 2) ∧
      next.toList.take 2 = hexText 2 b.toNat := by
  obtain ⟨high, low, first, second, both⟩ := digits_get b
  obtain ⟨upper, stored, one, -⟩ := store_ends out (show 0 < 17 by decide) high
  obtain ⟨next, stored', two, -⟩ := store_ends upper (show 0 + 1 < 17 by decide) low
  refine ⟨next, ?_, ?_⟩
  · simp only [putByte, Nat.lt_irrefl, if_false, some_bind, first, second, stored, stored']
    rfl
  · rw [two, one, both]
    rfl

/-- The bytes behind the first, each behind a colon. -/
theorem putBytes_eq {k : Nat} (out : Vector UInt8 17) (bytes : List UInt8) (j : Nat)
    (room : k + 3 * bytes.length ≤ 17) :
    ∃ next, (bytes.zipIdx (j + 1)).foldlM putByte (out, k) =
      some (next, k + 3 * bytes.length) ∧ next.toList.take (k + 3 * bytes.length) =
        out.toList.take k ++ bytes.flatMap fun byte => 0x3a :: hexText 2 byte.toNat := by
  induction bytes generalizing out k j with
  | nil => exact ⟨out, rfl, by simp⟩
  | cons b bytes ih =>
    rw [List.length_cons] at room ⊢
    obtain ⟨one, stored, first⟩ := putByte_next out b j (show k + 3 ≤ 17 by omega)
    obtain ⟨next, ran, rest⟩ := ih one (j + 1) (show (k + 3) + 3 * bytes.length ≤ 17 by omega)
    have whole : k + 3 * (bytes.length + 1) = (k + 3) + 3 * bytes.length := by omega
    refine ⟨next, ?_, ?_⟩
    · rw [List.zipIdx_cons, List.foldlM_cons, stored, some_bind, ran, whole]
    · rw [whole, rest, first, List.flatMap_cons, List.append_assoc]

theorem intercalate_flatMap (first : List UInt8) (rest : List (List UInt8)) :
    [0x3a].intercalate (first :: rest) = first ++ rest.flatMap (0x3a :: ·) := by
  induction rest generalizing first with
  | nil => simp
  | cons next rest ih => simp [List.intercalate_cons_cons, ih]

theorem putMac_eq (mac : Vector UInt8 6) : putMac mac =
    some ([0x3a].intercalate (mac.toList.map fun byte => hexText 2 byte.toNat)) := by
  have long : mac.toList.length = 6 := mac.size_toArray
  unfold putMac
  generalize mac.toList = bytes at long
  cases bytes with
  | nil => cases long
  | cons b bytes =>
    have five : bytes.length = 5 := Nat.succ.inj long
    obtain ⟨one, stored, first⟩ := putByte_first (.replicate 17 0) b
    obtain ⟨out, ran, shown⟩ := putBytes_eq one bytes 0 (show 2 + 3 * bytes.length ≤ 17 by omega)
    have cut : slice out.toList 0 (2 + 3 * bytes.length) = some (out.toList.take _) :=
      slice_prefix (by rw [five]; exact out.size_toArray.ge)
    rw [List.zipIdx_cons, List.foldlM_cons, stored, some_bind, ran, some_bind]
    change slice out.toList 0 (2 + 3 * bytes.length) = _
    rw [cut, shown, first, List.map_cons, intercalate_flatMap, List.flatMap_map]

end NetPing

theorem colon_not_mem (byte : UInt8) : 0x3a ∉ hexText 2 byte.toNat := by
  intro member
  obtain ⟨d, there, shown⟩ := List.mem_map.mp member
  have small := padded_lt (by decide) 2 byte.toNat d there
  have every : ∀ d : Fin 16, hexDigit d ≠ 0x3a := by decide
  exact every ⟨d, small⟩ shown

/-- The two digits a byte that all the ways to write bytes share: with colons between them
where it is an address, in capitals where it is a device on the bus. They tell which bytes
they are of. -/
theorem byte_writers (bytes : List UInt8) :
    ∃ text, Softap.writeHexBytes bytes = some text ∧ text = bytes.flatMap hexTail ∧
      bytes.mapM I2cScan.writeHex2 =
        some (bytes.map fun byte => (hexTail byte).map capital) ∧
      (∀ other, Softap.writeHexBytes other = some text → other = bytes) ∧
      ∀ mac : Vector UInt8 6, mac.toList = bytes →
        ∃ shown, NetPing.putMac mac = some shown ∧ shown.splitOn 0x3a = bytes.map hexTail := by
  have tails : hexTail = fun byte => hexText 2 byte.toNat := funext hexTail_eq
  rw [tails]
  refine ⟨_, Softap.writeHexBytes_eq bytes, rfl, ?_, ?_, ?_⟩
  · exact mapM_eq_map _ fun byte _ => I2cScan.writeHex2_eq byte
  · intro other same
    rw [Softap.writeHexBytes_eq] at same
    exact bytes_injective (Option.some.inj same)
  · rintro mac rfl
    refine ⟨_, NetPing.putMac_eq mac, List.splitOn_intercalate _ ?_ ?_⟩
    · intro part member
      obtain ⟨byte, -, rfl⟩ := List.mem_map.mp member
      exact colon_not_mem byte
    · intro empty
      have := congrArg List.length empty
      simp at this

end Ws63Examples
