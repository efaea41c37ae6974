import Ws63Examples.Connectivity.Config
import Ws63Examples.Lib.Numerals
import Ws63Examples.Lib.Slice

/-!
# Decimal numbers on the console

The loops that write a number in decimal, and the three `write_ipv4`.
-/

namespace Ws63Examples

open Slice Numerals Text

/-- `b'0' + (n % 10) as u8` -/
def decimalDigit (n : Nat) : UInt8 := 0x30 + UInt8.ofNat (n % 10)

section
variable {size : Nat}

/-- `while n > 0 { i -= 1; buf[i] = …; n /= 10; }` from a cursor on. -/
def digitsDown (buf : Vector UInt8 size) (n : Nat) : Nat → Option (Vector UInt8 size × Nat)
  | 0 => if n = 0 then some (buf, 0) else none
  | i + 1 =>
    if n = 0 then some (buf, i + 1)
    else do
      let buf ← store buf i (decimalDigit n)
      digitsDown buf (n / 10) i

/-- `loop { cursor -= 1; digits[cursor] = …; value /= 10; if value == 0 { break; } }` -/
def someDigitsDown (digits : Vector UInt8 size) (value : Nat) :
    Nat → Option (Vector UInt8 size × Nat)
  | 0 => none
  | cursor + 1 => do
    let digits ← store digits cursor (decimalDigit value)
    if value / 10 = 0 then some (digits, cursor) else someDigitsDown digits (value / 10) cursor

/-- `loop { digits[len] = …; len += 1; value /= 10; if value == 0 { break; } }`, with `room`
more places in the array; without one the index is out of range. -/
def someDigitsUp (digits : Vector UInt8 size) (value len : Nat) :
    (room : Nat) → Option (Vector UInt8 size × Nat)
  | 0 => none
  | room + 1 => do
    let digits ← store digits len (decimalDigit value)
    if value / 10 = 0 then some (digits, len + 1)
    else someDigitsUp digits (value / 10) (len + 1) room

end

/-- `put_u32` of `async_delay`, `gpio_irq`, `net_ping` and `timer_irq`: what it writes. -/
def putU32 (n : UInt32) : Option (List UInt8) :=
  let buf : Vector UInt8 10 := .replicate 10 0
  if n = 0 then do
    let buf ← store buf 0 0x30
    slice buf.toList 0 1
  else do
    let (buf, i) ← digitsDown buf n.toNat 10
    slice buf.toList i 10

/-- `putnum` of `embassy_multitask` -/
def putnum (n : UInt32) : Option (List UInt8) :=
  if n = 0 then some [0x30]
  else do
    let (buf, i) ← digitsDown (.replicate 10 0 : Vector UInt8 10) n.toNat 10
    slice buf.toList i 10

/-- `write_u32` of the `rtos` examples, which writes one digit after another. -/
def writeU32 (value : UInt32) : Option (List UInt8) := do
  let (digits, len) ← someDigitsUp (.replicate 10 0 : Vector UInt8 10) value.toNat 0 10
  let digits ← slice digits.toList 0 len
  return digits.reverse

/-- The loop over an address, around what writes an octet. -/
def writeOctets (octet : UInt8 → Option (List UInt8)) (address : Vector UInt8 4) :
    Option (List UInt8) := do
  let parts ← address.toList.zipIdx.mapM fun (byte, index) => do
    let digits ← octet byte
    return if index ≠ 0 then 0x2e :: digits else digits
  return parts.flatten

def Softap.writeOctet (octet : UInt8) : Option (List UInt8) := do
  let (digits, cursor) ← someDigitsDown (.replicate 3 0 : Vector UInt8 3) octet.toNat 3
  slice digits.toList cursor 3

def InitSmoke.writeOctet (byte : UInt8) : List UInt8 :=
  let hundreds := byte / 100
  let tens := (byte / 10) % 10
  let ones := byte % 10
  if hundreds ≠ 0 then [0x30 + hundreds, 0x30 + tens, 0x30 + ones]
  else if tens ≠ 0 then [0x30 + tens, 0x30 + ones]
  else [0x30 + ones]

def Connectivity.writeOctet (octet : UInt8) : List UInt8 :=
  let hundreds := octet / 100
  let tens := (octet % 100) / 10
  let ones := octet % 10
  (if hundreds ≠ 0 then [0x30 + hundreds] else []) ++
    (if hundreds ≠ 0 ∨ tens ≠ 0 then [0x30 + tens] else []) ++ [0x30 + ones]

def Softap.writeIpv4 (address : Vector UInt8 4) : Option (List UInt8) :=
  writeOctets Softap.writeOctet address

def InitSmoke.writeIpv4 (address : Vector UInt8 4) : Option (List UInt8) :=
  writeOctets (fun byte => some (InitSmoke.writeOctet byte)) address

def Connectivity.writeIpv4 (octets : Vector UInt8 4) : Option (List UInt8) :=
  writeOctets (fun octet => some (Connectivity.writeOctet octet)) octets

/-- A number in decimal, as a reader expects it. -/
def decimalText (n : Nat) : List UInt8 := (numeral 10 n).map decimalDigit

theorem decimalDigit_mod (n : Nat) : decimalDigit (n % 10) = decimalDigit n := by
  rw [decimalDigit, Nat.mod_mod, decimalDigit]

theorem div_fits {n i : Nat} (fits : n < 10 ^ (i + 1)) : n / 10 < 10 ^ i := by
  rw [Nat.div_lt_iff_lt_mul (by decide)]
  rwa [← Nat.pow_succ]

/-- A second digit has a place left. -/
theorem room_left {n i : Nat} (large : 10 ≤ n) (fits : n < 10 ^ (i + 1)) : 0 < i := by
  rcases Nat.eq_zero_or_pos i with rfl | more
  · simp only [Nat.zero_add, Nat.pow_one] at fits
    omega
  · exact more

/-- The digits written down to a cursor. -/
theorem digitsDown_eq {size : Nat} (buf : Vector UInt8 size) {n i : Nat} (inside : i ≤ size)
    (fits : n < 10 ^ i) : ∃ out cursor, digitsDown buf n i = some (out, cursor) ∧ cursor ≤ i ∧
      out.toList.drop cursor =
        (Nat.digits 10 n).reverse.map decimalDigit ++ buf.toList.drop i := by
  induction i generalizing buf n with
  | zero =>
    obtain rfl : n = 0 := by simpa using fits
    exact ⟨buf, 0, rfl, Nat.le_refl 0, by simp⟩
  | succ i ih =>
    unfold digitsDown
    by_cases done : n = 0
    · subst done
      exact ⟨buf, i + 1, rfl, Nat.le_refl _, by simp⟩
    · obtain ⟨next, stored, -, tail⟩ := store_ends buf inside (decimalDigit n)
      obtain ⟨out, cursor, ran, below, shown⟩ := ih next (Nat.le_of_succ_le inside)
        (div_fits fits)
      refine ⟨out, cursor, ?_, Nat.le_succ_of_le below, ?_⟩
      · rw [if_neg done, stored]
        exact ran
      · rw [shown, tail, Nat.digits_def' (by decide) (Nat.pos_of_ne_zero done), List.reverse_cons,
          List.map_append, List.map_singleton, decimalDigit_mod, List.append_assoc]
        rfl

/-- One digit at least: the loop that tests last writes the whole numeral. -/
theorem someDigitsDown_eq {size : Nat} (digits : Vector UInt8 size) {value cursor : Nat}
    (inside : cursor ≤ size) (room : 0 < cursor) (fits : value < 10 ^ cursor) :
    ∃ out stop, someDigitsDown digits value cursor = some (out, stop) ∧ stop ≤ cursor ∧
      out.toList.drop stop = decimalText value ++ digits.toList.drop cursor := by
  induction cursor generalizing digits value with
  | zero => exact absurd room (Nat.lt_irrefl 0)
  | succ cursor ih =>
    obtain ⟨next, stored, -, tail⟩ := store_ends digits inside (decimalDigit value)
    unfold someDigitsDown
    by_cases last : value / 10 = 0
    · have small : value < 10 := by omega
      refine ⟨next, cursor, ?_, Nat.le_succ cursor, ?_⟩
      · rw [stored, some_bind, if_pos last]
      · rw [tail, decimalText, numeral_of_lt (by decide) small]
        rfl
    · have large : 10 ≤ value := by omega
      obtain ⟨out, stop, ran, below, shown⟩ :=
        ih next (Nat.le_of_succ_le inside) (room_left large fits) (div_fits fits)
      refine ⟨out, stop, ?_, Nat.le_succ_of_le below, ?_⟩
      · rw [stored, some_bind, if_neg last, ran]
      · rw [shown, tail, decimalText, decimalText, numeral_of_le (by decide) large,
          List.map_append, List.map_singleton, decimalDigit_mod, List.append_assoc]
        rfl

/-- Written upwards the digits stand in the order they are divided out. -/
theorem someDigitsUp_eq {size : Nat} (digits : Vector UInt8 size) {value len room : Nat}
    (whole : len + room = size) (some_room : 0 < room) (fits : value < 10 ^ room) :
    ∃ out stop, someDigitsUp digits value len room = some (out, stop) ∧ stop ≤ size ∧
      out.toList.take stop = digits.toList.take len ++ (places 10 value).map decimalDigit := by
  induction room generalizing digits value len with
  | zero => exact absurd some_room (Nat.lt_irrefl 0)
  | succ room ih =>
    obtain ⟨next, stored, head, -⟩ := store_ends digits (show len < size by omega)
      (decimalDigit value)
    unfold someDigitsUp
    by_cases last : value / 10 = 0
    · have small : value < 10 := by omega
      refine ⟨next, len + 1, ?_, by omega, ?_⟩
      · rw [stored, some_bind, if_pos last]
      · rw [head, places_of_lt (by decide) small]
        rfl
    · have large : 10 ≤ value := by omega
      obtain ⟨out, stop, ran, inside, shown⟩ := ih next
        (show (len + 1) + room = size by omega) (room_left large fits) (div_fits fits)
      refine ⟨out, stop, ?_, inside, ?_⟩
      · rw [stored, some_bind, if_neg last, ran]
      · rw [shown, head, places_of_le (by decide) large, List.map_cons, decimalDigit_mod,
          List.append_assoc]
        rfl

theorem u32_fits (n : UInt32) : n.toNat < 10 ^ 10 := by
  have := n.toNat_lt
  omega

theorem decimalText_pos {n : Nat} (positive : n ≠ 0) :
    decimalText n = (Nat.digits 10 n).reverse.map decimalDigit := by
  rw [decimalText, numeral, places, if_neg positive]

theorem u32_pos {n : UInt32} (positive : n ≠ 0) : n.toNat ≠ 0 :=
  fun zero => positive (UInt32.toNat_inj.mp zero)

/-- The digits left in the buffer behind the cursor. -/
theorem written_down {n : UInt32} (positive : n ≠ 0) :
    ∃ out cursor, digitsDown (.replicate 10 0 : Vector UInt8 10) n.toNat 10 = some (out, cursor) ∧
      slice out.toList cursor 10 = some (decimalText n.toNat) := by
  obtain ⟨out, cursor, ran, inside, shown⟩ :=
    digitsDown_eq (.replicate 10 0 : Vector UInt8 10) (Nat.le_refl 10) (u32_fits n)
  refine ⟨out, cursor, ran, ?_⟩
  rw [slice_to_end out inside, shown, decimalText_pos (u32_pos positive)]
  simp

theorem putU32_eq (n : UInt32) : putU32 n = some (decimalText n.toNat) := by
  unfold putU32
  by_cases zero : n = 0
  · subst zero
    rfl
  · obtain ⟨out, cursor, ran, shown⟩ := written_down zero
    simp only [zero, if_false, ran, some_bind, shown]

theorem putnum_eq (n : UInt32) : putnum n = some (decimalText n.toNat) := by
  unfold putnum
  by_cases zero : n = 0
  · subst zero
    rfl
  · obtain ⟨out, cursor, ran, shown⟩ := written_down zero
    simp only [zero, if_false, ran, some_bind, shown]

theorem writeU32_eq (value : UInt32) : writeU32 value = some (decimalText value.toNat) := by
  obtain ⟨out, len, ran, inside, shown⟩ := someDigitsUp_eq
    (.replicate 10 0 : Vector UInt8 10) (Nat.zero_add 10) (by decide) (u32_fits value)
  have cut : slice out.toList 0 len = some (out.toList.take len) :=
    slice_prefix (by simpa using inside)
  have part : slice out.toList 0 len = some ((places 10 value.toNat).map decimalDigit) := by
    rw [cut, shown]
    simp
  simp only [writeU32, ran, some_bind, part]
  rw [decimalText, numeral, List.map_reverse]
  rfl

theorem decimalDigit_toNat {d : Nat} (small : d < 10) : (decimalDigit d).toNat = 0x30 + d := by
  rw [decimalDigit, Nat.mod_eq_of_lt small, UInt8.toNat_add, UInt8.toNat_ofNat']
  have : (0x30 : UInt8).toNat = 0x30 := rfl
  omega

theorem decimalText_byte {n : Nat} {byte : UInt8} (member : byte ∈ decimalText n) :
    ∃ d, d < 10 ∧ byte.toNat = 0x30 + d := by
  obtain ⟨d, there, rfl⟩ := List.mem_map.mp member
  have small := numeral_lt (by decide) d there
  exact ⟨d, small, decimalDigit_toNat small⟩

theorem decimalText_digits (n : Nat) :
    ∀ byte ∈ decimalText n, Connectivity.Config.isDecimal byte := by
  intro byte member
  obtain ⟨d, small, value⟩ := decimalText_byte member
  rw [Connectivity.Config.isDecimal_iff]
  omega

theorem decimalText_value (n : Nat) : Connectivity.Config.decimal (decimalText n) = n := by
  have same : (decimalText n).reverse.map (fun byte => byte.toNat - 0x30) =
      (numeral 10 n).reverse := by
    rw [decimalText, ← List.map_reverse, List.map_map]
    apply (List.map_congr_left _).trans (List.map_id _)
    intro d member
    have small := numeral_lt (by decide) d (List.mem_reverse.mp member)
    simp [decimalDigit_toNat small]
  rw [Connectivity.Config.decimal, same, numeral_value]

theorem decimalText_ne_nil (n : Nat) : decimalText n ≠ [] := by
  simp [decimalText, numeral_ne_nil]

/-- The parser of the build-time delay reads a decimal text back. -/
theorem decimalText_parses (n : UInt32) :
    Connectivity.Config.parseDecimalU32 (chars (decimalText n.toNat)) = .ok n := by
  have ascii : ∀ byte ∈ decimalText n.toNat, byte.toNat < 128 := by
    intro byte member
    obtain ⟨d, small, value⟩ := decimalText_byte member
    omega
  rw [Connectivity.Config.parseDecimalU32_ok_iff, bytes_chars ascii, decimalText_value]
  exact ⟨decimalText_ne_nil _, decimalText_digits _, rfl⟩

/-- The three ways to write a number in decimal never leave their buffers and write the same
text: at most ten digits, no zero in front of others, and what the parser of the
connectivity firmware reads back as the number. -/
theorem decimal_writers (n : UInt32) :
    ∃ text, putU32 n = some text ∧ putnum n = some text ∧ writeU32 n = some text ∧
      text.length ≤ 10 ∧ (1 < text.length → text.head? ≠ some 0x30) ∧
      Connectivity.Config.parseDecimalU32 (chars text) = .ok n := by
  refine ⟨decimalText n.toNat, putU32_eq n, putnum_eq n, writeU32_eq n, ?_, ?_,
    decimalText_parses n⟩
  · rw [decimalText, List.length_map, numeral_length]
    exact places_length_le (by decide) (by decide) (u32_fits n)
  · intro more
    rw [decimalText, List.length_map] at more
    rw [decimalText, List.head?_map]
    intro zero
    obtain ⟨d, first, shown⟩ := Option.map_eq_some_iff.mp zero
    have small := numeral_lt (by decide) d (List.mem_of_mem_head? first)
    have value := congrArg UInt8.toNat shown
    rw [decimalDigit_toNat small] at value
    obtain rfl : d = 0 := by
      have : (0x30 : UInt8).toNat = 0x30 := rfl
      omega
    exact numeral_head more first

theorem digit_byte {byte : UInt8} (small : byte.toNat < 10) :
    0x30 + byte = decimalDigit byte.toNat := by
  rw [decimalDigit, Nat.mod_eq_of_lt small, UInt8.ofNat_toNat]

theorem Softap.writeOctet_eq (octet : UInt8) :
    Softap.writeOctet octet = some (decimalText octet.toNat) := by
  have := octet.toNat_lt
  obtain ⟨out, cursor, ran, inside, shown⟩ := someDigitsDown_eq
    (.replicate 3 0 : Vector UInt8 3) (Nat.le_refl 3) (by decide)
    (show octet.toNat < 10 ^ 3 by omega)
  simp only [Softap.writeOctet, ran, some_bind]
  rw [slice_to_end out inside, shown]
  simp

/-- The numeral of an octet by the number of its digits. -/
theorem octet_text {n : Nat} (octet : n < 256) :
    decimalText n = if 100 ≤ n then
        [decimalDigit (n / 100), decimalDigit (n / 10 % 10), decimalDigit (n % 10)]
      else if 10 ≤ n then [decimalDigit (n / 10), decimalDigit (n % 10)]
      else [decimalDigit n] := by
  unfold decimalText
  split
  · rename_i three
    have hundreds : n / 10 / 10 = n / 100 := Nat.div_div_eq_div_mul n 10 10
    rw [numeral_of_le (by decide) (by omega), numeral_of_le (by decide) (by omega), hundreds,
      numeral_of_lt (by decide) (by omega)]
    rfl
  · split
    · rw [numeral_of_le (by decide) (by omega), numeral_of_lt (by decide) (by omega)]
      rfl
    · rw [numeral_of_lt (by decide) (by omega)]
      rfl

theorem byte_ne_zero {byte : UInt8} : byte ≠ 0 ↔ byte.toNat ≠ 0 :=
  not_congr ⟨fun same => congrArg UInt8.toNat same, fun same => UInt8.toNat_inj.mp same⟩

theorem InitSmoke.writeOctet_eq (byte : UInt8) :
    InitSmoke.writeOctet byte = decimalText byte.toNat := by
  have := byte.toNat_lt
  have hundreds : (byte / 100).toNat = byte.toNat / 100 := UInt8.toNat_div ..
  have tens : ((byte / 10) % 10).toNat = byte.toNat / 10 % 10 := by
    rw [UInt8.toNat_mod, UInt8.toNat_div]
    rfl
  have ones : (byte % 10).toNat = byte.toNat % 10 := UInt8.toNat_mod ..
  simp only [InitSmoke.writeOctet, byte_ne_zero, hundreds, tens]
  rw [digit_byte (show (byte / 100).toNat < 10 by omega),
    digit_byte (show ((byte / 10) % 10).toNat < 10 by omega),
    digit_byte (show (byte % 10).toNat < 10 by omega), hundreds, tens, ones, octet_text (by omega)]
  by_cases three : 100 ≤ byte.toNat
  · rw [if_pos (by omega), if_pos three]
  · by_cases two : 10 ≤ byte.toNat
    · rw [if_neg (by omega), if_pos (by omega), if_neg three, if_pos two,
        show byte.toNat / 10 % 10 = byte.toNat / 10 by omega]
    · rw [if_neg (by omega), if_neg (by omega), if_neg three, if_neg two,
        show byte.toNat % 10 = byte.toNat by omega]

/-- Its tens are those of the remainder. -/
theorem Connectivity.writeOctet_eq (octet : UInt8) :
    Connectivity.writeOctet octet = decimalText octet.toNat := by
  have := octet.toNat_lt
  have hundreds : (octet / 100).toNat = octet.toNat / 100 := UInt8.toNat_div ..
  have tens : ((octet % 100) / 10).toNat = octet.toNat % 100 / 10 := by
    rw [UInt8.toNat_div, UInt8.toNat_mod]
    rfl
  have ones : (octet % 10).toNat = octet.toNat % 10 := UInt8.toNat_mod ..
  simp only [Connectivity.writeOctet, byte_ne_zero, hundreds, tens]
  rw [digit_byte (show (octet / 100).toNat < 10 by omega),
    digit_byte (show ((octet % 100) / 10).toNat < 10 by omega),
    digit_byte (show (octet % 10).toNat < 10 by omega), hundreds, tens, ones,
    octet_text (by omega)]
  by_cases three : 100 ≤ octet.toNat
  · rw [if_pos (by omega), if_pos (by omega), if_pos three,
      show octet.toNat % 100 / 10 = octet.toNat / 10 % 10 by omega]
    rfl
  · by_cases two : 10 ≤ octet.toNat
    · rw [if_neg (by omega), if_pos (by omega), if_neg three, if_pos two,
        show octet.toNat % 100 / 10 = octet.toNat / 10 by omega]
      rfl
    · rw [if_neg (by omega), if_neg (by omega), if_neg three, if_neg two,
        show octet.toNat % 10 = octet.toNat by omega]
      rfl

/-- The four octets with dots between them. -/
def dottedQuad (address : Vector UInt8 4) : List UInt8 :=
  [0x2e].intercalate (address.toList.map fun octet => decimalText octet.toNat)

theorem writeOctets_eq {octet : UInt8 → Option (List UInt8)}
    (each : ∀ byte, octet byte = some (decimalText byte.toNat)) (address : Vector UInt8 4) :
    writeOctets octet address = some (dottedQuad address) := by
  obtain ⟨⟨octets⟩, size⟩ := address
  match octets, size with
  | [a, b, c, d], _ => simp [writeOctets, each, dottedQuad, List.intercalate, List.zipIdx]

theorem no_dot (n : Nat) : (0x2e : UInt8) ∉ decimalText n := by
  intro member
  obtain ⟨d, small, value⟩ := decimalText_byte member
  have : (0x2e : UInt8).toNat = 0x2e := rfl
  omega

/-- The three `write_ipv4` write the same text of an address, and between its dots the
parser reads the octets back: no two addresses share a text. -/
theorem address_writers (address : Vector UInt8 4) :
    ∃ text, Softap.writeIpv4 address = some text ∧ InitSmoke.writeIpv4 address = some text ∧
      Connectivity.writeIpv4 address = some text ∧
      (text.splitOn 0x2e).map (fun part => Connectivity.Config.parseDecimalU32 (chars part)) =
        address.toList.map fun octet => .ok octet.toUInt32 := by
  refine ⟨dottedQuad address, writeOctets_eq Softap.writeOctet_eq address,
    writeOctets_eq (fun byte => by rw [InitSmoke.writeOctet_eq]) address,
    writeOctets_eq (fun byte => by rw [Connectivity.writeOctet_eq]) address, ?_⟩
  have some_octet : address.toList.map (fun octet => decimalText octet.toNat) ≠ [] := by
    simp
  rw [dottedQuad, List.splitOn_intercalate _ _ some_octet, List.map_map]
  · apply List.map_congr_left
    intro octet _
    exact decimalText_parses octet.toUInt32
  · intro part member
    obtain ⟨octet, -, rfl⟩ := List.mem_map.mp member
    exact no_dot _

end Ws63Examples
