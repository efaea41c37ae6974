import Mathlib.Data.List.DropRight
import Mathlib.Data.List.Infix

/-!
# Text

A text as its characters: its lines, a line without the blanks around it, what
stands before and behind a part of it, and its UTF-8 bytes.
-/

namespace Ws63Examples.Text

/-- `strip_prefix` -/
def stripPrefix (s front : List Char) : Option (List Char) :=
  if front <+: s then some (s.drop front.length) else none

/-- `strip_suffix` -/
def stripSuffix (s back : List Char) : Option (List Char) :=
  if back <:+ s then some (s.take (s.length - back.length)) else none

/-- `split_once`: at the first place where the separator stands. -/
def splitOnce (sep : List Char) : List Char → Option (List Char × List Char)
  | [] => if sep = [] then some ([], []) else none
  | c :: rest =>
    if sep <+: c :: rest then some ([], (c :: rest).drop sep.length)
    else (splitOnce sep rest).map fun parts => (c :: parts.1, parts.2)

/-- `split_inclusive('\n')` -/
def splitInclusive : List Char → List (List Char)
  | [] => []
  | c :: rest =>
    if c = '\n' then [c] :: splitInclusive rest
    else
      match splitInclusive rest with
      | [] => [[c]]
      | line :: lines => (c :: line) :: lines

/-- A line ends in `\n` or `\r\n`, the last one perhaps in neither. -/
def withoutEnd (line : List Char) : List Char :=
  match stripSuffix line ['\n'] with
  | none => line
  | some line => (stripSuffix line ['\r']).getD line

def lines (s : List Char) : List (List Char) := (splitInclusive s).map withoutEnd

/-- The characters with the Unicode property `White_Space`. -/
def isWhitespace (c : Char) : Bool :=
  let n := c.toNat
  (0x09 ≤ n && n ≤ 0x0d) || n == 0x20 || n == 0x85 || n == 0xa0 || n == 0x1680 ||
    (0x2000 ≤ n && n ≤ 0x200a) || n == 0x2028 || n == 0x2029 || n == 0x202f || n == 0x205f ||
    n == 0x3000

def trim (s : List Char) : List Char := (s.dropWhile isWhitespace).rdropWhile isWhitespace

def bytes (s : List Char) : List UInt8 := s.flatMap String.utf8EncodeChar

theorem stripPrefix_append (front s : List Char) : stripPrefix (front ++ s) front = some s := by
  rw [stripPrefix, if_pos (List.prefix_append front s), List.drop_left]

theorem stripSuffix_append (s back : List Char) : stripSuffix (s ++ back) back = some s := by
  rw [stripSuffix, if_pos (List.suffix_append s back), List.length_append, Nat.add_sub_cancel,
    List.take_left]

theorem stripSuffix_eq_some {s back t : List Char} :
    stripSuffix s back = some t ↔ s = t ++ back := by
  constructor
  · intro stripped
    unfold stripSuffix at stripped
    split at stripped
    · rename_i ends
      obtain ⟨front, rfl⟩ := ends
      simpa using stripped
    · cases stripped
  · intro whole
    rw [whole, stripSuffix_append]

/-- The parts of a split with no split before it. -/
structure FirstSplit (sep s a b : List Char) : Prop where
  whole : s = a ++ sep ++ b
  first : ∀ before behind, s = before ++ sep ++ behind → a.length ≤ before.length

section
variable {sep s a b : List Char} {c : Char}

theorem firstSplit_here (here : sep <+: s) :
    FirstSplit sep s a b ↔ a = [] ∧ b = s.drop sep.length := by
  obtain ⟨after, rfl⟩ := here
  rw [List.drop_left]
  constructor
  · rintro ⟨whole, first⟩
    have empty := first [] after rfl
    obtain rfl : a = [] := List.length_eq_zero_iff.mp (Nat.le_zero.mp empty)
    exact ⟨rfl, (List.append_cancel_left whole).symm⟩
  · rintro ⟨rfl, rfl⟩
    exact ⟨rfl, fun _ _ _ => Nat.zero_le _⟩

theorem firstSplit_later (other : ¬ sep <+: c :: s) :
    FirstSplit sep (c :: s) a b ↔ ∃ front, a = c :: front ∧ FirstSplit sep s front b := by
  constructor
  · rintro ⟨whole, first⟩
    cases a with
    | nil => exact absurd ⟨b, whole.symm⟩ other
    | cons d front =>
      obtain ⟨rfl, tail⟩ := List.cons.inj whole
      refine ⟨front, rfl, tail, ?_⟩
      intro before behind same
      have longer := first (c :: before) behind (by rw [same]; rfl)
      exact Nat.le_of_succ_le_succ longer
  · rintro ⟨front, rfl, whole, first⟩
    refine ⟨by rw [whole]; rfl, ?_⟩
    intro before behind same
    cases before with
    | nil => exact absurd ⟨behind, same.symm⟩ other
    | cons d before => exact Nat.succ_le_succ (first before behind (List.cons.inj same).2)

theorem splitOnce_eq_some : splitOnce sep s = some (a, b) ↔ FirstSplit sep s a b := by
  induction s generalizing a with
  | nil =>
    unfold splitOnce
    by_cases empty : sep = []
    · rw [if_pos empty, firstSplit_here (by rw [empty])]
      simp [eq_comm]
    · rw [if_neg empty]
      constructor
      · intro split
        cases split
      · intro split
        have none := split.whole
        simp [empty] at none
  | cons c rest ih =>
    unfold splitOnce
    by_cases here : sep <+: c :: rest
    · rw [if_pos here, firstSplit_here here]
      simp [eq_comm]
    · rw [if_neg here, firstSplit_later here, Option.map_eq_some_iff]
      constructor
      · rintro ⟨⟨front, back⟩, split, same⟩
        cases same
        exact ⟨front, rfl, ih.mp split⟩
      · rintro ⟨front, rfl, split⟩
        exact ⟨(front, b), ih.mpr split, rfl⟩

/-- A separator whose first character the front part lacks splits behind it. -/
theorem splitOnce_append (clear : c ∉ a) (sep b : List Char) :
    splitOnce (c :: sep) (a ++ c :: sep ++ b) = some (a, b) := by
  apply splitOnce_eq_some.mpr
  refine ⟨rfl, ?_⟩
  intro before behind same
  by_contra shorter
  have inside : before.length < a.length := by omega
  have there := congrArg (fun s => s[before.length]?) same
  simp only [List.append_assoc, List.cons_append, List.getElem?_append_left inside,
    List.getElem?_append_right (Nat.le_refl _), Nat.sub_self, List.getElem?_cons_zero] at there
  exact clear (List.mem_of_getElem? there)

end

theorem splitInclusive_line {line : List Char} (clear : '\n' ∉ line) (rest : List Char) :
    splitInclusive (line ++ '\n' :: rest) = (line ++ ['\n']) :: splitInclusive rest := by
  induction line with
  | nil => rw [List.nil_append, splitInclusive, if_pos rfl, List.nil_append]
  | cons c line ih =>
    have other : c ≠ '\n' := fun same => clear (same ▸ List.mem_cons_self)
    rw [List.cons_append, splitInclusive, if_neg other,
      ih fun there => clear (List.mem_cons_of_mem c there)]
    rfl

/-- What a line must not hold for its end to be told from it. -/
def IsLine (line : List Char) : Prop := '\n' ∉ line ∧ ¬ ['\r'] <:+ line

instance (line : List Char) : Decidable (IsLine line) :=
  inferInstanceAs (Decidable (_ ∧ _))

theorem withoutEnd_append {line : List Char} (whole : IsLine line) :
    withoutEnd (line ++ ['\n']) = line := by
  simp only [withoutEnd, stripSuffix_append]
  rw [stripSuffix, if_neg whole.2, Option.getD_none]

theorem lines_append {line : List Char} (whole : IsLine line) (rest : List Char) :
    lines (line ++ '\n' :: rest) = line :: lines rest := by
  rw [lines, splitInclusive_line whole.1, List.map_cons, withoutEnd_append whole, lines]

/-- Lines written one behind the other are read back. -/
theorem lines_flatMap {written : List (List Char)} (whole : ∀ line ∈ written, IsLine line) :
    lines (written.flatMap fun line => line ++ ['\n']) = written := by
  induction written with
  | nil => rfl
  | cons line rest ih =>
    have next := lines_append (whole line List.mem_cons_self)
      (rest.flatMap fun line => line ++ ['\n'])
    rw [ih fun other there => whole other (List.mem_cons_of_mem line there)] at next
    rw [List.flatMap_cons, List.append_assoc]
    exact next

theorem bytes_eq_nil {s : List Char} : bytes s = [] ↔ s = [] := by
  cases s with
  | nil => simp [bytes]
  | cons c rest =>
    constructor
    · intro none
      have first := (List.append_eq_nil_iff.mp none).1
      exact absurd first String.utf8EncodeChar_ne_nil
    · intro none
      cases none

theorem or_high {byte mask : UInt8} (high : 128 ≤ mask.toNat) : 128 ≤ (byte ||| mask).toNat := by
  rw [UInt8.toNat_or]
  exact Nat.le_trans high Nat.right_le_or

theorem utf8EncodeChar_ascii {c : Char} (low : c.toNat < 128) :
    String.utf8EncodeChar c = [.ofNat c.toNat] := by
  have one : c.utf8Size = 1 := by
    rw [Char.utf8Size_eq_one_iff, UInt32.le_iff_toNat_le]
    exact Nat.le_of_lt_succ low
  rw [String.utf8EncodeChar_eq_singleton one]
  rfl

/-- ASCII bytes as the characters of a text. -/
def chars (text : List UInt8) : List Char := text.map fun byte => Char.ofNat byte.toNat

theorem bytes_chars {text : List UInt8} (ascii : ∀ byte ∈ text, byte.toNat < 128) :
    bytes (chars text) = text := by
  induction text with
  | nil => rfl
  | cons byte rest ih =>
    have low := ascii byte List.mem_cons_self
    have valid : byte.toNat.isValidChar := .inl (by omega)
    have same : (Char.ofNat byte.toNat).toNat = byte.toNat := by
      rw [Char.ofNat, dif_pos valid]
      rfl
    have tail := ih fun b member => ascii b (List.mem_cons_of_mem byte member)
    simp only [chars, bytes, List.map_cons, List.flatMap_cons] at tail ⊢
    rw [utf8EncodeChar_ascii (by rw [same]; exact low), same, tail, UInt8.ofNat_toNat]
    rfl

/-- A character beyond ASCII begins with a byte beyond it. -/
theorem utf8EncodeChar_high {c : Char} (high : ¬ c.toNat < 128) :
    ∃ byte ∈ String.utf8EncodeChar c, 128 ≤ byte.toNat := by
  have several : c.utf8Size ≠ 1 := by
    rw [Ne, Char.utf8Size_eq_one_iff, UInt32.le_iff_toNat_le]
    exact fun low => high (Nat.lt_succ_of_le low)
  have size : c.utf8Size = 2 ∨ c.utf8Size = 3 ∨ c.utf8Size = 4 := by
    have := c.utf8Size_pos
    have := c.utf8Size_le_four
    omega
  rcases size with two | three | four
  · rw [String.utf8EncodeChar_eq_cons_cons two]
    exact ⟨_, List.mem_cons_self, or_high (by decide)⟩
  · rw [String.utf8EncodeChar_eq_cons_cons_cons three]
    exact ⟨_, List.mem_cons_self, or_high (by decide)⟩
  · rw [String.utf8EncodeChar_eq_cons_cons_cons_cons four]
    exact ⟨_, List.mem_cons_self, or_high (by decide)⟩

/-- A test of bytes that only ASCII passes is a test of the characters. -/
theorem bytes_all {test : UInt8 → Bool} {ofChar : Char → Bool}
    (ascii : ∀ n < 256, test (.ofNat n) → n < 128)
    (same : ∀ n < 128, test (.ofNat n) = ofChar (.ofNat n))
    (low : ∀ c, ofChar c → c.toNat < 128) (s : List Char) : (bytes s).all test = s.all ofChar := by
  rw [bytes, List.all_flatMap]
  congr 1
  funext c
  by_cases inside : c.toNat < 128
  · have agree := same c.toNat inside
    rw [Char.ofNat_toNat] at agree
    simpa [utf8EncodeChar_ascii inside] using agree
  · obtain ⟨byte, there, beyond⟩ := utf8EncodeChar_high inside
    have fails : ¬ test byte := by
      intro passed
      have := ascii byte.toNat byte.toNat_lt (by rwa [UInt8.ofNat_toNat])
      omega
    have whole : (String.utf8EncodeChar c).all test = false :=
      List.all_eq_false.mpr ⟨byte, there, fails⟩
    have other : ofChar c = false := by
      simpa using fun passed => inside (low c passed)
    rw [whole, other]

end Ws63Examples.Text
