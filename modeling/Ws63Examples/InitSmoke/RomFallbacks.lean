import Ws63Examples.Lib.Slice
import Ws63Examples.Lib.Text

/-! The linker script of the ROM symbols, written from the vendor's table. -/

namespace Ws63Examples.InitSmoke.RomFallbacks

open Text

inductive Panic where
  | symbolName (name : List Char)
  | symbolValue (name value : List Char)
  deriving DecidableEq, Repr

def isAsciiDigit (byte : UInt8) : Bool := 0x30 ≤ byte && byte ≤ 0x39

def isAsciiAlphanumeric (byte : UInt8) : Bool :=
  isAsciiDigit byte || (0x41 ≤ byte && byte ≤ 0x5a) || (0x61 ≤ byte && byte ≤ 0x7a)

def isAsciiHexdigit (byte : UInt8) : Bool :=
  isAsciiDigit byte || (0x41 ≤ byte && byte ≤ 0x46) || (0x61 ≤ byte && byte ≤ 0x66)

def nameByte (byte : UInt8) : Bool :=
  isAsciiAlphanumeric byte || (byte == 0x5f || byte == 0x2e || byte == 0x24)

/-- ` = ` -/
def equals : List Char := [' ', '=', ' ']

def nameAsserted (name : List Char) : Bool := !name.isEmpty && (bytes name).all nameByte

/-- `0x` alone passes: all of no digits are digits. -/
def valueAsserted (value : List Char) : Bool :=
  ['0', 'x'].isPrefixOf value && (bytes (value.drop 2)).all isAsciiHexdigit

/-- The name and the value of a line that has them. -/
def assignment (line : List Char) : Option (List Char × List Char) :=
  (stripSuffix (trim line) [';']).bind (splitOnce equals)

def provide (name value : List Char) : List Char :=
  ['P', 'R', 'O', 'V', 'I', 'D', 'E', '('] ++ name ++ equals ++ value ++ [')', ';']

def header : List (List Char) :=
  ["/* Generated from ws63_acore_rom.lds. */".toList,
    "/* Application definitions override these mask-ROM fallbacks. */".toList]

/-- `push_str` of lines. -/
def written (lines : List (List Char)) : List Char := lines.flatMap fun line => line ++ ['\n']

/-- One turn of the loop. -/
def pushLine (generated line : List Char) : Except Panic (List Char) :=
  match assignment line with
  | none => .ok generated
  | some (name, value) =>
    if !nameAsserted name then .error (.symbolName name)
    else if !valueAsserted value then .error (.symbolValue name value)
    else .ok (generated ++ written [provide name value])

def writeRomFallbacks (sourceText : List Char) : Except Panic (List Char) :=
  (lines sourceText).foldlM pushLine (written header)

/-- The entries of a table, its other lines apart. -/
def entriesOf (lines : List (List Char)) : List (List Char × List Char) :=
  lines.filterMap assignment

/-- The checks that the loop makes. -/
def Asserted (entry : List Char × List Char) : Prop := nameAsserted entry.1 ∧ valueAsserted entry.2

theorem written_append (first rest : List (List Char)) :
    written (first ++ rest) = written first ++ written rest := List.flatMap_append

theorem pushLine_other {line : List Char} (other : assignment line = none)
    (generated : List Char) : pushLine generated line = .ok generated := by
  rw [pushLine, other]

theorem pushLine_entry {line : List Char} {entry : List Char × List Char}
    (found : assignment line = some entry) (asserted : Asserted entry) (generated : List Char) :
    pushLine generated line = .ok (generated ++ written [provide entry.1 entry.2]) := by
  simp [pushLine, found, asserted.1, asserted.2]

theorem pushLine_panics {line : List Char} {entry : List Char × List Char}
    (found : assignment line = some entry) (wrong : ¬ Asserted entry) (generated : List Char) :
    ∃ panic, pushLine generated line = .error panic := by
  simp only [pushLine, found]
  by_cases name : nameAsserted entry.1
  · have value : ¬ valueAsserted entry.2 := fun value => wrong ⟨name, value⟩
    simp [name, value]
  · simp [name]

/-- A table whose entries pass the checks is written out entry by entry. -/
theorem pushLines_ok {table : List (List Char)} (asserted : ∀ e ∈ entriesOf table, Asserted e)
    (generated : List Char) :
    table.foldlM pushLine generated =
      .ok (generated ++ written ((entriesOf table).map fun e => provide e.1 e.2)) := by
  induction table generalizing generated with
  | nil => simp [entriesOf, written, pure, Except.pure]
  | cons line rest ih =>
    rw [List.foldlM_cons]
    cases found : assignment line with
    | none =>
      have same : entriesOf (line :: rest) = entriesOf rest := List.filterMap_cons_none found
      rw [same] at asserted ⊢
      rw [pushLine_other found]
      exact ih asserted generated
    | some entry =>
      have more : entriesOf (line :: rest) = entry :: entriesOf rest :=
        List.filterMap_cons_some found
      rw [more] at asserted ⊢
      rw [pushLine_entry found (asserted entry List.mem_cons_self)]
      have others := ih (fun e he => asserted e (List.mem_cons_of_mem entry he))
        (generated ++ written [provide entry.1 entry.2])
      rw [List.append_assoc, ← written_append, List.singleton_append] at others
      exact others

/-- One that fails them stops the run, whatever stands around it. -/
theorem pushLines_panics {table : List (List Char)} {entry : List Char × List Char}
    (there : entry ∈ entriesOf table) (wrong : ¬ Asserted entry) (generated : List Char) :
    ∃ panic, table.foldlM pushLine generated = .error panic := by
  induction table generalizing generated with
  | nil => cases there
  | cons line rest ih =>
    rw [List.foldlM_cons]
    cases next : pushLine generated line with
    | error panic => exact ⟨panic, rfl⟩
    | ok longer =>
      apply ih
      obtain ⟨other, mem, found⟩ := List.mem_filterMap.mp there
      rcases List.mem_cons.mp mem with rfl | later
      · obtain ⟨panic, stopped⟩ := pushLine_panics found wrong generated
        rw [next] at stopped
        cases stopped
      · exact List.mem_filterMap.mpr ⟨other, later, found⟩

/-- `name = value;` between blanks, split where the first ` = ` stands. -/
structure Assigns (line name value : List Char) : Prop where
  whole : trim line = name ++ equals ++ value ++ [';']
  first : ∀ before behind, name ++ equals ++ value = before ++ equals ++ behind →
    name.length ≤ before.length

/-- The assignments of a table in order, and nothing for a line that is none. -/
inductive Listed : List (List Char) → List (List Char × List Char) → Prop where
  | nil : Listed [] []
  | other {line : List Char} {table : List (List Char)} {entries : List (List Char × List Char)}
      (none : ∀ name value, ¬ Assigns line name value) (rest : Listed table entries) :
      Listed (line :: table) entries
  | assigned {line name value : List Char} {table : List (List Char)}
      {entries : List (List Char × List Char)} (found : Assigns line name value)
      (rest : Listed table entries) : Listed (line :: table) ((name, value) :: entries)

/-- `[A-Za-z0-9_.$]` -/
def nameChar (c : Char) : Bool :=
  ('A' ≤ c && c ≤ 'Z') || ('a' ≤ c && c ≤ 'z') || ('0' ≤ c && c ≤ '9') || c == '_' || c == '.' ||
    c == '$'

/-- `[0-9A-Fa-f]` -/
def hexDigit (c : Char) : Bool :=
  ('0' ≤ c && c ≤ '9') || ('A' ≤ c && c ≤ 'F') || ('a' ≤ c && c ≤ 'f')

def WellFormedName (name : List Char) : Prop := name ≠ [] ∧ ∀ c ∈ name, nameChar c

/-- `0x` and at least one digit. -/
def WellFormedValue (value : List Char) : Prop :=
  ∃ digits, value = '0' :: 'x' :: digits ∧ digits ≠ [] ∧ ∀ c ∈ digits, hexDigit c

/-- The script read back: a `PROVIDE` in each line behind the comments. -/
def reparse (script : List Char) : Option (List (List Char × List Char)) :=
  ((lines script).drop 2).mapM fun line => do
    let inside ← stripPrefix line ['P', 'R', 'O', 'V', 'I', 'D', 'E', '(']
    let body ← stripSuffix inside [')', ';']
    splitOnce equals body

theorem assignment_eq_some {line name value : List Char} :
    assignment line = some (name, value) ↔ Assigns line name value := by
  simp only [assignment, Option.bind_eq_some_iff, stripSuffix_eq_some, splitOnce_eq_some]
  constructor
  · rintro ⟨body, whole, rfl, first⟩
    exact ⟨whole, first⟩
  · rintro ⟨whole, first⟩
    exact ⟨name ++ equals ++ value, whole, rfl, first⟩

theorem listed_entriesOf (table : List (List Char)) : Listed table (entriesOf table) := by
  induction table with
  | nil => exact .nil
  | cons line rest ih =>
    unfold entriesOf
    cases found : assignment line with
    | none =>
      rw [List.filterMap_cons_none found]
      apply Listed.other _ ih
      intro name value assigns
      rw [assignment_eq_some.mpr assigns] at found
      cases found
    | some entry =>
      rw [List.filterMap_cons_some found]
      exact .assigned (assignment_eq_some.mp found) ih

theorem nameChar_ascii (c : Char) (passed : nameChar c) : c.toNat < 128 := by
  simp only [nameChar, Bool.or_eq_true, Bool.and_eq_true, decide_eq_true_eq, beq_iff_eq,
    Char.le_def, UInt32.le_iff_toNat_le] at passed
  rcases passed with ((range | rfl) | rfl) | rfl
  · have : c.toNat = c.val.toNat := rfl
    grind
  · decide
  · decide
  · decide

theorem hexDigit_ascii (c : Char) (passed : hexDigit c) : c.toNat < 128 := by
  simp only [hexDigit, Bool.or_eq_true, Bool.and_eq_true, decide_eq_true_eq, Char.le_def,
    UInt32.le_iff_toNat_le] at passed
  have : c.toNat = c.val.toNat := rfl
  grind

theorem nameBytes (name : List Char) : (bytes name).all nameByte = name.all nameChar :=
  bytes_all (by decide +kernel) (by decide +kernel) nameChar_ascii name

theorem hexBytes (digits : List Char) :
    (bytes digits).all isAsciiHexdigit = digits.all hexDigit :=
  bytes_all (by decide +kernel) (by decide +kernel) hexDigit_ascii digits

theorem nameAsserted_iff {name : List Char} : nameAsserted name ↔ WellFormedName name := by
  rw [nameAsserted, nameBytes, WellFormedName]
  simp

theorem bare_not_wellFormed : ¬ WellFormedValue ['0', 'x'] := by
  rintro ⟨digits, whole, some, _⟩
  apply some
  simpa using whole.symm

/-- The check of a value lets the literal without digits through. -/
theorem valueAsserted_iff {value : List Char} :
    valueAsserted value ↔ value = ['0', 'x'] ∨ WellFormedValue value := by
  rw [valueAsserted, hexBytes, Bool.and_eq_true, List.isPrefixOf_iff_prefix, List.all_eq_true]
  constructor
  · rintro ⟨⟨digits, rfl⟩, all⟩
    cases digits with
    | nil => exact .inl rfl
    | cons d digits => exact .inr ⟨d :: digits, rfl, List.cons_ne_nil d digits, all⟩
  · rintro (rfl | ⟨digits, rfl, _, all⟩)
    · exact ⟨List.prefix_refl _, by simp⟩
    · exact ⟨⟨digits, rfl⟩, all⟩

/-- The characters of checked entries. -/
def Plain (s : List Char) : Prop := ∀ c ∈ s, nameChar c

theorem hexDigit_plain : ∀ c, hexDigit c → nameChar c := by
  intro c digit
  simp only [hexDigit, nameChar, Bool.or_eq_true, Bool.and_eq_true, decide_eq_true_eq,
    Char.le_def, UInt32.le_iff_toNat_le] at digit ⊢
  grind

theorem asserted_plain {entry : List Char × List Char} (asserted : Asserted entry) :
    Plain entry.1 ∧ Plain entry.2 := by
  obtain ⟨digits, whole, all⟩ : ∃ digits, entry.2 = '0' :: 'x' :: digits ∧
      ∀ c ∈ digits, hexDigit c := by
    rcases valueAsserted_iff.mp asserted.2 with bare | ⟨digits, whole, _, all⟩
    · exact ⟨[], bare, fun _ none => absurd none List.not_mem_nil⟩
    · exact ⟨digits, whole, all⟩
  refine ⟨(nameAsserted_iff.mp asserted.1).2, ?_⟩
  rw [whole]
  intro c there
  rcases List.mem_cons.mp there with rfl | there
  · decide
  · rcases List.mem_cons.mp there with rfl | there
    · decide
    · exact hexDigit_plain c (all c there)

theorem provide_isLine {name value : List Char} (plain : Plain name ∧ Plain value) :
    IsLine (provide name value) := by
  constructor
  · intro there
    simp only [provide, List.mem_append] at there
    rcases there with (((front | inName) | between) | inValue) | back
    · revert front
      decide
    · have := plain.1 _ inName
      revert this
      decide
    · revert between
      decide
    · have := plain.2 _ inValue
      revert this
      decide
    · revert back
      decide
  · rintro ⟨front, whole⟩
    have ends : provide name value = (['P', 'R', 'O', 'V', 'I', 'D', 'E', '('] ++ name ++
        equals ++ value ++ [')']) ++ [';'] := by
      simp [provide]
    have last := (List.append_inj' (whole.trans ends) rfl).2
    revert last
    decide

theorem header_isLine : ∀ line ∈ header, IsLine line := by
  decide +kernel

/-- The line of an entry is read back. -/
theorem reparse_provide {name value : List Char} (plain : Plain name) :
    (do
      let inside ← stripPrefix (provide name value) ['P', 'R', 'O', 'V', 'I', 'D', 'E', '(']
      let body ← stripSuffix inside [')', ';']
      splitOnce equals body) = some (name, value) := by
  have clear : ' ' ∉ name := by
    intro there
    have := plain ' ' there
    revert this
    decide
  have front : provide name value = ['P', 'R', 'O', 'V', 'I', 'D', 'E', '('] ++
      (name ++ equals ++ value ++ [')', ';']) := by
    simp [provide]
  rw [front, stripPrefix_append, Slice.some_bind, stripSuffix_append, Slice.some_bind]
  exact splitOnce_append clear ['=', ' '] value

/-- Comments and provided lines, read back. -/
theorem reparse_lines {comments : List (List Char)} {entries : List (List Char × List Char)}
    (two : comments.length = 2) (whole : ∀ line ∈ comments, IsLine line)
    (plain : ∀ e ∈ entries, Plain e.1 ∧ Plain e.2) :
    reparse (written comments ++ written (entries.map fun e => provide e.1 e.2)) =
      some entries := by
  have all_whole : ∀ line ∈ comments ++ entries.map (fun e => provide e.1 e.2), IsLine line := by
    intro line there
    rcases List.mem_append.mp there with comment | provided
    · exact whole line comment
    · obtain ⟨e, he, rfl⟩ := List.mem_map.mp provided
      exact provide_isLine (plain e he)
  have back : ∀ e ∈ entries, ∃ read, (do
      let inside ← stripPrefix (provide e.1 e.2) ['P', 'R', 'O', 'V', 'I', 'D', 'E', '(']
      let body ← stripSuffix inside [')', ';']
      splitOnce equals body) = some read ∧ e = read := by
    intro e he
    exact ⟨e, reparse_provide (plain e he).1, rfl⟩
  obtain ⟨read, run, same⟩ := Slice.mapM_some back
  rw [reparse, ← written_append, written, lines_flatMap all_whole, List.drop_left' two,
    List.mapM_map]
  rw [List.forall₂_eq_eq_eq] at same
  exact same ▸ run

theorem reparse_written {entries : List (List Char × List Char)}
    (asserted : ∀ e ∈ entries, Asserted e) :
    reparse (written header ++ written (entries.map fun e => provide e.1 e.2)) =
      some entries :=
  reparse_lines rfl header_isLine fun e he => asserted_plain (asserted e he)

/-- What the table's script is for. -/
structure Meets (text : List Char) : Prop where
  generated : ∀ script, writeRomFallbacks text = .ok script → ∃ entries,
    Listed (lines text) entries ∧
    script = written (header ++ entries.map fun e => provide e.1 e.2) ∧
    reparse script = some entries ∧ ∀ e ∈ entries, WellFormedName e.1 ∧ WellFormedValue e.2
  refused : ∀ line ∈ lines text, ∀ name value, Assigns line name value →
    ¬ (WellFormedName name ∧ WellFormedValue value) →
    ∃ panic, writeRomFallbacks text = .error panic

theorem entries_of_ok {text script : List Char} (run : writeRomFallbacks text = .ok script) :
    (∀ e ∈ entriesOf (lines text), Asserted e) ∧
      script = written header ++ written ((entriesOf (lines text)).map fun e =>
        provide e.1 e.2) := by
  have asserted : ∀ e ∈ entriesOf (lines text), Asserted e := by
    intro e there
    by_contra wrong
    obtain ⟨panic, stopped⟩ := pushLines_panics there wrong (written header)
    rw [writeRomFallbacks, stopped] at run
    cases run
  refine ⟨asserted, ?_⟩
  rw [writeRomFallbacks, pushLines_ok asserted] at run
  exact (Except.ok.inj run).symm

theorem mem_entriesOf {table : List (List Char)} {name value : List Char} :
    (name, value) ∈ entriesOf table ↔ ∃ line ∈ table, Assigns line name value := by
  simp [entriesOf, List.mem_filterMap, assignment_eq_some]

theorem panics_of_refused {text line name value : List Char} (there : line ∈ lines text)
    (assigns : Assigns line name value) (wrong : ¬ (nameAsserted name ∧ valueAsserted value)) :
    ∃ panic, writeRomFallbacks text = .error panic := by
  have entry := mem_entriesOf.mpr ⟨line, there, assigns⟩
  exact pushLines_panics entry wrong (written header)

section
variable {text : List Char} (none : ∀ line ∈ lines text, ∀ name, ¬ Assigns line name ['0', 'x'])
include none

/-- Where no value is bare, what passes is well formed. -/
theorem formed_of_asserted {line name value : List Char} (there : line ∈ lines text)
    (assigns : Assigns line name value) (asserted : nameAsserted name ∧ valueAsserted value) :
    WellFormedName name ∧ WellFormedValue value := by
  refine ⟨nameAsserted_iff.mp asserted.1, ?_⟩
  rcases valueAsserted_iff.mp asserted.2 with rfl | formed
  · exact absurd assigns (none line there name)
  · exact formed

theorem meets_of_no_bare : Meets text := by
  constructor
  · intro script run
    obtain ⟨asserted, whole⟩ := entries_of_ok run
    refine ⟨entriesOf (lines text), listed_entriesOf _, ?_, ?_, ?_⟩
    · rw [whole, written_append]
    · rw [whole, reparse_written asserted]
    · intro e he
      obtain ⟨line, there, assigns⟩ := mem_entriesOf.mp he
      exact formed_of_asserted none there assigns (asserted e he)
  · intro line there name value assigns degenerate
    apply panics_of_refused there assigns
    intro asserted
    exact degenerate (formed_of_asserted none there assigns asserted)

end

theorem meets_of_panic {text : List Char} {panic : Panic}
    (stopped : writeRomFallbacks text = .error panic) : Meets text := by
  constructor
  · intro script run
    rw [stopped] at run
    cases run
  · intro _ _ _ _ _ _
    exact ⟨panic, stopped⟩

/-- The script is as it should be unless a bare `0x` gets through. -/
theorem writeRomFallbacks_meets_iff (text : List Char) :
    Meets text ↔
      (∀ line ∈ lines text, ∀ name, ¬ Assigns line name ['0', 'x']) ∨
        ∃ line ∈ lines text, ∃ name value, Assigns line name value ∧
          ¬ (nameAsserted name ∧ valueAsserted value) := by
  constructor
  · intro meets
    by_contra neither
    simp only [not_or, not_forall, not_exists, not_and, not_not, exists_prop] at neither
    obtain ⟨⟨line, there, name, bare⟩, passed⟩ := neither
    have degenerate : ¬ (WellFormedName name ∧ WellFormedValue ['0', 'x']) :=
      fun formed => bare_not_wellFormed formed.2
    obtain ⟨panic, stopped⟩ := meets.refused line there name _ bare degenerate
    have asserted : ∀ e ∈ entriesOf (lines text), Asserted e := by
      intro e he
      obtain ⟨other, mem, assigns⟩ := mem_entriesOf.mp he
      exact passed other mem e.1 e.2 assigns
    rw [writeRomFallbacks, pushLines_ok asserted] at stopped
    cases stopped
  · rintro (none | ⟨line, there, name, value, assigns, wrong⟩)
    · exact meets_of_no_bare none
    · obtain ⟨panic, stopped⟩ := panics_of_refused there assigns wrong
      exact meets_of_panic stopped

/-- `a = 0x;` is provided. -/
theorem bare_value_provided : ¬ Meets ['a', ' ', '=', ' ', '0', 'x', ';'] := by
  intro meets
  have assigns : Assigns ['a', ' ', '=', ' ', '0', 'x', ';'] ['a'] ['0', 'x'] :=
    assignment_eq_some.mp (by decide +kernel)
  have degenerate : ¬ (WellFormedName ['a'] ∧ WellFormedValue ['0', 'x']) :=
    fun formed => bare_not_wellFormed formed.2
  obtain ⟨panic, stopped⟩ := meets.refused _ (by decide +kernel) _ _ assigns degenerate
  have written : writeRomFallbacks ['a', ' ', '=', ' ', '0', 'x', ';'] = .ok (written
      (header ++ [provide ['a'] ['0', 'x']])) := by decide +kernel
  rw [written] at stopped
  cases stopped

end Ws63Examples.InitSmoke.RomFallbacks
