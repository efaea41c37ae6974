import Mathlib.Data.List.Nodup
import Ws63Examples.InitSmoke.RomFallbacks

/-!
# The callbacks of the mask ROM

The second linker script gives every callback of the ROM's ordered list a weak target, under
the name that the wrapped references carry.
-/

namespace Ws63Examples.InitSmoke.RomCallbacks

open Text RomFallbacks

/-- `byte.is_ascii_alphanumeric() || byte == b'_'` -/
def callbackByte (byte : UInt8) : Bool := isAsciiAlphanumeric byte || byte == 0x5f

/-- Callbacks with a body of the firmware's own. -/
def redirected : List (List Char × List Char) :=
  [("__ashldi3".toList, "__ws63_ashldi3".toList), ("__udivdi3".toList, "__ws63_udivdi3".toList),
    ("__umoddi3".toList, "__ws63_umoddi3".toList), ("memcmp".toList, "__ws63_rom_memcmp".toList),
    ("memcpy".toList, "__ws63_rom_memcpy".toList), ("memmove".toList, "__ws63_rom_memmove".toList),
    ("memset".toList, "__ws63_rom_memset".toList), ("strlen".toList, "__ws63_rom_strlen".toList)]

/-- Callbacks that are symbols of the firmware as they stand. -/
def kept : List (List Char) :=
  ["log_event_print0".toList, "log_event_print1".toList, "log_event_print2".toList,
    "log_event_print3".toList, "log_event_print4".toList, "log_event_wifi_print0".toList,
    "log_event_wifi_print1".toList, "log_event_wifi_print2".toList,
    "log_event_wifi_print3".toList, "log_event_wifi_print4".toList, "osal_irq_clear".toList,
    "osal_irq_disable".toList, "osal_irq_enable".toList, "osal_irq_free".toList,
    "osal_irq_lock".toList, "osal_irq_request".toList, "osal_irq_restore".toList,
    "osal_irq_set_priority".toList, "osal_kfree".toList, "osal_kmalloc".toList,
    "osal_kthread_lock".toList, "osal_kthread_unlock".toList, "osal_timer_destroy".toList,
    "osal_timer_init".toList, "osal_timer_mod".toList, "osal_timer_stop".toList,
    "osal_udelay".toList, "osal_wait_uninterruptible".toList, "osal_wait_wakeup".toList,
    "panic".toList]

def missingRomCallback : List Char := "__ws63_missing_rom_callback".toList

def target (name : List Char) : List Char :=
  match redirected.lookup name with
  | some target => target
  | none => if name ∈ kept then name else missingRomCallback

/-- `__real_`, in front of a callback's name. -/
def real : List Char := "__real_".toList

def callbackHeader : List (List Char) :=
  ["/* Generated from the ordered WS63 mask-ROM callback ABI. */".toList,
    "/* A strong application symbol wins; an absent callback traps. */".toList]

/-- One turn of the loop. It panics over an invalid name. -/
def pushCallback (generated line : List Char) : Except (List Char) (List Char) :=
  let name := trim line
  if name = [] ∨ name.head? = some '#' then .ok generated
  else if (bytes name).all callbackByte then
    .ok (generated ++ written [provide (real ++ name) (target name)])
  else .error name

def writeRomCallbackFallbacks (sourceText : List Char) : Except (List Char) (List Char) :=
  (lines sourceText).foldlM pushCallback (written callbackHeader)

/-- The names on a list, its comments and blank lines apart. -/
def callbackNames (table : List (List Char)) : List (List Char) :=
  (table.map trim).filter fun name => name ≠ [] ∧ name.head? ≠ some '#'

/-- `[A-Za-z0-9_]` -/
def callbackChar (c : Char) : Bool :=
  ('A' ≤ c && c ≤ 'Z') || ('a' ≤ c && c ≤ 'z') || ('0' ≤ c && c ≤ '9') || c == '_'

def ValidName (name : List Char) : Prop := ∀ c ∈ name, callbackChar c

instance (name : List Char) : Decidable (ValidName name) :=
  decidable_of_iff (name.all callbackChar) List.all_eq_true

/-- The name that stops the loop. -/
def firstInvalid (names : List (List Char)) : Option (List Char) :=
  names.find? fun name => ¬ ValidName name

theorem callbackChar_plain : ∀ c, callbackChar c → nameChar c := by
  intro c valid
  simp only [callbackChar, nameChar, Bool.or_eq_true] at valid ⊢
  exact .inl (.inl valid)

theorem callbackBytes {name : List Char} : (bytes name).all callbackByte ↔ ValidName name := by
  have same : (bytes name).all callbackByte = name.all callbackChar :=
    bytes_all (by decide +kernel) (by decide +kernel)
      (fun c valid => nameChar_ascii c (callbackChar_plain c valid)) name
  rw [same, List.all_eq_true, ValidName]

section
variable {generated line script : List Char} {table : List (List Char)}

theorem pushCallback_other (other : trim line = [] ∨ (trim line).head? = some '#') :
    pushCallback generated line = .ok generated := if_pos other

theorem pushCallback_valid (listed : ¬ (trim line = [] ∨ (trim line).head? = some '#'))
    (valid : ValidName (trim line)) : pushCallback generated line =
      .ok (generated ++ written [provide (real ++ trim line) (target (trim line))]) := by
  simp only [pushCallback, listed, if_false, callbackBytes.mpr valid, if_true]

theorem pushCallback_invalid (listed : ¬ (trim line = [] ∨ (trim line).head? = some '#'))
    (invalid : ¬ ValidName (trim line)) : pushCallback generated line = .error (trim line) := by
  have failed : ¬ (bytes (trim line)).all callbackByte := fun passed =>
    invalid (callbackBytes.mp passed)
  exact (if_neg listed).trans (if_neg failed)

theorem callbackNames_other (other : trim line = [] ∨ (trim line).head? = some '#') :
    callbackNames (line :: table) = callbackNames table := by
  have out : ¬ (trim line ≠ [] ∧ (trim line).head? ≠ some '#') := by
    rw [not_and_or, not_not, not_not]
    exact other
  rw [callbackNames, List.map_cons, List.filter_cons_of_neg (by simpa using out), callbackNames]

theorem callbackNames_listed (listed : ¬ (trim line = [] ∨ (trim line).head? = some '#')) :
    callbackNames (line :: table) = trim line :: callbackNames table := by
  have both := not_or.mp listed
  rw [callbackNames, List.map_cons, List.filter_cons_of_pos (by simpa using both), callbackNames]

/-- What the loop makes of the names on a list. -/
inductive Provided (generated : List Char) (names : List (List Char)) :
    Except (List Char) (List Char) → Prop where
  | all (valid : ∀ name ∈ names, ValidName name) : Provided generated names
      (.ok (generated ++ written (names.map fun name => provide (real ++ name) (target name))))
  | panics {name : List Char} (first : firstInvalid names = some name) :
      Provided generated names (.error name)

theorem Provided.step {name : List Char} {names : List (List Char)}
    {result : Except (List Char) (List Char)} (valid : ValidName name)
    (rest : Provided (generated ++ written [provide (real ++ name) (target name)]) names result) :
    Provided generated (name :: names) result := by
  cases rest with
  | all others =>
    rw [List.append_assoc, ← written_append, List.singleton_append]
    exact .all (List.forall_mem_cons.mpr ⟨valid, others⟩)
  | panics first =>
    apply Provided.panics
    rw [firstInvalid, List.find?_cons_of_neg (by simpa using valid)]
    exact first

theorem pushCallbacks_provided (generated : List Char) (table : List (List Char)) :
    Provided generated (callbackNames table) (table.foldlM pushCallback generated) := by
  induction table generalizing generated with
  | nil =>
    have none : Provided generated [] (.ok (generated ++ [])) :=
      .all fun name there => absurd there List.not_mem_nil
    rwa [List.append_nil] at none
  | cons line rest ih =>
    rw [List.foldlM_cons]
    by_cases other : trim line = [] ∨ (trim line).head? = some '#'
    · rw [callbackNames_other other, pushCallback_other other]
      exact ih generated
    · rw [callbackNames_listed other]
      by_cases valid : ValidName (trim line)
      · rw [pushCallback_valid other valid]
        exact (ih _).step valid
      · rw [pushCallback_invalid other valid]
        exact .panics (List.find?_cons_of_pos (by simpa using valid))

end

/-- The callbacks with a target of their own. -/
def known : List (List Char × List Char) := redirected ++ kept.map fun name => (name, name)

theorem known_targets : (known.map Prod.snd).Nodup := by
  decide +kernel

theorem known_target {p : List Char × List Char} (member : p ∈ known) :
    p.2 ≠ missingRomCallback ∧ ¬ real <+: p.2 ∧ p.2.all nameChar := by
  have every : ∀ p ∈ known, p.2 ≠ missingRomCallback ∧ ¬ real <+: p.2 ∧ p.2.all nameChar := by
    decide +kernel
  exact every p member

theorem target_cases (name : List Char) :
    target name = missingRomCallback ∨ (name, target name) ∈ known := by
  unfold target
  split
  · rename_i other found
    obtain ⟨before, after, whole, -⟩ := List.lookup_eq_some_iff.mp found
    right
    simp [known, whole]
  · split
    · rename_i member
      right
      exact List.mem_append_right redirected (List.mem_map.mpr ⟨name, member, rfl⟩)
    · exact .inl rfl

/-- No two callbacks share a target but the trap. -/
theorem target_injective {a b : List Char} (same : target a = target b) :
    a = b ∨ target a = missingRomCallback := by
  rcases target_cases a with absent | there
  · exact .inr absent
  · rcases target_cases b with absent | other
    · exact .inr (same.trans absent)
    · left
      exact congrArg Prod.fst (List.inj_on_of_nodup_map known_targets there other same)

/-- A target is not an alias itself: one step resolves a callback. -/
theorem target_not_real (name : List Char) : ¬ real <+: target name := by
  rcases target_cases name with absent | there
  · rw [absent]
    decide +kernel
  · exact (known_target there).2.1

theorem target_plain (name : List Char) : Plain (target name) := by
  rcases target_cases name with absent | there
  · have every : missingRomCallback.all nameChar := by decide +kernel
    rw [absent]
    exact List.all_eq_true.mp every
  · exact List.all_eq_true.mp (known_target there).2.2

theorem real_plain {name : List Char} (valid : ValidName name) : Plain (real ++ name) := by
  have front : real.all nameChar := by decide +kernel
  intro c member
  rcases List.mem_append.mp member with inFront | inName
  · exact List.all_eq_true.mp front c inFront
  · exact callbackChar_plain c (valid c inName)

theorem callbackHeader_isLine : ∀ line ∈ callbackHeader, IsLine line := by
  decide +kernel

theorem reparse_callbacks {names : List (List Char)} (valid : ∀ name ∈ names, ValidName name) :
    reparse (written callbackHeader ++
      written (names.map fun name => provide (real ++ name) (target name))) =
        some (names.map fun name => (real ++ name, target name)) := by
  have plain : ∀ e ∈ names.map (fun name => (real ++ name, target name)),
      Plain e.1 ∧ Plain e.2 := by
    intro e member
    obtain ⟨name, there, rfl⟩ := List.mem_map.mp member
    exact ⟨real_plain (valid name there), target_plain name⟩
  have read := reparse_lines rfl callbackHeader_isLine plain
  rwa [List.map_map] at read

/-- The list is refused over its first invalid name. Else the script, read back as the linker
reads it, has the callbacks in order with their targets: no target is an alias again, and
only the trap serves two callbacks. -/
theorem rom_callbacks (text : List Char) :
    (∀ name, writeRomCallbackFallbacks text = .error name ↔
      firstInvalid (callbackNames (lines text)) = some name) ∧
    ∀ script, writeRomCallbackFallbacks text = .ok script → ∃ entries,
      reparse script = some entries ∧
      entries = (callbackNames (lines text)).map (fun name => (real ++ name, target name)) ∧
      ∀ p ∈ entries, ∀ q ∈ entries, p.1 ≠ q.2 ∧
        (p.2 = q.2 → p.1 = q.1 ∨ p.2 = missingRomCallback) := by
  have provided := pushCallbacks_provided (written callbackHeader) (lines text)
  rw [← writeRomCallbackFallbacks] at provided
  generalize writeRomCallbackFallbacks text = result at provided
  cases provided with
  | all valid =>
    constructor
    · intro name
      constructor
      · intro stopped
        cases stopped
      · intro first
        have invalid := List.find?_some first
        exact absurd (valid name (List.mem_of_find?_eq_some first)) (by simpa using invalid)
    · rintro script ⟨⟩
      refine ⟨_, reparse_callbacks valid, rfl, ?_⟩
      intro p member q other
      obtain ⟨a, -, rfl⟩ := List.mem_map.mp member
      obtain ⟨b, -, rfl⟩ := List.mem_map.mp other
      constructor
      · intro aliased
        exact target_not_real b ⟨a, aliased⟩
      · intro same
        rcases target_injective same with rfl | absent
        · exact .inl rfl
        · exact .inr absent
  | panics first =>
    constructor
    · intro name
      rw [first]
      constructor
      · rintro ⟨⟩
        rfl
      · rintro ⟨⟩
        rfl
    · intro script written
      cases written

end Ws63Examples.InitSmoke.RomCallbacks
