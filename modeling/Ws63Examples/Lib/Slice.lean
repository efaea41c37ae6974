import Mathlib.Algebra.Order.Ring.Nat
import Mathlib.Data.List.Forall2

/-!
# Slices

Reading and filling index ranges of byte strings, where a range that does not
fit panics: `none`.
-/

namespace Ws63Examples.Slice

/-- One write of several done. -/
theorem some_bind {α β : Type} (a : α) (f : α → Option β) : (some a >>= f) = f a := rfl

/-- All of several reads done. -/
theorem mapM_some {α β : Type} {read : α → Option β} {R : α → β → Prop} {places : List α}
    (all : ∀ x ∈ places, ∃ y, read x = some y ∧ R x y) :
    ∃ ys, places.mapM read = some ys ∧ List.Forall₂ R places ys := by
  induction places with
  | nil => exact ⟨[], rfl, .nil⟩
  | cons x rest ih =>
    obtain ⟨y, first, related⟩ := all x List.mem_cons_self
    obtain ⟨ys, others, each⟩ := ih fun z hz => all z (List.mem_cons_of_mem x hz)
    refine ⟨y :: ys, ?_, .cons related each⟩
    rw [List.mapM_cons, first, some_bind, others, some_bind]
    rfl

/-- Reads that never fail. -/
theorem mapM_eq_map {α β : Type} {read : α → Option β} (value : α → β) {xs : List α}
    (each : ∀ x ∈ xs, read x = some (value x)) : xs.mapM read = some (xs.map value) := by
  induction xs with
  | nil => rfl
  | cons x xs ih =>
    rw [List.mapM_cons, each x List.mem_cons_self,
      ih fun y member => each y (List.mem_cons_of_mem x member)]
    rfl

section
variable {α : Type} {n : Nat}

/-- `&xs[a..b]` -/
def slice (xs : List α) (a b : Nat) : Option (List α) :=
  if a ≤ b ∧ b ≤ xs.length then some ((xs.take b).drop a) else none

/-- `dst[a..b].copy_from_slice(src)`: the lengths must agree. -/
def copyFromSlice (dst : Vector α n) (a b : Nat) (src : List α) : Option (Vector α n) :=
  if h : a ≤ b ∧ b ≤ n ∧ src.length = b - a then
    some (.ofFn fun i =>
      if hi : a ≤ i.val ∧ i.val < b then
        have : i.val - a < src.length := by omega
        src[i.val - a]
      else dst[i])
  else none

theorem slice_of_le (xs : List α) {a b : Nat} (h : a ≤ b) (hb : b ≤ xs.length) :
    slice xs a b = some ((xs.take b).drop a) := if_pos ⟨h, hb⟩

@[simp] theorem slice_prefix {xs : List α} {b : Nat} (h : b ≤ xs.length) :
    slice xs 0 b = some (xs.take b) := by
  simp [slice, h]

@[simp] theorem slice_suffix {xs : List α} {a : Nat} (h : a ≤ xs.length) :
    slice xs a xs.length = some (xs.drop a) := by
  simp [slice, h]

/-- From a place to the end of an array. -/
theorem slice_to_end (xs : Vector α n) {a : Nat} (inside : a ≤ n) :
    slice xs.toList a n = some (xs.toList.drop a) := by
  have length : xs.toList.length = n := Vector.length_toList
  rw [slice_of_le _ inside (Nat.le_of_eq length.symm), List.take_of_length_le (Nat.le_of_eq length)]

theorem copyFromSlice_isSome (dst : Vector α n) {a b : Nat} {src : List α} (h : a ≤ b)
    (hb : b ≤ n) (hs : src.length = b - a) : ∃ out, copyFromSlice dst a b src = some out := by
  simp [copyFromSlice, h, hb, hs]

/-- Inside the range the source, outside it what was there. -/
theorem copyFromSlice_get? {dst out : Vector α n} {a b : Nat} {src : List α}
    (h : copyFromSlice dst a b src = some out) (i : Nat) :
    out[i]? = if a ≤ i ∧ i < b then src[i - a]? else dst[i]? := by
  unfold copyFromSlice at h
  split at h
  · rename_i hr
    cases h
    by_cases hi : i < n
    · by_cases hab : a ≤ i ∧ i < b
      · have : i - a < src.length := by omega
        simp [hi, hab, this]
      · simp [hi, hab]
    · have : ¬ (a ≤ i ∧ i < b) := by omega
      simp [hi, this]
  · cases h

/-- The same as a list: what was before the range, the source, what was behind. -/
theorem copyFromSlice_toList (dst : Vector α n) {a b : Nat} {src : List α} (h : a ≤ b)
    (hb : b ≤ n) (hs : src.length = b - a) :
    ∃ out, copyFromSlice dst a b src = some out ∧
      out.toList = dst.toList.take a ++ src ++ dst.toList.drop b := by
  obtain ⟨out, hout⟩ := copyFromSlice_isSome dst h hb hs
  refine ⟨out, hout, List.ext_getElem? fun i => ?_⟩
  rw [Vector.getElem?_toList, copyFromSlice_get? hout]
  grind

/-- Copying over a middle part. -/
theorem copyFromSlice_middle {dst : Vector α n} {pre old src post : List α} {a b : Nat}
    (split : dst.toList = pre ++ old ++ post) (ha : pre.length = a) (hb : a + old.length = b)
    (hs : src.length = old.length) :
    ∃ out, copyFromSlice dst a b src = some out ∧ out.toList = pre ++ src ++ post := by
  have size := congrArg List.length split
  simp only [Vector.length_toList, List.length_append] at size
  have length : src.length = b - a := by omega
  obtain ⟨out, written, whole⟩ :=
    copyFromSlice_toList dst (a := a) (b := b) (by omega) (by omega) length
  have first : (pre ++ old ++ post).take a = pre := by
    rw [List.append_assoc, List.take_left' ha]
  have last : (pre ++ old ++ post).drop b = post :=
    List.drop_left' (by rw [List.length_append, ha, hb])
  exact ⟨out, written, by rw [whole, split, first, last]⟩

/-- `dst[i] = x` -/
def store (dst : Vector α n) (i : Nat) (x : α) : Option (Vector α n) :=
  copyFromSlice dst i (i + 1) [x]

theorem store_toList (dst : Vector α n) {i : Nat} (inside : i < n) (x : α) :
    ∃ out, store dst i x = some out ∧
      out.toList = dst.toList.take i ++ x :: dst.toList.drop (i + 1) := by
  obtain ⟨out, written, whole⟩ :=
    copyFromSlice_toList dst (Nat.le_succ i) inside (show [x].length = i + 1 - i by simp)
  exact ⟨out, written, by simpa using whole⟩

/-- What stands before a stored value, and from it on. -/
theorem store_ends (dst : Vector α n) {i : Nat} (inside : i < n) (x : α) :
    ∃ out, store dst i x = some out ∧ out.toList.take (i + 1) = dst.toList.take i ++ [x] ∧
      out.toList.drop i = x :: dst.toList.drop (i + 1) := by
  obtain ⟨out, stored, whole⟩ := store_toList dst inside x
  have front : (dst.toList.take i).length = i := by
    rw [List.length_take, Vector.length_toList]
    omega
  refine ⟨out, stored, ?_, ?_⟩
  · rw [whole, List.append_cons, List.take_left' (by rw [List.length_append, front]; rfl)]
  · rw [whole, List.drop_left' front]

/-- `dst[a..b].fill(x)` -/
def fill (dst : Vector α n) (a b : Nat) (x : α) : Option (Vector α n) :=
  copyFromSlice dst a b (.replicate (b - a) x)

theorem slice_middle {xs pre mid post : List α} {a b : Nat} (split : xs = pre ++ mid ++ post)
    (ha : pre.length = a) (hb : a + mid.length = b) : slice xs a b = some mid := by
  have size := congrArg List.length split
  simp only [List.length_append] at size
  have whole : (pre ++ mid).length = b := by rw [List.length_append, ha, hb]
  rw [slice_of_le xs (by omega) (by omega), split, List.take_left' whole, List.drop_left' ha]

/-- A field of a record laid out field by field. -/
theorem slice_flatten {fields : List (List α)} {field : List α} {k a b : Nat}
    (there : fields[k]? = some field) (ha : (fields.take k).flatten.length = a)
    (hb : a + field.length = b) : slice fields.flatten a b = some field := by
  have split : fields = fields.take k ++ field :: fields.drop (k + 1) := by
    obtain ⟨inside, rfl⟩ := List.getElem?_eq_some_iff.mp there
    rw [List.getElem_cons_drop, List.take_append_drop]
  have whole : fields.flatten =
      (fields.take k).flatten ++ field ++ (fields.drop (k + 1)).flatten := by
    conv_lhs => rw [split]
    rw [List.flatten_append, List.flatten_cons, List.append_assoc]
  exact slice_middle whole ha hb

end

end Ws63Examples.Slice
