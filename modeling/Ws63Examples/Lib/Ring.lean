import Mathlib.Data.List.DropRight
import Ws63Examples.Lib.Slice

/-!
# Rings

The occupied window of a fixed array read circularly, as a list:

* `window_drop`: advancing the start drops the oldest elements;
* `window_fill`: the two copies of a wrapped write append to the window;
* `window_read`: the two slices of a wrapped read are a part of the window;
* `Reader`: what someone who reads the window piece by piece has seen of the
  whole stream while the window moves under the reading.
-/

namespace Ws63Examples.Ring

open Slice

/-- Reduction of an index that passed the end of the array at most once. -/
theorem wrap_eq {n a : Nat} (h : a < 2 * n) : a % n = if a < n then a else a - n := by
  split
  · rename_i lt
    exact Nat.mod_eq_of_lt lt
  · rename_i ge
    rw [Nat.mod_eq_sub_mod (by omega), Nat.mod_eq_of_lt (by omega)]

section
variable {α : Type} {n : Nat} [NeZero n]

/-- `len` cells from `start`, wrapping at the end of the array. -/
def window (cells : Vector α n) (start len : Nat) : List α :=
  (List.range len).map fun k => cells[Fin.ofNat n (start + k)]

@[simp] theorem window_length (cells : Vector α n) (start len : Nat) :
    (window cells start len).length = len := by
  simp [window]

@[simp] theorem window_zero (cells : Vector α n) (start : Nat) : window cells start 0 = [] := rfl

theorem window_get? (cells : Vector α n) (start len k : Nat) :
    (window cells start len)[k]? = if k < len then cells[(start + k) % n]? else none := by
  have : (start + k) % n < n := Nat.mod_lt _ (Nat.pos_of_neZero n)
  by_cases hk : k < len <;> simp [window, hk, this]

theorem window_drop (cells : Vector α n) (start len k : Nat) :
    window cells ((start + k) % n) (len - k) = (window cells start len).drop k := by
  apply List.ext_getElem?
  intro i
  simp only [window_get?, List.getElem?_drop, Nat.mod_add_mod, Nat.add_assoc]
  grind

theorem window_fill {cells upper both : Vector α n} {start len : Nat} {xs : List α}
    (hs : start < n) (room : len + xs.length ≤ n)
    (h₁ : copyFromSlice cells ((start + len) % n)
      ((start + len) % n + min xs.length (n - (start + len) % n))
      (xs.take (min xs.length (n - (start + len) % n))) = some upper)
    (h₂ : copyFromSlice upper 0 (xs.length - min xs.length (n - (start + len) % n))
      (xs.drop (min xs.length (n - (start + len) % n))) = some both) :
    window both start (len + xs.length) = window cells start len ++ xs := by
  apply List.ext_getElem?
  intro k
  rw [List.getElem?_append, window_length, window_get?, window_get?,
    copyFromSlice_get? h₂, copyFromSlice_get? h₁, List.getElem?_drop, List.getElem?_take]
  by_cases hk : k < len + xs.length
  · rw [wrap_eq (show start + len < 2 * n by omega), wrap_eq (show start + k < 2 * n by omega)]
    grind
  · simp only [hk, if_false, show ¬ k < len by omega]
    exact (List.getElem?_eq_none (by omega)).symm

theorem window_read (cells : Vector α n) {start len offset count : Nat} (hs : start < n)
    (hl : len ≤ n) (hc : offset + count ≤ len) :
    (cells.toList.take ((start + offset) % n + min count (n - (start + offset) % n))).drop
        ((start + offset) % n) ++
      cells.toList.take (count - min count (n - (start + offset) % n)) =
    ((window cells start len).drop offset).take count := by
  apply List.ext_getElem?
  intro k
  rw [List.getElem?_append, List.length_drop, List.length_take, Vector.length_toList,
    List.getElem?_drop, List.getElem?_take, List.getElem?_take, List.getElem?_take,
    List.getElem?_drop, window_get?]
  by_cases hk : k < count
  · rw [wrap_eq (show start + offset < 2 * n by omega),
      wrap_eq (show start + (offset + k) < 2 * n by omega)]
    grind
  · grind

end

section
variable {α : Type}

/-- Of the whole stream only the last `len` elements are retained, and the
reader of `out` goes on behind the first `out.length` of them. -/
structure Reader (stream : List α) (len : Nat) (out : List α) : Prop where
  len_le : len ≤ stream.length
  inside : out.length ≤ len
  ordered : out.Sublist (stream.take (stream.length - len + out.length))

theorem Reader.start {stream : List α} {len : Nat} (h : len ≤ stream.length) :
    Reader stream len [] :=
  ⟨h, Nat.zero_le _, List.nil_sublist _⟩

/-- The window moves forward: what was read stays an ordered part of the stream. -/
theorem Reader.grow {stream out : List α} {len len' : Nat} (h : Reader stream len out)
    (xs : List α) (wider : len ≤ len') (fits : len' ≤ (stream ++ xs).length)
    (lost : stream.length - len ≤ (stream ++ xs).length - len') :
    Reader (stream ++ xs) len' out where
  len_le := fits
  inside := Nat.le_trans h.inside wider
  ordered := by
    apply h.ordered.trans
    have shorter : stream.take (stream.length - len + out.length) <+:
        (stream ++ xs).take (stream.length - len + out.length) := by
      rw [List.take_append]
      exact List.prefix_append _ _
    exact shorter.sublist.trans (List.take_prefix_take_left (by omega)).sublist

/-- The next elements of the window are read. -/
theorem Reader.read {stream out : List α} {len n : Nat} (h : Reader stream len out)
    (hn : out.length + n ≤ len) :
    Reader stream len (out ++ (stream.drop (stream.length - len + out.length)).take n) := by
  have hlen := h.len_le
  have more : ((stream.drop (stream.length - len + out.length)).take n).length = n := by
    simp
    omega
  refine ⟨hlen, by simpa [more] using hn, ?_⟩
  rw [List.length_append, more, ← Nat.add_assoc, List.take_add]
  exact h.ordered.append (List.Sublist.refl _)

/-- While the window rests, what was read is its beginning. -/
theorem prefix_read {w out : List α} (h : out <+: w) (n : Nat) :
    out ++ (w.drop out.length).take n <+: w := by
  obtain ⟨rest, rfl⟩ := h
  rw [List.drop_left]
  exact (List.prefix_append_right_inj out).mpr (List.take_prefix n rest)

end

end Ws63Examples.Ring
