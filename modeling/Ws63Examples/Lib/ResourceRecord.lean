import Ws63Examples.Lib.Bits

/-!
# DNS resource records

The grammar of a record as a set of byte strings. No record is the beginning of
another, so that a string begins with at most one.
-/

namespace Ws63Examples.ResourceRecord

open Bits

/-- Labels, each behind its length, up to the root or a compression pointer. -/
inductive OwnerName : List UInt8 → Prop
  | root : OwnerName [0]
  | pointer (high low : UInt8) (marked : 192 ≤ high) : OwnerName [high, low]
  | label (length : UInt8) (bytes name : List UInt8) (nonempty : 0 < length) (short : length < 64)
      (whole : bytes.length = length.toNat) (rest : OwnerName name) :
      OwnerName (length :: (bytes ++ name))

/-- An owner name, eight bytes of type, class and time to live, and data behind
its length. -/
inductive Record : List UInt8 → Prop
  | complete (name fixed data : List UInt8) (high low : UInt8) (owner : OwnerName name)
      (short : name.length ≤ 255) (eight : fixed.length = 8)
      (whole : data.length = (fromBeBytes high low).toNat) :
      Record (name ++ (fixed ++ (high :: low :: data)))

/-- A whole record stands at the front. -/
def Leads (bytes : List UInt8) : Prop := ∃ record, Record record ∧ record <+: bytes

theorem OwnerName.ne_nil {name : List UInt8} (h : OwnerName name) : name ≠ [] := by
  cases h <;> exact List.cons_ne_nil _ _

theorem Record.ne_nil {record : List UInt8} (h : Record record) : record ≠ [] := by
  cases h with
  | complete name fixed data high low owner => simp [owner.ne_nil]

/-- A name ends where its own bytes say. -/
theorem OwnerName.unique {name name' a b : List UInt8} (h : OwnerName name)
    (h' : OwnerName name') (same : name ++ a = name' ++ b) : name = name' ∧ a = b := by
  induction h generalizing name' a b with
  | root =>
    cases h' with
    | root => exact ⟨rfl, List.append_cancel_left same⟩
    | pointer high low marked =>
      obtain rfl : 0 = high := (List.cons.inj same).1
      exact absurd marked (by decide)
    | label length bytes name nonempty =>
      obtain rfl : 0 = length := (List.cons.inj same).1
      exact absurd nonempty (by decide)
  | pointer high low marked =>
    cases h' with
    | root =>
      obtain rfl : high = 0 := (List.cons.inj same).1
      exact absurd marked (by decide)
    | pointer high' low' =>
      simp only [List.cons_append, List.nil_append, List.cons.injEq] at same
      obtain ⟨rfl, rfl, rest⟩ := same
      exact ⟨rfl, rest⟩
    | label length bytes name nonempty short =>
      obtain rfl : high = length := (List.cons.inj same).1
      exact absurd (UInt8.lt_of_le_of_lt marked short) (by decide)
  | label length bytes name nonempty short whole rest ih =>
    cases h' with
    | root =>
      obtain rfl : length = 0 := (List.cons.inj same).1
      exact absurd nonempty (by decide)
    | pointer high low marked =>
      obtain rfl : length = high := (List.cons.inj same).1
      exact absurd (UInt8.lt_of_le_of_lt marked short) (by decide)
    | label length' bytes' name' nonempty' short' whole' rest' =>
      simp only [List.cons_append, List.append_assoc, List.cons.injEq] at same
      obtain ⟨rfl, labels⟩ := same
      obtain ⟨rfl, names⟩ := List.append_inj labels (whole.trans whole'.symm)
      obtain ⟨rfl, behind⟩ := ih rest' names
      exact ⟨rfl, behind⟩

/-- So does a record. -/
theorem Record.unique {record record' a b : List UInt8} (h : Record record)
    (h' : Record record') (same : record ++ a = record' ++ b) : record = record' := by
  cases h with
  | complete name fixed data high low owner short eight whole =>
    cases h' with
    | complete name' fixed' data' high' low' owner' short' eight' whole' =>
      simp only [List.append_assoc, List.cons_append] at same
      obtain ⟨rfl, behind⟩ := owner.unique owner' same
      obtain ⟨rfl, counted⟩ := List.append_inj behind (eight.trans eight'.symm)
      simp only [List.cons.injEq] at counted
      obtain ⟨rfl, rfl, carried⟩ := counted
      obtain ⟨rfl, -⟩ := List.append_inj carried (whole.trans whole'.symm)
      rfl

theorem not_leads_nil : ¬ Leads [] := by
  rintro ⟨record, complete, front⟩
  exact complete.ne_nil (List.prefix_nil.mp front)

/-- What is left of a record that was cut holds no record. -/
theorem Record.not_leads_take {record : List UInt8} (h : Record record) {cut : Nat}
    (inside : cut < record.length) : ¬ Leads (record.take cut) := by
  rintro ⟨shorter, complete, front⟩
  obtain ⟨rest, split⟩ := front.trans (List.take_prefix cut record)
  have same : shorter = record := complete.unique h (split.trans (List.append_nil record).symm)
  have := front.length_le
  rw [same, List.length_take] at this
  omega

end Ws63Examples.ResourceRecord
