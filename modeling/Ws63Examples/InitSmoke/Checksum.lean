import Ws63Examples.InitSmoke.PingSeries
import Ws63Examples.Lib.Loop
import Ws63Examples.Lib.OnesComplement

/-! The Internet checksum as `main.rs` computes it. -/

namespace Ws63Examples.InitSmoke

open Loop Word

def u16Max : Nat := 2 ^ 16 - 1

/-- `as_chunks::<2>` -/
def asChunks : List UInt8 → List (UInt8 × UInt8) × List UInt8
  | hi :: lo :: rest => ((hi, lo) :: (asChunks rest).1, (asChunks rest).2)
  | remainder => ([], remainder)

/-- The `for` loop over the chunks; `none` is an overflow. -/
def addChunks (sum : Nat) : List (UInt8 × UInt8) → Option Nat
  | [] => some sum
  | (hi, lo) :: chunks => do
    let sum ← checkedAdd u32Max sum (Bits.fromBeBytes hi lo).toNat
    addChunks sum chunks

def addRemainder (sum : Nat) (remainder : List UInt8) : Option Nat :=
  match remainder.head? with
  | some last => checkedAdd u32Max sum (last.toNat <<< 8)
  | none => some sum

/-- The body of the `while` loop. -/
def foldSum (sum : Nat) : Option (Nat × List Empty) :=
  (checkedAdd u32Max (sum &&& u16Max) (sum >>> 16)).map fun sum => (sum, [])

def internetChecksum (fuel : Nat) (bytes : List UInt8) : Except Stop UInt16 := do
  let (chunks, remainder) := asChunks bytes
  match (addChunks 0 chunks).bind (addRemainder · remainder) with
  | none => .error .panicked
  | some sum =>
    let (sum, _) ← whileLoop (fun sum => u16Max < sum) foldSum fuel sum
    return ~~~(UInt16.ofNat sum)

/-- The 16-bit words of a message, an odd tail padded with a zero byte. -/
def words : List UInt8 → List Nat
  | hi :: lo :: rest => (Bits.fromBeBytes hi lo).toNat :: words rest
  | [last] => [last.toNat * 256]
  | [] => []

def onesSum (bytes : List UInt8) : Nat := OnesComplement.sum u16Max (words bytes)

/-- The complement of the ones' complement sum of the words. -/
def rfc1071 (bytes : List UInt8) : UInt16 :=
  .ofNat (OnesComplement.complement u16Max (onesSum bytes))

theorem words_le (bytes : List UInt8) : ∀ w ∈ words bytes, w ≤ u16Max := by
  fun_induction words bytes with
  | case1 hi lo rest ih =>
    intro w hw
    rcases List.mem_cons.mp hw with rfl | hw
    · exact Nat.le_of_lt_succ (Bits.fromBeBytes hi lo).toNat_lt
    · exact ih w hw
  | case2 last =>
    intro w hw
    have := last.toNat_lt
    rw [List.mem_singleton.mp hw, u16Max]
    omega
  | case3 => exact List.forall_mem_nil _

theorem words_sum_le (bytes : List UInt8) :
    (words bytes).sum ≤ (bytes.length + 1) / 2 * u16Max := by
  fun_induction words bytes with
  | case1 hi lo rest ih =>
    have := (Bits.fromBeBytes hi lo).toNat_lt
    have more : (rest.length + 1 + 1 + 1) / 2 = (rest.length + 1) / 2 + 1 := by omega
    rw [List.sum_cons, List.length_cons, List.length_cons, more, Nat.succ_mul]
    unfold u16Max at *
    omega
  | case2 last =>
    have := last.toNat_lt
    simp only [List.sum_cons, List.sum_nil, List.length_singleton, u16Max]
    omega
  | case3 => exact Nat.zero_le _

theorem words_append (before behind : List UInt8) (even : before.length % 2 = 0) :
    words (before ++ behind) = words before ++ words behind := by
  fun_induction words before with
  | case1 hi lo rest ih =>
    have : rest.length % 2 = 0 := by
      rw [List.length_cons, List.length_cons] at even
      omega
    exact congrArg (_ :: ·) (ih this)
  | case2 last =>
    rw [List.length_singleton] at even
    omega
  | case3 => rfl

theorem words_asChunks (bytes : List UInt8) :
    words bytes = (asChunks bytes).1.map (fun chunk => (Bits.fromBeBytes chunk.1 chunk.2).toNat) ++
      words (asChunks bytes).2 ∧ (asChunks bytes).2.length ≤ 1 := by
  fun_induction words bytes with
  | case1 hi lo rest ih => exact ⟨congrArg (_ :: ·) ih.1, ih.2⟩
  | case2 last => exact ⟨rfl, Nat.le_refl 1⟩
  | case3 => exact ⟨rfl, Nat.zero_le 1⟩

theorem addChunks_eq (chunks : List (UInt8 × UInt8)) :
    ∀ start, start +
        (chunks.map fun chunk => (Bits.fromBeBytes chunk.1 chunk.2).toNat).sum ≤ u32Max →
      addChunks start chunks = some (start +
        (chunks.map fun chunk => (Bits.fromBeBytes chunk.1 chunk.2).toNat).sum) := by
  induction chunks with
  | nil => exact fun start _ => rfl
  | cons chunk chunks ih =>
    intro start fits
    rw [List.map_cons, List.sum_cons, ← Nat.add_assoc] at fits ⊢
    have first : checkedAdd u32Max start (Bits.fromBeBytes chunk.1 chunk.2).toNat =
        some (start + (Bits.fromBeBytes chunk.1 chunk.2).toNat) :=
      checkedAdd_of_le (Nat.le_trans (Nat.le_add_right ..) fits)
    rw [addChunks, first]
    exact ih _ fits

theorem addRemainder_eq {start : Nat} {remainder : List UInt8} (short : remainder.length ≤ 1)
    (fits : start + (words remainder).sum ≤ u32Max) :
    addRemainder start remainder = some (start + (words remainder).sum) := by
  match remainder with
  | [] => rfl
  | [last] =>
    have shifted : last.toNat <<< 8 = last.toNat * 256 := Nat.shiftLeft_eq ..
    have only : (words [last]).sum = last.toNat * 256 := by simp [words]
    rw [only] at fits ⊢
    rw [addRemainder, List.head?_cons]
    simp only [shifted]
    exact checkedAdd_of_le fits
  | _ :: _ :: _ =>
    rw [List.length_cons, List.length_cons] at short
    omega

/-- Both loops add every word in, where the sum fits. -/
theorem sum_eq {bytes : List UInt8} (fits : (words bytes).sum ≤ u32Max) :
    (addChunks 0 (asChunks bytes).1).bind (addRemainder · (asChunks bytes).2) =
      some (words bytes).sum := by
  obtain ⟨split, short⟩ := words_asChunks bytes
  rw [split, List.sum_append] at fits ⊢
  rw [addChunks_eq _ 0 (by omega), Option.bind_some, Nat.zero_add]
  exact addRemainder_eq short fits

theorem foldSum_eq {sum : Nat} (fits : sum ≤ u32Max) :
    foldSum sum = some (OnesComplement.foldCarries u16Max sum, []) := by
  have low : sum &&& u16Max = sum % (u16Max + 1) := Nat.and_two_pow_sub_one_eq_mod sum 16
  have high : sum >>> 16 = sum / (u16Max + 1) := Nat.shiftRight_eq_div_pow sum 16
  rw [foldSum, low, high, checkedAdd_of_le]
  · rfl
  · unfold u16Max u32Max at *
    omega

/-- How many turns of the `while` loop a sum takes. -/
def turns (sum : Nat) : Nat := if sum ≤ u16Max then 0 else if sum ≤ 2 * u16Max then 1 else 2

theorem turns_foldCarries {sum : Nat} (fits : sum ≤ u32Max) (going : u16Max < sum) :
    turns (OnesComplement.foldCarries u16Max sum) < turns sum := by
  unfold turns OnesComplement.foldCarries u16Max u32Max at *
  grind

/-- Two folds are always enough. -/
theorem whileLoop_foldSum {sum fuel : Nat} (fits : sum ≤ u32Max) (enough : 3 ≤ fuel) :
    whileLoop (fun sum => u16Max < sum) foldSum fuel sum =
      .ok (OnesComplement.reduce u16Max sum, []) := by
  apply whileLoop_eq_of (fun sum => sum ≤ u32Max) turns
    (fun sum => (OnesComplement.reduce u16Max sum, [])) _ _ fits
  · unfold turns
    grind
  · intro sum _ short
    rw [OnesComplement.reduce_of_le (by decide) (Nat.le_of_not_lt (of_decide_eq_false short))]
  · intro sum fits going
    have going : u16Max < sum := of_decide_eq_true going
    refine ⟨_, [], foldSum_eq fits, ?_, turns_foldCarries fits going, ?_⟩
    · unfold OnesComplement.foldCarries u16Max u32Max at *
      omega
    · rw [OnesComplement.reduce_foldCarries (by decide)]
      rfl

theorem not_ofNat {sum : Nat} (le : sum ≤ u16Max) :
    ~~~(UInt16.ofNat sum) = .ofNat (OnesComplement.complement u16Max sum) := by
  unfold OnesComplement.complement u16Max at *
  rw [← UInt16.toNat_inj, UInt16.toNat_not, UInt16.toNat_ofNat', UInt16.toNat_ofNat']
  rw [Nat.mod_eq_of_lt (by omega), Nat.mod_eq_of_lt (by omega)]
  rfl

theorem onesSum_eq (bytes : List UInt8) :
    onesSum bytes = OnesComplement.reduce u16Max (words bytes).sum :=
  OnesComplement.sum_eq_reduce (by decide) (words_le bytes)

theorem words_sum_fits {bytes : List UInt8} (short : bytes.length ≤ 131074) :
    (words bytes).sum ≤ u32Max := by
  have := words_sum_le bytes
  unfold u16Max u32Max at *
  omega

theorem internetChecksum_eq {bytes : List UInt8} (short : bytes.length ≤ 131074) {fuel : Nat}
    (enough : 3 ≤ fuel) : internetChecksum fuel bytes = .ok (rfc1071 bytes) := by
  have fits := words_sum_fits short
  have le : OnesComplement.reduce u16Max (words bytes).sum ≤ u16Max :=
    OnesComplement.reduce_le (by decide) _
  unfold internetChecksum
  simp only [sum_eq fits, whileLoop_foldSum fits enough]
  rw [rfc1071, onesSum_eq, ← not_ofNat le]
  rfl

theorem onesSum_le (bytes : List UInt8) : onesSum bytes ≤ u16Max := by
  rw [onesSum_eq]
  exact OnesComplement.reduce_le (by decide) _

theorem words_toBeBytes (x : UInt16) : words (Bits.toBeBytes x) = [x.toNat] :=
  congrArg (fun y : UInt16 => [y.toNat]) (Bits.fromBeBytes_toBeBytes x)

/-- A message whose checksum is in place sums to all ones. -/
theorem onesSum_stored (before behind : List UInt8) (even : before.length % 2 = 0) :
    onesSum (before ++ Bits.toBeBytes (rfc1071 (before ++ [0, 0] ++ behind)) ++ behind) =
      u16Max := by
  have split (x : UInt16) : (words (before ++ Bits.toBeBytes x ++ behind)).sum =
      (words before ++ words behind).sum + x.toNat := by
    rw [List.append_assoc, words_append _ _ even,
      words_append _ _ (by rw [Bits.toBeBytes_length]), words_toBeBytes, List.sum_append, List.sum_append, List.sum_append, List.sum_singleton]
    omega
  have cleared := split 0
  have value : (rfc1071 (before ++ [0, 0] ++ behind)).toNat =
      OnesComplement.complement u16Max
        (OnesComplement.reduce u16Max (words before ++ words behind).sum) := by
    have bare : onesSum (before ++ [0, 0] ++ behind) =
        OnesComplement.reduce u16Max (words before ++ words behind).sum := by
      rw [onesSum_eq]
      exact congrArg _ cleared
    have := onesSum_le (before ++ [0, 0] ++ behind)
    rw [rfc1071, UInt16.toNat_ofNat', bare]
    apply Nat.mod_eq_of_lt
    unfold OnesComplement.complement u16Max
    omega
  rw [onesSum_eq, split, value]
  exact OnesComplement.reduce_add_complement (by decide) _

theorem rfc1071_stored (before behind : List UInt8) (even : before.length % 2 = 0) :
    rfc1071 (before ++ Bits.toBeBytes (rfc1071 (before ++ [0, 0] ++ behind)) ++ behind) = 0 := by
  rw [rfc1071, onesSum_stored before behind even]
  rfl

/-- No overflow and no endless loop up to 131074 bytes; and the value, stored
where two zero bytes were, checks out. -/
theorem internetChecksum_correct (bytes : List UInt8) (short : bytes.length ≤ 131074)
    (fuel : Nat) (enough : 3 ≤ fuel) :
    internetChecksum fuel bytes = .ok (rfc1071 bytes) ∧
      ∀ before behind, bytes = before ++ [0, 0] ++ behind → before.length % 2 = 0 →
        internetChecksum fuel (before ++ Bits.toBeBytes (rfc1071 bytes) ++ behind) = .ok 0 := by
  refine ⟨internetChecksum_eq short enough, ?_⟩
  rintro before behind rfl even
  have same : (before ++ Bits.toBeBytes (rfc1071 (before ++ [0, 0] ++ behind)) ++ behind).length ≤
      131074 := by
    simp only [List.length_append, Bits.toBeBytes_length] at short ⊢
    exact short
  rw [internetChecksum_eq same enough, rfc1071_stored before behind even]

theorem internetChecksum_correct_odd :
    internetChecksum 3 [8, 0, 0, 0, 0x57, 0x53, 0xff] = .ok 0xa1ab ∧
      internetChecksum 3 [8, 0, 0xa1, 0xab, 0x57, 0x53, 0xff] = .ok 0 := by
  have h := internetChecksum_correct [8, 0, 0, 0, 0x57, 0x53, 0xff] (by decide) 3 (by decide)
  exact ⟨h.1.trans (by decide), h.2 [8, 0] [0x57, 0x53, 0xff] rfl rfl⟩

end Ws63Examples.InitSmoke
