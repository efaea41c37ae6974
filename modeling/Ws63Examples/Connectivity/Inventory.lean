import Mathlib.Data.UInt

/-!
# The scan inventory

What the connectivity task shows of a scan that did not find its network: every name by its
length and a hash, next to those of the name that was wanted.
-/

namespace Ws63Examples.Connectivity.Inventory

inductive Security where
  | unprotected
  | wpa2Personal
  | wpa3Personal
  | wpa2Wpa3PersonalTransition
  | otherProtected
  deriving DecidableEq, Repr

structure ScanResult where
  ssid : List UInt8
  channel : UInt8
  security : Security
  deriving DecidableEq, Repr

/-- One turn of the loop of `fnv1a32`. -/
def fnvByte (hash : UInt32) (byte : UInt8) : UInt32 := (hash ^^^ byte.toUInt32) * 0x01000193

def fnv1a32 (bytes : List UInt8) : UInt32 := bytes.foldl fnvByte 0x811c9dc5

inductive Line where
  | target (length hash : UInt32)
  | result (index length hash channel : UInt32) (security : Security)
  deriving DecidableEq, Repr

def writeScanInventory (testSsid : List UInt8) (results : List ScanResult) : List Line :=
  .target (.ofNat testSsid.length) (fnv1a32 testSsid) :: results.zipIdx.map fun (result, index) =>
    .result (.ofNat index) (.ofNat result.ssid.length) (fnv1a32 result.ssid)
      result.channel.toUInt32 result.security

/-- The length and the hash in a line. -/
def Line.identity : Line → UInt32 × UInt32
  | .target length hash => (length, hash)
  | .result _ length hash _ _ => (length, hash)

/-- What is shown of a name. -/
def shown (ssid : List UInt8) : UInt32 × UInt32 := (.ofNat ssid.length, fnv1a32 ssid)

/-- The names in the order of their lines. -/
def names (testSsid : List UInt8) (results : List ScanResult) : List (List UInt8) :=
  testSsid :: results.map ScanResult.ssid

/-- Alike but for one byte in one place. -/
def OneByteOff (a b : List UInt8) : Prop :=
  ∃ front x y back, x ≠ y ∧ a = front ++ x :: back ∧ b = front ++ y :: back

/-- The multiplier is odd: it has an inverse. -/
theorem mul_prime_injective {a b : UInt32} (same : a * 0x01000193 = b * 0x01000193) : a = b := by
  have inverse : (0x01000193 : UInt32) * 0x359c449b = 1 := by decide
  have undone := congrArg (· * (0x359c449b : UInt32)) same
  simpa only [UInt32.mul_assoc, inverse, UInt32.mul_one] using undone

theorem fnvByte_hash_injective {a b : UInt32} {byte : UInt8}
    (same : fnvByte a byte = fnvByte b byte) : a = b := by
  have mixed := mul_prime_injective same
  have undone := congrArg (· ^^^ byte.toUInt32) mixed
  simpa only [UInt32.xor_assoc, UInt32.xor_self, UInt32.xor_zero] using undone

theorem fnvByte_byte_injective {hash : UInt32} {x y : UInt8}
    (same : fnvByte hash x = fnvByte hash y) : x = y := by
  have mixed := mul_prime_injective same
  have undone := congrArg (hash ^^^ ·) mixed
  simp only [← UInt32.xor_assoc, UInt32.xor_self, UInt32.zero_xor] at undone
  exact UInt8.toUInt32_inj.mp undone

/-- Different hashes stay different over the same bytes. -/
theorem foldl_fnvByte_injective {a b : UInt32} {bytes : List UInt8}
    (same : bytes.foldl fnvByte a = bytes.foldl fnvByte b) : a = b := by
  induction bytes generalizing a b with
  | nil => exact same
  | cons byte rest ih => exact fnvByte_hash_injective (ih same)

theorem fnv1a32_oneByteOff {a b : List UInt8} (off : OneByteOff a b) : fnv1a32 a ≠ fnv1a32 b := by
  obtain ⟨front, x, y, back, different, rfl, rfl⟩ := off
  intro same
  simp only [fnv1a32, List.foldl_append, List.foldl_cons] at same
  exact different (fnvByte_byte_injective (foldl_fnvByte_injective same))

theorem OneByteOff.length {a b : List UInt8} (off : OneByteOff a b) : a.length = b.length := by
  obtain ⟨front, x, y, back, -, rfl, rfl⟩ := off
  simp

theorem identities (testSsid : List UInt8) (results : List ScanResult) :
    (writeScanInventory testSsid results).map Line.identity =
      (names testSsid results).map shown := by
  have each : ∀ start, (results.zipIdx start).map (fun entry => shown entry.1.ssid) =
      results.map fun result => shown result.ssid := by
    intro start
    have apart : (fun entry : ScanResult × Nat => shown entry.1.ssid) =
        (fun result => shown result.ssid) ∘ Prod.fst := rfl
    rw [apart, ← List.map_map, List.zipIdx_map_fst]
  rw [writeScanInventory, names, List.map_cons, List.map_cons, List.map_map, List.map_map]
  congr 1
  exact each 0

/-- The line of a result, behind that of the wanted name. -/
theorem result_line {testSsid : List UInt8} {results : List ScanResult} {index : Nat}
    {result : ScanResult} (found : results[index]? = some result) :
    (writeScanInventory testSsid results)[index + 1]? =
      some (.result (.ofNat index) (shown result.ssid).1 (shown result.ssid).2
        result.channel.toUInt32 result.security) := by
  have entry : results.zipIdx[index]? = some (result, index) := by
    rw [List.getElem?_zipIdx, found, Nat.zero_add]
    rfl
  rw [writeScanInventory, List.getElem?_cons_succ, List.getElem?_map, entry]
  rfl

/-- The wanted name has the first line, and each result the next one, with its index, channel
and security. A name shows as its length and its hash: the same name as the same, and one
that is off by a byte never, for its length agrees and its hash does not. -/
theorem scan_inventory (testSsid : List UInt8) (results : List ScanResult) :
    (writeScanInventory testSsid results).length = results.length + 1 ∧
    (writeScanInventory testSsid results)[0]? =
      some (.target (.ofNat testSsid.length) (fnv1a32 testSsid)) ∧
    (∀ (index : Nat) result, results[index]? = some result →
      (writeScanInventory testSsid results)[index + 1]? =
        some (.result (.ofNat index) (.ofNat result.ssid.length) (fnv1a32 result.ssid)
          result.channel.toUInt32 result.security)) ∧
    (writeScanInventory testSsid results).map Line.identity =
      (names testSsid results).map (fun ssid => (.ofNat ssid.length, fnv1a32 ssid)) ∧
    ∀ (i j : Nat) a b p q, (names testSsid results)[i]? = some a →
      (names testSsid results)[j]? = some b →
      (writeScanInventory testSsid results)[i]?.map Line.identity = some p →
      (writeScanInventory testSsid results)[j]?.map Line.identity = some q →
      (a = b → p = q) ∧ (OneByteOff a b → p.1 = q.1 ∧ p.2 ≠ q.2) := by
  refine ⟨by simp [writeScanInventory], rfl, fun index result => result_line,
    identities testSsid results, ?_⟩
  intro i j a b p q first second line other
  rw [← List.getElem?_map, identities, List.getElem?_map, first] at line
  rw [← List.getElem?_map, identities, List.getElem?_map, second] at other
  obtain rfl : shown a = p := Option.some.inj line
  obtain rfl : shown b = q := Option.some.inj other
  constructor
  · rintro rfl
    rfl
  · intro off
    exact ⟨congrArg UInt32.ofNat off.length, fnv1a32_oneByteOff off⟩

end Ws63Examples.Connectivity.Inventory
