import Ws63Examples.Lib.Slice

/-!
# Frame diagnostics

Both boards print header fields of the last frame from a copy of its first 64
bytes. The frame's reported length may be shorter or longer than the copy.
-/

namespace Ws63Examples.FrameDiagnostics

open Slice

inductive Header where
  | ethernet
  | ipv4
  | udp
  deriving DecidableEq, Repr

/-- A number through `hex8`, the bytes through `write_hex_bytes` or `write_ipv4`. -/
inductive Form where
  | hex8
  | hexBytes
  | ipv4
  deriving DecidableEq, Repr

/-- A field and the indices it is printed from. -/
structure Field where
  header : Header
  label : String
  places : List Nat
  form : Form
  deriving DecidableEq, Repr

structure Printed where
  field : Field
  bytes : List UInt8
  deriving DecidableEq, Repr

structure Report where
  label : String
  length : UInt32
  fields : List Printed
  deriving DecidableEq, Repr

abbrev Capture := Vector UInt8 64

/-- An index behind the capture panics. -/
def Field.print (frame : Capture) (field : Field) : Option Printed :=
  (field.places.mapM fun i => frame[i]?).map fun bytes => ⟨field, bytes⟩

def printFields (frame : Capture) (fields : List Field) : Option (List Printed) :=
  fields.mapM (Field.print frame)

/-- Fields behind a test. -/
def printIf (test : Prop) [Decidable test] (frame : Capture) (fields : List Field) :
    Option (List Printed) :=
  if test then printFields frame fields else some []

/-- The test both make before they look for a UDP header. -/
def looksUdp (frame : Capture) (length : Nat) : Bool :=
  42 ≤ length && (frame[12] == 0x08 && frame[13] == 0x00) && frame[23] == 17

def ihl (frame : Capture) : Nat := (frame[14] &&& 0x0f).toNat

def udpOffset (frame : Capture) : Nat := 14 + ihl frame * 4

/-- The places of the IPv4 and UDP fields are captured ones. -/
def Captured (length : Nat) (fields : List Field) : Prop :=
  ∀ field ∈ fields, field.header ≠ .ethernet → ∀ i ∈ field.places, i < min length 64

def Inside (fields : List Field) : Prop := ∀ field ∈ fields, ∀ i ∈ field.places, i < 64

/-- The fields a board prints, the UDP ones from the offset of their header. -/
structure Layout where
  lengthLabel : String
  ethernet : List Field
  headers : Nat → List Field
  ethernet_inside : Inside ethernet
  ethernet_header : ∀ field ∈ ethernet, field.header = .ethernet
  headers_inside : ∀ udp, udp + 8 ≤ 64 → Inside (headers udp)
  headers_captured : ∀ udp length, 42 ≤ length →
    (Captured length (headers udp) ↔ udp + 8 ≤ min length 64)

/-- What the two decoders share; `bound` is what each tests the UDP header's end
against. -/
def decode (layout : Layout) (value : UInt32) (bound : Nat) (frame : Capture) (length : Nat) :
    Option Report := do
  let udp := udpOffset frame
  let ethernet ← printIf (14 ≤ length) frame layout.ethernet
  let headers ← printIf (looksUdp frame length ∧ udp + 8 ≤ bound) frame (layout.headers udp)
  return ⟨layout.lengthLabel, value, ethernet ++ headers⟩

namespace Connectivity

def ethernetFields : List Field :=
  [⟨.ethernet, " last_rx_src_hi=0x", [6, 7, 8, 9], .hex8⟩,
    ⟨.ethernet, " last_rx_src_lo=0x", [10, 11], .hex8⟩,
    ⟨.ethernet, " last_rx_ethertype=0x", [12, 13], .hex8⟩]

def udpFields (udp : Nat) : List Field :=
  [⟨.ipv4, " last_rx_ip_len=0x", [16, 17], .hex8⟩,
    ⟨.ipv4, " last_rx_ip_sum=0x", [24, 25], .hex8⟩,
    ⟨.udp, " last_rx_udp_src=0x", [udp, udp + 1], .hex8⟩,
    ⟨.udp, " last_rx_udp_dst=0x", [udp + 2, udp + 3], .hex8⟩,
    ⟨.udp, " last_rx_udp_len=0x", [udp + 4, udp + 5], .hex8⟩,
    ⟨.udp, " last_rx_udp_sum=0x", [udp + 6, udp + 7], .hex8⟩]

def layout : Layout where
  lengthLabel := " last_rx_len=0x"
  ethernet := ethernetFields
  headers := udpFields
  ethernet_inside := by unfold Inside; decide
  ethernet_header := by decide
  headers_inside udp fits := by
    simp [Inside, udpFields]
    omega
  headers_captured udp length long := by
    simp [Captured, udpFields]
    omega

/-- The end of `run`: the last received frame. -/
def lastRx (frame : Capture) (lastRxLen : Nat) : Option Report :=
  decode layout (.ofNat (min lastRxLen (2 ^ 32 - 1))) 64 frame lastRxLen

end Connectivity

namespace Softap

def ethernetFields : List Field :=
  [⟨.ethernet, " last_dst=", [0, 1, 2, 3, 4, 5], .hexBytes⟩,
    ⟨.ethernet, " last_src=", [6, 7, 8, 9, 10, 11], .hexBytes⟩,
    ⟨.ethernet, " ethertype=", [12, 13], .hexBytes⟩]

def udpFields (udp : Nat) : List Field :=
  [⟨.ipv4, " ip_dst=", [30, 31, 32, 33], .ipv4⟩,
    ⟨.ipv4, " ip_len=", [16, 17], .hex8⟩,
    ⟨.ipv4, " ip_sum=", [24, 25], .hex8⟩,
    ⟨.udp, " udp_src=", [udp, udp + 1], .hex8⟩,
    ⟨.udp, " udp_dst=", [udp + 2, udp + 3], .hex8⟩,
    ⟨.udp, " udp_len=", [udp + 4, udp + 5], .hex8⟩,
    ⟨.udp, " udp_sum=", [udp + 6, udp + 7], .hex8⟩]

def layout : Layout where
  lengthLabel := " last_len="
  ethernet := ethernetFields
  headers := udpFields
  ethernet_inside := by unfold Inside; decide
  ethernet_header := by decide
  headers_inside udp fits := by
    simp [Inside, udpFields]
    omega
  headers_captured udp length long := by
    simp [Captured, udpFields]
    omega

/-- The end of `write_network_diagnostics`: the last transmitted frame. -/
def lastTx (frame : Capture) (length : Nat) : Option Report :=
  decode layout (.ofNat length) (min length 64) frame length

end Softap

/-- No index panics, and no field is read from behind the captured bytes. -/
def Sound (length : Nat) (run : Option Report) : Prop :=
  ∃ report, run = some report ∧ Captured length (report.fields.map Printed.field)

theorem print_some (frame : Capture) {field : Field} (inside : ∀ i ∈ field.places, i < 64) :
    ∃ printed, field.print frame = some printed ∧ printed.field = field := by
  have each : ∀ i ∈ field.places, ∃ byte, frame[i]? = some byte ∧ True := by
    intro i hi
    have there := inside i hi
    exact ⟨frame[i], Vector.getElem?_eq_getElem there, trivial⟩
  obtain ⟨bytes, read, _⟩ := mapM_some each
  exact ⟨⟨field, bytes⟩, by rw [Field.print, read, Option.map_some], by simp⟩

theorem printFields_some (frame : Capture) {fields : List Field} (inside : Inside fields) :
    ∃ printed, printFields frame fields = some printed ∧
      printed.map Printed.field = fields := by
  obtain ⟨printed, run, each⟩ := mapM_some fun field there => print_some frame (inside field there)
  have same : List.Forall₂ Eq (printed.map Printed.field) fields :=
    List.forall₂_map_left_iff.mpr each.flip
  exact ⟨printed, run, List.forall₂_eq_eq_eq ▸ same⟩

theorem printIf_some (frame : Capture) (test : Prop) [Decidable test] {fields : List Field}
    (inside : test → Inside fields) :
    ∃ printed, printIf test frame fields = some printed ∧
      printed.map Printed.field = if test then fields else [] := by
  unfold printIf
  by_cases passed : test
  · simpa [passed] using printFields_some frame (inside passed)
  · simp [passed]

theorem looksUdp_length {frame : Capture} {length : Nat} (looks : looksUdp frame length) :
    42 ≤ length := by
  simp only [looksUdp, Bool.and_eq_true, decide_eq_true_eq] at looks
  exact looks.1.1

section
variable (layout : Layout) (value : UInt32) {bound : Nat} (frame : Capture) (length : Nat)

theorem decode_some (fits : bound ≤ 64) :
    ∃ report, decode layout value bound frame length = some report ∧
      report.fields.map Printed.field = (if 14 ≤ length then layout.ethernet else []) ++
        if looksUdp frame length ∧ udpOffset frame + 8 ≤ bound then
          layout.headers (udpOffset frame) else [] := by
  obtain ⟨ethernet, first, ethernet_same⟩ :=
    printIf_some frame (14 ≤ length) fun _ => layout.ethernet_inside
  obtain ⟨headers, second, headers_same⟩ :=
    printIf_some frame (looksUdp frame length ∧ udpOffset frame + 8 ≤ bound)
      fun test => layout.headers_inside _ (Nat.le_trans test.2 fits)
  refine ⟨_, by rw [decode, first, some_bind, second, some_bind]; rfl, ?_⟩
  rw [List.map_append, ethernet_same, headers_same]

theorem Layout.ethernet_captured :
    Captured length (if 14 ≤ length then layout.ethernet else []) := by
  intro field there other
  split at there
  · exact absurd (layout.ethernet_header field there) other
  · exact absurd there List.not_mem_nil

theorem Layout.headers_captured_iff :
    Captured length (if looksUdp frame length ∧ udpOffset frame + 8 ≤ bound then
        layout.headers (udpOffset frame) else []) ↔
      (looksUdp frame length → udpOffset frame + 8 ≤ bound →
        udpOffset frame + 8 ≤ min length 64) := by
  by_cases printed : looksUdp frame length ∧ udpOffset frame + 8 ≤ bound
  · rw [if_pos printed, layout.headers_captured _ _ (looksUdp_length printed.1)]
    simp [printed]
  · rw [if_neg printed]
    constructor
    · intro _ looks test
      exact absurd ⟨looks, test⟩ printed
    · intro _ field there
      exact absurd there List.not_mem_nil

/-- The test on the header's end is all that keeps the fields in the frame. -/
theorem decode_sound_iff (fits : bound ≤ 64) :
    Sound length (decode layout value bound frame length) ↔
      (looksUdp frame length → udpOffset frame + 8 ≤ bound →
        udpOffset frame + 8 ≤ min length 64) := by
  obtain ⟨report, run, fields⟩ := decode_some layout value frame length fits
  rw [← layout.headers_captured_iff]
  constructor
  · rintro ⟨other, same, captured⟩ field there
    obtain rfl := Option.some.inj (run.symm.trans same)
    rw [fields] at captured
    exact captured field (List.mem_append_right _ there)
  · intro captured
    refine ⟨report, run, ?_⟩
    rw [fields]
    exact List.forall_mem_append.mpr ⟨layout.ethernet_captured length, captured⟩

end

/-- The test against the buffer's end lets a header through that ends behind the
frame's. -/
theorem Connectivity.lastRx_sound_iff (frame : Capture) (lastRxLen : Nat) :
    Sound lastRxLen (lastRx frame lastRxLen) ↔
      (looksUdp frame lastRxLen → ihl frame ≤ 10 → 22 + 4 * ihl frame ≤ lastRxLen) := by
  rw [lastRx, decode_sound_iff _ _ _ _ (Nat.le_refl 64), udpOffset]
  apply imp_congr_right
  intro looks
  omega

theorem Softap.lastTx_sound (frame : Capture) (length : Nat) :
    Sound length (lastTx frame length) := by
  apply (decode_sound_iff _ _ _ _ (Nat.min_le_right length 64)).mpr
  intro _ fits
  exact fits

/-- Neither decoder panics, but one of them takes the buffer for the frame. -/
theorem diagnostics_sound_iff (received : Capture) (receivedLen : Nat) (sent : Capture)
    (sentLen : Nat) :
    (Connectivity.lastRx received receivedLen).isSome ∧ (Softap.lastTx sent sentLen).isSome ∧
      ((Sound receivedLen (Connectivity.lastRx received receivedLen) ∧
          Sound sentLen (Softap.lastTx sent sentLen)) ↔
        (looksUdp received receivedLen → ihl received ≤ 10 →
          22 + 4 * ihl received ≤ receivedLen)) := by
  have sound := Softap.lastTx_sound sent sentLen
  obtain ⟨_, run, _⟩ := decode_some Connectivity.layout
    (.ofNat (min receivedLen (2 ^ 32 - 1))) received receivedLen (Nat.le_refl 64)
  refine ⟨Option.isSome_of_eq_some run, ?_, ?_⟩
  · obtain ⟨_, other, _⟩ := sound
    exact Option.isSome_of_eq_some other
  · rw [Connectivity.lastRx_sound_iff]
    exact and_iff_left sound

/-- A frame of 42 bytes that claims an IPv4 header of 40: the UDP header would
begin at 54. -/
theorem stale_header_printed : ¬ Sound 42 (Connectivity.lastRx
    (.ofFn fun i => if i = 12 then 0x08 else if i = 14 then 0x4a else if i = 23 then 17 else 0)
    42) := by
  rw [Connectivity.lastRx_sound_iff]
  decide +kernel

end Ws63Examples.FrameDiagnostics
