import Ws63Examples.Lib.Memory
import Ws63Examples.NetPing.Program

/-!
# Frames through the MAC

Interrupts fall anywhere in `mac_tx`. The MAC sends the frames that the interface hands
to the sink, each once and whole up to the window's size, and the handler passes on the
frames that it finds waiting.
-/

namespace Ws63Examples.NetPing

open Execution Memory Words
open InitSmoke (IcmpWire)

/-- The MAC's memory, and the frames it put on the wire. -/
structure Device where
  memory : Nat → UInt32
  wire : List (List UInt8)

/-- The frame in the transmit window. -/
def windowFrame (memory : Nat → UInt32) : List UInt8 :=
  (List.range (memory nmTxLen).toNat).map (byteAt fun k => memory (nmTxBuf + 4 * k))

/-- A store to `TX_GO` sends the frame in the window. -/
def Device.access (d : Device) : Access → Device
  | .store address value =>
    let memory := Function.update d.memory address value
    ⟨memory, if address = nmTxGo then d.wire ++ [windowFrame memory] else d.wire⟩
  | _ => d

def Effect.toAccess : Effect → Option Access
  | .access made => some made
  | _ => none

def accesses (written : List Effect) : List Access := written.filterMap Effect.toAccess

/-- The MAC behind the accesses of a history. -/
def device (memory : Nat → UInt32) (written : List Effect) : Device :=
  (accesses written).foldl Device.access ⟨memory, []⟩

def Input.frame : Input → Option (List UInt8)
  | .transmit frame => some frame
  | _ => none

/-- The frames handed to the sink. -/
def handed (ms : List Main.Moved) : List (List UInt8) := (inputs ms).filterMap Input.frame

def Input.trapped : Input → Option (List UInt8)
  | .interrupt mcause read => Main.waiting mcause read
  | _ => none

/-- The frames that the traps found waiting. -/
def trapped (ms : List Main.Moved) : List (List UInt8) := (inputs ms).filterMap Input.trapped

/-- What `mac_tx` stores ahead of `TX_GO`. -/
def windowStores (frame : List UInt8) : List (Nat × UInt32) :=
  (List.range (wordCount (min frame.length nmBufMax))).map
      (fun k => (nmTxBuf + 4 * k, txWord frame k)) ++
    [(nmTxLen, .ofNat (min frame.length nmBufMax))]

def txStores (frame : List UInt8) : List (Nat × UInt32) := windowStores frame ++ [(nmTxGo, 1)]

def toStore (s : Nat × UInt32) : Access := .store s.1 s.2

section
variable {fuel : Nat} {icmp : IcmpWire} {frame : List UInt8} {d : Device}

theorem accesses_append (first rest : List Effect) :
    accesses (first ++ rest) = accesses first ++ accesses rest := List.filterMap_append

theorem accesses_access (made : List Access) : accesses (made.map .access) = made := by
  induction made with
  | nil => rfl
  | cons access rest ih => exact congrArg (access :: ·) ih

theorem device_append (memory : Nat → UInt32) (past out : List Effect) :
    device memory (past ++ out) = (accesses out).foldl Device.access (device memory past) := by
  rw [device, accesses_append, List.foldl_append]
  rfl

theorem macTx_stores {sent : List Access} (enough : 512 < fuel)
    (called : macTx fuel frame = .ok sent) : sent = (txStores frame).map toStore := by
  rw [macTx_eq frame enough] at called
  have same := Except.ok.inj called
  rw [← same]
  simp [txStores, windowStores, toStore, List.map_eq_flatMap, List.flatMap_assoc]

theorem address_mem {address : Nat} : address ∈ (txStores frame).map Prod.fst ↔
    (∃ k < wordCount (min frame.length nmBufMax), address = nmTxBuf + 4 * k) ∨
      address = nmTxLen ∨ address = nmTxGo := by
  simp [txStores, windowStores, eq_comm]

theorem addresses_nodup (frame : List UInt8) : ((txStores frame).map Prod.fst).Nodup := by
  have window : ((List.range (wordCount (min frame.length nmBufMax))).map
      fun k => nmTxBuf + 4 * k).Nodup := by
    apply List.Nodup.map _ List.nodup_range
    intro a b same
    simp only at same
    omega
  have apart : ∀ k, nmTxBuf + 4 * k ≠ nmTxLen ∧ nmTxBuf + 4 * k ≠ nmTxGo := by
    intro k
    unfold nmTxBuf nmTxLen nmTxGo netmac
    omega
  have registers : [nmTxLen, nmTxGo].Nodup := by decide
  have whole : (txStores frame).map Prod.fst =
      (List.range (wordCount (min frame.length nmBufMax))).map (fun k => nmTxBuf + 4 * k) ++
        [nmTxLen, nmTxGo] := by
    simp [txStores, windowStores]
  rw [whole, List.nodup_append]
  refine ⟨window, registers, ?_⟩
  intro a left b right
  obtain ⟨k, -, rfl⟩ := List.mem_map.mp left
  rcases List.mem_cons.mp right with rfl | right
  · exact (apart k).1
  · obtain rfl := List.mem_singleton.mp right
    exact (apart k).2

/-- The handler and the set-up store outside the transmit side. -/
theorem foreign_address (frame : List UInt8) : nmRxAck ∉ (txStores frame).map Prod.fst := by
  rw [address_mem]
  rintro (⟨k, -, same⟩ | same | same)
  · unfold nmRxAck nmTxBuf netmac at same
    omega
  · exact absurd same (by decide)
  · exact absurd same (by decide)

/-- With all of its words and its length in place the window has the frame. -/
theorem windowFrame_held {memory : Nat → UInt32} (held : Holds memory (windowStores frame)) :
    windowFrame memory = frame.take nmBufMax := by
  have length : (memory nmTxLen).toNat = min frame.length nmBufMax := by
    have stored := held (nmTxLen, .ofNat (min frame.length nmBufMax)) (by simp [windowStores])
    rw [stored, UInt32.toNat_ofNat']
    exact Nat.mod_eq_of_lt (Nat.lt_of_le_of_lt (Nat.min_le_right ..) (by decide))
  apply List.ext_getElem
  · simp [windowFrame, length, Nat.min_comm]
  · intro j hj _
    have below : j < min frame.length nmBufMax := by simpa [windowFrame, length] using hj
    have inside : j / 4 < wordCount (min frame.length nmBufMax) := lt_wordCount.mpr (by omega)
    have word := held (nmTxBuf + 4 * (j / 4), txWord frame (j / 4)) (by
      simp only [windowStores, List.mem_append, List.mem_map, List.mem_range]
      exact .inl ⟨j / 4, inside, rfl⟩)
    have byte := txWord_byte frame (j / 4) (Nat.mod_lt j (by decide))
    rw [Nat.div_add_mod, List.getD_eq_getElem?_getD, List.getElem?_take_of_lt (by omega),
      List.getElem?_eq_getElem (by omega)] at byte
    simpa [windowFrame, byteAt, word] using byte

theorem device_quiet {memory : Nat → UInt32} {past out : List Effect} (quiet : accesses out = []) :
    device memory (past ++ out) = device memory past := by
  rw [device_append, quiet]
  rfl

/-- A store of `mac_tx` short of `TX_GO` only writes. -/
theorem Device.access_window {s : Nat × UInt32} (other : s.1 ≠ nmTxGo) :
    d.access (toStore s) = ⟨Function.update d.memory s.1 s.2, d.wire⟩ := by
  simp [Device.access, toStore, other]

theorem drained_device {access : Access} (drained : Drained access) :
    (d.access access).wire = d.wire ∧
      ∀ stores : List (Nat × UInt32), nmRxAck ∉ stores.map Prod.fst →
        Holds d.memory stores → Holds (d.access access).memory stores := by
  cases drained with
  | status => exact ⟨rfl, fun _ _ held => held⟩
  | length => exact ⟨rfl, fun _ _ held => held⟩
  | word => exact ⟨rfl, fun _ _ held => held⟩
  | push => exact ⟨rfl, fun _ _ held => held⟩
  | ack =>
    have apart : nmRxAck ≠ nmTxGo := by decide
    constructor
    · simp [Device.access, apart]
    · exact fun _ other held => held.foreign other

/-- A whole trap leaves the transmit side alone. -/
theorem drained_devices {made : List Access} (drained : ∀ access ∈ made, Drained access) :
    (made.foldl Device.access d).wire = d.wire ∧
      ∀ stores : List (Nat × UInt32), nmRxAck ∉ stores.map Prod.fst →
        Holds d.memory stores → Holds (made.foldl Device.access d).memory stores := by
  induction made generalizing d with
  | nil => exact ⟨rfl, fun _ _ held => held⟩
  | cons access rest ih =>
    obtain ⟨wire, kept⟩ := drained_device (drained access List.mem_cons_self) (d := d)
    obtain ⟨later, still⟩ := ih (fun a ha => drained a (List.mem_cons_of_mem _ ha))
      (d := d.access access)
    exact ⟨later.trans wire, fun stores other held => still stores other (kept stores other held)⟩

/-- The MAC, between two frames or within one. -/
inductive Sending (d : Device) (frames : List (List UInt8)) : Point → Prop
  | idle {point : Point} (between : ∀ rest, point ≠ .transmitting rest)
      (wire : d.wire = frames.map (List.take nmBufMax)) : Sending d frames point
  | busy (past : List (List UInt8)) (frame : List UInt8) (done rest : List (Nat × UInt32))
      (split : txStores frame = done ++ rest) (left : rest ≠ []) (held : Holds d.memory done)
      (last : frames = past ++ [frame]) (wire : d.wire = past.map (List.take nmBufMax)) :
      Sending d frames (.transmitting (rest.map toStore))

section
variable {frames : List (List UInt8)} {point next : Point}

theorem Sending.wire_idle (h : Sending d frames point)
    (between : ∀ rest, point ≠ .transmitting rest) :
    d.wire = frames.map (List.take nmBufMax) := by
  cases h with
  | idle _ wire => exact wire
  | busy => exact absurd rfl (between _)

theorem Sending.quiet (h : Sending d frames point) (between : ∀ rest, point ≠ .transmitting rest)
    (still : ∀ rest, next ≠ .transmitting rest) : Sending d frames next :=
  .idle still (h.wire_idle between)

theorem Sending.trap (h : Sending d frames point) {made : List Access}
    (drained : ∀ access ∈ made, Drained access) :
    Sending (made.foldl Device.access d) frames point := by
  obtain ⟨same, kept⟩ := drained_devices drained (d := d)
  cases h with
  | idle between wire => exact .idle between (same.trans wire)
  | busy past frame done rest split left held last wire =>
    have other : nmRxAck ∉ done.map Prod.fst := by
      intro member
      apply foreign_address frame
      rw [split, List.map_append]
      exact List.mem_append_left _ member
    exact .busy past frame done rest split left (kept done other held) last (same.trans wire)

theorem Sending.call (h : Sending d frames .poll) (frame : List UInt8) :
    Sending d (frames ++ [frame]) (.transmitting ((txStores frame).map toStore)) := by
  refine .busy frames frame [] (txStores frame) rfl ?_ .nil rfl (h.wire_idle nofun)
  simp [txStores]

/-- One access of `mac_tx`; the last one sends the frame. -/
theorem Sending.access {access : Access} {rest : List Access}
    (h : Sending d frames (.transmitting (access :: rest))) :
    Sending (d.access access) frames (if rest = [] then .poll else .transmitting rest) := by
  generalize at_point : Point.transmitting (access :: rest) = point at h
  cases h with
  | idle between => exact absurd at_point.symm (between _)
  | busy past frame done todo split left held last wire =>
    obtain ⟨s, todo, rfl⟩ := List.exists_cons_of_ne_nil left
    obtain ⟨rfl, rfl⟩ := List.cons.inj (Point.transmitting.inj at_point)
    have nodup := addresses_nodup frame
    rw [split, List.map_append, List.map_cons] at nodup
    obtain ⟨-, alone, disjoint⟩ := List.nodup_append.mp nodup
    have fresh : s.1 ∉ done.map Prod.fst :=
      fun member => disjoint _ member _ List.mem_cons_self rfl
    rcases List.eq_nil_or_concat todo with rfl | ⟨middle, final, rfl⟩
    · obtain ⟨rfl, same⟩ := List.append_inj' split rfl
      obtain rfl := List.singleton_inj.mp same
      have kept : Holds (Function.update d.memory nmTxGo 1) (windowStores frame) :=
        held.foreign fresh
      refine .idle nofun ?_
      simp only [Device.access, toStore, if_true]
      rw [windowFrame_held kept, wire, last, List.map_append]
      rfl
    · rw [List.concat_eq_append] at split alone ⊢
      have ends : txStores frame = done ++ s :: middle ++ [final] := by simpa using split
      obtain ⟨-, same⟩ := List.append_inj' ends rfl
      obtain rfl := List.singleton_inj.mp same
      have other : s.1 ≠ nmTxGo := by
        rintro here
        apply (List.nodup_cons.mp alone).1
        simp [here]
      have written : Holds (Function.update d.memory s.1 s.2) (done ++ [s]) := held.store fresh
      rw [if_neg (by simp), Device.access_window other]
      exact .busy past frame (done ++ [s]) (middle ++ [(nmTxGo, 1)]) (by simpa using ends)
        (by simp) written last wire

end

section
open Main

variable {memory : Nat → UInt32} {ms : List Moved} {s t : Main} {input : Input} {out : List Effect}

theorem Input.frame_none (h : input.frame = none) :
    (inputs ms ++ [input]).filterMap Input.frame = handed ms := by
  simp [handed, h]

/-- The point of the program behind `judge`, `afterReceive`: in no frame. -/
theorem judge_between (s : Main) : ∀ rest, s.judge.point ≠ .transmitting rest := by
  intro rest
  unfold judge
  split
  · nofun
  · split
    · nofun
    · nofun

theorem afterReceive_between (s : Main) : ∀ rest, s.afterReceive.point ≠ .transmitting rest := by
  intro rest
  unfold afterReceive
  split
  · exact judge_between s rest
  · nofun

theorem step_sending (enough : 512 < fuel) (h : Step fuel icmp s input t out)
    (sending : Sending (device memory (effects ms)) (handed ms) s.point) :
    Sending (device memory (effects ms ++ out)) ((inputs ms ++ [input]).filterMap Input.frame)
      t.point := by
  -- A step outside `mac_tx` that touches no register.
  have quiet (silent : accesses out = []) (none : input.frame = none)
      (between : ∀ rest, s.point ≠ .transmitting rest)
      (still : ∀ rest, t.point ≠ .transmitting rest) :
      Sending (device memory (effects ms ++ out)) ((inputs ms ++ [input]).filterMap Input.frame)
        t.point := by
    rw [device_quiet silent, Input.frame_none none]
    exact sending.quiet between still
  cases h with
  | registers at_point lo hi =>
    rw [Input.frame_none rfl]
    have before := sending.wire_idle (by simp [at_point])
    refine .idle nofun ?_
    rw [device_append]
    have apart : nmCtrl ≠ nmTxGo := by decide
    change (Device.access _ (.store nmCtrl _)).wire = _
    simpa [Device.access, apart] using before
  | interrupt enabled mcause read made drained pushed tail clears =>
    have silent : accesses tail = [] := by
      rcases clears with rfl | rfl
      · rfl
      · rfl
    rw [Input.frame_none rfl, device_append, accesses_append, silent, List.append_nil,
      accesses_access]
    exact sending.trap drained
  | interface at_point => exact quiet rfl rfl (by simp [at_point]) nofun
  | route at_point added =>
    refine quiet rfl rfl (by simp [at_point]) ?_
    intro rest
    cases added with
    | true => nofun
    | false => nofun
  | start at_point => exact quiet rfl rfl (by simp [at_point]) nofun
  | clock at_point => exact quiet rfl rfl (by simp [at_point]) nofun
  | transmit at_point frame made called =>
    obtain rfl := macTx_stores enough called
    rw [device_quiet rfl, List.filterMap_append]
    rw [at_point] at sending
    exact sending.call frame
  | access access rest at_point =>
    rw [Input.frame_none rfl, device_append]
    rw [at_point] at sending
    exact sending.access
  | polled at_point => exact quiet rfl rfl (by simp [at_point]) nofun
  | unbound at_point => exact quiet rfl rfl (by simp [at_point]) nofun
  | request at_point socket =>
    refine quiet ?_ rfl (by simp [at_point]) nofun
    split
    · rfl
    · rfl
  | hold at_point => exact quiet rfl rfl (by simp [at_point]) nofun
  | reply at_point => exact quiet rfl rfl (by simp [at_point]) (afterReceive_between _)
  | silence at_point => exact quiet rfl rfl (by simp [at_point]) (afterReceive_between _)
  | unboundUdp at_point => exact quiet rfl rfl (by simp [at_point]) nofun
  | datagram at_point => exact quiet rfl rfl (by simp [at_point]) (judge_between _)
  | undelivered at_point socket out refused =>
    refine quiet ?_ rfl (by simp [at_point]) (judge_between _)
    rcases refused with rfl | rfl
    · rfl
    · rfl
  | irqHits verdict at_point => exact quiet rfl rfl (by simp [at_point]) nofun

theorem run_sending (enough : 512 < fuel) (memory : Nat → UInt32)
    (run : Run (main fuel icmp) .boot ms s) :
    Sending (device memory (effects ms)) (handed ms) s.point := by
  induction run with
  | start => exact .idle nofun rfl
  | @next ms u i t out run hs ih =>
    have sending := step_sending enough (step_cases enough hs) ih
    simpa [handed] using sending

theorem Sending.stores {frames : List (List UInt8)} {access : Access} {rest : List Access}
    (h : Sending d frames (.transmitting (access :: rest))) : ∃ store, access = toStore store := by
  generalize at_point : Point.transmitting (access :: rest) = point at h
  cases h with
  | idle between => exact absurd at_point.symm (between _)
  | busy past frame done todo split left =>
    obtain ⟨store, todo, rfl⟩ := List.exists_cons_of_ne_nil left
    exact ⟨store, (List.cons.inj (Point.transmitting.inj at_point)).1⟩

theorem step_pushes (h : Step fuel icmp s input t out) {frames : List (List UInt8)}
    (sending : Sending d frames s.point) : pushes (accesses out) = input.trapped.toList := by
  cases h with
  | interrupt enabled mcause read made drained pushed tail clears =>
    have silent : accesses tail = [] := by
      rcases clears with rfl | rfl
      · rfl
      · rfl
    rw [accesses_append, accesses_access, silent, List.append_nil, pushed]
    rfl
  | access access rest at_point =>
    rw [at_point] at sending
    obtain ⟨store, rfl⟩ := sending.stores
    rfl
  | request at_point socket =>
    split
    · rfl
    · rfl
  | undelivered at_point socket out refused =>
    rcases refused with rfl | rfl
    · rfl
    · rfl
  | _ => rfl

theorem run_pushes (enough : 512 < fuel) (run : Run (main fuel icmp) .boot ms s) :
    pushes (accesses (effects ms)) = trapped ms := by
  induction run with
  | start => rfl
  | @next ms u i t out run hs ih =>
    have sending := run_sending enough (fun _ => 0) run
    have pushed := step_pushes (step_cases enough hs) sending
    rw [effects_append, effects_singleton, accesses_append, pushes_append, ih, pushed, trapped,
      trapped, inputs_append, List.filterMap_append]
    cases caught : i.trapped with
    | none => simp [caught]
    | some frame => simp [caught]

def Point.busy : Point → Bool
  | .transmitting _ => true
  | _ => false

/-- Whenever the traps come, the MAC sends the frames handed to the sink, in order and
cut at the window's size, a frame in the making apart; and each frame that a trap
finds is passed on once. -/
theorem frames_intact (enough : 512 < fuel) (memory : Nat → UInt32)
    (run : Run (main fuel icmp) .boot ms s) :
    (device memory (effects ms)).wire =
        (if s.point.busy then (handed ms).dropLast else handed ms).map (List.take nmBufMax) ∧
      pushes (accesses (effects ms)) = trapped ms := by
  refine ⟨?_, run_pushes enough run⟩
  have sending := run_sending enough memory run
  generalize s.point = point at sending
  cases sending with
  | idle between wire =>
    rw [wire]
    cases point with
    | transmitting rest => exact absurd rfl (between rest)
    | _ => rfl
  | busy past frame done rest split left held last wire =>
    rw [wire, last]
    simp [Point.busy]

theorem trap_runs (enough : 512 < fuel) (enabled : s.point ≠ .registers) (mcause : UInt32)
    (read : Nat → UInt32) : ∃ m : Moved, m.input = .interrupt mcause read ∧
      Run (main fuel icmp) s [m] (s.hit (waiting mcause read)) := by
  obtain ⟨made, tail, handled, -⟩ := nmacHandle_spec mcause read enough (s := s)
  have stepped : main fuel icmp s (.interrupt mcause read) =
      some (s.hit (waiting mcause read), made.map .access ++ tail) := by
    cases at_point : s.point with
    | registers => exact absurd at_point enabled
    | _ => simp [main, at_point, handled]
  exact ⟨⟨s, _, _, _⟩, rfl, .single stepped⟩

/-- A frame of three bytes, ready in the MAC. -/
def threeBytes (address : Nat) : UInt32 :=
  if address = nmIntStatus then 1 else if address = nmRxLen then 3
  else if address = nmRxBuf then 0x00030201 else 0

/-- In `mac_tx` on five bytes, with these stores to come. -/
def fiveBytes (irqHits : UInt32) (rest : List Access) : Main :=
  { boot with irqHits := irqHits, now := 1000, point := .transmitting rest }

theorem fiveBytes_trapped (irqHits : UInt32) (rest : List Access) :
    ∃ m : Moved, m.input = .interrupt 0x8000002d threeBytes ∧
      Run (main 513 InitSmoke.rfcIcmp) (fiveBytes irqHits rest) [m]
        (fiveBytes (irqHits + 1) rest) := by
  have found : waiting 0x8000002d threeBytes = some [1, 2, 3] := by decide +kernel
  obtain ⟨m, asked, run⟩ : ∃ m : Moved, m.input = .interrupt 0x8000002d threeBytes ∧
      Run (main 513 InitSmoke.rfcIcmp) (fiveBytes irqHits rest) [m] _ :=
    trap_runs (by decide) (by simp [fiveBytes]) 0x8000002d threeBytes
  rw [found] at run
  exact ⟨m, asked, run⟩

/-- Five bytes go out around two traps. -/
theorem frames_intact_trapped :
    ∃ ms s, Run (main 513 InitSmoke.rfcIcmp) .boot ms s ∧
      (device (fun _ => 0) (effects ms)).wire = [[1, 2, 3, 4, 5]] ∧
      pushes (accesses (effects ms)) = [[1, 2, 3], [1, 2, 3]] := by
  have found : waiting 0x8000002d threeBytes = some [1, 2, 3] := by decide +kernel
  obtain ⟨ms₁, s₁, run₁, asked₁, there₁⟩ := exec_reaches (main 513 InitSmoke.rfcIcmp) boot
    [.registers 0x12005452 0x5634, .interface 0 0, .route true, .start 0 0, .clock 24000000 0,
      .transmit [1, 2, 3, 4, 5], .access]
    (fun s => s = fiveBytes 0 [.store (nmTxBuf + 4) 5, .store nmTxLen 5, .store nmTxGo 1])
    (by decide +kernel)
  obtain rfl := of_decide_eq_true there₁
  obtain ⟨trap₁, asked_trap₁, run_trap₁⟩ := fiveBytes_trapped 0
    [.store (nmTxBuf + 4) 5, .store nmTxLen 5, .store nmTxGo 1]
  obtain ⟨ms₂, s₂, run₂, asked₂, there₂⟩ := exec_reaches (main 513 InitSmoke.rfcIcmp)
    (fiveBytes 1 [.store (nmTxBuf + 4) 5, .store nmTxLen 5, .store nmTxGo 1]) [.access, .access]
    (fun s => s = fiveBytes 1 [.store nmTxGo 1]) (by decide +kernel)
  obtain rfl := of_decide_eq_true there₂
  obtain ⟨trap₂, asked_trap₂, run_trap₂⟩ := fiveBytes_trapped 1 [.store nmTxGo 1]
  obtain ⟨ms₃, s₃, run₃, asked₃, there₃⟩ := exec_reaches (main 513 InitSmoke.rfcIcmp)
    (fiveBytes 2 [.store nmTxGo 1]) [.access] (fun s => s.point = .poll) (by decide +kernel)
  have still : s₃.point = .poll := of_decide_eq_true there₃
  have run := (((run₁.trans run_trap₁).trans run₂).trans run_trap₂).trans run₃
  obtain ⟨wire, pushed⟩ := frames_intact (by decide) (fun _ => 0) run
  refine ⟨_, s₃, run, ?_, ?_⟩
  · rw [wire, still]
    simp only [handed, inputs_append, inputs_singleton, asked₁, asked_trap₁, asked₂, asked_trap₂,
      asked₃]
    rfl
  · rw [pushed]
    simp only [trapped, inputs_append, inputs_singleton, asked₁, asked_trap₁, asked₂, asked_trap₂,
      asked₃]
    simp [List.filterMap_cons, Input.trapped, found]

end

end

end Ws63Examples.NetPing
