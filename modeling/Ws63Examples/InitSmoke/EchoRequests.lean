import Ws63Examples.InitSmoke.RunPingSeries

/-! What `run_ping_series` transmits. -/

namespace Ws63Examples.InitSmoke.FullInit

open Bits Execution Loop Slice Word

/-- The IPv4 header of a request. -/
def ipv4Header (config : PingConfig) (identification checksum : UInt16) : List UInt8 :=
  [0x45, 0] ++ toBeBytes 60 ++ toBeBytes identification ++ [0, 0, 64, 1] ++ toBeBytes checksum ++
    config.address.toList ++ config.target.toList

def icmpMessage (checksum seqNo : UInt16) : List UInt8 :=
  [8, 0] ++ toBeBytes checksum ++ toBeBytes identifier ++ toBeBytes seqNo ++ echoData

/-- A request with any four values in the fields that a sample patches. -/
def requestFrame (config : PingConfig) (identification ipChecksum icmpChecksum seqNo : UInt16) :
    List UInt8 :=
  config.gatewayMac.toList ++ config.mac.toList ++ [0x08, 0x00] ++
    ipv4Header config identification ipChecksum ++ icmpMessage icmpChecksum seqNo

/-- The echo request of one sequence number. -/
def echoRequest (config : PingConfig) (sequence : UInt16) : List UInt8 :=
  requestFrame config sequence (rfc1071 (ipv4Header config sequence 0))
    (rfc1071 (icmpMessage 0 sequence)) sequence

section
variable {n k a b : Nat} {buffer : Vector UInt8 n} {done : List UInt8}

/-- Written up to index `k`, zero from there on. -/
structure ZeroFrom (buffer : Vector UInt8 n) (k : Nat) (done : List UInt8) : Prop where
  written : done.length = k
  fits : k ≤ n
  whole : buffer.toList = done ++ List.replicate (n - k) 0

theorem ZeroFrom.start : ZeroFrom (Vector.replicate n 0) 0 [] :=
  ⟨rfl, Nat.zero_le n, Vector.toList_replicate⟩

theorem ZeroFrom.split (h : ZeroFrom buffer k done) (src : List UInt8) (ka : k ≤ a)
    (hb : a + src.length = b) (bn : b ≤ n) :
    buffer.toList = (done ++ List.replicate (a - k) 0) ++ List.replicate src.length 0 ++
      List.replicate (n - b) 0 ∧ (done ++ List.replicate (a - k) (0 : UInt8)).length = a := by
  have room : n - k = a - k + (src.length + (n - b)) := by omega
  constructor
  · rw [h.whole, room, ← List.replicate_append_replicate, ← List.replicate_append_replicate]
    simp only [List.append_assoc]
  · rw [List.length_append, List.length_replicate, h.written]
    omega

theorem ZeroFrom.copy (h : ZeroFrom buffer k done) (a b : Nat) (src : List UInt8) (ka : k ≤ a)
    (hb : a + src.length = b) (bn : b ≤ n) : ∃ out, copyFromSlice buffer a b src = some out ∧
      ZeroFrom out b (done ++ List.replicate (a - k) 0 ++ src) := by
  obtain ⟨split, ha⟩ := h.split src ka hb bn
  obtain ⟨out, copied, whole⟩ := copyFromSlice_middle split ha
    (by rw [List.length_replicate, hb]) List.length_replicate.symm
  exact ⟨out, copied, by rw [List.length_append, ha, hb], bn, whole⟩

theorem ZeroFrom.store (h : ZeroFrom buffer k done) (a : Nat) (x : UInt8) (ka : k ≤ a)
    (an : a + 1 ≤ n) : ∃ out, store buffer a x = some out ∧
      ZeroFrom out (a + 1) (done ++ List.replicate (a - k) 0 ++ [x]) :=
  h.copy a (a + 1) [x] ka rfl an

end

theorem requestBuffer_eq (config : PingConfig) :
    ∃ request, requestBuffer config = some request ∧
      request.toList = requestFrame config 0 0 0 0 := by
  have gatewayMac : config.gatewayMac.toList.length = 6 := Vector.length_toList
  have mac : config.mac.toList.length = 6 := Vector.length_toList
  have address : config.address.toList.length = 4 := Vector.length_toList
  have target : config.target.toList.length = 4 := Vector.length_toList
  obtain ⟨_, h₁, z₁⟩ :=
    (ZeroFrom.start (n := 74)).copy 0 6 config.gatewayMac.toList (by decide) (by omega) (by decide)
  obtain ⟨_, h₂, z₂⟩ := z₁.copy 6 12 config.mac.toList (by decide) (by omega) (by decide)
  obtain ⟨_, h₃, z₃⟩ := z₂.copy 12 14 [0x08, 0x00] (by decide) rfl (by decide)
  obtain ⟨_, h₄, z₄⟩ := z₃.store 14 0x45 (by decide) (by decide)
  obtain ⟨_, h₅, z₅⟩ := z₄.copy 16 18 (toBeBytes (.ofNat (74 - 14))) (by decide) rfl (by decide)
  obtain ⟨_, h₆, z₆⟩ := z₅.store 22 64 (by decide) (by decide)
  obtain ⟨_, h₇, z₇⟩ := z₆.store 23 1 (by decide) (by decide)
  obtain ⟨_, h₈, z₈⟩ := z₇.copy 26 30 config.address.toList (by decide) (by omega) (by decide)
  obtain ⟨_, h₉, z₉⟩ := z₈.copy 30 34 config.target.toList (by decide) (by omega) (by decide)
  obtain ⟨_, h₁₀, z₁₀⟩ := z₉.store 34 8 (by decide) (by decide)
  obtain ⟨_, h₁₁, z₁₁⟩ := z₁₀.copy 38 40 (toBeBytes identifier) (by decide) rfl (by decide)
  obtain ⟨request, h₁₂, z₁₂⟩ := z₁₁.copy 42 74 echoData (by decide) rfl (by decide)
  refine ⟨request, ?_, ?_⟩
  · rw [requestBuffer, h₁, some_bind, h₂, some_bind, h₃, some_bind, h₄, some_bind, h₅, some_bind,
      h₆, some_bind, h₇, some_bind, h₈, some_bind, h₉, some_bind, h₁₀, some_bind, h₁₁, some_bind,
      h₁₂]
  · rw [z₁₂.whole]
    simp only [requestFrame, ipv4Header, icmpMessage, List.append_assoc]
    rfl

section
variable {config : PingConfig} {request : Vector UInt8 74}
  {identification ipChecksum icmpChecksum seqNo : UInt16}

theorem field_written {f : UInt16 → List UInt8} (pre post : List UInt8) {old : UInt16} {a b : Nat}
    (field : ∀ x, f x = pre ++ toBeBytes x ++ post) (whole : request.toList = f old)
    (ha : pre.length = a) (hb : a + 2 = b) (x : UInt16) :
    ∃ out, copyFromSlice request a b (toBeBytes x) = some out ∧ out.toList = f x := by
  rw [field] at whole ⊢
  exact copyFromSlice_middle whole ha hb rfl

/-- What lies ahead of the IPv4 header. -/
def ethernetHeader (config : PingConfig) : List UInt8 :=
  config.gatewayMac.toList ++ config.mac.toList ++ [0x08, 0x00]

theorem ethernetHeader_length : (ethernetHeader config).length = 14 := by
  simp [ethernetHeader]

theorem ipv4Header_length (checksum : UInt16) :
    (ipv4Header config identification checksum).length = 20 := by
  simp [ipv4Header]

theorem icmpMessage_length (checksum : UInt16) : (icmpMessage checksum seqNo).length = 40 := by
  simp [icmpMessage, echoData]

theorem identification_written
    (whole : request.toList = requestFrame config identification ipChecksum icmpChecksum seqNo)
    (x : UInt16) : ∃ out, copyFromSlice request 18 20 (toBeBytes x) = some out ∧
      out.toList = requestFrame config x ipChecksum icmpChecksum seqNo := by
  refine field_written (f := fun x => requestFrame config x ipChecksum icmpChecksum seqNo)
    (ethernetHeader config ++ ([0x45, 0] ++ toBeBytes 60))
    ([0, 0, 64, 1] ++ toBeBytes ipChecksum ++ config.address.toList ++
      config.target.toList ++ icmpMessage icmpChecksum seqNo)
    (fun x => ?_) whole ?_ rfl x
  · simp only [requestFrame, ipv4Header, ethernetHeader, List.append_assoc]
  · rw [List.length_append, ethernetHeader_length]
    rfl

theorem ipChecksum_written
    (whole : request.toList = requestFrame config identification ipChecksum icmpChecksum seqNo)
    (x : UInt16) : ∃ out, copyFromSlice request 24 26 (toBeBytes x) = some out ∧
      out.toList = requestFrame config identification x icmpChecksum seqNo := by
  refine field_written (f := fun x => requestFrame config identification x icmpChecksum seqNo)
    (ethernetHeader config ++
      ([0x45, 0] ++ toBeBytes 60 ++ toBeBytes identification ++ [0, 0, 64, 1]))
    (config.address.toList ++ config.target.toList ++ icmpMessage icmpChecksum seqNo)
    (fun x => ?_) whole ?_ rfl x
  · simp only [requestFrame, ipv4Header, ethernetHeader, List.append_assoc]
  · rw [List.length_append, ethernetHeader_length]
    rfl

theorem icmpChecksum_written
    (whole : request.toList = requestFrame config identification ipChecksum icmpChecksum seqNo)
    (x : UInt16) : ∃ out, copyFromSlice request 36 38 (toBeBytes x) = some out ∧
      out.toList = requestFrame config identification ipChecksum x seqNo := by
  refine field_written (f := fun x => requestFrame config identification ipChecksum x seqNo)
    (ethernetHeader config ++ ipv4Header config identification ipChecksum ++ [8, 0])
    (toBeBytes identifier ++ toBeBytes seqNo ++ echoData)
    (fun x => ?_) whole ?_ rfl x
  · simp only [requestFrame, icmpMessage, ethernetHeader, List.append_assoc]
  · rw [List.length_append, List.length_append, ethernetHeader_length, ipv4Header_length]
    rfl

theorem seqNo_written
    (whole : request.toList = requestFrame config identification ipChecksum icmpChecksum seqNo)
    (x : UInt16) : ∃ out, copyFromSlice request 40 42 (toBeBytes x) = some out ∧
      out.toList = requestFrame config identification ipChecksum icmpChecksum x := by
  refine field_written
    (f := fun x => requestFrame config identification ipChecksum icmpChecksum x)
    (ethernetHeader config ++ ipv4Header config identification ipChecksum ++
      ([8, 0] ++ toBeBytes icmpChecksum ++ toBeBytes identifier))
    echoData
    (fun x => ?_) whole ?_ rfl x
  · simp only [requestFrame, icmpMessage, ethernetHeader, List.append_assoc]
  · rw [List.length_append, List.length_append, ethernetHeader_length, ipv4Header_length]
    rfl

theorem slice_header :
    slice (requestFrame config identification ipChecksum icmpChecksum seqNo) 14 34 =
      some (ipv4Header config identification ipChecksum) := by
  have split : requestFrame config identification ipChecksum icmpChecksum seqNo =
      ethernetHeader config ++ ipv4Header config identification ipChecksum ++
        icmpMessage icmpChecksum seqNo := rfl
  exact slice_middle split ethernetHeader_length (by rw [ipv4Header_length])

theorem slice_message :
    slice (requestFrame config identification ipChecksum icmpChecksum seqNo) 34 74 =
      some (icmpMessage icmpChecksum seqNo) := by
  have split : requestFrame config identification ipChecksum icmpChecksum seqNo =
      ethernetHeader config ++ ipv4Header config identification ipChecksum ++
        icmpMessage icmpChecksum seqNo ++ [] := by
    rw [List.append_nil]
    rfl
  refine slice_middle split ?_ (by rw [icmpMessage_length])
  rw [List.length_append, ethernetHeader_length, ipv4Header_length]

/-- Nothing of what the four fields held before is left. -/
theorem patchRequest_eq {fuel : Nat} (enough : 3 ≤ fuel)
    (whole : request.toList = requestFrame config identification ipChecksum icmpChecksum seqNo)
    (sequence : UInt16) :
    ∃ out, patchRequest fuel request sequence = .ok out ∧
      out.toList = echoRequest config sequence := by
  obtain ⟨r₁, h₁, w₁⟩ := identification_written whole sequence
  obtain ⟨r₂, h₂, w₂⟩ := ipChecksum_written w₁ 0
  have header : internetChecksum fuel (ipv4Header config sequence 0) = .ok _ :=
    internetChecksum_eq (by rw [ipv4Header_length]; decide) enough
  obtain ⟨r₃, h₃, w₃⟩ := ipChecksum_written w₂ (rfc1071 (ipv4Header config sequence 0))
  obtain ⟨r₄, h₄, w₄⟩ := seqNo_written w₃ sequence
  obtain ⟨r₅, h₅, w₅⟩ := icmpChecksum_written w₄ 0
  have message : internetChecksum fuel (icmpMessage 0 sequence) = .ok _ :=
    internetChecksum_eq (by rw [icmpMessage_length]; decide) enough
  obtain ⟨r₆, h₆, w₆⟩ := icmpChecksum_written w₅ (rfc1071 (icmpMessage 0 sequence))
  have f₂ : fill r₁ 24 26 0 = some r₂ := h₂
  have f₅ : fill r₄ 36 38 0 = some r₅ := h₅
  refine ⟨r₆, ?_, w₆⟩
  rw [patchRequest, h₁, orPanic_bind, f₂, orPanic_bind, w₂, slice_header, orPanic_bind, header,
    ok_bind, h₃, orPanic_bind, h₄, orPanic_bind, f₅, orPanic_bind, w₅, slice_message, orPanic_bind,
    message, ok_bind, h₆, orPanic_some]

end

/-- A request, field by field. -/
def requestFields (config : PingConfig) (sequence : UInt16) : List (List UInt8) :=
  [config.gatewayMac.toList, config.mac.toList, [0x08, 0x00], [0x45], [0], toBeBytes 60,
    toBeBytes sequence, [0, 0, 64], [1], toBeBytes (rfc1071 (ipv4Header config sequence 0)),
    config.address.toList, config.target.toList, [8, 0],
    toBeBytes (rfc1071 (icmpMessage 0 sequence)), toBeBytes identifier, toBeBytes sequence,
    echoData]

theorem requestFields_flatten (config : PingConfig) (sequence : UInt16) :
    (requestFields config sequence).flatten = echoRequest config sequence := by
  simp [requestFields, echoRequest, requestFrame, ipv4Header, icmpMessage]

/-- A valid echo request on the wire. -/
structure ValidRequest (config : PingConfig) (sequence : UInt16) (frame : List UInt8) : Prop where
  length : frame.length = 74
  destination : slice frame 0 6 = some config.gatewayMac.toList
  source : slice frame 6 12 = some config.mac.toList
  etherType : slice frame 12 14 = some [0x08, 0x00]
  versionIhl : slice frame 14 15 = some [0x45]
  totalLength : slice frame 16 18 = some (toBeBytes 60)
  identification : slice frame 18 20 = some (toBeBytes sequence)
  protocol : slice frame 23 24 = some [1]
  sourceAddress : slice frame 26 30 = some config.address.toList
  targetAddress : slice frame 30 34 = some config.target.toList
  headerSum : (slice frame 14 34).map onesSum = some u16Max
  typeCode : slice frame 34 36 = some [8, 0]
  identifier : slice frame 38 40 = some (toBeBytes identifier)
  seqNo : slice frame 40 42 = some (toBeBytes sequence)
  messageSum : (slice frame 34 74).map onesSum = some u16Max

theorem ipv4Header_sum (config : PingConfig) (sequence : UInt16) :
    onesSum (ipv4Header config sequence (rfc1071 (ipv4Header config sequence 0))) = u16Max := by
  have split (x : UInt16) : ipv4Header config sequence x =
      ([0x45, 0] ++ toBeBytes 60 ++ toBeBytes sequence ++ [0, 0, 64, 1]) ++ toBeBytes x ++
        (config.address.toList ++ config.target.toList) := by
    simp only [ipv4Header, List.append_assoc]
  rw [split, split 0]
  exact onesSum_stored _ _ (by simp)

theorem icmpMessage_sum (sequence : UInt16) :
    onesSum (icmpMessage (rfc1071 (icmpMessage 0 sequence)) sequence) = u16Max := by
  have split (x : UInt16) : icmpMessage x sequence =
      [8, 0] ++ toBeBytes x ++ (toBeBytes identifier ++ toBeBytes sequence ++ echoData) := by
    simp only [icmpMessage, List.append_assoc]
  rw [split, split 0]
  exact onesSum_stored [8, 0] _ rfl

theorem echoRequest_valid (config : PingConfig) (sequence : UInt16) :
    ValidRequest config sequence (echoRequest config sequence) := by
  have field {k a b : Nat} {bytes : List UInt8}
      (there : (requestFields config sequence)[k]? = some bytes)
      (ha : ((requestFields config sequence).take k).flatten.length = a)
      (hb : a + bytes.length = b) : slice (echoRequest config sequence) a b = some bytes :=
    requestFields_flatten config sequence ▸ slice_flatten there ha hb
  exact {
    length := by simp [echoRequest, requestFrame, ipv4Header, icmpMessage, echoData]
    destination := field (k := 0) rfl rfl (by simp)
    source := field (k := 1) rfl (by simp [requestFields]) (by simp)
    etherType := field (k := 2) rfl (by simp [requestFields]) rfl
    versionIhl := field (k := 3) rfl (by simp [requestFields]) rfl
    totalLength := field (k := 5) rfl (by simp [requestFields]) rfl
    identification := field (k := 6) rfl (by simp [requestFields]) rfl
    protocol := field (k := 8) rfl (by simp [requestFields]) rfl
    sourceAddress := field (k := 10) rfl (by simp [requestFields]) (by simp)
    targetAddress := field (k := 11) rfl (by simp [requestFields]) (by simp)
    headerSum := by rw [echoRequest, slice_header, Option.map_some, ipv4Header_sum]
    typeCode := field (k := 12) rfl (by simp [requestFields]) rfl
    identifier := field (k := 14) rfl (by simp [requestFields]) rfl
    seqNo := field (k := 15) rfl (by simp [requestFields]) rfl
    messageSum := by rw [echoRequest, slice_message, Option.map_some, icmpMessage_sum] }

/-- The request an effect sends; an ARP reply is shorter. -/
def Effect.request : Effect → Option (List UInt8)
  | .transmit frame => if frame.length = 74 then some frame else none
  | _ => none

def requests (written : List Effect) : List (List UInt8) := written.filterMap Effect.request

/-- The first requests of a series. -/
def series (config : PingConfig) (count : Nat) : List (List UInt8) :=
  (List.range' 1 count).map fun sequence => echoRequest config (.ofNat sequence)

theorem requests_append (past out : List Effect) :
    requests (past ++ out) = requests past ++ requests out :=
  List.filterMap_append

@[simp] theorem requests_nil : requests [] = [] := rfl

@[simp] theorem requests_write (line : Line) (out : List Effect) :
    requests (.write line :: out) = requests out := rfl

@[simp] theorem requests_transmit {n : Nat} (frame : Vector UInt8 n) (out : List Effect) :
    requests (.transmit frame.toList :: out) =
      (if n = 74 then [frame.toList] else []) ++ requests out := by
  have one : (Effect.transmit frame.toList).request = if n = 74 then some frame.toList else none := by
    simp only [Effect.request, Vector.length_toList]
  unfold requests
  by_cases h : n = 74
  · rw [List.filterMap_cons_some (one.trans (if_pos h)), if_pos h]
    rfl
  · rw [List.filterMap_cons_none (one.trans (if_neg h)), if_neg h]
    rfl

theorem series_succ (config : PingConfig) (count : Nat) :
    series config (count + 1) = series config count ++ [echoRequest config (.ofNat (count + 1))] := by
  rw [series, series, List.range'_1_concat, List.map_append, Nat.add_comm 1 count]
  rfl

namespace RunPingSeries

variable {mtu : Mtu} {fuel : Nat} {config : PingConfig} {count : UInt16} {s t : RunPingSeries}
  {written : List Effect}

/-- A request is in the buffer and not sent. -/
def Point.ready : Point → Bool
  | .clock | .send => true
  | _ => false

/-- The `for` loop is over. -/
def Point.ended : Point → Bool
  | .diagnostics | .returned _ => true
  | _ => false

/-- Every request up to the current sequence number went out, each as it should. -/
structure Sent (config : PingConfig) (count : UInt16) (written : List Effect)
    (s : RunPingSeries) : Prop where
  configured : s.config = config
  counted : s.sampleCount = count
  le : s.sequence ≤ count.toNat
  shape : ∃ identification ipChecksum icmpChecksum seqNo,
    s.request.toList = requestFrame config identification ipChecksum icmpChecksum seqNo
  sent : requests written = series config s.sequence

/-- The next request is in the buffer. -/
structure Ready (config : PingConfig) (count : UInt16) (written : List Effect)
    (s : RunPingSeries) : Prop where
  configured : s.config = config
  counted : s.sampleCount = count
  le : s.sequence ≤ count.toNat
  request : s.request.toList = echoRequest config (.ofNat s.sequence)
  sent : ∃ before, s.sequence = before + 1 ∧ requests written = series config before

structure Requesting (config : PingConfig) (count : UInt16) (written : List Effect)
    (s : RunPingSeries) : Prop where
  going : ∀ why, s.point ≠ .stopped why
  ready : s.point.ready = true → Ready config count written s
  sent : s.point.ready = false → Sent config count written s
  ended : s.point.ended = true → s.sequence = count.toNat

theorem Sent.requesting (h : Sent config count written s) (going : ∀ why, s.point ≠ .stopped why)
    (sent : s.point.ready = false) (running : s.point.ended = false) :
    Requesting config count written s where
  going := going
  ready := fun ready => absurd (sent.symm.trans ready) Bool.false_ne_true
  sent := fun _ => h
  ended := fun ended => absurd (running.symm.trans ended) Bool.false_ne_true

/-- Effects that are no requests change nothing. -/
theorem Sent.quiet (h : Sent config count written s) (out : List Effect)
    (quiet : requests out = []) :
    Sent config count (written ++ out) s :=
  { h with sent := by rw [requests_append, quiet, List.append_nil, h.sent] }

theorem Sent.advance (h : Sent config count written s) (enough : 3 ≤ fuel) :
    Requesting config count (written ++ (s.advance fuel).2) (s.advance fuel).1 := by
  unfold RunPingSeries.advance
  by_cases more : s.sequence < s.sampleCount.toNat
  · obtain ⟨_, _, _, _, whole⟩ := h.shape
    obtain ⟨request, patched, holds⟩ :=
      patchRequest_eq enough whole (.ofNat (s.sequence + 1))
    rw [if_pos more, patched]
    refine ⟨nofun, fun _ => ?_, nofun, nofun⟩
    exact {
      configured := h.configured
      counted := h.counted
      le := h.counted ▸ more
      request := holds
      sent := ⟨s.sequence, rfl, (h.quiet [_] rfl).sent⟩ }
  · rw [if_neg more]
    have last := h.le
    rw [h.counted] at more
    refine ⟨nofun, nofun, fun _ => ?_, fun _ => by change s.sequence = _; omega⟩
    exact { h.quiet [] rfl with }

theorem Sent.nextTurn (h : Sent config count written s) (enough : 3 ≤ fuel) :
    Requesting config count (written ++ (s.nextTurn fuel).2) (s.nextTurn fuel).1 := by
  unfold RunPingSeries.nextTurn
  split
  · rw [List.append_nil]
    exact Sent.requesting { h with } nofun rfl rfl
  · have := (h.quiet [.write (.status .timeout)] rfl).advance enough
    rwa [List.append_assoc] at this

/-- Once its request is out, a sample has been sent. -/
theorem Ready.transmit (h : Ready config count written s) :
    Sent config count (written ++ [.transmit s.request.toList]) s := by
  obtain ⟨before, number, sent⟩ := h.sent
  refine ⟨h.configured, h.counted, h.le, ⟨_, _, _, _, h.request⟩, ?_⟩
  rw [requests_append, sent, requests_transmit, if_pos rfl, requests_nil, List.append_nil, h.request,
    number, series_succ]

theorem Ready.refuse (h : Ready config count written s) (enough : 3 ≤ fuel) :
    Requesting config count (written ++ .transmit s.request.toList ::
      .write (.status .txError) :: (s.refused.advance fuel).2) (s.refused.advance fuel).1 := by
  have refused := h.transmit.quiet [.write (.status .txError)] rfl
  have next : Requesting config count _ (s.refused.advance fuel).1 :=
    Sent.advance { refused with } enough
  rwa [List.append_assoc, List.append_assoc] at next

theorem Sent.finish (h : Sent config count written s) (enough : 3 ≤ fuel) (rttMs : Nat) :
    Requesting config count (written ++ .write (.status (.ok rttMs)) ::
      ((s.answered rttMs).advance fuel).2) ((s.answered rttMs).advance fuel).1 := by
  have answered := h.quiet [.write (.status (.ok rttMs))] rfl
  have next : Requesting config count _ ((s.answered rttMs).advance fuel).1 :=
    Sent.advance { answered with } enough
  rwa [List.append_assoc] at next

theorem Sent.conclude (h : Sent config count written s) (last : s.sequence = count.toNat)
    (queue : RxQueueDiagnostics) :
    Requesting config count (written ++ (s.conclude queue).2) (s.conclude queue).1 :=
  ⟨nofun, nofun, fun _ => { h.quiet _ rfl with }, fun _ => last⟩

theorem step_requesting {input : Input mtu} {out : List Effect} (enough : 3 ≤ fuel)
    (h : runPingSeries fuel s input = some (t, out)) (before : Requesting config count written s) :
    Requesting config count (written ++ out) t := by
  cases step_cases h with
  | clock at_point ms =>
    have ready := before.ready (by rw [at_point]; rfl)
    rw [List.append_nil]
    exact ⟨nofun, fun _ => { ready with }, nofun, nofun⟩
  | send at_point =>
    have sent := (before.ready (by rw [at_point]; rfl)).transmit
    exact Sent.requesting { sent with } nofun rfl rfl
  | refuse at_point => exact (before.ready (by rw [at_point]; rfl)).refuse enough
  | idle at_point =>
    have sent := before.sent (by rw [at_point]; rfl)
    rw [List.append_nil]
    exact Sent.requesting { sent with } nofun rfl rfl
  | arp at_point length frame reply _ =>
    have sent := before.sent (by rw [at_point]; rfl)
    have replied : requests [.transmit reply.toList] = [] := requests_transmit reply []
    have := (sent.quiet _ replied).nextTurn enough
    rwa [List.append_assoc] at this
  | reply at_point length frame _ =>
    have sent := before.sent (by rw [at_point]; rfl)
    rw [List.append_nil]
    exact Sent.requesting { sent with } nofun rfl rfl
  | discard at_point length frame =>
    have sent := before.sent (by rw [at_point]; rfl)
    rw [List.append_nil]
    exact Sent.requesting { sent with } nofun rfl rfl
  | finish at_point ms => exact (before.sent (by rw [at_point]; rfl)).finish enough _
  | resume at_point => exact (before.sent (by rw [at_point]; rfl)).nextTurn enough
  | conclude at_point queue =>
    exact (before.sent (by rw [at_point]; rfl)).conclude
      (before.ended (by rw [at_point]; rfl)) queue

theorem begin_requesting (enough : 3 ≤ fuel) (config : PingConfig) (count : UInt16) :
    Requesting config count (begin fuel config count).2 (begin fuel config count).1 := by
  obtain ⟨request, built, holds⟩ := requestBuffer_eq config
  unfold begin
  rw [built]
  have start : Sent config count [.write (.pingSeriesBegin config.target config.gateway count.toNat),
      .resetRxQueueDiagnostics] {
        config := config
        sampleCount := count
        request := request
        sequence := 0
        startedAt := 0
        turn := 0
        stats := .default
        point := .stopped .panicked } :=
    ⟨rfl, rfl, Nat.zero_le _, ⟨0, 0, 0, 0, holds⟩, rfl⟩
  exact start.advance enough

theorem run_requesting (enough : 3 ≤ fuel) {ms : List (Pinging mtu)}
    (run : Run (runPingSeries fuel) (begin fuel config count).1 ms s) :
    Requesting config count ((begin fuel config count).2 ++ effects ms) s := by
  refine run.history (P := fun ms s =>
    Requesting config count ((begin fuel config count).2 ++ effects ms) s) ?_ ?_
  · rw [effects_nil, List.append_nil]
    exact begin_requesting enough config count
  · intro ms u input v out _ before step
    rw [effects_append, effects_singleton, ← List.append_assoc]
    exact step_requesting enough step before

theorem advance_quiet (s : RunPingSeries) : requests (s.advance fuel).2 = [] := by
  unfold RunPingSeries.advance
  split
  · split <;> rfl
  · rfl

theorem nextTurn_quiet (s : RunPingSeries) : requests (s.nextTurn fuel).2 = [] := by
  unfold RunPingSeries.nextTurn
  split
  · rfl
  · rw [requests_write, advance_quiet]

/-- Only the `transmit` of a sample sends a request, the one in the buffer. -/
theorem request_sent {input : Input mtu} {out : List Effect} {frame : List UInt8}
    (h : runPingSeries fuel s input = some (t, out)) (sent : frame ∈ requests out) :
    s.point.ready = true ∧ frame = s.request.toList := by
  cases step_cases h with
  | send at_point =>
    rw [requests_transmit, if_pos rfl] at sent
    exact ⟨by rw [at_point]; rfl, List.mem_singleton.mp sent⟩
  | refuse at_point =>
    rw [requests_transmit, if_pos rfl, requests_write, advance_quiet] at sent
    exact ⟨by rw [at_point]; rfl, List.mem_singleton.mp sent⟩
  | arp at_point length packet reply _ =>
    rw [requests_transmit, nextTurn_quiet] at sent
    exact absurd sent List.not_mem_nil
  | finish at_point ms =>
    rw [requests_write, advance_quiet] at sent
    exact absurd sent List.not_mem_nil
  | resume at_point => exact absurd sent (nextTurn_quiet s ▸ List.not_mem_nil)
  | _ => exact absurd sent List.not_mem_nil

end RunPingSeries

open RunPingSeries

/-- Every request that goes out is the valid one of its sequence number, and
they go out in order: all of them by the time the series returns. -/
theorem run_ping_series_requests (mtu : Mtu) (fuel : Nat) (enough : 3 ≤ fuel) (config : PingConfig)
    (count : UInt16) (ms : List (Pinging mtu)) (s : RunPingSeries)
    (run : Run (runPingSeries fuel) (begin fuel config count).1 ms s) :
    (∀ why, s.point ≠ .stopped why) ∧
    (∀ m ∈ ms, ∀ frame, .transmit frame ∈ m.effects → frame.length = 74 →
      1 ≤ m.before.sequence ∧ m.before.sequence ≤ count.toNat ∧
        frame = echoRequest config (.ofNat m.before.sequence) ∧
        ValidRequest config (.ofNat m.before.sequence) frame) ∧
    ∃ sent ≤ count.toNat, requests ((begin fuel config count).2 ++ effects ms) =
        series config sent ∧
      ((∃ stats, s.point = .returned stats) → sent = count.toNat) := by
  have now := run_requesting enough run
  refine ⟨now.going, ?_, ?_⟩
  · intro m hm frame transmitted long
    obtain ⟨pre, post, rfl⟩ := List.append_of_mem hm
    obtain ⟨first, step, -⟩ := run.at_move
    have sent : frame ∈ requests m.effects :=
      List.mem_filterMap.mpr ⟨_, transmitted, if_pos long⟩
    obtain ⟨ready, rfl⟩ := request_sent step sent
    have h := (run_requesting enough first).ready ready
    obtain ⟨before, number, -⟩ := h.sent
    refine ⟨by omega, h.le, h.request, ?_⟩
    rw [h.request]
    exact echoRequest_valid _ _
  · by_cases ready : s.point.ready = true
    · have h := now.ready ready
      obtain ⟨before, number, sent⟩ := h.sent
      have := h.le
      refine ⟨before, by omega, sent, ?_⟩
      rintro ⟨stats, returned⟩
      rw [returned] at ready
      cases ready
    · have h := now.sent (by simpa using ready)
      refine ⟨s.sequence, h.le, h.sent, ?_⟩
      rintro ⟨stats, returned⟩
      exact now.ended (by rw [returned]; rfl)

/-- A station and its gateway, with 1.1.1.1 as the target. -/
def plainConfig : PingConfig := {
  mac := #v[2, 0, 0, 0, 0, 1]
  address := #v[192, 168, 4, 2]
  gateway := #v[192, 168, 4, 1]
  gatewayMac := #v[2, 0, 0, 0, 0, 2]
  target := #v[1, 1, 1, 1] }

def plainMtu : Mtu := ⟨1514, by decide⟩

def refusedScript : List (Input plainMtu) :=
  [.clock 5, .transmit false, .clock 7, .transmit false, .diagnostics ⟨0, 1, 0, 0, 0⟩]

/-- Both requests go out, though neither is taken. -/
theorem run_ping_series_requests_refused :
    ∃ (ms : List (Pinging plainMtu)) (s : RunPingSeries),
      Run (runPingSeries 3) (begin 3 plainConfig 2).1 ms s ∧
      inputs ms = refusedScript ∧
      requests ((begin 3 plainConfig 2).2 ++ effects ms) = series plainConfig 2 := by
  obtain ⟨ms, s, run, script, returned⟩ :=
    exec_reaches (runPingSeries 3) (begin 3 plainConfig 2).1 refusedScript
      (fun s => s.point matches .returned _) (by decide +kernel)
  obtain ⟨-, -, sent, -, all, last⟩ :=
    run_ping_series_requests plainMtu 3 (by decide) plainConfig 2 ms s run
  obtain rfl := last (by
    split at returned
    · rename_i stats at_point
      exact ⟨stats, at_point⟩
    · cases returned)
  exact ⟨ms, s, run, script, all⟩

end Ws63Examples.InitSmoke.FullInit
