import Ws63Examples.Lib.Bits
import Ws63Examples.Lib.Slice

/-! DNS query and response validation. -/

namespace Ws63Examples.Connectivity

open Bits Slice

/-- The labels of `example.com`, each behind its length. -/
def queryName : List UInt8 := [7, 101, 120, 97, 109, 112, 108, 101, 3, 99, 111, 109, 0]

def queryLen : Nat := 12 + queryName.length + 4

structure ValidResponse where
  answerCount : UInt16
  deriving DecidableEq, Repr

inductive ResponseError where
  | truncated
  | transactionId
  | notResponse
  | opcode
  | truncatedResponse
  | responseCode
  | questionCount
  | question
  | noAnswers
  deriving DecidableEq, Repr

/-- `none` would be a range out of bounds. -/
def buildQuery (transactionId : UInt16) : Option (Vector UInt8 queryLen) := do
  let query := Vector.replicate queryLen 0
  let query ← copyFromSlice query 0 2 (toBeBytes transactionId)
  let query ← copyFromSlice query 2 4 (toBeBytes 0x0100)
  let query ← copyFromSlice query 4 6 (toBeBytes 1)
  let query ← copyFromSlice query 12 (12 + queryName.length) queryName
  let questionTail := 12 + queryName.length
  let query ← copyFromSlice query questionTail (questionTail + 2) (toBeBytes 1)
  copyFromSlice query (questionTail + 2) (questionTail + 4) (toBeBytes 1)

/-- `none` would be an index out of range. -/
def validateResponse (response : List UInt8) (transactionId : UInt16) :
    Option (Except ResponseError ValidResponse) := do
  if response.length < queryLen then return .error .truncated
  if fromBeBytes (← response[0]?) (← response[1]?) ≠ transactionId then
    return .error .transactionId
  let flags := fromBeBytes (← response[2]?) (← response[3]?)
  if flags &&& 0x8000 = 0 then return .error .notResponse
  if flags &&& 0x7800 ≠ 0 then return .error .opcode
  if flags &&& 0x0200 ≠ 0 then return .error .truncatedResponse
  if flags &&& 0x000f ≠ 0 then return .error .responseCode
  if fromBeBytes (← response[4]?) (← response[5]?) ≠ 1 then return .error .questionCount
  let expectedQuestion ← buildQuery transactionId
  if (← slice response 12 queryLen) ≠ (← slice expectedQuestion.toList 12 queryLen) then
    return .error .question
  let answerCount := fromBeBytes (← response[6]?) (← response[7]?)
  if answerCount = 0 then return .error .noAnswers
  return .ok ⟨answerCount⟩

/-- The question every query asks: type A, class IN. -/
def question : List UInt8 := queryName ++ [0, 1, 0, 1]

theorem buildQuery_eq (id : UInt16) :
    ∃ query, buildQuery id = some query ∧
      query.toList = toBeBytes id ++ [1, 0, 0, 1, 0, 0, 0, 0, 0, 0] ++ question := by
  obtain ⟨q₁, h₁, l₁⟩ := copyFromSlice_toList (Vector.replicate queryLen 0)
    (show 0 ≤ 2 by decide) (by decide) (toBeBytes_length id)
  obtain ⟨q₂, h₂, l₂⟩ := copyFromSlice_toList q₁ (show 2 ≤ 4 by decide) (by decide)
    (toBeBytes_length 0x0100)
  obtain ⟨q₃, h₃, l₃⟩ := copyFromSlice_toList q₂ (show 4 ≤ 6 by decide) (by decide)
    (toBeBytes_length 1)
  obtain ⟨q₄, h₄, l₄⟩ := copyFromSlice_toList q₃ (show 12 ≤ 12 + queryName.length by decide)
    (by decide) (show queryName.length = _ by decide)
  obtain ⟨q₅, h₅, l₅⟩ := copyFromSlice_toList q₄
    (show 12 + queryName.length ≤ 12 + queryName.length + 2 by decide) (by decide)
    (toBeBytes_length 1)
  obtain ⟨q₆, h₆, l₆⟩ := copyFromSlice_toList q₅
    (show 12 + queryName.length + 2 ≤ 12 + queryName.length + 4 by decide) (by decide)
    (toBeBytes_length 1)
  refine ⟨q₆, by
    unfold buildQuery
    simp only [Option.bind_eq_bind]
    rw [h₁, Option.bind_some, h₂, Option.bind_some, h₃, Option.bind_some, h₄, Option.bind_some,
      h₅, Option.bind_some, h₆], ?_⟩
  rw [l₆, l₅, l₄, l₃, l₂, l₁, Vector.toList_replicate]
  simp [toBeBytes, question, queryName, queryLen, List.replicate_succ]

/-- The big-endian word at byte `i`, zero past the end. -/
def wordAt (message : List UInt8) (i : Nat) : Nat :=
  (message.getD i 0).toNat * 256 + (message.getD (i + 1) 0).toNat

/-- What the fixed header says, field by field. -/
structure Header where
  id : Nat
  qr : Nat
  opcode : Nat
  tc : Nat
  rcode : Nat
  qdcount : Nat
  ancount : Nat
  deriving DecidableEq, Repr

def Header.read (message : List UInt8) : Header where
  id := wordAt message 0
  qr := field (wordAt message 2) 15 1
  opcode := field (wordAt message 2) 11 4
  tc := field (wordAt message 2) 9 1
  rcode := field (wordAt message 2) 0 4
  qdcount := wordAt message 4
  ancount := wordAt message 6

/-- The grammar of an acceptable response: each condition with the error of
its violation, in the order of the checks. -/
def conditions (message : List UInt8) (id : UInt16) : List (ResponseError × Bool) :=
  let header := Header.read message
  [(.truncated, queryLen ≤ message.length),
   (.transactionId, header.id = id.toNat),
   (.notResponse, header.qr = 1),
   (.opcode, header.opcode = 0),
   (.truncatedResponse, header.tc = 0),
   (.responseCode, header.rcode = 0),
   (.questionCount, header.qdcount = 1),
   (.question, (message.take queryLen).drop 12 = question),
   (.noAnswers, 0 < header.ancount)]

/-- The error of the first violated condition. -/
def firstViolation (message : List UInt8) (id : UInt16) : Option ResponseError :=
  ((conditions message id).find? fun c => !c.2).map Prod.fst

theorem fromBeBytes_wordAt (message : List UInt8) (i : Nat) :
    (fromBeBytes (message.getD i 0) (message.getD (i + 1) 0)).toNat = wordAt message i :=
  fromBeBytes_toNat _ _

/-- One word comparison of the code is one of the grammar. -/
theorem word_eq_iff (message : List UInt8) (i : Nat) (x : UInt16) :
    fromBeBytes (message.getD i 0) (message.getD (i + 1) 0) = x ↔
      wordAt message i = x.toNat := by
  rw [← UInt16.toNat_inj, fromBeBytes_wordAt]

/-- One mask test of the code is one field test of the grammar. -/
theorem flags_eq_zero (message : List UInt8) (mask : UInt16) (lo len : Nat)
    (hm : mask.toNat = (2 ^ len - 1) <<< lo) :
    fromBeBytes (message.getD 2 0) (message.getD 3 0) &&& mask = 0 ↔
      field (wordAt message 2) lo len = 0 := by
  rw [← UInt16.toNat_inj, UInt16.toNat_and, hm, fromBeBytes_wordAt message 2, UInt16.toNat_zero,
    and_mask_eq_zero]

theorem field_one_eq_zero (x lo : Nat) : field x lo 1 = 0 ↔ ¬ field x lo 1 = 1 := by
  unfold field
  omega

theorem getElem?_getD {message : List UInt8} {i : Nat} (h : i < message.length) :
    message[i]? = some (message.getD i 0) := by
  simp [h]

/-- The first violation is that of the head, or of the rest when it holds. -/
theorem find_violation (e : ResponseError) (p : Prop) [Decidable p]
    (rest : List (ResponseError × Bool)) :
    (((e, decide p) :: rest).find? fun c => !c.2).map Prod.fst =
      if p then (rest.find? fun c => !c.2).map Prod.fst else some e := by
  by_cases h : p <;> simp [h]

/-- The answer a grammar verdict stands for. -/
def answerOf (message : List UInt8) : Option ResponseError → Except ResponseError ValidResponse
  | some error => .error error
  | none => .ok ⟨.ofNat (Header.read message).ancount⟩

theorem answerOf_ite (message : List UInt8) (p : Prop) [Decidable p] (v : Option ResponseError)
    (e : ResponseError) :
    some (answerOf message (if p then v else some e)) =
      if p then some (answerOf message v) else some (.error e) := by
  split <;> rfl

/-- The code is the grammar: no index is out of range, and the answer is the
first violation or the answer count. -/
theorem validateResponse_eq (message : List UInt8) (id : UInt16) :
    validateResponse message id = some (answerOf message (firstViolation message id)) := by
  by_cases short : message.length < queryLen
  · have : ¬ queryLen ≤ message.length := by omega
    simp [validateResponse, short, firstViolation, conditions, answerOf, this]
  · have long : 29 ≤ message.length := by
      simpa [queryLen, queryName] using short
    have enough : queryLen ≤ message.length := by omega
    obtain ⟨query, hquery, hlist⟩ := buildQuery_eq id
    have asked : slice query.toList 12 queryLen = some question := by
      rw [slice_of_le _ (by decide) (by simp), hlist]
      simp [toBeBytes, queryLen, queryName, question]
    have given : slice message 12 queryLen = some ((message.take queryLen).drop 12) :=
      slice_of_le _ (by decide) enough
    unfold validateResponse
    rw [if_neg short]
    simp only [getElem?_getD (show 0 < message.length by omega),
      getElem?_getD (show 1 < message.length by omega),
      getElem?_getD (show 2 < message.length by omega),
      getElem?_getD (show 3 < message.length by omega),
      getElem?_getD (show 4 < message.length by omega),
      getElem?_getD (show 5 < message.length by omega),
      getElem?_getD (show 6 < message.length by omega),
      getElem?_getD (show 7 < message.length by omega),
      Option.bind_eq_bind, Option.bind_some, hquery, asked, given]
    have hqr := flags_eq_zero message 0x8000 15 1 rfl
    have hop := flags_eq_zero message 0x7800 11 4 rfl
    have htc := flags_eq_zero message 0x0200 9 1 rfl
    have hrc := flags_eq_zero message 0x000f 0 4 rfl
    have hid := word_eq_iff message 0 id
    have hqd : fromBeBytes (message.getD 4 0) (message.getD 5 0) = 1 ↔ wordAt message 4 = 1 :=
      word_eq_iff message 4 1
    have hzero : fromBeBytes (message.getD 6 0) (message.getD 7 0) = 0 ↔
        ¬ 0 < wordAt message 6 := by
      rw [word_eq_iff message 6 0, UInt16.toNat_zero, Nat.not_lt, Nat.le_zero]
    have han : fromBeBytes (message.getD 6 0) (message.getD 7 0) = .ofNat (wordAt message 6) := by
      rw [← fromBeBytes_wordAt message 6, UInt16.ofNat_toNat]
    rw [field_one_eq_zero] at hqr
    rw [firstViolation, conditions]
    simp only [find_violation, answerOf_ite]
    rw [if_pos enough]
    simp only [Header.read]
    simp only [ne_eq, ite_not, hid, hqr, hop, htc, hrc, hqd, hzero, Option.pure_def]
    rw [han]
    rfl

theorem firstViolation_eq_none (message : List UInt8) (id : UInt16) :
    firstViolation message id = none ↔ ∀ c ∈ conditions message id, c.2 = true := by
  simp [firstViolation]

theorem firstViolation_eq_some (message : List UInt8) (id : UInt16) (e : ResponseError) :
    firstViolation message id = some e ↔
      ∃ before after, conditions message id = before ++ (e, false) :: after ∧
        ∀ c ∈ before, c.2 = true := by
  simp only [firstViolation, Option.map_eq_some_iff, List.find?_eq_some_iff_append]
  constructor
  · rintro ⟨⟨e', b⟩, ⟨hb, before, after, hsplit, hall⟩, rfl⟩
    cases b
    · exact ⟨before, after, hsplit, fun c hc => by simpa using hall c hc⟩
    · simp at hb
  · rintro ⟨before, after, hsplit, hall⟩
    exact ⟨(e, false), ⟨rfl, before, after, hsplit, fun c hc => by simp [hall c hc]⟩, rfl⟩

/-- A response the grammar accepts with `n` answers. -/
structure Acceptable (message : List UInt8) (id n : UInt16) : Prop where
  long : queryLen ≤ message.length
  id : (Header.read message).id = id.toNat
  qr : (Header.read message).qr = 1
  opcode : (Header.read message).opcode = 0
  tc : (Header.read message).tc = 0
  rcode : (Header.read message).rcode = 0
  qdcount : (Header.read message).qdcount = 1
  question : (message.take queryLen).drop 12 = question
  ancount : (Header.read message).ancount = n.toNat
  answers : n ≠ 0

theorem answerOf_eq_ok (message : List UInt8) (v : Option ResponseError) (n : UInt16) :
    answerOf message v = .ok ⟨n⟩ ↔ v = none ∧ UInt16.ofNat (Header.read message).ancount = n := by
  cases v <;> simp [answerOf]

theorem answerOf_eq_error (message : List UInt8) (v : Option ResponseError) (e : ResponseError) :
    answerOf message v = .error e ↔ v = some e := by
  cases v <;> simp [answerOf]

theorem wordAt_lt (message : List UInt8) (i : Nat) : wordAt message i < 65536 := by
  rw [← fromBeBytes_wordAt]
  exact UInt16.toNat_lt _

/-- `Ok` is exactly the grammar. -/
theorem validateResponse_ok (message : List UInt8) (id n : UInt16) :
    validateResponse message id = some (.ok ⟨n⟩) ↔ Acceptable message id n := by
  rw [validateResponse_eq, Option.some_inj, answerOf_eq_ok, firstViolation_eq_none]
  have word : (Header.read message).ancount < 65536 := wordAt_lt message 6
  have count : UInt16.ofNat (Header.read message).ancount = n ↔
      (Header.read message).ancount = n.toNat := by
    rw [← UInt16.toNat_inj, UInt16.toNat_ofNat_of_lt' word]
  rw [count]
  constructor
  · rintro ⟨all, han⟩
    simp only [conditions, List.forall_mem_cons, decide_eq_true_eq] at all
    obtain ⟨long, hid, qr, opcode, tc, rcode, qdcount, hquestion, answers, -⟩ := all
    refine ⟨long, hid, qr, opcode, tc, rcode, qdcount, hquestion, han, ?_⟩
    rintro rfl
    rw [han] at answers
    exact absurd answers (by decide)
  · intro ok
    refine ⟨?_, ok.ancount⟩
    have answers : 0 < (Header.read message).ancount := by
      rw [ok.ancount]
      exact Nat.pos_of_ne_zero fun h => ok.answers (UInt16.toNat_inj.mp h)
    simp only [conditions, List.forall_mem_cons, decide_eq_true_eq]
    exact ⟨ok.long, ok.id, ok.qr, ok.opcode, ok.tc, ok.rcode, ok.qdcount, ok.question, answers,
      fun _ h => nomatch h⟩

/-- An error is exactly the first violation. -/
theorem validateResponse_error (message : List UInt8) (id : UInt16) (e : ResponseError) :
    validateResponse message id = some (.error e) ↔
      ∃ before after, conditions message id = before ++ (e, false) :: after ∧
        ∀ c ∈ before, c.2 = true := by
  rw [validateResponse_eq, Option.some_inj, answerOf_eq_error, firstViolation_eq_some]

/-- Acceptance pins the transaction id. -/
theorem Acceptable.id_eq {message : List UInt8} {id id' n n' : UInt16}
    (h : Acceptable message id n) (h' : Acceptable message id' n') : id = id' := by
  rw [← UInt16.toNat_inj, ← h.id, ← h'.id]

/-- A query is not a response. -/
theorem query_not_acceptable {id id' n : UInt16} {query : Vector UInt8 queryLen}
    (h : buildQuery id = some query) : ¬ Acceptable query.toList id' n := by
  intro ok
  obtain ⟨query', h', hlist⟩ := buildQuery_eq id
  obtain rfl : query = query' := Option.some.inj (h.symm.trans h')
  have qr := ok.qr
  rw [hlist] at qr
  simp [Header.read, wordAt, toBeBytes, field] at qr

/-- Two responses with the same checked bytes: `0xfa` keeps QR, opcode and TC
of byte 2, `0x0f` the RCODE of byte 3. -/
structure SameChecked (message message' : List UInt8) : Prop where
  long : queryLen ≤ message.length
  long' : queryLen ≤ message'.length
  id : message.take 2 = message'.take 2
  flags : message.getD 2 0 &&& 0xfa = message'.getD 2 0 &&& 0xfa
  rcode : message.getD 3 0 &&& 0x0f = message'.getD 3 0 &&& 0x0f
  counts : (message.take 8).drop 4 = (message'.take 8).drop 4
  question : (message.take queryLen).drop 12 = (message'.take queryLen).drop 12

theorem getD_of_take {message message' : List UInt8} {i j k : Nat}
    (h : (message.take k).drop j = (message'.take k).drop j) (hj : j ≤ i) (hi : i < k) :
    message.getD i 0 = message'.getD i 0 := by
  have at_i := congrArg (fun l => l[i - j]?) h
  simp only [List.getElem?_drop, List.getElem?_take, Nat.add_sub_cancel' hj, if_pos hi] at at_i
  rw [List.getD_eq_getElem?_getD, List.getD_eq_getElem?_getD, at_i]

/-- The flag bits the grammar reads lie under the two masks. -/
theorem SameChecked.header {message message' : List UInt8} (h : SameChecked message message') :
    Header.read message = Header.read message' := by
  have high (lo len : Nat) (inside : 0xfa &&& ((2 ^ len - 1) <<< lo) = (2 ^ len - 1) <<< lo) :
      field (wordAt message 2) (8 + lo) len = field (wordAt message' 2) (8 + lo) len := by
    rw [wordAt, wordAt, field_high _ (UInt8.toNat_lt _), field_high _ (UInt8.toNat_lt _)]
    refine field_of_and_eq (m := 0xfa) ?_ inside
    exact congrArg UInt8.toNat h.flags
  have low : field (wordAt message 2) 0 4 = field (wordAt message' 2) 0 4 := by
    rw [wordAt, wordAt, field_low _ _ (by decide), field_low _ _ (by decide)]
    refine field_of_and_eq (m := 0x0f) ?_ (by decide)
    exact congrArg UInt8.toNat h.rcode
  have word (i j k : Nat) (same : (message.take k).drop j = (message'.take k).drop j)
      (hj : j ≤ i) (hk : i + 1 < k) : wordAt message i = wordAt message' i := by
    rw [wordAt, wordAt, getD_of_take same hj (by omega), getD_of_take same (by omega) hk]
  unfold Header.read
  rw [word 0 0 2 h.id (by decide) (by decide), word 4 4 8 h.counts (by decide) (by decide),
    word 6 4 8 h.counts (by decide) (by decide), high 7 1 (by decide), high 3 4 (by decide),
    high 1 1 (by decide), low]

/-- The result depends on nothing else. -/
theorem SameChecked.validateResponse {message message' : List UInt8} (id : UInt16)
    (h : SameChecked message message') :
    validateResponse message id = validateResponse message' id := by
  have same : conditions message id = conditions message' id := by
    unfold conditions
    rw [h.header, h.question]
    simp [h.long, h.long']
  have answer (v : Option ResponseError) : answerOf message v = answerOf message' v := by
    cases v
    · simp only [answerOf, h.header]
    · rfl
  rw [validateResponse_eq, validateResponse_eq, answer, firstViolation, firstViolation, same]

/-- `validate_response` accepts exactly its header-and-question grammar. -/
theorem validate_response_exact (message : List UInt8) (id : UInt16) :
    (∃ query, buildQuery id = some query ∧ query.toList.drop 12 = question) ∧
    validateResponse message id ≠ none ∧
    (∀ n, validateResponse message id = some (.ok ⟨n⟩) ↔ Acceptable message id n) ∧
    (∀ e, validateResponse message id = some (.error e) ↔
      ∃ before after, conditions message id = before ++ (e, false) :: after ∧
        ∀ c ∈ before, c.2 = true) ∧
    (∀ message', SameChecked message message' →
      validateResponse message' id = validateResponse message id) ∧
    (∀ id' v v', validateResponse message id = some (.ok v) →
      validateResponse message id' = some (.ok v') → id = id') ∧
    (∀ query id' v, buildQuery id = some query →
      validateResponse query.toList id' ≠ some (.ok v)) := by
  refine ⟨?_, ?_, validateResponse_ok message id, validateResponse_error message id, ?_, ?_, ?_⟩
  · obtain ⟨query, hquery, hlist⟩ := buildQuery_eq id
    refine ⟨query, hquery, ?_⟩
    rw [hlist]
    simp [toBeBytes]
  · rw [validateResponse_eq]
    exact Option.some_ne_none _
  · intro message' h
    exact (h.validateResponse id).symm
  · rintro id' ⟨n⟩ ⟨n'⟩ h h'
    exact ((validateResponse_ok message id n).mp h).id_eq ((validateResponse_ok message id' n').mp h')
  · rintro query id' ⟨n⟩ hquery h
    exact query_not_acceptable hquery ((validateResponse_ok query.toList id' n).mp h)

/-- Two answers, recursion desired and available, nothing behind the question. -/
def matchingResponse : List UInt8 :=
  [0x12, 0x34, 0x81, 0x80, 0, 1, 0, 2, 0, 0, 0, 0] ++ question

theorem validate_response_exact_matching :
    validateResponse matchingResponse 0x1234 = some (.ok ⟨2⟩) ∧
    validateResponse (matchingResponse ++ [0xc0, 0x0c]) 0x1234 =
      validateResponse matchingResponse 0x1234 := by
  obtain ⟨-, -, ok, -, same, -, -⟩ := validate_response_exact matchingResponse 0x1234
  constructor
  · exact (ok 2).mpr
      { long := by decide, id := by decide, qr := by decide, opcode := by decide,
        tc := by decide, rcode := by decide, qdcount := by decide, question := by decide,
        ancount := by decide, answers := by decide }
  · exact same (matchingResponse ++ [0xc0, 0x0c])
      { long := by decide, long' := by decide, id := by decide, flags := by decide,
        rcode := by decide, counts := by decide, question := by decide }

end Ws63Examples.Connectivity
