import Ws63Examples.Connectivity.DnsContract
import Ws63Examples.Lib.ResourceRecord

/-! What an accepted response says of the records behind its question. -/

namespace Ws63Examples.Connectivity

open ResourceRecord

/-- The bytes behind the question. -/
def answerSection (response : List UInt8) : List UInt8 := response.drop queryLen

theorem answerSection_take (response : List UInt8) (cut : Nat) :
    answerSection (response.take (queryLen + cut)) = (answerSection response).take cut := by
  rw [answerSection, List.drop_take, Nat.add_sub_cancel_left]
  rfl

/-- Every checked byte is one of the header and the question. -/
theorem SameChecked.of_take {message message' : List UInt8} (long : queryLen ≤ message.length)
    (long' : queryLen ≤ message'.length) (same : message.take queryLen = message'.take queryLen) :
    SameChecked message message' := by
  have front (k : Nat) (inside : k ≤ queryLen) : message.take k = message'.take k := by
    calc message.take k = (message.take queryLen).take k := by
          rw [List.take_take, Nat.min_eq_left inside]
      _ = (message'.take queryLen).take k := by rw [same]
      _ = message'.take k := by rw [List.take_take, Nat.min_eq_left inside]
  have byte (i : Nat) (inside : i < queryLen) : message.getD i 0 = message'.getD i 0 :=
    getD_of_take (j := 0) (congrArg (List.drop 0) same) (Nat.zero_le i) inside
  constructor
  case long => exact long
  case long' => exact long'
  case id => exact front 2 (by decide)
  case flags => rw [byte 2 (by decide)]
  case rcode => rw [byte 3 (by decide)]
  case counts => rw [front 8 (by decide)]
  case question => rw [same]

/-- What follows the question does not count. -/
theorem validateResponse_take (response : List UInt8) (id : UInt16) {cut : Nat}
    (behind : queryLen ≤ cut) :
    validateResponse (response.take cut) id = validateResponse response id := by
  by_cases whole : response.length ≤ cut
  · rw [List.take_of_length_le whole]
  · have kept : (response.take cut).length = cut :=
      List.length_take_of_le (Nat.le_of_not_le whole)
    apply SameChecked.validateResponse
    apply SameChecked.of_take
    · rw [kept]
      exact behind
    · exact behind.trans (Nat.le_of_not_le whole)
    · rw [List.take_take, Nat.min_eq_left behind]

/-- A response cut before the end of its question is never accepted. -/
theorem validateResponse_short (response : List UInt8) (id : UInt16) {cut : Nat}
    (inside : cut < queryLen) (valid : ValidResponse) :
    validateResponse (response.take cut) id ≠ some (.ok valid) := by
  intro ok
  have long := ((validateResponse_ok _ id valid.answerCount).mp ok).long
  have := List.length_take_le cut response
  omega

/-- Acceptance vouches for the header and the question: it needs all their bytes
and an announced answer, and none of the bytes behind them, so a response cut
inside the record it begins with is judged as the complete one. -/
theorem validate_response_ignores_records (response : List UInt8) (id : UInt16) :
    (∀ valid, validateResponse response id = some (.ok valid) →
      queryLen ≤ response.length ∧ (response.take queryLen).drop 12 = question ∧
      (Header.read response).ancount = valid.answerCount.toNat ∧ 0 < valid.answerCount.toNat) ∧
    (∀ cut, queryLen ≤ cut →
      validateResponse (response.take cut) id = validateResponse response id) ∧
    (∀ record rest cut, Record record → answerSection response = record ++ rest →
      cut < record.length → ¬ Leads (answerSection (response.take (queryLen + cut))) ∧
      validateResponse (response.take (queryLen + cut)) id = validateResponse response id) ∧
    (∀ cut, cut < queryLen → ∀ valid,
      validateResponse (response.take cut) id ≠ some (.ok valid)) := by
  refine ⟨?_, fun cut => validateResponse_take response id, ?_, fun cut inside =>
    validateResponse_short response id inside⟩
  · intro valid ok
    have acceptable := (validateResponse_ok response id valid.answerCount).mp ok
    have some : valid.answerCount.toNat ≠ 0 := by
      intro none
      exact acceptable.answers (UInt16.toNat_inj.mp none)
    exact ⟨acceptable.long, acceptable.question, acceptable.ancount, Nat.pos_of_ne_zero some⟩
  · intro record rest cut complete front inside
    constructor
    · rw [answerSection_take, front, List.take_append_of_le_length (Nat.le_of_lt inside)]
      exact complete.not_leads_take inside
    · exact validateResponse_take response id (Nat.le_add_right _ _)

/-- One A record of `example.com`, named by a pointer to the question. -/
def addressRecord : List UInt8 :=
  [0xc0, 0x0c, 0x00, 0x01, 0x00, 0x01, 0x00, 0x00, 0x00, 0x3c, 0x00, 0x04, 0xc0, 0x00, 0x02, 0x01]

def headerAndQuestion : List UInt8 :=
  [0x57, 0x53, 0x81, 0x80, 0, 1, 0, 1, 0, 0, 0, 0] ++ question

def validResponse : List UInt8 := headerAndQuestion ++ addressRecord

theorem addressRecord_complete : Record addressRecord :=
  .complete [0xc0, 0x0c] [0x00, 0x01, 0x00, 0x01, 0x00, 0x00, 0x00, 0x3c] [0xc0, 0x00, 0x02, 0x01]
    0x00 0x04 (.pointer 0xc0 0x0c (by decide)) (by decide) rfl rfl

theorem headerAndQuestion_acceptable : Acceptable headerAndQuestion 0x5753 1 := by
  constructor <;> decide

theorem validate_response_ignores_records_cut :
    ¬ Leads (answerSection (validResponse.take (queryLen + 5))) ∧
      validateResponse (validResponse.take (queryLen + 5)) 0x5753 =
        validateResponse validResponse 0x5753 := by
  obtain ⟨-, -, cut, -⟩ := validate_response_ignores_records validResponse 0x5753
  exact cut addressRecord [] 5 addressRecord_complete (by decide) (by decide)

/-- The header announces an answer and the response ends with the question. -/
theorem accepts_without_record :
    validateResponse headerAndQuestion 0x5753 = some (.ok ⟨1⟩) ∧
      ¬ Leads (answerSection headerAndQuestion) := by
  constructor
  · exact (validateResponse_ok _ _ _).mpr headerAndQuestion_acceptable
  · have nothing : answerSection headerAndQuestion = [] := by decide
    rw [nothing]
    exact not_leads_nil

end Ws63Examples.Connectivity
