import LogRelay.Proofs.Wire.Value
import LogRelay.Wire.Reply

set_option autoImplicit false

namespace LogRelay.Wire

inductive ResultField : Field (Option Int32) → Prop where
  | code (code : Int32) : ResultField ⟨Kind.int32.code, 0, putInt32 code [], some code⟩
  | other (kind : UInt8) (id : Int16) (value : Bytes)
      (unknown : ¬ (kind = Kind.int32.code ∧ id = 0)) (skippable : Skippable kind value) :
      ResultField ⟨kind, id, value, none⟩

theorem result_field_ne_stop (field : Field (Option Int32)) (form : ResultField field) :
    field.kind ≠ 0 := by
  cases form with
  | code => exact (by decide : Kind.int32.code ≠ 0)
  | other kind id value _ skippable => exact skippable_kind_ne_stop kind value skippable

def addCode (result code : Option Int32) : Option Int32 := code.or result

theorem fold_codes (contents : List (Option Int32)) (result : Option Int32) :
    contents.foldl addCode result = (contents.filterMap id).getLast?.or result := by
  induction contents generalizing result with
  | nil => rfl
  | cons head tail ih =>
      rw [List.foldl_cons, ih]
      cases head with
      | none => rfl
      | some code =>
          have last : ((some code :: tail).filterMap id).getLast? =
              some ((tail.filterMap id).getLast?.getD code) := List.getLast?_cons
          rw [last]
          cases (tail.filterMap id).getLast? <;> rfl

theorem read_result_iff : ReadsFields resultReader ResultField addCode := by
  intro kind id result after input rest _
  constructor
  · intro read
    simp only [resultReader, readResult] at read
    split at read
    · next known =>
      obtain ⟨rfl, rfl⟩ := known
      split at read
      · cases read
      · next code tail taken =>
        cases read
        exact ⟨_, _, .code code, by simp [(take_int32_iff input rest code).mp taken], rfl⟩
    · next unknown =>
      split at read
      · cases read
      · next tail skipped =>
        cases read
        obtain ⟨value, skippable, split⟩ := (skip_iff kind input rest).mp skipped
        exact ⟨value, none, .other kind id value unknown skippable, split, rfl⟩
  · rintro ⟨value, content, form, rfl, rfl⟩
    simp only [resultReader, readResult]
    cases form with
    | code code =>
        rw [if_pos ⟨rfl, rfl⟩, (take_int32_iff (putInt32 code [] ++ rest) rest code).mpr (by simp)]
        rfl
    | other kind id value unknown skippable =>
        rw [if_neg unknown, (skip_iff kind (value ++ rest) rest).mpr ⟨value, skippable, rfl⟩]
        rfl

theorem decode_reply_mismatch (header : Header) (head rest : Bytes) (expected : Int32)
    (headed : Headed header head) (other : header.sequence ≠ expected) :
    decodeReply (head ++ rest) expected =
      .error (.fault (.sequence expected header.sequence)) := by
  have opened := (take_header_iff (head ++ rest) rest header).mpr ⟨head, headed, rfl⟩
  rw [decodeReply, opened]
  exact if_pos other

theorem decode_reply_result (sequence : Int32) (head tail : Bytes)
    (fields : List (Field (Option Int32))) (headed : Headed ⟨method, MessageType.reply, sequence⟩ head)
    (forms : ∀ field ∈ fields, ResultField field) :
    decodeReply (head ++ structBytes fields ++ tail) sequence =
      verdictOf (fields.filterMap Field.content).getLast? := by
  have opened := (take_header_iff (head ++ (structBytes fields ++ tail)) _ _).mpr
    ⟨head, headed, rfl⟩
  have folded := (fold_fields_iff resultReader ResultField addCode read_result_iff none
    _ (structBytes fields ++ tail) tail).mpr ⟨fields, fun field member =>
      ⟨result_field_ne_stop field (forms field member), forms field member⟩, rfl, rfl⟩
  rw [fold_codes, List.filterMap_map, Option.or_none] at folded
  have typed : MessageType.reply ≠ MessageType.exception := by decide
  rw [List.append_assoc, decodeReply, opened]
  simp only [ne_eq, not_true_eq_false, if_false, if_neg typed, folded]
  rfl

theorem of_code_iff (code : Int32) (verdict : Verdict) :
    Verdict.ofCode? code = some verdict ↔ code = verdict.code := by
  constructor
  · intro known
    unfold Verdict.ofCode? at known
    split at known
    · next zero =>
      cases known
      exact zero
    · split at known
      · next one =>
        cases known
        exact one
      · cases known
  · rintro rfl
    exact verdict.of_code_code

theorem verdict_of_iff (result : Option Int32) (verdict : Verdict) :
    verdictOf result = .ok verdict ↔ result = some verdict.code := by
  cases result with
  | none => simp [verdictOf]
  | some code =>
      rw [Option.some.injEq, ← of_code_iff]
      cases known : Verdict.ofCode? code <;> simp [verdictOf, known]

-- The bodies that answer the call numbered `sequence` with a verdict: of a result given more than
-- once the last one counts, and nothing behind the result matters.
inductive IsReply (sequence : Int32) (verdict : Verdict) : Bytes → Prop where
  | result (head : Bytes) (fields : List (Field (Option Int32))) (tail : Bytes)
      (headed : Headed ⟨method, MessageType.reply, sequence⟩ head)
      (forms : ∀ field ∈ fields, ResultField field)
      (last : (fields.filterMap Field.content).getLast? = some verdict.code) :
      IsReply sequence verdict (head ++ structBytes fields ++ tail)

inductive Reading (body : Bytes) (expected : Int32) : Except ReplyError Verdict → Prop where
  | fault (fault : Fault) : Reading body expected (.error (.fault fault))
  | exception (name : String) (head rest tail : Bytes) (raised : PeerException)
      (headed : Headed ⟨name, MessageType.exception, expected⟩ head) (split : body = head ++ rest)
      (taken : takeException rest = .ok (raised, tail)) :
      Reading body expected (.error (.application raised.message))
  | result (head : Bytes) (fields : List (Field (Option Int32))) (tail : Bytes)
      (answer : Except ReplyError Verdict)
      (headed : Headed ⟨method, MessageType.reply, expected⟩ head)
      (forms : ∀ field ∈ fields, ResultField field) (split : body = head ++ structBytes fields ++ tail)
      (verdict : answer = verdictOf (fields.filterMap Field.content).getLast?) :
      Reading body expected answer

theorem decode_reply_reading (body : Bytes) (expected : Int32) :
    Reading body expected (decodeReply body expected) := by
  unfold decodeReply
  split
  · exact .fault _
  · next header rest headed =>
    obtain ⟨head, form, split⟩ := (take_header_iff body rest header).mp headed
    split
    · exact .fault _
    · next numbered =>
      have number := Decidable.not_not.mp numbered
      split
      · next typed =>
        split
        · exact .fault _
        · next raised tail taken =>
          have whole : header = ⟨header.name, MessageType.exception, expected⟩ := by
            rw [← number, ← typed]
          exact .exception header.name head rest tail raised (whole ▸ form) split taken
      · split
        · exact .fault _
        · next typed =>
          split
          · exact .fault _
          · next named =>
            split
            · exact .fault _
            · next result tail folded =>
              obtain ⟨fields, good, written, final⟩ := (fold_fields_iff resultReader ResultField
                addCode read_result_iff none result rest tail).mp folded
              rw [fold_codes, List.filterMap_map, Option.or_none] at final
              have whole : header = ⟨method, MessageType.reply, expected⟩ := by
                rw [← number, ← Decidable.not_not.mp typed, ← Decidable.not_not.mp named]
              exact .result head fields tail _ (whole ▸ form)
                (fun field member => (good field member).2)
                (by rw [split, written, List.append_assoc]) (by rw [final]; rfl)

theorem decode_reply_sound (body : Bytes) (sequence : Int32) (verdict : Verdict)
    (read : decodeReply body sequence = .ok verdict) : IsReply sequence verdict body := by
  have reading := decode_reply_reading body sequence
  rw [read] at reading
  cases reading with
  | result head fields tail _ headed forms split final =>
      rw [split]
      exact .result head fields tail headed forms ((verdict_of_iff _ verdict).mp final.symm)

theorem decode_reply_iff (body : Bytes) (sequence : Int32) (verdict : Verdict) :
    decodeReply body sequence = .ok verdict ↔ IsReply sequence verdict body := by
  constructor
  · exact decode_reply_sound body sequence verdict
  · rintro ⟨head, fields, tail, headed, forms, last⟩
    rw [decode_reply_result sequence head tail fields headed forms]
    exact (verdict_of_iff _ verdict).mpr last

end LogRelay.Wire
