import LogRelay.Delivery.Failure
import LogRelay.Proofs.Wire.CallGrammar
import LogRelay.Proofs.Wire.ReplyGrammar

/-!
Replies that are no verdict. A peer refuses a call by an exception, or by a result that it leaves
out; every other body that is no reply to the call is a fault.
-/
set_option autoImplicit false

namespace LogRelay.Wire

inductive Remark where
  | text (text : String)
  | kind (code : Int32)

def Remark.text? : Remark → Option String
  | .text words => some words
  | .kind _ => none

def Remark.kind? : Remark → Option Int32
  | .text _ => none
  | .kind code => some code

inductive ExceptionField : Field (Option Remark) → Prop where
  | text (text : String) (small : Utf8.size text < 2147483648) :
      ExceptionField ⟨Kind.text.code, 1, putText text [], some (.text text)⟩
  | kind (code : Int32) :
      ExceptionField ⟨Kind.int32.code, 2, putInt32 code [], some (.kind code)⟩
  | other (kind : UInt8) (id : Int16) (value : Bytes)
      (notText : ¬ (kind = Kind.text.code ∧ id = 1))
      (notKind : ¬ (kind = Kind.int32.code ∧ id = 2)) (skippable : Skippable kind value) :
      ExceptionField ⟨kind, id, value, none⟩

def refusalText (remarks : List Remark) : String :=
  let text := lastText (remarks.filterMap Remark.text?)
  match (remarks.filterMap Remark.kind?).getLast? with
  | none => text
  | some code => text ++ " (type " ++ toString code.toInt ++ ")"

-- The bodies that refuse the call numbered `sequence`: exceptions under any name, and replies
-- without a result. Nothing behind the fields matters.
inductive IsRefusal (sequence : Int32) : String → Bytes → Prop where
  | exception (name : String) (head : Bytes) (fields : List (Field (Option Remark))) (tail : Bytes)
      (headed : Headed ⟨name, MessageType.exception, sequence⟩ head)
      (forms : ∀ field ∈ fields, ExceptionField field) :
      IsRefusal sequence (refusalText (fields.filterMap Field.content))
        (head ++ structBytes fields ++ tail)
  | silence (head : Bytes) (fields : List (Field (Option Int32))) (tail : Bytes)
      (headed : Headed ⟨method, MessageType.reply, sequence⟩ head)
      (forms : ∀ field ∈ fields, ResultField field)
      (nothing : fields.filterMap Field.content = []) :
      IsRefusal sequence unknownResult (head ++ structBytes fields ++ tail)

theorem exception_field_ne_stop (field : Field (Option Remark)) (form : ExceptionField field) :
    field.kind ≠ 0 := by
  cases form with
  | text => exact (by decide : Kind.text.code ≠ 0)
  | kind => exact (by decide : Kind.int32.code ≠ 0)
  | other kind id value _ _ skippable => exact skippable_kind_ne_stop kind value skippable

def addRemark (raised : PeerException) : Option Remark → PeerException
  | none => raised
  | some (.text text) => { raised with text }
  | some (.kind code) => { raised with kind := some code }

theorem fold_remarks (contents : List (Option Remark)) (raised : PeerException) :
    contents.foldl addRemark raised =
      ⟨((contents.filterMap id).filterMap Remark.text?).getLast?.getD raised.text,
        ((contents.filterMap id).filterMap Remark.kind?).getLast?.or raised.kind⟩ := by
  induction contents generalizing raised with
  | nil => rfl
  | cons head tail ih =>
      rw [List.foldl_cons, ih]
      cases head with
      | none => rfl
      | some remark =>
          cases remark with
          | text text => simp [addRemark, Remark.text?, Remark.kind?, List.getLast?_cons]
          | kind code =>
              have last (later : Option Int32) :
                  later.or (some code) = (some (later.getD code)).or raised.kind := by
                cases later <;> rfl
              simp only [addRemark, Remark.text?, Remark.kind?, List.filterMap_cons, id,
                List.getLast?_cons]
              rw [last]

theorem read_exception_iff : ReadsFields exceptionReader ExceptionField addRemark := by
  intro kind id raised after input rest _
  simp only [exceptionReader, readException]
  constructor
  · intro read
    split at read
    · next known =>
      obtain ⟨rfl, rfl⟩ := known
      split at read
      · cases read
      · next text tail taken =>
        cases read
        obtain ⟨small, written⟩ := (take_text_iff input rest text).mp taken
        exact ⟨_, _, .text text small, by simp [written], rfl⟩
    · next notText =>
      split at read
      · next known =>
        obtain ⟨rfl, rfl⟩ := known
        split at read
        · cases read
        · next code tail taken =>
          cases read
          exact ⟨_, _, .kind code, by simp [(take_int32_iff input rest code).mp taken], rfl⟩
      · next notKind =>
        split at read
        · cases read
        · next tail skipped =>
          cases read
          obtain ⟨value, skippable, split⟩ := (skip_iff kind input rest).mp skipped
          exact ⟨value, none, .other kind id value notText notKind skippable, split, rfl⟩
  · rintro ⟨value, content, form, rfl, rfl⟩
    cases form with
    | text text small =>
        have taken := (take_text_iff (putText text [] ++ rest) rest text).mpr ⟨small, by simp⟩
        rw [if_pos ⟨rfl, rfl⟩, taken]
        rfl
    | kind code =>
        have taken := (take_int32_iff (putInt32 code [] ++ rest) rest code).mpr (by simp)
        rw [if_neg (by decide), if_pos ⟨rfl, rfl⟩, taken]
        rfl
    | other kind id value notText notKind skippable =>
        have skipped := (skip_iff kind (value ++ rest) rest).mpr ⟨value, skippable, rfl⟩
        rw [if_neg notText, if_neg notKind, skipped]
        rfl

theorem take_exception_iff (input rest : Bytes) (raised : PeerException) :
    takeException input = .ok (raised, rest) ↔
      ∃ fields : List (Field (Option Remark)), (∀ field ∈ fields, ExceptionField field) ∧
        input = structBytes fields ++ rest ∧
        raised = ⟨lastText ((fields.filterMap Field.content).filterMap Remark.text?),
          ((fields.filterMap Field.content).filterMap Remark.kind?).getLast?⟩ := by
  have folds := fold_fields_iff exceptionReader ExceptionField addRemark read_exception_iff
    ⟨"", none⟩ raised input rest
  simp only [fold_remarks, List.filterMap_map, Option.or_none] at folds
  constructor
  · intro read
    obtain ⟨fields, good, split, final⟩ := folds.mp read
    exact ⟨fields, fun field member => (good field member).2, split, final⟩
  · rintro ⟨fields, forms, split, final⟩
    exact folds.mpr ⟨fields, fun field member =>
      ⟨exception_field_ne_stop field (forms field member), forms field member⟩, split, final⟩

theorem refusal_text_eq (remarks : List Remark) :
    refusalText remarks = PeerException.message
      ⟨lastText (remarks.filterMap Remark.text?), (remarks.filterMap Remark.kind?).getLast?⟩ := by
  unfold refusalText PeerException.message
  cases (remarks.filterMap Remark.kind?).getLast? <;> rfl

theorem verdict_of_refusal_iff (result : Option Int32) (text : String) :
    verdictOf result = .error (.application text) ↔ result = none ∧ text = unknownResult := by
  cases result with
  | none => simp [verdictOf, eq_comm]
  | some code => cases known : Verdict.ofCode? code <;> simp [verdictOf, known]

theorem decode_refusal_sound (body : Bytes) (sequence : Int32) (text : String)
    (read : decodeReply body sequence = .error (.application text)) :
    IsRefusal sequence text body := by
  have reading := decode_reply_reading body sequence
  rw [read] at reading
  cases reading with
  | exception name head rest tail raised headed split taken =>
      obtain ⟨fields, forms, written, final⟩ := (take_exception_iff rest tail raised).mp taken
      rw [split, written, ← List.append_assoc, final, ← refusal_text_eq]
      exact .exception name head fields tail headed forms
  | result head fields tail _ headed forms split final =>
      obtain ⟨nothing, rfl⟩ := (verdict_of_refusal_iff _ text).mp final.symm
      rw [split]
      exact .silence head fields tail headed forms (List.getLast?_eq_none_iff.mp nothing)

theorem decode_exception (name : String) (sequence : Int32) (head tail : Bytes)
    (fields : List (Field (Option Remark)))
    (headed : Headed ⟨name, MessageType.exception, sequence⟩ head)
    (forms : ∀ field ∈ fields, ExceptionField field) :
    decodeReply (head ++ structBytes fields ++ tail) sequence =
      .error (.application (refusalText (fields.filterMap Field.content))) := by
  have opened := (take_header_iff (head ++ (structBytes fields ++ tail)) _ _).mpr
    ⟨head, headed, rfl⟩
  have taken := (take_exception_iff (structBytes fields ++ tail) tail _).mpr
    ⟨fields, forms, rfl, rfl⟩
  rw [List.append_assoc, decodeReply, opened]
  simp only [ne_eq, not_true_eq_false, if_false, if_true, taken, refusal_text_eq]

theorem decode_refusal_iff (body : Bytes) (sequence : Int32) (text : String) :
    decodeReply body sequence = .error (.application text) ↔ IsRefusal sequence text body := by
  constructor
  · exact decode_refusal_sound body sequence text
  · intro refusal
    cases refusal with
    | exception name head fields tail headed forms =>
        exact decode_exception name sequence head tail fields headed forms
    | silence head fields tail headed forms nothing =>
        rw [decode_reply_result sequence head tail fields headed forms, nothing]
        rfl

theorem reading_ok_iff (result : Except ReplyError Verdict) (verdict : Verdict) :
    result.mapError Delivery.Failure.ofReplyError = .ok verdict ↔ result = .ok verdict := by
  cases result with
  | error error => exact ⟨nofun, nofun⟩
  | ok other =>
      constructor
      · intro same
        cases same
        rfl
      · intro same
        cases same
        rfl

theorem reading_application_iff (result : Except ReplyError Verdict) (text : String) :
    result.mapError Delivery.Failure.ofReplyError = .error (.application text) ↔
      result = .error (.application text) := by
  cases result with
  | ok verdict => exact ⟨nofun, nofun⟩
  | error error =>
      cases error with
      | fault fault => exact ⟨nofun, nofun⟩
      | application other =>
          constructor
          · intro same
            cases same
            rfl
          · intro same
            cases same
            rfl

theorem reply_grammar_exact (body : Bytes) (expected : Int32) :
    let reading := (decodeReply body expected).mapError Delivery.Failure.ofReplyError
    (∀ verdict, reading = .ok verdict ↔ IsReply expected verdict body) ∧
    (∀ text, reading = .error (.application text) ↔ IsRefusal expected text body) ∧
    ((∃ verdict, IsReply expected verdict body) ∨ (∃ text, IsRefusal expected text body) ∨
      ∃ detail, reading = .error (.protocol detail)) ∧
    (∀ header head rest, Headed header head → body = head ++ rest → header.sequence ≠ expected →
      reading = .error (.protocol (Fault.sequence expected header.sequence).message)) := by
  intro reading
  refine ⟨?_, ?_, ?_, ?_⟩
  · intro verdict
    exact (reading_ok_iff _ verdict).trans (decode_reply_iff body expected verdict)
  · intro text
    exact (reading_application_iff _ text).trans (decode_refusal_iff body expected text)
  · cases read : decodeReply body expected with
    | ok verdict => exact .inl ⟨verdict, decode_reply_sound body expected verdict read⟩
    | error error =>
        cases error with
        | application text => exact .inr (.inl ⟨text, decode_refusal_sound body expected text read⟩)
        | fault fault => exact .inr (.inr ⟨fault.message, by simp only [reading, read]; rfl⟩)
  · rintro header head rest headed rfl other
    simp only [reading, decode_reply_mismatch header head rest expected headed other]
    rfl

def busyException : Bytes :=
  putVersioned ⟨"Other", MessageType.exception, 7⟩ <|
    putField .text 1 <| putText "down" <| putField .bool 9 <| 1 :: (
      putField .int32 2 <| putInt32 6 <| putField .text 1 <| putText "busy" <| putStop [])

theorem busy_exception_refuses :
    IsRefusal 7 "busy (type 6)" busyException ∧
      (decodeReply busyException 8).mapError Delivery.Failure.ofReplyError =
        .error (.protocol "sequence mismatch: expected 8, got 7") := by
  have refused : (decodeReply busyException 7).mapError Delivery.Failure.ofReplyError =
      .error (.application "busy (type 6)") := by with_unfolding_all rfl
  obtain ⟨_, refusal, _, _⟩ := reply_grammar_exact busyException 7
  obtain ⟨_, _, _, mismatch⟩ := reply_grammar_exact busyException 8
  have headed : Headed ⟨"Other", MessageType.exception, 7⟩ _ := .versioned 0 (by decide)
  exact ⟨(refusal _).mp refused, mismatch _ _ _ headed rfl (by decide)⟩

end LogRelay.Wire
