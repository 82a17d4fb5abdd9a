import Mathlib.Logic.ExistsUnique
import LogRelay.Proofs.Wire.Refusal

/-!
Messages end by themselves. The reading of a body that is accepted looks at a front of it only,
whatever stands behind that, and no part of that front is accepted in its place.
-/
set_option autoImplicit false

namespace LogRelay.Wire

theorem headed_apart (header other : Header) (head front rest tail : Bytes)
    (headed : Headed header head) (otherwise : Headed other front)
    (same : head ++ rest = front ++ tail) : header = other ∧ rest = tail := by
  have first := take_header_complete head rest header headed
  have second := take_header_complete front tail other otherwise
  rw [← same, first] at second
  cases second
  exact ⟨rfl, rfl⟩

theorem struct_apart {σ α : Type} (reader : FieldReader σ) (Form : Field α → Prop)
    (add : σ → α → σ) (reads : ReadsFields reader Form add)
    (marked : ∀ field, Form field → field.kind ≠ 0) (state : σ) (fields others : List (Field α))
    (forms : ∀ field ∈ fields, Form field) (formsOther : ∀ field ∈ others, Form field)
    (rest tail : Bytes) (same : structBytes fields ++ rest = structBytes others ++ tail) :
    rest = tail := by
  have good (fields : List (Field α)) (forms : ∀ field ∈ fields, Form field) :
      ∀ field ∈ fields, field.kind ≠ 0 ∧ Form field :=
    fun field member => ⟨marked field (forms field member), forms field member⟩
  have first := fold_fields_complete reader Form add reads fields (good fields forms) state rest
  have second :=
    fold_fields_complete reader Form add reads others (good others formsOther) state tail
  rw [← same, first] at second
  exact (Prod.mk.inj (Except.ok.inj second)).2

-- A front of so many bytes is read as a value whatever stands behind it, and no part of it is.
structure Delimited {α : Type} (read : Bytes → Except Delivery.Failure α) (body : Bytes)
    (value : α) (length : Nat) : Prop where
  within : length ≤ body.length
  cut : ∀ shorter < length, ∃ detail, read (body.take shorter) = .error (.protocol detail)
  whole : ∀ tail, read (body.take length ++ tail) = .ok value

theorem delimited_unique {α : Type} (read : Bytes → Except Delivery.Failure α) (body : Bytes)
    (value : α) (length other : Nat) (ends : Delimited read body value length)
    (endsOther : Delimited read body value other) : length = other := by
  have clash (short long : Nat) (less : short < long) (here : Delimited read body value short)
      (there : Delimited read body value long) : False := by
    obtain ⟨detail, refused⟩ := there.cut short less
    have accepted := here.whole []
    rw [List.append_nil, refused] at accepted
    cases accepted
  rcases Nat.lt_trichotomy length other with less | same | more
  · exact (clash length other less ends endsOther).elim
  · exact same
  · exact (clash other length more endsOther ends).elim

theorem delimited_of_front {α : Type} (read : Bytes → Except Delivery.Failure α)
    (front behind : Bytes) (value : α) (whole : ∀ tail, read (front ++ tail) = .ok value)
    (cut : ∀ short missing, short ++ missing = front → missing ≠ [] →
      ∃ detail, read short = .error (.protocol detail)) :
    Delimited read (front ++ behind) value front.length := by
  refine ⟨by simp, ?_, ?_⟩
  · intro shorter less
    rw [List.take_append_of_le_length (Nat.le_of_lt less)]
    refine cut (front.take shorter) (front.drop shorter) (List.take_append_drop shorter front) ?_
    intro nothing
    have all := List.drop_eq_nil_iff.mp nothing
    omega
  · intro tail
    rw [List.take_left]
    exact whole tail

def readCall (body : Bytes) : Except Delivery.Failure Call :=
  (decodeCall body).mapError .ofFault

def readReply (expected : Int32) (body : Bytes) : Except Delivery.Failure Verdict :=
  (decodeReply body expected).mapError .ofReplyError

theorem read_call_of (body : Bytes) (call : Call) (derived : IsCall body call) :
    readCall body = .ok call := by
  rw [readCall, decode_call_complete body call derived]
  rfl

theorem read_reply_of (body : Bytes) (expected : Int32) (verdict : Verdict)
    (derived : IsReply expected verdict body) : readReply expected body = .ok verdict := by
  rw [readReply, (decode_reply_iff body expected verdict).mpr derived]
  rfl

-- Were a part of a call a call itself, the struct of the whole would end before its end.
theorem cut_call_refused (type : UInt8) (sequence : Int32) (head short missing : Bytes)
    (fields : List (Field (List Entry))) (headed : Headed ⟨method, type, sequence⟩ head)
    (forms : ∀ field ∈ fields, ArgumentField field)
    (split : short ++ missing = head ++ structBytes fields) (missed : missing ≠ []) :
    ∃ detail, readCall short = .error (.protocol detail) := by
  cases read : decodeCall short with
  | error fault => exact ⟨fault.message, by rw [readCall, read]; rfl⟩
  | ok call =>
      cases decode_call_sound short call read with
      | arguments type' sequence' head' fields' tail headed' calls' forms' =>
          have heads := headed_apart _ _ head' head (structBytes fields' ++ (tail ++ missing))
            (structBytes fields) headed' headed (by rw [← split]; simp)
          have ends := struct_apart argumentReader ArgumentField addEntries read_argument_iff
            argument_field_ne_stop [] fields' fields forms' forms (tail ++ missing) []
            (by rw [heads.2, List.append_nil])
          exact absurd (List.append_eq_nil_iff.mp ends).2 missed

-- The head of a reply is that of no exception, so a reply that stops short is no refusal either.
theorem cut_reply_refused (expected : Int32) (head short missing : Bytes)
    (fields : List (Field (Option Int32)))
    (headed : Headed ⟨method, MessageType.reply, expected⟩ head)
    (forms : ∀ field ∈ fields, ResultField field)
    (split : short ++ missing = head ++ structBytes fields) (missed : missing ≠ []) :
    ∃ detail, readReply expected short = .error (.protocol detail) := by
  have reading := decode_reply_reading short expected
  generalize read : decodeReply short expected = answer at reading
  cases reading with
  | fault fault => exact ⟨fault.message, by rw [readReply, read]; rfl⟩
  | exception name head' rest tail raised headed' split' taken =>
      have heads := headed_apart _ _ head' head (rest ++ missing) (structBytes fields) headed'
        headed (by rw [← split, split', List.append_assoc])
      have typed : MessageType.exception = MessageType.reply := congrArg Header.type heads.1
      exact absurd typed (by decide)
  | result head' fields' tail _ headed' forms' split' =>
      have heads := headed_apart _ _ head' head (structBytes fields' ++ (tail ++ missing))
        (structBytes fields) headed' headed (by rw [← split, split']; simp)
      have ends := struct_apart resultReader ResultField addCode read_result_iff
        result_field_ne_stop none fields' fields forms' forms (tail ++ missing) []
        (by rw [heads.2, List.append_nil])
      exact absurd (List.append_eq_nil_iff.mp ends).2 missed

theorem accepted_messages_delimited (body : Bytes) :
    (∀ call, decodeCall body = .ok call → ∃! length, Delimited readCall body call length) ∧
    ∀ expected verdict, decodeReply body expected = .ok verdict →
      ∃! length, Delimited (readReply expected) body verdict length := by
  refine ⟨?_, ?_⟩
  · intro call read
    cases decode_call_sound body call read with
    | arguments type sequence head fields tail headed calls forms =>
        have ends := delimited_of_front readCall (head ++ structBytes fields) tail _
          (fun behind => read_call_of _ _
            (.arguments type sequence head fields behind headed calls forms))
          (fun short missing split missed =>
            cut_call_refused type sequence head short missing fields headed forms split missed)
        exact ⟨_, ends, fun other there => delimited_unique _ _ _ _ _ there ends⟩
  · intro expected verdict read
    cases decode_reply_sound body expected verdict read with
    | result head fields tail headed forms last =>
        have ends := delimited_of_front (readReply expected) (head ++ structBytes fields) tail
          verdict
          (fun behind => read_reply_of _ expected verdict
            (.result head fields behind headed forms last))
          (fun short missing split missed =>
            cut_reply_refused expected head short missing fields headed forms split missed)
        exact ⟨_, ends, fun other there => delimited_unique _ _ _ _ _ there ends⟩

def trailedCall : Bytes :=
  putVersioned ⟨method, MessageType.oneway, 5⟩ <|
    putField .set 4 <| 99 :: Bytes.put32 0 (
      putField .list 1 <| Kind.struct.code :: Bytes.put32 1 (
        putField .text 2 <| putText "go" <| putStop (putStop [255])))

def plainReply : Bytes :=
  putPlain ⟨method, MessageType.reply, -1⟩ <| putField .int32 0 <| putInt32 1 (putStop [])

theorem trailed_call_delimited :
    decodeCall trailedCall = .ok ⟨5, [⟨"", "go"⟩]⟩ ∧
      (∃ length < trailedCall.length, Delimited readCall trailedCall ⟨5, [⟨"", "go"⟩]⟩ length) ∧
      decodeReply plainReply (-1) = .ok .tryLater ∧
      ∃ length, Delimited (readReply (-1)) plainReply .tryLater length := by
  have called : decodeCall trailedCall = .ok ⟨5, [⟨"", "go"⟩]⟩ := by with_unfolding_all rfl
  have replied : decodeReply plainReply (-1) = .ok .tryLater := by with_unfolding_all rfl
  obtain ⟨length, ends, _⟩ := (accepted_messages_delimited trailedCall).1 _ called
  obtain ⟨other, endsOther, _⟩ := (accepted_messages_delimited plainReply).2 _ _ replied
  refine ⟨called, ⟨length, ?_, ends⟩, replied, other, endsOther⟩
  apply Nat.lt_of_not_le
  intro all
  have short : trailedCall.length - 1 < length := Nat.lt_of_lt_of_le (by decide) all
  obtain ⟨detail, refused⟩ := ends.cut _ short
  have accepted : readCall (trailedCall.take (trailedCall.length - 1)) =
      .ok ⟨5, [⟨"", "go"⟩]⟩ := by with_unfolding_all rfl
  cases accepted.symm.trans refused

end LogRelay.Wire
