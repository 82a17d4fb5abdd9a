import LogRelay.Delivery.Link
import LogRelay.Proofs.Wire.CallGrammar
import LogRelay.Proofs.Wire.ReplyGrammar

set_option autoImplicit false

namespace LogRelay.Wire

theorem put_text_length (text : String) (rest : Bytes) :
    (putText text rest).length = 4 + Utf8.size text + rest.length := by
  rw [putText, Bytes.put32_length, Utf8.put_eq_encode_append, List.length_append,
    Utf8.encode_length]
  omega

theorem put_int32_length (value : Int32) (rest : Bytes) :
    (putInt32 value rest).length = 4 + rest.length :=
  Bytes.put32_length value.toUInt32 rest

theorem put_field_length (kind : Kind) (id : Int16) (rest : Bytes) :
    (putField kind id rest).length = 3 + rest.length := by
  rw [putField, List.length_cons, Bytes.put16_length]
  omega

theorem method_size : Utf8.size method = 3 := by decide

theorem call_body_length (sequence : Int32) (entry : Entry) :
    (callBody sequence entry).length = callLength entry := by
  simp only [callBody, putPlain, putStop, put_text_length, put_int32_length, put_field_length,
    Bytes.put32_length, List.length_cons, List.length_nil, method_size, callLength, callOverhead]
  omega

theorem reply_body_length (sequence : Int32) (verdict : Verdict) :
    (replyBody sequence verdict).length = 23 := by
  simp only [replyBody, putVersioned, putStop, put_text_length, put_int32_length,
    put_field_length, Bytes.put32_length, List.length_cons, List.length_nil, method_size]

theorem call_body_fits (sequence : Int32) (entry : Entry) (fits : callLength entry ≤ frameLimit) :
    (callBody sequence entry).length ≤ frameLimit := by
  rw [call_body_length]
  exact fits

theorem reply_body_fits (sequence : Int32) (verdict : Verdict) :
    (replyBody sequence verdict).length ≤ frameLimit := by
  rw [reply_body_length]
  decide

theorem length_word (body : Bytes) (fits : body.length ≤ frameLimit) :
    (UInt32.ofNat body.length).toNat = body.length := by
  have bound : frameLimit < 4294967296 := by decide
  exact UInt32.toNat_ofNat_of_lt' (Nat.lt_of_le_of_lt fits bound)

theorem frame_split (body : Bytes) :
    frame body = Bytes.put32 (UInt32.ofNat body.length) [] ++ body := rfl

theorem announced_frame (body : Bytes) (fits : body.length ≤ frameLimit) :
    Delivery.Link.announced (Bytes.put32 (UInt32.ofNat body.length) []) = .ok body.length := by
  have word := (take_word_iff _ [] (UInt32.ofNat body.length)).mpr rfl
  rw [Delivery.Link.announced, word]
  simp only [frameLength, length_word body fits, if_neg (Nat.not_lt.mpr fits)]

def entryFields (entry : Entry) : List (Field (Option Mark)) :=
  [⟨Kind.text.code, 1, putText entry.category [], some (.category entry.category)⟩,
    ⟨Kind.text.code, 2, putText entry.message [], some (.message entry.message)⟩]

def entryArgument (entry : Entry) : Field (List Entry) :=
  ⟨Kind.list.code, 1, Kind.struct.code :: Bytes.put32 1 (structBytes (entryFields entry)), [entry]⟩

theorem call_body_split (sequence : Int32) (entry : Entry) :
    callBody sequence entry = putPlain ⟨method, MessageType.call, sequence⟩ [] ++
      structBytes [entryArgument entry] ++ [] := by
  simp [callBody, putPlain, putField, putStop, structBytes, Field.bytes, entryArgument, entryFields]

theorem entry_argument_form (entry : Entry) (fits : callLength entry ≤ frameLimit) :
    ArgumentField (entryArgument entry) := by
  have bound : frameLimit < 2147483648 := by decide
  have categorySmall : Utf8.size entry.category < 2147483648 := by
    unfold callLength at fits
    omega
  have messageSmall : Utf8.size entry.message < 2147483648 := by
    unfold callLength at fits
    omega
  have forms : ∀ field ∈ entryFields entry, EntryField field := by
    intro field member
    simp only [entryFields, List.mem_cons, List.not_mem_nil, or_false] at member
    rcases member with rfl | rfl
    · exact .category entry.category categorySmall
    · exact .message entry.message messageSmall
  have item : EntryBytes (structBytes (entryFields entry)) entry := .fields _ forms
  have argument := ArgumentField.entries [(structBytes (entryFields entry), entry)] (by simp)
    (List.forall_mem_singleton.mpr item)
  simpa [entryArgument] using argument

theorem decode_call_body (sequence : Int32) (entry : Entry) (fits : callLength entry ≤ frameLimit) :
    decodeCall (callBody sequence entry) = .ok ⟨sequence, [entry]⟩ := by
  have named : Utf8.size method < 2147483648 := by
    rw [method_size]
    decide
  rw [call_body_split]
  exact decode_call_complete _ _ (.arguments MessageType.call sequence _ [entryArgument entry] []
    (.plain named) (.inl rfl) (List.forall_mem_singleton.mpr (entry_argument_form entry fits)))

def resultField (verdict : Verdict) : Field (Option Int32) :=
  ⟨Kind.int32.code, 0, putInt32 verdict.code [], some verdict.code⟩

def replyHead (sequence : Int32) : Bytes :=
  0x80 :: 0x01 :: 0 :: MessageType.reply :: putText method (putInt32 sequence [])

theorem reply_body_split (sequence : Int32) (verdict : Verdict) :
    replyBody sequence verdict =
      replyHead sequence ++ structBytes [resultField verdict] ++ [] := by
  simp [replyBody, replyHead, resultField, putVersioned, putField, putStop, structBytes, Field.bytes]
  rfl

theorem reply_headed (sequence : Int32) :
    Headed ⟨method, MessageType.reply, sequence⟩ (replyHead sequence) := by
  refine .versioned 0 ?_
  rw [method_size]
  decide

theorem decode_reply_body (sequence : Int32) (verdict : Verdict) :
    decodeReply (replyBody sequence verdict) sequence = .ok verdict := by
  rw [reply_body_split, decode_reply_result sequence _ [] [resultField verdict]
    (reply_headed sequence) (List.forall_mem_singleton.mpr (.code verdict.code))]
  simp [resultField, verdictOf, Verdict.of_code_code]

theorem decode_reply_body_mismatch (sequence expected : Int32) (verdict : Verdict)
    (other : sequence ≠ expected) :
    decodeReply (replyBody sequence verdict) expected =
      .error (.fault (.sequence expected sequence)) := by
  rw [reply_body_split, List.append_assoc]
  exact decode_reply_mismatch _ _ _ expected (reply_headed sequence) other

theorem encode_call_fitting (buffer : Bytes) (sequence : Int32) (entry : Entry)
    (fits : callLength entry ≤ frameLimit) :
    encodeCall buffer sequence entry = (.ok (), frame (callBody sequence entry)) :=
  if_neg (Nat.not_lt.mpr fits)

theorem encode_call_oversize (buffer : Bytes) (sequence : Int32) (entry : Entry)
    (large : ¬ callLength entry ≤ frameLimit) :
    encodeCall buffer sequence entry = (.error ⟨callLength entry, frameLimit⟩, []) :=
  if_pos (Nat.lt_of_not_le large)

theorem codec_round_trip :
    (∀ (buffer : Bytes) (sequence : Int32) (entry : Entry),
      if 36 + Utf8.size entry.category + Utf8.size entry.message ≤ frameLimit then
        ∃ front body, encodeCall buffer sequence entry = (.ok (), front ++ body) ∧
          front.length = 4 ∧
          body.length = 36 + Utf8.size entry.category + Utf8.size entry.message ∧
          Delivery.Link.announced front = .ok body.length ∧
          decodeCall body = .ok ⟨sequence, [entry]⟩
      else
        encodeCall buffer sequence entry =
          (.error ⟨36 + Utf8.size entry.category + Utf8.size entry.message, frameLimit⟩, [])) ∧
    (∀ (buffer : Bytes) (sequence : Int32) (verdict : Verdict),
      ∃ front body, encodeReply buffer sequence verdict = front ++ body ∧ front.length = 4 ∧
        Delivery.Link.announced front = .ok body.length ∧
        decodeReply body sequence = .ok verdict ∧
        ∀ expected, expected ≠ sequence → ∃ detail,
          (decodeReply body expected).mapError Delivery.Failure.ofReplyError =
            .error (.protocol detail)) := by
  constructor
  · intro buffer sequence entry
    split
    · next fits =>
      exact ⟨_, callBody sequence entry, encode_call_fitting buffer sequence entry fits, rfl,
        call_body_length sequence entry, announced_frame _ (call_body_fits sequence entry fits),
        decode_call_body sequence entry fits⟩
    · next large => exact encode_call_oversize buffer sequence entry large
  · intro buffer sequence verdict
    refine ⟨_, replyBody sequence verdict, frame_split _, rfl,
      announced_frame _ (reply_body_fits sequence verdict), decode_reply_body sequence verdict, ?_⟩
    intro expected other
    rw [decode_reply_body_mismatch sequence expected verdict other.symm]
    exact ⟨_, rfl⟩

end LogRelay.Wire
