import LogRelay.Delivery.Failure
import LogRelay.Proofs.Wire.Heading

/-!
The two written forms of a message's head are interchangeable: what is read behind a head does not
depend on its form. A first word that is neither the length of a name nor a version is refused.
-/
set_option autoImplicit false

namespace LogRelay.Wire

theorem decode_call_forms (header : Header) (head other rest : Bytes)
    (headed : Headed header head) (otherwise : Headed header other) :
    decodeCall (head ++ rest) = decodeCall (other ++ rest) := by
  rw [decodeCall, decodeCall, take_header_complete head rest header headed,
    take_header_complete other rest header otherwise]

theorem decode_reply_forms (header : Header) (head other rest : Bytes) (expected : Int32)
    (headed : Headed header head) (otherwise : Headed header other) :
    decodeReply (head ++ rest) expected = decodeReply (other ++ rest) expected := by
  rw [decodeReply, decodeReply, take_header_complete head rest header headed,
    take_header_complete other rest header otherwise]

theorem decode_call_headless (body : Bytes) (fault : Fault)
    (headless : takeHeader body = .error fault) : decodeCall body = .error fault := by
  rw [decodeCall, headless]

theorem decode_reply_headless (body : Bytes) (expected : Int32) (fault : Fault)
    (headless : takeHeader body = .error fault) :
    decodeReply body expected = .error (.fault fault) := by
  rw [decodeReply, headless]

theorem word_upper_half (first second third fourth : UInt8) :
    (Bytes.word32 first second third fourth).toNat / 65536 = first.toNat * 256 + second.toNat := by
  have firstBound := first.toNat_lt
  have secondBound := second.toNat_lt
  have thirdBound := third.toNat_lt
  have fourthBound := fourth.toNat_lt
  simp only [Bytes.word32, UInt32.toNat_ofNat']
  omega

theorem upper_half_version (first second : UInt8) (other : ¬ (first = 0x80 ∧ second = 0x01)) :
    first.toNat * 256 + second.toNat ≠ 0x8001 := by
  intro version
  have bound := second.toNat_lt
  apply other
  constructor
  · apply UInt8.toNat_inj.mp
    simp only [UInt8.reduceToNat]
    omega
  · apply UInt8.toNat_inj.mp
    simp only [UInt8.reduceToNat]
    omega

theorem take_header_unversioned (first second third fourth : UInt8) (rest : Bytes)
    (negative : (Bytes.word32 first second third fourth).toInt32 < 0)
    (other : ¬ (first = 0x80 ∧ second = 0x01)) :
    takeHeader (first :: second :: third :: fourth :: rest) =
      .error (.version (Bytes.word32 first second third fourth)) := by
  have foreign : (Bytes.word32 first second third fourth).toNat / 65536 ≠ 0x8001 := by
    rw [word_upper_half]
    exact upper_half_version first second other
  have worded : takeWord (first :: second :: third :: fourth :: rest) =
      .ok (Bytes.word32 first second third fourth, rest) := rfl
  rw [takeHeader, worded]
  simp only [if_pos negative]
  rw [takeVersioned, if_pos foreign]

theorem head_forms_interchangeable :
    (∀ (name : String) (type filler : UInt8) (sequence : Int32) (tail : Bytes),
      Utf8.size name < 2147483648 →
      let versioned := 0x80 :: 0x01 :: filler :: type :: putText name (putInt32 sequence tail)
      let plain := putText name (type :: putInt32 sequence tail)
      decodeCall versioned = decodeCall plain ∧
        ∀ expected, decodeReply versioned expected = decodeReply plain expected) ∧
    ∀ (first second third fourth : UInt8) (rest : Bytes),
      (Bytes.word32 first second third fourth).toInt32 < 0 → ¬ (first = 0x80 ∧ second = 0x01) →
      let body := first :: second :: third :: fourth :: rest
      let refused := Delivery.Failure.protocol
        (Fault.version (Bytes.word32 first second third fourth)).message
      (decodeCall body).mapError Delivery.Failure.ofFault = .error refused ∧
        ∀ expected, (decodeReply body expected).mapError Delivery.Failure.ofReplyError =
          .error refused := by
  refine ⟨?_, ?_⟩
  · intro name type filler sequence tail small versioned plain
    have strict : Headed ⟨name, type, sequence⟩ _ := .versioned filler small
    have loose : Headed ⟨name, type, sequence⟩ _ := .plain small
    have written : versioned = (0x80 :: 0x01 :: filler :: type ::
        putText name (putInt32 sequence [])) ++ tail := by
      simp [versioned]
    have otherwise : plain = putPlain ⟨name, type, sequence⟩ [] ++ tail := by
      simp [plain, putPlain]
    rw [written, otherwise]
    exact ⟨decode_call_forms _ _ _ tail strict loose,
      fun expected => decode_reply_forms _ _ _ tail expected strict loose⟩
  · intro first second third fourth rest negative other body refused
    have headless := take_header_unversioned first second third fourth rest negative other
    refine ⟨?_, ?_⟩
    · rw [decode_call_headless body _ headless]
      rfl
    · intro expected
      rw [decode_reply_headless body expected _ headless]
      rfl

-- The plain form of a reply is a verdict like a versioned one whose third byte is not zero; a
-- second version is refused.
theorem plain_reply_accepted :
    Utf8.size method < 2147483648 ∧
      decodeReply (putText method (MessageType.reply :: putInt32 (-7)
        (putField .int32 0 (putInt32 1 (putStop []))))) (-7) = .ok .tryLater ∧
      (Bytes.word32 0x80 0x02 0 2).toInt32 < 0 ∧
      (decodeCall [0x80, 0x02, 0, 2]).mapError Delivery.Failure.ofFault =
        .error (.protocol "bad protocol version 0x80020002") := by
  have small : Utf8.size method < 2147483648 := by decide
  have negative : (Bytes.word32 0x80 0x02 0 2).toInt32 < 0 := by decide
  obtain ⟨forms, refused⟩ := head_forms_interchangeable
  refine ⟨small, ?_, negative, ?_⟩
  · rw [← (forms method MessageType.reply 9 (-7) _ small).2 (-7)]
    with_unfolding_all rfl
  · have told : (Fault.version (Bytes.word32 0x80 0x02 0 2)).message =
        "bad protocol version 0x80020002" := by decide +kernel
    rw [← told]
    exact (refused 0x80 0x02 0 2 [] negative (by decide)).1

end LogRelay.Wire
