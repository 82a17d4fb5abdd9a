import LogRelay.Proofs.Wire.Reading

set_option autoImplicit false

namespace LogRelay.Wire

-- The third byte of a versioned head is never looked at. The sign bit of the first word tells the
-- forms apart, so a plain head exists only for a name shorter than 2^31 bytes.
inductive Headed (header : Header) : Bytes → Prop where
  | versioned (filler : UInt8) (small : Utf8.size header.name < 2147483648) :
      Headed header (0x80 :: 0x01 :: filler :: header.type ::
        putText header.name (putInt32 header.sequence []))
  | plain (small : Utf8.size header.name < 2147483648) :
      Headed header (putPlain header [])

theorem take_plain_iff (length : Nat) (input rest : Bytes) (header : Header) :
    takePlain length input = .ok (header, rest) ↔
      Utf8.size header.name = length ∧
        input = Utf8.put header.name (header.type :: putInt32 header.sequence rest) := by
  constructor
  · intro read
    unfold takePlain at read
    split at read
    · cases read
    · next bytes behind took =>
      split at read
      · cases read
      · next name valid =>
        split at read
        · cases read
        · next type tail typed =>
          split at read
          · cases read
          · next sequence last numbered =>
            cases read
            obtain ⟨exact, split⟩ := (take_bytes_iff length input bytes behind).mp took
            have encoded := Utf8.eq_encode_of_decode valid
            have typeByte := (take_byte_iff behind tail type).mp typed
            have number := (take_int32_iff tail rest sequence).mp numbered
            rw [split, encoded, typeByte, number, ← Utf8.put_eq_encode_append]
            exact ⟨by rw [← exact, encoded, Utf8.encode_length], rfl⟩
  · rintro ⟨size, written⟩
    have split := Utf8.put_eq_encode_append header.name
      (header.type :: putInt32 header.sequence rest)
    have took := (take_bytes_iff length input (Utf8.encode header.name) _).mpr
      ⟨(Utf8.encode_length header.name).trans size, written.trans split⟩
    have number := (take_int32_iff (putInt32 header.sequence rest) rest header.sequence).mpr rfl
    simp only [takePlain, took, Utf8.decode_encode, takeByte, number]

theorem take_versioned_iff (word : UInt32) (input rest : Bytes) (header : Header) :
    takeVersioned word input = .ok (header, rest) ↔
      word.toNat / 65536 = 0x8001 ∧ header.type = UInt8.ofNat word.toNat ∧
        Utf8.size header.name < 2147483648 ∧
        input = putText header.name (putInt32 header.sequence rest) := by
  constructor
  · intro read
    unfold takeVersioned at read
    split at read
    · cases read
    · next version =>
      split at read
      · cases read
      · next name tail named =>
        split at read
        · cases read
        · next sequence last numbered =>
          cases read
          obtain ⟨small, written⟩ := (take_text_iff input tail name).mp named
          have number := (take_int32_iff tail rest sequence).mp numbered
          exact ⟨Decidable.not_not.mp version, rfl, small, by rw [written, number]⟩
  · rintro ⟨version, type, small, written⟩
    have named := (take_text_iff input (putInt32 header.sequence rest) header.name).mpr
      ⟨small, written⟩
    have number := (take_int32_iff (putInt32 header.sequence rest) rest header.sequence).mpr rfl
    simp only [takeVersioned, version, named, number, ← type]
    rfl

theorem version_bytes (word : UInt32) (rest : Bytes) :
    word.toNat / 65536 = 0x8001 ↔
      ∃ filler, Bytes.put32 word rest =
        0x80 :: 0x01 :: filler :: UInt8.ofNat word.toNat :: rest := by
  have bound := word.toNat_lt
  have byte (n : Nat) (x : UInt8) : UInt8.ofNat n = x ↔ n % 256 = x.toNat := by
    rw [← UInt8.toNat_inj, UInt8.toNat_ofNat']
  constructor
  · intro version
    have first : UInt8.ofNat (word.toNat / 16777216) = 0x80 := (byte _ _).mpr (by simp; omega)
    have second : UInt8.ofNat (word.toNat / 65536) = 0x01 := (byte _ _).mpr (by simp; omega)
    exact ⟨UInt8.ofNat (word.toNat / 256), by rw [Bytes.put32, first, second]⟩
  · rintro ⟨filler, written⟩
    simp only [Bytes.put32, List.cons.injEq] at written
    have first := (byte _ _).mp written.1
    have second := (byte _ _).mp written.2.1
    simp only [UInt8.reduceToNat] at first second
    omega

theorem version_word (filler type : UInt8) :
    (Bytes.word32 0x80 0x01 filler type).toInt32 < 0 ∧
      (Bytes.word32 0x80 0x01 filler type).toNat / 65536 = 0x8001 ∧
      type = UInt8.ofNat (Bytes.word32 0x80 0x01 filler type).toNat := by
  have fillerBound := filler.toNat_lt
  have typeBound := type.toNat_lt
  have value : (Bytes.word32 0x80 0x01 filler type).toNat =
      0x80010000 + filler.toNat * 256 + type.toNat := by
    simp only [Bytes.word32, UInt32.toNat_ofNat', UInt8.reduceToNat]
    omega
  refine ⟨?_, ?_, ?_⟩
  · rw [word_sign, value]
    omega
  · rw [value]
    omega
  · apply UInt8.toNat_inj.mp
    rw [UInt8.toNat_ofNat', value]
    omega

theorem take_header_sound (input rest : Bytes) (header : Header)
    (read : takeHeader input = .ok (header, rest)) :
    ∃ front, Headed header front ∧ input = front ++ rest := by
  unfold takeHeader at read
  split at read
  · cases read
  · next word behind worded =>
    have opening := (take_word_iff input behind word).mp worded
    split at read
    · obtain ⟨version, type, small, written⟩ :=
        (take_versioned_iff word behind rest header).mp read
      obtain ⟨filler, bytes⟩ := (version_bytes word behind).mp version
      refine ⟨_, .versioned filler small, ?_⟩
      rw [opening, bytes, type, written]
      simp
    · next positive =>
      obtain ⟨size, written⟩ := (take_plain_iff word.toNat behind rest header).mp read
      have small : Utf8.size header.name < 2147483648 := by
        rw [size]
        exact Nat.lt_of_not_le fun large => positive ((word_sign word).mpr large)
      refine ⟨_, .plain small, ?_⟩
      rw [opening, written, putPlain, putText, size, UInt32.ofNat_toNat]
      simp

theorem take_header_complete (front rest : Bytes) (header : Header)
    (headed : Headed header front) : takeHeader (front ++ rest) = .ok (header, rest) := by
  cases headed with
  | versioned filler small =>
      obtain ⟨negative, version, type⟩ := version_word filler header.type
      have worded : takeWord (0x80 :: 0x01 :: filler :: header.type ::
          (putText header.name (putInt32 header.sequence []) ++ rest)) = .ok
            (Bytes.word32 0x80 0x01 filler header.type,
              putText header.name (putInt32 header.sequence []) ++ rest) := rfl
      rw [List.cons_append, List.cons_append, List.cons_append, List.cons_append, takeHeader,
        worded]
      simp only [if_pos negative]
      exact (take_versioned_iff _ _ rest header).mpr ⟨version, type, small, by simp⟩
  | plain small =>
      have whole : (UInt32.ofNat (Utf8.size header.name)).toNat = Utf8.size header.name :=
        UInt32.toNat_ofNat_of_lt' (Nat.lt_trans small (by decide))
      have positive : ¬ (UInt32.ofNat (Utf8.size header.name)).toInt32 < 0 := by
        rw [word_sign, whole]
        omega
      have worded := (take_word_iff (putPlain header [] ++ rest)
        (Utf8.put header.name (header.type :: putInt32 header.sequence rest))
        (UInt32.ofNat (Utf8.size header.name))).mpr (by simp [putPlain, putText])
      rw [takeHeader, worded]
      simp only [if_neg positive]
      exact (take_plain_iff _ _ rest header).mpr ⟨whole.symm, rfl⟩

theorem take_header_iff (input rest : Bytes) (header : Header) :
    takeHeader input = .ok (header, rest) ↔
      ∃ front, Headed header front ∧ input = front ++ rest := by
  constructor
  · exact take_header_sound input rest header
  · rintro ⟨front, headed, rfl⟩
    exact take_header_complete front rest header headed

end LogRelay.Wire
