import LogRelay.Wire.Header

/-!
Readers undo writers: a reader succeeds exactly where the bytes are what a writer puts in front of
the rest that the reader leaves.
-/
set_option autoImplicit false

namespace LogRelay

namespace Bytes

@[simp] theorem put16_append (n : UInt16) (front back : Bytes) :
    put16 n front ++ back = put16 n (front ++ back) := rfl

@[simp] theorem put32_append (n : UInt32) (front back : Bytes) :
    put32 n front ++ back = put32 n (front ++ back) := rfl

theorem put16_word16 (a b : UInt8) (rest : Bytes) : put16 (word16 a b) rest = a :: b :: rest := by
  have high := a.toNat_lt
  have low := b.toNat_lt
  have whole : (word16 a b).toNat = a.toNat * 256 + b.toNat := by
    simp only [word16, UInt16.toNat_ofNat']
    omega
  have first : UInt8.ofNat ((word16 a b).toNat / 256) = a := by
    apply UInt8.toNat_inj.mp
    simp only [UInt8.toNat_ofNat', whole]
    omega
  have second : UInt8.ofNat (word16 a b).toNat = b := by
    apply UInt8.toNat_inj.mp
    simp only [UInt8.toNat_ofNat', whole]
    omega
  rw [put16, first, second]

theorem put32_word32 (a b c d : UInt8) (rest : Bytes) :
    put32 (word32 a b c d) rest = a :: b :: c :: d :: rest := by
  have boundA := a.toNat_lt
  have boundB := b.toNat_lt
  have boundC := c.toNat_lt
  have boundD := d.toNat_lt
  have whole : (word32 a b c d).toNat =
      a.toNat * 16777216 + b.toNat * 65536 + c.toNat * 256 + d.toNat := by
    simp only [word32, UInt32.toNat_ofNat']
    omega
  have byte (n : Nat) (x : UInt8) (same : n % 256 = x.toNat) : UInt8.ofNat n = x := by
    apply UInt8.toNat_inj.mp
    rw [UInt8.toNat_ofNat', same]
  rw [put32, byte _ a (by omega), byte _ b (by omega), byte _ c (by omega), byte _ d (by omega)]

end Bytes

namespace Utf8

@[simp] theorem put_append (text : String) (front back : Bytes) :
    put text front ++ back = put text (front ++ back) := by
  simp only [put_eq, List.append_assoc]

end Utf8

namespace Wire

@[simp] theorem put_text_append (text : String) (front back : Bytes) :
    putText text front ++ back = putText text (front ++ back) := by
  simp only [putText, Bytes.put32_append, Utf8.put_append]

@[simp] theorem put_int32_append (value : Int32) (front back : Bytes) :
    putInt32 value front ++ back = putInt32 value (front ++ back) := rfl

theorem take_byte_iff (input rest : Bytes) (value : UInt8) :
    takeByte input = .ok (value, rest) ↔ input = value :: rest := by
  cases input with
  | nil => simp [takeByte]
  | cons a tail => simp [takeByte]

theorem take_int16_iff (input rest : Bytes) (value : Int16) :
    takeInt16 input = .ok (value, rest) ↔ input = Bytes.put16 value.toUInt16 rest := by
  constructor
  · intro read
    match input, read with
    | a :: b :: tail, read =>
        cases read
        exact (Bytes.put16_word16 a b rest).symm
    | [_], read => cases read
    | [], read => cases read
  · rintro rfl
    simp only [takeInt16, Bytes.put16, Bytes.word16_put16]
    rfl

theorem take_word_iff (input rest : Bytes) (value : UInt32) :
    takeWord input = .ok (value, rest) ↔ input = Bytes.put32 value rest := by
  constructor
  · intro read
    match input, read with
    | a :: b :: c :: d :: tail, read =>
        cases read
        exact (Bytes.put32_word32 a b c d rest).symm
    | [_, _, _], read => cases read
    | [_, _], read => cases read
    | [_], read => cases read
    | [], read => cases read
  · rintro rfl
    simp only [takeWord, Bytes.put32, Bytes.word32_put32]

theorem take_int32_iff (input rest : Bytes) (value : Int32) :
    takeInt32 input = .ok (value, rest) ↔ input = putInt32 value rest := by
  unfold takeInt32 putInt32
  constructor
  · intro read
    split at read
    · cases read
    · next word tail taken =>
      cases read
      exact (take_word_iff input rest word).mp taken
  · intro written
    rw [(take_word_iff input rest value.toUInt32).mpr written]
    rfl

theorem word_sign (word : UInt32) : word.toInt32 < 0 ↔ 2147483648 ≤ word.toNat := by
  have bound := word.toNat_lt
  rw [Int32.lt_iff_toInt_lt, Int32.toInt_zero, ← Int32.toInt_toBitVec, UInt32.toBitVec_toInt32,
    BitVec.toInt_eq_toNat_cond, UInt32.toNat_toBitVec]
  split <;> omega

theorem word_length (word : UInt32) (small : word.toNat < 2147483648) :
    word.toInt32.toInt.toNat = word.toNat := by
  rw [← Int32.toInt_toBitVec, UInt32.toBitVec_toInt32, BitVec.toInt_eq_toNat_cond,
    UInt32.toNat_toBitVec]
  split <;> omega

theorem take_length_iff (input rest : Bytes) (length : Nat) :
    takeLength input = .ok (length, rest) ↔
      length < 2147483648 ∧ input = Bytes.put32 (UInt32.ofNat length) rest := by
  constructor
  · intro read
    unfold takeLength takeInt32 at read
    split at read
    · cases read
    · next value tail taken =>
      split at taken
      · cases taken
      · next word behind worded =>
        cases taken
        split at read
        · cases read
        · next positive =>
          cases read
          have small : word.toNat < 2147483648 :=
            Nat.lt_of_not_le fun large => positive ((word_sign word).mpr large)
          rw [word_length word small, UInt32.ofNat_toNat]
          exact ⟨small, (take_word_iff input rest word).mp worded⟩
  · rintro ⟨small, written⟩
    have whole : (UInt32.ofNat length).toNat = length :=
      UInt32.toNat_ofNat_of_lt' (Nat.lt_trans small (by decide))
    have positive : ¬ (UInt32.ofNat length).toInt32 < 0 := by
      rw [word_sign, whole]
      omega
    have read : takeInt32 input = .ok ((UInt32.ofNat length).toInt32, rest) :=
      (take_int32_iff input rest _).mpr written
    rw [takeLength, read]
    simp only [if_neg positive]
    rw [word_length _ (by omega), whole]

theorem take_bytes_iff (count : Nat) (input taken rest : Bytes) :
    takeBytes count input = .ok (taken, rest) ↔ taken.length = count ∧ input = taken ++ rest := by
  constructor
  · intro read
    have exact := (take_bytes_length read).1
    unfold takeBytes at read
    dsimp only at read
    split at read
    · cases read
    · cases read
      exact ⟨exact, (List.take_append_drop count input).symm⟩
  · rintro ⟨rfl, rfl⟩
    simp [takeBytes]

theorem drop_bytes_iff (count : Nat) (input rest : Bytes) :
    dropBytes count input = .ok rest ↔ ∃ taken, taken.length = count ∧ input = taken ++ rest := by
  constructor
  · intro read
    unfold dropBytes at read
    split at read
    · cases read
    · next taken tail took =>
      cases read
      exact ⟨taken, (take_bytes_iff count input taken rest).mp took⟩
  · rintro ⟨taken, split⟩
    rw [dropBytes, (take_bytes_iff count input taken rest).mpr split]

theorem take_text_iff (input rest : Bytes) (text : String) :
    takeText input = .ok (text, rest) ↔
      Utf8.size text < 2147483648 ∧ input = putText text rest := by
  constructor
  · intro read
    unfold takeText at read
    split at read
    · cases read
    · next length behind measured =>
      split at read
      · cases read
      · next bytes tail took =>
        split at read
        · cases read
        · next valid =>
          cases read
          obtain ⟨small, written⟩ := (take_length_iff input behind length).mp measured
          obtain ⟨exact, split⟩ := (take_bytes_iff length behind bytes rest).mp took
          have encoded := Utf8.eq_encode_of_decode valid
          have size : Utf8.size text = length := by
            rw [← Utf8.encode_length, ← encoded, exact]
          rw [putText, size, Utf8.put_eq_encode_append, ← encoded, ← split]
          exact ⟨small, written⟩
  · rintro ⟨small, rfl⟩
    have measured := (take_length_iff _ (Utf8.put text rest) (Utf8.size text)).mpr ⟨small, rfl⟩
    have took := (take_bytes_iff (Utf8.size text) (Utf8.put text rest) (Utf8.encode text) rest).mpr
      ⟨Utf8.encode_length text, Utf8.put_eq_encode_append text rest⟩
    rw [takeText, putText, measured]
    simp only [took, Utf8.decode_encode]

end Wire

end LogRelay
