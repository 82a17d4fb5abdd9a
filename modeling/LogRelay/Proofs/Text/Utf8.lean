import LogRelay.Text.Utf8

/-!
Reading bytes leniently changes no text: of bytes that are the encoding of a text nothing is
replaced.
-/
set_option autoImplicit false

namespace LogRelay.Utf8

theorem encode_chars (text : String) :
    encode text = text.toList.flatMap String.utf8EncodeChar := by
  have bytes : text.toByteArray = text.toList.utf8Encode := by
    rw [← String.toByteArray_ofList, String.ofList_toList]
  rw [encode_eq, bytes, List.utf8Encode]
  simp

theorem tail_byte (n : Nat) : (UInt8.ofNat (n % 64 + 128)).toNat = n % 64 + 128 := by
  rw [UInt8.toNat_ofNat']
  omega

section Tail

variable (p : Partial) (out : List Char) (n : Nat) (rest : Bytes)
  (inside : p.low ≤ n % 64 + 128 ∧ n % 64 + 128 ≤ p.high)

include inside

theorem scan_last (last : p.owed ≤ 1) :
    scanLossy (some p) out (UInt8.ofNat (n % 64 + 128) :: rest) =
      scanLossy none (Char.ofNat (p.bits * 64 + n % 64) :: out) rest := by
  rw [scanLossy, tail_byte, if_pos inside, if_pos last, Nat.add_sub_cancel]

theorem scan_more (more : 1 < p.owed) :
    scanLossy (some p) out (UInt8.ofNat (n % 64 + 128) :: rest) =
      scanLossy (some ⟨p.bits * 64 + n % 64, p.owed - 1, 0x80, 0xBF⟩) out rest := by
  rw [scanLossy, tail_byte, if_pos inside, if_neg (by omega), Nat.add_sub_cancel]

end Tail

theorem scan_begun (out : List Char) (b : UInt8) (rest : Bytes) (p : Partial)
    (begun : lead b = .begun p) :
    scanLossy none out (b :: rest) = scanLossy (some p) out rest := by
  rw [scanLossy, begun]

theorem tail_inside (n : Nat) : 0x80 ≤ n % 64 + 128 ∧ n % 64 + 128 ≤ 0xBF := by
  omega

-- What the first byte of several begins: the bits that it carries, and the bytes owed, of which the
-- next one lies within its range.
structure Begins (b : UInt8) (bits owed next : Nat) (p : Partial) : Prop where
  begun : lead b = .begun p
  bits : p.bits = bits
  owed : p.owed = owed
  next : p.low ≤ next ∧ next ≤ p.high

theorem begins_two (n : Nat) (low : 0x80 ≤ n) (high : n ≤ 0x7FF) :
    ∃ p, Begins (UInt8.ofNat (n / 64 % 32 + 192)) (n / 64) 1 (n % 64 + 128) p := by
  have byte : (UInt8.ofNat (n / 64 % 32 + 192)).toNat = n / 64 + 192 := by
    rw [UInt8.toNat_ofNat']
    omega
  refine ⟨⟨n / 64, 1, 0x80, 0xBF⟩, ?_, rfl, rfl, by dsimp only; omega⟩
  simp only [lead, byte]
  rw [if_neg (by omega), if_neg (by omega), if_pos (by omega), Nat.add_sub_cancel]

theorem begins_three (n : Nat) (low : 0x800 ≤ n) (high : n ≤ 0xFFFF)
    (valid : n < 0xD800 ∨ 0xDFFF < n) :
    ∃ p, Begins (UInt8.ofNat (n / 4096 % 16 + 224)) (n / 4096) 2 (n / 64 % 64 + 128) p := by
  have byte : (UInt8.ofNat (n / 4096 % 16 + 224)).toNat = n / 4096 + 224 := by
    rw [UInt8.toNat_ofNat']
    omega
  by_cases least : n / 4096 = 0
  · refine ⟨⟨0, 2, 0xA0, 0xBF⟩, ?_, least.symm, rfl, by dsimp only; omega⟩
    simp only [lead, byte]
    rw [if_neg (by omega), if_neg (by omega), if_neg (by omega), if_pos (by omega)]
  · by_cases beforeSurrogates : n / 4096 = 13
    · refine ⟨⟨0xD, 2, 0x80, 0x9F⟩, ?_, beforeSurrogates.symm, rfl, by dsimp only; omega⟩
      simp only [lead, byte]
      rw [if_neg (by omega), if_neg (by omega), if_neg (by omega), if_neg (by omega),
        if_pos (by omega)]
    · refine ⟨⟨n / 4096, 2, 0x80, 0xBF⟩, ?_, rfl, rfl, by dsimp only; omega⟩
      simp only [lead, byte]
      rw [if_neg (by omega), if_neg (by omega), if_neg (by omega), if_neg (by omega),
        if_neg (by omega), if_pos (by omega), Nat.add_sub_cancel]

theorem begins_four (n : Nat) (low : 0x10000 ≤ n) (high : n ≤ 0x10FFFF) :
    ∃ p, Begins (UInt8.ofNat (n / 262144 % 8 + 240)) (n / 262144) 3 (n / 4096 % 64 + 128) p := by
  have byte : (UInt8.ofNat (n / 262144 % 8 + 240)).toNat = n / 262144 + 240 := by
    rw [UInt8.toNat_ofNat']
    omega
  by_cases least : n / 262144 = 0
  · refine ⟨⟨0, 3, 0x90, 0xBF⟩, ?_, least.symm, rfl, by dsimp only; omega⟩
    simp only [lead, byte]
    rw [if_neg (by omega), if_neg (by omega), if_neg (by omega), if_neg (by omega),
      if_neg (by omega), if_neg (by omega), if_pos (by omega)]
  · by_cases greatest : n / 262144 = 4
    · refine ⟨⟨4, 3, 0x80, 0x8F⟩, ?_, greatest.symm, rfl, by dsimp only; omega⟩
      simp only [lead, byte]
      rw [if_neg (by omega), if_neg (by omega), if_neg (by omega), if_neg (by omega),
        if_neg (by omega), if_neg (by omega), if_neg (by omega), if_neg (by omega),
        if_pos (by omega)]
    · refine ⟨⟨n / 262144, 3, 0x80, 0xBF⟩, ?_, rfl, rfl, by dsimp only; omega⟩
      simp only [lead, byte]
      rw [if_neg (by omega), if_neg (by omega), if_neg (by omega), if_neg (by omega),
        if_neg (by omega), if_neg (by omega), if_neg (by omega), if_pos (by omega),
        Nat.add_sub_cancel]

theorem scan_char (c : Char) (out : List Char) (rest : Bytes) :
    scanLossy none out (String.utf8EncodeChar c ++ rest) = scanLossy none (c :: out) rest := by
  have valid : c.val.toNat < 0xD800 ∨ 0xDFFF < c.val.toNat ∧ c.val.toNat < 0x110000 := c.valid
  have same : Char.ofNat c.val.toNat = c := Char.ofNat_toNat c
  unfold String.utf8EncodeChar
  dsimp only
  generalize c.val.toNat = n at valid same
  by_cases one : n ≤ 127
  · have byte : (UInt8.ofNat n).toNat = n := by
      rw [UInt8.toNat_ofNat']
      omega
    have whole : lead (UInt8.ofNat n) = .whole c := by
      simp only [lead, byte]
      rw [if_pos (by omega), same]
    rw [if_pos one, List.cons_append, List.nil_append, scanLossy, whole]
  · rw [if_neg one]
    by_cases two : n ≤ 2047
    · obtain ⟨p, begun, bits, owed, next⟩ := begins_two n (by omega) two
      have total : n / 64 * 64 + n % 64 = n := by omega
      rw [if_pos two, List.cons_append, List.cons_append, List.nil_append,
        scan_begun _ _ _ p begun, scan_last p _ n _ next (by omega), bits, total, same]
    · rw [if_neg two]
      by_cases three : n ≤ 65535
      · obtain ⟨p, begun, bits, owed, next⟩ := begins_three n (by omega) three (by omega)
        have total : (n / 4096 * 64 + n / 64 % 64) * 64 + n % 64 = n := by omega
        rw [if_pos three, List.cons_append, List.cons_append, List.cons_append, List.nil_append,
          scan_begun _ _ _ p begun, scan_more p _ (n / 64) _ next (by omega), bits, owed,
          scan_last _ _ n _ (tail_inside n) (Nat.le_refl 1), total, same]
      · obtain ⟨p, begun, bits, owed, next⟩ := begins_four n (by omega) (by omega)
        have total : ((n / 262144 * 64 + n / 4096 % 64) * 64 + n / 64 % 64) * 64 + n % 64 = n := by
          omega
        rw [if_neg three, List.cons_append, List.cons_append, List.cons_append, List.cons_append,
          List.nil_append, scan_begun _ _ _ p begun,
          scan_more p _ (n / 4096) _ next (by omega), bits, owed,
          scan_more _ _ (n / 64) _ (tail_inside (n / 64)) (Nat.lt_succ_self 1),
          scan_last _ _ n _ (tail_inside n) (Nat.le_refl 1), total, same]

theorem scan_chars (text out : List Char) :
    scanLossy none out (text.flatMap String.utf8EncodeChar) = out.reverse ++ text := by
  induction text generalizing out with
  | nil =>
      rw [List.append_nil]
      rfl
  | cons c text ih =>
      rw [List.flatMap_cons, scan_char, ih, List.reverse_cons, List.append_assoc]
      rfl

theorem decode_lossy_encode (text : String) : decodeLossy (encode text) = text := by
  rw [decodeLossy, encode_chars, scan_chars, List.reverse_nil, List.nil_append,
    String.ofList_toList]

end LogRelay.Utf8
