import LogRelay.Bytes

/-!
Text as UTF-8 bytes. `encode` and `decode?` are inverse to each other; `decodeLossy` reads any byte
string, with one replacement character for each maximal prefix that no well-formed sequence has.
-/
set_option autoImplicit false

namespace LogRelay.Utf8

def put (text : String) (rest : Bytes) : Bytes :=
  go text.toByteArray text.toByteArray.size (Nat.le_refl _) rest
where
  go (data : ByteArray) : (n : Nat) → n ≤ data.size → Bytes → Bytes
    | 0, _, out => out
    | i + 1, inside, out => go data i (Nat.le_of_succ_le inside) (data[i] :: out)

def encode (text : String) : Bytes := put text []

def size (text : String) : Nat := text.utf8ByteSize

def decode? (bytes : Bytes) : Option String :=
  String.fromUTF8? bytes.toByteArray

theorem put_go_eq (data : ByteArray) (n : Nat) (inside : n ≤ data.size) (out : Bytes) :
    put.go data n inside out = data.data.toList.take n ++ out := by
  induction n generalizing out with
  | zero => simp [put.go]
  | succ n ih =>
    have within : n < data.data.toList.length := by
      rw [Array.length_toList]
      exact inside
    rw [put.go, ih, List.take_succ_eq_append_getElem within, List.append_assoc]
    rfl

theorem put_eq (text : String) (rest : Bytes) :
    put text rest = text.toByteArray.data.toList ++ rest := by
  have whole : text.toByteArray.size = text.toByteArray.data.toList.length := by
    rw [Array.length_toList, ByteArray.size]
  rw [put, put_go_eq, whole, List.take_length]

theorem encode_eq (text : String) : encode text = text.toByteArray.data.toList := by
  rw [encode, put_eq, List.append_nil]

theorem put_eq_encode_append (text : String) (rest : Bytes) :
    put text rest = encode text ++ rest := by
  rw [put_eq, encode_eq]

theorem encode_length (text : String) : (encode text).length = size text := by
  rw [encode_eq, Array.length_toList, size, String.utf8ByteSize, ByteArray.size]

theorem decode_encode (text : String) : decode? (encode text) = some text := by
  have same : (encode text).toByteArray = text.toByteArray := by
    rw [encode_eq]
    apply ByteArray.ext
    simp
  rw [decode?, same, String.fromUTF8?, dif_pos text.isValidUTF8]
  rfl

theorem eq_encode_of_decode {bytes : Bytes} {text : String} (read : decode? bytes = some text) :
    bytes = encode text := by
  rw [decode?, String.fromUTF8?] at read
  split at read
  · cases read
    simp [encode_eq, String.fromUTF8]
  · cases read

-- A character begun and not yet complete: its bits so far, the bytes still owed, and the range
-- that the next of them must lie in.
structure Partial where
  bits : Nat
  owed : Nat
  low : Nat
  high : Nat

inductive Lead where
  | whole (c : Char)
  | begun (p : Partial)
  | invalid

def lead (byte : UInt8) : Lead :=
  let b := byte.toNat
  if b < 0x80 then .whole (Char.ofNat b)
  else if b < 0xC2 then .invalid
  else if b < 0xE0 then .begun ⟨b - 0xC0, 1, 0x80, 0xBF⟩
  else if b = 0xE0 then .begun ⟨0, 2, 0xA0, 0xBF⟩
  else if b = 0xED then .begun ⟨0xD, 2, 0x80, 0x9F⟩
  else if b < 0xF0 then .begun ⟨b - 0xE0, 2, 0x80, 0xBF⟩
  else if b = 0xF0 then .begun ⟨0, 3, 0x90, 0xBF⟩
  else if b < 0xF4 then .begun ⟨b - 0xF0, 3, 0x80, 0xBF⟩
  else if b = 0xF4 then .begun ⟨4, 3, 0x80, 0x8F⟩
  else .invalid

def replacement : Char := '\uFFFD'

-- Reads on from a character begun, if any; `out` holds the characters read, the last first.
def scanLossy : Option Partial → List Char → Bytes → List Char
  | none, out, [] => out.reverse
  | some _, out, [] => (replacement :: out).reverse
  | none, out, b :: rest =>
      match lead b with
      | .whole c => scanLossy none (c :: out) rest
      | .begun p => scanLossy (some p) out rest
      | .invalid => scanLossy none (replacement :: out) rest
  | some p, out, b :: rest =>
      if p.low ≤ b.toNat ∧ b.toNat ≤ p.high then
        let bits := p.bits * 64 + (b.toNat - 0x80)
        if p.owed ≤ 1 then scanLossy none (Char.ofNat bits :: out) rest
        else scanLossy (some ⟨bits, p.owed - 1, 0x80, 0xBF⟩) out rest
      else
        match lead b with
        | .whole c => scanLossy none (c :: replacement :: out) rest
        | .begun q => scanLossy (some q) (replacement :: out) rest
        | .invalid => scanLossy none (replacement :: replacement :: out) rest

def decodeLossy (bytes : Bytes) : String :=
  String.ofList (scanLossy none [] bytes)

end LogRelay.Utf8
