import LogRelay.Text.Utf8
import LogRelay.Wire.Fault

/-!
Readers of single values. Each takes its value off the front of the bytes and returns the rest, or
says what is wrong; the lemmas state how many bytes a value takes.
-/
set_option autoImplicit false

namespace LogRelay.Wire

def takeByte : Bytes → Except Fault (UInt8 × Bytes)
  | a :: rest => .ok (a, rest)
  | [] => .error (.truncated 1 0)

def takeInt16 : Bytes → Except Fault (Int16 × Bytes)
  | a :: b :: rest => .ok ((Bytes.word16 a b).toInt16, rest)
  | short => .error (.truncated 2 short.length)

def takeWord : Bytes → Except Fault (UInt32 × Bytes)
  | a :: b :: c :: d :: rest => .ok (Bytes.word32 a b c d, rest)
  | short => .error (.truncated 4 short.length)

def takeInt32 (input : Bytes) : Except Fault (Int32 × Bytes) :=
  match takeWord input with
  | .error fault => .error fault
  | .ok (word, rest) => .ok (word.toInt32, rest)

-- A length is a signed integer that must not be negative.
def takeLength (input : Bytes) : Except Fault (Nat × Bytes) :=
  match takeInt32 input with
  | .error fault => .error fault
  | .ok (length, rest) =>
      if length < 0 then .error (.negativeLength length) else .ok (length.toInt.toNat, rest)

def takeBytes (count : Nat) (input : Bytes) : Except Fault (Bytes × Bytes) :=
  let taken := input.take count
  if taken.length < count then .error (.truncated count input.length)
  else .ok (taken, input.drop count)

def dropBytes (count : Nat) (input : Bytes) : Except Fault Bytes :=
  match takeBytes count input with
  | .error fault => .error fault
  | .ok (_, rest) => .ok rest

def takeText (input : Bytes) : Except Fault (String × Bytes) :=
  match takeLength input with
  | .error fault => .error fault
  | .ok (length, rest) =>
      match takeBytes length rest with
      | .error fault => .error fault
      | .ok (bytes, rest) =>
          match Utf8.decode? bytes with
          | none => .error .textEncoding
          | some text => .ok (text, rest)

theorem take_byte_length {input rest : Bytes} {value : UInt8}
    (read : takeByte input = .ok (value, rest)) : rest.length + 1 = input.length := by
  cases input with
  | nil => cases read
  | cons a tail => cases read; rfl

theorem take_int16_length {input rest : Bytes} {value : Int16}
    (read : takeInt16 input = .ok (value, rest)) : rest.length + 2 = input.length := by
  match input, read with
  | _ :: _ :: _, read => cases read; rfl
  | [_], read => cases read
  | [], read => cases read

theorem take_word_length {input rest : Bytes} {value : UInt32}
    (read : takeWord input = .ok (value, rest)) : rest.length + 4 = input.length := by
  match input, read with
  | _ :: _ :: _ :: _ :: _, read => cases read; rfl
  | [_, _, _], read => cases read
  | [_, _], read => cases read
  | [_], read => cases read
  | [], read => cases read

theorem take_int32_length {input rest : Bytes} {value : Int32}
    (read : takeInt32 input = .ok (value, rest)) : rest.length + 4 = input.length := by
  unfold takeInt32 at read
  split at read
  · cases read
  · next word tail taken =>
    cases read
    exact take_word_length taken

theorem take_length_length {input rest : Bytes} {value : Nat}
    (read : takeLength input = .ok (value, rest)) : rest.length + 4 = input.length := by
  unfold takeLength at read
  split at read
  · cases read
  · next length tail taken =>
    split at read
    · cases read
    · cases read
      exact take_int32_length taken

theorem take_bytes_length {count : Nat} {input taken rest : Bytes}
    (read : takeBytes count input = .ok (taken, rest)) :
    taken.length = count ∧ rest.length + count = input.length := by
  unfold takeBytes at read
  simp only [List.length_take] at read
  split at read
  · cases read
  · cases read
    simp only [List.length_take, List.length_drop]
    omega

theorem drop_bytes_length {count : Nat} {input rest : Bytes}
    (read : dropBytes count input = .ok rest) : rest.length + count = input.length := by
  unfold dropBytes at read
  split at read
  · cases read
  · next taken tail took =>
    cases read
    exact (take_bytes_length took).2

theorem take_text_length {input rest : Bytes} {value : String}
    (read : takeText input = .ok (value, rest)) : rest.length + 4 ≤ input.length := by
  unfold takeText at read
  split at read
  · cases read
  · next length tail measured =>
    split at read
    · cases read
    · next bytes behind took =>
      split at read
      · cases read
      · cases read
        have first := take_length_length measured
        have second := (take_bytes_length took).2
        omega

end LogRelay.Wire
