import LogRelay.Wire.Fields

/-!
The head of a message: the method's name, the type of the message and its sequence number. It has
two written forms. The versioned one opens with a word whose upper half is `0x8001` and whose last
byte is the type; the plain one opens with the length of the name.
-/
set_option autoImplicit false

namespace LogRelay.Wire

def method : String := "Log"

namespace MessageType

def call : UInt8 := 1
def reply : UInt8 := 2
def exception : UInt8 := 3
def oneway : UInt8 := 4

end MessageType

structure Header where
  name : String
  type : UInt8
  sequence : Int32
deriving DecidableEq

def putPlain (header : Header) (rest : Bytes) : Bytes :=
  putText header.name (header.type :: putInt32 header.sequence rest)

def versionWord (type : UInt8) : UInt32 :=
  UInt32.ofNat (0x80010000 + type.toNat)

def putVersioned (header : Header) (rest : Bytes) : Bytes :=
  Bytes.put32 (versionWord header.type) (putText header.name (putInt32 header.sequence rest))

def takePlain (nameLength : Nat) (input : Bytes) : Except Fault (Header × Bytes) :=
  match takeBytes nameLength input with
  | .error fault => .error fault
  | .ok (bytes, rest) =>
      match Utf8.decode? bytes with
      | none => .error .nameEncoding
      | some name =>
          match takeByte rest with
          | .error fault => .error fault
          | .ok (type, rest) =>
              match takeInt32 rest with
              | .error fault => .error fault
              | .ok (sequence, rest) => .ok (⟨name, type, sequence⟩, rest)

def takeVersioned (word : UInt32) (input : Bytes) : Except Fault (Header × Bytes) :=
  if word.toNat / 65536 ≠ 0x8001 then .error (.version word)
  else
    match takeText input with
    | .error fault => .error fault
    | .ok (name, rest) =>
        match takeInt32 rest with
        | .error fault => .error fault
        | .ok (sequence, rest) => .ok (⟨name, UInt8.ofNat word.toNat, sequence⟩, rest)

-- The sign of the first word tells the two forms apart.
def takeHeader (input : Bytes) : Except Fault (Header × Bytes) :=
  match takeWord input with
  | .error fault => .error fault
  | .ok (word, rest) =>
      if word.toInt32 < 0 then takeVersioned word rest else takePlain word.toNat rest

end LogRelay.Wire
