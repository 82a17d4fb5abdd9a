import LogRelay.Text.Quoted

set_option autoImplicit false

namespace LogRelay.Wire

def frameLimit : Nat := 16 * 1024 * 1024

inductive Fault where
  | truncated (needed present : Nat)
  | negativeLength (length : Int32)
  | textEncoding
  | nameEncoding
  | version (word : UInt32)
  | unexpectedType (type : UInt8)
  | notACall (type : UInt8)
  | wrongMethod (name : String)
  | unknownMethod (name : String)
  | sequence (expected received : Int32)
  | resultCode (code : Int32)
  | unknownKind (code : UInt8)
  | nesting
  | frameLength (length : Nat)
deriving DecidableEq

def Fault.message : Fault → String
  | .truncated needed present =>
      "truncated frame: need " ++ toString needed ++ " bytes, have " ++ toString present
  | .negativeLength length => "negative length " ++ toString length.toInt
  | .textEncoding => "string is not valid UTF-8"
  | .nameEncoding => "method name is not valid UTF-8"
  | .version word => "bad protocol version 0x" ++ Hex.padded 8 word.toNat
  | .unexpectedType type => "unexpected message type " ++ toString type.toNat
  | .notACall type => "expected a call, got message type " ++ toString type.toNat
  | .wrongMethod name => "wrong method name " ++ Text.quote name
  | .unknownMethod name => "unknown method " ++ Text.quote name
  | .sequence expected received =>
      "sequence mismatch: expected " ++ toString expected.toInt ++ ", got " ++
        toString received.toInt
  | .resultCode code => "unknown result code " ++ toString code.toInt
  | .unknownKind code => "unknown field type " ++ toString code.toNat
  | .nesting => "nesting too deep"
  | .frameLength length =>
      "frame of " ++ toString length ++ " bytes exceeds limit of " ++ toString frameLimit

end LogRelay.Wire
