import LogRelay.Delivery.Event
import LogRelay.Text.Decimal

set_option autoImplicit false

namespace LogRelay.Command

def natUpTo? (limit : Nat) (text : String) : Option Nat :=
  (Decimal.toUnsigned? text.toList).filter fun n => n ≤ limit

def word64? (text : String) : Option UInt64 := (natUpTo? (UInt64.size - 1) text).map UInt64.ofNat

def int64? (text : String) : Option Int64 :=
  ((Decimal.toInt? text.toList).filter fun n => -(Int.pow 2 63) ≤ n && n < Int.pow 2 63).map Int64.ofInt

-- Zero may have a sign here, also a minus sign.
def word16? (text : String) : Option UInt16 :=
  ((Decimal.toInt? text.toList).filter fun n => 0 ≤ n && n < Int.pow 2 16).map fun n =>
    UInt16.ofNat n.toNat

inductive Form where
  | text
  | path
  | word16
  | word64
  | int64
  | level
deriving DecidableEq, Repr

def Form.accepts : Form → String → Bool
  | .text, _ => true
  | .path, value => value ≠ ""
  | .word16, value => (word16? value).isSome
  | .word64, value => (word64? value).isSome
  | .int64, value => (int64? value).isSome
  | .level, value => (Delivery.Level.ofText? value).isSome

end LogRelay.Command
