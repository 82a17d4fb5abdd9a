set_option autoImplicit false

namespace LogRelay.Decimal

def digit (n : Nat) : Char := Char.ofNat (48 + n)

def digits (n : Nat) : List Char :=
  if n < 10 then [digit n] else digits (n / 10) ++ [digit (n % 10)]
decreasing_by omega

def ofNat (n : Nat) : String := String.ofList (digits n)

def ofInt (n : Int) : String :=
  if n < 0 then "-" ++ ofNat n.natAbs else ofNat n.natAbs

def padded (width n : Nat) : List Char :=
  let text := digits n
  List.replicate (width - text.length) '0' ++ text

-- At least `width` places, of which a minus sign takes one.
def paddedInt (width : Nat) (n : Int) : List Char :=
  if n < 0 then '-' :: padded (width - 1) n.natAbs else padded width n.natAbs

def value (text : List Char) : Nat :=
  text.foldl (fun n c => 10 * n + (c.toNat - 48)) 0

def toNat? (text : List Char) : Option Nat :=
  if text ≠ [] ∧ text.all Char.isDigit then some (value text) else none

def toUnsigned? (text : List Char) : Option Nat :=
  match text with
  | '+' :: rest => toNat? rest
  | _ => toNat? text

def toInt? (text : List Char) : Option Int :=
  match text with
  | '-' :: rest => (toNat? rest).map fun n => -(n : Int)
  | _ => (toUnsigned? text).map Int.ofNat

end LogRelay.Decimal
