import LogRelay.Config.Value
import LogRelay.Text.Decimal
import LogRelay.Text.Hex

set_option autoImplicit false

namespace LogRelay.Config

def addDigit (base : Nat) (number : Option Nat) (c : Char) : Option Nat := do
  let number ← number
  let digit ← Hex.digit? c
  if digit < base then some (base * number + digit) else none

def inBase? (base : Nat) (text : List Char) : Option Nat :=
  if text = [] then none else text.foldl (addDigit base) (some 0)

-- Digits behind a needless zero are text: they may well be a name.
def hasNeedlessZero : List Char → Bool
  | '0' :: c :: rest => (c :: rest).all Char.isDigit
  | _ => false

def unsigned? (text : List Char) : Option Nat :=
  match text with
  | '0' :: 'x' :: rest => inBase? 16 rest
  | '0' :: 'o' :: rest => inBase? 8 rest
  | '0' :: 'b' :: rest => inBase? 2 rest
  | _ => if hasNeedlessZero text then none else inBase? 10 text

def whole? (text : List Char) : Option Int :=
  let number :=
    match text with
    | '+' :: rest => (unsigned? rest).map Int.ofNat
    | '-' :: rest => (unsigned? rest).map fun number => -(number : Int)
    | _ => (unsigned? text).map Int.ofNat
  number.filter fun number => -(Int.pow 2 127) ≤ number && number < Int.pow 2 128

def withoutSign : List Char → List Char
  | '+' :: rest => rest
  | '-' :: rest => rest
  | text => text

def isExponent : List Char → Bool
  | [] => true
  | mark :: rest =>
      (mark = 'e' || mark = 'E') && withoutSign rest ≠ [] && (withoutSign rest).all Char.isDigit

def isReal (text : List Char) : Bool :=
  let size := withoutSign text
  let front := size.takeWhile Char.isDigit
  match size.dropWhile Char.isDigit with
  | '.' :: rest =>
      (front ≠ [] || rest.takeWhile Char.isDigit ≠ []) && isExponent (rest.dropWhile Char.isDigit)
  | rest => front ≠ [] && isExponent rest

-- The least number that is too large for a double-precision number, where halves go up.
def leastInfinite : Nat := Nat.pow 2 1024 - Nat.pow 2 970

-- Whether a number is too large: `digits` followed by a power of ten. A number of 309 places
-- before the point is compared, a longer one is too large and a shorter one is not.
def isInfinite (digits : List Char) (power : Int) : Bool :=
  let digits := digits.dropWhile (· = '0')
  let places := digits.length + power
  let number := Decimal.value digits
  if digits = [] || places < 309 then false
  else if 309 < places then true
  else leastInfinite * Nat.pow 10 (-power).toNat ≤ number * Nat.pow 10 power.toNat

def exponentOf (text : List Char) : Int :=
  match text with
  | _ :: '-' :: digits => -(Decimal.value digits : Int)
  | _ :: '+' :: digits => Decimal.value digits
  | _ :: digits => Decimal.value digits
  | [] => 0

def isFinite (text : List Char) : Bool :=
  let size := withoutSign text
  let front := size.takeWhile Char.isDigit
  match size.dropWhile Char.isDigit with
  | '.' :: rest =>
      let back := rest.takeWhile Char.isDigit
      let exponent := exponentOf (rest.dropWhile Char.isDigit)
      !isInfinite (front ++ back) (exponent - back.length)
  | rest => !isInfinite front (exponentOf rest)

def nullWords : List String := ["~", "null", "Null", "NULL"]

def limitWords : List String :=
  [".inf", ".Inf", ".INF", "+.inf", "+.Inf", "+.INF", "-.inf", "-.Inf", "-.INF",
    ".nan", ".NaN", ".NAN"]

def isNumber (text : String) : Bool :=
  limitWords.contains text || (isReal text.toList && isFinite text.toList)

def truthWords : List (String × Bool) :=
  [("true", true), ("True", true), ("TRUE", true), ("false", false), ("False", false),
    ("FALSE", false)]

def truthOf? (text : String) : Option Bool := truthWords.lookup text

def Value.ofPlain (text : String) : Value :=
  if text = "" || nullWords.contains text then .null
  else
    match truthOf? text, whole? text.toList with
    | some value, _ => .truth value
    | none, some number => .whole number
    | none, none =>
        if hasNeedlessZero (withoutSign text.toList) then .text text
        else if isNumber text then .fraction
        else .text text

end LogRelay.Config
