/-!
The shortest decimal text of a floating-point number: the fewest digits that read back as the same
number and, of those, the nearest. A positive number is `m · 2^q`; the interval of reals that round
to it is searched in whole-number arithmetic throughout.
-/
set_option autoImplicit false

namespace LogRelay.Decimal

-- A positive finite number, `mantissa · 2^exponent`, and whether the gap below it is half the
-- gap above it.
structure Binary where
  mantissa : Nat
  exponent : Int
  narrowBelow : Bool
deriving DecidableEq, Repr

def Binary.ofBits (bits : Nat) : Binary :=
  let fraction : Nat := bits % Nat.pow 2 52
  let scale : Nat := bits / Nat.pow 2 52 % 2048
  if scale = 0 then ⟨fraction, -1074, false⟩
  else ⟨Nat.pow 2 52 + fraction, (scale : Int) - 1075, fraction == 0 && scale > 1⟩

structure Scientific where
  digits : Nat
  exponent : Int
deriving DecidableEq, Repr

-- A number over a common denominator: its own numerator, and those of the ends of the interval
-- that rounds to it. The ends belong to it when the mantissa is even.
structure Interval where
  value : Nat
  low : Nat
  high : Nat
  denominator : Nat
  closed : Bool

-- Four times the mantissa leaves room for the half and quarter gaps to the ends.
def Binary.interval (number : Binary) : Interval :=
  let up := Nat.pow 2 number.exponent.toNat
  let down := Nat.pow 2 (-number.exponent).toNat
  let value := 4 * number.mantissa * up
  { value
    low := value - (if number.narrowBelow then up else 2 * up)
    high := value + 2 * up
    denominator := 4 * down
    closed := number.mantissa % 2 == 0 }

def Interval.holds (interval : Interval) (candidate : Scientific) : Bool :=
  let scaled := candidate.digits * Nat.pow 10 candidate.exponent.toNat * interval.denominator
  let unit := Nat.pow 10 (-candidate.exponent).toNat
  if interval.closed then interval.low * unit ≤ scaled && scaled ≤ interval.high * unit
  else interval.low * unit < scaled && scaled < interval.high * unit

-- The two neighbours of the value on the grid of multiples of `10^exponent`, the nearer first;
-- of two equally near the even one.
def Interval.neighbours (interval : Interval) (exponent : Int) : List Scientific :=
  let numerator := interval.value * Nat.pow 10 (-exponent).toNat
  let denominator := interval.denominator * Nat.pow 10 exponent.toNat
  let below := numerator / denominator
  let twice := 2 * (numerator % denominator)
  let down : Scientific := ⟨below, exponent⟩
  let up : Scientific := ⟨below + 1, exponent⟩
  if twice < denominator ∨ (twice = denominator ∧ below % 2 = 0) then [down, up] else [up, down]

def Interval.search (interval : Interval) : Nat → Int → Scientific
  | 0, exponent => (interval.neighbours exponent).headD ⟨0, 0⟩
  | finer + 1, exponent =>
      match (interval.neighbours exponent).find? fun c => c.digits ≠ 0 && interval.holds c with
      | some found => found
      | none => interval.search finer (exponent - 1)

def width (n : Nat) : Nat := (Nat.toDigits 10 n).length

-- The exponent of the coarsest grid worth a look: no smaller than the number itself.
def Binary.magnitude (number : Binary) : Int :=
  let interval := number.interval
  if interval.denominator ≤ interval.value then width (interval.value / interval.denominator)
  else 1 - (width (interval.denominator / interval.value) : Int)

def Binary.shortest (number : Binary) : Scientific :=
  number.interval.search 20 number.magnitude

def Scientific.trim (number : Scientific) : Scientific :=
  let digits := Nat.toDigits 10 number.digits
  let zeros := (digits.reverse.takeWhile (· = '0')).length
  if number.digits = 0 then ⟨0, 0⟩
  else ⟨number.digits / Nat.pow 10 zeros, number.exponent + zeros⟩

-- How numbers are written: positionally, always with a point, while the decimal exponent of the
-- first digit lies in a range, else with an exponent behind an `e`.
structure Style where
  least : Int
  limit : Int

def plain : Style := ⟨-4, 16⟩

def Style.write (style : Style) (number : Scientific) : String :=
  let digits := Nat.toDigits 10 number.digits
  let count : Int := digits.length
  let lead := number.exponent + count - 1
  if style.least ≤ lead ∧ lead < style.limit then
    if 0 ≤ number.exponent then
      String.ofList (digits ++ List.replicate number.exponent.toNat '0' ++ ['.', '0'])
    else if 0 ≤ lead then
      let whole := (lead + 1).toNat
      String.ofList (digits.take whole ++ ['.'] ++ digits.drop whole)
    else
      String.ofList (['0', '.'] ++ List.replicate (-lead - 1).toNat '0' ++ digits)
  else
    let tail := digits.drop 1
    let point := if tail = [] then [] else '.' :: tail
    String.ofList (digits.take 1 ++ point ++ ['e']) ++ toString lead

def shortest (number : Float) : String :=
  let bits := number.toBits.toNat
  let sign := if bits / Nat.pow 2 63 = 1 then "-" else ""
  let size := bits % Nat.pow 2 63
  if size > 2047 * Nat.pow 2 52 then "NaN"
  else if size = 2047 * Nat.pow 2 52 then sign ++ "inf"
  else if size = 0 then sign ++ "0.0"
  else sign ++ plain.write (Binary.ofBits size).shortest.trim

end LogRelay.Decimal
