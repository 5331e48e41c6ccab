import AtomicCss.Number.Decimal

/-!
# Shortest decimal texts of doubles

The text of a double has as few digits as tell it apart from every other double. The
decimals that round to a double fill an interval; the coarsest power of ten of which some
multiple lies in the interval gives the digits, and of two such multiples the nearer one is
taken. What remains open, which of two equally near multiples to take and how digits and
exponent are laid out, is up to a `NumberStyle`.
-/

set_option autoImplicit false

namespace AtomicCss

/-- The bounds of the decimals that round to a positive double, and the double itself, as
numerators over a common denominator; the bounds belong to it iff `closed`. -/
structure RoundingInterval where
  lower : Nat
  value : Nat
  upper : Nat
  denominator : Nat
  closed : Bool
  deriving DecidableEq, Repr

namespace RoundingInterval

/-- The interval of mantissa times two to the exponent. It ends halfway to the neighbours;
below a power of two the lower neighbour is twice as near. The bounds round to the double
iff its mantissa is even. -/
def ofMantissa (mantissa : Nat) (exponent : Int) : RoundingInterval :=
  let lowerGap := if mantissa = twoTo 52 ∧ Double.minExponent < exponent then 1 else 2
  let unit := if 2 ≤ exponent then twoTo (exponent - 2).toNat else 1
  let denominator := if 2 ≤ exponent then 1 else twoTo (2 - exponent).toNat
  { lower := (4 * mantissa - lowerGap) * unit
    value := 4 * mantissa * unit
    upper := (4 * mantissa + 2) * unit
    denominator := denominator
    closed := mantissa % 2 = 0 }

/-- The interval with all its numerators and its denominator rescaled so that a grid of
powers of ten falls on the multiples of the denominator. -/
def onGrid (interval : RoundingInterval) (exponent : Int) : RoundingInterval :=
  if exponent < 0 then
    let factor := tenTo (-exponent).toNat
    { interval with
      lower := interval.lower * factor
      value := interval.value * factor
      upper := interval.upper * factor }
  else { interval with denominator := interval.denominator * tenTo exponent.toNat }

/-- Whether a multiple of the denominator lies in the interval. -/
def holds (interval : RoundingInterval) (multiple : Nat) : Bool :=
  let point := multiple * interval.denominator
  if interval.closed then interval.lower ≤ point && point ≤ interval.upper
  else interval.lower < point && point < interval.upper

/-- Of the two multiples of the denominator next to the value, the one in the interval; if
both are, the nearer; if they are equally near, as `tieUp` says of the smaller one. -/
def nearestMultiple? (tieUp : Nat → Bool) (interval : RoundingInterval) : Option Nat :=
  let below := interval.value / interval.denominator
  let remainder := 2 * (interval.value % interval.denominator)
  match interval.holds below, interval.holds (below + 1) with
  | true, true =>
      some (if remainder < interval.denominator then below
        else if interval.denominator < remainder then below + 1
        else if tieUp below then below + 1 else below)
  | true, false => some below
  | false, true => some (below + 1)
  | false, false => none

/-- The exponent of a power of ten above the interval. -/
def topExponent (interval : RoundingInterval) : Nat :=
  Decimal.digitCount (interval.upper / interval.denominator)

/-- The digits and the exponent of the coarsest grid that meets the interval. Below 10^-345
no grid has to be tried: the finest doubles differ by more. -/
def shortest (tieUp : Nat → Bool) (interval : RoundingInterval) : Nat × Int :=
  let exponents := (List.range (interval.topExponent + 346)).map fun (step : Nat) =>
    (interval.topExponent : Int) - (step : Int)
  (exponents.findSome? fun exponent =>
    ((interval.onGrid exponent).nearestMultiple? tieUp).map (·, exponent)).getD (0, 0)

end RoundingInterval

/-- How the digits of a double are written down. -/
structure NumberStyle where
  /-- Whether the larger of two equally near digit rows is taken, given the smaller. -/
  tieUp : Nat → Bool
  /-- Whether a number whose leading digit has this decimal exponent is written without an
  exponent. -/
  isPositional : Int → Bool
  /-- What follows the digits of a number without a fraction. -/
  wholeMark : String

namespace NumberStyle

/-- Numbers in style values: never an exponent, no empty fraction, ties go up. -/
def css : NumberStyle where
  tieUp := fun _ => true
  isPositional := fun _ => true
  wholeMark := ""

/-- Numbers in data texts: an exponent outside 10^-5 to 10^15, a fraction always shown, ties
go to the even digit. -/
def data : NumberStyle where
  tieUp := fun below => below % 2 = 1
  isPositional := fun leading => -5 ≤ leading && leading ≤ 15
  wholeMark := ".0"

/-- Digits times ten to the exponent, written out with a point where one is needed. -/
def positional (style : NumberStyle) (digits : List Char) (exponent : Int) : String :=
  if 0 ≤ exponent then
    String.ofList (digits ++ List.replicate exponent.toNat '0') ++ style.wholeMark
  else
    let fractionLength := (-exponent).toNat
    let padded := List.replicate (fractionLength + 1 - digits.length) '0' ++ digits
    let wholeLength := padded.length - fractionLength
    String.ofList (padded.take wholeLength ++ '.' :: padded.drop wholeLength)

/-- One digit before the point and an exponent with its sign behind. -/
def scientific (digits : List Char) (leading : Int) : String :=
  String.ofList (match digits with
    | first :: second :: rest => first :: '.' :: second :: rest
    | _ => digits) ++ (if leading < 0 then "e" else "e+") ++ toString leading

def magnitude (style : NumberStyle) (mantissa : Nat) (exponent : Int) : String :=
  let (digits, exponent) :=
    if mantissa = 0 then (0, 0)
    else (RoundingInterval.ofMantissa mantissa exponent).shortest style.tieUp
  let row := Nat.toDigits 10 digits
  let leading := exponent + (row.length : Int) - 1
  if style.isPositional leading then style.positional row exponent
  else scientific row leading

def sign (negative : Bool) : String := if negative then "-" else ""

/-- The text of a double. -/
def write (style : NumberStyle) : Double → String
  | .finite negative mantissa exponent => sign negative ++ style.magnitude mantissa exponent
  | .infinite negative => sign negative ++ "inf"
  | .nan => "NaN"

end NumberStyle

end AtomicCss
