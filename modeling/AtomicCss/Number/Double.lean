/-!
# Double-precision numbers

The values of the binary64 format, kept as exact mantissas and exponents, and the rounding
of fractions to them. Everything is natural-number arithmetic, so a value is decided by
evaluation and two values are equal exactly when they print alike.
-/

set_option autoImplicit false

namespace AtomicCss

/-- A power of two. -/
def twoTo (exponent : Nat) : Nat := Nat.pow 2 exponent

/-- A power of ten. -/
def tenTo (exponent : Nat) : Nat := Nat.pow 10 exponent

/-- Whether an integer fits in so many bits with a sign. -/
def fitsSigned (bits : Nat) (value : Int) : Bool :=
  -(twoTo (bits - 1) : Int) ≤ value && value < twoTo (bits - 1)

/-- Whether an integer fits in so many bits without a sign. -/
def fitsUnsigned (bits : Nat) (value : Int) : Bool :=
  0 ≤ value && value < twoTo bits

/-- A binary64 value. A finite one is the mantissa times two to the exponent, with a sign.
The functions of this module give a finite value its format's exponent: at least -1074, and
above that only with a mantissa of 53 bits. -/
inductive Double where
  | finite (negative : Bool) (mantissa : Nat) (exponent : Int)
  | infinite (negative : Bool)
  | nan
  deriving DecidableEq, Repr

namespace Double

/-- The exponent of the smallest values. -/
def minExponent : Int := -1074

/-- The exponent of the largest values. -/
def maxExponent : Int := 971

def zero (negative : Bool) : Double := .finite negative 0 minExponent

def isFinite : Double → Bool
  | .finite .. => true
  | _ => false

/-- The natural number nearest to a fraction; of two equally near ones the even one. -/
def roundHalfEven (numerator denominator : Nat) : Nat :=
  let quotient := numerator / denominator
  let twice := 2 * (numerator % denominator)
  if twice < denominator then quotient
  else if denominator < twice then quotient + 1
  else if quotient % 2 = 0 then quotient else quotient + 1

/-- A fraction over two to the exponent, as numerator and denominator. -/
def scaled (numerator denominator : Nat) (exponent : Int) : Nat × Nat :=
  if exponent < 0 then (numerator * twoTo (-exponent).toNat, denominator)
  else (numerator, denominator * twoTo exponent.toNat)

/-- The exponent under which a positive fraction has a mantissa of full length, or the
least exponent if that is greater. -/
def fittingExponent (numerator denominator : Nat) : Int :=
  let estimate : Int := (numerator.log2 : Int) - denominator.log2 - 52
  let (top, bottom) := scaled numerator denominator estimate
  max minExponent (if top / bottom < twoTo 52 then estimate - 1 else estimate)

/-- The value nearest to a fraction, ties to the even mantissa; beyond the largest value
the infinite one. -/
def ofFraction (negative : Bool) (numerator denominator : Nat) : Double :=
  if numerator = 0 then zero negative
  else
    let exponent := fittingExponent numerator denominator
    let (top, bottom) := scaled numerator denominator exponent
    let mantissa := roundHalfEven top bottom
    let (mantissa, exponent) :=
      if mantissa = twoTo 53 then (twoTo 52, exponent + 1) else (mantissa, exponent)
    if maxExponent < exponent then .infinite negative else .finite negative mantissa exponent

/-- The value nearest to a fraction times two to the exponent. -/
def ofScaled (negative : Bool) (numerator denominator : Nat) (exponent : Int) : Double :=
  let (top, bottom) := scaled numerator denominator (-exponent)
  ofFraction negative top bottom

/-- A finite value times the value nearest to a power of ten, rounded. -/
def timesTenTo (value : Double) (power : Nat) : Double :=
  match value, ofFraction false (tenTo power) 1 with
  | .finite negative mantissa exponent, .finite _ factor shift =>
      ofScaled negative (mantissa * factor) 1 (exponent + shift)
  | other, _ => other

/-- A finite value divided by the value nearest to a power of ten, rounded. -/
def overTenTo (value : Double) (power : Nat) : Double :=
  match value, ofFraction false (tenTo power) 1 with
  | .finite negative mantissa exponent, .finite _ divisor shift =>
      ofScaled negative mantissa divisor (exponent - shift)
  | other, _ => other

/-- The value nearest to an integer. -/
def ofInt (number : Int) : Double := ofFraction (number < 0) number.natAbs 1

end Double

end AtomicCss
