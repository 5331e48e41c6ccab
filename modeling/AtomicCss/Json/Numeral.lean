import AtomicCss.Number.Decimal

/-!
# Numerals of JSON texts

A numeral with a point, with an exponent or beyond the integers gives a double in two steps,
each with a rounding of its own: as many of its leading digits as make a number of 64 bits,
and then one power of ten that puts them in their place. So a numeral of many digits may give
a neighbour of the double that is nearest to it.
-/

set_option autoImplicit false

namespace AtomicCss.Json.Numeral

/-- Goes on in a number of 64 bits by the digits of a row, as far as they fit. It gives the
number and the digits left. -/
def keepDigits (kept : Nat) : List Char → Nat × List Char
  | [] => (kept, [])
  | digit :: rest =>
      let longer := 10 * kept + Decimal.digitValue digit
      if longer < twoTo 64 then keepDigits longer rest else (kept, digit :: rest)

/-- The greatest power of ten that is a double. -/
def maxPower : Nat := 308

/-- A number of 64 bits times a power of ten. A result beyond all doubles is none; a power
too small to divide by at once is divided by in two steps. -/
def shifted? (negative : Bool) (number : Nat) (exponent : Int) : Option Double :=
  let start := Double.ofFraction negative number 1
  if number = 0 then some start
  else if maxPower < exponent then none
  else if 0 ≤ exponent then
    let value := start.timesTenTo exponent.toNat
    if value.isFinite then some value else none
  else
    let power := (-exponent).toNat
    if power ≤ maxPower then some (start.overTenTo power)
    else if power ≤ 2 * maxPower then
      some ((start.overTenTo maxPower).overTenTo (power - maxPower))
    else some (Double.zero negative)

/-- The double of a numeral. Digits of the fraction may be kept even if some before the
point are not. -/
def double? (negative : Bool) (whole fraction : List Char) (exponent : Int) : Option Double :=
  let (kept, leftWhole) := keepDigits 0 whole
  let (kept, leftFraction) := keepDigits kept fraction
  shifted? negative kept
    (exponent + leftWhole.length - ((fraction.length : Int) - leftFraction.length))

end AtomicCss.Json.Numeral
