import AtomicCss.Number.Double

/-!
# Decimal numerals

The value of a numeral with sign, point and exponent, and the double nearest to it.
-/

set_option autoImplicit false

namespace AtomicCss

/-- The digits times ten to the exponent, with a sign. -/
structure Decimal where
  negative : Bool
  digits : Nat
  exponent : Int
  deriving DecidableEq, Repr

namespace Decimal

def digitValue (c : Char) : Nat := c.toNat - '0'.toNat

/-- The number a row of decimal digits stands for. -/
def digitsValue (row : List Char) : Nat :=
  row.foldl (fun value c => 10 * value + digitValue c) 0

/-- How many decimal digits a number has. -/
def digitCount (number : Nat) : Nat := (Nat.toDigits 10 number).length

/-- The double nearest to a numeral. A numeral of 10^310 or more is beyond every finite
double, one below 10^-330 is nearest to zero; between them the fraction is rounded. -/
def toDouble (decimal : Decimal) : Double :=
  if decimal.digits = 0 then Double.zero decimal.negative
  else
    let magnitude := (digitCount decimal.digits : Int) + decimal.exponent
    if 310 < magnitude then .infinite decimal.negative
    else if magnitude < -330 then Double.zero decimal.negative
    else if decimal.exponent < 0 then
      Double.ofFraction decimal.negative decimal.digits (tenTo (-decimal.exponent).toNat)
    else Double.ofFraction decimal.negative (decimal.digits * tenTo decimal.exponent.toNat) 1

/-- The numeral with the given digits before and after the point. -/
def ofDigits (negative : Bool) (whole fraction : List Char) (exponent : Int) : Decimal where
  negative := negative
  digits := digitsValue (whole ++ fraction)
  exponent := exponent - fraction.length

/-- Splits a sign off; none counts as plus. -/
def signOf : List Char → Bool × List Char
  | '-' :: rest => (true, rest)
  | '+' :: rest => (false, rest)
  | rest => (false, rest)

/-- Reads the exponent that ends a numeral. -/
def exponentOf? : List Char → Option Int
  | [] => some 0
  | mark :: rest =>
      if mark = 'e' ∨ mark = 'E' then
        let (negative, row) := signOf rest
        if row.isEmpty || !row.all Char.isDigit then none
        else some (if negative then -(digitsValue row : Int) else digitsValue row)
      else none

/-- Reads a numeral: an optional sign, digits with at most one point before, between or
behind them, and an optional exponent. -/
def ofChars? (text : List Char) : Option Decimal :=
  let (negative, unsigned) := signOf text
  let whole := unsigned.takeWhile Char.isDigit
  let rest := unsigned.dropWhile Char.isDigit
  let (fraction, rest) := match rest with
    | '.' :: behind => (behind.takeWhile Char.isDigit, behind.dropWhile Char.isDigit)
    | _ => ([], rest)
  if whole.isEmpty && fraction.isEmpty then none
  else (exponentOf? rest).map (ofDigits negative whole fraction)

end Decimal

end AtomicCss
