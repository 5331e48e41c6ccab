import AtomicCss.Json.Basic
import AtomicCss.Json.Numeral

/-!
# Reading JSON texts

The reader follows the grammar strictly: no byte order mark, no comments, no trailing
commas, blanks are spaces, tabs and line ends, and nothing but blanks may follow the
document. It sets no limit on nesting or on numbers; a part without a value (a number that
no double reaches, a text with half of a surrogate pair) becomes `Json.unreadable`, and so
does an object with such a text for a name.
-/

set_option autoImplicit false

namespace AtomicCss.Json

def isBlank (c : Char) : Bool := c == ' ' || c == '\t' || c == '\n' || c == '\r'

def skipBlanks (text : List Char) : List Char := text.dropWhile isBlank

def hexValue? (c : Char) : Option Nat :=
  if '0' ≤ c ∧ c ≤ '9' then some (c.toNat - '0'.toNat)
  else if 'a' ≤ c ∧ c ≤ 'f' then some (c.toNat - 'a'.toNat + 10)
  else if 'A' ≤ c ∧ c ≤ 'F' then some (c.toNat - 'A'.toNat + 10)
  else none

/-- The unit that four hexadecimal digits stand for. -/
def unit? (a b c d : Char) : Option Nat := do
  return (((← hexValue? a) * 16 + (← hexValue? b)) * 16 + (← hexValue? c)) * 16 + (← hexValue? d)

def isHighSurrogate (unit : Nat) : Bool := 0xD800 ≤ unit && unit < 0xDC00

def isLowSurrogate (unit : Nat) : Bool := 0xDC00 ≤ unit && unit < 0xE000

def pairChar (high low : Nat) : Char :=
  Char.ofNat (0x10000 + (high - 0xD800) * 0x400 + (low - 0xDC00))

def simpleEscape? (c : Char) : Option Char :=
  if c = '"' ∨ c = '\\' ∨ c = '/' then some c
  else if c = 'b' then some '\x08'
  else if c = 'f' then some '\x0c'
  else if c = 'n' then some '\n'
  else if c = 'r' then some '\r'
  else if c = 't' then some '\t'
  else none

/-- A piece of a text between quotes: a character, or a unit given by its number. -/
inductive TextUnit where
  | char (c : Char)
  | code (unit : Nat)
  deriving DecidableEq, Repr

/-- Reads the units of a text up to its closing quote. -/
def readUnits : List Char → Option (List TextUnit × List Char)
  | [] => none
  | '"' :: rest => some ([], rest)
  | '\\' :: 'u' :: a :: b :: c :: d :: rest => do
      let unit ← unit? a b c d
      let (units, remaining) ← readUnits rest
      return (.code unit :: units, remaining)
  | '\\' :: c :: rest => do
      let escaped ← simpleEscape? c
      let (units, remaining) ← readUnits rest
      return (.char escaped :: units, remaining)
  | c :: rest =>
      if c = '\\' ∨ c.toNat < 0x20 then none
      else do
        let (units, remaining) ← readUnits rest
        return (.char c :: units, remaining)

/-- The characters of a text; none if half of a surrogate pair is left over. -/
def unitChars? : List TextUnit → Option (List Char)
  | [] => some []
  | .char c :: rest => (unitChars? rest).map (c :: ·)
  | .code high :: .code low :: rest =>
      if isHighSurrogate high && isLowSurrogate low then
        (unitChars? rest).map (pairChar high low :: ·)
      else if isHighSurrogate high || isLowSurrogate high then none
      else (unitChars? (.code low :: rest)).map (Char.ofNat high :: ·)
  | .code unit :: rest =>
      if isHighSurrogate unit || isLowSurrogate unit then none
      else (unitChars? rest).map (Char.ofNat unit :: ·)

def textOf? (units : List TextUnit) : Option String := (unitChars? units).map String.ofList

/-- The fraction digits behind a point, if there is a point. -/
def readFraction? : List Char → Option (Option (List Char) × List Char)
  | '.' :: rest =>
      if (rest.takeWhile Char.isDigit).isEmpty then none
      else some (some (rest.takeWhile Char.isDigit), rest.dropWhile Char.isDigit)
  | rest => some (none, rest)

def readExponent? : List Char → Option (Option Int × List Char)
  | [] => some (none, [])
  | mark :: rest =>
      if mark = 'e' ∨ mark = 'E' then
        let (negative, row) := Decimal.signOf rest
        let digits := row.takeWhile Char.isDigit
        if digits.isEmpty then none
        else
          let size : Int := Decimal.digitsValue digits
          some (some (if negative then -size else size), row.dropWhile Char.isDigit)
      else some (none, mark :: rest)

/-- The value of a numeral that is no integer, if a double is within reach. -/
def doubleValue (negative : Bool) (whole fraction : List Char) (exponent : Int) : Json :=
  match Numeral.double? negative whole fraction exponent with
  | some value => .number (.double value)
  | none => .unreadable

/-- The value of a numeral without point and exponent. A negative zero is no integer. -/
def integerValue (negative : Bool) (digits : List Char) : Json :=
  let size := Decimal.digitsValue digits
  let isInteger := if negative then 0 < size && fitsSigned 64 (-size) else fitsUnsigned 64 size
  if isInteger then .number (.integer (if negative then -size else size))
  else doubleValue negative digits [] 0

/-- Reads a number. Only zero may start with a zero. -/
def readNumber (text : List Char) : Option (Json × List Char) := do
  let (negative, unsigned) := match text with
    | '-' :: rest => (true, rest)
    | _ => (false, text)
  let whole := unsigned.takeWhile Char.isDigit
  if whole.isEmpty || (whole.head? == some '0' && 1 < whole.length) then none
  else do
    let (fraction, rest) ← readFraction? (unsigned.dropWhile Char.isDigit)
    let (exponent, rest) ← readExponent? rest
    match fraction, exponent with
    | none, none => return (integerValue negative whole, rest)
    | _, _ =>
        return (doubleValue negative whole (fraction.getD []) (exponent.getD 0), rest)

def textValue (units : List TextUnit) : Json :=
  match textOf? units with
  | some text => .string text
  | none => .unreadable

/-- An object, if each of its members has a name. -/
def objectValue (members : List (Option String × Json)) : Json :=
  match members.mapM fun member => member.1.map (·, member.2) with
  | some named => .object named
  | none => .unreadable

mutual

/-- Reads one value and gives it with what follows. The number bounds the steps. -/
def readValue : Nat → List Char → Option (Json × List Char)
  | 0, _ => none
  | steps + 1, text =>
      match skipBlanks text with
      | 'n' :: 'u' :: 'l' :: 'l' :: rest => some (.null, rest)
      | 't' :: 'r' :: 'u' :: 'e' :: rest => some (.bool true, rest)
      | 'f' :: 'a' :: 'l' :: 's' :: 'e' :: rest => some (.bool false, rest)
      | '"' :: rest => do
          let (units, rest) ← readUnits rest
          return (textValue units, rest)
      | '[' :: rest =>
          match skipBlanks rest with
          | ']' :: rest => some (.array [], rest)
          | _ => do
              let (items, rest) ← readItems steps rest
              return (.array items, rest)
      | '{' :: rest =>
          match skipBlanks rest with
          | '}' :: rest => some (.object [], rest)
          | _ => do
              let (members, rest) ← readMembers steps rest
              return (objectValue members, rest)
      | rest => readNumber rest

/-- Reads the items of an array that has some, up to its closing bracket. -/
def readItems : Nat → List Char → Option (List Json × List Char)
  | 0, _ => none
  | steps + 1, text => do
      let (item, rest) ← readValue steps text
      match skipBlanks rest with
      | ']' :: rest => return ([item], rest)
      | ',' :: rest => do
          let (items, rest) ← readItems steps rest
          return (item :: items, rest)
      | _ => none

/-- Reads the members of an object that has some, up to its closing brace. -/
def readMembers : Nat → List Char → Option (List (Option String × Json) × List Char)
  | 0, _ => none
  | steps + 1, text =>
      match skipBlanks text with
      | '"' :: rest => do
          let (units, rest) ← readUnits rest
          match skipBlanks rest with
          | ':' :: rest => do
              let (value, rest) ← readValue steps rest
              match skipBlanks rest with
              | '}' :: rest => return ([(textOf? units, value)], rest)
              | ',' :: rest => do
                  let (members, rest) ← readMembers steps rest
                  return ((textOf? units, value) :: members, rest)
              | _ => none
          | _ => none
      | _ => none

end

/-- Reads a whole text as one document. Between two steps that take no character of the
text there is always one that does, which bounds the steps. -/
def ofChars? (text : List Char) : Option Json :=
  match readValue (2 * text.length + 2) text with
  | some (document, rest) => if (skipBlanks rest).isEmpty then some document else none
  | none => none

def ofText? (text : String) : Option Json := ofChars? text.toList

end AtomicCss.Json
