import AtomicCss.Reading.Fault
import AtomicCss.Yaml.Node
import AtomicCss.Yaml.Scalar

/-!
# Values of YAML scalars

Where a text is wanted, every scalar is its own text. On its own, a plain scalar may be a
null, a truth value or a number, and a tag may say which of them a scalar has to be.
-/

set_option autoImplicit false

namespace AtomicCss.Yaml

def isNullText (text : String) : Bool :=
  text == "~" || text == "null" || text == "Null" || text == "NULL"

def boolOf? (text : String) : Option Bool :=
  if text == "true" || text == "True" || text == "TRUE" then some true
  else if text == "false" || text == "False" || text == "FALSE" then some false
  else none

/-- A row of several digits with a leading zero is a text, not a number. -/
def isZeroPadded (text : List Char) : Bool :=
  match (Decimal.signOf text).2 with
  | '0' :: rest => !rest.isEmpty && rest.all Char.isDigit
  | _ => false

/-- The size of an integer without a sign of its own, in base ten or behind a base mark. -/
def unsignedOf? : List Char → Option Nat
  | '0' :: 'x' :: row => digitsIn? 16 row
  | '0' :: 'o' :: row => digitsIn? 8 row
  | '0' :: 'b' :: row => digitsIn? 2 row
  | row => if isZeroPadded row then none else digitsIn? 10 row

/-- An integer of any size; a plus sign may stand before it. -/
def integerOf? : List Char → Option Int
  | '-' :: row => (unsignedOf? row).map fun size => -size
  | '+' :: row => (unsignedOf? row).map fun size => size
  | row => (unsignedOf? row).map fun size => size

/-- Whether an integer fits in so many bits, with or without a sign. -/
def fitsIn (bits : Nat) (value : Int) : Bool := fitsSigned bits value || fitsUnsigned bits value

/-- The value of an integer that fits in 128 bits; one that needs more than 64 is beyond
what can be read. -/
def integerTree? (text : List Char) : Option Json :=
  ((integerOf? text).filter (fitsIn 128)).map fun value =>
    if fitsIn 64 value then .number (.integer value) else .unreadable

/-- A number with or without a point or an exponent, an infinity, or no number at all.
Finite numerals beyond every double are no numbers. -/
def doubleOf? (text : List Char) : Option Double :=
  let unsigned := match text with
    | '+' :: rest => rest
    | _ => text
  if [".inf", ".Inf", ".INF"].contains (String.ofList unsigned) then some (.infinite false)
  else if ["-.inf", "-.Inf", "-.INF"].contains (String.ofList text) then some (.infinite true)
  else if [".nan", ".NaN", ".NAN"].contains (String.ofList text) then some .nan
  else if text != unsigned && (Decimal.signOf unsigned).2 != unsigned then none
  else do
    let value := (← Decimal.ofChars? unsigned).toDouble
    if value.isFinite then some value else none

/-- A plain scalar on its own. -/
def plainTree (text : String) : Json :=
  if text == "" || isNullText text then .null
  else
    match boolOf? text, integerTree? text.toList with
    | some value, _ => .bool value
    | none, some number => number
    | none, none =>
        if isZeroPadded text.toList then .string text
        else
          match doubleOf? text.toList with
          | some value => .number (.double value)
          | none => .string text

/-! ## Tags -/

/-- The tag of a kind of values that the format itself has. -/
def commonTag (kind : String) : Tag := ("tag:yaml.org,2002:" ++ kind).toUTF8.toList

/-- Whether a tag is one of the application's own. Such a tag is a mark before a text. -/
def isOwnTag : Tag → Bool
  | 33 :: octets => (String.fromUTF8? ⟨octets.toArray⟩).isSome
  | _ => false

/-- A scalar on its own. An application's own tag gives it a kind that is never wanted. -/
def Scalar.tree (scalar : Scalar) : Json :=
  let free := if scalar.plain then plainTree scalar.text else .string scalar.text
  match scalar.tag with
  | none => free
  | some tag =>
      let value? (value : Option Json) := value.getD .unreadable
      if isOwnTag tag then .unreadable
      else if tag == commonTag "bool" then value? ((boolOf? scalar.text).map .bool)
      else if tag == commonTag "int" then value? (integerTree? scalar.text.toList)
      else if tag == commonTag "float" then
        value? ((doubleOf? scalar.text.toList).map fun value => .number (.double value))
      else if tag == commonTag "null" then
        value? (if isNullText scalar.text then some .null else none)
      else if tag.head? == some 33 then free
      else .string scalar.text

/-- Whether a scalar stands for a value that is left out. A scalar with the tag of nulls has
to be one, unless it is quoted. -/
def Scalar.isAbsent (scalar : Scalar) : Except Reading.Fault Bool :=
  if !scalar.plain then .ok false
  else
    match scalar.tag with
    | none => .ok (scalar.text == "" || isNullText scalar.text)
    | some tag =>
        if tag != commonTag "null" then .ok false
        else if isNullText scalar.text then .ok true
        else .error (.mismatch (.text scalar.text) .text)

/-- Whether nothing is written where a scalar stands. -/
def Scalar.isNothing (scalar : Scalar) : Bool := scalar.plain && scalar.text == ""

end AtomicCss.Yaml
