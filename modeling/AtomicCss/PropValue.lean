import AtomicCss.Json.Printer
import AtomicCss.Reading.Document

/-!
# Values of style props

A prop gives one value, which goes to the default condition, or values by condition, which
go to exactly the conditions named. All values are texts; numbers stand for their texts.
-/

set_option autoImplicit false

namespace AtomicCss

inductive PropValue where
  | plain (value : String)
  /-- Values by condition. -/
  | conditional (values : Table String)
  deriving DecidableEq

/-- A text or a number as a prop value has it; integers keep all their digits. -/
def Json.scalarText? : Json → Option String
  | .string text => some text
  | .number value => some value.cssText
  | _ => none

namespace PropValue

def ofInt (value : Int) : PropValue := .plain (toString value)

def ofDouble (value : Double) : PropValue := .plain (NumberStyle.css.write value)

/-- The values with the conditions they go to, in order. -/
def byCondition (value : PropValue) (defaultCondition : String) : List (String × String) :=
  match value with
  | .plain text => [(defaultCondition, text)]
  | .conditional values => values.entries

/-- The prop value that a JSON tree stands for: texts and numbers are plain values, and
an object has a value by condition for each of its members that is a text or a number.
Anything else stands for none. -/
def ofJson? : Json → Option PropValue
  | .object members => some (.conditional ((Json.table members).filterMap Json.scalarText?))
  | scalar => scalar.scalarText?.map .plain

def read (document : Json) : Except Reading.Fault PropValue :=
  match ofJson? document with
  | some value => .ok value
  | none => .error (.unsupportedPropValue document.compact)

def toJson : PropValue → Json
  | .plain text => .string text
  | .conditional values => Json.ofTable .string values

end PropValue

end AtomicCss
