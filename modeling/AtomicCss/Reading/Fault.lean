import AtomicCss.Json.Printer
import AtomicCss.Text.Quoted

/-!
# Faults of a document

Why a document does not describe the value that is read from it.
-/

set_option autoImplicit false

namespace AtomicCss.Reading

/-- What a document holds at a place. -/
inductive Found where
  | null
  | boolean (value : Bool)
  | number (value : JsonNumber)
  | text (value : String)
  | sequence
  | map
  /-- A part without a value; no message about it is ever shown. -/
  | unreadable
  deriving DecidableEq, Repr

/-- What is wanted at a place. -/
inductive Wanted where
  | text
  | sequence
  | map
  | record (name : String)
  deriving DecidableEq, Repr

inductive Fault where
  | mismatch (found : Found) (wanted : Wanted)
  /-- A record written as a sequence ends before a required field. -/
  | tooShort (length : Nat) (record : String) (fields : Nat)
  /-- A record written as a sequence goes on behind the last field. -/
  | tooLong
  | missingField (name : String)
  | duplicateField (name : String)
  | noDynamicScale
  | noStaticScale
  | dynamicScaleOff
  | unknownScaleMarker (marker : String)
  /-- A prop value of a kind that has no meaning, given by its text. -/
  | unsupportedPropValue (text : String)
  deriving DecidableEq, Repr

def Found.message : Found → String
  | .null => "null"
  | .boolean value => "boolean `" ++ toString value ++ "`"
  | .number (.integer value) => "integer `" ++ toString value ++ "`"
  | .number (.double value) => "floating point `" ++ NumberStyle.data.write value ++ "`"
  | .text value => "string " ++ Text.quote value
  | .sequence => "sequence"
  | .map => "map"
  | .unreadable => "unreadable value"

def Wanted.message : Wanted → String
  | .text => "a string"
  | .sequence => "a sequence"
  | .map => "a map"
  | .record name => "struct " ++ name

def Fault.message : Fault → String
  | .mismatch found wanted => "invalid type: " ++ found.message ++ ", expected " ++ wanted.message
  | .tooShort length record fields =>
      "invalid length " ++ toString length ++ ", expected struct " ++ record ++ " with " ++
        toString fields ++ (if fields = 1 then " element" else " elements")
  | .tooLong => "trailing characters"
  | .missingField name => "missing field `" ++ name ++ "`"
  | .duplicateField name => "duplicate field `" ++ name ++ "`"
  | .noDynamicScale => "data did not match any variant of untagged enum RawDynamicScale"
  | .noStaticScale => "data did not match any variant of untagged enum RawStaticScale"
  | .dynamicScaleOff => "dynamic scale must be `true` or a map of tokens, found `false`"
  | .unknownScaleMarker marker =>
      "dynamic scale must be `true`, \"unrestricted\" or a map of tokens, found \"" ++
        marker ++ "\""
  | .unsupportedPropValue text =>
      "expected a string, number or condition map, found " ++ text

def Found.ofJson : Json → Found
  | .null => .null
  | .bool value => .boolean value
  | .number value => .number value
  | .string value => .text value
  | .array _ => .sequence
  | .object _ => .map
  | .unreadable => .unreadable

end AtomicCss.Reading
