import AtomicCss.Ident
import AtomicCss.Reading.Document

/-!
# Scales of properties

A scale says which values a property accepts. The value of a dynamic property reaches the
style sheet through a custom property, so any value will do, and the scale at most names
some tokens. A static property has finitely many values, each with a class of its own.
-/

set_option autoImplicit false

namespace AtomicCss

/-- The scale of a dynamic property. -/
inductive DynamicScale where
  | unrestricted
  /-- References to these aliases stand for their tokens. -/
  | tokens (table : Table String)
  deriving DecidableEq

/-- The scale of a static property. -/
inductive StaticScale where
  /-- The values themselves. -/
  | values (list : List String)
  /-- Values by alias. -/
  | aliases (table : Table String)
  deriving DecidableEq

/-- A scalar of a scale in a document: a text, or a number by its text. An integer keeps
its digits if it fits in 64 bits with sign; any other number goes through a double. -/
def Json.literal? : Json → Option String
  | .string text => some text
  | .number (.integer value) =>
      if fitsSigned 64 value then some (toString value)
      else some (NumberStyle.css.write (Double.ofInt value))
  | .number (.double value) => some (NumberStyle.css.write value)
  | _ => none

/-- The literals of the members of an object. -/
def Json.literalMembers? (members : List (String × Json)) : Option (Table String) := do
  let literals ← members.mapM fun (name, value) => value.literal?.map fun text => (name, text)
  return Table.ofList literals

namespace DynamicScale

/-- The tokens by alias, if the scale has any. -/
def tokenTable? : DynamicScale → Option (Table String)
  | .unrestricted => none
  | .tokens table => some table

def ofJson : Json → Except Reading.Fault DynamicScale
  | .bool true => .ok .unrestricted
  | .bool false => .error .dynamicScaleOff
  | .string marker =>
      if marker = "unrestricted" then .ok .unrestricted
      else .error (.unknownScaleMarker marker)
  | .object members =>
      match Json.literalMembers? members with
      | some table => .ok (.tokens table)
      | none => .error .noDynamicScale
  | _ => .error .noDynamicScale

def toJson : DynamicScale → Json
  | .unrestricted => .bool true
  | .tokens table => Json.ofTable .string table

def read {δ : Type} [Reading.Document δ] (document : δ) : Except Reading.Fault DynamicScale :=
  ofJson (Reading.Document.tree document)

end DynamicScale

namespace StaticScale

/-- Each value with its lookup key, the prop value that selects it: the value itself, or
the alias behind a dollar sign. -/
def entries : StaticScale → List (String × String)
  | .values list => list.map fun value => (value, value)
  | .aliases table =>
      table.entries.map fun entry => (Ident.aliasMark.toString ++ entry.1, entry.2)

def size (scale : StaticScale) : Nat := scale.entries.length

def isEmpty (scale : StaticScale) : Bool := scale.entries.isEmpty

def ofJson : Json → Except Reading.Fault StaticScale
  | .array items =>
      match items.mapM Json.literal? with
      | some list => .ok (.values list)
      | none => .error .noStaticScale
  | .object members =>
      match Json.literalMembers? members with
      | some table => .ok (.aliases table)
      | none => .error .noStaticScale
  | _ => .error .noStaticScale

def toJson : StaticScale → Json
  | .values list => Json.ofTexts list
  | .aliases table => Json.ofTable .string table

def read {δ : Type} [Reading.Document δ] (document : δ) : Except Reading.Fault StaticScale :=
  ofJson (Reading.Document.tree document)

end StaticScale

end AtomicCss
