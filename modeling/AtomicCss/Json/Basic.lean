import AtomicCss.Number.Shortest
import AtomicCss.Table

/-!
# JSON trees

A tree keeps what a reader of the text can tell: members in the order of the text, repeated
names included. What a name means inside an object, its last value at its first place, is
`Json.table`; `Json.canonical` applies that throughout a tree.
-/

set_option autoImplicit false

namespace AtomicCss

/-- A number as JSON texts give it: an integer that fits in 64 bits, with or without sign,
is exact, and everything else is a double. -/
inductive JsonNumber where
  | integer (value : Int)
  | double (value : Double)
  deriving DecidableEq, Repr

inductive Json where
  | null
  | bool (value : Bool)
  | number (value : JsonNumber)
  | string (text : String)
  | array (items : List Json)
  | object (members : List (String × Json))
  /-- A part that follows the grammar and yet has no value, such as a number beyond all
  doubles. A document may hold one where nothing looks at it. -/
  | unreadable
  deriving Repr

namespace Json

def table (members : List (String × Json)) : Table Json := Table.ofList members

def ofTable {α : Type} (encode : α → Json) (values : Table α) : Json :=
  .object (values.entries.map fun entry => (entry.1, encode entry.2))

/-- The member of an optional field: none if it is left out. -/
def optionalMember {α : Type} (name : String) (encode : α → Json) :
    Option α → List (String × Json)
  | none => []
  | some value => [(name, encode value)]

/-- The member of a field that is left out where its table is empty. -/
def tableMember {α : Type} (name : String) (encode : α → Json) (values : Table α) :
    List (String × Json) :=
  if values.isEmpty then [] else [(name, ofTable encode values)]

def ofTexts (texts : List String) : Json := .array (texts.map .string)

mutual

/-- How deeply arrays and objects are nested. -/
def depth : Json → Nat
  | .array items => depthOfItems items + 1
  | .object members => depthOfMembers members + 1
  | _ => 0

def depthOfItems : List Json → Nat
  | [] => 0
  | item :: rest => max item.depth (depthOfItems rest)

def depthOfMembers : List (String × Json) → Nat
  | [] => 0
  | (_, value) :: rest => max value.depth (depthOfMembers rest)

end

mutual

def hasValue : Json → Bool
  | .array items => itemsHaveValue items
  | .object members => membersHaveValue members
  | .unreadable => false
  | _ => true

def itemsHaveValue : List Json → Bool
  | [] => true
  | item :: rest => item.hasValue && itemsHaveValue rest

def membersHaveValue : List (String × Json) → Bool
  | [] => true
  | (_, value) :: rest => value.hasValue && membersHaveValue rest

end

/-- The deepest nesting of a readable document. -/
def maxDepth : Nat := 127

/-- Whether a document can be read as a whole, whatever is expected of it. -/
def isReadable (document : Json) : Bool :=
  document.hasValue && document.depth ≤ maxDepth

mutual

/-- The tree in which each object has one member of a name. -/
def canonical : Json → Json
  | .array items => .array (canonicalItems items)
  | .object members => .object (table (canonicalMembers members)).entries
  | scalar => scalar

def canonicalItems : List Json → List Json
  | [] => []
  | item :: rest => item.canonical :: canonicalItems rest

def canonicalMembers : List (String × Json) → List (String × Json)
  | [] => []
  | (name, value) :: rest => (name, value.canonical) :: canonicalMembers rest

end

end Json

/-- The text of a number as a JSON text shows it. -/
def JsonNumber.dataText : JsonNumber → String
  | .integer value => toString value
  | .double value => NumberStyle.data.write value

/-- The text of a number as a style value shows it. -/
def JsonNumber.cssText : JsonNumber → String
  | .integer value => toString value
  | .double value => NumberStyle.css.write value

end AtomicCss
