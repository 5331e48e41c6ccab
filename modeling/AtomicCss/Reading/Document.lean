import AtomicCss.Reading.Fault

/-!
# Documents

What a document format has to offer so that values can be read from its documents. Formats
differ in what they take for a text, an empty map or an absent value; the readers of this
library are written once, against `Document`.
-/

set_option autoImplicit false

namespace AtomicCss.Reading

/-- How a record is written: by field names, or as a sequence in the order of its fields. -/
inductive RecordForm (δ : Type) where
  | named (members : List (String × δ))
  | listed (items : List δ)

/-- A format whose documents, and parts of documents, are the values of a type. -/
class Document (δ : Type) where
  text : δ → Except Fault String
  /-- Whether the part stands for a value that is left out. -/
  isAbsent : δ → Except Fault Bool
  items : δ → Except Fault (List δ)
  /-- The part as a map, in the order of the document and with repeated names. -/
  members : δ → Except Fault (List (String × δ))
  /-- The part as a record of the given name. -/
  record : String → δ → Except Fault (RecordForm δ)
  /-- The part as a tree of its own kind, whatever is wanted. -/
  tree : δ → Json

variable {δ : Type} [Document δ] {α : Type}

def optional (read : δ → Except Fault α) (document : δ) : Except Fault (Option α) := do
  if ← Document.isAbsent document then return none else return some (← read document)

def list (read : δ → Except Fault α) (document : δ) : Except Fault (List α) := do
  (← Document.items document).mapM read

def table (read : δ → Except Fault α) (document : δ) : Except Fault (Table α) := do
  let entries ← (← Document.members document).mapM fun (name, part) => do
    return (name, ← read part)
  return Table.ofList entries

instance : Document Json where
  text
    | .string text => .ok text
    | other => .error (.mismatch (.ofJson other) .text)
  isAbsent
    | .null => .ok true
    | _ => .ok false
  items
    | .array items => .ok items
    | other => .error (.mismatch (.ofJson other) .sequence)
  members
    | .object members => .ok members
    | other => .error (.mismatch (.ofJson other) .map)
  record name
    | .object members => .ok (.named members)
    | .array items => .ok (.listed items)
    | other => .error (.mismatch (.ofJson other) (.record name))
  tree document := document

end AtomicCss.Reading
