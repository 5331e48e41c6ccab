import AtomicCss.Json.Reader
import AtomicCss.Reading.Document

/-!
# Values from JSON texts

A text that follows the JSON grammar is read even if some part of it has no value or is
nested too deeply, as long as nothing needs that part. When reading fails, such a text is
reported as not readable at all, like one that breaks the grammar.
-/

set_option autoImplicit false

namespace AtomicCss.Reading

/-- Why a JSON text gives no value. -/
inductive Refusal where
  | notReadable
  | fault (fault : Fault)
  deriving DecidableEq, Repr

def ofJsonText {α : Type} (read : Json → Except Fault α) (text : String) :
    Except Refusal α :=
  match Json.ofText? text with
  | none => .error .notReadable
  | some document =>
      match read document with
      | .ok value => .ok value
      | .error fault => .error (if document.isReadable then .fault fault else .notReadable)

/-- The tree of a text that is readable as a whole, with one member of a name. -/
def treeOfJsonText (text : String) : Except Refusal Json :=
  match Json.ofText? text with
  | none => .error .notReadable
  | some document =>
      if document.isReadable then .ok document.canonical else .error .notReadable

end AtomicCss.Reading
