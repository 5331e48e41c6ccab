import AtomicCss.Reading.Record
import AtomicCss.Text.Classes

/-!
# Attributes of a box

What the style props of an element come down to: its class text and the custom properties
of its style.
-/

set_option autoImplicit false

namespace AtomicCss

structure Attributes where
  /-- The class names, separated by blanks. -/
  classText : String := ""
  /-- The custom properties with their values, if any is set. -/
  style : Option (Table String) := none
  deriving DecidableEq

namespace Attributes

/-- The class names. -/
def classes (attributes : Attributes) : List String := Text.words attributes.classText

open Reading in
/-- The fields of attributes in a document. The style may be left out. -/
def record {δ : Type} [Document δ] : Record δ Attributes where
  name := "BoxProps"
  fields :=
    [.of "className" Document.text
        (fun text attributes => { attributes with classText := text }),
     .of "style" (optional (table Document.text))
        (fun style attributes => { attributes with style := style }) false]

def read {δ : Type} [Reading.Document δ] : δ → Except Reading.Fault Attributes :=
  record.read {}

def toJson (attributes : Attributes) : Json :=
  .object ([("className", .string attributes.classText)] ++
    Json.optionalMember "style" (Json.ofTable .string) attributes.style)

end Attributes

end AtomicCss
