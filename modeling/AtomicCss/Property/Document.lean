import AtomicCss.Property

/-!
# Compiled properties in documents
-/

set_option autoImplicit false

namespace AtomicCss

open Reading (Document Field Record Fault)

variable {δ : Type} [Document δ]

namespace Slot

def record : Record δ Slot where
  name := "VariableBinding"
  fields :=
    [.of "className" Document.text (fun name slot => { slot with className := name }),
     .of "varName" Document.text (fun name slot => { slot with variableName := name })]

def read : δ → Except Fault Slot := record.read ⟨"", ""⟩

def toJson (slot : Slot) : Json :=
  .object [("className", .string slot.className), ("varName", .string slot.variableName)]

end Slot

namespace Choice

def record : Record δ Choice where
  name := "StaticClass"
  fields :=
    [.of "className" Document.text (fun name choice => { choice with className := name }),
     .of "value" Document.text (fun value choice => { choice with value := value })]

def read : δ → Except Fault Choice := record.read ⟨"", ""⟩

def toJson (choice : Choice) : Json :=
  .object [("className", .string choice.className), ("value", .string choice.value)]

end Choice

namespace Entry

/-- The fields of an entry in a document, either of which may be left out. -/
def record : Record δ Entry where
  name := "ConditionEntry"
  fields :=
    [.of "dynamic" (Reading.optional Slot.read)
        (fun slot entry => { entry with slot := slot }) false,
     .of "static" (Reading.table Choice.read)
        (fun choices entry => { entry with choices := choices }) false]

def read : δ → Except Fault Entry := record.read {}

def toJson (entry : Entry) : Json :=
  .object (Json.optionalMember "dynamic" Slot.toJson entry.slot ++
    Json.tableMember "static" Choice.toJson entry.choices)

end Entry

namespace Property

/-- The fields of a property in a document. A property without tokens leaves them out. -/
def record : Record δ Property where
  name := "CompiledProperty"
  fields :=
    [.of "name" Document.text (fun name property => { property with name := name }),
     .of "cssProperty" Document.text
        (fun name property => { property with cssName := name }),
     .of "conditions" (Reading.table Entry.read)
        (fun entries property => { property with entries := entries }),
     .of "tokens" (Reading.optional (Reading.table Document.text))
        (fun tokens property => { property with tokens := tokens }) false]

def read : δ → Except Fault Property := record.read (start "" "")

def toJson (property : Property) : Json :=
  .object
    ([("name", .string property.name), ("cssProperty", .string property.cssName),
      ("conditions", Json.ofTable Entry.toJson property.entries)] ++
      Json.optionalMember "tokens" (Json.ofTable .string) property.tokens)

end Property

end AtomicCss
