import AtomicCss.Catalog.Basic
import AtomicCss.Property.Document
import AtomicCss.Reading.JsonText

/-!
# Catalogs in documents

A catalog is stored as an indented JSON text.
-/

set_option autoImplicit false

namespace AtomicCss.Catalog

open Reading in
/-- The fields of a catalog in a document. The shorthands may be left out. -/
def record {δ : Type} [Document δ] : Record δ Catalog where
  name := "CompiledConfig"
  fields :=
    [.of "defaultCondition" Document.text
        (fun name catalog => { catalog with defaultCondition := name }),
     .of "conditions" (table Scope.read)
        (fun conditions catalog => { catalog with conditions := conditions }),
     .of "properties" (table Property.read)
        (fun properties catalog => { catalog with properties := properties }),
     .of "shorthands" (table (list Document.text))
        (fun shorthands catalog => { catalog with shorthands := shorthands }) false]

def read {δ : Type} [Reading.Document δ] : δ → Except Reading.Fault Catalog :=
  record.read ⟨"", ∅, ∅, ∅⟩

def toJson (catalog : Catalog) : Json :=
  .object
    ([("defaultCondition", .string catalog.defaultCondition),
      ("conditions", Json.ofTable Scope.toJson catalog.conditions),
      ("properties", Json.ofTable Property.toJson catalog.properties)] ++
      Json.tableMember "shorthands" Json.ofTexts catalog.shorthands)

/-- The text a catalog is stored as. -/
def toText (catalog : Catalog) : String := catalog.toJson.pretty

def ofText (text : String) : Except Reading.Refusal Catalog :=
  Reading.ofJsonText read text

end AtomicCss.Catalog
