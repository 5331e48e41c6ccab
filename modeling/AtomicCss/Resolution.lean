import AtomicCss.Alias
import AtomicCss.Attributes
import AtomicCss.Catalog.Basic
import AtomicCss.PropValue

/-!
# Resolution of style props

Props are resolved in the order given, a shorthand like its properties one after the other.
Each value binds, under its condition, a choice or the slot of the property. Every binding
contributes its class, and a slot also takes the value, its references replaced; a later
value replaces an earlier one in the same custom property. Names that are not configured,
conditions that a property was not compiled for and values that a static property does not
have are passed over.
-/

set_option autoImplicit false

namespace AtomicCss

namespace Property

/-- The class names that a prop value activates. -/
def classNames (property : Property) (defaultCondition : String) (value : PropValue) :
    List String :=
  (value.byCondition defaultCondition).filterMap fun (condition, text) => do
    let entry ← property.entries.get? condition
    return (← entry.bind? text).className

/-- The custom property that a value is written to under a condition, and what is written. -/
def assignment? (property : Property) (condition text : String) : Option (String × String) := do
  match (← property.entries.get? condition).bind? text with
  | some (.slot slot) => some (slot.variableName, Alias.substitute property.tokens text)
  | _ => none

/-- The custom properties that a prop value sets. -/
def assignments (property : Property) (defaultCondition : String) (value : PropValue) :
    Table String :=
  Table.ofList <| (value.byCondition defaultCondition).filterMap fun (condition, text) =>
    property.assignment? condition text

end Property

namespace Catalog

/-- The properties that props set, in order, each with the value it is set to. -/
def settings (catalog : Catalog) (props : List (String × PropValue)) :
    List (Property × PropValue) :=
  props.flatMap fun (name, value) =>
    ((catalog.lookup? name).getD []).map fun property => (property, value)

/-- Resolves props. -/
def resolve (catalog : Catalog) (props : List (String × PropValue)) : Attributes :=
  let settings := catalog.settings props
  let classNames := settings.flatMap fun (property, value) =>
    property.classNames catalog.defaultCondition value
  let style := settings.foldl (fun (style : Table String) (property, value) =>
    style.overlay (property.assignments catalog.defaultCondition value)) ∅
  { classText := " ".intercalate classNames
    style := if style.isEmpty then none else some style }

/-- Resolves the members of a JSON object; members that are not configured or have no prop
value are passed over, and nothing but an object has any. -/
def resolveJson (catalog : Catalog) : Json → Attributes
  | .object members =>
      catalog.resolve <| (Json.table members).entries.filterMap fun (name, part) =>
        if catalog.isConfigured name then (PropValue.ofJson? part).map fun value => (name, value)
        else none
  | _ => {}

end Catalog

end AtomicCss
