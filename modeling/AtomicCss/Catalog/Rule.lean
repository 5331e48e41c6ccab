import AtomicCss.Catalog.Basic

/-!
# Style rules

The rules of a catalog, flat and in the order in which a style sheet has to list them:
property by property, then condition by condition, so that among rules of equal weight those
of a later condition win; under a condition the slot comes before the choices.
-/

set_option autoImplicit false

namespace AtomicCss

/-- A rule: under a condition, a class sets a CSS property to a value. -/
structure Rule where
  className : String
  condition : String
  scope : Scope
  cssName : String
  value : String
  deriving DecidableEq, Repr

/-- The value of the rules that read a custom property. -/
def Slot.reference (slot : Slot) : String := "var(" ++ slot.variableName ++ ")"

namespace Entry

/-- The classes of an entry with the values they set. -/
def classValues (entry : Entry) : List (String × String) :=
  (entry.slot.toList.map fun slot => (slot.className, slot.reference)) ++
    entry.choices.values.map fun choice => (choice.className, choice.value)

end Entry

namespace Property

/-- The rules of a property. A condition without a scope has none. -/
def rules (property : Property) (scopes : Table Scope) : List Rule :=
  property.entries.entries.flatMap fun (condition, entry) =>
    match scopes.get? condition with
    | none => []
    | some scope =>
        entry.classValues.map fun (className, value) =>
          { className, condition, scope, cssName := property.cssName, value }

end Property

def Catalog.rules (catalog : Catalog) : List Rule :=
  catalog.properties.values.flatMap fun property => property.rules catalog.conditions

end AtomicCss
