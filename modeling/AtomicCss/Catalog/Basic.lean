import AtomicCss.Compilation

/-!
# Catalogs

A catalog is a compiled configuration. It answers which properties a prop sets and lists
the rules that the style sheet needs.
-/

set_option autoImplicit false

namespace AtomicCss

structure Catalog where
  /-- The condition of a value that names none. -/
  defaultCondition : String
  conditions : Table Scope
  properties : Table Property
  /-- Each shorthand with the properties it stands for, in the order they are set. -/
  shorthands : Table (List String)
  deriving DecidableEq

namespace Catalog

def ofConfig (config : Config) (romanize : String → String := Text.romanize) :
    Except Config.Fault Catalog := do
  config.validate
  let properties := (config.compileProperties (IdentPool.start config.classPrefix romanize)).1
  let shorthands ← Shorthand.expandAll config.shorthands properties.contains
  return {
    defaultCondition := config.defaultCondition
    conditions := config.conditions
    properties
    shorthands }

/-- The properties that a prop of the name sets, in order: a property sets itself, a
shorthand what it stands for. A name that is not configured has none. -/
def lookup? (catalog : Catalog) (name : String) : Option (List Property) :=
  match catalog.properties.get? name with
  | some property => some [property]
  | none =>
      (catalog.shorthands.get? name).map fun targets =>
        targets.filterMap catalog.properties.get?

/-- Whether a property or a shorthand has the name. -/
def isConfigured (catalog : Catalog) (name : String) : Bool :=
  catalog.properties.contains name || catalog.shorthands.contains name

/-- The names that a prop may have: properties, then shorthands. -/
def propertyNames (catalog : Catalog) : List String :=
  catalog.properties.keys ++ catalog.shorthands.keys

end Catalog

end AtomicCss
