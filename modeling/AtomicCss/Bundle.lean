import AtomicCss.NameSet

/-!
# Bundles

A catalog together with the names it answers to, ready for use where elements are rendered.
-/

set_option autoImplicit false

namespace AtomicCss

structure Bundle where
  catalog : Catalog
  names : NameSet
  deriving DecidableEq

namespace Bundle

def ofCatalog (catalog : Catalog) : Bundle where
  catalog := catalog
  names := NameSet.ofCatalog catalog

/-- Validates and compiles a configuration. -/
def ofConfig (config : Config) : Except Config.Fault Bundle :=
  (Catalog.ofConfig config).map ofCatalog

/-- Splits props into those the catalog answers to and the others. -/
def split {α : Type} (bundle : Bundle) (props : List (String × α)) : Split α :=
  bundle.names.split props

end Bundle

end AtomicCss
