import AtomicCss.Catalog.Basic

/-!
# Splitting props by name

The props of an element are style props, which a catalog answers to, and others. A set of
names tells them apart, whatever their values are.
-/

set_option autoImplicit false

namespace AtomicCss

/-- A set of names in the order in which they first came. -/
structure NameSet where
  marks : Table Unit
  deriving DecidableEq

/-- Props split by name, each part in the order of the first occurrences. -/
structure Split (α : Type) where
  /-- The props whose name is in the set. -/
  styling : Table α
  other : Table α
  deriving DecidableEq

namespace NameSet

def ofList (names : List String) : NameSet where
  marks := Table.ofList (names.map fun name => (name, ()))

def ofCatalog (catalog : Catalog) : NameSet := ofList catalog.propertyNames

def names (set : NameSet) : List String := set.marks.keys

def contains (set : NameSet) (name : String) : Bool := set.marks.contains name

def size (set : NameSet) : Nat := set.marks.size

def isEmpty (set : NameSet) : Bool := set.marks.isEmpty

/-- Puts one more prop into its part. -/
def place {α : Type} (set : NameSet) (split : Split α) (name : String) (value : α) : Split α :=
  if set.contains name then { split with styling := split.styling.insert name value }
  else { split with other := split.other.insert name value }

/-- Splits props; the last value of a name is kept. -/
def split {α : Type} (set : NameSet) (props : List (String × α)) : Split α :=
  props.foldl (fun split prop => set.place split prop.1 prop.2) ⟨∅, ∅⟩

end NameSet

end AtomicCss
