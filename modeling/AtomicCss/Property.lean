import AtomicCss.Reading.Record

/-!
# Compiled properties

What a configured property turns into under each condition. Under a condition a dynamic
property has a slot, a custom property that carries its value and a class that reads it; a
static property has a choice, a class of its own, for each value of its scale. A property
that is both has both, and a choice goes before the slot.
-/

set_option autoImplicit false

namespace AtomicCss

/-- Where a dynamic property puts its value under a condition. -/
structure Slot where
  /-- The class whose rule sets the property to the value of the custom property. -/
  className : String
  variableName : String
  deriving DecidableEq, Repr

/-- A value of a static property under a condition. -/
structure Choice where
  /-- The class whose rule sets the property to the value. -/
  className : String
  value : String
  deriving DecidableEq, Repr

/-- What a property has under one condition. -/
structure Entry where
  slot : Option Slot := none
  /-- The choices by lookup key. -/
  choices : Table Choice := ∅
  deriving DecidableEq

/-- How a value is brought about: by the class of a choice or through a slot. -/
inductive Binding where
  | choice (chosen : Choice)
  | slot (used : Slot)
  deriving DecidableEq, Repr

def Binding.className : Binding → String
  | .choice chosen => chosen.className
  | .slot used => used.className

/-- A property under all its conditions. -/
structure Property where
  name : String
  /-- The CSS property its rules set. -/
  cssName : String
  entries : Table Entry
  /-- The tokens that references in a value stand for, by alias. -/
  tokens : Option (Table String)
  deriving DecidableEq

namespace Entry

/-- The binding of a value: the choice with that lookup key, or else the slot. -/
def bind? (entry : Entry) (value : String) : Option Binding :=
  match entry.choices.get? value with
  | some choice => some (.choice choice)
  | none => entry.slot.map .slot

/-- Adds what the other entry has; where both have the same, the other one's is taken. -/
def merge (entry other : Entry) : Entry where
  slot := other.slot.or entry.slot
  choices := entry.choices.overlay other.choices

end Entry

namespace Property

/-- The property of the given name before anything is compiled. -/
def start (name cssName : String) : Property where
  name := name
  cssName := cssName
  entries := ∅
  tokens := none

def isDynamic (property : Property) : Bool :=
  property.entries.values.any fun entry => entry.slot.isSome

def isStatic (property : Property) : Bool :=
  property.entries.values.any fun entry => !entry.choices.isEmpty

/-- Adds what the other property has, condition by condition. The names stay. -/
def merge (property other : Property) : Property where
  name := property.name
  cssName := property.cssName
  entries := property.entries.mergeWith Entry.merge other.entries
  tokens := other.tokens.or property.tokens

def mergeAll (properties others : Table Property) : Table Property :=
  properties.mergeWith merge others

end Property

end AtomicCss
