import AtomicCss.Config.Fault
import AtomicCss.Scale
import AtomicCss.Scope
import AtomicCss.Shorthand

/-!
# Style configurations

A configuration declares the conditions a value can be given for, the properties with their
scales, and shorthands for several properties. The order of its tables counts: later
conditions take precedence in the style sheet, and identifiers are given out in order.
-/

set_option autoImplicit false

namespace AtomicCss

structure Config where
  conditions : Table Scope
  /-- The condition of a value that names none. -/
  defaultCondition : String
  dynamicProperties : Table DynamicScale
  staticProperties : Table StaticScale
  /-- Each shorthand with its targets, properties or again shorthands. -/
  shorthands : Table (List String)
  /-- What every class and custom property name starts with. -/
  classPrefix : Option String
  deriving DecidableEq

namespace Config

/-- The configuration that declares nothing. -/
def start (defaultCondition : String) : Config where
  conditions := ∅
  defaultCondition := defaultCondition
  dynamicProperties := ∅
  staticProperties := ∅
  shorthands := ∅
  classPrefix := none

def withCondition (config : Config) (name : String) (scope : Scope) : Config :=
  { config with conditions := config.conditions.insert name scope }

def withDynamic (config : Config) (name : String) (scale : DynamicScale) : Config :=
  { config with dynamicProperties := config.dynamicProperties.insert name scale }

def withStatic (config : Config) (name : String) (scale : StaticScale) : Config :=
  { config with staticProperties := config.staticProperties.insert name scale }

def withShorthand (config : Config) (name : String) (targets : List String) : Config :=
  { config with shorthands := config.shorthands.insert name targets }

def withClassPrefix (config : Config) (opening : String) : Config :=
  { config with classPrefix := some opening }

/-- Whether a property of the name is declared, dynamic or static. -/
def isProperty (config : Config) (name : String) : Bool :=
  config.dynamicProperties.contains name || config.staticProperties.contains name

/-- The names that a prop may have: dynamic properties, properties that are only static,
shorthands. -/
def propertyNames (config : Config) : List String :=
  config.dynamicProperties.keys ++
    config.staticProperties.keys.filter (!config.dynamicProperties.contains ·) ++
    config.shorthands.keys

/-- Checks the structure of a configuration. The faults are looked for in a fixed order:
missing conditions, the default condition, shorthands named like properties, and last the
targets of shorthands. -/
def validate (config : Config) : Except Fault Unit :=
  if config.conditions.isEmpty then .error .noConditions
  else if !config.conditions.contains config.defaultCondition then
    .error (.unknownDefaultCondition config.defaultCondition)
  else
    match config.shorthands.keys.find? config.isProperty with
    | some name => .error (.shorthandShadowsProperty name)
    | none => (Shorthand.expandAll config.shorthands config.isProperty).map fun _ => ()

end Config

end AtomicCss
