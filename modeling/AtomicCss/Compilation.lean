import AtomicCss.Config.Basic
import AtomicCss.CssName
import AtomicCss.Property

/-!
# Compilation of properties

Compiling a property gives it a class, and a custom property where it needs one, under each
condition. All properties of a configuration draw their identifiers from one pool: first the
dynamic ones, then the static ones, each in their order, each condition by condition.
-/

set_option autoImplicit false

namespace AtomicCss

namespace DynamicScale

/-- The slot of a dynamic property under a condition. -/
def compileSlot (property condition : String) : StateM IdentPool Slot := do
  let className ← IdentPool.className [property, condition]
  let variableName ← IdentPool.variableName [property, condition]
  return { className, variableName }

/-- Compiles a dynamic property: one slot under each condition, whatever its tokens. -/
def compile (scale : DynamicScale) (property : String) (conditions : List String) :
    StateM IdentPool Property := do
  let entries ← conditions.mapM fun condition => do
    return (condition, { slot := some (← compileSlot property condition) : Entry })
  return { Property.start property (CssName.ofName property) with
    entries := Table.ofList entries
    tokens := scale.tokenTable? }

end DynamicScale

namespace StaticScale

/-- The choices of a static property under a condition, each with its lookup key. -/
def compileChoices (scale : StaticScale) (property condition : String) :
    StateM IdentPool (List (String × Choice)) :=
  scale.entries.mapM fun (key, value) => do
    let className ← IdentPool.className [property, condition, key]
    return (key, { className, value })

/-- Compiles a static property: one choice for each value under each condition. -/
def compile (scale : StaticScale) (property : String) (conditions : List String) :
    StateM IdentPool Property := do
  let entries ← conditions.mapM fun condition => do
    let choices ← compileChoices scale property condition
    return (condition, { choices := Table.ofList choices : Entry })
  return { Property.start property (CssName.ofName property) with
    entries := Table.ofList entries }

end StaticScale

namespace Config

/-- Compiles the dynamic properties. -/
def compileDynamic (config : Config) : StateM IdentPool (Table Property) := do
  let properties ← config.dynamicProperties.entries.mapM fun (name, scale) => do
    return (name, ← scale.compile name config.conditions.keys)
  return Table.ofList properties

/-- Compiles the static properties. -/
def compileStatic (config : Config) : StateM IdentPool (Table Property) := do
  let properties ← config.staticProperties.entries.mapM fun (name, scale) => do
    return (name, ← scale.compile name config.conditions.keys)
  return Table.ofList properties

/-- Compiles all properties; one declared both ways gets its choices beside its slots. -/
def compileProperties (config : Config) : StateM IdentPool (Table Property) := do
  let dynamicProperties ← config.compileDynamic
  let staticProperties ← config.compileStatic
  return Property.mergeAll dynamicProperties staticProperties

end Config

end AtomicCss
