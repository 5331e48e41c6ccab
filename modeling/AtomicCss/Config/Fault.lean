/-!
# Faults of a style configuration

What can be wrong with the structure of a configuration. Faults are found when a
configuration is validated or compiled, never while props are resolved.
-/

set_option autoImplicit false

namespace AtomicCss.Config

inductive Fault where
  | noConditions
  | unknownDefaultCondition (name : String)
  /-- A shorthand lists a name that is neither a property nor a shorthand. -/
  | unknownShorthandTarget (shorthand target : String)
  /-- Shorthands refer to each other in a loop; the path ends at a name it already holds. -/
  | shorthandCycle (path : List String)
  | shorthandShadowsProperty (name : String)
  deriving DecidableEq, Repr

def Fault.message : Fault → String
  | .noConditions => "at least one condition must be configured"
  | .unknownDefaultCondition name =>
      "default condition '" ++ name ++ "' is not one of the configured conditions"
  | .unknownShorthandTarget shorthand target =>
      "shorthand '" ++ shorthand ++ "' references undefined property '" ++ target ++ "'"
  | .shorthandCycle path => "cycle detected in shorthands: " ++ " -> ".intercalate path
  | .shorthandShadowsProperty name =>
      "shorthand '" ++ name ++ "' has the same name as a configured property"

end AtomicCss.Config
