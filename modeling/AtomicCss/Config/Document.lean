import AtomicCss.Config.Basic

/-!
# Configurations in documents
-/

set_option autoImplicit false

namespace AtomicCss.Config

open Reading in
/-- The fields of a configuration in a document. The static properties, the shorthands and
the class prefix may be left out. -/
def record {δ : Type} [Document δ] : Record δ Config where
  name := "SprinklesConfig"
  fields :=
    [.of "conditions" (table Scope.read)
        (fun conditions config => { config with conditions := conditions }),
     .of "defaultCondition" Document.text
        (fun name config => { config with defaultCondition := name }),
     .of "dynamicProperties" (table DynamicScale.read)
        (fun properties config => { config with dynamicProperties := properties }),
     .of "staticProperties" (table StaticScale.read)
        (fun properties config => { config with staticProperties := properties }) false,
     .of "shorthands" (table (list Document.text))
        (fun shorthands config => { config with shorthands := shorthands }) false,
     .of "classPrefix" (optional Document.text)
        (fun opening config => { config with classPrefix := opening }) false]

def read {δ : Type} [Reading.Document δ] : δ → Except Reading.Fault Config :=
  record.read (start "")

/-- Whether reading looks at what stands at the end of a path of keys: not so behind a name
that a record has no field of. -/
def isReadAt : List String → Bool
  | [name] => ((record : Reading.Record Json Config).field? name).isSome
  | ["conditions", _, name] => ((Scope.record : Reading.Record Json Scope).field? name).isSome
  | _ => true

def toJson (config : Config) : Json :=
  .object
    ([("conditions", Json.ofTable Scope.toJson config.conditions),
      ("defaultCondition", .string config.defaultCondition),
      ("dynamicProperties", Json.ofTable DynamicScale.toJson config.dynamicProperties)] ++
      Json.tableMember "staticProperties" StaticScale.toJson config.staticProperties ++
      Json.tableMember "shorthands" Json.ofTexts config.shorthands ++
      Json.optionalMember "classPrefix" .string config.classPrefix)

end AtomicCss.Config
