import AtomicCss.Config.Document
import AtomicCss.Files
import AtomicCss.Reading.JsonText
import AtomicCss.Yaml.Content

/-!
# Loading configurations

A configuration is read from a JSON or a YAML text, or from a file whose extension tells
which of the two it is. Loading does not validate.
-/

set_option autoImplicit false

namespace AtomicCss.Config

inductive Format where
  | json
  | yaml
  deriving DecidableEq, Repr

def Format.name : Format → String
  | .json => "json"
  | .yaml => "yaml"

/-- The format of the files with an extension; capitals do not matter. -/
def Format.ofExtension? (extension : String) : Option Format :=
  match extension.map Char.toLower with
  | "json" => some .json
  | "yaml" => some .yaml
  | "yml" => some .yaml
  | _ => none

inductive LoadFault where
  | fileUnreadable (path : String) (fault : FileFault)
  | unsupportedFormat (path : String)
  /-- The text gives no configuration. The fault is missing where the text does not follow
  its format. -/
  | malformed (format : Format) (fault : Option Reading.Fault)
  deriving DecidableEq, Repr

def LoadFault.message : LoadFault → String
  | .fileUnreadable path fault =>
      "failed to read config \"" ++ path ++ "\": " ++ fault.message
  | .unsupportedFormat path =>
      "unsupported config format \"" ++ path ++ "\" (expected .json, .yaml or .yml)"
  | .malformed format none => "invalid " ++ format.name ++ " config"
  | .malformed format (some fault) =>
      "invalid " ++ format.name ++ " config: " ++ fault.message

def ofJsonText (text : String) : Except LoadFault Config :=
  match Reading.ofJsonText read text with
  | .ok config => .ok config
  | .error .notReadable => .error (.malformed .json none)
  | .error (.fault fault) => .error (.malformed .json (some fault))

def ofYamlText (text : String) : Except LoadFault Config :=
  match (Yaml.Document.ofText? text).bind fun document => document.content? isReadAt with
  | none => .error (.malformed .yaml none)
  | some content => (read content).mapError fun fault => .malformed .yaml (some fault)

def ofText : Format → String → Except LoadFault Config
  | .json => ofJsonText
  | .yaml => ofYamlText

/-- Loads the configuration at a path, given how the text of a file is read. The extension
is looked at first: a file of another kind is not read at all. -/
def load (readText : String → Except FileFault String) (path : String) :
    Except LoadFault Config :=
  match (extension? path).bind Format.ofExtension? with
  | none => .error (.unsupportedFormat path)
  | some format =>
      match readText path with
      | .error fault => .error (.fileUnreadable path fault)
      | .ok text => ofText format text

end AtomicCss.Config
