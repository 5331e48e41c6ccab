import AtomicCss.Json.Basic

/-!
# JSON texts

Two layouts of a tree: the compact one without blanks, and the indented one, in which every
item and member of a list has a line of its own. In texts, only quotes, backslashes and
control characters are escaped.
-/

set_option autoImplicit false

namespace AtomicCss.Json

def hexDigit (value : Nat) : Char := Nat.digitChar value

/-- A character between the quotes of a text. -/
def escapeChar (c : Char) : List Char :=
  if c = '"' then ['\\', '"']
  else if c = '\\' then ['\\', '\\']
  else if c = '\x08' then ['\\', 'b']
  else if c = '\x0c' then ['\\', 'f']
  else if c = '\n' then ['\\', 'n']
  else if c = '\r' then ['\\', 'r']
  else if c = '\t' then ['\\', 't']
  else if c.toNat < 0x20 then
    ['\\', 'u', '0', '0', hexDigit (c.toNat / 16), hexDigit (c.toNat % 16)]
  else [c]

def quoted (text : List Char) : List Char :=
  '"' :: text.flatMap escapeChar ++ ['"']

/-- The text of a part that is neither an array nor an object. -/
def scalarChars : Json → List Char
  | .bool true => ['t', 'r', 'u', 'e']
  | .bool false => ['f', 'a', 'l', 's', 'e']
  | .number value => value.dataText.toList
  | .string text => quoted text.toList
  | _ => ['n', 'u', 'l', 'l']

mutual

def compactChars : Json → List Char
  | .array items => '[' :: compactItems items ++ [']']
  | .object members => '{' :: compactMembers members ++ ['}']
  | scalar => scalar.scalarChars

def compactItems : List Json → List Char
  | [] => []
  | [item] => item.compactChars
  | item :: rest => item.compactChars ++ ',' :: compactItems rest

def compactMembers : List (String × Json) → List Char
  | [] => []
  | [(name, value)] => quoted name.toList ++ ':' :: value.compactChars
  | (name, value) :: rest =>
      quoted name.toList ++ ':' :: value.compactChars ++ ',' :: compactMembers rest

end

def compact (document : Json) : String := String.ofList document.compactChars

/-- A line break and the blanks in front of a line at the given nesting. -/
def newLine (nesting : Nat) : List Char := '\n' :: List.replicate (2 * nesting) ' '

mutual

def prettyChars (nesting : Nat) : Json → List Char
  | .array [] => ['[', ']']
  | .array items => '[' :: prettyItems (nesting + 1) items ++ newLine nesting ++ [']']
  | .object [] => ['{', '}']
  | .object members => '{' :: prettyMembers (nesting + 1) members ++ newLine nesting ++ ['}']
  | scalar => scalar.scalarChars

def prettyItems (nesting : Nat) : List Json → List Char
  | [] => []
  | [item] => newLine nesting ++ item.prettyChars nesting
  | item :: rest =>
      newLine nesting ++ item.prettyChars nesting ++ ',' :: prettyItems nesting rest

def prettyMembers (nesting : Nat) : List (String × Json) → List Char
  | [] => []
  | [(name, value)] =>
      newLine nesting ++ quoted name.toList ++ ':' :: ' ' :: value.prettyChars nesting
  | (name, value) :: rest =>
      newLine nesting ++ quoted name.toList ++ ':' :: ' ' :: value.prettyChars nesting ++
        ',' :: prettyMembers nesting rest

end

/-- A tree laid out over lines, each level indented by two blanks. -/
def pretty (document : Json) : String := String.ofList (document.prettyChars 0)

end AtomicCss.Json
