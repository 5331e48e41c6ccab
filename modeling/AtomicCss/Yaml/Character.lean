/-!
# Characters of YAML texts

The classes of characters that the structure of a YAML text depends on. A text is looked at
after `lines`, so that the line ends of all systems are line feeds; the separators of lines
and paragraphs end a line too, but stay what they are.
-/

set_option autoImplicit false

namespace AtomicCss.Yaml

def isBlank (c : Char) : Bool := c == ' ' || c == '\t'

def isBreak (c : Char) : Bool := c == '\n' || c == '\u2028' || c == '\u2029'

/-- The characters of names: those of anchors, of directives and of tag handles. -/
def isNameChar (c : Char) : Bool := c.isAlphanum || c == '_' || c == '-'

/-- The marks of collections between brackets. -/
def isFlowMark (c : Char) : Bool :=
  c == ',' || c == '[' || c == ']' || c == '{' || c == '}'

def endsLine : List Char → Bool
  | [] => true
  | c :: _ => isBreak c

/-- Whether a word ends here: at a blank or where the line ends. -/
def endsWord : List Char → Bool
  | [] => true
  | c :: _ => isBlank c || isBreak c

/-- Whether a text opens with three of a character that stand alone, which at the start of
a line separates or ends documents. -/
def opensMarker (mark : Char) : List Char → Bool
  | a :: b :: c :: rest => a == mark && b == mark && c == mark && endsWord rest
  | _ => false

/-- Characters that a YAML text may hold. -/
def isAllowed (c : Char) : Bool :=
  c == '\t' || c == '\n' || (0x20 ≤ c.toNat && c.toNat ≤ 0x7E) ||
    (0xA0 ≤ c.toNat && c.toNat ≤ 0xD7FF) || (0xE000 ≤ c.toNat && c.toNat ≤ 0xFFFD) ||
    0x10000 ≤ c.toNat

/-- A text with a line feed for every carriage return, alone or before a line feed, and for
every next-line character. -/
def lines : List Char → List Char
  | [] => []
  | '\r' :: '\n' :: rest => '\n' :: lines rest
  | '\r' :: rest => '\n' :: lines rest
  | '\u0085' :: rest => '\n' :: lines rest
  | c :: rest => c :: lines rest

end AtomicCss.Yaml
