import AtomicCss.Json.Reader
import AtomicCss.Yaml.Cursor

/-!
# Scalars in YAML texts

Plain and quoted scalars may go on over several lines. The blanks around their line ends do
not count, and line ends are folded: a single line feed becomes a space, and of several line
ends in a row the first one is left out if it is a line feed. A block scalar takes whole
lines, as they are or folded.
-/

set_option autoImplicit false

namespace AtomicCss.Yaml

/-- The blanks between two words of a scalar. -/
inductive Gap where
  /-- Blanks on one line, reversed. -/
  | blanks (reversed : List Char)
  /-- A line end and the further ones, reversed. The first one is missing if a backslash
  takes it away. -/
  | breaks (first : Option Char) (more : List Char)
  deriving DecidableEq, Repr

namespace Gap

/-- What a gap comes to inside a scalar, reversed. -/
def folded : Gap → List Char
  | .blanks reversed => reversed
  | .breaks none more => more
  | .breaks (some first) more =>
      if first == '\n' then (if more.isEmpty then [' '] else more) else more ++ [first]

def isOnLine : Gap → Bool
  | .blanks _ => true
  | .breaks _ _ => false

/-- The gap with one more blank; blanks at the start of a line do not count. -/
def withBlank (c : Char) : Gap → Gap
  | .blanks reversed => .blanks (c :: reversed)
  | other => other

/-- The gap with one more line end; blanks before it do not count. -/
def withBreak (c : Char) : Gap → Gap
  | .blanks _ => .breaks (some c) []
  | .breaks first more => .breaks first (c :: more)

end Gap

/-- A scalar in progress: its characters reversed, and the gap behind them. -/
structure Partial where
  written : List Char
  gap : Gap
  place : Place

namespace Partial

def start (place : Place) : Partial := ⟨[], .blanks [], place⟩

def fill (part : Partial) : Partial :=
  { part with written := part.gap.folded ++ part.written, gap := .blanks [] }

/-- The scalar with one more character, given with what stands for it in the text. -/
def push (part : Partial) (c : Char) (spelled : List Char) : Partial :=
  { part.fill with
    written := c :: part.fill.written
    place := part.place.afterAll spelled }

def pushBlank (part : Partial) (c : Char) : Partial :=
  { part with gap := part.gap.withBlank c, place := part.place.after c }

def pushBreak (part : Partial) (c : Char) : Partial :=
  { part with gap := part.gap.withBreak c, place := part.place.after c }

/-- The scalar behind a backslash and the line end that it takes away. -/
def pushTakenBreak (part : Partial) (c : Char) : Partial :=
  { part.fill with
    gap := .breaks none []
    place := (part.place.after '\\').after c }

def close (part : Partial) (quote : Char) : Partial :=
  { part.fill with place := part.place.after quote }

/-- Whether a marker line of documents stands where the scalar would go on. -/
def atMarker (part : Partial) (text : List Char) : Bool :=
  part.place.column == 0 && (opensMarker '-' text || opensMarker '.' text)

def text (part : Partial) : String := String.ofList part.written.reverse

end Partial

/-- Reads on in a plain scalar and stops in front of what ends it: a colon at the end of a
word, a comment, a marker line, and between brackets every mark of theirs. Later lines may
have no tab before the floor and outside of brackets have to reach it. -/
def readPlain (inFlow : Bool) (floor : Nat) (part : Partial) :
    List Char → Option (Partial × List Char)
  | [] => some (part, [])
  | c :: rest =>
      let early := !part.gap.isOnLine && part.place.column < floor
      if isBreak c then readPlain inFlow floor (part.pushBreak c) rest
      else if isBlank c then
        if early && c == '\t' then none else readPlain inFlow floor (part.pushBlank c) rest
      else if (early && !inFlow) || part.atMarker (c :: rest) ||
          (c == '#' && part.gap != .blanks []) then
        some (part, c :: rest)
      else if inFlow && c == ':' && rest.head?.any fun next => isFlowMark next || next == '?' then
        none
      else if (c == ':' && endsWord rest) || (inFlow && isFlowMark c) then some (part, c :: rest)
      else readPlain inFlow floor (part.push c [c]) rest

def escapedChar? (c : Char) : Option Char :=
  [('0', '\x00'), ('a', '\x07'), ('b', '\x08'), ('t', '\t'), ('\t', '\t'), ('n', '\n'),
    ('v', '\x0b'), ('f', '\x0c'), ('r', '\r'), ('e', '\x1b'), (' ', ' '), ('"', '"'), ('/', '/'),
    ('\\', '\\'), ('N', '\u0085'), ('_', '\u00a0'), ('L', '\u2028'), ('P', '\u2029')].lookup c

def digitsIn? (base : Nat) (row : List Char) : Option Nat :=
  if row.isEmpty then none
  else row.foldlM (fun value c => do
    let digit ← Json.hexValue? c
    if digit < base then some (base * value + digit) else none) 0

/-- The character of a code point given by hexadecimal digits. -/
def codeChar? (row : List Char) : Option Char := do
  let code ← digitsIn? 16 row
  if code < 0xD800 ∨ (0xDFFF < code ∧ code < 0x110000) then some (Char.ofNat code) else none

/-- Reads on in a text between double quotes. -/
def readDouble (part : Partial) : List Char → Option (Partial × List Char)
  | [] => none
  | '\\' :: 'x' :: a :: b :: rest => do
      readDouble (part.push (← codeChar? [a, b]) ['\\', 'x', a, b]) rest
  | '\\' :: 'u' :: a :: b :: c :: d :: rest => do
      readDouble (part.push (← codeChar? [a, b, c, d]) ['\\', 'u', a, b, c, d]) rest
  | '\\' :: 'U' :: a :: b :: c :: d :: e :: f :: g :: h :: rest => do
      readDouble (part.push (← codeChar? [a, b, c, d, e, f, g, h])
        ['\\', 'U', a, b, c, d, e, f, g, h]) rest
  | '\\' :: c :: rest =>
      if isBreak c then readDouble (part.pushTakenBreak c) rest
      else do readDouble (part.push (← escapedChar? c) ['\\', c]) rest
  | c :: rest =>
      if part.atMarker (c :: rest) || c == '\\' then none
      else if isBreak c then readDouble (part.pushBreak c) rest
      else if isBlank c then readDouble (part.pushBlank c) rest
      else if c == '"' then some (part.close c, rest)
      else readDouble (part.push c [c]) rest

/-- Reads on in a text between single quotes; a quote inside is written twice. -/
def readSingle (part : Partial) : List Char → Option (Partial × List Char)
  | [] => none
  | '\'' :: '\'' :: rest => readSingle (part.push '\'' ['\'', '\'']) rest
  | c :: rest =>
      if part.atMarker (c :: rest) then none
      else if isBreak c then readSingle (part.pushBreak c) rest
      else if isBlank c then readSingle (part.pushBlank c) rest
      else if c == '\'' then some (part.close c, rest)
      else readSingle (part.push c [c]) rest

/-- What becomes of the line ends at the end of a block scalar. -/
inductive Chomping where
  /-- The last line keeps its line end, empty lines behind it do not count. -/
  | clip
  | strip
  | keep
  deriving DecidableEq, Repr

def Chomping.ofMark? : Option Char → Option Chomping
  | some '+' => some .keep
  | some '-' => some .strip
  | _ => none

/-- What stands behind the mark of a block scalar, in either order: how to end it and how
far it is indented below the block around it. It gives the width of that too. -/
def blockHeader? (text : List Char) : Option (Chomping × Option Nat × Nat) :=
  let first := text.head?
  let second := (text.drop 1).head?
  let depth? (c : Option Char) := (c.filter Char.isDigit).map Decimal.digitValue
  match Chomping.ofMark? first, depth? first with
  | some chomping, _ =>
      match depth? second with
      | some 0 => none
      | some depth => some (chomping, some depth, 2)
      | none => some (chomping, none, 1)
  | none, some 0 => none
  | none, some depth =>
      match Chomping.ofMark? second with
      | some chomping => some (chomping, some depth, 2)
      | none => some (.clip, some depth, 1)
  | none, none => some (.clip, none, 0)

/-- A block scalar in progress. -/
structure BlockPart where
  /-- The characters, reversed. -/
  written : List Char
  /-- The end of the last line, and the ends of the empty lines behind it, reversed. -/
  lineEnd : Option Char
  empty : List Char
  /-- Whether the last line starts with a blank; such lines are not folded. -/
  indented : Bool
  /-- The column of the lines, once it is known, and the greatest one seen before. -/
  column : Option Nat
  deepest : Nat
  inLine : Bool
  place : Place

namespace BlockPart

def start (column : Option Nat) (place : Place) : BlockPart where
  written := []
  lineEnd := none
  empty := []
  indented := false
  column := column
  deepest := 0
  inLine := false
  place := place

/-- The scalar with a line begun by its first character. -/
def openLine (folds : Bool) (part : BlockPart) (c : Char) : BlockPart :=
  let joins := folds && part.lineEnd == some '\n' && !part.indented && !isBlank c
  let between :=
    if joins then (if part.empty.isEmpty then [' '] else part.empty)
    else part.empty ++ part.lineEnd.toList
  { part with
    written := c :: (between ++ part.written)
    lineEnd := none
    empty := []
    indented := isBlank c
    inLine := true
    place := part.place.after c }

def text (chomping : Chomping) (part : BlockPart) : String :=
  let tail := match chomping with
    | .strip => []
    | .clip => part.lineEnd.toList
    | .keep => part.empty ++ part.lineEnd.toList
  String.ofList (tail ++ part.written).reverse

end BlockPart

/-- Reads on in a block scalar up to the line that is not indented as far as its first one.
The floor is the least column of its lines. -/
def readBlock (folds : Bool) (floor : Nat) (part : BlockPart) :
    List Char → Option (BlockPart × List Char)
  | [] => some (part, [])
  | c :: rest =>
      let behind := part.place.after c
      if part.inLine then
        if isBreak c then
          readBlock folds floor
            { part with lineEnd := some c, inLine := false, place := behind } rest
        else readBlock folds floor { part with written := c :: part.written, place := behind } rest
      else
        let early := part.column.all fun column => part.place.column < column
        if c == ' ' && early then readBlock folds floor { part with place := behind } rest
        else if c == '\t' && early then none
        else
          let deepest := max part.deepest part.place.column
          if isBreak c then
            readBlock folds floor
              { part with empty := c :: part.empty, deepest := deepest, place := behind } rest
          else
            let column := part.column.getD (max deepest (max floor 1))
            if part.place.column = column then
              readBlock folds floor ({ part with column := some column }.openLine folds c) rest
            else some (part, c :: rest)

end AtomicCss.Yaml
