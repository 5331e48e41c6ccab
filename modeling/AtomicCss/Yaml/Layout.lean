import AtomicCss.Yaml.Scalar
import AtomicCss.Yaml.Token

/-!
# The layout of YAML texts

The tokens of a YAML text. Collections written as blocks follow the columns: a dash or a key
behind the column of the block around it opens a block, and whatever stands before a column
closes the blocks of that column. That something is a key shows only at the colon behind it,
so the layout keeps in mind where a key may have begun, on each level of brackets one. Such
a key ends with its line, or after 1024 octets; where the column of the block leaves nothing
else than a key, a missing colon is a fault.
-/

set_option autoImplicit false

namespace AtomicCss.Yaml

/-- A place where a key may have begun. -/
structure PendingKey where
  place : Place
  /-- How many tokens stand before it. -/
  position : Nat
  required : Bool
  deriving Repr

def maxKeyOctets : Nat := 1024

/-- Whether a key is over, given a place behind it. -/
def PendingKey.isOver (key : PendingKey) (place : Place) : Bool :=
  key.place.line < place.line || key.place.offset + maxKeyOctets < place.offset

/-- A possible key as it is seen from a place behind it. -/
def PendingKey.refresh? (place : Place) : Option PendingKey → Option (Option PendingKey)
  | none => some none
  | some key =>
      if !key.isOver place then some (some key) else if key.required then none else some none

structure Layout where
  cursor : Cursor
  /-- The tokens so far, latest first. -/
  tokens : List Token
  count : Nat
  /-- The columns of the blocks around the cursor, innermost first. -/
  columns : List Nat
  keyAllowed : Bool
  /-- The possible key on this level of brackets, and those on the levels around it. -/
  key : Option PendingKey
  outerKeys : List (Option PendingKey)

namespace Layout

def start (text : List Char) : Layout where
  cursor := .start text
  tokens := []
  count := 0
  columns := []
  keyAllowed := true
  key := none
  outerKeys := []

def column (layout : Layout) : Nat := layout.cursor.place.column

def inFlow (layout : Layout) : Bool := !layout.outerKeys.isEmpty

/-- The least column behind the column of the innermost block. -/
def floor (layout : Layout) : Nat :=
  match layout.columns with
  | [] => 0
  | column :: _ => column + 1

def emit (token : Token) (layout : Layout) : Layout :=
  { layout with tokens := token :: layout.tokens, count := layout.count + 1 }

/-- Puts a token in behind so many others. -/
def emitAt (position : Nat) (token : Token) (layout : Layout) : Layout :=
  let later := layout.count - position
  { layout with
    tokens := layout.tokens.take later ++ token :: layout.tokens.drop later
    count := layout.count + 1 }

def take (token : Token) (width : Nat) (layout : Layout) : Layout :=
  { layout.emit token with cursor := layout.cursor.advance width }

/-- Opens a block in a column behind that of the block around it. -/
def openBlock (token : Token) (column position : Nat) (layout : Layout) : Layout :=
  if !layout.inFlow && layout.floor ≤ column then
    { layout.emitAt position token with columns := column :: layout.columns }
  else layout

/-- Closes the blocks whose columns satisfy a test, up to the first one that does not. -/
def closeBlocks (closes : Nat → Bool) (layout : Layout) : Layout :=
  if layout.inFlow then layout
  else
    let closed := (layout.columns.takeWhile closes).length
    { layout with
      tokens := List.replicate closed .blockEnd ++ layout.tokens
      count := layout.count + closed
      columns := layout.columns.drop closed }

/-- Gives up the possible key of this level. -/
def dropKey? (layout : Layout) : Option Layout :=
  match layout.key with
  | some key => if key.required then none else some { layout with key := none }
  | none => some layout

/-- Keeps in mind that a key may begin here, if one may. -/
def saveKey? (layout : Layout) : Option Layout :=
  if layout.keyAllowed then do
    let layout ← layout.dropKey?
    return { layout with
      key := some {
        place := layout.cursor.place
        position := layout.count
        required := !layout.inFlow && layout.columns.head? == some layout.column } }
  else some layout

/-- Moves to the next token, and closes the blocks that end before it. -/
def advance? (layout : Layout) : Option Layout := do
  let (cursor, keyAllowed) := Cursor.skipFrom layout.inFlow layout.keyAllowed false
    layout.cursor.place layout.cursor.rest
  let key ← PendingKey.refresh? cursor.place layout.key
  let outerKeys ← layout.outerKeys.mapM (PendingKey.refresh? cursor.place)
  let moved := { layout with cursor, keyAllowed, key, outerKeys }
  return moved.closeBlocks fun column => cursor.place.column < column

/-! ## Marks -/

/-- Takes the marker line in front of a document or behind it. -/
def takeMarker? (token : Token) (layout : Layout) : Option Layout := do
  let layout ← (layout.closeBlocks fun _ => true).dropKey?
  return { layout.take token 3 with keyAllowed := false }

def takeDirective? (layout : Layout) : Option Layout := do
  let layout ← (layout.closeBlocks fun _ => true).dropKey?
  let (token, behind) ← directive? (layout.cursor.advance 1)
  return { layout.emit token with cursor := behind, keyAllowed := false }

/-- Takes an opening bracket, which may begin a key and before which a key may follow. -/
def openFlow? (token : Token) (layout : Layout) : Option Layout := do
  let layout ← layout.saveKey?
  return { layout.take token 1 with
    key := none
    outerKeys := layout.key :: layout.outerKeys
    keyAllowed := true }

def closeFlow? (token : Token) (layout : Layout) : Option Layout := do
  let layout ← layout.dropKey?
  let closed := { layout.take token 1 with keyAllowed := false }
  match layout.outerKeys with
  | [] => return closed
  | key :: outerKeys => return { closed with key, outerKeys }

def takeComma? (layout : Layout) : Option Layout := do
  let layout ← layout.dropKey?
  return { layout.take .comma 1 with keyAllowed := true }

/-- Takes a dash, where outside of brackets a key might stand as well. -/
def takeDash? (layout : Layout) : Option Layout := do
  if !layout.inFlow && !layout.keyAllowed then none
  else
    let layout ← (layout.openBlock .blockSequence layout.column layout.count).dropKey?
    return { layout.take .dash 1 with keyAllowed := true }

/-- Takes the mark of a key that is written out. -/
def takeKeyMark? (layout : Layout) : Option Layout := do
  if !layout.inFlow && !layout.keyAllowed then none
  else
    let layout ← (layout.openBlock .blockMapping layout.column layout.count).dropKey?
    return { layout.take .key 1 with keyAllowed := !layout.inFlow }

/-- Takes the colon behind a key. A possible key becomes one. -/
def takeColon? (layout : Layout) : Option Layout :=
  match layout.key with
  | some key =>
      let keyed := { layout.emitAt key.position .key with key := none, keyAllowed := false }
      some ((keyed.openBlock .blockMapping key.place.column key.position).take .value 1)
  | none =>
      if !layout.inFlow && !layout.keyAllowed then none
      else
        let opened := layout.openBlock .blockMapping layout.column layout.count
        some ({ opened with keyAllowed := !layout.inFlow }.take .value 1)

/-! ## Properties and scalars of nodes -/

/-- Takes a token that may begin a key and is read by a function of the cursor. -/
def takeInline? (read : Cursor → Option (Token × Cursor)) (layout : Layout) : Option Layout := do
  let layout ← layout.saveKey?
  let (token, behind) ← read layout.cursor
  return { layout.emit token with cursor := behind, keyAllowed := false }

/-- Takes an anchor or a reference to one. -/
def takeName? (token : String → Token) : Layout → Option Layout :=
  takeInline? fun cursor => (anchorName? (cursor.advance 1)).map fun (name, behind) =>
    (token name, behind)

/-- Takes a quoted scalar, given how to read on from behind its opening quote. -/
def takeQuoted? (read : Partial → List Char → Option (Partial × List Char)) :
    Layout → Option Layout :=
  takeInline? fun cursor =>
    let start := cursor.advance 1
    (read (.start start.place) start.rest).map fun (part, rest) =>
      (.scalar false part.text, ⟨part.place, rest⟩)

/-- Takes a plain scalar. A key may follow if it ends with a line. -/
def takePlain? (layout : Layout) : Option Layout := do
  let layout ← layout.saveKey?
  let (part, rest) ← readPlain layout.inFlow layout.floor (.start layout.cursor.place)
    layout.cursor.rest
  return { layout.emit (.scalar true part.text) with
    cursor := ⟨part.place, rest⟩
    keyAllowed := !part.gap.isOnLine }

def takeBlock? (folds : Bool) (layout : Layout) : Option Layout := do
  let layout ← layout.dropKey?
  let start := layout.cursor.advance 1
  let (chomping, depth, width) ← blockHeader? start.rest
  let start ← (start.advance width).finishLine?
  let column := depth.map fun depth => layout.columns.headD 0 + depth
  let (part, rest) ← readBlock folds layout.floor (.start column start.place) start.rest
  return { layout.emit (.scalar false (part.text chomping)) with
    cursor := ⟨part.place, rest⟩
    keyAllowed := true }

/-- Whether a plain scalar may start here. Marks of the format may not start one, except
for a dash or, outside of brackets, a colon or question mark, that something follows. -/
def startsPlain (inFlow : Bool) : List Char → Bool
  | [] => false
  | c :: rest =>
      if endsWord (c :: rest) then false
      else if c == '-' then !rest.head?.any isBlank
      else if c == '?' || c == ':' then !inFlow && !endsWord rest
      else !(isFlowMark c || ['#', '&', '*', '!', '|', '>', '\'', '"', '%', '@', '\x60'].contains c)

def takeToken? (layout : Layout) : Option Layout :=
  let text := layout.cursor.rest
  let atLineStart := layout.column == 0
  let isMark := layout.inFlow || endsWord (text.drop 1)
  if atLineStart && text.head? == some '%' then layout.takeDirective?
  else if atLineStart && opensMarker '-' text then layout.takeMarker? .documentStart
  else if atLineStart && opensMarker '.' text then layout.takeMarker? .documentEnd
  else
    match text with
    | '[' :: _ => layout.openFlow? .flowSequence
    | '{' :: _ => layout.openFlow? .flowMapping
    | ']' :: _ => layout.closeFlow? .flowSequenceEnd
    | '}' :: _ => layout.closeFlow? .flowMappingEnd
    | ',' :: _ => layout.takeComma?
    | '*' :: _ => layout.takeName? .reference
    | '&' :: _ => layout.takeName? .anchor
    | '!' :: _ => layout.takeInline? (tag? layout.inFlow)
    | '\'' :: _ => layout.takeQuoted? readSingle
    | '"' :: _ => layout.takeQuoted? readDouble
    | c :: rest =>
        if c == '-' && endsWord rest then layout.takeDash?
        else if c == '?' && isMark then layout.takeKeyMark?
        else if c == ':' && isMark then layout.takeColon?
        else if c == '|' && !layout.inFlow then layout.takeBlock? false
        else if c == '>' && !layout.inFlow then layout.takeBlock? true
        else if startsPlain layout.inFlow text then layout.takePlain?
        else none
    | [] => none

/-- All tokens of the text, in order. Every token has a character of its own, which bounds
the steps. -/
def tokens? : Nat → Layout → Option (List Token)
  | 0, _ => none
  | steps + 1, layout =>
      match layout.advance? with
      | none => none
      | some layout =>
          if layout.cursor.rest.isEmpty then
            ((layout.closeBlocks fun _ => true).dropKey?).map fun layout => layout.tokens.reverse
          else
            match layout.takeToken? with
            | none => none
            | some layout => tokens? steps layout

end Layout

def Token.ofChars? (text : List Char) : Option (List Token) :=
  let text := lines text
  if text.all isAllowed then (Layout.start text).tokens? (text.length + 1) else none

end AtomicCss.Yaml
