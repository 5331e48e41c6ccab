import AtomicCss.Yaml.Character

/-!
# Places in YAML texts

The structure of a YAML text depends on lines, on columns and, for the length of a key, on
how many octets of UTF-8 a part takes up. A place knows all three; a cursor is a place
together with the text behind it.
-/

set_option autoImplicit false

namespace AtomicCss.Yaml

structure Place where
  /-- How many octets stand before the place. -/
  offset : Nat
  line : Nat
  column : Nat
  deriving DecidableEq, Repr

namespace Place

def after (place : Place) (c : Char) : Place where
  offset := place.offset + c.utf8Size
  line := if isBreak c then place.line + 1 else place.line
  column := if isBreak c then 0 else place.column + 1

def afterAll (place : Place) (text : List Char) : Place := text.foldl after place

end Place

structure Cursor where
  place : Place
  rest : List Char
  deriving Repr

namespace Cursor

def start (text : List Char) : Cursor := ⟨⟨0, 0, 0⟩, text⟩

def advance (cursor : Cursor) (count : Nat) : Cursor where
  place := cursor.place.afterAll (cursor.rest.take count)
  rest := cursor.rest.drop count

def skipWhile (cursor : Cursor) (test : Char → Bool) : Cursor :=
  cursor.advance (cursor.rest.takeWhile test).length

/-- Moves over the blanks and the comment at the end of a line and over the line end;
nothing else may stand there. -/
def finishLine? (cursor : Cursor) : Option Cursor :=
  let behind := cursor.skipWhile isBlank
  let behind :=
    if behind.rest.head? == some '#' then behind.skipWhile (fun c => !isBreak c) else behind
  if endsLine behind.rest then some (behind.advance 1) else none

/-- Moves over blanks, line ends and comments to what comes next. A tab counts as a blank
only between brackets or where no key may stand, and a byte order mark only at the start of
a line. Outside of brackets a key may stand behind any line end; whether one may is given
along and back. -/
def skipFrom (inFlow : Bool) : Bool → Bool → Place → List Char → Cursor × Bool
  | keyAllowed, _, place, [] => (⟨place, []⟩, keyAllowed)
  | keyAllowed, inComment, place, c :: rest =>
      if isBreak c then skipFrom inFlow (keyAllowed || !inFlow) false (place.after c) rest
      else if inComment || c == ' ' || (c == '\t' && (inFlow || !keyAllowed)) ||
          (c == '\ufeff' && place.column == 0) then
        skipFrom inFlow keyAllowed inComment (place.after c) rest
      else if c == '#' then skipFrom inFlow keyAllowed true (place.after c) rest
      else (⟨place, c :: rest⟩, keyAllowed)

end Cursor

end AtomicCss.Yaml
