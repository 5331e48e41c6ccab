import AtomicCss.Json.Reader
import AtomicCss.Yaml.Cursor

/-!
# Tokens of YAML texts

The marks and scalars of a YAML text, together with tokens that no character stands for:
those around the collections that are written as blocks, and the one in front of a key.
Tags are kept as octets, since an escape in a tag stands for an octet.
-/

set_option autoImplicit false

namespace AtomicCss.Yaml

inductive Token where
  | version (major minor : Nat)
  /-- What a tag handle stands for. -/
  | tagStart (handle : List Char) (octets : List UInt8)
  | documentStart
  | documentEnd
  | blockSequence
  | blockMapping
  | blockEnd
  | flowSequence
  | flowSequenceEnd
  | flowMapping
  | flowMappingEnd
  /-- In front of an item of a block. -/
  | dash
  /-- Between the parts of a collection between brackets. -/
  | comma
  | key
  | value
  | anchor (name : String)
  | reference (name : String)
  | tag (handle : List Char) (octets : List UInt8)
  /-- A scalar is plain if it is neither quoted nor a block. -/
  | scalar (plain : Bool) (text : String)
  deriving DecidableEq, Repr

/-- Reads a name, at an anchor or a reference to one, from behind its mark. -/
def anchorName? (cursor : Cursor) : Option (String × Cursor) :=
  let name := cursor.rest.takeWhile isNameChar
  let behind := cursor.advance name.length
  let closed := endsWord behind.rest ||
    behind.rest.head?.any fun c => ['?', ':', ',', ']', '}', '%', '@', '\x60'].contains c
  if name.isEmpty || !closed then none else some (String.ofList name, behind)

/-! ## Tags -/

/-- The characters of a tag; the marks of flow sequences only where they can end nothing. -/
def isTagChar (withMarks : Bool) (c : Char) : Bool :=
  isNameChar c || [';', '/', '?', ':', '@', '&', '=', '+', '$', '.', '%', '!', '~', '*', '\'',
    '(', ')'].contains c || (withMarks && [',', '[', ']'].contains c)

/-- How many octets a character has in UTF-8, given the first one. -/
def octetCount? (first : Nat) : Option Nat :=
  if first < 0x80 then some 1
  else if first / 0x20 = 6 then some 2
  else if first / 0x10 = 14 then some 3
  else if first / 8 = 30 then some 4
  else none

/-- The octets of a tag. The octets of a character are either all escaped or none is; the
number counts those that the escaped character before still lacks. -/
def tagOctets? : Nat → List Char → Option (List UInt8)
  | 0, [] => some []
  | _ + 1, [] => none
  | missing, '%' :: a :: b :: rest => do
      let octet := 16 * (← Json.hexValue? a) + (← Json.hexValue? b)
      let missing ← match missing with
        | 0 => (octetCount? octet).map (· - 1)
        | missing + 1 => if octet / 0x40 = 2 then some missing else none
      return UInt8.ofNat octet :: (← tagOctets? missing rest)
  | 0, c :: rest =>
      if c == '%' then none
      else (tagOctets? 0 rest).map (UInt8.ofNat c.toNat :: ·)
  | _ + 1, _ :: _ => none

/-- Reads the octets of a tag, of which there may be none if part of the tag was read
before. A zero octet ends them. -/
def readTag? (withMarks begun : Bool) (cursor : Cursor) : Option (List UInt8 × Cursor) := do
  let spelled := cursor.rest.takeWhile (isTagChar withMarks)
  if spelled.isEmpty && !begun then none
  else
    let octets ← tagOctets? 0 spelled
    return (octets.takeWhile (· != 0), cursor.advance spelled.length)

/-- Reads a tag: as a whole between angle brackets, or by a handle and what follows it. A
lone mark stands for itself. -/
def tag? (inFlow : Bool) (cursor : Cursor) : Option (Token × Cursor) := do
  let (handle, octets, behind) ← match cursor.rest with
    | '!' :: '<' :: _ => do
        let (octets, behind) ← readTag? true false (cursor.advance 2)
        if behind.rest.head? == some '>' then pure ([], octets, behind.advance 1) else none
    | '!' :: rest => do
        let name := rest.takeWhile isNameChar
        let start := cursor.advance (name.length + 1)
        if start.rest.head? == some '!' then do
          let (octets, behind) ← readTag? false false (start.advance 1)
          pure ('!' :: name ++ ['!'], octets, behind)
        else do
          let (octets, behind) ← readTag? false true start
          let octets := name.map (fun c => UInt8.ofNat c.toNat) ++ octets
          pure (if octets.isEmpty then ([], [33], behind) else (['!'], octets, behind))
    | _ => none
  if endsWord behind.rest || (inFlow && behind.rest.head? == some ',') then
    return (.tag handle octets, behind)
  else none

/-! ## Directives -/

/-- Reads a part of a version number, of nine digits at most. -/
def versionPart? (cursor : Cursor) : Option (Nat × Cursor) :=
  let digits := cursor.rest.takeWhile Char.isDigit
  if digits.isEmpty || 9 < digits.length then none
  else some (Decimal.digitsValue digits, cursor.advance digits.length)

/-- Reads a directive from behind its mark. -/
def directive? (cursor : Cursor) : Option (Token × Cursor) := do
  let name := cursor.rest.takeWhile isNameChar
  let behind := cursor.advance name.length
  if name.isEmpty || !endsWord behind.rest then none
  else
    let start := behind.skipWhile isBlank
    if name = ['Y', 'A', 'M', 'L'] then do
      let (major, behind) ← versionPart? start
      if behind.rest.head? != some '.' then none
      else
        let (minor, behind) ← versionPart? (behind.advance 1)
        return (.version major minor, ← behind.finishLine?)
    else if name = ['T', 'A', 'G'] then do
      if start.rest.head? != some '!' then none
      else
        let inner := (start.rest.drop 1).takeWhile isNameChar
        let behind := start.advance (inner.length + 1)
        let closed := behind.rest.head? == some '!'
        let handle := '!' :: inner ++ (if closed then ['!'] else [])
        let behind := if closed then behind.advance 1 else behind
        if !closed && !inner.isEmpty then none
        else if !behind.rest.head?.any isBlank then none
        else
          let (octets, behind) ← readTag? true false (behind.skipWhile isBlank)
          if endsWord behind.rest then return (.tagStart handle octets, ← behind.finishLine?)
          else none
    else none

end AtomicCss.Yaml
