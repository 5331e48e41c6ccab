import AtomicCss.Table
import AtomicCss.Text.Classes

/-!
# Alias references in values

A value may refer to a token of its property's scale by `$alias`, or by `-$alias` to the
negated token. A value is first cut into pieces, single characters and references, and then
written out again with the references replaced. An alias is made of word characters and
dashes and does not end in a dash, so `$a-$b` refers to `a` and, negated, to `b`.
-/

set_option autoImplicit false

namespace AtomicCss.Alias

/-- A piece of a value. -/
inductive Piece where
  | character (c : Char)
  | reference (negated : Bool) (key : List Char)
  deriving DecidableEq, Repr

def isAliasChar (c : Char) : Bool := Text.isWord c || c == '-'

/-- The alias at the front of a text: the run of alias characters up to its last word
character. It is empty where that run holds no word character. -/
def aliasAt (text : List Char) : List Char :=
  ((text.takeWhile isAliasChar).reverse.dropWhile fun c => !Text.isWord c).reverse

/-- The reference at the front of a text, the negated one if a dash stands before the
dollar sign. -/
def referenceAt? : List Char → Option (Bool × List Char)
  | '-' :: '$' :: rest =>
      if (aliasAt rest).isEmpty then none else some (true, aliasAt rest)
  | '$' :: rest => if (aliasAt rest).isEmpty then none else some (false, aliasAt rest)
  | _ => none

/-- How many characters a reference takes up after its first one. -/
def referenceTail (negated : Bool) (key : List Char) : Nat :=
  if negated then key.length + 1 else key.length

/-- Cuts a value into pieces from left to right. The first argument counts the characters
that belong to the reference found last. -/
def piecesAfter : Nat → List Char → List Piece
  | _, [] => []
  | skip + 1, _ :: rest => piecesAfter skip rest
  | 0, c :: rest =>
      match referenceAt? (c :: rest) with
      | some (negated, key) =>
          .reference negated key :: piecesAfter (referenceTail negated key) rest
      | none => .character c :: piecesAfter 0 rest

def pieces (value : List Char) : List Piece := piecesAfter 0 value

/-- A piece as it stands in the value. -/
def Piece.written : Piece → List Char
  | .character c => [c]
  | .reference false key => '$' :: key
  | .reference true key => '-' :: '$' :: key

/-- A piece with its reference replaced. An alias that the scale does not have stays as it
is written; the text of a token is not looked at again. -/
def Piece.substituted (tokens : Table String) : Piece → List Char
  | .character c => [c]
  | .reference negated key =>
      match tokens.get? (String.ofList key) with
      | some token =>
          if negated then ("calc(" ++ token ++ " * -1)").toList else token.toList
      | none => (Piece.reference negated key).written

def substituteChars (tokens : Table String) (value : List Char) : List Char :=
  (pieces value).flatMap (Piece.substituted tokens)

/-- Replaces the alias references of a value by their tokens. A property without tokens
takes its values as they are. -/
def substitute (tokens : Option (Table String)) (value : String) : String :=
  match tokens with
  | none => value
  | some tokens => String.ofList (substituteChars tokens value.toList)

end AtomicCss.Alias
