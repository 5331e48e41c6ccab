import AtomicCss.Text.Romanization

/-!
# Identifiers

Class names and names of custom properties.

An identifier is built from parts (a property, a condition, a scale value). Each part is
spelled with the characters that need no escape in a style sheet, so two different parts
may come out alike; a pool of identifiers therefore remembers which names it has given out
and marks a repeated one with the least number, from 2 on, that makes it new. Identifiers
depend only on the names asked for and on their order.
-/

set_option autoImplicit false

namespace AtomicCss

namespace Ident

/-- The characters of identifiers. -/
def isIdentChar (c : Char) : Bool := c.isAlphanum || c == '_' || c == '-'

/-- Writes characters behind what is already there (given reversed): a character outside
identifiers becomes a dash, and a dash at the front or behind a dash is left out. -/
def writeDashed (written : List Char) : List Char → List Char
  | [] => written
  | c :: rest =>
      let shown := if isIdentChar c then c else '-'
      if shown == '-' && (written.isEmpty || written.head? == some '-') then
        writeDashed written rest
      else writeDashed (shown :: written) rest

/-- The identifier spelling of a text: dashes for what cannot be shown, none at either
end, and an underscore if nothing is left. -/
def spelling (text : List Char) : List Char :=
  match (writeDashed [] text).dropWhile (· == '-') with
  | [] => ['_']
  | written => written.reverse

/-- The marker that opens a reference to an alias. -/
def aliasMark : Char := '$'

/-- Drops one alias marker at the front. -/
def dropAliasMark : List Char → List Char
  | '$' :: rest => rest
  | text => text

/-- One part of an identifier, the alias marker dropped and the rest romanized. -/
def component (romanize : String → String) (part : String) : String :=
  String.ofList (spelling (romanize (String.ofList (dropAliasMark part.toList))).toList)

end Ident

/-- The identifiers of one style sheet that have been given out, latest first. -/
structure IdentPool where
  /-- How texts are spelled in ASCII. -/
  romanize : String → String
  /-- What every identifier starts with. -/
  opening : String
  taken : List String

namespace IdentPool

/-- A pool from which nothing has been taken. Of the configured class prefix it keeps the
characters that identifiers are made of. -/
def start (classPrefix : Option String) (romanize : String → String := Text.romanize) :
    IdentPool where
  romanize := romanize
  opening := String.ofList ((classPrefix.getD "").toList.filter Ident.isIdentChar)
  taken := []

/-- How many identifiers have been given out. -/
def size (pool : IdentPool) : Nat := pool.taken.length

def isEmpty (pool : IdentPool) : Bool := pool.taken.isEmpty

/-- A base name with a number behind it. -/
def numbered (base : String) (number : Nat) : String := base ++ "-" ++ toString number

/-- The least number from 2 on that makes the base name new. As many numbers are tried as
names are taken; the base itself is one of those, so one of the numbers is free. -/
def freeNumber (taken : List String) (base : String) : Nat :=
  ((List.range' 2 taken.length).find? fun number => !taken.contains (numbered base number)).getD
    (taken.length + 2)

/-- The name a pool gives out for a base name: the base itself, or else the base with the
least free number. -/
def freeName (taken : List String) (base : String) : String :=
  if taken.contains base then numbered base (freeNumber taken base) else base

/-- Takes a name. -/
def reserve (base : String) : StateM IdentPool String := fun pool =>
  let name := freeName pool.taken base
  (name, { pool with taken := name :: pool.taken })

/-- The opening followed by the parts, joined by dashes. -/
def joined (pool : IdentPool) (parts : List String) : String :=
  pool.opening ++ "-".intercalate (parts.map (Ident.component pool.romanize))

/-- A class name may not start with a digit; an underscore is put in front of one. -/
def classBase (pool : IdentPool) (parts : List String) : String :=
  let name := pool.joined parts
  if name.toList.head?.any Char.isDigit then "_" ++ name else name

/-- The name of a custom property starts with two dashes. -/
def variableBase (pool : IdentPool) (parts : List String) : String :=
  "--" ++ pool.joined parts

/-- Takes a class name built from the parts. -/
def className (parts : List String) : StateM IdentPool String := do
  reserve ((← get).classBase parts)

/-- Takes the name of a custom property built from the parts. -/
def variableName (parts : List String) : StateM IdentPool String := do
  reserve ((← get).variableBase parts)

end IdentPool

end AtomicCss
