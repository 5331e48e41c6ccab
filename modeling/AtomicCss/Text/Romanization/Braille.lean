/-!
# Braille patterns

ASCII spellings of Braille patterns. A pattern of six dots is spelled by the letter, digit
or punctuation that it stands for, and dot 7 below a letter makes it a capital. Every other
pattern is spelled by the numbers of its dots.
-/

set_option autoImplicit false

namespace AtomicCss.Text

/-- The code point of the pattern without dots. -/
def firstBraillePattern : Nat := 0x2800

/-- The characters of the patterns of six dots, in the order of their code points. -/
def sixDotCharacters : String :=
  " a,b'k;l@cif/msp\"e:h9o!r^djg>ntq,*5<-u?v.%[$+x!&;:.\\0z7(_?w]#y)="

/-- The character of a pattern of six dots by its place among the patterns. -/
def sixDotCharacter? (pattern : Nat) : Option Char := sixDotCharacters.toList[pattern]?

/-- The letter of a pattern of six dots that stands for a letter. -/
def sixDotLetter? (pattern : Nat) : Option Char :=
  (sixDotCharacter? pattern).filter (·.isAlpha)

/-- The numbers of the dots of a pattern. A pattern is a sum of powers of two, one for each
dot. -/
def brailleDots (pattern : Nat) : List Nat :=
  ((List.range 8).filter fun dot => pattern.testBit dot).map (· + 1)

/-- The spelling of a pattern by the numbers of its dots. -/
def brailleDotSpelling (pattern : Nat) : String :=
  "d" ++ String.join ((brailleDots pattern).map toString)

/-- The spelling of a pattern by its place among the patterns. -/
def braillePattern? (pattern : Nat) : Option String :=
  if pattern < 64 then (sixDotCharacter? pattern).map Char.toString
  else if pattern < 256 then
    match sixDotLetter? (pattern - 64) with
    | some letter => some letter.toUpper.toString
    | none => some (brailleDotSpelling pattern)
  else none

/-- The spelling of a character that is a Braille pattern. -/
def brailleSpelling? (c : Char) : Option String :=
  if firstBraillePattern ≤ c.toNat then braillePattern? (c.toNat - firstBraillePattern) else none

end AtomicCss.Text
