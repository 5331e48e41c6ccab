import AtomicCss.Text.Alphabetic
import AtomicCss.Text.CodePoint
import AtomicCss.Text.Numeric
import AtomicCss.Text.Unprintable
import AtomicCss.Text.WordSigns

/-!
# Character classes

Character classes that tell apart the parts of names and values. Each class is given for
ASCII by the tests of the core library and beyond ASCII by a table of code points.
-/

set_option autoImplicit false

namespace AtomicCss.Text

/-- Letters and numbers of any script. -/
def isAlphanumeric (c : Char) : Bool :=
  c.isAlphanum || inRanges alphabeticRanges c.toNat || inRanges numericRanges c.toNat

/-- The characters an alias is made of, dashes apart: letters, marks, decimal digits,
connector punctuation and joiners. -/
def isWord (c : Char) : Bool :=
  c.isAlphanum || c == '_' || inRanges wordSignRanges c.toNat ||
    (inRanges alphabeticRanges c.toNat && !inRanges newLetterRanges c.toNat)

/-- The blanks that separate class names, as ranges of code points. -/
def whiteSpaceRanges : List (Nat × Nat) :=
  [(0x9, 0xD), (0x20, 0x20), (0x85, 0x85), (0xA0, 0xA0), (0x1680, 0x1680), (0x2000, 0x200A),
   (0x2028, 0x2029), (0x202F, 0x202F), (0x205F, 0x205F), (0x3000, 0x3000)]

def isWhiteSpace (c : Char) : Bool := inRanges whiteSpaceRanges c.toNat

/-- Characters that a quoted text shows by their code point. -/
def isUnprintable (c : Char) : Bool :=
  c.toNat < 0x20 || c.toNat == 0x7F || inRanges unprintableRanges c.toNat

/-- Splits a text at its blanks; blanks at the ends and in a row separate nothing. -/
def splitAtBlanks : List Char → List (List Char)
  | [] => []
  | c :: rest =>
      if isWhiteSpace c then splitAtBlanks rest
      else
        match rest, splitAtBlanks rest with
        | next :: _, first :: others =>
            if isWhiteSpace next then [c] :: first :: others else (c :: first) :: others
        | _, others => [c] :: others

/-- The words of a text, in order. -/
def words (text : String) : List String :=
  (splitAtBlanks text.toList).map String.ofList

end AtomicCss.Text
