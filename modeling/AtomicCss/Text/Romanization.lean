import AtomicCss.Text.CodePoint
import AtomicCss.Text.Romanization.Abjads
import AtomicCss.Text.Romanization.Alphabets
import AtomicCss.Text.Romanization.Braille
import AtomicCss.Text.Romanization.Devised
import AtomicCss.Text.Romanization.Han
import AtomicCss.Text.Romanization.Hangul
import AtomicCss.Text.Romanization.Historic
import AtomicCss.Text.Romanization.Indic
import AtomicCss.Text.Romanization.Latin
import AtomicCss.Text.Romanization.Logographs
import AtomicCss.Text.Romanization.Numbers
import AtomicCss.Text.Romanization.Pictographs
import AtomicCss.Text.Romanization.RareHan
import AtomicCss.Text.Romanization.Signs
import AtomicCss.Text.Romanization.Silent
import AtomicCss.Text.Romanization.Syllabaries
import AtomicCss.Text.Romanization.Yi

/-!
# Romanization

The spelling of a text in ASCII.

A text that starts in ASCII starts so in its spelling. From its first other character on,
each character is replaced by a short ASCII spelling of its sound or look. The spellings of
whole words (an ideograph, a pictograph) end in a space that separates them from what
follows; that space is dropped where nothing follows or a space follows anyway.
-/

set_option autoImplicit false

namespace AtomicCss.Text

/-- The blocks of ideographs and of their parts, as inclusive ranges. -/
def ideographRanges : List (Nat × Nat) :=
  [(0x2E80, 0x2FDF), (0x3400, 0x4DBF), (0x4E00, 0x9FFF), (0xF900, 0xFAFF), (0x20000, 0x3FFFF)]

/-- The readings with the ideographs that have them, common ones first. -/
def ideographSpellings : List (String × String) := hanSpellings ++ rareHanSpellings

/-- The spellings with the characters that have them, of all scripts but ideographs. -/
def scriptSpellings : List (String × String) :=
  latinSpellings ++ signSpellings ++ greekSpellings ++ easternSpellings ++ abjadSpellings ++
    indicSpellings ++ syllableSpellings ++ hangulLetterSpellings ++ pictographSpellings ++
    yiSpellings ++ devisedSpellings ++ historicSpellings ++ logographSpellings

/-- The spelling that a table has for a character. -/
def listedSpelling? (table : List (String × String)) (c : Char) : Option String :=
  (table.find? fun entry => entry.2.contains c).map Prod.fst

/-- The spelling of a character that is not silent: that of its place among the syllables,
numbers or patterns of its block, or else the one in the tables. -/
def soundedSpelling? (c : Char) : Option String :=
  if inRanges ideographRanges c.toNat then listedSpelling? ideographSpellings c
  else
    ((hangulSpelling? c).or ((numberSpelling? c).or (brailleSpelling? c))).or
      (listedSpelling? scriptSpellings c)

/-- The spelling of one character: an ASCII character is its own, a control character and
other silent ones have an empty one, and a character that is listed nowhere has none. -/
def romanSpelling? (c : Char) : Option (List Char) :=
  if c.toNat < 0x20 then some []
  else if c.toNat < 0x7F then some [c]
  else if inRanges silentRanges c.toNat then some []
  else (soundedSpelling? c).map String.toList

/-- Drops the space at the end of a spelling that is more than that space. -/
def trimSpelling (spelling : List Char) : List Char :=
  if 1 < spelling.length && spelling.getLast? == some ' ' then spelling.dropLast else spelling

/-- Whether the space that ends a spelling is not needed before the given spellings. -/
def separated : List (Option (List Char)) → Bool
  | [] => true
  | next :: _ => next.any fun spelling => spelling.head? == some ' '

/-- Joins the spellings of a row of characters; a character without one shows as a question
mark in brackets. -/
def joinSpellings : List (Option (List Char)) → List Char
  | [] => []
  | none :: rest => '[' :: '?' :: ']' :: joinSpellings rest
  | some spelling :: rest =>
      (if separated rest then trimSpelling spelling else spelling) ++ joinSpellings rest

/-- Spells each character in turn. -/
def romanizeChars (text : List Char) : List Char := joinSpellings (text.map romanSpelling?)

/-- Whether a character stands for itself at the start of a text. -/
def isPlainStart (c : Char) : Bool := c.toNat < 0x7F

/-- The ASCII spelling of a text. -/
def romanize (text : String) : String :=
  String.ofList
    (text.toList.takeWhile isPlainStart ++ romanizeChars (text.toList.dropWhile isPlainStart))

end AtomicCss.Text
