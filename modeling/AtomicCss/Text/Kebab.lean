import AtomicCss.Text.Case
import AtomicCss.Text.Classes

/-!
# Kebab case

The kebab case of a name is its words in lower case, joined by dashes.

A name is cut at every character that is neither a letter nor a number, and inside what is
left at the changes of case: before a capital that follows a small letter, and before the
last capital of a row of capitals that a small letter follows.
-/

set_option autoImplicit false

namespace AtomicCss.Text

/-- The case that the letters of the word so far have shown last. -/
inductive WordCase where
  | unknown
  | lower
  | upper
  deriving DecidableEq, Repr

/-- The case shown after a further character; digits and caseless letters change nothing. -/
def WordCase.after (shown : WordCase) (c : Char) : WordCase :=
  if isLower c then .lower else if isUpper c then .upper else shown

/-- Cuts a run of letters and numbers into words. The first argument is the word in
progress, reversed. -/
def cutAtCase (word : List Char) (shown : WordCase) : List Char → List (List Char)
  | [] => [word.reverse]
  | [c] => [(c :: word).reverse]
  | c :: next :: rest =>
      if shown.after c = .lower ∧ isUpper next then
        (c :: word).reverse :: cutAtCase [] .unknown (next :: rest)
      else if shown = .upper ∧ isUpper c ∧ isLower next then
        word.reverse :: cutAtCase [c] .unknown (next :: rest)
      else cutAtCase (c :: word) (shown.after c) (next :: rest)

/-- The maximal runs of letters and numbers; the first argument is the run in progress,
reversed. -/
def alphanumericRuns (run : List Char) : List Char → List (List Char)
  | [] => [run.reverse]
  | c :: rest =>
      if isAlphanumeric c then alphanumericRuns (c :: run) rest
      else run.reverse :: alphanumericRuns [] rest

/-- The words of a name: none is empty. -/
def nameWords (name : List Char) : List (List Char) :=
  ((alphanumericRuns [] name).flatMap (cutAtCase [] .unknown)).filter (!·.isEmpty)

/-- A word in lower case; a sigma at the end of a word takes its final form. -/
def lowercaseWord : List Char → List Char
  | [] => []
  | ['Σ'] => ['ς']
  | c :: rest => lowercase c ++ lowercaseWord rest

def kebabCase (name : List Char) : List Char :=
  ['-'].intercalate ((nameWords name).map lowercaseWord)

end AtomicCss.Text
