import AtomicCss.Text.Classes
import Mathlib.Data.List.Chain

/-!
# Words of joined texts

Texts without blanks that are joined by single spaces are the words of the joined text. The
joined text has no blank but those between the words.
-/

set_option autoImplicit false

namespace AtomicCss.Text

/-- A text that is one word: it is not empty and holds no blank. -/
def IsWord (text : List Char) : Prop := text ≠ [] ∧ ∀ c ∈ text, isWhiteSpace c = false

theorem splitAtBlanks_blank {blank : Char} (isBlank : isWhiteSpace blank = true)
    (rest : List Char) : splitAtBlanks (blank :: rest) = splitAtBlanks rest := by
  rw [splitAtBlanks.eq_def]
  simp only [isBlank, if_true]

/-- The last character of a word is a word as far as it is read alone. -/
theorem splitAtBlanks_last {last : Char} (shown : isWhiteSpace last = false)
    {after : List Char} (ended : ∀ c ∈ after.head?, isWhiteSpace c = true) :
    splitAtBlanks (last :: after) = [last] :: splitAtBlanks after := by
  rw [splitAtBlanks.eq_def]
  cases after with
  | nil => simp only [shown, Bool.false_eq_true, if_false]
  | cons blank others =>
      have isBlank := ended blank rfl
      simp only [shown, Bool.false_eq_true, if_false]
      cases splitAtBlanks (blank :: others) with
      | nil => rfl
      | cons next later => simp only [isBlank, if_true]

theorem splitAtBlanks_inside {first second : Char} (firstShown : isWhiteSpace first = false)
    (secondShown : isWhiteSpace second = false) {rest word : List Char}
    {others : List (List Char)} (later : splitAtBlanks (second :: rest) = word :: others) :
    splitAtBlanks (first :: second :: rest) = (first :: word) :: others := by
  rw [splitAtBlanks.eq_def]
  simp only [firstShown, secondShown, later, Bool.false_eq_true, if_false]

theorem splitAtBlanks_append {word : List Char} (solid : IsWord word) {after : List Char}
    (ended : ∀ c ∈ after.head?, isWhiteSpace c = true) :
    splitAtBlanks (word ++ after) = word :: splitAtBlanks after := by
  obtain ⟨some, noBlanks⟩ := solid
  induction word with
  | nil => exact absurd rfl some
  | cons first rest ih =>
      have firstShown := noBlanks first List.mem_cons_self
      cases rest with
      | nil => exact splitAtBlanks_last firstShown ended
      | cons second others =>
          have later := ih (List.cons_ne_nil _ _)
            fun c listed => noBlanks c (List.mem_cons_of_mem _ listed)
          have secondShown := noBlanks second (List.mem_cons_of_mem _ List.mem_cons_self)
          exact splitAtBlanks_inside firstShown secondShown later

theorem splitAtBlanks_intercalate {words : List (List Char)}
    (solid : ∀ word ∈ words, IsWord word) :
    splitAtBlanks ([' '].intercalate words) = words := by
  induction words with
  | nil => rfl
  | cons word rest ih =>
      have first := solid word List.mem_cons_self
      have later := ih fun word listed => solid word (List.mem_cons_of_mem _ listed)
      cases rest with
      | nil =>
          have ended : ∀ c ∈ ([] : List Char).head?, isWhiteSpace c = true := by simp
          have alone := splitAtBlanks_append first ended
          rw [List.append_nil] at alone
          rw [List.intercalate_singleton, alone, splitAtBlanks]
      | cons next others =>
          have blank : isWhiteSpace ' ' = true := by decide
          have ended : ∀ c ∈ (' ' :: [' '].intercalate (next :: others)).head?,
              isWhiteSpace c = true := by
            intro c isHead
            cases isHead
            exact blank
          rw [List.intercalate_cons_cons, List.append_assoc, List.singleton_append,
            splitAtBlanks_append first ended, splitAtBlanks_blank blank, later]

theorem words_intercalate {texts : List String} (solid : ∀ text ∈ texts, IsWord text.toList) :
    words (" ".intercalate texts) = texts := by
  have cut : splitAtBlanks (" ".intercalate texts).toList = texts.map String.toList := by
    rw [String.toList_intercalate]
    apply splitAtBlanks_intercalate
    intro word listed
    obtain ⟨text, member, rfl⟩ := List.mem_map.mp listed
    exact solid text member
  rw [words, cut, List.map_map]
  exact List.map_id'' (fun text => String.ofList_toList) texts

/-- A text with no blank at either end and none beside another. -/
structure IsSpaced (text : List Char) : Prop where
  front : ∀ c ∈ text.head?, isWhiteSpace c = false
  back : ∀ c ∈ text.getLast?, isWhiteSpace c = false
  single : text.IsChain fun first second =>
    isWhiteSpace first = false ∨ isWhiteSpace second = false

theorem IsWord.isSpaced {word : List Char} (solid : IsWord word) : IsSpaced word := by
  obtain ⟨_, noBlanks⟩ := solid
  constructor
  case front => exact fun c isHead => noBlanks c (List.mem_of_mem_head? isHead)
  case back => exact fun c isLast => noBlanks c (List.mem_of_getLast? isLast)
  case single =>
    apply List.Pairwise.isChain
    apply List.pairwise_of_forall_mem_list
    intro first listed second _
    exact .inl (noBlanks first listed)

/-- A blank between a word and a text that is not empty stands alone. -/
theorem IsSpaced.behind {word after : List Char} (solid : IsWord word) (some : after ≠ [])
    (spaced : IsSpaced after) : IsSpaced (word ++ ' ' :: after) := by
  have alone := solid.isSpaced
  constructor
  case front =>
    rw [List.head?_append_of_ne_nil word solid.1]
    exact alone.front
  case back =>
    rw [List.getLast?_append_of_ne_nil word (List.cons_ne_nil _ _), List.getLast?_cons_of_ne_nil some]
    exact spaced.back
  case single =>
    rw [List.isChain_append, List.isChain_cons]
    refine ⟨alone.single, ⟨?_, spaced.single⟩, ?_⟩
    · intro next isHead
      exact .inr (spaced.front next isHead)
    · intro last isLast _ _
      exact .inl (alone.back last isLast)

theorem isSpaced_intercalate {words : List (List Char)}
    (solid : ∀ word ∈ words, IsWord word) : IsSpaced ([' '].intercalate words) := by
  induction words with
  | nil => exact ⟨by simp, by simp, .nil⟩
  | cons word rest ih =>
      have first := solid word List.mem_cons_self
      have later := ih fun word listed => solid word (List.mem_cons_of_mem _ listed)
      cases rest with
      | nil =>
          rw [List.intercalate_singleton]
          exact first.isSpaced
      | cons next others =>
          have some : [' '].intercalate (next :: others) ≠ [] := by
            intro nothing
            have words := splitAtBlanks_intercalate
              fun word listed => solid word (List.mem_cons_of_mem _ listed)
            rw [nothing] at words
            cases words
          rw [List.intercalate_cons_cons, List.append_assoc, List.singleton_append]
          exact later.behind first some

end AtomicCss.Text
