import AtomicCss.Text.Kebab
import Mathlib.Data.List.Chain

/-!
# Words in camel case

Words of small letters are run together with a capital at the start of each. A capital behind a
small letter begins a word, and so does the last capital of a row with a small letter behind it.
So the words are found again unless two of one letter follow each other: these come out as one.
-/

set_option autoImplicit false

namespace AtomicCss.Text

/-- A word of small letters. -/
structure IsSmall (word : List Char) : Prop where
  ne_nil : word ≠ []
  chars : ∀ c ∈ word, c.isLower = true

instance (word : List Char) : Decidable (IsSmall word) :=
  decidable_of_iff (word ≠ [] ∧ word.all Char.isLower = true)
    ⟨fun both => ⟨both.1, List.all_eq_true.mp both.2⟩,
      fun small => ⟨small.ne_nil, List.all_eq_true.mpr small.chars⟩⟩

def capitalized : List Char → List Char
  | [] => []
  | first :: rest => first.toUpper :: rest

/-- No two words in a row have one letter each. -/
def Legible (words : List (List Char)) : Prop :=
  words.IsChain fun word next => ¬ (word.length = 1 ∧ next.length = 1)

instance (words : List (List Char)) : Decidable (Legible words) :=
  inferInstanceAs (Decidable (words.IsChain _))

/-! ## Letters -/

/-- What holds of the twenty-six small letters. -/
theorem of_isLower {P : Char → Prop} (each : ∀ place < 26, P (Char.ofNat (97 + place))) {c : Char}
    (small : c.isLower = true) : P c := by
  have bounds : 97 ≤ c.toNat ∧ c.toNat ≤ 122 := by
    obtain ⟨low, high⟩ := Bool.and_eq_true_iff.mp small
    exact ⟨UInt32.le_iff_toNat_le.mp (of_decide_eq_true low),
      UInt32.le_iff_toNat_le.mp (of_decide_eq_true high)⟩
  have isLetter := each (c.toNat - 97) (by omega)
  rwa [Nat.add_sub_cancel' bounds.1, Char.ofNat_toNat] at isLetter

theorem isAlpha_of_isLower {c : Char} (small : c.isLower = true) : c.isAlpha = true :=
  Bool.or_eq_true_iff.mpr (.inr small)

theorem isLower_small {c : Char} (small : c.isLower = true) : isLower c = true := by
  simp [isLower, small]

theorem isUpper_small {c : Char} (small : c.isLower = true) : isUpper c = false :=
  of_isLower (P := fun c => isUpper c = false) (by decide +kernel) small

theorem isUpper_toUpper {c : Char} (small : c.isLower = true) : isUpper c.toUpper = true :=
  of_isLower (P := fun c => isUpper c.toUpper = true) (by decide +kernel) small

theorem isLower_toUpper {c : Char} (small : c.isLower = true) : isLower c.toUpper = false :=
  of_isLower (P := fun c => isLower c.toUpper = false) (by decide +kernel) small

theorem lowercase_small {c : Char} (small : c.isLower = true) : lowercase c = [c] :=
  of_isLower (P := fun c => lowercase c = [c]) (by decide +kernel) small

theorem lowercase_toUpper {c : Char} (small : c.isLower = true) : lowercase c.toUpper = [c] :=
  of_isLower (P := fun c => lowercase c.toUpper = [c]) (by decide +kernel) small

theorem isAlphanumeric_small {c : Char} (small : c.isLower = true) : isAlphanumeric c = true := by
  simp [isAlphanumeric, Char.isAlphanum, isAlpha_of_isLower small]

theorem isAlphanumeric_toUpper {c : Char} (small : c.isLower = true) :
    isAlphanumeric c.toUpper = true :=
  of_isLower (P := fun c => isAlphanumeric c.toUpper = true) (by decide +kernel) small

/-! ## Words cut at their capitals -/

/-- A text that is at its end or goes on with a capital. -/
def OpensWord (text : List Char) : Prop := ∀ c ∈ text.head?, isUpper c = true

/-- What is left to cut behind a word. -/
def cutBehind (text : List Char) : List (List Char) :=
  if text = [] then [] else cutAtCase [] .unknown text

/-- The small letters of a word are taken up to the next capital, whatever came before them. -/
theorem cutAtCase_small {letters behind : List Char} (small : IsSmall letters)
    (opens : OpensWord behind) (word : List Char) (shown : WordCase) :
    cutAtCase word shown (letters ++ behind) = (word.reverse ++ letters) :: cutBehind behind := by
  obtain ⟨some, chars⟩ := small
  induction letters generalizing word shown with
  | nil => exact absurd rfl some
  | cons c rest ih =>
      obtain ⟨isSmall, chars⟩ := List.forall_mem_cons.mp chars
      have lower := isLower_small isSmall
      have notUpper := isUpper_small isSmall
      cases rest with
      | nil =>
          cases behind with
          | nil => simp [cutAtCase, cutBehind]
          | cons next others =>
              have isCapital := opens next rfl
              simp [cutAtCase, cutBehind, WordCase.after, lower, isCapital]
      | cons d others =>
          have nextSmall := isUpper_small (chars d List.mem_cons_self)
          have later := ih (c :: word) .lower (List.cons_ne_nil _ _) chars
          rw [List.cons_append] at later ⊢
          simp only [List.cons_append, cutAtCase, WordCase.after, lower, notUpper, nextSmall]
          simpa using later

/-- A capital at the start of a word stays with the small letters behind it. -/
theorem cutAtCase_capital {first : Char} (isSmall : first.isLower = true)
    {letters behind : List Char} (small : IsSmall letters) (opens : OpensWord behind) :
    cutAtCase [] .unknown (first.toUpper :: letters ++ behind) =
      (first.toUpper :: letters) :: cutBehind behind := by
  have rest := cutAtCase_small small opens [first.toUpper] .upper
  cases letters with
  | nil => exact absurd rfl small.ne_nil
  | cons c others =>
      simp only [List.cons_append, cutAtCase, WordCase.after, isLower_toUpper isSmall,
        isUpper_toUpper isSmall] at rest ⊢
      simpa using rest

/-- A capital alone is a word if the next capital has small letters behind it. -/
theorem cutAtCase_single {single first : Char} (singleSmall : single.isLower = true)
    (isSmall : first.isLower = true) {letters behind : List Char} (small : IsSmall letters)
    (opens : OpensWord behind) :
    cutAtCase [] .unknown (single.toUpper :: first.toUpper :: letters ++ behind) =
      [single.toUpper] :: (first.toUpper :: letters) :: cutBehind behind := by
  have rest := cutAtCase_small small opens [first.toUpper] .unknown
  cases letters with
  | nil => exact absurd rfl small.ne_nil
  | cons c others =>
      have nextLower := isLower_small (small.chars c List.mem_cons_self)
      simp only [List.cons_append, cutAtCase, WordCase.after, isLower_toUpper singleSmall,
        isUpper_toUpper singleSmall, isLower_toUpper isSmall, isUpper_toUpper isSmall,
        nextLower] at rest ⊢
      simpa using rest

theorem opensWord_capitals {words : List (List Char)} (small : ∀ word ∈ words, IsSmall word) :
    OpensWord (words.flatMap capitalized) := by
  intro c isFirst
  cases words with
  | nil => cases isFirst
  | cons word rest =>
      obtain ⟨some, chars⟩ := small word List.mem_cons_self
      cases word with
      | nil => exact absurd rfl some
      | cons first letters =>
          cases isFirst
          exact isUpper_toUpper (chars first List.mem_cons_self)

theorem cutBehind_capitals {words : List (List Char)} (small : ∀ word ∈ words, IsSmall word)
    (legible : Legible words) :
    cutBehind (words.flatMap capitalized) = words.map capitalized := by
  induction words with
  | nil => rfl
  | cons word rest ih =>
      obtain ⟨wordSmall, restSmall⟩ := List.forall_mem_cons.mp small
      have later := ih restSmall legible.tail
      obtain ⟨first, letters, rfl⟩ := List.exists_cons_of_ne_nil wordSmall.ne_nil
      obtain ⟨isSmall, chars⟩ := List.forall_mem_cons.mp wordSmall.chars
      by_cases single : letters = []
      · subst single
        cases rest with
        | nil => simp [cutBehind, capitalized, cutAtCase]
        | cons next others =>
            obtain ⟨nextSmall, othersSmall⟩ := List.forall_mem_cons.mp restSmall
            obtain ⟨second, more, rfl⟩ := List.exists_cons_of_ne_nil nextSmall.ne_nil
            obtain ⟨secondSmall, moreChars⟩ := List.forall_mem_cons.mp nextSmall.chars
            have apart := (List.isChain_cons_cons.mp legible).1
            have moreSmall : IsSmall more := ⟨by rintro rfl; simp at apart, moreChars⟩
            have opens := opensWord_capitals othersSmall
            -- cutting behind the single capital is cutting from the second one on
            have behind := cutAtCase_capital secondSmall moreSmall opens
            have rests : cutAtCase [] .unknown
                (second.toUpper :: more ++ others.flatMap capitalized) =
                  (second.toUpper :: more) :: others.map capitalized := by
              simpa [cutBehind, capitalized] using later
            have whole := cutAtCase_single isSmall secondSmall moreSmall opens
            rw [← behind, rests] at whole
            simpa [cutBehind, capitalized] using whole
      · have opens := opensWord_capitals restSmall
        have whole := cutAtCase_capital isSmall ⟨single, chars⟩ opens
        rw [later] at whole
        simpa [cutBehind, capitalized] using whole

/-! ## Kebab case -/

/-- Words in camel case, the first one small. -/
def camel (first : List Char) (others : List (List Char)) : List Char :=
  first ++ others.flatMap capitalized

theorem alphanumericRuns_self {name : List Char} (solid : ∀ c ∈ name, isAlphanumeric c = true)
    (run : List Char) : alphanumericRuns run name = [run.reverse ++ name] := by
  induction name generalizing run with
  | nil => simp [alphanumericRuns]
  | cons c rest ih =>
      obtain ⟨first, solid⟩ := List.forall_mem_cons.mp solid
      simp [alphanumericRuns, first, ih solid]

theorem kebabCase_of_cut {name : List Char} (solid : ∀ c ∈ name, isAlphanumeric c = true)
    {words : List (List Char)} (cut : cutAtCase [] .unknown name = words)
    (some : ∀ word ∈ words, word ≠ []) :
    kebabCase name = ['-'].intercalate (words.map lowercaseWord) := by
  have kept : words.filter (!·.isEmpty) = words := by simpa using some
  simp [kebabCase, nameWords, alphanumericRuns_self solid, cut, kept]

theorem lowercaseWord_cons {c : Char} (notSigma : c ≠ 'Σ') (rest : List Char) :
    lowercaseWord (c :: rest) = lowercase c ++ lowercaseWord rest := by
  cases rest <;> simp [lowercaseWord, notSigma]

theorem lowercaseWord_small {word : List Char} (chars : ∀ c ∈ word, c.isLower = true) :
    lowercaseWord word = word := by
  induction word with
  | nil => rfl
  | cons c rest ih =>
      obtain ⟨small, chars⟩ := List.forall_mem_cons.mp chars
      have notSigma := of_isLower (P := (· ≠ 'Σ')) (by decide) small
      simp [lowercaseWord_cons notSigma, lowercase_small small, ih chars]

theorem lowercaseWord_capitalized {word : List Char} (small : IsSmall word) :
    lowercaseWord (capitalized word) = word := by
  obtain ⟨some, chars⟩ := small
  cases word with
  | nil => exact absurd rfl some
  | cons c rest =>
      obtain ⟨small, chars⟩ := List.forall_mem_cons.mp chars
      have notSigma := of_isLower (P := (·.toUpper ≠ 'Σ')) (by decide) small
      simp [capitalized, lowercaseWord_cons notSigma, lowercase_toUpper small,
        lowercaseWord_small chars]

theorem capitalized_ne_nil {word : List Char} (small : IsSmall word) : capitalized word ≠ [] := by
  cases word with
  | nil => exact absurd rfl small.ne_nil
  | cons first rest => exact List.cons_ne_nil _ _

theorem forall_capitals {P : Char → Prop} {words : List (List Char)}
    (atSmall : ∀ c : Char, c.isLower = true → P c)
    (atCapital : ∀ c : Char, c.isLower = true → P c.toUpper)
    (small : ∀ word ∈ words, IsSmall word) : ∀ c ∈ words.flatMap capitalized, P c := by
  intro c listed
  obtain ⟨word, isWord, inWord⟩ := List.mem_flatMap.mp listed
  have chars := (small word isWord).chars
  cases word with
  | nil => cases inWord
  | cons first rest =>
      obtain ⟨firstSmall, chars⟩ := List.forall_mem_cons.mp chars
      rcases List.mem_cons.mp inWord with rfl | later
      · exact atCapital first firstSmall
      · exact atSmall c (chars c later)

theorem isAlphanumeric_capitals {words : List (List Char)} (small : ∀ word ∈ words, IsSmall word) :
    ∀ c ∈ words.flatMap capitalized, isAlphanumeric c = true :=
  forall_capitals (fun _ => isAlphanumeric_small) (fun _ => isAlphanumeric_toUpper) small

theorem map_lowercaseWord_capitalized {words : List (List Char)}
    (small : ∀ word ∈ words, IsSmall word) :
    (words.map capitalized).map lowercaseWord = words := by
  rw [List.map_map]
  conv_rhs => rw [← List.map_id words]
  exact List.map_congr_left fun word isWord => lowercaseWord_capitalized (small word isWord)

/-- The capitals are what the words were made of, and nothing else is to be seen of them. -/
theorem kebabCase_capitals {words : List (List Char)} (some : words ≠ [])
    (small : ∀ word ∈ words, IsSmall word) (legible : Legible words) :
    kebabCase (words.flatMap capitalized) = ['-'].intercalate words := by
  have cut := cutBehind_capitals small legible
  have goesOn : words.flatMap capitalized ≠ [] := by
    intro nothing
    rw [nothing] at cut
    exact some (List.map_eq_nil_iff.mp cut.symm)
  rw [cutBehind, if_neg goesOn] at cut
  rw [kebabCase_of_cut (isAlphanumeric_capitals small) cut, map_lowercaseWord_capitalized small]
  simpa using fun word isWord => capitalized_ne_nil (small word isWord)

theorem kebabCase_camel {first : List Char} {others : List (List Char)}
    (firstSmall : IsSmall first) (small : ∀ word ∈ others, IsSmall word)
    (legible : Legible others) :
    kebabCase (camel first others) = ['-'].intercalate (first :: others) := by
  have solid : ∀ c ∈ camel first others, isAlphanumeric c = true := by
    intro c listed
    rcases List.mem_append.mp listed with inFirst | later
    · exact isAlphanumeric_small (firstSmall.chars c inFirst)
    · exact isAlphanumeric_capitals small c later
  have cut := cutAtCase_small firstSmall (opensWord_capitals small) [] .unknown
  rw [cutBehind_capitals small legible] at cut
  rw [kebabCase_of_cut solid cut, List.map_cons, map_lowercaseWord_capitalized small]
  · rw [List.reverse_nil, List.nil_append, lowercaseWord_small firstSmall.chars]
  · simpa [firstSmall.ne_nil] using fun word isWord => capitalized_ne_nil (small word isWord)

end AtomicCss.Text
