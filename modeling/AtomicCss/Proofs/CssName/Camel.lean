import AtomicCss.CssName
import AtomicCss.Proofs.Text.Camel

/-!
# Property names from words

A property whose script spelling runs small words together has those words for its CSS name, joined
by dashes. A vendor mark is a mark only before a capital, so a small word opens with one only if it
is the mark `ms` itself and another word follows.
-/

set_option autoImplicit false

namespace AtomicCss.CssName

open Text (IsSmall Legible camel capitalized of_isLower)

theorem isUpper_small {c : Char} (small : c.isLower = true) : c.isUpper = false :=
  of_isLower (P := fun c => c.isUpper = false) (by decide) small

theorem isUpper_toUpper {c : Char} (small : c.isLower = true) : c.toUpper.isUpper = true :=
  of_isLower (P := fun c => c.toUpper.isUpper = true) (by decide) small

/-! ## Names with and without capitals -/

theorem ofChars_of_dash {name : List Char} (dashed : '-' ∈ name) : ofChars name = name := by
  simp [ofChars, dashed]

theorem ofChars_of_small {name : List Char} (small : ∀ c ∈ name, c.isLower = true) :
    ofChars name = name := by
  have noCapital : name.any Char.isUpper = false := by
    simpa using fun c listed => isUpper_small (small c listed)
  simp [ofChars, noCapital]

/-- A name of letters. -/
def IsLetters (name : List Char) : Prop := ∀ c ∈ name, c.isAlpha = true

theorem IsLetters.no_dash {name : List Char} (letters : IsLetters name) : '-' ∉ name := by
  intro dashed
  have isLetter := letters '-' dashed
  revert isLetter
  decide

theorem isLetters_small {word : List Char} (small : IsSmall word) : IsLetters word :=
  fun c listed => Text.isAlpha_of_isLower (small.chars c listed)

theorem isLetters_capitals {words : List (List Char)} (small : ∀ word ∈ words, IsSmall word) :
    IsLetters (words.flatMap capitalized) := by
  refine Text.forall_capitals (fun c => Text.isAlpha_of_isLower) (fun c isSmall => ?_) small
  exact Bool.or_eq_true_iff.mpr (.inl (isUpper_toUpper isSmall))

/-- Words with a capital each begin with one. -/
theorem isUpper_capitals {words : List (List Char)} (some : words ≠ [])
    (small : ∀ word ∈ words, IsSmall word) :
    (words.flatMap capitalized).head?.any Char.isUpper = true := by
  obtain ⟨word, rest, rfl⟩ := List.exists_cons_of_ne_nil some
  obtain ⟨wordSome, chars⟩ := small word List.mem_cons_self
  obtain ⟨first, letters, rfl⟩ := List.exists_cons_of_ne_nil wordSome
  simpa [capitalized] using isUpper_toUpper (chars first List.mem_cons_self)

theorem any_isUpper (before : List Char) {capitals : List Char}
    (capital : capitals.head?.any Char.isUpper = true) :
    (before ++ capitals).any Char.isUpper = true := by
  cases capitals with
  | nil => cases capital
  | cons first rest => simp_all

theorem ofChars_of_capital {name : List Char} (letters : IsLetters name)
    (capital : name.any Char.isUpper = true) :
    ofChars name =
      match vendors.findSome? fun vendor => (afterVendor? vendor name).map (vendor, ·) with
      | some (vendor, rest) =>
          '-' :: vendor.map Char.toLower ++ '-' :: Text.kebabCase rest
      | none => Text.kebabCase name := by
  have unsettled : ¬ (name.contains '-' || !name.any Char.isUpper) = true := by
    simp [letters.no_dash, capital]
  exact if_neg unsettled

/-! ## Vendor marks -/

theorem afterVendor?_of_ne {mark c : Char} (different : mark ≠ c) (vendor rest : List Char) :
    afterVendor? (mark :: vendor) (c :: rest) = none := by
  simp [afterVendor?, different]

/-- The small mark is the first word or none at all. -/
theorem afterVendor?_ms {first : List Char} {others : List (List Char)}
    (firstSmall : IsSmall first) (small : ∀ word ∈ others, IsSmall word)
    (noMark : ¬ (first = ['m', 's'] ∧ others ≠ [])) :
    afterVendor? ['m', 's'] (camel first others) = none := by
  obtain ⟨some, chars⟩ := firstSmall
  match first with
  | [] => exact absurd rfl some
  | [c] =>
      -- what follows is a capital or nothing, and so is not the second letter of the mark
      cases others with
      | nil => simp [afterVendor?, camel]
      | cons word rest =>
          obtain ⟨wordSome, wordChars⟩ := small word List.mem_cons_self
          obtain ⟨d, letters, rfl⟩ := List.exists_cons_of_ne_nil wordSome
          have different : 's' ≠ d.toUpper :=
            of_isLower (P := fun d => 's' ≠ d.toUpper) (by decide) (wordChars d List.mem_cons_self)
          simp [afterVendor?, camel, capitalized, different]
  | [c, d] =>
      by_cases isMark : [c, d] = ['m', 's']
      · have alone : others = [] := by
          by_contra goesOn
          exact noMark ⟨isMark, goesOn⟩
        simp [afterVendor?, camel, alone]
      · have different : ¬ ('m' = c ∧ 's' = d) := by
          rintro ⟨rfl, rfl⟩
          exact isMark rfl
        simp [afterVendor?, camel, different]
  | c :: d :: e :: rest =>
      have notCapital := isUpper_small (chars e (by simp))
      simp [afterVendor?, camel, notCapital]

theorem isLetters_vendor {vendor : List Char} (isVendor : vendor ∈ vendors) :
    IsLetters vendor := by
  have each : ∀ vendor ∈ vendors, vendor.all Char.isAlpha = true := by decide
  exact List.all_eq_true.mp (each vendor isVendor)

/-- No mark is found in front of small words. -/
theorem findSome?_camel {first : List Char} {others : List (List Char)}
    (firstSmall : IsSmall first) (small : ∀ word ∈ others, IsSmall word)
    (noMark : ¬ (first = ['m', 's'] ∧ others ≠ [])) :
    (vendors.findSome? fun vendor =>
      (afterVendor? vendor (camel first others)).map (vendor, ·)) = none := by
  have byMs := afterVendor?_ms firstSmall small noMark
  obtain ⟨c, rest, rfl⟩ := List.exists_cons_of_ne_nil firstSmall.ne_nil
  have isSmall := firstSmall.chars c List.mem_cons_self
  have byCapital : ∀ mark : Char, mark.isLower = false → ∀ vendor,
      afterVendor? (mark :: vendor) (camel (c :: rest) others) = none := by
    intro mark capital vendor
    refine afterVendor?_of_ne ?_ vendor _
    rintro rfl
    cases capital.symm.trans isSmall
  have decided : 'W'.isLower = false ∧ 'M'.isLower = false ∧ 'O'.isLower = false := by decide
  simp [vendors, byMs, byCapital, decided]

/-- A mark before a capital is found, and no other mark before it. -/
theorem findSome?_vendor {vendor rest : List Char} (isVendor : vendor ∈ vendors)
    (capital : rest.head?.any Char.isUpper = true) :
    (vendors.findSome? fun mark =>
      (afterVendor? mark (vendor ++ rest)).map (mark, ·)) = some (vendor, rest) := by
  simp only [vendors, List.mem_cons, List.not_mem_nil, or_false] at isVendor
  rcases isVendor with rfl | rfl | rfl | rfl | rfl
  all_goals simp [vendors, afterVendor?, ← List.head?_eq_getElem?, capital]

/-! ## Names from words -/

theorem ofChars_camel {first : List Char} {others : List (List Char)}
    (firstSmall : IsSmall first) (small : ∀ word ∈ others, IsSmall word)
    (legible : Legible others) (noMark : ¬ (first = ['m', 's'] ∧ others ≠ [])) :
    ofChars (camel first others) = ['-'].intercalate (first :: others) := by
  by_cases alone : others = []
  · subst alone
    have same : camel first [] = first := List.append_nil first
    rw [same, ofChars_of_small firstSmall.chars, List.intercalate_singleton]
  · have letters : IsLetters (camel first others) := by
      intro c listed
      rcases List.mem_append.mp listed with inFirst | later
      · exact isLetters_small firstSmall c inFirst
      · exact isLetters_capitals small c later
    have capital := any_isUpper first (isUpper_capitals alone small)
    rw [ofChars_of_capital letters capital, findSome?_camel firstSmall small noMark]
    exact Text.kebabCase_camel firstSmall small legible

theorem ofChars_vendor {vendor : List Char} (isVendor : vendor ∈ vendors)
    {words : List (List Char)} (some : words ≠ []) (small : ∀ word ∈ words, IsSmall word)
    (legible : Legible words) :
    ofChars (vendor ++ words.flatMap capitalized) =
      '-' :: vendor.map Char.toLower ++ '-' :: ['-'].intercalate words := by
  have opens := isUpper_capitals some small
  have letters : IsLetters (vendor ++ words.flatMap capitalized) := by
    intro c listed
    rcases List.mem_append.mp listed with inVendor | later
    · exact isLetters_vendor isVendor c inVendor
    · exact isLetters_capitals small c later
  rw [ofChars_of_capital letters (any_isUpper _ opens), findSome?_vendor isVendor opens]
  simp only [Text.kebabCase_capitals some small legible]

/-- Small words that are run together by their capitals are found again and joined by dashes, behind
the mark of a vendor as well. No two of them in a row may have one letter each, the first one aside
where no mark comes before it; and `ms` with a word behind it is a mark. A name with a dash is a
property name already. -/
theorem ofName_camel :
    (∀ (first : List Char) (others : List (List Char)),
      (∀ word ∈ first :: others, IsSmall word) → Legible others →
      ¬ (first = ['m', 's'] ∧ others ≠ []) →
        ofName (String.ofList (camel first others)) =
          String.ofList (['-'].intercalate (first :: others))) ∧
    (∀ vendor ∈ ["Webkit", "Moz", "ms", "Ms", "O"], ∀ words : List (List Char), words ≠ [] →
      (∀ word ∈ words, IsSmall word) → Legible words →
        ofName (vendor ++ String.ofList (words.flatMap capitalized)) =
          "-" ++ vendor.map Char.toLower ++ "-" ++ String.ofList (['-'].intercalate words)) ∧
    ∀ name : String, '-' ∈ name.toList → ofName name = name := by
  refine ⟨?_, ?_, ?_⟩
  · intro first others small legible noMark
    obtain ⟨firstSmall, small⟩ := List.forall_mem_cons.mp small
    rw [ofName, String.toList_ofList, ofChars_camel firstSmall small legible noMark]
  · intro vendor isVendor words some small legible
    have listed : vendor.toList ∈ vendors := by
      have each : ∀ vendor ∈ ["Webkit", "Moz", "ms", "Ms", "O"], vendor.toList ∈ vendors := by
        decide
      exact each vendor isVendor
    rw [ofName, String.toList_append, String.toList_ofList,
      ofChars_vendor listed some small legible, ← String.toList_inj]
    simp
  · intro name dashed
    rw [ofName, ofChars_of_dash dashed, String.ofList_toList]

/-- Words of one letter beside longer ones, with the shortest mark before them and without. -/
theorem ofName_camel_single :
    let others : List (List Char) := [['s'], ['b', 'o', 'x'], ['x']]
    (∀ word ∈ ['m'] :: others, IsSmall word) ∧ Legible others ∧
      ofName "mSBoxX" = "m-s-box-x" ∧ ofName "OSBoxX" = "-o-s-box-x" ∧
      ofName "--brandColor" = "--brandColor" := by
  intro others
  have small : ∀ word ∈ ['m'] :: others, IsSmall word := by decide
  have legible : Legible others := by decide
  obtain ⟨fromWords, fromVendor, unchanged⟩ := ofName_camel
  have plain := fromWords ['m'] others small legible (by decide)
  have marked := fromVendor "O" (by decide) others (by decide)
    (List.forall_mem_cons.mp small).2 legible
  have lowered : "O".map Char.toLower = "o" := by
    rw [← String.toList_inj, String.toList_map]
    rfl
  rw [lowered] at marked
  exact ⟨small, legible, plain, marked, unchanged "--brandColor" (by decide)⟩

example : ofName "gridAB" = "grid-ab" := by decide +kernel

end AtomicCss.CssName
