import AtomicCss.Proofs.Alias.Scanner

/-!
# Values of several components

A reference is made of a dash, a dollar sign and the characters of an alias. Any other character
ends a reference before it and begins none, so the components of a value that such characters
separate are replaced one by one.
-/

set_option autoImplicit false

namespace AtomicCss.Alias

/-- A character that has no place in a reference. -/
structure Separates (c : Char) : Prop where
  notWord : Text.isWord c = false
  notDash : c ≠ '-'
  notDollar : c ≠ '$'

theorem separates_space : Separates ' ' :=
  ⟨by decide +kernel, by decide, by decide⟩

theorem separates_comma : Separates ',' :=
  ⟨by decide +kernel, by decide, by decide⟩

namespace Separates

variable {s : Char}

theorem isAliasChar (separates : Separates s) : isAliasChar s = false := by
  simp [Alias.isAliasChar, separates.notWord, separates.notDash]

theorem aliasAt_append (separates : Separates s) (text after : List Char) :
    aliasAt (text ++ s :: after) = aliasAt text := by
  induction text with
  | nil => simp [separates.isAliasChar, aliasAt]
  | cons c rest ih => simp [aliasAt_cons, ih]

/-- A separator has nothing before it to go on with and starts nothing itself. -/
theorem referenceAt?_separator (separates : Separates s) (after : List Char) :
    referenceAt? (s :: after) = none := by
  simp [Pattern.referenceAt?_of_ne separates.notDash, separates.notDollar]

theorem referenceAt?_append (separates : Separates s) (c : Char) (rest after : List Char) :
    referenceAt? (c :: rest ++ s :: after) = referenceAt? (c :: rest) := by
  by_cases isDash : c = '-'
  · subst isDash
    cases rest with
    | nil =>
        -- the dash stands before the separator, which is no dollar sign
        simp [Pattern.referenceAt?_dash, separates.notDollar]
    | cons d more =>
        by_cases isDollar : d = '$'
        · subst isDollar
          simp [Pattern.referenceAt?_dash, separates.aliasAt_append]
        · simp [Pattern.referenceAt?_dash, isDollar]
  · simp [Pattern.referenceAt?_of_ne isDash, separates.aliasAt_append]

end Separates

theorem aliasAt_length_le (text : List Char) : (aliasAt text).length ≤ text.length :=
  ((List.rdropWhile_prefix _ _).trans (List.takeWhile_prefix _)).length_le

/-- A reference does not go on beyond the text. -/
theorem referenceTail_le {c : Char} {rest key : List Char} {negated : Bool}
    (found : referenceAt? (c :: rest) = some (negated, key)) :
    referenceTail negated key ≤ rest.length := by
  rw [referenceAt?.eq_def] at found
  split at found
  · next same =>
      cases same
      split at found
      · cases found
      · cases found
        simpa [referenceTail] using aliasAt_length_le _
  · next same =>
      cases same
      split at found
      · cases found
      · cases found
        simpa [referenceTail] using aliasAt_length_le _
  · cases found

/-- What is found behind a separator does not depend on what is before it. -/
theorem piecesAfter_separator {s : Char} (separates : Separates s) (after before : List Char)
    {skip : Nat} (inside : skip ≤ before.length) :
    piecesAfter skip (before ++ s :: after) =
      piecesAfter skip before ++ .character s :: pieces after := by
  fun_induction piecesAfter skip before with
  | case1 skip =>
      obtain rfl : skip = 0 := by simpa using inside
      simp [piecesAfter, separates.referenceAt?_separator, pieces]
  | case2 skip c rest ih =>
      exact ih (by simpa using inside)
  | case3 c rest negated key found ih =>
      have foundToo := (separates.referenceAt?_append c rest after).trans found
      have later := ih (referenceTail_le found)
      rw [List.cons_append] at foundToo ⊢
      simp [piecesAfter, foundToo, later]
  | case4 c rest none ih =>
      have noneToo := (separates.referenceAt?_append c rest after).trans none
      have later := ih (Nat.zero_le _)
      rw [List.cons_append] at noneToo ⊢
      simp [piecesAfter, noneToo, later]

theorem substituteChars_separator {s : Char} (separates : Separates s) (tokens : Table String)
    (before after : List Char) :
    substituteChars tokens (before ++ s :: after) =
      substituteChars tokens before ++ s :: substituteChars tokens after := by
  have cut := piecesAfter_separator separates after before (Nat.zero_le _)
  simp only [substituteChars, pieces, cut, List.flatMap_append, List.flatMap_cons]
  rfl

theorem substitute_separator {s : Char} (separates : Separates s)
    (tokens : Option (Table String)) (before after : String) :
    substitute tokens (before ++ s.toString ++ after) =
      substitute tokens before ++ s.toString ++ substitute tokens after := by
  cases tokens with
  | none => rfl
  | some tokens =>
      have apart := substituteChars_separator separates tokens before.toList after.toList
      rw [← String.toList_inj]
      simpa [substitute] using apart

theorem substituteChars_of_no_dollar (tokens : Table String) {value : List Char}
    (noDollar : '$' ∉ value) : substituteChars tokens value = value := by
  induction value with
  | nil => rfl
  | cons c rest ih =>
      rw [List.mem_cons, not_or] at noDollar
      have noReference : referenceAt? (c :: rest) = none := by
        by_cases isDash : c = '-'
        · subst isDash
          cases rest with
          | nil => rfl
          | cons d more =>
              have notDollar : d ≠ '$' := fun same => noDollar.2 (same ▸ List.mem_cons_self)
              simp [Pattern.referenceAt?_dash, notDollar]
        · simp [Pattern.referenceAt?_of_ne isDash, Ne.symm noDollar.1]
      rw [substituteChars_of_none tokens noReference, ih noDollar.2]

/-- A value of components, each but the first with the character before it. -/
def spread (first : String) (others : List (Char × String)) : String :=
  others.foldl (fun text (separator, component) => text ++ separator.toString ++ component) first

theorem spread_cons (first : String) (s : Char) (component : String)
    (others : List (Char × String)) :
    spread first ((s, component) :: others) =
      spread (first ++ s.toString ++ component) others := rfl

theorem substitute_spread (tokens : Option (Table String)) (first : String)
    {others : List (Char × String)} (separate : ∀ other ∈ others, Separates other.1) :
    substitute tokens (spread first others) =
      spread (substitute tokens first)
        (others.map fun (s, component) => (s, substitute tokens component)) := by
  induction others generalizing first with
  | nil => rfl
  | cons other others ih =>
      obtain ⟨s, component⟩ := other
      obtain ⟨separates, separate⟩ := List.forall_mem_cons.mp separate
      rw [spread_cons, ih _ separate, substitute_separator separates]
      rfl

/-- The components of a value are replaced as each would be alone, whatever separates them, be it
a space, a comma or any other character that has no place in a reference. -/
theorem substitute_separated (tokens : Option (Table String)) :
    (∀ s, Separates s → ∀ before after : String,
      substitute tokens (before ++ s.toString ++ after) =
        substitute tokens before ++ s.toString ++ substitute tokens after) ∧
    (∀ (first : String) (others : List (Char × String)),
      (∀ other ∈ others, Separates other.1) →
        substitute tokens (spread first others) =
          spread (substitute tokens first)
            (others.map fun (s, component) => (s, substitute tokens component))) ∧
    Separates ' ' ∧ Separates ',' ∧
    ∀ value : String, '$' ∉ value.toList → substitute tokens value = value := by
  refine ⟨fun s separates => substitute_separator separates tokens,
    fun first others separate => substitute_spread tokens first separate,
    separates_space, separates_comma, ?_⟩
  intro value noDollar
  cases tokens with
  | none => rfl
  | some tokens => simp [substitute, substituteChars_of_no_dollar tokens noDollar]

/-- Only one side of a comma has a reference, and the space behind it ends another. -/
theorem substitute_separated_lengths :
    let tokens := some (Table.ofList [("1x", "4px"), ("a-b", "$1x")])
    Separates ',' ∧ '$' ∉ "1px".toList ∧
      substitute tokens ("1px" ++ ','.toString ++ "-$a-b-") = "1px,calc($1x * -1)-" ∧
      substitute tokens (spread "-$1x" [(' ', "$9x"), (',', ""), (' ', "$a-b")]) =
        "calc(4px * -1) $9x, $1x" := by
  intro tokens
  obtain ⟨one, all, space, comma, plain⟩ := substitute_separated tokens
  have separate : ∀ other ∈ [(' ', "$9x"), (',', ""), (' ', "$a-b")], Separates other.1 := by
    simp [space, comma]
  refine ⟨comma, by decide, ?_, ?_⟩
  · rw [one ',' comma, plain "1px" (by decide)]
    decide +kernel
  · rw [all "-$1x" _ separate]
    decide +kernel

end AtomicCss.Alias
