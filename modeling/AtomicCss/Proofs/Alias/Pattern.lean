import AtomicCss.Proofs.Resolution.References

/-!
# References as matches of a pattern

References can also be found by matching a pattern: an optional dash, a dollar sign, as many
alias characters as there are, and a word character. A matcher tries all ways to match in a fixed
order, more characters before fewer, and takes the first one. What the dash and the alias
characters take too much, later parts of the pattern make it give back, so that the pattern
matches just the references of a value.
-/

set_option autoImplicit false

namespace AtomicCss.Alias

inductive Pattern where
  | one (test : Char → Bool)
  | optional (inner : Pattern)
  | many (test : Char → Bool)
  | both (first second : Pattern)

/-- The way to take one character from the front of a text, with the text that is left. -/
def oneWay (test : Char → Bool) : List Char → List (List Char × List Char)
  | [] => []
  | c :: rest => if test c then [([c], rest)] else []

/-- The ways to take any number of characters, most of them first. -/
def manyWays (test : Char → Bool) : List Char → List (List Char × List Char)
  | [] => [([], [])]
  | c :: rest =>
      if test c then
        (manyWays test rest).map (fun (taken, after) => (c :: taken, after)) ++ [([], c :: rest)]
      else [([], c :: rest)]

namespace Pattern

/-- The ways to match a pattern at the front of a text, in the order in which they are tried. -/
def ways : Pattern → List Char → List (List Char × List Char)
  | one test, text => oneWay test text
  | optional inner, text => inner.ways text ++ [([], text)]
  | many test, text => manyWays test text
  | both first second, text =>
      (first.ways text).flatMap fun (taken, after) =>
        (second.ways after).map fun (more, behind) => (taken ++ more, behind)

def first? (pattern : Pattern) (text : List Char) : Option (List Char × List Char) :=
  (pattern.ways text).head?

/-- Replaces the matches of a pattern from left to right. The number counts the characters that
belong to the match found last. -/
def replaceAfter (pattern : Pattern) (replace : List Char → List Char) :
    Nat → List Char → List Char
  | _, [] => []
  | skip + 1, _ :: rest => pattern.replaceAfter replace skip rest
  | 0, c :: rest =>
      match pattern.first? (c :: rest) with
      | some (taken, _) => replace taken ++ pattern.replaceAfter replace (taken.length - 1) rest
      | none => c :: pattern.replaceAfter replace 0 rest

def replaceAll (pattern : Pattern) (replace : List Char → List Char) (text : List Char) :
    List Char :=
  pattern.replaceAfter replace 0 text

def key : Pattern := .both (.many isAliasChar) (.one Text.isWord)

/-- The pattern of references. -/
def reference : Pattern := .both (.optional (.one (· == '-'))) (.both (.one (· == '$')) key)

end Pattern

/-- The replacement of a match: the dash and the dollar sign tell what kind of reference it is. -/
def replaced (tokens : Table String) : List Char → List Char
  | '-' :: '$' :: key => (Piece.reference true key).substituted tokens
  | '$' :: key => (Piece.reference false key).substituted tokens
  | other => other

theorem isAliasChar_of_isWord {c : Char} (isWord : Text.isWord c = true) :
    isAliasChar c = true := by
  rw [isAliasChar, isWord, Bool.true_or]

/-- An alias goes on as long as a word character is to come. -/
theorem aliasAt_cons (c : Char) (rest : List Char) :
    aliasAt (c :: rest) =
      if isAliasChar c then
        if aliasAt rest = [] then (if Text.isWord c then [c] else []) else c :: aliasAt rest
      else [] := by
  rw [aliasAt, aliasAt, List.takeWhile_cons]
  split
  · simp only [List.reverse_cons, List.dropWhile_append, List.reverse_eq_nil_iff,
      List.isEmpty_iff]
    split
    · cases word : Text.isWord c <;> simp [List.dropWhile, word]
    · simp
  · rfl

/-- An alias takes its first character, which is a word character where nothing follows it. -/
theorem aliasAt_cons_of_ne_nil {c : Char} {rest : List Char} (starts : aliasAt (c :: rest) ≠ []) :
    aliasAt (c :: rest) = c :: aliasAt rest ∧ isAliasChar c = true ∧
      (aliasAt rest = [] → Text.isWord c = true) := by
  rw [aliasAt_cons] at starts ⊢
  split at starts
  · next isChar =>
      rw [if_pos isChar]
      split at starts
      · next nothing =>
          rw [if_pos nothing, nothing]
          split at starts
          · next isWord => exact ⟨if_pos isWord, isChar, fun _ => isWord⟩
          · exact absurd rfl starts
      · next goesOn => exact ⟨if_neg goesOn, isChar, fun nothing => absurd nothing goesOn⟩
  · exact absurd rfl starts

namespace Pattern

theorem ways_key (text : List Char) :
    key.ways text =
      (manyWays isAliasChar text).flatMap fun (taken, after) =>
        (oneWay Text.isWord after).map fun (more, behind) => (taken ++ more, behind) := rfl

theorem ways_key_cons (c : Char) (rest : List Char) :
    key.ways (c :: rest) =
      if isAliasChar c then
        (key.ways rest).map (fun (taken, after) => (c :: taken, after)) ++
          oneWay Text.isWord (c :: rest)
      else [] := by
  rw [ways_key, ways_key, manyWays]
  split
  · rw [List.flatMap_append, List.flatMap_map, List.map_flatMap, List.flatMap_singleton]
    congr 1
    · refine List.flatMap_congr fun way _ => ?_
      rw [List.map_map]
      rfl
    · exact List.map_id _
  · next notAlias =>
      have notWord : Text.isWord c = false := by
        rw [← Bool.not_eq_true]
        exact mt isAliasChar_of_isWord notAlias
      simp [oneWay, notWord]

/-- The first way to match a key is to take the whole alias. -/
theorem first?_key (text : List Char) :
    (key.first? text).map Prod.fst = if aliasAt text = [] then none else some (aliasAt text) := by
  induction text with
  | nil => rfl
  | cons c rest ih =>
      rw [first?, ways_key_cons, aliasAt_cons]
      split
      · rw [first?] at ih
        rw [List.head?_append, List.head?_map]
        cases found : (key.ways rest).head? with
        | none =>
            have ends : aliasAt rest = [] := by simpa [found] using ih
            cases word : Text.isWord c <;> simp [ends, word, oneWay]
        | some way =>
            have goesOn : aliasAt rest ≠ [] ∧ way.1 = aliasAt rest := by
              split at ih
              · rw [found] at ih
                cases ih
              · next some =>
                  rw [found] at ih
                  exact ⟨some, Option.some.inj ih⟩
            simp [goesOn]
      · rfl

/-- The ways to match behind a dash that need not be there. -/
def behindDash : Pattern := .both (.one (· == '$')) key

theorem ways_behindDash (text : List Char) :
    behindDash.ways text =
      match text with
      | '$' :: rest => (key.ways rest).map fun (taken, after) => ('$' :: taken, after)
      | _ => [] := by
  split
  · next rest => exact List.flatMap_singleton _ _
  · next other =>
      cases text with
      | nil => rfl
      | cons c rest =>
          have notDollar : c ≠ '$' := fun same => other rest (same ▸ rfl)
          simp [behindDash, ways, oneWay, notDollar]

theorem ways_reference (text : List Char) :
    reference.ways text =
      ((oneWay (· == '-') text) ++ [([], text)]).flatMap fun (taken, after) =>
        (behindDash.ways after).map fun (more, behind) => (taken ++ more, behind) := rfl

theorem ways_reference_dash (rest : List Char) :
    reference.ways ('-' :: rest) =
      (behindDash.ways rest).map fun (taken, after) => ('-' :: taken, after) := by
  have noPlain : behindDash.ways ('-' :: rest) = [] := rfl
  rw [ways_reference, List.flatMap_append, List.flatMap_singleton]
  dsimp only
  rw [noPlain, List.map_nil, List.append_nil]
  exact List.flatMap_singleton _ _

theorem ways_reference_of_ne {c : Char} (notDash : c ≠ '-') (rest : List Char) :
    reference.ways (c :: rest) = behindDash.ways (c :: rest) := by
  have noDash : oneWay (· == '-') (c :: rest) = [] := by simp [oneWay, notDash]
  rw [ways_reference, noDash, List.nil_append, List.flatMap_singleton]
  exact List.map_id _

/-- What is taken first where one character comes before. -/
theorem map_fst_head?_cons (c : Char) (found : List (List Char × List Char)) :
    (found.map fun (taken, after) => (c :: taken, after)).head?.map Prod.fst =
      (found.head?.map Prod.fst).map (c :: ·) := by
  cases found <;> rfl

theorem first?_behindDash (text : List Char) :
    (behindDash.first? text).map Prod.fst =
      match text with
      | '$' :: rest => if aliasAt rest = [] then none else some ('$' :: aliasAt rest)
      | _ => none := by
  rw [first?, ways_behindDash]
  split
  · next rest =>
      have found := first?_key rest
      rw [first?] at found
      rw [map_fst_head?_cons, found]
      split <;> rfl
  · rfl

theorem referenceAt?_dash (rest : List Char) :
    referenceAt? ('-' :: rest) =
      (match rest with
        | '$' :: more => if aliasAt more = [] then none else some (true, aliasAt more)
        | _ => none) := by
  cases rest with
  | nil => rfl
  | cons d more =>
      by_cases isDollar : d = '$'
      · subst isDollar
        simp [referenceAt?]
      · rw [referenceAt?.eq_def]
        simp [isDollar]

theorem referenceAt?_of_ne {c : Char} (notDash : c ≠ '-') (rest : List Char) :
    referenceAt? (c :: rest) =
      if c = '$' then if aliasAt rest = [] then none else some (false, aliasAt rest)
      else none := by
  by_cases isDollar : c = '$'
  · subst isDollar
    simp [referenceAt?]
  · rw [referenceAt?.eq_def]
    simp [notDash, isDollar]

/-- The pattern matches at the front of a text just the reference that stands there. -/
theorem first?_reference (text : List Char) :
    (reference.first? text).map Prod.fst =
      (referenceAt? text).map fun (negated, key) => (Piece.reference negated key).written := by
  cases text with
  | nil => rfl
  | cons c rest =>
      by_cases isDash : c = '-'
      · subst isDash
        have found := first?_behindDash rest
        rw [first?] at found
        rw [first?, ways_reference_dash, map_fst_head?_cons, found, referenceAt?_dash]
        split
        · split <;> rfl
        · rfl
      · have found := first?_behindDash (c :: rest)
        rw [first?] at found
        rw [first?, ways_reference_of_ne isDash, found, referenceAt?_of_ne isDash]
        split
        · next same =>
            cases same
            rw [if_pos rfl]
            split <;> rfl
        · next other =>
            have notDollar : c ≠ '$' := fun same => other rest (by rw [same])
            rw [if_neg notDollar]
            rfl

theorem replaced_written (tokens : Table String) (negated : Bool) (key : List Char) :
    replaced tokens (Piece.reference negated key).written =
      (Piece.reference negated key).substituted tokens := by
  cases negated <;> rfl

theorem length_written (negated : Bool) (key : List Char) :
    (Piece.reference negated key).written.length = referenceTail negated key + 1 := by
  cases negated <;> simp [Piece.written, referenceTail]

/-- Replacing the matches of the pattern is to replace the references. -/
theorem replaceAll_reference (tokens : Table String) (value : List Char) :
    reference.replaceAll (replaced tokens) value = substituteChars tokens value := by
  rw [replaceAll, substituteChars, pieces]
  generalize 0 = skip
  fun_induction piecesAfter skip value with
  | case1 skip => cases skip <;> rfl
  | case2 skip c rest ih => exact ih
  | case3 c rest negated key found ih =>
      have matched := first?_reference (c :: rest)
      rw [found, Option.map_some, Option.map_eq_some_iff] at matched
      obtain ⟨⟨taken, after⟩, isFirst, same⟩ := matched
      rw [replaceAfter, isFirst]
      dsimp only at same ⊢
      rw [same, replaced_written, length_written, Nat.add_sub_cancel, ih]
      rfl
  | case4 c rest none ih =>
      have matched := first?_reference (c :: rest)
      rw [none, Option.map_none, Option.map_eq_none_iff] at matched
      rw [replaceAfter, matched]
      exact congrArg (c :: ·) ih

example :
    Pattern.reference.replaceAll (replaced (Table.ofList [("a", "1px"), ("b-c", "$a")]))
      "$a--$b-c- -$d$$-a-".toList = "1px-calc($a * -1)- -$d$$-a-".toList := by
  decide +kernel

end Pattern

end AtomicCss.Alias
