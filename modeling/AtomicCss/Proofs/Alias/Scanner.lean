import AtomicCss.Proofs.Alias.Pattern

/-!
# References found by their dollar signs

A value can be written out in one pass that looks for dollar signs. The pass holds back a dash
until it sees what follows: where a dollar sign with the alias of a token follows, the dash goes
into the token's place. All other characters are copied, those of an alias without token as well.
-/

set_option autoImplicit false

namespace AtomicCss.Alias

/-- The token that a dollar sign in front of a text refers to. -/
def tokenAt? (tokens : Table String) (text : List Char) : Option String :=
  if aliasAt text = [] then none else tokens.get? (String.ofList (aliasAt text))

/-- What stands for a reference to a token. -/
def inserted (negated : Bool) (token : String) : List Char :=
  if negated then ("calc(" ++ token ++ " * -1)").toList else token.toList

def held (dashed : Bool) : List Char :=
  if dashed then ['-'] else []

/-- Writes a value from left to right, with a dash before it that is held back or not. -/
def scan (tokens : Table String) (dashed : Bool) : List Char → List Char
  | [] => held dashed
  | c :: rest =>
      if c = '$' then
        match tokenAt? tokens rest with
        | some token =>
            inserted dashed token ++ scan tokens false (rest.drop (aliasAt rest).length)
        | none => held dashed ++ '$' :: scan tokens false rest
      else if c = '-' then held dashed ++ scan tokens true rest
      else held dashed ++ c :: scan tokens false rest
  termination_by text => text.length

theorem substituted_reference (tokens : Table String) (negated : Bool) (key : List Char) :
    (Piece.reference negated key).substituted tokens =
      match tokens.get? (String.ofList key) with
      | some token => inserted negated token
      | none => held negated ++ '$' :: key := by
  rw [Piece.substituted]
  cases tokens.get? (String.ofList key) with
  | none => cases negated <;> rfl
  | some token => rfl

theorem substituteChars_of_none (tokens : Table String) {c : Char} {rest : List Char}
    (none : referenceAt? (c :: rest) = none) :
    substituteChars tokens (c :: rest) = c :: substituteChars tokens rest := by
  rw [substituteChars, pieces, piecesAfter, none]
  rfl

theorem piecesAfter_eq_drop (skip : Nat) (text : List Char) :
    piecesAfter skip text = pieces (text.drop skip) := by
  induction text generalizing skip with
  | nil => cases skip <;> rfl
  | cons c rest ih =>
      cases skip with
      | zero => rfl
      | succ skip => exact ih skip

theorem substituteChars_of_some (tokens : Table String) {c : Char} {rest key : List Char}
    {negated : Bool} (found : referenceAt? (c :: rest) = some (negated, key)) :
    substituteChars tokens (c :: rest) =
      (Piece.reference negated key).substituted tokens ++
        substituteChars tokens (rest.drop (referenceTail negated key)) := by
  rw [substituteChars, pieces, piecesAfter, found]
  dsimp only
  rw [piecesAfter_eq_drop]
  rfl

theorem referenceAt?_of_isWord {c : Char} (isWord : Text.isWord c = true) (rest : List Char) :
    referenceAt? (c :: rest) = none := by
  have notDash : c ≠ '-' := by
    rintro rfl
    revert isWord
    decide +kernel
  have notDollar : c ≠ '$' := by
    rintro rfl
    revert isWord
    decide +kernel
  rw [Pattern.referenceAt?_of_ne notDash, if_neg notDollar]

theorem aliasAt_dollar (rest : List Char) : aliasAt ('$' :: rest) = [] := by
  have notAlias : ¬ isAliasChar '$' = true := by decide +kernel
  rw [aliasAt_cons, if_neg notAlias]

/-- Before an alias a dash is no part of a reference. -/
theorem referenceAt?_dash_of_aliasAt {rest : List Char} (goesOn : aliasAt rest ≠ []) :
    referenceAt? ('-' :: rest) = none := by
  rw [Pattern.referenceAt?_dash]
  split
  · exact absurd (aliasAt_dollar _) goesOn
  · rfl

/-- No reference begins inside an alias. -/
theorem substituteChars_aliasAt (tokens : Table String) (text : List Char) :
    substituteChars tokens text =
      aliasAt text ++ substituteChars tokens (text.drop (aliasAt text).length) := by
  induction text with
  | nil => rfl
  | cons c rest ih =>
      by_cases ends : aliasAt (c :: rest) = []
      · rw [ends]
        rfl
      · obtain ⟨starts, isChar, wordAtEnd⟩ := aliasAt_cons_of_ne_nil ends
        have noReference : referenceAt? (c :: rest) = none := by
          by_cases isWord : Text.isWord c = true
          · exact referenceAt?_of_isWord isWord rest
          · have isDash : c = '-' := by simpa [isAliasChar, isWord] using isChar
            have goesOn : aliasAt rest ≠ [] := fun nothing => isWord (wordAtEnd nothing)
            rw [isDash, referenceAt?_dash_of_aliasAt goesOn]
        rw [starts, substituteChars_of_none tokens noReference, ih]
        rfl

theorem referenceAt?_held_dollar (dashed : Bool) (rest : List Char) :
    referenceAt? (held dashed ++ '$' :: rest) =
      if aliasAt rest = [] then none else some (dashed, aliasAt rest) := by
  cases dashed with
  | false =>
      have notDash : '$' ≠ '-' := by decide
      rw [held, if_neg Bool.false_ne_true, List.nil_append, Pattern.referenceAt?_of_ne notDash,
        if_pos rfl]
  | true => exact Pattern.referenceAt?_dash ('$' :: rest)

theorem substituteChars_reference (tokens : Table String) (dashed : Bool) {rest : List Char}
    (starts : aliasAt rest ≠ []) :
    substituteChars tokens (held dashed ++ '$' :: rest) =
      (Piece.reference dashed (aliasAt rest)).substituted tokens ++
        substituteChars tokens (rest.drop (aliasAt rest).length) := by
  have found := referenceAt?_held_dollar dashed rest
  rw [if_neg starts] at found
  cases dashed with
  | false => exact substituteChars_of_some tokens found
  | true => exact substituteChars_of_some tokens found

theorem substituteChars_of_tokenAt? {tokens : Table String} {rest : List Char} {token : String}
    (found : tokenAt? tokens rest = some token) (dashed : Bool) :
    substituteChars tokens (held dashed ++ '$' :: rest) =
      inserted dashed token ++ substituteChars tokens (rest.drop (aliasAt rest).length) := by
  rw [tokenAt?] at found
  split at found
  · cases found
  · next starts => rw [substituteChars_reference tokens dashed starts, substituted_reference, found]

/-- A dollar sign without a token is copied, and so are the dash before it and the alias. -/
theorem substituteChars_of_tokenAt?_none {tokens : Table String} {rest : List Char}
    (noToken : tokenAt? tokens rest = none) (dashed : Bool) :
    substituteChars tokens (held dashed ++ '$' :: rest) =
      held dashed ++ '$' :: substituteChars tokens rest := by
  rw [tokenAt?] at noToken
  split at noToken
  · next noAlias =>
      have plain := referenceAt?_held_dollar false rest
      have negated := referenceAt?_held_dollar true rest
      rw [if_pos noAlias] at plain negated
      cases dashed with
      | false => exact substituteChars_of_none tokens plain
      | true =>
          refine (substituteChars_of_none tokens negated).trans ?_
          exact congrArg ('-' :: ·) (substituteChars_of_none tokens plain)
  · next starts =>
      rw [substituteChars_reference tokens dashed starts, substituted_reference, noToken,
        substituteChars_aliasAt tokens rest]
      simp

theorem substituteChars_held (tokens : Table String) (dashed : Bool) {c : Char}
    (notDollar : c ≠ '$') (rest : List Char) :
    substituteChars tokens (held dashed ++ c :: rest) =
      held dashed ++ substituteChars tokens (c :: rest) := by
  cases dashed with
  | false => rfl
  | true =>
      have noReference : referenceAt? ('-' :: c :: rest) = none := by
        rw [Pattern.referenceAt?_dash]
        split
        · next same => exact absurd (List.cons.inj same).1 notDollar
        · rfl
      exact substituteChars_of_none tokens noReference

theorem substituteChars_eq_scan (tokens : Table String) (dashed : Bool) (text : List Char) :
    substituteChars tokens (held dashed ++ text) = scan tokens dashed text := by
  fun_induction scan tokens dashed text with
  | case1 dashed => cases dashed <;> rfl
  | case2 dashed rest token found ih =>
      rw [substituteChars_of_tokenAt? found]
      exact congrArg (inserted dashed token ++ ·) ih
  | case3 dashed rest noToken ih =>
      rw [substituteChars_of_tokenAt?_none noToken]
      exact congrArg (fun behind => held dashed ++ '$' :: behind) ih
  | case4 dashed rest notDollar ih =>
      rw [substituteChars_held tokens dashed notDollar]
      exact congrArg (held dashed ++ ·) ih
  | case5 dashed c rest notDollar notDash ih =>
      have noReference : referenceAt? (c :: rest) = none := by
        rw [Pattern.referenceAt?_of_ne notDash, if_neg notDollar]
      rw [substituteChars_held tokens dashed notDollar,
        substituteChars_of_none tokens noReference]
      exact congrArg (fun behind => held dashed ++ c :: behind) ih

/-- A value is written as the pass over its dollar signs writes it, and as replacing the matches
of the pattern writes it. Without tokens it stays as it is. -/
theorem substitute_scanned (value : String) :
    substitute none value = value ∧
      ∀ tokens : Table String,
        substitute (some tokens) value = String.ofList (scan tokens false value.toList) ∧
        substitute (some tokens) value =
          String.ofList (Pattern.reference.replaceAll (replaced tokens) value.toList) := by
  refine ⟨rfl, fun tokens => ⟨?_, ?_⟩⟩
  · exact congrArg String.ofList (substituteChars_eq_scan tokens false value.toList)
  · exact congrArg String.ofList (Pattern.replaceAll_reference tokens value.toList).symm

end AtomicCss.Alias
