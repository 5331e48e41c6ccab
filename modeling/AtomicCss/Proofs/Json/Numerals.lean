import AtomicCss.Json.Reader

/-!
# Numerals of JSON texts

A numeral in its parts: a sign, the digits before the point, those behind it and an exponent. The
reader takes a whole numeral and nothing else, so a number depends on its numeral alone and not
on where it stands.
-/

set_option autoImplicit false

namespace AtomicCss.Json

/-- A row of digits, at least one. -/
structure IsDigits (row : List Char) : Prop where
  ne_nil : row ≠ []
  digits : ∀ c ∈ row, c.isDigit = true

structure Exponent where
  mark : Char
  sign : Option Char
  digits : List Char
  isMark : mark = 'e' ∨ mark = 'E'
  isSign : sign = none ∨ sign = some '+' ∨ sign = some '-'
  isDigits : IsDigits digits

namespace Exponent

def value (exponent : Exponent) : Int :=
  if exponent.sign = some '-' then -(Decimal.digitsValue exponent.digits : Int)
  else Decimal.digitsValue exponent.digits

def spelled (exponent : Exponent) : List Char :=
  exponent.mark :: (exponent.sign.toList ++ exponent.digits)

end Exponent

/-- A numeral of the grammar: only zero starts with a zero. -/
structure Numeral where
  negative : Bool
  whole : List Char
  fraction : Option (List Char)
  exponent : Option Exponent
  isWhole : IsDigits whole
  noLeadingZero : whole.head? = some '0' → whole.length ≤ 1
  isFraction : ∀ digits, fraction = some digits → IsDigits digits

namespace Numeral

/-- A numeral in the text, behind its sign. -/
def unsigned (numeral : Numeral) : List Char :=
  numeral.whole ++ ((numeral.fraction.map ('.' :: ·)).getD [] ++
    (numeral.exponent.map Exponent.spelled).getD [])

def spelled (numeral : Numeral) : List Char :=
  if numeral.negative then '-' :: numeral.unsigned else numeral.unsigned

def value (numeral : Numeral) : Json :=
  match numeral.fraction, numeral.exponent with
  | none, none => integerValue numeral.negative numeral.whole
  | _, _ =>
      doubleValue numeral.negative numeral.whole (numeral.fraction.getD [])
        ((numeral.exponent.map Exponent.value).getD 0)

end Numeral

theorem doubleValue_cases (negative : Bool) (whole fraction : List Char) (exponent : Int) :
    (∃ number, doubleValue negative whole fraction exponent = .number number) ∨
      doubleValue negative whole fraction exponent = .unreadable := by
  rw [doubleValue]
  split
  · exact .inl ⟨_, rfl⟩
  · exact .inr rfl

/-- A numeral has a number for its value, or none at all. -/
theorem Numeral.value_cases (numeral : Numeral) :
    (∃ number, numeral.value = .number number) ∨ numeral.value = .unreadable := by
  rw [Numeral.value]
  split
  · rw [integerValue.eq_def]
    dsimp only
    generalize (if numeral.negative = true then _ else _ : Bool) = isInteger
    cases isInteger with
    | true => exact .inl ⟨_, rfl⟩
    | false => exact doubleValue_cases _ _ _ _
  · exact doubleValue_cases _ _ _ _

theorem isDigits_takeWhile {text : List Char}
    (some : (text.takeWhile Char.isDigit).isEmpty = false) :
    IsDigits (text.takeWhile Char.isDigit) where
  ne_nil := by simpa using some
  digits := by
    have all : (text.takeWhile Char.isDigit).all Char.isDigit = true := List.all_takeWhile
    rwa [List.all_eq_true] at all

theorem readFraction?_parts {text rest : List Char} {fraction : Option (List Char)}
    (read : readFraction? text = some (fraction, rest)) :
    text = (fraction.map ('.' :: ·)).getD [] ++ rest ∧
      ∀ digits, fraction = some digits → IsDigits digits := by
  rw [readFraction?.eq_def] at read
  split at read
  · next behind =>
      split at read
      · cases read
      · next notEmpty =>
          cases read
          refine ⟨?_, fun digits same => ?_⟩
          · simp
          · cases same
            exact isDigits_takeWhile (Bool.eq_false_iff.mpr notEmpty)
  · cases read
    exact ⟨rfl, fun digits same => nomatch same⟩

theorem signOf_parts (text : List Char) :
    ∃ sign : Option Char, (sign = none ∨ sign = some '+' ∨ sign = some '-') ∧
      text = sign.toList ++ (Decimal.signOf text).2 ∧
      (Decimal.signOf text).1 = decide (sign = some '-') := by
  rw [Decimal.signOf.eq_def]
  split
  · exact ⟨some '-', .inr (.inr rfl), rfl, rfl⟩
  · exact ⟨some '+', .inr (.inl rfl), rfl, rfl⟩
  · exact ⟨none, .inl rfl, rfl, rfl⟩

theorem readExponent?_parts {text rest : List Char} {size : Option Int}
    (read : readExponent? text = some (size, rest)) :
    ∃ exponent : Option Exponent,
      text = (exponent.map Exponent.spelled).getD [] ++ rest ∧
        size = exponent.map Exponent.value := by
  cases text with
  | nil =>
      cases read
      exact ⟨none, rfl, rfl⟩
  | cons mark behind =>
      rw [readExponent?] at read
      split at read
      · next isMark =>
          dsimp only at read
          split at read
          · cases read
          · next notEmpty =>
              obtain ⟨sign, isSign, same, isNegative⟩ := signOf_parts behind
              cases read
              refine ⟨some ⟨mark, sign, _, isMark, isSign,
                isDigits_takeWhile (Bool.eq_false_iff.mpr notEmpty)⟩, ?_, ?_⟩
              · simp only [Option.map_some, Option.getD_some, Exponent.spelled, List.cons_append,
                  List.append_assoc, List.takeWhile_append_dropWhile]
                rw [← same]
              · rw [isNegative]
                simp [Exponent.value]
      · cases read
        exact ⟨none, rfl, rfl⟩

/-- Reads a number behind its sign. -/
def readUnsigned (negative : Bool) (text : List Char) : Option (Json × List Char) :=
  let whole := text.takeWhile Char.isDigit
  if whole.isEmpty || (whole.head? == some '0' && 1 < whole.length) then none
  else do
    let (fraction, rest) ← readFraction? (text.dropWhile Char.isDigit)
    let (exponent, rest) ← readExponent? rest
    match fraction, exponent with
    | none, none => return (integerValue negative whole, rest)
    | _, _ =>
        return (doubleValue negative whole (fraction.getD []) (exponent.getD 0), rest)

theorem readNumber_dash (rest : List Char) : readNumber ('-' :: rest) = readUnsigned true rest :=
  rfl

theorem readNumber_of_ne_dash {text : List Char} (notDash : text.head? ≠ some '-') :
    readNumber text = readUnsigned false text := by
  cases text with
  | nil => rfl
  | cons c rest =>
      have other : c ≠ '-' := fun same => notDash (congrArg some same)
      simp only [readNumber, readUnsigned]
      split
      · next same => exact absurd (List.cons.inj same).1 other
      · rfl

theorem readUnsigned_parts {negative : Bool} {text rest : List Char} {number : Json}
    (read : readUnsigned negative text = some (number, rest)) :
    ∃ numeral : Numeral, numeral.negative = negative ∧ text = numeral.unsigned ++ rest ∧
      number = numeral.value := by
  rw [readUnsigned] at read
  dsimp only at read
  split at read
  · cases read
  · next isWhole =>
      simp only [Bool.or_eq_true, Bool.and_eq_true, beq_iff_eq, decide_eq_true_eq, not_or,
        not_and, Nat.not_lt] at isWhole
      simp only [Option.bind_eq_bind, Option.bind_eq_some_iff] at read
      obtain ⟨⟨fraction, behindFraction⟩, readFraction, ⟨size, behind⟩, readExponent, same⟩ := read
      obtain ⟨isFraction, digits⟩ := readFraction?_parts readFraction
      obtain ⟨exponent, isExponent, isSize⟩ := readExponent?_parts readExponent
      dsimp only at readExponent same isExponent isFraction isSize
      refine ⟨{
        negative := negative
        whole := text.takeWhile Char.isDigit
        fraction := fraction
        exponent := exponent
        isWhole := isDigits_takeWhile (Bool.eq_false_iff.mpr isWhole.1)
        noLeadingZero := isWhole.2
        isFraction := digits }, rfl, ?_, ?_⟩
      · have ends : behind = rest := by
          split at same <;> exact congrArg Prod.snd (Option.some.inj same)
        rw [Numeral.unsigned, List.append_assoc, List.append_assoc, ← ends, ← isExponent,
          ← isFraction, List.takeWhile_append_dropWhile]
      · rw [Numeral.value]
        subst isSize
        cases fraction with
        | some digits => exact (congrArg Prod.fst (Option.some.inj same)).symm
        | none =>
            cases exponent with
            | none => exact (congrArg Prod.fst (Option.some.inj same)).symm
            | some exponent => exact (congrArg Prod.fst (Option.some.inj same)).symm

/-- What is read as a number is a numeral, and the number is the value of that numeral. -/
theorem exists_numeral_of_readNumber {text rest : List Char} {number : Json}
    (read : readNumber text = some (number, rest)) :
    ∃ numeral : Numeral, text = numeral.spelled ++ rest ∧ number = numeral.value := by
  by_cases isDash : text.head? = some '-'
  · obtain ⟨unsigned, rfl⟩ := List.head?_eq_some_iff.mp isDash
    rw [readNumber_dash] at read
    obtain ⟨numeral, isNegative, rfl, isValue⟩ := readUnsigned_parts read
    refine ⟨numeral, ?_, isValue⟩
    rw [Numeral.spelled, if_pos isNegative]
    rfl
  · rw [readNumber_of_ne_dash isDash] at read
    obtain ⟨numeral, isPositive, rfl, isValue⟩ := readUnsigned_parts read
    refine ⟨numeral, ?_, isValue⟩
    rw [Numeral.spelled, if_neg (Bool.not_eq_true _ ▸ isPositive)]

theorem IsDigits.takeWhile_append {row : List Char} (isDigits : IsDigits row) {rest : List Char}
    (stops : ∀ c ∈ rest.head?, c.isDigit = false) :
    (row ++ rest).takeWhile Char.isDigit = row ∧ (row ++ rest).dropWhile Char.isDigit = rest := by
  rw [List.takeWhile_append_of_pos isDigits.digits, List.dropWhile_append_of_pos isDigits.digits]
  cases rest with
  | nil => simp
  | cons c rest => simp [stops c rfl]

theorem IsDigits.takeWhile_eq {row : List Char} (isDigits : IsDigits row) :
    row.takeWhile Char.isDigit = row ∧ row.dropWhile Char.isDigit = [] := by
  have noMore : ∀ c ∈ ([] : List Char).head?, c.isDigit = false := nofun
  have whole := isDigits.takeWhile_append noMore
  rwa [List.append_nil] at whole

theorem signOf_append {sign : Option Char}
    (isSign : sign = none ∨ sign = some '+' ∨ sign = some '-') {row : List Char}
    (isDigits : IsDigits row) :
    Decimal.signOf (sign.toList ++ row) = (decide (sign = some '-'), row) := by
  rcases isSign with rfl | rfl | rfl
  · cases row with
    | nil => exact absurd rfl isDigits.ne_nil
    | cons c row =>
        have isDigit := isDigits.digits c List.mem_cons_self
        rw [Option.toList_none, List.nil_append, Decimal.signOf.eq_def]
        split
        · next same =>
            rw [(List.cons.inj same).1] at isDigit
            exact absurd isDigit (by decide)
        · next same =>
            rw [(List.cons.inj same).1] at isDigit
            exact absurd isDigit (by decide)
        · rfl
  · rfl
  · rfl

theorem readExponent?_spelled (exponent : Option Exponent) :
    readExponent? ((exponent.map Exponent.spelled).getD []) =
      some (exponent.map Exponent.value, []) := by
  cases exponent with
  | none => rfl
  | some exponent =>
      obtain ⟨taken, left⟩ := exponent.isDigits.takeWhile_eq
      have notEmpty : exponent.digits.isEmpty = false :=
        Bool.eq_false_iff.mpr fun empty => exponent.isDigits.ne_nil (List.isEmpty_iff.mp empty)
      rw [Option.map_some, Option.getD_some, Exponent.spelled, readExponent?,
        if_pos exponent.isMark]
      dsimp only
      rw [signOf_append exponent.isSign exponent.isDigits]
      dsimp only
      rw [taken, left, notEmpty]
      simp [Exponent.value]

theorem Exponent.head?_spelled (exponent : Option Exponent) :
    ∀ c ∈ ((exponent.map Exponent.spelled).getD []).head?, c = 'e' ∨ c = 'E' := by
  cases exponent with
  | none => exact nofun
  | some exponent =>
      rintro c ⟨⟩
      exact exponent.isMark

theorem isDigit_of_isMark {c : Char} (isMark : c = 'e' ∨ c = 'E') : c.isDigit = false := by
  rcases isMark with rfl | rfl <;> rfl

theorem readValue_numeral {c : Char} (isNumeral : c.isDigit = true ∨ c = '-') (steps : Nat)
    (rest : List Char) : readValue (steps + 1) (c :: rest) = readNumber (c :: rest) := by
  have other (d : Char) (isOther : d.isDigit = false ∧ d ≠ '-') : c ≠ d := by
    rintro rfl
    rcases isNumeral with isDigit | isDash
    · exact Bool.false_ne_true (isOther.1.symm.trans isDigit)
    · exact isOther.2 isDash
  have solid : skipBlanks (c :: rest) = c :: rest := by
    refine List.dropWhile_cons_of_neg ?_
    simp only [isBlank, beq_eq_false_iff_ne.mpr (other ' ' (by decide)),
      beq_eq_false_iff_ne.mpr (other '\t' (by decide)),
      beq_eq_false_iff_ne.mpr (other '\n' (by decide)),
      beq_eq_false_iff_ne.mpr (other '\r' (by decide))]
    exact Bool.false_ne_true
  rw [readValue, solid]
  split
  · next same => exact absurd (List.cons.inj same).1 (other 'n' (by decide))
  · next same => exact absurd (List.cons.inj same).1 (other 't' (by decide))
  · next same => exact absurd (List.cons.inj same).1 (other 'f' (by decide))
  · next same => exact absurd (List.cons.inj same).1 (other '"' (by decide))
  · next same => exact absurd (List.cons.inj same).1 (other '[' (by decide))
  · next same => exact absurd (List.cons.inj same).1 (other '\x7b' (by decide))
  · rfl

namespace Numeral

variable (numeral : Numeral)

theorem readFraction?_spelled :
    readFraction? ((numeral.fraction.map ('.' :: ·)).getD [] ++
        (numeral.exponent.map Exponent.spelled).getD []) =
      some (numeral.fraction, (numeral.exponent.map Exponent.spelled).getD []) := by
  have marked := Exponent.head?_spelled numeral.exponent
  cases isFraction : numeral.fraction with
  | none =>
      rw [Option.map_none, Option.getD_none, List.nil_append, readFraction?.eq_def]
      split
      · next behind same =>
          rw [same] at marked
          rcases marked '.' rfl with isMark | isMark <;> cases isMark
      · rfl
  | some digits =>
      have isDigits := numeral.isFraction digits isFraction
      obtain ⟨taken, left⟩ :=
        isDigits.takeWhile_append fun c listed => isDigit_of_isMark (marked c listed)
      have notEmpty : digits.isEmpty = false :=
        Bool.eq_false_iff.mpr fun empty => isDigits.ne_nil (List.isEmpty_iff.mp empty)
      rw [Option.map_some, Option.getD_some, List.cons_append, readFraction?, taken, left, notEmpty]
      rfl

/-- What stands behind the digits before the point. -/
def tail : List Char :=
  (numeral.fraction.map ('.' :: ·)).getD [] ++ (numeral.exponent.map Exponent.spelled).getD []

theorem isDigit_head?_tail : ∀ c ∈ numeral.tail.head?, c.isDigit = false := by
  rw [tail]
  cases numeral.fraction with
  | none => exact fun c listed => isDigit_of_isMark (Exponent.head?_spelled _ c listed)
  | some digits => rintro c ⟨⟩; rfl

theorem takeWhile_unsigned :
    numeral.unsigned.takeWhile Char.isDigit = numeral.whole ∧
      numeral.unsigned.dropWhile Char.isDigit = numeral.tail :=
  numeral.isWhole.takeWhile_append numeral.isDigit_head?_tail

theorem readUnsigned_unsigned (negative : Bool) (isNegative : numeral.negative = negative) :
    readUnsigned negative numeral.unsigned = some (numeral.value, []) := by
  obtain ⟨taken, left⟩ := numeral.takeWhile_unsigned
  have wellFormed : (numeral.whole.isEmpty ||
      (numeral.whole.head? == some '0' && decide (1 < numeral.whole.length))) = false := by
    have notEmpty := numeral.isWhole.ne_nil
    have short := numeral.noLeadingZero
    simp only [Bool.or_eq_false_iff, Bool.and_eq_false_iff, beq_eq_false_iff_ne,
      decide_eq_false_iff_not, Nat.not_lt, List.isEmpty_eq_false_iff]
    exact ⟨notEmpty, Decidable.not_or_of_imp short⟩
  rw [readUnsigned]
  dsimp only
  rw [taken, left, tail, wellFormed, if_neg Bool.false_ne_true, numeral.readFraction?_spelled]
  dsimp only [Option.bind_eq_bind, Option.bind_some]
  rw [readExponent?_spelled, value, isNegative]
  dsimp only [Option.bind_some]
  cases numeral.fraction <;> cases numeral.exponent <;> rfl

/-- How a numeral begins, with a digit behind the sign. -/
theorem exists_spelled_eq :
    ∃ digit rest, digit.isDigit = true ∧ numeral.unsigned = digit :: rest ∧
      numeral.spelled = (if numeral.negative then ['-'] else []) ++ digit :: rest := by
  have isWhole := numeral.isWhole
  cases whole : numeral.whole with
  | nil => exact absurd whole isWhole.ne_nil
  | cons digit rest =>
      have isUnsigned : numeral.unsigned = digit :: (rest ++
          ((numeral.fraction.map ('.' :: ·)).getD [] ++
            (numeral.exponent.map Exponent.spelled).getD [])) := by
        rw [unsigned, whole]
        rfl
      refine ⟨digit, _, isWhole.digits digit (by rw [whole]; exact List.mem_cons_self),
        isUnsigned, ?_⟩
      rw [spelled, isUnsigned]
      split <;> rfl

/-- The characters behind the sign of a numeral. -/
theorem mem_unsigned {c : Char} (listed : c ∈ numeral.unsigned) :
    c.isDigit = true ∨ c ∈ ['.', 'e', 'E', '+', '-'] := by
  rw [unsigned] at listed
  rcases List.mem_append.mp listed with inWhole | listed
  · exact .inl (numeral.isWhole.digits c inWhole)
  · rcases List.mem_append.mp listed with inFraction | inExponent
    · cases isFraction : numeral.fraction with
      | none =>
          rw [isFraction] at inFraction
          cases inFraction
      | some row =>
          rw [isFraction] at inFraction
          rcases List.mem_cons.mp inFraction with rfl | inRow
          · exact .inr (by decide)
          · exact .inl ((numeral.isFraction row isFraction).digits c inRow)
    · cases isExponent : numeral.exponent with
      | none =>
          rw [isExponent] at inExponent
          cases inExponent
      | some exponent =>
          rw [isExponent] at inExponent
          rcases List.mem_cons.mp inExponent with rfl | listed
          · refine .inr ?_
            rcases exponent.isMark with same | same <;> simp [same]
          · rcases List.mem_append.mp listed with isSign | inRow
            · refine .inr ?_
              rcases exponent.isSign with none | plus | minus
              · rw [none] at isSign
                cases isSign
              · rw [plus] at isSign
                simp [List.mem_singleton.mp isSign]
              · rw [minus] at isSign
                simp [List.mem_singleton.mp isSign]
            · exact .inl (exponent.isDigits.digits c inRow)

/-- A numeral is no word, since it has a digit. -/
theorem spelled_ne {word : String} (noDigit : word.toList.any Char.isDigit = false) :
    String.ofList numeral.spelled ≠ word := by
  rintro rfl
  obtain ⟨digit, rest, isDigit, -, isSpelled⟩ := numeral.exists_spelled_eq
  rw [String.toList_ofList, isSpelled, List.any_append, List.any_cons, isDigit] at noDigit
  simp at noDigit

theorem readNumber_spelled : readNumber numeral.spelled = some (numeral.value, []) := by
  obtain ⟨digit, rest, isDigit, isUnsigned, isSpelled⟩ := numeral.exists_spelled_eq
  cases isNegative : numeral.negative with
  | true =>
      rw [spelled, if_pos isNegative, readNumber_dash]
      exact numeral.readUnsigned_unsigned true isNegative
  | false =>
      have notDash : numeral.unsigned.head? ≠ some '-' := by
        rw [isUnsigned]
        rintro ⟨⟩
        cases isDigit
      rw [spelled, isNegative, if_neg Bool.false_ne_true, readNumber_of_ne_dash notDash]
      exact numeral.readUnsigned_unsigned false isNegative

/-- A numeral alone is a text of its value. -/
theorem ofText?_spelled : ofText? (String.ofList numeral.spelled) = some numeral.value := by
  obtain ⟨digit, rest, isDigit, isUnsigned, isSpelled⟩ := numeral.exists_spelled_eq
  have read := numeral.readNumber_spelled
  rw [ofText?, String.toList_ofList, ofChars?]
  cases isNegative : numeral.negative with
  | true =>
      rw [isNegative] at isSpelled
      rw [isSpelled] at read ⊢
      rw [if_pos rfl, List.singleton_append] at read ⊢
      rw [readValue_numeral (.inr rfl), read]
      rfl
  | false =>
      rw [isNegative] at isSpelled
      rw [isSpelled] at read ⊢
      rw [if_neg Bool.false_ne_true, List.nil_append] at read ⊢
      rw [readValue_numeral (.inl isDigit), read]
      rfl

end Numeral

end AtomicCss.Json
