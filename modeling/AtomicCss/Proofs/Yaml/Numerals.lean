import AtomicCss.Proofs.Json.Numerals
import AtomicCss.Proofs.Number.Rounding
import AtomicCss.Proofs.Yaml.Scalars
import AtomicCss.Scale
import AtomicCss.Yaml.Value

/-!
# Numerals read by both formats

A numeral of JSON is a number in YAML too. The two read the same number where the numeral is an
integer of up to 64 bits, negative zero apart, or has few digits and a small exponent: then both
read the double nearest to it.
-/

set_option autoImplicit false

namespace AtomicCss

/-- What a numeral in a scale is kept as by JSON. -/
def Json.literalOf? (numeral : String) : Option String := (Json.ofText? numeral).bind Json.literal?

/-- What a numeral in a scale is kept as by YAML. -/
def Yaml.literalOf? (numeral : String) : Option String := (Yaml.plainTree numeral).literal?

namespace Json.Numeral

/-- The digits of a numeral as one number. -/
def digits (numeral : Numeral) : Nat :=
  Decimal.digitsValue (numeral.whole ++ numeral.fraction.getD [])

/-- The power of ten that the last digit counts. -/
def power (numeral : Numeral) : Int :=
  (numeral.exponent.map Exponent.value).getD 0 - (numeral.fraction.getD []).length

/-- The digits with their sign. -/
def integer (numeral : Numeral) : Int :=
  if numeral.negative then -(numeral.digits : Int) else numeral.digits

/-- Whether a numeral is short: without point and exponent it takes at most 128 bits, and it is no
negative zero; otherwise its digits make a number of 53 bits and the power of ten is small. -/
def isShort (numeral : Numeral) : Bool :=
  match numeral.fraction, numeral.exponent with
  | none, none => Yaml.fitsIn 128 numeral.integer && !(numeral.negative && numeral.digits == 0)
  | _, _ => numeral.digits == 0 || (numeral.digits < 2 ^ 53 && numeral.power.natAbs ≤ 22)

/-! ## What JSON makes of a numeral -/

theorem le_foldl_digits (row : List Char) (kept : Nat) :
    kept ≤ row.foldl (fun value c => 10 * value + Decimal.digitValue c) kept := by
  induction row generalizing kept with
  | nil => exact Nat.le_refl kept
  | cons c row ih => exact Nat.le_trans (by omega) (ih (10 * kept + Decimal.digitValue c))

/-- All digits are kept if they make a number of 64 bits. -/
theorem keepDigits_eq {row : List Char} {kept : Nat}
    (fits : row.foldl (fun value c => 10 * value + Decimal.digitValue c) kept < twoTo 64) :
    keepDigits kept row =
      (row.foldl (fun value c => 10 * value + Decimal.digitValue c) kept, []) := by
  induction row generalizing kept with
  | nil => rfl
  | cons c row ih =>
      rw [List.foldl_cons] at fits ⊢
      have longer := le_foldl_digits row (10 * kept + Decimal.digitValue c)
      rw [keepDigits, if_pos (by omega)]
      exact ih fits

theorem double?_eq (negative : Bool) {whole fraction : List Char} {exponent : Int}
    (fits : Decimal.digitsValue (whole ++ fraction) < twoTo 64) :
    double? negative whole fraction exponent =
      shifted? negative (Decimal.digitsValue (whole ++ fraction))
        (exponent - fraction.length) := by
  rw [Decimal.digitsValue, List.foldl_append] at fits ⊢
  have keepsFraction := keepDigits_eq fits
  have keepsWhole : keepDigits 0 whole = (Decimal.digitsValue whole, []) :=
    keepDigits_eq (Nat.lt_of_le_of_lt (le_foldl_digits fraction _) fits)
  rw [double?, keepsWhole]
  dsimp only
  rw [Decimal.digitsValue, keepsFraction]
  simp

/-- Digits of 53 bits and a small power of ten are exact, so only their product or their quotient
is rounded. -/
theorem shifted?_eq (negative : Bool) {digits : Nat} {power : Int}
    (short : digits = 0 ∨ digits < 2 ^ 53 ∧ power.natAbs ≤ 22) :
    shifted? negative digits power = some (Decimal.mk negative digits power).toDouble := by
  by_cases isZero : digits = 0
  · rw [shifted?, if_pos isZero, Decimal.toDouble, if_pos isZero, Double.ofFraction,
      if_pos isZero]
  · obtain ⟨short, small⟩ := short.resolve_left isZero
    have positive := Nat.pos_of_ne_zero isZero
    have exactly := Double.ofFraction_isExactly negative positive short 0 (by decide)
    rw [pow_zero, Nat.mul_one] at exactly
    have finite := Decimal.isFinite_toDouble negative (.inr ⟨short, small⟩)
    rw [Decimal.toDouble_eq negative positive short small] at finite ⊢
    rw [shifted?]
    dsimp only
    rw [if_neg isZero, if_neg (by rw [maxPower]; omega)]
    by_cases isNegative : power < 0
    · have within : (-power).toNat ≤ 22 := by omega
      rw [if_neg (by omega), if_pos isNegative, if_pos (by rw [maxPower]; omega),
        Double.overTenTo_eq exactly (Double.tenTo_isExactly within)]
    · have within : power.toNat ≤ 22 := by omega
      rw [if_neg isNegative] at finite ⊢
      rw [if_pos (by omega), Double.timesTenTo_eq exactly (Double.tenTo_isExactly within),
        if_pos finite]

end Json.Numeral

namespace Yaml

open Json (IsDigits Exponent Numeral)

theorem isDigit_iff (c : Char) : c.isDigit = true ↔ '0' ≤ c ∧ c ≤ '9' := by
  rw [Char.isDigit, Bool.and_eq_true, decide_eq_true_iff, decide_eq_true_iff]
  exact Iff.rfl

theorem hexValue?_digit {c : Char} (isDigit : c.isDigit = true) :
    Json.hexValue? c = some (Decimal.digitValue c) ∧ Decimal.digitValue c < 10 := by
  have range := (isDigit_iff c).mp isDigit
  refine ⟨by rw [Json.hexValue?, if_pos range, Decimal.digitValue], ?_⟩
  have atMost : c.toNat ≤ '9'.toNat := range.2
  rw [Decimal.digitValue]
  simp only [Char.reduceToNat] at atMost ⊢
  omega

theorem isDigit_of_hexValue? {c : Char} {digit : Nat} (isValue : Json.hexValue? c = some digit)
    (small : digit < 10) : c.isDigit = true := by
  rw [Json.hexValue?] at isValue
  split at isValue
  · next range => exact (isDigit_iff c).mpr range
  · split at isValue
    · cases isValue
      omega
    · split at isValue
      · cases isValue
        omega
      · cases isValue

theorem foldlM_digits {row : List Char} (digits : ∀ c ∈ row, c.isDigit = true) (value : Nat) :
    row.foldlM (fun value c => do
        let digit ← Json.hexValue? c
        if digit < 10 then some (10 * value + digit) else none) value =
      some (row.foldl (fun value c => 10 * value + Decimal.digitValue c) value) := by
  induction row generalizing value with
  | nil => rfl
  | cons c row ih =>
      obtain ⟨isValue, small⟩ := hexValue?_digit (digits c List.mem_cons_self)
      rw [List.foldlM_cons, List.foldl_cons, isValue]
      simp only [Option.bind_eq_bind, Option.bind_some, small, if_true]
      exact ih (fun d listed => digits d (List.mem_cons_of_mem c listed)) _

theorem isDigit_of_foldlM {row : List Char} {value result : Nat}
    (read : row.foldlM (fun value c => do
        let digit ← Json.hexValue? c
        if digit < 10 then some (10 * value + digit) else none) value = some result) :
    ∀ c ∈ row, c.isDigit = true := by
  induction row generalizing value with
  | nil => exact fun _ listed => nomatch listed
  | cons first row ih =>
      rw [List.foldlM_cons] at read
      obtain ⟨next, isNext, read⟩ := Option.bind_eq_some_iff.mp read
      obtain ⟨digit, isValue, isNext⟩ := Option.bind_eq_some_iff.mp isNext
      split at isNext
      · next small =>
          intro c listed
          rcases List.mem_cons.mp listed with rfl | later
          · exact isDigit_of_hexValue? isValue small
          · exact ih read c later
      · cases isNext

theorem digitsIn?_digits {row : List Char} (isDigits : IsDigits row) :
    digitsIn? 10 row = some (Decimal.digitsValue row) := by
  have notEmpty : ¬ row.isEmpty = true := fun empty => isDigits.ne_nil (List.isEmpty_iff.mp empty)
  rw [digitsIn?, if_neg notEmpty]
  exact foldlM_digits isDigits.digits 0

theorem digitsIn?_none {row : List Char} {c : Char} (listed : c ∈ row) (other : c.isDigit = false) :
    digitsIn? 10 row = none := by
  cases read : digitsIn? 10 row with
  | none => rfl
  | some value =>
      rw [digitsIn?] at read
      split at read
      · cases read
      · exact absurd (isDigit_of_foldlM read c listed) (by simp [other])

section Numeral

variable (numeral : Numeral)

theorem not_mem_unsigned (c : Char)
    (other : c.isDigit = false ∧ c ∉ ['.', 'e', 'E', '+', '-']) : c ∉ numeral.unsigned := by
  intro listed
  rcases numeral.mem_unsigned listed with isDigit | isMark
  · exact Bool.false_ne_true (other.1.symm.trans isDigit)
  · exact other.2 isMark

/-- No mark of a base stands in a numeral. -/
theorem unsignedOf?_unsigned :
    unsignedOf? numeral.unsigned =
      if isZeroPadded numeral.unsigned then none else digitsIn? 10 numeral.unsigned := by
  rw [unsignedOf?.eq_def]
  split
  · next row same =>
      exact absurd (by rw [same]; simp) (not_mem_unsigned numeral 'x' (by decide))
  · next row same =>
      exact absurd (by rw [same]; simp) (not_mem_unsigned numeral 'o' (by decide))
  · next row same =>
      exact absurd (by rw [same]; simp) (not_mem_unsigned numeral 'b' (by decide))
  · rfl

theorem signOf_unsigned : Decimal.signOf numeral.unsigned = (false, numeral.unsigned) := by
  obtain ⟨digit, rest, isDigit, isUnsigned, -⟩ := numeral.exists_spelled_eq
  rw [isUnsigned, Decimal.signOf.eq_def]
  split
  · next same =>
      cases same
      cases isDigit
  · next same =>
      cases same
      cases isDigit
  · rfl

theorem signOf_spelled : Decimal.signOf numeral.spelled = (numeral.negative, numeral.unsigned) := by
  rw [Numeral.spelled]
  cases numeral.negative with
  | true => rfl
  | false => exact signOf_unsigned numeral

theorem integerOf?_spelled :
    integerOf? numeral.spelled =
      (unsignedOf? numeral.unsigned).map fun size =>
        if numeral.negative then -(size : Int) else size := by
  obtain ⟨digit, rest, isDigit, isUnsigned, -⟩ := numeral.exists_spelled_eq
  rw [Numeral.spelled]
  cases numeral.negative with
  | true => rfl
  | false =>
      rw [if_neg Bool.false_ne_true, isUnsigned, integerOf?.eq_def]
      split
      · next same =>
          cases same
          cases isDigit
      · next same =>
          cases same
          cases isDigit
      · rfl

/-- Only zero starts with a zero, and what follows it is no digit. -/
theorem isZeroPadded_unsigned : isZeroPadded numeral.unsigned = false := by
  rw [isZeroPadded, signOf_unsigned]
  split
  · next rest same =>
      have unsigned : numeral.unsigned = '0' :: rest := same
      obtain ⟨taken, -⟩ := numeral.takeWhile_unsigned
      rw [unsigned, List.takeWhile_cons_of_pos (by rfl)] at taken
      have single := numeral.noLeadingZero (by rw [← taken]; rfl)
      rw [← taken, List.length_cons] at single
      cases rest with
      | nil => rfl
      | cons c rest =>
          cases isDigit : c.isDigit with
          | false => simp [isDigit]
          | true =>
              rw [List.takeWhile_cons_of_pos isDigit, List.length_cons] at single
              omega
  · rfl

theorem isZeroPadded_spelled : isZeroPadded numeral.spelled = false := by
  have padded := isZeroPadded_unsigned numeral
  rw [isZeroPadded, signOf_unsigned] at padded
  rw [isZeroPadded, signOf_spelled]
  exact padded

theorem isNullText_spelled :
    (String.ofList numeral.spelled == "" || isNullText (String.ofList numeral.spelled)) = false := by
  simp only [isNullText, Bool.or_eq_false_iff, beq_eq_false_iff_ne]
  refine ⟨?_, ⟨⟨?_, ?_⟩, ?_⟩, ?_⟩ <;> exact numeral.spelled_ne (by decide)

/-- A numeral is neither nothing, nor a null, nor a truth value. -/
theorem plainTree_spelled :
    plainTree (String.ofList numeral.spelled) =
      match integerTree? numeral.spelled with
      | some number => number
      | none =>
          match doubleOf? numeral.spelled with
          | some value => .number (.double value)
          | none => .string (String.ofList numeral.spelled) := by
  have noTruth : boolOf? (String.ofList numeral.spelled) = none := by
    have other (word : String) (noDigit : word.toList.any Char.isDigit = false) :
        (String.ofList numeral.spelled == word) = false :=
      beq_eq_false_iff_ne.mpr (numeral.spelled_ne noDigit)
    rw [boolOf?, other "true" (by decide), other "True" (by decide), other "TRUE" (by decide),
      other "false" (by decide), other "False" (by decide), other "FALSE" (by decide)]
    rfl
  rw [plainTree, isNullText_spelled, noTruth, String.toList_ofList, isZeroPadded_spelled]
  cases integerTree? numeral.spelled <;> rfl

/-- A numeral without point and exponent. -/
theorem unsignedOf?_whole (isWhole : numeral.fraction = none ∧ numeral.exponent = none) :
    unsignedOf? numeral.unsigned = some numeral.digits := by
  have unsigned : numeral.unsigned = numeral.whole := by
    rw [Numeral.unsigned, isWhole.1, isWhole.2]
    simp
  have digits : numeral.digits = Decimal.digitsValue numeral.whole := by
    rw [Numeral.digits, isWhole.1, Option.getD_none, List.append_nil]
  rw [unsignedOf?_unsigned, isZeroPadded_unsigned, unsigned, digits]
  exact digitsIn?_digits numeral.isWhole

theorem unsignedOf?_none (notWhole : ¬ (numeral.fraction = none ∧ numeral.exponent = none)) :
    unsignedOf? numeral.unsigned = none := by
  rw [unsignedOf?_unsigned, isZeroPadded_unsigned]
  cases isFraction : numeral.fraction with
  | some row =>
      refine digitsIn?_none (c := '.') ?_ (by decide)
      simp [Numeral.unsigned, isFraction]
  | none =>
      cases isExponent : numeral.exponent with
      | none => exact absurd ⟨isFraction, isExponent⟩ notWhole
      | some exponent =>
          refine digitsIn?_none (c := exponent.mark) ?_ (Json.isDigit_of_isMark exponent.isMark)
          simp [Numeral.unsigned, isExponent, Exponent.spelled]

/-- An integer that takes 64 bits takes them as JSON has them: without a sign or with a minus. -/
theorem value_whole (isWhole : numeral.fraction = none ∧ numeral.exponent = none)
    (fits : fitsIn 64 numeral.integer = true)
    (notNegativeZero : numeral.negative = true → numeral.digits ≠ 0) :
    numeral.value = .number (.integer numeral.integer) := by
  have digits : Decimal.digitsValue numeral.whole = numeral.digits := by
    rw [Numeral.digits, isWhole.1, Option.getD_none, List.append_nil]
  rw [Numeral.value, isWhole.1, isWhole.2]
  dsimp only
  rw [Json.integerValue.eq_def, digits]
  simp only [fitsIn, fitsSigned, fitsUnsigned, Bool.or_eq_true, Bool.and_eq_true,
    decide_eq_true_eq] at fits
  rw [Numeral.integer] at fits ⊢
  cases isNegative : numeral.negative with
  | true =>
      have some := notNegativeZero isNegative
      rw [isNegative, if_pos rfl] at fits
      have isInteger : (decide (0 < numeral.digits) && fitsSigned 64 (-(numeral.digits : Int))) =
          true := by
        simp only [fitsSigned, Bool.and_eq_true, decide_eq_true_eq]
        omega
      simp only [isInteger, if_true]
  | false =>
      rw [isNegative, if_neg Bool.false_ne_true] at fits
      have isInteger : fitsUnsigned 64 (numeral.digits : Int) = true := by
        simp only [fitsUnsigned, Bool.and_eq_true, decide_eq_true_eq]
        have wider : twoTo (64 - 1) ≤ twoTo 64 := by decide
        omega
      simp only [isInteger, if_true, Bool.false_eq_true, if_false]

/-- What both formats make of an integer that fits, negative zero apart. Where it fits in 128 bits
alone, YAML has no value for it. -/
theorem plainTree_whole (isWhole : numeral.fraction = none ∧ numeral.exponent = none)
    (fits : fitsIn 128 numeral.integer = true)
    (notNegativeZero : numeral.negative = true → numeral.digits ≠ 0) :
    plainTree (String.ofList numeral.spelled) = numeral.value ∨
      plainTree (String.ofList numeral.spelled) = .unreadable := by
  have integer : integerOf? numeral.spelled = some numeral.integer := by
    rw [integerOf?_spelled, unsignedOf?_whole numeral isWhole]
    rfl
  rw [plainTree_spelled, integerTree?, integer, Option.filter_some, if_pos fits, Option.map_some]
  dsimp only
  split
  · next small => exact .inl (value_whole numeral isWhole small notNegativeZero).symm
  · exact .inr rfl

theorem exponentOf?_spelled (exponent : Option Exponent) :
    Decimal.exponentOf? ((exponent.map Exponent.spelled).getD []) =
      some ((exponent.map Exponent.value).getD 0) := by
  cases exponent with
  | none => rfl
  | some exponent =>
      have notEmpty : (exponent.digits.isEmpty || !exponent.digits.all Char.isDigit) = false := by
        have all : exponent.digits.all Char.isDigit = true :=
          List.all_eq_true.mpr exponent.isDigits.digits
        have some : exponent.digits.isEmpty = false :=
          Bool.eq_false_iff.mpr fun empty => exponent.isDigits.ne_nil (List.isEmpty_iff.mp empty)
        rw [all, some]
        rfl
      rw [Option.map_some, Option.getD_some, Exponent.spelled, Decimal.exponentOf?,
        if_pos exponent.isMark]
      dsimp only
      rw [Json.signOf_append exponent.isSign exponent.isDigits]
      dsimp only
      rw [notEmpty]
      simp [Exponent.value]

/-- The decimal that YAML makes of a numeral. -/
theorem ofChars?_spelled :
    Decimal.ofChars? numeral.spelled =
      some ⟨numeral.negative, numeral.digits, numeral.power⟩ := by
  obtain ⟨taken, left⟩ := numeral.takeWhile_unsigned
  have some : numeral.whole.isEmpty = false :=
    Bool.eq_false_iff.mpr fun empty => numeral.isWhole.ne_nil (List.isEmpty_iff.mp empty)
  have marked := Exponent.head?_spelled numeral.exponent
  rw [Decimal.ofChars?, signOf_spelled]
  dsimp only
  rw [taken, left, some, Numeral.tail, Numeral.digits, Numeral.power]
  cases isFraction : numeral.fraction with
  | none =>
      rw [Option.map_none, Option.getD_none, List.nil_append]
      split
      · next behind same =>
          rw [same] at marked
          rcases marked '.' rfl with isMark | isMark <;> cases isMark
      · dsimp only [Bool.false_and]
        rw [exponentOf?_spelled]
        rfl
  | some row =>
      obtain ⟨takenRow, leftRow⟩ := (numeral.isFraction row isFraction).takeWhile_append
        fun c listed => Json.isDigit_of_isMark (marked c listed)
      rw [Option.map_some, Option.getD_some, List.cons_append]
      split
      · next behind same =>
          cases same
          rw [takenRow, leftRow]
          dsimp only [Bool.false_and]
          rw [exponentOf?_spelled]
          rfl
      · next noPoint => exact absurd rfl (noPoint _)

theorem doubleOf?_spelled :
    doubleOf? numeral.spelled =
      let value := (Decimal.mk numeral.negative numeral.digits numeral.power).toDouble
      if value.isFinite then some value else none := by
  have noPlus : numeral.spelled.head? ≠ some '+' := by
    obtain ⟨digit, rest, isDigit, -, isSpelled⟩ := numeral.exists_spelled_eq
    rw [isSpelled]
    cases numeral.negative with
    | true => simp
    | false =>
        rintro ⟨⟩
        cases isDigit
  have other (word : String) (noDigit : word.toList.any Char.isDigit = false) :
      (String.ofList numeral.spelled == word) = false :=
    beq_eq_false_iff_ne.mpr (numeral.spelled_ne noDigit)
  rw [doubleOf?.eq_def]
  split
  · next rest same => exact absurd (by rw [same]; rfl) noPlus
  · have same : (numeral.spelled != numeral.spelled) = false := by simp
    simp only [List.contains_cons, List.contains_nil, other ".inf" (by decide),
      other ".Inf" (by decide), other ".INF" (by decide), other "-.inf" (by decide),
      other "-.Inf" (by decide), other "-.INF" (by decide), other ".nan" (by decide),
      other ".NaN" (by decide), other ".NAN" (by decide), same, Bool.false_and, Bool.or_false,
      Bool.false_eq_true, if_false, ofChars?_spelled]
    rfl

/-- What both formats make of a short numeral with a point or an exponent. -/
theorem plainTree_fraction (notWhole : ¬ (numeral.fraction = none ∧ numeral.exponent = none))
    (short : numeral.digits = 0 ∨ numeral.digits < 2 ^ 53 ∧ numeral.power.natAbs ≤ 22) :
    plainTree (String.ofList numeral.spelled) = numeral.value := by
  have noInteger : integerTree? numeral.spelled = none := by
    rw [integerTree?, integerOf?_spelled, unsignedOf?_none numeral notWhole]
    rfl
  have value : numeral.value = Json.doubleValue numeral.negative numeral.whole
      (numeral.fraction.getD []) ((numeral.exponent.map Exponent.value).getD 0) := by
    rw [Numeral.value]
    split
    · next noFraction noExponent => exact absurd ⟨noFraction, noExponent⟩ notWhole
    · rfl
  have fits : numeral.digits < twoTo 64 := by
    rcases short with none | ⟨short, -⟩
    · rw [none]
      decide
    · exact short.trans (by decide)
  have isDouble : Json.Numeral.double? numeral.negative numeral.whole (numeral.fraction.getD [])
      ((numeral.exponent.map Exponent.value).getD 0) =
        some (Decimal.mk numeral.negative numeral.digits numeral.power).toDouble := by
    rw [Numeral.double?_eq numeral.negative fits]
    exact Numeral.shifted?_eq numeral.negative short
  rw [plainTree_spelled, noInteger, doubleOf?_spelled, value, Json.doubleValue, isDouble]
  dsimp only
  rw [if_pos (Decimal.isFinite_toDouble numeral.negative short)]

/-- A short numeral is kept alike by both formats, if YAML has a value for it. -/
theorem eq_of_isShort (isShort : numeral.isShort = true) {x y : String}
    (isJson : Json.literalOf? (String.ofList numeral.spelled) = some x)
    (isYaml : literalOf? (String.ofList numeral.spelled) = some y) : x = y := by
  rw [Json.literalOf?, numeral.ofText?_spelled, Option.bind_some] at isJson
  rw [literalOf?] at isYaml
  by_cases isWhole : numeral.fraction = none ∧ numeral.exponent = none
  · rw [Numeral.isShort, isWhole.1, isWhole.2] at isShort
    simp only [Bool.and_eq_true, Bool.not_eq_true', Bool.and_eq_false_imp,
      beq_eq_false_iff_ne] at isShort
    rcases plainTree_whole numeral isWhole isShort.1 isShort.2 with same | none
    · rw [same] at isYaml
      exact Option.some.inj (isJson.symm.trans isYaml)
    · rw [none] at isYaml
      cases isYaml
  · have short : numeral.digits = 0 ∨ numeral.digits < 2 ^ 53 ∧ numeral.power.natAbs ≤ 22 := by
      rw [Numeral.isShort] at isShort
      split at isShort
      · next noFraction noExponent => exact absurd ⟨noFraction, noExponent⟩ isWhole
      · simpa using isShort
    rw [plainTree_fraction numeral isWhole short] at isYaml
    exact Option.some.inj (isJson.symm.trans isYaml)

/-- Long digits are rounded twice by JSON and once by YAML. -/
example : Json.literalOf? "123456789012345680000.0" = some "123456789012345670000" ∧
    literalOf? "123456789012345680000.0" = some "123456789012345680000" := by
  decide +kernel

/-- Whether a decimal is exact in its parts, and no negative zero. -/
def isShortDecimal (decimal : Decimal) : Bool :=
  (decimal.digits < 2 ^ 53 && decimal.exponent.natAbs ≤ 22) &&
    !(decimal.negative && decimal.digits == 0)

/-- A numeral is short if it is so as a decimal, whether or not it has a point. -/
theorem isShort_of_ofChars? (short : (Decimal.ofChars? numeral.spelled).any isShortDecimal = true) :
    numeral.isShort = true := by
  rw [ofChars?_spelled, Option.any_some, isShortDecimal] at short
  simp only [Bool.and_eq_true, Bool.not_eq_true', decide_eq_true_eq] at short
  obtain ⟨few, notNegativeZero⟩ := short
  rw [Numeral.isShort]
  split
  · have fits : fitsIn 128 numeral.integer = true := by
      rw [fitsIn, Bool.or_eq_true, fitsSigned, Numeral.integer]
      refine .inl ?_
      have wide : 2 ^ 53 < twoTo (128 - 1) := by decide
      split <;> simp only [Bool.and_eq_true, decide_eq_true_eq] <;> omega
    rw [fits, notNegativeZero]
    rfl
  · rw [Bool.or_eq_true, Bool.and_eq_true, decide_eq_true_eq, decide_eq_true_eq]
    exact .inr few

end Numeral

end Yaml

end AtomicCss
