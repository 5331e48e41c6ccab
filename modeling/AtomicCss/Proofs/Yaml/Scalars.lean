import AtomicCss.Proofs.Json.Quoted
import AtomicCss.Yaml.Scalar

/-!
# Scalars on one line

A text of printable ASCII has no line ends, so a scalar in it stays on one line. What stands
between the quotes of a JSON text is then read as the same characters by YAML, whenever it can
read it at all: it takes no surrogates. A word or a numeral between brackets is a plain scalar.
-/

set_option autoImplicit false

namespace AtomicCss

/-- A character of ASCII that prints, the space among them. -/
def IsPrintable (c : Char) : Prop := 0x20 ≤ c.toNat ∧ c.toNat ≤ 0x7E

instance (c : Char) : Decidable (IsPrintable c) :=
  inferInstanceAs (Decidable (0x20 ≤ c.toNat ∧ c.toNat ≤ 0x7E))

theorem isPrintable_of_all {text : List Char} (all : text.all (IsPrintable ·) = true) :
    ∀ c ∈ text, IsPrintable c :=
  fun c listed => of_decide_eq_true (List.all_eq_true.mp all c listed)

theorem IsPrintable.beq_eq_false {c : Char} (printable : IsPrintable c) (other : Char)
    (control : other.toNat < 0x20 ∨ 0x7E < other.toNat) : (c == other) = false := by
  refine beq_eq_false_iff_ne.mpr ?_
  rintro rfl
  obtain ⟨low, high⟩ := printable
  omega

namespace Json

theorem readUnits_suffix {text rest : List Char} {units : List TextUnit}
    (read : readUnits text = some (units, rest)) : rest <:+ text := by
  fun_induction readUnits text generalizing units with
  | case1 => cases read
  | case2 others =>
      cases read
      exact List.suffix_cons _ _
  | case3 a b c d others ih =>
      obtain ⟨unit, -, read⟩ := Option.bind_eq_some_iff.mp read
      obtain ⟨⟨later, remaining⟩, readLater, same⟩ := Option.bind_eq_some_iff.mp read
      cases same
      exact (ih readLater).trans (List.suffix_append ['\\', 'u', a, b, c, d] others)
  | case4 c others notUnit ih =>
      obtain ⟨escaped, -, read⟩ := Option.bind_eq_some_iff.mp read
      obtain ⟨⟨later, remaining⟩, readLater, same⟩ := Option.bind_eq_some_iff.mp read
      cases same
      exact (ih readLater).trans (List.suffix_append ['\\', c] others)
  | case5 => cases read
  | case6 c others _ _ _ _ ih =>
      obtain ⟨⟨later, remaining⟩, readLater, same⟩ := Option.bind_eq_some_iff.mp read
      cases same
      exact (ih readLater).trans (List.suffix_cons c others)

theorem hexValue?_lt {c : Char} {value : Nat} (found : hexValue? c = some value) : value < 16 := by
  rw [hexValue?] at found
  have small (low : Char) (high : Char) (inRange : low ≤ c ∧ c ≤ high) :
      low.toNat ≤ c.toNat ∧ c.toNat ≤ high.toNat := inRange
  split at found
  · next digit =>
      have range := small _ _ digit
      simp at range found
      omega
  · split at found
    · next letter =>
        have range := small _ _ letter
        simp at range found
        omega
    · split at found
      · next capital =>
          have range := small _ _ capital
          simp at range found
          omega
      · cases found

end Json

namespace Yaml

theorem isBreak_of_isPrintable {c : Char} (printable : IsPrintable c) : isBreak c = false := by
  rw [isBreak, printable.beq_eq_false '\n' (by decide),
    printable.beq_eq_false '\u2028' (by decide), printable.beq_eq_false '\u2029' (by decide)]
  rfl

theorem isBlank_of_isPrintable {c : Char} (printable : IsPrintable c) :
    isBlank c = (c == ' ') := by
  rw [isBlank, printable.beq_eq_false '\t' (by decide), Bool.or_false]

theorem Place.column_after {c : Char} (printable : IsPrintable c) (place : Place) :
    (place.after c).column = place.column + 1 := by
  rw [Place.after, isBreak_of_isPrintable printable]
  rfl

theorem Place.column_le_afterAll {text : List Char} (printable : ∀ c ∈ text, IsPrintable c)
    (place : Place) : place.column ≤ (place.afterAll text).column := by
  induction text generalizing place with
  | nil => exact Nat.le_refl _
  | cons c rest ih =>
      have later := ih (fun c listed => printable c (List.mem_cons_of_mem _ listed))
        (place.after c)
      rw [Place.column_after (printable c List.mem_cons_self)] at later
      exact Nat.le_of_succ_le later

namespace Partial

/-- A scalar that goes on in the line it began in, and not in front of its first column. -/
structure IsOnLine (part : Partial) : Prop where
  gap : part.gap.isOnLine = true
  column : 0 < part.place.column

/-- The characters of a scalar in progress with the blanks behind them, latest first. -/
def letters (part : Partial) : List Char := part.gap.folded ++ part.written

theorem isOnLine_start {place : Place} (inside : 0 < place.column) : (start place).IsOnLine :=
  ⟨rfl, inside⟩

theorem atMarker_eq {part : Partial} (onLine : part.IsOnLine) (text : List Char) :
    part.atMarker text = false := by
  have notFirst : (part.place.column == 0) = false :=
    beq_eq_false_iff_ne.mpr (Nat.pos_iff_ne_zero.mp onLine.column)
  rw [atMarker, notFirst, Bool.false_and]

theorem IsOnLine.push {part : Partial} (onLine : part.IsOnLine) (c : Char) {spelled : List Char}
    (printable : ∀ c ∈ spelled, IsPrintable c) : (part.push c spelled).IsOnLine where
  gap := rfl
  column := Nat.lt_of_lt_of_le onLine.column (Place.column_le_afterAll printable _)

theorem letters_push (part : Partial) (c : Char) (spelled : List Char) :
    (part.push c spelled).letters = c :: part.letters := rfl

theorem IsOnLine.pushBlank {part : Partial} (onLine : part.IsOnLine) {c : Char}
    (printable : IsPrintable c) : (part.pushBlank c).IsOnLine where
  gap := by
    have gap := onLine.gap
    rw [Partial.pushBlank]
    cases same : part.gap with
    | blanks reversed => rfl
    | breaks first more => rw [same] at gap; cases gap
  column := by
    rw [Partial.pushBlank, Place.column_after printable]
    exact Nat.succ_pos _

theorem letters_pushBlank {part : Partial} (onLine : part.IsOnLine) (c : Char) :
    (part.pushBlank c).letters = c :: part.letters := by
  have gap := onLine.gap
  rw [letters, Partial.pushBlank, letters]
  cases same : part.gap with
  | blanks reversed => rfl
  | breaks first more => rw [same] at gap; cases gap

end Partial

/-! ## Texts between double quotes -/

theorem digitsIn?_of_unit? {a b c d : Char} {unit : Nat} (found : Json.unit? a b c d = some unit) :
    digitsIn? 16 [a, b, c, d] = some unit := by
  simp only [Json.unit?, Option.bind_eq_bind, Option.bind_eq_some_iff] at found
  obtain ⟨first, isFirst, second, isSecond, third, isThird, fourth, isFourth, same⟩ := found
  have sum : ((first * 16 + second) * 16 + third) * 16 + fourth = unit := Option.some.inj same
  rw [digitsIn?]
  simp [isFirst, isSecond, isThird, isFourth, Json.hexValue?_lt isFirst,
    Json.hexValue?_lt isSecond, Json.hexValue?_lt isThird, Json.hexValue?_lt isFourth]
  omega

/-- A unit that stands for a character is no half of a surrogate pair. -/
theorem codeChar?_of_unit? {a b c d letter : Char} {unit : Nat}
    (found : Json.unit? a b c d = some unit) (isCode : codeChar? [a, b, c, d] = some letter) :
    letter = Char.ofNat unit ∧ Json.isHighSurrogate unit = false ∧
      Json.isLowSurrogate unit = false := by
  rw [codeChar?, digitsIn?_of_unit? found] at isCode
  dsimp only [Option.bind_eq_bind, Option.bind_some] at isCode
  split at isCode
  · next inside =>
      refine ⟨(Option.some.inj isCode).symm, ?_, ?_⟩
      · simp [Json.isHighSurrogate]; omega
      · simp [Json.isLowSurrogate]; omega
  · cases isCode

theorem escapedChar?_of_simpleEscape? {c escaped : Char}
    (stands : Json.simpleEscape? c = some escaped) :
    escapedChar? c = some escaped ∧ isBreak c = false ∧ c ≠ 'x' ∧ c ≠ 'u' ∧ c ≠ 'U' := by
  rw [Json.simpleEscape?] at stands
  split at stands
  · next same =>
      cases stands
      rcases same with rfl | rfl | rfl <;> decide
  · repeat' split at stands
    all_goals first | (cases stands; done) | (next same => subst same; cases stands; decide)

theorem readDouble_escape (part : Partial) {c escaped : Char}
    (stands : Json.simpleEscape? c = some escaped) (rest : List Char) :
    readDouble part ('\\' :: c :: rest) = readDouble (part.push escaped ['\\', c]) rest := by
  obtain ⟨isEscaped, notBreak, notX, notSmall, notCapital⟩ := escapedChar?_of_simpleEscape? stands
  rw [readDouble, notBreak, isEscaped]
  · rfl
  · exact fun _ _ _ same => absurd same notX
  · exact fun _ _ _ _ _ same => absurd same notSmall
  · exact fun _ _ _ _ _ _ _ _ _ same => absurd same notCapital

theorem readDouble_plain {part : Partial} (onLine : part.IsOnLine) {c : Char}
    (printable : IsPrintable c) (notQuote : c ≠ '"') (notBackslash : c ≠ '\\')
    (rest : List Char) :
    ∃ longer : Partial, longer.IsOnLine ∧ longer.letters = c :: part.letters ∧
      readDouble part (c :: rest) = readDouble longer rest := by
  have step : readDouble part (c :: rest) =
      if c == ' ' then readDouble (part.pushBlank c) rest
      else readDouble (part.push c [c]) rest := by
    rw [readDouble]
    · rw [Partial.atMarker_eq onLine, isBreak_of_isPrintable printable,
        isBlank_of_isPrintable printable, beq_eq_false_iff_ne.mpr notQuote,
        beq_eq_false_iff_ne.mpr notBackslash]
      simp
    · exact fun _ _ _ same => absurd same notBackslash
    · exact fun _ _ _ _ _ same => absurd same notBackslash
    · exact fun _ _ _ _ _ _ _ _ _ same => absurd same notBackslash
    · exact fun _ _ same => absurd same notBackslash
  split at step
  · exact ⟨part.pushBlank c, onLine.pushBlank printable, Partial.letters_pushBlank onLine c, step⟩
  · exact ⟨part.push c [c], onLine.push c (by simpa using printable), rfl, step⟩

theorem readDouble_close {part : Partial} (onLine : part.IsOnLine) (rest : List Char) :
    readDouble part ('"' :: rest) = some (part.close '"', rest) := by
  rw [readDouble]
  · rw [Partial.atMarker_eq onLine]
    rfl
  all_goals exact fun _ _ => nofun

/-- What both formats read between quotes is the same, and ends at the same quote. -/
theorem readDouble_units {text rest : List Char} {units : List Json.TextUnit}
    (printable : ∀ c ∈ text, IsPrintable c) (read : Json.readUnits text = some (units, rest))
    {part closed : Partial} {behind : List Char} (onLine : part.IsOnLine)
    (readToo : readDouble part text = some (closed, behind)) :
    ∃ chars, Json.unitChars? units = some chars ∧ behind = rest ∧
      closed.written = chars.reverse ++ part.letters ∧ 0 < closed.place.column := by
  fun_induction Json.readUnits text generalizing units part with
  | case1 => cases read
  | case2 others =>
      cases read
      rw [readDouble_close onLine] at readToo
      cases readToo
      have quoted := printable '"' List.mem_cons_self
      refine ⟨[], rfl, rfl, rfl, ?_⟩
      rw [Partial.close, Place.column_after quoted]
      exact Nat.succ_pos _
  | case3 a b c d others ih =>
      obtain ⟨unit, isUnit, read⟩ := Option.bind_eq_some_iff.mp read
      obtain ⟨⟨later, remaining⟩, readLater, same⟩ := Option.bind_eq_some_iff.mp read
      cases same
      rw [readDouble] at readToo
      obtain ⟨letter, isCode, readToo⟩ := Option.bind_eq_some_iff.mp readToo
      obtain ⟨rfl, notHigh, notLow⟩ := codeChar?_of_unit? isUnit isCode
      have spelled : ∀ letter ∈ ['\\', 'u', a, b, c, d], IsPrintable letter :=
        fun letter listed => printable letter (List.mem_append_left others listed)
      have otherPrintable : ∀ letter ∈ others, IsPrintable letter := fun letter listed =>
        printable letter (List.mem_append_right ['\\', 'u', a, b, c, d] listed)
      obtain ⟨chars, areChars, ends, written, column⟩ :=
        ih otherPrintable readLater (onLine.push (Char.ofNat unit) spelled) readToo
      refine ⟨Char.ofNat unit :: chars, ?_, ends, ?_, column⟩
      · rw [Json.unitChars?_code notHigh notLow, areChars]
        rfl
      · rw [written, Partial.letters_push]
        simp
  | case4 c others notUnit ih =>
      obtain ⟨escaped, stands, read⟩ := Option.bind_eq_some_iff.mp read
      obtain ⟨⟨later, remaining⟩, readLater, same⟩ := Option.bind_eq_some_iff.mp read
      cases same
      rw [readDouble_escape part stands] at readToo
      have spelled : ∀ letter ∈ ['\\', c], IsPrintable letter :=
        fun letter listed => printable letter (List.mem_append_left others listed)
      have otherPrintable : ∀ letter ∈ others, IsPrintable letter := fun letter listed =>
        printable letter (List.mem_append_right ['\\', c] listed)
      obtain ⟨chars, areChars, ends, written, column⟩ :=
        ih otherPrintable readLater (onLine.push escaped spelled) readToo
      refine ⟨escaped :: chars, ?_, ends, ?_, column⟩
      · rw [Json.unitChars?, areChars]
        rfl
      · rw [written, Partial.letters_push]
        simp
  | case5 => cases read
  | case6 c others notQuote _ _ plain ih =>
      obtain ⟨⟨later, remaining⟩, readLater, same⟩ := Option.bind_eq_some_iff.mp read
      cases same
      obtain ⟨longer, longerOnLine, letters, step⟩ := readDouble_plain onLine
        (printable c List.mem_cons_self) notQuote (fun same => plain (.inl same)) others
      rw [step] at readToo
      have otherPrintable : ∀ c ∈ others, IsPrintable c :=
        fun letter listed => printable letter (List.mem_cons_of_mem _ listed)
      obtain ⟨chars, areChars, ends, written, column⟩ :=
        ih otherPrintable readLater longerOnLine readToo
      refine ⟨c :: chars, ?_, ends, ?_, column⟩
      · rw [Json.unitChars?, areChars]
        rfl
      · rw [written, letters]
        simp

/-! ## Plain scalars between brackets -/

/-- The characters of words and numerals. -/
def isPlainChar (c : Char) : Bool := c.isAlphanum || c == '+' || c == '-' || c == '.'

theorem isPlainChar_of_isDigit {c : Char} (isDigit : c.isDigit = true) : isPlainChar c = true := by
  simp [isPlainChar, Char.isAlphanum, isDigit]

theorem beq_of_isPlainChar {c : Char} (plain : isPlainChar c = true) (other : Char)
    (isOther : isPlainChar other = false) : (c == other) = false := by
  refine beq_eq_false_iff_ne.mpr ?_
  rintro rfl
  cases plain.symm.trans isOther

theorem isBreak_of_isPlainChar {c : Char} (plain : isPlainChar c = true) : isBreak c = false := by
  rw [isBreak, beq_of_isPlainChar plain '\n' (by decide),
    beq_of_isPlainChar plain '\u2028' (by decide), beq_of_isPlainChar plain '\u2029' (by decide)]
  rfl

theorem isBlank_of_isPlainChar {c : Char} (plain : isPlainChar c = true) : isBlank c = false := by
  rw [isBlank, beq_of_isPlainChar plain ' ' (by decide), beq_of_isPlainChar plain '\t' (by decide)]
  rfl

theorem isFlowMark_of_isPlainChar {c : Char} (plain : isPlainChar c = true) :
    isFlowMark c = false := by
  simp only [isFlowMark, Bool.or_eq_false_iff]
  refine ⟨⟨⟨⟨?_, ?_⟩, ?_⟩, ?_⟩, ?_⟩ <;> exact beq_of_isPlainChar plain _ (by decide)

theorem Partial.isOnLine_pushPlain (part : Partial) {c : Char} (plain : isPlainChar c = true) :
    (part.push c [c]).IsOnLine where
  gap := rfl
  column := by
    change 0 < (part.place.after c).column
    rw [Place.after, isBreak_of_isPlainChar plain]
    exact Nat.succ_pos _

theorem readPlain_push {part : Partial} (onLine : part.IsOnLine) {c : Char}
    (plain : isPlainChar c = true) (floor : Nat) (rest : List Char) :
    readPlain true floor part (c :: rest) = readPlain true floor (part.push c [c]) rest := by
  rw [readPlain, onLine.gap, isBreak_of_isPlainChar plain, isBlank_of_isPlainChar plain,
    Partial.atMarker_eq onLine, isFlowMark_of_isPlainChar plain,
    beq_of_isPlainChar plain '#' (by decide),
    beq_of_isPlainChar plain ':' (by decide)]
  simp

theorem isFlowMark_cases {mark : Char} (isMark : isFlowMark mark = true) :
    mark = ',' ∨ mark = '[' ∨ mark = ']' ∨ mark = '{' ∨ mark = '}' := by
  simpa [isFlowMark, or_assoc] using isMark

theorem readPlain_mark {part : Partial} (onLine : part.IsOnLine) {mark : Char}
    (isMark : isFlowMark mark = true) (floor : Nat) (rest : List Char) :
    readPlain true floor part (mark :: rest) = some (part, mark :: rest) := by
  have solid : isBreak mark = false ∧ isBlank mark = false ∧ (mark == '#') = false ∧
      (mark == ':') = false := by
    rcases isFlowMark_cases isMark with rfl | rfl | rfl | rfl | rfl <;> decide +kernel
  obtain ⟨notBreak, notBlank, notComment, notColon⟩ := solid
  rw [readPlain, onLine.gap, notBreak, notBlank, notComment, notColon,
    Partial.atMarker_eq onLine, isMark]
  simp

theorem readPlain_spaces {rest more : List Char} {mark : Char}
    (stops : rest.dropWhile (· == ' ') = mark :: more) (isMark : isFlowMark mark = true)
    (floor : Nat) {part : Partial} (onLine : part.IsOnLine) :
    ∃ done : Partial, readPlain true floor part rest = some (done, mark :: more) ∧
      done.IsOnLine ∧ done.written = part.written := by
  induction rest generalizing part with
  | nil => cases stops
  | cons c rest ih =>
      by_cases isSpace : c = ' '
      · subst isSpace
        have printable : IsPrintable ' ' := ⟨by decide, by decide⟩
        rw [List.dropWhile_cons_of_pos rfl] at stops
        obtain ⟨done, read, doneOnLine, written⟩ := ih stops (onLine.pushBlank printable)
        refine ⟨done, ?_, doneOnLine, written⟩
        rw [readPlain, onLine.gap]
        exact read
      · rw [List.dropWhile_cons_of_neg (by simpa using isSpace)] at stops
        cases stops
        exact ⟨part, readPlain_mark onLine isMark floor _, onLine, rfl⟩

/-- A word that stands before a mark of brackets is all of a plain scalar. -/
theorem readPlain_word {word rest more : List Char} {mark : Char}
    (plain : ∀ c ∈ word, isPlainChar c = true) (stops : rest.dropWhile (· == ' ') = mark :: more)
    (isMark : isFlowMark mark = true) (floor : Nat) {part : Partial} (onLine : part.IsOnLine)
    (noGap : part.gap = .blanks []) :
    ∃ done : Partial, readPlain true floor part (word ++ rest) = some (done, mark :: more) ∧
      done.IsOnLine ∧ done.written = word.reverse ++ part.written := by
  induction word generalizing part with
  | nil => exact readPlain_spaces stops isMark floor onLine
  | cons c word ih =>
      have isPlain := plain c List.mem_cons_self
      have others : ∀ c ∈ word, isPlainChar c = true :=
        fun c listed => plain c (List.mem_cons_of_mem _ listed)
      obtain ⟨done, read, doneOnLine, written⟩ := ih others (part.isOnLine_pushPlain isPlain) rfl
      refine ⟨done, ?_, doneOnLine, ?_⟩
      · rw [List.cons_append, readPlain_push onLine isPlain, read]
      · have pushed : (part.push c [c]).written = c :: part.written := by
          rw [Partial.push, Partial.fill, noGap]
          rfl
        rw [written, pushed]
        simp

end Yaml

end AtomicCss
