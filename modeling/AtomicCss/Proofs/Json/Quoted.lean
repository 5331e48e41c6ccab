import AtomicCss.Json.Printer
import AtomicCss.Json.Reader
import Mathlib.Tactic.SplitIfs

/-!
# Texts between quotes

A character of a text is written behind a backslash, by its number or as it stands. The reader
finds it again in each case, so that a text between quotes is read as it was before it was
written, whatever characters it has.
-/

set_option autoImplicit false

namespace AtomicCss.Json

theorem unit?_hexDigits : ∀ number < 32,
    unit? '0' '0' (hexDigit (number / 16)) (hexDigit (number % 16)) = some number := by
  decide

/-- A character is written behind a backslash, by its number or as it stands. -/
theorem escapeChar_cases (c : Char) :
    (∃ letter, escapeChar c = ['\\', letter] ∧ simpleEscape? letter = some c) ∨
    (escapeChar c = ['\\', 'u', '0', '0', hexDigit (c.toNat / 16), hexDigit (c.toNat % 16)] ∧
      c.toNat < 0x20) ∨
    (escapeChar c = [c] ∧ c ≠ '"' ∧ c ≠ '\\' ∧ 0x20 ≤ c.toNat) := by
  rw [escapeChar]
  split_ifs with quote backslash backspace formFeed lineFeed carriageReturn tab control
  case pos => exact .inl ⟨_, rfl, by rw [quote]; rfl⟩
  case pos => exact .inl ⟨_, rfl, by rw [backslash]; rfl⟩
  case pos => exact .inl ⟨_, rfl, by rw [backspace]; rfl⟩
  case pos => exact .inl ⟨_, rfl, by rw [formFeed]; rfl⟩
  case pos => exact .inl ⟨_, rfl, by rw [lineFeed]; rfl⟩
  case pos => exact .inl ⟨_, rfl, by rw [carriageReturn]; rfl⟩
  case pos => exact .inl ⟨_, rfl, by rw [tab]; rfl⟩
  case pos => exact .inr (.inl ⟨rfl, control⟩)
  case neg => exact .inr (.inr ⟨rfl, quote, backslash, Nat.le_of_not_lt control⟩)

theorem readUnits_behind_backslash {letter escaped : Char}
    (stands : simpleEscape? letter = some escaped) (rest : List Char) :
    readUnits ('\\' :: letter :: rest) =
      (readUnits rest).map fun read => (.char escaped :: read.1, read.2) := by
  have notUnicode : letter ≠ 'u' := by
    rintro rfl
    cases stands
  rw [readUnits]
  · rw [stands]
    cases readUnits rest <;> rfl
  · intro a b c d others isUnicode
    exact absurd isUnicode notUnicode

theorem readUnits_number {number : Nat} (small : number < 0x20) (rest : List Char) :
    readUnits ('\\' :: 'u' :: '0' :: '0' :: hexDigit (number / 16) :: hexDigit (number % 16) ::
        rest) =
      (readUnits rest).map fun read => (.code number :: read.1, read.2) := by
  rw [readUnits, unit?_hexDigits number small]
  cases readUnits rest <;> rfl

theorem readUnits_plain {c : Char} (notQuote : c ≠ '"') (notBackslash : c ≠ '\\')
    (visible : 0x20 ≤ c.toNat) (rest : List Char) :
    readUnits (c :: rest) = (readUnits rest).map fun read => (.char c :: read.1, read.2) := by
  rw [readUnits]
  · rw [if_neg (not_or.mpr ⟨notBackslash, Nat.not_lt.mpr visible⟩)]
    cases readUnits rest <;> rfl
  · exact notQuote
  · exact fun _ _ _ _ _ same => absurd same notBackslash
  · exact fun _ _ same => absurd same notBackslash

/-- A unit that is no half of a surrogate pair is a character by itself. -/
theorem unitChars?_code {unit : Nat} (notHigh : isHighSurrogate unit = false)
    (notLow : isLowSurrogate unit = false) (units : List TextUnit) :
    unitChars? (.code unit :: units) = (unitChars? units).map (Char.ofNat unit :: ·) := by
  cases units with
  | nil => simp only [unitChars?, notHigh, notLow, Bool.or_self, Bool.false_eq_true, if_false]
  | cons next rest =>
      cases next with
      | char c =>
          simp only [unitChars?, notHigh, notLow, Bool.or_self, Bool.false_eq_true, if_false]
      | code low =>
          simp only [unitChars?, notHigh, notLow, Bool.false_and, Bool.or_self,
            Bool.false_eq_true, if_false]

/-- The reader finds each character of a text again, up to the closing quote. -/
theorem readUnits_escaped (text rest : List Char) :
    ∃ units, readUnits (text.flatMap escapeChar ++ '"' :: rest) = some (units, rest) ∧
      unitChars? units = some text := by
  induction text with
  | nil => exact ⟨[], by simp [readUnits], rfl⟩
  | cons c others ih =>
      obtain ⟨units, read, chars⟩ := ih
      rw [List.flatMap_cons, List.append_assoc]
      rcases escapeChar_cases c with ⟨letter, written, stands⟩ | ⟨written, small⟩ |
        ⟨written, notQuote, notBackslash, visible⟩
      · refine ⟨.char c :: units, ?_, by rw [unitChars?, chars]; rfl⟩
        rw [written, List.cons_append, List.singleton_append, readUnits_behind_backslash stands,
          read]
        rfl
      · refine ⟨.code c.toNat :: units, ?_, ?_⟩
        · simp only [written, List.cons_append, List.nil_append]
          rw [readUnits_number small, read]
          rfl
        · have notHigh : isHighSurrogate c.toNat = false := by
            simp only [isHighSurrogate, Bool.and_eq_false_iff, decide_eq_false_iff_not]
            omega
          have notLow : isLowSurrogate c.toNat = false := by
            simp only [isLowSurrogate, Bool.and_eq_false_iff, decide_eq_false_iff_not]
            omega
          rw [unitChars?_code notHigh notLow, chars, Char.ofNat_toNat]
          rfl
      · refine ⟨.char c :: units, ?_, by rw [unitChars?, chars]; rfl⟩
        rw [written, List.singleton_append, readUnits_plain notQuote notBackslash visible, read]
        rfl

theorem readUnits_quoted (text : String) (rest : List Char) :
    ∃ units, readUnits (text.toList.flatMap escapeChar ++ '"' :: rest) = some (units, rest) ∧
      textOf? units = some text := by
  obtain ⟨units, read, chars⟩ := readUnits_escaped text.toList rest
  exact ⟨units, read, by rw [textOf?, chars, Option.map_some, String.ofList_toList]⟩

theorem quoted_append (text rest : List Char) :
    quoted text ++ rest = '"' :: (text.flatMap escapeChar ++ '"' :: rest) := by
  simp [quoted]

end AtomicCss.Json
