import AtomicCss.Json.Reader
import AtomicCss.PropValue
import AtomicCss.Scale
import Mathlib.Data.List.Basic

/-!
# Numbers of JSON texts

A text gives an integer only where it has 64 bits, with or without sign. A prop value writes
any such integer with its own digits. A scale does so as long as a sign fits in as well, and
takes the way through a double beyond that. Doubles are written alike by both.
-/

set_option autoImplicit false

namespace AtomicCss

theorem fitsSigned_iff (bits : Nat) (value : Int) :
    fitsSigned (bits + 1) value = true ↔ -(twoTo bits : Int) ≤ value ∧ value < twoTo bits := by
  rw [fitsSigned, Bool.and_eq_true, decide_eq_true_eq, decide_eq_true_eq, Nat.add_sub_cancel]

theorem fitsUnsigned_iff (bits : Nat) (value : Int) :
    fitsUnsigned bits value = true ↔ 0 ≤ value ∧ value < twoTo bits := by
  rw [fitsUnsigned, Bool.and_eq_true, decide_eq_true_eq, decide_eq_true_eq]

/-- A number as texts give it: an integer has 64 bits, with or without sign. -/
def JsonNumber.IsRead : JsonNumber → Prop
  | .integer value => fitsSigned 64 value = true ∨ fitsUnsigned 64 value = true
  | .double _ => True

/-- The text of a number in a scale. -/
def JsonNumber.scaleText : JsonNumber → String
  | .integer value =>
      if value < twoTo 63 then toString value else NumberStyle.css.write (Double.ofInt value)
  | .double value => NumberStyle.css.write value

theorem JsonNumber.scaleText_of_short {number : JsonNumber}
    (short : ∀ value, number = .integer value → value < twoTo 63) :
    number.scaleText = number.cssText := by
  cases number with
  | double value => rfl
  | integer value => exact if_pos (short value rfl)

namespace Json

theorem doubleValue_isRead {negative : Bool} {whole fraction : List Char} {exponent : Int}
    {number : JsonNumber} (same : doubleValue negative whole fraction exponent = .number number) :
    number.IsRead := by
  rw [doubleValue] at same
  split at same
  · cases same
    trivial
  · cases same

theorem integerValue_isRead {negative : Bool} {digits : List Char} {number : JsonNumber}
    (same : integerValue negative digits = .number number) : number.IsRead := by
  unfold integerValue at same
  cases negative with
  | true =>
      simp only [if_true] at same
      split at same
      · next fits =>
          cases same
          exact .inl (Bool.and_eq_true_iff.mp fits).2
      · exact doubleValue_isRead same
  | false =>
      simp only [Bool.false_eq_true, if_false] at same
      split at same
      · next fits =>
          cases same
          exact .inr fits
      · exact doubleValue_isRead same

theorem readNumber_isRead {text rest : List Char} {number : JsonNumber}
    (read : readNumber text = some (.number number, rest)) : number.IsRead := by
  unfold readNumber at read
  split at read
  dsimp only at read
  split at read
  · cases read
  · simp only [Option.bind_eq_bind, Option.bind_eq_some_iff] at read
    obtain ⟨⟨fraction, behindFraction⟩, -, ⟨exponent, behindExponent⟩, -, same⟩ := read
    dsimp only at same
    split at same
    · exact integerValue_isRead (congrArg Prod.fst (Option.some.inj same))
    · exact doubleValue_isRead (congrArg Prod.fst (Option.some.inj same))

theorem textValue_ne_number (units : List TextUnit) (number : JsonNumber) :
    textValue units ≠ .number number := by
  rw [textValue]
  split <;> exact Json.noConfusion

theorem objectValue_ne_number (members : List (Option String × Json)) (number : JsonNumber) :
    objectValue members ≠ .number number := by
  rw [objectValue]
  split <;> exact Json.noConfusion

theorem readValue_isRead {steps : Nat} {text rest : List Char} {number : JsonNumber}
    (read : readValue steps text = some (.number number, rest)) : number.IsRead := by
  cases steps with
  | zero => cases read
  | succ steps =>
      rw [readValue] at read
      -- of the ways to read a value only the last gives a number
      split at read
      · cases read
      · cases read
      · cases read
      · obtain ⟨⟨units, behind⟩, -, same⟩ := Option.bind_eq_some_iff.mp read
        exact absurd (congrArg Prod.fst (Option.some.inj same)) (textValue_ne_number units _)
      · split at read
        · cases read
        · obtain ⟨⟨items, behind⟩, -, same⟩ := Option.bind_eq_some_iff.mp read
          cases same
      · split at read
        · cases read
        · obtain ⟨⟨members, behind⟩, -, same⟩ := Option.bind_eq_some_iff.mp read
          exact absurd (congrArg Prod.fst (Option.some.inj same)) (objectValue_ne_number members _)
      · exact readNumber_isRead read

theorem ofText?_isRead {text : String} {number : JsonNumber}
    (read : ofText? text = some (.number number)) : number.IsRead := by
  unfold ofText? ofChars? at read
  split at read
  · next document rest found =>
      split at read
      · cases read
        exact readValue_isRead found
      · cases read
  · cases read

theorem literal?_number {number : JsonNumber} (isRead : number.IsRead) :
    (Json.number number).literal? = some number.scaleText := by
  cases number with
  | double value => rfl
  | integer value =>
      rw [literal?, JsonNumber.scaleText]
      by_cases signed : fitsSigned 64 value = true
      · rw [if_pos signed, if_pos ((fitsSigned_iff 63 value).mp signed).2]
      · have unsigned := (fitsUnsigned_iff 64 value).mp (isRead.resolve_left signed)
        have long : ¬ value < twoTo 63 := fun short =>
          signed ((fitsSigned_iff 63 value).mpr ⟨by omega, short⟩)
        rw [if_neg signed, if_neg long]

end Json

theorem exists_mem_of_mapM {α β : Type} {select : α → Option β} {items : List α} {list : List β}
    (each : items.mapM select = some list) {item : α} (listed : item ∈ items) :
    ∃ value ∈ list, select item = some value := by
  induction items generalizing list with
  | nil => cases listed
  | cons first rest ih =>
      rw [List.mapM_cons] at each
      obtain ⟨value, found, each⟩ := Option.bind_eq_some_iff.mp each
      obtain ⟨later, foundLater, same⟩ := Option.bind_eq_some_iff.mp each
      cases same
      rcases List.mem_cons.mp listed with rfl | inRest
      · exact ⟨value, List.mem_cons_self, found⟩
      · obtain ⟨other, inLater, foundOther⟩ := ih foundLater inRest
        exact ⟨other, List.mem_cons_of_mem _ inLater, foundOther⟩

namespace StaticScale

/-- An array that is a scale has the literals of its items for lookup keys. -/
theorem mem_entries_of_literal? {items : List Json} {scale : StaticScale} {item : Json}
    {text : String} (given : ofJson (.array items) = .ok scale) (listed : item ∈ items)
    (literal : item.literal? = some text) : (text, text) ∈ scale.entries := by
  rw [ofJson] at given
  split at given
  · next list each =>
      cases given
      obtain ⟨other, inList, same⟩ := exists_mem_of_mapM each listed
      cases literal.symm.trans same
      exact List.mem_map.mpr ⟨text, inList, rfl⟩
  · cases given

end StaticScale

end AtomicCss
