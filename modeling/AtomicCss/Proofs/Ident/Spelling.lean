import AtomicCss.Proofs.Ident.Run
import AtomicCss.Proofs.Text.Words

/-!
# Characters of identifiers

Parts are spelled with identifier characters only and never come out empty. Prefixes, joining
dashes, escapes and numbers add identifier characters, so a pool gives out plain names: they
are not empty and hold no blank.
-/

set_option autoImplicit false

namespace AtomicCss.Ident

/-- A name that is not empty and consists of identifier characters. -/
structure IsPlain (name : String) : Prop where
  ne_empty : name ≠ ""
  chars : ∀ c ∈ name.toList, isIdentChar c = true

theorem toNat_of_isIdentChar {c : Char} (shown : isIdentChar c = true) :
    45 ≤ c.toNat ∧ c.toNat ≤ 122 := by
  change (((c.isUpper || c.isLower) || c.isDigit) || c == '_' || c == '-') = true at shown
  simp only [Bool.or_eq_true, beq_iff_eq] at shown
  unfold Char.toNat
  rcases shown with (((capital | small) | digit) | rfl) | rfl
  · obtain ⟨lower, upper⟩ : 65 ≤ c.val ∧ c.val ≤ 90 := of_decide_eq_true capital
    rw [UInt32.le_iff_toNat_le] at lower upper
    exact ⟨Nat.le_trans (by decide) lower, Nat.le_trans upper (by decide)⟩
  · obtain ⟨lower, upper⟩ := Bool.and_eq_true_iff.mp small
    have lower := UInt32.le_iff_toNat_le.mp (of_decide_eq_true lower)
    have upper := UInt32.le_iff_toNat_le.mp (of_decide_eq_true upper)
    exact ⟨Nat.le_trans (by decide) lower, Nat.le_trans upper (by decide)⟩
  · obtain ⟨lower, upper⟩ := Bool.and_eq_true_iff.mp digit
    have lower := UInt32.le_iff_toNat_le.mp (of_decide_eq_true lower)
    have upper := UInt32.le_iff_toNat_le.mp (of_decide_eq_true upper)
    exact ⟨Nat.le_trans (by decide) lower, Nat.le_trans upper (by decide)⟩
  · decide
  · decide

theorem isWhiteSpace_of_isIdentChar {c : Char} (shown : isIdentChar c = true) :
    Text.isWhiteSpace c = false := by
  have bounds := toNat_of_isIdentChar shown
  simp only [Text.isWhiteSpace, Text.inRanges, Text.whiteSpaceRanges, List.any_cons,
    List.any_nil, Bool.or_false, Bool.or_eq_false_iff, Bool.and_eq_false_iff,
    decide_eq_false_iff_not]
  omega

theorem IsPlain.isWord {name : String} (plain : IsPlain name) : Text.IsWord name.toList where
  left := fun empty => plain.ne_empty (String.toList_eq_nil_iff.mp empty)
  right := fun c listed => isWhiteSpace_of_isIdentChar (plain.chars c listed)

theorem writeDashed_chars (text : List Char) {written : List Char}
    (before : ∀ c ∈ written, isIdentChar c = true) :
    ∀ c ∈ writeDashed written text, isIdentChar c = true := by
  induction text generalizing written with
  | nil => exact before
  | cons first rest ih =>
      have shown : isIdentChar (if isIdentChar first then first else '-') = true := by
        split
        · assumption
        · rfl
      simp only [writeDashed]
      generalize (if isIdentChar first then first else '-') = character at shown ⊢
      split
      · exact ih before
      · apply ih
        intro c listed
        rcases List.mem_cons.mp listed with rfl | earlier
        · exact shown
        · exact before c earlier

theorem spelling_chars (text : List Char) : ∀ c ∈ spelling text, isIdentChar c = true := by
  intro c listed
  simp only [spelling] at listed
  split at listed
  · rw [List.mem_singleton.mp listed]
    rfl
  · have written := (List.dropWhile_sublist _).subset (List.mem_reverse.mp listed)
    exact writeDashed_chars text (by simp) c written

theorem spelling_ne_nil (text : List Char) : spelling text ≠ [] := by
  simp only [spelling]
  split
  · exact List.cons_ne_nil _ _
  · next written => exact fun empty => written (List.reverse_eq_nil_iff.mp empty)

theorem component_isPlain (romanize : String → String) (part : String) :
    IsPlain (component romanize part) where
  ne_empty := by
    intro empty
    have noChars := congrArg String.toList empty
    rw [component, String.toList_ofList] at noChars
    exact spelling_ne_nil _ noChars
  chars := by
    rw [component, String.toList_ofList]
    exact spelling_chars _

/-- What is written in front of a plain name or behind it may also be empty. -/
theorem IsPlain.append {first second : String}
    (firstChars : ∀ c ∈ first.toList, isIdentChar c = true)
    (secondChars : ∀ c ∈ second.toList, isIdentChar c = true)
    (either : first ≠ "" ∨ second ≠ "") : IsPlain (first ++ second) where
  ne_empty := by
    intro empty
    obtain ⟨noFirst, noSecond⟩ := String.append_eq_empty_iff.mp empty
    exact either.elim (· noFirst) (· noSecond)
  chars := by
    intro c listed
    rw [String.toList_append, List.mem_append] at listed
    exact listed.elim (firstChars c) (secondChars c)

theorem intercalate_isPlain {parts : List String} (some : parts ≠ [])
    (plain : ∀ part ∈ parts, IsPlain part) : IsPlain ("-".intercalate parts) := by
  induction parts with
  | nil => exact absurd rfl some
  | cons part rest ih =>
      have first := plain part List.mem_cons_self
      cases rest with
      | nil => rwa [String.intercalate_singleton]
      | cons next others =>
          have later := ih (List.cons_ne_nil _ _)
            fun part listed => plain part (List.mem_cons_of_mem _ listed)
          have dashed : IsPlain (part ++ "-") :=
            .append first.chars (List.all_eq_true.mp (by decide +kernel)) (.inl first.ne_empty)
          rw [String.intercalate_cons_cons]
          exact .append dashed.chars later.chars (.inl dashed.ne_empty)

end AtomicCss.Ident

namespace AtomicCss.IdentPool

open Ident

theorem start_opening_chars (classPrefix : Option String) (romanize : String → String) :
    ∀ c ∈ (start classPrefix romanize).opening.toList, isIdentChar c = true := by
  intro c listed
  rw [start, String.toList_ofList] at listed
  exact (List.mem_filter.mp listed).2

theorem numbered_isPlain {base : String} (plain : IsPlain base) (number : Nat) :
    IsPlain (numbered base number) := by
  have dashed : IsPlain (base ++ "-") :=
    .append plain.chars (List.all_eq_true.mp (by decide +kernel)) (.inl plain.ne_empty)
  refine .append dashed.chars ?_ (.inl dashed.ne_empty)
  intro c listed
  rw [Nat.toString_eq_ofList_toDigits, String.toList_ofList] at listed
  have digit := Nat.isDigit_of_mem_toDigits (by decide) (by decide) listed
  simp [isIdentChar, Char.isAlphanum, digit]

theorem Due.isPlain {earlier : List String} {base name : String} (due : Due earlier base name)
    (plain : IsPlain base) : IsPlain name := by
  cases due with
  | plain _ => exact plain
  | marked number _ _ _ _ _ => exact numbered_isPlain plain number

namespace Request

def parts : Request → List String
  | .className parts => parts
  | .variableName parts => parts

theorem baseIn_isPlain (pool : IdentPool)
    (opening : ∀ c ∈ pool.opening.toList, isIdentChar c = true) (request : Request)
    (some : request.parts ≠ []) : IsPlain (request.baseIn pool) := by
  have body : IsPlain ("-".intercalate (request.parts.map (component pool.romanize))) := by
    refine intercalate_isPlain (by simpa using some) ?_
    intro spelled listed
    obtain ⟨part, _, rfl⟩ := List.mem_map.mp listed
    exact component_isPlain pool.romanize part
  have joined : IsPlain (pool.joined request.parts) :=
    .append opening body.chars (.inr body.ne_empty)
  cases request with
  | className parts =>
      simp only [baseIn, classBase]
      split
      · exact .append (List.all_eq_true.mp (by decide +kernel)) joined.chars (.inr joined.ne_empty)
      · exact joined
  | variableName parts =>
      exact .append (List.all_eq_true.mp (by decide +kernel)) joined.chars (.inr joined.ne_empty)

end Request

theorem takeAll_isPlain (requests : List Request) (pool : IdentPool)
    (opening : ∀ c ∈ pool.opening.toList, isIdentChar c = true)
    (some : ∀ request ∈ requests, request.parts ≠ []) :
    ∀ name ∈ (takeAll requests pool).1, IsPlain name := by
  induction requests generalizing pool with
  | nil => intro name listed; cases listed
  | cons request rest ih =>
      intro name listed
      rw [takeAll_cons] at listed
      rcases List.mem_cons.mp listed with rfl | later
      · rw [Request.take_run]
        exact (due_freeName _ _).isPlain
          (request.baseIn_isPlain pool opening (some request List.mem_cons_self))
      · have restSome : ∀ request ∈ rest, request.parts ≠ [] := fun request listed =>
          some request (List.mem_cons_of_mem _ listed)
        refine ih (request.take pool).2 ?_ restSome name later
        rw [Request.take_run]
        exact opening

end AtomicCss.IdentPool
