import AtomicCss.Proofs.Ident.Spelling

/-!
# How identifiers begin

An identifier begins with what is kept of the class prefix and goes on with its first part,
which never begins with a dash. The escape looks at the very first character only, and a number
comes behind everything else. So the prefix and the first part decide how an identifier begins.
-/

set_option autoImplicit false

namespace AtomicCss.Ident

def opensDigit (text : List Char) : Bool := text.head?.any Char.isDigit

/-- Whether a text begins with a dash and a digit, as a negative number does. -/
def opensNegative (text : List Char) : Bool := text.head? == some '-' && opensDigit text.tail

/-- A plain name that needs no escape in a style sheet: it does not begin as a number does and
is not a dash alone. -/
structure IsCssIdent (name : String) : Prop extends IsPlain name where
  noDigit : opensDigit name.toList = false
  noNegative : opensNegative name.toList = false
  ne_dash : name ≠ "-"

/-- What is kept of a class prefix. -/
def opening (classPrefix : Option String) : List Char :=
  (classPrefix.getD "").toList.filter isIdentChar

/-- What the names of some parts begin with, given the first part. -/
def front (classPrefix : Option String) (romanize : String → String) (part : String) :
    List Char :=
  opening classPrefix ++ (component romanize part).toList

/-- A text begins with the given characters, behind an underscore if these begin with a digit. -/
def BeginsEscaped (start text : List Char) : Prop :=
  (if opensDigit start then ['_'] else []) ++ start <+: text

theorem opensDigit_append {text : List Char} (some : text ≠ []) (more : List Char) :
    opensDigit (text ++ more) = opensDigit text := by
  cases text with
  | nil => exact absurd rfl some
  | cons first rest => rfl

theorem opensNegative_append {part : List Char} (some : part ≠ [])
    (noDash : part.head? ≠ .some '-') (before more : List Char) :
    opensNegative (before ++ part ++ more) = opensNegative (before ++ part) := by
  cases part with
  | nil => exact absurd rfl some
  | cons first rest =>
      cases before with
      | nil =>
          have different : first ≠ '-' := fun same => noDash (congrArg Option.some same)
          have notDash : (first == '-') = false := beq_eq_false_iff_ne.mpr different
          simp [opensNegative, notDash]
      | cons c others =>
          cases others with
          | nil => rfl
          | cons second others => rfl

-- the characters are written in front of those before, so the first of them stands last
theorem getLast?_writeDashed (text : List Char) {written : List Char}
    (before : written.getLast? ≠ some '-') :
    (writeDashed written text).getLast? ≠ some '-' := by
  induction text generalizing written with
  | nil => exact before
  | cons first rest ih =>
      simp only [writeDashed]
      generalize (if isIdentChar first then first else '-') = shown
      split
      · exact ih before
      · next kept =>
          apply ih
          cases written with
          | nil => simpa using kept
          | cons last others => rwa [List.getLast?_cons_cons]

theorem head?_spelling (text : List Char) : (spelling text).head? ≠ some '-' := by
  simp only [spelling]
  split
  · decide
  · next written nonempty =>
      obtain ⟨dropped, split⟩ := List.dropWhile_suffix (l := writeDashed [] text) (· == '-')
      have sameLast := congrArg List.getLast? split
      rw [List.getLast?_append_of_ne_nil _ nonempty] at sameLast
      rw [List.head?_reverse, sameLast]
      exact getLast?_writeDashed text (by simp)

theorem head?_component (romanize : String → String) (part : String) :
    (component romanize part).toList.head? ≠ some '-' := by
  rw [component, String.toList_ofList]
  exact head?_spelling _

theorem component_toList_ne_nil (romanize : String → String) (part : String) :
    (component romanize part).toList ≠ [] := by
  rw [component, String.toList_ofList]
  exact spelling_ne_nil _

theorem front_ne_nil (classPrefix : Option String) (romanize : String → String)
    (part : String) : front classPrefix romanize part ≠ [] :=
  List.append_ne_nil_of_right_ne_nil _ (component_toList_ne_nil romanize part)

end AtomicCss.Ident

namespace AtomicCss.IdentPool

open Ident

variable {classPrefix : Option String} {romanize : String → String}

theorem Due.isPrefix_base {earlier : List String} {base name : String}
    (due : Due earlier base name) : base.toList <+: name.toList := by
  cases due with
  | plain _ => exact List.prefix_refl _
  | marked number _ _ _ _ _ =>
      rw [numbered, String.append_assoc, String.toList_append]
      exact List.prefix_append _ _

theorem isPrefix_joined (classPrefix : Option String) (romanize : String → String)
    (part : String) (rest : List String) :
    front classPrefix romanize part <+:
      ((start classPrefix romanize).joined (part :: rest)).toList := by
  rw [joined, String.toList_append, start, String.toList_ofList, front]
  refine (List.prefix_append_right_inj _).mpr ?_
  cases rest with
  | nil =>
      have alone : "-".intercalate ([part].map (component romanize)) = component romanize part := by
        rw [List.map_singleton, String.intercalate_singleton]
      exact alone ▸ List.prefix_refl _
  | cons next others =>
      rw [List.map_cons, List.map_cons, String.intercalate_cons_cons, String.append_assoc,
        String.toList_append]
      exact List.prefix_append _ _

namespace Request

theorem beginsEscaped_className {part : String} {rest earlier : List String} {name : String}
    (due : Due earlier (base classPrefix romanize (.className (part :: rest))) name) :
    BeginsEscaped (front classPrefix romanize part) name.toList := by
  obtain ⟨more, joined⟩ := isPrefix_joined classPrefix romanize part rest
  have sameDigit : opensDigit ((start classPrefix romanize).joined (part :: rest)).toList =
      opensDigit (front classPrefix romanize part) := by
    rw [← joined, opensDigit_append (front_ne_nil _ _ _)]
  rw [opensDigit] at sameDigit
  refine List.IsPrefix.trans ⟨more, ?_⟩ due.isPrefix_base
  rw [← baseIn_start, baseIn, classBase]
  simp only [sameDigit]
  split
  · rw [String.toList_append, ← joined, List.append_assoc]
    rfl
  · rw [← joined, List.nil_append]

theorem isPrefix_variableName {part : String} {rest earlier : List String} {name : String}
    (due : Due earlier (base classPrefix romanize (.variableName (part :: rest))) name) :
    '-' :: '-' :: front classPrefix romanize part <+: name.toList := by
  obtain ⟨more, joined⟩ := isPrefix_joined classPrefix romanize part rest
  refine List.IsPrefix.trans ⟨more, ?_⟩ due.isPrefix_base
  rw [← baseIn_start, baseIn, variableBase, String.toList_append, ← joined]
  rfl

end Request

end AtomicCss.IdentPool

namespace AtomicCss.Ident.BeginsEscaped

variable {classPrefix : Option String} {romanize : String → String} {part : String}
  {text : List Char}

theorem noDigit (escaped : BeginsEscaped (front classPrefix romanize part) text) :
    opensDigit text = false := by
  obtain ⟨more, rfl⟩ := escaped
  split
  · rfl
  · next noDigit =>
      rw [List.nil_append, opensDigit_append (front_ne_nil _ _ _)]
      exact Bool.eq_false_iff.mpr noDigit

theorem ne_dash (escaped : BeginsEscaped (front classPrefix romanize part) text) :
    text ≠ ['-'] := by
  have some := component_toList_ne_nil romanize part
  obtain ⟨more, rfl⟩ := escaped
  split
  · intro dash
    cases dash
  · intro dash
    rw [List.nil_append, front] at dash
    cases kept : opening classPrefix with
    | nil =>
        have noDash := head?_component romanize part
        rw [kept, List.nil_append] at dash
        rw [← List.head?_append_of_ne_nil _ some, dash] at noDash
        exact noDash rfl
    | cons c others =>
        rw [kept] at dash
        have lengths := congrArg List.length dash
        have long := List.length_pos_iff.mpr some
        simp only [List.cons_append, List.length_cons, List.length_append, List.length_nil]
          at lengths
        omega

/-- The prefix and the first part alone can make a class name begin like a negative number. -/
theorem opensNegative_eq (escaped : BeginsEscaped (front classPrefix romanize part) text) :
    opensNegative text = opensNegative (front classPrefix romanize part) := by
  obtain ⟨more, rfl⟩ := escaped
  split
  · next digit =>
      cases opened : front classPrefix romanize part with
      | nil => rfl
      | cons first rest =>
          rw [opened] at digit
          have notDash : (first == '-') = false := by
            refine beq_eq_false_iff_ne.mpr fun same => ?_
            cases same
            cases digit
          simp [opensNegative, notDash]
  · rw [List.nil_append, front]
    exact opensNegative_append (component_toList_ne_nil romanize part)
      (head?_component romanize part) _ _

end AtomicCss.Ident.BeginsEscaped
