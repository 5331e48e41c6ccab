import AtomicCss.Proofs.Json.Quoted

/-!
# The grammar of JSON texts

What it means that a text spells a tree, as a relation: blanks may stand in front of every
part, before a closing bracket and behind a colon. Trees with numbers have no spelling here.
The reader finds every tree that is spelled.
-/

set_option autoImplicit false

namespace AtomicCss.Json

/-- A row of blanks. -/
def IsGap (gap : List Char) : Prop := ∀ c ∈ gap, isBlank c = true

mutual

/-- A text spells a tree of texts, truth values and nulls. -/
inductive Spells : Json → List Char → Prop where
  | null : Spells .null ['n', 'u', 'l', 'l']
  | yes : Spells (.bool true) ['t', 'r', 'u', 'e']
  | no : Spells (.bool false) ['f', 'a', 'l', 's', 'e']
  | string (text : String) : Spells (.string text) (quoted text.toList)
  | emptyArray : Spells (.array []) ['[', ']']
  | array {items : List Json} {text gap : List Char} :
      SpellsItems items text → IsGap gap → Spells (.array items) ('[' :: (text ++ (gap ++ [']'])))
  | emptyObject : Spells (.object []) ['{', '}']
  | object {members : List (String × Json)} {text gap : List Char} :
      SpellsMembers members text → IsGap gap →
      Spells (.object members) ('{' :: (text ++ (gap ++ ['}'])))

/-- A text spells the items of an array that has some. -/
inductive SpellsItems : List Json → List Char → Prop where
  | last {item : Json} {gap text : List Char} :
      IsGap gap → Spells item text → SpellsItems [item] (gap ++ text)
  | cons {item : Json} {rest : List Json} {gap text others : List Char} :
      IsGap gap → Spells item text → SpellsItems rest others →
      SpellsItems (item :: rest) (gap ++ (text ++ ',' :: others))

/-- A text spells the members of an object that has some. -/
inductive SpellsMembers : List (String × Json) → List Char → Prop where
  | last {name : String} {value : Json} {gap behindColon text : List Char} :
      IsGap gap → IsGap behindColon → Spells value text →
      SpellsMembers [(name, value)] (gap ++ (quoted name.toList ++ ':' :: (behindColon ++ text)))
  | cons {name : String} {value : Json} {rest : List (String × Json)}
      {gap behindColon text others : List Char} :
      IsGap gap → IsGap behindColon → Spells value text → SpellsMembers rest others →
      SpellsMembers ((name, value) :: rest)
        (gap ++ (quoted name.toList ++ ':' :: (behindColon ++ (text ++ ',' :: others))))

end

theorem skipBlanks_gap {gap : List Char} (blank : IsGap gap) (rest : List Char) :
    skipBlanks (gap ++ rest) = skipBlanks rest :=
  List.dropWhile_append_of_pos blank

theorem skipBlanks_cons {c : Char} (solid : isBlank c = false) (rest : List Char) :
    skipBlanks (c :: rest) = c :: rest :=
  List.dropWhile_cons_of_neg (Bool.eq_false_iff.mp solid)

theorem readValue_gap {gap : List Char} (blank : IsGap gap) (steps : Nat) (rest : List Char) :
    readValue steps (gap ++ rest) = readValue steps rest := by
  cases steps with
  | zero => rfl
  | succ steps => rw [readValue, readValue, skipBlanks_gap blank]

theorem Spells.opens {document : Json} {text : List Char} (spells : Spells document text)
    (rest others : List Char) : skipBlanks (text ++ rest) ≠ ']' :: others := by
  obtain ⟨first, behind, rfl, solid, notClosing⟩ :
      ∃ first behind, text = first :: behind ∧ isBlank first = false ∧ first ≠ ']' := by
    cases spells <;> exact ⟨_, _, rfl, rfl, by decide⟩
  rw [List.cons_append, skipBlanks_cons solid]
  exact fun same => notClosing (List.cons.inj same).1

theorem SpellsItems.opens {items : List Json} {text : List Char}
    (spells : SpellsItems items text) (rest others : List Char) :
    skipBlanks (text ++ rest) ≠ ']' :: others := by
  cases spells with
  | last blank spells =>
      rw [List.append_assoc, skipBlanks_gap blank]
      exact spells.opens rest others
  | cons blank spells _ =>
      rw [List.append_assoc, skipBlanks_gap blank, List.append_assoc]
      exact spells.opens _ others

theorem SpellsMembers.opens {members : List (String × Json)} {text : List Char}
    (spells : SpellsMembers members text) (rest others : List Char) :
    skipBlanks (text ++ rest) ≠ '}' :: others := by
  cases spells with
  | last blank _ _ =>
      rw [List.append_assoc, skipBlanks_gap blank, List.append_assoc, quoted_append,
        skipBlanks_cons rfl]
      exact fun same => nomatch same
  | cons blank _ _ _ =>
      rw [List.append_assoc, skipBlanks_gap blank, List.append_assoc, quoted_append,
        skipBlanks_cons rfl]
      exact fun same => nomatch same

theorem readValue_string (steps : Nat) (text : String) (rest : List Char) :
    readValue (steps + 1) (quoted text.toList ++ rest) = some (.string text, rest) := by
  obtain ⟨units, read, same⟩ := readUnits_quoted text rest
  rw [quoted_append, readValue, skipBlanks_cons rfl]
  simp [read, textValue, same]

theorem readValue_array {steps : Nat} {items : List Json} {text rest : List Char}
    (opens : ∀ others, skipBlanks text ≠ ']' :: others)
    (read : readItems steps text = some (items, rest)) :
    readValue (steps + 1) ('[' :: text) = some (.array items, rest) := by
  rw [readValue, skipBlanks_cons rfl]
  simp only [read]
  rfl

theorem objectValue_named (members : List (String × Json)) :
    objectValue (members.map fun member => (some member.1, member.2)) = .object members := by
  have named : (members.map fun member => (some member.1, member.2)).mapM
      (fun member : Option String × Json => member.1.map (·, member.2)) = some members := by
    induction members with
    | nil => rfl
    | cons member rest ih =>
        rw [List.map_cons, List.mapM_cons, ih]
        rfl
  rw [objectValue, named]

theorem readValue_object {steps : Nat} {members : List (String × Json)} {text rest : List Char}
    (opens : ∀ others, skipBlanks text ≠ '}' :: others)
    (read : readMembers steps text =
      some (members.map fun member => (some member.1, member.2), rest)) :
    readValue (steps + 1) ('{' :: text) = some (.object members, rest) := by
  rw [readValue, skipBlanks_cons rfl]
  simp only [read]
  exact congrArg (fun document => some (document, rest)) (objectValue_named members)

theorem readItems_last {steps : Nat} {item : Json} {text gap rest : List Char}
    (blank : IsGap gap) (read : readValue steps text = some (item, gap ++ ']' :: rest)) :
    readItems (steps + 1) text = some ([item], rest) := by
  rw [readItems, read]
  simp only [Option.bind_eq_bind, Option.bind_some, skipBlanks_gap blank,
    skipBlanks_cons (c := ']') rfl]
  rfl

theorem readItems_cons {steps : Nat} {item : Json} {items : List Json}
    {text others rest : List Char} (read : readValue steps text = some (item, ',' :: others))
    (readRest : readItems steps others = some (items, rest)) :
    readItems (steps + 1) text = some (item :: items, rest) := by
  rw [readItems, read]
  simp only [Option.bind_eq_bind, Option.bind_some, skipBlanks_cons (c := ',') rfl, readRest]
  rfl

theorem readMembers_last {steps : Nat} {name : String} {value : Json}
    {gap text closing rest : List Char} (blank : IsGap gap) (blankClosing : IsGap closing)
    (read : readValue steps text = some (value, closing ++ '}' :: rest)) :
    readMembers (steps + 1) (gap ++ (quoted name.toList ++ ':' :: text)) =
      some ([(some name, value)], rest) := by
  obtain ⟨units, readName, same⟩ := readUnits_quoted name (':' :: text)
  rw [readMembers, skipBlanks_gap blank, quoted_append, skipBlanks_cons rfl]
  simp only [Option.bind_eq_bind, readName, Option.bind_some, skipBlanks_cons (c := ':') rfl, read,
    skipBlanks_gap blankClosing, skipBlanks_cons (c := '}') rfl, same]
  rfl

theorem readMembers_cons {steps : Nat} {name : String} {value : Json}
    {members : List (Option String × Json)} {gap text others rest : List Char}
    (blank : IsGap gap) (read : readValue steps text = some (value, ',' :: others))
    (readRest : readMembers steps others = some (members, rest)) :
    readMembers (steps + 1) (gap ++ (quoted name.toList ++ ':' :: text)) =
      some ((some name, value) :: members, rest) := by
  obtain ⟨units, readName, same⟩ := readUnits_quoted name (':' :: text)
  rw [readMembers, skipBlanks_gap blank, quoted_append, skipBlanks_cons rfl]
  simp only [Option.bind_eq_bind, readName, Option.bind_some, skipBlanks_cons (c := ':') rfl, read,
    skipBlanks_cons (c := ',') rfl, readRest, same]
  rfl

-- A value takes one step and each item or member one more, and neither is shorter than a
-- character: two steps for each character of the spelling are enough wherever it stands.
mutual

/-- The reader finds the tree that a text spells. -/
theorem Spells.readValue_eq : {document : Json} → {text : List Char} →
    Spells document text → (steps : Nat) → 2 * text.length ≤ steps → (rest : List Char) →
    readValue steps (text ++ rest) = some (document, rest)
  | _, _, .null, steps + 1, _, rest => rfl
  | _, _, .yes, steps + 1, _, rest => rfl
  | _, _, .no, steps + 1, _, rest => rfl
  | _, _, .string text, steps + 1, _, rest => readValue_string steps text rest
  | _, _, .emptyArray, steps + 1, _, rest => rfl
  | _, _, .array spells blank, steps + 1, enough, rest => by
      simp only [List.length_cons, List.length_append] at enough
      rw [List.cons_append, List.append_assoc, List.append_assoc, List.singleton_append]
      exact readValue_array (spells.opens _) (spells.readItems_eq steps (by omega) blank rest)
  | _, _, .emptyObject, steps + 1, _, rest => rfl
  | _, _, .object spells blank, steps + 1, enough, rest => by
      simp only [List.length_cons, List.length_append] at enough
      rw [List.cons_append, List.append_assoc, List.append_assoc, List.singleton_append]
      exact readValue_object (spells.opens _) (spells.readMembers_eq steps (by omega) blank rest)

theorem SpellsItems.readItems_eq : {items : List Json} → {text closing : List Char} →
    SpellsItems items text → (steps : Nat) → 2 * text.length + 1 ≤ steps → IsGap closing →
    (rest : List Char) →
    readItems steps (text ++ (closing ++ ']' :: rest)) = some (items, rest)
  | _, _, _, .last blank spells, steps + 1, enough, blankClosing, rest => by
      simp only [List.length_append] at enough
      refine readItems_last blankClosing ?_
      rw [List.append_assoc, readValue_gap blank]
      exact spells.readValue_eq steps (by omega) _
  | _, _, _, .cons blank spells others, steps + 1, enough, blankClosing, rest => by
      simp only [List.length_cons, List.length_append] at enough
      refine readItems_cons ?_ (others.readItems_eq steps (by omega) blankClosing rest)
      rw [List.append_assoc, List.append_assoc, List.cons_append, readValue_gap blank]
      exact spells.readValue_eq steps (by omega) _

theorem SpellsMembers.readMembers_eq : {members : List (String × Json)} →
    {text closing : List Char} → SpellsMembers members text → (steps : Nat) →
    2 * text.length + 1 ≤ steps → IsGap closing → (rest : List Char) →
    readMembers steps (text ++ (closing ++ '}' :: rest)) =
      some (members.map fun member => (some member.1, member.2), rest)
  | _, _, _, .last blank blankBehind spells, steps + 1, enough, blankClosing, rest => by
      simp only [List.length_cons, List.length_append] at enough
      rw [List.append_assoc, List.append_assoc, List.cons_append]
      refine readMembers_last blank blankClosing ?_
      rw [List.append_assoc, readValue_gap blankBehind]
      exact spells.readValue_eq steps (by omega) _
  | _, _, _, .cons blank blankBehind spells others, steps + 1, enough, blankClosing, rest => by
      simp only [List.length_cons, List.length_append] at enough
      rw [List.append_assoc, List.append_assoc, List.cons_append]
      refine readMembers_cons blank ?_ (others.readMembers_eq steps (by omega) blankClosing rest)
      rw [List.append_assoc, List.append_assoc, List.cons_append, readValue_gap blankBehind]
      exact spells.readValue_eq steps (by omega) _

end

/-- A text that spells a tree is read as that tree. -/
theorem Spells.ofChars?_eq {document : Json} {text : List Char} (spells : Spells document text) :
    ofChars? text = some document := by
  have read := spells.readValue_eq (2 * text.length + 2) (by omega) []
  rw [List.append_nil] at read
  rw [ofChars?, read]
  rfl

end AtomicCss.Json
