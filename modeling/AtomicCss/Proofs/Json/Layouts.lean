import AtomicCss.Proofs.Json.Grammar

/-!
# Layouts of JSON texts

Both layouts spell the tree they lay out, so that either text is read as the tree it was made
from.
-/

set_option autoImplicit false

namespace AtomicCss.Json

mutual

/-- Whether a tree is made of texts and truth values alone. -/
def isTextual : Json → Bool
  | .bool _ => true
  | .string _ => true
  | .array items => itemsAreTextual items
  | .object members => membersAreTextual members
  | _ => false

def itemsAreTextual : List Json → Bool
  | [] => true
  | item :: rest => item.isTextual && itemsAreTextual rest

def membersAreTextual : List (String × Json) → Bool
  | [] => true
  | (_, value) :: rest => value.isTextual && membersAreTextual rest

end

theorem isGap_nil : IsGap [] := by simp [IsGap]

theorem isGap_blank : IsGap [' '] := by simp [IsGap, isBlank]

theorem isGap_newLine (nesting : Nat) : IsGap (newLine nesting) := by
  intro c listed
  rcases List.mem_cons.mp listed with rfl | indent
  · rfl
  · rw [List.eq_of_mem_replicate indent]
    rfl

mutual

/-- The compact layout spells the tree. -/
theorem spells_compactChars : (document : Json) → document.isTextual = true →
    Spells document document.compactChars
  | .bool true, _ => .yes
  | .bool false, _ => .no
  | .string text, _ => .string text
  | .array [], _ => .emptyArray
  | .array (item :: rest), textual =>
      .array (spellsItems_compactItems (item :: rest) (List.cons_ne_nil _ _) textual) isGap_nil
  | .object [], _ => .emptyObject
  | .object (member :: rest), textual =>
      .object (spellsMembers_compactMembers (member :: rest) (List.cons_ne_nil _ _) textual)
        isGap_nil

theorem spellsItems_compactItems : (items : List Json) → items ≠ [] →
    itemsAreTextual items = true → SpellsItems items (compactItems items)
  | [item], _, textual => by
      rw [itemsAreTextual, Bool.and_eq_true] at textual
      exact .last isGap_nil (spells_compactChars item textual.1)
  | item :: next :: rest, _, textual => by
      rw [itemsAreTextual, Bool.and_eq_true] at textual
      have others := spellsItems_compactItems (next :: rest) (List.cons_ne_nil _ _) textual.2
      exact .cons isGap_nil (spells_compactChars item textual.1) others

theorem spellsMembers_compactMembers : (members : List (String × Json)) → members ≠ [] →
    membersAreTextual members = true → SpellsMembers members (compactMembers members)
  | [(name, value)], _, textual => by
      rw [membersAreTextual, Bool.and_eq_true] at textual
      exact .last isGap_nil isGap_nil (spells_compactChars value textual.1)
  | (name, value) :: next :: rest, _, textual => by
      rw [membersAreTextual, Bool.and_eq_true] at textual
      have others := spellsMembers_compactMembers (next :: rest) (List.cons_ne_nil _ _) textual.2
      have spells : SpellsMembers ((name, value) :: next :: rest) _ :=
        .cons isGap_nil isGap_nil (spells_compactChars value textual.1) others
      simpa [compactMembers] using spells

end

mutual

/-- The indented layout spells the tree. -/
theorem spells_prettyChars (nesting : Nat) : (document : Json) → document.isTextual = true →
    Spells document (document.prettyChars nesting)
  | .bool true, _ => .yes
  | .bool false, _ => .no
  | .string text, _ => .string text
  | .array [], _ => .emptyArray
  | .array (item :: rest), textual => by
      have items := spellsItems_prettyItems (nesting + 1) (item :: rest) (List.cons_ne_nil _ _)
        textual
      simpa [prettyChars] using Spells.array items (isGap_newLine nesting)
  | .object [], _ => .emptyObject
  | .object (member :: rest), textual => by
      have members := spellsMembers_prettyMembers (nesting + 1) (member :: rest)
        (List.cons_ne_nil _ _) textual
      simpa [prettyChars] using Spells.object members (isGap_newLine nesting)

theorem spellsItems_prettyItems (nesting : Nat) : (items : List Json) → items ≠ [] →
    itemsAreTextual items = true → SpellsItems items (prettyItems nesting items)
  | [item], _, textual => by
      rw [itemsAreTextual, Bool.and_eq_true] at textual
      exact .last (isGap_newLine nesting) (spells_prettyChars nesting item textual.1)
  | item :: next :: rest, _, textual => by
      rw [itemsAreTextual, Bool.and_eq_true] at textual
      have others := spellsItems_prettyItems nesting (next :: rest) (List.cons_ne_nil _ _) textual.2
      have spells : SpellsItems (item :: next :: rest) _ :=
        .cons (isGap_newLine nesting) (spells_prettyChars nesting item textual.1) others
      simpa [prettyItems] using spells

theorem spellsMembers_prettyMembers (nesting : Nat) : (members : List (String × Json)) →
    members ≠ [] → membersAreTextual members = true →
    SpellsMembers members (prettyMembers nesting members)
  | [(name, value)], _, textual => by
      rw [membersAreTextual, Bool.and_eq_true] at textual
      have spells : SpellsMembers [(name, value)] _ :=
        .last (isGap_newLine nesting) isGap_blank (spells_prettyChars nesting value textual.1)
      simpa [prettyMembers] using spells
  | (name, value) :: next :: rest, _, textual => by
      rw [membersAreTextual, Bool.and_eq_true] at textual
      have others := spellsMembers_prettyMembers nesting (next :: rest) (List.cons_ne_nil _ _)
        textual.2
      have spells : SpellsMembers ((name, value) :: next :: rest) _ :=
        .cons (isGap_newLine nesting) isGap_blank (spells_prettyChars nesting value textual.1)
          others
      simpa [prettyMembers] using spells

end

theorem ofText?_compact {document : Json} (textual : document.isTextual = true) :
    ofText? document.compact = some document := by
  rw [ofText?, compact, String.toList_ofList]
  exact (spells_compactChars document textual).ofChars?_eq

theorem ofText?_pretty {document : Json} (textual : document.isTextual = true) :
    ofText? document.pretty = some document := by
  rw [ofText?, pretty, String.toList_ofList]
  exact (spells_prettyChars 0 document textual).ofChars?_eq

end AtomicCss.Json
