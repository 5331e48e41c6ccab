import AtomicCss.Property
import AtomicCss.Proofs.Table.Views

/-!
# Merging compiled properties

Choices are laid over choices, entries are merged within properties and properties within tables
of them. At each of the three levels merging overlays the left side by the right one: how merges
are bracketed does not matter, nor for the order of names, and nothing is lost.
-/

set_option autoImplicit false

namespace AtomicCss

namespace Table

universe u

variable {α : Type u}

theorem mergeWith_empty_right (combine : α → α → α) (table : Table α) :
    table.mergeWith combine ∅ = table := rfl

theorem mergeWith_empty_left (combine : α → α → α) (table : Table α) :
    (∅ : Table α).mergeWith combine table = table := by
  apply ext_get?
  · rw [keys_mergeWith]
    change [] ++ table.keys.filter (fun name => !([] : List String).contains name) = _
    simp
  · intro name
    rw [get?_mergeWith]
    rfl

/-- The names of three tables merged in turn, whichever two are merged first. -/
theorem keys_mergeWith_mergeWith (combine : α → α → α) (left middle right : Table α) :
    ((left.mergeWith combine middle).mergeWith combine right).keys =
      (left.mergeWith combine (middle.mergeWith combine right)).keys := by
  simp only [keys_mergeWith, List.filter_append, List.filter_filter, List.append_assoc]
  refine congrArg (fun more => left.keys ++ (_ ++ more)) (List.filter_congr fun name _ => ?_)
  by_cases inLeft : name ∈ left.keys
  · simp [inLeft]
  · simp [inLeft]

theorem mergeWith_assoc {combine : α → α → α}
    (assoc : ∀ x y z, combine (combine x y) z = combine x (combine y z))
    (left middle right : Table α) :
    (left.mergeWith combine middle).mergeWith combine right =
      left.mergeWith combine (middle.mergeWith combine right) := by
  apply ext_get? (keys_mergeWith_mergeWith combine left middle right)
  intro name
  simp only [get?_mergeWith]
  cases left.get? name with
  | none => cases middle.get? name <;> cases right.get? name <;> rfl
  | some first =>
      cases middle.get? name with
      | none => cases right.get? name <;> rfl
      | some second =>
          cases right.get? name with
          | none => rfl
          | some third => exact congrArg some (assoc first second third)

theorem overlay_assoc (left middle right : Table α) :
    (left.overlay middle).overlay right = left.overlay (middle.overlay right) :=
  mergeWith_assoc (fun _ _ _ => rfl) left middle right

end Table

namespace Entry

theorem merge_assoc (first second third : Entry) :
    (first.merge second).merge third = first.merge (second.merge third) := by
  simp only [merge, Option.or_assoc, Table.overlay_assoc]

theorem default_merge (entry : Entry) : Entry.merge {} entry = entry := by
  rw [merge, Option.or_none]
  exact congrArg (Entry.mk entry.slot) (Table.overlay_empty_left entry.choices)

theorem merge_default (entry : Entry) : entry.merge {} = entry := rfl

/-- Choices of either side go before slots of either side, and within each the right one first. -/
theorem bind?_merge (entry other : Entry) (value : String) :
    (entry.merge other).bind? value =
      match other.choices.get? value, entry.choices.get? value, other.slot, entry.slot with
      | some choice, _, _, _ => some (.choice choice)
      | none, some choice, _, _ => some (.choice choice)
      | none, none, some slot, _ => some (.slot slot)
      | none, none, none, slot => slot.map .slot := by
  rw [bind?, merge]
  dsimp only
  rw [Table.get?_overlay]
  cases other.choices.get? value with
  | some choice => rfl
  | none =>
      cases entry.choices.get? value with
      | some choice => rfl
      | none => cases other.slot <;> rfl

end Entry

namespace Property

theorem merge_assoc (first second third : Property) :
    (first.merge second).merge third = first.merge (second.merge third) := by
  simp only [merge, Option.or_assoc, Table.mergeWith_assoc Entry.merge_assoc]

theorem mergeAll_assoc (first second third : Table Property) :
    mergeAll (mergeAll first second) third = mergeAll first (mergeAll second third) :=
  Table.mergeWith_assoc merge_assoc first second third

/-- What a table of properties has for a property under a condition. -/
def entryIn? (properties : Table Property) (name condition : String) : Option Entry :=
  (properties.get? name).bind fun property => property.entries.get? condition

theorem entryIn?_mergeAll (properties others : Table Property) (name condition : String) :
    entryIn? (mergeAll properties others) name condition =
      match entryIn? properties name condition, entryIn? others name condition with
      | some entry, some other => some (entry.merge other)
      | some entry, none => some entry
      | none, found => found := by
  rw [entryIn?, entryIn?, entryIn?, mergeAll, Table.get?_mergeWith]
  cases properties.get? name with
  | none => rfl
  | some property =>
      cases others.get? name with
      | none =>
          simp only [Option.bind_some, Option.bind_none]
          cases property.entries.get? condition <;> rfl
      | some other =>
          have merged :=
            Table.get?_mergeWith Entry.merge property.entries other.entries condition
          simp only [Option.bind_some, merge, merged]
          cases property.entries.get? condition with
          | none => rfl
          | some entry => cases other.entries.get? condition <;> rfl

/-- Merging is an associative overlay in which the right side wins, for entries, for properties
and for tables of properties. -/
theorem merging_overlays :
    (∀ first second third : Entry,
      (first.merge second).merge third = first.merge (second.merge third)) ∧
    (∀ entry : Entry, Entry.merge {} entry = entry ∧ entry.merge {} = entry) ∧
    (∀ (entry other : Entry) (value : String),
      (entry.merge other).bind? value =
        match other.choices.get? value, entry.choices.get? value, other.slot, entry.slot with
        | some choice, _, _, _ => some (.choice choice)
        | none, some choice, _, _ => some (.choice choice)
        | none, none, some slot, _ => some (.slot slot)
        | none, none, none, slot => slot.map .slot) ∧
    (∀ first second third : Property,
      (first.merge second).merge third = first.merge (second.merge third)) ∧
    (∀ property other : Property,
      (property.merge other).name = property.name ∧
      (property.merge other).cssName = property.cssName ∧
      (property.merge other).tokens = other.tokens.or property.tokens ∧
      (property.merge other).entries.keys =
        property.entries.keys ++
          other.entries.keys.filter (!property.entries.keys.contains ·)) ∧
    (∀ first second third : Table Property,
      mergeAll (mergeAll first second) third = mergeAll first (mergeAll second third)) ∧
    (∀ properties : Table Property,
      mergeAll ∅ properties = properties ∧ mergeAll properties ∅ = properties) ∧
    ∀ properties others : Table Property,
      (mergeAll properties others).keys =
        properties.keys ++ others.keys.filter (!properties.keys.contains ·) ∧
      (mergeAll properties others).keys.Nodup ∧
      ∀ name condition,
        entryIn? (mergeAll properties others) name condition =
          match entryIn? properties name condition, entryIn? others name condition with
          | some entry, some other => some (entry.merge other)
          | some entry, none => some entry
          | none, found => found := by
  refine ⟨Entry.merge_assoc, fun entry => ⟨entry.default_merge, entry.merge_default⟩,
    Entry.bind?_merge, merge_assoc, fun property other => ⟨rfl, rfl, rfl, ?_⟩, mergeAll_assoc,
    fun properties => ⟨?_, ?_⟩, fun properties others => ⟨?_, ?_, ?_⟩⟩
  · exact Table.keys_mergeWith Entry.merge property.entries other.entries
  · exact Table.mergeWith_empty_left merge properties
  · exact Table.mergeWith_empty_right merge properties
  · exact Table.keys_mergeWith merge properties others
  · exact (mergeAll properties others).keysNodup
  · exact entryIn?_mergeAll properties others

end Property

end AtomicCss
