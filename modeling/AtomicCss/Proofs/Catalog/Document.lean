import AtomicCss.Catalog.Document
import AtomicCss.Proofs.Config.Document

/-!
# Catalogs read back

Nothing is asked of a catalog here: it need not come from a configuration, its names and
values are any texts, and each of its optional parts may be there or not. A table that is
there and empty stays apart from one that is missing.
-/

set_option autoImplicit false

namespace AtomicCss

open Reading

theorem Slot.faithful : Faithful Slot.read Slot.toJson :=
  .record (by decide +kernel) fun slot =>
    ⟨_, .of .text slot.className <| .of .text slot.variableName .nil, rfl⟩

theorem Choice.faithful : Faithful Choice.read Choice.toJson :=
  .record (by decide +kernel) fun choice =>
    ⟨_, .of .text choice.className <| .of .text choice.value .nil, rfl⟩

theorem Entry.faithful : Faithful Entry.read Entry.toJson :=
  .record (by decide +kernel) fun entry =>
    ⟨_, .optional Slot.faithful entry.slot rfl <| .table Choice.faithful entry.choices rfl .nil,
      by simp [Entry.toJson]⟩

theorem Property.faithful : Faithful Property.read Property.toJson :=
  .record (by decide +kernel) fun property =>
    ⟨_, .of .text property.name <| .of .text property.cssName <|
        .of Entry.faithful.table property.entries <|
        .optional Faithful.text.table property.tokens rfl .nil,
      by simp [Property.toJson]⟩

namespace Catalog

theorem faithful : Faithful Catalog.read Catalog.toJson :=
  .record (by decide +kernel) fun catalog =>
    ⟨_, .of .text catalog.defaultCondition <| .of Scope.faithful.table catalog.conditions <|
        .of Property.faithful.table catalog.properties <|
        .table .texts catalog.shorthands rfl .nil,
      by simp [Catalog.toJson]⟩

/-- Every catalog is read back from the text it is stored as. -/
theorem ofText_toText (catalog : Catalog) : ofText catalog.toText = .ok catalog :=
  faithful.ofJsonText_pretty catalog

end Catalog

end AtomicCss
