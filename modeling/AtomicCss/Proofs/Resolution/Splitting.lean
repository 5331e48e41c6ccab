import AtomicCss.Proofs.NameSet.Split
import AtomicCss.Proofs.Resolution.JsonProps

/-!
# Resolving split props

The set of names that props are split by is computed once from a catalog; look-up and the test
for configured names ask the catalog itself. All three tell the same names apart, also in a
catalog that no configuration has. So the styling part of props resolves as all of them do, and
the other part comes to nothing.
-/

set_option autoImplicit false

namespace AtomicCss.Catalog

theorem contains_ofCatalog (catalog : Catalog) (name : String) :
    (NameSet.ofCatalog catalog).contains name = catalog.isConfigured name := by
  rw [Bool.eq_iff_iff, NameSet.ofCatalog, NameSet.contains_ofList, propertyNames, List.mem_append,
    isConfigured, Bool.or_eq_true, Table.contains_iff_mem_keys, Table.contains_iff_mem_keys]

theorem isSome_lookup? (catalog : Catalog) (name : String) :
    (catalog.lookup? name).isSome = catalog.isConfigured name := by
  rw [lookup?, isConfigured, Table.contains, Table.contains]
  cases catalog.properties.get? name with
  | some property => rfl
  | none => exact Option.isSome_map

/-- Props under names that are not configured set nothing, and may be taken out. -/
theorem settings_filter (catalog : Catalog) (props : List (String × PropValue)) :
    catalog.settings (props.filter fun prop => catalog.isConfigured prop.1) =
      catalog.settings props := by
  induction props with
  | nil => rfl
  | cons prop rest ih =>
      obtain ⟨name, value⟩ := prop
      cases known : catalog.isConfigured name with
      | true => simp [known, settings_cons, ih]
      | false => simp [known, settings_cons, catalog.lookup?_of_not_configured known, ih]

theorem settings_filter_not (catalog : Catalog) (props : List (String × PropValue)) :
    catalog.settings (props.filter fun prop => !catalog.isConfigured prop.1) = [] := by
  refine List.flatMap_eq_nil_iff.mpr fun prop kept => ?_
  obtain ⟨name, value⟩ := prop
  have unknown : catalog.isConfigured name = false := by
    simpa using (List.mem_filter.mp kept).2
  simp [catalog.lookup?_of_not_configured unknown]

theorem resolve_of_settings_eq_nil {catalog : Catalog} {props : List (String × PropValue)}
    (nothing : catalog.settings props = []) :
    catalog.resolve props = { classText := "", style := none } := by
  rw [resolve, nothing]
  rfl

/-- Taking members by name and reading their prop values may change places. -/
theorem filterMap_filter_names (members : List (String × Json)) (keeps : String → Bool) :
    ((members.filter fun member => keeps member.1).filterMap fun member =>
        (PropValue.ofJson? member.2).map fun value => (member.1, value)) =
      (members.filterMap fun member =>
        (PropValue.ofJson? member.2).map fun value => (member.1, value)).filter
          fun prop => keeps prop.1 := by
  rw [List.filterMap_filter, List.filter_filterMap]
  refine List.filterMap_congr fun member _ => ?_
  cases PropValue.ofJson? member.2 with
  | none => simp
  | some value => simp [Option.filter]

theorem resolveJson_entries (catalog : Catalog) (members : Table Json) :
    catalog.resolveJson (.object members.entries) =
      catalog.resolve (members.entries.filterMap fun member =>
        (PropValue.ofJson? member.2).map fun value => (member.1, value)) := by
  rw [resolveJson_eq, Json.table_entries]
  rfl

/-- The names of a catalog are those it looks up, so that the styling part of props resolves
to what they all resolve to, and the rest to nothing: no class and no style. -/
theorem resolve_split (catalog : Catalog) :
    (∀ name, ((NameSet.ofCatalog catalog).contains name = true ↔
        catalog.isConfigured name = true) ∧
      (catalog.isConfigured name = true ↔ (catalog.lookup? name).isSome = true)) ∧
    (∀ props : List (String × PropValue), (props.map Prod.fst).Nodup →
      let split := (NameSet.ofCatalog catalog).split props
      catalog.resolve split.styling.entries = catalog.resolve props ∧
        catalog.resolve split.other.entries = { classText := "", style := none }) ∧
    ∀ members : List (String × Json),
      let split := (NameSet.ofCatalog catalog).split (Json.table members).entries
      catalog.resolveJson (.object split.styling.entries) =
          catalog.resolveJson (.object members) ∧
        catalog.resolveJson (.object split.other.entries) = { classText := "", style := none } := by
  refine ⟨fun name => ?_, fun props distinct => ?_, fun members => ?_⟩
  · rw [contains_ofCatalog, isSome_lookup?]
    exact ⟨Iff.rfl, Iff.rfl⟩
  · intro split
    rw [NameSet.entries_styling _ distinct, NameSet.entries_other _ distinct]
    simp only [contains_ofCatalog]
    exact ⟨resolve_eq_of_settings (catalog.settings_filter props),
      resolve_of_settings_eq_nil (catalog.settings_filter_not props)⟩
  · intro split
    have distinct := (Json.table members).keysNodup
    rw [resolveJson_entries, resolveJson_entries, NameSet.entries_styling _ distinct,
      NameSet.entries_other _ distinct, resolveJson_eq]
    simp only [contains_ofCatalog]
    constructor
    · rw [filterMap_filter_names]
      exact resolve_eq_of_settings (catalog.settings_filter _)
    · rw [filterMap_filter_names _ fun name => !catalog.isConfigured name]
      exact resolve_of_settings_eq_nil (catalog.settings_filter_not _)

/-- A catalog that no configuration has: one name is a property and a shorthand as well, and
one shorthand has targets that are not there. -/
def torn : Catalog where
  defaultCondition := "base"
  conditions := Table.ofList [("base", {})]
  properties := Table.ofList
    [("size",
      { name := "size"
        cssName := "size"
        entries := Table.ofList [("base", { slot := some ⟨"size-base", "--size-base"⟩ })]
        tokens := none })]
  shorthands := Table.ofList [("size", ["gap"]), ("all", ["gap", "size"]), ("none", ["gap"])]

theorem resolve_split_torn :
    let props := [("title", PropValue.plain "x"), ("all", .plain "1px"), ("none", .plain "2px"),
      ("gap", .plain "3px"), ("size", .plain "4px")]
    let split := (NameSet.ofCatalog torn).split props
    (props.map Prod.fst).Nodup ∧
      split.styling.keys = ["all", "none", "size"] ∧ split.other.keys = ["title", "gap"] ∧
      torn.resolve split.styling.entries =
        { classText := "size-base size-base"
          style := some (Table.ofList [("--size-base", "4px")]) } ∧
      torn.resolve split.other.entries = { classText := "", style := none } := by
  intro props split
  have distinct : (props.map Prod.fst).Nodup := by decide
  obtain ⟨same, nothing⟩ := (resolve_split torn).2.1 props distinct
  exact ⟨distinct, by decide +kernel, by decide +kernel, same.trans (by decide +kernel), nothing⟩

end AtomicCss.Catalog
