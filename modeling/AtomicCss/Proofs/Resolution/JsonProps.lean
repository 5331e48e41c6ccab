import AtomicCss.Proofs.Reading.Faithful
import AtomicCss.Proofs.Resolution.Effects

/-!
# Props in JSON objects

The members of an object come to the same as the props they stand for. Members under names
that are not configured are dropped before they are looked at, but such props set nothing in
any case. What has no prop value in it may be taken out of the object beforehand, and props
may be written into an object and taken from there again.
-/

set_option autoImplicit false

namespace AtomicCss

/-- The tree of a text or a number; no other tree is one. -/
def Json.scalar? : Json → Option Json
  | .string text => some (.string text)
  | .number value => some (.number value)
  | _ => none

/-- What a tree has in it of a prop value: a text, a number, or an object with those of its
members that are texts or numbers. -/
def Json.propPart? : Json → Option Json
  | .object members => some (.object ((Json.table members).filterMap Json.scalar?).entries)
  | other => other.scalar?

namespace Json

theorem scalar?_bind (document : Json) :
    document.scalar?.bind scalarText? = document.scalarText? := by
  cases document <;> rfl

theorem table_entries (values : Table Json) : table values.entries = values :=
  values.ofList_entries

theorem table_texts (values : Table String) :
    table (values.entries.map fun entry => (entry.1, .string entry.2)) =
      values.mapEntries fun _ => .string :=
  values.ofList_map_entries fun _ => Json.string

theorem isReadable_texts (values : Table String) :
    (ofTable .string values).isReadable = true := by
  have flat : membersHaveValue (values.entries.map fun entry => (entry.1, .string entry.2)) = true ∧
      depthOfMembers (values.entries.map fun entry => (entry.1, .string entry.2)) = 0 := by
    induction values.entries with
    | nil => exact ⟨rfl, rfl⟩
    | cons entry rest ih =>
        rw [List.map_cons, membersHaveValue, depthOfMembers, ih.1, ih.2]
        exact ⟨rfl, rfl⟩
  rw [ofTable, isReadable, hasValue, depth, flat.1, flat.2]
  rfl

theorem canonical_texts (values : Table String) :
    (ofTable .string values).canonical = ofTable .string values := by
  have scalars : canonicalMembers (values.entries.map fun entry => (entry.1, .string entry.2)) =
      values.entries.map fun entry => (entry.1, .string entry.2) := by
    induction values.entries with
    | nil => rfl
    | cons entry rest ih => exact congrArg (List.cons _) ih
  rw [ofTable, canonical, scalars, table_texts]
  rfl

end Json

namespace PropValue

theorem ofJson?_propPart (document : Json) :
    document.propPart?.bind ofJson? = ofJson? document := by
  cases document with
  | object members =>
      simp only [Json.propPart?, Option.bind_some, ofJson?, Json.table_entries,
        Table.filterMap_filterMap, Json.scalar?_bind]
  | _ => rfl

/-- A prop value is what its own tree stands for, its conditions in their order. -/
theorem ofJson?_toJson (value : PropValue) : ofJson? value.toJson = some value := by
  cases value with
  | plain text => rfl
  | conditional values =>
      have same : (values.mapEntries fun _ => Json.string).filterMap Json.scalarText? = values := by
        apply Table.ext
        change (values.entries.map _).filterMap _ = _
        rw [List.filterMap_map]
        exact List.filterMap_some
      rw [toJson, Json.ofTable, ofJson?, Json.table_texts, same]

theorem read_toJson (value : PropValue) : PropValue.read value.toJson = .ok value := by
  rw [PropValue.read, ofJson?_toJson]

/-- The text of a prop value is read as its tree. -/
theorem treeOfJsonText_toJson (value : PropValue) :
    Reading.treeOfJsonText value.toJson.compact = .ok value.toJson := by
  cases value with
  | plain text =>
      rw [toJson, Reading.treeOfJsonText, Json.ofText?_compact rfl]
      rfl
  | conditional values =>
      have textual := Reading.Faithful.text.table.textual values
      rw [toJson, Reading.treeOfJsonText, Json.ofText?_compact textual]
      simp only [Json.isReadable_texts, if_true, Json.canonical_texts]

end PropValue

namespace Catalog

variable (catalog : Catalog)

theorem lookup?_of_not_configured {name : String} (unknown : catalog.isConfigured name = false) :
    catalog.lookup? name = none := by
  rw [isConfigured, Bool.or_eq_false_iff] at unknown
  have notProperty : catalog.properties.get? name = none :=
    Option.not_isSome_iff_eq_none.mp (Bool.eq_false_iff.mp unknown.1)
  have notShorthand : catalog.shorthands.get? name = none :=
    Option.not_isSome_iff_eq_none.mp (Bool.eq_false_iff.mp unknown.2)
  rw [lookup?, notProperty, notShorthand]
  rfl

/-- Members under names that are not configured set nothing. -/
theorem settings_configured (members : List (String × Json)) :
    catalog.settings (members.filterMap fun (name, part) =>
        if catalog.isConfigured name then (PropValue.ofJson? part).map fun value => (name, value)
        else none) =
      catalog.settings (members.filterMap fun (name, part) =>
        (PropValue.ofJson? part).map fun value => (name, value)) := by
  induction members with
  | nil => rfl
  | cons member rest ih =>
      obtain ⟨name, part⟩ := member
      rw [List.filterMap_cons, List.filterMap_cons]
      cases given : PropValue.ofJson? part with
      | none => simpa [given] using ih
      | some value =>
          cases known : catalog.isConfigured name with
          | true => simp [given, known, settings_cons, ih]
          | false => simp [given, known, settings_cons, catalog.lookup?_of_not_configured known, ih]

theorem resolveJson_eq (members : List (String × Json)) :
    catalog.resolveJson (.object members) =
      catalog.resolve ((Json.table members).filterMap PropValue.ofJson?).entries :=
  resolve_eq_of_settings (catalog.settings_configured _)

theorem resolveJson_propParts (members : List (String × Json)) :
    catalog.resolveJson (.object members) =
      catalog.resolveJson (.object ((Json.table members).filterMap Json.propPart?).entries) := by
  simp only [resolveJson_eq, Json.table_entries, Table.filterMap_filterMap,
    PropValue.ofJson?_propPart]

theorem resolveJson_written {props : List (String × PropValue)}
    (distinct : (props.map Prod.fst).Nodup) :
    catalog.resolveJson (.object (props.map fun (name, value) => (name, value.toJson))) =
      catalog.resolve props := by
  have names : (props.map fun (name, value) => (name, value.toJson)).map Prod.fst =
      props.map Prod.fst := List.map_map
  rw [resolveJson_eq]
  change catalog.resolve ((Json.table _).entries.filterMap _) = _
  rw [Json.table, Table.entries_ofList _ (names ▸ distinct), List.filterMap_map]
  congr 1
  refine (List.filterMap_congr fun prop _ => ?_).trans List.filterMap_some
  simp [PropValue.ofJson?_toJson]

/-- An object resolves to what the props resolve to that its members stand for, in their order;
nothing else in it counts. Props written into an object resolve as they do by themselves, each
value being read back as it was. -/
theorem resolveJson_agrees (catalog : Catalog) :
    (∀ members : List (String × Json), catalog.resolveJson (.object members) =
      catalog.resolve ((Json.table members).filterMap PropValue.ofJson?).entries) ∧
    (∀ members : List (String × Json), catalog.resolveJson (.object members) =
      catalog.resolveJson (.object ((Json.table members).filterMap Json.propPart?).entries)) ∧
    (∀ props : List (String × PropValue), (props.map Prod.fst).Nodup →
      catalog.resolveJson (.object (props.map fun (name, value) => (name, value.toJson))) =
        catalog.resolve props) ∧
    ∀ value : PropValue, PropValue.ofJson? value.toJson = some value ∧
      PropValue.read value.toJson = .ok value ∧
      Reading.treeOfJsonText value.toJson.compact = .ok value.toJson :=
  ⟨catalog.resolveJson_eq, catalog.resolveJson_propParts, fun _ => catalog.resolveJson_written,
    fun value => ⟨value.ofJson?_toJson, value.read_toJson, value.treeOfJsonText_toJson⟩⟩

/-- A catalog that no configuration has: one name is a property and a shorthand as well. -/
def doubled : Catalog where
  defaultCondition := "base"
  conditions := Table.ofList [("base", {}), ("wide", { media := some "(min-width: 40em)" })]
  properties := Table.ofList
    [("size",
        { name := "size"
          cssName := "size"
          entries := Table.ofList
            [("base", { slot := some ⟨"size-base", "--size-base"⟩ }),
              ("wide", { slot := some ⟨"size-wide", "--size-wide"⟩ })]
          tokens := none }),
      ("gap",
        { name := "gap"
          cssName := "gap"
          entries := Table.ofList [("base", { slot := some ⟨"gap-base", "--gap-base"⟩ })]
          tokens := none })]
  shorthands := Table.ofList [("size", ["gap"]), ("all", ["gap", "size"])]

/-- The name that is taken twice means the property, and the conditions keep their order. -/
theorem resolveJson_agrees_doubled :
    ["size", "all"].Nodup ∧
      doubled.resolveJson
          (.object
            [("size", .object [("wide", .string "2px"), ("base", .string "1px")]),
              ("all", .string "3px")]) =
        { classText := "size-wide size-base gap-base size-base"
          style := some (Table.ofList
            [("--size-wide", "2px"), ("--size-base", "3px"), ("--gap-base", "3px")]) } := by
  have distinct : ["size", "all"].Nodup := by decide
  refine ⟨distinct, ?_⟩
  have typed := (resolveJson_agrees doubled).2.2.1
    [("size", .conditional (Table.ofList [("wide", "2px"), ("base", "1px")])),
      ("all", .plain "3px")] distinct
  exact typed.trans (by decide +kernel)

end Catalog

end AtomicCss
