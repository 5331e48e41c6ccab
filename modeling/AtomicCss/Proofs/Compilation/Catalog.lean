import AtomicCss.Proofs.Compilation.Sites
import AtomicCss.Proofs.Shorthand.Graph

/-!
# Catalogs by their names

A configuration that compiles determines its catalog up to the names of its sites. The
catalog answers a declared property with itself, a shorthand with the properties that its
targets stand for, and no other name.
-/

set_option autoImplicit false

namespace AtomicCss

/-- A catalog holds what a configuration declares, with names that are plain and differ from
site to site. -/
structure Config.CompilesTo (config : Config) (naming : Naming) (catalog : Catalog) : Prop where
  defaultCondition : catalog.defaultCondition = config.defaultCondition
  conditions : catalog.conditions = config.conditions
  properties : catalog.properties = config.propertiesNamed naming
  shorthandKeys : catalog.shorthands.keys = config.shorthands.keys
  expands : ∀ name targets, config.shorthands.get? name = some targets →
    ∃ names, catalog.shorthands.get? name = some names ∧
      Shorthand.Expands config.shorthands config.isProperty targets names
  unshadowed : ∀ name ∈ config.shorthands.keys, config.isProperty name = false
  injOn : Set.InjOn naming {site | config.HasSite site}
  isPlain : ∀ site, config.HasSite site → Ident.IsPlain (naming site)

namespace Config

theorem contains_propertiesNamed (config : Config) (naming : Naming) (name : String) :
    (config.propertiesNamed naming).contains name = config.isProperty name := by
  rw [Table.contains, get?_propertiesNamed]
  cases config.isProperty name <;> rfl

theorem filterMap_propertiesNamed (config : Config) (naming : Naming) {names : List String}
    (declared : ∀ name ∈ names, config.isProperty name = true) :
    names.filterMap (config.propertiesNamed naming).get? =
      names.map (config.propertyNamed naming) := by
  rw [← List.filterMap_eq_map]
  refine List.filterMap_congr fun name listed => ?_
  rw [get?_propertiesNamed, if_pos (declared name listed)]
  rfl

/-- A configuration is valid if its default is a condition, no shorthand has the name of a
property, and the shorthands can be expanded. -/
theorem validate_eq_ok_iff (config : Config) :
    config.validate = .ok () ↔
      config.conditions.contains config.defaultCondition = true ∧
        (∀ name ∈ config.shorthands.keys, config.isProperty name = false) ∧
        ∃ expanded, Shorthand.expandAll config.shorthands config.isProperty = .ok expanded := by
  constructor
  · intro valid
    rw [validate] at valid
    split at valid
    · cases valid
    · split at valid
      · cases valid
      · next hasDefault =>
          split at valid
          · cases valid
          · next noneShadows =>
              refine ⟨by simpa using hasDefault, fun name listed =>
                Bool.eq_false_iff.mpr (List.find?_eq_none.mp noneShadows name listed), ?_⟩
              cases expansion : Shorthand.expandAll config.shorthands config.isProperty with
              | error fault =>
                  rw [expansion] at valid
                  cases valid
              | ok expanded => exact ⟨expanded, rfl⟩
  · rintro ⟨hasDefault, unshadowed, expanded, expansion⟩
    have some : config.conditions.isEmpty = false :=
      Table.isEmpty_of_mem_keys ((Table.contains_iff_mem_keys _ _).mp hasDefault)
    have noneShadows : config.shorthands.keys.find? config.isProperty = none :=
      List.find?_eq_none.mpr fun name listed => Bool.eq_false_iff.mp (unshadowed name listed)
    rw [validate, some, hasDefault, noneShadows, expansion]
    rfl

theorem compilesTo_of_ofConfig {config : Config} {romanize : String → String}
    {catalog : Catalog} (built : Catalog.ofConfig config romanize = .ok catalog) :
    config.CompilesTo (config.naming (.start config.classPrefix romanize)) catalog := by
  obtain ⟨_, valid, built⟩ := Shorthand.bind_eq_ok built
  obtain ⟨shorthands, expanded, same⟩ := Shorthand.bind_eq_ok built
  rw [compileProperties_eq] at expanded same
  cases same
  have sameTest : (config.propertiesNamed
      (config.naming (.start config.classPrefix romanize))).contains = config.isProperty :=
    funext fun name => config.contains_propertiesNamed _ name
  rw [sameTest] at expanded
  obtain ⟨sameKeys, expands⟩ := Shorthand.expandAll_expands expanded
  exact {
    defaultCondition := rfl
    conditions := rfl
    properties := rfl
    shorthandKeys := sameKeys
    expands := expands
    unshadowed := (config.validate_eq_ok_iff.mp valid).2.1
    injOn := config.naming_injOn config.classPrefix romanize
    isPlain := config.naming_isPlain config.classPrefix romanize }

theorem exists_ofConfig {config : Config} (romanize : String → String)
    (valid : config.validate = .ok ()) :
    ∃ catalog, Catalog.ofConfig config romanize = .ok catalog := by
  obtain ⟨_, _, expanded, expansion⟩ := config.validate_eq_ok_iff.mp valid
  have sameTest : (config.compileProperties (.start config.classPrefix romanize)).1.contains =
      config.isProperty := by
    rw [compileProperties_eq]
    exact funext fun name => config.contains_propertiesNamed _ name
  simp only [Catalog.ofConfig, valid, sameTest, expansion]
  exact ⟨_, rfl⟩

/-- Shorthands expand if each has a higher rank than the shorthands among its targets. -/
theorem exists_ofConfig_of_ranked {config : Config} (romanize : String → String)
    (rank : String → Nat)
    (hasDefault : config.conditions.contains config.defaultCondition = true)
    (unshadowed : ∀ name ∈ config.shorthands.keys, config.isProperty name = false)
    (ranked : Shorthand.Ranked config.shorthands config.isProperty rank) :
    ∃ catalog, Catalog.ofConfig config romanize = .ok catalog :=
  exists_ofConfig romanize <| config.validate_eq_ok_iff.mpr
    ⟨hasDefault, unshadowed, Shorthand.exists_expandAll rank ranked⟩

theorem exists_ofConfig_of_no_shorthands {config : Config} (romanize : String → String)
    (hasDefault : config.conditions.contains config.defaultCondition = true)
    (none : config.shorthands = ∅) :
    ∃ catalog, Catalog.ofConfig config romanize = .ok catalog := by
  refine exists_ofConfig_of_ranked romanize (fun _ => 0) hasDefault ?_ ?_
  · rw [none]
    intro name listed
    cases listed
  · rw [none]
    intro entry listed
    cases listed

/-- A small configuration in which scales, repeated values and shorthands meet. -/
def specimen : Config :=
  let plain := ((start "small").withCondition "small" {}).withCondition "wide"
    { media := some "(min-width: 40em)" }
  let scaled := ((plain.withDynamic "color" (.tokens (Table.ofList [("ink", "#123")]))).withDynamic
    "paddingLeft" .unrestricted).withStatic "color" (.values ["red", "blue", "red"])
  (scaled.withShorthand "edge" ["inset", "color"]).withShorthand "inset" ["paddingLeft"]

theorem specimen_builds : ∃ catalog, Catalog.ofConfig specimen = .ok catalog :=
  exists_ofConfig_of_ranked _ (fun name => if name = "edge" then 1 else 0) (by decide +kernel)
    (by decide +kernel) (by decide +kernel)

/-- The specimen with a static scale of aliases in place of the list of values, and with a
property that is only static. -/
def shaded : Config :=
  (specimen.withStatic "color" (.aliases (Table.ofList [("warn", "#c00")]))).withStatic "display"
    (.values ["none", "flex"])

theorem shaded_builds : ∃ catalog, Catalog.ofConfig shaded = .ok catalog :=
  exists_ofConfig_of_ranked _ (fun name => if name = "edge" then 1 else 0) (by decide +kernel)
    (by decide +kernel) (by decide +kernel)

/-- The shorthands of the specimen, whatever else is declared. -/
theorem expands_edge {config : Config} (same : config.shorthands = specimen.shorthands)
    (properties : config.isProperty "paddingLeft" = true ∧ config.isProperty "color" = true)
    (unshadowed : config.isProperty "edge" = false ∧ config.isProperty "inset" = false) :
    Shorthand.Expands config.shorthands config.isProperty
      ["edge"] ["paddingLeft", "color"] := by
  have edge : config.shorthands.get? "edge" = some ["inset", "color"] := by
    rw [same]
    decide +kernel
  have inset : config.shorthands.get? "inset" = some ["paddingLeft"] := by
    rw [same]
    decide +kernel
  exact .alone unshadowed.1 edge <|
    .shorthand unshadowed.2 inset (.property properties.1 .nil) (.property properties.2 .nil)

theorem specimen_expands_edge :
    Shorthand.Expands specimen.shorthands specimen.isProperty
      ["edge"] ["paddingLeft", "color"] :=
  expands_edge rfl (by decide +kernel) (by decide +kernel)

theorem shaded_expands_edge :
    Shorthand.Expands shaded.shorthands shaded.isProperty ["edge"] ["paddingLeft", "color"] :=
  expands_edge rfl (by decide +kernel) (by decide +kernel)

end Config

/-- What a property has under a condition. -/
def Catalog.entry? (catalog : Catalog) (property condition : String) : Option Entry :=
  (catalog.properties.get? property).bind fun found => found.entries.get? condition

namespace Config

namespace CompilesTo

variable {config : Config} {naming : Naming} {catalog : Catalog}

theorem lookup?_of_expands (compiled : config.CompilesTo naming catalog) {name : String}
    {names : List String}
    (expands : Shorthand.Expands config.shorthands config.isProperty [name] names) :
    catalog.lookup? name = some (names.map (config.propertyNamed naming)) := by
  rw [Catalog.lookup?, compiled.properties, get?_propertiesNamed]
  cases expands with
  | property isOne rest =>
      cases rest
      rw [if_pos isOne]
      rfl
  | shorthand notOne declared inner rest =>
      cases rest
      rw [List.append_nil, notOne, if_neg Bool.false_ne_true]
      obtain ⟨found, listed, expands⟩ := compiled.expands name _ declared
      cases inner.unique expands
      rw [listed, Option.map_some, config.filterMap_propertiesNamed naming expands.all_properties]

theorem lookup?_of_unknown (compiled : config.CompilesTo naming catalog) {name : String}
    (notProperty : config.isProperty name = false)
    (notShorthand : config.shorthands.get? name = none) : catalog.lookup? name = none := by
  have absent : catalog.shorthands.get? name = none := by
    rw [Table.get?_eq_none_iff] at notShorthand ⊢
    rwa [compiled.shorthandKeys]
  rw [Catalog.lookup?, compiled.properties, get?_propertiesNamed, notProperty,
    if_neg Bool.false_ne_true, absent]
  rfl

theorem exists_expands (compiled : config.CompilesTo naming catalog) {name : String}
    (declared : config.isProperty name = true ∨ config.shorthands.get? name ≠ none) :
    ∃ names, Shorthand.Expands config.shorthands config.isProperty [name] names := by
  rcases declared with isProperty | isShorthand
  · exact ⟨[name], .property isProperty .nil⟩
  · obtain ⟨targets, found⟩ := Option.ne_none_iff_exists'.mp isShorthand
    have listed : name ∈ config.shorthands.keys :=
      (Table.mem_keys_iff _ _).mpr ⟨targets, found⟩
    obtain ⟨names, _, expands⟩ := compiled.expands name targets found
    exact ⟨names, .alone (compiled.unshadowed name listed) found expands⟩

theorem entry?_eq (compiled : config.CompilesTo naming catalog) (property condition : String) :
    catalog.entry? property condition =
      if config.isProperty property ∧ condition ∈ config.conditions.keys then
        some (config.entryNamed naming property condition)
      else none := by
  rw [Catalog.entry?, compiled.properties, get?_propertiesNamed]
  by_cases isProperty : config.isProperty property = true
  · rw [if_pos isProperty, Option.bind_some, propertyNamed, Table.get?_mapEntries]
    cases found : config.conditions.get? condition with
    | none =>
        rw [Table.get?_eq_none_iff] at found
        rw [if_neg fun both => found both.2]
        rfl
    | some scope =>
        rw [if_pos ⟨isProperty, (Table.mem_keys_iff _ _).mpr ⟨scope, found⟩⟩]
        rfl
  · rw [if_neg isProperty, if_neg fun both => isProperty both.1]
    rfl

theorem slot_entry? (compiled : config.CompilesTo naming catalog) (property condition : String) :
    (catalog.entry? property condition).bind Entry.slot =
      if property ∈ config.dynamicProperties.keys ∧ condition ∈ config.conditions.keys then
        some (naming.slot property condition)
      else none := by
  rw [compiled.entry?_eq]
  by_cases both : property ∈ config.dynamicProperties.keys ∧ condition ∈ config.conditions.keys
  · have isProperty : config.isProperty property = true :=
      (config.mem_declared_iff property).mp (List.mem_append_left _ both.1)
    rw [if_pos ⟨isProperty, both.2⟩, if_pos both, Option.bind_some, entryNamed,
      (Table.contains_iff_mem_keys _ _).mpr both.1]
    rfl
  · rw [if_neg both]
    split
    · next here =>
        have notDynamic : ¬ config.dynamicProperties.contains property = true := by
          rw [Table.contains_iff_mem_keys]
          exact fun isDynamic => both ⟨isDynamic, here.2⟩
        rw [Option.bind_some, entryNamed, if_neg notDynamic]
    · rfl

theorem choice_entry? (compiled : config.CompilesTo naming catalog)
    (property condition key : String) :
    ((catalog.entry? property condition).bind fun entry => entry.choices.get? key) =
      if condition ∈ config.conditions.keys then
        ((config.literals property).get? key).map fun value =>
          { className := naming (.choiceClass property condition key), value }
      else none := by
  rw [compiled.entry?_eq]
  by_cases isProperty : config.isProperty property = true
  · simp only [isProperty, true_and]
    split
    · rw [Option.bind_some, entryNamed, Naming.get?_choices]
    · rfl
  · have noKey : (config.literals property).get? key = none := by
      rw [Config.isProperty, Bool.or_eq_true, not_or, Table.contains, Table.contains,
        Option.not_isSome_iff_eq_none, Option.not_isSome_iff_eq_none] at isProperty
      rw [literals_of_not_static isProperty.2]
      rfl
    rw [if_neg fun both => isProperty both.1, noKey, Option.map_none, ite_self]
    rfl

end CompilesTo

end Config

end AtomicCss
