import AtomicCss.Bundle
import AtomicCss.Proofs.Compilation.Catalog
import AtomicCss.Proofs.NameSet.Split

/-!
# What compilation declares

A catalog is put together from two passes, property by property and condition by condition.
Nothing is lost on the way and nothing added: it has the declared names in their order, each
property under every condition with what both of its scales say, and shorthands whose targets
are all there.
-/

set_option autoImplicit false

namespace AtomicCss

/-- No lookup key of a scale stands for two values. -/
theorem StaticScale.eq_of_mem_entries (scale : StaticScale) {key first second : String}
    (inFirst : (key, first) ∈ scale.entries) (inSecond : (key, second) ∈ scale.entries) :
    first = second := by
  cases scale with
  | values list =>
      obtain ⟨_, _, same⟩ := List.mem_map.mp inFirst
      obtain ⟨_, _, sameToo⟩ := List.mem_map.mp inSecond
      cases same
      cases sameToo
      rfl
  | aliases table =>
      obtain ⟨⟨name, _⟩, listed, same⟩ := List.mem_map.mp inFirst
      obtain ⟨⟨other, _⟩, otherListed, sameToo⟩ := List.mem_map.mp inSecond
      cases same
      obtain ⟨sameKey, rfl⟩ := Prod.mk.inj sameToo
      cases String.append_right_inj _ |>.mp sameKey
      rw [← Table.get?_eq_some_iff] at listed otherListed
      exact Option.some.inj (listed.symm.trans otherListed)

namespace Config

variable {config : Config} {naming : Naming} {catalog : Catalog}

/-- A compiled property has what is declared under its name, and nothing else. -/
structure Declares (config : Config) (name : String) (property : Property) : Prop where
  sameName : property.name = name
  cssName : property.cssName = CssName.ofName name
  conditions : property.entries.keys = config.conditions.keys
  /-- A property that takes any value or is not dynamic has no tokens. -/
  tokens : ∀ table, property.tokens = some table ↔
    config.dynamicProperties.get? name = some (.tokens table)
  slot : ∀ condition entry, property.entries.get? condition = some entry →
    (entry.slot.isSome = true ↔ name ∈ config.dynamicProperties.keys)
  /-- Each lookup key once, in the order of the first occurrences. -/
  choices : ∀ condition entry, property.entries.get? condition = some entry →
    entry.choices.keys = ((config.staticEntries name).map Prod.fst).eraseDups
  literal : ∀ condition entry, property.entries.get? condition = some entry →
    ∀ key value, (key, value) ∈ config.staticEntries name →
      (entry.choices.get? key).map Choice.value = some value

theorem get?_literals (config : Config) {property key value : String}
    (listed : (key, value) ∈ config.staticEntries property) :
    (config.literals property).get? key = some value := by
  rw [literals]
  refine Table.get?_ofList_of_forall listed fun other there => ?_
  rw [staticEntries_eq] at listed there
  cases isStatic : config.staticProperties.get? property with
  | none =>
      rw [isStatic] at listed
      cases listed
  | some scale =>
      rw [isStatic] at listed there
      exact scale.eq_of_mem_entries there listed

namespace Declares

variable {name condition : String} {property : Property}

theorem exists_entry (declares : config.Declares name property)
    (configured : condition ∈ config.conditions.keys) :
    ∃ entry, property.entries.get? condition = some entry := by
  rw [← Table.mem_keys_iff, declares.conditions]
  exact configured

theorem tokens_eq_none (declares : config.Declares name property)
    (unrestricted : config.dynamicProperties.get? name = some .unrestricted) :
    property.tokens = none := by
  refine Option.eq_none_iff_forall_ne_some.mpr fun table isSome => ?_
  cases unrestricted.symm.trans ((declares.tokens table).mp isSome)

end Declares

theorem declares_propertyNamed (config : Config) (naming : Naming) (name : String) :
    config.Declares name (config.propertyNamed naming name) := by
  have under {condition : String} {entry : Entry}
      (found : (config.propertyNamed naming name).entries.get? condition = some entry) :
      entry = config.entryNamed naming name condition := by
    rw [propertyNamed, Table.get?_mapEntries] at found
    obtain ⟨_, _, same⟩ := Option.map_eq_some_iff.mp found
    exact same.symm
  constructor
  case sameName => rfl
  case cssName => rfl
  case conditions => exact Table.keys_mapEntries _ _
  case tokens => exact config.tokens?_eq_some_iff name
  case slot =>
    intro condition entry found
    rw [under found, entryNamed, ← Table.contains_iff_mem_keys]
    by_cases isDynamic : config.dynamicProperties.contains name = true
    · simp [isDynamic]
    · simp [isDynamic]
  case choices =>
    intro condition entry found
    rw [under found, entryNamed, Naming.keys_choices, literals, Table.keys_ofList]
  case literal =>
    intro condition entry found key value listed
    rw [under found, entryNamed, Naming.get?_choices, config.get?_literals listed]
    rfl

theorem propertyNames_eq (config : Config) :
    config.propertyNames = config.declared ++ config.shorthands.keys := by
  have sameTest : (fun name => !config.dynamicProperties.contains name) =
      fun name => !config.dynamicProperties.keys.contains name := by
    funext name
    rw [Bool.eq_iff_iff.mpr ((config.dynamicProperties.contains_iff_mem_keys name).trans
      List.contains_iff_mem.symm)]
  rw [propertyNames, declared, sameTest]

namespace CompilesTo

theorem keys_properties (compiled : config.CompilesTo naming catalog) :
    catalog.properties.keys = config.declared := by
  rw [compiled.properties, keys_propertiesNamed]

theorem propertyNames_eq (compiled : config.CompilesTo naming catalog) :
    catalog.propertyNames = config.propertyNames := by
  rw [Catalog.propertyNames, compiled.keys_properties, compiled.shorthandKeys,
    Config.propertyNames_eq]

theorem nodup_propertyNames (compiled : config.CompilesTo naming catalog) :
    config.propertyNames.Nodup := by
  rw [Config.propertyNames_eq]
  refine config.declared_nodup.append config.shorthands.keysNodup ?_
  intro name isDeclared isShorthand
  rw [mem_declared_iff, compiled.unshadowed name isShorthand] at isDeclared
  cases isDeclared

/-- The properties of an expansion are all there, and look-up finds each of them in turn. -/
theorem lookup?_shorthand (compiled : config.CompilesTo naming catalog) {name : String}
    {targets : List String} (listed : catalog.shorthands.get? name = some targets) :
    (∀ target ∈ targets, target ∈ catalog.properties.keys) ∧
      ∃ properties, catalog.lookup? name = some properties ∧
        targets.map catalog.properties.get? = properties.map some := by
  have isShorthand : name ∈ config.shorthands.keys :=
    compiled.shorthandKeys ▸ (Table.mem_keys_iff _ _).mpr ⟨targets, listed⟩
  obtain ⟨sources, declared⟩ := (Table.mem_keys_iff _ _).mp isShorthand
  obtain ⟨names, found, expands⟩ := compiled.expands name sources declared
  cases listed.symm.trans found
  have alone := Shorthand.Expands.alone (compiled.unshadowed name isShorthand) declared expands
  refine ⟨fun target member => ?_, targets.map (config.propertyNamed naming),
    compiled.lookup?_of_expands alone, ?_⟩
  · rw [compiled.keys_properties, mem_declared_iff]
    exact expands.all_properties target member
  · rw [List.map_map]
    refine List.map_congr_left fun target member => ?_
    rw [compiled.properties, get?_propertiesNamed, if_pos (expands.all_properties target member)]
    rfl

end CompilesTo

end Config

/-- A configuration that compiles turns into just what it declares: its names in their order,
under each of them the declared property with all conditions, and shorthands that lead to
compiled properties only. -/
theorem Catalog.ofConfig_declared {config : Config} {romanize : String → String}
    {catalog : Catalog} (built : ofConfig config romanize = .ok catalog) :
    catalog.properties.keys =
        config.dynamicProperties.keys ++
          config.staticProperties.keys.filter (!config.dynamicProperties.keys.contains ·) ∧
    (catalog.propertyNames = config.propertyNames ∧
      (Bundle.ofCatalog catalog).names.names = config.propertyNames ∧
      config.propertyNames.Nodup) ∧
    (∀ name property, catalog.properties.get? name = some property →
      config.Declares name property ∧ catalog.lookup? name = some [property]) ∧
    ∀ name targets, catalog.shorthands.get? name = some targets →
      (∀ target ∈ targets, target ∈ catalog.properties.keys) ∧
        ∃ properties, catalog.lookup? name = some properties ∧
          targets.map catalog.properties.get? = properties.map some := by
  have compiled := Config.compilesTo_of_ofConfig built
  have distinct := compiled.nodup_propertyNames
  refine ⟨compiled.keys_properties, ⟨compiled.propertyNames_eq, ?_, distinct⟩, ?_,
    fun name targets listed => compiled.lookup?_shorthand listed⟩
  · rw [Bundle.ofCatalog, NameSet.ofCatalog, compiled.propertyNames_eq]
    exact NameSet.names_ofList distinct
  · intro name property found
    refine ⟨?_, by rw [lookup?, found]⟩
    rw [compiled.properties, Config.get?_propertiesNamed] at found
    split at found
    · cases found
      exact config.declares_propertyNamed _ name
    · cases found

/-- A property that is dynamic and static has both under each condition, and a value that is
listed twice has one class there. The tokens are those of the scale that names some. -/
theorem Catalog.ofConfig_declared_specimen :
    ∃ catalog, ofConfig .specimen = .ok catalog ∧
      catalog.properties.keys = ["color", "paddingLeft"] ∧
      (Bundle.ofCatalog catalog).names.names = ["color", "paddingLeft", "edge", "inset"] ∧
      (∃ color, catalog.properties.get? "color" = some color ∧
        color.tokens = some (Table.ofList [("ink", "#123")]) ∧
        ∃ entry, color.entries.get? "wide" = some entry ∧ entry.slot.isSome = true ∧
          entry.choices.keys = ["red", "blue"] ∧
          (entry.choices.get? "red").map Choice.value = some "red") ∧
      ∃ padding, catalog.properties.get? "paddingLeft" = some padding ∧
        padding.cssName = "padding-left" ∧ padding.tokens = none ∧
        ∃ entry, padding.entries.get? "wide" = some entry ∧ entry.slot.isSome = true ∧
          entry.choices.keys = [] := by
  obtain ⟨catalog, built⟩ := Config.specimen_builds
  obtain ⟨keys, ⟨_, names, _⟩, declares, _⟩ := ofConfig_declared built
  have sameKeys : catalog.properties.keys = ["color", "paddingLeft"] :=
    keys.trans (by decide +kernel)
  obtain ⟨color, isColor⟩ := (Table.mem_keys_iff _ "color").mp (by rw [sameKeys]; decide)
  obtain ⟨padding, isPadding⟩ :=
    (Table.mem_keys_iff _ "paddingLeft").mp (by rw [sameKeys]; decide)
  obtain ⟨ofColor, _⟩ := declares "color" color isColor
  obtain ⟨ofPadding, _⟩ := declares "paddingLeft" padding isPadding
  have wide : "wide" ∈ Config.specimen.conditions.keys := by decide +kernel
  refine ⟨catalog, built, sameKeys, names.trans (by decide +kernel), ?_, ?_⟩
  · obtain ⟨entry, under⟩ := ofColor.exists_entry wide
    exact ⟨color, isColor, (ofColor.tokens _).mpr (by decide +kernel), entry, under,
      (ofColor.slot "wide" entry under).mpr (by decide +kernel),
      (ofColor.choices "wide" entry under).trans (by decide +kernel),
      ofColor.literal "wide" entry under "red" "red" (by decide +kernel)⟩
  · obtain ⟨entry, under⟩ := ofPadding.exists_entry wide
    exact ⟨padding, isPadding, ofPadding.cssName.trans (by decide +kernel),
      ofPadding.tokens_eq_none (by decide +kernel), entry, under,
      (ofPadding.slot "wide" entry under).mpr (by decide +kernel),
      (ofPadding.choices "wide" entry under).trans (by decide +kernel)⟩

end AtomicCss
