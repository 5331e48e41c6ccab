import AtomicCss.Proofs.Catalog.Rules
import AtomicCss.Proofs.Resolution.Identifiers

/-!
# Extended configurations

Static properties that are declared behind all others draw their identifiers after everything
before them has its own, and shorthands draw none. A configuration may therefore be extended by
new properties and shorthands: what it had keeps its identifiers and its rules, and props that
it knew come to what they came to before.
-/

set_option autoImplicit false

namespace AtomicCss

theorem Naming.ofDrawn_append {draws more : List Draw} {names moreNames : List String}
    (sameLength : names.length = draws.length) {site : Site} (kept : site ∈ Draw.sites draws) :
    ofDrawn (draws ++ more) (names ++ moreNames) site = ofDrawn draws names site := by
  induction draws generalizing names with
  | nil => cases kept
  | cons draw rest ih =>
      cases names with
      | nil => cases sameLength
      | cons name others =>
          simp only [List.cons_append, ofDrawn]
          by_cases here : draw.site = some site
          · rw [if_pos here, if_pos here]
          · have later : site ∈ Draw.sites rest := by
              obtain ⟨other, member, located⟩ := List.mem_filterMap.mp kept
              rcases List.mem_cons.mp member with rfl | inRest
              · exact absurd located here
              · exact List.mem_filterMap.mpr ⟨other, inRest, located⟩
            rw [if_neg here, if_neg here, ih (Nat.succ.inj sameLength) later]

/-- A configuration goes on where another one ends: new static properties follow behind the old
ones, and there may be more shorthands. The rest is the same. -/
structure Config.Extends (config extended : Config) : Prop where
  conditions : extended.conditions = config.conditions
  defaultCondition : extended.defaultCondition = config.defaultCondition
  classPrefix : extended.classPrefix = config.classPrefix
  dynamicProperties : extended.dynamicProperties = config.dynamicProperties
  staticProperties : ∃ added,
    extended.staticProperties.entries = config.staticProperties.entries ++ added ∧
      ∀ entry ∈ added, entry.1 ∉ config.propertyNames
  shorthands : ∀ name targets, config.shorthands.get? name = some targets →
    extended.shorthands.get? name = some targets

namespace Config

theorem propertyNamed_congr {config : Config} {first second : Naming} {property : String}
    (same : ∀ site, config.HasSite site → first site = second site) :
    config.propertyNamed first property = config.propertyNamed second property := by
  have entries : ∀ condition ∈ config.conditions.keys,
      config.entryNamed first property condition =
        config.entryNamed second property condition := by
    intro condition configured
    rw [entryNamed, entryNamed]
    congr 1
    · split
      · next isDynamic =>
          rw [Table.contains_iff_mem_keys] at isDynamic
          have sameClass := same (.slotClass property condition) ⟨isDynamic, configured⟩
          have sameVariable := same (.slotVariable property condition) ⟨isDynamic, configured⟩
          rw [Naming.slot, Naming.slot, sameClass, sameVariable]
      · rfl
    · refine Table.mapEntries_congr _ fun key isKey value => ?_
      rw [same (.choiceClass property condition key) ⟨isKey, configured⟩]
  rw [propertyNamed, propertyNamed]
  congr 1
  exact Table.mapEntries_congr _ fun condition configured _ => entries condition configured

namespace Extends

variable {config extended : Config} {naming extendedNaming : Naming}
  {catalog extendedCatalog : Catalog}

theorem exists_draws (extension : config.Extends extended) :
    ∃ more, extended.draws = config.draws ++ more := by
  obtain ⟨added, entries, _⟩ := extension.staticProperties
  refine ⟨added.flatMap fun entry => config.conditions.keys.flatMap fun condition =>
    StaticScale.choiceDraws entry.1 condition entry.2.entries, ?_⟩
  rw [draws, draws, dynamicDraws, dynamicDraws, staticDraws, staticDraws, entries,
    List.flatMap_append, extension.conditions, extension.dynamicProperties, List.append_assoc]

theorem naming_eq (extension : config.Extends extended) (romanize : String → String) {site : Site}
    (hasSite : config.HasSite site) :
    extended.naming (.start extended.classPrefix romanize) site =
      config.naming (.start config.classPrefix romanize) site := by
  obtain ⟨more, draws⟩ := extension.exists_draws
  rw [Config.naming, Config.naming, draws, extension.classPrefix, Draw.names_append]
  exact Naming.ofDrawn_append (Draw.length_names _ _) ((config.mem_sites_draws site).mpr hasSite)

theorem exists_declared (extension : config.Extends extended) :
    ∃ more, extended.declared = config.declared ++ more := by
  obtain ⟨added, entries, _⟩ := extension.staticProperties
  refine ⟨(added.map Prod.fst).filter (!config.dynamicProperties.keys.contains ·), ?_⟩
  rw [declared, declared, Table.keys, Table.keys, Table.keys, entries, List.map_append,
    List.filter_append, extension.dynamicProperties, List.append_assoc]
  rfl

theorem isProperty (extension : config.Extends extended) {name : String}
    (isOne : config.isProperty name = true) : extended.isProperty name = true := by
  obtain ⟨more, declared⟩ := extension.exists_declared
  rw [← mem_declared_iff] at isOne ⊢
  rw [declared]
  exact List.mem_append_left _ isOne

theorem get?_staticProperties (extension : config.Extends extended) {name : String}
    (isOne : config.isProperty name = true) :
    extended.staticProperties.get? name = config.staticProperties.get? name := by
  obtain ⟨added, entries, new⟩ := extension.staticProperties
  have absent : added.lookup name = none := by
    rw [Table.lookup_eq_none_iff]
    intro listed
    obtain ⟨entry, member, rfl⟩ := List.mem_map.mp listed
    rw [← mem_declared_iff] at isOne
    refine new entry member ?_
    rw [propertyNames_eq]
    exact List.mem_append_left _ isOne
  rw [Table.get?, Table.get?, entries, List.lookup_append, absent, Option.or_none]

theorem propertyNamed_eq (extension : config.Extends extended)
    (same : ∀ site, config.HasSite site → extendedNaming site = naming site) {name : String}
    (isOne : config.isProperty name = true) :
    extended.propertyNamed extendedNaming name = config.propertyNamed naming name := by
  have entries (condition : String) :
      extended.entryNamed extendedNaming name condition =
        config.entryNamed extendedNaming name condition := by
    rw [entryNamed, entryNamed, literals, literals, staticEntries, staticEntries,
      extension.get?_staticProperties isOne, extension.dynamicProperties]
  rw [← config.propertyNamed_congr same, propertyNamed, propertyNamed, tokens?, tokens?,
    extension.conditions, extension.dynamicProperties]
  simp only [entries]

theorem isPrefix_propertiesNamed (extension : config.Extends extended)
    (same : ∀ site, config.HasSite site → extendedNaming site = naming site) :
    (config.propertiesNamed naming).entries <+:
      (extended.propertiesNamed extendedNaming).entries := by
  obtain ⟨more, declared⟩ := extension.exists_declared
  refine ⟨more.map fun name => (name, extended.propertyNamed extendedNaming name), ?_⟩
  change config.declared.map _ ++ more.map _ = extended.declared.map _
  rw [declared, List.map_append]
  congr 1
  refine List.map_congr_left fun name listed => ?_
  rw [extension.propertyNamed_eq same ((config.mem_declared_iff name).mp listed)]

theorem expands (extension : config.Extends extended)
    (unshadowed : ∀ name ∈ extended.shorthands.keys, extended.isProperty name = false)
    {targets names : List String}
    (expands : Shorthand.Expands config.shorthands config.isProperty targets names) :
    Shorthand.Expands extended.shorthands extended.isProperty targets names := by
  induction expands with
  | nil => exact .nil
  | property isOne _ ih => exact .property (extension.isProperty isOne) ih
  | shorthand _ declared _ _ innerIH restIH =>
      -- an old shorthand cannot have become a property, or the extension would not build
      have kept := extension.shorthands _ _ declared
      exact .shorthand (unshadowed _ ((Table.mem_keys_iff _ _).mpr ⟨_, kept⟩)) kept innerIH restIH

theorem lookup?_eq (extension : config.Extends extended)
    (same : ∀ site, config.HasSite site → extendedNaming site = naming site)
    (compiled : config.CompilesTo naming catalog)
    (compiledToo : extended.CompilesTo extendedNaming extendedCatalog) {name : String}
    (known : name ∈ config.propertyNames) :
    extendedCatalog.lookup? name = catalog.lookup? name := by
  have declared : config.isProperty name = true ∨ config.shorthands.get? name ≠ none := by
    rw [propertyNames_eq, List.mem_append, mem_declared_iff] at known
    exact known.imp_right fun listed => mt (Table.get?_eq_none_iff _ _).mp (not_not.mpr listed)
  obtain ⟨names, expands⟩ := compiled.exists_expands declared
  rw [compiled.lookup?_of_expands expands,
    compiledToo.lookup?_of_expands (extension.expands compiledToo.unshadowed expands)]
  refine congrArg some (List.map_congr_left fun property listed => ?_)
  exact extension.propertyNamed_eq same (expands.all_properties property listed)

end Extends

end Config

namespace Catalog

theorem isPrefix_rules {left right : Catalog} (sameConditions : left.conditions = right.conditions)
    (properties : left.properties.entries <+: right.properties.entries) :
    left.rules <+: right.rules := by
  obtain ⟨more, split⟩ := properties
  refine ⟨(more.map Prod.snd).flatMap fun property => property.rules right.conditions, ?_⟩
  rw [rules, rules, Table.values, Table.values, ← split, List.map_append, List.flatMap_append,
    sameConditions]

/-- An extended configuration has the catalog of the one it extends at the front of its own:
each old property is the same down to its identifiers, the old rules come first, and props
under old names come to the same classes and style. -/
theorem resolve_extended {config extended : Config} (extension : config.Extends extended)
    {romanize : String → String} {catalog extendedCatalog : Catalog}
    (built : ofConfig config romanize = .ok catalog)
    (builtToo : ofConfig extended romanize = .ok extendedCatalog) :
    (∀ name property, catalog.properties.get? name = some property →
      extendedCatalog.properties.get? name = some property) ∧
    catalog.properties.entries <+: extendedCatalog.properties.entries ∧
    catalog.rules <+: extendedCatalog.rules ∧
    ∀ props : List (String × PropValue), (∀ prop ∈ props, prop.1 ∈ config.propertyNames) →
      extendedCatalog.resolve props = catalog.resolve props := by
  have compiled := Config.compilesTo_of_ofConfig built
  have compiledToo := Config.compilesTo_of_ofConfig builtToo
  have sameNames (site : Site) (hasSite : config.HasSite site) :=
    extension.naming_eq romanize hasSite
  have atFront : catalog.properties.entries <+: extendedCatalog.properties.entries := by
    rw [compiled.properties, compiledToo.properties]
    exact extension.isPrefix_propertiesNamed sameNames
  have sameConditions : catalog.conditions = extendedCatalog.conditions := by
    rw [compiled.conditions, compiledToo.conditions, extension.conditions]
  refine ⟨fun name property found => ?_, atFront, isPrefix_rules sameConditions atFront,
    fun props known => ?_⟩
  · rw [Table.get?_eq_some_iff] at found ⊢
    exact atFront.subset found
  · have sameDefault : extendedCatalog.defaultCondition = catalog.defaultCondition := by
      rw [compiled.defaultCondition, compiledToo.defaultCondition, extension.defaultCondition]
    have sameSettings : extendedCatalog.settings props = catalog.settings props := by
      refine List.flatMap_congr fun prop listed => ?_
      exact congrArg (fun found => (found.getD []).map (·, prop.2))
        (extension.lookup?_eq sameNames compiled compiledToo (known prop listed))
    rw [resolve, resolve, sameSettings, sameDefault]

end Catalog

/-- The specimen, with one more property, whose identifiers are spelled like some that are
taken, and with a shorthand for old and new. -/
def Config.grown : Config :=
  (specimen.withStatic "$color" (.values ["red"])).withShorthand "all" ["edge", "$color"]

theorem Config.specimen_extends_grown : specimen.Extends grown where
  conditions := rfl
  defaultCondition := rfl
  classPrefix := rfl
  dynamicProperties := rfl
  staticProperties := ⟨[("$color", .values ["red"])], by decide +kernel, by decide +kernel⟩
  shorthands := by
    intro name targets declared
    have different : name ≠ "all" := by
      rintro rfl
      have absent : specimen.shorthands.get? "all" = none := by decide +kernel
      cases absent.symm.trans declared
    rw [grown, withShorthand, Table.get?_insert, if_neg different]
    exact declared

/-- The new property clashes with two classes of the old color, and is the one that is marked. -/
theorem Catalog.resolve_extended_grown :
    ∃ catalog extendedCatalog, ofConfig .specimen = .ok catalog ∧
      ofConfig .grown = .ok extendedCatalog ∧ Config.specimen.Extends .grown ∧
      extendedCatalog.ident? (.choiceClass "$color" "small" "red") = some "color-small-red-3" ∧
      catalog.rules <+: extendedCatalog.rules ∧
      extendedCatalog.resolve [("edge", .plain "2px")] =
        catalog.resolve [("edge", .plain "2px")] := by
  obtain ⟨catalog, built⟩ := Config.specimen_builds
  obtain ⟨extendedCatalog, builtToo⟩ : ∃ catalog, ofConfig .grown = .ok catalog :=
    Config.exists_ofConfig_of_ranked _
      (fun name => if name = "all" then 2 else if name = "edge" then 1 else 0) (by decide +kernel)
      (by decide +kernel) (by decide +kernel)
  obtain ⟨_, _, rules, resolved⟩ :=
    resolve_extended Config.specimen_extends_grown built builtToo
  have compiledToo := Config.compilesTo_of_ofConfig builtToo
  rw [Config.naming_eq] at compiledToo
  have marked : extendedCatalog.ident? (.choiceClass "$color" "small" "red") =
      some "color-small-red-3" := by
    rw [compiledToo.ident?_eq_some_iff]
    exact ⟨⟨by decide +kernel, by decide +kernel⟩, by decide +kernel⟩
  refine ⟨catalog, extendedCatalog, built, builtToo, Config.specimen_extends_grown, marked, rules,
    resolved _ fun prop listed => ?_⟩
  rw [List.mem_singleton.mp listed]
  decide +kernel

end AtomicCss
