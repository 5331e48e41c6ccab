import AtomicCss.Catalog.Rule
import AtomicCss.Proofs.Resolution.Tokens

/-!
# Rules of a compiled configuration

The rules of a catalog follow the configuration: property by property and condition by
condition, a rule for the slot of a dynamic property and then one for each lookup key of a
static scale. So there is one rule for each site of a class, and different rules have
different classes.
-/

set_option autoImplicit false

namespace AtomicCss

/-- The slots of a catalog, property by property and condition by condition. -/
def Catalog.slots (catalog : Catalog) : List Slot :=
  catalog.properties.values.flatMap fun property => property.entries.values.filterMap Entry.slot

namespace Naming

/-- The rule of a slot, which reads the custom property. -/
def slotRule (naming : Naming) (property condition : String) (scope : Scope) : Rule where
  className := naming (.slotClass property condition)
  condition := condition
  scope := scope
  cssName := CssName.ofName property
  value := "var(" ++ naming (.slotVariable property condition) ++ ")"

/-- The rule of a lookup key, which sets its literal. -/
def choiceRule (naming : Naming) (property condition : String) (scope : Scope)
    (key literal : String) : Rule where
  className := naming (.choiceClass property condition key)
  condition := condition
  scope := scope
  cssName := CssName.ofName property
  value := literal

end Naming

namespace Config

variable {config : Config} {naming : Naming} {catalog : Catalog}

/-- The rules of a property under a condition: that of the slot, if the property is dynamic,
and one for each lookup key of its static scale. -/
def rulesAt (config : Config) (naming : Naming) (property condition : String) (scope : Scope) :
    List Rule :=
  (if config.dynamicProperties.contains property then [naming.slotRule property condition scope]
  else []) ++
    (config.literals property).entries.map fun (key, literal) =>
      naming.choiceRule property condition scope key literal

/-- The rules of a property under all conditions. -/
def rulesOf (config : Config) (naming : Naming) (property : String) : List Rule :=
  config.conditions.entries.flatMap fun entry =>
    config.rulesAt naming property entry.1 entry.2

/-- The rules of the declared properties. -/
def rulesNamed (config : Config) (naming : Naming) : List Rule :=
  config.declared.flatMap (config.rulesOf naming)

def ruleSitesAt (config : Config) (property condition : String) : List Site :=
  (if config.dynamicProperties.contains property then [.slotClass property condition] else []) ++
    (config.literals property).keys.map (.choiceClass property condition)

/-- The sites of the classes of the rules. -/
def ruleSites (config : Config) : List Site :=
  config.declared.flatMap fun property =>
    config.conditions.keys.flatMap (config.ruleSitesAt property)

theorem map_className_rulesAt (config : Config) (naming : Naming) (property condition : String)
    (scope : Scope) :
    (config.rulesAt naming property condition scope).map Rule.className =
      (config.ruleSitesAt property condition).map naming := by
  rw [rulesAt, ruleSitesAt, List.map_append, List.map_append, Table.keys, List.map_map,
    List.map_map, List.map_map]
  congr 1
  split
  · rfl
  · rfl

theorem map_className_rulesNamed (config : Config) (naming : Naming) :
    (config.rulesNamed naming).map Rule.className = config.ruleSites.map naming := by
  rw [rulesNamed, ruleSites, List.map_flatMap, List.map_flatMap]
  refine List.flatMap_congr fun property _ => ?_
  rw [rulesOf, List.map_flatMap, List.map_flatMap, Table.keys, List.flatMap_map]
  exact List.flatMap_congr fun entry _ =>
    config.map_className_rulesAt naming property entry.1 entry.2

theorem mem_ruleSitesAt_iff (config : Config) (property condition : String) (site : Site) :
    site ∈ config.ruleSitesAt property condition ↔
      property ∈ config.dynamicProperties.keys ∧ site = .slotClass property condition ∨
        ∃ key ∈ (config.literals property).keys, site = .choiceClass property condition key := by
  rw [ruleSitesAt, List.mem_append, List.mem_map]
  refine or_congr ?_ ?_
  · rw [← Table.contains_iff_mem_keys]
    split <;> simp [*]
  · constructor
    · rintro ⟨key, listed, rfl⟩
      exact ⟨key, listed, rfl⟩
    · rintro ⟨key, listed, rfl⟩
      exact ⟨key, listed, rfl⟩

theorem tags_of_mem_ruleSitesAt {property condition : String} {site : Site}
    (listed : site ∈ config.ruleSitesAt property condition) :
    site.property = property ∧ site.condition = condition := by
  rcases (config.mem_ruleSitesAt_iff _ _ _).mp listed with ⟨_, rfl⟩ | ⟨_, _, rfl⟩
  · exact ⟨rfl, rfl⟩
  · exact ⟨rfl, rfl⟩

theorem hasSite_of_mem_ruleSitesAt {property condition : String} {site : Site}
    (configured : condition ∈ config.conditions.keys)
    (listed : site ∈ config.ruleSitesAt property condition) : config.HasSite site := by
  rcases (config.mem_ruleSitesAt_iff _ _ _).mp listed with ⟨isDynamic, rfl⟩ | ⟨key, isKey, rfl⟩
  · exact ⟨isDynamic, configured⟩
  · exact ⟨isKey, configured⟩

theorem exists_site_of_mem_rulesAt {property condition : String} {scope : Scope} {rule : Rule}
    (configured : condition ∈ config.conditions.keys)
    (listed : rule ∈ config.rulesAt naming property condition scope) :
    ∃ site, config.HasSite site ∧ site.property = property ∧ site.condition = condition ∧
      naming site = rule.className := by
  have named : rule.className ∈ (config.ruleSitesAt property condition).map naming :=
    config.map_className_rulesAt naming property condition scope ▸ List.mem_map_of_mem listed
  obtain ⟨site, there, same⟩ := List.mem_map.mp named
  obtain ⟨ofProperty, underCondition⟩ := tags_of_mem_ruleSitesAt there
  exact ⟨site, hasSite_of_mem_ruleSitesAt configured there, ofProperty, underCondition, same⟩

theorem of_mem_rulesAt {property condition : String} {scope : Scope} {rule : Rule}
    (listed : rule ∈ config.rulesAt naming property condition scope) :
    rule.cssName = CssName.ofName property ∧ rule.condition = condition := by
  rcases List.mem_append.mp listed with isSlot | isChoice
  · split at isSlot
    · rw [List.mem_singleton.mp isSlot]
      exact ⟨rfl, rfl⟩
    · cases isSlot
  · obtain ⟨_, _, rfl⟩ := List.mem_map.mp isChoice
    exact ⟨rfl, rfl⟩

theorem mem_declared_of_mem_literals {property key : String}
    (isKey : key ∈ (config.literals property).keys) : property ∈ config.declared := by
  obtain ⟨scale, isStatic, _⟩ := (config.mem_keys_literals property key).mp isKey
  rw [mem_declared_iff, isProperty, Table.contains, Table.contains, isStatic]
  exact Bool.or_true _

theorem mem_declared_of_dynamic {property : String}
    (isDynamic : property ∈ config.dynamicProperties.keys) : property ∈ config.declared :=
  List.mem_append_left _ isDynamic

theorem isProperty_of_classSite? {property condition text : String} {site : Site}
    (located : config.classSite? property condition text = some site) :
    config.isProperty property = true := by
  obtain ⟨hasSite, isClass, rfl, _⟩ := classSite?_eq_some located
  refine (config.mem_declared_iff _).mp ?_
  cases site with
  | slotClass property condition => exact mem_declared_of_dynamic hasSite.1
  | slotVariable property condition => cases isClass
  | choiceClass property condition key => exact mem_declared_of_mem_literals hasSite.1

theorem configured_of_classSite? {property condition text : String} {site : Site}
    (located : config.classSite? property condition text = some site) :
    condition ∈ config.conditions.keys := by
  obtain ⟨hasSite, _, _, rfl⟩ := classSite?_eq_some located
  cases site with
  | slotClass property condition => exact hasSite.2
  | slotVariable property condition => exact hasSite.2
  | choiceClass property condition key => exact hasSite.2

theorem mem_ruleSites_iff (config : Config) (site : Site) :
    site ∈ config.ruleSites ↔ config.HasSite site ∧ site.isClass = true := by
  simp only [ruleSites, List.mem_flatMap, mem_ruleSitesAt_iff]
  constructor
  · rintro ⟨property, _, condition, configured, ⟨isDynamic, rfl⟩ | ⟨key, isKey, rfl⟩⟩
    · exact ⟨⟨isDynamic, configured⟩, rfl⟩
    · exact ⟨⟨isKey, configured⟩, rfl⟩
  · rintro ⟨hasSite, isClass⟩
    cases site with
    | slotClass property condition =>
        exact ⟨property, mem_declared_of_dynamic hasSite.1, condition, hasSite.2,
          .inl ⟨hasSite.1, rfl⟩⟩
    | slotVariable property condition => cases isClass
    | choiceClass property condition key =>
        exact ⟨property, mem_declared_of_mem_literals hasSite.1, condition, hasSite.2,
          .inr ⟨key, hasSite.1, rfl⟩⟩

theorem nodup_ruleSitesAt (config : Config) (property condition : String) :
    (config.ruleSitesAt property condition).Nodup := by
  have choices : ((config.literals property).keys.map
      (Site.choiceClass property condition)).Nodup := by
    refine List.Nodup.map (fun first second same => ?_) (config.literals property).keysNodup
    cases same
    rfl
  rw [ruleSitesAt]
  split
  · refine List.nodup_cons.mpr ⟨fun listed => ?_, choices⟩
    obtain ⟨_, _, same⟩ := List.mem_map.mp listed
    cases same
  · exact choices

theorem nodup_ruleSites (config : Config) : config.ruleSites.Nodup := by
  refine nodup_flatMap_of_tag Site.property id ?_ (fun property _ => ?_) ?_
  · rw [List.map_id]
    exact config.declared_nodup
  · refine nodup_flatMap_of_tag Site.condition id ?_
      (fun condition _ => config.nodup_ruleSitesAt property condition) ?_
    · rw [List.map_id]
      exact config.conditions.keysNodup
    · exact fun condition _ site listed => (tags_of_mem_ruleSitesAt listed).2
  · intro property _ site listed
    obtain ⟨condition, _, there⟩ := List.mem_flatMap.mp listed
    exact (tags_of_mem_ruleSitesAt there).1

theorem classValues_entryNamed (config : Config) (naming : Naming)
    (property condition : String) :
    (config.entryNamed naming property condition).classValues =
      (if config.dynamicProperties.contains property then
        [(naming (.slotClass property condition),
          "var(" ++ naming (.slotVariable property condition) ++ ")")]
      else []) ++
        (config.literals property).entries.map fun entry =>
          (naming (.choiceClass property condition entry.1), entry.2) := by
  rw [Entry.classValues, entryNamed]
  congr 1
  · split
    · rfl
    · rfl
  · rw [Naming.choices, Table.values, Table.mapEntries, List.map_map, List.map_map]
    rfl

theorem rules_propertyNamed (config : Config) (naming : Naming) (property : String) :
    (config.propertyNamed naming property).rules config.conditions =
      config.rulesOf naming property := by
  rw [Property.rules, propertyNamed, Table.mapEntries, List.flatMap_map, rulesOf]
  refine List.flatMap_congr fun entry configured => ?_
  obtain ⟨condition, scope⟩ := entry
  have found := (Table.get?_eq_some_iff _ _ _).mpr configured
  dsimp only
  rw [found]
  dsimp only
  rw [classValues_entryNamed, rulesAt, List.map_append, List.map_map]
  congr 1
  split
  · rfl
  · rfl

theorem CompilesTo.rules_eq (compiled : config.CompilesTo naming catalog) :
    catalog.rules = config.rulesNamed naming := by
  rw [Catalog.rules, compiled.properties, compiled.conditions, propertiesNamed, Table.values,
    List.map_map, List.flatMap_map, rulesNamed]
  exact List.flatMap_congr fun property _ => config.rules_propertyNamed naming property

theorem CompilesTo.nodup_map (compiled : config.CompilesTo naming catalog) {sites : List Site}
    (distinct : sites.Nodup) (within : ∀ site ∈ sites, config.HasSite site) :
    (sites.map naming).Nodup :=
  List.Nodup.map_on (fun first inFirst second inSecond same =>
    compiled.injOn (within first inFirst) (within second inSecond) same) distinct

theorem CompilesTo.nodup_classNames (compiled : config.CompilesTo naming catalog) :
    (catalog.rules.map Rule.className).Nodup := by
  rw [compiled.rules_eq, map_className_rulesNamed]
  exact compiled.nodup_map config.nodup_ruleSites
    fun site listed => ((config.mem_ruleSites_iff site).mp listed).1

theorem CompilesTo.nodup_classNames_rulesAt (compiled : config.CompilesTo naming catalog)
    {condition : String} (configured : condition ∈ config.conditions.keys) (property : String)
    (scope : Scope) :
    ((config.rulesAt naming property condition scope).map Rule.className).Nodup := by
  rw [map_className_rulesAt]
  exact compiled.nodup_map (config.nodup_ruleSitesAt property condition)
    fun _ listed => hasSite_of_mem_ruleSitesAt configured listed

theorem CompilesTo.mem_slots_iff (compiled : config.CompilesTo naming catalog) (slot : Slot) :
    slot ∈ catalog.slots ↔
      ∃ property ∈ config.dynamicProperties.keys, ∃ condition ∈ config.conditions.keys,
        slot = naming.slot property condition := by
  simp only [Catalog.slots, compiled.properties, propertiesNamed, propertyNamed, Table.values,
    Table.mapEntries, List.map_map, List.mem_flatMap, List.mem_filterMap, List.mem_map,
    exists_exists_and_eq_and, Function.comp_apply]
  constructor
  · rintro ⟨property, _, entry, configured, there⟩
    rw [entryNamed] at there
    dsimp only at there
    split at there
    · next isDynamic =>
        exact ⟨property, (Table.contains_iff_mem_keys _ _).mp isDynamic, entry.1,
          List.mem_map_of_mem configured, (Option.some.inj there).symm⟩
    · cases there
  · rintro ⟨property, isDynamic, condition, configured, rfl⟩
    obtain ⟨entry, listed, rfl⟩ := List.mem_map.mp configured
    refine ⟨property, mem_declared_of_dynamic isDynamic, entry, listed, ?_⟩
    rw [entryNamed, (Table.contains_iff_mem_keys _ _).mpr isDynamic]
    rfl

end Config

end AtomicCss
