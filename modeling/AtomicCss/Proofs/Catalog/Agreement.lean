import AtomicCss.Proofs.Catalog.Rules

/-!
# Agreement of rules and attributes

The style sheet and the elements are made from one catalog, and neither refers past the
other. Every class that resolved props switch on has its rule, every custom property that
they set is read by a rule whose class is on, and every rule can be switched on by a prop.
-/

set_option autoImplicit false

namespace AtomicCss

/-- Every token of the attributes is the class of one rule, and every custom property they set
is that of one slot, whose class is a token and whose rule reads the property. -/
structure Catalog.Serves (catalog : Catalog) (attributes : Attributes) : Prop where
  token : ∀ className ∈ attributes.classes,
    ∃! rule, rule ∈ catalog.rules ∧ rule.className = className
  key : ∀ style, attributes.style = some style → ∀ key ∈ style.keys,
    ∃ slot, (slot ∈ catalog.slots ∧ slot.variableName = key ∧
        ∀ other ∈ catalog.slots, other.variableName = key → other = slot) ∧
      slot.className ∈ attributes.classes ∧
      ∃ rule ∈ catalog.rules, rule.className = slot.className ∧
        rule.value = "var(" ++ key ++ ")"

namespace Config

variable {config : Config} {naming : Naming} {catalog : Catalog}

theorem mem_rulesNamed_of_slot (config : Config) (naming : Naming) {property condition : String}
    (isDynamic : property ∈ config.dynamicProperties.keys)
    (configured : condition ∈ config.conditions.keys) :
    ∃ scope, naming.slotRule property condition scope ∈ config.rulesNamed naming := by
  obtain ⟨⟨condition, scope⟩, listed, rfl⟩ := List.mem_map.mp configured
  refine ⟨scope, List.mem_flatMap.mpr ⟨property, mem_declared_of_dynamic isDynamic,
    List.mem_flatMap.mpr ⟨(condition, scope), listed, List.mem_append_left _ ?_⟩⟩⟩
  rw [(Table.contains_iff_mem_keys _ _).mpr isDynamic]
  exact List.mem_singleton_self _

namespace CompilesTo

theorem exists_unique_rule (compiled : config.CompilesTo naming catalog)
    {props reached : List (String × PropValue)} (walk : config.Reaches props reached)
    {className : String} (listed : className ∈ (catalog.resolve props).classes) :
    ∃! rule, rule ∈ catalog.rules ∧ rule.className = className := by
  rw [compiled.classes_resolve walk] at listed
  obtain ⟨site, used, rfl⟩ := List.mem_map.mp listed
  obtain ⟨_, _, _, _, _, _, found⟩ := (config.mem_classSites_iff reached site).mp used
  obtain ⟨hasSite, isClass, _⟩ := classSite?_eq_some found
  have named : naming site ∈ catalog.rules.map Rule.className := by
    rw [compiled.rules_eq, map_className_rulesNamed]
    exact List.mem_map_of_mem ((config.mem_ruleSites_iff site).mpr ⟨hasSite, isClass⟩)
  obtain ⟨rule, member, same⟩ := List.mem_map.mp named
  refine ⟨rule, ⟨member, same⟩, fun other ⟨otherMember, otherSame⟩ => ?_⟩
  exact List.inj_on_of_nodup_map compiled.nodup_classNames otherMember member
    (otherSame.trans same.symm)

theorem exists_slot_of_style (compiled : config.CompilesTo naming catalog)
    {props reached : List (String × PropValue)} (walk : config.Reaches props reached)
    {style : Table String} (styled : (catalog.resolve props).style = some style) {key : String}
    (listed : key ∈ style.keys) :
    ∃ property condition, .slotClass property condition ∈ config.classSites reached ∧
      key = naming (.slotVariable property condition) := by
  rw [compiled.resolve_eq walk] at styled
  rw [Attributes.style_ofEffects styled, Table.mem_keys_ofList] at listed
  obtain ⟨⟨_, written⟩, member, rfl⟩ := List.mem_map.mp listed
  obtain ⟨property, value, isReached, condition, text, given, located, same, _⟩ :=
    (config.mem_writes_iff naming reached _ _).mp member
  exact ⟨property, condition, (config.mem_classSites_iff reached _).mpr
    ⟨property, value, isReached, condition, text, given, located⟩, same⟩

theorem serves_resolve (compiled : config.CompilesTo naming catalog)
    (props : List (String × PropValue)) : catalog.Serves (catalog.resolve props) where
  token := by
    obtain ⟨reached, walk⟩ := compiled.exists_reaches props
    exact fun className listed => compiled.exists_unique_rule walk listed
  key := by
    intro style styled key listed
    obtain ⟨reached, walk⟩ := compiled.exists_reaches props
    obtain ⟨property, condition, used, rfl⟩ := compiled.exists_slot_of_style walk styled listed
    have hasSite := hasSite_of_mem_classSites used
    have isDynamic : property ∈ config.dynamicProperties.keys := hasSite.1
    have configured : condition ∈ config.conditions.keys := hasSite.2
    have isSlot := (compiled.mem_slots_iff _).mpr
      ⟨property, isDynamic, condition, configured, rfl⟩
    refine ⟨naming.slot property condition, ⟨isSlot, rfl, fun other isOther same => ?_⟩,
      (compiled.mem_classes_resolve walk hasSite).mpr used, ?_⟩
    · obtain ⟨otherProperty, otherDynamic, otherCondition, otherConfigured, rfl⟩ :=
        (compiled.mem_slots_iff other).mp isOther
      have otherSite : config.HasSite (.slotVariable otherProperty otherCondition) :=
        ⟨otherDynamic, otherConfigured⟩
      have thisSite : config.HasSite (.slotVariable property condition) :=
        ⟨isDynamic, configured⟩
      cases compiled.injOn otherSite thisSite same
      rfl
    · obtain ⟨scope, ruled⟩ := config.mem_rulesNamed_of_slot naming isDynamic configured
      exact ⟨_, compiled.rules_eq ▸ ruled, rfl, rfl⟩

/-- Every class site is switched on by some value of its property: a choice by its key, the
slot by any other text. -/
theorem exists_classSite? (site : Site) (hasSite : config.HasSite site)
    (isClass : site.isClass = true) :
    ∃ text, config.classSite? site.property site.condition text = some site := by
  cases site with
  | slotClass property condition =>
      have fresh := (IdentPool.due_freeName (config.literals property).keys "").fresh
      refine ⟨IdentPool.freeName (config.literals property).keys "", ?_⟩
      rw [← Table.contains_iff_mem_keys, Bool.not_eq_true] at fresh
      rw [classSite?, Site.property, Site.condition, fresh,
        (Table.contains_iff_mem_keys _ _).mpr hasSite.1,
        (Table.contains_iff_mem_keys _ _).mpr hasSite.2]
      rfl
  | slotVariable property condition => cases isClass
  | choiceClass property condition key =>
      refine ⟨key, ?_⟩
      rw [classSite?, Site.property, Site.condition,
        (Table.contains_iff_mem_keys _ _).mpr hasSite.1,
        (Table.contains_iff_mem_keys _ _).mpr hasSite.2]
      rfl

theorem exists_prop (compiled : config.CompilesTo naming catalog) {rule : Rule}
    (listed : rule ∈ catalog.rules) :
    ∃ name value, (catalog.resolve [(name, value)]).classes = [rule.className] := by
  have named : rule.className ∈ config.ruleSites.map naming := by
    rw [← map_className_rulesNamed, ← compiled.rules_eq]
    exact List.mem_map_of_mem listed
  obtain ⟨site, member, same⟩ := List.mem_map.mp named
  obtain ⟨hasSite, isClass⟩ := (config.mem_ruleSites_iff site).mp member
  obtain ⟨text, located⟩ := exists_classSite? site hasSite isClass
  have isProperty := isProperty_of_classSite? located
  let value := PropValue.conditional (Table.ofList [(site.condition, text)])
  have walk : config.Reaches [(site.property, value)] [(site.property, value)] :=
    .followed (.property isProperty .nil) .nil
  have used : config.classSites [(site.property, value)] = [site] := by
    change (config.classSite? site.property site.condition text).toList ++ [] = [site]
    rw [located]
    rfl
  refine ⟨site.property, value, ?_⟩
  rw [compiled.classes_resolve walk, used, ← same]
  rfl

end CompilesTo

end Config

namespace Catalog

/-- A configuration that compiles has one rule for each of its bindings, and its rules and the
attributes of props refer to each other without loose ends. -/
theorem rules_serve_resolve {config : Config} {romanize : String → String} {catalog : Catalog}
    (built : ofConfig config romanize = .ok catalog) :
    (∃ naming : Naming, Set.InjOn naming {site | config.HasSite site} ∧
      catalog.rules = config.rulesNamed naming) ∧
    (catalog.rules.map Rule.className).Nodup ∧
    (∀ props, catalog.Serves (catalog.resolve props)) ∧
    ∀ rule ∈ catalog.rules,
      ∃ name value, (catalog.resolve [(name, value)]).classes = [rule.className] := by
  have compiled := Config.compilesTo_of_ofConfig built
  exact ⟨⟨_, compiled.injOn, compiled.rules_eq⟩, compiled.nodup_classNames,
    compiled.serves_resolve, fun rule listed => compiled.exists_prop listed⟩

/-- The rules of a property that is dynamic and static, and of one that is only dynamic. A value
that is listed twice has one rule under each condition. -/
theorem rules_serve_resolve_specimen :
    let wide : Scope := { media := some "(min-width: 40em)" }
    ∃ catalog, ofConfig .specimen = .ok catalog ∧
      catalog.rules =
        [⟨"color-small", "small", {}, "color", "var(--color-small)"⟩,
         ⟨"color-small-red-2", "small", {}, "color", "red"⟩,
         ⟨"color-small-blue", "small", {}, "color", "blue"⟩,
         ⟨"color-wide", "wide", wide, "color", "var(--color-wide)"⟩,
         ⟨"color-wide-red-2", "wide", wide, "color", "red"⟩,
         ⟨"color-wide-blue", "wide", wide, "color", "blue"⟩,
         ⟨"paddingLeft-small", "small", {}, "padding-left", "var(--paddingLeft-small)"⟩,
         ⟨"paddingLeft-wide", "wide", wide, "padding-left", "var(--paddingLeft-wide)"⟩] ∧
      (∃ naming : Naming, Set.InjOn naming {site | Config.specimen.HasSite site} ∧
        catalog.rules = Config.specimen.rulesNamed naming) ∧
      (catalog.rules.map Rule.className).Nodup ∧
      (∀ props, catalog.Serves (catalog.resolve props)) ∧
      ∀ rule ∈ catalog.rules,
        ∃ name value, (catalog.resolve [(name, value)]).classes = [rule.className] := by
  intro wide
  obtain ⟨catalog, built⟩ := Config.specimen_builds
  have compiled := Config.compilesTo_of_ofConfig built
  refine ⟨catalog, built, ?_, rules_serve_resolve built⟩
  rw [compiled.rules_eq]
  decide +kernel

end Catalog

end AtomicCss
