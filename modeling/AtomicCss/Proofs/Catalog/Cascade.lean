import AtomicCss.Proofs.Catalog.Shown

/-!
# What an element shows

Which conditions hold on an element is up to its surroundings. Among the rules for a CSS
property whose class is on and whose condition holds, the last one in the style sheet counts.
It shows the value that the props give for the latest condition that holds, as under each
condition at most one rule is on and the rules follow the order of the conditions.
-/

set_option autoImplicit false

namespace AtomicCss

/-- The rule that counts for a CSS property: of those whose class is on and whose condition
is active, the last one. -/
def Catalog.winning? (catalog : Catalog) (attributes : Attributes) (isActive : String → Bool)
    (cssName : String) : Option Rule :=
  (catalog.rules.filter fun rule => rule.cssName == cssName &&
    attributes.classes.contains rule.className && isActive rule.condition).getLast?

namespace Config

/-- The value that a prop value gives a property under a condition: a plain value gives one
under the default condition only. -/
def valueUnder? (config : Config) (property : String) (value : PropValue) (condition : String) :
    Option String :=
  match value with
  | .plain text =>
      if condition = config.defaultCondition then config.value? property text else none
  | .conditional values => (values.get? condition).bind (config.value? property)

/-- The value that a prop value gives a property for the latest active condition, in the order
of the configuration, under which it gives one. -/
def latestValue? (config : Config) (property : String) (value : PropValue)
    (isActive : String → Bool) : Option String :=
  ((config.conditions.keys.filter isActive).filterMap
    (config.valueUnder? property value)).getLast?

end Config

private theorem flatMap_eq_of_only {α β : Type} {items : List α} {parts : α → List β} {item : α}
    (distinct : items.Nodup) (listed : item ∈ items)
    (others : ∀ other ∈ items, other ≠ item → parts other = []) :
    items.flatMap parts = parts item := by
  obtain ⟨before, after, rfl⟩ := List.mem_iff_append.mp listed
  obtain ⟨_, second, apart⟩ := List.nodup_append.mp distinct
  have nothingBefore : before.flatMap parts = [] := by
    refine List.flatMap_eq_nil_iff.mpr fun other earlier => ?_
    exact others other (List.mem_append_left _ earlier)
      (apart other earlier item List.mem_cons_self)
  have nothingAfter : after.flatMap parts = [] := by
    refine List.flatMap_eq_nil_iff.mpr fun other later => ?_
    refine others other (List.mem_append_right _ (List.mem_cons_of_mem _ later)) ?_
    rintro rfl
    exact (List.nodup_cons.mp second).1 later
  rw [List.flatMap_append, List.flatMap_cons, nothingBefore, nothingAfter, List.nil_append,
    List.append_nil]

private theorem filter_eq_singleton {α β : Type} {items : List α} {tag : α → β} {item : α}
    (distinct : (items.map tag).Nodup) (listed : item ∈ items) {keeps : α → Bool}
    (kept : ∀ other ∈ items, keeps other = true ↔ tag other = tag item) :
    items.filter keeps = [item] := by
  obtain ⟨before, after, rfl⟩ := List.mem_iff_append.mp listed
  rw [List.map_append, List.map_cons] at distinct
  obtain ⟨_, second, apart⟩ := List.nodup_append.mp distinct
  have noneBefore : before.filter keeps = [] := by
    refine List.filter_eq_nil_iff.mpr fun other earlier keptOther => ?_
    have same := (kept other (List.mem_append_left _ earlier)).mp keptOther
    exact apart _ (List.mem_map_of_mem earlier) _ List.mem_cons_self same
  have noneAfter : after.filter keeps = [] := by
    refine List.filter_eq_nil_iff.mpr fun other later keptOther => ?_
    have same := (kept other
      (List.mem_append_right _ (List.mem_cons_of_mem _ later))).mp keptOther
    exact (List.nodup_cons.mp second).1 (same ▸ List.mem_map_of_mem later)
  have keptItem : keeps item = true := (kept item listed).mpr rfl
  rw [List.filter_append, List.filter_cons, noneBefore, noneAfter, keptItem]
  rfl

namespace Config

variable {config : Config} {naming : Naming} {catalog : Catalog}
  {props reached : List (String × PropValue)} {property condition : String} {scope : Scope}
  {value : PropValue}

theorem valueUnder?_eq (config : Config) (property : String) (value : PropValue)
    (condition : String) :
    config.valueUnder? property value condition =
      ((value.byCondition config.defaultCondition).lookup condition).bind
        (config.value? property) := by
  cases value with
  | plain text =>
      rw [valueUnder?, PropValue.byCondition, Table.lookup_cons_eq]
      split
      · rfl
      · rfl
  | conditional values => rfl

theorem mem_classes_iff (compiled : config.CompilesTo naming catalog)
    (walk : config.Reaches props reached) (sets : SetsOnce reached property value) {site : Site}
    (hasSite : config.HasSite site) (ofProperty : site.property = property) :
    naming site ∈ (catalog.resolve props).classes ↔
      ((value.byCondition config.defaultCondition).lookup site.condition).bind
        (config.classSite? property site.condition) = some site := by
  rw [compiled.mem_classes_resolve walk hasSite, mem_classSites_iff]
  simp only [PropValue.mem_byCondition_iff, Option.bind_eq_some_iff]
  constructor
  · rintro ⟨other, otherValue, otherReached, under, text, given, located⟩
    obtain ⟨_, _, rfl, rfl⟩ := classSite?_eq_some located
    cases ofProperty
    cases sets.once otherValue otherReached
    exact ⟨text, given, located⟩
  · rintro ⟨text, given, located⟩
    exact ⟨property, value, sets.isReached, site.condition, text, given, located⟩

/-- Under each condition a value switches on the rule of its class alone. -/
theorem filter_rulesAt (compiled : config.CompilesTo naming catalog)
    (walk : config.Reaches props reached) (sets : SetsOnce reached property value)
    (configured : condition ∈ config.conditions.keys) (scope : Scope) :
    ((config.rulesAt naming property condition scope).filter fun rule =>
        (catalog.resolve props).classes.contains rule.className) =
      (((value.byCondition config.defaultCondition).lookup condition).bind
        (config.ruleFor? naming property condition scope)).toList := by
  have isOn : ∀ rule ∈ config.rulesAt naming property condition scope,
      ∃ site, config.HasSite site ∧ naming site = rule.className ∧
        ((catalog.resolve props).classes.contains rule.className = true ↔
          ((value.byCondition config.defaultCondition).lookup condition).bind
            (config.classSite? property condition) = some site) := by
    intro rule listed
    obtain ⟨site, hasSite, ofProperty, rfl, same⟩ := exists_site_of_mem_rulesAt configured listed
    refine ⟨site, hasSite, same, ?_⟩
    rw [List.contains_iff_mem, ← same]
    exact mem_classes_iff compiled walk sets hasSite ofProperty
  cases switched : ((value.byCondition config.defaultCondition).lookup condition).bind
      (config.ruleFor? naming property condition scope) with
  | none =>
      refine List.filter_eq_nil_iff.mpr fun rule listed isToken => ?_
      obtain ⟨site, _, _, tokenIff⟩ := isOn rule listed
      obtain ⟨text, given, located⟩ := Option.bind_eq_some_iff.mp (tokenIff.mp isToken)
      rw [given] at switched
      cases (ruleFor?_eq_none switched).1.symm.trans located
  | some rule =>
      obtain ⟨text, given, found⟩ := Option.bind_eq_some_iff.mp switched
      obtain ⟨listed, site, located, named⟩ := ruleFor?_eq_some configured found
      refine filter_eq_singleton (compiled.nodup_classNames_rulesAt configured property scope)
        listed fun other otherListed => ?_
      obtain ⟨otherSite, hasOther, otherNamed, tokenIff⟩ := isOn other otherListed
      rw [tokenIff, given, Option.bind_some, located, named, ← otherNamed, Option.some.injEq]
      constructor
      · rintro rfl
        rfl
      · exact fun same => (compiled.injOn hasOther (classSite?_eq_some located).1 same).symm

theorem reached_of_mem_rulesAt (compiled : config.CompilesTo naming catalog)
    (walk : config.Reaches props reached) {rule : Rule}
    (configured : condition ∈ config.conditions.keys)
    (listed : rule ∈ config.rulesAt naming property condition scope)
    (isToken : rule.className ∈ (catalog.resolve props).classes) :
    ∃ value, (property, value) ∈ reached := by
  obtain ⟨site, hasSite, ofProperty, _, same⟩ := exists_site_of_mem_rulesAt configured listed
  rw [← same, compiled.mem_classes_resolve walk hasSite, mem_classSites_iff] at isToken
  obtain ⟨other, value, isReached, _, _, _, located⟩ := isToken
  obtain ⟨_, _, ofOther, _⟩ := classSite?_eq_some located
  cases ofProperty.symm.trans ofOther
  exact ⟨value, isReached⟩

theorem setsOnce_of_apart (apart : (reached.map fun setting => CssName.ofName setting.1).Nodup)
    (isReached : (property, value) ∈ reached) : SetsOnce reached property value where
  isReached := isReached
  once := fun _ otherReached =>
    congrArg Prod.snd (List.inj_on_of_nodup_map apart otherReached isReached rfl)

/-- Only rules of the property itself compete for its CSS property, one at most under each
condition, in the order of the conditions. -/
theorem competing_eq (compiled : config.CompilesTo naming catalog)
    (walk : config.Reaches props reached)
    (apart : (reached.map fun setting => CssName.ofName setting.1).Nodup)
    (isReached : (property, value) ∈ reached) (isActive : String → Bool) :
    (catalog.rules.filter fun rule => rule.cssName == CssName.ofName property &&
        (catalog.resolve props).classes.contains rule.className && isActive rule.condition) =
      (config.conditions.entries.filter fun entry => isActive entry.1).filterMap fun entry =>
        ((value.byCondition config.defaultCondition).lookup entry.1).bind
          (config.ruleFor? naming property entry.1 entry.2) := by
  have declared : property ∈ config.declared :=
    (config.mem_declared_iff property).mpr (walk.isProperty isReached)
  rw [compiled.rules_eq, rulesNamed, List.filter_flatMap,
    flatMap_eq_of_only config.declared_nodup declared, rulesOf, List.filter_flatMap,
    List.filterMap_filter, List.filterMap_eq_flatMap_toList]
  · refine List.flatMap_congr fun entry configured => ?_
    obtain ⟨condition, scope⟩ := entry
    have isOn := filter_rulesAt compiled walk (setsOnce_of_apart apart isReached)
      (List.mem_map_of_mem configured) scope
    dsimp only at isOn ⊢
    by_cases active : isActive condition = true
    · rw [if_pos active, ← isOn]
      refine List.filter_congr fun rule listed => ?_
      rw [(of_mem_rulesAt listed).1, (of_mem_rulesAt listed).2, active, beq_self_eq_true,
        Bool.true_and, Bool.and_true]
    · rw [if_neg active]
      refine List.filter_eq_nil_iff.mpr fun rule listed kept => active ?_
      rw [Bool.and_eq_true, (of_mem_rulesAt listed).2] at kept
      exact kept.2
  · intro other _ different
    refine List.filter_eq_nil_iff.mpr fun rule listed kept => different ?_
    obtain ⟨⟨condition, scope⟩, configured, there⟩ := List.mem_flatMap.mp listed
    rw [Bool.and_eq_true, Bool.and_eq_true, beq_iff_eq, List.contains_iff_mem,
      (of_mem_rulesAt there).1] at kept
    obtain ⟨otherValue, otherReached⟩ := reached_of_mem_rulesAt compiled walk
      (List.mem_map_of_mem configured) there kept.1.2
    exact congrArg Prod.fst (List.inj_on_of_nodup_map apart otherReached isReached kept.1.1)

theorem winning?_shown (compiled : config.CompilesTo naming catalog)
    (walk : config.Reaches props reached)
    (apart : (reached.map fun setting => CssName.ofName setting.1).Nodup)
    (isReached : (property, value) ∈ reached) (isActive : String → Bool) :
    (catalog.winning? (catalog.resolve props) isActive (CssName.ofName property)).map
        (catalog.shown? (catalog.resolve props)) =
      (config.latestValue? property value isActive).map some := by
  rw [Catalog.winning?, competing_eq compiled walk apart isReached isActive,
    latestValue?, ← List.getLast?_map, ← List.getLast?_map, List.map_filterMap,
    List.map_filterMap, Table.keys, List.filter_map, List.filterMap_map]
  refine congrArg List.getLast? (List.filterMap_congr fun entry listed => ?_)
  obtain ⟨condition, scope⟩ := entry
  have configured := List.mem_map_of_mem (f := Prod.fst) (List.mem_of_mem_filter listed)
  dsimp only [Function.comp_apply]
  rw [valueUnder?_eq]
  cases given : (value.byCondition config.defaultCondition).lookup condition with
  | none => rfl
  | some text =>
      rw [Option.bind_some, Option.bind_some]
      cases found : config.ruleFor? naming property condition scope text with
      | none =>
          rw [(ruleFor?_eq_none found).2]
          rfl
      | some rule =>
          have sets := setsOnce_of_apart apart isReached
          obtain ⟨meant, means, shown⟩ := shown?_ruleFor? compiled configured
            (get?_style compiled walk sets ((PropValue.mem_byCondition_iff _ _ _ _).mpr given))
            found
          rw [means, Option.map_some, Option.map_some, shown]

end Config

namespace Catalog

/-- Where props reach no property twice and no two properties of one CSS name, the rule that
counts for a reached property exists under the active conditions just if its value means
something under one of them, and then shows what it means under the latest one. -/
theorem winning?_shows_latest {config : Config} {romanize : String → String} {catalog : Catalog}
    (built : ofConfig config romanize = .ok catalog) (props : List (String × PropValue)) :
    ∃ reached, config.Reaches props reached ∧
      ((reached.map fun setting => CssName.ofName setting.1).Nodup →
        ∀ property value, (property, value) ∈ reached → ∀ isActive : String → Bool,
          (catalog.winning? (catalog.resolve props) isActive (CssName.ofName property)).map
              (catalog.shown? (catalog.resolve props)) =
            (config.latestValue? property value isActive).map some) := by
  have compiled := Config.compilesTo_of_ofConfig built
  obtain ⟨reached, walk⟩ := compiled.exists_reaches props
  exact ⟨reached, walk, fun apart _ _ isReached isActive =>
    Config.winning?_shown compiled walk apart isReached isActive⟩

/-- The later condition counts, however the prop orders its values. A literal shows itself, not
the key that stands for it. -/
theorem winning?_shows_latest_shaded :
    let props :=
      [("edge", PropValue.conditional (Table.ofList [("wide", "$ink"), ("small", "$warn")]))]
    ∃ catalog, ofConfig .shaded = .ok catalog ∧
      (catalog.winning? (catalog.resolve props) (fun _ => true) "color").map
        (catalog.shown? (catalog.resolve props)) = some (some "#123") ∧
      (catalog.winning? (catalog.resolve props) (· == "small") "color").map
        (catalog.shown? (catalog.resolve props)) = some (some "#c00") ∧
      catalog.winning? (catalog.resolve props) (fun _ => false) "color" = none := by
  intro props
  obtain ⟨catalog, built⟩ := Config.shaded_builds
  obtain ⟨reached, walk, shows⟩ := winning?_shows_latest built props
  have edge : Config.shaded.Reaches props
      [("paddingLeft", props[0].2), ("color", props[0].2)] :=
    .followed Config.shaded_expands_edge .nil
  cases walk.unique edge
  have shown := shows (by decide +kernel) "color" props[0].2
    (List.mem_cons_of_mem _ List.mem_cons_self)
  exact ⟨catalog, built, (shown fun _ => true).trans (by decide +kernel),
    (shown (· == "small")).trans (by decide +kernel),
    Option.map_eq_none_iff.mp ((shown fun _ => false).trans (by decide +kernel))⟩

end Catalog

end AtomicCss
