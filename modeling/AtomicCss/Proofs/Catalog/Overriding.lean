import AtomicCss.Proofs.Catalog.Precedence
import AtomicCss.Proofs.Catalog.Shown

/-!
# Overriding

Props may give a property several values under one condition. Each value binds a rule of the
property and switches it on, and no later value switches it off again; only what is written to
the slot is replaced. So of all these values the one counts whose rule stands last in the style
sheet, and among values for the same rule the last one.
-/

set_option autoImplicit false

namespace AtomicCss

/-- A value that a property is given under a condition. -/
structure Assignment where
  property : String
  condition : String
  text : String

/-- What reached properties are given, value by value. -/
def Config.assigned (config : Config) (reached : List (String × PropValue)) : List Assignment :=
  reached.flatMap fun (property, value) =>
    (value.byCondition config.defaultCondition).map fun (condition, text) =>
      { property, condition, text }

/-- What an assignment writes to the slot of its property, if it takes the slot. -/
def Config.write? (config : Config) (naming : Naming) (assignment : Assignment) :
    Option (String × String) :=
  (config.effect? naming assignment.property assignment.condition assignment.text).bind
    Effect.write

namespace Catalog

def binding? (catalog : Catalog) (property condition text : String) : Option Binding :=
  (catalog.properties.get? property).bind fun compiled => compiled.binding? condition text

/-- The bindings of a property under a condition, each with the value that takes it, in order. -/
def bound (catalog : Catalog) (assignments : List Assignment) (property condition : String) :
    List (Binding × String) :=
  assignments.filterMap fun assignment =>
    if assignment.property = property ∧ assignment.condition = condition then
      (catalog.binding? property condition assignment.text).map (·, assignment.text)
    else none

/-- The place in the style sheet of the rule of a class. -/
def place (catalog : Catalog) (className : String) : Nat :=
  (catalog.rules.map Rule.className).idxOf className

def boundPlace (catalog : Catalog) (bound : Binding × String) : Nat :=
  catalog.place bound.1.className

/-- Whether a rule is one of a property under a condition. -/
def hasRule (catalog : Catalog) (property condition : String) (rule : Rule) : Bool :=
  rule.condition == condition &&
    (catalog.properties.get? property).any fun compiled =>
      (compiled.rules catalog.conditions).contains rule

/-- The last rule of a property under a condition whose class is on. -/
def lastOn? (catalog : Catalog) (attributes : Attributes) (property condition : String) :
    Option Rule :=
  (catalog.rules.filter fun rule => catalog.hasRule property condition rule &&
    attributes.classes.contains rule.className).getLast?

theorem mem_rules_of_hasRule {catalog : Catalog} {property condition : String} {rule : Rule}
    (has : catalog.hasRule property condition rule = true) : rule ∈ catalog.rules := by
  rw [hasRule, Bool.and_eq_true, Option.any_eq_true] at has
  obtain ⟨_, compiled, found, listed⟩ := has
  refine List.mem_flatMap.mpr ⟨compiled, ?_, List.contains_iff_mem.mp listed⟩
  exact List.mem_map_of_mem ((Table.get?_eq_some_iff _ _ _).mp found)

theorem mem_bound_iff (catalog : Catalog) (assignments : List Assignment)
    (property condition text : String) (binding : Binding) :
    (binding, text) ∈ catalog.bound assignments property condition ↔
      ⟨property, condition, text⟩ ∈ assignments ∧
        catalog.binding? property condition text = some binding := by
  rw [bound, List.mem_filterMap]
  constructor
  · rintro ⟨assignment, listed, found⟩
    split at found
    · next same =>
        obtain ⟨rfl, rfl⟩ := same
        obtain ⟨other, isBinding, same⟩ := Option.map_eq_some_iff.mp found
        cases same
        exact ⟨listed, isBinding⟩
    · cases found
  · rintro ⟨listed, isBinding⟩
    refine ⟨_, listed, ?_⟩
    rw [if_pos ⟨rfl, rfl⟩, isBinding]
    rfl

theorem exists_split_of_bound {catalog : Catalog} {assignments : List Assignment}
    {property condition text : String} {binding : Binding} {before after : List (Binding × String)}
    (split : catalog.bound assignments property condition = before ++ (binding, text) :: after) :
    ∃ front rest, assignments = front ++ ⟨property, condition, text⟩ :: rest ∧
      catalog.binding? property condition text = some binding ∧
      catalog.bound rest property condition = after := by
  obtain ⟨front, remaining, rfl, _, split⟩ := List.filterMap_eq_append_iff.mp split
  obtain ⟨passed, assignment, rest, rfl, _, isBound, isAfter⟩ :=
    List.filterMap_eq_cons_iff.mp split
  obtain ⟨given, under, written⟩ := assignment
  dsimp only at isBound
  split at isBound
  · next same =>
      obtain ⟨rfl, rfl⟩ := same
      obtain ⟨_, binds, same⟩ := Option.map_eq_some_iff.mp isBound
      cases same
      exact ⟨front ++ passed, rest, by rw [List.append_assoc], binds, isAfter⟩
  · cases isBound

/-- Of a property under a condition the last rule that is on shows what a text means. -/
def Shows (config : Config) (catalog : Catalog) (attributes : Attributes)
    (property condition text : String) : Prop :=
  ∃ meant, config.value? property text = some meant ∧
    (catalog.lastOn? attributes property condition).map (catalog.shown? attributes) =
      some (some meant)

end Catalog

namespace Config

variable {config : Config} {naming : Naming} {catalog : Catalog}
  {props reached : List (String × PropValue)} {property condition text : String}

theorem mem_assigned_iff (config : Config) (reached : List (String × PropValue))
    (property condition text : String) :
    ⟨property, condition, text⟩ ∈ config.assigned reached ↔
      ∃ value, (property, value) ∈ reached ∧
        (condition, text) ∈ value.byCondition config.defaultCondition := by
  simp only [assigned, List.mem_flatMap, List.mem_map, Prod.exists, Assignment.mk.injEq]
  constructor
  · rintro ⟨_, value, isReached, _, _, given, rfl, rfl, rfl⟩
    exact ⟨value, isReached, given⟩
  · rintro ⟨value, isReached, given⟩
    exact ⟨property, value, isReached, condition, text, given, rfl, rfl, rfl⟩

theorem writes_eq_filterMap (config : Config) (naming : Naming)
    (reached : List (String × PropValue)) :
    (config.effects naming reached).filterMap Effect.write =
      (config.assigned reached).filterMap (config.write? naming) := by
  rw [effects, assigned, List.filterMap_flatMap, List.filterMap_flatMap]
  refine List.flatMap_congr fun setting _ => ?_
  obtain ⟨property, value⟩ := setting
  dsimp only
  rw [valueEffects_eq, List.filterMap_filterMap, List.filterMap_map]
  rfl

namespace CompilesTo

theorem map_className_binding? (compiled : config.CompilesTo naming catalog)
    (property condition text : String) :
    (catalog.binding? property condition text).map Binding.className =
      (config.classSite? property condition text).map naming := by
  rw [Catalog.binding?, compiled.properties, get?_propertiesNamed]
  by_cases isProperty : config.isProperty property = true
  · rw [if_pos isProperty, Option.bind_some, binding?_propertyNamed, classSite?,
      Table.contains, Table.contains, Table.contains]
    cases config.conditions.get? condition with
    | none => rfl
    | some scope =>
        cases (config.literals property).get? text with
        | some literal => rfl
        | none =>
            cases config.dynamicProperties.get? property with
            | none => rfl
            | some scale => rfl
  · rw [if_neg isProperty, Option.bind_none, Option.map_none]
    cases located : config.classSite? property condition text with
    | none => rfl
    | some site => exact absurd (isProperty_of_classSite? located) isProperty

theorem hasRule_iff (compiled : config.CompilesTo naming catalog)
    (isProperty : config.isProperty property = true) (rule : Rule) :
    catalog.hasRule property condition rule = true ↔
      ∃ scope, (condition, scope) ∈ config.conditions.entries ∧
        rule ∈ config.rulesAt naming property condition scope := by
  rw [Catalog.hasRule, compiled.properties, get?_propertiesNamed, if_pos isProperty,
    compiled.conditions, Option.any_some, rules_propertyNamed, Bool.and_eq_true, beq_iff_eq,
    List.contains_iff_mem, rulesOf, List.mem_flatMap]
  constructor
  · rintro ⟨rfl, ⟨under, scope⟩, configured, listed⟩
    cases (of_mem_rulesAt listed).2
    exact ⟨scope, configured, listed⟩
  · rintro ⟨scope, configured, listed⟩
    exact ⟨(of_mem_rulesAt listed).2, _, configured, listed⟩

theorem exists_site_of_binding? (compiled : config.CompilesTo naming catalog) {binding : Binding}
    (binds : catalog.binding? property condition text = some binding) :
    ∃ site, config.classSite? property condition text = some site ∧
      naming site = binding.className := by
  have sameClass := compiled.map_className_binding? property condition text
  rw [binds, Option.map_some] at sameClass
  exact Option.map_eq_some_iff.mp sameClass.symm

theorem exists_rule_of_bound (compiled : config.CompilesTo naming catalog)
    (walk : config.Reaches props reached) {binding : Binding}
    (isBound : (binding, text) ∈ catalog.bound (config.assigned reached) property condition) :
    ∃ scope rule, config.ruleFor? naming property condition scope text = some rule ∧
      catalog.hasRule property condition rule = true ∧ rule.className = binding.className ∧
      rule.className ∈ (catalog.resolve props).classes := by
  obtain ⟨assigned, binds⟩ := (catalog.mem_bound_iff _ _ _ _ _).mp isBound
  obtain ⟨value, isReached, given⟩ := (config.mem_assigned_iff _ _ _ _).mp assigned
  obtain ⟨site, located, named⟩ := compiled.exists_site_of_binding? binds
  have hasSite := (classSite?_eq_some located).1
  have configured := configured_of_classSite? located
  obtain ⟨⟨_, scope⟩, isEntry, rfl⟩ := List.mem_map.mp configured
  cases found : config.ruleFor? naming property _ scope text with
  | none => cases (ruleFor?_eq_none found).1.symm.trans located
  | some rule =>
      obtain ⟨listed, other, locatedToo, namedToo⟩ := ruleFor?_eq_some configured found
      cases located.symm.trans locatedToo
      refine ⟨scope, rule, found, ?_, namedToo.trans named, ?_⟩
      · exact (compiled.hasRule_iff (walk.isProperty isReached) rule).mpr ⟨scope, isEntry, listed⟩
      · rw [namedToo, compiled.mem_classes_resolve walk hasSite, mem_classSites_iff]
        exact ⟨property, value, isReached, _, text, given, located⟩

theorem exists_bound_of_hasRule (compiled : config.CompilesTo naming catalog)
    (walk : config.Reaches props reached) (isProperty : config.isProperty property = true)
    {rule : Rule} (has : catalog.hasRule property condition rule = true)
    (isOn : rule.className ∈ (catalog.resolve props).classes) :
    ∃ binding text, (binding, text) ∈ catalog.bound (config.assigned reached) property condition ∧
      binding.className = rule.className := by
  obtain ⟨scope, isEntry, listed⟩ := (compiled.hasRule_iff isProperty rule).mp has
  obtain ⟨site, hasSite, ofProperty, underCondition, named⟩ :=
    exists_site_of_mem_rulesAt (List.mem_map_of_mem isEntry) listed
  rw [← named, compiled.mem_classes_resolve walk hasSite, mem_classSites_iff] at isOn
  obtain ⟨_, value, isReached, _, text, given, located⟩ := isOn
  obtain ⟨_, _, rfl, rfl⟩ := classSite?_eq_some located
  cases ofProperty
  cases underCondition
  have sameClass := compiled.map_className_binding? site.property site.condition text
  rw [located, Option.map_some] at sameClass
  obtain ⟨binding, binds, sameName⟩ := Option.map_eq_some_iff.mp sameClass
  refine ⟨binding, text, (catalog.mem_bound_iff _ _ _ _ _).mpr ⟨?_, binds⟩, sameName.trans named⟩
  exact (config.mem_assigned_iff _ _ _ _).mpr ⟨value, isReached, given⟩

theorem ascending_place (compiled : config.CompilesTo naming catalog) :
    catalog.rules.Pairwise fun first second =>
      catalog.place first.className < catalog.place second.className := by
  have placed : ∀ index (below : index < catalog.rules.length),
      catalog.place catalog.rules[index].className = index := by
    intro index below
    have atIndex := compiled.nodup_classNames.idxOf_getElem index (by simpa using below)
    rwa [List.getElem_map] at atIndex
  rw [List.pairwise_iff_getElem]
  intro first second inFirst inSecond before
  rwa [placed, placed]

theorem get?_style_of_prevails (compiled : config.CompilesTo naming catalog)
    (walk : config.Reaches props reached) {binding : Binding}
    (prevails : Prevails catalog.boundPlace
      (catalog.bound (config.assigned reached) property condition) (binding, text))
    (located : config.classSite? property condition text = some (.slotClass property condition)) :
    ((catalog.resolve props).style.bind fun style =>
        style.get? (naming (.slotVariable property condition))) =
      some (Alias.substitute (config.tokens? property) text) := by
  obtain ⟨before, after, split, _, below⟩ := prevails
  obtain ⟨front, rest, whole, binds, isAfter⟩ := Catalog.exists_split_of_bound split
  have isWritten : config.write? naming ⟨property, condition, text⟩ = some _ :=
    (config.write_effect?_iff _ _ _ _ _ _).mpr ⟨located, rfl, rfl⟩
  rw [compiled.resolve_eq walk, Attributes.get?_style_ofEffects, writes_eq_filterMap, whole,
    List.filterMap_append, List.filterMap_cons_some isWritten]
  -- A later write to this slot would be that of a bound value with the same rule, but the rules
  -- of the later ones stand before it.
  refine Table.get?_ofList_of_last _ _ fun writtenLater => ?_
  obtain ⟨⟨_, written⟩, inWrites, rfl⟩ := List.mem_map.mp writtenLater
  obtain ⟨⟨other, under, later⟩, inRest, wrote⟩ := List.mem_filterMap.mp inWrites
  obtain ⟨otherLocated, same, _⟩ := (config.write_effect?_iff _ _ _ _ _ _).mp wrote
  obtain ⟨rfl, rfl⟩ := compiled.slotVariable_inj located otherLocated same
  have thisClass := compiled.map_className_binding? property condition text
  have otherClass := compiled.map_className_binding? property condition later
  rw [binds, located] at thisClass
  rw [otherLocated] at otherClass
  obtain ⟨otherBinding, otherBinds, otherName⟩ := Option.map_eq_some_iff.mp otherClass
  have isLater : (otherBinding, later) ∈ after :=
    isAfter ▸ (catalog.mem_bound_iff _ _ _ _ _).mpr ⟨inRest, otherBinds⟩
  have lower : catalog.place otherBinding.className < catalog.place binding.className :=
    below _ isLater
  rw [otherName, ← Option.some.inj thisClass] at lower
  exact Nat.lt_irrefl _ lower

theorem shows_of_prevails (compiled : config.CompilesTo naming catalog)
    (walk : config.Reaches props reached) {chosen : Binding × String}
    (prevails : Prevails catalog.boundPlace
      (catalog.bound (config.assigned reached) property condition) chosen) :
    catalog.Shows config (catalog.resolve props) property condition chosen.2 := by
  obtain ⟨binding, text⟩ := chosen
  obtain ⟨scope, rule, found, has, named, isOn⟩ := compiled.exists_rule_of_bound walk prevails.mem
  obtain ⟨_, binds⟩ := (catalog.mem_bound_iff _ _ _ _ _).mp prevails.mem
  obtain ⟨site, located, _⟩ := compiled.exists_site_of_binding? binds
  -- Any rule that is on is that of a bound value, and none of these stands later.
  have isLast : catalog.lastOn? (catalog.resolve props) property condition = some rule := by
    refine getLast?_filter_of_highest compiled.ascending_place
      (Catalog.mem_rules_of_hasRule has) ?_ fun other _ kept => ?_
    · rw [has, List.contains_iff_mem.mpr isOn]
      rfl
    · rw [Bool.and_eq_true, List.contains_iff_mem] at kept
      obtain ⟨otherBinding, otherText, isBound, otherNamed⟩ :=
        compiled.exists_bound_of_hasRule walk (isProperty_of_classSite? located) kept.1 kept.2
      rw [← otherNamed, named]
      exact prevails.le isBound
  obtain ⟨meant, means, shown⟩ := shown?_ruleFor? compiled
    (configured_of_classSite? located) (compiled.get?_style_of_prevails walk prevails) found
  refine ⟨meant, means, ?_⟩
  rw [isLast, Option.map_some, shown]

end CompilesTo

/-- A configuration in which tokens and literals of one property meet. -/
def inked : Config :=
  let plain := ((start "small").withCondition "small" {}).withCondition "wide"
    { media := some "(min-width: 40em)" }
  (plain.withDynamic "color" (.tokens (Table.ofList [("ink", "#123")]))).withStatic "color"
    (.values ["red", "blue"])

end Config

namespace Catalog

/-- What is on for a property under a condition shows, of the values that props give, the one
whose rule stands last in the style sheet, and of several with this rule the last one. That is
the last value of all, unless the rule of an earlier one stands after its own. -/
theorem lastOn?_shows_prevailing {config : Config} {romanize : String → String}
    {catalog : Catalog} (built : ofConfig config romanize = .ok catalog)
    (props : List (String × PropValue)) :
    ∃ reached, config.Reaches props reached ∧ ∀ property condition,
      let bound := catalog.bound (config.assigned reached) property condition
      (bound ≠ [] → ∃ chosen, Prevails catalog.boundPlace bound chosen ∧
        catalog.Shows config (catalog.resolve props) property condition chosen.2) ∧
      ∀ earlier last, bound = earlier ++ [last] →
        (∀ other ∈ earlier, catalog.boundPlace other ≤ catalog.boundPlace last) →
        catalog.Shows config (catalog.resolve props) property condition last.2 := by
  have compiled := Config.compilesTo_of_ofConfig built
  obtain ⟨reached, walk⟩ := compiled.exists_reaches props
  refine ⟨reached, walk, fun property condition => ?_⟩
  intro bound
  constructor
  · intro nonempty
    obtain ⟨chosen, prevails⟩ := exists_prevails catalog.boundPlace nonempty
    exact ⟨chosen, prevails, compiled.shows_of_prevails walk prevails⟩
  · intro earlier last split highest
    have prevails : Prevails catalog.boundPlace bound last := split ▸ prevails_concat highest
    exact compiled.shows_of_prevails walk prevails

private theorem exists_of_check {config : Config} {holds : Catalog → Prop}
    [DecidablePred holds]
    (check : ((ofConfig config).toOption.any fun catalog => decide (holds catalog)) = true) :
    ∃ catalog, ofConfig config = .ok catalog ∧ holds catalog := by
  cases built : ofConfig config with
  | error fault =>
      rw [built] at check
      cases check
  | ok catalog =>
      rw [built] at check
      exact ⟨catalog, rfl, of_decide_eq_true check⟩

/-- A literal whose rule stands last prevails though it comes first, and one that comes last
prevails over the slot. -/
theorem lastOn?_shows_prevailing_inked :
    let mixed := [("color", PropValue.plain "blue"), ("color", .plain "$ink"),
      ("color", .plain "red")]
    let sorted := [("color", PropValue.plain "$ink"),
      ("color", .conditional (Table.ofList [("wide", "blue"), ("small", "red")]))]
    ∃ catalog, ofConfig .inked = .ok catalog ∧
      catalog.Shows .inked (catalog.resolve mixed) "color" "small" "blue" ∧
      catalog.Shows .inked (catalog.resolve sorted) "color" "small" "red" := by
  intro mixed sorted
  let slot : Binding × String := (.slot ⟨"color-small", "--color-small"⟩, "$ink")
  let red : Binding × String := (.choice ⟨"color-small-red", "red"⟩, "red")
  let blue : Binding × String := (.choice ⟨"color-small-blue", "blue"⟩, "blue")
  obtain ⟨catalog, built, boundMixed, boundSorted, slotBelow, redBelow⟩ :
      ∃ catalog, ofConfig .inked = .ok catalog ∧
        catalog.bound (Config.inked.assigned mixed) "color" "small" = [blue, slot, red] ∧
        catalog.bound (Config.inked.assigned sorted) "color" "small" = [slot, red] ∧
        catalog.boundPlace slot < catalog.boundPlace red ∧
        catalog.boundPlace red < catalog.boundPlace blue :=
    exists_of_check (by decide +kernel)
  have isColor {value : PropValue} {props reached : List (String × PropValue)}
      (rest : Config.inked.Reaches props reached) :
      Config.inked.Reaches (("color", value) :: props) (("color", value) :: reached) :=
    .followed (.property (by decide +kernel) .nil) rest
  refine ⟨catalog, built, ?_, ?_⟩
  · obtain ⟨reached, walk, shows⟩ := lastOn?_shows_prevailing built mixed
    cases walk.unique (isColor (isColor (isColor .nil)))
    obtain ⟨chosen, prevails, shown⟩ := (shows "color" "small").1
      (boundMixed ▸ List.cons_ne_nil _ _)
    have isBlue : chosen = blue := by
      rw [boundMixed] at prevails
      refine prevails.unique ⟨[], [slot, red], rfl, by simp, ?_⟩
      simpa using ⟨slotBelow.trans redBelow, redBelow⟩
    rwa [isBlue] at shown
  · obtain ⟨reached, walk, shows⟩ := lastOn?_shows_prevailing built sorted
    cases walk.unique (isColor (isColor .nil))
    refine (shows "color" "small").2 [slot] red boundSorted fun other listed => ?_
    rw [List.mem_singleton.mp listed]
    exact Nat.le_of_lt slotBelow

/-- Of two literals the one whose rule stands last is shown, though the other one comes last. -/
theorem not_lastOn?_shows_last :
    let props := [("color", PropValue.plain "blue"), ("color", .plain "red")]
    ∃ catalog, ofConfig .inked = .ok catalog ∧ Config.inked.Reaches props props ∧
      (∃ earlier, catalog.bound (Config.inked.assigned props) "color" "small" =
        earlier ++ [(.choice ⟨"color-small-red", "red"⟩, "red")]) ∧
      catalog.Shows .inked (catalog.resolve props) "color" "small" "blue" ∧
      ¬ catalog.Shows .inked (catalog.resolve props) "color" "small" "red" := by
  intro props
  obtain ⟨catalog, built, isBound, shown⟩ : ∃ catalog, ofConfig .inked = .ok catalog ∧
      catalog.bound (Config.inked.assigned props) "color" "small" =
        [(.choice ⟨"color-small-blue", "blue"⟩, "blue"),
          (.choice ⟨"color-small-red", "red"⟩, "red")] ∧
      (catalog.lastOn? (catalog.resolve props) "color" "small").map
        (catalog.shown? (catalog.resolve props)) = some (some "blue") :=
    exists_of_check (by decide +kernel)
  have walk : Config.inked.Reaches props props :=
    .followed (.property (by decide +kernel) .nil)
      (.followed (.property (by decide +kernel) .nil) .nil)
  refine ⟨catalog, built, walk, ⟨[_], isBound⟩, ⟨"blue", by decide +kernel, shown⟩, ?_⟩
  rintro ⟨meant, means, shownToo⟩
  have isRed : Config.inked.value? "color" "red" = some "red" := by decide +kernel
  cases isRed.symm.trans means
  exact absurd (shown.symm.trans shownToo) (by decide)

end Catalog

end AtomicCss
