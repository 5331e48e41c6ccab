import AtomicCss.Proofs.Compilation.Catalog
import AtomicCss.Proofs.Resolution.Effects

/-!
# Interpreting a configuration

What props come to, read off the configuration itself. The props are followed in order to the
properties they stand for; each value under a configured condition switches on a class and,
unless its class sets it alone, is written to a custom property. Nothing but the names of the
sites comes from compilation. Resolving props against the compiled configuration gives
exactly the result of this interpretation.
-/

set_option autoImplicit false

namespace AtomicCss

namespace Config

/-- The properties that props reach, each with its value. Names that are neither properties nor
shorthands are skipped. -/
inductive Reaches (config : Config) :
    List (String × PropValue) → List (String × PropValue) → Prop where
  | nil : Reaches config [] []
  | skipped {name : String} {value : PropValue} {props reached : List (String × PropValue)} :
      config.isProperty name = false → config.shorthands.get? name = none →
      Reaches config props reached → Reaches config ((name, value) :: props) reached
  | followed {name : String} {value : PropValue} {names : List String}
      {props reached : List (String × PropValue)} :
      Shorthand.Expands config.shorthands config.isProperty [name] names →
      Reaches config props reached →
      Reaches config ((name, value) :: props) (names.map (·, value) ++ reached)

/-- What a value of a property under a condition comes to. A lookup key of the static scale has
a class of its own; any other value of a dynamic property is written, its references replaced. -/
def effect? (config : Config) (naming : Naming) (property condition text : String) :
    Option Effect :=
  if config.conditions.contains condition then
    if (config.literals property).contains text then
      some { className := naming (.choiceClass property condition text), write := none }
    else if config.dynamicProperties.contains property then
      some
        { className := naming (.slotClass property condition)
          write := some (naming (.slotVariable property condition),
            Alias.substitute (config.tokens? property) text) }
    else none
  else none

/-- What a prop value comes to for a property: one value under the default condition, or one
after the other the values under the conditions that are named. -/
def valueEffects (config : Config) (naming : Naming) (property : String) :
    PropValue → List Effect
  | .plain text => (config.effect? naming property config.defaultCondition text).toList
  | .conditional values =>
      values.entries.filterMap fun (condition, text) =>
        config.effect? naming property condition text

/-- The effects of reached properties, one after the other. -/
def effects (config : Config) (naming : Naming) (reached : List (String × PropValue)) :
    List Effect :=
  reached.flatMap fun (property, value) => config.valueEffects naming property value

/-- The interpretation of props by a configuration. -/
def Interprets (config : Config) (naming : Naming) (props : List (String × PropValue))
    (attributes : Attributes) : Prop :=
  ∃ reached, config.Reaches props reached ∧
    attributes = .ofEffects (config.effects naming reached)

variable {config : Config} {naming : Naming} {catalog : Catalog}

/-- A name that is skipped stands for nothing. -/
theorem not_expands {name : String} {names : List String}
    (notProperty : config.isProperty name = false)
    (notShorthand : config.shorthands.get? name = none) :
    ¬ Shorthand.Expands config.shorthands config.isProperty [name] names := by
  intro expands
  rcases expands.declared with isProperty | ⟨targets, declared⟩
  · cases notProperty.symm.trans isProperty
  · cases notShorthand.symm.trans declared

theorem Reaches.unique {props first second : List (String × PropValue)}
    (left : config.Reaches props first) (right : config.Reaches props second) :
    first = second := by
  induction left generalizing second with
  | nil => cases right; rfl
  | skipped notProperty notShorthand _ ih =>
      cases right with
      | skipped _ _ rest => exact ih rest
      | followed expands _ => exact absurd expands (not_expands notProperty notShorthand)
  | followed expands _ ih =>
      cases right with
      | skipped notProperty notShorthand _ =>
          exact absurd expands (not_expands notProperty notShorthand)
      | followed others rest => rw [expands.unique others, ih rest]

theorem Reaches.isProperty {props reached : List (String × PropValue)}
    (walk : config.Reaches props reached) {property : String} {value : PropValue}
    (isReached : (property, value) ∈ reached) : config.isProperty property = true := by
  induction walk with
  | nil => cases isReached
  | skipped _ _ _ ih => exact ih isReached
  | followed expands _ ih =>
      rcases List.mem_append.mp isReached with here | later
      · obtain ⟨name, listed, same⟩ := List.mem_map.mp here
        cases same
        exact expands.all_properties _ listed
      · exact ih later

/-- Properties reach themselves. -/
theorem Reaches.of_isProperty {props : List (String × PropValue)}
    (known : ∀ prop ∈ props, config.isProperty prop.1 = true) : config.Reaches props props := by
  induction props with
  | nil => exact .nil
  | cons prop rest ih =>
      obtain ⟨isProperty, later⟩ := List.forall_mem_cons.mp known
      exact .followed (.property isProperty .nil) (ih later)

theorem CompilesTo.exists_reaches (compiled : config.CompilesTo naming catalog)
    (props : List (String × PropValue)) : ∃ reached, config.Reaches props reached := by
  induction props with
  | nil => exact ⟨[], .nil⟩
  | cons prop rest ih =>
      obtain ⟨name, value⟩ := prop
      obtain ⟨reached, walk⟩ := ih
      by_cases declared : config.isProperty name = true ∨ config.shorthands.get? name ≠ none
      · obtain ⟨names, expands⟩ := compiled.exists_expands declared
        exact ⟨_, .followed expands walk⟩
      · obtain ⟨notProperty, notShorthand⟩ := not_or.mp declared
        exact ⟨_, .skipped (Bool.eq_false_iff.mpr notProperty) (not_not.mp notShorthand) walk⟩

theorem CompilesTo.settings_eq (compiled : config.CompilesTo naming catalog)
    {props reached : List (String × PropValue)} (walk : config.Reaches props reached) :
    catalog.settings props =
      reached.map fun setting => (config.propertyNamed naming setting.1, setting.2) := by
  induction walk with
  | nil => rfl
  | skipped notProperty notShorthand _ ih =>
      rw [Catalog.settings_cons, compiled.lookup?_of_unknown notProperty notShorthand]
      exact ih
  | followed expands _ ih =>
      rw [Catalog.settings_cons, compiled.lookup?_of_expands expands, ih, List.map_append,
        Option.getD_some, List.map_map, List.map_map]
      rfl

theorem binding?_propertyNamed (config : Config) (naming : Naming)
    (property condition text : String) :
    (config.propertyNamed naming property).binding? condition text =
      if config.conditions.contains condition then
        match (config.literals property).get? text with
        | some value =>
            some (.choice { className := naming (.choiceClass property condition text), value })
        | none =>
            if config.dynamicProperties.contains property then
              some (.slot (naming.slot property condition))
            else none
      else none := by
  rw [Property.binding?, propertyNamed, Table.get?_mapEntries, Table.contains]
  cases config.conditions.get? condition with
  | none => rfl
  | some scope =>
      rw [Option.map_some, Option.bind_some, Entry.bind?, entryNamed, Naming.get?_choices]
      cases (config.literals property).get? text with
      | some value => rfl
      | none =>
          by_cases isDynamic : config.dynamicProperties.contains property = true
          · simp [isDynamic]
          · simp [isDynamic]

/-- The binding of a value in the compiled property has the effect that the configuration
gives the value. -/
theorem effect?_eq (config : Config) (naming : Naming) (property condition text : String) :
    config.effect? naming property condition text =
      ((config.propertyNamed naming property).binding? condition text).map
        (Binding.effect (config.propertyNamed naming property).tokens text) := by
  rw [binding?_propertyNamed, effect?, Table.contains, Table.contains]
  cases config.conditions.get? condition with
  | none => rfl
  | some scope =>
      cases (config.literals property).get? text with
      | some value => rfl
      | none =>
          by_cases isDynamic : config.dynamicProperties.contains property = true
          · simp [Binding.effect, propertyNamed, isDynamic, Naming.slot]
          · simp [isDynamic]

/-- The resolver goes over the conditions of a prop value in the same order. -/
theorem valueEffects_eq (config : Config) (naming : Naming) (property : String)
    (value : PropValue) :
    config.valueEffects naming property value =
      (value.byCondition config.defaultCondition).filterMap fun (condition, text) =>
        config.effect? naming property condition text := by
  rw [PropValue.filterMap_byCondition]
  cases value with
  | plain text => rfl
  | conditional values => rfl

theorem CompilesTo.effects_eq (compiled : config.CompilesTo naming catalog)
    {props reached : List (String × PropValue)} (walk : config.Reaches props reached) :
    catalog.effects props = config.effects naming reached := by
  rw [Catalog.effects, compiled.settings_eq walk, compiled.defaultCondition, List.flatMap_map,
    effects]
  refine List.flatMap_congr fun setting _ => ?_
  obtain ⟨property, value⟩ := setting
  dsimp only
  rw [valueEffects_eq]
  exact List.filterMap_congr fun given _ =>
    (config.effect?_eq naming property given.1 given.2).symm

theorem CompilesTo.resolve_eq (compiled : config.CompilesTo naming catalog)
    {props reached : List (String × PropValue)} (walk : config.Reaches props reached) :
    catalog.resolve props = .ofEffects (config.effects naming reached) := by
  rw [Catalog.resolve_eq, compiled.effects_eq walk]

end Config

/-- Whatever the romanization, there are names for the sites of a configuration that compiles,
all different, so that resolving props against the catalog is to interpret them. -/
theorem Catalog.interprets_iff_resolve {config : Config} {romanize : String → String}
    {catalog : Catalog} (built : Catalog.ofConfig config romanize = .ok catalog) :
    ∃ naming : Naming, Set.InjOn naming {site | config.HasSite site} ∧
      ∀ props attributes,
        config.Interprets naming props attributes ↔ attributes = catalog.resolve props := by
  have compiled := Config.compilesTo_of_ofConfig built
  refine ⟨config.naming (.start config.classPrefix romanize), compiled.injOn,
    fun props attributes => ?_⟩
  constructor
  · rintro ⟨reached, walk, rfl⟩
    exact (compiled.resolve_eq walk).symm
  · rintro rfl
    obtain ⟨reached, walk⟩ := compiled.exists_reaches props
    exact ⟨reached, walk, compiled.resolve_eq walk⟩

/-- A lookup key switches on its class and writes nothing, a reference is written as its token, a
scalar goes to the default condition, and a shorthand sets what it stands for. A name and a
condition that are not configured are skipped. -/
theorem Catalog.interprets_iff_resolve_shaded :
    let props :=
      [("margin", PropValue.plain "1px"), ("edge", .plain "2px"),
       ("color", .conditional
         (Table.ofList [("wide", "$warn"), ("print", "red"), ("small", "$ink")])),
       ("display", .plain "flex")]
    let attributes : Attributes :=
      { classText :=
          "paddingLeft-small color-small color-wide-warn color-small display-small-flex"
        style := some (Table.ofList [("--paddingLeft-small", "2px"), ("--color-small", "#123")]) }
    ∃ catalog, Catalog.ofConfig .shaded = .ok catalog ∧ catalog.resolve props = attributes ∧
      ∃ naming : Naming, Set.InjOn naming {site | Config.shaded.HasSite site} ∧
        Config.shaded.Interprets naming props attributes := by
  intro props attributes
  obtain ⟨catalog, built⟩ := Config.shaded_builds
  have compiled := Config.compilesTo_of_ofConfig built
  have rest : Config.shaded.Reaches (props.drop 2) (props.drop 2) :=
    .of_isProperty (by decide +kernel)
  have walk : Config.shaded.Reaches props
      ([("paddingLeft", .plain "2px"), ("color", .plain "2px")] ++ props.drop 2) :=
    .skipped (by decide +kernel) (by decide +kernel) (.followed Config.shaded_expands_edge rest)
  have resolved : catalog.resolve props = attributes := by
    rw [compiled.resolve_eq walk]
    decide +kernel
  obtain ⟨naming, injective, interprets⟩ := Catalog.interprets_iff_resolve built
  exact ⟨catalog, built, resolved, naming, injective,
    (interprets props attributes).mpr resolved.symm⟩

end AtomicCss
