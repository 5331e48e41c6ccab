import AtomicCss.Proofs.Compilation.Draws
import AtomicCss.Proofs.Table.Views

/-!
# Compiled properties by their names

Compiling a configuration gives every declared property an entry under every condition: a
slot if the property is dynamic, and a choice for each lookup key of its static scale. All
that compilation adds to the configuration is a name for each site. This file writes the
compiled properties down as a function of the configuration and a naming, and shows that
compilation draws the names of exactly these sites.
-/

set_option autoImplicit false

namespace AtomicCss

/-- The slot of a dynamic property under a condition, with its names. -/
def Naming.slot (naming : Naming) (property condition : String) : Slot where
  className := naming (.slotClass property condition)
  variableName := naming (.slotVariable property condition)

/-- The choices for literal values under a condition, with their names. -/
def Naming.choices (naming : Naming) (property condition : String) (literals : Table String) :
    Table Choice :=
  literals.mapEntries fun key value =>
    { className := naming (.choiceClass property condition key), value }

@[simp] theorem Naming.keys_choices (naming : Naming) (property condition : String)
    (literals : Table String) :
    (naming.choices property condition literals).keys = literals.keys :=
  Table.keys_mapEntries _ _

theorem Naming.get?_choices (naming : Naming) (property condition : String)
    (literals : Table String) (key : String) :
    (naming.choices property condition literals).get? key =
      (literals.get? key).map fun value =>
        { className := naming (.choiceClass property condition key), value } :=
  Table.get?_mapEntries _ _ key

namespace DynamicScale

def slotDraws (property condition : String) : List Draw :=
  [⟨.className [property, condition], some (.slotClass property condition)⟩,
   ⟨.variableName [property, condition], some (.slotVariable property condition)⟩]

theorem compileSlot_performs (property condition : String) :
    Performs (compileSlot property condition) (slotDraws property condition)
      fun naming => naming.slot property condition :=
  (Performs.take _ _).bind fun _ => (Performs.take _ _).bind fun _ => Performs.pure _

end DynamicScale

namespace StaticScale

/-- The draws for the values of a scale. The name of a key that is listed again is not kept. -/
def choiceDraws (property condition : String) : List (String × String) → List Draw
  | [] => []
  | (key, _) :: rest =>
      { request := .className [property, condition, key]
        site :=
          if key ∈ rest.map Prod.fst then none
          else some (.choiceClass property condition key) } ::
        choiceDraws property condition rest

/-- Compiles one value of a scale. -/
def compileChoice (property condition : String) (entry : String × String) :
    StateM IdentPool (String × Choice) := do
  let className ← IdentPool.className [property, condition, entry.1]
  return (entry.1, { className, value := entry.2 })

/-- The choices have the lookup keys of the scale, and under each key the name that was drawn
for it last. -/
theorem compileChoice_run (property condition : String) (entries : List (String × String))
    (pool : IdentPool) (naming : Naming)
    (follows : naming.Follows (choiceDraws property condition entries)
      (Draw.names (choiceDraws property condition entries) pool)) :
    (entries.mapM (compileChoice property condition) pool).2 =
        Draw.after (choiceDraws property condition entries) pool ∧
      (entries.mapM (compileChoice property condition) pool).1.map Prod.fst =
        entries.map Prod.fst ∧
      ∀ key,
        (Table.ofList (entries.mapM (compileChoice property condition) pool).1).get? key =
          ((Table.ofList entries).get? key).map fun value =>
            { className := naming (.choiceClass property condition key), value } := by
  induction entries generalizing pool with
  | nil => exact ⟨rfl, rfl, fun _ => rfl⟩
  | cons entry rest ih =>
      obtain ⟨key, value⟩ := entry
      rw [choiceDraws, Draw.names_cons, Naming.Follows.cons_iff] at follows
      obtain ⟨kept, later⟩ := follows
      obtain ⟨samePool, sameKeys, found⟩ := ih _ later
      rw [List.mapM_cons, choiceDraws, Draw.after_cons]
      refine ⟨samePool, congrArg (key :: ·) sameKeys, fun asked => ?_⟩
      refine (Table.get?_ofList_cons _ _ asked).trans ?_
      rw [Table.get?_ofList_cons (key, value) rest asked]
      have foundLater := found asked
      cases inRest : (Table.ofList rest).get? asked with
      | some other =>
          rw [inRest] at foundLater
          rw [Option.some_or, Option.map_some]
          exact (congrArg (Option.or · _) foundLater).trans Option.some_or
      | none =>
          rw [inRest, Option.map_none] at foundLater
          rw [Option.none_or]
          refine (congrArg (Option.or · _) foundLater).trans (Option.none_or.trans ?_)
          by_cases same : asked = key
          · have unlisted : key ∉ rest.map Prod.fst := by
              rw [← Table.mem_keys_ofList, ← Table.get?_eq_none_iff, ← same]
              exact inRest
            have named := kept (.choiceClass property condition key) (if_neg unlisted)
            simp only [same, if_true, Option.map_some, named]
            rfl
          · rw [if_neg same, if_neg same, Option.map_none]

theorem compileChoices_performs (scale : StaticScale) (property condition : String) :
    Performs (Table.ofList <$> scale.compileChoices property condition)
      (choiceDraws property condition scale.entries)
      fun naming => naming.choices property condition (Table.ofList scale.entries) := by
  intro pool naming follows
  obtain ⟨samePool, sameKeys, found⟩ :=
    compileChoice_run property condition scale.entries pool naming follows
  refine Prod.ext (Table.ext_get? ?_ fun key => ?_) samePool
  · exact (Table.keys_ofList_congr sameKeys).trans (naming.keys_choices _ _ _).symm
  · exact (found key).trans (naming.get?_choices _ _ _ key).symm

end StaticScale

/-- A dynamic property as it is compiled, with its names. -/
def DynamicScale.named (scale : DynamicScale) (naming : Naming) (conditions : Table Scope)
    (property : String) : Property where
  name := property
  cssName := CssName.ofName property
  entries := conditions.mapEntries fun condition _ =>
    { slot := some (naming.slot property condition) }
  tokens := scale.tokenTable?

theorem DynamicScale.compile_performs (scale : DynamicScale) (property : String)
    (conditions : Table Scope) :
    Performs (scale.compile property conditions.keys)
      (conditions.keys.flatMap (slotDraws property))
      fun naming => scale.named naming conditions property := by
  have entry (condition : String) :
      Performs (do return (condition, { slot := some (← compileSlot property condition) : Entry }))
        (slotDraws property condition)
        fun naming => (condition, { slot := some (naming.slot property condition) }) :=
    (compileSlot_performs property condition).bind fun _ => Performs.pure _
  have compiled := (Performs.mapM conditions.keys entry).bind fun entries =>
    Performs.pure { Property.start property (CssName.ofName property) with
      entries := Table.ofList entries
      tokens := scale.tokenTable? }
  simp only [List.append_nil, Table.ofList_map_keys] at compiled
  exact compiled

/-- A static property as it is compiled, with its names. -/
def StaticScale.named (scale : StaticScale) (naming : Naming) (conditions : Table Scope)
    (property : String) : Property where
  name := property
  cssName := CssName.ofName property
  entries := conditions.mapEntries fun condition _ =>
    { choices := naming.choices property condition (Table.ofList scale.entries) }
  tokens := none

theorem StaticScale.compile_performs (scale : StaticScale) (property : String)
    (conditions : Table Scope) :
    Performs (scale.compile property conditions.keys)
      (conditions.keys.flatMap fun condition => choiceDraws property condition scale.entries)
      fun naming => scale.named naming conditions property := by
  have entry (condition : String) :
      Performs (do
          let choices ← scale.compileChoices property condition
          return (condition, { choices := Table.ofList choices : Entry }))
        (choiceDraws property condition scale.entries)
        fun naming => (condition,
          { choices := naming.choices property condition (Table.ofList scale.entries) }) := by
    have compiled := (scale.compileChoices_performs property condition).bind fun choices =>
      Performs.pure (condition, { choices : Entry })
    rwa [List.append_nil] at compiled
  have compiled := (Performs.mapM conditions.keys entry).bind fun entries =>
    Performs.pure { Property.start property (CssName.ofName property) with
      entries := Table.ofList entries }
  simp only [List.append_nil, Table.ofList_map_keys] at compiled
  exact compiled

namespace Config

/-- The tokens that references in values of a property stand for, by alias. A property that is
not dynamic or takes any value has none. -/
def tokens? (config : Config) (property : String) : Option (Table String) :=
  match config.dynamicProperties.get? property with
  | some (.tokens table) => some table
  | some .unrestricted => none
  | none => none

/-- The values of the static scale of a property with their lookup keys, as they are listed. A
listed value is its own key, and one with an alias has the alias behind a dollar sign. A
property that is not static has none. -/
def staticEntries (config : Config) (property : String) : List (String × String) :=
  match config.staticProperties.get? property with
  | some (.values list) => list.map fun value => (value, value)
  | some (.aliases table) => table.entries.map fun (name, value) => ("$" ++ name, value)
  | none => []

/-- The literal values of a property by lookup key. -/
def literals (config : Config) (property : String) : Table String :=
  Table.ofList (config.staticEntries property)

theorem tokens?_eq_some_iff (config : Config) (property : String) (table : Table String) :
    config.tokens? property = some table ↔
      config.dynamicProperties.get? property = some (.tokens table) := by
  rw [tokens?]
  cases config.dynamicProperties.get? property with
  | none => simp
  | some scale =>
      cases scale with
      | unrestricted => simp
      | tokens table => simp

/-- Compilation reads the tokens off the scale. -/
theorem tokens?_eq (config : Config) (property : String) :
    config.tokens? property =
      (config.dynamicProperties.get? property).bind DynamicScale.tokenTable? := by
  rw [tokens?]
  cases config.dynamicProperties.get? property with
  | none => rfl
  | some scale =>
      cases scale with
      | unrestricted => rfl
      | tokens table => rfl

/-- Compilation walks the entries of the scale. -/
theorem staticEntries_eq (config : Config) (property : String) :
    config.staticEntries property =
      (config.staticProperties.get? property).elim [] StaticScale.entries := by
  rw [staticEntries]
  cases config.staticProperties.get? property with
  | none => rfl
  | some scale =>
      cases scale with
      | values list => rfl
      | aliases table => rfl

theorem literals_of_static {config : Config} {property : String} {scale : StaticScale}
    (isStatic : config.staticProperties.get? property = some scale) :
    config.literals property = Table.ofList scale.entries := by
  rw [literals, staticEntries_eq, isStatic]
  rfl

theorem literals_of_not_static {config : Config} {property : String}
    (notStatic : config.staticProperties.get? property = none) : config.literals property = ∅ := by
  rw [literals, staticEntries_eq, notStatic]
  rfl

/-- The names of the declared properties: dynamic ones, then those that are only static. -/
def declared (config : Config) : List String :=
  config.dynamicProperties.keys ++
    config.staticProperties.keys.filter (!config.dynamicProperties.keys.contains ·)

theorem declared_nodup (config : Config) : config.declared.Nodup := by
  refine List.Nodup.append config.dynamicProperties.keysNodup
    (config.staticProperties.keysNodup.filter _) ?_
  intro name isDynamic onlyStatic
  simpa [isDynamic] using (List.mem_filter.mp onlyStatic).2

theorem mem_declared_iff (config : Config) (name : String) :
    name ∈ config.declared ↔ config.isProperty name = true := by
  rw [declared, List.mem_append, List.mem_filter, isProperty, Bool.or_eq_true,
    Table.contains_iff_mem_keys, Table.contains_iff_mem_keys]
  by_cases isDynamic : name ∈ config.dynamicProperties.keys <;> simp [isDynamic]

/-- What a declared property has under a condition, with its names. -/
def entryNamed (config : Config) (naming : Naming) (property condition : String) : Entry where
  slot :=
    if config.dynamicProperties.contains property then some (naming.slot property condition)
    else none
  choices := naming.choices property condition (config.literals property)

/-- A declared property under all conditions, with its names. -/
def propertyNamed (config : Config) (naming : Naming) (property : String) : Property where
  name := property
  cssName := CssName.ofName property
  entries := config.conditions.mapEntries fun condition _ =>
    config.entryNamed naming property condition
  tokens := config.tokens? property

/-- The declared properties with their names. -/
def propertiesNamed (config : Config) (naming : Naming) : Table Property where
  entries := config.declared.map fun property => (property, config.propertyNamed naming property)
  keysNodup := by
    rw [List.map_map]
    exact (List.map_id _).symm ▸ config.declared_nodup

theorem keys_propertiesNamed (config : Config) (naming : Naming) :
    (config.propertiesNamed naming).keys = config.declared := by
  rw [Table.keys, propertiesNamed, List.map_map]
  exact List.map_id _

theorem get?_propertiesNamed (config : Config) (naming : Naming) (name : String) :
    (config.propertiesNamed naming).get? name =
      if config.isProperty name then some (config.propertyNamed naming name) else none := by
  by_cases isProperty : config.isProperty name = true
  · rw [if_pos isProperty, Table.get?_eq_some_iff]
    exact List.mem_map.mpr ⟨name, (config.mem_declared_iff name).mpr isProperty, rfl⟩
  · rw [if_neg isProperty, Table.get?_eq_none_iff, keys_propertiesNamed, mem_declared_iff]
    exact isProperty

theorem merge_named {config : Config} {naming : Naming} {name : String}
    {dynamicScale : DynamicScale} {staticScale : StaticScale}
    (isDynamic : config.dynamicProperties.get? name = some dynamicScale)
    (isStatic : config.staticProperties.get? name = some staticScale) :
    (dynamicScale.named naming config.conditions name).merge
        (staticScale.named naming config.conditions name) = config.propertyNamed naming name := by
  rw [Property.merge, DynamicScale.named, StaticScale.named, propertyNamed,
    Table.mergeWith_mapEntries, tokens?_eq, isDynamic]
  have entries (condition : String) :
      Entry.merge { slot := some (naming.slot name condition) }
          { choices := naming.choices name condition (Table.ofList staticScale.entries) } =
        config.entryNamed naming name condition := by
    rw [Entry.merge, entryNamed, literals_of_static isStatic, Table.contains, isDynamic]
    exact congrArg _ (Table.overlay_empty_left _)
  simp only [entries, Option.none_or, Option.bind_some]

theorem dynamic_named {config : Config} {naming : Naming} {name : String} {scale : DynamicScale}
    (isDynamic : config.dynamicProperties.get? name = some scale)
    (notStatic : config.staticProperties.get? name = none) :
    scale.named naming config.conditions name = config.propertyNamed naming name := by
  have entries (condition : String) :
      ({ slot := some (naming.slot name condition) } : Entry) =
        config.entryNamed naming name condition := by
    rw [entryNamed, literals_of_not_static notStatic, Table.contains, isDynamic]
    rfl
  simp only [DynamicScale.named, propertyNamed, entries, tokens?_eq, isDynamic, Option.bind_some]

theorem static_named {config : Config} {naming : Naming} {name : String} {scale : StaticScale}
    (notDynamic : config.dynamicProperties.get? name = none)
    (isStatic : config.staticProperties.get? name = some scale) :
    scale.named naming config.conditions name = config.propertyNamed naming name := by
  have entries (condition : String) :
      ({ choices := naming.choices name condition (Table.ofList scale.entries) } : Entry) =
        config.entryNamed naming name condition := by
    rw [entryNamed, literals_of_static isStatic, Table.contains, notDynamic]
    rfl
  simp only [StaticScale.named, propertyNamed, entries, tokens?_eq, notDynamic, Option.bind_none]

theorem mergeAll_named (config : Config) (naming : Naming) :
    Property.mergeAll
        (config.dynamicProperties.mapEntries fun name scale =>
          scale.named naming config.conditions name)
        (config.staticProperties.mapEntries fun name scale =>
          scale.named naming config.conditions name) =
      config.propertiesNamed naming := by
  apply Table.ext_get?
  · rw [Property.mergeAll, Table.keys_mergeWith, Table.keys_mapEntries, Table.keys_mapEntries,
      keys_propertiesNamed, declared]
  · intro name
    rw [Property.mergeAll, Table.get?_mergeWith, Table.get?_mapEntries, Table.get?_mapEntries,
      get?_propertiesNamed, isProperty, Table.contains, Table.contains]
    cases isDynamic : config.dynamicProperties.get? name with
    | none =>
        cases isStatic : config.staticProperties.get? name with
        | none => rfl
        | some scale => exact congrArg some (static_named isDynamic isStatic)
    | some dynamicScale =>
        cases isStatic : config.staticProperties.get? name with
        | none => exact congrArg some (dynamic_named isDynamic isStatic)
        | some staticScale => exact congrArg some (merge_named isDynamic isStatic)

/-- The draws of the dynamic pass. -/
def dynamicDraws (config : Config) : List Draw :=
  config.dynamicProperties.keys.flatMap fun name =>
    config.conditions.keys.flatMap (DynamicScale.slotDraws name)

/-- The draws of the static pass. -/
def staticDraws (config : Config) : List Draw :=
  config.staticProperties.entries.flatMap fun (name, scale) =>
    config.conditions.keys.flatMap fun condition =>
      StaticScale.choiceDraws name condition scale.entries

def draws (config : Config) : List Draw := config.dynamicDraws ++ config.staticDraws

theorem compileDynamic_performs (config : Config) :
    Performs config.compileDynamic config.dynamicDraws fun naming =>
      config.dynamicProperties.mapEntries fun name scale =>
        scale.named naming config.conditions name := by
  have each (entry : String × DynamicScale) :
      Performs (do return (entry.1, ← entry.2.compile entry.1 config.conditions.keys))
        (config.conditions.keys.flatMap (DynamicScale.slotDraws entry.1))
        fun naming => (entry.1, entry.2.named naming config.conditions entry.1) := by
    have compiled := (entry.2.compile_performs entry.1 config.conditions).bind fun property =>
      Performs.pure (entry.1, property)
    rwa [List.append_nil] at compiled
  have compiled := (Performs.mapM config.dynamicProperties.entries each).bind fun properties =>
    Performs.pure (Table.ofList properties)
  simp only [List.append_nil] at compiled
  have inTurn : config.dynamicDraws = config.dynamicProperties.entries.flatMap fun entry =>
      config.conditions.keys.flatMap (DynamicScale.slotDraws entry.1) :=
    List.flatMap_map _ _ _
  rw [inTurn]
  simp only [← Table.ofList_map_entries]
  exact compiled

theorem compileStatic_performs (config : Config) :
    Performs config.compileStatic config.staticDraws fun naming =>
      config.staticProperties.mapEntries fun name scale =>
        scale.named naming config.conditions name := by
  have each (entry : String × StaticScale) :
      Performs (do return (entry.1, ← entry.2.compile entry.1 config.conditions.keys))
        (config.conditions.keys.flatMap fun condition =>
          StaticScale.choiceDraws entry.1 condition entry.2.entries)
        fun naming => (entry.1, entry.2.named naming config.conditions entry.1) := by
    have compiled := (entry.2.compile_performs entry.1 config.conditions).bind fun property =>
      Performs.pure (entry.1, property)
    rwa [List.append_nil] at compiled
  have compiled := (Performs.mapM config.staticProperties.entries each).bind fun properties =>
    Performs.pure (Table.ofList properties)
  simp only [List.append_nil] at compiled
  rw [staticDraws]
  simp only [← Table.ofList_map_entries]
  exact compiled

/-- Compilation makes the draws of both passes and gives the declared properties the names
that were drawn. -/
theorem compileProperties_performs (config : Config) :
    Performs config.compileProperties config.draws config.propertiesNamed := by
  have compiled := config.compileDynamic_performs.bind fun dynamicProperties =>
    config.compileStatic_performs.bind fun staticProperties =>
      Performs.pure (Property.mergeAll dynamicProperties staticProperties)
  simp only [List.append_nil, mergeAll_named] at compiled
  exact compiled

end Config

end AtomicCss
