import AtomicCss.Proofs.Resolution.Interpretation

/-!
# Class tokens and custom properties by their sites

Which sites a value uses is decided by the configuration alone. The tokens of resolved props
are the names at these sites in turn, and the style holds the custom properties of the slots
among them.
-/

set_option autoImplicit false

namespace AtomicCss

def Site.isClass : Site → Bool
  | .slotVariable _ _ => false
  | _ => true

namespace Attributes

theorem style_ofEffects {effects : List Effect} {style : Table String}
    (styled : (ofEffects effects).style = some style) :
    style = Table.ofList (effects.filterMap Effect.write) := by
  rw [ofEffects] at styled
  dsimp only at styled
  split at styled
  · cases styled
  · next writes _ => exact (Option.some.inj styled).symm

theorem isSome_style_ofEffects (effects : List Effect) :
    (ofEffects effects).style.isSome = !(effects.filterMap Effect.write).isEmpty := by
  rw [ofEffects]
  cases effects.filterMap Effect.write with
  | nil => rfl
  | cons write rest => rfl

theorem get?_style_ofEffects (effects : List Effect) (key : String) :
    ((ofEffects effects).style.bind fun style => style.get? key) =
      (Table.ofList (effects.filterMap Effect.write)).get? key := by
  rw [ofEffects]
  dsimp only
  cases effects.filterMap Effect.write with
  | nil => rfl
  | cons write rest => rfl

theorem classes_ofEffects {effects : List Effect}
    (solid : ∀ effect ∈ effects, Text.IsWord effect.className.toList) :
    (ofEffects effects).classes = effects.map Effect.className := by
  refine Text.words_intercalate fun text listed => ?_
  obtain ⟨effect, member, rfl⟩ := List.mem_map.mp listed
  exact solid effect member

end Attributes

namespace Config

variable {config : Config} {naming : Naming} {catalog : Catalog}

/-- The site of the class that a value of a property switches on under a condition. -/
def classSite? (config : Config) (property condition text : String) : Option Site :=
  if config.conditions.contains condition then
    if (config.literals property).contains text then some (.choiceClass property condition text)
    else if config.dynamicProperties.contains property then some (.slotClass property condition)
    else none
  else none

def classSites (config : Config) (reached : List (String × PropValue)) : List Site :=
  reached.flatMap fun (property, value) =>
    (value.byCondition config.defaultCondition).filterMap fun (condition, text) =>
      config.classSite? property condition text

theorem mem_classSites_iff (config : Config) (reached : List (String × PropValue))
    (site : Site) :
    site ∈ config.classSites reached ↔
      ∃ property value, (property, value) ∈ reached ∧
        ∃ condition text, (condition, text) ∈ value.byCondition config.defaultCondition ∧
          config.classSite? property condition text = some site := by
  simp only [classSites, List.mem_flatMap, List.mem_filterMap, Prod.exists]

theorem classSite?_eq_some {property condition text : String} {site : Site}
    (found : config.classSite? property condition text = some site) :
    config.HasSite site ∧ site.isClass = true ∧ site.property = property ∧
      site.condition = condition := by
  rw [classSite?] at found
  split at found
  · next configured =>
      rw [Table.contains_iff_mem_keys] at configured
      split at found
      · next isKey =>
          cases found
          exact ⟨⟨(Table.contains_iff_mem_keys _ _).mp isKey, configured⟩, rfl, rfl, rfl⟩
      · split at found
        · next isDynamic =>
            cases found
            exact ⟨⟨(Table.contains_iff_mem_keys _ _).mp isDynamic, configured⟩, rfl, rfl, rfl⟩
        · cases found
  · cases found

theorem hasSite_of_mem_classSites {reached : List (String × PropValue)} {site : Site}
    (used : site ∈ config.classSites reached) : config.HasSite site := by
  obtain ⟨_, _, _, _, _, _, found⟩ := (config.mem_classSites_iff reached site).mp used
  exact (classSite?_eq_some found).1

/-- An effect has the class of the site, and writes where the site is that of a slot. -/
theorem effect?_eq_classSite? (config : Config) (naming : Naming)
    (property condition text : String) :
    config.effect? naming property condition text =
      (config.classSite? property condition text).map fun site =>
        { className := naming site
          write :=
            if site = .slotClass property condition then
              some (naming (.slotVariable property condition),
                Alias.substitute (config.tokens? property) text)
            else none } := by
  rw [effect?, classSite?]
  split
  · split
    · rfl
    · split
      · simp
      · rfl
  · rfl

theorem map_className_effects (config : Config) (naming : Naming)
    (reached : List (String × PropValue)) :
    (config.effects naming reached).map Effect.className =
      (config.classSites reached).map naming := by
  rw [effects, classSites, List.map_flatMap, List.map_flatMap]
  refine List.flatMap_congr fun setting _ => ?_
  obtain ⟨property, value⟩ := setting
  dsimp only
  rw [valueEffects_eq, List.map_filterMap, List.map_filterMap]
  refine List.filterMap_congr fun given _ => ?_
  dsimp only
  rw [effect?_eq_classSite?, Option.map_map]
  rfl

/-- What is written, and where, by a value that takes the slot of its property. -/
theorem write_effect?_iff (config : Config) (naming : Naming)
    (property condition text key written : String) :
    (config.effect? naming property condition text).bind Effect.write = some (key, written) ↔
      config.classSite? property condition text = some (.slotClass property condition) ∧
        key = naming (.slotVariable property condition) ∧
        written = Alias.substitute (config.tokens? property) text := by
  rw [effect?_eq_classSite?]
  cases config.classSite? property condition text with
  | none => simp
  | some site =>
      rw [Option.map_some, Option.bind_some, Option.some.injEq]
      dsimp only
      split
      · next isSlot => simp [isSlot, eq_comm]
      · next notSlot => simp [notSlot]

theorem mem_writes_iff (config : Config) (naming : Naming)
    (reached : List (String × PropValue)) (key written : String) :
    (key, written) ∈ (config.effects naming reached).filterMap Effect.write ↔
      ∃ property value, (property, value) ∈ reached ∧
        ∃ condition text, (condition, text) ∈ value.byCondition config.defaultCondition ∧
          config.classSite? property condition text = some (.slotClass property condition) ∧
          key = naming (.slotVariable property condition) ∧
          written = Alias.substitute (config.tokens? property) text := by
  simp only [effects, valueEffects_eq, List.filterMap_flatMap, List.filterMap_filterMap,
    List.mem_flatMap, List.mem_filterMap, Prod.exists, write_effect?_iff]

namespace CompilesTo

/-- The class of an effect stands at a site, and all names of sites are words. -/
theorem isWord_className (compiled : config.CompilesTo naming catalog)
    {props : List (String × PropValue)} :
    ∀ effect ∈ catalog.effects props, Text.IsWord effect.className.toList := by
  intro effect listed
  obtain ⟨reached, walk⟩ := compiled.exists_reaches props
  rw [compiled.effects_eq walk] at listed
  have named : effect.className ∈ (config.classSites reached).map naming :=
    config.map_className_effects naming reached ▸ List.mem_map_of_mem listed
  obtain ⟨site, used, same⟩ := List.mem_map.mp named
  exact same ▸ (compiled.isPlain site (hasSite_of_mem_classSites used)).isWord

theorem classes_eq_map_effects (compiled : config.CompilesTo naming catalog)
    (props : List (String × PropValue)) :
    (catalog.resolve props).classes = (catalog.effects props).map Effect.className := by
  rw [Catalog.resolve_eq]
  exact Attributes.classes_ofEffects compiled.isWord_className

theorem classes_resolve (compiled : config.CompilesTo naming catalog)
    {props reached : List (String × PropValue)} (walk : config.Reaches props reached) :
    (catalog.resolve props).classes = (config.classSites reached).map naming := by
  rw [compiled.classes_eq_map_effects, compiled.effects_eq walk, map_className_effects]

theorem mem_classes_resolve (compiled : config.CompilesTo naming catalog)
    {props reached : List (String × PropValue)} (walk : config.Reaches props reached)
    {site : Site} (hasSite : config.HasSite site) :
    naming site ∈ (catalog.resolve props).classes ↔ site ∈ config.classSites reached := by
  rw [compiled.classes_resolve walk]
  constructor
  · intro listed
    obtain ⟨other, used, same⟩ := List.mem_map.mp listed
    exact compiled.injOn (hasSite_of_mem_classSites used) hasSite same ▸ used
  · exact List.mem_map_of_mem

/-- Slots that values take have custom properties of their own. -/
theorem slotVariable_inj (compiled : config.CompilesTo naming catalog)
    {property condition text other under written : String}
    (located : config.classSite? property condition text = some (.slotClass property condition))
    (otherLocated : config.classSite? other under written = some (.slotClass other under))
    (same : naming (.slotVariable property condition) = naming (.slotVariable other under)) :
    property = other ∧ condition = under := by
  have thisSite : config.HasSite (.slotVariable property condition) :=
    (classSite?_eq_some located).1
  have otherSite : config.HasSite (.slotVariable other under) :=
    (classSite?_eq_some otherLocated).1
  cases compiled.injOn thisSite otherSite same
  exact ⟨rfl, rfl⟩

end CompilesTo

end Config

end AtomicCss
