import AtomicCss.Proofs.Json.Numbers
import AtomicCss.Proofs.Resolution.Identifiers
import AtomicCss.Proofs.Resolution.JsonProps

/-!
# Numbers as values of static properties

A number in a scale and the same number as a prop value are turned into texts separately. The
number selects its own entry of the scale exactly if the two texts agree.
-/

set_option autoImplicit false

namespace AtomicCss

theorem PropValue.ofJson?_single (condition : String) {scalar : Json} {text : String}
    (isText : scalar.scalarText? = some text) :
    ofJson? (.object [(condition, scalar)]) =
      some (.conditional (Table.ofList [(condition, text)])) := by
  have same : (Json.table [(condition, scalar)]).filterMap Json.scalarText? =
      Table.ofList [(condition, text)] := by
    apply Table.ext
    change List.filterMap (fun entry : String × Json =>
      entry.2.scalarText?.map fun value => (entry.1, value)) [(condition, scalar)] = _
    rw [List.filterMap_cons, isText]
    rfl
  rw [ofJson?, same]

namespace Config

variable {config : Config} {naming : Naming} {catalog : Catalog}

theorem effects_single (config : Config) (naming : Naming) (property condition text : String) :
    config.effects naming [(property, .conditional (Table.ofList [(condition, text)]))] =
      (config.effect? naming property condition text).toList := by
  have single : config.effects naming
      [(property, .conditional (Table.ofList [(condition, text)]))] =
        [(condition, text)].filterMap fun given =>
          config.effect? naming property given.1 given.2 := List.flatMap_singleton _ _
  rw [single, List.filterMap_cons]
  cases config.effect? naming property condition text with
  | none => rfl
  | some effect => rfl

/-- An object with one scalar under one condition of a property has the effect of its text. -/
theorem CompilesTo.resolveJson_single (compiled : config.CompilesTo naming catalog)
    {property text : String} (condition : String) (scalar : Json)
    (isProperty : config.isProperty property = true) (isText : scalar.scalarText? = some text) :
    catalog.resolveJson (.object [(property, .object [(condition, scalar)])]) =
      .ofEffects (config.effect? naming property condition text).toList := by
  have props : ((Json.table [(property, .object [(condition, scalar)])]).filterMap
      PropValue.ofJson?).entries =
        [(property, .conditional (Table.ofList [(condition, text)]))] := by
    change List.filterMap (fun entry : String × Json =>
      (PropValue.ofJson? entry.2).map fun value => (entry.1, value))
        [(property, .object [(condition, scalar)])] = _
    rw [List.filterMap_cons, PropValue.ofJson?_single condition isText]
    rfl
  rw [Catalog.resolveJson_eq, props,
    compiled.resolve_eq (.of_isProperty (List.forall_mem_singleton.mpr isProperty)),
    effects_single]

/-- A value comes to the class of a lookup key alone exactly if it is that key. -/
theorem CompilesTo.ofEffects_effect?_eq_iff (compiled : config.CompilesTo naming catalog)
    {property condition key : String} (text : String)
    (hasSite : config.HasSite (.choiceClass property condition key)) :
    Attributes.ofEffects (config.effect? naming property condition text).toList =
        { classText := naming (.choiceClass property condition key), style := none } ↔
      key = text := by
  constructor
  · intro same
    have sameClass := congrArg Attributes.classText same
    rw [effect?_eq_classSite?] at sameClass
    cases found : config.classSite? property condition text with
    | none =>
        rw [found] at sameClass
        exact absurd sameClass.symm (compiled.isPlain _ hasSite).ne_empty
    | some site =>
        rw [found] at sameClass
        have sameSite : site = .choiceClass property condition key :=
          compiled.injOn (classSite?_eq_some found).1 hasSite
            (sameClass : " ".intercalate [naming site] = _)
        rcases ((config.classSite?_eq_some_iff _ _ _ _).mp found).2 with isChoice | ⟨isSlot, _⟩
        · cases sameSite.symm.trans isChoice
          rfl
        · cases sameSite.symm.trans isSlot
  · rintro rfl
    rw [effect?, if_pos ((Table.contains_iff_mem_keys _ _).mpr hasSite.2),
      if_pos ((Table.contains_iff_mem_keys _ _).mpr hasSite.1)]
    rfl

end Config

namespace Catalog

/-- A number in the scale of a static property has a lookup key, the text that the scale takes
it for, and as a prop value it has a text, too. Under each condition the number switches on the
class of its own entry and nothing else exactly if the key is that text. It is for all doubles,
and for integers below 2^63. -/
theorem resolveJson_number {text : String} {number : JsonNumber}
    (read : Json.ofText? text = some (.number number))
    {config : Config} {romanize : String → String} {catalog : Catalog}
    (built : ofConfig config romanize = .ok catalog) {property : String} {items : List Json}
    {scale : StaticScale} (given : StaticScale.ofJson (.array items) = .ok scale)
    (listed : .number number ∈ items)
    (declared : config.staticProperties.get? property = some scale) :
    (Json.number number).literal? = some number.scaleText ∧
      (number.scaleText, number.scaleText) ∈ scale.entries ∧
      PropValue.ofJson? (.number number) = some (.plain number.cssText) ∧
      (∀ condition ∈ config.conditions.keys,
        ∃ className, catalog.ident? (.choiceClass property condition number.scaleText) =
            some className ∧
          (catalog.resolveJson (.object [(property, .object [(condition, .number number)])]) =
              { classText := className, style := none } ↔
            number.scaleText = number.cssText)) ∧
      ((∀ value, number = .integer value → value < twoTo 63) →
        number.scaleText = number.cssText) := by
  have compiled := Config.compilesTo_of_ofConfig built
  have isLiteral := Json.literal?_number (Json.ofText?_isRead read)
  have isEntry := StaticScale.mem_entries_of_literal? given listed isLiteral
  have isProperty : config.isProperty property = true := by
    rw [Config.isProperty, Bool.or_eq_true, Table.contains, Table.contains, declared]
    exact .inr rfl
  refine ⟨isLiteral, isEntry, rfl, fun condition configured => ?_,
    JsonNumber.scaleText_of_short⟩
  have hasSite : config.HasSite (.choiceClass property condition number.scaleText) :=
    ⟨(config.mem_keys_literals _ _).mpr
      ⟨scale, declared, List.mem_map_of_mem (f := Prod.fst) isEntry⟩, configured⟩
  refine ⟨_, (compiled.ident?_eq_some_iff _ _).mpr ⟨hasSite, rfl⟩, ?_⟩
  rw [compiled.resolveJson_single condition (.number number) isProperty rfl]
  exact compiled.ofEffects_effect?_eq_iff _ hasSite

end Catalog

/-- A configuration with one property, which takes any value and has a scale as well. -/
def Config.layered (scale : StaticScale) : Config :=
  (((start "base").withCondition "base" {}).withDynamic "layer" .unrestricted).withStatic "layer"
    scale

theorem Config.layered_builds (scale : StaticScale) :
    ∃ catalog, Catalog.ofConfig (layered scale) = .ok catalog := by
  have hasDefault : (layered scale).conditions.contains (layered scale).defaultCondition = true :=
    rfl
  exact exists_ofConfig_of_no_shorthands _ hasDefault rfl

namespace Catalog

/-- A number with an exponent selects its entry and leaves the custom property alone. -/
theorem resolveJson_number_layered :
    let thousand := JsonNumber.double (.finite false 8796093022208000 (-43))
    let scale := StaticScale.values ["1", "1000"]
    Json.ofText? "1e3" = some (.number thousand) ∧
      StaticScale.ofJson (.array [.string "1", .number thousand]) = .ok scale ∧
      ∃ catalog, ofConfig (.layered scale) = .ok catalog ∧
        (Config.layered scale).staticProperties.get? "layer" = some scale ∧
        catalog.resolveJson (.object [("layer", .object [("base", .number thousand)])]) =
          { classText := "layer-base-1000", style := none } := by
  intro thousand scale
  have read : Json.ofText? "1e3" = some (.number thousand) := rfl
  have given : StaticScale.ofJson (.array [.string "1", .number thousand]) = .ok scale := by
    decide +kernel
  obtain ⟨catalog, built⟩ := Config.layered_builds scale
  have declared : (Config.layered scale).staticProperties.get? "layer" = some scale := rfl
  obtain ⟨_, _, _, selects, agrees⟩ := resolveJson_number read built given (by simp) declared
  obtain ⟨className, isClass, selected⟩ := selects "base" (by decide +kernel)
  have named := ((Config.compilesTo_of_ofConfig built).ident?_eq_some_iff _ _).mp isClass
  have sameName : className = "layer-base-1000" := by
    rw [← named.2]
    decide +kernel
  refine ⟨read, given, catalog, built, declared, sameName ▸ selected.mpr (agrees ?_)⟩
  exact fun value isInteger => JsonNumber.noConfusion isInteger

/-- The greatest integer that a text can give has another text in a scale. As a prop value it
passes its own entry by and is written to the custom property. -/
theorem not_resolveJson_number_layered :
    let greatest := Json.number (.integer 18446744073709551615)
    let scale := StaticScale.values ["18446744073709552000"]
    Json.ofText? "18446744073709551615" = some greatest ∧
      StaticScale.ofJson (.array [greatest]) = .ok scale ∧
      PropValue.ofJson? greatest = some (.plain "18446744073709551615") ∧
      ∃ catalog, ofConfig (.layered scale) = .ok catalog ∧
        catalog.ident? (.choiceClass "layer" "base" "18446744073709552000") =
          some "layer-base-18446744073709552000" ∧
        catalog.resolveJson (.object [("layer", .object [("base", greatest)])]) =
          { classText := "layer-base"
            style := some (Table.ofList [("--layer-base", "18446744073709551615")]) } := by
  intro greatest scale
  have digits : Decimal.digitsValue "18446744073709551615".toList = 18446744073709551615 := by
    decide +kernel
  have read : Json.ofText? "18446744073709551615" = some greatest := by
    change some (Json.integerValue false "18446744073709551615".toList) = _
    rw [Json.integerValue, digits]
    rfl
  have given : StaticScale.ofJson (.array [greatest]) = .ok scale := by decide +kernel
  obtain ⟨catalog, built⟩ := Config.layered_builds scale
  have compiled := Config.compilesTo_of_ofConfig built
  refine ⟨read, given, by decide +kernel, catalog, built, ?_, ?_⟩
  · refine (compiled.ident?_eq_some_iff _ _).mpr ⟨⟨?_, ?_⟩, ?_⟩ <;> decide +kernel
  · rw [compiled.resolveJson_single "base" greatest (by decide +kernel) rfl]
    decide +kernel

end Catalog

end AtomicCss
