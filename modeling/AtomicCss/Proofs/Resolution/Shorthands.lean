import AtomicCss.Proofs.Resolution.Interpretation

/-!
# Shorthands among props

Props are resolved through the properties that they set, and these are put together prop by
prop. The expansion made by compilation gives a shorthand the properties that its declared
targets set, none of them lost, so that a prop under its name may be written out as one prop
for each target wherever it stands.
-/

set_option autoImplicit false

namespace AtomicCss

namespace Config

variable {config : Config} {naming : Naming} {catalog : Catalog}

/-- Props for all targets of an expansion reach the properties it gives. -/
theorem Reaches.of_expands {targets names : List String} (value : PropValue)
    (expands : Shorthand.Expands config.shorthands config.isProperty targets names) :
    config.Reaches (targets.map (·, value)) (names.map (·, value)) := by
  induction expands with
  | nil => exact .nil
  | property isOne _ ih => exact .followed (.property isOne .nil) ih
  | shorthand notOne declared inner _ _ ih =>
      rw [List.map_append]
      exact .followed (.alone notOne declared inner) ih

/-- A shorthand sets what its declared targets set one after the other. -/
theorem CompilesTo.settings_shorthand (compiled : config.CompilesTo naming catalog)
    {name : String} {targets : List String}
    (declared : config.shorthands.get? name = some targets) (value : PropValue) :
    catalog.settings [(name, value)] = catalog.settings (targets.map (·, value)) := by
  obtain ⟨names, _, expands⟩ := compiled.expands name targets declared
  have notProperty : config.isProperty name = false :=
    compiled.unshadowed name ((Table.mem_keys_iff _ _).mpr ⟨targets, declared⟩)
  have walk : config.Reaches [(name, value)] (names.map (·, value) ++ []) :=
    .followed (.alone notProperty declared expands) .nil
  rw [List.append_nil] at walk
  rw [compiled.settings_eq walk, compiled.settings_eq (.of_expands value expands)]

end Config

namespace Catalog

/-- A shorthand may be replaced by its declared targets anywhere among props. -/
theorem resolve_shorthand {config : Config} {romanize : String → String} {catalog : Catalog}
    (built : ofConfig config romanize = .ok catalog) {name : String} {targets : List String}
    (declared : config.shorthands.get? name = some targets) (value : PropValue)
    (before after : List (String × PropValue)) :
    catalog.resolve (before ++ [(name, value)] ++ after) =
      catalog.resolve (before ++ targets.map (·, value) ++ after) := by
  have compiled := Config.compilesTo_of_ofConfig built
  apply resolve_eq_of_settings
  rw [settings_append, settings_append, settings_append, settings_append,
    compiled.settings_shorthand declared value]

/-- A shorthand whose targets are a shorthand and a property, between props that write to the
same custom properties. -/
theorem resolve_shorthand_nested :
    ∃ catalog, ofConfig .specimen = .ok catalog ∧
      catalog.resolve
          ([("paddingLeft", .plain "1px")] ++ [("edge", .plain "2px")] ++
            [("color", .plain "red")]) =
        catalog.resolve
          ([("paddingLeft", .plain "1px")] ++ [("inset", .plain "2px"), ("color", .plain "2px")] ++
            [("color", .plain "red")]) ∧
      catalog.resolve
          [("paddingLeft", .plain "1px"), ("edge", .plain "2px"), ("color", .plain "red")] =
        { classText := "paddingLeft-small paddingLeft-small color-small color-small-red-2"
          style := some (Table.ofList
            [("--paddingLeft-small", "2px"), ("--color-small", "2px")]) } := by
  obtain ⟨catalog, built⟩ := Config.specimen_builds
  have compiled := Config.compilesTo_of_ofConfig built
  have declared : Config.specimen.shorthands.get? "edge" = some ["inset", "color"] := by
    decide +kernel
  have walk : Config.specimen.Reaches
      [("paddingLeft", .plain "1px"), ("edge", .plain "2px"), ("color", .plain "red")]
      ([("paddingLeft", .plain "1px")] ++
        ([("paddingLeft", .plain "2px"), ("color", .plain "2px")] ++
          [("color", .plain "red")])) :=
    .followed (.property (by decide +kernel) .nil) <|
      .followed Config.specimen_expands_edge <| .of_isProperty (by decide +kernel)
  refine ⟨catalog, built, resolve_shorthand built declared (.plain "2px") _ _, ?_⟩
  rw [compiled.resolve_eq walk]
  decide +kernel

end Catalog

end AtomicCss
