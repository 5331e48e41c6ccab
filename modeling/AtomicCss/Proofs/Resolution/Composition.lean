import AtomicCss.Proofs.Resolution.Tokens

/-!
# Props resolved in two parts

The effects of props follow each other as the props do, so props may be resolved in parts: the
class tokens of the parts follow each other, and the style of a later part is laid over that of
an earlier one. The tokens can be read back from the class text, since compilation makes no
class name that is empty or holds a blank.
-/

set_option autoImplicit false

namespace AtomicCss

namespace Attributes

/-- The custom properties that are set, none where there is no style. -/
def assigned (attributes : Attributes) : Table String := attributes.style.getD ∅

theorem assigned_ofEffects (effects : List Effect) :
    (ofEffects effects).assigned = Table.ofList (effects.filterMap Effect.write) := by
  unfold assigned ofEffects
  cases effects.filterMap Effect.write with
  | nil => rfl
  | cons write rest => rfl

theorem style_ofEffects_eq_none_iff (effects : List Effect) :
    (ofEffects effects).style = none ↔ effects.filterMap Effect.write = [] := by
  rw [← Option.not_isSome_iff_eq_none, isSome_style_ofEffects]
  simp

end Attributes

namespace Catalog

variable (catalog : Catalog) (before after : List (String × PropValue))

theorem assigned_resolve_append :
    (catalog.resolve (before ++ after)).assigned =
      (catalog.resolve before).assigned.overlay (catalog.resolve after).assigned := by
  simp only [resolve_eq, Attributes.assigned_ofEffects, effects_append, List.filterMap_append,
    Table.ofList_append]

theorem style_resolve_append_eq_none_iff :
    (catalog.resolve (before ++ after)).style = none ↔
      (catalog.resolve before).style = none ∧ (catalog.resolve after).style = none := by
  simp only [resolve_eq, Attributes.style_ofEffects_eq_none_iff, effects_append,
    List.filterMap_append, List.append_eq_nil_iff]

end Catalog

namespace Config.CompilesTo

variable {config : Config} {naming : Naming} {catalog : Catalog}

theorem classText_eq (compiled : config.CompilesTo naming catalog)
    (props : List (String × PropValue)) :
    (catalog.resolve props).classText = " ".intercalate (catalog.resolve props).classes := by
  rw [compiled.classes_eq_map_effects, Catalog.resolve_eq]
  rfl

theorem isSpaced_classText (compiled : config.CompilesTo naming catalog)
    (props : List (String × PropValue)) :
    Text.IsSpaced (catalog.resolve props).classText.toList := by
  rw [compiled.classText_eq, compiled.classes_eq_map_effects, String.toList_intercalate]
  apply Text.isSpaced_intercalate
  intro word listed
  simp only [List.mem_map] at listed
  obtain ⟨_, ⟨effect, member, rfl⟩, rfl⟩ := listed
  exact compiled.isWord_className effect member

theorem classText_eq_empty_iff (compiled : config.CompilesTo naming catalog)
    (props : List (String × PropValue)) :
    (catalog.resolve props).classText = "" ↔ (catalog.resolve props).classes = [] := by
  constructor
  · intro nothing
    unfold Attributes.classes
    rw [nothing]
    rfl
  · intro none
    rw [compiled.classText_eq, none]
    rfl

end Config.CompilesTo

namespace Catalog

/-- Props are resolved part by part. The class text of any props is their tokens joined by
single spaces. The tokens of a later part follow those of an earlier one, and its style is laid
over the earlier one: custom properties that both set stay in their place and take the later
value, new ones come last. -/
theorem resolve_append {config : Config} {romanize : String → String} {catalog : Catalog}
    (built : ofConfig config romanize = .ok catalog) :
    (∀ props : List (String × PropValue),
      let attributes := catalog.resolve props
      attributes.classText = " ".intercalate attributes.classes ∧
        Text.IsSpaced attributes.classText.toList ∧
        (attributes.classText = "" ↔ attributes.classes = [])) ∧
    ∀ before after : List (String × PropValue),
      let first := catalog.resolve before
      let second := catalog.resolve after
      let whole := catalog.resolve (before ++ after)
      whole.classes = first.classes ++ second.classes ∧
        (whole.style = none ↔ first.style = none ∧ second.style = none) ∧
        whole.assigned = first.assigned.overlay second.assigned ∧
        whole.assigned.keys = first.assigned.keys ++
          second.assigned.keys.filter (!first.assigned.keys.contains ·) ∧
        ∀ variableName, whole.assigned.get? variableName =
          (second.assigned.get? variableName).or (first.assigned.get? variableName) := by
  have compiled := Config.compilesTo_of_ofConfig built
  constructor
  · intro props attributes
    exact ⟨compiled.classText_eq props, compiled.isSpaced_classText props,
      compiled.classText_eq_empty_iff props⟩
  · intro before after first second whole
    have overlaid : whole.assigned = first.assigned.overlay second.assigned :=
      catalog.assigned_resolve_append before after
    refine ⟨?_, catalog.style_resolve_append_eq_none_iff before after, overlaid, ?_, ?_⟩
    · simp only [first, second, whole, compiled.classes_eq_map_effects, effects_append, List.map_append]
    · rw [overlaid]
      exact Table.keys_mergeWith _ first.assigned second.assigned
    · intro variableName
      rw [overlaid, Table.get?_overlay]

/-- A shorthand sets again what a property before it has set, and one property more. -/
theorem resolve_append_specimen :
    let before := [("paddingLeft", PropValue.plain "1px"), ("color", PropValue.plain "red")]
    let after := [("edge", PropValue.plain "2px")]
    ∃ catalog, ofConfig .specimen = .ok catalog ∧
      (catalog.resolve (before ++ after)).classes =
        ["paddingLeft-small", "color-small-red-2", "paddingLeft-small", "color-small"] ∧
      (catalog.resolve (before ++ after)).classText =
        "paddingLeft-small color-small-red-2 paddingLeft-small color-small" ∧
      (catalog.resolve (before ++ after)).assigned =
        (catalog.resolve before).assigned.overlay (catalog.resolve after).assigned := by
  intro before after
  obtain ⟨catalog, built⟩ := Config.specimen_builds
  have compiled := Config.compilesTo_of_ofConfig built
  have firstWalk : Config.specimen.Reaches before before :=
    .of_isProperty (by decide +kernel)
  have secondWalk : Config.specimen.Reaches after
      ([("paddingLeft", .plain "2px"), ("color", .plain "2px")] ++ []) :=
    .followed Config.specimen_expands_edge .nil
  obtain ⟨joined, parts⟩ := resolve_append built
  obtain ⟨classes, _, assigned, _⟩ := parts before after
  have tokens : (catalog.resolve (before ++ after)).classes =
      ["paddingLeft-small", "color-small-red-2", "paddingLeft-small", "color-small"] := by
    rw [classes, compiled.classes_resolve firstWalk, compiled.classes_resolve secondWalk]
    decide +kernel
  refine ⟨catalog, built, tokens, ?_, assigned⟩
  rw [(joined (before ++ after)).1, tokens]
  decide +kernel

end Catalog

end AtomicCss
