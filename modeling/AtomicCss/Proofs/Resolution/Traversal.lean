import AtomicCss.Proofs.Resolution.Effects

/-!
# One traversal of props

The classes and the style of props come from separate passes over each property. Here the props
are gone over once, with the binding of each value, and both passes turn out to tell of these
bindings alone. That needs nothing of the catalog: its identifiers may be shared or repeated.
-/

set_option autoImplicit false

namespace AtomicCss

/-- A value with the binding that it takes in a property. -/
structure BoundValue where
  property : Property
  text : String
  binding : Binding

namespace BoundValue

def className (value : BoundValue) : String := value.binding.className

/-- The custom property of a slot with the value that it takes. -/
def write? (value : BoundValue) : Option (String × String) :=
  match value.binding with
  | .choice _ => none
  | .slot used => some (used.variableName, Alias.substitute value.property.tokens value.text)

def effect (value : BoundValue) : Effect := value.binding.effect value.property.tokens value.text

theorem className_effect (value : BoundValue) : value.effect.className = value.className :=
  Binding.className_effect value.property.tokens value.text value.binding

theorem write_effect (value : BoundValue) : value.effect.write = value.write? := by
  rw [effect, write?]
  cases value.binding with
  | choice chosen => rfl
  | slot used => rfl

theorem write?_eq_some_iff (value : BoundValue) (write : String × String) :
    value.write? = some write ↔
      ∃ used, value.binding = .slot used ∧
        write = (used.variableName, Alias.substitute value.property.tokens value.text) := by
  rw [write?]
  cases value.binding with
  | choice chosen => simp
  | slot used => simp [eq_comm]

theorem write?_eq_none_iff (value : BoundValue) :
    value.write? = none ↔ ∀ used, value.binding ≠ .slot used := by
  rw [write?]
  cases value.binding with
  | choice chosen => simp
  | slot used => simp

end BoundValue

namespace Property

/-- The binding that a text takes in a property under a condition, if the property has it. -/
def boundValue? (property : Property) (condition text : String) : Option BoundValue := do
  let entry ← property.entries.get? condition
  let binding ← entry.bind? text
  return { property, text, binding }

/-- The bindings that a prop value takes in a property, condition by condition. A plain value is
one for the default condition. -/
def boundValues (property : Property) (defaultCondition : String) : PropValue → List BoundValue
  | .plain text => (property.boundValue? defaultCondition text).toList
  | .conditional values =>
      values.entries.filterMap fun (condition, text) => property.boundValue? condition text

theorem boundValues_eq (property : Property) (defaultCondition : String) (value : PropValue) :
    property.boundValues defaultCondition value =
      (value.byCondition defaultCondition).filterMap fun (condition, text) =>
        property.boundValue? condition text := by
  rw [PropValue.filterMap_byCondition]
  cases value with
  | plain text => rfl
  | conditional values => rfl

theorem effects_eq_map_boundValues (property : Property) (defaultCondition : String)
    (value : PropValue) :
    property.effects defaultCondition value =
      (property.boundValues defaultCondition value).map BoundValue.effect := by
  rw [effects, boundValues_eq, List.map_filterMap]
  refine List.filterMap_congr fun given _ => ?_
  obtain ⟨condition, text⟩ := given
  cases found : property.entries.get? condition with
  | none => simp [binding?, boundValue?, found]
  | some entry =>
      cases bound : entry.bind? text with
      | none => simp [binding?, boundValue?, found, bound]
      | some binding => simp [binding?, boundValue?, found, bound, BoundValue.effect]

end Property

namespace Catalog

/-- The bindings that props take: prop by prop, and for each property that a prop sets,
condition by condition. -/
def boundValues (catalog : Catalog) (props : List (String × PropValue)) : List BoundValue :=
  props.flatMap fun (name, value) =>
    ((catalog.lookup? name).getD []).flatMap fun property =>
      property.boundValues catalog.defaultCondition value

theorem effects_eq_map_boundValues (catalog : Catalog) (props : List (String × PropValue)) :
    catalog.effects props = (catalog.boundValues props).map BoundValue.effect := by
  rw [effects, settings, boundValues, List.flatMap_assoc, List.map_flatMap]
  refine List.flatMap_congr fun prop _ => ?_
  rw [List.flatMap_map, List.map_flatMap]
  exact List.flatMap_congr fun property _ =>
    property.effects_eq_map_boundValues catalog.defaultCondition prop.2

theorem map_className_effects (catalog : Catalog) (props : List (String × PropValue)) :
    (catalog.effects props).map Effect.className =
      (catalog.boundValues props).map BoundValue.className := by
  rw [effects_eq_map_boundValues, List.map_map]
  exact List.map_congr_left fun value _ => value.className_effect

theorem filterMap_write_effects (catalog : Catalog) (props : List (String × PropValue)) :
    (catalog.effects props).filterMap Effect.write =
      (catalog.boundValues props).filterMap BoundValue.write? := by
  rw [effects_eq_map_boundValues, List.filterMap_map]
  exact List.filterMap_congr fun value _ => value.write_effect

theorem classText_resolve (catalog : Catalog) (props : List (String × PropValue)) :
    (catalog.resolve props).classText =
      " ".intercalate ((catalog.boundValues props).map BoundValue.className) := by
  rw [resolve_eq, Attributes.ofEffects, map_className_effects]

theorem style_resolve (catalog : Catalog) (props : List (String × PropValue)) :
    (catalog.resolve props).style =
      let writes := (catalog.boundValues props).filterMap BoundValue.write?
      if writes.isEmpty then none else some (Table.ofList writes) := by
  rw [resolve_eq, Attributes.ofEffects]
  dsimp only
  rw [filterMap_write_effects]
  cases (catalog.boundValues props).filterMap BoundValue.write? <;> rfl

theorem style_resolve_eq_none_iff (catalog : Catalog) (props : List (String × PropValue)) :
    (catalog.resolve props).style = none ↔
      ∀ value ∈ catalog.boundValues props, ∀ used, value.binding ≠ .slot used := by
  rw [style_resolve]
  simp only [ite_eq_left_iff, reduceCtorEq, imp_false, not_not, List.isEmpty_iff,
    List.filterMap_eq_nil_iff, BoundValue.write?_eq_none_iff]

theorem style_resolve_eq_some {catalog : Catalog} {props : List (String × PropValue)}
    {style : Table String} (styled : (catalog.resolve props).style = some style) :
    style = Table.ofList ((catalog.boundValues props).filterMap BoundValue.write?) := by
  rw [style_resolve] at styled
  dsimp only at styled
  split at styled
  · cases styled
  · exact (Option.some.inj styled).symm

theorem mem_keys_style_resolve_iff {catalog : Catalog} {props : List (String × PropValue)}
    {style : Table String} (styled : (catalog.resolve props).style = some style)
    (variableName : String) :
    variableName ∈ style.keys ↔
      ∃ value ∈ catalog.boundValues props, ∃ used,
        value.binding = .slot used ∧ used.variableName = variableName := by
  rw [style_resolve_eq_some styled, Table.mem_keys_ofList, List.mem_map]
  constructor
  · rintro ⟨write, listed, rfl⟩
    obtain ⟨value, isBound, written⟩ := List.mem_filterMap.mp listed
    obtain ⟨used, isSlot, rfl⟩ := (value.write?_eq_some_iff write).mp written
    exact ⟨value, isBound, used, isSlot, rfl⟩
  · rintro ⟨value, isBound, used, isSlot, rfl⟩
    have written := (value.write?_eq_some_iff _).mpr ⟨used, isSlot, rfl⟩
    exact ⟨_, List.mem_filterMap.mpr ⟨value, isBound, written⟩, rfl⟩

/-- Both passes tell of the same bindings. The class text has the classes of all of them, the
style what the slots among them take, each custom property at its first place with its last
value. So a custom property is written exactly if a slot with its name is bound, whose class
is then in the class text. -/
theorem resolve_traversed (catalog : Catalog) (props : List (String × PropValue)) :
    let bound := catalog.boundValues props
    (catalog.resolve props).classText = " ".intercalate (bound.map BoundValue.className) ∧
    ((catalog.resolve props).style = none ↔
      ∀ value ∈ bound, ∀ used, value.binding ≠ .slot used) ∧
    ∀ style, (catalog.resolve props).style = some style →
      style = Table.ofList (bound.filterMap BoundValue.write?) ∧
      (∀ variableName ∈ style.keys, ∃ value ∈ bound, ∃ used,
        value.binding = .slot used ∧ used.variableName = variableName ∧
          used.className ∈ bound.map BoundValue.className) ∧
      ∀ value ∈ bound, ∀ used, value.binding = .slot used → used.variableName ∈ style.keys := by
  refine ⟨catalog.classText_resolve props, catalog.style_resolve_eq_none_iff props,
    fun style styled => ⟨style_resolve_eq_some styled, ?_, ?_⟩⟩
  · intro variableName listed
    obtain ⟨value, isBound, used, isSlot, named⟩ :=
      (mem_keys_style_resolve_iff styled variableName).mp listed
    refine ⟨value, isBound, used, isSlot, named, List.mem_map.mpr ⟨value, isBound, ?_⟩⟩
    rw [BoundValue.className, isSlot]
    rfl
  · intro value isBound used isSlot
    exact (mem_keys_style_resolve_iff styled _).mpr ⟨value, isBound, used, isSlot, rfl⟩

/-- A catalog with a property that has one custom property under both of its conditions. -/
def sharing : Catalog where
  defaultCondition := "small"
  conditions := ∅
  properties := Table.ofList [("gap",
    { name := "gap"
      cssName := "gap"
      tokens := some (Table.ofList [("s", "4px")])
      entries := Table.ofList
        [("small", { slot := some ⟨"gap-small", "--gap"⟩ }),
         ("wide",
          { slot := some ⟨"gap-wide", "--gap"⟩
            choices := Table.ofList [("none", ⟨"gap-wide-none", "0"⟩)] })] })]
  shorthands := ∅

/-- The custom property keeps its place and takes the later value, while the classes of both
conditions are on. A choice is on without a write. -/
theorem resolve_traversed_sharing :
    let props :=
      [("gap", PropValue.conditional
        (Table.ofList [("wide", "$s"), ("print", "1px"), ("small", "2px")])),
       ("gap", .conditional (Table.ofList [("wide", "none")])), ("gap", .plain "3px")]
    let bound := sharing.boundValues props
    bound.map BoundValue.className = ["gap-wide", "gap-small", "gap-wide-none", "gap-small"] ∧
      bound.filterMap BoundValue.write? = [("--gap", "4px"), ("--gap", "2px"), ("--gap", "3px")] ∧
      (sharing.resolve props).classText = "gap-wide gap-small gap-wide-none gap-small" ∧
      (sharing.resolve props).style = some (Table.ofList [("--gap", "3px")]) := by
  intro props bound
  have classNames : bound.map BoundValue.className =
      ["gap-wide", "gap-small", "gap-wide-none", "gap-small"] := by decide +kernel
  have writes : bound.filterMap BoundValue.write? =
      [("--gap", "4px"), ("--gap", "2px"), ("--gap", "3px")] := by decide +kernel
  obtain ⟨classText, noStyle, styled⟩ := resolve_traversed sharing props
  refine ⟨classNames, writes, ?_, ?_⟩
  · rw [classText, classNames]
    decide +kernel
  · cases found : (sharing.resolve props).style with
    | none =>
        have isWritten : ("--gap", "4px") ∈ bound.filterMap BoundValue.write? :=
          writes ▸ List.mem_cons_self
        obtain ⟨value, isBound, written⟩ := List.mem_filterMap.mp isWritten
        obtain ⟨used, isSlot, _⟩ := (value.write?_eq_some_iff _).mp written
        exact absurd isSlot (noStyle.mp found value isBound used)
    | some style =>
        rw [(styled style found).1, writes]
        decide +kernel

end Catalog

end AtomicCss
