import AtomicCss.Resolution
import AtomicCss.Proofs.Table.Views
import Mathlib.Data.List.Basic

/-!
# Effects of values

What a value comes to is one effect: it switches on a class and, unless the class sets the
value alone, is written to a custom property. The resolver goes over the compiled properties
twice, once for the classes and once for the style. Both passes look up the same binding for
each value, so that together they add up the effects of the values one after the other.
-/

set_option autoImplicit false

namespace AtomicCss

theorem PropValue.mem_byCondition_iff (value : PropValue)
    (defaultCondition condition text : String) :
    (condition, text) ∈ value.byCondition defaultCondition ↔
      (value.byCondition defaultCondition).lookup condition = some text := by
  cases value with
  | plain given =>
      rw [byCondition, Table.lookup_cons_eq, List.mem_singleton, Prod.mk.injEq]
      split
      · next same => simp [same, eq_comm]
      · next different => simp [different]
  | conditional values => exact (values.get?_eq_some_iff condition text).symm

theorem PropValue.filterMap_byCondition {α : Type} (value : PropValue) (defaultCondition : String)
    (select : String × String → Option α) :
    (value.byCondition defaultCondition).filterMap select =
      match value with
      | .plain text => (select (defaultCondition, text)).toList
      | .conditional values => values.entries.filterMap select := by
  cases value with
  | plain text =>
      rw [byCondition, List.filterMap_eq_flatMap_toList, List.flatMap_singleton]
  | conditional values => rfl

/-- What a value comes to: a class, and what is written to which custom property, if anything. -/
structure Effect where
  className : String
  write : Option (String × String)
  deriving DecidableEq, Repr

/-- What a binding does with a value whose references stand for some tokens. -/
def Binding.effect (tokens : Option (Table String)) (text : String) : Binding → Effect
  | .choice chosen => { className := chosen.className, write := none }
  | .slot used =>
      { className := used.className
        write := some (used.variableName, Alias.substitute tokens text) }

theorem Binding.className_effect (tokens : Option (Table String)) (text : String)
    (binding : Binding) : (binding.effect tokens text).className = binding.className := by
  cases binding with
  | choice chosen => rfl
  | slot used => rfl

/-- The attributes that effects add up to: all classes in order, and each custom property at
its first place with what is written to it last. -/
def Attributes.ofEffects (effects : List Effect) : Attributes where
  classText := " ".intercalate (effects.map Effect.className)
  style :=
    match effects.filterMap Effect.write with
    | [] => none
    | writes => some (Table.ofList writes)

namespace Property

def binding? (property : Property) (condition text : String) : Option Binding :=
  (property.entries.get? condition).bind fun entry => entry.bind? text

def effects (property : Property) (defaultCondition : String) (value : PropValue) :
    List Effect :=
  (value.byCondition defaultCondition).filterMap fun (condition, text) =>
    (property.binding? condition text).map (Binding.effect property.tokens text)

theorem classNames_eq (property : Property) (defaultCondition : String) (value : PropValue) :
    property.classNames defaultCondition value =
      (property.effects defaultCondition value).map Effect.className := by
  rw [effects, List.map_filterMap]
  refine List.filterMap_congr fun given _ => ?_
  obtain ⟨condition, text⟩ := given
  cases found : property.entries.get? condition with
  | none => simp [binding?, found]
  | some entry =>
      cases bound : entry.bind? text with
      | none => simp [binding?, found, bound]
      | some binding => simp [binding?, found, bound, Binding.className_effect]

theorem assignment?_eq (property : Property) (condition text : String) :
    property.assignment? condition text =
      ((property.binding? condition text).map (Binding.effect property.tokens text)).bind
        Effect.write := by
  rw [assignment?, binding?]
  cases property.entries.get? condition with
  | none => rfl
  | some entry =>
      cases bound : entry.bind? text with
      | none => simp [bound]
      | some binding =>
          cases binding with
          | choice chosen => simp [bound, Binding.effect]
          | slot used => simp [bound, Binding.effect]

theorem assignments_eq (property : Property) (defaultCondition : String) (value : PropValue) :
    property.assignments defaultCondition value =
      Table.ofList ((property.effects defaultCondition value).filterMap Effect.write) := by
  rw [assignments, effects, List.filterMap_filterMap]
  exact congrArg Table.ofList
    (List.filterMap_congr fun given _ => property.assignment?_eq given.1 given.2)

end Property

namespace Catalog

theorem settings_cons (catalog : Catalog) (name : String) (value : PropValue)
    (rest : List (String × PropValue)) :
    catalog.settings ((name, value) :: rest) =
      ((catalog.lookup? name).getD []).map (·, value) ++ catalog.settings rest :=
  List.flatMap_cons

theorem settings_append (catalog : Catalog) (before after : List (String × PropValue)) :
    catalog.settings (before ++ after) = catalog.settings before ++ catalog.settings after :=
  List.flatMap_append

/-- The effects of props, prop by prop and property by property. -/
def effects (catalog : Catalog) (props : List (String × PropValue)) : List Effect :=
  (catalog.settings props).flatMap fun (property, value) =>
    property.effects catalog.defaultCondition value

theorem effects_append (catalog : Catalog) (before after : List (String × PropValue)) :
    catalog.effects (before ++ after) = catalog.effects before ++ catalog.effects after := by
  unfold effects
  rw [settings_append, List.flatMap_append]

/-- Resolving props is to add up their effects. -/
theorem resolve_eq (catalog : Catalog) (props : List (String × PropValue)) :
    catalog.resolve props = .ofEffects (catalog.effects props) := by
  have classes : (catalog.settings props).flatMap (fun (property, value) =>
      property.classNames catalog.defaultCondition value) =
        (catalog.effects props).map Effect.className := by
    rw [effects, List.map_flatMap]
    exact List.flatMap_congr fun setting _ => setting.1.classNames_eq _ setting.2
  have style : (catalog.settings props).foldl (fun (style : Table String) (property, value) =>
      style.overlay (property.assignments catalog.defaultCondition value)) ∅ =
        Table.ofList ((catalog.effects props).filterMap Effect.write) := by
    rw [effects, List.filterMap_flatMap, Table.ofList, List.foldl_flatMap]
    simp only [Property.assignments_eq, Table.overlay_ofList]
    rfl
  rw [resolve]
  simp only [classes, style]
  rw [Attributes.ofEffects]
  cases (catalog.effects props).filterMap Effect.write with
  | nil => rfl
  | cons write rest => simp only [Table.isEmpty_ofList_cons, Bool.false_eq_true, if_false]

/-- Props that set the same properties to the same values come to the same. -/
theorem resolve_eq_of_settings {catalog : Catalog} {left right : List (String × PropValue)}
    (same : catalog.settings left = catalog.settings right) :
    catalog.resolve left = catalog.resolve right := by
  rw [resolve_eq, resolve_eq, effects, effects, same]

end Catalog

end AtomicCss
