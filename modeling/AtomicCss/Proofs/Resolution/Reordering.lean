import AtomicCss.Proofs.Resolution.Tokens
import Mathlib.Data.List.Forall2

/-!
# Props in another order

Effects may change places as long as they write to different custom properties. Values of one
property under different conditions do so, and so do values of different properties, since no
two slots have a custom property in common. The conditions of a value may therefore stand in any
order, and so may props of which no two set the same property.
-/

set_option autoImplicit false

namespace AtomicCss

namespace Effect

/-- The custom properties that effects write to. -/
def keys (effects : List Effect) : List String := (effects.filterMap write).map Prod.fst

/-- What effects leave in a custom property: what is written to it last. -/
def lastWrite? (effects : List Effect) (key : String) : Option String :=
  (Table.ofList (effects.filterMap write)).get? key

/-- The second list has the effects of the first one in an order that makes no difference: every
custom property is left with the same value. -/
structure Reorders (first second : List Effect) : Prop where
  perm : first.Perm second
  lastWrite : ∀ key, lastWrite? first key = lastWrite? second key

theorem lastWrite?_append (before after : List Effect) (key : String) :
    lastWrite? (before ++ after) key = (lastWrite? after key).or (lastWrite? before key) := by
  rw [lastWrite?, List.filterMap_append, Table.get?_ofList_append]
  rfl

theorem lastWrite?_eq_none_iff (effects : List Effect) (key : String) :
    lastWrite? effects key = none ↔ key ∉ keys effects := by
  rw [lastWrite?, Table.get?_eq_none_iff, Table.mem_keys_ofList]
  rfl

theorem mem_keys_toList_iff (effect : Option Effect) (key : String) :
    key ∈ keys effect.toList ↔ ∃ written, effect.bind write = some (key, written) := by
  cases effect with
  | none => simp [keys]
  | some effect =>
      cases wrote : effect.write with
      | none => simp [keys, wrote]
      | some given => simp [keys, wrote, Prod.ext_iff, eq_comm]

namespace Reorders

variable {first second : List Effect}

theorem refl (effects : List Effect) : Reorders effects effects := ⟨.refl _, fun _ => rfl⟩

theorem trans {third : List Effect} (left : Reorders first second)
    (right : Reorders second third) : Reorders first third :=
  ⟨left.perm.trans right.perm, fun key => (left.lastWrite key).trans (right.lastWrite key)⟩

theorem append {others moved : List Effect} (left : Reorders first second)
    (right : Reorders others moved) : Reorders (first ++ others) (second ++ moved) where
  perm := left.perm.append right.perm
  lastWrite := by
    intro key
    rw [lastWrite?_append, lastWrite?_append, left.lastWrite, right.lastWrite]

/-- Effects that write to different custom properties may change places. -/
theorem swap (apart : (keys first).Disjoint (keys second)) :
    Reorders (first ++ second) (second ++ first) where
  perm := List.perm_append_comm
  lastWrite := by
    intro key
    rw [lastWrite?_append, lastWrite?_append]
    by_cases written : key ∈ keys first
    · rw [(lastWrite?_eq_none_iff second key).mpr (apart written), Option.none_or, Option.or_none]
    · rw [(lastWrite?_eq_none_iff first key).mpr written, Option.none_or, Option.or_none]

/-- Items of which no two different ones write to one custom property may stand in any order. -/
theorem flatMap {α : Type} {items others : List α} (effects : α → List Effect)
    (perm : items.Perm others)
    (apart : ∀ item ∈ items, ∀ other ∈ items, item ≠ other →
      (keys (effects item)).Disjoint (keys (effects other))) :
    Reorders (items.flatMap effects) (others.flatMap effects) := by
  induction perm with
  | nil => exact .refl []
  | cons item _ ih =>
      rw [List.flatMap_cons, List.flatMap_cons]
      refine (Reorders.refl _).append (ih fun first inFirst second inSecond => ?_)
      exact apart first (List.mem_cons_of_mem _ inFirst) second (List.mem_cons_of_mem _ inSecond)
  | swap item other rest =>
      simp only [List.flatMap_cons, ← List.append_assoc]
      refine Reorders.append ?_ (.refl _)
      by_cases same : other = item
      · rw [same]
        exact .refl _
      · exact .swap (apart other (by simp) item (by simp) same)
  | trans firstPerm _ firstIH secondIH =>
      refine (firstIH apart).trans (secondIH fun item inItems other inOthers => ?_)
      exact apart item (firstPerm.mem_iff.mpr inItems) other (firstPerm.mem_iff.mpr inOthers)

end Reorders

end Effect

/-- A value, and the same value with its conditions in another order. -/
inductive PropValue.Reordered : PropValue → PropValue → Prop where
  | plain (text : String) : Reordered (.plain text) (.plain text)
  | conditional {values others : Table String} :
      values.entries.Perm others.entries → Reordered (.conditional values) (.conditional others)

theorem PropValue.Reordered.byCondition {value other : PropValue}
    (reordered : value.Reordered other) (defaultCondition : String) :
    (value.byCondition defaultCondition).Perm (other.byCondition defaultCondition) := by
  cases reordered with
  | plain text => exact .refl _
  | conditional perm => exact perm

/-- Attributes that are the same but for the order of their parts: they have the same class
tokens, each as often, and the same value in each custom property. -/
structure Attributes.Agree (attributes others : Attributes) : Prop where
  tokens : attributes.classes.Perm others.classes
  styled : attributes.style.isSome = others.style.isSome
  values : ∀ key, (attributes.style.bind fun style => style.get? key) =
    others.style.bind fun style => style.get? key

namespace Catalog

/-- No two different props set the same property. -/
def Independent (catalog : Catalog) (props : List (String × PropValue)) : Prop :=
  ∀ prop ∈ props, ∀ other ∈ props, prop ≠ other →
    ∀ property ∈ (catalog.lookup? prop.1).getD [], property ∉ (catalog.lookup? other.1).getD []

theorem effects_eq_flatMap (catalog : Catalog) (props : List (String × PropValue)) :
    catalog.effects props = props.flatMap fun prop => catalog.effects [prop] := by
  induction props with
  | nil => rfl
  | cons prop rest ih =>
      rw [List.flatMap_cons, ← ih, ← effects_append]
      rfl

end Catalog

namespace Config

variable {config : Config} {naming : Naming} {catalog : Catalog}

/-- Reordering the conditions of values carries over to the properties that are reached. -/
theorem Reaches.reordered {props others reached : List (String × PropValue)}
    (walk : config.Reaches props reached)
    (reorders : List.Forall₂ (fun prop other => prop.1 = other.1 ∧ prop.2.Reordered other.2)
      props others) :
    ∃ reachedToo, config.Reaches others reachedToo ∧
      List.Forall₂ (fun setting other => setting.1 = other.1 ∧ setting.2.Reordered other.2)
        reached reachedToo := by
  induction walk generalizing others with
  | nil =>
      cases reorders
      exact ⟨[], .nil, .nil⟩
  | skipped notProperty notShorthand _ ih =>
      obtain ⟨⟨_, value⟩, rest, ⟨rfl, _⟩, restReorders, rfl⟩ := List.forall₂_cons_left_iff.mp reorders
      obtain ⟨reachedToo, walkToo, related⟩ := ih restReorders
      exact ⟨reachedToo, .skipped notProperty notShorthand walkToo, related⟩
  | @followed name value names _ _ expands _ ih =>
      obtain ⟨⟨_, other⟩, rest, ⟨rfl, reordered⟩, restReorders, rfl⟩ :=
        List.forall₂_cons_left_iff.mp reorders
      obtain ⟨reachedToo, walkToo, related⟩ := ih restReorders
      refine ⟨_, .followed expands walkToo, List.rel_append ?_ related⟩
      rw [List.forall₂_map_left_iff, List.forall₂_map_right_iff]
      exact List.forall₂_same.mpr fun _ _ => ⟨rfl, reordered⟩

namespace CompilesTo

theorem valueEffects_reorders (compiled : config.CompilesTo naming catalog) (property : String)
    {value other : PropValue} (reordered : value.Reordered other) :
    Effect.Reorders (config.valueEffects naming property value)
      (config.valueEffects naming property other) := by
  rw [valueEffects_eq, valueEffects_eq, List.filterMap_eq_flatMap_toList,
    List.filterMap_eq_flatMap_toList]
  refine .flatMap _ (reordered.byCondition _) fun first given second givenToo different => ?_
  obtain ⟨condition, text⟩ := first
  obtain ⟨under, textToo⟩ := second
  intro key isWritten isWrittenToo
  obtain ⟨_, wrote⟩ := (Effect.mem_keys_toList_iff _ key).mp isWritten
  obtain ⟨_, wroteToo⟩ := (Effect.mem_keys_toList_iff _ key).mp isWrittenToo
  obtain ⟨located, isKey, _⟩ := (config.write_effect?_iff _ _ _ _ _ _).mp wrote
  obtain ⟨locatedToo, isKeyToo, _⟩ := (config.write_effect?_iff _ _ _ _ _ _).mp wroteToo
  obtain ⟨_, rfl⟩ := compiled.slotVariable_inj located locatedToo (isKey.symm.trans isKeyToo)
  rw [PropValue.mem_byCondition_iff] at given givenToo
  cases given.symm.trans givenToo
  exact different rfl

theorem effects_reorders (compiled : config.CompilesTo naming catalog)
    {reached others : List (String × PropValue)}
    (reorders : List.Forall₂ (fun setting other => setting.1 = other.1 ∧
      setting.2.Reordered other.2) reached others) :
    Effect.Reorders (config.effects naming reached) (config.effects naming others) := by
  induction reorders with
  | nil => exact .refl []
  | @cons setting other _ _ related _ ih =>
      obtain ⟨property, value⟩ := setting
      obtain ⟨_, otherValue⟩ := other
      obtain ⟨rfl, reordered⟩ := related
      rw [effects, effects, List.flatMap_cons, List.flatMap_cons]
      exact (compiled.valueEffects_reorders property reordered).append ih

theorem mem_lookup?_of_reaches (compiled : config.CompilesTo naming catalog)
    {prop : String × PropValue} {reached : List (String × PropValue)}
    (walk : config.Reaches [prop] reached) {property : String} {value : PropValue}
    (isReached : (property, value) ∈ reached) :
    config.propertyNamed naming property ∈ (catalog.lookup? prop.1).getD [] := by
  have isSet : (config.propertyNamed naming property, value) ∈ catalog.settings [prop] :=
    compiled.settings_eq walk ▸ List.mem_map_of_mem isReached
  rw [← Prod.mk.eta (p := prop), Catalog.settings_cons] at isSet
  obtain ⟨_, listed, same⟩ := List.mem_map.mp ((List.mem_append.mp isSet).resolve_right nofun)
  cases same
  exact listed

theorem disjoint_keys (compiled : config.CompilesTo naming catalog)
    {prop other : String × PropValue}
    (apart : ∀ property ∈ (catalog.lookup? prop.1).getD [],
      property ∉ (catalog.lookup? other.1).getD []) :
    (Effect.keys (catalog.effects [prop])).Disjoint (Effect.keys (catalog.effects [other])) := by
  obtain ⟨reached, walk⟩ := compiled.exists_reaches [prop]
  obtain ⟨reachedToo, walkToo⟩ := compiled.exists_reaches [other]
  rw [compiled.effects_eq walk, compiled.effects_eq walkToo]
  intro key isWritten isWrittenToo
  obtain ⟨⟨_, _⟩, listed, rfl⟩ := List.mem_map.mp isWritten
  obtain ⟨⟨_, _⟩, listedToo, same⟩ := List.mem_map.mp isWrittenToo
  obtain ⟨_, _, isReached, _, _, _, located, isKey, _⟩ :=
    (config.mem_writes_iff naming reached _ _).mp listed
  obtain ⟨_, _, isReachedToo, _, _, _, locatedToo, isKeyToo, _⟩ :=
    (config.mem_writes_iff naming reachedToo _ _).mp listedToo
  obtain ⟨rfl, rfl⟩ := compiled.slotVariable_inj located locatedToo
    (isKey.symm.trans (same.symm.trans isKeyToo))
  exact apart _ (compiled.mem_lookup?_of_reaches walk isReached)
    (compiled.mem_lookup?_of_reaches walkToo isReachedToo)

theorem agree_of_reorders (compiled : config.CompilesTo naming catalog)
    {props others : List (String × PropValue)}
    (reorders : Effect.Reorders (catalog.effects props) (catalog.effects others)) :
    (catalog.resolve props).Agree (catalog.resolve others) := by
  constructor
  case tokens =>
    rw [compiled.classes_eq_map_effects, compiled.classes_eq_map_effects]
    exact reorders.perm.map Effect.className
  case styled =>
    have writes := reorders.perm.filterMap Effect.write
    rw [Catalog.resolve_eq, Catalog.resolve_eq, Attributes.isSome_style_ofEffects,
      Attributes.isSome_style_ofEffects, writes.isEmpty_eq]
  case values =>
    intro key
    rw [Catalog.resolve_eq, Catalog.resolve_eq, Attributes.get?_style_ofEffects,
      Attributes.get?_style_ofEffects]
    exact reorders.lastWrite key

end CompilesTo

end Config

/-- Props of which no two set the same property may stand in any order, and so may the conditions
of any values: the class tokens and the values of the custom properties stay the same. -/
theorem Catalog.resolve_agree {config : Config} {romanize : String → String} {catalog : Catalog}
    (built : ofConfig config romanize = .ok catalog) :
    (∀ props others, catalog.Independent props → props.Perm others →
      (catalog.resolve props).Agree (catalog.resolve others)) ∧
    ∀ props others,
      List.Forall₂ (fun prop other => prop.1 = other.1 ∧ prop.2.Reordered other.2) props others →
      (catalog.resolve props).Agree (catalog.resolve others) := by
  have compiled := Config.compilesTo_of_ofConfig built
  refine ⟨fun props others independent perm => ?_, fun props others reorders => ?_⟩
  · apply compiled.agree_of_reorders
    rw [effects_eq_flatMap, catalog.effects_eq_flatMap others]
    refine .flatMap _ perm fun prop inProps other inOthers different => ?_
    exact compiled.disjoint_keys (independent prop inProps other inOthers different)
  · obtain ⟨reached, walk⟩ := compiled.exists_reaches props
    obtain ⟨reachedToo, walkToo, related⟩ := walk.reordered reorders
    apply compiled.agree_of_reorders
    rw [compiled.effects_eq walk, compiled.effects_eq walkToo]
    exact compiled.effects_reorders related

/-- A shorthand and a property that it does not stand for change places. The conditions of a
value may do so even where another prop writes over it. -/
theorem Catalog.resolve_agree_specimen :
    let sides := PropValue.conditional (Table.ofList [("wide", "1px"), ("small", "2px")])
    let turned := PropValue.conditional (Table.ofList [("small", "2px"), ("wide", "1px")])
    ∃ catalog, ofConfig .specimen = .ok catalog ∧
      catalog.Independent [("inset", sides), ("color", .plain "red")] ∧
      (catalog.resolve [("inset", sides), ("color", .plain "red")]).Agree
        (catalog.resolve [("color", .plain "red"), ("inset", sides)]) ∧
      catalog.resolve [("inset", sides), ("color", .plain "red")] =
        { classText := "paddingLeft-wide paddingLeft-small color-small-red-2"
          style := some (Table.ofList
            [("--paddingLeft-wide", "1px"), ("--paddingLeft-small", "2px")]) } ∧
      sides.Reordered turned ∧
      (catalog.resolve [("edge", sides), ("inset", .plain "3px")]).Agree
        (catalog.resolve [("edge", turned), ("inset", .plain "3px")]) := by
  intro sides turned
  obtain ⟨catalog, built⟩ := Config.specimen_builds
  have compiled := Config.compilesTo_of_ofConfig built
  have insetExpands : Shorthand.Expands Config.specimen.shorthands Config.specimen.isProperty
      ["inset"] ["paddingLeft"] :=
    .alone (by decide +kernel) (by decide +kernel : _ = some ["paddingLeft"])
      (.property (by decide +kernel) .nil)
  have colorExpands : Shorthand.Expands Config.specimen.shorthands Config.specimen.isProperty
      ["color"] ["color"] := .property (by decide +kernel) .nil
  have inset (property : Property) (reached : property ∈ (catalog.lookup? "inset").getD []) :
      property.name = "paddingLeft" := by
    rw [compiled.lookup?_of_expands insetExpands] at reached
    rw [List.mem_singleton.mp reached]
    rfl
  have color (property : Property) (reached : property ∈ (catalog.lookup? "color").getD []) :
      property.name = "color" := by
    rw [compiled.lookup?_of_expands colorExpands] at reached
    rw [List.mem_singleton.mp reached]
    rfl
  have apart : "paddingLeft" ≠ "color" := by decide
  have independent : catalog.Independent [("inset", sides), ("color", .plain "red")] := by
    intro prop inProps other inOthers different property inFirst inSecond
    rw [List.mem_pair] at inProps inOthers
    rcases inProps with rfl | rfl <;> rcases inOthers with rfl | rfl
    · exact different rfl
    · exact apart ((inset property inFirst).symm.trans (color property inSecond))
    · exact apart ((inset property inSecond).symm.trans (color property inFirst))
    · exact different rfl
  have turns : sides.Reordered turned := .conditional (by decide +kernel)
  have walk : Config.specimen.Reaches [("inset", sides), ("color", .plain "red")]
      ([("paddingLeft", sides)] ++ ([("color", .plain "red")] ++ [])) :=
    .followed insetExpands (.followed colorExpands .nil)
  obtain ⟨permuted, reordered⟩ := resolve_agree built
  refine ⟨catalog, built, independent, permuted _ _ independent (.swap _ _ _), ?_, turns,
    reordered _ _ (.cons ⟨rfl, turns⟩ (.cons ⟨rfl, .plain "3px"⟩ .nil))⟩
  rw [compiled.resolve_eq walk]
  decide +kernel

end AtomicCss
