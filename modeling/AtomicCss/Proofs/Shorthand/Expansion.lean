import AtomicCss.Shorthand
import AtomicCss.Proofs.Table.Views

/-!
# What shorthands stand for

The meaning of a list of targets, told without a path: a property stands for itself, a
shorthand for what its own targets stand for, and a list for its parts one after the other.
Expansion, where it succeeds, finds this meaning; where it fails, its fault is that of the
first shorthand without one.
-/

set_option autoImplicit false

namespace AtomicCss.Shorthand

variable {shorthands : Table (List String)} {isProperty : String → Bool}

/-- Targets stand for properties, left to right. -/
inductive Expands (shorthands : Table (List String)) (isProperty : String → Bool) :
    List String → List String → Prop where
  | nil : Expands shorthands isProperty [] []
  | property {name : String} {rest properties : List String} :
      isProperty name = true → Expands shorthands isProperty rest properties →
      Expands shorthands isProperty (name :: rest) (name :: properties)
  | shorthand {name : String} {targets rest inner properties : List String} :
      isProperty name = false → shorthands.get? name = some targets →
      Expands shorthands isProperty targets inner →
      Expands shorthands isProperty rest properties →
      Expands shorthands isProperty (name :: rest) (inner ++ properties)

theorem Expands.unique {targets first second : List String}
    (left : Expands shorthands isProperty targets first)
    (right : Expands shorthands isProperty targets second) : first = second := by
  induction left generalizing second with
  | nil => cases right; rfl
  | property isOne _ ih =>
      cases right with
      | property _ rest => rw [ih rest]
      | shorthand notOne => cases isOne.symm.trans notOne
  | shorthand notOne declared _ _ innerIH restIH =>
      cases right with
      | property isOne => cases isOne.symm.trans notOne
      | shorthand _ found inner rest =>
          cases declared.symm.trans found
          rw [innerIH inner, restIH rest]

/-- A shorthand expands to what its targets expand to. -/
theorem Expands.alone {name : String} {targets properties : List String}
    (notOne : isProperty name = false) (declared : shorthands.get? name = some targets)
    (inner : Expands shorthands isProperty targets properties) :
    Expands shorthands isProperty [name] properties := by
  have expands := Expands.shorthand notOne declared inner .nil
  rwa [List.append_nil] at expands

theorem Expands.declared {name : String} {properties : List String}
    (expands : Expands shorthands isProperty [name] properties) :
    isProperty name = true ∨ ∃ targets, shorthands.get? name = some targets := by
  cases expands with
  | property isOne _ => exact .inl isOne
  | shorthand _ found _ _ => exact .inr ⟨_, found⟩

theorem Expands.all_properties {targets properties : List String}
    (expands : Expands shorthands isProperty targets properties) :
    ∀ name ∈ properties, isProperty name = true := by
  induction expands with
  | nil => intro name listed; cases listed
  | property isOne _ ih =>
      intro name listed
      rcases List.mem_cons.mp listed with rfl | later
      · exact isOne
      · exact ih name later
  | shorthand _ _ _ _ innerIH restIH =>
      intro name listed
      exact (List.mem_append.mp listed).elim (innerIH name) (restIH name)

theorem bind_eq_ok {α β : Type} {found : Except Config.Fault α}
    {step : α → Except Config.Fault β} {result : β} (success : found >>= step = .ok result) :
    ∃ value, found = .ok value ∧ step value = .ok result := by
  cases found with
  | error fault => cases success
  | ok value => exact ⟨value, rfl, success⟩

theorem bind_eq_error {α β : Type} {found : Except Config.Fault α}
    {step : α → Except Config.Fault β} {fault : Config.Fault}
    (failure : found >>= step = .error fault) :
    found = .error fault ∨ ∃ value, found = .ok value ∧ step value = .error fault := by
  cases found with
  | error first =>
      cases failure
      exact .inl rfl
  | ok value => exact .inr ⟨value, rfl, failure⟩

/-- The walk finds what the targets stand for, whatever its path. -/
theorem expandTargets_expands {path : List String} {owner : String}
    {targets properties : List String}
    (success : expandTargets shorthands isProperty path owner targets = .ok properties) :
    Expands shorthands isProperty targets properties := by
  fun_induction expandTargets shorthands isProperty path owner targets generalizing properties with
  | case1 path owner =>
      cases success
      exact .nil
  | case2 path owner target rest isOne ih =>
      obtain ⟨others, expanded, same⟩ := bind_eq_ok success
      cases same
      exact .property isOne (ih expanded)
  | case3 path owner target rest notOne undeclared => cases success
  | case4 path owner target rest notOne targets declared visited => cases success
  | case5 path owner target rest notOne targets declared fresh innerIH restIH =>
      obtain ⟨inner, innerExpanded, success⟩ := bind_eq_ok success
      obtain ⟨others, restExpanded, same⟩ := bind_eq_ok success
      cases same
      exact .shorthand (Bool.eq_false_iff.mpr notOne) declared (innerIH innerExpanded)
        (restIH restExpanded)

private theorem mapM_ok {entries : List (String × List String)}
    {expandOne : String → List String → Except Config.Fault (List String)}
    {expanded : List (String × List String)}
    (success : (entries.mapM fun (name, targets) => do
      return (name, ← expandOne name targets)) = .ok expanded) :
    expanded.map Prod.fst = entries.map Prod.fst ∧
      ∀ name targets, (name, targets) ∈ entries →
        ∃ properties, (name, properties) ∈ expanded ∧ expandOne name targets = .ok properties := by
  induction entries generalizing expanded with
  | nil =>
      cases success
      exact ⟨rfl, fun _ _ listed => by cases listed⟩
  | cons entry rest ih =>
      rw [List.mapM_cons] at success
      obtain ⟨first, firstExpanded, success⟩ := bind_eq_ok success
      obtain ⟨properties, expands, sameFirst⟩ := bind_eq_ok firstExpanded
      obtain ⟨others, restExpanded, same⟩ := bind_eq_ok success
      cases sameFirst
      cases same
      obtain ⟨sameNames, each⟩ := ih restExpanded
      refine ⟨congrArg (entry.1 :: ·) sameNames, fun name targets listed => ?_⟩
      rcases List.mem_cons.mp listed with rfl | later
      · exact ⟨properties, List.mem_cons_self, expands⟩
      · obtain ⟨found, member, expands⟩ := each name targets later
        exact ⟨found, List.mem_cons_of_mem _ member, expands⟩

/-- If the expansion of all shorthands succeeds, each of them is listed, in the order of
declaration, with what its targets stand for. -/
theorem expandAll_expands {expanded : Table (List String)}
    (success : expandAll shorthands isProperty = .ok expanded) :
    expanded.keys = shorthands.keys ∧
      ∀ name targets, shorthands.get? name = some targets →
        ∃ properties, expanded.get? name = some properties ∧
          Expands shorthands isProperty targets properties := by
  obtain ⟨listed, mapped, same⟩ := bind_eq_ok success
  cases same
  obtain ⟨sameNames, each⟩ := mapM_ok mapped
  have distinct : (listed.map Prod.fst).Nodup := sameNames ▸ shorthands.keysNodup
  have sameEntries := Table.entries_ofList listed distinct
  refine ⟨?_, fun name targets declared => ?_⟩
  · rw [Table.keys, sameEntries, sameNames]
    rfl
  · obtain ⟨properties, member, expands⟩ :=
      each name targets ((Table.get?_eq_some_iff _ _ _).mp declared)
    refine ⟨properties, ?_, expandTargets_expands expands⟩
    rw [Table.get?_eq_some_iff, sameEntries]
    exact member

/-- How a computation fails. -/
def fault? {α : Type} : Except Config.Fault α → Option Config.Fault
  | .ok _ => none
  | .error fault => some fault

@[simp] theorem fault?_eq_some_iff {α : Type} (found : Except Config.Fault α)
    (fault : Config.Fault) : fault? found = some fault ↔ found = .error fault := by
  cases found <;> simp [fault?]

@[simp] theorem fault?_eq_none_iff {α : Type} (found : Except Config.Fault α) :
    fault? found = none ↔ ∃ value, found = .ok value := by
  cases found <;> simp [fault?]

theorem fault?_bind {α β : Type} (found : Except Config.Fault α) (make : α → β) :
    fault? (do let value ← found; return make value) = fault? found := by
  cases found <;> rfl

theorem fault?_bind_bind {α β γ : Type} (first : Except Config.Fault α)
    (second : Except Config.Fault β) (make : α → β → γ) :
    fault? (do let left ← first; let right ← second; return make left right) =
      (fault? first).or (fault? second) := by
  cases first <;> cases second <;> rfl

private theorem fault?_mapM (entries : List (String × List String))
    (expandOne : String → List String → Except Config.Fault (List String)) :
    fault? (entries.mapM fun (name, targets) => do return (name, ← expandOne name targets)) =
      entries.findSome? fun entry => fault? (expandOne entry.1 entry.2) := by
  induction entries with
  | nil => rfl
  | cons entry rest ih =>
      rw [List.mapM_cons, fault?_bind_bind, fault?_bind, ih, List.findSome?_cons]
      cases fault? (expandOne entry.1 entry.2) <;> rfl

theorem fault?_expandAll :
    fault? (expandAll shorthands isProperty) =
      shorthands.entries.findSome? fun entry =>
        fault? (expand shorthands isProperty entry.1 entry.2) := by
  unfold expandAll
  rw [fault?_bind]
  exact fault?_mapM _ _

end AtomicCss.Shorthand
