import AtomicCss.Proofs.Shorthand.Expansion
import Mathlib.Logic.Relation

/-!
# The graph of shorthands

A shorthand leads to those of its targets that are no properties. Expansion succeeds just if
these are all declared and no shorthand leads back to itself, however the graph is shaped
otherwise and in whatever order the shorthands are declared. Each expansion is then made of
the expansions of its targets.
-/

set_option autoImplicit false

namespace AtomicCss.Shorthand

variable {shorthands : Table (List String)} {isProperty : String → Bool}

/-- Every target is a property or a declared shorthand. -/
def Closed (shorthands : Table (List String)) (isProperty : String → Bool) : Prop :=
  ∀ name targets, shorthands.get? name = some targets →
    ∀ target ∈ targets, isProperty target = true ∨ target ∈ shorthands.keys

/-- A shorthand leads to its targets other than properties. -/
def LeadsTo (shorthands : Table (List String)) (isProperty : String → Bool)
    (name target : String) : Prop :=
  ∃ targets, shorthands.get? name = some targets ∧ target ∈ targets ∧ isProperty target = false

/-- No shorthand leads back to itself, directly or through others. -/
def Acyclic (shorthands : Table (List String)) (isProperty : String → Bool) : Prop :=
  ∀ name, ¬ Relation.TransGen (LeadsTo shorthands isProperty) name name

/-- What a name stands for, given the expansions of the shorthands. -/
def standsFor (expanded : Table (List String)) (isProperty : String → Bool) (name : String) :
    List String :=
  if isProperty name then [name] else (expanded.get? name).getD []

theorem Expands.isProperty_or_mem_keys {targets properties : List String}
    (expands : Expands shorthands isProperty targets properties) :
    ∀ target ∈ targets, isProperty target = true ∨ target ∈ shorthands.keys := by
  induction expands with
  | nil => intro target listed; cases listed
  | property isOne _ ih =>
      intro target listed
      rcases List.mem_cons.mp listed with rfl | later
      · exact .inl isOne
      · exact ih target later
  | shorthand _ declared _ _ _ restIH =>
      intro target listed
      rcases List.mem_cons.mp listed with rfl | later
      · exact .inr ((Table.mem_keys_iff _ _).mpr ⟨_, declared⟩)
      · exact restIH target later

/-- From targets that stand for properties, every way through the graph ends. -/
theorem Expands.acc {targets properties : List String}
    (expands : Expands shorthands isProperty targets properties) :
    ∀ target ∈ targets, isProperty target = false →
      Acc (Function.swap (LeadsTo shorthands isProperty)) target := by
  induction expands with
  | nil => intro target listed; cases listed
  | property isOne _ ih =>
      intro target listed notOne
      rcases List.mem_cons.mp listed with rfl | later
      · cases isOne.symm.trans notOne
      · exact ih target later notOne
  | shorthand _ declared _ _ innerIH restIH =>
      intro target listed notOne
      rcases List.mem_cons.mp listed with rfl | later
      · refine Acc.intro _ fun next leads => ?_
        obtain ⟨targets, found, member, notNext⟩ := leads
        cases declared.symm.trans found
        exact innerIH next member notNext
      · exact restIH target later notOne

theorem not_cycle_of_acc {name : String}
    (ends : Acc (Function.swap (LeadsTo shorthands isProperty)) name) :
    ¬ Relation.TransGen (LeadsTo shorthands isProperty) name name := by
  intro cycle
  replace ends := ends.transGen
  rw [← Relation.transGen_swap] at cycle
  induction ends with
  | intro name _ ih => exact ih name cycle cycle

theorem closed_of_expandAll {expanded : Table (List String)}
    (success : expandAll shorthands isProperty = .ok expanded) : Closed shorthands isProperty := by
  intro name targets declared
  obtain ⟨properties, _, expands⟩ := (expandAll_expands success).2 name targets declared
  exact expands.isProperty_or_mem_keys

theorem acyclic_of_expandAll {expanded : Table (List String)}
    (success : expandAll shorthands isProperty = .ok expanded) : Acyclic shorthands isProperty := by
  intro name cycle
  -- a cycle comes back to its first name along an edge, so that name is no property
  have notOne : isProperty name = false := by
    cases cycle with
    | single leads => exact leads.choose_spec.2.2
    | tail _ leads => exact leads.choose_spec.2.2
  have declared : ∃ targets, shorthands.get? name = some targets := by
    obtain ⟨next, ⟨targets, declared, _⟩, _⟩ := Relation.TransGen.head'_iff.mp cycle
    exact ⟨targets, declared⟩
  obtain ⟨targets, declared⟩ := declared
  obtain ⟨properties, _, expands⟩ := (expandAll_expands success).2 name targets declared
  have alone := Expands.alone notOne declared expands
  exact not_cycle_of_acc (alone.acc name (List.mem_singleton_self name) notOne) cycle

theorem exists_expandTargets (closed : Closed shorthands isProperty)
    (acyclic : Acyclic shorthands isProperty) {path : List String} {owner : String}
    {targets : List String}
    (leads : ∀ target ∈ targets, isProperty target = true ∨ target ∈ shorthands.keys ∧
      ∀ name ∈ path, Relation.TransGen (LeadsTo shorthands isProperty) name target) :
    ∃ properties, expandTargets shorthands isProperty path owner targets = .ok properties := by
  fun_induction expandTargets shorthands isProperty path owner targets with
  | case1 path owner => exact ⟨[], rfl⟩
  | case2 path owner target rest isOne ih =>
      obtain ⟨others, expanded⟩ := ih fun target listed =>
        leads target (List.mem_cons_of_mem _ listed)
      exact ⟨target :: others, by rw [expanded]; rfl⟩
  | case3 path owner target rest notOne undeclared =>
      obtain ⟨known, _⟩ := (leads target List.mem_cons_self).resolve_left notOne
      exact absurd known ((Table.get?_eq_none_iff _ _).mp undeclared)
  | case4 path owner target rest notOne targets declared visited =>
      -- a target on the path would lead back to itself
      obtain ⟨_, fromPath⟩ := (leads target List.mem_cons_self).resolve_left notOne
      exact absurd (fromPath target visited) (acyclic target)
  | case5 path owner target rest notOne targets declared fresh innerIH restIH =>
      obtain ⟨_, fromPath⟩ := (leads target List.mem_cons_self).resolve_left notOne
      -- the invariant holds one step further: what the target leads to is led to from the path
      have innerLeads : ∀ inner ∈ targets, isProperty inner = true ∨ inner ∈ shorthands.keys ∧
          ∀ name ∈ path ++ [target],
            Relation.TransGen (LeadsTo shorthands isProperty) name inner := by
        intro inner listed
        by_cases isOne : isProperty inner = true
        · exact .inl isOne
        have last : LeadsTo shorthands isProperty target inner :=
          ⟨targets, declared, listed, Bool.eq_false_iff.mpr isOne⟩
        refine .inr ⟨(closed target targets declared inner listed).resolve_left isOne, ?_⟩
        intro name onPath
        rcases List.mem_append.mp onPath with earlier | here
        · exact (fromPath name earlier).tail last
        · exact List.mem_singleton.mp here ▸ .single last
      obtain ⟨inner, innerExpanded⟩ := innerIH innerLeads
      obtain ⟨others, restExpanded⟩ := restIH fun target listed =>
        leads target (List.mem_cons_of_mem _ listed)
      exact ⟨inner ++ others, by rw [innerExpanded, restExpanded]; rfl⟩

theorem exists_expandAll_of_acyclic (closed : Closed shorthands isProperty)
    (acyclic : Acyclic shorthands isProperty) :
    ∃ expanded, expandAll shorthands isProperty = .ok expanded := by
  rw [← fault?_eq_none_iff, fault?_expandAll, List.findSome?_eq_none_iff]
  intro ⟨name, targets⟩ listed
  have declared := (Table.get?_eq_some_iff _ _ _).mpr listed
  refine (fault?_eq_none_iff _).mpr (exists_expandTargets closed acyclic fun target member => ?_)
  by_cases isOne : isProperty target = true
  · exact .inl isOne
  refine .inr ⟨(closed name targets declared target member).resolve_left isOne, ?_⟩
  intro onPath isRoot
  rw [List.mem_singleton.mp isRoot]
  exact .single ⟨targets, declared, member, Bool.eq_false_iff.mpr isOne⟩

theorem exists_expandAll_iff :
    (∃ expanded, expandAll shorthands isProperty = .ok expanded) ↔
      Closed shorthands isProperty ∧ Acyclic shorthands isProperty :=
  ⟨fun ⟨_, success⟩ => ⟨closed_of_expandAll success, acyclic_of_expandAll success⟩,
    fun ⟨closed, acyclic⟩ => exists_expandAll_of_acyclic closed acyclic⟩

/-- Every target is a property, or a shorthand of a lower rank than its owner. -/
def Ranked (shorthands : Table (List String)) (isProperty : String → Bool)
    (rank : String → Nat) : Prop :=
  ∀ entry ∈ shorthands.entries, ∀ target ∈ entry.2,
    isProperty target = true ∨ shorthands.contains target = true ∧ rank target < rank entry.1

instance (shorthands : Table (List String)) (isProperty : String → Bool) (rank : String → Nat) :
    Decidable (Ranked shorthands isProperty rank) :=
  inferInstanceAs (Decidable (∀ entry ∈ shorthands.entries, ∀ target ∈ entry.2,
    isProperty target = true ∨ shorthands.contains target = true ∧ rank target < rank entry.1))

/-- Ranked shorthands can be expanded, as each edge goes down. -/
theorem exists_expandAll (rank : String → Nat) (ranked : Ranked shorthands isProperty rank) :
    ∃ expanded, expandAll shorthands isProperty = .ok expanded := by
  refine exists_expandAll_of_acyclic ?_ ?_
  · intro name targets declared target member
    refine (ranked _ ((Table.get?_eq_some_iff _ _ _).mp declared) target member).imp_right ?_
    exact fun lower => (Table.contains_iff_mem_keys _ _).mp lower.1
  · have down : ∀ name target, LeadsTo shorthands isProperty name target →
        rank target < rank name := by
      intro name target leads
      obtain ⟨targets, declared, member, notOne⟩ := leads
      have lower := ranked _ ((Table.get?_eq_some_iff _ _ _).mp declared) target member
      exact (lower.resolve_left (Bool.eq_false_iff.mp notOne)).2
    intro name cycle
    have below : ∀ target, Relation.TransGen (LeadsTo shorthands isProperty) name target →
        rank target < rank name := by
      intro target reached
      induction reached with
      | single leads => exact down _ _ leads
      | tail _ leads ih => exact Nat.lt_trans (down _ _ leads) ih
    exact Nat.lt_irrefl _ (below name cycle)

theorem Expands.eq_flatMap {expanded : Table (List String)} {targets properties : List String}
    (expands : Expands shorthands isProperty targets properties)
    (listed : ∀ name targets, shorthands.get? name = some targets →
      ∃ properties, expanded.get? name = some properties ∧
        Expands shorthands isProperty targets properties) :
    properties = targets.flatMap (standsFor expanded isProperty) := by
  induction expands with
  | nil => rfl
  | property isOne _ ih =>
      rw [List.flatMap_cons, ← ih, standsFor, if_pos isOne]
      rfl
  | shorthand notOne declared inner _ _ restIH =>
      obtain ⟨properties, found, expands⟩ := listed _ _ declared
      rw [List.flatMap_cons, ← restIH, standsFor, notOne, found, expands.unique inner]
      rfl

theorem Expands.congr {reordered : Table (List String)} {targets properties : List String}
    (same : ∀ name, reordered.get? name = shorthands.get? name)
    (expands : Expands shorthands isProperty targets properties) :
    Expands reordered isProperty targets properties := by
  induction expands with
  | nil => exact .nil
  | property isOne _ ih => exact .property isOne ih
  | shorthand notOne declared _ _ innerIH restIH =>
      exact .shorthand notOne ((same _).trans declared) innerIH restIH

/-- The expansions do not depend on the order in which shorthands are declared. -/
theorem exists_expandAll_of_perm {reordered expanded : Table (List String)}
    (perm : reordered.entries.Perm shorthands.entries)
    (success : expandAll shorthands isProperty = .ok expanded) :
    ∃ others, expandAll reordered isProperty = .ok others ∧
      ∀ name, others.get? name = expanded.get? name := by
  have same := Table.get?_eq_of_perm perm
  obtain ⟨closed, acyclic⟩ := exists_expandAll_iff.mp ⟨expanded, success⟩
  have sameEdges : LeadsTo reordered isProperty = LeadsTo shorthands isProperty := by
    funext name target
    simp only [LeadsTo, same]
  have closedToo : Closed reordered isProperty := by
    intro name targets declared target member
    refine (closed name targets ((same name).symm.trans declared) target member).imp_right ?_
    exact fun known => (perm.map Prod.fst).mem_iff.mpr known
  obtain ⟨others, othersSuccess⟩ := exists_expandAll_iff.mpr
    ⟨closedToo, fun name cycle => acyclic name (sameEdges ▸ cycle)⟩
  refine ⟨others, othersSuccess, fun name => ?_⟩
  obtain ⟨sameKeys, each⟩ := expandAll_expands success
  obtain ⟨othersKeys, othersEach⟩ := expandAll_expands othersSuccess
  cases declared : shorthands.get? name with
  | none =>
      have absent := (Table.get?_eq_none_iff _ _).mp declared
      have absentToo := (Table.get?_eq_none_iff _ _).mp ((same name).trans declared)
      rw [(Table.get?_eq_none_iff _ _).mpr (othersKeys ▸ absentToo),
        (Table.get?_eq_none_iff _ _).mpr (sameKeys ▸ absent)]
  | some targets =>
      obtain ⟨properties, found, expands⟩ := each name targets declared
      obtain ⟨otherProperties, otherFound, otherExpands⟩ :=
        othersEach name targets ((same name).trans declared)
      rw [found, otherFound, otherExpands.unique (expands.congr same)]

/-- Expansion succeeds on exactly the closed graphs without cycles. It lists all shorthands
in their order, each with properties only, and puts every expansion together from those of the
targets; the order of declaration has no part in it. -/
theorem expandAll_exact (shorthands : Table (List String)) (isProperty : String → Bool) :
    ((∃ expanded, expandAll shorthands isProperty = .ok expanded) ↔
      Closed shorthands isProperty ∧ Acyclic shorthands isProperty) ∧
    ∀ expanded, expandAll shorthands isProperty = .ok expanded →
      expanded.keys = shorthands.keys ∧
      (∀ name properties, expanded.get? name = some properties →
        ∀ property ∈ properties, isProperty property = true) ∧
      (∀ name targets, shorthands.get? name = some targets →
        expanded.get? name = some (targets.flatMap (standsFor expanded isProperty))) ∧
      ∀ reordered : Table (List String), reordered.entries.Perm shorthands.entries →
        ∃ others, expandAll reordered isProperty = .ok others ∧
          ∀ name, others.get? name = expanded.get? name := by
  refine ⟨exists_expandAll_iff, fun expanded success => ?_⟩
  obtain ⟨sameKeys, each⟩ := expandAll_expands success
  refine ⟨sameKeys, ?_, ?_, fun reordered perm => exists_expandAll_of_perm perm success⟩
  · intro name properties found
    have listed : name ∈ shorthands.keys :=
      sameKeys ▸ (Table.mem_keys_iff _ _).mpr ⟨properties, found⟩
    obtain ⟨targets, declared⟩ := (Table.mem_keys_iff _ _).mp listed
    obtain ⟨expansion, foundToo, expands⟩ := each name targets declared
    cases found.symm.trans foundToo
    exact expands.all_properties
  · intro name targets declared
    obtain ⟨properties, found, expands⟩ := each name targets declared
    rw [found, expands.eq_flatMap each]

/-- A shorthand that is met twice, and before its own declaration, makes no cycle. -/
theorem expandAll_exact_diamond :
    let shorthands := Table.ofList [("all", ["pair", "x", "pair"]), ("pair", ["y", "x"])]
    let isProperty := fun name => name == "x" || name == "y"
    ∃ expanded, expandAll shorthands isProperty = .ok expanded ∧
      expanded.get? "pair" = some ["y", "x"] ∧
      expanded.get? "all" = some ["y", "x", "x", "y", "x"] := by
  intro shorthands isProperty
  obtain ⟨expanded, success⟩ := @exists_expandAll shorthands
    isProperty (fun name => if name = "all" then 1 else 0) (by decide +kernel)
  obtain ⟨_, _, exact, _⟩ := (expandAll_exact shorthands isProperty).2 expanded success
  have pair : expanded.get? "pair" = some ["y", "x"] := exact "pair" ["y", "x"] (by decide +kernel)
  refine ⟨expanded, success, pair, (exact "all" ["pair", "x", "pair"] (by decide +kernel)).trans ?_⟩
  simp [standsFor, isProperty, pair]

end AtomicCss.Shorthand
