import AtomicCss.Proofs.Shorthand.Graph
import Mathlib.Data.List.Chain

/-!
# The walk of an expansion

Expansion walks the shorthands in depth, from each one in the order of declaration, with the
targets of a shorthand from left to right. Listed in full, as if no target stopped it, the walk
meets exactly the edges that ways without repetition lead to. Expansion fails on the first
target of this list that is undeclared or lies on its own way, and with what is wrong there.
-/

set_option autoImplicit false

namespace AtomicCss.Shorthand

variable {shorthands : Table (List String)} {isProperty : String → Bool}

/-- A target other than a property, met inside of the shorthands on a path. -/
structure Visit where
  path : List String
  owner : String
  target : String
  deriving DecidableEq, Repr

/-- What is wrong with the target. -/
def Visit.fault? (shorthands : Table (List String)) (visit : Visit) : Option Config.Fault :=
  if shorthands.contains visit.target then
    if visit.target ∈ visit.path then some (.shorthandCycle (visit.path ++ [visit.target]))
    else none
  else some (.unknownShorthandTarget visit.owner visit.target)

/-- The walk along a list of targets. A fault does not end it. -/
def visits (shorthands : Table (List String)) (isProperty : String → Bool) (path : List String)
    (owner : String) : List String → List Visit
  | [] => []
  | target :: rest =>
      if isProperty target then visits shorthands isProperty path owner rest
      else
        ⟨path, owner, target⟩ ::
          ((match _declared : shorthands.get? target with
            | none => []
            | some targets =>
                if _visited : target ∈ path then []
                else visits shorthands isProperty (path ++ [target]) target targets) ++
            visits shorthands isProperty path owner rest)
termination_by targets => ((offPath shorthands path).length, targets.length)
decreasing_by
  · exact Prod.Lex.right _ (by simp)
  · exact Prod.Lex.left _ _ (length_offPath_lt _declared _visited)
  · exact Prod.Lex.right _ (by simp)

/-- The walk inside of a target: none if it is undeclared or lies on the path already. -/
def inside (shorthands : Table (List String)) (isProperty : String → Bool) (path : List String)
    (target : String) : List Visit :=
  match shorthands.get? target with
  | none => []
  | some targets =>
      if target ∈ path then []
      else visits shorthands isProperty (path ++ [target]) target targets

/-- The walk from one declared shorthand. -/
def visitsFrom (shorthands : Table (List String)) (isProperty : String → Bool)
    (entry : String × List String) : List Visit :=
  visits shorthands isProperty [entry.1] entry.1 entry.2

/-- The walk from all shorthands. -/
def walk (shorthands : Table (List String)) (isProperty : String → Bool) : List Visit :=
  shorthands.entries.flatMap (visitsFrom shorthands isProperty)

section Visits

variable {path : List String} {owner target : String} {targets rest : List String}

theorem inside_of_undeclared (undeclared : shorthands.get? target = none) :
    inside shorthands isProperty path target = [] := by
  simp [inside, undeclared]

theorem inside_of_visited (visited : target ∈ path) :
    inside shorthands isProperty path target = [] := by
  unfold inside
  cases shorthands.get? target <;> simp [visited]

theorem inside_of_fresh (declared : shorthands.get? target = some targets)
    (fresh : target ∉ path) :
    inside shorthands isProperty path target =
      visits shorthands isProperty (path ++ [target]) target targets := by
  simp [inside, declared, fresh]

@[simp] theorem visits_nil : visits shorthands isProperty path owner [] = [] := by
  simp [visits]

theorem visits_of_property (isOne : isProperty target = true) :
    visits shorthands isProperty path owner (target :: rest) =
      visits shorthands isProperty path owner rest := by
  rw [visits, if_pos isOne]

theorem visits_of_not_property (notOne : ¬isProperty target = true) :
    visits shorthands isProperty path owner (target :: rest) =
      ⟨path, owner, target⟩ :: (inside shorthands isProperty path target ++
        visits shorthands isProperty path owner rest) := by
  rw [visits, if_neg notOne]
  cases declared : shorthands.get? target with
  | none => rw [inside_of_undeclared declared]
  | some targets =>
      by_cases visited : target ∈ path
      · rw [inside_of_visited visited]
        simp [visited]
      · rw [inside_of_fresh declared visited]
        simp [visited]

theorem mem_inside_iff (visit : Visit) :
    visit ∈ inside shorthands isProperty path target ↔
      ∃ targets, shorthands.get? target = some targets ∧ target ∉ path ∧
        visit ∈ visits shorthands isProperty (path ++ [target]) target targets := by
  unfold inside
  cases shorthands.get? target with
  | none => simp
  | some targets => by_cases visited : target ∈ path <;> simp [visited]

theorem mem_visits_iff (visit : Visit) :
    visit ∈ visits shorthands isProperty path owner targets ↔
      ∃ target ∈ targets, isProperty target = false ∧
        (visit = ⟨path, owner, target⟩ ∨ visit ∈ inside shorthands isProperty path target) := by
  induction targets with
  | nil => simp
  | cons target rest ih =>
      cases isOne : isProperty target with
      | true => simp [visits_of_property isOne, ih, isOne]
      | false =>
          rw [visits_of_not_property (Bool.eq_false_iff.mp isOne), List.mem_cons,
            List.mem_append, ih]
          simp [isOne, or_assoc]

end Visits

section Faults

/-- The first visit with a fault is where the expansion of targets fails. -/
theorem findSome?_visits (path : List String) (owner : String) (targets : List String) :
    (visits shorthands isProperty path owner targets).findSome? (Visit.fault? shorthands) =
      fault? (expandTargets shorthands isProperty path owner targets) := by
  fun_induction expandTargets shorthands isProperty path owner targets with
  | case1 path owner => simp [fault?]
  | case2 path owner target rest isOne ih =>
      simp only [visits_of_property isOne, fault?_bind, ih]
  | case3 path owner target rest notOne undeclared =>
      simp [visits_of_not_property notOne, undeclared, Visit.fault?, fault?, Table.contains]
  | case4 path owner target rest notOne targets declared visited =>
      simp [visits_of_not_property notOne, declared, visited, Visit.fault?, fault?, Table.contains]
  | case5 path owner target rest notOne targets declared fresh innerIH restIH =>
      have passes : Visit.fault? shorthands ⟨path, owner, target⟩ = none := by
        simp [Visit.fault?, Table.contains, declared, fresh]
      simp only [visits_of_not_property notOne, inside_of_fresh declared fresh,
        List.findSome?_cons, passes, List.findSome?_append, innerIH, restIH, fault?_bind_bind]

theorem findSome?_visitsFrom (entry : String × List String) :
    (visitsFrom shorthands isProperty entry).findSome? (Visit.fault? shorthands) =
      fault? (expand shorthands isProperty entry.1 entry.2) :=
  findSome?_visits _ _ _

theorem fault?_eq_none_of_mem_visitsFrom {entry : String × List String}
    (expands : ∃ properties, expand shorthands isProperty entry.1 entry.2 = .ok properties)
    {visit : Visit} (met : visit ∈ visitsFrom shorthands isProperty entry) :
    visit.fault? shorthands = none := by
  have passes := (fault?_eq_none_iff _).mpr expands
  rw [← findSome?_visitsFrom] at passes
  exact List.findSome?_eq_none_iff.mp passes visit met

end Faults

/-- A way from a declared shorthand to its last one, on which none comes twice. -/
inductive IsWay (shorthands : Table (List String)) (isProperty : String → Bool) :
    List String → String → Prop where
  | root {name : String} : name ∈ shorthands.keys → IsWay shorthands isProperty [name] name
  | step {path : List String} {owner target : String} :
      IsWay shorthands isProperty path owner → LeadsTo shorthands isProperty owner target →
      target ∈ shorthands.keys → target ∉ path →
      IsWay shorthands isProperty (path ++ [target]) target

/-- The target is one that the last shorthand of a way leads to. -/
structure Visit.IsMet (shorthands : Table (List String)) (isProperty : String → Bool)
    (visit : Visit) : Prop where
  way : IsWay shorthands isProperty visit.path visit.owner
  leads : LeadsTo shorthands isProperty visit.owner visit.target

namespace IsWay

variable {path : List String} {owner target : String} {targets : List String} {visit : Visit}

theorem head?_mem_keys (way : IsWay shorthands isProperty path owner) :
    ∃ root ∈ shorthands.keys, path.head? = some root := by
  induction way with
  | root declared => exact ⟨_, declared, rfl⟩
  | step _ _ _ _ ih =>
      obtain ⟨root, declared, first⟩ := ih
      exact ⟨root, declared, by simp [first]⟩

theorem nodup (way : IsWay shorthands isProperty path owner) : path.Nodup := by
  induction way with
  | root _ => simp
  | step _ _ _ fresh ih =>
      refine List.nodup_append.mpr ⟨ih, by simp, ?_⟩
      intro name onPath target isTarget same
      cases List.mem_singleton.mp isTarget
      exact fresh (same ▸ onPath)

/-- One more edge continues the chain of edges of a way. -/
theorem isChain_append (way : IsWay shorthands isProperty path owner)
    (leads : LeadsTo shorthands isProperty owner target) :
    (path ++ [target]).IsChain (LeadsTo shorthands isProperty) := by
  induction way generalizing target with
  | root _ => simpa using leads
  | step way before _ _ ih =>
      refine List.isChain_append.mpr ⟨ih before, by simp, ?_⟩
      intro last isLast next isNext
      simp at isLast isNext
      subst isLast isNext
      exact leads

/-- The walk below the end of a way only meets what ways lead to. -/
theorem isMet_of_mem_visits (way : IsWay shorthands isProperty path owner)
    (leads : ∀ target ∈ targets, isProperty target = false →
      LeadsTo shorthands isProperty owner target)
    (met : visit ∈ visits shorthands isProperty path owner targets) :
    visit.IsMet shorthands isProperty := by
  induction path, owner, targets using visits.induct shorthands isProperty with
  | case1 path owner => simp at met
  | case2 path owner target rest isOne ih =>
      rw [visits_of_property isOne] at met
      exact ih way (fun target later => leads target (List.mem_cons_of_mem _ later)) met
  | case3 path owner target rest notOne innerIH restIH =>
      rw [visits_of_not_property notOne] at met
      have leadsHere := leads target List.mem_cons_self (Bool.eq_false_iff.mpr notOne)
      rcases List.mem_cons.mp met with rfl | met
      · exact ⟨way, leadsHere⟩
      rcases List.mem_append.mp met with within | later
      · obtain ⟨targets, declared, fresh, within⟩ := (mem_inside_iff visit).mp within
        have known := (Table.mem_keys_iff _ _).mpr ⟨targets, declared⟩
        refine innerIH targets declared fresh (way.step leadsHere known fresh) ?_ within
        intro inner listed notProperty
        exact ⟨targets, declared, listed, notProperty⟩
      · exact restIH way (fun target later => leads target (List.mem_cons_of_mem _ later)) later

/-- The walk below the end of a way is part of the whole walk. -/
theorem visits_subset_walk (way : IsWay shorthands isProperty path owner)
    (declared : shorthands.get? owner = some targets) :
    visits shorthands isProperty path owner targets ⊆ walk shorthands isProperty := by
  induction way generalizing targets with
  | root _ =>
      intro visit met
      exact List.mem_flatMap.mpr ⟨(_, targets), (Table.get?_eq_some_iff _ _ _).mp declared, met⟩
  | step _ leads _ fresh ih =>
      obtain ⟨siblings, ownerDeclared, listed, notOne⟩ := leads
      intro visit met
      refine ih ownerDeclared ((mem_visits_iff visit).mpr ⟨_, listed, notOne, .inr ?_⟩)
      exact (mem_inside_iff visit).mpr ⟨targets, declared, fresh, met⟩

end IsWay

/-- The walk leaves out no edge that a way leads to, and follows no other. -/
theorem mem_walk_iff (visit : Visit) :
    visit ∈ walk shorthands isProperty ↔ visit.IsMet shorthands isProperty := by
  constructor
  · intro met
    obtain ⟨⟨name, targets⟩, listed, met⟩ := List.mem_flatMap.mp met
    have declared := (Table.get?_eq_some_iff _ _ _).mpr listed
    refine (IsWay.root ((Table.mem_keys_iff _ _).mpr ⟨_, declared⟩)).isMet_of_mem_visits ?_ met
    intro target member notOne
    exact ⟨targets, declared, member, notOne⟩
  · intro ⟨way, leads⟩
    obtain ⟨targets, declared, listed, notOne⟩ := leads
    exact way.visits_subset_walk declared
      ((mem_visits_iff visit).mpr ⟨_, listed, notOne, .inl rfl⟩)

/-- The path goes from a declared shorthand along its edges, and its last name is the only one
that comes twice. -/
structure ClosesCycle (shorthands : Table (List String)) (isProperty : String → Bool)
    (path : List String) : Prop where
  two : 2 ≤ path.length
  root : ∃ root ∈ shorthands.keys, path.head? = some root
  chain : path.IsChain (LeadsTo shorthands isProperty)
  distinct : path.dropLast.Nodup
  closed : ∃ name ∈ path.dropLast, path.getLast? = some name

/-- The fault tells of a target that is there, and is what the fault says of it. -/
def IsGenuine (shorthands : Table (List String)) (isProperty : String → Bool) :
    Config.Fault → Prop
  | .unknownShorthandTarget owner target =>
      LeadsTo shorthands isProperty owner target ∧ target ∉ shorthands.keys
  | .shorthandCycle path => ClosesCycle shorthands isProperty path
  | _ => False

theorem Visit.IsMet.isGenuine {visit : Visit} {fault : Config.Fault}
    (met : visit.IsMet shorthands isProperty) (faulty : visit.fault? shorthands = some fault) :
    IsGenuine shorthands isProperty fault := by
  obtain ⟨way, leads⟩ := met
  unfold Visit.fault? at faulty
  split at faulty
  case isTrue declared =>
    split at faulty
    case isTrue visited =>
      cases faulty
      obtain ⟨root, known, first⟩ := way.head?_mem_keys
      constructor
      · have someName := List.length_pos_of_mem visited
        simp only [List.length_append, List.length_singleton]
        omega
      · exact ⟨root, known, by simp [first]⟩
      · exact way.isChain_append leads
      · simpa using way.nodup
      · exact ⟨visit.target, by simpa using visited, by simp⟩
    case isFalse => cases faulty
  case isFalse undeclared =>
    cases faulty
    exact ⟨leads, fun known => undeclared ((Table.contains_iff_mem_keys _ _).mpr known)⟩

/-- The fault is what is wrong at the first faulty visit of the walk: the shorthands declared
before can be expanded, and nothing is wrong at any visit before. -/
def IsFirstFault (shorthands : Table (List String)) (isProperty : String → Bool)
    (fault : Config.Fault) : Prop :=
  ∃ roots name targets others before visit after,
    shorthands.entries = roots ++ (name, targets) :: others ∧
    (∀ root ∈ roots, ∃ properties, expand shorthands isProperty root.1 root.2 = .ok properties) ∧
    visitsFrom shorthands isProperty (name, targets) = before ++ visit :: after ∧
    (∀ earlier ∈ roots.flatMap (visitsFrom shorthands isProperty) ++ before,
      earlier.fault? shorthands = none) ∧
    visit.fault? shorthands = some fault

theorem expandAll_eq_error_iff (fault : Config.Fault) :
    expandAll shorthands isProperty = .error fault ↔
      IsFirstFault shorthands isProperty fault := by
  rw [← fault?_eq_some_iff, fault?_expandAll]
  constructor
  · intro faulty
    obtain ⟨roots, ⟨name, targets⟩, others, sameEntries, stops, earlierRoots⟩ :=
      List.findSome?_eq_some_iff.mp faulty
    rw [← findSome?_visitsFrom] at stops
    obtain ⟨before, visit, after, sameVisits, stopsHere, earlierVisits⟩ :=
      List.findSome?_eq_some_iff.mp stops
    have rootsExpand : ∀ root ∈ roots, ∃ properties,
        expand shorthands isProperty root.1 root.2 = .ok properties :=
      fun root earlier => (fault?_eq_none_iff _).mp (earlierRoots root earlier)
    refine ⟨roots, name, targets, others, before, visit, after, sameEntries, rootsExpand,
      sameVisits, ?_, stopsHere⟩
    intro earlier member
    rcases List.mem_append.mp member with fromRoots | beforeHere
    · obtain ⟨root, isRoot, met⟩ := List.mem_flatMap.mp fromRoots
      exact fault?_eq_none_of_mem_visitsFrom (rootsExpand root isRoot) met
    · exact earlierVisits earlier beforeHere
  · rintro ⟨roots, name, targets, others, before, visit, after, sameEntries, rootsExpand,
      sameVisits, clean, stopsHere⟩
    refine List.findSome?_eq_some_iff.mpr ⟨roots, (name, targets), others, sameEntries, ?_, ?_⟩
    · rw [← findSome?_visitsFrom, sameVisits]
      refine List.findSome?_eq_some_iff.mpr ⟨before, visit, after, rfl, stopsHere, ?_⟩
      exact fun earlier member => clean earlier (List.mem_append_right _ member)
    · exact fun root earlier => (fault?_eq_none_iff _).mpr (rootsExpand root earlier)

theorem IsFirstFault.isGenuine {fault : Config.Fault}
    (first : IsFirstFault shorthands isProperty fault) :
    IsGenuine shorthands isProperty fault := by
  obtain ⟨roots, name, targets, others, before, visit, after, sameEntries, _, sameVisits, _,
    stopsHere⟩ := first
  have met : visit ∈ walk shorthands isProperty := by
    refine List.mem_flatMap.mpr ⟨(name, targets), by simp [sameEntries], ?_⟩
    simp [sameVisits]
  exact ((mem_walk_iff visit).mp met).isGenuine stopsHere

/-- Expansion fails exactly with the first fault on the walk, and this one tells of a target
that is there and undeclared, or of a way that comes back to where it was. The walk meets the
targets that ways lead to, and no others. -/
theorem expandAll_fault (shorthands : Table (List String)) (isProperty : String → Bool) :
    (∀ fault, expandAll shorthands isProperty = .error fault →
      IsGenuine shorthands isProperty fault) ∧
    (∀ fault, expandAll shorthands isProperty = .error fault ↔
      IsFirstFault shorthands isProperty fault) ∧
    ∀ visit, visit ∈ walk shorthands isProperty ↔ visit.IsMet shorthands isProperty := by
  refine ⟨fun fault failed => ?_, expandAll_eq_error_iff, mem_walk_iff⟩
  exact ((expandAll_eq_error_iff fault).mp failed).isGenuine

/-- The walk goes two shorthands deep, and out of one again, before it comes back. -/
theorem expandAll_fault_nested :
    let shorthands := Table.ofList [("fine", ["x"]), ("all", ["fine", "loop"]),
      ("loop", ["back"]), ("back", ["x", "loop", "gone"])]
    let isProperty := fun name => name == "x"
    let path := ["all", "loop", "back", "loop"]
    expandAll shorthands isProperty = .error (.shorthandCycle path) ∧
      ClosesCycle shorthands isProperty path := by
  intro shorthands isProperty path
  have failed : expandAll shorthands isProperty = .error (.shorthandCycle path) := by
    have fine : shorthands.get? "fine" = some ["x"] := by decide +kernel
    have loop : shorthands.get? "loop" = some ["back"] := by decide +kernel
    have back : shorthands.get? "back" = some ["x", "loop", "gone"] := by decide +kernel
    have entries : shorthands.entries = [("fine", ["x"]), ("all", ["fine", "loop"]),
      ("loop", ["back"]), ("back", ["x", "loop", "gone"])] := by decide +kernel
    rw [← fault?_eq_some_iff, fault?_expandAll]
    simp [entries, expand, ← findSome?_visits, visits_of_property, visits_of_not_property, inside,
      Visit.fault?, Table.contains, fine, loop, back, isProperty, path]
  exact ⟨failed, (expandAll_fault shorthands isProperty).1 _ failed⟩

end AtomicCss.Shorthand
