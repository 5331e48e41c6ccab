import AtomicCss.Proofs.Shorthand.Expansion
import Mathlib.Data.List.Nodup
import Mathlib.Data.List.Perm.Subperm
import Mathlib.Logic.Relation

/-!
# The calls of an expansion

Each shorthand that is met is expanded by a call of its own. The calls share a path, which is
changed in place: a name is put on it before its call and taken off when the call has returned.
They also share the properties found so far. Told step by step, no call has a bound, and what
keeps them from going on forever is that no name on the path is entered again. So the path lists
the shorthands at work, each of them once; calls go no deeper than there are shorthands, and all
of them end. A call that returns leaves the path as it was, and has found the expansion of its
own shorthand.
-/

set_option autoImplicit false

namespace AtomicCss.Shorthand

variable {shorthands : Table (List String)} {isProperty : String → Bool}

/-- A call for a shorthand, with those of its targets that are still to come. -/
structure Call where
  name : String
  rest : List String
  deriving DecidableEq, Repr

/-- The call at work, the calls that wait for it, innermost first, and what all of them share. -/
structure Moment where
  current : Call
  waiting : List Call
  path : List String
  found : List String
  deriving DecidableEq, Repr

namespace Moment

/-- An expansion begins with a call for its own shorthand, which is alone on the path. -/
def start (name : String) (targets : List String) : Moment := ⟨⟨name, targets⟩, [], [name], []⟩

/-- How many calls have begun and not returned. -/
def depth (moment : Moment) : Nat := moment.waiting.length + 1

end Moment

/-- A property is noted, a shorthand off the path is called, and a call without further targets
returns. The one that has waited for it then takes the last name off the path. -/
inductive Step (shorthands : Table (List String)) (isProperty : String → Bool) :
    Moment → Moment → Prop where
  | property {name target : String} {rest path found : List String} {waiting : List Call} :
      isProperty target = true →
      Step shorthands isProperty ⟨⟨name, target :: rest⟩, waiting, path, found⟩
        ⟨⟨name, rest⟩, waiting, path, found ++ [target]⟩
  | call {name target : String} {targets rest path found : List String} {waiting : List Call} :
      isProperty target = false → shorthands.get? target = some targets → target ∉ path →
      Step shorthands isProperty ⟨⟨name, target :: rest⟩, waiting, path, found⟩
        ⟨⟨target, targets⟩, ⟨name, rest⟩ :: waiting, path ++ [target], found⟩
  | back {name : String} {caller : Call} {path found : List String} {waiting : List Call} :
      Step shorthands isProperty ⟨⟨name, []⟩, caller :: waiting, path, found⟩
        ⟨caller, waiting, path.dropLast, found⟩

/-- What ends all calls at once. -/
inductive Stops (shorthands : Table (List String)) (isProperty : String → Bool) :
    Moment → Config.Fault → Prop where
  | undeclared {name target : String} {rest path found : List String} {waiting : List Call} :
      isProperty target = false → shorthands.get? target = none →
      Stops shorthands isProperty ⟨⟨name, target :: rest⟩, waiting, path, found⟩
        (.unknownShorthandTarget name target)
  | cycle {name target : String} {targets rest path found : List String} {waiting : List Call} :
      isProperty target = false → shorthands.get? target = some targets → target ∈ path →
      Stops shorthands isProperty ⟨⟨name, target :: rest⟩, waiting, path, found⟩
        (.shorthandCycle (path ++ [target]))

/-- A step after which these calls still wait. -/
def StepInside (shorthands : Table (List String)) (isProperty : String → Bool)
    (waiting : List Call) (before after : Moment) : Prop :=
  Step shorthands isProperty before after ∧ waiting <:+ after.waiting

/-- The call at work at the first moment has come to its end at the second, and its callers have
waited all the time between. -/
structure Returns (shorthands : Table (List String)) (isProperty : String → Bool)
    (entry exit : Moment) : Prop where
  run : Relation.ReflTransGen (StepInside shorthands isProperty entry.waiting) entry exit
  alone : exit.waiting = entry.waiting
  finished : exit.current.rest = []

/-- The call at work at the moment is stopped by the fault. -/
def Fails (shorthands : Table (List String)) (isProperty : String → Bool) (entry : Moment)
    (fault : Config.Fault) : Prop :=
  ∃ last, Relation.ReflTransGen (StepInside shorthands isProperty entry.waiting) entry last ∧
    Stops shorthands isProperty last fault

/-- A moment of the expansion of a declared shorthand, with all targets of the call at work
still to come. -/
structure IsCall (shorthands : Table (List String)) (isProperty : String → Bool)
    (entry : Moment) : Prop where
  begins : shorthands.get? entry.current.name = some entry.current.rest
  made : ∃ root targets, shorthands.get? root = some targets ∧
    Relation.ReflTransGen (Step shorthands isProperty) (.start root targets) entry

theorem step_rightUnique : Relator.RightUnique (Step shorthands isProperty) := by
  intro before first second left right
  cases left with
  | property isOne =>
      cases right with
      | property => rfl
      | call notOne => cases isOne.symm.trans notOne
  | call notOne declared _ =>
      cases right with
      | property isOne => cases isOne.symm.trans notOne
      | call _ found _ =>
          cases declared.symm.trans found
          rfl
  | back =>
      cases right
      rfl

theorem stepInside_rightUnique (waiting : List Call) :
    Relator.RightUnique (StepInside shorthands isProperty waiting) :=
  fun _ _ _ left right => step_rightUnique left.1 right.1

theorem Stops.not_step {moment after : Moment} {fault : Config.Fault}
    (stops : Stops shorthands isProperty moment fault) :
    ¬ Step shorthands isProperty moment after := by
  intro step
  cases stops with
  | undeclared notOne missing =>
      cases step with
      | property isOne => cases isOne.symm.trans notOne
      | call _ declared _ => cases missing.symm.trans declared
  | cycle notOne _ visited =>
      cases step with
      | property isOne => cases isOne.symm.trans notOne
      | call _ _ fresh => exact fresh visited

/-- When no target is left, the only step is out of the call. -/
theorem not_stepInside_of_finished {moment after : Moment} (finished : moment.current.rest = []) :
    ¬ StepInside shorthands isProperty moment.waiting moment after := by
  intro ⟨step, inside⟩
  cases step with
  | property => cases finished
  | call => cases finished
  | back =>
      have shorter := inside.length_le
      exact Nat.not_succ_le_self _ shorter

/-- The path lists the calls at work, outermost first. It lists declared shorthands, none of
them twice. -/
structure Moment.IsStacked (shorthands : Table (List String)) (moment : Moment) : Prop where
  lists : moment.path = (moment.waiting.map Call.name).reverse ++ [moment.current.name]
  distinct : moment.path.Nodup
  declared : moment.path ⊆ shorthands.keys

namespace Moment.IsStacked

variable {moment after : Moment}

theorem start {root : String} {targets : List String}
    (declared : shorthands.get? root = some targets) :
    (Moment.start root targets).IsStacked shorthands where
  lists := rfl
  distinct := List.nodup_singleton root
  declared := by
    have listed := (Table.mem_keys_iff _ _).mpr ⟨targets, declared⟩
    exact List.cons_subset.mpr ⟨listed, List.nil_subset _⟩

theorem step (stacked : moment.IsStacked shorthands)
    (step : Step shorthands isProperty moment after) : after.IsStacked shorthands := by
  obtain ⟨lists, distinct, known⟩ := stacked
  cases step with
  | property => exact ⟨lists, distinct, known⟩
  | @call name target targets rest path found waiting notOne declared fresh =>
      constructor
      · simp only [List.map_cons, List.reverse_cons] at lists ⊢
        rw [lists]
      · rw [← List.concat_eq_append]
        exact distinct.concat fresh
      · have listed := (Table.mem_keys_iff _ _).mpr ⟨targets, declared⟩
        exact List.append_subset.mpr ⟨known, List.cons_subset.mpr ⟨listed, List.nil_subset _⟩⟩
  | back =>
      constructor
      · -- the last name is that of the call that returns, and its caller stands before it
        simp only [List.map_cons, List.reverse_cons] at lists
        rw [lists, List.dropLast_concat]
      · exact distinct.sublist (List.dropLast_sublist _)
      · exact fun name onPath => known ((List.dropLast_subset _) onPath)

theorem run (stacked : moment.IsStacked shorthands)
    (run : Relation.ReflTransGen (Step shorthands isProperty) moment after) :
    after.IsStacked shorthands := by
  induction run with
  | refl => exact stacked
  | tail _ last ih => exact ih.step last

theorem getLast?_path (stacked : moment.IsStacked shorthands) :
    moment.path.getLast? = some moment.current.name := by
  rw [stacked.lists, List.getLast?_concat]

theorem depth_eq (stacked : moment.IsStacked shorthands) :
    moment.depth = moment.path.length := by
  rw [stacked.lists, Moment.depth]
  simp

/-- Were there more calls at work than shorthands, one would be on the path twice. -/
theorem depth_le (stacked : moment.IsStacked shorthands) : moment.depth ≤ shorthands.size := by
  have within := (stacked.distinct.subperm stacked.declared).length_le
  rw [Table.keys, List.length_map] at within
  rw [stacked.depth_eq]
  exact within

end Moment.IsStacked

theorem IsCall.isStacked {entry : Moment} (call : IsCall shorthands isProperty entry) :
    entry.IsStacked shorthands := by
  obtain ⟨_, root, targets, declared, run⟩ := call
  exact (Moment.IsStacked.start declared).run run

theorem run_of_cons {caller : Call} {waiting : List Call} {before after : Moment}
    (run : Relation.ReflTransGen (StepInside shorthands isProperty (caller :: waiting))
      before after) :
    Relation.ReflTransGen (StepInside shorthands isProperty waiting) before after := by
  apply Relation.ReflTransGen.mono _ _ _ run
  intro first second step
  exact ⟨step.1, (List.suffix_cons caller waiting).trans step.2⟩

/-- A call that goes through all its targets on the path it was given is followed by its caller
on the path before. -/
theorem run_of_call {owner target : String} {targets rest path found later : List String}
    {waiting : List Call} (notOne : ¬isProperty target = true)
    (declared : shorthands.get? target = some targets) (fresh : target ∉ path)
    (run : Relation.ReflTransGen (StepInside shorthands isProperty (⟨owner, rest⟩ :: waiting))
      ⟨⟨target, targets⟩, ⟨owner, rest⟩ :: waiting, path ++ [target], found⟩
      ⟨⟨target, []⟩, ⟨owner, rest⟩ :: waiting, path ++ [target], later⟩) :
    Relation.ReflTransGen (StepInside shorthands isProperty waiting)
      ⟨⟨owner, target :: rest⟩, waiting, path, found⟩
      ⟨⟨owner, rest⟩, waiting, path, later⟩ := by
  have back : StepInside shorthands isProperty waiting
      ⟨⟨target, []⟩, ⟨owner, rest⟩ :: waiting, path ++ [target], later⟩
      ⟨⟨owner, rest⟩, waiting, (path ++ [target]).dropLast, later⟩ :=
    ⟨.back, List.suffix_rfl⟩
  rw [List.dropLast_concat] at back
  apply Relation.ReflTransGen.head
  · exact ⟨.call (Bool.eq_false_iff.mpr notOne) declared fresh, List.suffix_cons _ _⟩
  · exact (run_of_cons run).tail back

/-- Where expansion succeeds, the call goes through all its targets. -/
theorem run_of_expandTargets {path : List String} {owner : String}
    {targets properties : List String}
    (success : expandTargets shorthands isProperty path owner targets = .ok properties)
    (waiting : List Call) (found : List String) :
    Relation.ReflTransGen (StepInside shorthands isProperty waiting)
      ⟨⟨owner, targets⟩, waiting, path, found⟩
      ⟨⟨owner, []⟩, waiting, path, found ++ properties⟩ := by
  fun_induction expandTargets shorthands isProperty path owner targets
    generalizing properties waiting found with
  | case1 path owner =>
      cases success
      rw [List.append_nil]
  | case2 path owner target rest isOne ih =>
      obtain ⟨others, expanded, same⟩ := bind_eq_ok success
      cases same
      have later := ih expanded waiting (found ++ [target])
      rw [List.append_assoc] at later
      exact .head ⟨.property isOne, List.suffix_rfl⟩ later
  | case3 path owner target rest notOne undeclared => cases success
  | case4 path owner target rest notOne targets declared visited => cases success
  | case5 path owner target rest notOne targets declared fresh innerIH restIH =>
      obtain ⟨inner, innerExpanded, success⟩ := bind_eq_ok success
      obtain ⟨others, restExpanded, same⟩ := bind_eq_ok success
      cases same
      have called := run_of_call notOne declared fresh
        (innerIH innerExpanded (⟨owner, rest⟩ :: waiting) found)
      have later := restIH restExpanded waiting (found ++ inner)
      rw [List.append_assoc] at later
      exact called.trans later

/-- Where expansion fails, its fault stops the call or one inside of it. -/
theorem fails_of_expandTargets {path : List String} {owner : String} {targets : List String}
    {fault : Config.Fault}
    (failure : expandTargets shorthands isProperty path owner targets = .error fault)
    (waiting : List Call) (found : List String) :
    Fails shorthands isProperty ⟨⟨owner, targets⟩, waiting, path, found⟩ fault := by
  fun_induction expandTargets shorthands isProperty path owner targets
    generalizing waiting found with
  | case1 path owner => cases failure
  | case2 path owner target rest isOne ih =>
      rcases bind_eq_error failure with failure | ⟨others, _, success⟩
      · obtain ⟨last, run, stops⟩ := ih failure waiting (found ++ [target])
        exact ⟨last, .head ⟨.property isOne, List.suffix_rfl⟩ run, stops⟩
      · cases success
  | case3 path owner target rest notOne undeclared =>
      cases failure
      exact ⟨_, .refl, .undeclared (Bool.eq_false_iff.mpr notOne) undeclared⟩
  | case4 path owner target rest notOne targets declared visited =>
      cases failure
      exact ⟨_, .refl, .cycle (Bool.eq_false_iff.mpr notOne) declared visited⟩
  | case5 path owner target rest notOne targets declared fresh innerIH restIH =>
      rcases bind_eq_error failure with failure | ⟨inner, expanded, failure⟩
      · obtain ⟨last, run, stops⟩ := innerIH failure (⟨owner, rest⟩ :: waiting) found
        refine ⟨last, .head ⟨.call (Bool.eq_false_iff.mpr notOne) declared fresh, ?_⟩ ?_, stops⟩
        · exact List.suffix_cons _ _
        · exact run_of_cons run
      · rcases bind_eq_error failure with failure | ⟨others, _, success⟩
        · obtain ⟨last, run, stops⟩ := restIH failure waiting (found ++ inner)
          have called := run_of_call notOne declared fresh
            (run_of_expandTargets expanded (⟨owner, rest⟩ :: waiting) found)
          exact ⟨last, called.trans run, stops⟩
        · cases success

section Ends

variable {moment first second entry exit : Moment}

/-- As only one step is possible at each moment, runs without a next step end in one moment. -/
theorem eq_of_runs {waiting : List Call}
    (left : Relation.ReflTransGen (StepInside shorthands isProperty waiting) moment first)
    (right : Relation.ReflTransGen (StepInside shorthands isProperty waiting) moment second)
    (firstLast : ∀ after, ¬ StepInside shorthands isProperty waiting first after)
    (secondLast : ∀ after, ¬ StepInside shorthands isProperty waiting second after) :
    first = second := by
  have joined := Relation.ReflTransGen.total_of_right_unique
    (stepInside_rightUnique waiting) left right
  rw [Relation.reflTransGen_iff_eq firstLast, Relation.reflTransGen_iff_eq secondLast] at joined
  rcases joined with same | same
  · exact same.symm
  · exact same

theorem acc_of_run (run : Relation.ReflTransGen (Step shorthands isProperty) moment first)
    (last : ∀ after, ¬ Step shorthands isProperty first after) :
    Acc (Function.swap (Step shorthands isProperty)) moment := by
  -- from the last moment backwards: the step of the run is the only one from each moment before
  induction run using Relation.ReflTransGen.head_induction_on with
  | refl =>
      apply Acc.intro
      intro after step
      exact absurd step (last after)
  | head step _ ih =>
      apply Acc.intro
      intro after other
      rw [step_rightUnique other step]
      exact ih

theorem acc_start (name : String) (targets : List String) :
    Acc (Function.swap (Step shorthands isProperty)) (.start name targets) := by
  cases result : expandTargets shorthands isProperty [name] name targets with
  | ok properties =>
      have run := run_of_expandTargets result [] []
      apply acc_of_run (Relation.ReflTransGen.mono (fun _ _ step => step.1) _ _ run)
      intro after step
      cases step
  | error fault =>
      obtain ⟨last, run, stops⟩ := fails_of_expandTargets result [] []
      apply acc_of_run (Relation.ReflTransGen.mono (fun _ _ step => step.1) _ _ run)
      intro after step
      exact stops.not_step step

theorem acc_of_reached (ends : Acc (Function.swap (Step shorthands isProperty)) moment)
    (run : Relation.ReflTransGen (Step shorthands isProperty) moment first) :
    Acc (Function.swap (Step shorthands isProperty)) first := by
  induction run with
  | refl => exact ends
  | tail _ step ih => exact ih.inv step

theorem IsCall.acc (call : IsCall shorthands isProperty entry) :
    Acc (Function.swap (Step shorthands isProperty)) entry := by
  obtain ⟨root, targets, _, run⟩ := call.made
  exact acc_of_reached (acc_start root targets) run

theorem returns_or_fails (entry : Moment) :
    (∃ exit, Returns shorthands isProperty entry exit) ∨
      ∃ fault, Fails shorthands isProperty entry fault := by
  obtain ⟨⟨name, targets⟩, waiting, path, found⟩ := entry
  cases result : expandTargets shorthands isProperty path name targets with
  | ok properties => exact .inl ⟨_, run_of_expandTargets result waiting found, rfl, rfl⟩
  | error fault => exact .inr ⟨fault, fails_of_expandTargets result waiting found⟩

/-- A call that returns has put nothing on the path that it has not taken off. -/
theorem Returns.exists_properties (returns : Returns shorthands isProperty entry exit) :
    ∃ properties,
      expandTargets shorthands isProperty entry.path entry.current.name entry.current.rest =
        .ok properties ∧
      exit = ⟨⟨entry.current.name, []⟩, entry.waiting, entry.path, entry.found ++ properties⟩ := by
  obtain ⟨run, alone, finished⟩ := returns
  -- neither this run nor the one that expansion tells of goes on inside of the call
  have exitLast : ∀ after, ¬ StepInside shorthands isProperty entry.waiting exit after := by
    intro after
    rw [← alone]
    exact not_stepInside_of_finished finished
  cases result :
      expandTargets shorthands isProperty entry.path entry.current.name entry.current.rest with
  | ok properties =>
      refine ⟨properties, rfl, eq_of_runs run ?_ exitLast fun _ => not_stepInside_of_finished rfl⟩
      exact run_of_expandTargets result entry.waiting entry.found
  | error fault =>
      obtain ⟨last, stopped, stops⟩ := fails_of_expandTargets result entry.waiting entry.found
      have same := eq_of_runs run stopped exitLast fun _ step => stops.not_step step.1
      rw [same] at finished
      cases stops <;> cases finished

end Ends

section Alone

variable {path shorter targets properties : List String} {owner : String}

theorem expandTargets_of_property {target : String} {rest : List String}
    (isOne : isProperty target = true) :
    expandTargets shorthands isProperty path owner (target :: rest) = do
      let others ← expandTargets shorthands isProperty path owner rest
      return target :: others := by
  rw [expandTargets, if_pos isOne]

theorem expandTargets_of_fresh {target : String} {rest : List String}
    (notOne : ¬isProperty target = true) (declared : shorthands.get? target = some targets)
    (fresh : target ∉ path) :
    expandTargets shorthands isProperty path owner (target :: rest) = do
      let inner ← expandTargets shorthands isProperty (path ++ [target]) target targets
      let others ← expandTargets shorthands isProperty path owner rest
      return inner ++ others := by
  rw [expandTargets, if_neg notOne]
  split
  · rename_i missing
    cases missing.symm.trans declared
  · rename_i found known
    cases known.symm.trans declared
    rw [dif_neg fresh]

/-- With less on the path there are fewer cycles to close, and nothing else changes. -/
theorem expandTargets_of_subset
    (success : expandTargets shorthands isProperty path owner targets = .ok properties)
    (within : shorter ⊆ path) :
    expandTargets shorthands isProperty shorter owner targets = .ok properties := by
  fun_induction expandTargets shorthands isProperty path owner targets
    generalizing properties shorter with
  | case1 path owner =>
      rw [expandTargets]
      exact success
  | case2 path owner target rest isOne ih =>
      obtain ⟨others, expanded, same⟩ := bind_eq_ok success
      rw [expandTargets_of_property isOne, ih expanded within]
      exact same
  | case3 path owner target rest notOne undeclared => cases success
  | case4 path owner target rest notOne targets declared visited => cases success
  | case5 path owner target rest notOne targets declared fresh innerIH restIH =>
      obtain ⟨inner, innerExpanded, success⟩ := bind_eq_ok success
      obtain ⟨others, restExpanded, same⟩ := bind_eq_ok success
      -- both paths grow by the same name, so the one stays within the other
      have innerWithin : shorter ++ [target] ⊆ path ++ [target] :=
        List.append_subset.mpr ⟨List.subset_append_of_subset_left _ within,
          List.subset_append_right _ _⟩
      rw [expandTargets_of_fresh notOne declared (fun onPath => fresh (within onPath)),
        innerIH innerExpanded innerWithin, restIH restExpanded within]
      exact same

/-- In an expansion, a call finds what the shorthand stands for by itself. -/
theorem IsCall.of_returns {entry exit : Moment} (call : IsCall shorthands isProperty entry)
    (returns : Returns shorthands isProperty entry exit) :
    exit.path = entry.path ∧ ∃ properties,
      expand shorthands isProperty entry.current.name entry.current.rest = .ok properties ∧
        exit.found = entry.found ++ properties := by
  obtain ⟨properties, expanded, rfl⟩ := returns.exists_properties
  refine ⟨rfl, properties, expandTargets_of_subset expanded ?_, rfl⟩
  rw [call.isStacked.lists]
  exact List.subset_append_right _ _

end Alone

theorem returns_of_expandAll {expanded : Table (List String)}
    (success : expandAll shorthands isProperty = .ok expanded) {root : String}
    {targets : List String} (declared : shorthands.get? root = some targets) :
    ∃ exit, Returns shorthands isProperty (.start root targets) exit ∧
      expanded.get? root = some exit.found := by
  have passes := (fault?_eq_none_iff _).mpr ⟨expanded, success⟩
  rw [fault?_expandAll, List.findSome?_eq_none_iff] at passes
  have listed := (Table.get?_eq_some_iff _ _ _).mp declared
  obtain ⟨properties, expands⟩ := (fault?_eq_none_iff _).mp (passes (root, targets) listed)
  obtain ⟨others, known, standing⟩ := (expandAll_expands success).2 root targets declared
  rw [known, standing.unique (expandTargets_expands expands)]
  exact ⟨_, ⟨run_of_expandTargets expands [] [], rfl, rfl⟩, rfl⟩

theorem fails_of_expandAll {fault : Config.Fault}
    (failure : expandAll shorthands isProperty = .error fault) :
    ∃ root targets, shorthands.get? root = some targets ∧
      Fails shorthands isProperty (.start root targets) fault := by
  rw [← fault?_eq_some_iff, fault?_expandAll] at failure
  obtain ⟨⟨root, targets⟩, listed, stopped⟩ := List.exists_of_findSome?_eq_some failure
  refine ⟨root, targets, (Table.get?_eq_some_iff _ _ _).mpr listed, ?_⟩
  exact fails_of_expandTargets ((fault?_eq_some_iff _ _).mp stopped) [] []

/-- At every call of an expansion, whatever cycles there are among the shorthands, the path lists
declared shorthands, none twice and the one that is called last, and there are no more calls at
work than shorthands. No run goes on forever: the call returns or is stopped. When it returns, the
path is what it was, and behind the properties found before stand those that the shorthand expands
to by itself. What the calls for all shorthands come to is what the expansion of all gives. -/
theorem expandAll_calls (shorthands : Table (List String)) (isProperty : String → Bool) :
    (∀ entry, IsCall shorthands isProperty entry →
      entry.path.Nodup ∧ entry.path ⊆ shorthands.keys ∧
      entry.path.getLast? = some entry.current.name ∧
      entry.depth = entry.path.length ∧ entry.depth ≤ shorthands.size ∧
      Acc (Function.swap (Step shorthands isProperty)) entry ∧
      ((∃ exit, Returns shorthands isProperty entry exit) ∨
        ∃ fault, Fails shorthands isProperty entry fault) ∧
      ∀ exit, Returns shorthands isProperty entry exit →
        exit.path = entry.path ∧ ∃ properties,
          expand shorthands isProperty entry.current.name entry.current.rest = .ok properties ∧
            exit.found = entry.found ++ properties) ∧
    (∀ expanded, expandAll shorthands isProperty = .ok expanded →
      ∀ root targets, shorthands.get? root = some targets →
        ∃ exit, Returns shorthands isProperty (.start root targets) exit ∧
          expanded.get? root = some exit.found) ∧
    ∀ fault, expandAll shorthands isProperty = .error fault →
      ∃ root targets, shorthands.get? root = some targets ∧
        Fails shorthands isProperty (.start root targets) fault := by
  refine ⟨fun entry call => ?_, fun expanded success root targets => returns_of_expandAll success,
    fun fault => fails_of_expandAll⟩
  have stacked := call.isStacked
  exact ⟨stacked.distinct, stacked.declared, stacked.getLast?_path, stacked.depth_eq,
    stacked.depth_le, call.acc, returns_or_fails entry, fun exit => call.of_returns⟩

/-- The second call for a shorthand, in an expansion that a cycle stops later on. -/
theorem expandAll_calls_cyclic :
    let shorthands := Table.ofList [("all", ["pair", "x", "pair", "loop"]), ("pair", ["y", "x"]),
      ("loop", ["all"])]
    let isProperty := fun name => name == "x" || name == "y"
    let entry : Moment := ⟨⟨"pair", ["y", "x"]⟩, [⟨"all", ["loop"]⟩], ["all", "pair"],
      ["y", "x", "x"]⟩
    let exit : Moment := ⟨⟨"pair", []⟩, [⟨"all", ["loop"]⟩], ["all", "pair"],
      ["y", "x", "x", "y", "x"]⟩
    IsCall shorthands isProperty entry ∧ Returns shorthands isProperty entry exit ∧
      entry.depth ≤ shorthands.size ∧ exit.path = entry.path ∧
      expand shorthands isProperty "pair" ["y", "x"] = .ok ["y", "x"] := by
  intro shorthands isProperty entry exit
  have all : shorthands.get? "all" = some ["pair", "x", "pair", "loop"] := by decide +kernel
  have pair : shorthands.get? "pair" = some ["y", "x"] := by decide +kernel
  have run : Relation.ReflTransGen (Step shorthands isProperty)
      (.start "all" ["pair", "x", "pair", "loop"]) entry :=
    .head (.call rfl pair (by decide)) <| .head (.property rfl) <| .head (.property rfl) <|
      .head .back <| .head (.property rfl) <| .head (.call rfl pair (by decide)) .refl
  have call : IsCall shorthands isProperty entry := ⟨pair, "all", _, all, run⟩
  have returns : Returns shorthands isProperty entry exit :=
    ⟨.head ⟨.property rfl, List.suffix_rfl⟩ (.single ⟨.property rfl, List.suffix_rfl⟩), rfl, rfl⟩
  obtain ⟨_, _, _, _, bounded, _, _, clean⟩ :=
    (expandAll_calls shorthands isProperty).1 entry call
  obtain ⟨samePath, properties, expanded, found⟩ := clean exit returns
  have sameFound : entry.found ++ ["y", "x"] = entry.found ++ properties := found
  rw [← List.append_cancel_left sameFound] at expanded
  exact ⟨call, returns, bounded, samePath, expanded⟩

end AtomicCss.Shorthand
