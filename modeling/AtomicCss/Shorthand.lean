import AtomicCss.Config.Fault
import AtomicCss.Table

/-!
# Expansion of shorthands

A shorthand stands for a list of targets, each a property or again a shorthand. Expansion
replaces shorthands by their targets in place, left to right, until only properties are
left. The walk keeps the path of shorthands it is inside of: a target on that path closes a
cycle, and a target off it lengthens the path by a declared shorthand, so the walk ends.
-/

set_option autoImplicit false

namespace AtomicCss.Shorthand

/-- The declared shorthands that are not on the path. -/
def offPath (shorthands : Table (List String)) (path : List String) : List String :=
  shorthands.keys.filter fun name => !path.contains name

private theorem length_filter_lt {names : List String} {before after : String → Bool}
    (weaker : ∀ name, after name = true → before name = true) {name : String}
    (listed : name ∈ names) (kept : before name = true) (dropped : after name = false) :
    (names.filter after).length < (names.filter before).length := by
  induction names with
  | nil => simp at listed
  | cons first rest ih =>
      have restLe : (rest.filter after).length ≤ (rest.filter before).length := by
        rw [← List.countP_eq_length_filter, ← List.countP_eq_length_filter]
        exact List.countP_mono_left fun x _ hx => weaker x hx
      rcases List.mem_cons.mp listed with same | later
      · subst same
        simp only [List.filter_cons, kept, dropped, if_true, List.length_cons]
        simpa using Nat.lt_succ_of_le restLe
      · have shorter := ih later
        by_cases afterFirst : after first = true
        · simpa [List.filter_cons, afterFirst, weaker first afterFirst] using shorter
        · by_cases beforeFirst : before first = true
          · simp only [List.filter_cons, afterFirst, beforeFirst, if_true, List.length_cons]
            exact Nat.lt_succ_of_lt (by simpa using shorter)
          · simpa [List.filter_cons, afterFirst, beforeFirst] using shorter

/-- Stepping into a declared shorthand leaves fewer shorthands off the path. -/
theorem length_offPath_lt {shorthands : Table (List String)} {path : List String}
    {target : String} {targets : List String} (declared : shorthands.get? target = some targets)
    (fresh : ¬ target ∈ path) :
    (offPath shorthands (path ++ [target])).length < (offPath shorthands path).length := by
  have listed : target ∈ shorthands.keys :=
    (shorthands.contains_iff_mem_keys target).mp (by simp [Table.contains, declared])
  refine length_filter_lt (fun name off => ?_) listed (by simpa using fresh) (by simp)
  simp only [List.contains_append, Bool.not_eq_true', Bool.or_eq_false_iff] at off ⊢
  exact off.1

/-- Expands the targets of a shorthand that stands at the end of the path. -/
def expandTargets (shorthands : Table (List String)) (isProperty : String → Bool)
    (path : List String) (owner : String) : List String → Except Config.Fault (List String)
  | [] => .ok []
  | target :: rest =>
      if isProperty target then do
        let others ← expandTargets shorthands isProperty path owner rest
        return target :: others
      else
        match _declared : shorthands.get? target with
        | none => .error (.unknownShorthandTarget owner target)
        | some targets =>
            if _visited : target ∈ path then .error (.shorthandCycle (path ++ [target]))
            else do
              let inner ←
                expandTargets shorthands isProperty (path ++ [target]) target targets
              let others ← expandTargets shorthands isProperty path owner rest
              return inner ++ others
termination_by targets => ((offPath shorthands path).length, targets.length)
decreasing_by
  · exact Prod.Lex.right _ (by simp)
  · exact Prod.Lex.left _ _ (length_offPath_lt _declared _visited)
  · exact Prod.Lex.right _ (by simp)

/-- The properties a declared shorthand stands for. -/
def expand (shorthands : Table (List String)) (isProperty : String → Bool) (name : String)
    (targets : List String) : Except Config.Fault (List String) :=
  expandTargets shorthands isProperty [name] name targets

/-- Expands every shorthand, in the order of declaration. -/
def expandAll (shorthands : Table (List String)) (isProperty : String → Bool) :
    Except Config.Fault (Table (List String)) := do
  let expanded ← shorthands.entries.mapM fun (name, targets) => do
    return (name, ← expand shorthands isProperty name targets)
  return Table.ofList expanded

end AtomicCss.Shorthand
