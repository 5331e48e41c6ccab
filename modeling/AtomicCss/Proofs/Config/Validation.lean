import AtomicCss.Proofs.Compilation.Catalog

/-!
# Validation of configurations

Which configurations are valid, which fault counts where there are several, and that nothing
can go wrong once a configuration is valid. Compilation expands the shorthands a second time
and then asks the compiled properties which names are properties; as these are the declared
ones, it finds the same expansions.
-/

set_option autoImplicit false

namespace AtomicCss.Config

/-- What makes a configuration valid. -/
structure WellFormed (config : Config) : Prop where
  hasConditions : config.conditions.keys ≠ []
  hasDefault : config.defaultCondition ∈ config.conditions.keys
  unshadowed : ∀ name ∈ config.shorthands.keys, config.isProperty name = false
  closed : Shorthand.Closed config.shorthands config.isProperty
  acyclic : Shorthand.Acyclic config.shorthands config.isProperty

/-- The fault that counts: each kind only where there is none of an earlier kind, and of the
shorthands named like a property the first one. -/
inductive FirstFault (config : Config) : Fault → Prop where
  | noConditions : config.conditions.keys = [] → FirstFault config .noConditions
  | unknownDefault :
      config.conditions.keys ≠ [] → config.defaultCondition ∉ config.conditions.keys →
      FirstFault config (.unknownDefaultCondition config.defaultCondition)
  | shadowing {before after : List String} {name : String} :
      config.defaultCondition ∈ config.conditions.keys →
      config.shorthands.keys = before ++ name :: after →
      (∀ earlier ∈ before, config.isProperty earlier = false) →
      config.isProperty name = true →
      FirstFault config (.shorthandShadowsProperty name)
  | expansion {fault : Fault} :
      config.defaultCondition ∈ config.conditions.keys →
      (∀ name ∈ config.shorthands.keys, config.isProperty name = false) →
      Shorthand.expandAll config.shorthands config.isProperty = .error fault →
      FirstFault config fault

theorem firstFault_of_validate {config : Config} {fault : Fault}
    (failure : config.validate = .error fault) : config.FirstFault fault := by
  rw [validate] at failure
  split at failure
  · next noConditions =>
      cases failure
      exact .noConditions ((Table.isEmpty_iff _).mp noConditions)
  · next someConditions =>
      rw [Table.isEmpty_iff] at someConditions
      split at failure
      · next noDefault =>
          cases failure
          refine .unknownDefault someConditions fun listed => ?_
          rw [(Table.contains_iff_mem_keys _ _).mpr listed] at noDefault
          cases noDefault
      · next hasDefault =>
          rw [Bool.not_eq_true', Bool.not_eq_false, Table.contains_iff_mem_keys] at hasDefault
          split at failure
          · next name found =>
              cases failure
              obtain ⟨shadows, before, after, sameKeys, earlier⟩ :=
                List.find?_eq_some_iff_append.mp found
              refine .shadowing hasDefault sameKeys (fun name listed => ?_) shadows
              simpa using earlier name listed
          · next noneShadows =>
              cases expansion : Shorthand.expandAll config.shorthands config.isProperty with
              | ok expanded =>
                  rw [expansion] at failure
                  cases failure
              | error other =>
                  rw [expansion] at failure
                  cases failure
                  exact .expansion hasDefault (fun name listed =>
                    Bool.eq_false_iff.mpr (List.find?_eq_none.mp noneShadows name listed)) expansion

theorem FirstFault.validate_eq {config : Config} {fault : Fault}
    (counts : config.FirstFault fault) : config.validate = .error fault := by
  cases counts with
  | noConditions none =>
      rw [validate, (Table.isEmpty_iff _).mpr none]
      rfl
  | unknownDefault some absent =>
      rw [← Table.contains_iff_mem_keys, Bool.not_eq_true] at absent
      rw [validate, Bool.eq_false_iff.mpr (mt (Table.isEmpty_iff _).mp some), absent]
      rfl
  | @shadowing before after name hasDefault sameKeys earlier shadows =>
      have found : config.shorthands.keys.find? config.isProperty = some name :=
        List.find?_eq_some_iff_append.mpr
          ⟨shadows, before, after, sameKeys, fun name listed => by simp [earlier name listed]⟩
      rw [validate, Table.isEmpty_of_mem_keys hasDefault,
        (Table.contains_iff_mem_keys _ _).mpr hasDefault, found]
      rfl
  | expansion hasDefault unshadowed failure =>
      have noneShadows : config.shorthands.keys.find? config.isProperty = none :=
        List.find?_eq_none.mpr fun name listed => Bool.eq_false_iff.mp (unshadowed name listed)
      rw [validate, Table.isEmpty_of_mem_keys hasDefault,
        (Table.contains_iff_mem_keys _ _).mpr hasDefault, noneShadows, failure]
      rfl

theorem validate_eq_ok_iff_wellFormed (config : Config) :
    config.validate = .ok () ↔ config.WellFormed := by
  rw [validate_eq_ok_iff, Table.contains_iff_mem_keys, Shorthand.exists_expandAll_iff]
  constructor
  · rintro ⟨hasDefault, unshadowed, closed, acyclic⟩
    exact ⟨List.ne_nil_of_mem hasDefault, hasDefault, unshadowed, closed, acyclic⟩
  · rintro ⟨_, hasDefault, unshadowed, closed, acyclic⟩
    exact ⟨hasDefault, unshadowed, closed, acyclic⟩

/-- Compilation fails with the fault of validation, and never after it. -/
theorem ofConfig_eq_error_iff (config : Config) (romanize : String → String) (fault : Fault) :
    Catalog.ofConfig config romanize = .error fault ↔ config.validate = .error fault := by
  cases valid : config.validate with
  | error other =>
      have failed : Catalog.ofConfig config romanize = .error other := by
        rw [Catalog.ofConfig, valid]
        rfl
      rw [failed, Except.error.injEq, Except.error.injEq]
  | ok done =>
      obtain ⟨catalog, built⟩ := exists_ofConfig romanize valid
      rw [built]
      constructor
      · intro failure
        cases failure
      · intro failure
        cases failure

/-- Validation is complete: compilation fails just if validation does, and with the same
fault; a configuration is valid just if it is well-formed; and otherwise the fault that counts
is the one reported. -/
theorem validation_complete (config : Config) (romanize : String → String) :
    (∀ fault, Catalog.ofConfig config romanize = .error fault ↔
      config.validate = .error fault) ∧
    (config.validate = .ok () ↔ config.WellFormed) ∧
    ∀ fault, config.validate = .error fault ↔ config.FirstFault fault :=
  ⟨config.ofConfig_eq_error_iff romanize, config.validate_eq_ok_iff_wellFormed,
    fun _ => ⟨firstFault_of_validate, FirstFault.validate_eq⟩⟩

end AtomicCss.Config
