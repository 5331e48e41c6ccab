import AtomicCss.Proofs.Catalog.Rules

/-!
# What rules show

A value of a property switches on one rule under each condition. A choice shows its own
literal. A slot shows what the style of the element has at its custom property, and where the
property gets one value only, that is this value with its references replaced.
-/

set_option autoImplicit false

namespace AtomicCss

namespace Catalog

/-- What a rule sets: if it is the rule of a slot, what the style has at its custom property,
else its own value. -/
def shown? (catalog : Catalog) (attributes : Attributes) (rule : Rule) : Option String :=
  match catalog.slots.find? fun slot => slot.className == rule.className with
  | some slot => attributes.style.bind fun style => style.get? slot.variableName
  | none => some rule.value

end Catalog

namespace Config

/-- What a text means as a value of a property: the literal that has it as lookup key, or for
a dynamic property the text with its references replaced. -/
def value? (config : Config) (property text : String) : Option String :=
  match (config.literals property).get? text with
  | some literal => some literal
  | none =>
      if config.dynamicProperties.contains property then
        some (Alias.substitute (config.tokens? property) text)
      else none

/-- The rule that a value of a property switches on under a condition. -/
def ruleFor? (config : Config) (naming : Naming) (property condition : String) (scope : Scope)
    (text : String) : Option Rule :=
  match (config.literals property).get? text with
  | some literal => some (naming.choiceRule property condition scope text literal)
  | none =>
      if config.dynamicProperties.contains property then
        some (naming.slotRule property condition scope)
      else none

/-- A property is reached with one value only. -/
structure SetsOnce (reached : List (String × PropValue)) (property : String)
    (value : PropValue) : Prop where
  isReached : (property, value) ∈ reached
  once : ∀ other, (property, other) ∈ reached → other = value

variable {config : Config} {naming : Naming} {catalog : Catalog}
  {props reached : List (String × PropValue)} {property condition text : String}
  {value : PropValue}

theorem ruleFor?_eq_none {scope : Scope}
    (noRule : config.ruleFor? naming property condition scope text = none) :
    config.classSite? property condition text = none ∧ config.value? property text = none := by
  rw [ruleFor?] at noRule
  rw [classSite?, value?, Table.contains, Table.contains, Table.contains]
  cases isKey : (config.literals property).get? text with
  | some literal => simp [isKey] at noRule
  | none =>
      cases isDynamic : config.dynamicProperties.get? property with
      | some scale => simp [isKey, Table.contains, isDynamic] at noRule
      | none => simp

theorem ruleFor?_eq_some {scope : Scope} {rule : Rule}
    (configured : condition ∈ config.conditions.keys)
    (found : config.ruleFor? naming property condition scope text = some rule) :
    rule ∈ config.rulesAt naming property condition scope ∧
      ∃ site, config.classSite? property condition text = some site ∧
        rule.className = naming site := by
  have known := (Table.contains_iff_mem_keys _ _).mpr configured
  rw [ruleFor?] at found
  rw [rulesAt, classSite?, if_pos known]
  cases isKey : (config.literals property).get? text with
  | some literal =>
      have contained : (config.literals property).contains text = true := by
        rw [Table.contains, isKey]
        rfl
      rw [isKey] at found
      cases found
      rw [if_pos contained]
      refine ⟨List.mem_append_right _ (List.mem_map.mpr ⟨(text, literal), ?_, rfl⟩), _, rfl, rfl⟩
      exact (Table.get?_eq_some_iff _ _ _).mp isKey
  | none =>
      have absent : (config.literals property).contains text = false := by
        rw [Table.contains, isKey]
        rfl
      rw [isKey] at found
      dsimp only at found
      split at found
      · next isDynamic =>
          cases found
          rw [if_pos isDynamic, absent, if_neg Bool.false_ne_true, if_pos isDynamic]
          exact ⟨List.mem_append_left _ (List.mem_singleton_self _), _, rfl, rfl⟩
      · cases found

theorem shown?_choiceRule (compiled : config.CompilesTo naming catalog) (attributes : Attributes)
    (scope : Scope) (literal : String)
    (hasSite : config.HasSite (.choiceClass property condition text)) :
    catalog.shown? attributes (naming.choiceRule property condition scope text literal) =
      some literal := by
  have noSlot : catalog.slots.find? (fun slot => slot.className ==
      (naming.choiceRule property condition scope text literal).className) = none := by
    refine List.find?_eq_none.mpr fun slot isSlot same => ?_
    obtain ⟨other, isDynamic, under, configured, rfl⟩ := (compiled.mem_slots_iff slot).mp isSlot
    have otherSite : config.HasSite (.slotClass other under) := ⟨isDynamic, configured⟩
    cases compiled.injOn otherSite hasSite (eq_of_beq same)
  rw [Catalog.shown?, noSlot]
  rfl

theorem shown?_slotRule (compiled : config.CompilesTo naming catalog) (attributes : Attributes)
    (scope : Scope)
    (hasSite : config.HasSite (.slotClass property condition)) :
    catalog.shown? attributes (naming.slotRule property condition scope) =
      attributes.style.bind fun style =>
        style.get? (naming (.slotVariable property condition)) := by
  have found : catalog.slots.find? (fun slot => slot.className ==
      (naming.slotRule property condition scope).className) =
        some (naming.slot property condition) := by
    cases search : catalog.slots.find? (fun slot => slot.className ==
        (naming.slotRule property condition scope).className) with
    | none =>
        have isSlot := (compiled.mem_slots_iff (naming.slot property condition)).mpr
          ⟨property, hasSite.1, condition, hasSite.2, rfl⟩
        exact absurd (beq_self_eq_true _) (List.find?_eq_none.mp search _ isSlot)
    | some slot =>
        obtain ⟨other, isDynamic, under, configured, rfl⟩ :=
          (compiled.mem_slots_iff slot).mp (List.mem_of_find?_eq_some search)
        have otherSite : config.HasSite (.slotClass other under) := ⟨isDynamic, configured⟩
        have named := List.find?_some search
        cases compiled.injOn otherSite hasSite (eq_of_beq named)
        rfl
  rw [Catalog.shown?, found]
  rfl

/-- The custom property of a slot has what was written to it, as one value takes the slot. -/
theorem get?_style (compiled : config.CompilesTo naming catalog)
    (walk : config.Reaches props reached) (sets : SetsOnce reached property value)
    (given : (condition, text) ∈ value.byCondition config.defaultCondition)
    (located : config.classSite? property condition text = some (.slotClass property condition)) :
    ((catalog.resolve props).style.bind fun style =>
        style.get? (naming (.slotVariable property condition))) =
      some (Alias.substitute (config.tokens? property) text) := by
  rw [compiled.resolve_eq walk, Attributes.get?_style_ofEffects]
  have isWritten := (config.mem_writes_iff naming reached _ _).mpr
    ⟨property, value, sets.isReached, condition, text, given, located, rfl, rfl⟩
  refine Table.get?_ofList_of_forall isWritten fun written listed => ?_
  obtain ⟨other, otherValue, otherReached, under, otherText, otherGiven, otherLocated, same, rfl⟩ :=
    (config.mem_writes_iff naming reached _ _).mp listed
  obtain ⟨rfl, rfl⟩ := compiled.slotVariable_inj located otherLocated same
  cases sets.once otherValue otherReached
  rw [PropValue.mem_byCondition_iff] at given otherGiven
  cases given.symm.trans otherGiven
  rfl

/-- The rule of a value shows what the value means, if the slot of the property has it in the
style where the value takes the slot. -/
theorem shown?_ruleFor? (compiled : config.CompilesTo naming catalog) {attributes : Attributes}
    (configured : condition ∈ config.conditions.keys)
    (styled : config.classSite? property condition text = some (.slotClass property condition) →
      (attributes.style.bind fun style => style.get? (naming (.slotVariable property condition))) =
        some (Alias.substitute (config.tokens? property) text))
    {scope : Scope} {rule : Rule}
    (found : config.ruleFor? naming property condition scope text = some rule) :
    ∃ meant, config.value? property text = some meant ∧
      catalog.shown? attributes rule = some meant := by
  rw [ruleFor?] at found
  rw [value?]
  cases isKey : (config.literals property).get? text with
  | some literal =>
      rw [isKey] at found
      cases found
      have hasSite : config.HasSite (.choiceClass property condition text) :=
        ⟨(Table.mem_keys_iff _ _).mpr ⟨literal, isKey⟩, configured⟩
      exact ⟨literal, rfl, shown?_choiceRule compiled _ scope literal hasSite⟩
  | none =>
      rw [isKey] at found
      dsimp only at found ⊢
      split at found
      · next isDynamic =>
          cases found
          have located : config.classSite? property condition text =
              some (.slotClass property condition) := by
            rw [classSite?, (Table.contains_iff_mem_keys _ _).mpr configured, if_pos rfl,
              Table.contains, isKey, isDynamic]
            rfl
          refine ⟨_, if_pos isDynamic, ?_⟩
          rw [shown?_slotRule compiled _ scope (classSite?_eq_some located).1, styled located]
      · cases found

end Config

end AtomicCss
