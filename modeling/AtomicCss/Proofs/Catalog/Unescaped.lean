import AtomicCss.Proofs.Catalog.Requests

/-!
# Identifiers without escapes

All class names are plain, do not begin with a digit and are more than a dash. A class name may
still begin with a dash and a digit, and then it has to be escaped in a style sheet: that is so
just if the prefix is a lone dash and the property begins with a digit, or if the prefix begins
with a dash and a digit itself. Custom properties are two dashes and a plain name.
-/

set_option autoImplicit false

namespace AtomicCss

namespace Ident

/-- Behind a prefix that is no lone dash, the first part cannot add the digit. -/
theorem opensNegative_front {classPrefix : Option String} (noDash : opening classPrefix ≠ ['-'])
    (romanize : String → String) (part : String) :
    opensNegative (front classPrefix romanize part) = opensNegative (opening classPrefix) := by
  rw [front]
  cases kept : opening classPrefix with
  | nil =>
      have notDash := beq_eq_false_iff_ne.mpr (head?_component romanize part)
      rw [List.nil_append, opensNegative, notDash]
      rfl
  | cons c others =>
      cases others with
      | cons second others => rfl
      | nil =>
          have notDash : (c == '-') = false := by
            refine beq_eq_false_iff_ne.mpr fun same => noDash ?_
            rw [kept, same]
          simp [opensNegative, notDash]

theorem isPlain_of_dashes {name : String} {rest : List Char}
    (named : name.toList = '-' :: '-' :: rest) (some : rest ≠ [])
    (chars : ∀ c ∈ name.toList, isIdentChar c = true) :
    ∃ plain, name = "--" ++ plain ∧ IsPlain plain := by
  refine ⟨String.ofList rest, ?_, ?_, ?_⟩
  · rw [← String.toList_inj, String.toList_append, String.toList_ofList (l := rest)]
    exact named
  · intro nothing
    have noChars := congrArg String.toList nothing
    rw [String.toList_ofList] at noChars
    exact some noChars
  · intro c listed
    rw [String.toList_ofList] at listed
    refine chars c ?_
    rw [named]
    exact List.mem_cons_of_mem _ (List.mem_cons_of_mem _ listed)

end Ident

open Ident

namespace Config

variable {config : Config} {classPrefix : Option String} {romanize : String → String}

theorem beginsEscaped_naming {site : Site} (hasSite : config.HasSite site)
    (isClass : site.isClass = true) :
    BeginsEscaped (front classPrefix romanize site.property)
      (config.naming (.start classPrefix romanize) site).toList := by
  obtain ⟨earlier, due⟩ := config.naming_due classPrefix romanize hasSite
  cases site with
  | slotClass property condition => exact IdentPool.Request.beginsEscaped_className due
  | slotVariable property condition => cases isClass
  | choiceClass property condition key => exact IdentPool.Request.beginsEscaped_className due

theorem className_naming {site : Site} (hasSite : config.HasSite site)
    (isClass : site.isClass = true) :
    let className := config.naming (.start classPrefix romanize) site
    IsPlain className ∧ opensDigit className.toList = false ∧ className ≠ "-" ∧
      (IsCssIdent className ↔
        opensNegative (front classPrefix romanize site.property) = false) := by
  intro className
  have plain : IsPlain className := config.naming_isPlain classPrefix romanize site hasSite
  have escaped : BeginsEscaped (front classPrefix romanize site.property) className.toList :=
    beginsEscaped_naming hasSite isClass
  have notDash : className ≠ "-" := fun same => escaped.ne_dash (congrArg String.toList same)
  refine ⟨plain, escaped.noDigit, notDash, ?_⟩
  rw [← escaped.opensNegative_eq]
  constructor
  · exact IsCssIdent.noNegative
  · intro noNegative
    exact { plain with noDigit := escaped.noDigit, noNegative, ne_dash := notDash }

theorem variableName_naming {property condition : String}
    (hasSite : config.HasSite (.slotVariable property condition)) :
    ∃ rest, config.naming (.start classPrefix romanize) (.slotVariable property condition) =
      "--" ++ rest ∧ IsPlain rest := by
  obtain ⟨earlier, due⟩ := config.naming_due classPrefix romanize hasSite
  obtain ⟨more, named⟩ := IdentPool.Request.isPrefix_variableName due
  exact isPlain_of_dashes named.symm (List.append_ne_nil_of_left_ne_nil (front_ne_nil _ _ _) more)
    (config.naming_isPlain classPrefix romanize _ hasSite).chars

end Config

namespace Catalog

/-- The identifiers of a catalog that a configuration compiles to. Class names are plain, begin
with no digit and are more than a dash. They need no escape just if the prefix and the property
do not begin like a negative number; that no property does is up to the prefix, which has to be
more than a dash and not begin like a negative number itself. Custom properties are two dashes
and a plain name whatever the prefix. -/
theorem classNames_unescaped {config : Config} {romanize : String → String} {catalog : Catalog}
    (built : ofConfig config romanize = .ok catalog) :
    (∀ name property, catalog.properties.get? name = some property →
      ∀ className ∈ property.ownClasses,
        IsPlain className ∧ opensDigit className.toList = false ∧ className ≠ "-" ∧
          (IsCssIdent className ↔
            opensNegative (front config.classPrefix romanize name) = false)) ∧
    (opening config.classPrefix ≠ ['-'] ∧ opensNegative (opening config.classPrefix) = false →
      ∀ className ∈ catalog.classNames, IsCssIdent className) ∧
    ∀ variableName ∈ catalog.variableNames,
      ∃ rest, variableName = "--" ++ rest ∧ IsPlain rest := by
  have compiled := Config.compilesTo_of_ofConfig built
  refine ⟨fun name property found className listed => ?_, ?_, fun variableName listed => ?_⟩
  · rw [compiled.properties, Config.get?_propertiesNamed] at found
    split at found
    · cases found
      obtain ⟨site, hasSite, isClass, rfl, rfl⟩ := (config.mem_ownClasses_iff _ _ _).mp listed
      exact Config.className_naming hasSite isClass
    · cases found
  · rintro ⟨noDash, noNegative⟩ className listed
    obtain ⟨site, hasSite, isClass, rfl⟩ := (compiled.mem_classNames_iff className).mp listed
    refine (Config.className_naming hasSite isClass).2.2.2.mpr ?_
    rw [opensNegative_front noDash, noNegative]
  · obtain ⟨property, condition, hasSite, rfl⟩ :=
      (compiled.mem_variableNames_iff variableName).mp listed
    exact Config.variableName_naming hasSite

end Catalog

/-- A configuration with one property, whose name begins with a digit. -/
def Config.folded : Config :=
  ((start "base").withCondition "base" {}).withDynamic "2x" .unrestricted

theorem Config.folded_builds (classPrefix : String) :
    ∃ catalog, Catalog.ofConfig (folded.withClassPrefix classPrefix) = .ok catalog := by
  have hasDefault : folded.conditions.contains folded.defaultCondition = true := by decide +kernel
  exact exists_ofConfig_of_no_shorthands _ hasDefault rfl

namespace Catalog

/-- A prefix that ends before the digit of the property leaves nothing to escape. -/
theorem classNames_unescaped_folded :
    ∃ catalog, ofConfig (Config.folded.withClassPrefix "5%") = .ok catalog ∧
      opening (Config.folded.withClassPrefix "5%").classPrefix ≠ ['-'] ∧
      opensNegative (opening (Config.folded.withClassPrefix "5%").classPrefix) = false ∧
      "_52x-base" ∈ catalog.classNames ∧ IsCssIdent "_52x-base" := by
  obtain ⟨catalog, built⟩ := Config.folded_builds "5%"
  have noDash : opening (Config.folded.withClassPrefix "5%").classPrefix ≠ ['-'] := by
    decide +kernel
  have noNegative : opensNegative (opening (Config.folded.withClassPrefix "5%").classPrefix) =
      false := by decide +kernel
  have listed : "_52x-base" ∈ catalog.classNames := by
    refine ((Config.compilesTo_of_ofConfig built).mem_classNames_iff _).mpr
      ⟨.slotClass "2x" "base", ⟨by decide +kernel, by decide +kernel⟩, rfl, by decide +kernel⟩
  exact ⟨catalog, built, noDash, noNegative, listed,
    (classNames_unescaped built).2.1 ⟨noDash, noNegative⟩ _ listed⟩

/-- A lone dash for a prefix makes a class name that begins like a negative number. -/
theorem not_classNames_unescaped_folded :
    ∃ catalog, ofConfig (Config.folded.withClassPrefix "-") = .ok catalog ∧
      "-2x-base" ∈ catalog.classNames ∧ ¬ IsCssIdent "-2x-base" := by
  obtain ⟨catalog, built⟩ := Config.folded_builds "-"
  have listed : "-2x-base" ∈ catalog.classNames := by
    refine ((Config.compilesTo_of_ofConfig built).mem_classNames_iff _).mpr
      ⟨.slotClass "2x" "base", ⟨by decide +kernel, by decide +kernel⟩, rfl, by decide +kernel⟩
  refine ⟨catalog, built, listed, fun valid => ?_⟩
  have noNegative := valid.noNegative
  revert noNegative
  decide +kernel

end Catalog

end AtomicCss
