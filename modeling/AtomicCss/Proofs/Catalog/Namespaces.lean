import AtomicCss.Proofs.Catalog.Unescaped

/-!
# Class prefixes as namespaces

What is kept of the class prefix stands at the front of every identifier of a catalog, behind
the two dashes of a custom property, as long as it needs no escape itself. If neither of two
prefixes starts with the other, no text has both at its front. Such catalogs share no
identifier, and props resolved against them have no token and no custom property in common.
-/

set_option autoImplicit false

namespace AtomicCss

open Ident

theorem Ident.disjoint_of_isPrefix {first second : List Char} {left right : List String}
    (apart : ¬ first <+: second) (apartToo : ¬ second <+: first)
    (inLeft : ∀ name ∈ left, first <+: name.toList)
    (inRight : ∀ name ∈ right, second <+: name.toList) : left.Disjoint right := by
  intro name listed listedToo
  exact (List.prefix_or_prefix_of_prefix (inLeft name listed) (inRight name listedToo)).elim
    apart apartToo

namespace Config.CompilesTo

variable {config : Config} {romanize : String → String} {catalog : Catalog}

theorem opening_className
    (compiled : config.CompilesTo (config.naming (.start config.classPrefix romanize)) catalog)
    (noDigit : opensDigit (opening config.classPrefix) = false)
    (some : opening config.classPrefix ≠ []) :
    ∀ className ∈ catalog.classNames, opening config.classPrefix <+: className.toList := by
  intro className listed
  obtain ⟨site, hasSite, isClass, rfl⟩ := (compiled.mem_classNames_iff className).mp listed
  have escaped : BeginsEscaped (front config.classPrefix romanize site.property) _ :=
    beginsEscaped_naming hasSite isClass
  have noEscape : opensDigit (front config.classPrefix romanize site.property) = false := by
    rw [front, opensDigit_append some, noDigit]
  rw [BeginsEscaped, noEscape, if_neg Bool.false_ne_true, List.nil_append] at escaped
  exact (List.prefix_append _ _).trans escaped

theorem opening_variableName
    (compiled : config.CompilesTo (config.naming (.start config.classPrefix romanize)) catalog) :
    ∀ name ∈ catalog.variableNames, '-' :: '-' :: opening config.classPrefix <+: name.toList := by
  intro name listed
  obtain ⟨property, condition, hasSite, rfl⟩ := (compiled.mem_variableNames_iff name).mp listed
  obtain ⟨earlier, due⟩ := config.naming_due config.classPrefix romanize hasSite
  exact (List.prefix_append ('-' :: '-' :: opening config.classPrefix) _).trans
    (IdentPool.Request.isPrefix_variableName due)

end Config.CompilesTo

namespace Catalog

/-- Prefixes of which neither starts with the other, and none with a digit, keep the identifiers
of two catalogs apart, and so what props come to in them. -/
theorem resolve_disjoint {config other : Config} {romanize : String → String}
    {catalog otherCatalog : Catalog} (built : ofConfig config romanize = .ok catalog)
    (builtToo : ofConfig other romanize = .ok otherCatalog)
    (noDigit : opensDigit (opening config.classPrefix) = false)
    (noDigitToo : opensDigit (opening other.classPrefix) = false)
    (apart : ¬ opening config.classPrefix <+: opening other.classPrefix)
    (apartToo : ¬ opening other.classPrefix <+: opening config.classPrefix) :
    catalog.classNames.Disjoint otherCatalog.classNames ∧
    catalog.variableNames.Disjoint otherCatalog.variableNames ∧
    ∀ props otherProps : List (String × PropValue),
      (catalog.resolve props).classes.Disjoint (otherCatalog.resolve otherProps).classes ∧
      ∀ style otherStyle, (catalog.resolve props).style = some style →
        (otherCatalog.resolve otherProps).style = some otherStyle →
          style.keys.Disjoint otherStyle.keys := by
  have compiled := Config.compilesTo_of_ofConfig built
  have compiledToo := Config.compilesTo_of_ofConfig builtToo
  have some : opening config.classPrefix ≠ [] := fun nothing => apart (nothing ▸ List.nil_prefix)
  have someToo : opening other.classPrefix ≠ [] :=
    fun nothing => apartToo (nothing ▸ List.nil_prefix)
  have classNames : catalog.classNames.Disjoint otherCatalog.classNames :=
    disjoint_of_isPrefix apart apartToo (compiled.opening_className noDigit some)
      (compiledToo.opening_className noDigitToo someToo)
  have variableNames : catalog.variableNames.Disjoint otherCatalog.variableNames := by
    refine disjoint_of_isPrefix ?_ ?_ compiled.opening_variableName
      compiledToo.opening_variableName
    · rwa [List.cons_prefix_cons, List.cons_prefix_cons, and_iff_right rfl, and_iff_right rfl]
    · rwa [List.cons_prefix_cons, List.cons_prefix_cons, and_iff_right rfl, and_iff_right rfl]
  refine ⟨classNames, variableNames, fun props otherProps => ⟨?_, ?_⟩⟩
  · intro className listed listedToo
    exact classNames (compiled.classes_resolve_subset props listed)
      (compiledToo.classes_resolve_subset otherProps listedToo)
  · intro style otherStyle styled styledToo key listed listedToo
    exact variableNames (compiled.keys_style_subset styled listed)
      (compiledToo.keys_style_subset styledToo listedToo)

/-- One configuration under two prefixes that begin alike. -/
theorem resolve_disjoint_folded :
    ∃ catalog otherCatalog, ofConfig (Config.folded.withClassPrefix "rs-") = .ok catalog ∧
      ofConfig (Config.folded.withClassPrefix "r-") = .ok otherCatalog ∧
      "rs-2x-base" ∈ catalog.classNames ∧ "rs-2x-base" ∉ otherCatalog.classNames ∧
      ∀ props, (catalog.resolve props).classes.Disjoint (otherCatalog.resolve props).classes := by
  obtain ⟨catalog, built⟩ := Config.folded_builds "rs-"
  obtain ⟨otherCatalog, builtToo⟩ := Config.folded_builds "r-"
  obtain ⟨classNames, _, resolved⟩ := resolve_disjoint built builtToo (by decide +kernel)
    (by decide +kernel) (by decide +kernel) (by decide +kernel)
  have listed : "rs-2x-base" ∈ catalog.classNames := by
    refine ((Config.compilesTo_of_ofConfig built).mem_classNames_iff _).mpr
      ⟨.slotClass "2x" "base", ⟨by decide +kernel, by decide +kernel⟩, rfl, by decide +kernel⟩
  exact ⟨catalog, otherCatalog, built, builtToo, listed, fun there => classNames listed there,
    fun props => (resolved props props).1⟩

end Catalog

end AtomicCss
