import AtomicCss.Proofs.Resolution.Tokens
import Mathlib.Data.List.DropRight

/-!
# References to tokens

A reference spells an alias of word characters and dashes that ends in a word character, and
takes all of it. A value that is nothing but such a reference is therefore written as the
token, or as the negated token. The scale of a property may have aliases of other forms; no
value refers to them.
-/

set_option autoImplicit false

namespace AtomicCss

namespace Alias

/-- An alias that references can spell. -/
structure IsSpelled (key : List Char) : Prop where
  chars : ∀ c ∈ key, isAliasChar c = true
  last : key.getLast?.any Text.isWord = true

theorem IsSpelled.ne_nil {key : List Char} (spelled : IsSpelled key) : key ≠ [] := by
  rintro rfl
  cases spelled.last

theorem aliasAt_eq_rdropWhile (text : List Char) :
    aliasAt text = (text.takeWhile isAliasChar).rdropWhile fun c => !Text.isWord c := rfl

theorem IsSpelled.aliasAt_eq {key : List Char} (spelled : IsSpelled key) :
    aliasAt key = key := by
  rw [aliasAt_eq_rdropWhile, List.takeWhile_eq_self_iff.mpr spelled.chars,
    List.rdropWhile_eq_self_iff]
  intro some
  have last := spelled.last
  rw [List.getLast?_eq_some_getLast some, Option.any_some] at last
  simp [last]

theorem isSpelled_aliasAt {text : List Char} (some : aliasAt text ≠ []) :
    IsSpelled (aliasAt text) where
  chars := by
    intro c listed
    rw [aliasAt_eq_rdropWhile] at listed
    exact List.mem_takeWhile_imp ((List.rdropWhile_prefix _ _).subset listed)
  last := by
    have ended := List.rdropWhile_last_not (fun c => !Text.isWord c)
      (text.takeWhile isAliasChar) some
    rw [List.getLast?_eq_some_getLast some, Option.any_some]
    rw [Bool.not_eq_true', Bool.not_eq_false] at ended
    exact ended

theorem isSpelled_of_referenceAt? {text key : List Char} {negated : Bool}
    (found : referenceAt? text = some (negated, key)) : IsSpelled key := by
  rw [referenceAt?.eq_def] at found
  split at found
  · split at found
    · cases found
    · next some =>
        cases found
        exact isSpelled_aliasAt fun empty => some (List.isEmpty_iff.mpr empty)
  · split at found
    · cases found
    · next some =>
        cases found
        exact isSpelled_aliasAt fun empty => some (List.isEmpty_iff.mpr empty)
  · cases found

theorem isSpelled_of_mem_pieces {text key : List Char} {negated : Bool}
    (listed : .reference negated key ∈ pieces text) : IsSpelled key := by
  rw [pieces] at listed
  generalize 0 = skip at listed
  fun_induction piecesAfter skip text with
  | case1 skip => cases listed
  | case2 skip c rest ih => exact ih listed
  | case3 c rest negated key found ih =>
      rcases List.mem_cons.mp listed with here | later
      · cases here
        exact isSpelled_of_referenceAt? found
      · exact ih later
  | case4 c rest none ih =>
      rcases List.mem_cons.mp listed with here | later
      · cases here
      · exact ih later

/-- The token of an alias that no reference spells has no part in any value. -/
theorem substitute_insert_of_not_isSpelled (tokens : Table String) {unused : String}
    (unspelled : ¬ IsSpelled unused.toList) (token value : String) :
    substitute (some (tokens.insert unused token)) value = substitute (some tokens) value := by
  refine congrArg String.ofList (List.flatMap_congr fun piece listed => ?_)
  cases piece with
  | character c => rfl
  | reference negated key =>
      have different : String.ofList key ≠ unused := by
        rintro rfl
        rw [String.toList_ofList] at unspelled
        exact unspelled (isSpelled_of_mem_pieces listed)
      rw [Piece.substituted, Piece.substituted, Table.get?_insert, if_neg different]

theorem piecesAfter_length (text : List Char) : piecesAfter text.length text = [] := by
  induction text with
  | nil => rfl
  | cons c rest ih => exact ih

theorem referenceAt?_written {key : List Char} (spelled : IsSpelled key) (negated : Bool) :
    referenceAt? (Piece.reference negated key).written = some (negated, key) := by
  cases negated with
  | false => simp [Piece.written, referenceAt?, spelled.aliasAt_eq, spelled.ne_nil]
  | true => simp [Piece.written, referenceAt?, spelled.aliasAt_eq, spelled.ne_nil]

/-- A written reference is read as that reference and nothing else. -/
theorem pieces_written {key : List Char} (spelled : IsSpelled key) (negated : Bool) :
    pieces (Piece.reference negated key).written = [.reference negated key] := by
  have found := referenceAt?_written spelled negated
  cases negated with
  | false =>
      rw [Piece.written] at found ⊢
      rw [pieces, piecesAfter, found]
      dsimp only
      rw [referenceTail, if_neg Bool.false_ne_true, piecesAfter_length]
  | true =>
      rw [Piece.written] at found ⊢
      rw [pieces, piecesAfter, found]
      dsimp only
      rw [referenceTail, if_pos rfl, piecesAfter, piecesAfter_length]

theorem substitute_written {tokens : Table String} {key token : String}
    (spelled : IsSpelled key.toList) (listed : tokens.get? key = some token)
    (negated : Bool) :
    substitute (some tokens) (String.ofList (Piece.reference negated key.toList).written) =
      if negated then "calc(" ++ token ++ " * -1)" else token := by
  rw [substitute, String.toList_ofList, substituteChars, pieces_written spelled,
    List.flatMap_singleton, Piece.substituted, String.ofList_toList, listed]
  dsimp only
  split
  · exact String.ofList_toList
  · exact String.ofList_toList

theorem substitute_dollar {tokens : Table String} {key token : String}
    (spelled : IsSpelled key.toList) (listed : tokens.get? key = some token) :
    substitute (some tokens) ("$" ++ key) = token := by
  have written : "$" ++ key = String.ofList (Piece.reference false key.toList).written := by
    simp [Piece.written]
  rw [written, substitute_written spelled listed, if_neg Bool.false_ne_true]

theorem substitute_dash_dollar {tokens : Table String} {key token : String}
    (spelled : IsSpelled key.toList) (listed : tokens.get? key = some token) :
    substitute (some tokens) ("-$" ++ key) = "calc(" ++ token ++ " * -1)" := by
  have written : "-$" ++ key = String.ofList (Piece.reference true key.toList).written := by
    rw [← String.toList_inj]
    simp [Piece.written]
  rw [written, substitute_written spelled listed, if_pos rfl]

end Alias

namespace Catalog

def slot? (catalog : Catalog) (property condition : String) : Option Slot :=
  ((catalog.properties.get? property).bind fun found =>
    found.entries.get? condition).bind Entry.slot

/-- Given for a condition, a value of a property writes a text to the custom property of the
slot and nothing else. -/
def Writes (catalog : Catalog) (property condition value text : String) : Prop :=
  ∃ slot, catalog.slot? property condition = some slot ∧
    (catalog.resolve [(property, .conditional (Table.ofList [(condition, value)]))]).style =
      some (Table.ofList [(slot.variableName, text)])

theorem Writes.unique {catalog : Catalog} {property condition value first second : String}
    (left : catalog.Writes property condition value first)
    (right : catalog.Writes property condition value second) : first = second := by
  obtain ⟨slot, isSlot, styled⟩ := left
  obtain ⟨other, isOther, styledToo⟩ := right
  cases isSlot.symm.trans isOther
  have sameEntries := congrArg Table.entries (Option.some.inj (styled.symm.trans styledToo))
  exact congrArg Prod.snd (List.singleton_inj.mp sameEntries)

end Catalog

namespace Config.CompilesTo

variable {config : Config} {naming : Naming} {catalog : Catalog} {property condition : String}

theorem slot?_eq (compiled : config.CompilesTo naming catalog)
    (isDynamic : property ∈ config.dynamicProperties.keys)
    (configured : condition ∈ config.conditions.keys) :
    catalog.slot? property condition = some (naming.slot property condition) :=
  (compiled.slot_entry? property condition).trans (if_pos ⟨isDynamic, configured⟩)

/-- A value that has no class of its own is written to the slot of a dynamic property, its
references replaced. -/
theorem writes_substitute (compiled : config.CompilesTo naming catalog)
    (isDynamic : property ∈ config.dynamicProperties.keys)
    (configured : condition ∈ config.conditions.keys) {value : String}
    (noKey : value ∉ (config.literals property).keys) :
    catalog.Writes property condition value
      (Alias.substitute (config.tokens? property) value) := by
  have isProperty : config.isProperty property = true :=
    (config.mem_declared_iff property).mp (List.mem_append_left _ isDynamic)
  have walk : config.Reaches
      [(property, .conditional (Table.ofList [(condition, value)]))]
      [(property, .conditional (Table.ofList [(condition, value)]))] :=
    .followed (.property isProperty .nil) .nil
  have effect : config.effect? naming property condition value =
      some { className := naming (.slotClass property condition)
             write := some (naming (.slotVariable property condition),
               Alias.substitute (config.tokens? property) value) } := by
    rw [← Table.contains_iff_mem_keys, Bool.not_eq_true] at noKey
    rw [effect?, (Table.contains_iff_mem_keys _ _).mpr configured, noKey,
      (Table.contains_iff_mem_keys _ _).mpr isDynamic]
    rfl
  have effects : config.effects naming
      [(property, .conditional (Table.ofList [(condition, value)]))] =
        (config.effect? naming property condition value).toList := by
    change ([(condition, value)].filterMap fun given =>
      config.effect? naming property given.1 given.2) ++ [] = _
    rw [effect]
    simp [effect]
  refine ⟨naming.slot property condition, compiled.slot?_eq isDynamic configured, ?_⟩
  rw [compiled.resolve_eq walk, effects, effect]
  rfl

end Config.CompilesTo

/-- Tokens with aliases of all forms. -/
def Config.steps : Table String :=
  Table.ofList [("1", "4px"), ("1.5", "6px"), ("-2x", "8px"), ("x-", "1px")]

/-- A configuration with these tokens, beside a static scale of the same property. -/
def Config.stepped : Config :=
  (((start "small").withCondition "small" {}).withDynamic "gap" (.tokens steps)).withStatic "gap"
    (.aliases (Table.ofList [("1", "2px")]))

theorem Config.stepped_builds : ∃ catalog, Catalog.ofConfig stepped = .ok catalog :=
  exists_ofConfig_of_no_shorthands _ (by decide +kernel) rfl

namespace Catalog

/-- Every alias that references can spell can be used: as the value of a dynamic property the
reference is written as the token, the negated reference as the negated token. -/
theorem writes_token {config : Config} {romanize : String → String} {catalog : Catalog}
    (built : ofConfig config romanize = .ok catalog) {property condition key token : String}
    {tokens : Table String}
    (isDynamic : config.dynamicProperties.get? property = some (.tokens tokens))
    (configured : condition ∈ config.conditions.keys) (listed : tokens.get? key = some token)
    (spelled : Alias.IsSpelled key.toList) :
    ("$" ++ key ∉ (config.literals property).keys →
      catalog.Writes property condition ("$" ++ key) token) ∧
    ("-$" ++ key ∉ (config.literals property).keys →
      catalog.Writes property condition ("-$" ++ key) ("calc(" ++ token ++ " * -1)")) := by
  have compiled := Config.compilesTo_of_ofConfig built
  have isKnown : property ∈ config.dynamicProperties.keys :=
    (Table.mem_keys_iff _ _).mpr ⟨_, isDynamic⟩
  have named : config.tokens? property = some tokens :=
    (config.tokens?_eq_some_iff property tokens).mpr isDynamic
  constructor
  · intro noKey
    have writes := compiled.writes_substitute isKnown configured noKey
    rwa [named, Alias.substitute_dollar spelled listed] at writes
  · intro noKey
    have writes := compiled.writes_substitute isKnown configured noKey
    rwa [named, Alias.substitute_dash_dollar spelled listed] at writes

/-- A dash may stand at the front of an alias, and a reference may be negated where the plain
one is a lookup key. -/
theorem writes_token_stepped :
    ∃ catalog, ofConfig .stepped = .ok catalog ∧
      catalog.Writes "gap" "small" "$-2x" "8px" ∧
      catalog.Writes "gap" "small" "-$-2x" "calc(8px * -1)" ∧
      "$1" ∈ (Config.stepped.literals "gap").keys ∧
      catalog.Writes "gap" "small" "-$1" "calc(4px * -1)" := by
  obtain ⟨catalog, built⟩ := Config.stepped_builds
  have isDynamic : Config.stepped.dynamicProperties.get? "gap" = some (.tokens Config.steps) := by
    decide +kernel
  have configured : "small" ∈ Config.stepped.conditions.keys := by decide +kernel
  have dashed : Config.steps.get? "-2x" = some "8px" := by decide +kernel
  have digit : Config.steps.get? "1" = some "4px" := by decide +kernel
  have dashedWrites := writes_token built isDynamic configured dashed
    ⟨List.all_eq_true.mp (by decide +kernel), by decide +kernel⟩
  have digitWrites := writes_token built isDynamic configured digit
    ⟨List.all_eq_true.mp (by decide +kernel), by decide +kernel⟩
  exact ⟨catalog, built, dashedWrites.1 (by decide +kernel), dashedWrites.2 (by decide +kernel),
    by decide +kernel, digitWrites.2 (by decide +kernel)⟩

/-- An alias with a dot is read up to the dot, and one with a dash at its end not at all. -/
theorem not_writes_token_stepped :
    ∃ catalog, ofConfig .stepped = .ok catalog ∧
      Config.stepped.dynamicProperties.get? "gap" = some (.tokens Config.steps) ∧
      "small" ∈ Config.stepped.conditions.keys ∧
      (Config.steps.get? "1.5" = some "6px" ∧ "$1.5" ∉ (Config.stepped.literals "gap").keys ∧
        catalog.Writes "gap" "small" "$1.5" "4px.5" ∧
        ¬ catalog.Writes "gap" "small" "$1.5" "6px") ∧
      Config.steps.get? "x-" = some "1px" ∧ "$x-" ∉ (Config.stepped.literals "gap").keys ∧
      catalog.Writes "gap" "small" "$x-" "$x-" ∧
      ¬ catalog.Writes "gap" "small" "$x-" "1px" := by
  obtain ⟨catalog, built⟩ := Config.stepped_builds
  have compiled := Config.compilesTo_of_ofConfig built
  have isDynamic : Config.stepped.dynamicProperties.get? "gap" = some (.tokens Config.steps) := by
    decide +kernel
  have configured : "small" ∈ Config.stepped.conditions.keys := by decide +kernel
  have noDotKey : "$1.5" ∉ (Config.stepped.literals "gap").keys := by decide +kernel
  have noDashKey : "$x-" ∉ (Config.stepped.literals "gap").keys := by decide +kernel
  have isKnown : "gap" ∈ Config.stepped.dynamicProperties.keys := by decide +kernel
  have cut : Alias.substitute (Config.stepped.tokens? "gap") "$1.5" = "4px.5" := by
    decide +kernel
  have kept : Alias.substitute (Config.stepped.tokens? "gap") "$x-" = "$x-" := by decide +kernel
  have writesCut := compiled.writes_substitute isKnown configured noDotKey
  have writesKept := compiled.writes_substitute isKnown configured noDashKey
  rw [cut] at writesCut
  rw [kept] at writesKept
  refine ⟨catalog, built, isDynamic, configured,
    ⟨by decide +kernel, noDotKey, writesCut, fun whole => ?_⟩,
    by decide +kernel, noDashKey, writesKept, fun whole => ?_⟩
  · exact absurd (writesCut.unique whole) (by decide)
  · exact absurd (writesKept.unique whole) (by decide)

end Catalog

end AtomicCss
