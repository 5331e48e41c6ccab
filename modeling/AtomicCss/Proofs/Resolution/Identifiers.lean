import AtomicCss.Proofs.Compilation.Declared
import AtomicCss.Proofs.Resolution.Tokens

/-!
# Identifiers by the names of a configuration

Which requests compilation makes, and in which order, can be told from the names that a
configuration declares. Scopes, tokens, the values behind aliases, the default condition and
shorthands are never asked for. Two configurations with the same names therefore take the same
identifiers from their pools, each at the same site, and a prop that goes straight to a property
switches on the same classes in both.
-/

set_option autoImplicit false

namespace AtomicCss

namespace StaticScale

/-- The draws for the lookup keys of a scale. -/
def keyDraws (property condition : String) : List String → List Draw
  | [] => []
  | key :: rest =>
      { request := .className [property, condition, key]
        site := if key ∈ rest then none else some (.choiceClass property condition key) } ::
        keyDraws property condition rest

theorem choiceDraws_eq (property condition : String) (entries : List (String × String)) :
    choiceDraws property condition entries =
      keyDraws property condition (entries.map Prod.fst) := by
  induction entries with
  | nil => rfl
  | cons entry rest ih =>
      rw [choiceDraws, ih]
      rfl

end StaticScale

namespace Catalog

/-- The identifier that a catalog has at a site. -/
def ident? (catalog : Catalog) : Site → Option String
  | .slotClass property condition =>
      ((catalog.entry? property condition).bind Entry.slot).map Slot.className
  | .slotVariable property condition =>
      ((catalog.entry? property condition).bind Entry.slot).map Slot.variableName
  | .choiceClass property condition key =>
      ((catalog.entry? property condition).bind fun entry =>
        entry.choices.get? key).map Choice.className

end Catalog

namespace Config

/-- The names that a configuration declares. -/
structure Names where
  /-- What identifiers start with. -/
  opening : String
  conditions : List String
  dynamicProperties : List String
  /-- Each static property with its lookup keys. -/
  staticProperties : List (String × List String)
  deriving DecidableEq, Repr

def names (config : Config) : Names where
  opening := (IdentPool.start config.classPrefix).opening
  conditions := config.conditions.keys
  dynamicProperties := config.dynamicProperties.keys
  staticProperties := config.staticProperties.entries.map fun (name, scale) =>
    (name, scale.entries.map Prod.fst)

namespace Names

/-- The pool from which the identifiers are taken. -/
def pool (names : Names) (romanize : String → String) : IdentPool where
  romanize := romanize
  opening := names.opening
  taken := []

/-- The draws of both passes of compilation. -/
def draws (names : Names) : List Draw :=
  (names.dynamicProperties.flatMap fun property =>
    names.conditions.flatMap (DynamicScale.slotDraws property)) ++
  names.staticProperties.flatMap fun (property, keys) =>
    names.conditions.flatMap fun condition => StaticScale.keyDraws property condition keys

def naming (names : Names) (romanize : String → String) : Naming :=
  Naming.ofDrawn names.draws (Draw.names names.draws (names.pool romanize))

def declared (names : Names) : List String :=
  names.dynamicProperties ++
    (names.staticProperties.map Prod.fst).filter (!names.dynamicProperties.contains ·)

end Names

variable {config other : Config} {naming : Naming} {catalog : Catalog}

theorem draws_eq (config : Config) : config.draws = config.names.draws := by
  have static : config.staticDraws = config.names.staticProperties.flatMap fun (property, keys) =>
      config.names.conditions.flatMap fun condition =>
        StaticScale.keyDraws property condition keys := by
    -- this pass alone looks into a scale, and there at nothing but the lookup keys
    rw [staticDraws, names, List.flatMap_map]
    simp only [StaticScale.choiceDraws_eq]
  rw [draws, static]
  rfl

theorem naming_eq (config : Config) (romanize : String → String) :
    config.naming (.start config.classPrefix romanize) = config.names.naming romanize := by
  rw [Config.naming, draws_eq]
  rfl

theorem declared_eq (config : Config) : config.declared = config.names.declared := by
  rw [Names.declared, names, List.map_map]
  rfl

theorem hasSite_iff (config : Config) (site : Site) :
    config.HasSite site ↔ site ∈ Draw.sites config.names.draws := by
  rw [← mem_sites_draws, draws_eq]

/-- A value takes the class of its lookup key where there is one, and else the slot. -/
theorem classSite?_eq_some_iff (config : Config) (property condition text : String)
    (site : Site) :
    config.classSite? property condition text = some site ↔
      config.HasSite site ∧
        (site = .choiceClass property condition text ∨
          site = .slotClass property condition ∧
            ¬ config.HasSite (.choiceClass property condition text)) := by
  constructor
  · intro found
    refine ⟨(classSite?_eq_some found).1, ?_⟩
    simp only [classSite?, Table.contains_iff_mem_keys] at found
    split at found
    · split at found
      · exact .inl (Option.some.inj found).symm
      · next noKey =>
          split at found
          · exact .inr ⟨(Option.some.inj found).symm, fun hasKey => noKey hasKey.1⟩
          · cases found
    · cases found
  · simp only [classSite?, Table.contains_iff_mem_keys]
    rintro ⟨hasSite, rfl | ⟨rfl, noKey⟩⟩
    · rw [if_pos hasSite.2, if_pos hasSite.1]
    · rw [if_pos hasSite.2, if_neg fun isKey => noKey ⟨isKey, hasSite.2⟩, if_pos hasSite.1]

theorem classSite?_congr (same : ∀ site, config.HasSite site ↔ other.HasSite site) :
    config.classSite? = other.classSite? := by
  funext property condition text
  refine Option.ext fun site => ?_
  rw [classSite?_eq_some_iff, classSite?_eq_some_iff]
  simp only [same]

theorem classSites_congr (same : ∀ site, config.HasSite site ↔ other.HasSite site)
    {props : List (String × PropValue)}
    (conditional : ∀ prop ∈ props, ∃ values, prop.2 = .conditional values) :
    config.classSites props = other.classSites props := by
  rw [classSites, classSites, classSite?_congr same]
  refine List.flatMap_congr fun prop listed => ?_
  obtain ⟨values, isConditional⟩ := conditional prop listed
  obtain ⟨name, value⟩ := prop
  -- a plain value would go to the default condition, and the two may differ in that
  cases isConditional
  rfl

namespace CompilesTo

theorem ident?_eq_some_iff (compiled : config.CompilesTo naming catalog) (site : Site)
    (name : String) :
    catalog.ident? site = some name ↔ config.HasSite site ∧ naming site = name := by
  cases site with
  | slotClass property condition =>
      rw [Catalog.ident?, compiled.slot_entry?, HasSite]
      split <;> simp [*, Naming.slot]
  | slotVariable property condition =>
      rw [Catalog.ident?, compiled.slot_entry?, HasSite]
      split <;> simp [*, Naming.slot]
  | choiceClass property condition key =>
      rw [Catalog.ident?, compiled.choice_entry?, HasSite, Table.mem_keys_iff (config.literals _)]
      split <;> simp [*]

theorem classText_resolve (compiled : config.CompilesTo naming catalog)
    {props reached : List (String × PropValue)} (walk : config.Reaches props reached) :
    (catalog.resolve props).classText =
      " ".intercalate ((config.classSites reached).map naming) := by
  rw [compiled.resolve_eq walk, Attributes.ofEffects, map_className_effects]

end CompilesTo

end Config

namespace Catalog

/-- Configurations with the same names have the same identifier at every site, whatever else they
declare, and values by condition of their properties come to the same class text. -/
theorem ident?_eq_of_names {config other : Config} {romanize : String → String}
    {catalog otherCatalog : Catalog} (built : ofConfig config romanize = .ok catalog)
    (builtToo : ofConfig other romanize = .ok otherCatalog)
    (sameNames : config.names = other.names) :
    catalog.properties.keys = otherCatalog.properties.keys ∧
    (∀ site, catalog.ident? site = otherCatalog.ident? site) ∧
    ∀ props : List (String × PropValue),
      (∀ prop ∈ props, prop.1 ∈ catalog.properties.keys ∧
        ∃ values, prop.2 = .conditional values) →
      (catalog.resolve props).classText = (otherCatalog.resolve props).classText := by
  have compiled := Config.compilesTo_of_ofConfig built
  have compiledToo := Config.compilesTo_of_ofConfig builtToo
  rw [Config.naming_eq] at compiled
  rw [Config.naming_eq, ← sameNames] at compiledToo
  have sameSites (site : Site) : config.HasSite site ↔ other.HasSite site := by
    rw [Config.hasSite_iff, Config.hasSite_iff, sameNames]
  have sameKeys : catalog.properties.keys = otherCatalog.properties.keys := by
    rw [compiled.keys_properties, compiledToo.keys_properties, Config.declared_eq,
      Config.declared_eq, sameNames]
  refine ⟨sameKeys, fun site => Option.ext fun name => ?_, fun props known => ?_⟩
  · rw [compiled.ident?_eq_some_iff, compiledToo.ident?_eq_some_iff, sameSites]
  · have walk : config.Reaches props props := .of_isProperty fun prop listed =>
      (config.mem_declared_iff _).mp (compiled.keys_properties ▸ (known prop listed).1)
    have walkToo : other.Reaches props props := .of_isProperty fun prop listed =>
      (other.mem_declared_iff _).mp
        (compiledToo.keys_properties ▸ sameKeys ▸ (known prop listed).1)
    rw [compiled.classText_resolve walk, compiledToo.classText_resolve walkToo,
      Config.classSites_congr sameSites fun prop listed => (known prop listed).2]

end Catalog

/-- A theme, and another one with the same names. -/
def Config.light : Config :=
  let plain := (((start "small").withCondition "small" {}).withCondition "wide"
    { media := some "(min-width: 40em)" }).withClassPrefix "t."
  ((plain.withDynamic "color" (.tokens (Table.ofList [("ink", "#123")]))).withStatic "gap"
    (.aliases (Table.ofList [("s", "4px")]))).withShorthand "shade" ["color"]

def Config.dark : Config :=
  let plain := (((start "wide").withCondition "small" { selector := some ".dark &" }).withCondition
    "wide" {}).withClassPrefix "t"
  (plain.withDynamic "color" .unrestricted).withStatic "gap"
    (.aliases (Table.ofList [("s", "9px")]))

/-- The themes differ in everything but their names. A gap has the same class in both. -/
theorem Catalog.ident?_eq_of_names_themes :
    let gap := [("gap", PropValue.conditional (Table.ofList [("wide", "$s")]))]
    ∃ catalog otherCatalog, ofConfig .light = .ok catalog ∧ ofConfig .dark = .ok otherCatalog ∧
      Config.light.names = Config.dark.names ∧
      otherCatalog.ident? (.choiceClass "gap" "wide" "$s") = some "tgap-wide-s" ∧
      catalog.ident? (.choiceClass "gap" "wide" "$s") = some "tgap-wide-s" ∧
      (catalog.resolve gap).classText = (otherCatalog.resolve gap).classText := by
  intro gap
  obtain ⟨catalog, built⟩ : ∃ catalog, ofConfig .light = .ok catalog :=
    Config.exists_ofConfig_of_ranked _ (fun _ => 0) (by decide +kernel) (by decide +kernel)
      (by decide +kernel)
  obtain ⟨otherCatalog, builtToo⟩ : ∃ catalog, ofConfig .dark = .ok catalog :=
    Config.exists_ofConfig_of_ranked _ (fun _ => 0) (by decide +kernel) (by decide +kernel)
      (by decide +kernel)
  have sameNames : Config.light.names = Config.dark.names := by decide +kernel
  obtain ⟨sameKeys, sameIdents, sameClasses⟩ := ident?_eq_of_names built builtToo sameNames
  have compiled := Config.compilesTo_of_ofConfig builtToo
  rw [Config.naming_eq] at compiled
  have named : otherCatalog.ident? (.choiceClass "gap" "wide" "$s") = some "tgap-wide-s" := by
    rw [compiled.ident?_eq_some_iff]
    exact ⟨⟨by decide +kernel, by decide +kernel⟩, by decide +kernel⟩
  have known : ∀ prop ∈ gap, prop.1 ∈ catalog.properties.keys ∧
      ∃ values, prop.2 = .conditional values := by
    intro prop listed
    rw [List.mem_singleton.mp listed, sameKeys, compiled.keys_properties]
    exact ⟨by decide +kernel, _, rfl⟩
  exact ⟨catalog, otherCatalog, built, builtToo, sameNames, named, (sameIdents _).trans named,
    sameClasses gap known⟩

end AtomicCss
