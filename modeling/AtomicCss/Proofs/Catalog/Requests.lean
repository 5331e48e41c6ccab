import AtomicCss.Proofs.Catalog.Agreement
import AtomicCss.Proofs.Ident.Opening

/-!
# What identifiers are asked for

The identifier at a site is the one due for a request that the site tells: the property, the
condition and, for a choice, the lookup key. All class names and custom properties of a catalog
that a configuration compiles to stand at such sites, and those of resolved props are among
them.
-/

set_option autoImplicit false

namespace AtomicCss

/-- What the identifier at a site is asked for with. -/
def Site.request : Site → IdentPool.Request
  | .slotClass property condition => .className [property, condition]
  | .slotVariable property condition => .variableName [property, condition]
  | .choiceClass property condition key => .className [property, condition, key]

theorem DynamicScale.request_of_mem_slotDraws {property condition : String} {draw : Draw}
    (listed : draw ∈ slotDraws property condition) {site : Site}
    (located : draw.site = some site) : draw.request = site.request := by
  rcases List.mem_cons.mp listed with rfl | last
  · cases located
    rfl
  · rw [List.mem_singleton.mp last] at located ⊢
    cases located
    rfl

theorem StaticScale.request_of_mem_choiceDraws {property condition : String}
    {entries : List (String × String)} {draw : Draw}
    (listed : draw ∈ choiceDraws property condition entries) {site : Site}
    (located : draw.site = some site) : draw.request = site.request := by
  induction entries with
  | nil => cases listed
  | cons entry rest ih =>
      rcases List.mem_cons.mp listed with rfl | later
      · dsimp only at located
        split at located
        · cases located
        · cases located
          rfl
      · exact ih later

theorem Config.request_of_mem_draws {config : Config} {draw : Draw}
    (listed : draw ∈ config.draws) {site : Site} (located : draw.site = some site) :
    draw.request = site.request := by
  rcases List.mem_append.mp listed with inDynamic | inStatic
  · obtain ⟨property, _, ofProperty⟩ := List.mem_flatMap.mp inDynamic
    obtain ⟨condition, _, inSlot⟩ := List.mem_flatMap.mp ofProperty
    exact DynamicScale.request_of_mem_slotDraws inSlot located
  · obtain ⟨entry, _, ofProperty⟩ := List.mem_flatMap.mp inStatic
    obtain ⟨condition, _, inChoices⟩ := List.mem_flatMap.mp ofProperty
    exact StaticScale.request_of_mem_choiceDraws inChoices located

theorem Draw.names_due (draws : List Draw) (pool : IdentPool) :
    List.Forall₂ (fun draw name => ∃ earlier, IdentPool.Due earlier (draw.request.baseIn pool) name)
      draws (names draws pool) := by
  induction draws generalizing pool with
  | nil => exact .nil
  | cons draw rest ih =>
      rw [names_cons]
      -- a draw changes nothing in the pool but what is taken, so the bases stay the same
      have sameBase (request : IdentPool.Request) :
          request.baseIn (draw.request.take pool).2 = request.baseIn pool := by
        rw [draw.request.take_run]
        exact request.baseIn_congr rfl rfl
      have later := ih (draw.request.take pool).2
      simp only [sameBase] at later
      refine .cons ⟨pool.taken, ?_⟩ later
      rw [draw.request.take_run]
      exact IdentPool.due_freeName _ _

/-- What holds of each draw and its name holds at the site where the name is kept. -/
theorem Naming.Follows.exists_draw {naming : Naming} {draws : List Draw} {names : List String}
    {holds : Draw → String → Prop} (follows : naming.Follows draws names)
    (each : List.Forall₂ holds draws names) {site : Site} (kept : site ∈ Draw.sites draws) :
    ∃ draw ∈ draws, draw.site = some site ∧ holds draw (naming site) := by
  induction follows with
  | nil => cases kept
  | @cons draw name draws names sameName _ ih =>
      obtain ⟨first, later⟩ := List.forall₂_cons.mp each
      by_cases here : draw.site = some site
      · exact ⟨draw, List.mem_cons_self, here, sameName site here ▸ first⟩
      · obtain ⟨other, member, located⟩ := List.mem_filterMap.mp kept
        have inRest : other ∈ draws := (List.mem_cons.mp member).resolve_left
          fun same => here (same ▸ located)
        obtain ⟨found, listed, kept, satisfied⟩ :=
          ih later (List.mem_filterMap.mpr ⟨other, inRest, located⟩)
        exact ⟨found, List.mem_cons_of_mem _ listed, kept, satisfied⟩

theorem Config.naming_due (config : Config) (classPrefix : Option String)
    (romanize : String → String) {site : Site} (hasSite : config.HasSite site) :
    ∃ earlier, IdentPool.Due earlier (site.request.base classPrefix romanize)
      (config.naming (.start classPrefix romanize) site) := by
  obtain ⟨draw, listed, located, earlier, due⟩ :=
    (config.naming_follows (.start classPrefix romanize)).exists_draw (Draw.names_due _ _)
      ((config.mem_sites_draws site).mpr hasSite)
  rw [request_of_mem_draws listed located, IdentPool.Request.baseIn_start] at due
  exact ⟨earlier, due⟩

/-- The classes that a compiled property has, condition by condition. -/
def Property.ownClasses (property : Property) : List String :=
  property.entries.values.flatMap fun entry => entry.classValues.map Prod.fst

def Catalog.classNames (catalog : Catalog) : List String :=
  catalog.properties.values.flatMap Property.ownClasses

def Catalog.variableNames (catalog : Catalog) : List String :=
  catalog.slots.map Slot.variableName

namespace Config

theorem map_fst_classValues (config : Config) (naming : Naming) (property condition : String) :
    (config.entryNamed naming property condition).classValues.map Prod.fst =
      (config.ruleSitesAt property condition).map naming := by
  rw [classValues_entryNamed, ruleSitesAt, List.map_append, List.map_append, Table.keys,
    List.map_map, List.map_map, List.map_map]
  congr 1
  split
  · rfl
  · rfl

theorem mem_ownClasses_iff (config : Config) (naming : Naming) (property className : String) :
    className ∈ (config.propertyNamed naming property).ownClasses ↔
      ∃ site, config.HasSite site ∧ site.isClass = true ∧ site.property = property ∧
        naming site = className := by
  have classes : (config.propertyNamed naming property).ownClasses =
      config.conditions.keys.flatMap fun condition =>
        (config.ruleSitesAt property condition).map naming := by
    rw [Property.ownClasses, propertyNamed, Table.values, Table.mapEntries, List.map_map,
      List.flatMap_map, Table.keys, List.flatMap_map]
    exact List.flatMap_congr fun entry _ => config.map_fst_classValues naming property entry.1
  rw [classes, List.mem_flatMap]
  constructor
  · rintro ⟨condition, configured, named⟩
    obtain ⟨site, there, same⟩ := List.mem_map.mp named
    have hasSite := hasSite_of_mem_ruleSitesAt configured there
    rcases (config.mem_ruleSitesAt_iff _ _ _).mp there with ⟨_, rfl⟩ | ⟨_, _, rfl⟩
    · exact ⟨_, hasSite, rfl, rfl, same⟩
    · exact ⟨_, hasSite, rfl, rfl, same⟩
  · rintro ⟨site, hasSite, isClass, rfl, same⟩
    refine ⟨site.condition, ?_, List.mem_map.mpr ⟨site, ?_, same⟩⟩
    · cases site <;> exact hasSite.2
    · rw [mem_ruleSitesAt_iff]
      cases site with
      | slotClass property condition => exact .inl ⟨hasSite.1, rfl⟩
      | slotVariable property condition => cases isClass
      | choiceClass property condition key => exact .inr ⟨key, hasSite.1, rfl⟩

namespace CompilesTo

variable {config : Config} {naming : Naming} {catalog : Catalog}

theorem mem_classNames_iff (compiled : config.CompilesTo naming catalog) (name : String) :
    name ∈ catalog.classNames ↔
      ∃ site, config.HasSite site ∧ site.isClass = true ∧ naming site = name := by
  rw [Catalog.classNames, compiled.properties, Table.values, propertiesNamed, List.map_map,
    List.flatMap_map, List.mem_flatMap]
  simp only [Function.comp_apply, mem_ownClasses_iff]
  constructor
  · rintro ⟨_, _, site, hasSite, isClass, _, same⟩
    exact ⟨site, hasSite, isClass, same⟩
  · rintro ⟨site, hasSite, isClass, same⟩
    refine ⟨site.property, ?_, site, hasSite, isClass, rfl, same⟩
    cases site with
    | slotClass property condition => exact mem_declared_of_dynamic hasSite.1
    | slotVariable property condition => cases isClass
    | choiceClass property condition key => exact mem_declared_of_mem_literals hasSite.1

theorem mem_variableNames_iff (compiled : config.CompilesTo naming catalog) (name : String) :
    name ∈ catalog.variableNames ↔
      ∃ property condition, config.HasSite (.slotVariable property condition) ∧
        naming (.slotVariable property condition) = name := by
  simp only [Catalog.variableNames, List.mem_map, compiled.mem_slots_iff]
  constructor
  · rintro ⟨_, ⟨property, isDynamic, condition, configured, rfl⟩, rfl⟩
    exact ⟨property, condition, ⟨isDynamic, configured⟩, rfl⟩
  · rintro ⟨property, condition, hasSite, rfl⟩
    exact ⟨_, ⟨property, hasSite.1, condition, hasSite.2, rfl⟩, rfl⟩

theorem classes_resolve_subset (compiled : config.CompilesTo naming catalog)
    (props : List (String × PropValue)) :
    (catalog.resolve props).classes ⊆ catalog.classNames := by
  obtain ⟨reached, walk⟩ := compiled.exists_reaches props
  intro className listed
  rw [compiled.classes_resolve walk] at listed
  obtain ⟨site, used, same⟩ := List.mem_map.mp listed
  obtain ⟨_, _, _, _, _, _, found⟩ := (config.mem_classSites_iff reached site).mp used
  obtain ⟨hasSite, isClass, _⟩ := classSite?_eq_some found
  exact (compiled.mem_classNames_iff className).mpr ⟨site, hasSite, isClass, same⟩

theorem keys_style_subset (compiled : config.CompilesTo naming catalog)
    {props : List (String × PropValue)} {style : Table String}
    (styled : (catalog.resolve props).style = some style) :
    style.keys ⊆ catalog.variableNames := by
  intro key listed
  obtain ⟨slot, ⟨isSlot, same, _⟩, _⟩ := (compiled.serves_resolve props).key style styled key listed
  exact List.mem_map.mpr ⟨slot, isSlot, same⟩

end CompilesTo

end Config

end AtomicCss
