import AtomicCss.Catalog.Basic
import AtomicCss.Proofs.Compilation.Named
import AtomicCss.Proofs.Ident.Spelling
import Mathlib.Data.Set.Function

/-!
# The sites of a configuration

A configuration has a class and a custom property for each dynamic property under each
condition, and a class for each lookup key of each static property under each condition.
Compilation keeps a name at each of these sites exactly once. As a pool never repeats a name,
the naming that compilation finds is injective on the sites, and its names are plain.
-/

set_option autoImplicit false

namespace AtomicCss

namespace Site

def property : Site → String
  | .slotClass property _ => property
  | .slotVariable property _ => property
  | .choiceClass property _ _ => property

def condition : Site → String
  | .slotClass _ condition => condition
  | .slotVariable _ condition => condition
  | .choiceClass _ condition _ => condition

end Site

namespace Config

/-- The sites that a configuration has. -/
def HasSite (config : Config) : Site → Prop
  | .slotClass property condition | .slotVariable property condition =>
      property ∈ config.dynamicProperties.keys ∧ condition ∈ config.conditions.keys
  | .choiceClass property condition key =>
      key ∈ (config.literals property).keys ∧ condition ∈ config.conditions.keys

end Config

/-- Lists that carry different tags share no item, so one after the other they list none twice. -/
theorem nodup_flatMap_of_tag {α β γ : Type} {items : List α} {parts : α → List β}
    (tag : β → γ) (tagOf : α → γ) (distinct : (items.map tagOf).Nodup)
    (each : ∀ item ∈ items, (parts item).Nodup)
    (tagged : ∀ item ∈ items, ∀ part ∈ parts item, tag part = tagOf item) :
    (items.flatMap parts).Nodup := by
  refine List.nodup_flatMap.mpr ⟨each, ?_⟩
  have apart := List.pairwise_map.mp distinct
  refine apart.imp_of_mem fun {first second} firstListed secondListed different => ?_
  intro part inFirst inSecond
  exact different ((tagged first firstListed part inFirst).symm.trans
    (tagged second secondListed part inSecond))

namespace Draw

theorem sites_append (first second : List Draw) :
    sites (first ++ second) = sites first ++ sites second :=
  List.filterMap_append

theorem sites_flatMap {α : Type} (items : List α) (draws : α → List Draw) :
    sites (items.flatMap draws) = items.flatMap fun item => sites (draws item) :=
  List.filterMap_flatMap

end Draw

theorem DynamicScale.sites_slotDraws (property condition : String) :
    Draw.sites (slotDraws property condition) =
      [.slotClass property condition, .slotVariable property condition] := rfl

namespace StaticScale

theorem mem_sites_choiceDraws (property condition : String)
    (entries : List (String × String)) (site : Site) :
    site ∈ Draw.sites (choiceDraws property condition entries) ↔
      ∃ key ∈ entries.map Prod.fst, site = .choiceClass property condition key := by
  induction entries with
  | nil => simp [choiceDraws, Draw.sites]
  | cons entry rest ih =>
      obtain ⟨key, value⟩ := entry
      by_cases later : key ∈ rest.map Prod.fst
      · have dropped : Draw.sites (choiceDraws property condition ((key, value) :: rest)) =
            Draw.sites (choiceDraws property condition rest) := by
          simp [choiceDraws, Draw.sites, later]
        rw [dropped, ih]
        constructor
        · rintro ⟨other, listed, rfl⟩
          exact ⟨other, List.mem_cons_of_mem _ listed, rfl⟩
        · rintro ⟨other, listed, rfl⟩
          rcases List.mem_cons.mp listed with rfl | inRest
          · exact ⟨_, later, rfl⟩
          · exact ⟨other, inRest, rfl⟩
      · have kept : Draw.sites (choiceDraws property condition ((key, value) :: rest)) =
            .choiceClass property condition key ::
              Draw.sites (choiceDraws property condition rest) := by
          simp [choiceDraws, Draw.sites, later]
        rw [kept, List.mem_cons, ih]
        simp only [List.map_cons, List.mem_cons, exists_eq_or_imp]

theorem nodup_sites_choiceDraws (property condition : String)
    (entries : List (String × String)) :
    (Draw.sites (choiceDraws property condition entries)).Nodup := by
  induction entries with
  | nil => exact List.nodup_nil
  | cons entry rest ih =>
      obtain ⟨key, value⟩ := entry
      by_cases later : key ∈ rest.map Prod.fst
      · simpa [choiceDraws, Draw.sites, later] using ih
      · have kept : Draw.sites (choiceDraws property condition ((key, value) :: rest)) =
            .choiceClass property condition key ::
              Draw.sites (choiceDraws property condition rest) := by
          simp [choiceDraws, Draw.sites, later]
        rw [kept, List.nodup_cons]
        refine ⟨fun listed => ?_, ih⟩
        obtain ⟨other, inRest, same⟩ := (mem_sites_choiceDraws _ _ _ _).mp listed
        cases same
        exact later inRest

/-- The draws of a static property. -/
def draws (scale : StaticScale) (property : String) (conditions : Table Scope) : List Draw :=
  conditions.keys.flatMap fun condition => choiceDraws property condition scale.entries

theorem nodup_sites_draws (scale : StaticScale) (property : String) (conditions : Table Scope) :
    (Draw.sites (scale.draws property conditions)).Nodup := by
  rw [draws, Draw.sites_flatMap]
  refine nodup_flatMap_of_tag Site.condition id ?_ (fun _ _ => nodup_sites_choiceDraws _ _ _) ?_
  · rw [List.map_id]
    exact conditions.keysNodup
  · intro condition _ site listed
    obtain ⟨_, _, rfl⟩ := (mem_sites_choiceDraws _ _ _ _).mp listed
    rfl

theorem parts_ne_nil_of_mem_choiceDraws (property condition : String)
    (entries : List (String × String)) :
    ∀ draw ∈ choiceDraws property condition entries, draw.request.parts ≠ [] := by
  induction entries with
  | nil => intro draw listed; cases listed
  | cons entry rest ih =>
      intro draw listed
      rcases List.mem_cons.mp listed with rfl | later
      · exact List.cons_ne_nil _ _
      · exact ih draw later

end StaticScale

namespace Config

theorem mem_sites_dynamicDraws (config : Config) (site : Site) :
    site ∈ Draw.sites config.dynamicDraws ↔
      ∃ property ∈ config.dynamicProperties.keys, ∃ condition ∈ config.conditions.keys,
        site = .slotClass property condition ∨ site = .slotVariable property condition := by
  simp only [dynamicDraws, Draw.sites_flatMap, List.mem_flatMap, DynamicScale.sites_slotDraws,
    List.mem_cons, List.not_mem_nil, or_false]

theorem mem_sites_staticDraws (config : Config) (site : Site) :
    site ∈ Draw.sites config.staticDraws ↔
      ∃ entry ∈ config.staticProperties.entries, ∃ condition ∈ config.conditions.keys,
        ∃ key ∈ entry.2.entries.map Prod.fst, site = .choiceClass entry.1 condition key := by
  simp only [staticDraws, Draw.sites_flatMap, List.mem_flatMap,
    StaticScale.mem_sites_choiceDraws]

theorem mem_keys_literals (config : Config) (property key : String) :
    key ∈ (config.literals property).keys ↔
      ∃ scale, config.staticProperties.get? property = some scale ∧
        key ∈ scale.entries.map Prod.fst := by
  cases isStatic : config.staticProperties.get? property with
  | none =>
      rw [literals_of_not_static isStatic]
      constructor
      · intro listed
        cases listed
      · rintro ⟨_, absent, _⟩
        cases absent
  | some scale =>
      rw [literals_of_static isStatic]
      constructor
      · exact fun listed => ⟨scale, rfl, (Table.mem_keys_ofList _ _).mp listed⟩
      · rintro ⟨_, found, listed⟩
        cases found
        exact (Table.mem_keys_ofList _ _).mpr listed

theorem mem_sites_draws (config : Config) (site : Site) :
    site ∈ Draw.sites config.draws ↔ config.HasSite site := by
  rw [draws, Draw.sites_append, List.mem_append, mem_sites_dynamicDraws, mem_sites_staticDraws]
  cases site with
  | slotClass property condition =>
      constructor
      · rintro (⟨_, isDynamic, _, configured, same | same⟩ | ⟨_, _, _, _, _, _, same⟩)
        all_goals cases same
        exact ⟨isDynamic, configured⟩
      · exact fun ⟨isDynamic, configured⟩ =>
          .inl ⟨property, isDynamic, condition, configured, .inl rfl⟩
  | slotVariable property condition =>
      constructor
      · rintro (⟨_, isDynamic, _, configured, same | same⟩ | ⟨_, _, _, _, _, _, same⟩)
        all_goals cases same
        exact ⟨isDynamic, configured⟩
      · exact fun ⟨isDynamic, configured⟩ =>
          .inl ⟨property, isDynamic, condition, configured, .inr rfl⟩
  | choiceClass property condition key =>
      rw [HasSite, mem_keys_literals]
      constructor
      · rintro (⟨_, _, _, _, same | same⟩ | ⟨entry, listed, _, configured, _, isKey, same⟩)
        all_goals cases same
        exact ⟨⟨entry.2, (Table.get?_eq_some_iff _ _ _).mpr listed, isKey⟩, configured⟩
      · rintro ⟨⟨scale, isStatic, isKey⟩, configured⟩
        exact .inr ⟨(property, scale), (Table.get?_eq_some_iff _ _ _).mp isStatic, condition,
          configured, key, isKey, rfl⟩

theorem nodup_sites_dynamicDraws (config : Config) : (Draw.sites config.dynamicDraws).Nodup := by
  rw [dynamicDraws, Draw.sites_flatMap]
  simp only [Draw.sites_flatMap, DynamicScale.sites_slotDraws]
  refine nodup_flatMap_of_tag Site.property id ?_ (fun property _ => ?_) ?_
  · rw [List.map_id]
    exact config.dynamicProperties.keysNodup
  · refine nodup_flatMap_of_tag Site.condition id ?_ (fun _ _ => by simp) ?_
    · rw [List.map_id]
      exact config.conditions.keysNodup
    · intro condition _ site listed
      rcases List.mem_cons.mp listed with rfl | last
      · rfl
      · rw [List.mem_singleton.mp last]
        rfl
  · intro property _ site listed
    obtain ⟨condition, _, inSlot⟩ := List.mem_flatMap.mp listed
    rcases List.mem_cons.mp inSlot with rfl | last
    · rfl
    · rw [List.mem_singleton.mp last]
      rfl

theorem nodup_sites_staticDraws (config : Config) : (Draw.sites config.staticDraws).Nodup := by
  rw [staticDraws, Draw.sites_flatMap]
  simp only [Draw.sites_flatMap]
  refine nodup_flatMap_of_tag Site.property Prod.fst config.staticProperties.keysNodup
    (fun entry _ => ?_) ?_
  · have distinct := entry.2.nodup_sites_draws entry.1 config.conditions
    rwa [StaticScale.draws, Draw.sites_flatMap] at distinct
  · intro entry _ site listed
    obtain ⟨condition, _, inChoices⟩ := List.mem_flatMap.mp listed
    obtain ⟨_, _, rfl⟩ := (StaticScale.mem_sites_choiceDraws _ _ _ _).mp inChoices
    rfl

theorem nodup_sites_draws (config : Config) : (Draw.sites config.draws).Nodup := by
  rw [draws, Draw.sites_append]
  refine config.nodup_sites_dynamicDraws.append config.nodup_sites_staticDraws ?_
  intro site inDynamic inStatic
  obtain ⟨_, _, _, _, _, _, rfl⟩ := (config.mem_sites_staticDraws site).mp inStatic
  obtain ⟨_, _, _, _, same | same⟩ := (config.mem_sites_dynamicDraws _).mp inDynamic
  all_goals cases same

/-- The naming that compilation finds when it draws from a pool. -/
def naming (config : Config) (pool : IdentPool) : Naming :=
  Naming.ofDrawn config.draws (Draw.names config.draws pool)

theorem naming_follows (config : Config) (pool : IdentPool) :
    (config.naming pool).Follows config.draws (Draw.names config.draws pool) :=
  Naming.ofDrawn_follows (Draw.length_names config.draws pool) config.nodup_sites_draws

theorem compileProperties_eq (config : Config) (pool : IdentPool) :
    config.compileProperties pool =
      (config.propertiesNamed (config.naming pool), Draw.after config.draws pool) :=
  config.compileProperties_performs pool (config.naming pool) (config.naming_follows pool)

/-- The names at different sites differ, since no name is drawn twice. -/
theorem naming_injOn (config : Config) (classPrefix : Option String)
    (romanize : String → String) :
    Set.InjOn (config.naming (.start classPrefix romanize)) {site | config.HasSite site} := by
  have drawn : (Draw.names config.draws (.start classPrefix romanize)).Nodup :=
    IdentPool.nodup_takeAll _ _ List.nodup_nil
  have named := drawn.sublist (config.naming_follows _).sublist
  intro first hasFirst second hasSecond same
  exact List.inj_on_of_nodup_map named ((config.mem_sites_draws first).mpr hasFirst)
    ((config.mem_sites_draws second).mpr hasSecond) same

theorem parts_ne_nil_of_mem_draws (config : Config) (draw : Draw)
    (listed : draw ∈ config.draws) : draw.request.parts ≠ [] := by
  rcases List.mem_append.mp listed with inDynamic | inStatic
  · obtain ⟨property, _, ofProperty⟩ := List.mem_flatMap.mp inDynamic
    obtain ⟨condition, _, inSlot⟩ := List.mem_flatMap.mp ofProperty
    rcases List.mem_cons.mp inSlot with rfl | last
    · exact List.cons_ne_nil _ _
    · rw [List.mem_singleton.mp last]
      exact List.cons_ne_nil _ _
  · obtain ⟨entry, _, ofProperty⟩ := List.mem_flatMap.mp inStatic
    obtain ⟨condition, _, inChoices⟩ := List.mem_flatMap.mp ofProperty
    exact StaticScale.parts_ne_nil_of_mem_choiceDraws _ _ _ draw inChoices

theorem naming_isPlain (config : Config) (classPrefix : Option String)
    (romanize : String → String) (site : Site) (hasSite : config.HasSite site) :
    Ident.IsPlain (config.naming (.start classPrefix romanize) site) := by
  have kept := List.mem_map_of_mem (f := config.naming (.start classPrefix romanize))
    ((config.mem_sites_draws site).mpr hasSite)
  refine IdentPool.takeAll_isPlain (config.draws.map Draw.request) _
    (IdentPool.start_opening_chars classPrefix romanize) ?_ _
    ((config.naming_follows _).sublist.subset kept)
  intro request listed
  obtain ⟨draw, member, rfl⟩ := List.mem_map.mp listed
  exact config.parts_ne_nil_of_mem_draws draw member

end Config

end AtomicCss
