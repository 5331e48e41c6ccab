import AtomicCss.Proofs.Compilation.Sites
import Mathlib.Data.List.Flatten

/-!
# Values that a static scale lists twice

Compilation takes a class from the pool for each item of a list of values, and keeps for each
value the class taken last. A value listed twice is therefore given another class than it would
have otherwise, while its first one stays taken and is used nowhere. In all else the property
is the one compiled from the list without repetitions.
-/

set_option autoImplicit false

namespace AtomicCss

section Repetitions

theorem eraseDups_sublist (list : List String) : list.eraseDups.Sublist list := by
  cases list with
  | nil => simp
  | cons first rest =>
      rw [List.eraseDups_cons]
      exact ((eraseDups_sublist _).trans List.filter_sublist).cons_cons first
termination_by list.length
decreasing_by exact Nat.lt_succ_of_le (List.length_filter_le _ _)

theorem nodup_eraseDups (list : List String) : list.eraseDups.Nodup := by
  cases list with
  | nil => simp
  | cons first rest =>
      rw [List.eraseDups_cons, List.nodup_cons]
      exact ⟨by simp, nodup_eraseDups _⟩
termination_by list.length
decreasing_by exact Nat.lt_succ_of_le (List.length_filter_le _ _)

theorem eraseDups_eq_self_iff (list : List String) : list.eraseDups = list ↔ list.Nodup := by
  constructor
  · intro same
    exact same ▸ nodup_eraseDups list
  · intro distinct
    have within : list ⊆ list.eraseDups := fun value listed => List.mem_eraseDups.mpr listed
    exact (eraseDups_sublist list).eq_of_length_le (distinct.subperm within).length_le

/-- A repeated value has a last place, and is met before. -/
theorem exists_last_place {list : List String} {value : String}
    (repeated : 2 ≤ list.count value) :
    ∃ before after, list = before ++ value :: after ∧ value ∈ before ∧ value ∉ after := by
  have listed : value ∈ list.reverse := by
    rw [List.mem_reverse, ← List.count_pos_iff]
    omega
  obtain ⟨after, before, reverseSplit, last⟩ := List.eq_append_cons_of_mem listed
  have listSplit : list = before.reverse ++ value :: after.reverse := by
    rw [← list.reverse_reverse, reverseSplit]
    simp
  refine ⟨before.reverse, after.reverse, listSplit, ?_, by simpa using last⟩
  have never := List.count_eq_zero.mpr last
  rw [listSplit] at repeated
  simp only [List.count_append, List.count_cons_self, List.count_reverse] at repeated
  rw [List.mem_reverse, ← List.count_pos_iff]
  omega

/-- The items up to the first place of a repeated value, without repetitions, are all met
before its last place. -/
theorem exists_places {list : List String} {value : String} (repeated : 2 ≤ list.count value) :
    ∃ before after first others,
      list = before ++ value :: after ∧ value ∉ after ∧
      list.eraseDups = first ++ value :: others ∧ value ∉ others ∧
      (first ++ [value]).Sublist before := by
  obtain ⟨before, after, listSplit, isBefore, last⟩ := exists_last_place repeated
  obtain ⟨first, others, firstSplit⟩ := List.append_of_mem (List.mem_eraseDups.mpr isBefore)
  have onceSplit : list.eraseDups =
      first ++ value :: (others ++ ((value :: after).removeAll before).eraseDups) := by
    rw [listSplit, List.eraseDups_append, firstSplit, List.append_assoc, List.cons_append]
  refine ⟨before, after, first, _, listSplit, last, onceSplit, ?_, ?_⟩
  · have distinct := nodup_eraseDups list
    rw [onceSplit] at distinct
    exact (List.nodup_cons.mp distinct.of_append_right).1
  · refine List.Sublist.trans ?_ (eraseDups_sublist before)
    simp [firstSplit]

end Repetitions

namespace StaticScale

/-- The naming that a static property finds when it draws from a pool. -/
def naming (scale : StaticScale) (property : String) (conditions : Table Scope)
    (pool : IdentPool) : Naming :=
  Naming.ofDrawn (scale.draws property conditions)
    (Draw.names (scale.draws property conditions) pool)

theorem naming_follows (scale : StaticScale) (property : String) (conditions : Table Scope)
    (pool : IdentPool) :
    (scale.naming property conditions pool).Follows (scale.draws property conditions)
      (Draw.names (scale.draws property conditions) pool) :=
  Naming.ofDrawn_follows (Draw.length_names _ pool) (scale.nodup_sites_draws property conditions)

theorem compile_eq (scale : StaticScale) (property : String) (conditions : Table Scope)
    (pool : IdentPool) :
    scale.compile property conditions.keys pool =
      (scale.named (scale.naming property conditions pool) conditions property,
        Draw.after (scale.draws property conditions) pool) :=
  scale.compile_performs property conditions pool _ (scale.naming_follows _ _ _)

/-- The classes that are asked for under a condition, by lookup key. -/
def classRequests (property condition : String) (keys : List String) : List IdentPool.Request :=
  keys.map fun key => .className [property, condition, key]

theorem classRequests_concat (property condition : String) (keys : List String) (key : String) :
    classRequests property condition (keys ++ [key]) =
      classRequests property condition keys ++ [.className [property, condition, key]] :=
  List.map_append

theorem flatMap_classRequests_sublist (property : String) (conditions keys : List String) :
    (conditions.flatMap fun condition => classRequests property condition keys.eraseDups).Sublist
      (conditions.flatMap fun condition => classRequests property condition keys) :=
  List.Sublist.flatMap_right conditions fun _ _ => (eraseDups_sublist keys).map _

theorem choiceDraws_request (property condition : String) (entries : List (String × String)) :
    (choiceDraws property condition entries).map Draw.request =
      classRequests property condition (entries.map Prod.fst) := by
  induction entries with
  | nil => rfl
  | cons entry rest ih => exact congrArg (_ :: ·) ih

theorem choiceDraws_append (property condition : String)
    (before after : List (String × String)) :
    ∃ earlier, choiceDraws property condition (before ++ after) =
        earlier ++ choiceDraws property condition after ∧
      earlier.map Draw.request = classRequests property condition (before.map Prod.fst) := by
  induction before with
  | nil => exact ⟨[], rfl, rfl⟩
  | cons entry rest ih =>
      obtain ⟨earlier, split, asked⟩ := ih
      simp only [List.cons_append, choiceDraws, split]
      exact ⟨_ :: earlier, rfl, congrArg (_ :: ·) asked⟩

theorem isSome_site_of_mem_choiceDraws {property condition : String}
    {entries : List (String × String)} (distinct : (entries.map Prod.fst).Nodup) :
    ∀ draw ∈ choiceDraws property condition entries, draw.site.isSome := by
  induction entries with
  | nil => intro draw listed; cases listed
  | cons entry rest ih =>
      obtain ⟨unlisted, restDistinct⟩ := List.nodup_cons.mp distinct
      intro draw listed
      rcases List.mem_cons.mp listed with rfl | later
      · rw [if_neg unlisted]
        rfl
      · exact ih restDistinct draw later

section Values

variable {property condition value : String} {conditions : Table Scope} {list : List String}
  {pool : IdentPool}

@[simp] theorem map_fst_entries_values (list : List String) :
    (values list).entries.map Prod.fst = list := by
  rw [entries, List.map_map]
  exact List.map_id _

theorem draws_request (property : String) (conditions : Table Scope) (list : List String) :
    ((values list).draws property conditions).map Draw.request =
      conditions.keys.flatMap fun condition => classRequests property condition list := by
  simp only [draws, List.map_flatMap, choiceDraws_request, map_fst_entries_values]

/-- The class kept for a value is the one due at its last place. -/
theorem naming_eq_freeName {front back before after : List String}
    (conditionsSplit : conditions.keys = front ++ condition :: back)
    (listSplit : list = before ++ value :: after) (last : value ∉ after) :
    (values list).naming property conditions pool (.choiceClass property condition value) =
      IdentPool.freeName
        (IdentPool.takeAll (front.flatMap (fun earlier => classRequests property earlier list) ++
          classRequests property condition before) pool).2.taken
        (pool.classBase [property, condition, value]) := by
  obtain ⟨earlier, choicesSplit, asked⟩ := choiceDraws_append property condition
    (values before).entries ((value, value) :: (values after).entries)
  have sameEntries : (values list).entries =
      (values before).entries ++ (value, value) :: (values after).entries := by
    simp [entries, listSplit]
  have kept : value ∉ (values after).entries.map Prod.fst := by
    simpa using last
  have drawsSplit : (values list).draws property conditions =
      (front.flatMap (fun earlier => choiceDraws property earlier (values list).entries) ++
        earlier) ++ ⟨.className [property, condition, value],
          some (.choiceClass property condition value)⟩ ::
        (choiceDraws property condition (values after).entries ++
          back.flatMap fun later => choiceDraws property later (values list).entries) := by
    have here : choiceDraws property condition (values list).entries =
        earlier ++ ⟨.className [property, condition, value],
          some (.choiceClass property condition value)⟩ ::
          choiceDraws property condition (values after).entries := by
      rw [sameEntries, choicesSplit, choiceDraws, if_neg kept]
    simp only [draws, conditionsSplit, List.flatMap_append, List.flatMap_cons, here,
      List.append_assoc, List.cons_append]
  have follows := (values list).naming_follows property conditions pool
  rw [drawsSplit] at follows
  refine (follows.eq_freeName rfl).trans ?_
  simp only [Draw.after, List.map_append, List.map_flatMap, choiceDraws_request, asked,
    map_fst_entries_values]
  rfl

/-- The class that the list without repetitions gives to a repeated value is taken before the
value is met for the last time. -/
theorem naming_ne_of_repeated (configured : condition ∈ conditions.keys)
    (repeated : 2 ≤ list.count value) :
    (values list).naming property conditions pool (.choiceClass property condition value) ≠
      (values list.eraseDups).naming property conditions pool
        (.choiceClass property condition value) := by
  obtain ⟨front, back, conditionsSplit⟩ := List.append_of_mem configured
  obtain ⟨before, after, first, others, listSplit, last, onceSplit, onceLast, fewer⟩ :=
    exists_places repeated
  have fewerAsked :
      (front.flatMap (fun earlier => classRequests property earlier list.eraseDups) ++
          classRequests property condition (first ++ [value])).Sublist
        (front.flatMap (fun earlier => classRequests property earlier list) ++
          classRequests property condition before) :=
    (flatMap_classRequests_sublist property front list).append (fewer.map _)
  have within := IdentPool.taken_takeAll_subset fewerAsked rfl rfl (List.Subset.refl pool.taken)
  rw [classRequests_concat, ← List.append_assoc, IdentPool.taken_takeAll_concat] at within
  rw [naming_eq_freeName conditionsSplit listSplit last,
    naming_eq_freeName conditionsSplit onceSplit onceLast]
  intro same
  exact (IdentPool.due_freeName _ _).fresh (same ▸ within List.mem_cons_self)

/-- What is asked for before an item of the list is a part of all that is asked for. -/
theorem requests_before_sublist {front back before after : List String}
    (conditionsSplit : conditions.keys = front ++ condition :: back)
    (listSplit : list = before ++ value :: after) :
    (front.flatMap (fun earlier => classRequests property earlier list) ++
        classRequests property condition before).Sublist
      (((values list).draws property conditions).map Draw.request) := by
  have beforeList : (classRequests property condition before).Sublist
      (classRequests property condition list) := by
    unfold classRequests
    simp [listSplit]
  simp only [draws_request, conditionsSplit, List.flatMap_append, List.flatMap_cons]
  exact (List.Sublist.refl _).append (List.sublist_append_of_sublist_left beforeList)

/-- Without repetitions, every name that is drawn is the class of some value. -/
theorem exists_naming_eq_of_mem_names (distinct : list.Nodup) {name : String}
    (drawn : name ∈ Draw.names ((values list).draws property conditions) pool) :
    ∃ condition ∈ conditions.keys, ∃ value ∈ list,
      (values list).naming property conditions pool (.choiceClass property condition value) =
        name := by
  have kept : ∀ draw ∈ (values list).draws property conditions, draw.site.isSome := by
    intro draw listed
    obtain ⟨_, _, inChoices⟩ := List.mem_flatMap.mp listed
    exact isSome_site_of_mem_choiceDraws (by simpa using distinct) draw inChoices
  rw [← ((values list).naming_follows property conditions pool).map_sites kept] at drawn
  obtain ⟨site, isSite, owns⟩ := List.mem_map.mp drawn
  rw [draws, Draw.sites_flatMap] at isSite
  obtain ⟨condition, configured, inChoices⟩ := List.mem_flatMap.mp isSite
  obtain ⟨value, listed, rfl⟩ := (mem_sites_choiceDraws _ _ _ _).mp inChoices
  exact ⟨condition, configured, value, by simpa using listed, owns⟩

/-- Without repetitions, a class is marked only if the plain name was taken, or belongs to
another value or condition. -/
theorem mem_taken_or_exists_of_naming_ne (configured : condition ∈ conditions.keys)
    (listed : value ∈ list) (distinct : list.Nodup)
    (marked : (values list).naming property conditions pool
      (.choiceClass property condition value) ≠ pool.classBase [property, condition, value]) :
    pool.classBase [property, condition, value] ∈ pool.taken ∨
      ∃ other ∈ conditions.keys, ∃ otherValue ∈ list,
        (values list).naming property conditions pool (.choiceClass property other otherValue) =
          pool.classBase [property, condition, value] := by
  obtain ⟨front, back, conditionsSplit⟩ := List.append_of_mem configured
  obtain ⟨before, after, listSplit⟩ := List.append_of_mem listed
  have last : value ∉ after := by
    rw [listSplit] at distinct
    exact (List.nodup_cons.mp distinct.of_append_right).1
  rw [naming_eq_freeName conditionsSplit listSplit last] at marked
  have takenBefore := by_contra fun fresh => marked (IdentPool.freeName_of_not_mem fresh)
  have taken := IdentPool.taken_takeAll_subset
    (requests_before_sublist conditionsSplit listSplit) rfl rfl (List.Subset.refl pool.taken)
    takenBefore
  rw [IdentPool.taken_takeAll] at taken
  rcases List.mem_append.mp taken with drawn | earlier
  · exact .inr (exists_naming_eq_of_mem_names distinct (List.mem_reverse.mp drawn))
  · exact .inl earlier

theorem get?_ofList_entries_values (value : String) :
    (Table.ofList (values list).entries).get? value = if value ∈ list then some value else none := by
  split
  case isTrue listed =>
    refine Table.get?_ofList_of_forall ?_ ?_
    · exact List.mem_map.mpr ⟨value, listed, rfl⟩
    · intro other member
      obtain ⟨_, _, same⟩ := List.mem_map.mp member
      cases same
      rfl
  case isFalse unlisted =>
    rw [Table.get?_eq_none_iff, Table.mem_keys_ofList, map_fst_entries_values]
    exact unlisted

/-- Repetitions leave no trace in the property but in its names. -/
theorem named_eraseDups (naming : Naming) :
    (values list.eraseDups).named naming conditions property =
      (values list).named naming conditions property := by
  have same :
      Table.ofList (values list.eraseDups).entries = Table.ofList (values list).entries := by
    refine Table.ext_get? ?_ fun value => ?_
    · rw [Table.keys_ofList, Table.keys_ofList, map_fst_entries_values, map_fst_entries_values,
        (eraseDups_eq_self_iff _).mpr (nodup_eraseDups list)]
    · simp only [get?_ofList_entries_values, List.mem_eraseDups]
  rw [named, named, same]

theorem naming_eq_of_named_eq {first second : Naming}
    (same : (values list).named first conditions property =
      (values list).named second conditions property)
    (configured : condition ∈ conditions.keys) (listed : value ∈ list) :
    first (.choiceClass property condition value) =
      second (.choiceClass property condition value) := by
  have sameEntries := congrArg (fun compiled : Property => compiled.entries.get? condition) same
  obtain ⟨scope, isScope⟩ := (Table.mem_keys_iff _ _).mp configured
  have isKey : value ∈ (Table.ofList (values list).entries).keys := by
    rw [Table.mem_keys_ofList]
    simpa using listed
  obtain ⟨literal, isLiteral⟩ := (Table.mem_keys_iff _ _).mp isKey
  simp [named, Table.get?_mapEntries, isScope] at sameEntries
  have sameChoice := congrArg (fun choices : Table Choice => choices.get? value) sameEntries
  simp [Naming.get?_choices, isLiteral] at sameChoice
  exact sameChoice

theorem gains_compile (property : String) (conditions : Table Scope) (list : List String)
    (pool : IdentPool) :
    pool.Gains ((values list).compile property conditions.keys pool).2
      (conditions.size * list.length) := by
  have asked : (((values list).draws property conditions).map Draw.request).length =
      conditions.size * list.length := by
    rw [draws_request, Table.size]
    simp [classRequests, Table.keys, Function.comp_def]
  rw [compile_eq, ← asked]
  exact IdentPool.gains_takeAll _ pool

theorem taken_compile_subset (property : String) (conditions : Table Scope) (list : List String)
    (pool : IdentPool) :
    ((values list.eraseDups).compile property conditions.keys pool).2.taken ⊆
      ((values list).compile property conditions.keys pool).2.taken := by
  rw [compile_eq, compile_eq]
  refine IdentPool.taken_takeAll_subset ?_ rfl rfl (List.Subset.refl pool.taken)
  rw [draws_request, draws_request]
  exact flatMap_classRequests_sublist property _ list

theorem compile_eraseDups (same : list.Nodup ∨ conditions.isEmpty = true) :
    (values list.eraseDups).compile property conditions.keys =
      (values list).compile property conditions.keys := by
  rcases same with distinct | isEmpty
  · rw [(eraseDups_eq_self_iff list).mpr distinct]
  · rw [(Table.isEmpty_iff conditions).mp isEmpty]
    rfl

/-- The properties differ as soon as a value is repeated under some condition. -/
theorem compile_fst_eq_iff :
    ((values list).compile property conditions.keys pool).1 =
        ((values list.eraseDups).compile property conditions.keys pool).1 ↔
      list.Nodup ∨ conditions.isEmpty = true := by
  constructor
  · intro same
    by_contra different
    obtain ⟨repeats, notEmpty⟩ := not_or.mp different
    rw [Table.isEmpty_iff] at notEmpty
    obtain ⟨condition, configured⟩ := List.exists_mem_of_ne_nil _ notEmpty
    obtain ⟨value, repeated⟩ : ∃ value, 2 ≤ list.count value := by
      simpa [List.nodup_iff_count_le_one, Nat.lt_iff_add_one_le] using repeats
    have listed : value ∈ list := List.count_pos_iff.mp (by omega)
    rw [compile_eq, compile_eq, named_eraseDups] at same
    exact naming_ne_of_repeated configured repeated
      (naming_eq_of_named_eq same configured listed)
  · intro same
    rw [compile_eraseDups same]

/-- As many more names are taken as there are repetitions, under each condition. -/
theorem taken_compile_iff :
    (∀ name, name ∈ ((values list).compile property conditions.keys pool).2.taken ↔
        name ∈ ((values list.eraseDups).compile property conditions.keys pool).2.taken) ↔
      list.Nodup ∨ conditions.isEmpty = true := by
  constructor
  · intro same
    have counts := (gains_compile property conditions list.eraseDups pool).count_le
      (gains_compile property conditions list pool) fun name taken => (same name).mp taken
    rcases Nat.eq_zero_or_pos conditions.size with empty | positive
    · exact .inr (by simpa [Table.size, Table.isEmpty] using empty)
    · have short := Nat.le_of_mul_le_mul_left counts positive
      exact .inl ((eraseDups_eq_self_iff list).mp ((eraseDups_sublist list).eq_of_length_le short))
  · intro same name
    rw [compile_eraseDups same]

end Values

/-- Without the repetitions a static property has the same keys and literals, one name is taken
for each value under each condition, and a name with a number stands only where the plain one
is owned otherwise. Each repetition takes one more name, and a repeated value gets another
class. So repetitions make no difference only if there are none, or no condition. -/
theorem compile_values_repeated (property : String) (conditions : Table Scope)
    (list : List String) (pool : IdentPool) :
    let listed := (values list).compile property conditions.keys pool
    let once := (values list.eraseDups).compile property conditions.keys pool
    (∃ listedNaming onceNaming : Naming,
      listed.1 = (values list.eraseDups).named listedNaming conditions property ∧
      once.1 = (values list.eraseDups).named onceNaming conditions property ∧
      ∀ condition ∈ conditions.keys, ∀ value ∈ list,
        let site := Site.choiceClass property condition value
        let base := pool.classBase [property, condition, value]
        (2 ≤ list.count value → listedNaming site ≠ onceNaming site) ∧
        (onceNaming site ≠ base → base ∈ pool.taken ∨
          ∃ other ∈ conditions.keys, ∃ otherValue ∈ list,
            onceNaming (.choiceClass property other otherValue) = base)) ∧
    pool.Gains listed.2 (conditions.size * list.length) ∧
    pool.Gains once.2 (conditions.size * list.eraseDups.length) ∧
    once.2.taken ⊆ listed.2.taken ∧
    (listed.1 = once.1 ↔ list.Nodup ∨ conditions.isEmpty = true) ∧
    ((∀ name, name ∈ listed.2.taken ↔ name ∈ once.2.taken) ↔
      list.Nodup ∨ conditions.isEmpty = true) := by
  intro listed once
  refine ⟨⟨(values list).naming property conditions pool,
      (values list.eraseDups).naming property conditions pool, ?_, ?_, ?_⟩,
    gains_compile property conditions list pool,
    gains_compile property conditions list.eraseDups pool,
    taken_compile_subset property conditions list pool, compile_fst_eq_iff, taken_compile_iff⟩
  · rw [named_eraseDups]
    exact congrArg Prod.fst (compile_eq _ _ _ _)
  · exact congrArg Prod.fst (compile_eq _ _ _ _)
  · intro condition configured value isValue site base
    refine ⟨naming_ne_of_repeated configured, fun marked => ?_⟩
    have owned := mem_taken_or_exists_of_naming_ne configured (List.mem_eraseDups.mpr isValue)
      (nodup_eraseDups list) marked
    simpa only [List.mem_eraseDups] using owned

/-- The first class of the repeated value is taken and used nowhere. -/
theorem not_compile_values_repeated :
    let conditions : Table Scope := Table.ofList [("m", {})]
    let listed := (values ["1", "1"]).compile "gap" conditions.keys (.start none)
    let once := (values ["1", "1"].eraseDups).compile "gap" conditions.keys (.start none)
    listed.1 ≠ once.1 ∧ listed.2.taken = ["gap-m-1-2", "gap-m-1"] ∧ once.2.taken = ["gap-m-1"] := by
  decide +kernel

end StaticScale

end AtomicCss
