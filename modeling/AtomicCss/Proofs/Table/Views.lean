import AtomicCss.Table.Lemmas
import Mathlib.Data.List.Basic
import Mathlib.Data.List.Induction

/-!
# Tables through their two views

A table is determined by the order of its names and by what is found under each. Written
entry by entry, a table finds the last value of a name; laying a written table over another
one is the same as going on writing there.
-/

set_option autoImplicit false

namespace AtomicCss.Table

universe u v

variable {α : Type u} {β : Type v}

theorem get?_eq_some_iff (table : Table α) (name : String) (value : α) :
    table.get? name = some value ↔ (name, value) ∈ table.entries := by
  obtain ⟨entries, distinct⟩ := table
  change entries.lookup name = some value ↔ (name, value) ∈ entries
  induction entries with
  | nil => simp
  | cons entry rest ih =>
      rw [List.map_cons, List.nodup_cons] at distinct
      rw [lookup_cons_eq, List.mem_cons]
      by_cases same : name = entry.1
      · have unlisted : (name, value) ∉ rest := fun listed =>
          distinct.1 (same ▸ List.mem_map_of_mem listed)
        simp only [same, if_true, Option.some.injEq]
        constructor
        · rintro rfl
          exact .inl rfl
        · rintro (head | tail)
          · exact (congrArg Prod.snd head).symm
          · exact absurd (same ▸ tail) unlisted
      · rw [if_neg same, ih distinct.2]
        constructor
        · exact .inr
        · rintro (head | tail)
          · exact absurd (congrArg Prod.fst head) same
          · exact tail

theorem mem_keys_iff (table : Table α) (name : String) :
    name ∈ table.keys ↔ ∃ value, table.get? name = some value := by
  rw [← contains_iff_mem_keys, contains, Option.isSome_iff_exists]

theorem isEmpty_iff (table : Table α) : table.isEmpty = true ↔ table.keys = [] := by
  rw [isEmpty, List.isEmpty_iff, keys, List.map_eq_nil_iff]

theorem isEmpty_of_mem_keys {table : Table α} {name : String} (listed : name ∈ table.keys) :
    table.isEmpty = false := by
  rw [Bool.eq_false_iff]
  intro nothing
  rw [table.isEmpty_iff.mp nothing] at listed
  cases listed

/-- Look-up does not depend on the order of the entries. -/
theorem get?_eq_of_perm {left right : Table α} (perm : left.entries.Perm right.entries)
    (name : String) : left.get? name = right.get? name := by
  ext value
  rw [get?_eq_some_iff, get?_eq_some_iff]
  exact perm.mem_iff

private theorem entries_eq_of_lookup {left right : List (String × α)}
    (distinct : (left.map Prod.fst).Nodup) (sameNames : left.map Prod.fst = right.map Prod.fst)
    (sameValues : ∀ name, left.lookup name = right.lookup name) : left = right := by
  induction left generalizing right with
  | nil => exact (List.map_eq_nil_iff.mp sameNames.symm).symm
  | cons first others ih =>
      cases right with
      | nil => simp at sameNames
      | cons second rest =>
          rw [List.map_cons, List.map_cons, List.cons.injEq] at sameNames
          obtain ⟨sameFirst, sameRest⟩ := sameNames
          rw [List.map_cons, List.nodup_cons] at distinct
          have sameValue := sameValues first.1
          rw [lookup_cons_eq, lookup_cons_eq, if_pos rfl, if_pos sameFirst] at sameValue
          have sameEntry : first = second := Prod.ext sameFirst (Option.some.inj sameValue)
          subst sameEntry
          refine congrArg (first :: ·) (ih distinct.2 sameRest fun name => ?_)
          by_cases atFirst : name = first.1
          · have absent := (lookup_eq_none_iff others name).mpr (atFirst ▸ distinct.1)
            rw [absent, (lookup_eq_none_iff rest name).mpr (sameRest ▸ atFirst ▸ distinct.1)]
          · simpa [lookup_cons_eq, atFirst] using sameValues name

theorem ext_get? {left right : Table α} (sameKeys : left.keys = right.keys)
    (sameValues : ∀ name, left.get? name = right.get? name) : left = right :=
  ext (entries_eq_of_lookup left.keysNodup sameKeys sameValues)

theorem ofList_nil : ofList ([] : List (String × α)) = empty := rfl

theorem ofList_concat (entries : List (String × α)) (entry : String × α) :
    ofList (entries ++ [entry]) = (ofList entries).insert entry.1 entry.2 := by
  rw [ofList, List.foldl_append]
  rfl

theorem mem_keys_ofList (entries : List (String × α)) (name : String) :
    name ∈ (ofList entries).keys ↔ name ∈ entries.map Prod.fst := by
  induction entries using List.reverseRecOn with
  | nil => simp [ofList_nil]
  | append_singleton entries entry ih =>
      rw [ofList_concat, keys_insert, List.map_append, List.mem_append]
      split
      · next known =>
          constructor
          · exact fun listed => .inl (ih.mp listed)
          · rintro (earlier | last)
            · exact ih.mpr earlier
            · exact List.mem_singleton.mp last ▸ known
      · rw [List.mem_append, ih]
        rfl

theorem isEmpty_ofList_cons (entry : String × α) (rest : List (String × α)) :
    (ofList (entry :: rest)).isEmpty = false :=
  isEmpty_of_mem_keys ((mem_keys_ofList _ entry.1).mpr List.mem_cons_self)

theorem keys_ofList_congr {left : List (String × α)} {right : List (String × β)}
    (sameNames : left.map Prod.fst = right.map Prod.fst) :
    (ofList left).keys = (ofList right).keys := by
  induction left using List.reverseRecOn generalizing right with
  | nil =>
      rw [List.map_eq_nil_iff.mp sameNames.symm]
      rfl
  | append_singleton left entry ih =>
      induction right using List.reverseRecOn with
      | nil => simp at sameNames
      | append_singleton right other _ =>
          rw [List.map_append, List.map_append] at sameNames
          obtain ⟨sameInit, sameLast⟩ := List.append_inj' sameNames rfl
          have sameName : entry.1 = other.1 := List.singleton_inj.mp sameLast
          rw [ofList_concat, ofList_concat, keys_insert, keys_insert, ih sameInit, sameName]

theorem get?_ofList_cons (entry : String × α) (rest : List (String × α)) (name : String) :
    (ofList (entry :: rest)).get? name =
      ((ofList rest).get? name).or (if name = entry.1 then some entry.2 else none) := by
  induction rest using List.reverseRecOn with
  | nil =>
      rw [ofList_nil, get?_empty, Option.none_or]
      exact get?_insert empty entry.1 entry.2 name
  | append_singleton rest last ih =>
      rw [← List.cons_append, ofList_concat, ofList_concat, get?_insert, get?_insert, ih]
      split
      · rfl
      · rfl

theorem get?_ofList_append (before after : List (String × α)) (name : String) :
    (ofList (before ++ after)).get? name =
      ((ofList after).get? name).or ((ofList before).get? name) := by
  induction before with
  | nil => rw [List.nil_append, ofList_nil, get?_empty, Option.or_none]
  | cons entry before ih =>
      rw [List.cons_append, get?_ofList_cons, get?_ofList_cons, ih, Option.or_assoc]

/-- A name is found with the value that is written last under it. -/
theorem get?_ofList_of_last (before : List (String × α)) {name : String} (value : α)
    {after : List (String × α)} (last : name ∉ after.map Prod.fst) :
    (ofList (before ++ (name, value) :: after)).get? name = some value := by
  induction before with
  | nil =>
      have absent : (ofList after).get? name = none := by
        rwa [get?_eq_none_iff, mem_keys_ofList]
      rw [List.nil_append, get?_ofList_cons, absent, Option.none_or, if_pos rfl]
  | cons entry before ih => rw [List.cons_append, get?_ofList_cons, ih, Option.some_or]

/-- A name that is always written with one value is found with it. -/
theorem get?_ofList_of_forall {entries : List (String × α)} {name : String} {value : α}
    (listed : (name, value) ∈ entries)
    (only : ∀ other, (name, other) ∈ entries → other = value) :
    (ofList entries).get? name = some value := by
  induction entries with
  | nil => cases listed
  | cons entry rest ih =>
      rw [get?_ofList_cons]
      by_cases later : (name, value) ∈ rest
      · rw [ih later fun other there => only other (List.mem_cons_of_mem _ there), Option.some_or]
      · have first : (name, value) = entry := (List.mem_cons.mp listed).resolve_right later
        have absent : (ofList rest).get? name = none := by
          rw [get?_eq_none_iff, mem_keys_ofList]
          intro known
          obtain ⟨⟨_, other⟩, there, rfl⟩ := List.mem_map.mp known
          exact later (only other (List.mem_cons_of_mem _ there) ▸ there)
        rw [absent, Option.none_or, ← first, if_pos rfl]

/-- The names of a list of entries are listed at their first places. -/
theorem keys_ofList (entries : List (String × α)) :
    (ofList entries).keys = (entries.map Prod.fst).eraseDups := by
  induction entries using List.reverseRecOn with
  | nil => rfl
  | append_singleton entries last ih =>
      rw [ofList_concat, keys_insert, List.map_append, List.eraseDups_append, ← ih]
      by_cases repeated : last.1 ∈ entries.map Prod.fst
      · rw [if_pos ((mem_keys_ofList entries last.1).mpr repeated)]
        simp [List.removeAll, repeated]
      · rw [if_neg (mt (mem_keys_ofList entries last.1).mp repeated)]
        simp [List.removeAll, repeated, List.eraseDups_cons]

theorem overlay_insert (left right : Table α) (name : String) (value : α) :
    left.overlay (right.insert name value) = (left.overlay right).insert name value := by
  apply ext_get?
  · simp only [overlay, keys_mergeWith, keys_insert, List.mem_append, List.mem_filter]
    by_cases inRight : name ∈ right.keys
    · by_cases inLeft : name ∈ left.keys <;> simp [inLeft, inRight]
    · by_cases inLeft : name ∈ left.keys <;> simp [inLeft, inRight]
  · intro asked
    rw [get?_overlay, get?_insert, get?_insert, get?_overlay]
    split
    · rfl
    · rfl

/-- Laying a written table over another one is to go on writing there. -/
theorem overlay_ofList (left : Table α) (entries : List (String × α)) :
    left.overlay (ofList entries) =
      entries.foldl (fun table entry => table.insert entry.1 entry.2) left := by
  induction entries using List.reverseRecOn with
  | nil => rfl
  | append_singleton entries entry ih =>
      rw [ofList_concat, overlay_insert, ih, List.foldl_append]
      rfl

theorem ofList_append (before after : List (String × α)) :
    ofList (before ++ after) = (ofList before).overlay (ofList after) := by
  rw [overlay_ofList, ofList, List.foldl_append]
  rfl

theorem filterMap_filterMap {γ : Type v} (first : α → Option β) (second : β → Option γ)
    (table : Table α) :
    (table.filterMap first).filterMap second =
      table.filterMap fun value => (first value).bind second := by
  apply ext
  change (table.entries.filterMap _).filterMap _ = table.entries.filterMap _
  rw [List.filterMap_filterMap]
  refine List.filterMap_congr fun entry _ => ?_
  cases kept : first entry.2 with
  | none => simp [kept]
  | some value => simp [kept]

/-- Replaces each value by one that may depend on its name. -/
def mapEntries (change : String → α → β) (table : Table α) : Table β where
  entries := table.entries.map fun entry => (entry.1, change entry.1 entry.2)
  keysNodup := by
    rw [List.map_map]
    exact table.keysNodup

@[simp] theorem keys_mapEntries (change : String → α → β) (table : Table α) :
    (table.mapEntries change).keys = table.keys :=
  List.map_map

theorem get?_mapEntries (change : String → α → β) (table : Table α) (name : String) :
    (table.mapEntries change).get? name = (table.get? name).map (change name) := by
  obtain ⟨entries, distinct⟩ := table
  change (entries.map fun entry => (entry.1, change entry.1 entry.2)).lookup name =
    (entries.lookup name).map (change name)
  clear distinct
  induction entries with
  | nil => rfl
  | cons entry rest ih =>
      rw [List.map_cons, lookup_cons_eq, lookup_cons_eq]
      split
      · next same => rw [same]; rfl
      · exact ih

theorem mapEntries_congr (table : Table α) {first second : String → α → β}
    (same : ∀ name ∈ table.keys, ∀ value, first name value = second name value) :
    table.mapEntries first = table.mapEntries second := by
  refine ext (List.map_congr_left fun entry listed => ?_)
  exact congrArg (entry.1, ·) (same entry.1 (List.mem_map_of_mem listed) entry.2)

theorem ofList_map_entries (table : Table α) (change : String → α → β) :
    ofList (table.entries.map fun entry => (entry.1, change entry.1 entry.2)) =
      table.mapEntries change :=
  ext (entries_ofList _ (table.mapEntries change).keysNodup)

theorem ofList_map_keys (table : Table α) (value : String → β) :
    ofList (table.keys.map fun name => (name, value name)) =
      table.mapEntries fun name _ => value name := by
  rw [← ofList_map_entries, keys, List.map_map]
  rfl

theorem overlay_empty_left (table : Table α) : (empty : Table α).overlay table = table :=
  ofList_entries table

theorem mergeWith_mapEntries (combine : β → β → β) (table : Table α)
    (left right : String → α → β) :
    (table.mapEntries left).mergeWith combine (table.mapEntries right) =
      table.mapEntries fun name value => combine (left name value) (right name value) := by
  apply ext_get?
  · rw [keys_mergeWith, keys_mapEntries, keys_mapEntries, keys_mapEntries]
    have noneNew : table.keys.filter (!table.keys.contains ·) = [] := by
      rw [List.filter_eq_nil_iff]
      intro name listed
      simp [listed]
    rw [noneNew, List.append_nil]
  · intro name
    rw [get?_mergeWith, get?_mapEntries, get?_mapEntries, get?_mapEntries]
    cases table.get? name with
    | none => rfl
    | some value => rfl

end AtomicCss.Table
