import AtomicCss.Table

/-!
# Tables by names and lookup

What the operations on whole tables do to the two views of a table. Merging looks up in
both tables, and lists the names of the left one before the new names of the right one; a
list without repeated names is the table of itself.
-/

set_option autoImplicit false

namespace AtomicCss.Table

universe u v

variable {α : Type u} {β : Type v}

theorem lookup_eq_none_iff (entries : List (String × α)) (name : String) :
    entries.lookup name = none ↔ name ∉ entries.map Prod.fst := by
  induction entries with
  | nil => simp
  | cons entry rest ih =>
      by_cases same : name = entry.1
      · simp [lookup_cons_eq, same]
      · simpa [lookup_cons_eq, same] using ih

theorem get?_eq_none_iff (table : Table α) (name : String) :
    table.get? name = none ↔ name ∉ table.keys :=
  lookup_eq_none_iff table.entries name

theorem addEntry_of_not_mem (combine : α → α → α) (key : String) (value : α)
    (entries : List (String × α)) (absent : key ∉ entries.map Prod.fst) :
    addEntry combine key value entries = entries ++ [(key, value)] := by
  induction entries with
  | nil => rfl
  | cons entry rest ih =>
      rw [List.map_cons, List.mem_cons, not_or] at absent
      have different : ¬ entry.1 = key := fun same => absent.1 same.symm
      rw [addEntry, if_neg different, ih absent.2, List.cons_append]

/-- Writes entries one after the other, combining the values of a repeated name. -/
def addAll (combine : α → α → α) (table : Table α) (entries : List (String × α)) : Table α :=
  entries.foldl (fun table entry => table.addWith combine entry.1 entry.2) table

theorem addAll_cons (combine : α → α → α) (table : Table α) (entry : String × α)
    (rest : List (String × α)) :
    table.addAll combine (entry :: rest) =
      (table.addWith combine entry.1 entry.2).addAll combine rest := rfl

theorem ofList_eq_addAll (entries : List (String × α)) :
    ofList entries = (empty : Table α).addAll (fun _ new => new) entries := rfl

/-- New names, none of them repeated, are listed behind the old ones. -/
theorem entries_addAll_of_disjoint (combine : α → α → α) (table : Table α)
    (entries : List (String × α)) (distinct : (entries.map Prod.fst).Nodup)
    (disjoint : ∀ name ∈ entries.map Prod.fst, name ∉ table.keys) :
    (table.addAll combine entries).entries = table.entries ++ entries := by
  induction entries generalizing table with
  | nil => simp [addAll]
  | cons entry rest ih =>
      rw [List.map_cons, List.nodup_cons] at distinct
      have absent : entry.1 ∉ table.keys := disjoint entry.1 (by simp)
      have written : (table.addWith combine entry.1 entry.2).entries = table.entries ++ [entry] :=
        addEntry_of_not_mem combine entry.1 entry.2 table.entries absent
      rw [addAll_cons, ih _ distinct.2, written, List.append_assoc, List.singleton_append]
      intro name listed known
      have keys : (table.addWith combine entry.1 entry.2).keys = table.keys ++ [entry.1] := by
        rw [keys_addWith, if_neg absent]
      rw [keys, List.mem_append, List.mem_singleton] at known
      rcases known with old | same
      · exact disjoint name (by simp [listed]) old
      · exact distinct.1 (same ▸ listed)

/-- A list of entries without repeated names is the table of itself. -/
theorem entries_ofList (entries : List (String × α)) (distinct : (entries.map Prod.fst).Nodup) :
    (ofList entries).entries = entries := by
  rw [ofList_eq_addAll, entries_addAll_of_disjoint _ _ _ distinct (by simp)]
  rfl

@[simp] theorem ofList_entries (table : Table α) : ofList table.entries = table :=
  ext (entries_ofList table.entries table.keysNodup)

theorem get?_addAll (combine : α → α → α) (table : Table α) (entries : List (String × α))
    (distinct : (entries.map Prod.fst).Nodup) (name : String) :
    (table.addAll combine entries).get? name =
      match table.get? name, entries.lookup name with
      | some old, some new => some (combine old new)
      | some old, none => some old
      | none, found => found := by
  induction entries generalizing table with
  | nil => cases found : table.get? name <;> simp [addAll, found]
  | cons entry rest ih =>
      rw [List.map_cons, List.nodup_cons] at distinct
      rw [addAll_cons, ih _ distinct.2, get?_addWith, lookup_cons_eq]
      by_cases same : name = entry.1
      · have absent : rest.lookup name = none :=
          (lookup_eq_none_iff rest name).mpr (same ▸ distinct.1)
        rw [if_pos same, if_pos same, absent, same]
        cases table.get? entry.1 <;> rfl
      · rw [if_neg same, if_neg same]

/-- Merging combines the values of the names in both tables and keeps all others. -/
theorem get?_mergeWith (combine : α → α → α) (left right : Table α) (name : String) :
    (left.mergeWith combine right).get? name =
      match left.get? name, right.get? name with
      | some old, some new => some (combine old new)
      | some old, none => some old
      | none, found => found :=
  get?_addAll combine left right.entries right.keysNodup name

theorem keys_addAll (combine : α → α → α) (table : Table α) (entries : List (String × α))
    (distinct : (entries.map Prod.fst).Nodup) :
    (table.addAll combine entries).keys =
      table.keys ++ (entries.map Prod.fst).filter (!table.keys.contains ·) := by
  induction entries generalizing table with
  | nil => simp [addAll]
  | cons entry rest ih =>
      rw [List.map_cons, List.nodup_cons] at distinct
      rw [addAll_cons, ih _ distinct.2, keys_addWith, List.map_cons, List.filter_cons]
      by_cases known : entry.1 ∈ table.keys
      · rw [if_pos known]
        simp [known]
      · rw [if_neg known]
        have others : (rest.map Prod.fst).filter (!(table.keys ++ [entry.1]).contains ·) =
            (rest.map Prod.fst).filter (!table.keys.contains ·) := by
          apply List.filter_congr
          intro name listed
          have different : name ≠ entry.1 := fun same => distinct.1 (same ▸ listed)
          simp [different]
        rw [others]
        simp [known]

/-- Merging lists the names of the left table, then the new names of the right one. -/
theorem keys_mergeWith (combine : α → α → α) (left right : Table α) :
    (left.mergeWith combine right).keys =
      left.keys ++ right.keys.filter (!left.keys.contains ·) :=
  keys_addAll combine left right.entries right.keysNodup

/-- Laid over another table, a table answers first. -/
theorem get?_overlay (left right : Table α) (name : String) :
    (left.overlay right).get? name = (right.get? name).or (left.get? name) := by
  rw [overlay, get?_mergeWith]
  cases left.get? name <;> cases right.get? name <;> rfl

theorem get?_filterMap (select : α → Option β) (table : Table α) (name : String) :
    (table.filterMap select).get? name = (table.get? name).bind select := by
  obtain ⟨entries, distinct⟩ := table
  change (entries.filterMap fun entry =>
    (select entry.2).map fun value => (entry.1, value)).lookup name =
      (entries.lookup name).bind select
  induction entries with
  | nil => rfl
  | cons entry rest ih =>
      rw [List.map_cons, List.nodup_cons] at distinct
      rw [lookup_cons_eq, List.filterMap_cons]
      cases kept : select entry.2 with
      | none =>
          by_cases same : name = entry.1
          · have absent : rest.lookup name = none :=
              (lookup_eq_none_iff rest name).mpr (same ▸ distinct.1)
            rw [if_pos same, Option.map_none, ih distinct.2, absent, Option.bind_some, kept]
            rfl
          · simp [same, ih distinct.2]
      | some value =>
          by_cases same : name = entry.1
          · simp [same, kept]
          · simp [lookup_cons_eq, same, ih distinct.2]

end AtomicCss.Table
