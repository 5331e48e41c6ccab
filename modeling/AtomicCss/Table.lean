/-!
# Tables

Finite maps from names to values that remember the order in which the names first came.

The order of a table is part of its value: two tables are equal exactly when they list
the same names with the same values in the same order. Writing under a name that is
already there replaces the value and keeps the name's place; a new name goes to the end.
Every table operation is built from `Table.addWith`, and the lemmas below say what it does
to the two views of a table, its names (`keys`) and its lookup (`get?`).
-/

set_option autoImplicit false

namespace AtomicCss

universe u v

/-- An insertion-ordered map from names to values; no name is listed twice. -/
structure Table (α : Type u) where
  entries : List (String × α)
  keysNodup : (entries.map Prod.fst).Nodup

namespace Table

variable {α : Type u} {β : Type v}

@[ext] theorem ext {left right : Table α} (sameEntries : left.entries = right.entries) :
    left = right := by
  cases left
  cases right
  cases sameEntries
  rfl

instance [DecidableEq α] : DecidableEq (Table α) := fun left right =>
  decidable_of_iff (left.entries = right.entries) ⟨ext, fun same => same ▸ rfl⟩

/-- The table without entries. -/
def empty : Table α := ⟨[], List.nodup_nil⟩

instance : EmptyCollection (Table α) := ⟨empty⟩

instance : Inhabited (Table α) := ⟨empty⟩

/-- The names in order. -/
def keys (table : Table α) : List String := table.entries.map Prod.fst

/-- The values in the order of their names. -/
def values (table : Table α) : List α := table.entries.map Prod.snd

def size (table : Table α) : Nat := table.entries.length

def isEmpty (table : Table α) : Bool := table.entries.isEmpty

/-- The value under a name. -/
def get? (table : Table α) (key : String) : Option α := table.entries.lookup key

def contains (table : Table α) (key : String) : Bool := (table.get? key).isSome

/-- Writes into a list of entries: under a name already listed the combined value
replaces the old one in its place, a new name is listed last. -/
def addEntry (combine : α → α → α) (key : String) (value : α) :
    List (String × α) → List (String × α)
  | [] => [(key, value)]
  | (name, old) :: rest =>
      if name = key then (name, combine old value) :: rest
      else (name, old) :: addEntry combine key value rest

theorem map_fst_addEntry (combine : α → α → α) (key : String) (value : α)
    (entries : List (String × α)) :
    (addEntry combine key value entries).map Prod.fst =
      if key ∈ entries.map Prod.fst then entries.map Prod.fst
      else entries.map Prod.fst ++ [key] := by
  induction entries with
  | nil => simp [addEntry]
  | cons entry rest ih =>
      obtain ⟨name, old⟩ := entry
      by_cases same : name = key
      · simp [addEntry, same]
      · have different : key ≠ name := fun h => same h.symm
        simp only [addEntry, same, if_false, List.map_cons, ih, List.mem_cons, different,
          false_or]
        split <;> rfl

theorem lookup_cons_eq (entry : String × α) (rest : List (String × α)) (name : String) :
    (entry :: rest).lookup name = if name = entry.1 then some entry.2 else rest.lookup name := by
  obtain ⟨first, value⟩ := entry
  by_cases same : name = first
  · simp [same]
  · simp [List.lookup_cons, beq_eq_false_iff_ne.mpr same, same]

theorem lookup_addEntry (combine : α → α → α) (key : String) (value : α)
    (entries : List (String × α)) (name : String) :
    (addEntry combine key value entries).lookup name =
      if name = key then
        some (match entries.lookup key with
          | some old => combine old value
          | none => value)
      else entries.lookup name := by
  induction entries with
  | nil => simp [addEntry, lookup_cons_eq]
  | cons entry rest ih =>
      obtain ⟨first, old⟩ := entry
      by_cases atFirst : first = key
      · subst atFirst
        by_cases same : name = first <;> simp [addEntry, lookup_cons_eq, same]
      · have reversed : key ≠ first := fun h => atFirst h.symm
        by_cases same : name = first <;>
          simp [addEntry, lookup_cons_eq, atFirst, same, reversed, ih]

/-- Writes a value under a name, combining it with the value that is there. -/
def addWith (combine : α → α → α) (table : Table α) (key : String) (value : α) : Table α where
  entries := addEntry combine key value table.entries
  keysNodup := by
    rw [map_fst_addEntry]
    split
    · exact table.keysNodup
    · rename_i absent
      rw [List.nodup_append]
      refine ⟨table.keysNodup, by simp, ?_⟩
      intro name listed other isKey same
      simp only [List.mem_singleton] at isKey
      exact absent (isKey ▸ same ▸ listed)

/-- Writes a value under a name; the last value written stays. -/
def insert (table : Table α) (key : String) (value : α) : Table α :=
  table.addWith (fun _ new => new) key value

/-- The table of a list of entries: the last value of a name, at the name's first place. -/
def ofList (entries : List (String × α)) : Table α :=
  entries.foldl (fun table entry => table.insert entry.1 entry.2) empty

/-- Writes every entry of the second table into the first, combining the values of
names that both list. -/
def mergeWith (combine : α → α → α) (left right : Table α) : Table α :=
  right.entries.foldl (fun table entry => table.addWith combine entry.1 entry.2) left

/-- Lays the second table over the first: where both have a name the second one's value
is taken, new names follow in their order. -/
def overlay (left right : Table α) : Table α :=
  left.mergeWith (fun _ new => new) right

/-- Keeps the entries whose value has a counterpart. -/
def filterMap (select : α → Option β) (table : Table α) : Table β where
  entries := table.entries.filterMap fun entry =>
    (select entry.2).map fun value => (entry.1, value)
  keysNodup := by
    have sublist : ((table.entries.filterMap fun entry =>
        (select entry.2).map fun value => (entry.1, value)).map Prod.fst).Sublist
        (table.entries.map Prod.fst) := by
      induction table.entries with
      | nil => exact .slnil
      | cons entry rest ih =>
          cases kept : select entry.2 with
          | none => simpa [List.filterMap_cons, kept] using ih.cons entry.1
          | some value => simpa [List.filterMap_cons, kept] using ih.cons_cons entry.1
    exact sublist.nodup table.keysNodup

theorem keys_addWith (combine : α → α → α) (table : Table α) (key : String) (value : α) :
    (table.addWith combine key value).keys =
      if key ∈ table.keys then table.keys else table.keys ++ [key] :=
  map_fst_addEntry combine key value table.entries

theorem get?_addWith (combine : α → α → α) (table : Table α) (key : String) (value : α)
    (name : String) :
    (table.addWith combine key value).get? name =
      if name = key then
        some (match table.get? key with
          | some old => combine old value
          | none => value)
      else table.get? name :=
  lookup_addEntry combine key value table.entries name

theorem keys_insert (table : Table α) (key : String) (value : α) :
    (table.insert key value).keys =
      if key ∈ table.keys then table.keys else table.keys ++ [key] :=
  keys_addWith _ table key value

theorem get?_insert (table : Table α) (key : String) (value : α) (name : String) :
    (table.insert key value).get? name =
      if name = key then some value else table.get? name := by
  rw [insert, get?_addWith]
  split
  · cases table.get? key <;> rfl
  · rfl

theorem contains_iff_mem_keys (table : Table α) (name : String) :
    table.contains name = true ↔ name ∈ table.keys := by
  unfold contains get? keys
  induction table.entries with
  | nil => simp
  | cons entry rest ih =>
      obtain ⟨first, value⟩ := entry
      by_cases same : name = first
      · simp [same]
      · simp only [lookup_cons_eq, same, if_false, List.map_cons, List.mem_cons, false_or]
        exact ih

@[simp] theorem get?_empty (name : String) : (empty : Table α).get? name = none := rfl

@[simp] theorem keys_empty : (empty : Table α).keys = [] := rfl

end Table

end AtomicCss
