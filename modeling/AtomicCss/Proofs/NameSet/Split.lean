import AtomicCss.NameSet
import AtomicCss.Proofs.Table.Views

/-!
# The two parts of a split

Splitting goes over the props once and writes each into its part. Each part is therefore the
table of the props on its side, in their order, whatever the values are. Names may come
repeatedly: a part has such a name once, at the place of its first occurrence and with the
value of its last one.
-/

set_option autoImplicit false

namespace AtomicCss.NameSet

variable {α : Type}

theorem map_fst_marks (names : List String) :
    (names.map fun name => (name, ())).map Prod.fst = names := by
  rw [List.map_map]
  exact List.map_id _

theorem contains_ofList (names : List String) (name : String) :
    (ofList names).contains name = true ↔ name ∈ names := by
  rw [contains, Table.contains_iff_mem_keys, ofList, Table.mem_keys_ofList, map_fst_marks]

theorem contains_iff_mem_names (set : NameSet) (name : String) :
    set.contains name = true ↔ name ∈ set.names :=
  Table.contains_iff_mem_keys set.marks name

theorem contains_eq_decide (set : NameSet) (name : String) :
    set.contains name = decide (name ∈ set.names) := by
  rw [Bool.eq_iff_iff, contains_iff_mem_names, decide_eq_true_iff]

theorem names_ofList {names : List String} (distinct : names.Nodup) :
    (ofList names).names = names := by
  rw [NameSet.names, ofList, Table.keys, Table.entries_ofList, map_fst_marks]
  rwa [map_fst_marks]

theorem split_concat (set : NameSet) (props : List (String × α)) (prop : String × α) :
    set.split (props ++ [prop]) = set.place (set.split props) prop.1 prop.2 := by
  rw [split, List.foldl_append]
  rfl

/-- A split has the table of the props with known names and that of all the others. -/
theorem split_eq (set : NameSet) (props : List (String × α)) :
    set.split props =
      { styling := Table.ofList (props.filter fun prop => set.contains prop.1)
        other := Table.ofList (props.filter fun prop => !set.contains prop.1) } := by
  induction props using List.reverseRecOn with
  | nil => rfl
  | append_singleton props prop ih =>
      rw [split_concat, ih, place, List.filter_append, List.filter_append]
      cases known : set.contains prop.1 with
      | true => simp [known, Table.ofList_concat]
      | false => simp [known, Table.ofList_concat]

variable {props : List (String × α)}

theorem nodup_filter (distinct : (props.map Prod.fst).Nodup) (keeps : String × α → Bool) :
    ((props.filter keeps).map Prod.fst).Nodup :=
  distinct.sublist (List.filter_sublist.map Prod.fst)

/-- Props with distinct names are split without being changed. -/
theorem entries_styling (set : NameSet) (distinct : (props.map Prod.fst).Nodup) :
    (set.split props).styling.entries = props.filter fun prop => set.contains prop.1 := by
  rw [split_eq]
  exact Table.entries_ofList _ (nodup_filter distinct _)

theorem entries_other (set : NameSet) (distinct : (props.map Prod.fst).Nodup) :
    (set.split props).other.entries = props.filter fun prop => !set.contains prop.1 := by
  rw [split_eq]
  exact Table.entries_ofList _ (nodup_filter distinct _)

/-- Whether repetitions are left out before or after a choice of names makes no difference. -/
theorem eraseDups_filter (keeps : String → Bool) (names : List String) :
    (names.filter keeps).eraseDups = names.eraseDups.filter keeps := by
  induction names using List.reverseRecOn with
  | nil => rfl
  | append_singleton names last ih =>
      simp only [List.filter_append, List.eraseDups_append, ih]
      by_cases kept : keeps last = true
      · by_cases repeated : last ∈ names
        · simp [List.removeAll, kept, repeated]
        · simp [List.removeAll, List.eraseDups_cons, kept, repeated]
      · by_cases repeated : last ∈ names
        · simp [List.removeAll, kept, repeated]
        · simp [List.removeAll, List.eraseDups_cons, kept, repeated]

theorem keys_ofList_filter (keeps : String → Bool) (props : List (String × α)) :
    (Table.ofList (props.filter fun prop => keeps prop.1)).keys =
      (props.map Prod.fst).eraseDups.filter keeps := by
  rw [Table.keys_ofList, ← eraseDups_filter, List.filter_map]
  rfl

theorem get?_ofList_filter_of_last (keeps : String → Bool) {before after : List (String × α)}
    {name : String} {value : α} (kept : keeps name = true) (last : name ∉ after.map Prod.fst) :
    (Table.ofList ((before ++ (name, value) :: after).filter fun prop => keeps prop.1)).get? name =
      some value := by
  have lastKept : name ∉ (after.filter fun prop => keeps prop.1).map Prod.fst := by
    intro listed
    exact last ((List.filter_sublist.map Prod.fst).subset listed)
  simp only [List.filter_append, List.filter_cons, kept, if_true]
  exact Table.get?_ofList_of_last _ value lastKept

theorem mem_keys_styling_iff (set : NameSet) (props : List (String × α)) (name : String) :
    name ∈ (set.split props).styling.keys ↔
      name ∈ props.map Prod.fst ∧ set.contains name = true := by
  rw [split_eq, keys_ofList_filter, List.mem_filter, List.mem_eraseDups]

theorem mem_keys_other_iff (set : NameSet) (props : List (String × α)) (name : String) :
    name ∈ (set.split props).other.keys ↔
      name ∈ props.map Prod.fst ∧ set.contains name = false := by
  rw [split_eq, keys_ofList_filter fun name => !set.contains name, List.mem_filter,
    List.mem_eraseDups, Bool.not_eq_true']

theorem filter_entries_of_forall {table : Table α} {keeps : String → Bool}
    (all : ∀ name ∈ table.keys, keeps name = true) :
    (table.entries.filter fun prop => keeps prop.1) = table.entries ∧
      (table.entries.filter fun prop => !keeps prop.1) = [] := by
  have kept : ∀ prop ∈ table.entries, keeps prop.1 = true := by
    intro prop listed
    exact all prop.1 (List.mem_map_of_mem listed)
  constructor
  · exact List.filter_eq_self.mpr kept
  · apply List.filter_eq_nil_iff.mpr
    intro prop listed
    simp [kept prop listed]

/-- Props that all have known names go to the styling part as they are. -/
theorem split_of_contains {set : NameSet} {table : Table α}
    (known : ∀ name ∈ table.keys, set.contains name = true) :
    set.split table.entries = { styling := table, other := ∅ } := by
  obtain ⟨allKept, noneLeft⟩ := filter_entries_of_forall known
  rw [split_eq, allKept, noneLeft, Table.ofList_entries]
  rfl

/-- Props that all have unknown names go to the other part as they are. -/
theorem split_of_not_contains {set : NameSet} {table : Table α}
    (unknown : ∀ name ∈ table.keys, set.contains name = false) :
    set.split table.entries = { styling := ∅, other := table } := by
  have missing : ∀ name ∈ table.keys, (!set.contains name) = true := by
    intro name listed
    simp [unknown name listed]
  obtain ⟨allLeft, noneKept⟩ := filter_entries_of_forall missing
  simp only [Bool.not_not] at noneKept
  rw [split_eq, noneKept, allLeft, Table.ofList_entries]
  rfl

/-- A split is a partition by name. Each part has the names on its side once, in the order of
their first occurrences, with the values of their last ones; no name is in both parts, none is
lost, and a part that is split again stays as it is. -/
theorem split_partitions (set : NameSet) (props : List (String × α)) :
    let parts := set.split props
    (∀ name, set.contains name = true ↔ name ∈ set.names) ∧
    (parts.styling.keys = (props.map Prod.fst).eraseDups.filter (· ∈ set.names) ∧
      parts.other.keys = (props.map Prod.fst).eraseDups.filter (· ∉ set.names)) ∧
    (parts.styling.keys.Nodup ∧ parts.other.keys.Nodup ∧
      parts.styling.keys.Disjoint parts.other.keys) ∧
    (∀ name, name ∈ props.map Prod.fst ↔
      name ∈ parts.styling.keys ∨ name ∈ parts.other.keys) ∧
    (∀ before name value after, props = before ++ (name, value) :: after →
      name ∉ after.map Prod.fst →
      (name ∈ set.names → parts.styling.get? name = some value) ∧
      (name ∉ set.names → parts.other.get? name = some value)) ∧
    set.split parts.styling.entries = { styling := parts.styling, other := ∅ } ∧
    set.split parts.other.entries = { styling := ∅, other := parts.other } := by
  intro parts
  refine ⟨set.contains_iff_mem_names, ⟨?_, ?_⟩,
    ⟨parts.styling.keysNodup, parts.other.keysNodup, ?_⟩, ?_, ?_, ?_, ?_⟩
  · simp only [parts, split_eq, contains_eq_decide]
    exact keys_ofList_filter (fun name => decide (name ∈ set.names)) props
  · simp only [parts, split_eq, contains_eq_decide, decide_not]
    exact keys_ofList_filter (fun name => !decide (name ∈ set.names)) props
  · intro name inStyling inOther
    have known := ((set.mem_keys_styling_iff props name).mp inStyling).2
    have unknown := ((set.mem_keys_other_iff props name).mp inOther).2
    exact Bool.false_ne_true (unknown.symm.trans known)
  · intro name
    rw [mem_keys_styling_iff, mem_keys_other_iff]
    cases set.contains name with
    | true => simp
    | false => simp
  · intro before name value after whole last
    simp only [parts, split_eq, whole, ← contains_iff_mem_names]
    constructor
    · intro known
      exact get?_ofList_filter_of_last set.contains known last
    · intro unknown
      exact get?_ofList_filter_of_last (fun name => !set.contains name) (by simp [unknown]) last
  · apply split_of_contains
    intro name listed
    exact ((set.mem_keys_styling_iff props name).mp listed).2
  · apply split_of_not_contains
    intro name listed
    exact ((set.mem_keys_other_iff props name).mp listed).2

/-- A name that comes again keeps its first place and takes its last value. -/
example :
    let parts := (ofList ["color", "px"]).split [("px", 1), ("id", 2), ("color", 3), ("px", 4)]
    parts.styling.entries = [("px", 4), ("color", 3)] ∧ parts.other.entries = [("id", 2)] := by
  decide

end AtomicCss.NameSet
