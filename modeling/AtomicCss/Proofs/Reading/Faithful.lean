import AtomicCss.Proofs.Json.Layouts
import AtomicCss.Reading.JsonText
import AtomicCss.Reading.Record
import AtomicCss.Table.Lemmas
import Mathlib.Data.List.Basic

/-!
# Faithful readers

A reader is faithful to a writer if it finds every value in the tree that the writer makes of
it. Lists, tables and records are read faithfully where their parts are: what a writer leaves
out of a record is what the record has before it is filled.
-/

set_option autoImplicit false

namespace AtomicCss.Reading

theorem mapM_written {α β : Type} {write : α → β} {read : β → Except Fault α}
    (reads : ∀ value, read (write value) = .ok value) (values : List α) :
    (values.map write).mapM read = .ok values := by
  induction values with
  | nil => rfl
  | cons value rest ih =>
      rw [List.map_cons, List.mapM_cons, reads, ih]
      rfl

theorem ofJsonText_eq_ok_iff {α : Type} {read : Json → Except Fault α} {text : String}
    {value : α} :
    ofJsonText read text = .ok value ↔
      ∃ tree, Json.ofText? text = some tree ∧ read tree = .ok value := by
  rw [ofJsonText]
  cases Json.ofText? text with
  | none => simp
  | some tree =>
      -- whether the rest of the text is readable tells only which fault is reported
      cases isRead : read tree <;> simp [isRead]

/-- A reader finds every value in the tree that it is written as. -/
structure Faithful {α : Type} (read : Json → Except Fault α) (write : α → Json) : Prop where
  reads : ∀ value, read (write value) = .ok value
  textual : ∀ value, (write value).isTextual = true

namespace Faithful

variable {α : Type} {read : Json → Except Fault α} {write : α → Json}

theorem ofJsonText_compact (faithful : Faithful read write) (value : α) :
    ofJsonText read (write value).compact = .ok value := by
  rw [ofJsonText, Json.ofText?_compact (faithful.textual value)]
  simp only [faithful.reads value]

theorem ofJsonText_pretty (faithful : Faithful read write) (value : α) :
    ofJsonText read (write value).pretty = .ok value := by
  rw [ofJsonText, Json.ofText?_pretty (faithful.textual value)]
  simp only [faithful.reads value]

theorem text : Faithful (Document.text : Json → Except Fault String) .string where
  reads _ := rfl
  textual _ := rfl

theorem list (faithful : Faithful read write) :
    Faithful (Reading.list read) (fun values => .array (values.map write)) where
  reads values := mapM_written faithful.reads values
  textual values := by
    induction values with
    | nil => rfl
    | cons value rest ih => exact Bool.and_eq_true_iff.mpr ⟨faithful.textual value, ih⟩

theorem texts : Faithful (Reading.list Document.text) Json.ofTexts := text.list

theorem table (faithful : Faithful read write) :
    Faithful (Reading.table read) (Json.ofTable write) where
  reads values := by
    have mapped := @mapM_written (String × α) (String × Json)
      (fun entry : String × α => (entry.1, write entry.2))
      (fun part : String × Json => do return (part.1, ← read part.2))
      (fun entry => by simp only [faithful.reads]; rfl) values.entries
    -- reading the members one by one and collecting them are the two steps of the reader
    exact (congrArg (Except.map Table.ofList) mapped).trans
      (congrArg Except.ok values.ofList_entries)
  textual values := by
    change Json.membersAreTextual (values.entries.map fun entry => (entry.1, write entry.2)) = true
    induction values.entries with
    | nil => rfl
    | cons entry rest ih => exact Bool.and_eq_true_iff.mpr ⟨faithful.textual entry.2, ih⟩

theorem optional_some (faithful : Faithful read write) (value : α) :
    optional read (write value) = .ok (some value) := by
  have present : Document.isAbsent (write value) = .ok false := by
    have textual := faithful.textual value
    cases written : write value with
    | null => rw [written] at textual; cases textual
    | _ => rfl
  rw [optional, present]
  change (do return some (← read (write value))) = _
  rw [faithful.reads value]
  rfl

end Faithful

/-- The names under which a field may be given. -/
def Field.names {δ σ : Type} (field : Field δ σ) : List String := field.name :: field.otherNames

/-- Members written for fields, in their order, turn one record into another. -/
inductive Fills {σ : Type} : List (Field Json σ) → σ → List (String × Json) → σ → Prop where
  | nil {filled : σ} : Fills [] filled [] filled
  | given {field : Field Json σ} {fields : List (Field Json σ)} {start next filled : σ}
      {part : Json} {members : List (String × Json)} :
      field.fill part start = .ok next → part.isTextual = true → Fills fields next members filled →
      Fills (field :: fields) start ((field.name, part) :: members) filled
  | leftOut {field : Field Json σ} {fields : List (Field Json σ)} {start filled : σ}
      {members : List (String × Json)} :
      field.required = false → Fills fields start members filled →
      Fills (field :: fields) start members filled

namespace Fills

variable {σ α : Type} {fields : List (Field Json σ)} {start filled : σ}
  {members : List (String × Json)} {read : Json → Except Fault α} {write : α → Json}
  {put : α → σ → σ}

theorem of (faithful : Faithful read write) {name : String} {required : Bool}
    {otherNames : List String} (value : α)
    (rest : Fills fields (put value start) members filled) :
    Fills (.of name read put required otherNames :: fields) start
      ((name, write value) :: members) filled := by
  refine .given ?_ (faithful.textual value) rest
  change (read (write value)).map _ = _
  rw [faithful.reads]
  rfl

theorem optional {put : Option α → σ → σ} (faithful : Faithful read write) {name : String}
    {otherNames : List String} (value : Option α) (untouched : put none start = start)
    (rest : Fills fields (put value start) members filled) :
    Fills (.of name (Reading.optional read) put false otherNames :: fields) start
      (Json.optionalMember name write value ++ members) filled := by
  cases value with
  | none =>
      rw [untouched] at rest
      exact .leftOut rfl rest
  | some value =>
      refine .given ?_ (faithful.textual value) rest
      change (Reading.optional read (write value)).map _ = _
      rw [faithful.optional_some]
      rfl

theorem table {put : Table α → σ → σ} (faithful : Faithful read write) {name : String}
    (values : Table α) (untouched : put ∅ start = start)
    (rest : Fills fields (put values start) members filled) :
    Fills (.of name (Reading.table read) put false :: fields) start
      (Json.tableMember name write values ++ members) filled := by
  rw [Json.tableMember]
  split
  · next nothing =>
      have same : values = ∅ := Table.ext (List.isEmpty_iff.mp nothing)
      rw [same, untouched] at rest
      exact .leftOut rfl rest
  · exact .of faithful.table values rest

theorem textual (fills : Fills fields start members filled) :
    Json.membersAreTextual members = true := by
  induction fills with
  | nil => rfl
  | given _ textual _ ih => exact Bool.and_eq_true_iff.mpr ⟨textual, ih⟩
  | leftOut _ _ ih => exact ih

end Fills

namespace Record

variable {σ : Type} {record : Record Json σ}

/-- No name stands for two fields. -/
def Distinct (record : Record Json σ) : Prop := (record.fields.flatMap Field.names).Nodup

instance : Decidable record.Distinct :=
  inferInstanceAs (Decidable (record.fields.flatMap Field.names).Nodup)

theorem Distinct.field?_eq (distinct : record.Distinct) {field : Field Json σ}
    (listed : field ∈ record.fields) : record.field? field.name = some field := by
  obtain ⟨before, after, same⟩ := List.mem_iff_append.mp listed
  refine List.find?_eq_some_iff_append.mpr ⟨by simp, before, after, same, ?_⟩
  intro other earlier
  rw [Distinct, same, List.flatMap_append, List.flatMap_cons] at distinct
  obtain ⟨_, _, apart⟩ := List.nodup_append.mp distinct
  have inOthers : ∀ name ∈ other.names, name ≠ field.name := by
    intro name ofOther
    exact apart name (List.mem_flatMap.mpr ⟨other, earlier, ofOther⟩) field.name
      (List.mem_append_left _ List.mem_cons_self)
  have notName : other.name ≠ field.name := inOthers _ List.mem_cons_self
  have notOther : field.name ∉ other.otherNames := fun listed =>
    inOthers _ (List.mem_cons_of_mem _ listed) rfl
  simp [notName, notOther]

/-- Members written for the fields that are left to fill are all taken up. -/
theorem fillNamed_of_fills (distinct : record.Distinct) {fields : List (Field Json σ)}
    {start filled : σ} {members : List (String × Json)} {seen : List String}
    (fills : Fills fields start members filled) (left : fields ⊆ record.fields)
    (apart : (fields.map Field.name).Nodup) (fresh : ∀ field ∈ fields, field.name ∉ seen)
    (taken : ∀ field ∈ record.fields, field.required = true → field.name ∈ seen ∨ field ∈ fields) :
    record.fillNamed seen start members = .ok filled := by
  induction fills generalizing seen with
  | nil =>
      have complete : record.fields.find? (fun field =>
          field.required && !seen.contains field.name) = none := by
        refine List.find?_eq_none.mpr fun field listed missing => ?_
        rw [Bool.and_eq_true] at missing
        rcases taken field listed missing.1 with known | left
        · simp [known] at missing
        · cases left
      rw [fillNamed, complete]
  | @given field fields start next filled part members fill textual rest ih =>
      rw [List.map_cons, List.nodup_cons] at apart
      have unseen : seen.contains field.name = false := by
        simpa using fresh field List.mem_cons_self
      rw [fillNamed, distinct.field?_eq (left List.mem_cons_self)]
      simp only [unseen, fill]
      refine ih (fun other listed => left (List.mem_cons_of_mem _ listed)) apart.2 ?_ ?_
      · intro other listed known
        rcases List.mem_cons.mp known with same | earlier
        · exact apart.1 (same ▸ List.mem_map_of_mem listed)
        · exact fresh other (List.mem_cons_of_mem _ listed) earlier
      · intro other listed required
        rcases taken other listed required with known | toFill
        · exact .inl (List.mem_cons_of_mem _ known)
        · rcases List.mem_cons.mp toFill with rfl | later
          · exact .inl List.mem_cons_self
          · exact .inr later
  | @leftOut field fields start filled members notRequired rest ih =>
      rw [List.map_cons, List.nodup_cons] at apart
      refine ih (fun other listed => left (List.mem_cons_of_mem _ listed)) apart.2
        (fun other listed => fresh other (List.mem_cons_of_mem _ listed)) ?_
      intro other listed required
      rcases taken other listed required with known | toFill
      · exact .inl known
      · rcases List.mem_cons.mp toFill with rfl | later
        · cases notRequired.symm.trans required
        · exact .inr later

theorem Distinct.names (distinct : record.Distinct) : (record.fields.map Field.name).Nodup := by
  refine List.Sublist.nodup ?_ distinct
  induction record.fields with
  | nil => exact .slnil
  | cons field rest ih => exact .cons_cons _ (ih.trans (List.sublist_append_right _ _))

end Record

/-- A record is read back from the members that its writer gives to its fields. -/
theorem Faithful.record {σ : Type} {record : Record Json σ} {start : σ} {write : σ → Json}
    (distinct : record.Distinct)
    (fills : ∀ value, ∃ members,
      Fills record.fields start members value ∧ write value = .object members) :
    Faithful (record.read start) write where
  reads value := by
    obtain ⟨members, fills, written⟩ := fills value
    rw [written]
    exact Record.fillNamed_of_fills distinct fills (List.Subset.refl _) distinct.names
      (fun _ _ => List.not_mem_nil) (fun _ listed _ => .inr listed)
  textual value := by
    obtain ⟨members, fills, written⟩ := fills value
    rw [written]
    exact fills.textual

end AtomicCss.Reading
