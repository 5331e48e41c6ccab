import AtomicCss.Reading.Document

/-!
# Records

Reading a record field by field, in the order of the document, so that the first fault in
that order is the one reported. Names that no field has are passed over with whatever they
hold. A field may be given once; the required fields must be there at the end.
-/

set_option autoImplicit false

namespace AtomicCss.Reading

/-- A field of a record that is being filled. -/
structure Field (δ σ : Type) where
  name : String
  /-- Further names under which the field may be given. -/
  otherNames : List String
  required : Bool
  /-- Reads the field and puts it into the record. -/
  fill : δ → σ → Except Fault σ

/-- A field read by a reader and put into its place. -/
def Field.of {δ σ α : Type} (name : String) (read : δ → Except Fault α) (put : α → σ → σ)
    (required : Bool := true) (otherNames : List String := []) : Field δ σ where
  name := name
  otherNames := otherNames
  required := required
  fill document record := (read document).map fun value => put value record

structure Record (δ σ : Type) where
  name : String
  fields : List (Field δ σ)

namespace Record

variable {δ σ : Type}

def field? (record : Record δ σ) (name : String) : Option (Field δ σ) :=
  record.fields.find? fun field => field.name == name || field.otherNames.contains name

/-- Fills in named members. The first argument lists the fields that are filled already. -/
def fillNamed (record : Record δ σ) (seen : List String) (filled : σ) :
    List (String × δ) → Except Fault σ
  | [] =>
      match record.fields.find? fun field => field.required && !seen.contains field.name with
      | some field => .error (.missingField field.name)
      | none => .ok filled
  | (name, part) :: rest =>
      match record.field? name with
      | none => record.fillNamed seen filled rest
      | some field =>
          if seen.contains field.name then .error (.duplicateField field.name)
          else do
            record.fillNamed (field.name :: seen) (← field.fill part filled) rest

/-- Fills in the fields one after the other. The first argument counts those filled. -/
def fillListed (record : Record δ σ) (position : Nat) (filled : σ) :
    List (Field δ σ) → List δ → Except Fault σ
  | [], [] => .ok filled
  | [], _ :: _ => .error .tooLong
  | field :: fields, [] =>
      if field.required then .error (.tooShort position record.name record.fields.length)
      else record.fillListed (position + 1) filled fields []
  | field :: fields, part :: rest => do
      record.fillListed (position + 1) (← field.fill part filled) fields rest

/-- Reads a record, starting from the value that has every optional field left out. -/
def read [Document δ] (record : Record δ σ) (start : σ) (document : δ) : Except Fault σ := do
  match ← Document.record record.name document with
  | .named members => record.fillNamed [] start members
  | .listed items => record.fillListed 0 start record.fields items

end Record

end AtomicCss.Reading
