import AtomicCss.Proofs.Yaml.Contents
import AtomicCss.Proofs.Yaml.Numerals
import AtomicCss.Reading.Record

/-!
# Readers of two formats

A reader is written once for all formats. Where a content shows a tree, what it finds in the two
is the same, or at least related: lists, tables and records are related where their parts are.
-/

set_option autoImplicit false

namespace AtomicCss

/-- Two things have the same name, and what stands under it is related. -/
def Named {α β : Type} (related : α → β → Prop) (left : String × α) (right : String × β) : Prop :=
  left.1 = right.1 ∧ related left.2 right.2

theorem eq_of_forall₂ {α : Type} {related : α → α → Prop}
    (equal : ∀ value value', related value value' → value = value') {list list' : List α}
    (alike : List.Forall₂ related list list') : list = list' := by
  induction alike with
  | nil => rfl
  | cons first _ ih => rw [equal _ _ first, ih]

/-- Two tables have the same names in the same order, and related values. -/
def Table.Alike {α : Type} (related : α → α → Prop) (left right : Table α) : Prop :=
  List.Forall₂ (Named related) left.entries right.entries

namespace Table

section Named

variable {α β : Type} {related : α → β → Prop}

theorem named_addEntry (name : String) {value : α} {other : β} (same : related value other)
    {entries : List (String × α)} {others : List (String × β)}
    (alike : List.Forall₂ (Named related) entries others) :
    List.Forall₂ (Named related) (addEntry (fun _ new => new) name value entries)
      (addEntry (fun _ new => new) name other others) := by
  induction alike with
  | nil => exact .cons ⟨rfl, same⟩ .nil
  | @cons entry entry' rest rest' first alike ih =>
      rw [addEntry, addEntry, ← first.1]
      split
      · exact .cons ⟨rfl, same⟩ alike
      · exact .cons ⟨rfl, first.2⟩ ih

theorem named_ofList {entries : List (String × α)} {others : List (String × β)}
    (named : List.Forall₂ (Named related) entries others) :
    List.Forall₂ (Named related) (ofList entries).entries (ofList others).entries := by
  have goesOn : ∀ {table : Table α} {table' : Table β},
      List.Forall₂ (Named related) table.entries table'.entries →
        List.Forall₂ (Named related)
          (entries.foldl (fun table entry => table.insert entry.1 entry.2) table).entries
          (others.foldl (fun table entry => table.insert entry.1 entry.2) table').entries := by
    induction named with
    | nil => exact fun alike => alike
    | @cons entry entry' rest rest' first named ih =>
        intro table table' alike
        have written := named_addEntry entry.1 first.2 alike
        rw [List.foldl_cons, List.foldl_cons, ← first.1]
        exact ih written
  exact goesOn .nil

theorem lookup_of_named {entries : List (String × α)} {others : List (String × β)}
    (named : List.Forall₂ (Named related) entries others) {name : String} {value : α}
    (found : entries.lookup name = some value) :
    ∃ other, others.lookup name = some other ∧ related value other := by
  induction named with
  | nil => cases found
  | @cons entry entry' rest rest' first _ ih =>
      rw [lookup_cons_eq] at found ⊢
      rw [← first.1]
      split at found
      · next same =>
          cases found
          exact ⟨entry'.2, if_pos same, first.2⟩
      · next other =>
          obtain ⟨value', found', alike⟩ := ih found
          exact ⟨value', (if_neg other).trans found', alike⟩

end Named

variable {α : Type} {related : α → α → Prop}

theorem alike_ofList {entries others : List (String × α)}
    (named : List.Forall₂ (Named related) entries others) :
    (ofList entries).Alike related (ofList others) := named_ofList named

/-- Tables that are alike are the same where related values are. -/
theorem Alike.eq (equal : ∀ value value', related value value' → value = value')
    {table table' : Table α} (alike : table.Alike related table') : table = table' :=
  ext (eq_of_forall₂ (fun _ _ named => Prod.ext named.1 (equal _ _ named.2)) alike)

end Table

namespace Reading

open Yaml (Content Shows ShowsMember Denotes)

theorem bind_eq_ok {ε α β : Type} {first : Except ε α} {next : α → Except ε β} {result : β}
    (success : first >>= next = .ok result) :
    ∃ value, first = .ok value ∧ next value = .ok result := by
  cases first with
  | error fault => cases success
  | ok value => exact ⟨value, rfl, success⟩

theorem forall₂_of_mapM {ε α β : Type} {read : α → Except ε β} {parts : List α} {found : List β}
    (success : parts.mapM read = .ok found) :
    List.Forall₂ (fun part value => read part = .ok value) parts found := by
  induction parts generalizing found with
  | nil =>
      cases success
      exact .nil
  | cons part rest ih =>
      rw [List.mapM_cons] at success
      obtain ⟨value, isValue, success⟩ := bind_eq_ok success
      obtain ⟨others, areOthers, success⟩ := bind_eq_ok success
      cases success
      exact .cons isValue (ih areOthers)

theorem forall₂_of_mapM_some {α β : Type} {read : α → Option β} {parts : List α} {found : List β}
    (success : parts.mapM read = some found) :
    List.Forall₂ (fun part value => read part = some value) parts found := by
  induction parts generalizing found with
  | nil =>
      cases success
      exact .nil
  | cons part rest ih =>
      rw [List.mapM_cons] at success
      obtain ⟨value, isValue, success⟩ := Option.bind_eq_some_iff.mp success
      obtain ⟨others, areOthers, success⟩ := Option.bind_eq_some_iff.mp success
      cases success
      exact .cons isValue (ih areOthers)

theorem mapM_eq_some_iff {α β : Type} {read : α → Option β} {parts : List α} {found : List β} :
    parts.mapM read = some found ↔
      List.Forall₂ (fun part value => read part = some value) parts found := by
  refine ⟨forall₂_of_mapM_some, fun each => ?_⟩
  induction each with
  | nil => rfl
  | cons first _ ih => simp [List.mapM_cons, first, ih]

theorem exists_forall₂_iff {α β : Type} {denotes : α → β → Prop} {parts : List α} :
    (∃ found, List.Forall₂ denotes parts found) ↔ ∀ part ∈ parts, ∃ value, denotes part value := by
  constructor
  · rintro ⟨found, all⟩ part listed
    induction all with
    | nil => cases listed
    | cons first _ ih =>
        rcases List.mem_cons.mp listed with rfl | later
        · exact ⟨_, first⟩
        · exact ih later
  · intro each
    induction parts with
    | nil => exact ⟨[], .nil⟩
    | cons part rest ih =>
        obtain ⟨⟨value, first⟩, each⟩ := List.forall_mem_cons.mp each
        obtain ⟨found, all⟩ := ih each
        exact ⟨value :: found, .cons first all⟩

/-- What is made of related parts, one by one, is related. -/
theorem forall₂_map {α α' β β' : Type} {related : α → α' → Prop} {gives : α → β → Prop}
    {gives' : α' → β' → Prop} {results : β → β' → Prop}
    (step : ∀ part part', related part part' → ∀ value value', gives part value →
      gives' part' value' → results value value')
    {parts : List α} {parts' : List α'} (alike : List.Forall₂ related parts parts')
    {found : List β} {found' : List β'} (areFound : List.Forall₂ gives parts found)
    (areFound' : List.Forall₂ gives' parts' found') : List.Forall₂ results found found' := by
  induction alike generalizing found found' with
  | nil =>
      cases areFound
      cases areFound'
      exact .nil
  | cons first _ ih =>
      cases areFound with
      | cons isFirst areOthers =>
          cases areFound' with
          | cons isFirst' areOthers' =>
              exact .cons (step _ _ first _ _ isFirst isFirst') (ih areOthers areOthers')

/-! ## What a content shows of a tree -/

section Shows

variable {given : String → Prop} {content : Content}

theorem not_isCollection_of_denotes {tree : Json} {scalar : Yaml.Scalar}
    (denotes : Denotes given tree scalar) : ¬ Yaml.IsCollection tree := by
  cases denotes with
  | number numeral _ => exact Yaml.not_isCollection_value numeral
  | _ => rintro (⟨items, same⟩ | ⟨members, same⟩) <;> cases same

theorem shows_string {text : String} (shows : Shows given (.string text) content) :
    content = .passedOver ∨ content = .scalar ⟨false, text, none⟩ := by
  generalize isText : Json.string text = tree at shows
  cases shows with
  | scalar denotes =>
      cases denotes with
      | string other =>
          cases isText
          exact .inr rfl
      | number numeral isGiven =>
          rcases numeral.value_cases with ⟨number, isValue⟩ | isValue <;>
            cases isText.trans isValue
      | null => cases isText
      | yes => cases isText
      | no => cases isText
  | sequence => cases isText
  | mapping => cases isText
  | passedOver => exact .inl rfl

theorem shows_array {items : List Json} (shows : Shows given (.array items) content) :
    content = .passedOver ∨ ∃ contents, content = .sequence none contents ∧
      List.Forall₂ (Shows given) items contents := by
  generalize isArray : Json.array items = tree at shows
  cases shows with
  | scalar denotes =>
      exact absurd (.inl ⟨items, isArray.symm⟩) (not_isCollection_of_denotes denotes)
  | sequence shown =>
      cases isArray
      exact .inr ⟨_, rfl, shown⟩
  | mapping => cases isArray
  | passedOver => exact .inl rfl

theorem shows_object {members : List (String × Json)}
    (shows : Shows given (.object members) content) :
    content = .passedOver ∨ ∃ contents, content = .mapping none contents ∧
      List.Forall₂ (ShowsMember given) members contents := by
  generalize isObject : Json.object members = tree at shows
  cases shows with
  | scalar denotes =>
      exact absurd (.inr ⟨members, isObject.symm⟩) (not_isCollection_of_denotes denotes)
  | sequence => cases isObject
  | mapping shown =>
      cases isObject
      exact .inr ⟨_, rfl, shown⟩
  | passedOver => exact .inl rfl

/-- A member is found under the name that it has in the tree. -/
theorem exists_members {members : List (String × Json)} {contents : List (Content × Content)}
    (shown : List.Forall₂ (ShowsMember given) members contents) (wanted : Wanted) :
    ∃ named, Content.members wanted (.mapping none contents) = .ok named ∧
      List.Forall₂ (Named (Shows given)) members named := by
  induction shown with
  | nil => exact ⟨[], rfl, .nil⟩
  | @cons member content rest contents first _ ih =>
      obtain ⟨named, isNamed, shows⟩ := ih
      cases first with
      | @mk name value content first =>
          refine ⟨(name, content) :: named, ?_, .cons ⟨rfl, first⟩ shows⟩
          rw [Content.members] at isNamed ⊢
          rw [List.mapM_cons, isNamed]
          rfl

/-- A value is left out in a tree where it is left out in the content. -/
theorem shows_isAbsent {tree : Json} (shows : Shows given tree content) :
    content = .passedOver ∨ Document.isAbsent content = Document.isAbsent tree := by
  cases shows with
  | scalar denotes =>
      refine .inr ?_
      cases denotes with
      | number numeral isGiven =>
          rcases numeral.value_cases with ⟨number, isValue⟩ | isValue <;> rw [isValue] <;>
            exact congrArg Except.ok (Yaml.isNullText_spelled numeral)
      | _ => rfl
  | sequence => exact .inr rfl
  | mapping => exact .inr rfl
  | passedOver => exact .inl rfl

end Shows

/-! ## Readers -/

/-- What the two find in a tree and in a content that shows it is related. Where nothing has
been looked at, nothing is found. -/
structure Agree (given : String → Prop) {α : Type} (related : α → α → Prop)
    (ofTree : Json → Except Fault α) (ofContent : Content → Except Fault α) : Prop where
  related : ∀ {tree : Json} {content : Content}, Shows given tree content →
    ∀ {left right : α}, ofTree tree = .ok left → ofContent content = .ok right →
    related left right
  refuses : ∀ found, ofContent .passedOver ≠ .ok found

section Agree

variable {given : String → Prop} {α : Type} {same : α → α → Prop}
  {ofTree : Json → Except Fault α} {ofContent : Content → Except Fault α}

theorem Agree.imp (agree : Agree given same ofTree ofContent) {weaker : α → α → Prop}
    (weakens : ∀ value value', same value value' → weaker value value') :
    Agree given weaker ofTree ofContent where
  related shows _ _ isLeft isRight := weakens _ _ (agree.related shows isLeft isRight)
  refuses := agree.refuses

theorem Agree.text : Agree given (· = ·) Document.text Document.text where
  related {tree content} shows left right isLeft isRight := by
    cases tree with
    | string text =>
        rcases shows_string shows with rfl | rfl
        · cases isRight
        · cases isLeft
          cases isRight
          rfl
    | _ => cases isLeft
  refuses found isFound := nomatch isFound

theorem optional_passedOver (refuses : ∀ found, ofContent .passedOver ≠ .ok found)
    (found : Option α) : optional ofContent .passedOver ≠ .ok found := by
  intro isFound
  have present : (do return some (← ofContent .passedOver)) = Except.ok found := isFound
  obtain ⟨value, isValue, -⟩ := bind_eq_ok present
  exact refuses value isValue

theorem Agree.optional (agree : Agree given (· = ·) ofTree ofContent) :
    Agree given (· = ·) (optional ofTree) (optional ofContent) where
  related {tree content} shows left right isLeft isRight := by
    rcases shows_isAbsent shows with rfl | sameAbsent
    · exact absurd isRight (optional_passedOver agree.refuses right)
    · obtain ⟨absent, isAbsent, isLeft⟩ := bind_eq_ok isLeft
      obtain ⟨absent', isAbsent', isRight⟩ := bind_eq_ok isRight
      rw [isAbsent, isAbsent'] at sameAbsent
      cases sameAbsent
      cases absent with
      | true =>
          cases isLeft
          cases isRight
          rfl
      | false =>
          obtain ⟨value, isValue, isLeft⟩ := bind_eq_ok isLeft
          obtain ⟨value', isValue', isRight⟩ := bind_eq_ok isRight
          cases isLeft
          cases isRight
          rw [agree.related shows isValue isValue']
  refuses := optional_passedOver agree.refuses

theorem Agree.list (agree : Agree given same ofTree ofContent) :
    Agree given (List.Forall₂ same) (list ofTree) (list ofContent) where
  related {tree content} shows left right isLeft isRight := by
    obtain ⟨items, isItems, isLeft⟩ := bind_eq_ok isLeft
    obtain ⟨contents, isContents, isRight⟩ := bind_eq_ok isRight
    cases tree with
    | array listed =>
        cases isItems
        rcases shows_array shows with rfl | ⟨shown, rfl, areShown⟩
        · cases isContents
        · cases isContents
          refine forall₂_map ?_ areShown (forall₂_of_mapM isLeft) (forall₂_of_mapM isRight)
          exact fun _ _ shows _ _ isValue isValue' => agree.related shows isValue isValue'
    | _ => cases isItems
  refuses found isFound := nomatch isFound

theorem Agree.table (agree : Agree given same ofTree ofContent) :
    Agree given (Table.Alike same) (table ofTree) (table ofContent) where
  related {tree content} shows left right isLeft isRight := by
    obtain ⟨members, isMembers, isLeft⟩ := bind_eq_ok isLeft
    obtain ⟨entries, areEntries, isLeft⟩ := bind_eq_ok isLeft
    obtain ⟨contents, isContents, isRight⟩ := bind_eq_ok isRight
    obtain ⟨entries', areEntries', isRight⟩ := bind_eq_ok isRight
    cases isLeft
    cases isRight
    cases tree with
    | object listed =>
        cases isMembers
        rcases shows_object shows with rfl | ⟨shown, rfl, areShown⟩
        · cases isContents
        · obtain ⟨named, isNamed, areNamed⟩ := exists_members areShown .map
          cases isNamed.symm.trans isContents
          refine Table.alike_ofList (forall₂_map ?_ areNamed (forall₂_of_mapM areEntries)
            (forall₂_of_mapM areEntries'))
          intro part part' shows entry entry' isEntry isEntry'
          dsimp only at isEntry isEntry'
          obtain ⟨value, isValue, isEntry⟩ := bind_eq_ok isEntry
          obtain ⟨value', isValue', isEntry'⟩ := bind_eq_ok isEntry'
          cases isEntry
          cases isEntry'
          exact ⟨shows.1, agree.related shows.2 isValue isValue'⟩
    | _ => cases isMembers
  refuses found isFound := by
    obtain ⟨members, isMembers, -⟩ := bind_eq_ok isFound
    cases isMembers

end Agree

/-! ## Records -/

/-- Two fields have the same names, and they fill records that are alike alike. -/
structure Field.Agree (given : String → Prop) {σ : Type} (same : σ → σ → Prop)
    (ofTree : Field Json σ) (ofContent : Field Content σ) : Prop where
  name : ofTree.name = ofContent.name
  otherNames : ofTree.otherNames = ofContent.otherNames
  required : ofTree.required = ofContent.required
  fill : ∀ {tree : Json} {content : Content}, Shows given tree content →
    ∀ {left right left' right' : σ}, same left right → ofTree.fill tree left = .ok left' →
    ofContent.fill content right = .ok right' → same left' right'

section Records

variable {given : String → Prop} {σ : Type} {same : σ → σ → Prop}
  {ofTree : Record Json σ} {ofContent : Record Content σ}

theorem Field.agree_of {α : Type} {related : α → α → Prop} {read : Json → Except Fault α}
    {read' : Content → Except Fault α} (agree : Reading.Agree given related read read')
    {put : α → σ → σ}
    (puts : ∀ {value value'}, related value value' → ∀ {left right}, same left right →
      same (put value left) (put value' right))
    {name : String} {required : Bool} {otherNames : List String} :
    Field.Agree given same (.of name read put required otherNames)
      (.of name read' put required otherNames) where
  name := rfl
  otherNames := rfl
  required := rfl
  fill {tree content} shows left right left' right' alike isLeft isRight := by
    change (read tree).map _ = _ at isLeft
    change (read' content).map _ = _ at isRight
    cases isValue : read tree with
    | error fault =>
        rw [isValue] at isLeft
        cases isLeft
    | ok value =>
        cases isValue' : read' content with
        | error fault =>
            rw [isValue'] at isRight
            cases isRight
        | ok value' =>
            rw [isValue] at isLeft
            rw [isValue'] at isRight
            cases isLeft
            cases isRight
            exact puts (agree.related shows isValue isValue') alike

/-- Records whose fields agree look the same field up. -/
theorem Record.field?_agree
    (fields : List.Forall₂ (Field.Agree given same) ofTree.fields ofContent.fields)
    (name : String) :
    (ofTree.field? name = none ∧ ofContent.field? name = none) ∨
      ∃ field field', ofTree.field? name = some field ∧ ofContent.field? name = some field' ∧
        Field.Agree given same field field' := by
  rw [Record.field?, Record.field?]
  generalize ofTree.fields = listed, ofContent.fields = listed' at fields ⊢
  induction fields with
  | nil => exact .inl ⟨rfl, rfl⟩
  | @cons field field' rest rest' first _ ih =>
      rw [List.find?_cons, List.find?_cons, ← first.name, ← first.otherNames]
      split
      · exact .inr ⟨field, field', rfl, rfl, first⟩
      · exact ih

/-- Named members fill records alike, one after the other. -/
theorem Record.fillNamed_agree
    (fields : List.Forall₂ (Field.Agree given same) ofTree.fields ofContent.fields)
    {members : List (String × Json)} {named : List (String × Content)}
    (areNamed : List.Forall₂ (Named (Shows given)) members named) {seen : List String}
    {left right left' right' : σ} (alike : same left right)
    (isLeft : ofTree.fillNamed seen left members = .ok left')
    (isRight : ofContent.fillNamed seen right named = .ok right') : same left' right' := by
  induction areNamed generalizing seen left right with
  | nil =>
      rw [Record.fillNamed] at isLeft isRight
      split at isLeft
      · cases isLeft
      · split at isRight
        · cases isRight
        · cases isLeft
          cases isRight
          exact alike
  | @cons member part members named first _ ih =>
      obtain ⟨name, tree⟩ := member
      obtain ⟨name', content⟩ := part
      obtain ⟨sameName, shows⟩ := first
      dsimp only at sameName shows
      subst sameName
      rw [Record.fillNamed] at isLeft isRight
      rcases Record.field?_agree fields name with
        ⟨none, none'⟩ | ⟨field, field', some, some', agree⟩
      · rw [none] at isLeft
        rw [none'] at isRight
        exact ih alike isLeft isRight
      · rw [some] at isLeft
        rw [some'] at isRight
        dsimp only at isLeft isRight
        rw [← agree.name] at isRight
        split at isLeft
        · cases isLeft
        · next fresh =>
            rw [if_neg fresh] at isRight
            obtain ⟨filled, isFilled, isLeft⟩ := bind_eq_ok isLeft
            obtain ⟨filled', isFilled', isRight⟩ := bind_eq_ok isRight
            exact ih (agree.fill shows alike isFilled isFilled') isLeft isRight

/-- A record is read alike if its fields are. A sequence is a record in trees alone. -/
theorem Agree.record
    (fields : List.Forall₂ (Field.Agree given same) ofTree.fields ofContent.fields)
    {start start' : σ} (alike : same start start') :
    Agree given same (ofTree.read start) (ofContent.read start') where
  related {tree content} shows left right isLeft isRight := by
    obtain ⟨form, isForm, isLeft⟩ := bind_eq_ok isLeft
    obtain ⟨form', isForm', isRight⟩ := bind_eq_ok isRight
    cases tree with
    | object members =>
        cases isForm
        rcases shows_object shows with rfl | ⟨shown, rfl, areShown⟩
        · cases isForm'
        · obtain ⟨named, isNamed, areNamed⟩ := exists_members areShown (.record ofContent.name)
          change (Content.members _ _).map _ = _ at isForm'
          rw [isNamed] at isForm'
          cases isForm'
          exact Record.fillNamed_agree fields areNamed alike isLeft isRight
    | array items =>
        rcases shows_array shows with rfl | ⟨shown, rfl, areShown⟩ <;> cases isForm'
    | _ => cases isForm
  refuses found isFound := nomatch isFound

end Records

end Reading

end AtomicCss
