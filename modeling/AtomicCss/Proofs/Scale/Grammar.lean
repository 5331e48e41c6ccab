import AtomicCss.Proofs.Config.Document
import AtomicCss.Proofs.Json.Numbers
import AtomicCss.Proofs.Reading.Formats
import AtomicCss.Proofs.Table.Views

/-!
# What documents say of scales

A scale is described by a tree of one of a few forms, and its literals by texts and numbers. No
tree describes two scales, and what has none of the forms describes none.
-/

set_option autoImplicit false

namespace AtomicCss

/-! ## Literals -/

namespace Json

/-- A text or a number. -/
inductive IsScalar : Json → Prop where
  | string (text : String) : IsScalar (.string text)
  | number (value : JsonNumber) : IsScalar (.number value)

/-- What a text or a number says where a literal is wanted. -/
inductive IsLiteral : Json → String → Prop where
  | string (text : String) : IsLiteral (.string text) text
  | short {value : Int} : -2 ^ 63 ≤ value ∧ value < 2 ^ 63 →
      IsLiteral (.number (.integer value)) (toString value)
  | long {value : Int} : ¬ (-2 ^ 63 ≤ value ∧ value < 2 ^ 63) →
      IsLiteral (.number (.integer value)) (NumberStyle.css.write (Double.ofInt value))
  | double (value : Double) : IsLiteral (.number (.double value)) (NumberStyle.css.write value)

theorem fitsSigned_64_iff (value : Int) :
    fitsSigned 64 value = true ↔ -2 ^ 63 ≤ value ∧ value < 2 ^ 63 := fitsSigned_iff 63 value

theorem literal?_eq_some_iff {tree : Json} {text : String} :
    tree.literal? = some text ↔ IsLiteral tree text := by
  constructor
  · intro isLiteral
    cases tree with
    | string =>
        cases isLiteral
        exact .string text
    | number number =>
        cases number with
        | double value =>
            cases isLiteral
            exact .double value
        | integer value =>
            rw [literal?] at isLiteral
            split at isLiteral
            · next fits =>
                cases isLiteral
                exact .short ((fitsSigned_64_iff value).mp fits)
            · next exceeds =>
                cases isLiteral
                exact .long (mt (fitsSigned_64_iff value).mpr exceeds)
    | _ => cases isLiteral
  · intro isLiteral
    cases isLiteral with
    | string => rfl
    | short fits => simp [literal?, (fitsSigned_64_iff _).mpr fits]
    | long exceeds => simp [literal?, mt (fitsSigned_64_iff _).mp exceeds]
    | double => rfl

theorem exists_isLiteral_iff {tree : Json} : (∃ text, IsLiteral tree text) ↔ tree.IsScalar := by
  constructor
  · rintro ⟨text, isLiteral⟩
    cases isLiteral with
    | string => exact .string text
    | _ => exact .number _
  · intro isScalar
    cases isScalar with
    | string text => exact ⟨text, .string text⟩
    | number value =>
        cases value with
        | double value => exact ⟨_, .double value⟩
        | integer value =>
            by_cases fits : -2 ^ 63 ≤ value ∧ value < 2 ^ 63
            · exact ⟨_, .short fits⟩
            · exact ⟨_, .long fits⟩

theorem literalMembers?_eq_some_iff {members : List (String × Json)} {table : Table String} :
    literalMembers? members = some table ↔
      ∃ entries, List.Forall₂ (Named IsLiteral) members entries ∧ Table.ofList entries = table := by
  have named : ∀ (member : String × Json) (entry : String × String),
      (member.2.literal?.map fun text => (member.1, text)) = some entry ↔
        Named IsLiteral member entry := by
    rintro ⟨name, value⟩ ⟨other, text⟩
    simp only [Option.map_eq_some_iff, literal?_eq_some_iff, Prod.mk.injEq, Named]
    constructor
    · rintro ⟨_, isLiteral, rfl, rfl⟩
      exact ⟨rfl, isLiteral⟩
    · rintro ⟨rfl, isLiteral⟩
      exact ⟨text, isLiteral, rfl, rfl⟩
  simp only [literalMembers?, Option.bind_eq_bind, Option.bind_eq_some_iff, Reading.mapM_eq_some_iff,
    named, Option.pure_def, Option.some.injEq]

theorem exists_members_iff {members : List (String × Json)} :
    (∃ entries, List.Forall₂ (Named IsLiteral) members entries) ↔
      ∀ member ∈ members, member.2.IsScalar := by
  rw [Reading.exists_forall₂_iff]
  refine forall₂_congr fun member _ => ?_
  rw [← exists_isLiteral_iff]
  constructor
  · rintro ⟨entry, _, isLiteral⟩
    exact ⟨entry.2, isLiteral⟩
  · rintro ⟨text, isLiteral⟩
    exact ⟨(member.1, text), rfl, isLiteral⟩

theorem IsLiteral.unique {tree : Json} {text other : String} (isText : IsLiteral tree text)
    (isOther : IsLiteral tree other) : text = other :=
  Option.some.inj
    ((literal?_eq_some_iff.mpr isText).symm.trans (literal?_eq_some_iff.mpr isOther))

/-- A table holds what an object says: its names in their order, each with its literal. -/
def HasLiterals (members : List (String × Json)) (table : Table String) : Prop :=
  List.Forall₂ (Named IsLiteral) (Json.table members).entries table.entries

theorem exists_hasLiterals {members : List (String × Json)}
    (scalars : ∀ member ∈ members, member.2.IsScalar) : ∃ table, HasLiterals members table := by
  obtain ⟨entries, named⟩ := exists_members_iff.mpr scalars
  exact ⟨Table.ofList entries, Table.named_ofList named⟩

theorem HasLiterals.unique {members : List (String × Json)} {table other : Table String}
    (has : HasLiterals members table) (hasToo : HasLiterals members other) : table = other := by
  have functional : Relator.RightUnique (Named IsLiteral) := by
    intro member entry entry' isEntry isOther
    exact Prod.ext (isEntry.1.symm.trans isOther.1) (isEntry.2.unique isOther.2)
  exact Table.ext (List.right_unique_forall₂' functional has hasToo)

theorem HasLiterals.keys_eq {members : List (String × Json)} {table : Table String}
    (has : HasLiterals members table) : table.keys = (members.map Prod.fst).eraseDups := by
  rw [← Table.keys_ofList]
  have sameNames : ∀ {left : List (String × Json)} {right : List (String × String)},
      List.Forall₂ (Named IsLiteral) left right → right.map Prod.fst = left.map Prod.fst := by
    intro left right named
    induction named with
    | nil => rfl
    | cons first _ ih => simp [first.1, ih]
  exact sameNames has

theorem HasLiterals.get?_of_last {before after : List (String × Json)} {name : String}
    {value : Json} {table : Table String}
    (has : HasLiterals (before ++ (name, value) :: after) table)
    (last : name ∉ after.map Prod.fst) :
    ∃ text, table.get? name = some text ∧ IsLiteral value text :=
  Table.lookup_of_named has (Table.get?_ofList_of_last before value last)

/-- Members that are passed over for a later one of their name have to be scalars, too. -/
theorem literalMembers?_iff {members : List (String × Json)} {table : Table String} :
    literalMembers? members = some table ↔
      (∀ member ∈ members, member.2.IsScalar) ∧ HasLiterals members table := by
  rw [literalMembers?_eq_some_iff]
  constructor
  · rintro ⟨entries, named, rfl⟩
    exact ⟨exists_members_iff.mp ⟨entries, named⟩, Table.named_ofList named⟩
  · rintro ⟨scalars, has⟩
    obtain ⟨entries, named⟩ := exists_members_iff.mpr scalars
    exact ⟨entries, named, HasLiterals.unique (Table.named_ofList named) has⟩

end Json

/-! ## Scales -/

namespace DynamicScale

/-- What a tree says of a dynamic property. -/
inductive Denotes : Json → DynamicScale → Prop where
  | yes : Denotes (.bool true) .unrestricted
  | marker : Denotes (.string "unrestricted") .unrestricted
  | tokens {members : List (String × Json)} {table : Table String} :
      (∀ member ∈ members, member.2.IsScalar) → Json.HasLiterals members table →
      Denotes (.object members) (.tokens table)

theorem tokens_of_ofJson {members : List (String × Json)} {scale : DynamicScale}
    (isRead : ofJson (.object members) = .ok scale) :
    ∃ table, Json.literalMembers? members = some table ∧ scale = .tokens table := by
  rw [ofJson] at isRead
  split at isRead
  · next table isTable =>
      cases isRead
      exact ⟨table, isTable, rfl⟩
  · cases isRead

theorem ofJson_eq_ok_iff {tree : Json} {scale : DynamicScale} :
    ofJson tree = .ok scale ↔ Denotes tree scale := by
  constructor
  · intro isRead
    cases tree with
    | bool value =>
        cases value with
        | true =>
            cases isRead
            exact .yes
        | false => cases isRead
    | string marker =>
        rw [ofJson] at isRead
        split at isRead
        · next isMarker =>
            cases isRead
            exact isMarker ▸ .marker
        · cases isRead
    | object members =>
        obtain ⟨table, isTable, rfl⟩ := tokens_of_ofJson isRead
        obtain ⟨scalars, has⟩ := Json.literalMembers?_iff.mp isTable
        exact .tokens scalars has
    | _ => cases isRead
  · intro denotes
    cases denotes with
    | yes => rfl
    | marker => rfl
    | tokens scalars has => rw [ofJson, Json.literalMembers?_iff.mpr ⟨scalars, has⟩]

theorem exists_denotes_iff {tree : Json} :
    (∃ scale, Denotes tree scale) ↔
      tree = .bool true ∨ tree = .string "unrestricted" ∨
        ∃ members, tree = .object members ∧ ∀ member ∈ members, member.2.IsScalar := by
  constructor
  · rintro ⟨scale, denotes⟩
    cases denotes with
    | yes => exact .inl rfl
    | marker => exact .inr (.inl rfl)
    | tokens scalars => exact .inr (.inr ⟨_, rfl, scalars⟩)
  · rintro (rfl | rfl | ⟨members, rfl, scalars⟩)
    · exact ⟨_, .yes⟩
    · exact ⟨_, .marker⟩
    · obtain ⟨table, has⟩ := Json.exists_hasLiterals scalars
      exact ⟨_, .tokens scalars has⟩

end DynamicScale

namespace StaticScale

/-- What a tree says of a static property. -/
inductive Denotes : Json → StaticScale → Prop where
  | values {items : List Json} {list : List String} :
      List.Forall₂ Json.IsLiteral items list → Denotes (.array items) (.values list)
  | aliases {members : List (String × Json)} {table : Table String} :
      (∀ member ∈ members, member.2.IsScalar) → Json.HasLiterals members table →
      Denotes (.object members) (.aliases table)

theorem aliases_of_ofJson {members : List (String × Json)} {scale : StaticScale}
    (isRead : ofJson (.object members) = .ok scale) :
    ∃ table, Json.literalMembers? members = some table ∧ scale = .aliases table := by
  rw [ofJson] at isRead
  split at isRead
  · next table isTable =>
      cases isRead
      exact ⟨table, isTable, rfl⟩
  · cases isRead

theorem values_of_ofJson {items : List Json} {scale : StaticScale}
    (isRead : ofJson (.array items) = .ok scale) :
    ∃ list, items.mapM Json.literal? = some list ∧ scale = .values list := by
  rw [ofJson] at isRead
  split at isRead
  · next list isList =>
      cases isRead
      exact ⟨list, isList, rfl⟩
  · cases isRead

theorem ofJson_eq_ok_iff {tree : Json} {scale : StaticScale} :
    ofJson tree = .ok scale ↔ Denotes tree scale := by
  constructor
  · intro isRead
    cases tree with
    | array items =>
        obtain ⟨list, isList, rfl⟩ := values_of_ofJson isRead
        rw [Reading.mapM_eq_some_iff] at isList
        simp only [Json.literal?_eq_some_iff] at isList
        exact .values isList
    | object members =>
        obtain ⟨table, isTable, rfl⟩ := aliases_of_ofJson isRead
        obtain ⟨scalars, has⟩ := Json.literalMembers?_iff.mp isTable
        exact .aliases scalars has
    | _ => cases isRead
  · intro denotes
    cases denotes with
    | values literals =>
        have isList := Reading.mapM_eq_some_iff.mpr
          (literals.imp fun _ _ => Json.literal?_eq_some_iff.mpr)
        rw [ofJson, isList]
    | aliases scalars has => rw [ofJson, Json.literalMembers?_iff.mpr ⟨scalars, has⟩]

theorem exists_denotes_iff {tree : Json} :
    (∃ scale, Denotes tree scale) ↔
      (∃ items, tree = .array items ∧ ∀ item ∈ items, item.IsScalar) ∨
        ∃ members, tree = .object members ∧ ∀ member ∈ members, member.2.IsScalar := by
  constructor
  · rintro ⟨scale, denotes⟩
    cases denotes with
    | values literals =>
        refine .inl ⟨_, rfl, fun item listed => ?_⟩
        exact Json.exists_isLiteral_iff.mp (Reading.exists_forall₂_iff.mp ⟨_, literals⟩ item listed)
    | aliases scalars => exact .inr ⟨_, rfl, scalars⟩
  · rintro (⟨items, rfl, scalars⟩ | ⟨members, rfl, scalars⟩)
    · have literals := fun item listed => Json.exists_isLiteral_iff.mpr (scalars item listed)
      obtain ⟨list, literals⟩ := Reading.exists_forall₂_iff.mpr literals
      exact ⟨_, .values literals⟩
    · obtain ⟨table, has⟩ := Json.exists_hasLiterals scalars
      exact ⟨_, .aliases scalars has⟩

end StaticScale

end AtomicCss
