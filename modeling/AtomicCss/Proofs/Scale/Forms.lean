import AtomicCss.Proofs.Scale.Grammar

/-!
# Forms tried in turn

A scale is read by trying its forms one after another: a dynamic one as a flag, as a marker and as
a table, a static one as an array and as a table. No tree is of two forms, so the order does not
matter. It does for literals, which are tried as a text, as an integer and as a double: an integer
could be any of the last two.
-/

set_option autoImplicit false

namespace AtomicCss

namespace Json

/-! ## Choice -/

/-- The first of several ways to read a tree that succeeds. -/
def firstOf {α : Type} (ways : List (Json → Option α)) (tree : Json) : Option α :=
  ways.findSome? fun read => read tree

@[simp] theorem firstOf_nil {α : Type} (tree : Json) :
    firstOf ([] : List (Json → Option α)) tree = none := rfl

@[simp] theorem firstOf_cons {α : Type} (read : Json → Option α) (rest : List (Json → Option α))
    (tree : Json) : firstOf (read :: rest) tree = (read tree).or (firstOf rest tree) := by
  rw [firstOf, List.findSome?_cons]
  cases read tree <;> rfl

/-- No tree can be read in two of these ways. -/
def Exclusive {α : Type} (ways : List (Json → Option α)) : Prop :=
  ways.Pairwise fun read other => ∀ tree, read tree = none ∨ other tree = none

theorem firstOf_eq_some_iff {α : Type} {ways : List (Json → Option α)}
    (exclusive : Exclusive ways) {tree : Json} {value : α} :
    firstOf ways tree = some value ↔ ∃ read ∈ ways, read tree = some value := by
  constructor
  · exact List.exists_of_findSome?_eq_some
  · rintro ⟨read, listed, isValue⟩
    induction exclusive with
    | nil => cases listed
    | @cons first rest others _ ih =>
        rw [firstOf_cons]
        rcases List.mem_cons.mp listed with rfl | later
        · rw [isValue, Option.some_or]
        · have unread : first tree = none :=
            (others read later tree).resolve_right (by simp [isValue])
          rw [unread, Option.none_or]
          exact ih later

/-- Where no tree can be read in two ways, their order does not matter. -/
theorem firstOf_eq_of_perm {α : Type} {ways others : List (Json → Option α)}
    (exclusive : Exclusive ways) (perm : others.Perm ways) (tree : Json) :
    firstOf others tree = firstOf ways tree := by
  have exclusiveToo : Exclusive others :=
    (perm.pairwise_iff fun each tree => (each tree).symm).mpr exclusive
  ext value
  simp only [firstOf_eq_some_iff exclusive, firstOf_eq_some_iff exclusiveToo, perm.mem_iff]

/-- What a tree is read as by the first of its forms, if that may stand for anything. -/
def ofForms {α β : Type} (convert : α → Except Reading.Fault β) (refusal : Reading.Fault)
    (forms : List (Json → Option α)) (tree : Json) : Except Reading.Fault β :=
  match firstOf forms tree with
  | some form => convert form
  | none => .error refusal

theorem ofForms_eq_of_perm {α β : Type} (convert : α → Except Reading.Fault β)
    (refusal : Reading.Fault) {ways others : List (Json → Option α)}
    (exclusive : Exclusive ways) (perm : others.Perm ways) (tree : Json) :
    ofForms convert refusal others tree = ofForms convert refusal ways tree := by
  rw [ofForms, ofForms, firstOf_eq_of_perm exclusive perm]

/-! ## Literals -/

def asText? : Json → Option String
  | .string text => some text
  | _ => none

/-- An integer of 64 bits with sign. -/
def asWhole? : Json → Option String
  | .number (.integer value) =>
      if -2 ^ 63 ≤ value ∧ value < 2 ^ 63 then some (toString value) else none
  | _ => none

def asDouble? : Json → Option String
  | .number (.integer value) => some (NumberStyle.css.write (Double.ofInt value))
  | .number (.double value) => some (NumberStyle.css.write value)
  | _ => none

def triedLiteral? : Json → Option String := firstOf [asText?, asWhole?, asDouble?]

def asItems? : Json → Option (List String)
  | .array items => items.mapM triedLiteral?
  | _ => none

def asMembers? : Json → Option (Table String)
  | .object members =>
      (members.mapM fun member => (triedLiteral? member.2).map (member.1, ·)).map Table.ofList
  | _ => none

theorem triedLiteral?_eq : triedLiteral? = literal? := by
  funext tree
  cases tree with
  | number number =>
      cases number with
      | double value => rfl
      | integer value =>
          have fits := fitsSigned_64_iff value
          by_cases short : -2 ^ 63 ≤ value ∧ value < 2 ^ 63
          · have isWhole : asWhole? (.number (.integer value)) = some (toString value) :=
              if_pos short
            have isLiteral : literal? (.number (.integer value)) = some (toString value) :=
              if_pos (fits.mpr short)
            simp [triedLiteral?, asText?, isWhole, isLiteral]
          · have notWhole : asWhole? (.number (.integer value)) = none := if_neg short
            have isLiteral : literal? (.number (.integer value)) =
                asDouble? (.number (.integer value)) := if_neg (mt fits.mp short)
            simp [triedLiteral?, asText?, asDouble?, notWhole, isLiteral]
  | _ => rfl

theorem asMembers?_object (members : List (String × Json)) :
    asMembers? (.object members) = literalMembers? members := by
  rw [asMembers?, triedLiteral?_eq, literalMembers?]
  simp only [Option.map_eq_bind]
  rfl

end Json

/-! ## Scales -/

namespace DynamicScale

/-- What a dynamic scale may look like. -/
inductive Form where
  | flag (on : Bool)
  | marker (text : String)
  | tokens (table : Table String)

/-- The scale that is meant by a form, if any. -/
def Form.scale : Form → Except Reading.Fault DynamicScale
  | .flag true => .ok .unrestricted
  | .flag false => .error .dynamicScaleOff
  | .marker text =>
      if text = "unrestricted" then .ok .unrestricted else .error (.unknownScaleMarker text)
  | .tokens table => .ok (.tokens table)

def asFlag? : Json → Option Form
  | .bool on => some (.flag on)
  | _ => none

def asMarker? : Json → Option Form
  | .string text => some (.marker text)
  | _ => none

def asTokens? (tree : Json) : Option Form := tree.asMembers?.map .tokens

def forms : List (Json → Option Form) := [asFlag?, asMarker?, asTokens?]

def ofForms : List (Json → Option Form) → Json → Except Reading.Fault DynamicScale :=
  Json.ofForms Form.scale .noDynamicScale

theorem exclusive_forms : Json.Exclusive forms := by
  simp only [forms, Json.Exclusive, List.pairwise_cons, List.forall_mem_cons]
  refine ⟨⟨fun tree => ?_, fun tree => ?_, by simp⟩, ⟨fun tree => ?_, by simp⟩, by simp⟩
  · cases tree <;> simp [asFlag?, asMarker?]
  · cases tree <;> simp [asFlag?, asTokens?, Json.asMembers?]
  · cases tree <;> simp [asMarker?, asTokens?, Json.asMembers?]

theorem ofForms_forms (tree : Json) : ofForms forms tree = ofJson tree := by
  cases tree with
  | bool on => cases on <;> rfl
  | object members =>
      have isForm : Json.firstOf forms (.object members) =
          (Json.literalMembers? members).map .tokens := by
        rw [← Json.asMembers?_object, ← asTokens?]
        simp [forms, asFlag?, asMarker?]
      rw [ofForms, Json.ofForms, isForm, ofJson]
      cases Json.literalMembers? members <;> rfl
  | _ => rfl

theorem ofForms_eq_ofJson {ways : List (Json → Option Form)} (perm : ways.Perm forms)
    (tree : Json) : ofForms ways tree = ofJson tree :=
  (Json.ofForms_eq_of_perm _ _ exclusive_forms perm tree).trans (ofForms_forms tree)

end DynamicScale

namespace StaticScale

def asValues? (tree : Json) : Option StaticScale := tree.asItems?.map .values

def asAliases? (tree : Json) : Option StaticScale := tree.asMembers?.map .aliases

def forms : List (Json → Option StaticScale) := [asValues?, asAliases?]

def ofForms : List (Json → Option StaticScale) → Json → Except Reading.Fault StaticScale :=
  Json.ofForms .ok .noStaticScale

theorem exclusive_forms : Json.Exclusive forms := by
  simp only [forms, Json.Exclusive, List.pairwise_cons, List.forall_mem_cons]
  refine ⟨⟨fun tree => ?_, by simp⟩, by simp⟩
  cases tree <;> simp [asValues?, asAliases?, Json.asItems?, Json.asMembers?]

theorem ofForms_forms (tree : Json) : ofForms forms tree = ofJson tree := by
  cases tree with
  | array items =>
      have isForm : Json.firstOf forms (.array items) =
          (items.mapM Json.literal?).map .values := by
        rw [← Json.triedLiteral?_eq]
        simp [forms, asValues?, asAliases?, Json.asItems?, Json.asMembers?]
      rw [ofForms, Json.ofForms, isForm, ofJson]
      cases items.mapM Json.literal? <;> rfl
  | object members =>
      have isForm : Json.firstOf forms (.object members) =
          (Json.literalMembers? members).map .aliases := by
        rw [← Json.asMembers?_object, ← asAliases?]
        simp [forms, asValues?, Json.asItems?]
      rw [ofForms, Json.ofForms, isForm, ofJson]
      cases Json.literalMembers? members <;> rfl
  | _ => rfl

theorem ofForms_eq_ofJson {ways : List (Json → Option StaticScale)} (perm : ways.Perm forms)
    (tree : Json) : ofForms ways tree = ofJson tree :=
  (Json.ofForms_eq_of_perm _ _ exclusive_forms perm tree).trans (ofForms_forms tree)

end StaticScale

/-- The trees and texts that are read as scales, and what they are read as. A scale is the same
after it is written and read, while what it was read from may look different. -/
theorem scales_denoted :
    ((∀ tree scale, DynamicScale.ofJson tree = .ok scale ↔ DynamicScale.Denotes tree scale) ∧
        (∀ tree, (∃ scale, DynamicScale.ofJson tree = .ok scale) ↔
          tree = .bool true ∨ tree = .string "unrestricted" ∨
            ∃ members, tree = .object members ∧ ∀ member ∈ members, member.2.IsScalar) ∧
        (∀ ways tree, ways.Perm DynamicScale.forms →
          DynamicScale.ofForms ways tree = DynamicScale.ofJson tree) ∧
        (∀ text scale, Reading.ofJsonText DynamicScale.read text = .ok scale ↔
          ∃ tree, Json.ofText? text = some tree ∧ DynamicScale.Denotes tree scale) ∧
        (∀ scale : DynamicScale, DynamicScale.ofJson scale.toJson = .ok scale ∧
          Reading.ofJsonText DynamicScale.read scale.toJson.compact = .ok scale) ∧
        ∃ tree scale, DynamicScale.ofJson tree = .ok scale ∧ scale.toJson ≠ tree) ∧
      ((∀ tree scale, StaticScale.ofJson tree = .ok scale ↔ StaticScale.Denotes tree scale) ∧
        (∀ tree, (∃ scale, StaticScale.ofJson tree = .ok scale) ↔
          (∃ items, tree = .array items ∧ ∀ item ∈ items, item.IsScalar) ∨
            ∃ members, tree = .object members ∧ ∀ member ∈ members, member.2.IsScalar) ∧
        (∀ ways tree, ways.Perm StaticScale.forms →
          StaticScale.ofForms ways tree = StaticScale.ofJson tree) ∧
        (∀ text scale, Reading.ofJsonText StaticScale.read text = .ok scale ↔
          ∃ tree, Json.ofText? text = some tree ∧ StaticScale.Denotes tree scale) ∧
        (∀ scale : StaticScale, StaticScale.ofJson scale.toJson = .ok scale ∧
          Reading.ofJsonText StaticScale.read scale.toJson.compact = .ok scale) ∧
        ∃ tree scale, StaticScale.ofJson tree = .ok scale ∧ scale.toJson ≠ tree) ∧
      ∀ {members : List (String × Json)} {table : Table String}, Json.HasLiterals members table →
        table.keys = (members.map Prod.fst).eraseDups ∧
          ∀ {before after name value}, members = before ++ (name, value) :: after →
            name ∉ after.map Prod.fst →
              ∃ text, table.get? name = some text ∧ Json.IsLiteral value text := by
  refine ⟨⟨fun tree scale => DynamicScale.ofJson_eq_ok_iff, fun tree => ?_,
      fun ways tree perm => DynamicScale.ofForms_eq_ofJson perm tree, fun text scale => ?_,
      fun scale => ⟨DynamicScale.faithful.reads scale,
        DynamicScale.faithful.ofJsonText_compact scale⟩, ?_⟩,
    ⟨fun tree scale => StaticScale.ofJson_eq_ok_iff, fun tree => ?_,
      fun ways tree perm => StaticScale.ofForms_eq_ofJson perm tree, fun text scale => ?_,
      fun scale => ⟨StaticScale.faithful.reads scale,
        StaticScale.faithful.ofJsonText_compact scale⟩, ?_⟩,
    fun has => ⟨has.keys_eq, ?_⟩⟩
  · simp only [DynamicScale.ofJson_eq_ok_iff, DynamicScale.exists_denotes_iff]
  · rw [Reading.ofJsonText_eq_ok_iff]
    exact exists_congr fun tree => and_congr_right fun _ => DynamicScale.ofJson_eq_ok_iff
  · exact ⟨.string "unrestricted", .unrestricted, rfl, by simp [DynamicScale.toJson]⟩
  · simp only [StaticScale.ofJson_eq_ok_iff, StaticScale.exists_denotes_iff]
  · rw [Reading.ofJsonText_eq_ok_iff]
    exact exists_congr fun tree => and_congr_right fun _ => StaticScale.ofJson_eq_ok_iff
  · exact ⟨.array [.number (.integer 4)], .values ["4"], rfl,
      by simp [StaticScale.toJson, Json.ofTexts]⟩
  · rintro before after name value rfl last
    exact has.get?_of_last last

theorem scales_denoted_repeated :
    let greatest := Json.number (.integer 18446744073709551615)
    let members := [("a", Json.string "x"), ("b", .number (.integer (-4))), ("a", greatest)]
    let table := Table.ofList [("a", "18446744073709552000"), ("b", "-4")]
    DynamicScale.ofForms DynamicScale.forms.reverse (.object members) = .ok (.tokens table) ∧
      StaticScale.ofForms StaticScale.forms.reverse (.object members) = .ok (.aliases table) ∧
      table.keys = ["a", "b"] ∧
      ∃ text, table.get? "a" = some text ∧ Json.IsLiteral greatest text := by
  intro greatest members table
  have written : NumberStyle.css.write (Double.ofInt 18446744073709551615) =
      "18446744073709552000" := by decide +kernel
  have isGreatest : Json.IsLiteral greatest "18446744073709552000" :=
    written ▸ .long (by decide)
  have has : Json.HasLiterals members table :=
    .cons ⟨rfl, isGreatest⟩ (.cons ⟨rfl, .short (by decide)⟩ .nil)
  have scalars : ∀ member ∈ members, member.2.IsScalar := by
    simp only [members, List.forall_mem_cons]
    exact ⟨.string _, .number _, .number _, by simp⟩
  obtain ⟨⟨dynamicReads, _, dynamicForms, _⟩, ⟨staticReads, _, staticForms, _⟩, named⟩ :=
    scales_denoted
  refine ⟨?_, ?_, (named has).1, ?_⟩
  · rw [dynamicForms _ _ (List.reverse_perm _)]
    exact (dynamicReads _ _).mpr (.tokens scalars has)
  · rw [staticForms _ _ (List.reverse_perm _)]
    exact (staticReads _ _).mpr (.aliases scalars has)
  · have split : members =
        [("a", .string "x"), ("b", .number (.integer (-4)))] ++ [("a", greatest)] := rfl
    exact (named has).2 split (by simp)

end AtomicCss
