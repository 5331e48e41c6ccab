import AtomicCss.Config.Loading
import AtomicCss.Proofs.Scale.Grammar

/-!
# Configurations of both formats

A text of printable characters may be a configuration in JSON and in YAML at once. The two are
the same, with the same order of their tables, up to the numerals in scales: a numeral is kept as
the number that its format makes of it.
-/

set_option autoImplicit false

namespace AtomicCss

open Reading
open Yaml (Content Shows ShowsMember)

/-- Two scales of the same form, with related literals. -/
inductive DynamicScale.Alike (related : String → String → Prop) :
    DynamicScale → DynamicScale → Prop where
  | unrestricted : Alike related .unrestricted .unrestricted
  | tokens {table table' : Table String} :
      table.Alike related table' → Alike related (.tokens table) (.tokens table')

inductive StaticScale.Alike (related : String → String → Prop) :
    StaticScale → StaticScale → Prop where
  | values {list list' : List String} :
      List.Forall₂ related list list' → Alike related (.values list) (.values list')
  | aliases {table table' : Table String} :
      table.Alike related table' → Alike related (.aliases table) (.aliases table')

/-- Two configurations that are the same, with related literals in their scales. -/
structure Config.Alike (related : String → String → Prop) (left right : Config) : Prop where
  conditions : left.conditions = right.conditions
  defaultCondition : left.defaultCondition = right.defaultCondition
  dynamicProperties :
    left.dynamicProperties.Alike (DynamicScale.Alike related) right.dynamicProperties
  staticProperties : left.staticProperties.Alike (StaticScale.Alike related) right.staticProperties
  shorthands : left.shorthands = right.shorthands
  classPrefix : left.classPrefix = right.classPrefix

namespace Config

variable {related : String → String → Prop}

/-- Configurations that are alike are the same where related literals are. -/
theorem Alike.eq (equal : ∀ x y, related x y → x = y) {left right : Config}
    (alike : left.Alike related right) : left = right := by
  have dynamics : ∀ scale scale', DynamicScale.Alike related scale scale' → scale = scale' := by
    intro scale scale' alike
    cases alike with
    | unrestricted => rfl
    | tokens tables => rw [tables.eq equal]
  have statics : ∀ scale scale', StaticScale.Alike related scale scale' → scale = scale' := by
    intro scale scale' alike
    cases alike with
    | values lists => rw [eq_of_forall₂ equal lists]
    | aliases tables => rw [tables.eq equal]
  have sameDynamics := alike.dynamicProperties.eq dynamics
  have sameStatics := alike.staticProperties.eq statics
  cases left
  cases right
  obtain ⟨rfl, rfl, -, -, rfl, rfl⟩ := alike
  cases sameDynamics
  cases sameStatics
  rfl

end Config

/-- Two literals are the same, or the formats keep a given numeral that is not short as them. -/
def SameLiteral (given : String → Prop) (x y : String) : Prop :=
  x = y ∨ ∃ numeral : Json.Numeral, given (String.ofList numeral.spelled) ∧
    numeral.isShort = false ∧ Json.literalOf? (String.ofList numeral.spelled) = some x ∧
    Yaml.literalOf? (String.ofList numeral.spelled) = some y

section Scales

variable {given : String → Prop}

theorem sameLiteral {tree : Json} {content : Content} (shows : Shows given tree content)
    {x y : String} (isLeft : tree.literal? = some x) (isRight : content.tree.literal? = some y) :
    SameLiteral given x y := by
  cases shows with
  | scalar denotes =>
      cases denotes with
      | string text =>
          cases isLeft
          cases isRight
          exact .inl rfl
      | number numeral isGiven =>
          have isJson : Json.literalOf? (String.ofList numeral.spelled) = some x := by
            rw [Json.literalOf?, numeral.ofText?_spelled]
            exact isLeft
          cases isShort : numeral.isShort with
          | true => exact .inl (Yaml.eq_of_isShort numeral isShort isJson isRight)
          | false => exact .inr ⟨numeral, isGiven, isShort, isJson, isRight⟩
      | null => cases isLeft
      | yes => cases isLeft
      | no => cases isLeft
  | sequence => cases isLeft
  | mapping => cases isLeft
  | passedOver => cases isRight

/-- One tree is shown by a content that the other is the tree of. -/
def IsShown (given : String → Prop) (tree tree' : Json) : Prop :=
  ∃ content : Content, Shows given tree content ∧ content.tree = tree'

theorem isShown_items {items : List Json} {contents : List Content}
    (shown : List.Forall₂ (Shows given) items contents) :
    List.Forall₂ (IsShown given) items (Content.treesOfItems contents) := by
  induction shown with
  | nil => exact .nil
  | cons first _ ih => exact .cons ⟨_, first, rfl⟩ ih

theorem tree_mapping {members : List (String × Json)} {contents : List (Content × Content)}
    (shown : List.Forall₂ (ShowsMember given) members contents) :
    ∃ named, (Content.mapping none contents).tree = .object named ∧
      List.Forall₂ (Named (IsShown given)) members named := by
  have trees : ∃ named, Content.treesOfMembers contents = some named ∧
      List.Forall₂ (Named (IsShown given)) members named := by
    induction shown with
    | nil => exact ⟨[], rfl, .nil⟩
    | cons first _ ih =>
        obtain ⟨named, isNamed, shown⟩ := ih
        cases first with
        | @mk name value content first =>
            refine ⟨(name, content.tree) :: named, ?_, .cons ⟨rfl, content, first, rfl⟩ shown⟩
            rw [Content.treesOfMembers, isNamed]
            rfl
  obtain ⟨named, isNamed, shown⟩ := trees
  refine ⟨named, ?_, shown⟩
  rw [Content.tree, isNamed]
  rfl

theorem literals_alike {items items' : List Json}
    (shown : List.Forall₂ (IsShown given) items items') {list list' : List String}
    (isLeft : items.mapM Json.literal? = some list)
    (isRight : items'.mapM Json.literal? = some list') :
    List.Forall₂ (SameLiteral given) list list' := by
  refine forall₂_map ?_ shown (forall₂_of_mapM_some isLeft) (forall₂_of_mapM_some isRight)
  rintro part part' ⟨content, shows, rfl⟩ value value' isValue isValue'
  exact sameLiteral shows isValue isValue'

theorem literalMembers_alike {members members' : List (String × Json)}
    (shown : List.Forall₂ (Named (IsShown given)) members members') {table table' : Table String}
    (isLeft : Json.literalMembers? members = some table)
    (isRight : Json.literalMembers? members' = some table') :
    table.Alike (SameLiteral given) table' := by
  obtain ⟨entries, areEntries, isLeft⟩ := Option.bind_eq_some_iff.mp isLeft
  obtain ⟨entries', areEntries', isRight⟩ := Option.bind_eq_some_iff.mp isRight
  cases isLeft
  cases isRight
  refine Table.alike_ofList (forall₂_map ?_ shown (forall₂_of_mapM_some areEntries)
    (forall₂_of_mapM_some areEntries'))
  rintro part part' ⟨sameName, content, shows, isTree⟩ entry entry' isEntry isEntry'
  obtain ⟨x, isLiteral, rfl⟩ := Option.map_eq_some_iff.mp isEntry
  obtain ⟨y, isLiteral', rfl⟩ := Option.map_eq_some_iff.mp isEntry'
  rw [← isTree] at isLiteral'
  exact ⟨sameName, sameLiteral shows isLiteral isLiteral'⟩

theorem DynamicScale.agree :
    Agree given (DynamicScale.Alike (SameLiteral given)) DynamicScale.read DynamicScale.read where
  related {tree content} shows left right isLeft isRight := by
    change DynamicScale.ofJson tree = _ at isLeft
    change DynamicScale.ofJson content.tree = _ at isRight
    cases shows with
    | scalar denotes =>
        cases denotes with
        | yes =>
            cases isLeft
            cases isRight
            exact .unrestricted
        | string marker =>
            change DynamicScale.ofJson (.string marker) = _ at isRight
            cases isLeft.symm.trans isRight
            rw [DynamicScale.ofJson] at isLeft
            split at isLeft
            · cases isLeft
              exact .unrestricted
            · cases isLeft
        | number numeral isGiven =>
            rcases numeral.value_cases with ⟨number, isValue⟩ | isValue <;>
              rw [isValue] at isLeft <;> cases isLeft
        | null => cases isLeft
        | no => cases isLeft
    | sequence => cases isLeft
    | mapping shown =>
        obtain ⟨named, isTree, areShown⟩ := tree_mapping shown
        rw [isTree] at isRight
        obtain ⟨table, isTable, rfl⟩ := DynamicScale.tokens_of_ofJson isLeft
        obtain ⟨table', isTable', rfl⟩ := DynamicScale.tokens_of_ofJson isRight
        exact .tokens (literalMembers_alike areShown isTable isTable')
    | passedOver => cases isRight
  refuses found isFound := nomatch isFound

theorem StaticScale.agree :
    Agree given (StaticScale.Alike (SameLiteral given)) StaticScale.read StaticScale.read where
  related {tree content} shows left right isLeft isRight := by
    change StaticScale.ofJson tree = _ at isLeft
    change StaticScale.ofJson content.tree = _ at isRight
    cases shows with
    | scalar denotes =>
        refine absurd ?_ (not_isCollection_of_denotes denotes)
        cases tree with
        | array items => exact .inl ⟨items, rfl⟩
        | object members => exact .inr ⟨members, rfl⟩
        | _ => cases isLeft
    | sequence shown =>
        change StaticScale.ofJson (.array (Content.treesOfItems _)) = _ at isRight
        obtain ⟨list, isList, rfl⟩ := StaticScale.values_of_ofJson isLeft
        obtain ⟨list', isList', rfl⟩ := StaticScale.values_of_ofJson isRight
        exact .values (literals_alike (isShown_items shown) isList isList')
    | mapping shown =>
        obtain ⟨named, isTree, areShown⟩ := tree_mapping shown
        rw [isTree] at isRight
        obtain ⟨table, isTable, rfl⟩ := StaticScale.aliases_of_ofJson isLeft
        obtain ⟨table', isTable', rfl⟩ := StaticScale.aliases_of_ofJson isRight
        exact .aliases (literalMembers_alike areShown isTable isTable')
    | passedOver => cases isRight
  refuses found isFound := nomatch isFound

theorem Scope.agree : Agree given (· = ·) Scope.read Scope.read := by
  refine Agree.record ?_ rfl
  exact .cons (Field.agree_of Agree.text.optional (by rintro _ _ rfl _ _ rfl; rfl)) <|
    .cons (Field.agree_of Agree.text.optional (by rintro _ _ rfl _ _ rfl; rfl)) <|
    .cons (Field.agree_of Agree.text.optional (by rintro _ _ rfl _ _ rfl; rfl)) .nil

theorem Config.agree :
    Agree given (Config.Alike (SameLiteral given)) Config.read Config.read := by
  have scopes : Agree given (· = ·) (table Scope.read) (table Scope.read) :=
    Scope.agree.table.imp fun _ _ alike => alike.eq fun _ _ same => same
  have targets : Agree given (· = ·) (table (list Document.text)) (table (list Document.text)) :=
    Agree.text.list.table.imp fun _ _ alike =>
      alike.eq fun _ _ lists => eq_of_forall₂ (fun _ _ same => same) lists
  refine Agree.record ?_ ⟨rfl, rfl, .nil, .nil, rfl, rfl⟩
  exact .cons (Field.agree_of scopes fun same _ _ alike => { alike with conditions := same }) <|
    .cons (Field.agree_of Agree.text fun same _ _ alike =>
      { alike with defaultCondition := same }) <|
    .cons (Field.agree_of DynamicScale.agree.table fun same _ _ alike =>
      { alike with dynamicProperties := same }) <|
    .cons (Field.agree_of StaticScale.agree.table fun same _ _ alike =>
      { alike with staticProperties := same }) <|
    .cons (Field.agree_of targets fun same _ _ alike => { alike with shorthands := same }) <|
    .cons (Field.agree_of Agree.text.optional fun same _ _ alike =>
      { alike with classPrefix := same }) .nil

end Scales

namespace Config

theorem exists_of_ofJsonText {text : String} {config : Config}
    (loaded : ofJsonText text = .ok config) :
    ∃ tree, Json.ofText? text = some tree ∧ read tree = .ok config := by
  refine Reading.ofJsonText_eq_ok_iff.mp ?_
  rw [ofJsonText] at loaded
  split at loaded
  · next isRead =>
      cases loaded
      exact isRead
  · cases loaded
  · cases loaded

theorem exists_of_ofYamlText {text : String} {config : Config}
    (loaded : ofYamlText text = .ok config) :
    ∃ document content, Yaml.Document.ofText? text = some document ∧
      document.content? isReadAt = some content ∧ read content = .ok config := by
  rw [ofYamlText] at loaded
  split at loaded
  · cases loaded
  · next content found =>
      obtain ⟨document, isDocument, isContent⟩ := Option.bind_eq_some_iff.mp found
      refine ⟨document, content, isDocument, isContent, ?_⟩
      cases isRead : read content with
      | ok found =>
          rw [isRead] at loaded
          cases loaded
          rfl
      | error fault =>
          rw [isRead] at loaded
          cases loaded

theorem isCollection_of_read {tree : Json} {config : Config} (isRead : read tree = .ok config) :
    Yaml.IsCollection tree := by
  obtain ⟨form, isForm, -⟩ := bind_eq_ok isRead
  cases tree with
  | object members => exact .inr ⟨members, rfl⟩
  | array items => exact .inl ⟨items, rfl⟩
  | _ => cases isForm

/-- What both formats read from a text differs at most in literals that the text gives as long
numerals. Without those the two configurations are equal, the order of their tables included. -/
theorem alike_of_ofText {text : String} (printable : ∀ c ∈ text.toList, IsPrintable c)
    {left right : Config} (isJson : ofJsonText text = .ok left)
    (isYaml : ofYamlText text = .ok right) :
    left.Alike (SameLiteral (· ∈ Yaml.plainTexts text)) right ∧
      ((∀ numeral : Json.Numeral, String.ofList numeral.spelled ∈ Yaml.plainTexts text →
        numeral.isShort = true) → left = right) := by
  obtain ⟨tree, isTree, isLeft⟩ := exists_of_ofJsonText isJson
  obtain ⟨document, content, isDocument, isContent, isRight⟩ := exists_of_ofYamlText isYaml
  have shows := Yaml.shows_of_ofText? printable isTree (isCollection_of_read isLeft) isDocument
    isContent
  have alike : left.Alike (SameLiteral (· ∈ Yaml.plainTexts text)) right :=
    agree.related shows isLeft isRight
  refine ⟨alike, fun short => alike.eq ?_⟩
  rintro x y (same | ⟨numeral, isGiven, isLong, -⟩)
  · exact same
  · cases (short numeral isGiven).symm.trans isLong

/-- The configuration with one condition and one static property of the given values. -/
def sized (values : List String) : Config :=
  ((start "base").withCondition "base" {}).withStatic "size" (.values values)

/-- A text of both formats with one condition and one static property of the given scale. -/
def sizedText (scale : String) : String :=
  "\x7b\"conditions\":\x7b\"base\":\x7b\x7d\x7d,\"defaultCondition\":\"base\"," ++
    "\"dynamicProperties\":\x7b\x7d,\"staticProperties\":\x7b\"size\":" ++ scale ++ "\x7d\x7d"

theorem alike_of_ofText_sized :
    ∃ left right, ofJsonText (sizedText "[\"4px\",4,0.50,1e3]") = .ok left ∧
      ofYamlText (sizedText "[\"4px\",4,0.50,1e3]") = .ok right ∧ left = right := by
  obtain ⟨printable, isJson, isYaml, short⟩ :
      (sizedText "[\"4px\",4,0.50,1e3]").toList.all (IsPrintable ·) = true ∧
        ofJsonText (sizedText "[\"4px\",4,0.50,1e3]") =
          .ok (sized ["4px", "4", "0.5", "1000"]) ∧
        ofYamlText (sizedText "[\"4px\",4,0.50,1e3]") =
          .ok (sized ["4px", "4", "0.5", "1000"]) ∧
        (Yaml.plainTexts (sizedText "[\"4px\",4,0.50,1e3]")).all (fun plain =>
          (Decimal.ofChars? plain.toList).any Yaml.isShortDecimal) = true := by
    decide +kernel
  refine ⟨_, _, isJson, isYaml,
    (alike_of_ofText (isPrintable_of_all printable) isJson isYaml).2 ?_⟩
  intro numeral listed
  have decimal := List.all_eq_true.mp short _ listed
  rw [String.toList_ofList] at decimal
  exact Yaml.isShort_of_ofChars? numeral decimal

/-- JSON reads a negative zero as a double, YAML reads it as an integer. -/
theorem not_alike_of_ofText_signed :
    (∀ c ∈ (sizedText "[-0]").toList, IsPrintable c) ∧
      ofJsonText (sizedText "[-0]") = .ok (sized ["-0"]) ∧
      ofYamlText (sizedText "[-0]") = .ok (sized ["0"]) ∧ sized ["-0"] ≠ sized ["0"] := by
  obtain ⟨printable, differ⟩ :
      (sizedText "[-0]").toList.all (IsPrintable ·) = true ∧
        ofJsonText (sizedText "[-0]") = .ok (sized ["-0"]) ∧
        ofYamlText (sizedText "[-0]") = .ok (sized ["0"]) ∧ sized ["-0"] ≠ sized ["0"] := by
    decide +kernel
  exact ⟨isPrintable_of_all printable, differ⟩

end Config

end AtomicCss
