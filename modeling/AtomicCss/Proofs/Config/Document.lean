import AtomicCss.Config.Loading
import AtomicCss.Proofs.Reading.Faithful

/-!
# Configurations read back

A configuration is read back from its text as it was, the order of its tables included. The
scales are told apart without a marker: a truth value, an array and an object each mean one
thing, whether or not they hold anything.
-/

set_option autoImplicit false

namespace AtomicCss

open Reading

namespace Json

theorem mapM_literal?_texts (texts : List String) :
    (texts.map Json.string).mapM literal? = some texts := by
  induction texts with
  | nil => rfl
  | cons text rest ih =>
      rw [List.map_cons, List.mapM_cons, ih]
      rfl

theorem literalMembers?_ofTexts (texts : Table String) :
    literalMembers? (texts.entries.map fun entry => (entry.1, .string entry.2)) = some texts := by
  have literals : (texts.entries.map fun entry => (entry.1, Json.string entry.2)).mapM
      (fun member => member.2.literal?.map fun text => (member.1, text)) = some texts.entries := by
    induction texts.entries with
    | nil => rfl
    | cons entry rest ih =>
        rw [List.map_cons, List.mapM_cons, ih]
        rfl
  refine (congrArg (Option.bind · fun listed => some (Table.ofList listed)) literals).trans ?_
  exact congrArg some texts.ofList_entries

end Json

theorem Scope.faithful : Faithful Scope.read Scope.toJson :=
  .record (by decide +kernel) fun scope =>
    ⟨_, .optional .text scope.media rfl <| .optional .text scope.supports rfl <|
        .optional .text scope.selector rfl .nil,
      by simp [Scope.toJson]⟩

theorem DynamicScale.faithful : Faithful DynamicScale.read DynamicScale.toJson where
  reads scale := by
    cases scale with
    | unrestricted => rfl
    | tokens table =>
        change ofJson (Json.ofTable .string table) = _
        rw [Json.ofTable, ofJson, Json.literalMembers?_ofTexts]
  textual scale := by
    cases scale with
    | unrestricted => rfl
    | tokens table => exact Faithful.text.table.textual table

theorem StaticScale.faithful : Faithful StaticScale.read StaticScale.toJson where
  reads scale := by
    cases scale with
    | values list =>
        change ofJson (Json.ofTexts list) = _
        rw [Json.ofTexts, ofJson, Json.mapM_literal?_texts]
    | aliases table =>
        change ofJson (Json.ofTable .string table) = _
        rw [Json.ofTable, ofJson, Json.literalMembers?_ofTexts]
  textual scale := by
    cases scale with
    | values list => exact Faithful.texts.textual list
    | aliases table => exact Faithful.text.table.textual table

namespace Config

theorem faithful : Faithful Config.read Config.toJson :=
  .record (by decide +kernel) fun config =>
    ⟨_, .of Scope.faithful.table config.conditions <| .of .text config.defaultCondition <|
        .of DynamicScale.faithful.table config.dynamicProperties <|
        .table StaticScale.faithful config.staticProperties rfl <|
        .table .texts config.shorthands rfl <|
        .optional .text config.classPrefix rfl .nil,
      by simp [Config.toJson]⟩

/-- Every configuration, and every scale by itself, is read back from its own text. -/
theorem ofJsonText_toJson :
    (∀ config : Config, ofJsonText config.toJson.compact = .ok config) ∧
      (∀ scale : DynamicScale,
        Reading.ofJsonText DynamicScale.read scale.toJson.compact = .ok scale) ∧
      ∀ scale : StaticScale,
        Reading.ofJsonText StaticScale.read scale.toJson.compact = .ok scale := by
  refine ⟨fun config => ?_, DynamicScale.faithful.ofJsonText_compact,
    StaticScale.faithful.ofJsonText_compact⟩
  rw [ofJsonText, faithful.ofJsonText_compact config]

end Config

end AtomicCss
