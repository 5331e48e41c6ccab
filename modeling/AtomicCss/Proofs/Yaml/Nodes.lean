import AtomicCss.Proofs.Yaml.Marks
import AtomicCss.Yaml.Document

/-!
# Nodes of JSON texts

The grammar of nodes finds in the tokens of a tree the node that mirrors it. A name that has
lost the mark in front of it is taken for a key that stands alone, and then the colon has no
place: such a text has no document.
-/

set_option autoImplicit false

namespace AtomicCss.Yaml

mutual

/-- A node of the form of a tree. -/
inductive Mirrors (given : String → Prop) : Json → Node → Prop where
  | scalar {document : Json} {scalar : Scalar} :
      Denotes given document scalar → Mirrors given document (.scalar scalar)
  | array {items : List Json} {nodes : List Node} :
      MirrorsItems given items nodes → Mirrors given (.array items) (.sequence none nodes)
  | object {members : List (String × Json)} {nodes : List (Node × Node)} :
      MirrorsMembers given members nodes → Mirrors given (.object members) (.mapping none nodes)

inductive MirrorsItems (given : String → Prop) : List Json → List Node → Prop where
  | nil : MirrorsItems given [] []
  | cons {item : Json} {node : Node} {rest : List Json} {nodes : List Node} :
      Mirrors given item node → MirrorsItems given rest nodes →
      MirrorsItems given (item :: rest) (node :: nodes)

inductive MirrorsMembers (given : String → Prop) :
    List (String × Json) → List (Node × Node) → Prop where
  | nil : MirrorsMembers given [] []
  | cons {name : String} {value : Json} {node : Node} {rest : List (String × Json)}
      {nodes : List (Node × Node)} :
      Mirrors given value node → MirrorsMembers given rest nodes →
      MirrorsMembers given ((name, value) :: rest) ((.scalar ⟨false, name, none⟩, node) :: nodes)

end

/-- Tokens that a node of a JSON text begins with. -/
def Opens : Token → Prop
  | .scalar _ _ | .flowSequence | .flowMapping => True
  | _ => False

theorem Marks.opens {document : Json} {marks : List Token} (are : Marks document marks) :
    ∃ token others, marks = token :: others ∧ Opens token := by
  cases are <;> exact ⟨_, _, rfl, trivial⟩

namespace Assembler

variable {α β : Type} {assembly : Assembly} {token wanted : Token} {rest : List Token}

theorem bind_apply (part : Assembler α) (next : α → Assembler β) (assembly : Assembly) :
    (part >>= next) assembly = (part assembly).bind fun found => next found.1 found.2 := rfl

theorem pure_apply (value : α) (assembly : Assembly) :
    (pure value : Assembler α) assembly = some (value, assembly) := rfl

theorem peek_apply (ahead : assembly.tokens = token :: rest) :
    peek assembly = some (some token, assembly) := by
  change some (assembly.tokens.head?, assembly) = _
  rw [ahead]
  rfl

theorem skip_apply (ahead : assembly.tokens = token :: rest) :
    skip assembly = some ((), { assembly with tokens := rest }) := by
  change some ((), { assembly with tokens := assembly.tokens.tail }) = _
  rw [ahead]
  rfl

theorem isNext_apply (ahead : assembly.tokens = token :: rest) (wanted : List Token) :
    isNext wanted assembly = some (wanted.contains token, assembly) := by
  rw [isNext, bind_apply, peek_apply ahead]
  rfl

theorem takeIf_of_eq (ahead : assembly.tokens = wanted :: rest) :
    takeIf wanted assembly = some (true, { assembly with tokens := rest }) := by
  have isWanted : [wanted].contains wanted = true := by simp
  rw [takeIf, bind_apply, isNext_apply ahead, isWanted, Option.bind_some, if_pos rfl, bind_apply,
    skip_apply ahead]
  rfl

theorem takeIf_of_ne (ahead : assembly.tokens = token :: rest) (wanted : Token)
    (other : token ≠ wanted) :
    takeIf wanted assembly = some (false, assembly) := by
  rw [takeIf, bind_apply, isNext_apply ahead]
  simp [other, pure_apply]

theorem require_apply (condition : Bool) (assembly : Assembly) :
    require condition assembly = if condition then some ((), assembly) else none := by
  rw [require]
  split <;> rfl

theorem properties_apply (ahead : assembly.tokens = token :: rest) (opens : Opens token) :
    properties assembly = some ((none, none), assembly) := by
  have noAnchor : anchor? assembly = some (none, assembly) := by
    rw [anchor?, bind_apply, peek_apply ahead]
    cases token <;> first | rfl | cases opens
  have noTag : tag? assembly = some (none, assembly) := by
    rw [tag?, bind_apply, peek_apply ahead]
    cases token <;> first | rfl | cases opens
  rw [properties, bind_apply, noAnchor]
  simp [bind_apply, noTag, pure_apply]

theorem node_apply (ahead : assembly.tokens = token :: rest) (opens : Opens token) (steps : Nat)
    (inBlock behindKey : Bool) :
    node (steps + 1) inBlock behindKey assembly =
      body steps inBlock behindKey none false assembly := by
  rw [node, bind_apply, peek_apply ahead]
  cases token <;> first
    | (simp [bind_apply, properties_apply ahead opens]; done)
    | cases opens

theorem body_scalar {plain : Bool} {text : String}
    (ahead : assembly.tokens = .scalar plain text :: rest) (steps : Nat)
    (inBlock behindKey : Bool) :
    body (steps + 1) inBlock behindKey none false assembly =
      some (.scalar ⟨plain, text, none⟩, { assembly with tokens := rest }) := by
  rw [body, bind_apply, peek_apply ahead, Option.bind_some]
  dsimp only
  rw [bind_apply, skip_apply ahead]
  rfl

theorem body_sequence (ahead : assembly.tokens = .flowSequence :: rest) (steps : Nat)
    (inBlock behindKey : Bool) :
    body (steps + 1) inBlock behindKey none false assembly =
      (flowItems steps [] { assembly with tokens := rest }).bind fun found =>
        some (.sequence none found.1, found.2) := by
  rw [body, bind_apply, peek_apply ahead, Option.bind_some]
  dsimp only
  rw [bind_apply, skip_apply ahead, Option.bind_some, bind_apply]
  rfl

theorem body_mapping (ahead : assembly.tokens = .flowMapping :: rest) (steps : Nat)
    (inBlock behindKey : Bool) :
    body (steps + 1) inBlock behindKey none false assembly =
      (flowMembers steps [] { assembly with tokens := rest }).bind fun found =>
        some (.mapping none found.1, found.2) := by
  rw [body, bind_apply, peek_apply ahead, Option.bind_some]
  dsimp only
  rw [bind_apply, skip_apply ahead, Option.bind_some, bind_apply]
  rfl

theorem flowItems_end (ahead : assembly.tokens = .flowSequenceEnd :: rest) (steps : Nat)
    (items : List Node) :
    flowItems (steps + 1) items assembly =
      some (items.reverse, { assembly with tokens := rest }) := by
  rw [flowItems, bind_apply, takeIf_of_eq ahead]
  rfl

theorem ne_of_opens {token : Token} (opens : Opens token) (other : Token)
    (isOther : ¬ Opens other) : token ≠ other := by
  rintro rfl
  exact isOther opens

theorem withTokens_eq (ahead : assembly.tokens = rest) :
    { assembly with tokens := rest } = assembly := by
  cases ahead
  rfl

/-- Reads one more item, with the comma before it if there are items already. -/
theorem flowItems_item (opens : Opens token) (steps : Nat) (items : List Node)
    (ahead : assembly.tokens =
      if items.isEmpty then token :: rest else .comma :: token :: rest) :
    flowItems (steps + 1) items assembly =
      (node steps false false { assembly with tokens := token :: rest }).bind fun found =>
        flowItems steps (found.1 :: items) found.2 := by
  have notEnd : takeIf .flowSequenceEnd assembly = some (false, assembly) := by
    split at ahead
    · exact takeIf_of_ne ahead _ (ne_of_opens opens _ id)
    · exact takeIf_of_ne ahead _ nofun
  rw [flowItems, bind_apply, notEnd, Option.bind_some]
  simp only [Bool.false_eq_true, if_false]
  split at ahead
  · next noItems =>
      rw [if_pos noItems, bind_apply, notEnd, Option.bind_some]
      simp only [Bool.false_eq_true, if_false]
      rw [bind_apply, takeIf_of_ne ahead _ (ne_of_opens opens _ id), Option.bind_some]
      simp only [Bool.false_eq_true, if_false]
      rw [withTokens_eq ahead, bind_apply]
  · next someItems =>
      let passed : Assembly := { assembly with tokens := token :: rest }
      have behind : passed.tokens = token :: rest := rfl
      rw [if_neg someItems, bind_apply, takeIf_of_eq ahead, Option.bind_some, bind_apply,
        require_apply, if_pos rfl, Option.bind_some, bind_apply,
        takeIf_of_ne behind _ (ne_of_opens opens _ id), Option.bind_some]
      simp only [Bool.false_eq_true, if_false]
      rw [bind_apply, takeIf_of_ne behind _ (ne_of_opens opens _ id), Option.bind_some]
      simp only [Bool.false_eq_true, if_false]
      rw [bind_apply]

theorem flowMembers_end (ahead : assembly.tokens = .flowMappingEnd :: rest) (steps : Nat)
    (members : List (Node × Node)) :
    flowMembers (steps + 1) members assembly =
      some (members.reverse, { assembly with tokens := rest }) := by
  rw [flowMembers, bind_apply, takeIf_of_eq ahead]
  rfl

/-- Reads one more member, behind the comma before it if there are members already. -/
theorem flowMembers_member (steps : Nat) (members : List (Node × Node))
    (notEnd : token ≠ .flowMappingEnd)
    (ahead : assembly.tokens =
      if members.isEmpty then token :: rest else .comma :: token :: rest) :
    flowMembers (steps + 1) members assembly =
      ((takeIf .key : Assembler Bool) >>= fun isMarked =>
        if isMarked then do
          let key ← nodeUnless steps [.value, .comma, .flowMappingEnd] false false
          let value ←
            if ← takeIf .value then nodeUnless steps [.comma, .flowMappingEnd] false false
            else pure (.scalar .nothing)
          flowMembers steps ((key, value) :: members)
        else do
          let key ← node steps false false
          flowMembers steps ((key, .scalar .nothing) :: members))
        { assembly with tokens := token :: rest } := by
  have goesOn : takeIf .flowMappingEnd assembly = some (false, assembly) := by
    split at ahead
    · exact takeIf_of_ne ahead _ notEnd
    · exact takeIf_of_ne ahead _ nofun
  rw [flowMembers, bind_apply, goesOn, Option.bind_some]
  simp only [Bool.false_eq_true, if_false]
  split at ahead
  · next noMembers =>
      rw [if_pos noMembers, bind_apply, goesOn, Option.bind_some, withTokens_eq ahead]
      simp only [Bool.false_eq_true, if_false]
  · next someMembers =>
      let passed : Assembly := { assembly with tokens := token :: rest }
      have behind : passed.tokens = token :: rest := rfl
      rw [if_neg someMembers, bind_apply, takeIf_of_eq ahead, Option.bind_some, bind_apply,
        require_apply, if_pos rfl, Option.bind_some, bind_apply, takeIf_of_ne behind _ notEnd,
        Option.bind_some]
      simp only [Bool.false_eq_true, if_false]
      rfl

/-! ## What a successful run has taken -/

variable {result : Node} {after : Assembly} {steps : Nat} {inBlock behindKey : Bool}

theorem body_of_node (ahead : assembly.tokens = token :: rest) (opens : Opens token)
    (run : node steps inBlock behindKey assembly = some (result, after)) :
    ∃ fewer, body (fewer + 1) inBlock behindKey none false assembly = some (result, after) := by
  cases steps with
  | zero => cases run
  | succ steps =>
      rw [node_apply ahead opens] at run
      cases steps with
      | zero => cases run
      | succ steps => exact ⟨steps, run⟩

theorem node_scalar {plain : Bool} {text : String}
    (ahead : assembly.tokens = .scalar plain text :: rest)
    (run : node steps inBlock behindKey assembly = some (result, after)) :
    result = .scalar ⟨plain, text, none⟩ ∧ after.tokens = rest := by
  obtain ⟨fewer, run⟩ := body_of_node ahead trivial run
  rw [body_scalar ahead] at run
  cases run
  exact ⟨rfl, rfl⟩

theorem node_of_nodeUnless (ahead : assembly.tokens = token :: rest) {ends : List Token}
    (goesOn : ends.contains token = false)
    (run : nodeUnless steps ends inBlock behindKey assembly = some (result, after)) :
    ∃ fewer, node fewer inBlock behindKey assembly = some (result, after) := by
  cases steps with
  | zero => cases run
  | succ steps =>
      rw [nodeUnless, bind_apply, isNext_apply ahead, goesOn] at run
      exact ⟨steps, run⟩

/-- A name without the mark of a key before it leaves a colon that has no place. -/
theorem flowMembers_unmarked {plain : Bool} {name : String} {members : List (Node × Node)}
    {results : List (Node × Node)}
    (ahead : assembly.tokens =
      if members.isEmpty then .scalar plain name :: .value :: rest
      else .comma :: .scalar plain name :: .value :: rest) :
    flowMembers steps members assembly ≠ some (results, after) := by
  intro run
  cases steps with
  | zero => cases run
  | succ steps =>
      have notEnd : Token.scalar plain name ≠ .flowMappingEnd := nofun
      have noMark (left : Assembly) (behind : left.tokens = .scalar plain name :: .value :: rest) :
          takeIf .key left = some (false, left) := takeIf_of_ne behind _ nofun
      rw [flowMembers_member steps members notEnd ahead, bind_apply, noMark _ rfl,
        Option.bind_some] at run
      simp only [Bool.false_eq_true, if_false] at run
      obtain ⟨⟨key, left⟩, readKey, run⟩ := Option.bind_eq_some_iff.mp run
      obtain ⟨-, leftTokens⟩ := node_scalar rfl readKey
      dsimp only at run leftTokens
      cases steps with
      | zero => cases run
      | succ steps =>
          rw [flowMembers, bind_apply, takeIf_of_ne leftTokens .flowMappingEnd nofun,
            Option.bind_some] at run
          simp only [Bool.false_eq_true, if_false, List.isEmpty_cons] at run
          rw [bind_apply, takeIf_of_ne leftTokens .comma nofun, Option.bind_some] at run
          cases run

/-- A name with the mark of a key, and the value behind its colon. -/
theorem flowMembers_marked {plain : Bool} {name : String} {members : List (Node × Node)}
    {results : List (Node × Node)} (opens : Opens token)
    (ahead : assembly.tokens =
      if members.isEmpty then .key :: .scalar plain name :: .value :: token :: rest
      else .comma :: .key :: .scalar plain name :: .value :: token :: rest)
    (run : flowMembers steps members assembly = some (results, after)) :
    ∃ fewer least value before left, before.tokens = token :: rest ∧
      node least false false before = some (value, left) ∧
      flowMembers fewer ((.scalar ⟨plain, name, none⟩, value) :: members) left =
        some (results, after) := by
  cases steps with
  | zero => cases run
  | succ steps =>
      have notEnd : Token.key ≠ .flowMappingEnd := nofun
      rw [flowMembers_member steps members notEnd ahead, bind_apply, takeIf_of_eq rfl,
        Option.bind_some, if_pos rfl, bind_apply] at run
      obtain ⟨⟨key, left⟩, readKey, run⟩ := Option.bind_eq_some_iff.mp run
      obtain ⟨fewer, readKey⟩ := node_of_nodeUnless rfl rfl readKey
      obtain ⟨rfl, leftTokens⟩ := node_scalar rfl readKey
      dsimp only at run leftTokens
      rw [bind_apply, takeIf_of_eq leftTokens, Option.bind_some, if_pos rfl, bind_apply] at run
      obtain ⟨⟨value, last⟩, readValue, run⟩ := Option.bind_eq_some_iff.mp run
      have goesOn : [Token.comma, Token.flowMappingEnd].contains token = false := by
        simp [ne_of_opens opens .comma id, ne_of_opens opens .flowMappingEnd id]
      obtain ⟨least, readValue⟩ := node_of_nodeUnless rfl goesOn readValue
      exact ⟨steps, least, value, _, last, rfl, readValue, run⟩

end Assembler

open Assembler

theorem Denotes.untagged {given : String → Prop} {document : Json} {scalar : Scalar}
    (denotes : Denotes given document scalar) :
    (⟨scalar.plain, scalar.text, none⟩ : Scalar) = scalar := by
  cases denotes <;> rfl

section Items

variable {item : Json} {marks rest : List Token} {before nodes : List Node} {steps : Nat}
  {assembly after : Assembly}

/-- An item is read as a node of its own, and then what comes behind it. -/
theorem exists_item (are : Marks item marks)
    (ahead : assembly.tokens =
      if before.isEmpty then marks ++ rest else .comma :: (marks ++ rest))
    (run : flowItems steps before assembly = some (nodes, after)) :
    ∃ fewer node start left, start.tokens = marks ++ rest ∧
      Assembler.node fewer false false start = some (node, left) ∧
      flowItems fewer (node :: before) left = some (nodes, after) := by
  obtain ⟨token, others, same, opens⟩ := are.opens
  rw [same] at ahead ⊢
  cases steps with
  | zero => cases run
  | succ steps =>
      rw [flowItems_item opens steps before ahead] at run
      obtain ⟨⟨node, left⟩, readNode, run⟩ := Option.bind_eq_some_iff.mp run
      exact ⟨steps, node, _, left, rfl, readNode, run⟩

end Items

theorem ends_of_flowItems {assembly after : Assembly} {rest : List Token} {steps : Nat}
    {before nodes : List Node} (ahead : assembly.tokens = .flowSequenceEnd :: rest)
    (run : flowItems steps before assembly = some (nodes, after)) :
    nodes = before.reverse ∧ after.tokens = rest := by
  cases steps with
  | zero => cases run
  | succ steps =>
      rw [flowItems_end ahead] at run
      cases run
      exact ⟨rfl, rfl⟩

theorem ends_of_flowMembers {assembly after : Assembly} {rest : List Token} {steps : Nat}
    {before nodes : List (Node × Node)} (ahead : assembly.tokens = .flowMappingEnd :: rest)
    (run : flowMembers steps before assembly = some (nodes, after)) :
    nodes = before.reverse ∧ after.tokens = rest := by
  cases steps with
  | zero => cases run
  | succ steps =>
      rw [flowMembers_end ahead] at run
      cases run
      exact ⟨rfl, rfl⟩

/-- A name has to have the mark of a key, and its value is read as a node of its own. -/
theorem exists_member {name : String} {value : Json} {keyMark marks rest : List Token}
    {before nodes : List (Node × Node)} {steps : Nat} {assembly after : Assembly}
    (isKeyMark : keyMark = [] ∨ keyMark = [.key]) (are : Marks value marks)
    (ahead : assembly.tokens =
      if before.isEmpty then keyMark ++ .scalar false name :: .value :: (marks ++ rest)
      else .comma :: (keyMark ++ .scalar false name :: .value :: (marks ++ rest)))
    (run : flowMembers steps before assembly = some (nodes, after)) :
    ∃ fewer least node start left, start.tokens = marks ++ rest ∧
      Assembler.node least false false start = some (node, left) ∧
      flowMembers fewer ((.scalar ⟨false, name, none⟩, node) :: before) left =
        some (nodes, after) := by
  obtain ⟨token, others, same, opens⟩ := are.opens
  rw [same] at ahead ⊢
  rcases isKeyMark with rfl | rfl
  · exact absurd run (flowMembers_unmarked ahead)
  · obtain ⟨fewer, least, node, start, left, starts, readNode, run⟩ :=
      flowMembers_marked opens ahead run
    exact ⟨fewer, least, node, start, left, starts, readNode, run⟩

section Mirrors

variable {given : String → Prop}

mutual

/-- The node that is read from the tokens of a tree mirrors it. -/
theorem Marks.mirrors : {document : Json} → {marks : List Token} → Marks document marks →
    (∀ text, Token.scalar true text ∈ marks → given text) → {steps : Nat} →
    {inBlock behindKey : Bool} → {assembly after : Assembly} → {rest : List Token} →
    {result : Node} → assembly.tokens = marks ++ rest →
    node steps inBlock behindKey assembly = some (result, after) →
    Mirrors given document result ∧ after.tokens = rest
  | _, _, .scalar denotes, among, _, _, _, _, _, _, _, ahead, run => by
      obtain ⟨rfl, ends⟩ := node_scalar ahead run
      rw [denotes.untagged]
      refine ⟨.scalar (denotes.among fun plain => among _ ?_), ends⟩
      rw [plain]
      exact List.mem_cons_self
  | _, _, .emptyArray, _, _, _, _, _, _, _, _, ahead, run => by
      obtain ⟨fewer, run⟩ := body_of_node ahead trivial run
      rw [body_sequence ahead] at run
      obtain ⟨⟨nodes, left⟩, readItems, same⟩ := Option.bind_eq_some_iff.mp run
      cases same
      obtain ⟨rfl, ends⟩ := ends_of_flowItems rfl readItems
      exact ⟨.array .nil, ends⟩
  | _, _, .array items, among, _, _, _, _, _, _, _, ahead, run => by
      obtain ⟨fewer, run⟩ := body_of_node ahead trivial run
      rw [body_sequence ahead] at run
      obtain ⟨⟨nodes, left⟩, readItems, same⟩ := Option.bind_eq_some_iff.mp run
      cases same
      obtain ⟨found, mirrors, rfl, ends⟩ :=
        items.mirrors (fun text listed => among text (List.mem_cons_of_mem _ listed)) [] rfl
          readItems
      exact ⟨.array mirrors, ends⟩
  | _, _, .emptyObject, _, _, _, _, _, _, _, _, ahead, run => by
      obtain ⟨fewer, run⟩ := body_of_node ahead trivial run
      rw [body_mapping ahead] at run
      obtain ⟨⟨nodes, left⟩, readMembers, same⟩ := Option.bind_eq_some_iff.mp run
      cases same
      obtain ⟨rfl, ends⟩ := ends_of_flowMembers rfl readMembers
      exact ⟨.object .nil, ends⟩
  | _, _, .object members, among, _, _, _, _, _, _, _, ahead, run => by
      obtain ⟨fewer, run⟩ := body_of_node ahead trivial run
      rw [body_mapping ahead] at run
      obtain ⟨⟨nodes, left⟩, readMembers, same⟩ := Option.bind_eq_some_iff.mp run
      cases same
      obtain ⟨found, mirrors, rfl, ends⟩ :=
        members.mirrors (fun text listed => among text (List.mem_cons_of_mem _ listed)) [] rfl
          readMembers
      exact ⟨.object mirrors, ends⟩

theorem MarksItems.mirrors : {items : List Json} → {marks : List Token} →
    MarksItems items marks → (∀ text, Token.scalar true text ∈ marks → given text) →
    (before : List Node) → {steps : Nat} → {assembly after : Assembly} → {rest : List Token} →
    {results : List Node} →
    assembly.tokens = (if before.isEmpty then marks ++ rest else .comma :: (marks ++ rest)) →
    flowItems steps before assembly = some (results, after) →
    ∃ nodes, MirrorsItems given items nodes ∧ results = before.reverse ++ nodes ∧
      after.tokens = rest
  | _, _, .last item, among, before, _, _, _, _, _, ahead, run => by
      rw [List.append_assoc] at ahead
      obtain ⟨fewer, node, start, left, starts, readNode, run⟩ := exists_item item ahead run
      obtain ⟨mirrors, leftTokens⟩ :=
        item.mirrors (fun text listed => among text (List.mem_append_left _ listed)) starts readNode
      obtain ⟨rfl, ends⟩ := ends_of_flowItems leftTokens run
      exact ⟨[node], .cons mirrors .nil, by simp, ends⟩
  | _, _, .cons item items, among, before, _, _, _, _, _, ahead, run => by
      rw [List.append_assoc] at ahead
      obtain ⟨fewer, node, start, left, starts, readNode, run⟩ := exists_item item ahead run
      obtain ⟨mirrors, leftTokens⟩ :=
        item.mirrors (fun text listed => among text (List.mem_append_left _ listed)) starts readNode
      obtain ⟨nodes, others, rfl, ends⟩ := items.mirrors
        (fun text listed => among text (List.mem_append_right _ (List.mem_cons_of_mem _ listed)))
        (node :: before) leftTokens run
      exact ⟨node :: nodes, .cons mirrors others, by simp, ends⟩

theorem MarksMembers.mirrors : {members : List (String × Json)} → {marks : List Token} →
    MarksMembers members marks → (∀ text, Token.scalar true text ∈ marks → given text) →
    (before : List (Node × Node)) → {steps : Nat} → {assembly after : Assembly} →
    {rest : List Token} → {results : List (Node × Node)} →
    assembly.tokens = (if before.isEmpty then marks ++ rest else .comma :: (marks ++ rest)) →
    flowMembers steps before assembly = some (results, after) →
    ∃ nodes, MirrorsMembers given members nodes ∧ results = before.reverse ++ nodes ∧
      after.tokens = rest
  | _, _, .last isKeyMark value, among, before, _, _, _, _, _, ahead, run => by
      simp only [List.append_assoc, List.cons_append] at ahead
      obtain ⟨fewer, least, node, start, left, starts, readNode, run⟩ :=
        exists_member isKeyMark value ahead run
      obtain ⟨mirrors, leftTokens⟩ :=
        value.mirrors (fun text listed => among text (by simp [listed])) starts readNode
      obtain ⟨rfl, ends⟩ := ends_of_flowMembers leftTokens run
      exact ⟨_, .cons mirrors .nil, by simp, ends⟩
  | _, _, .cons isKeyMark value members, among, before, _, _, _, _, _, ahead, run => by
      simp only [List.append_assoc, List.cons_append] at ahead
      obtain ⟨fewer, least, node, start, left, starts, readNode, run⟩ :=
        exists_member isKeyMark value ahead run
      obtain ⟨mirrors, leftTokens⟩ :=
        value.mirrors (fun text listed => among text (by simp [listed])) starts readNode
      obtain ⟨nodes, others, rfl, ends⟩ :=
        members.mirrors (fun text listed => among text (by simp [listed])) _ leftTokens run
      exact ⟨_ :: nodes, .cons mirrors others, by simp, ends⟩

end

end Mirrors

theorem directives_apply {token : Token} {rest : List Token} {assembly : Assembly}
    (ahead : assembly.tokens = token :: rest) (opens : Opens token) (steps : Nat)
    (versioned : Bool) (handles : List (List Char × Tag)) :
    directives (steps + 1) versioned handles assembly =
      some (PUnit.unit, { assembly with handles := handles ++ commonHandles }) := by
  rw [directives, bind_apply, peek_apply ahead]
  cases token <;> first | rfl | cases opens

/-- Reads a document that begins with its root, without a mark of its start. -/
def unmarkedDocument (steps : Nat) : Assembler Node := do
  directives steps false []
  let _ ← atDocumentEnd
  let root ← node steps true false
  modify fun assembly =>
    { assembly with tokens := assembly.tokens.dropWhile (· == .documentEnd) }
  require (← peek).isNone
  return root

theorem onlyDocument_apply {token : Token} {rest : List Token} {assembly : Assembly}
    (ahead : assembly.tokens = token :: rest) (opens : Opens token) (steps : Nat) :
    onlyDocument steps assembly = unmarkedDocument steps assembly := by
  rw [onlyDocument, bind_apply, peek_apply ahead]
  cases token <;> first | rfl | cases opens

theorem atDocumentEnd_apply {token : Token} {rest : List Token} {assembly : Assembly}
    (ahead : assembly.tokens = token :: rest) (opens : Opens token) :
    atDocumentEnd assembly = some (false, assembly) := by
  rw [atDocumentEnd, bind_apply, peek_apply ahead]
  cases token <;> first | rfl | cases opens

/-- What follows the root takes no part in it. -/
theorem node_of_onlyDocument {token : Token} {rest : List Token} {assembly after : Assembly}
    {root : Node} {steps : Nat} (ahead : assembly.tokens = token :: rest) (opens : Opens token)
    (run : onlyDocument (steps + 1) assembly = some (root, after)) :
    ∃ start left, start.tokens = token :: rest ∧
      node (steps + 1) true false start = some (root, left) := by
  have atRoot : atDocumentEnd { assembly with handles := [] ++ commonHandles } =
      some (false, { assembly with handles := [] ++ commonHandles }) :=
    atDocumentEnd_apply ahead opens
  rw [onlyDocument_apply ahead opens, unmarkedDocument, bind_apply,
    directives_apply ahead opens, Option.bind_some] at run
  dsimp only at run
  rw [bind_apply, atRoot, Option.bind_some, bind_apply] at run
  obtain ⟨⟨found, left⟩, readNode, run⟩ := Option.bind_eq_some_iff.mp run
  rw [bind_apply] at run
  obtain ⟨⟨done, later⟩, -, run⟩ := Option.bind_eq_some_iff.mp run
  rw [bind_apply] at run
  obtain ⟨⟨next, behind⟩, -, run⟩ := Option.bind_eq_some_iff.mp run
  rw [bind_apply] at run
  obtain ⟨⟨ended, last⟩, -, run⟩ := Option.bind_eq_some_iff.mp run
  cases run
  exact ⟨{ assembly with handles := [] ++ commonHandles }, left, ahead, readNode⟩

/-- The document of the tokens of a tree mirrors it. -/
theorem Marks.ofTokens? {document : Json} {marks : List Token} (are : Marks document marks)
    {given : String → Prop} (among : ∀ text, .scalar true text ∈ marks → given text)
    {found : Document} (read : Document.ofTokens? marks = some found) :
    Mirrors given document found.root := by
  rw [Document.ofTokens?] at read
  obtain ⟨⟨root, assembly⟩, run, same⟩ := Option.bind_eq_some_iff.mp read
  cases same
  obtain ⟨token, others, isMarks, opens⟩ := are.opens
  obtain ⟨start, left, starts, readNode⟩ := node_of_onlyDocument isMarks opens run
  rw [← isMarks] at starts
  have whole : start.tokens = marks ++ [] := by rw [starts, List.append_nil]
  exact (are.mirrors among whole readNode).1

end AtomicCss.Yaml
