import AtomicCss.Proofs.Yaml.Nodes
import AtomicCss.Yaml.Content
import Mathlib.Data.List.Forall2

/-!
# Contents of JSON texts

The nodes of a JSON text refer to nothing, so following references leaves them as they are.
Their content shows the tree of the text, as far as it is looked at.
-/

set_option autoImplicit false

namespace AtomicCss.Yaml

mutual

/-- A content shows a tree, of which parts may be passed over. -/
inductive Shows (given : String → Prop) : Json → Content → Prop where
  | scalar {document : Json} {scalar : Scalar} :
      Denotes given document scalar → Shows given document (.scalar scalar)
  | sequence {items : List Json} {contents : List Content} :
      List.Forall₂ (Shows given) items contents →
      Shows given (.array items) (.sequence none contents)
  | mapping {members : List (String × Json)} {contents : List (Content × Content)} :
      List.Forall₂ (ShowsMember given) members contents →
      Shows given (.object members) (.mapping none contents)
  | passedOver {document : Json} : Shows given document .passedOver

inductive ShowsMember (given : String → Prop) : String × Json → Content × Content → Prop where
  | mk {name : String} {value : Json} {content : Content} :
      Shows given value content →
      ShowsMember given (name, value) (.scalar ⟨false, name, none⟩, content)

end

/-- What is found of a node at some depth shows the tree that the node mirrors. -/
def Follows (given : String → Prop) (source : Document) (isRead : List String → Bool)
    (depth : Nat) : Prop :=
  ∀ {document : Json} {node : Node} {path : List String} {content : Content} {left after : Nat},
    Mirrors given document node →
    source.contentAt isRead depth path node left = some (content, after) →
    Shows given document content

section Following

variable {given : String → Prop} {source : Document} {isRead : List String → Bool} {depth : Nat}
  {path : List String} {left after : Nat}

theorem exists_of_following {α β : Type} {first : Document.Following α}
    {next : α → Document.Following β} {result : β}
    (run : (first >>= next) left = some (result, after)) :
    ∃ value between, first left = some (value, between) ∧
      next value between = some (result, after) := by
  obtain ⟨⟨value, between⟩, isFirst, isNext⟩ := Option.bind_eq_some_iff.mp run
  exact ⟨value, between, isFirst, isNext⟩

theorem contentAt_scalar (depth : Nat) (path : List String) (scalar : Scalar) (left : Nat) :
    source.contentAt isRead depth path (.scalar scalar) left = some (.scalar scalar, left) := by
  cases depth <;> rfl

theorem contentAt_sequence (tag : Option Tag) (nodes : List Node) :
    source.contentAt isRead (depth + 1) path (.sequence tag nodes) =
      (do return .sequence tag (← nodes.mapM (source.contentAt isRead depth path))) := rfl

variable (source isRead depth path) in
/-- Looks at a member of a mapping inside so many more collections. -/
def memberAt (member : Node × Node) : Document.Following (Content × Content) := do
  match ← source.contentAt isRead depth path member.1 with
  | .scalar scalar =>
      let path := path ++ [scalar.text]
      if isRead path then
        return (.scalar scalar, ← source.contentAt isRead depth path member.2)
      else return (.scalar scalar, .passedOver)
  | _ => failure

theorem contentAt_mapping (tag : Option Tag) (nodes : List (Node × Node)) :
    source.contentAt isRead (depth + 1) path (.mapping tag nodes) =
      (do return .mapping tag (← nodes.mapM (memberAt source isRead depth path))) := rfl

theorem Follows.items (follows : Follows given source isRead depth) {items : List Json}
    {nodes : List Node} {contents : List Content} (mirrors : MirrorsItems given items nodes)
    (run : nodes.mapM (source.contentAt isRead depth path) left = some (contents, after)) :
    List.Forall₂ (Shows given) items contents := by
  induction nodes generalizing items contents left with
  | nil =>
      cases mirrors
      cases run
      exact .nil
  | cons node nodes ih =>
      cases mirrors with
      | cons first rest =>
          rw [List.mapM_cons] at run
          obtain ⟨content, between, readFirst, run⟩ := exists_of_following run
          obtain ⟨others, last, readRest, run⟩ := exists_of_following run
          cases run
          exact .cons (follows first readFirst) (ih rest readRest)

theorem Follows.member (follows : Follows given source isRead depth) {name : String} {value : Json}
    {node : Node} {shown : Content × Content} (mirrors : Mirrors given value node)
    (run : memberAt source isRead depth path (.scalar ⟨false, name, none⟩, node) left =
      some (shown, after)) :
    ShowsMember given (name, value) shown := by
  obtain ⟨key, between, readKey, run⟩ := exists_of_following run
  rw [contentAt_scalar] at readKey
  cases readKey
  dsimp only at run
  split at run
  · obtain ⟨content, last, readValue, run⟩ := exists_of_following run
    cases run
    exact .mk (follows mirrors readValue)
  · cases run
    exact .mk .passedOver

theorem Follows.members (follows : Follows given source isRead depth)
    {members : List (String × Json)} {nodes : List (Node × Node)}
    {contents : List (Content × Content)} (mirrors : MirrorsMembers given members nodes)
    (run : nodes.mapM (memberAt source isRead depth path) left = some (contents, after)) :
    List.Forall₂ (ShowsMember given) members contents := by
  induction nodes generalizing members contents left with
  | nil =>
      cases mirrors
      cases run
      exact .nil
  | cons node nodes ih =>
      cases mirrors with
      | cons first rest =>
          rw [List.mapM_cons] at run
          obtain ⟨content, between, readFirst, run⟩ := exists_of_following run
          obtain ⟨others, last, readRest, run⟩ := exists_of_following run
          cases run
          exact .cons (follows.member first readFirst) (ih rest readRest)

/-- Scalars are found at every depth, collections one level deeper. -/
theorem follows (depth : Nat) : Follows given source isRead depth := by
  intro document node path content left after mirrors run
  induction depth generalizing document node path content left after with
  | zero =>
      cases mirrors with
      | scalar denotes =>
          rw [contentAt_scalar] at run
          cases run
          exact .scalar denotes
      | array items => cases run
      | object members => cases run
  | succ depth ih =>
      cases mirrors with
      | scalar denotes =>
          rw [contentAt_scalar] at run
          cases run
          exact .scalar denotes
      | array items =>
          rw [contentAt_sequence] at run
          obtain ⟨contents, between, readItems, run⟩ := exists_of_following run
          cases run
          exact .sequence (Follows.items ih items readItems)
      | object members =>
          rw [contentAt_mapping] at run
          obtain ⟨contents, between, readMembers, run⟩ := exists_of_following run
          cases run
          exact .mapping (Follows.members ih members readMembers)

/-- What is found of a document shows the tree that its root mirrors. -/
theorem Mirrors.content? {document : Json} {content : Content}
    (mirrors : Mirrors given document source.root)
    (found : source.content? isRead = some content) : Shows given document content := by
  obtain ⟨⟨whole, left⟩, run, same⟩ := Option.map_eq_some_iff.mp found
  cases same
  exact follows Document.maxDepth mirrors run

end Following

/-- The texts of the plain scalars of a text. -/
def plainTexts (text : String) : List String :=
  ((Token.ofChars? text.toList).getD []).filterMap fun
    | .scalar true text => some text
    | _ => none

theorem mem_plainTexts {text plain : String} {tokens : List Token}
    (isYaml : Token.ofChars? text.toList = some tokens) (listed : .scalar true plain ∈ tokens) :
    plain ∈ plainTexts text := by
  rw [plainTexts, isYaml]
  exact List.mem_filterMap.mpr ⟨_, listed, rfl⟩

/-- What is found of a text that holds an array or an object shows the tree of the text. -/
theorem shows_of_ofText? {text : String} (printable : ∀ c ∈ text.toList, IsPrintable c)
    {tree : Json} (isJson : Json.ofText? text = some tree) (isCollection : IsCollection tree)
    {document : Document} (isYaml : Document.ofText? text = some document)
    {isRead : List String → Bool} {content : Content}
    (found : document.content? isRead = some content) :
    Shows (· ∈ plainTexts text) tree content := by
  obtain ⟨tokens, isTokens, isDocument⟩ := Option.bind_eq_some_iff.mp isYaml
  have marks := marks_of_ofChars? printable isJson isCollection isTokens
  exact (marks.ofTokens? (fun _ => mem_plainTexts isTokens) isDocument).content? found

end AtomicCss.Yaml
