import AtomicCss.Reading.Document
import AtomicCss.Yaml.Document
import AtomicCss.Yaml.Value

/-!
# Contents of YAML documents

What a document holds once its references are followed. References are followed only in
the parts that are looked at, so in the others a node may well refer to itself. How deeply
collections may be nested and how many references may be followed is limited.
-/

set_option autoImplicit false

namespace AtomicCss.Yaml

inductive Content where
  | scalar (scalar : Scalar)
  | sequence (tag : Option Tag) (items : List Content)
  | mapping (tag : Option Tag) (members : List (Content × Content))
  /-- A part that nothing looks at. -/
  | passedOver
  deriving Repr

namespace Document

/-- How deeply the collections that are looked at may be nested. -/
def maxDepth : Nat := 128

/-- Following references, of which only so many may still be followed. -/
abbrev Following := StateT Nat Option

/-- The node itself, or the one that it refers to. -/
def follow (document : Document) : Node → Following Node
  | .reference number => fun left =>
      match left, document.target? number with
      | left + 1, some node => some (node, left)
      | _, _ => none
  | node => pure node

/-- The content of a node inside so many more collections. The keys that lead to it are
given, and so is at which keys documents are looked at. -/
def contentAt (document : Document) (isRead : List String → Bool) :
    Nat → List String → Node → Following Content
  | 0, _, node => do
      match ← document.follow node with
      | .scalar scalar => return .scalar scalar
      | _ => failure
  | depth + 1, path, node => do
      match ← document.follow node with
      | .scalar scalar => return .scalar scalar
      | .sequence tag items =>
          return .sequence tag (← items.mapM (contentAt document isRead depth path))
      | .mapping tag members =>
          let members ← members.mapM fun (key, value) => do
            match ← contentAt document isRead depth path key with
            | .scalar scalar =>
                let path := path ++ [scalar.text]
                if isRead path then
                  return (.scalar scalar, ← contentAt document isRead depth path value)
                else return (.scalar scalar, .passedOver)
            | _ => failure
          return .mapping tag members
      | .reference _ => failure

/-- The content of a document. For each of its marks, a hundred references may be followed. -/
def content? (document : Document) (isRead : List String → Bool) : Option Content :=
  ((document.contentAt isRead maxDepth [] document.root).run
    (100 * document.root.markCount)).map Prod.fst

end Document

/-- The name of a member whose key is a text on its own. -/
def keyTree? : Content → Option String
  | .scalar scalar =>
      match scalar.tree with
      | .string name => some name
      | _ => none
  | _ => none

namespace Content

mutual

/-- A part on its own. A mapping with a key that is no text has no value. -/
def tree : Content → Json
  | .scalar leaf => leaf.tree
  | .sequence tag items =>
      if tag.any isOwnTag then .unreadable else .array (treesOfItems items)
  | .mapping tag members =>
      match treesOfMembers members with
      | some named => if tag.any isOwnTag then .unreadable else .object named
      | none => .unreadable
  | .passedOver => .unreadable

def treesOfItems : List Content → List Json
  | [] => []
  | item :: rest => item.tree :: treesOfItems rest

def treesOfMembers : List (Content × Content) → Option (List (String × Json))
  | [] => some []
  | (key, value) :: rest =>
      match keyTree? key, treesOfMembers rest with
      | some name, some named => some ((name, value.tree) :: named)
      | _, _ => none

end

/-- What a part is found to be where something else is wanted. -/
def found (content : Content) : Reading.Found := .ofJson content.tree

def isNothing : Content → Bool
  | .scalar leaf => leaf.isNothing
  | _ => false

/-- A part as a text: any scalar is one. -/
def text : Content → Except Reading.Fault String
  | .scalar leaf => .ok leaf.text
  | other => .error (.mismatch other.found .text)

/-- A part as a map; nothing counts as the empty one. -/
def members (wanted : Reading.Wanted) :
    Content → Except Reading.Fault (List (String × Content))
  | .mapping _ members => members.mapM fun (key, value) => do return (← key.text, value)
  | other => if other.isNothing then .ok [] else .error (.mismatch other.found wanted)

end Content

/-- Nothing counts as an empty sequence, map or record; a sequence is no record. -/
instance : Reading.Document Content where
  text := Content.text
  isAbsent
    | .scalar scalar => scalar.isAbsent
    | _ => .ok false
  items
    | .sequence _ items => .ok items
    | other => if other.isNothing then .ok [] else .error (.mismatch other.found .sequence)
  members := Content.members .map
  record name content := (content.members (.record name)).map .named
  tree := Content.tree

end AtomicCss.Yaml
