import AtomicCss.Table

/-!
# YAML nodes

The tree of a document. A node may be named by an anchor and referred to elsewhere, even
inside itself, so references are kept as numbers, and the document tells what they refer to.
-/

set_option autoImplicit false

namespace AtomicCss.Yaml

abbrev Tag := List UInt8

/-- A scalar keeps its text, since what it means depends on what is wanted. -/
structure Scalar where
  /-- Whether the scalar is neither quoted nor a block. -/
  plain : Bool
  text : String
  tag : Option Tag := none
  deriving DecidableEq, Repr

/-- The scalar of a place where nothing is written. -/
def Scalar.nothing : Scalar where
  plain := true
  text := ""

inductive Node where
  | scalar (scalar : Scalar)
  | sequence (tag : Option Tag) (items : List Node)
  | mapping (tag : Option Tag) (members : List (Node × Node))
  | reference (number : Nat)
  deriving Repr

namespace Node

mutual

/-- How many marks a node consists of, the two ends of a collection being marks of their
own. -/
def markCount : Node → Nat
  | .sequence _ items => markCountOfItems items + 2
  | .mapping _ members => markCountOfMembers members + 2
  | _ => 1

def markCountOfItems : List Node → Nat
  | [] => 0
  | item :: rest => item.markCount + markCountOfItems rest

def markCountOfMembers : List (Node × Node) → Nat
  | [] => 0
  | (key, value) :: rest => key.markCount + value.markCount + markCountOfMembers rest

end

end Node

structure Document where
  root : Node
  /-- The nodes that references refer to. -/
  targets : List (Nat × Node)

def Document.target? (document : Document) (number : Nat) : Option Node :=
  (document.targets.find? fun target => target.1 == number).map (·.2)

end AtomicCss.Yaml
