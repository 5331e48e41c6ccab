import AtomicCss.Yaml.Layout
import AtomicCss.Yaml.Node

/-!
# Documents from YAML texts

The grammar of nodes over tokens. A node may have an anchor and a tag in front, and with
one of them it may be missing otherwise. Between brackets a single member may stand for a
mapping of its own, and blocks may have parts left out wherever their marks tell where.

An anchor is numbered by how many names there are when its node begins. A name that is
given again does not add to them, so numbers may come twice, and a reference goes to the
node that began last under its number in the whole document.
-/

set_option autoImplicit false

namespace AtomicCss.Yaml

/-- The tokens ahead and what is known of the document so far. -/
structure Assembly where
  tokens : List Token
  handles : List (List Char × Tag)
  /-- The numbers of the names given so far. -/
  names : Table Nat
  /-- The numbers of the anchored nodes that have begun, latest first. -/
  begun : List Nat
  /-- The anchored nodes that are complete, by how many had begun before. -/
  complete : List (Nat × Node)

/-- A part of the grammar: it takes tokens, or finds them not to be well formed. -/
abbrev Assembler := StateT Assembly Option

namespace Assembler

def peek : Assembler (Option Token) := do return (← get).tokens.head?

def skip : Assembler Unit := modify fun assembly =>
  { assembly with tokens := assembly.tokens.tail }

/-- Whether the next token is one of a list; the end counts as none. -/
def isNext (wanted : List Token) : Assembler Bool := do
  return (← peek).any wanted.contains

def takeIf (wanted : Token) : Assembler Bool := do
  if ← isNext [wanted] then
    skip
    return true
  else return false

def require (condition : Bool) : Assembler Unit := if condition then pure () else failure

def anchor? : Assembler (Option String) := do
  match ← peek with
  | some (.anchor name) =>
      skip
      return some name
  | _ => return none

def tag? : Assembler (Option Tag) := do
  match ← peek with
  | some (.tag handle octets) =>
      skip
      if handle.isEmpty then return some octets
      else
        match (← get).handles.find? fun entry => entry.1 == handle with
        | some (_, start) => return some (start ++ octets)
        | none => failure
  | _ => return none

/-- Takes the anchor and the tag of a node, in either order. -/
def properties : Assembler (Option String × Option Tag) := do
  match ← anchor? with
  | some name => return (some name, ← tag?)
  | none =>
      match ← tag? with
      | some tag => return (← anchor?, some tag)
      | none => return (none, none)

/-- Numbers the anchor of a node that begins; it gives how many had begun before. -/
def beginAnchored (name : String) : Assembler Nat := do
  let assembly ← get
  let number := assembly.names.entries.length
  set { assembly with
    names := assembly.names.insert name number
    begun := number :: assembly.begun }
  return assembly.begun.length

def reference (name : String) : Assembler Node := do
  match (← get).names.get? name with
  | some number => return .reference number
  | none => failure

mutual

/-- Reads a node. Block collections have to be allowed, and so has a sequence in the column
of the key before it. The number bounds the steps. -/
def node : Nat → Bool → Bool → Assembler Node
  | 0, _, _ => failure
  | steps + 1, inBlock, behindKey => do
      match ← peek with
      | some (.reference name) =>
          skip
          reference name
      | _ =>
          let (name, tag) ← properties
          match name with
          | none => body steps inBlock behindKey tag false
          | some name =>
              let place ← beginAnchored name
              let node ← body steps inBlock behindKey tag true
              modify fun assembly =>
                { assembly with complete := (place, node) :: assembly.complete }
              return node

/-- Reads a node behind its anchor and tag. -/
def body : Nat → Bool → Bool → Option Tag → Bool → Assembler Node
  | 0, _, _, _, _ => failure
  | steps + 1, inBlock, behindKey, tag, anchored => do
      match ← peek, inBlock, behindKey with
      | some (.scalar plain text), _, _ =>
          skip
          return .scalar ⟨plain, text, tag⟩
      | some .flowSequence, _, _ =>
          skip
          return .sequence tag (← flowItems steps [])
      | some .flowMapping, _, _ =>
          skip
          return .mapping tag (← flowMembers steps [])
      | some .blockSequence, true, _ =>
          skip
          return .sequence tag (← blockItems steps [])
      | some .blockMapping, true, _ =>
          skip
          return .mapping tag (← blockMembers steps [])
      | some .dash, _, true => return .sequence tag (← dashedItems steps [])
      | _, _, _ =>
          require (anchored || tag.isSome)
          return .scalar { Scalar.nothing with tag := tag }

/-- Reads a node unless one of the given tokens shows that it is missing. -/
def nodeUnless : Nat → List Token → Bool → Bool → Assembler Node
  | 0, _, _, _ => failure
  | steps + 1, ends, inBlock, behindKey => do
      if ← isNext ends then return .scalar .nothing else node steps inBlock behindKey

/-- Reads the items of a block up to its end; those read are given, latest first. -/
def blockItems : Nat → List Node → Assembler (List Node)
  | 0, _ => failure
  | steps + 1, items => do
      if ← takeIf .dash then
        let item ← nodeUnless steps [.dash, .blockEnd] true false
        blockItems steps (item :: items)
      else
        require (← takeIf .blockEnd)
        return items.reverse

/-- Reads the items of a sequence in the column of the key before it. -/
def dashedItems : Nat → List Node → Assembler (List Node)
  | 0, _ => failure
  | steps + 1, items => do
      if ← takeIf .dash then
        let item ← nodeUnless steps [.dash, .key, .value, .blockEnd] true false
        dashedItems steps (item :: items)
      else return items.reverse

def blockMembers : Nat → List (Node × Node) → Assembler (List (Node × Node))
  | 0, _ => failure
  | steps + 1, members => do
      if ← takeIf .key then
        let key ← nodeUnless steps [.key, .value, .blockEnd] true true
        let value ←
          if ← takeIf .value then nodeUnless steps [.key, .value, .blockEnd] true true
          else pure (.scalar .nothing)
        blockMembers steps ((key, value) :: members)
      else
        require (← takeIf .blockEnd)
        return members.reverse

def flowItems : Nat → List Node → Assembler (List Node)
  | 0, _ => failure
  | steps + 1, items => do
      if ← takeIf .flowSequenceEnd then return items.reverse
      else
        unless items.isEmpty do require (← takeIf .comma)
        if ← takeIf .flowSequenceEnd then return items.reverse
        else if ← takeIf .key then
          let member ← flowMember steps
          flowItems steps (.mapping none [member] :: items)
        else
          let item ← node steps false false
          flowItems steps (item :: items)

/-- Reads the member that stands for a mapping of its own. A mark in place of its key is
taken for the key. -/
def flowMember : Nat → Assembler (Node × Node)
  | 0 => failure
  | steps + 1 => do
      let key ←
        if ← isNext [.value, .comma, .flowSequenceEnd] then do
          skip
          pure (.scalar .nothing)
        else node steps false false
      let value ←
        if ← takeIf .value then nodeUnless steps [.comma, .flowSequenceEnd] false false
        else pure (.scalar .nothing)
      return (key, value)

/-- Reads the members of a mapping up to its closing brace. A key may stand alone. -/
def flowMembers : Nat → List (Node × Node) → Assembler (List (Node × Node))
  | 0, _ => failure
  | steps + 1, members => do
      if ← takeIf .flowMappingEnd then return members.reverse
      else
        unless members.isEmpty do require (← takeIf .comma)
        if ← takeIf .flowMappingEnd then return members.reverse
        else if ← takeIf .key then
          let key ← nodeUnless steps [.value, .comma, .flowMappingEnd] false false
          let value ←
            if ← takeIf .value then nodeUnless steps [.comma, .flowMappingEnd] false false
            else pure (.scalar .nothing)
          flowMembers steps ((key, value) :: members)
        else
          let key ← node steps false false
          flowMembers steps ((key, .scalar .nothing) :: members)

end

/-- The handles that need no directive. -/
def commonHandles : List (List Char × Tag) :=
  [(['!'], [33]), (['!', '!'], "tag:yaml.org,2002:".toUTF8.toList)]

/-- Takes the directives of a document: its version, once, and handles of tags, each once. -/
def directives : Nat → Bool → List (List Char × Tag) → Assembler Unit
  | 0, _, _ => failure
  | steps + 1, versioned, handles => do
      match ← peek with
      | some (.version major minor) =>
          require (!versioned && major == 1 && (minor == 1 || minor == 2))
          skip
          directives steps true handles
      | some (.tagStart handle octets) =>
          require (!handles.any fun entry => entry.1 == handle)
          skip
          directives steps versioned ((handle, octets) :: handles)
      | _ => modify fun assembly => { assembly with handles := handles ++ commonHandles }

/-- Whether the next token shows that a document has no node. -/
def atDocumentEnd : Assembler Bool := do
  match ← peek with
  | none | some .documentStart | some .documentEnd => return true
  | some (.version _ _) | some (.tagStart _ _) => return true
  | _ => return false

/-- Reads the only document of a text. Behind it marks of its end may stand. -/
def onlyDocument (steps : Nat) : Assembler Node := do
  let marked ← match ← peek with
    | none => failure
    | some .documentStart | some (.version _ _) | some (.tagStart _ _) => pure true
    | _ => pure false
  directives steps false []
  if marked then require (← takeIf .documentStart)
  let root ←
    if marked && (← atDocumentEnd) then pure (.scalar .nothing) else node steps true false
  modify fun assembly =>
    { assembly with tokens := assembly.tokens.dropWhile (· == .documentEnd) }
  require (← peek).isNone
  return root

end Assembler

/-- The nodes of the anchors under their numbers, latest first. -/
def Assembly.targets (assembly : Assembly) : List (Nat × Node) :=
  assembly.begun.zipIdx.filterMap fun (number, later) =>
    let place := assembly.begun.length - 1 - later
    (assembly.complete.find? fun entry => entry.1 == place).map fun entry => (number, entry.2)

/-- The document that tokens are of. Of three steps in a row one takes a token, which
bounds the steps. -/
def Document.ofTokens? (tokens : List Token) : Option Document := do
  let start : Assembly := ⟨tokens, [], ∅, [], []⟩
  let (root, assembly) ← (Assembler.onlyDocument (4 * tokens.length + 8)).run start
  return ⟨root, assembly.targets⟩

def Document.ofText? (text : String) : Option Document := do
  Document.ofTokens? (← Token.ofChars? text.toList)

end AtomicCss.Yaml
