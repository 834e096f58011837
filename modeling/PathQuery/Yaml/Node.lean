import PathQuery.Yaml.Resolve
import PathQuery.Yaml.Token.Scanner

/-!
# Documents

A text holds a row of documents, each a tree of scalars, sequences and mappings. Nodes with an
anchor are numbered in the order in which they start, over all documents of the text, and an alias
tells the number of the node it stands for. That may be a node around the alias itself. The tokens
are read by recursive descent, and reading stops at the first fault, so the documents before it
are still there.
-/

namespace PathQuery.Yaml

/-- A node of a document. -/
inductive Node where
  /-- A scalar, with the tag it has or is spelled like. -/
  | scalar (line : Nat) (tag value : String)
  /-- A sequence. -/
  | sequence (line : Nat) (tag : String) (items : List Node)
  /-- A mapping, its pairs in order. -/
  | mapping (line : Nat) (tag : String) (pairs : List (Node × Node))
  /-- An alias, with a number of its own and that of the node it stands for. -/
  | alias (line : Nat) (name : String) (self target : Nat)
  deriving Inhabited

namespace Node

/-- The line a node starts on. -/
def line : Node → Nat
  | .scalar line .. | .sequence line .. | .mapping line .. | .alias line .. => line

/-- The text by which keys are compared: that of a scalar, or the name of an alias. -/
def label : Node → String
  | .scalar _ _ value => value
  | .alias _ name _ _ => name
  | _ => ""

/-- Whether two nodes are of one kind. -/
def sameKind : Node → Node → Bool
  | .scalar .., .scalar .. | .sequence .., .sequence .. | .mapping .., .mapping ..
  | .alias .., .alias .. => true
  | _, _ => false

/-- The tag of a node; an alias has none. -/
def tag : Node → String
  | .scalar _ tag _ | .sequence _ tag _ | .mapping _ tag _ => tag
  | .alias .. => ""

/-- Whether a node is the key that merges mappings. -/
def isMerge : Node → Bool
  | .scalar _ tag value => value = mergeKey && tag = mergeTag
  | _ => false

end Node

/-! ## Reading -/

/-- The state of the reader. -/
structure Reader where
  /-- The tokens. -/
  scanner : Scanner
  /-- The number of the node that each anchor was last put on. -/
  anchors : List (String × Nat) := []
  /-- The nodes with an anchor. -/
  nodes : Array Node := #[]
  /-- How many aliases there are so far. -/
  aliases : Nat := 0
  /-- The tag handles of the document. -/
  handles : List (String × String) := []

/-- A step of reading, which may fail. -/
abbrev ReadM := StateT Reader Option

namespace ReadM

/-- The next token. -/
def peek : ReadM Token := fun s ↦ do
  let (t, scanner) ← s.scanner.peek
  return (t, { s with scanner })

/-- Moves over the next token. -/
def skip : ReadM Unit := modify fun s ↦ { s with scanner := s.scanner.skip }

/-- Gives up. -/
def fail {α : Type} : ReadM α := fun _ ↦ none

/-- The short form of a tag. -/
def shortTag (t : String) : String :=
  let lead := "tag:yaml.org,2002:"
  if t.startsWith lead then "!!" ++ (t.drop lead.length).toString else t

/-- The tag of a handle and what follows it. -/
def fullTag (handle rest : String) : ReadM String := do
  if handle = "" then return rest
  match (← get).handles.find? (·.1 == handle) with
  | some (_, meaning) => return meaning ++ rest
  | none => fail

/-- What may stand before a node. -/
structure Decoration where
  /-- The anchor. -/
  anchor : Option String := none
  /-- The tag, empty when there is none. -/
  tag : String := ""
  /-- The line of the first of them. -/
  line : Option Nat := none

/-- Reads an anchor and a tag, in either order. -/
def decoration : Nat → Decoration → ReadM Decoration
  | 0, d => return d
  | fuel + 1, d => do
    let t ← peek
    let line := some (d.line.getD t.line)
    match t.kind with
    | .anchor name =>
      if d.anchor.isSome then return d
      skip
      decoration fuel { d with anchor := some name, line }
    | .tag handle rest =>
      if d.tag ≠ "" then return d
      skip
      decoration fuel { d with tag := ← fullTag handle rest, line }
    | _ => return d

/-- The tag of a node: the one it was given, or another. -/
def tagOr (given other : String) : String :=
  if given = "" || given = "!" then other else shortTag given

/-- A scalar node. -/
def scalarNode (line : Nat) (given text : String) (plain : Bool) : Node :=
  let implicit := if !plain then strTag else if text = mergeKey then mergeTag else implicitTag text
  .scalar line (tagOr given implicit) text

/-- A node that is left out. -/
def emptyNode (line : Nat) : Node := scalarNode line "" "" true

/-- Numbers a node that is about to be read, if it has an anchor. -/
def openAnchor (name : Option String) : ReadM (Option Nat) :=
  match name with
  | some n => modifyGet fun s ↦
    (some s.nodes.size,
      { s with anchors := (n, s.nodes.size) :: s.anchors, nodes := s.nodes.push default })
  | none => return none

/-- Puts a node on record under its number. -/
def closeAnchor (number : Option Nat) (node : Node) : ReadM Node := do
  if let some n := number then
    modify fun s ↦ { s with nodes := s.nodes.setIfInBounds n node }
  return node

/-- The node of an alias. -/
def aliasNode (line : Nat) (name : String) : ReadM Node := do
  match (← get).anchors.find? (·.1 == name) with
  | some (_, target) => modifyGet fun s ↦
    (.alias line name s.aliases target, { s with aliases := s.aliases + 1 })
  | none => fail

/-- Whether a token ends an entry of an indented mapping. -/
def endsEntry : TokenKind → Bool
  | .key | .value | .blockEnd => true
  | _ => false

mutual

/-- Reads a node. An indented collection may only stand outside brackets, and the items of a
sequence under a key need no indentation of their own. -/
def node (inBlock bareItems : Bool) : Nat → ReadM Node
  | 0 => fail
  | fuel + 1 => do
    let t ← peek
    if let .alias name := t.kind then
      skip
      aliasNode t.line name
    else
      let d ← decoration 3 {}
      let t ← peek
      let line := d.line.getD t.line
      match t.kind with
      | .scalar text plain =>
        skip
        closeAnchor (← openAnchor d.anchor) (scalarNode line d.tag text plain)
      | .blockEntry =>
        if bareItems then
          let number ← openAnchor d.anchor
          let items ← bareSequence fuel
          closeAnchor number (.sequence line (tagOr d.tag seqTag) items)
        else omitted d line
      | .flowSequence =>
        skip
        let number ← openAnchor d.anchor
        let items ← flowItems true fuel
        closeAnchor number (.sequence line (tagOr d.tag seqTag) items)
      | .flowMapping =>
        skip
        let number ← openAnchor d.anchor
        let pairs ← flowPairs true fuel
        closeAnchor number (.mapping line (tagOr d.tag mapTag) pairs)
      | .blockSequence =>
        if inBlock then
          skip
          let number ← openAnchor d.anchor
          let items ← blockItems fuel
          closeAnchor number (.sequence line (tagOr d.tag seqTag) items)
        else omitted d line
      | .blockMapping =>
        if inBlock then
          skip
          let number ← openAnchor d.anchor
          let pairs ← blockPairs fuel
          closeAnchor number (.mapping line (tagOr d.tag mapTag) pairs)
        else omitted d line
      | _ => omitted d line

/-- A decorated node without content. -/
def omitted (d : Decoration) (line : Nat) : ReadM Node := do
  if d.line.isNone then fail
  closeAnchor (← openAnchor d.anchor) (scalarNode line d.tag "" true)

/-- Reads the items of an indented sequence. -/
def blockItems : Nat → ReadM (List Node)
  | 0 => fail
  | fuel + 1 => do
    let t ← peek
    match t.kind with
    | .blockEntry =>
      skip
      let item ← match (← peek).kind with
        | .blockEntry | .blockEnd => pure (emptyNode t.line)
        | _ => node true false fuel
      return item :: (← blockItems fuel)
    | .blockEnd => skip; return []
    | _ => fail

/-- Reads the items of a sequence without indentation of its own. -/
def bareSequence : Nat → ReadM (List Node)
  | 0 => fail
  | fuel + 1 => do
    let t ← peek
    match t.kind with
    | .blockEntry =>
      skip
      let next := (← peek).kind
      let item ← if endsEntry next || next = .blockEntry then pure (emptyNode t.line)
        else node true false fuel
      return item :: (← bareSequence fuel)
    | _ => return []

/-- Reads the pairs of an indented mapping. -/
def blockPairs : Nat → ReadM (List (Node × Node))
  | 0 => fail
  | fuel + 1 => do
    let t ← peek
    match t.kind with
    | .key =>
      skip
      let key ← if endsEntry (← peek).kind then pure (emptyNode t.line) else node true true fuel
      let v ← peek
      let value ← match v.kind with
        | .value =>
          skip
          if endsEntry (← peek).kind then pure (emptyNode v.line) else node true true fuel
        | _ => pure (emptyNode v.line)
      return (key, value) :: (← blockPairs fuel)
    | .blockEnd => skip; return []
    | _ => fail

/-- Reads the items of a sequence in brackets. An item with a key is a mapping of one pair. -/
def flowItems (first : Bool) : Nat → ReadM (List Node)
  | 0 => fail
  | fuel + 1 => do
    if (← peek).kind = .flowSequenceEnd then
      skip
      return []
    if !first then
      if (← peek).kind = .flowEntry then skip else fail
    let t ← peek
    match t.kind with
    | .flowSequenceEnd => skip; return []
    | .key =>
      skip
      let pair ← flowItemPair fuel
      return .mapping t.line mapTag [pair] :: (← flowItems false fuel)
    | _ =>
      let item ← node false false fuel
      return item :: (← flowItems false fuel)

/-- Reads the pair of an item with a key. -/
def flowItemPair : Nat → ReadM (Node × Node)
  | 0 => fail
  | fuel + 1 => do
    let t ← peek
    let key ← match t.kind with
      | .value | .flowEntry | .flowSequenceEnd => skip; pure (emptyNode t.line)
      | _ => node false false fuel
    let v ← peek
    match v.kind with
    | .value =>
      skip
      let next ← peek
      match next.kind with
      | .flowEntry | .flowSequenceEnd => return (key, emptyNode next.line)
      | _ => return (key, ← node false false fuel)
    | _ => return (key, emptyNode v.line)

/-- Reads the pairs of a mapping in braces. -/
def flowPairs (first : Bool) : Nat → ReadM (List (Node × Node))
  | 0 => fail
  | fuel + 1 => do
    if (← peek).kind = .flowMappingEnd then
      skip
      return []
    if !first then
      if (← peek).kind = .flowEntry then skip else fail
    let t ← peek
    match t.kind with
    | .flowMappingEnd => skip; return []
    | .key =>
      skip
      let k ← peek
      let key ← match k.kind with
        | .value | .flowEntry | .flowMappingEnd => pure (emptyNode k.line)
        | _ => node false false fuel
      let value ← flowValue fuel
      return (key, value) :: (← flowPairs false fuel)
    | _ =>
      let key ← node false false fuel
      let next ← peek
      return (key, emptyNode next.line) :: (← flowPairs false fuel)

/-- Reads the value of a pair in braces, which may be left out. -/
def flowValue : Nat → ReadM Node
  | 0 => fail
  | fuel + 1 => do
    let v ← peek
    match v.kind with
    | .value =>
      skip
      let next ← peek
      match next.kind with
      | .flowEntry | .flowMappingEnd => return emptyNode next.line
      | _ => node false false fuel
    | _ => return emptyNode v.line

end

/-- The handles every document has. -/
def defaultHandles : List (String × String) := [("!", "!"), ("!!", "tag:yaml.org,2002:")]

/-- Reads the directives of a document. -/
def directives : Nat → Bool → List (String × String) → ReadM (List (String × String))
  | 0, _, _ => fail
  | fuel + 1, versioned, handles => do
    match (← peek).kind with
    | .version major minor =>
      if versioned || major ≠ 1 || minor ≠ 1 then fail
      skip
      directives fuel true handles
    | .handle name meaning =>
      if handles.any (·.1 == name) then fail
      skip
      directives fuel versioned (handles ++ [(name, meaning)])
    | _ => return handles

/-- Moves over repeated marks of the end of a document. -/
def skipEnds : Nat → ReadM Unit
  | 0 => return
  | fuel + 1 => do
    if (← peek).kind = .documentEnd then
      skip
      skipEnds fuel

/-- Whether a token starts no content. -/
def endsContent : TokenKind → Bool
  | .version .. | .handle .. | .documentStart | .documentEnd | .streamEnd => true
  | _ => false

/-- Reads the next document, if there is one. Only the first needs no mark. -/
def document (first : Bool) (fuel : Nat) : ReadM (Option Node) := do
  if !first then skipEnds fuel
  let t ← peek
  if t.kind = .streamEnd then return none
  let given ← directives fuel false []
  modify fun s ↦ { s with handles := given ++ defaultHandles }
  let marked := (← peek).kind = .documentStart
  let bare := first && !(endsContent t.kind && t.kind ≠ .documentEnd)
  if !marked && !bare then fail
  if marked then skip
  let next ← peek
  let root ← if marked && endsContent next.kind then pure (emptyNode next.line)
    else node true false fuel
  if (← peek).kind = .documentEnd then skip
  return some root

end ReadM

/-- The documents of a text up to the first fault. -/
structure Documents where
  /-- The root of each. -/
  roots : List Node
  /-- The nodes with an anchor, by their numbers. -/
  nodes : Array Node
  /-- Whether there was no fault. -/
  complete : Bool

/-- Reads documents up to the end or the first fault. -/
def Documents.read (fuel : Nat) : Nat → List Node → Reader → Documents
  | 0, roots, s => ⟨roots.reverse, s.nodes, false⟩
  | count + 1, roots, s =>
    match ReadM.document roots.isEmpty fuel s with
    | none => ⟨roots.reverse, s.nodes, false⟩
    | some (none, s) => ⟨roots.reverse, s.nodes, true⟩
    | some (some root, s) => Documents.read fuel count (root :: roots) s

/-- The documents of a text. -/
def Documents.ofText (text : String) : Documents :=
  let fuel := 12 * text.length + 10
  Documents.read fuel fuel [] { scanner := .ofText text }

end PathQuery.Yaml
