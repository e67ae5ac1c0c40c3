import GridRobot.Yaml.Tag
import GridRobot.Yaml.Token.Lexer

/-! # Nodes of settings files

A document is a graph of nodes, which are known by their numbers. An alias stands for the number of
the node that its anchor names, so a collection may be part of several others, and of itself. A file
holds one document at most. -/

namespace GridRobot.Yaml

inductive Node where
  | scalar (tag : Tag) (text : LooseText)
  | sequence (tag : Tag) (items : List Nat)
  | mapping (tag : Tag) (entries : List (Nat × Nat))

/-- The nodes of a document, by their numbers. -/
abbrev Nodes := Array Node

namespace Nodes

/-- The node of a number. -/
def node (nodes : Nodes) (i : Nat) : Node :=
  nodes.getD i (.scalar .null [])

def tag (nodes : Nodes) (i : Nat) : Tag :=
  match nodes.node i with
  | .scalar t _ | .sequence t _ | .mapping t _ => t

end Nodes

/-- What was read of the tokens of a document, in which nodes may lie so deep inside of others. -/
structure Builder where
  room : Nat
  tokens : List Token
  nodes : Nodes := #[]
  anchors : List (Text × Nat) := []
  handles : List (Text × Text) := []

/-- A step of reading nodes. -/
abbrev Building := StateT Builder (Except Problem)

namespace Builder

/-- The handles that need no directive. -/
def defaultHandles : List (Text × Text) :=
  [("!".toList, "!".toList), ("!!".toList, Tag.space)]

def fail {α : Type} : Building α :=
  throw .malformed

/-- The next token. A problem in its place ends the reading. -/
def peek : Building Token := do
  match (← get).tokens with
  | [] => return .textEnd
  | .problem p :: _ => throw p
  | t :: _ => return t

def next : Building Unit :=
  modify fun b => { b with tokens := b.tokens.drop 1 }

/-- Passes over the next token if it is this one. -/
def accept (t : Token) : Building Bool := do
  if (← peek) = t then
    next
    return true
  else return false

def expect (t : Token) : Building Unit := do
  if !(← accept t) then fail

/-- The next token is one of these. -/
def isAt (ts : List Token) : Building Bool :=
  return ts.contains (← peek)

def add (n : Node) : Building Nat := do
  let b ← get
  set { b with nodes := b.nodes.push n }
  return b.nodes.size

def put (i : Nat) (n : Node) : Building Unit :=
  modify fun b => { b with nodes := b.nodes.setIfInBounds i n }

/-- Names the node that comes next. A name is given once. -/
def name (anchor : Option Text) : Building Unit := do
  match anchor with
  | none => return
  | some a =>
    let b ← get
    if (b.anchors.lookup a).isSome then fail
    set { b with anchors := (a, b.nodes.size) :: b.anchors }

/-- An empty place counts as nothing. -/
def empty : Building Nat :=
  add (.scalar .null [])

def anchor? : Building (Option Text) := do
  match ← peek with
  | .anchor a =>
    next
    return some a
  | _ => return none

def writtenTag? : Building (Option WrittenTag) := do
  match ← peek with
  | .tag t =>
    next
    return some t
  | _ => return none

/-- Puts what the handle of a tag stands for in front of it. -/
def wholeTag (t : WrittenTag) : Building Text := do
  match t.handle with
  | none => return t.suffix
  | some h =>
    match (← get).handles.lookup h with
    | none => fail
    | some start => return start ++ t.suffix

/-- Reads an anchor and a tag in any order. -/
def properties : Building (Option Text × Option Text) := do
  let before ← anchor?
  let tag ← writtenTag?
  let anchor ← if before.isNone && tag.isSome then anchor? else pure before
  return (anchor, ← tag.mapM wholeTag)

/-- The tag of a collection. -/
def collectionTag (usual : Tag) : Option Text → Tag
  | none | some ['!'] => usual
  | some t => .ofName t

/-- The tag of a scalar, which has one by its form if it is plain or marked so. -/
def scalarTag (isPlain : Bool) (text : LooseText) : Option Text → Tag
  | none => if isPlain then .ofLoose text else .text
  | some ['!'] => .ofLoose text
  | some t => .ofName t

/-- Makes a node of the items that are read next. -/
def sequence (anchor tag : Option Text) (read : Building (List Nat)) : Building Nat := do
  name anchor
  let i ← add (.sequence (collectionTag .sequence tag) [])
  put i (.sequence (collectionTag .sequence tag) (← read))
  return i

/-- Makes a node of the entries that are read next. -/
def mapping (anchor tag : Option Text) (read : Building (List (Nat × Nat))) : Building Nat := do
  name anchor
  let i ← add (.mapping (collectionTag .mapping tag) [])
  put i (.mapping (collectionTag .mapping tag) (← read))
  return i

/-- Reads a part, which counts as nothing if one of the given tokens stands in its place. -/
def part (ends : List Token) (read : Building Nat) : Building Nat := do
  if ← isAt ends then empty else read

/-- Reads a key, and the value after it if there is one. -/
def entry (keyEnds valueEnds : List Token) (read : Building Nat) : Building (Nat × Nat) := do
  let k ← part keyEnds read
  let v ← if ← accept .value then part valueEnds read else empty
  return (k, v)

mutual

/-- Reads a node, which lies inside of so many others. Blocks may begin in a block alone. The items
of a block need no indentation of their own where a key or value stands. -/
def node (depth : Nat) (inBlock isEntry : Bool) : Nat → Building Nat
  | 0 => fail
  | fuel + 1 => do
    if (← get).room < depth then throw .tooDeep
    match ← peek with
    | .alias a =>
      next
      match (← get).anchors.lookup a with
      | some i => return i
      | none => fail
    | _ =>
      let (anchor, tag) ← properties
      match inBlock, ← peek with
      | _, .scalar text isPlain =>
        next
        name anchor
        add (.scalar (scalarTag isPlain text tag) text)
      | _, .flowSequence =>
        next
        sequence anchor tag (flowItems (depth + 1) true fuel)
      | _, .flowMapping =>
        next
        mapping anchor tag (flowEntries (depth + 1) true fuel)
      | true, .sequenceBlock =>
        next
        sequence anchor tag (items (depth + 1) false fuel)
      | true, .mappingBlock =>
        next
        mapping anchor tag (entries (depth + 1) fuel)
      | _, t =>
        if isEntry && t = .item then sequence anchor tag (items (depth + 1) true fuel)
        else if anchor.isNone && tag.isNone then fail
        else
          name anchor
          add (.scalar (scalarTag true [] tag) [])
termination_by structural fuel => fuel

/-- Reads the items of a block. Without an indentation of their own, they end where there is no
other item. -/
def items (depth : Nat) (isEntry : Bool) : Nat → Building (List Nat)
  | 0 => fail
  | fuel + 1 => do
    if ← accept .item then
      let ends : List Token := if isEntry then [.item, .key, .value, .blockEnd] else [.item, .blockEnd]
      let i ← part ends (node depth true false fuel)
      return i :: (← items depth isEntry fuel)
    else
      if !isEntry then expect .blockEnd
      return []
termination_by structural fuel => fuel

/-- Reads the entries of a block. -/
def entries (depth : Nat) : Nat → Building (List (Nat × Nat))
  | 0 => fail
  | fuel + 1 => do
    if ← accept .key then
      let ends : List Token := [.key, .value, .blockEnd]
      let e ← entry ends ends (node depth true true fuel)
      return e :: (← entries depth fuel)
    else
      expect .blockEnd
      return []
termination_by structural fuel => fuel

/-- Reads items up to the closing bracket, with commas between them. An item with a key is a mapping
of one entry. -/
def flowItems (depth : Nat) (isFirst : Bool) : Nat → Building (List Nat)
  | 0 => fail
  | fuel + 1 => do
    if ← accept .flowSequenceEnd then return []
    if !isFirst then expect .comma
    if ← accept .flowSequenceEnd then return []
    let i ←
      if ← accept .key then
        mapping none none do
          return [← entry [.value, .comma, .flowSequenceEnd] [.comma, .flowSequenceEnd]
            (node (depth + 1) false false fuel)]
      else node depth false false fuel
    return i :: (← flowItems depth false fuel)
termination_by structural fuel => fuel

/-- Reads entries up to the closing brace, with commas between them. A key need not have a sign, and
has no value then. -/
def flowEntries (depth : Nat) (isFirst : Bool) : Nat → Building (List (Nat × Nat))
  | 0 => fail
  | fuel + 1 => do
    if ← accept .flowMappingEnd then return []
    if !isFirst then expect .comma
    if ← accept .flowMappingEnd then return []
    let e ←
      if ← accept .key then
        entry [.value, .comma, .flowMappingEnd] [.comma, .flowMappingEnd] (node depth false false fuel)
      else do
        let k ← node depth false false fuel
        pure (k, ← empty)
    return e :: (← flowEntries depth false fuel)
termination_by structural fuel => fuel

end

/-- Reads directives. The version is given once at most, and each handle too. -/
def directives : Nat → Bool → Building Unit
  | 0, _ => return
  | fuel + 1, versioned => do
    match ← peek with
    | .directive (.version major) =>
      next
      if versioned || major ≠ 1 then fail
      directives fuel true
    | .directive (.handle h start) =>
      next
      let b ← get
      if (b.handles.lookup h).isSome then fail
      set { b with handles := (h, start) :: b.handles }
      directives fuel versioned
    | .directive .other =>
      next
      directives fuel versioned
    | _ => return

/-- A document ends here. -/
def isAtEnd : Building Bool :=
  return match ← peek with
    | .directive _ | .documentStart | .documentEnd | .textEnd => true
    | _ => false

/-- Passes over the marks that end a document. -/
def skipEnds : Nat → Building Unit
  | 0 => return
  | fuel + 1 => do
    if ← accept .documentEnd then skipEnds fuel

/-- Reads the only document of a file. -/
def document (fuel : Nat) : Building (Option Nat) := do
  let first ← peek
  if first = .textEnd then return none
  let isMarked ← if first = .documentEnd then pure false else isAtEnd
  if isMarked then
    directives fuel false
    expect .documentStart
  modify fun b => { b with handles := b.handles ++ defaultHandles }
  let isEmpty ← if isMarked then isAtEnd else pure false
  let root ← if isEmpty then empty else node 1 true false fuel
  skipEnds fuel
  if !(← isAt [.textEnd]) then
    directives fuel false
    fail
  return some root

end Builder

/-- The nodes of a document, and the number of the outermost one. A file without a document has no
nodes. -/
structure Graph where
  nodes : Nodes
  root : Option Nat

/-- Reads the nodes of a document. -/
def Graph.ofTokens (room : Nat) (ts : List Token) : Except Problem Graph := do
  let (root, b) ← (Builder.document (2 * ts.length + 3)).run { room, tokens := ts }
  return ⟨b.nodes, root⟩

end GridRobot.Yaml
