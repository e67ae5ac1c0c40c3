import GridRobot.Yaml.Merge
import GridRobot.Yaml.Scalar

/-! # Parts of documents

A node stands for a part of the value of its document: a scalar, or a collection of the parts of
other nodes, itself perhaps among them. Parts are made from the outermost node inwards, and each
once. Scalars are made where they are met. The collections that were met are looked into later, in
the order in which they were met. -/

namespace GridRobot.Yaml

/-- What a node stands for. A scalar may be written as no number, in which case it is the same key
as all others that are. -/
inductive Part where
  | scalar (value : Value) (isNoNumber : Bool)
  | list (items : List Nat)
  | pairs (entries : List (Nat × Nat))
  | set (entries : List (Nat × Nat))
  | mapping (entries : List (Nat × Nat))

/-- What was made of nodes. A collection is empty until it is looked into. -/
structure Making where
  nodes : Nodes
  parts : Array (Option Part)
  /-- The collections that were not looked into. -/
  pending : List Nat := []

/-- A step of making parts. -/
abbrev Maker := StateT Making (Except Problem)

namespace Maker

/-- The tag is that of a collection. -/
def isCollection : Tag → Bool
  | .sequence | .mapping | .set | .pairs => true
  | _ => false

def nodes : Maker Nodes :=
  return (← get).nodes

def merge {α : Type} (step : Merging α) : Maker α := do
  let (a, nodes) ← step.run (← nodes)
  modify fun m => { m with nodes }
  return a

def put (i : Nat) (p : Part) : Maker Unit :=
  modify fun m => { m with parts := m.parts.setIfInBounds i (some p) }

/-- The text of a scalar. A mapping in its place has that of the value of its value key, which must
not be the mapping again. -/
def text (nodes : Nodes) : Nat → Nat → Except Problem LooseText
  | 0, _ => .error .tooDeep
  | fuel + 1, i =>
    match nodes.node i with
    | .scalar _ t => .ok t
    | .sequence .. => .error .malformed
    | .mapping _ es =>
      match es.find? fun e => nodes.tag e.1 = .value with
      | some e => text nodes fuel e.2
      | none => .error .malformed

/-- Makes the part of a scalar. -/
def scalar (i : Nat) : Maker Part := do
  let nodes ← nodes
  let tag := nodes.tag i
  if tag = .unknown || tag = .merge || tag = .value then throw .malformed
  let t ← text nodes (nodes.size + 1) i
  match nodes.node i, tag with
  | .mapping .., .time => throw (.scalar .timeOfMapping)
  | _, _ => return .scalar (← Scalar.value tag t) (tag = .float && Scalar.isNoNumber t)

/-- Meets a node. -/
def meet (i : Nat) : Maker Unit := do
  let m ← get
  if (m.parts.getD i none).isSome then return
  if isCollection (m.nodes.tag i) then
    put i (.list [])
    modify fun m => { m with pending := m.pending ++ [i] }
  else put i (← scalar i)

/-- Meets a key, which must be a scalar, and its value. -/
def meetEntry (e : Nat × Nat) : Maker Unit := do
  meet e.1
  if isCollection ((← nodes).tag e.1) then throw .malformed
  meet e.2

/-- Meets the parts of a pair, which is a mapping of one entry. -/
def meetPair (i : Nat) : Maker (Nat × Nat) := do
  match (← nodes).node i with
  | .mapping _ [e] =>
    meet e.1
    meet e.2
    return e
  | _ => throw .malformed

/-- Meets the entries of a mapping, with those that it takes over. -/
def meetEntries (i : Nat) : Maker (List (Nat × Nat)) := do
  merge (Merging.flatten i)
  let es ← merge (Merging.entries i)
  es.forM meetEntry
  return es

/-- Looks into a collection. -/
def look (i : Nat) : Maker Unit := do
  let nodes ← nodes
  match nodes.tag i, nodes.node i with
  | .sequence, .sequence _ items =>
    items.forM meet
    put i (.list items)
  | .pairs, .sequence _ items => put i (.pairs (← items.mapM meetPair))
  | .set, .mapping .. => put i (.set (← meetEntries i))
  | .mapping, .mapping .. => put i (.mapping (← meetEntries i))
  | _, _ => throw .malformed

/-- Looks into all collections that are met. -/
def finish : Nat → Maker Unit
  | 0 => return
  | fuel + 1 => do
    let m ← get
    match m.pending with
    | [] => return
    | i :: rest =>
      set { m with pending := rest }
      look i
      finish fuel

/-- Makes all parts of the value of a node. -/
def all (i : Nat) : Maker Unit := do
  meet i
  finish ((← nodes).size + 1)

end Maker

/-- The parts of nodes, from an outermost one on. -/
def Nodes.parts (nodes : Nodes) (root : Nat) : Except Problem (Array (Option Part)) := do
  let start : Making := { nodes, parts := Array.replicate nodes.size none }
  return (← (Maker.all root).run start).2.parts

end GridRobot.Yaml
