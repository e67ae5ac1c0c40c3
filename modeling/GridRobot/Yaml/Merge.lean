import GridRobot.Yaml.Node

/-! # Merging mappings

A merge key takes over the entries of other mappings, in front of those of its own mapping. Of
several mappings that one key names the first counts most, so its entries come last.

Mappings are flattened one after the other while values are made. A merge key is taken away before
the mappings that it names are flattened, so a mapping that merges itself takes over what it holds
at that time. Value keys that are passed on the way become texts. -/

namespace GridRobot.Yaml

/-- A step of changing nodes. -/
abbrev Merging := StateT Nodes (Except Problem)

namespace Merging

/-- The entries of a node, which must be a mapping. -/
def entries (i : Nat) : Merging (List (Nat × Nat)) := do
  match (← get).node i with
  | .mapping _ es => return es
  | _ => throw .malformed

def putEntries (i : Nat) (es : List (Nat × Nat)) : Merging Unit := do
  let nodes ← get
  set (nodes.setIfInBounds i (.mapping (nodes.tag i) es))

/-- The node with another tag. -/
def withTag (t : Tag) : Node → Node
  | .scalar _ text => .scalar t text
  | .sequence _ items => .sequence t items
  | .mapping _ es => .mapping t es

/-- A value key becomes a text. -/
def settleKey (i : Nat) : Merging Unit := do
  let nodes ← get
  if nodes.tag i = .value then set (nodes.setIfInBounds i (withTag .text (nodes.node i)))

/-- The mappings that a merge key names. -/
def sources (i : Nat) : Merging (List Nat) := do
  match (← get).node i with
  | .mapping .. => return [i]
  | .sequence _ items => return items
  | .scalar .. => throw .malformed

/-- Flattens a mapping from a place among its entries on, with the entries that were taken over
before. Each round takes away a merge key. -/
def flattenFrom : Nat → Nat → Nat → List (Nat × Nat) → Merging Unit
  | 0, _, _, _ => throw .malformed
  | fuel + 1, i, place, taken => do
    let es ← entries i
    let nodes ← get
    let own := (es.drop place).takeWhile fun e => nodes.tag e.1 ≠ .merge
    own.forM fun e => settleKey e.1
    let place := place + own.length
    match es.drop place with
    | [] => putEntries i (taken ++ es)
    | (_, v) :: later =>
      putEntries i (es.take place ++ later)
      let merged ← (← sources v).mapM fun j => do
        flattenFrom fuel j 0 []
        entries j
      flattenFrom fuel i place (taken ++ merged.reverse.flatten)

/-- The number of merge keys in all mappings. -/
def mergeCount (nodes : Nodes) : Nat :=
  nodes.foldl (fun n node =>
    match node with
    | .mapping _ es => n + (es.filter fun e => nodes.tag e.1 = .merge).length
    | _ => n) 0

/-- Flattens a mapping. -/
def flatten (i : Nat) : Merging Unit := do
  flattenFrom (mergeCount (← get) + 1) i 0 []

end Merging

end GridRobot.Yaml
