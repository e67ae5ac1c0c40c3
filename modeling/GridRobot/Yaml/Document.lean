import GridRobot.Value.SetOrder
import GridRobot.Yaml.Loader
import GridRobot.Yaml.Part

/-! # Values of documents

A document is the value of a settings file. Collections may be part of themselves, so values are
made of single parts on demand, and a collection inside itself is a loop. -/

namespace GridRobot.Yaml

/-- The parts of a value by their numbers, and the number of the whole. An empty file has none. -/
structure Document where
  parts : Array (Option Part)
  root : Option Nat

namespace Document

/-- The document of nodes. All of them must have a value. -/
def ofGraph (g : Graph) : Except Problem Document :=
  match g.root with
  | none => .ok ⟨#[], none⟩
  | some i => return ⟨← g.nodes.parts i, g.root⟩

def ofSource (room : Nat) (t : SourceText) : Except Problem Document := do
  ofGraph (← Graph.ofTokens room (tokens t))

def part (d : Document) (i : Nat) : Part :=
  (d.parts.getD i none).getD (.scalar .null false)

/-- Two parts are the same key: they are one, equal scalars, or both written as no number. -/
def sameKey (d : Document) (i j : Nat) : Bool :=
  i = j ||
    match d.part i, d.part j with
    | .scalar v m, .scalar w n => v.isSame w || m && n
    | _, _ => false

/-- Puts an entry in place of the one with the same key, or at the end. -/
def insertEntry (d : Document) (es : List (Nat × Nat)) (e : Nat × Nat) : List (Nat × Nat) :=
  if es.any fun f => d.sameKey f.1 e.1 then
    es.map fun f => if d.sameKey f.1 e.1 then (f.1, e.2) else f
  else es ++ [e]

/-- The entries with one for each key. -/
def distinct (d : Document) (es : List (Nat × Nat)) : List (Nat × Nat) :=
  es.foldl d.insertEntry []

/-- The value of a part inside of others. -/
def valueIn (d : Document) : Nat → List Nat → Nat → Value
  | 0, _, _ => .null
  | fuel + 1, path, i =>
    let inner (j : Nat) : Value := valueIn d fuel (i :: path) j
    match d.part i with
    | .scalar v _ => v
    | .list items => if path.contains i then .loop false else .list (items.map inner)
    | .pairs es =>
      if path.contains i then .loop false
      else .list (es.map fun e => .tuple [inner e.1, inner e.2])
    | .set es => .set (Value.setOrder ((d.distinct es).map fun e => inner e.1))
    | .mapping es =>
      if path.contains i then .loop true
      else .mapping ((d.distinct es).map fun e => (inner e.1, inner e.2))

/-- The value of a part. -/
def value (d : Document) (i : Nat) : Value :=
  d.valueIn (d.parts.size + 1) [] i

/-- The value of the whole, in which the entries of a mapping have the values that they have by
themselves. An empty file is null. -/
def whole (d : Document) : Value :=
  match d.root with
  | none => .null
  | some i =>
    match d.part i with
    | .mapping es => .mapping ((d.distinct es).map fun e => (d.value e.1, d.value e.2))
    | _ => d.value i

end Document

def Problem.loadError : Problem → LoadError
  | malformed => .malformed []
  | tooDeep => .other ⟨"RecursionError".toList, Text.loose "maximum recursion depth exceeded".toList⟩
  | scalar e => .other ⟨e.kind, e.message.loose⟩
  | decode e => .stream e

/-- Reads settings files in which nodes lie so deep inside of others at most. -/
def load (room : Nat) : Loader := fun scheme bs =>
  ((Document.ofSource room (.ofBytes scheme bs)).map Document.whole).mapError Problem.loadError

end GridRobot.Yaml
