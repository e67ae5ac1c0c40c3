import GridRobot.Text.Loose
import GridRobot.Yaml.Form

/-! # Tags

A tag tells what kind of value a node stands for. A node without a tag has one by its form. -/

namespace GridRobot.Yaml

inductive Tag where
  | null
  | bool
  | int
  | float
  | binary
  | time
  | text
  | sequence
  | mapping
  | set
  /-- A list of pairs. -/
  | pairs
  /-- A key that takes over the entries of other mappings. -/
  | merge
  /-- A key for the value of a mapping that stands in the place of a scalar. -/
  | value
  | unknown
  deriving DecidableEq, Repr

namespace Tag

/-- What the names of all known tags start with. -/
def space : Text := "tag:yaml.org,2002:".toList

/-- The names of the known tags. -/
def names : List (String × Tag) :=
  [("null", .null), ("bool", .bool), ("int", .int), ("float", .float), ("binary", .binary),
    ("timestamp", .time), ("str", .text), ("seq", .sequence), ("map", .mapping), ("set", .set),
    ("omap", .pairs), ("pairs", .pairs), ("merge", .merge), ("value", .value)]

/-- The tag with a full name. -/
def ofName (t : Text) : Tag :=
  if space.isPrefixOf t then (names.lookup (String.ofList (t.drop space.length))).getD .unknown
  else .unknown

/-- Words for truth values. Each may stand in small letters, in capitals, or with one capital. -/
def truthWords : List (String × Bool) :=
  [("yes", true), ("no", false), ("true", true), ("false", false), ("on", true), ("off", false)]

/-- The words in their three forms. -/
def isWord (words : List String) (t : Text) : Bool :=
  words.any fun w =>
    let lower := w.toList
    let upper := lower.map Char.toUpper
    t = lower || t = upper || t = upper.take 1 ++ lower.drop 1

/-- What a scalar looks like. -/
def ofForm (t : Text) : Tag :=
  let word := Form.body t
  if t = ['\n'] then .text
  else if isWord (truthWords.map (·.1)) word then .bool
  else if Form.isFloat t then .float
  else if Form.isInt t then .int
  else if word = ['<', '<'] then .merge
  else if word = [] || word = ['~'] || isWord ["null"] word then .null
  else if Form.isTime t then .time
  else if word = ['='] then .value
  else if word = ['!'] || word = ['&'] || word = ['*'] then .unknown
  else .text

/-- What a scalar looks like that may hold halves of surrogate pairs. No form has them. -/
def ofLoose (t : LooseText) : Tag :=
  (t.text?.map ofForm).getD .text

end Tag

end GridRobot.Yaml
