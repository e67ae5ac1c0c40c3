import GridRobot.Yaml.Cursor

/-! # Plain scalars

A scalar without quotes runs over several lines as long as they are indented. Its lines are joined
by spaces, and empty lines between them are kept. -/

namespace GridRobot.Yaml.Plain

open Reading

/-- A colon before such a character ends a key. -/
def endsKey (inFlow : Bool) (c : Char) : Bool :=
  isBlankOrEnd c || inFlow && [',', '[', ']', '{', '}'].contains c

/-- Some character of this kind ends a word within brackets. -/
def endsFlowWord (c : Char) : Bool :=
  [',', '?', '[', ']', '{', '}'].contains c

/-- The longest run of characters without blanks that belongs to a scalar. -/
def word (inFlow : Bool) : Text → Text
  | [] => []
  | c :: t =>
    if isBlankOrEnd c || c = ':' && endsKey inFlow (t.headD '\x00') || inFlow && endsFlowWord c then []
    else c :: word inFlow t

/-- Reads a word. A colon that may belong to it shows by what follows it. -/
def readWord (inFlow : Bool) : Reading Text := do
  let w := word inFlow (← get).rest
  if (← peekAt w.length) = ':' then need (w.length + 2)
  skip w.length
  return w

/-- Reads the breaks of empty lines. The result is none if a mark of a document comes next. -/
def emptyLines : Nat → Reading (Option Text)
  | 0 => return some []
  | fuel + 1 => do
    skipSpaces
    if !isBreak (← peek) then return some []
    let b ← lineBreak
    if ← atAnyMark then return none
    return (← emptyLines fuel).map (b ++ ·)

/-- Reads the text between two words, and tells whether a line ends in it. There is no text if the
scalar ends here. -/
def gap : Reading (Text × Bool) := do
  let spaces ← takeWhile (· = ' ')
  if !isBreak (← peek) then return (spaces, false)
  let first ← lineBreak
  if ← atAnyMark then return ([], true)
  match ← emptyLines (← rounds) with
  | none => return ([], true)
  | some more => return (joined first more, true)

/-- Reads the words that follow the text `before`, after which a line has ended or not. -/
def words (inFlow : Bool) (indent : Nat) : Nat → Text → Bool → Reading (Text × Bool)
  | 0, _, crossed => return ([], crossed)
  | fuel + 1, before, crossed => do
    let w ← readWord inFlow
    if w.isEmpty then return ([], crossed)
    let (after, crossed) ← gap
    if after.isEmpty || (← peek) = '#' || !inFlow && (← get).column < indent then
      return (before ++ w, crossed)
    let (more, crossed) ← words inFlow indent fuel after crossed
    return (before ++ w ++ more, crossed)

/-- Reads a scalar, and tells whether a line ends after it. -/
def scalar (inFlow : Bool) (indent : Nat) : Reading (Text × Bool) := do
  words inFlow indent (← rounds) [] false

end GridRobot.Yaml.Plain
