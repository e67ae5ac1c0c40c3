import GridRobot.Text.Basic

/-! # Lines

A line ends at a line feed, at a carriage return, or at both in this order. A carriage return at
the end of what has been read so far is not known to be the whole of a line end. -/

namespace GridRobot.Text

/-- The lines of a text without their ends, and the characters after the last line end. -/
def splitLines : Text → List Text × Text
  | [] => ([], [])
  | '\n' :: t =>
    let (lines, rest) := splitLines t
    ([] :: lines, rest)
  | '\r' :: '\n' :: t =>
    let (lines, rest) := splitLines t
    ([] :: lines, rest)
  | '\r' :: t =>
    let (lines, rest) := splitLines t
    ([] :: lines, rest)
  | c :: t =>
    match splitLines t with
    | ([], rest) => ([], c :: rest)
    | (line :: lines, rest) => ((c :: line) :: lines, rest)

/-- The lines of a whole text. After the last line end there is a line only if characters follow. -/
def lines (t : Text) : List Text :=
  let (lines, rest) := splitLines t
  if rest.isEmpty then lines else lines ++ [rest]

/-- The lines whose ends are seen in a text that is cut off. -/
def linesSoFar (t : Text) : List Text :=
  (splitLines (if t.getLast? = some '\r' then t.dropLast else t)).1

/-- The text with a line feed for each line end. -/
def unifyLineEnds : Text → Text
  | [] => []
  | '\r' :: '\n' :: t => '\n' :: unifyLineEnds t
  | '\r' :: t => '\n' :: unifyLineEnds t
  | c :: t => c :: unifyLineEnds t

end GridRobot.Text
