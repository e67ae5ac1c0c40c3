import GridRobot.Yaml.Cursor

/-! # Block scalars

The lines of a block scalar are indented more than what it belongs to. In a literal scalar the ends
of its lines are kept. In a folded one they become spaces, other than beside lines that begin with
a blank. -/

namespace GridRobot.Yaml.Block

open Reading

/-- What becomes of the line ends after the last line: all are dropped, the first is kept, or all
are kept. -/
inductive Chomping where
  | strip
  | clip
  | keep
  deriving DecidableEq

def chomping? : Char → Option Chomping
  | '-' => some .strip
  | '+' => some .keep
  | _ => none

/-- Reads a digit that gives the indentation, which is not zero. -/
def indentation? : Reading (Option Nat) := do
  let c ← peek
  if !c.isDigit then return none
  if c = '0' then fail
  next
  return some (c.toNat - '0'.toNat)

/-- Reads a sign for the line ends. -/
def sign? : Reading (Option Chomping) := do
  let chomping := chomping? (← peek)
  if chomping.isSome then next
  return chomping

/-- Reads what stands in the first line: a sign and a digit in any order, or one of them. -/
def header : Reading (Chomping × Option Nat) := do
  let before ← sign?
  let indentation ← indentation?
  let after ← if before.isNone && indentation.isSome then sign? else pure none
  expect isSpaceOrEnd
  return ((before.or after).getD .clip, indentation)

/-- Passes over spaces up to a column. -/
def skipIndent (indent : Nat) : Reading Unit := do
  let c ← get
  let spaces := (c.rest.takeWhile (· = ' ')).length
  skip (min spaces (indent - c.column))

/-- Reads empty lines, up to the indentation of the line after them. -/
def emptyLines (indent : Nat) : Nat → Reading Text
  | 0 => return []
  | fuel + 1 => do
    skipIndent indent
    if !isBreak (← peek) then return []
    let b ← lineBreak
    return b ++ (← emptyLines indent fuel)

/-- Reads empty lines and the spaces of the line after them. The widest of them gives the
indentation. -/
def widest : Nat → Nat → Reading (Text × Nat)
  | 0, width => return ([], width)
  | fuel + 1, width => do
    skipSpaces
    let width := max width (← get).column
    if !isBreak (← peek) then return ([], width)
    let b ← lineBreak
    let (bs, width) ← widest fuel width
    return (b ++ bs, width)

/-- Reads the lines of a scalar, each after the breaks in front of it. The result ends with the end
of the last line and the breaks after it. -/
def lines (folded : Bool) (indent : Nat) : Nat → Text → Reading (Text × Text × Text)
  | 0, breaks => return ([], [], breaks)
  | fuel + 1, breaks => do
    let startsWithBlank := isSpaceOrTab (← peek)
    let line ← takeWhile fun c => !isLineEnd c
    let lineEnd ← lineBreak
    let more ← emptyLines indent (← rounds)
    if (← get).column ≠ indent || (← peek) = '\x00' then return (breaks ++ line, lineEnd, more)
    let isFolded := folded && lineEnd = ['\n'] && !startsWithBlank && !isSpaceOrTab (← peek)
    let join := if !isFolded then lineEnd else if more = [] then [' '] else []
    let (t, last) ← lines folded indent fuel more
    return (breaks ++ line ++ join ++ t, last)

/-- Reads a scalar from its indicator on, within a block of some indentation. -/
def scalar (outer : Nat) : Reading Text := do
  let folded := (← peek) = '>'
  next
  let (chomping, indentation) ← header
  endLine
  let least := max 1 outer
  let (breaks, indent) ← match indentation with
    | none =>
      let (breaks, width) ← widest (← rounds) 0
      pure (breaks, max least width)
    | some n =>
      let breaks ← emptyLines (least + n - 1) (← rounds)
      pure (breaks, least + n - 1)
  let (text, lineEnd, more) ←
    if (← get).column = indent && (← peek) ≠ '\x00' then lines folded indent (← rounds) breaks
    else pure ([], [], breaks)
  return match chomping with
    | .strip => text
    | .clip => text ++ lineEnd
    | .keep => text ++ lineEnd ++ more

end GridRobot.Yaml.Block
