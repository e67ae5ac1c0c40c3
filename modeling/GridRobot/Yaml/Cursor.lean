import GridRobot.Yaml.Character
import GridRobot.Yaml.Problem

/-! # Reading a text from its start

A cursor holds what is left of a text and the place that was reached. Marks of order do not count
as columns.

A text may not go on because of a problem in its file, which comes to light where the text is needed
for the first time. A reading needs the characters that it looks at, and the one after those that it
passes over. -/

namespace GridRobot.Yaml

structure Cursor where
  rest : Text
  /-- What keeps the text from going on, if it does not end. -/
  problem : Option Problem := none
  index : Nat := 0
  line : Nat := 0
  column : Nat := 0

/-- Goes on behind the next character. -/
def Cursor.next (c : Cursor) : Cursor :=
  match c.rest with
  | [] => c
  | x :: rest =>
    if isBreak x then { c with rest, index := c.index + 1, line := c.line + 1, column := 0 }
    else { c with rest, index := c.index + 1, column := if x = '\uFEFF' then c.column else c.column + 1 }

/-- Goes on behind so many characters. -/
def Cursor.skip : Nat → Cursor → Cursor
  | 0, c => c
  | n + 1, c => skip n c.next

/-- A reading moves a cursor, or meets a problem. -/
abbrev Reading := StateT Cursor (Except Problem)

namespace Reading

def fail {α : Type} : Reading α :=
  throw .malformed

/-- So many characters are needed. Fewer will do at the end of the text. -/
def need (count : Nat) : Reading Unit := do
  let c ← get
  match c.problem with
  | none => return
  | some p => if c.rest.length < count then throw p

/-- The character so many places ahead. -/
def peekAt (n : Nat) : Reading Char := do
  need (n + 1)
  return ((← get).rest.drop n).headD '\x00'

def peek : Reading Char :=
  peekAt 0

/-- Passes over so many characters. -/
def skip (n : Nat) : Reading Unit := do
  need (n + 1)
  modify (Cursor.skip n)

def next : Reading Unit :=
  skip 1

/-- Reads the longest run of characters of a class. -/
def takeWhile (p : Char → Bool) : Reading Text := do
  let run := (← get).rest.takeWhile p
  skip run.length
  return run

/-- Passes over the text up to the end of the line. -/
def skipLine : Reading Unit :=
  discard (takeWhile fun c => !isLineEnd c)

/-- Passes over spaces. -/
def skipSpaces : Reading Unit :=
  discard (takeWhile (· = ' '))

/-- The next character must be one of a class, and is not passed over. -/
def expect (p : Char → Bool) : Reading Unit := do
  if !p (← peek) then fail

/-- Three hyphens or three points stand here as a word, and so begin or end a document if they
stand at the start of a line. -/
def atMark (marks : List Char) : Reading Bool := do
  need 3
  let rest := (← get).rest
  if marks.any fun m => [m, m, m].isPrefixOf rest then return isBlankOrEnd (← peekAt 3)
  else return false

def atAnyMark : Reading Bool :=
  atMark ['-', '.']

/-- Reads the end of a line, if there is one, as it counts in a scalar. -/
def lineBreak : Reading Text := do
  let c ← peek
  if !isBreak c then return []
  next
  return if c = '\u2028' || c = '\u2029' then [c] else ['\n']

/-- A comment may follow, and then the line must end. -/
def endLine : Reading Unit := do
  skipSpaces
  if (← peek) = '#' then skipLine
  expect isLineEnd
  discard lineBreak

/-- Reads a number of so many hexadecimal digits, and does not pass over it. -/
def hexCode (width : Nat) : Reading Nat := do
  let digits := ((← get).rest.take width).map (Numeral.digitIn? 16)
  if digits.contains none then fail
  need width
  if digits.length < width then fail
  return digits.foldl (fun n d => 16 * n + d.getD 0) 0

/-- More rounds than any loop over the rest of the text takes. -/
def rounds : Reading Nat :=
  return (← get).rest.length + 1

end Reading

end GridRobot.Yaml
