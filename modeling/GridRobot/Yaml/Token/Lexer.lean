import GridRobot.Yaml.Block
import GridRobot.Yaml.Plain
import GridRobot.Yaml.Quoted
import GridRobot.Yaml.Source
import GridRobot.Yaml.Token

/-! # Tokens of a text

A key in front of a colon is known for a key only at the colon. So the tokens that may begin a key
are remembered, and the colon puts the token for the key in front of them. A key stands in one line
and has at most `maxKeyLength` characters.

Tokens are settled once no colon can put anything in front of them. A problem ends the tokens after
those that were settled before it. -/

namespace GridRobot.Yaml

/-- The length of the longest key in front of a colon. -/
def maxKeyLength : Nat := 1024

/-- A token that may turn out to begin a key. It has to if the block wants a key there. -/
structure OpenKey where
  flowLevel : Nat
  /-- The number of tokens before it. -/
  place : Nat
  required : Bool
  index : Nat
  line : Nat
  column : Nat

/-- What was read of a text. -/
structure Lexer where
  here : Cursor
  tokens : Array Token := #[]
  /-- How many brackets are open. -/
  flowLevel : Nat := 0
  /-- The columns of the open blocks, the innermost first. -/
  indents : List Nat := []
  /-- A key may begin here. -/
  allowsKey : Bool := true
  openKeys : List OpenKey := []

/-- A step of reading tokens. -/
abbrev Lexing := StateT Lexer (Except Problem)

namespace Lexer

/-- The key can no longer begin in front of a place. -/
def OpenKey.isStale (k : OpenKey) (c : Cursor) : Bool :=
  k.line ≠ c.line || c.index - k.index > maxKeyLength

/-- The number of settled tokens. -/
def settled (l : Lexer) : Nat :=
  ((l.openKeys.filter fun k => !OpenKey.isStale k l.here).map (·.place)).foldl min l.tokens.size

/-- The column after that of the innermost block. -/
def leastIndent (l : Lexer) : Nat :=
  match l.indents with
  | [] => 0
  | i :: _ => i + 1

def read {α : Type} (r : Reading α) : Lexing α := do
  let (a, c) ← (← get).here |> r.run
  modify fun l => { l with here := c }
  return a

def emit (t : Token) : Lexing Unit :=
  modify fun l => { l with tokens := l.tokens.push t }

def allowKey (allowed : Bool) : Lexing Unit :=
  modify fun l => { l with allowsKey := allowed }

/-- Gives up the keys of a class, none of which may be required. -/
def dropKeys (p : OpenKey → Bool) : Lexing Unit := do
  let l ← get
  if l.openKeys.any fun k => p k && k.required then throw .malformed
  set { l with openKeys := l.openKeys.filter fun k => !p k }

def dropStaleKeys : Lexing Unit := do
  let c := (← get).here
  dropKeys (OpenKey.isStale · c)

/-- Gives up the key of this level of brackets. -/
def dropKey : Lexing Unit := do
  let n := (← get).flowLevel
  dropKeys (·.flowLevel = n)

/-- Remembers that a key may begin with the next token. -/
def openKey : Lexing Unit := do
  let l ← get
  if !l.allowsKey then return
  dropKey
  let key : OpenKey :=
    { flowLevel := l.flowLevel
      place := l.tokens.size
      required := l.flowLevel = 0 && l.indents.head? = some l.here.column
      index := l.here.index
      line := l.here.line
      column := l.here.column }
  modify fun l => { l with openKeys := key :: l.openKeys }

/-- Ends the blocks that lie further in than a column. -/
def closeBlocks (inner : Nat → Bool) : Lexing Unit := do
  let l ← get
  if l.flowLevel ≠ 0 then return
  let ended := l.indents.takeWhile inner
  set { l with
    indents := l.indents.drop ended.length
    tokens := l.tokens ++ Array.replicate ended.length Token.blockEnd }

/-- Begins a block at a column, unless one is open there. The token goes to a place among the
others. -/
def openBlock (column place : Nat) (t : Token) : Lexing Unit := do
  let l ← get
  if l.indents.all (· < column) then
    set { l with
      indents := column :: l.indents
      tokens := (l.tokens.toList.insertIdx place t).toArray }

/-- Passes over blanks and comments. A key may begin in a new line of a block. -/
def skipBlanks : Nat → Lexing Unit
  | 0 => return
  | fuel + 1 => do
    read Reading.skipSpaces
    if (← read Reading.peek) = '#' then read Reading.skipLine
    if (← read Reading.lineBreak) = [] then return
    if (← get).flowLevel = 0 then allowKey true
    skipBlanks fuel

/-- Reads a token of `n` characters. -/
def sign (n : Nat) (t : Token) : Lexing Unit := do
  read (Reading.skip n)
  emit t

/-- Reads the mark of a document, or a directive. All blocks end before it. -/
def documentPart (part : Lexing Unit) : Lexing Unit := do
  closeBlocks fun _ => true
  dropKey
  allowKey false
  part

def openBracket (t : Token) : Lexing Unit := do
  openKey
  modify fun l => { l with flowLevel := l.flowLevel + 1 }
  allowKey true
  sign 1 t

def closeBracket (t : Token) : Lexing Unit := do
  dropKey
  modify fun l => { l with flowLevel := l.flowLevel - 1 }
  allowKey false
  sign 1 t

def comma : Lexing Unit := do
  allowKey true
  dropKey
  sign 1 .comma

/-- A sign of a block begins one if there is none at its column. It stands where a key may. -/
def openSignBlock (t : Token) : Lexing Unit := do
  let l ← get
  if l.flowLevel = 0 then
    if !l.allowsKey then throw .malformed
    openBlock l.here.column l.tokens.size t

def item : Lexing Unit := do
  openSignBlock .sequenceBlock
  allowKey true
  dropKey
  sign 1 .item

def key : Lexing Unit := do
  openSignBlock .mappingBlock
  allowKey ((← get).flowLevel = 0)
  dropKey
  sign 1 .key

/-- Reads a colon. If a key is open, then it began there, and otherwise the colon follows a key
with a sign of its own, or an empty one. -/
def value : Lexing Unit := do
  let l ← get
  match l.openKeys.find? (·.flowLevel = l.flowLevel) with
  | some k =>
    set { l with
      openKeys := l.openKeys.filter (·.flowLevel ≠ l.flowLevel)
      tokens := (l.tokens.toList.insertIdx k.place .key).toArray }
    if l.flowLevel = 0 then openBlock k.column k.place .mappingBlock
    allowKey false
  | none =>
    openSignBlock .mappingBlock
    allowKey (l.flowLevel = 0)
    dropKey
  sign 1 .value

/-- Reads a token that may begin a key. -/
def word (r : Reading Token) : Lexing Unit := do
  openKey
  allowKey false
  emit (← read r)

def plain : Lexing Unit := do
  openKey
  let l ← get
  let (t, crossed) ← read (Plain.scalar (l.flowLevel ≠ 0) l.leastIndent)
  allowKey crossed
  emit (.scalar t.loose true)

def block : Lexing Unit := do
  allowKey true
  dropKey
  let t ← read (Block.scalar (← get).leastIndent)
  emit (.scalar t.loose false)

/-- A blank comes behind the next character. -/
def isBeforeBlank : Lexing Bool :=
  return isBlankOrEnd (← read (Reading.peekAt 1))

/-- The next character, which stands at the start of a line, begins a mark of a document. -/
def isMark (mark : Char) : Lexing Bool := do
  let l ← get
  if l.here.column = 0 then read (Reading.atMark [mark]) else return false

/-- Characters that begin something other than a plain scalar. -/
def indicators : Text :=
  "-?:,[]\x7b\x7d#&*!|>'\"%@\x60".toList

/-- A plain scalar may begin here. Some indicators may be its first character if no blank
follows. -/
def beginsPlain (c : Char) (inFlow : Bool) : Lexing Bool := do
  if !isBlankOrEnd c && !indicators.contains c then return true
  return !(← isBeforeBlank) && (c = '-' || !inFlow && (c = '?' || c = ':'))

/-- Reads a token that begins with a sign. A sign counts as one before a blank, and in brackets some
do before anything. The result is false if there is no such token. -/
def signToken (c : Char) (inFlow : Bool) : Lexing Bool := do
  if c = '-' then
    if ← isMark '-' then
      documentPart (sign 3 .documentStart)
    else if ← isBeforeBlank then
      item
    else return false
  else if c = '.' then
    if ← isMark '.' then documentPart (sign 3 .documentEnd) else return false
  else if c = '?' || c = ':' then
    let isSign ← if inFlow then pure true else isBeforeBlank
    if !isSign then return false
    if c = '?' then key else value
  else return false
  return true

/-- Reads the next token, after blanks. -/
def token (c : Char) : Lexing Unit := do
  let l ← get
  let inFlow := l.flowLevel ≠ 0
  match c with
  | '[' => openBracket .flowSequence
  | '{' => openBracket .flowMapping
  | ']' => closeBracket .flowSequenceEnd
  | '}' => closeBracket .flowMappingEnd
  | ',' => comma
  | '*' => word (return .alias (← Property.name))
  | '&' => word (return .anchor (← Property.name))
  | '!' => word (return .tag (← Property.tag))
  | '\x27' | '\x22' => word (return .scalar (← Quoted.scalar) false)
  | c =>
    if c = '%' && l.here.column = 0 then
      documentPart (do emit (.directive (← read Property.directive)))
    else if ← signToken c inFlow then return
    else if (c = '|' || c = '>') && !inFlow then block
    else if ← beginsPlain c inFlow then plain
    else throw .malformed

/-- Passes over blanks, ends blocks, and reads the next token. The result tells whether the text has
ended. -/
def advance : Lexing Bool := do
  dropStaleKeys
  skipBlanks (← read Reading.rounds)
  dropStaleKeys
  let c := (← get).here
  closeBlocks (c.column < ·)
  if c.rest.isEmpty then
    documentPart (emit .textEnd)
    return true
  else
    token (← read Reading.peek)
    return false

/-- The tokens of a text that has been read in part. -/
def finish : Nat → Lexer → List Token
  | 0, l => l.tokens.toList
  | fuel + 1, l =>
    match advance.run l with
    | .ok (true, l) => l.tokens.toList
    | .ok (false, l) => finish fuel l
    | .error p => l.tokens.toList.take l.settled ++ [.problem p]

end Lexer

/-- The tokens of a text. A mark of order may stand at its start. -/
def tokens (t : SourceText) : List Token :=
  let c : Cursor := { rest := t.text, problem := t.problem }
  let start : Reading Unit := do
    if (← Reading.peek) = '\uFEFF' then Reading.next
  match start.run c with
  | .error p => [.problem p]
  | .ok (_, c) => Lexer.finish (t.text.length + 1) { here := c }

end GridRobot.Yaml
