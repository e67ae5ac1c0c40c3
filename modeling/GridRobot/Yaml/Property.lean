import GridRobot.Yaml.Cursor

/-! # Properties and directives

Before a node may stand an anchor, which names it, and a tag, which gives its kind. Before a
document may stand directives, which give the version of the language and short forms of tags. -/

namespace GridRobot.Yaml

/-- A tag as it is written: a handle, which stands for the start of the tag, and the rest of it. -/
structure WrittenTag where
  handle : Option Text
  suffix : Text
  deriving DecidableEq

inductive Directive where
  | version (major : Int)
  | handle (handle start : Text)
  | other
  deriving DecidableEq

namespace Property

open Reading

/-- The characters that may follow a name. -/
def endsName (c : Char) : Bool :=
  isBlankOrEnd c || "?:,]\x7d%@\x60".toList.contains c

/-- Reads the name after the sign of an anchor or an alias. -/
def name : Reading Text := do
  next
  let t ← takeWhile isNameChar
  if t.isEmpty then fail
  expect endsName
  return t

/-- The bytes of a run of escapes. -/
def escapedBytes : Nat → Reading (List UInt8)
  | 0 => return []
  | fuel + 1 => do
    if (← peek) ≠ '%' then return []
    next
    let code ← hexCode 2
    skip 2
    return UInt8.ofNat code :: (← escapedBytes fuel)

/-- Reads a run of escapes, which stand for the bytes of characters. -/
def escapedText : Reading Text := do
  let bytes ← escapedBytes (← rounds)
  match String.fromUTF8? ⟨bytes.toArray⟩ with
  | some s => return s.toList
  | none => fail

def tagChars : Nat → Reading Text
  | 0 => return []
  | fuel + 1 => do
    let c ← peek
    if c = '%' then
      let t ← escapedText
      return t ++ (← tagChars fuel)
    else if isTagChar c then
      next
      return c :: (← tagChars fuel)
    else return []

/-- Reads the text of a tag, of one character at least. -/
def tagText : Reading Text := do
  expect isTagChar
  tagChars (← rounds)

/-- Reads a handle: an exclamation mark, or a name between two. -/
def handle : Reading Text := do
  expect (· = '!')
  next
  if (← peek) = ' ' then return ['!']
  let t ← takeWhile isNameChar
  expect (· = '!')
  next
  return '!' :: t ++ ['!']

/-- Reads a tag that stands in full between angle brackets. -/
def fullTag : Reading WrittenTag := do
  skip 2
  let t ← tagText
  expect (· = '>')
  next
  return ⟨none, t⟩

/-- Reads a tag that starts with a handle. An exclamation mark is a handle if there is no other
behind it in the same word. -/
def shortTag : Reading WrittenTag := do
  let word := ((← get).rest.drop 1).takeWhile fun c => c ≠ '!' && !isSpaceOrEnd c
  if (← peekAt (word.length + 1)) = '!' then
    let h ← handle
    return ⟨some h, ← tagText⟩
  else
    next
    return ⟨some ['!'], ← tagText⟩

/-- Reads a tag. An exclamation mark alone is a tag of its own. -/
def tag : Reading WrittenTag := do
  let c ← peekAt 1
  let t ←
    if c = '<' then fullTag
    else if isBlankOrEnd c then do
      next
      pure ⟨none, ['!']⟩
    else shortTag
  expect isSpaceOrEnd
  return t

/-- Reads a part of a version. -/
def versionPart : Reading Int := do
  let ds ← takeWhile Char.isDigit
  if ds.isEmpty then fail
  match Numeral.read 10 ds with
  | .ok n => return n
  | .error e => throw (.scalar (.number e))

def version : Reading Directive := do
  skipSpaces
  let major ← versionPart
  expect (· = '.')
  next
  discard versionPart
  expect isSpaceOrEnd
  return .version major

def handleDirective : Reading Directive := do
  skipSpaces
  let h ← handle
  expect (· = ' ')
  skipSpaces
  let start ← tagText
  expect isSpaceOrEnd
  return .handle h start

/-- Reads a directive and the end of its line. -/
def directive : Reading Directive := do
  next
  let name ← takeWhile isNameChar
  if name.isEmpty then fail
  expect isSpaceOrEnd
  let d ← match String.ofList name with
    | "YAML" => version
    | "TAG" => handleDirective
    | _ => do
      skipLine
      pure .other
  endLine
  return d

end Property

end GridRobot.Yaml
