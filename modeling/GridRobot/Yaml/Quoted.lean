import GridRobot.Yaml.Cursor

/-! # Quoted scalars

Between single quotes, a doubled quote stands for one. Between double quotes, a backslash begins
an escape, which may give half of a surrogate pair. Lines are joined as in plain scalars. -/

namespace GridRobot.Yaml.Quoted

open Reading

/-- What a character stands for after a backslash. -/
def escaped? : Char → Option Char
  | '0' => some '\x00'
  | 'a' => some '\x07'
  | 'b' => some '\x08'
  | 't' | '\t' => some '\t'
  | 'n' => some '\n'
  | 'v' => some '\x0b'
  | 'f' => some '\x0c'
  | 'r' => some '\r'
  | 'e' => some '\x1b'
  | 'N' => some '\x85'
  | '_' => some '\xa0'
  | 'L' => some '\u2028'
  | 'P' => some '\u2029'
  | c => if [' ', '\x22', '\\', '/'].contains c then some c else none

/-- The number of digits after a letter that begins the code of a character. -/
def codeLength? : Char → Option Nat
  | 'x' => some 2
  | 'u' => some 4
  | 'U' => some 8
  | _ => none

/-- What has a number. There is nothing beyond the last code point. -/
def codePoint (code : Nat) : Reading CodePoint :=
  if code < 0x110000 then return .ofNat code else throw (.scalar (.character code))

/-- Reads empty lines and the blanks in front of the next line. -/
def emptyLines : Nat → Reading Text
  | 0 => return []
  | fuel + 1 => do
    if ← atAnyMark then fail
    discard (takeWhile isSpaceOrTab)
    if !isBreak (← peek) then return []
    let b ← lineBreak
    return b ++ (← emptyLines fuel)

/-- Reads blanks and the end of the line after them, if there is one. -/
def gap : Reading Text := do
  let blanks ← takeWhile isSpaceOrTab
  let c ← peek
  if c = '\x00' then fail
  if !isBreak c then return blanks
  let first ← lineBreak
  return joined first (← emptyLines (← rounds))

/-- Reads what a backslash before this place begins. -/
def escape : Reading LooseText := do
  let c ← peek
  match escaped? c, codeLength? c with
  | some x, _ =>
    next
    return [.char x]
  | none, some width =>
    next
    let x ← codePoint (← hexCode width)
    skip width
    return [x]
  | none, none =>
    if !isBreak c then fail
    discard lineBreak
    return (← emptyLines (← rounds)).loose

/-- Reads up to the quote that ends the scalar. -/
def upTo (quote : Char) : Nat → Reading LooseText
  | 0 => fail
  | fuel + 1 => do
    let c ← peek
    if c = quote then
      next
      if quote = '\x27' && (← peek) = quote then
        next
        return .char quote :: (← upTo quote fuel)
      else return []
    else if c = '\\' && quote = '\x22' then
      next
      let t ← escape
      return t ++ (← upTo quote fuel)
    else if isBlankOrEnd c then
      let t ← gap
      return t.loose ++ (← upTo quote fuel)
    else
      next
      return .char c :: (← upTo quote fuel)

/-- Reads a scalar from its opening quote on. -/
def scalar : Reading LooseText := do
  let quote ← peek
  next
  upTo quote (← rounds)

end GridRobot.Yaml.Quoted
