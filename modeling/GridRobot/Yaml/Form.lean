import GridRobot.Text.Basic

/-! # Forms of scalars

A scalar without quotes and tag is taken for what it looks like. The forms of integers, decimals
and times are described here. Each of them may be followed by one line end. -/

namespace GridRobot.Yaml.Form

/-- The scalar without the line end that may follow its form. -/
def body (t : Text) : Text :=
  if t.getLast? = some '\n' then t.dropLast else t

def withoutSign (t : Text) : Text :=
  match t with
  | '-' :: t | '+' :: t => t
  | t => t

/-- A text of one character or more, all of a class. -/
def isRun (p : Char → Bool) (t : Text) : Bool :=
  !t.isEmpty && t.all p

def isDigitOrGap (c : Char) : Bool :=
  c.isDigit || c = '_'

def isHexOrGap (c : Char) : Bool :=
  isDigitOrGap c || ('a' ≤ c && c ≤ 'f') || ('A' ≤ c && c ≤ 'F')

/-- Digits and gaps, of which the first is a digit. -/
def isDigits (t : Text) : Bool :=
  t.all isDigitOrGap && t.head?.any Char.isDigit

/-- A number below sixty. -/
def isSixtieth : Text → Bool
  | [a] => a.isDigit
  | [a, b] => '0' ≤ a && a ≤ '5' && b.isDigit
  | _ => false

/-- Digits and numbers below sixty, with colons between them. -/
def isSixties (t : Text) : Bool :=
  match t.splitOn ':' with
  | first :: second :: rest => isDigits first && (second :: rest).all isSixtieth
  | _ => false

/-- The text looks like an integer. -/
def isInt (t : Text) : Bool :=
  let t := withoutSign (body t)
  match t with
  | '0' :: 'b' :: ds => isRun (fun c => c = '0' || c = '1' || c = '_') ds
  | '0' :: 'x' :: ds => isRun isHexOrGap ds
  | '0' :: ds => ds.all fun c => ('0' ≤ c && c ≤ '7') || c = '_'
  | t => isDigits t || isSixties t

/-- The power of ten behind a decimal. -/
def isPower : Text → Bool
  | [] => true
  | e :: s :: ds => (e = 'e' || e = 'E') && (s = '-' || s = '+') && isRun Char.isDigit ds
  | _ => false

/-- The text looks like a decimal. -/
def isFloat (t : Text) : Bool :=
  let t := body t
  let s := withoutSign t
  let whole := s.takeWhile (· ≠ '.')
  match s.dropWhile (· ≠ '.') with
  | '.' :: places =>
    let power := places.dropWhile isDigitOrGap
    isDigits whole && isPower power ||
      s = t && whole = [] && isDigits (places.takeWhile isDigitOrGap) && isPower power ||
      isSixties whole && power = [] ||
      whole = [] && ["inf", "Inf", "INF"].contains (String.ofList places) ||
      s = t && whole = [] && ["nan", "NaN", "NAN"].contains (String.ofList places)
  | _ => false

/-- The parts of the time of a day. The offset is in minutes. -/
structure ClockForm where
  hour : Nat
  minute : Nat
  second : Nat
  fraction : Text
  offset : Option Int

/-- The parts of a day, and of a time on it. -/
structure TimeForm where
  year : Nat
  month : Nat
  day : Nat
  clock : Option ClockForm

/-- Reading the start of a text, with the rest as state. -/
abbrev Take := StateT Text Option

/-- Takes a number of some digits. -/
def number (least most : Nat) : Take Nat := do
  let ds := ((← get).take most).takeWhile Char.isDigit
  if ds.length < least then failure
  modify (·.drop ds.length)
  return Nat.ofDigitChars 10 ds 0

def sign (c : Char) : Take Unit := do
  if (← get).head? ≠ some c then failure
  modify (·.drop 1)

def isSpaceOrTab (c : Char) : Bool :=
  c = ' ' || c = '\t'

/-- Takes what stands between a day and the time on it. -/
def clockMark : Take Unit := do
  let t ← get
  match t with
  | 't' :: t | 'T' :: t => set t
  | t =>
    if t.head?.any isSpaceOrTab then set (t.dropWhile isSpaceOrTab) else failure

/-- Takes the digits after a point, if there is one. -/
def fraction : Take Text := do
  match ← get with
  | '.' :: t =>
    set (t.dropWhile Char.isDigit)
    return t.takeWhile Char.isDigit
  | _ => return []

/-- Takes an offset from universal time, if there is one. -/
def offset : Take (Option Int) := do
  if (← get).isEmpty then return none
  modify (·.dropWhile isSpaceOrTab)
  match ← get with
  | 'Z' :: t =>
    set t
    return some 0
  | s :: t =>
    if s ≠ '-' && s ≠ '+' then failure
    set t
    let hours ← number 1 2
    let minutes ← if (← get).isEmpty then pure 0 else do
      sign ':'
      number 2 2
    let n : Int := 60 * hours + minutes
    return some (if s = '-' then -n else n)
  | [] => failure

def clock : Take ClockForm := do
  clockMark
  let hour ← number 1 2
  sign ':'
  let minute ← number 2 2
  sign ':'
  let second ← number 2 2
  return ⟨hour, minute, second, ← fraction, ← offset⟩

def time : Take TimeForm := do
  let year ← number 4 4
  sign '-'
  let month ← number 1 2
  sign '-'
  let day ← number 1 2
  let clock ← if (← get).isEmpty then pure none else some <$> clock
  if (← get) ≠ [] then failure
  return ⟨year, month, day, clock⟩

/-- The parts of a time. -/
def time? (t : Text) : Option TimeForm :=
  (time.run (body t)).map (·.1)

/-- The text looks like a time. A day alone has all its digits. -/
def isTime (t : Text) : Bool :=
  match time? t with
  | none => false
  | some f => f.clock.isSome || (body t).length = 10

end GridRobot.Yaml.Form
