import GridRobot.Decimal.Shortest
import GridRobot.Numeral
import GridRobot.Text.Loose
import GridRobot.Value.Time

/-! # Values

The values that settings and coordinates are given by. Each has a text, which for all but texts,
dates and times is also the form in which lists and mappings show it. -/

namespace GridRobot

/-- A value from a settings file. A `loop` is a collection inside itself. -/
inductive Value where
  | null
  | bool (b : Bool)
  | int (n : Int)
  | float (x : Float)
  | text (t : LooseText)
  | bytes (bs : List UInt8)
  | date (d : Date)
  | time (t : Timestamp)
  | list (items : List Value)
  | tuple (items : List Value)
  | set (items : List Value)
  | mapping (entries : List (Value × Value))
  | loop (isMapping : Bool)
  deriving Inhabited

namespace Value

/-- Numbers are written in full from the fourth decimal place to the sixteenth digit. -/
def floatLayout : Decimal.Layout := ⟨-3, 16, 2⟩

/-- The name of the kind of value in messages. -/
def typeName : Value → Text
  | null => "None".toList
  | bool _ => "bool".toList
  | int _ => "int".toList
  | float _ => "float".toList
  | text _ => "str".toList
  | bytes _ => "bytes".toList
  | date _ => "datetime.date".toList
  | time _ => "datetime.datetime".toList
  | list _ => "list".toList
  | tuple _ => "tuple".toList
  | set _ => "set".toList
  | mapping _ => "dict".toList
  | loop isMapping => if isMapping then "dict".toList else "list".toList

/-- Bytes are quoted like the characters of the same numbers, all beyond ASCII escaped. -/
def quotedBytes (bs : List UInt8) : Text :=
  let t : Text := bs.map fun b => Char.ofNat b.toNat
  let mark := Text.quoteMark t
  let shown (c : Char) : Text :=
    if c.toNat < 128 then Text.quotedChar mark c else '\\' :: 'x' :: Text.hex 2 c.toNat
  'b' :: mark :: t.flatMap shown ++ [mark]

/-- Texts between brackets, with commas between them. -/
def bracketed (opening closing : Char) (items : List Text) : Text :=
  opening :: [',', ' '].intercalate items ++ [closing]

/-- Why a value was not written as a text. -/
inductive TextError where
  /-- An integer has too many digits. -/
  | unwritable
  /-- There is no room for another call, to show the value in this form. -/
  | tooDeep (form : Text)
  deriving DecidableEq, Repr

namespace TextError

/-- There is no room for the value itself. -/
def wholeTooDeep : TextError := .tooDeep "str".toList

/-- There is no room for a part of the value. -/
def partTooDeep : TextError := .tooDeep "repr".toList

end TextError

mutual

/-- The form in which a value is shown inside a list or mapping, with room for so many calls inside
of each other for its parts. A set is shown by way of a list. -/
def shown : Value → Nat → Except TextError Text
  | null, _ => .ok "None".toList
  | bool b, _ => .ok (if b then "True".toList else "False".toList)
  | int n, _ => if Numeral.Writable n then .ok (Numeral.text n) else .error .unwritable
  | float x, _ => .ok (floatLayout.float x)
  | text t, _ => .ok t.quoted
  | bytes bs, _ => .ok (quotedBytes bs)
  | date d, _ => .ok d.shown
  | time t, _ => .ok t.shown
  | list items, room => (shownItems items room).map (bracketed '[' ']')
  | tuple items, room => (shownItems items room).map fun
    | [item] => '(' :: item ++ [',', ')']
    | items => bracketed '(' ')' items
  | set [], _ => .ok "set()".toList
  | set (_ :: _), 0 => .error .partTooDeep
  | set (item :: items), room + 1 =>
    (shownItems (item :: items) room).map (bracketed '{' '}')
  | mapping entries, room => (shownEntries entries room).map (bracketed '{' '}')
  | loop isMapping, _ =>
    .ok (if isMapping then ['{', '.', '.', '.', '}'] else ['[', '.', '.', '.', ']'])

def shownItems : List Value → Nat → Except TextError (List Text)
  | [], _ => .ok []
  | _ :: _, 0 => .error .partTooDeep
  | v :: vs, room + 1 => do
    let first ← shown v room
    (shownItems vs (room + 1)).map (first :: ·)

def shownEntries : List (Value × Value) → Nat → Except TextError (List Text)
  | [], _ => .ok []
  | _ :: _, 0 => .error .partTooDeep
  | (k, v) :: es, room + 1 => do
    let key ← shown k room
    let value ← shown v room
    (shownEntries es (room + 1)).map ((key ++ ':' :: ' ' :: value) :: ·)

end

/-- The text of a value, with room for so many calls inside of each other. A text takes none. -/
def str : Value → Nat → Except TextError LooseText
  | text t, _ => .ok t
  | _, 0 => .error .wholeTooDeep
  | date d, _ + 1 => .ok d.text.loose
  | time t, _ + 1 => .ok t.text.loose
  | v, room + 1 => (shown v room).map Text.loose

mutual

/-- No integer in the value is too long to write. -/
def isWritable : Value → Bool
  | int n => Numeral.Writable n
  | list items | tuple items | set items => areWritable items
  | mapping entries => areWritableEntries entries
  | _ => true

def areWritable : List Value → Bool
  | [] => true
  | v :: vs => isWritable v && areWritable vs

def areWritableEntries : List (Value × Value) → Bool
  | [] => true
  | (k, v) :: es => isWritable k && (isWritable v && areWritableEntries es)

end

mutual

/-- The number of calls inside of each other that the parts of a value are shown by. -/
def depth : Value → Nat
  | list items | tuple items => depthOfItems items
  | set [] => 0
  | set (item :: items) => depthOfItems (item :: items) + 1
  | mapping entries => depthOfEntries entries
  | _ => 0

def depthOfItems : List Value → Nat
  | [] => 0
  | v :: vs => max (depth v + 1) (depthOfItems vs)

def depthOfEntries : List (Value × Value) → Nat
  | [] => 0
  | (k, v) :: es => max (depth k + 1) (max (depth v + 1) (depthOfEntries es))

end

/-- The number of calls inside of each other that the text of a value is made by. -/
def height : Value → Nat
  | text _ => 0
  | date _ | time _ => 1
  | v => depth v + 1

/-- The integer that a number is equal to. -/
def integer? : Value → Option Int
  | bool b => some (if b then 1 else 0)
  | int n => some n
  | float x => Decimal.integer? x
  | _ => none

/-- Two scalars are equal, as numbers or times if they are such. What is no number equals
nothing. -/
def isSame : Value → Value → Bool
  | null, null => true
  | text t, text u => t = u
  | bytes b, bytes c => b = c
  | date d, date e => d = e
  | time t, time u => t.isSame u
  | float x, float y => x == y
  | v, w => v.integer?.isSome && v.integer? = w.integer?

/-- The value counts as nothing: it is null, false, zero or empty. -/
def isEmpty : Value → Bool
  | null => true
  | bool b => !b
  | int n => n = 0
  | float x => x == 0
  | text t => t.isEmpty
  | bytes bs => bs.isEmpty
  | list items => items.isEmpty
  | tuple items => items.isEmpty
  | set items => items.isEmpty
  | mapping entries => entries.isEmpty
  | date _ | time _ | loop _ => false

end Value

end GridRobot
