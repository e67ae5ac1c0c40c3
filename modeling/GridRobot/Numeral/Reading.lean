import GridRobot.Numeral
import GridRobot.Text.Blank
import GridRobot.Text.Digit
import GridRobot.Text.Quoted

/-! # Reading integers written by hand

A hand-written integer may have blanks around it, single underscores between its digits, and
digits of any script. It is read in a base from two to thirty-six. The limit on the number of
digits holds where the base is no power of two. -/

namespace GridRobot.Numeral

/-- Why an integer was not read or not written. -/
inductive Error where
  | malformed (base : Nat) (text : Text)
  | overlong (length : Nat)
  | unwritable
  deriving DecidableEq

/-- The limit as messages name it. -/
def limitText : Text :=
  "Exceeds the limit (".toList ++ digits maxDigits ++
    " digits) for integer string conversion".toList

/-- What is said of a numeral that is not read. Of its quoted text, the start is shown. -/
def malformedMessage (base : Nat) (quoted : Text) : Text :=
  "invalid literal for int() with base ".toList ++ digits base ++ ": ".toList ++ quoted.take 200

def Error.message : Error → Text
  | .malformed base t => malformedMessage base t.quoted
  | .overlong n =>
    limitText ++ ": value has ".toList ++ digits n ++
      " digits; use sys.set_int_max_str_digits() to increase the limit".toList
  | .unwritable =>
    limitText ++ "; use sys.set_int_max_str_digits() to increase the limit".toList

/-- The numeral of an integer that is not too long to write. -/
def write (n : Int) : Except Error Text :=
  if Writable n then .ok (text n) else .error .unwritable

/-- Blanks and digits beyond ASCII stand for the space and the ASCII digits. -/
def plain (c : Char) : Char :=
  if c.toNat < 127 then c
  else if Text.isBlank c then ' '
  else match Text.digitValue? c with
    | some d => Nat.digitChar d
    | none => '?'

/-- What a digit or letter counts as a digit of some base. -/
def digitIn? (base : Nat) (c : Char) : Option Nat :=
  let value :=
    if c.isDigit then c.toNat - '0'.toNat
    else if c.isLower then c.toNat - 'a'.toNat + 10
    else if c.isUpper then c.toNat - 'A'.toNat + 10
    else base
  if value < base then some value else none

/-- The letter that may follow a leading zero to name the base. -/
def baseMark (base : Nat) (c : Char) : Bool :=
  match base with
  | 2 => c = 'b' || c = 'B'
  | 8 => c = 'o' || c = 'O'
  | 16 => c = 'x' || c = 'X'
  | _ => false

/-- Drops a mark of the base, with one underscore after it. -/
def dropBaseMark (base : Nat) : Text → Text
  | '0' :: m :: t =>
    if baseMark base m then (match t with | '_' :: t => t | t => t) else '0' :: m :: t
  | t => t

/-- The underscores of a run of digits stand alone and between digits. -/
def underscoresBetween : Text → Bool
  | [] => false
  | ['_'] => false
  | '_' :: '_' :: _ => false
  | [_] => true
  | _ :: t => underscoresBetween t

/-- Reads an unsigned integer in `base`, and returns what follows it. -/
def readDigits (base : Nat) (t : Text) : Option (List Nat × Text) :=
  let inRun c := (digitIn? base c).isSome || c = '_'
  let run := t.takeWhile inRun
  if run.head? ≠ some '_' ∧ underscoresBetween run then
    some (run.filterMap (digitIn? base), t.dropWhile inRun)
  else none

/-- Reads an integer in `base`. -/
def read (base : Nat) (t : Text) : Except Error Int :=
  let s := (if t.all (·.toNat < 128) then t else t.map plain).dropWhile Text.isBlank
  let (negative, s) : Bool × Text :=
    match s with
    | '-' :: s => (true, s)
    | '+' :: s => (false, s)
    | s => (false, s)
  match readDigits base (dropBaseMark base s) with
  | none => .error (.malformed base t)
  | some (ds, rest) =>
    if ds.length > maxDigits ∧ ¬base.isPowerOfTwo then .error (.overlong ds.length)
    else if (rest.dropWhile Text.isBlank).isEmpty then
      let n := ds.foldl (fun n d => base * n + d) 0
      .ok (if negative then -(n : Int) else n)
    else .error (.malformed base t)

end GridRobot.Numeral
