import GridRobot.Decimal.Reading
import GridRobot.Text.Lowercase
import GridRobot.Value
import GridRobot.Encoding.Base64
import GridRobot.Yaml.Problem
import GridRobot.Yaml.Tag

/-! # Values of scalars

A scalar is read by its tag. A scalar with a tag that was written need not have the form of one,
and may have no value. -/

namespace GridRobot.Yaml.Scalar

def withoutGaps (t : LooseText) : LooseText :=
  t.filter (· ≠ .char '_')

/-- A number without its sign. -/
def unsigned : LooseText → Except ScalarError (Bool × LooseText)
  | [] => .error .emptyNumber
  | .char '-' :: t => .ok (true, t)
  | .char '+' :: t => .ok (false, t)
  | t => .ok (false, t)

/-- The parts between colons. -/
def parts (t : LooseText) : List LooseText :=
  t.splitOn (.char ':')

/-- Reads a numeral. Halves of surrogate pairs are no digits. -/
def readInt (base : Nat) (t : LooseText) : Except ScalarError Int :=
  match Numeral.read base t.masked with
  | .ok n => .ok n
  | .error (.malformed ..) => .error (.integer base t)
  | .error e => .error (.number e)

/-- The value of parts of which each counts sixty times the next. -/
def sixties (parts : List Int) : Int :=
  parts.foldl (fun n part => 60 * n + part) 0

/-- Reads an integer in the base that it begins with. A leading zero stands for base eight. -/
def int (t : LooseText) : Except ScalarError Int := do
  let (negative, t) ← unsigned (withoutGaps t)
  let n ← match t with
    | [] => throw .emptyNumber
    | .char '0' :: .char 'b' :: ds => readInt 2 ds
    | .char '0' :: .char 'x' :: ds => readInt 16 ds
    | .char '0' :: _ => readInt 8 t
    | _ =>
      if t.contains (.char ':') then sixties <$> (parts t).mapM (readInt 10)
      else readInt 10 t
  return if negative then -n else n

def readFloat (t : LooseText) : Except ScalarError Float :=
  match t.text?.bind Decimal.read? with
  | some x => .ok x
  | none => .error (.float t)

/-- The value of parts of which each counts sixty times the next, the last one first. The parts are
added up in this order, because each sum is rounded. -/
def floatSixties : Nat → Float → List Float → Float
  | _, sum, [] => sum
  | base, sum, part :: parts => floatSixties (60 * base) (sum + part * base.toFloat) parts

/-- The number of parts in base sixty that count less than a decimal can. -/
def maxParts : Nat := 174

/-- A decimal in small letters, without gaps and without its sign. -/
def floatForm (t : LooseText) : Except ScalarError (Bool × LooseText) :=
  unsigned (withoutGaps t).lower

/-- The word for no number. -/
def noNumber : LooseText := Text.loose ['.', 'n', 'a', 'n']

/-- The scalar is written as no number, and not only read as such. -/
def isNoNumber (t : LooseText) : Bool :=
  match floatForm t with
  | .ok (_, t) => t = noNumber
  | .error _ => false

/-- Reads a decimal. -/
def float (t : LooseText) : Except ScalarError Float := do
  let (negative, t) ← floatForm t
  let x ←
    if t = Text.loose ['.', 'i', 'n', 'f'] then pure (1.0 / 0.0)
    else if t = noNumber then return 0.0 / 0.0
    else if t.contains (.char ':') then do
      let parts ← (parts t).mapM readFloat
      if maxParts < parts.length then throw .floatRange
      pure (floatSixties 1 0 parts.reverse)
    else readFloat t
  return if negative then -x else x

def bool (t : LooseText) : Except ScalarError Bool :=
  match t.lower.text?.bind fun word => Tag.truthWords.lookup (String.ofList word) with
  | some b => .ok b
  | none => .error (.bool t.lower)

/-- Six digits of a fraction, as millionths. -/
def millionths (digits : Text) : Nat :=
  let ds := digits.take 6
  Nat.ofDigitChars 10 (ds ++ List.replicate (6 - ds.length) '0') 0

/-- Reads a day, or a time on a day. -/
def time (t : Text) : Except ScalarError Value :=
  match Form.time? t with
  | none => .error .notTime
  | some f =>
    match f.clock with
    | none => ((Date.ofNumbers f.year f.month f.day).map .date).mapError .time
    | some c =>
      ((Timestamp.ofNumbers f.year f.month f.day c.hour c.minute c.second (millionths c.fraction)
        c.offset).map .time).mapError .time

/-- Reads bytes. -/
def binary (t : Text) : Except Problem Value :=
  if t.all (·.toNat < 128) then
    match Encoding.Base64.decode? t with
    | some bs => .ok (.bytes bs)
    | none => .error .malformed
  else .error .malformed

/-- The value of a scalar. -/
def value (tag : Tag) (t : LooseText) : Except Problem Value :=
  match tag with
  | .null => .ok .null
  | .bool => ((bool t).map .bool).mapError .scalar
  | .int => ((int t).map .int).mapError .scalar
  | .float => ((float t).map .float).mapError .scalar
  | .time => (t.text?.elim (.error .notTime) time).mapError .scalar
  | .binary => t.text?.elim (.error .malformed) binary
  | .text => .ok (.text t)
  | _ => .error .malformed

end GridRobot.Yaml.Scalar
