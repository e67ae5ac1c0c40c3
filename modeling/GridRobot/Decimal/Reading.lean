import GridRobot.Decimal.Shortest
import GridRobot.Numeral.Reading

/-! # Reading decimals

A decimal is a run of digits with a point in it or none, and a power of ten behind it. Infinity and
the number that is none are written as words. -/

namespace GridRobot.Decimal

/-- Reads the power of ten at the end of a decimal. -/
def power? : Text → Option Int
  | [] => some 0
  | e :: t =>
    let (negative, digits) : Bool × Text :=
      match t with
      | '-' :: t => (true, t)
      | '+' :: t => (false, t)
      | t => (false, t)
    if e.toLower = 'e' ∧ digits ≠ [] ∧ digits.all Char.isDigit then
      let n := Nat.ofDigitChars 10 digits 0
      some (if negative then -(n : Int) else n)
    else none

/-- Reads a decimal without a sign. -/
def magnitude? (t : Text) : Option Float :=
  let whole := t.takeWhile Char.isDigit
  let (places, rest) :=
    match t.dropWhile Char.isDigit with
    | '.' :: rest => (rest.takeWhile Char.isDigit, rest.dropWhile Char.isDigit)
    | rest => ([], rest)
  let word := String.ofList (t.map Char.toLower)
  if word = "inf" || word = "infinity" then some (1.0 / 0.0)
  else if word = "nan" then some (0.0 / 0.0)
  else if whole = [] ∧ places = [] then none
  else (power? rest).map fun p => toFloat (Nat.ofDigitChars 10 (whole ++ places) 0) (p - places.length)

/-- Reads a decimal with blanks around it and digits of any script. -/
def read? (t : Text) : Option Float :=
  let s := Text.trim (if t.all (·.toNat < 128) then t else t.map Numeral.plain)
  match s with
  | '-' :: s => (magnitude? s).map fun x => -x
  | '+' :: s => magnitude? s
  | s => magnitude? s

end GridRobot.Decimal
