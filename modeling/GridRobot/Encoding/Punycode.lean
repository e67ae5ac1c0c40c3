import GridRobot.Encoding.Fault

/-! # Text in digits and letters

The characters of ASCII come first, then a hyphen, then numbers in base 36. Each number tells how
far it is from the place of one further character to that of the next, when the further characters
are ordered by code point and by place. How many digits a number has follows from the numbers before
it. -/

namespace GridRobot.Encoding.Punycode

/-- The digit at a place of a number is its last one if it is below this bound. -/
def threshold (place bias : Nat) : Nat :=
  min 26 (max 1 (36 * (place + 1) - bias))

theorem threshold_pos (place bias : Nat) : 1 ≤ threshold place bias := by
  unfold threshold
  omega

/-- Divides a distance by 35 until it is small, and counts 36 each time. -/
def settle (bias delta : Nat) : Nat × Nat :=
  if 455 < delta then settle (bias + 36) (delta / 35) else (bias, delta)
termination_by delta
decreasing_by omega

/-- The bias after a number, in a text of `count` characters. -/
def adapt (delta count : Nat) (isFirst : Bool) : Nat :=
  let scaled := if isFirst then delta / 700 else delta / 2
  let (bias, delta) := settle 0 (scaled + scaled / count)
  bias + 36 * delta / (delta + 38)

/-! ### Writing -/

/-- The digits of a number from a place on. -/
def digits (bias place n : Nat) : Bytes :=
  let digit (d : Nat) : UInt8 := if d < 26 then (0x61 + d).toUInt8 else (0x30 + (d - 26)).toUInt8
  let t := threshold place bias
  if n < t then [digit n]
  else digit (t + (n - t) % (36 - t)) :: digits bias (place + 1) ((n - t) / (36 - t))
termination_by n
decreasing_by
  have := threshold_pos place bias
  have := Nat.div_le_self (n - threshold place bias) (36 - threshold place bias)
  omega

/-- The places of a character among those that do not come after it in the order of code points. -/
def places (c : Char) (place : Nat) : Text → List Nat
  | [] => []
  | d :: t =>
    if d = c then place :: places c (place + 1) t
    else if d.toNat < c.toNat then places c (place + 1) t
    else places c place t

/-- The distances between places, from `next` on, with `extra` before the first. -/
def distances (extra next : Nat) : List Nat → List Nat
  | [] => []
  | p :: ps => (extra + p - next) :: distances 0 (p + 1) ps

/-- The distances of the characters of a text, given in their order, after the code point `last` and
the place `next`. -/
def allDistances (t : Text) (last next : Nat) : List Char → List Nat
  | [] => []
  | c :: cs =>
    let before := (t.filter (·.toNat < c.toNat)).length
    let ps := places c 0 t
    distances ((before + 1) * (c.toNat - last)) next ps ++
      allDistances t c.toNat (ps.getLast?.elim next (· + 1)) cs

/-- The numbers of distances, in a text that has `count` characters before them. -/
def numbers (bias count : Nat) (isFirst : Bool) : List Nat → Bytes
  | [] => []
  | n :: ns => digits bias 0 n ++ numbers (adapt n (count + 1) isFirst) (count + 1) false ns

def isBasic (c : Char) : Bool :=
  c.toNat < 0x80

/-- The characters outside of ASCII, each once, in order. -/
def extended (t : Text) : List Char :=
  ((t.filter (!isBasic ·)).eraseDups).mergeSort fun a b => a.toNat ≤ b.toNat

def encode (t : Text) : Bytes :=
  let basic := t.filter isBasic
  (if basic.isEmpty then [] else basic.map (·.toNat.toUInt8) ++ [0x2D]) ++
    numbers 72 basic.length true (allDistances t 0x80 0 (extended t))

/-! ### Reading -/

/-- Why characters were not found by numbers in base 36. -/
inductive NumberError where
  /-- A number has no end. -/
  | incomplete
  | notDigit (c : Char)
  | noCharacter (n : Nat)
  deriving DecidableEq, Repr

def NumberError.message : NumberError → Text
  | incomplete => "incomplete punicode string".toList
  | notDigit c => "Invalid extended code point '".toList ++ [c, '\x27']
  | noCharacter n => "Invalid character U+".toList ++ Text.hex 0 n

/-- A text of ASCII. -/
def ascii (place : Nat) : Bytes → Except DecodeError Text
  | [] => .ok []
  | b :: bs =>
    if b.toNat < 0x80 then (ascii (place + 1) bs).map (Char.ofNat b.toNat :: ·)
    else .error (.invalid "ascii".toList (b :: bs) place (place + 1)
      "ordinal not in range(128)".toList)

def digit? (c : Char) : Option Nat :=
  if 'A' ≤ c ∧ c ≤ 'Z' then some (c.toNat - 'A'.toNat)
  else if '0' ≤ c ∧ c ≤ '9' then some (c.toNat - '0'.toNat + 26)
  else none

/-- Reads a number from a place on, whose digits count `weight` there, and returns what follows
it. -/
def readNumber (bias place weight : Nat) : Text → Except NumberError (Nat × Text)
  | [] => .error .incomplete
  | c :: t =>
    match digit? c with
    | none => .error (.notDigit c)
    | some d =>
      let bound := threshold place bias
      if d < bound then .ok (d * weight, t)
      else (readNumber bias (place + 1) (weight * (36 - bound)) t).map fun (n, t) =>
        (d * weight + n, t)

/-- Puts the characters of some numbers into a text. The first of them comes after `place` and the
code point `last`. -/
def insertAll (bias last place : Nat) (isFirst : Bool) (t : Text) :
    Nat → Text → Except NumberError Text
  | 0, _ => .ok t
  | _, [] => .ok t
  | fuel + 1, source => do
    let (delta, rest) ← readNumber bias 0 1 source
    let size := t.length + 1
    let n := last + (place + delta) / size
    let spot := (place + delta) % size
    if 0x10FFFF < n then throw (.noCharacter n)
    insertAll (adapt delta size isFirst) n (spot + 1) false
      (t.take spot ++ charOfNat n :: t.drop spot) fuel rest

/-- The text of some characters of ASCII, and of others given by numbers. -/
def ofNumbers (basic numbers : Text) : Except NumberError Text :=
  insertAll 72 0x80 0 true basic numbers.length (numbers.map Char.toUpper)

/-- The part before the last hyphen, and the part after it. -/
def splitNumbers {α : Type} (isHyphen : α → Bool) (t : List α) : List α × List α :=
  let numbers := (t.reverse.takeWhile (!isHyphen ·)).reverse
  (t.take (t.length - numbers.length - 1), numbers)

def decode (bs : Bytes) : Except DecodeError Text := do
  let (basic, numbers) := splitNumbers (·.toNat = 0x2D) bs
  (ofNumbers (← ascii 0 basic) (← ascii 0 numbers)).mapError fun e => .other e.message

end GridRobot.Encoding.Punycode
