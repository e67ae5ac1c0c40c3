import GridRobot.Encoding.Base64
import GridRobot.Encoding.Fault

/-! # Text of seven bits in base 64

Most characters of ASCII stand for themselves. The others are written in sections, in which the
16-bit units of the characters are digits of base 64. A section begins with a plus sign, and ends
with a hyphen or with any other byte that is no digit. -/

namespace GridRobot.Encoding.Utf7

/-- The character stands for itself outside of a section. -/
def isDirect (c : Char) : Bool :=
  (0x20 ≤ c.toNat && c.toNat < 0x7F || c = '\t' || c = '\n' || c = '\r') &&
    !(c = '+' || c = '\\' || c = '~')

def digit? (b : UInt8) : Option Nat :=
  Base64.value? (Char.ofNat b.toNat)

/-! ### Writing -/

/-- The 16-bit units of a character. -/
def units (c : Char) : List Nat :=
  if c.toNat < 0x10000 then [c.toNat]
  else [0xD800 + (c.toNat - 0x10000) / 0x400, 0xDC00 + (c.toNat - 0x10000) % 0x400]

/-- The digits of some units, after `width` bits that are left over, which make the number
`bits`. -/
def digits (width bits : Nat) : List Nat → List Nat
  | [] => if width = 0 then [] else [bits * Nat.pow 2 (6 - width)]
  | u :: us =>
    let bits := bits * 0x10000 + u
    match width with
    | 0 => bits / 0x400 :: bits / 0x10 % 64 :: digits 4 (bits % 0x10) us
    | 2 => bits / 0x1000 :: bits / 0x40 % 64 :: bits % 64 :: digits 0 0 us
    | _ => bits / 0x4000 :: bits / 0x100 % 64 :: bits / 4 % 64 :: digits 2 (bits % 4) us

/-- A section, up to the bytes that end it. -/
def openSection (t : Text) : Bytes :=
  0x2B :: (digits 0 0 (t.flatMap units)).map fun d =>
    ((Base64.alphabet[d]?).getD 'A').toNat.toUInt8

/-- A section is closed by what follows it, unless that is a digit, a hyphen or nothing. -/
def closing : Text → Bytes
  | [] => [0x2D]
  | c :: _ => if c = '-' ∨ (Base64.value? c).isSome then [0x2D] else []

def encode : Text → Bytes
  | [] => []
  | c :: t =>
    if isDirect c then c.toNat.toUInt8 :: encode t
    else if c = '+' then 0x2B :: 0x2D :: encode t
    else
      let rest := t.dropWhile (!isDirect ·)
      openSection (c :: t.takeWhile (!isDirect ·)) ++ closing rest ++ encode rest
termination_by t => t.length
decreasing_by
  · simp
  · simp
  · have := (List.dropWhile_suffix (l := t) (fun x => !isDirect x)).length_le
    simp only [List.length_cons]
    omega

/-! ### Reading -/

/-- The characters of some units, of which two can be a pair. -/
def chars : List Nat → Text
  | [] => []
  | [u] => [charOfNat u]
  | u :: v :: us =>
    if 0xD800 ≤ u ∧ u < 0xDC00 ∧ 0xDC00 ≤ v ∧ v < 0xE000 then
      Char.ofNat (0x10000 + (u - 0xD800) * 0x400 + (v - 0xDC00)) :: chars us
    else charOfNat u :: chars (v :: us)

/-- The units of some digits, and the number and the value of the bits that are left over. -/
def unitsOfDigits (width bits : Nat) : List Nat → List Nat × Nat × Nat
  | [] => ([], width, bits)
  | d :: ds =>
    let all := bits * 64 + d
    if width + 6 < 16 then unitsOfDigits (width + 6) all ds
    else
      let room := Nat.pow 2 (width + 6 - 16)
      let (us, left) := unitsOfDigits (width + 6 - 16) (all % room) ds
      (all / room :: us, left)

/-- The last unit is the first half of a pair. -/
def endsInHalf (us : List Nat) : Bool :=
  us.getLast?.any fun u => 0xD800 ≤ u && u < 0xDC00

/-- What stands at the front of some bytes, of which `isLast` tells that nothing follows them. -/
def step (isLast : Bool) : Bytes → Step
  | [] => endOfData
  | a :: rest =>
    if 0x80 ≤ a.toNat then .invalid 1 "unexpected special character".toList
    else if a.toNat ≠ 0x2B then .char (Char.ofNat a.toNat) 1
    else
      let inner := rest.takeWhile fun b => (digit? b).isSome
      let (us, width, bits) := unitsOfDigits 0 0 (inner.filterMap digit?)
      match inner, rest.drop inner.length with
      | [], b :: _ =>
        if b.toNat = 0x2D then .char '+' 2 else .invalid 2 "ill-formed sequence".toList
      | inner, [] =>
        if isLast && !(6 ≤ width || bits ≠ 0 || endsInHalf us) then
          .text (chars us) (inner.length + 1)
        else .incomplete false "unterminated shift sequence".toList
      | inner, b :: _ =>
        if 6 ≤ width then
          .invalid (inner.length + 2) "partial character in shift sequence".toList
        else if bits ≠ 0 then
          .invalid (inner.length + 2) "non-zero padding bits in shift sequence".toList
        else .text (chars us) (if b.toNat = 0x2D then inner.length + 2 else inner.length + 1)

end GridRobot.Encoding.Utf7
