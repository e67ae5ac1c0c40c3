import GridRobot.Encoding.Step
import GridRobot.Encoding.Chart

/-! # Encodings of several bytes to a character

Such an encoding reads what stands at the front of some bytes and writes what stands at the front of
a text. In some of them bytes can be set to sets of characters, so what came before decides what
bytes stand for. -/

namespace GridRobot.Encoding

/-- The name of a set of characters that bytes below 80 can be set to: the byte that ends the
sequence that sets it, and whether its characters have two bytes each. -/
structure SetMark where
  final : Char
  isDouble : Bool
  deriving DecidableEq, Repr

def SetMark.ascii : SetMark := ⟨'B', false⟩

/-- What bytes below 80 are set to. -/
structure Shift where
  /-- The set in use, unless bytes are shifted. -/
  first : SetMark := .ascii
  /-- The set in use while bytes are shifted. -/
  second : SetMark := .ascii
  /-- The set that can be used for a single character. -/
  single : SetMark := .ascii
  isShifted : Bool := false
  /-- An unknown sequence has begun, whose bytes stand for themselves up to its end. -/
  inSequence : Bool := false
  deriving DecidableEq, Repr

/-- What becomes of the front of a text: the bytes of so many characters, or nothing. At the end of
a text it may be undecided how its last character is written, and then it is not written at all. -/
inductive Written where
  | bytes (bs : Bytes) (count : Nat)
  | unwritable
  | undecided
  deriving DecidableEq, Repr

/-- How one such encoding reads and writes, and by what name its faults are reported. -/
structure MultiByte where
  name : String
  read : Shift → Bytes → Step × Shift
  write : Shift → Text → Written × Shift

/-- The bytes of a code, the most significant one first. -/
def bytesOfCode (code : Nat) : Bytes :=
  if code < 256 then [code.toUInt8] else bytesOfCode (code / 256) ++ [code.toUInt8]
termination_by code

/-- The bytes of a code that stands for so many characters. -/
def Written.ofCode? (code? : Option Nat) (count : Nat) : Written :=
  match code? with
  | some code => .bytes (bytesOfCode code) count
  | none => .unwritable

namespace MultiByte

def illegal : Text := "illegal multibyte sequence".toList

def incomplete : Step := .incomplete false "incomplete multibyte sequence".toList

/-- An encoding in which bytes always stand for the same. -/
def ofFixed (name : String) (read : Bytes → Step) (write : Text → Written) : MultiByte where
  name
  read s bs := (read bs, s)
  write s t := (write t, s)

/-- Two bytes that stand for a text. If they stand for nothing, the first of them is a fault. -/
def textStep (text? : Nat → Option Text) (code : Nat) : Step :=
  match text? code with
  | some t => .text t 2
  | none => .invalid 1 illegal

/-- Two bytes that stand for a character. -/
def charStep (char? : Nat → Option Char) : Nat → Step :=
  textStep fun code => (char? code).map ([·])

/-- Reads one or two bytes: one if `single?` has it, and else two. -/
def readDouble (single? : Nat → Option (Option Char)) (double : Nat → Step) : Bytes → Step
  | [] => incomplete
  | a :: rest =>
    match single? a.toNat with
    | some (some c) => .char c 1
    | some none => .invalid 1 illegal
    | none =>
      match rest with
      | [] => incomplete
      | b :: _ => double (256 * a.toNat + b.toNat)

/-- Bytes below 80 stand for themselves. -/
def asciiByte? (n : Nat) : Option (Option Char) :=
  if n < 0x80 then some (some (Char.ofNat n)) else none

def asciiCode? (c : Char) : Option Nat :=
  if c.toNat < 0x80 then some c.toNat else none

/-- Writes one character. -/
def writeSingle (code? : Char → Option Nat) : Text → Written
  | [] => .unwritable
  | c :: _ => .ofCode? (code? c) 1

/-- The code of two characters that are written together. Of the second only the lowest sixteen bits
are looked at. If none of them is set, the first is written as `alone?` tells, and the second is
lost. -/
def jointCode? (pairs : List Chart.Pair) (alone? : Char → Option Nat) (c d : Char) : Option Nat :=
  let low := d.toNat % 0x10000
  match pairs.find? fun p => p.first = c ∧ p.second.toNat = low with
  | some p => some p.code
  | none => if low = 0 ∧ pairs.any (·.first = c) then alone? c else none

/-- Writes a pair or one character. A character that begins a pair and comes last is undecided. -/
def writePaired (pairs : List Chart.Pair) (alone? code? : Char → Option Nat) : Text → Written
  | [] => .unwritable
  | [c] => if pairs.any (·.first = c) then .undecided else .ofCode? (code? c) 1
  | c :: d :: _ =>
    match jointCode? pairs alone? c d with
    | some code => .bytes (bytesOfCode code) 2
    | none => .ofCode? (code? c) 1

/-- The text of a code: a pair or one character. -/
def pairedText? (pairs : List Chart.Pair) (char? : Nat → Option Char) (code : Nat) : Option Text :=
  match pairs.find? (·.code = code) with
  | some p => some [p.first, p.second]
  | none => (char? code).map ([·])

/-- ASCII, and two bytes for each character of a chart. -/
def ofChart (name : String) (chart : Chart) : MultiByte :=
  ofFixed name (readDouble asciiByte? (charStep chart.char?))
    (writeSingle fun c => (asciiCode? c).or (chart.code? c))

end MultiByte

end GridRobot.Encoding
