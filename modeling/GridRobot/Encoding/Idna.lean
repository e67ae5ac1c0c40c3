import GridRobot.Encoding.Punycode
import GridRobot.Text.Lowercase

/-! # Names in ASCII

A text is a sequence of labels with dots between them. A label with characters outside of ASCII is
written as numbers, with a mark in front. A label is written when the dot after it has come, so what
follows the last dot is not written. -/

namespace GridRobot.Encoding.Idna

/-- Why a label of a name is not written in ASCII. -/
inductive LabelError where
  | length
  /-- The label has the mark of labels that were written in ASCII already. -/
  | marked
  deriving DecidableEq, Repr

def LabelError.message : LabelError → Text
  | length => "label empty or too long".toList
  | marked => "Label starts with ACE prefix".toList

/-- The mark of a label that had characters outside of ASCII. -/
def mark : Text := "xn--".toList

def isDot (c : Char) : Bool :=
  c ∈ ['.', '\u3002', '\uFF0E', '\uFF61']

/-- The parts between the characters of a class. -/
def split (isMark : Char → Bool) : Text → List Text
  | [] => [[]]
  | c :: t =>
    if isMark c then [] :: split isMark t
    else
      match split isMark t with
      | [] => [[c]]
      | label :: labels => (c :: label) :: labels

/-- A label has from 1 to 63 bytes. -/
def checkLength (label : Text) : Except LabelError Text :=
  if label ≠ [] ∧ label.length < 64 then .ok label else .error .length

/-- A label in small letters. -/
def prepared (label : Text) : Text :=
  label.flatMap Text.lowerChar

/-- A label in ASCII. -/
def toAscii (label : Text) : Except LabelError Text :=
  if label.all Punycode.isBasic then checkLength label
  else
    let label := prepared label
    if label.all Punycode.isBasic then checkLength label
    else if mark.isPrefixOf label then .error .marked
    else checkLength (mark ++ (Punycode.encode label).map fun b => Char.ofNat b.toNat)

/-- Writes the labels that a dot ends. -/
def encode (t : Text) : Except EncodeError Bytes :=
  ((split isDot t).dropLast.mapM fun label => (toAscii label).mapError fun e => .other e.message).map fun labels =>
    (labels.flatMap fun label => label ++ ['.']).map (·.toNat.toUInt8)

/-- A label as it was before it was written in ASCII. -/
def toText (label : Text) : Except DecodeError Text :=
  if !mark.isPrefixOf label then .ok label
  else do
    let (basic, numbers) := Punycode.splitNumbers (· = '-') (label.drop mark.length)
    let t ← (Punycode.ofNumbers basic numbers).mapError fun e =>
      .other ("decoding with 'punycode' codec failed (UnicodeError: ".toList ++ e.message ++ [')'])
    let again ← (toAscii t).mapError fun e => .other e.message
    if label.map Char.toLower = again then return t
    else
      throw (.other ("('IDNA does not round-trip', b".toList ++ label.quoted ++ ", b".toList ++
        again.quoted ++ [')']))

/-- The number of characters that some labels take. Empty labels in front are taken for one. -/
def size (count : Nat) : List Text → Nat
  | [] => count
  | label :: labels => size (if count = 0 then label.length else count + 1 + label.length) labels

/-- Reads labels, and returns what is left of the bytes. Only at the end is the last label complete
without a dot. -/
def decode (bs : Bytes) (final : Bool) : Except DecodeError (Text × Bytes) := do
  if bs.isEmpty then return ([], [])
  let labels := split (· = '.') (← Punycode.ascii 0 bs)
  let isOpen := labels.getLast? ≠ some []
  let complete := if isOpen && final then labels else labels.dropLast
  let texts ← complete.mapM toText
  let dot : Text := if !isOpen || !final && !complete.isEmpty then ['.'] else []
  return (['.'].intercalate texts ++ dot, bs.drop (size 0 complete + dot.length))

end GridRobot.Encoding.Idna
