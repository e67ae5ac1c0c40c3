import GridRobot.Text.Quoted
import GridRobot.Text.Uppercase

/-! # Loose texts

A path, an argument or a value of a setting may hold half of a surrogate pair, which is no
character. A loose text may hold such halves. Two halves side by side stay two halves. -/

namespace GridRobot

/-- A character, or half of a surrogate pair. -/
inductive CodePoint where
  | char (c : Char)
  | half (n : Nat)
  deriving DecidableEq, Repr

/-- A text that may hold halves of surrogate pairs. -/
abbrev LooseText := List CodePoint

namespace CodePoint

/-- What has this number: a character, or else half of a pair. -/
def ofNat (n : Nat) : CodePoint :=
  if n.isValidChar then char (Char.ofNat n) else half n

def toNat : CodePoint → Nat
  | char c => c.toNat
  | half n => n

def char? : CodePoint → Option Char
  | char c => some c
  | half _ => none

/-- A half is written by its number. -/
def written : CodePoint → Text
  | char c => [c]
  | half n => '\\' :: 'u' :: Text.hex 4 n

/-- The character, or a question mark for a half. -/
def masked : CodePoint → Char
  | char c => c
  | half _ => '?'

/-- The capital form. A half has none but itself. -/
def upper : CodePoint → LooseText
  | char c => (Text.upperChar c).map char
  | half n => [half n]

/-- A code point of a text quoted with `mark`. -/
def quoted (mark : Char) : CodePoint → Text
  | char c => Text.quotedChar mark c
  | half n => written (half n)

end CodePoint

/-- A text as a loose one. -/
def Text.loose (t : Text) : LooseText :=
  t.map .char

namespace LooseText

/-- The text without halves. -/
def text? (t : LooseText) : Option Text :=
  t.mapM CodePoint.char?

/-- The text in which halves are written by their numbers. -/
def written (t : LooseText) : Text :=
  t.flatMap CodePoint.written

/-- The text with question marks for halves. -/
def masked (t : LooseText) : Text :=
  t.map CodePoint.masked

def upper (t : LooseText) : LooseText :=
  t.flatMap CodePoint.upper

/-- The text between quotation marks. -/
def quoted (t : LooseText) : Text :=
  let mark := t.masked.quoteMark
  mark :: t.flatMap (CodePoint.quoted mark) ++ [mark]

@[simp] theorem text?_loose (t : Text) : text? t.loose = some t := by
  induction t with
  | nil => rfl
  | cons c t ih =>
    unfold text? Text.loose at ih ⊢
    simp only [List.map_cons, List.mapM_cons, CodePoint.char?, ih]
    rfl

end LooseText

end GridRobot
