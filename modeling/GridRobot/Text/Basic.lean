/-! # Texts and classes of characters

A text is a list of characters, and a class of characters is a list of closed ranges of code points.
Commands and lines of a log are texts, so they hold no halves of surrogate pairs. Where there can be
such halves, and they matter, a text is a loose one. -/

namespace GridRobot

/-- A text is a list of characters, so that a fact about a text is an induction on it. -/
abbrev Text := List Char

namespace Text

/-- A class of characters, as closed ranges of code points. -/
abbrev CodeRanges := List (Nat × Nat)

/-- Some range covers the character. -/
def CodeRanges.has (ranges : CodeRanges) (c : Char) : Bool :=
  ranges.any fun r => r.1 ≤ c.toNat && c.toNat ≤ r.2

/-- The number `n` in base sixteen, small letters, with zeros in front up to `width` digits. -/
def hex (width n : Nat) : Text :=
  let digits := Nat.toDigits 16 n
  List.replicate (width - digits.length) '0' ++ digits

end Text

end GridRobot
