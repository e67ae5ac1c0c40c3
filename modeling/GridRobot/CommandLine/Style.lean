import GridRobot.Text.Loose

/-! # Text without styles

Sequences that set the style of a terminal have no place in a text that is not shown on one. -/

namespace GridRobot.CommandLine

/-- A character between the start of a sequence and the letter at its end. -/
def isParameter (x : CodePoint) : Bool :=
  x.char?.any fun c => c.isDigit || c = ';' || c = '?'

/-- The text behind a sequence that sets a style, after its escape character. -/
def afterStyle? : LooseText → Option LooseText
  | .char '[' :: t =>
    match t.dropWhile isParameter with
    | .char c :: t => if c.isAlpha then some t else none
    | _ => none
  | _ => none

def dropStyles : Nat → LooseText → LooseText
  | 0, t => t
  | _, [] => []
  | fuel + 1, x :: t =>
    match if x = .char '\x1b' then afterStyle? t else none with
    | some t => dropStyles fuel t
    | none => x :: dropStyles fuel t

/-- The text without the sequences that set a style. -/
def withoutStyles (t : LooseText) : LooseText :=
  dropStyles t.length t

end GridRobot.CommandLine
