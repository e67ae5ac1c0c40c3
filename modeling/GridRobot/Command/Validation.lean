import GridRobot.Command.Failure
import GridRobot.Command.Token

/-! # Validation

Section 4.1 of the specification, and `validate` with the details of section 10.2. A text is a
command if it is a direction symbol and a distance with a space between them. The rules are checked
in a fixed order, and the first broken one is reported. -/

namespace GridRobot.Command

def smallSymbols : Text := ['n', 's', 'e', 'w']

def ofNumber (d : Direction) (t : Text) : Except Violation Command :=
  match Numeral.literal? t with
  | none => .error (.invalidNumberFormat t)
  | some n =>
    if n < 0 then .error (.negativeNumber n)
    else if n = 0 then .error .zeroNumber
    else if maxMagnitude < n then .error (.numberExceedsLimit n)
    else .ok ⟨d, n⟩

def ofTokens (symbol number : Text) : Except Violation Command :=
  match symbol with
  | [] => .error (.invalidSymbol [])
  | [a] =>
    match Direction.ofSymbol? a with
    | some d => ofNumber d number
    | none =>
      if a ∈ smallSymbols then .error (.lowercaseLetter a)
      else if a.isUpper then .error (.invalidCapitalLetter a)
      else .error (.invalidSymbol [a])
  | symbols => .error (.multipleSymbols symbols)

/-- Reads a command, or names the first rule that the text breaks. -/
def violationOr (c : Text) : Except Violation Command :=
  if ' ' ∈ c then
    match tokens c with
    | [symbol, number] => ofTokens symbol number
    | _ => .error .uninterpretable
  else .error .noSpaceSeparator

def validate (c : Text) : Except Failure Command :=
  (violationOr c).mapError (⟨c, ·⟩)

end GridRobot.Command
