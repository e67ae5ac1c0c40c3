import GridRobot.Direction
import GridRobot.Numeral.Reading

/-! # Faults of a correction

A correction of a command takes the command apart again, and fails where the command does not have
the parts that it needs. -/

namespace GridRobot

/-- Why a command could not be taken apart, or its outcome not be written. -/
inductive Fault where
  | tooFewTokens (count : Nat)
  | tooManyTokens
  | unknownDirection (symbol : Text)
  | numeral (error : Numeral.Error)
  deriving DecidableEq

namespace Fault

/-- Two tokens were expected and `count` were found. -/
def ofTokenCount (count : Nat) : Fault :=
  if count < 2 then .tooFewTokens count else .tooManyTokens

def message : Fault → Text
  | tooFewTokens n => "not enough values to unpack (expected 2, got ".toList ++ Numeral.digits n ++ [')']
  | tooManyTokens => "too many values to unpack (expected 2)".toList
  | unknownDirection s => s.quoted ++ " is not a valid Direction".toList
  | numeral e => e.message

end Fault

/-! ### Errors that become others -/

theorem mapError_ok {α ε δ : Type} (f : ε → δ) (a : α) :
    (Except.ok a : Except ε α).mapError f = .ok a := rfl

theorem mapError_error {α ε δ : Type} (f : ε → δ) (e : ε) :
    (Except.error e : Except ε α).mapError f = .error (f e) := rfl

/-! ### Directions -/

/-- The direction that a text of one letter stands for. -/
def Direction.ofText (symbol : Text) : Except Fault Direction :=
  match symbol with
  | [c] =>
    match ofSymbol? c with
    | some d => .ok d
    | none => .error (.unknownDirection symbol)
  | _ => .error (.unknownDirection symbol)

end GridRobot
