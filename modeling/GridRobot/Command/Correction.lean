import GridRobot.Command.Token
import GridRobot.Fault
import GridRobot.Text.Letter
import GridRobot.Text.Uppercase

/-! # Corrections

The strategies of sections 4.2 and 10.3 of the specification. Four of the broken rules have one
repair each. A repair changes the text and nothing else. -/

namespace GridRobot.Command

/-- Puts a space at the first place where a digit follows a letter. -/
def insertSpace : Text → Option Text
  | a :: b :: rest =>
    if Text.isLetter a && b.isDigit then some (a :: ' ' :: b :: rest)
    else (insertSpace (b :: rest)).map (a :: ·)
  | _ => none

/-- Turns a move by a negative number into the opposite move by a positive one. -/
def invertNegative (c : Text) : Except Fault Text :=
  match tokens c with
  | [symbol, number] => do
    let d ← Direction.ofText symbol
    let n ← (Numeral.read 10 number).mapError .numeral
    let m ← (Numeral.write n.natAbs).mapError .numeral
    return d.opposite.symbol :: ' ' :: m
  | ts => .error (.ofTokenCount ts.length)

/-- Makes one command of each character of the symbol, all with the same number. -/
def splitSymbols (c : Text) : Except Fault (List Text) :=
  match tokens c with
  | [symbols, number] => .ok (symbols.map fun a => a :: ' ' :: number)
  | ts => .error (.ofTokenCount ts.length)

theorem exists_eq_of_invertNegative {c c' : Text} (h : invertNegative c = .ok c') :
    ∃ (d : Direction) (m : Nat), c' = d.symbol :: ' ' :: Numeral.digits m := by
  unfold invertNegative at h
  split at h
  · next s t _ =>
    cases hd : Direction.ofText s with
    | error e => simp [hd, bind, Except.bind] at h
    | ok d =>
      cases hn : Numeral.read 10 t with
      | error e => simp [hd, hn, bind, Except.bind, mapError_error] at h
      | ok n =>
        by_cases hw : Numeral.Writable n.natAbs
        · simp only [hd, hn, bind, Except.bind, mapError_ok, Numeral.write, hw, if_true,
            pure, Except.pure, Except.ok.injEq, Numeral.text_natCast] at h
          exact ⟨d.opposite, n.natAbs, h.symm⟩
        · simp only [hd, hn, bind, Except.bind, mapError_ok, mapError_error,
            Numeral.write, hw, if_false, reduceCtorEq] at h
  · simp at h

end GridRobot.Command
