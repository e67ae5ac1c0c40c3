import GridRobot.Direction
import GridRobot.Numeral.Reading

/-! # Positions on the grid

The position of section 3 of the specification. -/

namespace GridRobot

@[ext] structure Position where
  x : Int
  y : Int
  deriving DecidableEq, Repr

namespace Position

def origin : Position := ⟨0, 0⟩

/-- The point that lies `distance` steps further in a direction. -/
def moved (p : Position) (d : Direction) (distance : Int) : Position :=
  ⟨p.x + d.delta.1 * distance, p.y + d.delta.2 * distance⟩

/-- Both coordinates are short enough to be written. -/
def Writable (p : Position) : Prop :=
  Numeral.Writable p.x ∧ Numeral.Writable p.y

instance (p : Position) : Decidable p.Writable :=
  inferInstanceAs (Decidable (_ ∧ _))

def text (p : Position) : Text :=
  '(' :: Numeral.text p.x ++ [',', ' '] ++ Numeral.text p.y ++ [')']

def write (p : Position) : Except Numeral.Error Text :=
  if p.Writable then .ok p.text else .error .unwritable

end Position

end GridRobot
