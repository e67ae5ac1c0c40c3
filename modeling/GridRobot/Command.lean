import GridRobot.Direction
import GridRobot.Numeral.Reading

/-! # Commands

The parsed command of section 3 of the specification. A command names a direction and a distance.
Its canonical text is the symbol of the direction, one space and the numeral of the distance. -/

namespace GridRobot

/-- A move by `magnitude` steps in a direction. -/
structure Command where
  direction : Direction
  magnitude : Int
  deriving DecidableEq, Repr

namespace Command

/-- The longest distance that one command may ask for. -/
def maxMagnitude : Int := 100

def text (c : Command) : Text :=
  c.direction.symbol :: ' ' :: Numeral.text c.magnitude

end Command

end GridRobot
