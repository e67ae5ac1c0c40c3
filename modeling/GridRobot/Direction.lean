import GridRobot.Text.Basic

/-! # The four directions

The directions of section 10.1 of the specification. -/

namespace GridRobot

inductive Direction where
  | north
  | south
  | east
  | west
  deriving DecidableEq, Repr

namespace Direction

def all : List Direction := [.north, .south, .east, .west]

/-- The capital letter that stands for the direction in commands. -/
def symbol : Direction → Char
  | north => 'N'
  | south => 'S'
  | east => 'E'
  | west => 'W'

def name : Direction → Text
  | north => "NORTH".toList
  | south => "SOUTH".toList
  | east => "EAST".toList
  | west => "WEST".toList

/-- The direction that a letter stands for. -/
def ofSymbol? (c : Char) : Option Direction :=
  match c with
  | 'N' => some north
  | 'S' => some south
  | 'E' => some east
  | 'W' => some west
  | _ => none

/-- The unit step along the two axes. -/
def delta : Direction → Int × Int
  | north => (0, 1)
  | south => (0, -1)
  | east => (1, 0)
  | west => (-1, 0)

def opposite : Direction → Direction
  | north => south
  | south => north
  | east => west
  | west => east

@[simp] theorem ofSymbol?_symbol (d : Direction) : ofSymbol? d.symbol = some d := by
  cases d <;> rfl

theorem eq_symbol_of_ofSymbol? {c : Char} {d : Direction} (h : ofSymbol? c = some d) :
    c = d.symbol := by
  unfold ofSymbol? at h
  split at h <;> simp_all <;> subst h <;> rfl

theorem delta_opposite (d : Direction) : d.opposite.delta = (-d.delta.1, -d.delta.2) := by
  cases d <;> rfl

end Direction

end GridRobot
