import GridRobot.Text.Basic

/-! # Levels of diagnostics -/

namespace GridRobot

/-- How grave a diagnostic is. -/
inductive Level where
  | debug
  | info
  | warning
  | error
  | critical
  deriving DecidableEq, Repr

namespace Level

def all : List Level := [debug, info, warning, error, critical]

def name : Level → Text
  | debug => "DEBUG".toList
  | info => "INFO".toList
  | warning => "WARNING".toList
  | error => "ERROR".toList
  | critical => "CRITICAL".toList

/-- The levels are ten apart. -/
def number : Level → Nat
  | debug => 10
  | info => 20
  | warning => 30
  | error => 40
  | critical => 50

def ofName? (t : Text) : Option Level :=
  all.find? (·.name = t)

end Level

end GridRobot
