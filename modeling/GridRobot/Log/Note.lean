import GridRobot.Command.Failure
import GridRobot.Log.Level
import GridRobot.Text.Loose

/-! # Diagnostics

Section 10.5 of the specification. Notes on how a run goes are kept apart from the log, and are
shown from a chosen level on. -/

namespace GridRobot

inductive Note where
  | failed (command : Text) (kind : FailureKind)
  | split (command : Text) (parts : List Text)
  | rejected (command message : Text)
  | sentinel
  | reading (path : LooseText)
  | wrote (count : Nat) (path : LooseText)
  deriving DecidableEq, Repr

namespace Note

def level : Note → Level
  | failed .. | split .. | rejected .. => .debug
  | sentinel | reading _ | wrote .. => .info

/-- The part of the program that makes the remark. -/
def channel : Note → Text
  | failed .. | split .. | rejected .. => "robot_movement.execution.engine".toList
  | sentinel | reading _ | wrote .. => "robot_movement.runner".toList

def message : Note → LooseText
  | failed c k =>
    Text.loose ("Command ".toList ++ c.quoted ++ " failed validation: ".toList ++ k.value)
  | split c parts =>
    Text.loose ("Split ".toList ++ c.quoted ++ " into [".toList ++
      [',', ' '].intercalate (parts.map Text.quoted) ++ [']'])
  | rejected c m => Text.loose ("Rejected command ".toList ++ c.quoted ++ ": ".toList ++ m)
  | sentinel => Text.loose "Sentinel reached, ignoring remaining input".toList
  | reading p => Text.loose "Processing commands from ".toList ++ p
  | wrote n p =>
    Text.loose ("Wrote ".toList ++ Numeral.digits n ++ " log entries to ".toList) ++ p

def line (n : Note) : LooseText :=
  Text.loose (n.level.name ++ ' ' :: n.channel ++ ": ".toList) ++ n.message

end Note

end GridRobot
