import GridRobot.Command.Failure
import GridRobot.Position

/-! # Log entries

The texts of sections 10.2 and 10.3 of the specification. Every outcome of a command is one line of
the log. -/

namespace GridRobot

/-- The corrections that turn a command into one other command. -/
inductive Correction where
  | missingSpace
  | lowercaseLetter
  | negativeNumber
  deriving DecidableEq, Repr

def Correction.label : Correction → Text
  | missingSpace => "missing space".toList
  | lowercaseLetter => "lowercase letter".toList
  | negativeNumber => "negative number".toList

inductive Entry where
  | executed (command : Command) (position : Position)
  | corrected (correction : Correction) (before after : Text)
  | split
  | removed (command : Text)
  | rejected (message : Text)
  deriving DecidableEq, Repr

namespace Entry

def executedMessage (command position : Text) : Text :=
  "Executed command: ".toList ++ command ++ " -> Position: ".toList ++ position ++ ['.']

def correctionMessage (label before after : Text) : Text :=
  "Corrected ".toList ++ label ++ ": ".toList ++ before ++ " -> ".toList ++ after ++ ['.']

def splitMessage : Text :=
  "Split multiple symbols into separate commands.".toList

def removalMessage (command : Text) : Text :=
  "Removed command with zero number: ".toList ++ command ++ ['.']

def errorMessage (message : Text) : Text :=
  "Error: ".toList ++ message

def text : Entry → Text
  | executed c p => executedMessage c.text p.text
  | corrected k before after => correctionMessage k.label before after
  | split => splitMessage
  | removed c => removalMessage c
  | rejected m => errorMessage m

end Entry

end GridRobot
