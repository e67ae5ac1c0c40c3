import GridRobot.Run

/-! # Lines of input

The input and the output of section 6 of the specification, and `process_commands` of section 10.1.
A run takes its commands from lines of input, up to the first line that holds the sentinel. Line
ends are removed, and nothing else is, because spaces matter in commands. -/

namespace GridRobot

def sentinel : Text := ['Q']

/-- A line without the carriage returns and line feeds at its end. -/
def stripLineEnd (line : Text) : Text :=
  (line.reverse.dropWhile fun c => c = '\r' || c = '\n').reverse

/-- The commands taken from lines of input, the lines left over, and whether a sentinel was met. -/
structure Taken where
  commands : List Text
  rest : List Text
  stopped : Bool

/-- Takes the commands before the first sentinel, and leaves the lines after it. -/
def takeCommands : List Text → Taken
  | [] => ⟨[], [], false⟩
  | line :: lines =>
    if stripLineEnd line = sentinel then ⟨[], lines, true⟩
    else
      let taken := takeCommands lines
      { taken with commands := stripLineEnd line :: taken.commands }

namespace Run

/-- Settles the commands of some lines, up to the sentinel. -/
def processCommands (r : Run) (lines : List Text) : Run :=
  let taken := takeCommands lines
  let r := taken.commands.foldl process r
  if taken.stopped && r.fault.isNone then r.remark .sentinel else r

/-- The entries of the log as they are printed. -/
def logTexts (r : Run) : List Text :=
  r.log.toList.map Entry.text

end Run

end GridRobot
