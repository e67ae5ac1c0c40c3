import GridRobot.CommandLine.Terminal
import GridRobot.Files.Run
import GridRobot.Settings.File

/-! # Calls of the program

Sections 10.4 and 10.7 of the specification. First the options are read, then the settings are made,
then the arguments of the command are read, and at last the command is carried out. The first of
these that fails ends the call. -/

namespace GridRobot.CommandLine

/-- What a call finds: the files, a file of settings named by the surroundings, and its
arguments. -/
structure Call (State : Type) where
  files : State
  config : Option LooseText
  arguments : List LooseText

/-- What a call leaves: the files, what it prints and reports, and its status or the error that it
did not foresee. -/
structure Outcome (State : Type) where
  files : State
  output : LooseText
  messages : LooseText
  status : Except Error Nat

/-- The diagnostics from a level on. -/
def shownNotes (level : Level) (notes : Array Note) : LooseText :=
  (notes.toList.filter fun n => level.number ≤ n.level.number).flatMap fun n =>
    n.line ++ [.char '\n']

variable (H : Host) (T : Terminal H.files.State)

/-- Makes the settings, of which the options count more than the file. -/
def loadSettings (s : H.files.State) (o : Options) : Except Error Settings := do
  let settings ← match o.config with
    | none | some [] => pure .default
    | some path => Settings.ofFile H s path
  match o.level with
  | none | some [] => return settings
  | some level =>
    Settings.make H.room (some (.text settings.encoding.loose)) (some (.text level.loose))

/-- All that comes before a task. -/
def Call.plan (c : Call H.files.State) : Except Stop (Settings × Task) := do
  let (o, page, rest) ← T.options c.files c.config c.arguments
  let settings ← (loadSettings H c.files o).mapError .error
  let task ← T.task c.files page rest
  return (settings, task)

/-- Ends a call with an error, which is reported if it was foreseen. -/
def failed (files : H.files.State) (messages : LooseText) (e : Error) : Outcome H.files.State :=
  if e.isReported then
    ⟨files, [], messages ++ T.echo (Text.loose "Error: ".toList ++ e.message), .ok 1⟩
  else ⟨files, [], messages, .error e⟩

/-- The line that says how many entries were written. -/
def report (count : Nat) (output : LooseText) : LooseText :=
  Text.loose ("Wrote ".toList ++ Numeral.digits count ++ " log entries to ".toList) ++ output

def Task.perform (files : H.files.State) (settings : Settings) : Task → Outcome H.files.State
  | explain commands =>
    let r := ({} : Run).processCommands commands
    let messages := shownNotes settings.level r.notes
    match r.fault with
    | some f => failed H T files messages (.fault f)
    | none => ⟨files, r.logTexts.flatMap fun t => T.echo t.loose, messages, .ok 0⟩
  | run input output =>
    let o := H.processFile files input output settings
    let messages := shownNotes settings.level o.notes
    match o.result with
    | .error e => failed H T o.files messages e
    | .ok log => ⟨o.files, T.echo (report log.length output), messages, .ok 0⟩

def Call.perform (c : Call H.files.State) : Outcome H.files.State :=
  match c.plan H T with
  | .error (.exit output messages status) => ⟨c.files, output, messages, .ok status⟩
  | .error (.error e) => failed H T c.files [] e
  | .ok (settings, task) => task.perform H T c.files settings

end GridRobot.CommandLine
