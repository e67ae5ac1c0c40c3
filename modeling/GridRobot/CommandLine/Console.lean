import GridRobot.CommandLine.Flag
import GridRobot.CommandLine.Style
import GridRobot.CommandLine.Terminal
import GridRobot.Files.Store
import GridRobot.Text.Letter

/-! # Consoles

The terminal that the program runs with. The options are checked in the order in which they are
given, and what is printed has no styles. -/

namespace GridRobot.CommandLine

namespace Console

/-- What a usage error is reported by. -/
def usageReport (page : Page) (e : UsageError) : List LooseText :=
  [page.usage.loose, Text.loose ("Try '".toList ++ page.call ++ " --help' for help.".toList), [],
    Text.loose "Error: ".toList ++ e.message]

def echo (line : LooseText) : LooseText :=
  withoutStyles line ++ [.char '\n']

def wrongUsage (page : Page) (e : UsageError) : Stop :=
  .exit [] ((usageReport page e).flatMap echo) 2

def help (page : Page) : Stop :=
  .exit page.text.loose [] 0

def levelOf? (name : LooseText) : Option Level := do
  Level.ofName? ((← name.text?).map Char.toUpper)

/-- A path must not lead to a directory. All files of a store can be read. -/
def checkPath (s : FileStore) (page : Page) (parameter : Text) (path : LooseText) :
    Except Stop Unit :=
  match FileStore.system.pathBytes path with
  | .error (.encode e) => .error (.error (.encode e))
  | .error _ => .error (.error .nullInPath)
  | .ok bytes =>
    match s.resolve bytes with
    | .ok .directory => .error (wrongUsage page (.isDirectory parameter path))
    | _ => .ok ()

/-- The path of the file of settings. The last one counts, and the one of the surroundings if no
other is given. -/
def configPath? (config : Option LooseText) (g : Given) : Option LooseText :=
  (g.values .config).getLast?.or (config.filter (· ≠ []))

def checkOption (s : FileStore) (config : Option LooseText) (g : Given) : Flag → Except Stop Unit
  | .config =>
    match configPath? config g with
    | some path => checkPath s .program Flag.config.name path
    | none => .ok ()
  | .level =>
    match (g.values .level).getLast? with
    | some name =>
      if (levelOf? name).isSome then .ok ()
      else .error (wrongUsage .program (.noLevel Flag.level.name name))
    | none => .ok ()
  | .help => .ok ()

/-- Reads the options of the program, and checks them in the order in which they are given. -/
def readOptions (s : FileStore) (config : Option LooseText) (arguments : List LooseText) :
    Except Stop (Options × List LooseText) := do
  let g ← (Given.read .program false arguments).mapError (wrongUsage .program)
  if !(g.values .help).isEmpty then throw (help .program)
  for f in g.flags.map (·.1) ++ [.config, .level] do
    checkOption s config g f
  let level := (g.values .level).getLast?.bind levelOf?
  return (⟨configPath? config g, level.map Level.name⟩, g.rest)

def commands : List (Text × Page) :=
  [("explain".toList, .explain), ("run".toList, .run)]

/-- The page of the command with a name. A name that begins with neither a letter nor a digit is
read as an option before it is refused. -/
def command (s : FileStore) (config : Option LooseText) (arguments : List LooseText) :
    Except Stop (Page × List LooseText) :=
  match arguments with
  | [] => .error (wrongUsage .program .commandMissing)
  | name :: rest =>
    match name.text?.bind (List.lookup · commands) with
    | some page => .ok (page, rest)
    | none => do
      let isWord := name.head?.all fun x => x.char?.any fun c => Text.isLetter c || c.isDigit
      if !isWord then discard (readOptions s config arguments)
      throw (wrongUsage .program (.noCommand name (similarNames name (commands.map (·.1)))))

/-- Reads the options and the name of the command. Without arguments, the help is a report of wrong
usage. -/
def options (s : FileStore) (config : Option LooseText) (arguments : List LooseText) :
    Except Stop (Options × Page × List LooseText) := do
  if arguments.isEmpty then throw (.exit [] Page.program.text.loose 2)
  let (o, rest) ← readOptions s config arguments
  return (o, ← command s config rest)

def task (s : FileStore) (page : Page) (arguments : List LooseText) : Except Stop Task := do
  let g ← (Given.read page true arguments).mapError (wrongUsage page)
  if !(g.values .help).isEmpty then throw (help page)
  let refuse {α : Type} (e : UsageError) : Except Stop α := .error (wrongUsage page e)
  let inputName := "INPUT_PATH".toList
  let outputName := "OUTPUT_PATH".toList
  match page, g.rest with
  | .run, [] => refuse (.noArgument inputName)
  | .run, [input] =>
    checkPath s page inputName input
    refuse (.noArgument outputName)
  | .run, input :: output :: more =>
    checkPath s page inputName input
    checkPath s page outputName output
    if !more.isEmpty then refuse (.needlessArguments more)
    return .run input output
  | _, [] => refuse (.noArgument "COMMANDS...".toList)
  | _, commands => return .explain (commands.map fun c => c.map fun x => x.char?.getD '\uFFFD')

end Console

/-- The terminal over a store of files. -/
def console : Terminal FileStore where
  options := Console.options
  task := Console.task
  echo := Console.echo

end GridRobot.CommandLine
