import GridRobot.CommandLine.Page
import GridRobot.CommandLine.Similarity
import GridRobot.Log.Level
import GridRobot.Text.Loose

/-! # Options and arguments

The options of the program stand in front of its command, and those of a command anywhere behind
it. A value follows its option as the next argument, or behind an equals sign. Two hyphens end the
options. -/

namespace GridRobot.CommandLine

/-- What is wrong with the arguments of a call. -/
inductive UsageError where
  | noOption (name : LooseText) (similar : List Text)
  | noCommand (name : LooseText) (similar : List Text)
  | noValue (option : Text)
  | needlessValue (option : LooseText)
  | noArgument (name : Text)
  | needlessArguments (arguments : List LooseText)
  | commandMissing
  | isDirectory (parameter : Text) (path : LooseText)
  | noLevel (parameter : Text) (value : LooseText)
  deriving DecidableEq

namespace UsageError

/-- Names that may have been meant. -/
def suggestion : List Text → Text
  | [] => []
  | [name] => " Did you mean ".toList ++ name.quoted ++ ['?']
  | names =>
    " (Did you mean one of: ".toList ++ [',', ' '].intercalate (names.map Text.quoted) ++ ['?', ')']

def levelNames : Text :=
  [',', ' '].intercalate (Level.all.map fun l => Text.quoted (l.name.map Char.toLower))

def message : UsageError → LooseText
  | noOption name similar =>
    Text.loose ("No such option ".toList ++ name.quoted ++ '.' :: suggestion similar)
  | noCommand name similar =>
    Text.loose ("No such command ".toList ++ name.quoted ++ '.' :: suggestion similar)
  | noValue name => Text.loose ("Option ".toList ++ name.quoted ++ " requires an argument.".toList)
  | needlessValue name =>
    Text.loose ("Option ".toList ++ name.quoted ++ " does not take a value.".toList)
  | noArgument name => Text.loose ("Missing argument '".toList ++ name ++ ['\x27', '.'])
  | needlessArguments args =>
    Text.loose (if args.length = 1 then "Got unexpected extra argument (".toList
      else "Got unexpected extra arguments (".toList) ++
        [CodePoint.char ' '].intercalate args ++ [.char ')']
  | commandMissing => Text.loose "Missing command.".toList
  | isDirectory parameter path =>
    Text.loose ("Invalid value for '".toList ++ parameter ++ "': File ".toList ++ path.quoted ++
      " is a directory.".toList)
  | noLevel parameter value =>
    Text.loose ("Invalid value for '".toList ++ parameter ++ "': ".toList ++ value.quoted ++
      " is not one of ".toList ++ levelNames ++ ['.'])

end UsageError

inductive Flag where
  | config
  | level
  | help
  deriving DecidableEq, Repr

namespace Flag

def name : Flag → Text
  | config => "--config".toList
  | level => "--log-level".toList
  | help => "--help".toList

def takesValue : Flag → Bool
  | help => false
  | _ => true

end Flag

def Page.flags : Page → List Flag
  | program => [.config, .level, .help]
  | _ => [.help]

/-- The names similar to a name, in the order of the alphabet. -/
def similarNames (name : LooseText) (names : List Text) : List Text :=
  (names.filter fun n => isSimilar n.loose name).mergeSort fun t u =>
    !List.lex u t fun c d => c.toNat < d.toNat

/-- The options of a call with their values, and the arguments left over. -/
structure Given where
  flags : List (Flag × LooseText)
  rest : List LooseText

namespace Given

def addFlag (f : Flag) (value : LooseText) (g : Given) : Given :=
  { g with flags := (f, value) :: g.flags }

def values (g : Given) (f : Flag) : List LooseText :=
  g.flags.filterMap fun (f', v) => if f' = f then some v else none

def hyphen : CodePoint := .char '-'

/-- An option that a page does not have. After one hyphen each character is an option, and the first
of them is reported. -/
def unknown (page : Page) (argument name : LooseText) : UsageError :=
  match argument with
  | _ :: x :: _ =>
    if x = hyphen then .noOption name (similarNames name (page.flags.map Flag.name))
    else .noOption [hyphen, x] []
  | _ => .noOption name []

def isOption (argument : LooseText) : Bool :=
  argument.head? = some hyphen && 1 < argument.length

/-- Reads options, up to the first argument that is none or, where they are `mixed`, between the
arguments. An option without its value may come before them. -/
def readFrom (page : Page) (mixed : Bool) :
    Option Flag → List LooseText → Except UsageError Given
  | some f, [] => .error (.noValue f.name)
  | some f, value :: arguments => (readFrom page mixed none arguments).map (addFlag f value)
  | none, [] => .ok ⟨[], []⟩
  | none, argument :: arguments =>
    if argument = [hyphen, hyphen] then .ok ⟨[], arguments⟩
    else if isOption argument then
      let equals : CodePoint := .char '='
      let name := argument.takeWhile (· ≠ equals)
      let attached : Option LooseText :=
        if argument.contains equals then some (argument.drop (name.length + 1)) else none
      match page.flags.find? (·.name.loose = name), attached with
      | none, _ => .error (unknown page argument name)
      | some f, some value =>
        if f.takesValue then (readFrom page mixed none arguments).map (addFlag f value)
        else .error (.needlessValue name)
      | some f, none =>
        if f.takesValue then readFrom page mixed (some f) arguments
        else (readFrom page mixed none arguments).map (addFlag f [])
    else if mixed then
      (readFrom page mixed none arguments).map fun g => { g with rest := argument :: g.rest }
    else .ok ⟨[], argument :: arguments⟩

def read (page : Page) (mixed : Bool) (arguments : List LooseText) : Except UsageError Given :=
  readFrom page mixed none arguments

end Given

end GridRobot.CommandLine
