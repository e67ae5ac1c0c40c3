import GridRobot.Host
import GridRobot.Settings

/-! # Settings files

`from_yaml` of section 10.6 of the specification. Settings are read from a file that holds a
mapping. A file whose value counts as nothing stands for the defaults. -/

namespace GridRobot

namespace Settings

/-- A path without the names that lead nowhere. Two slashes at its start are kept apart from one. -/
def plainPath (path : LooseText) : LooseText :=
  let slash : CodePoint := .char '/'
  let point : LooseText := [.char '.']
  let names := (path.splitOn slash).filter fun n => n ≠ [] && n ≠ point
  let slashes := (path.takeWhile (· = slash)).length
  let start := if slashes = 0 then [] else if slashes = 2 then [slash, slash] else [slash]
  let plain := start ++ [slash].intercalate names
  if plain = [] then point else plain

/-- Settings of the value that a file holds. -/
def ofValue (room : Nat) (path : LooseText) (v : Value) : Except Error Settings :=
  if v.isEmpty then .ok default
  else match v with
    | .mapping entries => ofMapping room entries
    | _ => .error (.configuration path (Text.loose "top level must be a mapping".toList))

end Settings

def PathError.configuration (path : LooseText) : PathError → Error
  | encode e => .encode e
  | null => .nullInPath
  | refused e => .configuration path (e.message path).loose

def Yaml.LoadError.configuration (path : LooseText) : LoadError → Error
  | malformed reason => .configuration path reason
  | stream e => .decode e
  | other e => .foreign e

/-- Settings of a file, which is read in the encoding of the locale. -/
def Settings.ofFile (H : Host) (s : H.files.State) (path : LooseText) : Except Error Settings := do
  let path := plainPath path
  let bytes ← (H.files.readPath s path).mapError (·.configuration path)
  let value ← (H.loader H.locale bytes).mapError (·.configuration path)
  ofValue H.room path value

end GridRobot
