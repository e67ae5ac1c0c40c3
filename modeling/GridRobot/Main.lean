import GridRobot.CommandLine.Call
import GridRobot.CommandLine.Console
import GridRobot.Encoding.Special
import GridRobot.Yaml.Document

/-! # The program

Looks up the files that the arguments may name, performs the call on them, and writes the files that
it leaves changed. -/

open GridRobot

/-- The surroundings of the program. Nodes of settings files lie as deep inside of others, and calls
inside of each other, as there is usually room for. -/
def surroundings : Host where
  files := FileStore.system
  codecs := .special
  locale := .utf8
  loader := Yaml.load 490
  room := 980

/-- The bytes of a path that can be written. -/
def pathBytes (path : LooseText) : Encoding.Bytes :=
  match FileStore.system.encodePath path with
  | .ok bytes => bytes
  | .error _ => []

/-- The places that a path leads through. -/
def placesOn (home : Place) (path : Encoding.Bytes) : List Place :=
  let start : Place := if path.head? = some FileStore.slash then [] else home
  let step (places : List Place) (name : Encoding.Bytes) : List Place :=
    let here := places.headD []
    if name = [] ∨ name = FileStore.here then places
    else if name = FileStore.around then here.dropLast :: places
    else (here ++ [name]) :: places
  ((path.splitOn FileStore.slash).foldl step [start]).reverse

/-- The text of the path to a place. -/
def pathTo (place : Place) : String :=
  let bytes := FileStore.slash :: [FileStore.slash].intercalate place
  (String.fromUTF8? ⟨bytes.toArray⟩).getD ""

/-- Adds what is found at a place. -/
def look (s : FileStore) (place : Place) : IO FileStore := do
  try
    let content ← IO.FS.readBinFile (pathTo place)
    return s.write place content.toList
  catch e =>
    match e with
    | .inappropriateType .. =>
      return { s with directories := place :: s.directories }
    | _ => return s

def main (arguments : List String) : IO UInt32 := do
  let current := (← IO.currentDir).toString.toList
  let home := ((pathBytes (Text.loose current)).splitOn FileStore.slash).filter (· ≠ [])
  let config := (← IO.getEnv "ROBOT_MOVEMENT_CONFIG").map fun path => Text.loose path.toList
  let arguments := arguments.map fun a => Text.loose a.toList
  let values := arguments.map fun a =>
    if CommandLine.Given.isOption a then (a.dropWhile (· ≠ .char '=')).drop 1 else a
  let paths := (config.toList ++ arguments ++ values).map pathBytes
  let files ← (paths.flatMap (placesOn home)).foldlM look { home := home }
  let call : CommandLine.Call FileStore := ⟨files, config, arguments⟩
  let o := call.perform surroundings CommandLine.console
  let left : FileStore := o.files
  for (place, content) in left.files do
    if files.content? place ≠ some content then
      IO.FS.writeBinFile (pathTo place) ⟨content.toArray⟩
  (← IO.getStderr).putStr (String.ofList o.messages.written)
  (← IO.getStdout).putStr (String.ofList o.output.written)
  match o.status with
  | .ok status => return status.toUInt32
  | .error e =>
    (← IO.getStderr).putStrLn (String.ofList e.message.written)
    return 1
