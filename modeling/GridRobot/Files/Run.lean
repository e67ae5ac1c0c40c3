import GridRobot.Host
import GridRobot.Run.Lines
import GridRobot.Settings
import GridRobot.Text.Line

/-! # Runs on files

Section 6 of the specification, and `read_commands`, `write_output` and `process_file` of section
10.1. A file of commands is read piece by piece while its commands are settled, so a fault in a
later piece ends a run in its middle, and a sentinel before it hides it. A file of a log is emptied
when it is opened, before the encoding is looked up and the text is written. -/

namespace GridRobot

/-- What was done with files. -/
structure FileOutcome (State α : Type) where
  files : State
  notes : Array Note
  result : Except Error α

def PathError.commandFile (path : LooseText) : PathError → Error
  | encode e => .encode e
  | null => .nullInPath
  | refused e => .commandFile path (e.message path).loose

/-- Settles the commands of a text that may have been cut off by a fault. -/
def Run.processDecoded (r : Run) (d : Encoding.Decoded) : Run × Option Encoding.DecodeError :=
  match d.fault with
  | none => (r.processCommands d.text.lines, none)
  | some e =>
    let lines := d.text.linesSoFar
    (r.processCommands lines, if (takeCommands lines).stopped then none else some e)

namespace Host

variable (H : Host)

/-- Opens a file of commands. The name of the encoding is looked up once the file is open. -/
def openCommands (s : H.files.State) (path : LooseText) (encoding : Text) :
    Except Error (Encoding.Codec × Encoding.Bytes) := do
  if '\x00' ∈ encoding then throw (.encoding .embeddedNull)
  let bytes ← (H.files.readPath s path).mapError (·.commandFile path)
  let codec ← (Encoding.lookupText H.locale encoding).mapError .encoding
  return (codec, bytes)

def readCommands (s : H.files.State) (path : LooseText) (encoding : Text) :
    FileOutcome H.files.State (List Entry) :=
  match H.openCommands s path encoding with
  | .error e => ⟨s, #[], .error e⟩
  | .ok (codec, bytes) =>
    let (r, fault) := ({} : Run).processDecoded (codec.decode H.codecs bytes)
    match r.fault, fault with
    | some f, _ => ⟨s, r.notes, .error (.fault f)⟩
    | none, some (.invalid codec bytes start stop reason) =>
      let e : Encoding.DecodeError := .invalid codec bytes start stop reason
      ⟨s, r.notes, .error (.commandFile path e.message.loose)⟩
    | none, some e => ⟨s, r.notes, .error (.decode e)⟩
    | none, none => ⟨s, r.notes, .ok r.log.toList⟩

/-- Writes lines to a file, with line feeds between them. -/
def writeLines (s : H.files.State) (path : LooseText) (encoding : Text) (lines : List Text) :
    H.files.State × Except Error Unit :=
  if '\x00' ∈ encoding then (s, .error (.encoding .embeddedNull))
  else
    match H.files.createPath s path with
    | .error e => (s, .error (e.commandFile path))
    | .ok (file, s) =>
      match Encoding.lookupText H.locale encoding with
      | .error e => (s, .error (.encoding e))
      | .ok codec =>
        match codec.encode H.codecs (['\n'].intercalate lines) with
        | .error e => (s, .error (.encode e))
        | .ok bytes => (H.files.write s file bytes, .ok ())

def processFile (s : H.files.State) (input output : LooseText) (settings : Settings) :
    FileOutcome H.files.State (List Entry) :=
  let started := #[Note.reading input]
  let read := H.readCommands s input settings.encoding
  match read.result with
  | .error e => { read with notes := started ++ read.notes, result := .error e }
  | .ok log =>
    match H.writeLines s output settings.encoding (log.map Entry.text) with
    | (s, .error e) => ⟨s, started ++ read.notes, .error e⟩
    | (s, .ok ()) =>
      ⟨s, (started ++ read.notes).push (.wrote log.length output), .ok log⟩

end Host

end GridRobot
