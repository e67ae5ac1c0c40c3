import GridRobot.Error
import GridRobot.Log.Level
import GridRobot.Text.Uppercase
import GridRobot.Value

/-! # Settings

`RunConfig` and `from_dict` of section 10.6 of the specification. A run has two settings: the
encoding of its files and the level from which on diagnostics are shown. They are checked in this
order when settings are made. -/

namespace GridRobot

/-- Checked settings. The encoding keeps the name that it was given by. -/
structure Settings where
  encoding : Text
  level : Level
  deriving DecidableEq, Repr

namespace Settings

def encodingKey : Text := "encoding".toList

def levelKey : Text := "log_level".toList

def default : Settings := ⟨"utf-8".toList, .warning⟩

def levelNames : Text :=
  [',', ' '].intercalate (Level.all.map Level.name)

def checkEncoding (v : Value) : Except Error Text :=
  match v with
  | .text loose => do
    let name ← (Encoding.textOfLoose 0 loose).mapError .encode
    match Encoding.lookup name with
    | .ok _ => return name
    | .error .embeddedNull => throw (.encoding .embeddedNull)
    | .error e => throw (.configuration encodingKey.loose e.message.loose)
  | v =>
    .error (.configuration encodingKey.loose
      (Text.loose ("lookup() argument must be str, not ".toList ++ v.typeName)))

def textError : Value.TextError → Error
  | .unwritable => .fault (.numeral .unwritable)
  | .tooDeep form => .tooDeep form

/-- Accepts the name of a level in any case. -/
def checkLevel (room : Nat) (v : Value) : Except Error Level := do
  let name := (← (v.str room).mapError textError).upper
  match name.text?.bind Level.ofName? with
  | some level => .ok level
  | none =>
    .error (.configuration levelKey.loose
      (Text.loose ("expected one of ".toList ++ levelNames ++ ", got ".toList) ++ name))

/-- Makes settings, with the defaults for those that are not given. -/
def make (room : Nat) (encoding level : Option Value) : Except Error Settings := do
  let encoding ← checkEncoding (encoding.getD (.text default.encoding.loose))
  let level ← checkLevel room (level.getD (.text default.level.name.loose))
  return ⟨encoding, level⟩

def value? (entries : List (Value × Value)) (key : Text) : Option Value :=
  entries.findSome? fun
    | (.text k, v) => if k = key.loose then some v else none
    | _ => none

/-- Makes settings from a mapping. Other keys are ignored. -/
def ofMapping (room : Nat) (entries : List (Value × Value)) : Except Error Settings :=
  make room (value? entries encodingKey) (value? entries levelKey)

end Settings

end GridRobot
