import GridRobot.Encoding.Decoding
import GridRobot.Encoding.Encode
import GridRobot.Encoding.Registry
import GridRobot.Fault

/-! # Errors

Sections 7 and 10.4 of the specification. Errors of files of commands and of settings are reported
to the user in one line. The others are not foreseen by the program, and end it. -/

namespace GridRobot

/-- An error of the reader of settings files, which is no part of the program. -/
structure ForeignError where
  kind : Text
  message : LooseText
  deriving DecidableEq, Repr

inductive Error where
  | commandFile (path reason : LooseText)
  | configuration (setting reason : LooseText)
  | fault (error : Fault)
  | encoding (error : Encoding.NameError)
  | decode (error : Encoding.DecodeError)
  | encode (error : Encoding.EncodeError)
  /-- Parts lie too deep inside of each other for a value to be shown in this form. -/
  | tooDeep (form : Text)
  | foreign (error : ForeignError)
  | nullInPath
  deriving DecidableEq

namespace Error

def commandFileMessage (path reason : LooseText) : LooseText :=
  Text.loose "Cannot access file '".toList ++ path ++ Text.loose "': ".toList ++ reason

def configurationMessage (setting reason : LooseText) : LooseText :=
  Text.loose "Invalid setting '".toList ++ setting ++ Text.loose "': ".toList ++ reason

def message : Error → LooseText
  | commandFile path reason => commandFileMessage path reason
  | configuration setting reason => configurationMessage setting reason
  | fault e => e.message.loose
  | encoding e => e.message.loose
  | decode e => e.message.loose
  | encode e => e.message.loose
  | tooDeep form =>
    Text.loose ("maximum recursion depth exceeded while getting the ".toList ++ form ++
      " of an object".toList)
  | foreign e => e.message
  | nullInPath => Text.loose "embedded null byte".toList

def isReported : Error → Bool
  | commandFile .. | configuration .. => true
  | _ => false

end Error

end GridRobot
