import GridRobot.Error
import GridRobot.Value

/-! # Readers of settings files

Settings files are written in a language that is no part of this library. A reader of it is given
the bytes of a file and their encoding, and finds a value or an error. The entries of a mapping are
found with the values that they have by themselves. -/

namespace GridRobot.Yaml

open Encoding (Bytes DecodeError Scheme)

/-- Why no value was read. -/
inductive LoadError where
  /-- The text is not in the language, for a reason that the reader gives. -/
  | malformed (reason : LooseText)
  | stream (error : DecodeError)
  | other (error : ForeignError)

abbrev Loader := Scheme → Bytes → Except LoadError Value

/-- The reader reads the whole text, and hands on the fault of its bytes. -/
def Loader.Propagates (load : Loader) : Prop :=
  ∀ (scheme : Scheme) (bs : Bytes), (scheme.decode bs).fault ≠ none →
    ∃ e, load scheme bs = .error (.stream e)

end GridRobot.Yaml
