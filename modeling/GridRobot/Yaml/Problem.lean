import GridRobot.Encoding.Decoding
import GridRobot.Numeral.Reading
import GridRobot.Text.Loose
import GridRobot.Value.Time

/-! # Problems of settings files

A text that is not well formed is one kind of problem. A scalar can be well formed and yet have no
value, which is another. A file may also hold bytes that are no text. -/

namespace GridRobot

/-- Why a scalar of a settings file has no value. -/
inductive ScalarError where
  | number (error : Numeral.Error)
  /-- A text stands where an integer is read in a base. -/
  | integer (base : Nat) (text : LooseText)
  | emptyNumber
  | float (text : LooseText)
  /-- A decimal in base sixty has too many parts. -/
  | floatRange
  | bool (text : LooseText)
  | time (error : TimeError)
  | notTime
  /-- A mapping stands where a time is read. -/
  | timeOfMapping
  | character (code : Nat)
  deriving DecidableEq

def ScalarError.kind : ScalarError → Text
  | bool _ => "KeyError".toList
  | emptyNumber => "IndexError".toList
  | notTime => "AttributeError".toList
  | timeOfMapping => "TypeError".toList
  | floatRange => "OverflowError".toList
  | character code =>
    if code < 0x80000000 then "ValueError".toList else "OverflowError".toList
  | number _ | integer .. | float _ | time _ => "ValueError".toList

def ScalarError.message : ScalarError → Text
  | number e => e.message
  | integer base t => Numeral.malformedMessage base t.quoted
  | emptyNumber => "string index out of range".toList
  | float t => "could not convert string to float: ".toList ++ t.quoted
  | floatRange => "int too large to convert to float".toList
  | bool t => t.quoted
  | time e => e.message
  | notTime => "'NoneType' object has no attribute 'groupdict'".toList
  | timeOfMapping => "expected string or bytes-like object, got 'list'".toList
  | character code =>
    if code < 0x80000000 then "chr() arg not in range(0x110000)".toList
    else "Python int too large to convert to C int".toList

/-- Why a settings file could not be read. -/
inductive Yaml.Problem where
  | malformed
  /-- Nodes lie deeper inside of others than can be followed. -/
  | tooDeep
  | scalar (error : ScalarError)
  | decode (error : Encoding.DecodeError)
  deriving DecidableEq

end GridRobot
