import GridRobot.Encoding.Step
import GridRobot.Numeral
import GridRobot.Text.Loose
import GridRobot.Text.Quoted

/-! # Faults of encodings

Why bytes could not be read as text, and why a text could not be written. -/

namespace GridRobot.Encoding

/-- Why bytes were not read as text. -/
inductive DecodeError where
  | invalid (codec : Text) (bytes : Bytes) (start stop : Nat) (reason : Text)
  | noByteOrderMark (bits : Nat)
  | undefined
  /-- More bytes were left over at the end of a piece than are kept. -/
  | tooManyKept
  /-- A fault without a place in the bytes. -/
  | other (message : Text)
  deriving DecidableEq, Repr

def DecodeError.message : DecodeError → Text
  | invalid codec bytes start stop reason =>
    '\x27' :: codec ++ "' codec can't decode ".toList ++
      (match bytes, stop - start with
        | b :: _, 1 =>
          "byte 0x".toList ++ Text.hex 2 b.toNat ++ " in position ".toList ++ Numeral.digits start
        | _, _ =>
          "bytes in position ".toList ++ Numeral.digits start ++
            '-' :: Numeral.digits (stop - 1)) ++
      ':' :: ' ' :: reason
  | noByteOrderMark bits =>
    "UTF-".toList ++ Numeral.digits bits ++ " stream does not start with BOM".toList
  | undefined => "undefined encoding".toList
  | tooManyKept => "pending buffer overflow".toList
  | other m => m

/-- Why a text was not written. -/
inductive EncodeError where
  | unencodable (codec : Text) (first : CodePoint) (start stop : Nat) (reason : Text)
  | undefined
  | other (message : Text)
  deriving DecidableEq, Repr

/-- A code point by its number. -/
def escaped (x : CodePoint) : Text :=
  let n := x.toNat
  if n < 0x100 then '\\' :: 'x' :: Text.hex 2 n
  else if n < 0x10000 then '\\' :: 'u' :: Text.hex 4 n
  else '\\' :: 'U' :: Text.hex 8 n

def EncodeError.message : EncodeError → Text
  | unencodable codec first start stop reason =>
    '\x27' :: codec ++ "' codec can't encode ".toList ++
      (if stop = start + 1 then
        "character '".toList ++ escaped first ++ "' in position ".toList ++ Numeral.digits start
      else
        "characters in position ".toList ++ Numeral.digits start ++ '-' ::
          Numeral.digits (stop - 1)) ++
      ':' :: ' ' :: reason
  | undefined => "undefined encoding".toList
  | other m => m

end GridRobot.Encoding
