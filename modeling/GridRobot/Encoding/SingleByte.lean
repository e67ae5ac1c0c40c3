import GridRobot.Text.Basic

/-! # Single-byte encodings -/

namespace GridRobot.Encoding

/-- An encoding of one byte for each character: what each byte stands for, if anything. -/
structure SingleByte where
  chars : Array (Option Char)

namespace SingleByte

/-- Reads a code point of hexadecimal digits; anything else is no character. -/
def cell (digits : String) : Option Char :=
  let value (c : Char) : Option Nat :=
    if c.isDigit then some (c.toNat - '0'.toNat)
    else if c.isUpper then some (c.toNat - 'A'.toNat + 10)
    else none
  (digits.toList.mapM value).map fun ds => Char.ofNat (ds.foldl (fun n d => 16 * n + d) 0)

/-- The encoding with the given rows of code points. Eight rows start after ASCII. -/
def ofRows (rows : List String) : SingleByte :=
  let cells := (rows.flatMap fun row => (row.splitOn " ").map cell).toArray
  let ascii := ((List.range 128).map fun n => some (Char.ofNat n)).toArray
  ⟨if cells.size < 256 then ascii ++ cells else cells⟩

def char? (t : SingleByte) (b : UInt8) : Option Char :=
  (t.chars[b.toNat]?).join

/-- The byte for a character, the last one if several stand for it. -/
def byte? (t : SingleByte) (c : Char) : Option UInt8 :=
  ((List.range 256).reverse.find? fun n => t.char? n.toUInt8 = some c).map Nat.toUInt8

end SingleByte

end GridRobot.Encoding
