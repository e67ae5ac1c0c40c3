import GridRobot.Encoding.MultiByte
import GridRobot.Encoding.SingleByte

/-! # Encoding schemes -/

namespace GridRobot.Encoding

/-- How characters are written as bytes. Where no byte order is given, the first character of the
bytes is a mark that gives it. -/
inductive Scheme where
  | ascii
  | latin1
  | singleByte (table : SingleByte)
  | utf8
  | utf8Signed
  | utf16 (order : Option ByteOrder)
  | utf32 (order : Option ByteOrder)
  /-- Bytes that were set to sets of characters as `shift` tells. -/
  | multiByte (encoding : MultiByte) (shift : Shift)
  /-- Refuses all bytes and all characters. -/
  | undefined

end GridRobot.Encoding
