import GridRobot.Encoding.Fault
import GridRobot.Encoding.Scheme

/-! # Writing text as bytes

A text is written as a whole. At a fault nothing is written, and the characters around it that
cannot be written either are reported together. -/

namespace GridRobot.Encoding

/-- The lowest `count` bytes of a number, the most significant one first. -/
def toBig : Nat → Nat → Bytes
  | 0, _ => []
  | count + 1, n => toBig count (n / 256) ++ [n.toUInt8]

def ByteOrder.bytes (order : ByteOrder) (count n : Nat) : Bytes :=
  match order with
  | .little => (toBig count n).reverse
  | .big => toBig count n

def utf8Char (c : Char) : Bytes :=
  let n := c.toNat
  if n < 0x80 then [n.toUInt8]
  else if n < 0x800 then [(0xC0 + n / 64).toUInt8, (0x80 + n % 64).toUInt8]
  else if n < 0x10000 then
    [(0xE0 + n / 4096).toUInt8, (0x80 + n / 64 % 64).toUInt8, (0x80 + n % 64).toUInt8]
  else
    [(0xF0 + n / 262144).toUInt8, (0x80 + n / 4096 % 64).toUInt8, (0x80 + n / 64 % 64).toUInt8,
      (0x80 + n % 64).toUInt8]

def utf16Char (order : ByteOrder) (c : Char) : Bytes :=
  let n := c.toNat
  if n < 0x10000 then order.bytes 2 n
  else
    order.bytes 2 (0xD800 + (n - 0x10000) / 0x400) ++ order.bytes 2 (0xDC00 + (n - 0x10000) % 0x400)

def utf32Char (order : ByteOrder) (c : Char) : Bytes :=
  order.bytes 4 c.toNat

/-- Writes a text character by character, one byte each, from `place` on. -/
def writeBytes (codec reason : Text) (byte? : Char → Option UInt8) (place : Nat) :
    Text → Except EncodeError Bytes
  | [] => .ok []
  | c :: t =>
    match byte? c with
    | some b => (writeBytes codec reason byte? (place + 1) t).map (b :: ·)
    | none =>
      let more := (t.takeWhile fun c => (byte? c).isNone).length
      .error (.unencodable codec (.char c) place (place + 1 + more) reason)

/-- Writes a text from `place` on in an encoding of several bytes to a character. A last character
that is undecided is not written. -/
def writeShifted (encoding : MultiByte) (shift : Shift) (place : Nat) :
    Text → Except EncodeError Bytes
  | [] => .ok []
  | c :: t =>
    match encoding.write shift (c :: t) with
    | (.bytes bs count, next) =>
      (writeShifted encoding next (place + count) (t.drop (count - 1))).map (bs ++ ·)
    | (.undecided, _) => .ok []
    | (.unwritable, _) =>
      .error (.unencodable encoding.name.toList (.char c) place (place + 1) MultiByte.illegal)
termination_by t => t.length
decreasing_by
  simp only [List.length_drop, List.length_cons]
  omega

/-- The byte of a character below `limit`. -/
def byteBelow (limit : Nat) (c : Char) : Option UInt8 :=
  if c.toNat < limit then some c.toNat.toUInt8 else none

/-- Takes a loose text for a text from `place` on. Halves of surrogate pairs keep it from being
one. -/
def textOfLoose (place : Nat) : LooseText → Except EncodeError Text
  | [] => .ok []
  | .char c :: t => (textOfLoose (place + 1) t).map (c :: ·)
  | .half n :: t =>
    let more := (t.takeWhile fun x => x.char?.isNone).length
    .error (.unencodable "utf-8".toList (.half n) place (place + 1 + more)
      "surrogates not allowed".toList)

def Scheme.encode (scheme : Scheme) (t : Text) : Except EncodeError Bytes :=
  match scheme with
  | .ascii => writeBytes "ascii".toList "ordinal not in range(128)".toList (byteBelow 128) 0 t
  | .latin1 => writeBytes "latin-1".toList "ordinal not in range(256)".toList (byteBelow 256) 0 t
  | .singleByte table =>
    writeBytes "charmap".toList "character maps to <undefined>".toList table.byte? 0 t
  | .multiByte encoding shift => writeShifted encoding shift 0 t
  | .utf8 => .ok (t.flatMap utf8Char)
  | .utf8Signed => .ok (utf8Char '\uFEFF' ++ t.flatMap utf8Char)
  | .utf16 (some order) => .ok (t.flatMap (utf16Char order))
  | .utf16 none => .ok (utf16Char .little '\uFEFF' ++ t.flatMap (utf16Char .little))
  | .utf32 (some order) => .ok (t.flatMap (utf32Char order))
  | .utf32 none => .ok (utf32Char .little '\uFEFF' ++ t.flatMap (utf32Char .little))
  | .undefined => .error .undefined

end GridRobot.Encoding
