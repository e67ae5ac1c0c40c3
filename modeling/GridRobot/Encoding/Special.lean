import GridRobot.Encoding.Codec
import GridRobot.Encoding.Escape
import GridRobot.Encoding.Idna
import GridRobot.Encoding.Utf7

/-! # Codecs by numbers

The codecs that are no schemes, as the program runs with them. No characters are known by their
names, the labels of names are prepared by their small letters alone, and the replacement character
stands for half of a surrogate pair. -/

namespace GridRobot.Encoding

namespace OtherCodec

/-- Reads a piece, with what was kept before it. -/
def feed (c : OtherCodec) (kept piece : Bytes) (final : Bool) :
    Except DecodeError (Text × Bytes) :=
  let bs := kept ++ piece
  let read (codec : Text) (step : Bytes → Step) : Except DecodeError (Text × Bytes) :=
    (readPiece codec (always step) () 0 bs final).map fun (t, left, _) => (t, left)
  match c with
  | utf7 => read "utf7".toList (Utf7.step final)
  | unicodeEscape => read "unicodeescape".toList Escape.stepFull
  | rawUnicodeEscape => read "rawunicodeescape".toList (Escape.stepRaw final)
  | punycode => (Punycode.decode bs).map fun t => (t, [])
  | idna => Idna.decode bs final

def encode (c : OtherCodec) (t : Text) : Except EncodeError Bytes :=
  match c with
  | utf7 => .ok (Utf7.encode t)
  | unicodeEscape => .ok (Escape.encodeFull t)
  | rawUnicodeEscape => .ok (Escape.encodeRaw t)
  | punycode => .ok (Punycode.encode t)
  | idna => Idna.encode t

end OtherCodec

def OtherCodecs.special : OtherCodecs where
  decode c bs := readPieces c.feed [] bs
  encode c t := c.encode t

end GridRobot.Encoding
