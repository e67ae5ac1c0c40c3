import GridRobot.Encoding.Decoding
import GridRobot.Encoding.Encode

/-! # Codecs

Most codecs are schemes. The others write characters by their numbers or names, by tables that are
not part of this library: what they make of bytes and of texts is taken as it comes.

Some of these codecs give halves of surrogate pairs, which a text does not hold. In what they make
of a file, characters that it does not hold otherwise and that are no letters stand for halves, and
are written as such. No step of a run tells them apart. -/

namespace GridRobot.Encoding

/-- The codecs that are no schemes. -/
inductive OtherCodec where
  | utf7
  | unicodeEscape
  | rawUnicodeEscape
  | punycode
  | idna
  deriving DecidableEq, Repr

/-- What these codecs make of the bytes of a file, and of a text. -/
structure OtherCodecs where
  decode : OtherCodec → Bytes → Decoded
  encode : OtherCodec → Text → Except EncodeError Bytes

/-- A codec of text. -/
inductive Codec where
  | scheme (scheme : Scheme)
  | other (codec : OtherCodec)

def Codec.decode (others : OtherCodecs) : Codec → Bytes → Decoded
  | scheme s => s.decode
  | other c => others.decode c

def Codec.encode (others : OtherCodecs) : Codec → Text → Except EncodeError Bytes
  | scheme s => s.encode
  | other c => others.encode c

end GridRobot.Encoding
