import GridRobot.Encoding.Fault
import GridRobot.Encoding.Scheme

/-! # Reading bytes as text

Bytes come in pieces. What a piece ends in the middle of is kept for the next one; at the end of
the bytes there must be nothing left. A piece with a fault gives no characters at all, and the
place of a fault is counted from the start of the piece, with what was kept before it. -/

namespace GridRobot.Encoding

/-- Characters read from some bytes, and what is left: nothing, the start of a character, or a
fault. The `width` is that of the fault that is there, or would be if nothing followed. The `state`
is what bytes are set to after them. -/
structure Scan (σ : Type) where
  text : Text
  consumed : Nat
  left : Bytes
  reason : Text
  width : Nat
  isFault : Bool
  state : σ

/-- Reads characters from `place` on, up to a fault or the end. -/
def scan {σ : Type} (step : σ → Bytes → Step × σ) (state : σ) (place : Nat) : Bytes → Scan σ
  | [] => ⟨[], place, [], [], 0, false, state⟩
  | b :: rest =>
    match step state (b :: rest) with
    | (.text t width, next) =>
      let s := scan step next (place + width) (rest.drop (width - 1))
      { s with text := t ++ s.text }
    | (.invalid width reason, _) => ⟨[], place, b :: rest, reason, width, true, state⟩
    | (.incomplete firstAlone reason, _) =>
      ⟨[], place, b :: rest, reason, if firstAlone then 1 else rest.length + 1, false, state⟩
termination_by bs => bs.length
decreasing_by
  simp only [List.length_drop, List.length_cons]
  omega

/-- Reads a piece whose characters start at `place`, and returns them with what is left and the
state. -/
def readPiece {σ : Type} (codec : Text) (step : σ → Bytes → Step × σ) (state : σ) (place : Nat)
    (bs : Bytes) (final : Bool) : Except DecodeError (Text × Bytes × σ) :=
  let s := scan step state place bs
  if s.isFault || final && !s.left.isEmpty then
    .error (.invalid codec s.left s.consumed (s.consumed + s.width) s.reason)
  else .ok (s.text, s.left, s.state)

/-- Bytes always stand for the same. -/
def always (step : Bytes → Step) : Unit → Bytes → Step × Unit :=
  fun _ bs => (step bs, ())

def ByteOrder.suffix : ByteOrder → Text
  | .little => "-le".toList
  | .big => "-be".toList

/-- A reader in the middle of some bytes: the scheme that goes on, and what was kept. -/
structure Decoder where
  scheme : Scheme
  kept : Bytes := []

namespace Decoder

/-- The mark in front of signed bytes. -/
def signature : Bytes := [0xEF, 0xBB, 0xBF]

/-- Goes on with a piece in a scheme that needs no mark. -/
def continueWith (scheme : Scheme) (codec : Text) (step : Bytes → Step) (place : Nat) (bs : Bytes)
    (final : Bool) : Except DecodeError (Text × Decoder) := do
  let (t, left, _) ← readPiece codec (always step) () place bs final
  return (t, { scheme := scheme, kept := left })

/-- The number of bytes that are kept at most while bytes can be set to sets of characters. -/
def maxKept : Nat := 8

/-- Goes on with a piece in an encoding of several bytes to a character. -/
def readShifted (encoding : MultiByte) (shift : Shift) (bs : Bytes) (final : Bool) :
    Except DecodeError (Text × Decoder) := do
  let (t, left, shift) ← readPiece encoding.name.toList encoding.read shift 0 bs final
  if maxKept < left.length then throw .tooManyKept
  return (t, { scheme := .multiByte encoding shift, kept := left })

/-- Reads a piece whose first bytes are a mark that tells the byte order. -/
def readMarked (bits : Nat) (marked : ByteOrder → Scheme) (step : ByteOrder → Bytes → Step)
    (unmarked : Scheme) (bs : Bytes) (final : Bool) : Except DecodeError (Text × Decoder) :=
  let codec := "utf-".toList ++ Numeral.digits bits
  let width := bits / 8
  let isMark (order : ByteOrder) : Bool :=
    width ≤ bs.length && order.value (bs.take width) = 0xFEFF
  if isMark .little then
    continueWith (marked .little) (codec ++ ByteOrder.little.suffix) (step .little) width
      (bs.drop width) final
  else if isMark .big then
    continueWith (marked .big) (codec ++ ByteOrder.big.suffix) (step .big) width
      (bs.drop width) final
  else do
    let codec := codec ++ ByteOrder.little.suffix
    let (t, left, _) ← readPiece codec (always (step .little)) () 0 bs final
    if width ≤ bs.length - left.length then throw (.noByteOrderMark bits)
    else return (t, { scheme := unmarked, kept := left })

def feed (d : Decoder) (piece : Bytes) (final : Bool) : Except DecodeError (Text × Decoder) :=
  let bs := d.kept ++ piece
  match d.scheme with
  | .ascii => continueWith .ascii "ascii".toList stepAscii 0 bs final
  | .latin1 => continueWith .latin1 "latin-1".toList stepLatin1 0 bs final
  | .singleByte table =>
    continueWith (.singleByte table) "charmap".toList (stepSingleByte table) 0 bs final
  | .multiByte encoding shift => readShifted encoding shift bs final
  | .utf8 => continueWith .utf8 "utf-8".toList stepUtf8 0 bs final
  | .utf8Signed =>
    if bs.length < 3 ∧ bs.isPrefixOf signature then .ok ([], { scheme := .utf8Signed, kept := bs })
    else
      continueWith .utf8 "utf-8".toList stepUtf8 0
        (if signature.isPrefixOf bs then bs.drop 3 else bs) final
  | .utf16 (some order) =>
    continueWith (.utf16 order) ("utf-16".toList ++ order.suffix) (stepUtf16 order) 0 bs final
  | .utf16 none => readMarked 16 (fun o => .utf16 (some o)) stepUtf16 (.utf16 none) bs final
  | .utf32 (some order) =>
    continueWith (.utf32 order) ("utf-32".toList ++ order.suffix) (stepUtf32 order) 0 bs final
  | .utf32 none => readMarked 32 (fun o => .utf32 (some o)) stepUtf32 (.utf32 none) bs final
  | .undefined => .error .undefined

end Decoder

/-- The number of bytes in a piece. -/
def pieceSize : Nat := 8192

/-- Text read from bytes, up to the fault if there is one. -/
structure Decoded where
  text : Text
  fault : Option DecodeError

/-- Reads bytes piece by piece, each with what was kept of those before it. -/
def readPieces {δ : Type} (feed : δ → Bytes → Bool → Except DecodeError (Text × δ)) (kept : δ)
    (bs : Bytes) : Decoded :=
  match bs with
  | [] =>
    match feed kept [] true with
    | .ok (t, _) => ⟨t, none⟩
    | .error e => ⟨[], some e⟩
  | b :: rest =>
    match feed kept (b :: rest.take (pieceSize - 1)) false with
    | .ok (t, kept) =>
      let later := readPieces feed kept (rest.drop (pieceSize - 1))
      { later with text := t ++ later.text }
    | .error e => ⟨[], some e⟩
termination_by bs.length
decreasing_by
  simp only [List.length_drop, List.length_cons]
  omega

def Decoder.readAll (d : Decoder) (bs : Bytes) : Decoded :=
  readPieces feed d bs

def Scheme.decode (scheme : Scheme) (bs : Bytes) : Decoded :=
  ({ scheme := scheme } : Decoder).readAll bs

end GridRobot.Encoding
