import GridRobot.Encoding.Decoding
import GridRobot.Text.Line

/-! # Reading so many characters at a time

A reader turns bytes into characters as they are asked for. It goes on in pieces of bytes whose size
follows from the number of characters that are missing and from how many bytes the last characters
took. Every line end becomes a line feed, so a carriage return at the end of a piece is kept until
it is known what follows it. -/

namespace GridRobot.Encoding

/-- A reader in the middle of some bytes. The characters in `ready` were read, but not asked for. -/
structure Reader where
  bytes : Bytes
  decoder : Decoder
  keepsReturn : Bool := false
  ready : Text := []
  /-- The number of bytes to a character in the last piece. -/
  density : Float := 0

namespace Reader

/-- The size of the next piece if so many characters are missing. -/
def nextSize (r : Reader) (missing : Nat) : Nat :=
  let density := if r.density < 1 then 1 else r.density
  max pieceSize (density * missing.toFloat).floor.toUInt64.toNat

/-- Reads the next piece. At the end of the bytes nothing may be left of a character. -/
def fill (r : Reader) (missing : Nat) : Except DecodeError Reader := do
  let size := r.nextSize missing
  let piece := r.bytes.take size
  let (t, decoder) ← r.decoder.feed piece piece.isEmpty
  let whole := if r.keepsReturn && (piece.isEmpty || !t.isEmpty) then '\r' :: t else t
  let endsInReturn := !piece.isEmpty && whole.getLast? = some '\r'
  let chars := Text.unifyLineEnds (if endsInReturn then whole.dropLast else whole)
  return {
    bytes := r.bytes.drop size
    decoder
    keepsReturn := endsInReturn || r.keepsReturn && !piece.isEmpty && t.isEmpty
    ready := r.ready ++ chars
    density := if chars.isEmpty then 0 else piece.length.toFloat / chars.length.toFloat }

/-- Reads on until so many characters are ready, or all that are left. -/
def prepare (count : Nat) : Nat → Reader → Except DecodeError Reader
  | 0, r => .ok r
  | fuel + 1, r => do
    if count ≤ r.ready.length then return r
    let next ← r.fill (count - r.ready.length)
    if r.bytes.isEmpty then return next else prepare count fuel next

/-- Reads so many characters, or all that are left. -/
def read (r : Reader) (count : Nat) : Except DecodeError (Text × Reader) := do
  let r ← r.prepare count (r.bytes.length + 1)
  return (r.ready.take count, { r with ready := r.ready.drop count })

end Reader

/-- Text that was read so many characters at a time, and the fault that ended the reading. -/
structure Portions where
  portions : List Text
  fault : Option DecodeError

/-- Reads portions of a text up to its end. -/
def Reader.portions (count : Nat) : Nat → Reader → Portions
  | 0, _ => ⟨[], none⟩
  | fuel + 1, r =>
    match r.read count with
    | .error e => ⟨[], some e⟩
    | .ok ([], _) => ⟨[], none⟩
    | .ok (t, r) =>
      let later := portions count fuel r
      { later with portions := t :: later.portions }

/-- Reads bytes in a scheme, so many characters at a time. -/
def Scheme.portions (scheme : Scheme) (count : Nat) (bs : Bytes) : Portions :=
  Reader.portions count (bs.length + 1) { bytes := bs, decoder := { scheme := scheme } }

end GridRobot.Encoding
