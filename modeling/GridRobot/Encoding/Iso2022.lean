import GridRobot.Encoding.Japanese
import GridRobot.Encoding.SingleByteTables
import GridRobot.Encoding.Chart.Gb2312
import GridRobot.Encoding.Chart.KsX1001

/-! # Encodings of seven bits

In these encodings, escape sequences set the bytes below 80 to sets of characters. In the Korean
one, a byte shifts to a second set and another byte back. -/

namespace GridRobot.Encoding

/-- A set of characters with one or two bytes each, by the sequence that sets it. -/
structure GraphicSet where
  mark : SetMark
  chart : Chart := .empty
  pairs : List Chart.Pair := []
  /-- Only the pairs are written. -/
  writesPairs : Bool := false
  /-- The set is used while bytes are shifted. -/
  isSecond : Bool := false

namespace GraphicSet

open Chart

def jis1983 : GraphicSet :=
  { mark := ⟨'B', true⟩, chart := jisX0208 }

def jis1978 : GraphicSet :=
  { mark := ⟨'@', true⟩, chart := jisX0208 }

def jisSupplement : GraphicSet :=
  { mark := ⟨'D', true⟩, chart := jisX0212 }

def roman : GraphicSet :=
  { mark := ⟨'J', false⟩, chart := romanSymbols.orElse ((ofBlock 0 0 128).without [0x5C, 0x7E]) }

def halfWidthKana : GraphicSet :=
  { mark := ⟨'I', false⟩, chart := kana.recode (fun n => some (n + 0x80)) (· - 0x80) }

def korean : GraphicSet :=
  { mark := ⟨'C', true⟩, chart := ksX1001 }

def chinese : GraphicSet :=
  { mark := ⟨'A', true⟩, chart := gb2312 }

def latin : GraphicSet :=
  { mark := ⟨'A', false⟩ }

def greek : GraphicSet :=
  { mark := ⟨'F', false⟩ }

/-- The two planes of JIS X 0213. Pairs are written before everything else. -/
def jisPlanes (first second : Char) (plane : Chart) (supplement : Chart) : List GraphicSet :=
  [{ mark := ⟨first, true⟩, chart := plane, pairs := jisX0213Pairs, writesPairs := true }, jis1983,
    { mark := ⟨first, true⟩, chart := plane }, { mark := ⟨second, true⟩, chart := supplement }]

end GraphicSet

/-- What an encoding of seven bits can set bytes to. The first set that has a character is used to
write it. -/
structure SevenBit where
  name : String
  sets : List GraphicSet
  /-- Two bytes shift to the second set and back. -/
  shifts : Bool := false
  /-- A third set can be used for a single character. -/
  hasSingle : Bool := false
  /-- A sequence can announce the revision of the set that follows. -/
  revisions : Bool := true

namespace SevenBit

/-- The greatest length of an escape sequence. -/
def maxSequence : Nat := 16

def isFinal (b : UInt8) : Bool :=
  0x40 ≤ b.toNat && b.toNat ≤ 0x5A

/-- A byte that begins a sequence which sets bytes. -/
def isIntermediate (b : UInt8) : Bool :=
  b.toNat ∈ [0x24, 0x26, 0x28, 0x29, 0x2E]

/-- The length of the sequence at the front, or none if its end has not come yet, or zero if it is
too long. The mark of a revision is not its end. -/
def sequenceLength? (revisions : Bool) (place : Nat) : Nat → Bytes → Option Nat
  | 0, _ => some 0
  | fuel + 1, bs =>
    match bs with
    | [] => none
    | b :: rest =>
      if isFinal b then some (place + 1)
      else if revisions && b.toNat = 0x26 && rest.head?.map UInt8.toNat = some 0x40 then
        sequenceLength? revisions (place + 3) (fuel - 2) (rest.drop 2)
      else sequenceLength? revisions (place + 1) fuel rest

/-- A place that a set of characters can take. -/
inductive Slot where
  | first
  | second
  | single
  deriving DecidableEq, Repr

/-- What a whole sequence sets, if anything. -/
def target? (e : SevenBit) (sequence : Bytes) : Option (Slot × SetMark) :=
  let final (b : UInt8) (isDouble : Bool) : SetMark := ⟨Char.ofNat b.toNat, isDouble⟩
  match sequence with
  | [_, a, b] =>
    match a.toNat with
    | 0x24 => some (.first, final b true)
    | 0x28 => some (.first, final b false)
    | 0x29 => some (.second, final b false)
    | 0x2E => if e.hasSingle then some (.single, final b false) else none
    | _ => none
  | [_, a, b, c] =>
    match a.toNat, b.toNat with
    | 0x24, 0x28 => some (.first, final c true)
    | 0x24, 0x29 => some (.second, final c true)
    | _, _ => none
  | [_, _, _, escape, a, b] =>
    if e.revisions ∧ escape.toNat = 0x1B ∧ a.toNat = 0x24 ∧ b.toNat = 0x42 then
      some (.first, final b true)
    else none
  | _ => none

def has (e : SevenBit) (mark : SetMark) : Bool :=
  mark = .ascii || e.sets.any (·.mark = mark)

def put (s : Shift) (mark : SetMark) : Slot → Shift
  | .first => { s with first := mark }
  | .second => { s with second := mark }
  | .single => { s with single := mark }

/-- Reads a sequence that sets bytes. -/
def readSequence (e : SevenBit) (s : Shift) (bs : Bytes) : Step × Shift :=
  match sequenceLength? e.revisions 1 (maxSequence - 1) (bs.drop 1) with
  | none => (MultiByte.incomplete, s)
  | some 0 => (.invalid 1 MultiByte.illegal, s)
  | some length =>
    match e.target? (bs.take length) with
    | some (slot, mark) =>
      if e.has mark then (.text [] length, put s mark slot)
      else (.invalid length MultiByte.illegal, s)
    | none => (.invalid length MultiByte.illegal, s)

/-- Reads a character of the set for single characters. -/
def readSingle (s : Shift) (b : UInt8) : Step :=
  let char? : Option Char :=
    if s.single = GraphicSet.latin.mark then
      if b.toNat < 0x80 then some (Char.ofNat (b.toNat + 0x80)) else none
    else if s.single = GraphicSet.greek.mark then
      SingleByte.iso8859_7.char? (b.toNat + 0x80).toUInt8
    else if b.toNat < 0x80 then some (Char.ofNat b.toNat) else none
  match char? with
  | some c => .char c 3
  | none => .invalid 3 MultiByte.illegal

/-- Reads a character of the set in use. -/
def readSet (e : SevenBit) (s : Shift) (bs : Bytes) : Step :=
  let mark := if s.isShifted then s.second else s.first
  match bs, e.sets.find? (·.mark = mark) with
  | b :: _, none => .char (Char.ofNat b.toNat) 1
  | b :: rest, some set =>
    if set.mark.isDouble then
      match rest with
      | [] => MultiByte.incomplete
      | c :: _ =>
        match MultiByte.pairedText? set.pairs set.chart.char? (256 * b.toNat + c.toNat) with
        | some t => .text t 2
        | none => .invalid 2 MultiByte.illegal
    else
      match set.chart.char? b.toNat with
      | some c => .char c 1
      | none => .invalid 1 MultiByte.illegal
  | [], _ => MultiByte.incomplete

def read (e : SevenBit) (s : Shift) : Bytes → Step × Shift
  | [] => (MultiByte.incomplete, s)
  | b :: rest =>
    let itself := Step.char (Char.ofNat b.toNat) 1
    if s.inSequence then (itself, { s with inSequence := !isFinal b })
    else if b.toNat = 0x1B then
      match rest with
      | [] => (MultiByte.incomplete, s)
      | c :: rest =>
        if isIntermediate c then e.readSequence s (b :: c :: rest)
        else if e.hasSingle && c.toNat = 0x4E then
          match rest with
          | [] => (MultiByte.incomplete, s)
          | d :: _ => (readSingle s d, s)
        else (itself, { s with inSequence := true })
    else if e.shifts && b.toNat = 0x0F then (.text [] 1, { s with isShifted := false })
    else if e.shifts && b.toNat = 0x0E then (.text [] 1, { s with isShifted := true })
    else if b.toNat = 0x0A then (itself, { s with isShifted := false })
    else if b.toNat < 0x20 then (itself, s)
    else if 0x80 ≤ b.toNat then (.invalid 1 MultiByte.illegal, s)
    else (e.readSet s (b :: rest), s)

/-- The sequence that sets bytes to a set of characters. -/
def sequence (set : GraphicSet) : Bytes :=
  let slot : UInt8 := if set.isSecond then 0x29 else 0x28
  let final := set.mark.final.toNat.toUInt8
  if !set.mark.isDouble then [0x1B, slot, final]
  else if set.mark = GraphicSet.jis1983.mark then [0x1B, 0x24, final]
  else [0x1B, 0x24, slot, final]

/-- The bytes that come before a character, so that bytes mean its set. -/
def change (s : Shift) (set : GraphicSet) : Bytes × Shift :=
  if set.isSecond then
    ((if s.second = set.mark then [] else sequence set) ++ (if s.isShifted then [] else [0x0E]),
      { s with second := set.mark, isShifted := true })
  else
    ((if s.isShifted then [0x0F] else []) ++ (if s.first = set.mark then [] else sequence set),
      { s with first := set.mark, isShifted := false })

/-- How the first characters of a text are written in some sets: the set, the code and the number of
characters. -/
inductive Choice where
  | chosen (set : GraphicSet) (code count : Nat)
  | impossible
  | undecided

def choose (c : Char) (next : Option Char) : List GraphicSet → Choice
  | [] => .impossible
  | set :: sets =>
    if set.writesPairs then
      if set.pairs.any (·.first = c) then
        match next with
        | none => .undecided
        | some d =>
          match MultiByte.jointCode? set.pairs set.chart.code? c d with
          | some code => .chosen set code 2
          | none => choose c next sets
      else choose c next sets
    else
      match set.chart.code? c with
      | some code => .chosen set code 1
      | none => choose c next sets

def write (e : SevenBit) (s : Shift) : Text → Written × Shift
  | [] => (.unwritable, s)
  | c :: t =>
    if c.toNat < 0x80 then
      let back := if s.first = .ascii then [] else [0x1B, 0x28, 0x42]
      (.bytes (back ++ (if s.isShifted then [0x0F] else []) ++ [c.toNat.toUInt8]) 1,
        { s with first := .ascii, isShifted := false })
    else
      match choose c t.head? e.sets with
      | .chosen set code count =>
        let (bs, next) := change s set
        (.bytes (bs ++ bytesOfCode code) count, next)
      | .impossible => (.unwritable, s)
      | .undecided => (.undecided, s)

def encoding (e : SevenBit) : MultiByte :=
  ⟨e.name, e.read, e.write⟩

end SevenBit

namespace MultiByte

open GraphicSet

def iso2022Kr : MultiByte :=
  SevenBit.encoding
    { name := "iso2022_kr", sets := [{ korean with isSecond := true }], shifts := true,
      revisions := false }

def iso2022Jp : MultiByte :=
  SevenBit.encoding { name := "iso2022_jp", sets := [jis1983, roman, jis1978] }

def iso2022Jp1 : MultiByte :=
  SevenBit.encoding { name := "iso2022_jp_1", sets := [jis1983, jisSupplement, roman, jis1978] }

def iso2022Jp2 : MultiByte :=
  SevenBit.encoding
    { name := "iso2022_jp_2",
      sets := [jis1983, jisSupplement, korean, chinese, roman, jis1978, latin, greek],
      hasSingle := true }

def iso2022Jp2004 : MultiByte :=
  SevenBit.encoding
    { name := "iso2022_jp_2004", sets := jisPlanes 'Q' 'P' .jisX0213 .jisX0213Second }

def iso2022Jp3 : MultiByte :=
  SevenBit.encoding
    { name := "iso2022_jp_3", sets := jisPlanes 'O' 'P' .jisX0213Older .jisX0213SecondOlder }

def iso2022JpExt : MultiByte :=
  SevenBit.encoding
    { name := "iso2022_jp_ext", sets := [jis1983, jisSupplement, roman, halfWidthKana, jis1978] }

end MultiByte

end GridRobot.Encoding
