import GridRobot.Encoding.MultiByte
import GridRobot.Encoding.Chart.JisX0208
import GridRobot.Encoding.Chart.JisX0212
import GridRobot.Encoding.Chart.JisX0213
import GridRobot.Encoding.Chart.Windows932

/-! # Japanese encodings

The sets of the Japanese standards have rows of cells, each a byte from 21 to 7E. One family of
encodings sets the high bits of both bytes. The other puts two rows under one lead byte, around the
bytes of the half-width kana. -/

namespace GridRobot.Encoding

namespace Chart

/-- Half-width kana, in single bytes. -/
def kana : Chart :=
  ofBlock 0xA1 0xFF61 63

/-- The yen sign and the overline are written like the characters whose places they take. -/
def romanSymbols : Chart :=
  ofSpans [(0x5C, "¥"), (0x7E, "‾")]

/-- Rows and cells with their high bits set, after the bytes of `lead`. -/
def highBits (chart : Chart) (lead : Nat) : Chart :=
  chart.recode (fun n => if lead + 0x8080 ≤ n then some (n - (lead + 0x8080)) else none)
    (lead + 0x8080 + ·)

/-- The row and the cell, from 0 on, of two bytes of which the first stands for two rows. -/
def foldedPlace? (code : Nat) : Option (Nat × Nat) :=
  let lead := code / 256
  let trail := code % 256
  let half? := if lead < 0x81 ∨ 0xFC < lead then none
    else if lead < 0xA0 then some (2 * (lead - 0x81))
    else if 0xE0 ≤ lead then some (2 * (lead - 0xC1)) else none
  let cell? := if trail < 0x40 ∨ 0xFC < trail then none
    else if trail < 0x7F then some (trail - 0x40)
    else if 0x80 ≤ trail then some (trail - 0x41) else none
  match half?, cell? with
  | some half, some cell => some (half + cell / 94, cell % 94)
  | _, _ => none

/-- The two bytes of a row and a cell. -/
def foldedCode (row cell : Nat) : Nat :=
  let half := row / 2
  let cell := row % 2 * 94 + cell
  256 * (if half < 31 then half + 0x81 else half + 0xC1) +
    (if cell < 63 then cell + 0x40 else cell + 0x41)

/-- The two bytes of a row and a cell that are bytes from 21 on. -/
def foldedOf (code : Nat) : Nat :=
  foldedCode (code / 256 - 0x21) (code % 256 - 0x21)

/-- Two rows for each lead byte. -/
def folded (chart : Chart) : Chart :=
  chart.recode
    (fun n => (foldedPlace? n).map fun (row, cell) => 256 * (row + 0x21) + (cell + 0x21))
    foldedOf

/-- The rows of the second plane, in the order in which they follow the first plane. -/
def secondPlaneRows : List Nat :=
  [0x21, 0x28, 0x23, 0x24, 0x25, 0x2C, 0x2D, 0x2E, 0x2F] ++ List.range' 0x6E 17

/-- The second plane with two rows for each lead byte, after the first plane. -/
def foldedSecond (chart : Chart) : Chart :=
  chart.recode
    (fun n => (foldedPlace? n).bind fun (row, cell) =>
      if row < 94 then none else (secondPlaneRows[row - 94]?).map (256 * · + (cell + 0x21)))
    (fun n => foldedCode (94 + secondPlaneRows.idxOf (n / 256)) (n % 256 - 0x21))

def foldedPair (p : Pair) : Pair :=
  { p with code := foldedOf p.code }

/-- The first plane of JIS X 0213. -/
def jisX0213 : Chart :=
  jisX0208.orElse jisX0213First

/-- The codes of the first plane that came with the edition of 2004. -/
def newerCodes : List Nat :=
  [0x2E21, 0x2F7E, 0x4F54, 0x4F7E, 0x7427, 0x7E7A, 0x7E7B, 0x7E7C, 0x7E7D, 0x7E7E]

/-- The first plane of JIS X 0213 in the edition of 2000. -/
def jisX0213Older : Chart :=
  jisX0213.without newerCodes

/-- The second plane of JIS X 0213 in the edition of 2000, in which one cell has another
character. -/
def jisX0213SecondOlder : Chart :=
  (ofSpans [(0x7D3B, "鬝")]).orElse (jisX0213Second.without [0x7D3B])

end Chart

namespace MultiByte

open Chart (kana romanSymbols jisX0208 jisX0212)

/-- A lead byte of two rows. -/
def isFoldedLead (last n : Nat) : Bool :=
  0x81 ≤ n && n < 0xA0 || 0xE0 ≤ n && n ≤ last

/-- Two bytes after a lead byte up to `last`, and else what `single?` has. -/
def foldedByte? (last : Nat) (single? : Nat → Option Char) (n : Nat) : Option (Option Char) :=
  if isFoldedLead last n then none else some (single? n)

/-- The characters that `code?` finds first. -/
def firstCode? (finders : List (Char → Option Nat)) (c : Char) : Option Nat :=
  finders.findSome? (· c)

def shiftJis : MultiByte :=
  ofFixed "shift_jis"
    (readDouble (foldedByte? 0xEA fun n => (asciiByte? n).join.or (kana.char? n))
      (charStep jisX0208.folded.char?))
    (writeSingle (firstCode? [asciiCode?, kana.code?, jisX0208.folded.code?, romanSymbols.code?]))

/-- Two bytes for private use, ten lead bytes of 188 characters each. -/
def windows932Private : Chart where
  char? code :=
    match Chart.foldedPlace? code with
    | some (row, cell) =>
      if 94 ≤ row ∧ row < 114 then some (Char.ofNat (0xE000 + (row - 94) * 94 + cell)) else none
    | none => none
  code? c :=
    if 0xE000 ≤ c.toNat ∧ c.toNat < 0xE758 then
      some (Chart.foldedCode (94 + (c.toNat - 0xE000) / 94) ((c.toNat - 0xE000) % 94))
    else none

/-- Single bytes besides ASCII and kana. -/
def windows932Singles : Chart :=
  .ofBlocks [(0x80, 0x80, 1), (0xA0, 0xF8F0, 1), (0xFD, 0xF8F1, 3)]

def windows932Doubles : Chart :=
  .join [.windows932Replaced, jisX0208.folded, .windows932Extras, windows932Private,
    .windows932Repeated]

def windows932 : MultiByte :=
  ofFixed "cp932"
    (readDouble (foldedByte? 0xFC fun n =>
        (asciiByte? n).join.or ((kana.char? n).or (windows932Singles.char? n)))
      (charStep windows932Doubles.char?))
    (writeSingle (firstCode? [asciiCode?, kana.code?, windows932Singles.code?,
      windows932Doubles.code?]))

/-- Reads bytes with high bits: after 8E a half-width kana, after 8F two bytes that `triple?` has,
and else two bytes. -/
def readHighBits (double : Nat → Step) (triple? : Nat → Option Char) : Bytes → Step
  | [] => incomplete
  | a :: rest =>
    if a.toNat < 0x80 then .char (Char.ofNat a.toNat) 1
    else if a.toNat = 0x8F then
      match rest with
      | b :: c :: _ =>
        match triple? (0x8F0000 + 256 * b.toNat + c.toNat) with
        | some t => .char t 3
        | none => .invalid 1 illegal
      | _ => incomplete
    else
      match rest with
      | [] => incomplete
      | b :: _ =>
        if a.toNat = 0x8E then charStep kana.char? b.toNat else double (256 * a.toNat + b.toNat)

/-- Half-width kana after their mark. -/
def markedKana : Chart :=
  kana.recode (fun n => if 0x8E00 ≤ n then some (n - 0x8E00) else none) (0x8E00 + ·)

def eucJp : MultiByte :=
  ofFixed "euc_jp"
    (readHighBits (charStep (jisX0208.highBits 0).char?)
      (jisX0212.highBits 0x8F0000).char?)
    (writeSingle (firstCode? [asciiCode?, (jisX0208.highBits 0).code?,
      (jisX0212.highBits 0x8F0000).code?, markedKana.code?, romanSymbols.code?]))

/-- The first plane with its backslash and its tilde in full width. -/
def wideSymbols (first : Chart) : Chart :=
  (Chart.ofSpans [(0x2140, "＼"), (0x2232, "～")]).orElse (first.without [0x2140, 0x2232])

/-- The first plane with its backslash and its tilde in ASCII. -/
def narrowSymbols (first : Chart) : Chart :=
  (Chart.ofSpans [(0x2140, "\\"), (0x2232, "~")]).orElse (first.without [0x2140, 0x2232])

/-- A pair or a character. A code that the edition lacks is a fault as a whole. -/
def editionStep (lacks : List Nat) (text? : Nat → Option Text) (code : Nat) : Step :=
  if code ∈ lacks then .invalid 2 illegal else textStep text? code

def eucJis (name : String) (lacks : List Nat) (first second : Chart) : MultiByte :=
  let first := (wideSymbols first).highBits 0
  let third := (second.orElse jisX0212).highBits 0x8F0000
  let pairs := Chart.jisX0213Pairs.map fun p => { p with code := p.code + 0x8080 }
  let step := editionStep (lacks.map (· + 0x8080)) (pairedText? pairs first.char?)
  ofFixed name (readHighBits step third.char?)
    (writePaired pairs first.code?
      (firstCode? [asciiCode?, markedKana.code?, first.code?, third.code?]))

def eucJis2004 : MultiByte :=
  eucJis "euc_jis_2004" [] .jisX0213 .jisX0213Second

def eucJisX0213 : MultiByte :=
  eucJis "euc_jisx0213" Chart.newerCodes .jisX0213Older .jisX0213SecondOlder

/-- Single bytes in which the yen sign and the overline have their own places. -/
def romanChar? (n : Nat) : Option Char :=
  (romanSymbols.char? n).or (asciiByte? n).join

def romanCode? (c : Char) : Option Nat :=
  if c = '\\' ∨ c = '~' then none else (asciiCode? c).or (romanSymbols.code? c)

def shiftJis0213 (name : String) (lacks : List Nat) (first second : Chart) : MultiByte :=
  let doubles := (narrowSymbols first).folded.orElse second.foldedSecond
  let pairs := Chart.jisX0213Pairs.map Chart.foldedPair
  let step := editionStep (lacks.map Chart.foldedOf) (pairedText? pairs doubles.char?)
  ofFixed name (readDouble (foldedByte? 0xFC fun n => (romanChar? n).or (kana.char? n)) step)
    (writePaired pairs doubles.code? (firstCode? [romanCode?, kana.code?, doubles.code?]))

def shiftJis2004 : MultiByte :=
  shiftJis0213 "shift_jis_2004" [] .jisX0213 .jisX0213Second

def shiftJisX0213 : MultiByte :=
  shiftJis0213 "shift_jisx0213" Chart.newerCodes .jisX0213Older .jisX0213SecondOlder

end MultiByte

end GridRobot.Encoding
