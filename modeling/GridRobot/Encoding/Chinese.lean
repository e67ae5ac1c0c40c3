import GridRobot.Encoding.MultiByte
import GridRobot.Encoding.Chart.Gb2312
import GridRobot.Encoding.Chart.Gbk
import GridRobot.Encoding.Chart.Gb18030

/-! # Encodings of simplified Chinese

GB 2312 has rows of cells, each a byte with its high bit set. GBK adds symbols, and the ideographs
that GB 2312 lacks, in order, in the places that are left. GB 18030 adds codes of four bytes, which
reach every character. -/

namespace GridRobot.Encoding

namespace Chart

/-- Rows and cells with their high bits set. -/
def gb2312High : Chart :=
  gb2312.recode (fun n => if 0x8080 ≤ n then some (n - 0x8080) else none) (0x8080 + ·)

/-- The ideographs that GB 2312 lacks, and after them some compatibility ideographs. -/
def gbkIdeographs : Array Char :=
  remaining 0x4E00 0x9FA5 gb2312Spans ++
    #['\uF92C', '\uF979', '\uF995', '\uF9E7', '\uF9F1', '\uFA0C', '\uFA0D',
      '\uFA0E', '\uFA0F', '\uFA11', '\uFA13', '\uFA14', '\uFA18', '\uFA1F',
      '\uFA20', '\uFA21', '\uFA23', '\uFA24', '\uFA27', '\uFA28', '\uFA29']

/-- The number of a trail byte from 40 to FE, of which 7F is none. -/
def gbkTrail? (trail : Nat) : Option Nat :=
  if trail < 0x40 ∨ trail = 0x7F ∨ 0xFF ≤ trail then none
  else some (if trail < 0x7F then trail - 0x40 else trail - 0x41)

/-- The number of a code among those of further ideographs. Lead bytes up to A0 have 190 trail
bytes, those from AA on have the first 96 of them. -/
def gbkIndex? (code : Nat) : Option Nat :=
  let lead := code / 256
  (gbkTrail? (code % 256)).bind fun t =>
    if 0x81 ≤ lead ∧ lead ≤ 0xA0 then some ((lead - 0x81) * 190 + t)
    else if 0xAA ≤ lead ∧ lead ≤ 0xFE ∧ t < 96 then some (6080 + (lead - 0xAA) * 96 + t)
    else none

def gbkCode (index : Nat) : Nat :=
  let trail (t : Nat) := if t < 63 then t + 0x40 else t + 0x41
  if index < 6080 then 256 * (0x81 + index / 190) + trail (index % 190)
  else 256 * (0xAA + (index - 6080) / 96) + trail ((index - 6080) % 96)

def gbk : Chart :=
  join [gbkSymbols, gb2312High.without [0xA1A4, 0xA1AA],
    (ofChars 0 gbkIdeographs).recode gbkIndex? gbkCode]

/-- The codes of two bytes of GB 18030. -/
def gb18030Double : Chart :=
  join [gbk, gb18030Extras, gb18030Private]

/-- Four bytes count in tens and in 126s: the second and the fourth are digits. -/
def fourByteNumber? (a b c d : Nat) : Option Nat :=
  if 0x81 ≤ a ∧ a ≤ 0xFE ∧ 0x81 ≤ c ∧ c ≤ 0xFE ∧ 0x30 ≤ d ∧ d ≤ 0x39 then
    some ((((a - 0x81) * 10 + (b - 0x30)) * 126 + (c - 0x81)) * 10 + (d - 0x30))
  else none

def fourByteCode (n : Nat) : Nat :=
  256 * (256 * (256 * (0x81 + n / 12600) + (0x30 + n / 1260 % 10)) + (0x81 + n / 10 % 126)) +
    (0x30 + n % 10)

/-- The characters with codes of four bytes, by their numbers. Those from 10000 on begin with the
lead byte 90. -/
def gb18030Quadruple : Chart :=
  gb18030Four.orElse (ofBlock 189000 0x10000 0x100000)

end Chart

namespace MultiByte

/-- GB 2312 with high bits. -/
def gb2312 : MultiByte :=
  ofChart "gb2312" .gb2312High

def gbk : MultiByte :=
  ofChart "gbk" .gbk

/-- A second byte that is a digit makes a code of four bytes. -/
def readGb18030 : Bytes → Step
  | a :: b :: rest =>
    if a.toNat < 0x80 then .char (Char.ofNat a.toNat) 1
    else if 0x30 ≤ b.toNat ∧ b.toNat ≤ 0x39 then
      match rest with
      | c :: d :: _ =>
        match (Chart.fourByteNumber? a.toNat b.toNat c.toNat d.toNat).bind
            Chart.gb18030Quadruple.char? with
        | some t => .char t 4
        | none => .invalid 1 illegal
      | _ => incomplete
    else
      match Chart.gb18030Double.char? (256 * a.toNat + b.toNat) with
      | some t => .char t 2
      | none => .invalid 1 illegal
  | [a] => if a.toNat < 0x80 then .char (Char.ofNat a.toNat) 1 else incomplete
  | [] => incomplete

def gb18030 : MultiByte :=
  ofFixed "gb18030" readGb18030
    (writeSingle fun c => (asciiCode? c).or ((Chart.gb18030Double.code? c).or
      ((Chart.gb18030Quadruple.code? c).map Chart.fourByteCode)))

/-- In a text of seven bits, a tilde and a brace set bytes to GB 2312 and back to ASCII. A tilde
stands for itself twice, and before a line feed it takes the line feed away. -/
def readTilde (s : Shift) : Bytes → Step × Shift
  | [] => (incomplete, s)
  | a :: rest =>
    if a.toNat = 0x7E then
      match rest with
      | [] => (incomplete, s)
      | b :: _ =>
        match b.toNat, s.isShifted with
        | 0x7E, false => (.char '~' 2, s)
        | 0x7B, false => (.text [] 2, { s with isShifted := true })
        | 0x0A, false => (.text [] 2, s)
        | 0x7D, true => (.text [] 2, { s with isShifted := false })
        | _, _ => (.invalid 1 illegal, s)
    else if 0x80 ≤ a.toNat then (.invalid 1 illegal, s)
    else if !s.isShifted then (.char (Char.ofNat a.toNat) 1, s)
    else
      match rest with
      | [] => (incomplete, s)
      | b :: _ =>
        match Chart.gb2312.char? (256 * a.toNat + b.toNat) with
        | some t => (.char t 2, s)
        | none => (.invalid 1 illegal, s)

def writeTilde (s : Shift) : Text → Written × Shift
  | [] => (.unwritable, s)
  | c :: _ =>
    match asciiCode? c, Chart.gb2312.code? c with
    | some n, _ =>
      let ascii := bytesOfCode n
      let own := if c = '~' then ascii ++ ascii else ascii
      (.bytes (if s.isShifted then [0x7E, 0x7D] ++ own else own) 1, { s with isShifted := false })
    | none, some code =>
      let own := bytesOfCode code
      (.bytes (if s.isShifted then own else [0x7E, 0x7B] ++ own) 1, { s with isShifted := true })
    | none, none => (.unwritable, s)

def hz : MultiByte :=
  ⟨"hz", readTilde, writeTilde⟩

end MultiByte

end GridRobot.Encoding
