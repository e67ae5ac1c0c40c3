import GridRobot.Encoding.MultiByte
import GridRobot.Encoding.Chart.KsX1001

/-! # Korean encodings

KS X 1001 has the letters and some of the syllables of Hangul. The other syllables are written
letter by letter, or have codes of their own, or all syllables have codes that are made of the
numbers of their letters. A syllable has an initial consonant, a vowel and perhaps a final
consonant. -/

namespace GridRobot.Encoding

namespace Hangul

/-- The consonants, in the order in which KS X 1001 has them. -/
def consonants : List Char :=
  "ㄱㄲㄳㄴㄵㄶㄷㄸㄹㄺㄻㄼㄽㄾㄿㅀㅁㅂㅃㅄㅅㅆㅇㅈㅉㅊㅋㅌㅍㅎ".toList

/-- The consonants that a syllable can begin with. -/
def initials : List Char :=
  "ㄱㄲㄴㄷㄸㄹㅁㅂㅃㅅㅆㅇㅈㅉㅊㅋㅌㅍㅎ".toList

/-- The consonants that a syllable can end with. -/
def finals : List Char :=
  consonants.filter (· ∉ "ㄸㅃㅉ".toList)

def vowels : List Char :=
  (List.range 21).map fun n => Char.ofNat (0x314F + n)

/-- The syllable of an initial, a vowel and a final, the last counted from 1 on. -/
def syllable (initial vowel final : Nat) : Char :=
  Char.ofNat (0xAC00 + initial * 588 + vowel * 28 + final)

/-- The numbers of the letters of a syllable. -/
def letters? (c : Char) : Option (Nat × Nat × Nat) :=
  if 0xAC00 ≤ c.toNat ∧ c.toNat ≤ 0xD7A3 then
    let n := c.toNat - 0xAC00
    some (n / 588, n / 28 % 21, n % 28)
  else none

/-- The number of an element from 0 on. -/
def index? (cs : List Char) (c : Char) : Option Nat :=
  cs.findIdx? (· == c)

end Hangul

namespace Chart

def ksX1001High : Chart :=
  ksX1001.recode (fun n => if 0x8080 ≤ n then some (n - 0x8080) else none) (0x8080 + ·)

/-- The syllables that KS X 1001 lacks. -/
def furtherSyllables : Array Char :=
  remaining 0xAC00 0xD7A3 ksX1001Spans

/-- The number of a trail byte: letters of ASCII, and bytes from 81 on. -/
def syllableTrail? (trail : Nat) : Option Nat :=
  if 0x41 ≤ trail ∧ trail ≤ 0x5A then some (trail - 0x41)
  else if 0x61 ≤ trail ∧ trail ≤ 0x7A then some (trail - 0x47)
  else if 0x81 ≤ trail ∧ trail ≤ 0xFE then some (trail - 0x4D) else none

/-- The number of a code among those of further syllables. Lead bytes up to A0 have 178 trail bytes,
the others have the first 84 of them. -/
def syllableIndex? (code : Nat) : Option Nat :=
  let lead := code / 256
  (syllableTrail? (code % 256)).bind fun t =>
    if 0x81 ≤ lead ∧ lead ≤ 0xA0 then some ((lead - 0x81) * 178 + t)
    else if 0xA1 ≤ lead ∧ lead ≤ 0xC6 ∧ t < 84 then some (5696 + (lead - 0xA1) * 84 + t)
    else none

def syllableCode (index : Nat) : Nat :=
  let trail (t : Nat) := if t < 26 then t + 0x41 else if t < 52 then t + 0x47 else t + 0x4D
  if index < 5696 then 256 * (0x81 + index / 178) + trail (index % 178)
  else 256 * (0xA1 + (index - 5696) / 84) + trail ((index - 5696) % 84)

end Chart

namespace MultiByte

open Hangul

/-- The byte that goes before each letter of a syllable, and the one that stands for no letter. -/
def letterMark : Nat := 0xA4

def letterFiller : Nat := 0xD4

/-- A syllable of eight bytes: a filler, an initial, a vowel and a final. -/
def readLetters : Bytes → Step
  | _ :: _ :: m1 :: i :: m2 :: v :: m3 :: f :: _ =>
    let letter? (cs : List Char) (b : UInt8) : Option Nat :=
      (Chart.ksX1001High.char? (256 * letterMark + b.toNat)).bind (index? cs)
    let final? := if f.toNat = letterFiller then some 0 else (letter? finals f).map (· + 1)
    if m1.toNat ≠ letterMark ∨ m2.toNat ≠ letterMark ∨ m3.toNat ≠ letterMark then .invalid 1 illegal
    else
      match letter? initials i, letter? vowels v, final? with
      | some initial, some vowel, some final => .char (syllable initial vowel final) 8
      | _, _, _ => .invalid 1 illegal
  | _ => incomplete

def readEucKr (bs : Bytes) : Step :=
  match bs with
  | a :: b :: _ =>
    if a.toNat = letterMark ∧ b.toNat = letterFiller then readLetters bs
    else readDouble asciiByte? (charStep Chart.ksX1001High.char?) bs
  | _ => readDouble asciiByte? (charStep fun _ => none) bs

/-- The bytes of a letter. -/
def letterBytes (cs : List Char) (index : Nat) : Bytes :=
  match cs[index]?.bind Chart.ksX1001High.code? with
  | some code => bytesOfCode code
  | none => bytesOfCode (256 * letterMark + letterFiller)

def writeEucKr : Text → Written
  | [] => .unwritable
  | c :: _ =>
    match (asciiCode? c).or (Chart.ksX1001High.code? c), letters? c with
    | some code, _ => .bytes (bytesOfCode code) 1
    | none, some (initial, vowel, final) =>
      .bytes (bytesOfCode (256 * letterMark + letterFiller) ++ letterBytes initials initial ++
        letterBytes vowels vowel ++
        (if final = 0 then bytesOfCode (256 * letterMark + letterFiller)
          else letterBytes finals (final - 1))) 1
    | none, none => .unwritable

def eucKr : MultiByte :=
  ofFixed "euc_kr" readEucKr writeEucKr

def windows949 : MultiByte :=
  ofChart "cp949" (Chart.ksX1001High.orElse
    ((Chart.ofChars 0 Chart.furtherSyllables).recode Chart.syllableIndex? Chart.syllableCode))

/-! ### Codes made of letters -/

/-- A letter of a code that is made of letters may be left out. -/
inductive Letter where
  | filler
  | number (n : Nat)
  deriving DecidableEq, Repr

/-- The initials have the codes from 2 on. -/
def initial? (code : Nat) : Option Letter :=
  if code = 1 then some .filler
  else if 2 ≤ code ∧ code ≤ 20 then some (.number (code - 2))
  else none

/-- The vowels have codes in groups of six, of which the first two are not used. -/
def vowel? (code : Nat) : Option Letter :=
  if code = 2 then some .filler
  else if 3 ≤ code ∧ code ≤ 29 ∧ 2 ≤ code % 8 then some (.number (code / 8 * 6 + code % 8 - 3))
  else none

/-- The finals have the codes from 2 on, without 18. -/
def final? (code : Nat) : Option Letter :=
  if code = 1 then some .filler
  else if 2 ≤ code ∧ code ≤ 17 then some (.number (code - 2))
  else if 19 ≤ code ∧ code ≤ 29 then some (.number (code - 3))
  else none

/-- The character of the letters of a code: a syllable, a single letter, or a space. -/
def ofLetters? : Letter → Letter → Letter → Option Char
  | .number i, .number v, .number f => some (syllable i v (f + 1))
  | .number i, .number v, .filler => some (syllable i v 0)
  | .number i, .filler, .filler => initials[i]?
  | .filler, .number v, .filler => vowels[v]?
  | .filler, .filler, .number f => finals[f]?
  | .filler, .filler, .filler => some '\u3000'
  | _, _, _ => none

def letterChar? (code : Nat) : Option Char :=
  match initial? (code / 1024 % 32), vowel? (code / 32 % 32), final? (code % 32) with
  | some i, some v, some f => ofLetters? i v f
  | _, _, _ => none

def letterCode (initial vowel final : Nat) : Nat :=
  0x8000 + initial * 1024 + vowel * 32 + final

def vowelCode (n : Nat) : Nat :=
  (n + 1) / 6 * 8 + (n + 1) % 6 + 2

def finalCode (n : Nat) : Nat :=
  if n < 16 then n + 2 else n + 3

/-- The code of a syllable or a single letter. A consonant is written as an initial, if it can be
one. -/
def letterCode? (c : Char) : Option Nat :=
  match letters? c, index? initials c, index? vowels c, index? finals c with
  | some (i, v, f), _, _, _ =>
    some (letterCode (i + 2) (vowelCode v) (if f = 0 then 1 else finalCode (f - 1)))
  | none, some i, _, _ => some (letterCode (i + 2) 2 1)
  | none, none, some v, _ => some (letterCode 1 (vowelCode v) 1)
  | none, none, none, some f => some (letterCode 1 2 (finalCode f))
  | none, none, none, none => none

/-- The rows of KS X 1001 without letters and syllables, two for each lead byte. -/
def foldedRow? (code : Nat) : Option Nat :=
  let lead := code / 256
  let trail := code % 256
  if lead < 0xD9 ∨ lead = 0xDF ∨ 0xF9 < lead ∨ trail < 0x31 ∨ 0x80 ≤ trail ∧ trail < 0x91 ∨
      trail % 0x80 = 0x7F ∨ lead = 0xDA ∧ 0xA1 ≤ trail ∧ trail ≤ 0xD3 then none
  else
    let half := if lead < 0xE0 then 2 * (lead - 0xD9) else 2 * lead - 0x197
    let cell := if trail < 0x91 then trail - 0x31 else trail - 0x43
    some (256 * (half + cell / 94 + 0x21) + (cell % 94 + 0x21))

def foldedRowCode (code : Nat) : Nat :=
  let row := code / 256
  let half := if row < 0x4A then row - 0x21 + 0x1B2 else row - 0x21 + 0x197
  let cell := half % 2 * 94 + (code % 256 - 0x21)
  256 * (half / 2) + (if cell < 0x4E then cell + 0x31 else cell + 0x43)

/-- The symbols and ideographs of KS X 1001. -/
def johabSymbols : Chart where
  char? code := (foldedRow? code).bind Chart.ksX1001.char?
  code? c :=
    (Chart.ksX1001.code? c).bind fun code =>
      let row := code / 256
      if row ≤ 0x2C ∨ 0x4A ≤ row then some (foldedRowCode code) else none

def johabChar? (code : Nat) : Option Char :=
  if code < 0xD800 then letterChar? code else johabSymbols.char? code

def johab : MultiByte :=
  ofFixed "johab" (readDouble asciiByte? (charStep johabChar?))
    (writeSingle fun c => (asciiCode? c).or ((letterCode? c).or (johabSymbols.code? c)))

end MultiByte

end GridRobot.Encoding
