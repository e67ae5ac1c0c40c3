import GridRobot.Encoding.Fault

/-! # Escaped text

Bytes stand for the first 256 characters, and a backslash begins an escape, which can stand for any
character. In one scheme every character that is hard to see is escaped, and in the other only those
which have no byte. -/

namespace GridRobot.Encoding.Escape

def hexValue? (b : UInt8) : Option Nat :=
  let n := b.toNat
  if 0x30 ≤ n ∧ n ≤ 0x39 then some (n - 0x30)
  else if 0x41 ≤ n ∧ n ≤ 0x46 then some (n - 0x37)
  else if 0x61 ≤ n ∧ n ≤ 0x66 then some (n - 0x57)
  else none

/-- Two bytes that begin an escape, and after them so many hexadecimal digits. -/
def stepDigits (count : Nat) (truncated tooLarge : Text) (bs : Bytes) : Step :=
  let ds := ((bs.drop 2).take count).takeWhile fun b => (hexValue? b).isSome
  if ds.length = count then
    let n := (ds.filterMap hexValue?).foldl (fun n d => 16 * n + d) 0
    if 0x110000 ≤ n then .invalid (count + 2) tooLarge else .char (charOfNat n) (count + 2)
  else if bs.length = ds.length + 2 then .incomplete false truncated
  else .invalid (ds.length + 2) truncated

def isOctal (b : UInt8) : Bool :=
  0x30 ≤ b.toNat && b.toNat ≤ 0x37

/-- A backslash and one to three octal digits. -/
def stepOctal (bs : Bytes) : Step :=
  let ds := ((bs.drop 1).take 3).takeWhile isOctal
  .char (Char.ofNat (ds.foldl (fun n d => 8 * n + (d.toNat - 0x30)) 0)) (ds.length + 1)

/-- A character by its name. No names are known. -/
def stepName (bs : Bytes) : Step :=
  let malformed : Text := "malformed \\N character escape".toList
  match bs.drop 2 with
  | [] => .incomplete false malformed
  | b :: rest =>
    if b.toNat ≠ 0x7B then .invalid 2 malformed
    else
      let name := rest.takeWhile (·.toNat ≠ 0x7D)
      if name.length = rest.length then .incomplete false malformed
      else if name.isEmpty then .invalid 3 malformed
      else .invalid (name.length + 4) "unknown Unicode character name".toList

/-- The characters that a backslash and one more character stand for. -/
def simple : List (Char × Text) :=
  [('\n', []), ('\\', ['\\']), ('\x27', ['\x27']), ('\x22', ['\x22']), ('b', ['\x08']),
    ('f', ['\x0c']), ('t', ['\t']), ('n', ['\n']), ('r', ['\r']), ('v', ['\x0b']), ('a', ['\x07'])]

def stepFull : Bytes → Step
  | [] => endOfData
  | a :: rest =>
    if a.toNat ≠ 0x5C then .char (Char.ofNat a.toNat) 1
    else
      match rest with
      | [] => .incomplete false "\\ at end of string".toList
      | b :: _ =>
        let bs := a :: rest
        let large : Text := "illegal Unicode character".toList
        let c := Char.ofNat b.toNat
        match simple.lookup c, c with
        | some t, _ => .text t 2
        | none, 'x' => stepDigits 2 "truncated \\xXX escape".toList large bs
        | none, 'u' => stepDigits 4 "truncated \\uXXXX escape".toList large bs
        | none, 'U' => stepDigits 8 "truncated \\UXXXXXXXX escape".toList large bs
        | none, 'N' => stepName bs
        | none, _ => if isOctal b then stepOctal bs else .text ['\\', c] 2

/-- What stands at the front of some bytes, of which `isLast` tells that nothing follows them. -/
def stepRaw (isLast : Bool) : Bytes → Step
  | [] => endOfData
  | a :: rest =>
    if a.toNat ≠ 0x5C then .char (Char.ofNat a.toNat) 1
    else
      match rest with
      | [] => if isLast then .char '\\' 1 else endOfData
      | b :: _ =>
        let bs := a :: rest
        let large : Text := "\\Uxxxxxxxx out of range".toList
        match Char.ofNat b.toNat with
        | 'u' => stepDigits 4 "truncated \\uXXXX escape".toList large bs
        | 'U' => stepDigits 8 "truncated \\UXXXXXXXX escape".toList large bs
        | c => .text ['\\', c] 2

/-- The escape of a character by its number. -/
def numbered (c : Char) : Text :=
  escaped (.char c)

def writeFull (c : Char) : Text :=
  if c = '\\' then ['\\', '\\']
  else if c = '\t' then ['\\', 't']
  else if c = '\n' then ['\\', 'n']
  else if c = '\r' then ['\\', 'r']
  else if 0x20 ≤ c.toNat ∧ c.toNat < 0x7F then [c]
  else numbered c

def writeRaw (c : Char) : Text :=
  if c.toNat < 0x100 then [c] else numbered c

/-- The bytes of characters that have one each. -/
def bytes (t : Text) : Bytes :=
  t.map (·.toNat.toUInt8)

def encodeFull (t : Text) : Bytes :=
  bytes (t.flatMap writeFull)

def encodeRaw (t : Text) : Bytes :=
  bytes (t.flatMap writeRaw)

end GridRobot.Encoding.Escape
