import GridRobot.Encoding.SingleByte

/-! # Reading one character

What the bytes at one place stand for, scheme by scheme: a text and its width, a fault and its
width, or the start of a character whose end has not come yet. -/

namespace GridRobot.Encoding

abbrev Bytes := List UInt8

/-- What stands at the front of some bytes. If nothing follows what is incomplete, it is a fault,
which covers all the bytes that are left or the first of them alone. -/
inductive Step where
  | text (t : Text) (width : Nat)
  | invalid (width : Nat) (reason : Text)
  | incomplete (firstAlone : Bool) (reason : Text)
  deriving DecidableEq, Repr

/-- The character of a code point. Half of a surrogate pair is read as the replacement character. -/
def charOfNat (n : Nat) : Char :=
  if 0xD800 ≤ n ∧ n < 0xE000 then '\uFFFD' else Char.ofNat n

/-- A single character stands at the front. -/
def Step.char (c : Char) (width : Nat) : Step :=
  .text [c] width

/-! ### One byte to a character -/

def stepAscii : Bytes → Step
  | b :: _ =>
    if b.toNat < 128 then .char (Char.ofNat b.toNat) 1
    else .invalid 1 "ordinal not in range(128)".toList
  | [] => .incomplete false []

def stepLatin1 : Bytes → Step
  | b :: _ => .char (Char.ofNat b.toNat) 1
  | [] => .incomplete false []

def stepSingleByte (table : SingleByte) : Bytes → Step
  | b :: _ =>
    match table.char? b with
    | some c => .char c 1
    | none => .invalid 1 "character maps to <undefined>".toList
  | [] => .incomplete false []

/-! ### One to four bytes to a character -/

def isContinuation (b : UInt8) : Bool :=
  0x80 ≤ b.toNat && b.toNat < 0xC0

/-- The second byte fits the first one: the character is not written too long, is no surrogate
and is not beyond the last code point. -/
def fitsLead (lead second : UInt8) : Bool :=
  isContinuation second &&
    match lead.toNat with
    | 0xE0 => 0xA0 ≤ second.toNat
    | 0xED => second.toNat < 0xA0
    | 0xF0 => 0x90 ≤ second.toNat
    | 0xF4 => second.toNat < 0x90
    | _ => true

def invalidContinuation (width : Nat) : Step :=
  .invalid width "invalid continuation byte".toList

def endOfData : Step :=
  .incomplete false "unexpected end of data".toList

/-- The two bytes begin a surrogate, of which the third one may still come. -/
def beginsSurrogate (lead second : UInt8) (rest : Bytes) : Bool :=
  lead = 0xED && isContinuation second && rest.isEmpty

/-- A fault lies at the first byte that cannot belong to the character that the bytes before it
have begun, and covers those. The start of a surrogate at the end of the bytes is a fault only once
it is known that nothing follows. -/
def stepUtf8 : Bytes → Step
  | [] => endOfData
  | a :: rest =>
    let n := a.toNat
    if n < 0x80 then .char (Char.ofNat n) 1
    else if n < 0xC2 ∨ 0xF4 < n then .invalid 1 "invalid start byte".toList
    else
      match rest with
      | [] => endOfData
      | b :: rest =>
        if !fitsLead a b then
          if beginsSurrogate a b rest then .incomplete true "invalid continuation byte".toList
          else invalidContinuation 1
        else if n < 0xE0 then .char (Char.ofNat ((n - 0xC0) * 64 + (b.toNat - 0x80))) 2
        else
          match rest with
          | [] => endOfData
          | c :: rest =>
            if !isContinuation c then invalidContinuation 2
            else if n < 0xF0 then
              .char (Char.ofNat
                (((n - 0xE0) * 64 + (b.toNat - 0x80)) * 64 + (c.toNat - 0x80))) 3
            else
              match rest with
              | [] => endOfData
              | d :: _ =>
                if !isContinuation d then invalidContinuation 3
                else .char (Char.ofNat ((((n - 0xF0) * 64 + (b.toNat - 0x80)) * 64 +
                  (c.toNat - 0x80)) * 64 + (d.toNat - 0x80))) 4

/-! ### Words of two or four bytes -/

inductive ByteOrder where
  | little
  | big
  deriving DecidableEq, Repr

/-- The number of some bytes, the most significant one first. -/
def ofBig (bs : Bytes) : Nat :=
  bs.foldl (fun n b => 256 * n + b.toNat) 0

def ByteOrder.value (order : ByteOrder) (bs : Bytes) : Nat :=
  match order with
  | .little => ofBig bs.reverse
  | .big => ofBig bs

def stepUtf16 (order : ByteOrder) (bs : Bytes) : Step :=
  if bs.length < 2 then .incomplete false "truncated data".toList
  else
    let unit := order.value (bs.take 2)
    if unit < 0xD800 ∨ 0xE000 ≤ unit then .char (Char.ofNat unit) 2
    else if 0xDC00 ≤ unit then .invalid 2 "illegal encoding".toList
    else if bs.length < 4 then endOfData
    else
      let low := order.value ((bs.drop 2).take 2)
      if 0xDC00 ≤ low ∧ low < 0xE000 then
        .char (Char.ofNat (0x10000 + (unit - 0xD800) * 0x400 + (low - 0xDC00))) 4
      else .invalid 2 "illegal UTF-16 surrogate".toList

def stepUtf32 (order : ByteOrder) (bs : Bytes) : Step :=
  if bs.length < 4 then .incomplete false "truncated data".toList
  else
    let n := order.value (bs.take 4)
    if 0xD800 ≤ n ∧ n < 0xE000 then
      .invalid 4 "code point in surrogate code point range(0xd800, 0xe000)".toList
    else if 0x110000 ≤ n then .invalid 4 "code point not in range(0x110000)".toList
    else .char (Char.ofNat n) 4

end GridRobot.Encoding
