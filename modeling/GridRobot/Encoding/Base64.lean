import GridRobot.Text.Basic

/-! # Bytes in base 64

Four characters stand for three bytes. Characters outside of the alphabet are passed over, and the
text ends with its padding. -/

namespace GridRobot.Encoding.Base64

/-- What a character of the alphabet counts. -/
def value? (c : Char) : Option Nat :=
  if 'A' ≤ c ∧ c ≤ 'Z' then some (c.toNat - 'A'.toNat)
  else if 'a' ≤ c ∧ c ≤ 'z' then some (c.toNat - 'a'.toNat + 26)
  else if '0' ≤ c ∧ c ≤ '9' then some (c.toNat - '0'.toNat + 52)
  else if c = '+' then some 62
  else if c = '/' then some 63
  else none

def alphabet : List Char :=
  "ABCDEFGHIJKLMNOPQRSTUVWXYZabcdefghijklmnopqrstuvwxyz0123456789+/".toList

/-- The bytes of a text, after `group` values of four, of which the bits in `bits` are left over.
Padding of `pads` characters came last. The text must not end within a group without padding. -/
def decodeFrom (group bits pads : Nat) : Text → Option (List UInt8)
  | [] => if group = 0 then some [] else none
  | c :: t =>
    if c = '=' then
      if 2 ≤ group then
        if 4 ≤ group + (pads + 1) then some [] else decodeFrom group bits (pads + 1) t
      else decodeFrom group bits pads t
    else
      match value? c with
      | none => decodeFrom group bits pads t
      | some v =>
        let byte (n : Nat) : UInt8 := UInt8.ofNat n
        match group with
        | 0 => decodeFrom 1 v 0 t
        | 1 => (decodeFrom 2 (v % 16) 0 t).map (byte (4 * bits + v / 16) :: ·)
        | 2 => (decodeFrom 3 (v % 4) 0 t).map (byte (16 * bits + v / 4) :: ·)
        | _ => (decodeFrom 0 0 0 t).map (byte (64 * bits + v) :: ·)

def decode? (t : Text) : Option (List UInt8) :=
  decodeFrom 0 0 0 t

end GridRobot.Encoding.Base64
