import GridRobot.Value

/-! # The order of sets

A set of numbers shows its members in the order of their places in a table. A member goes to the
place that its residue gives, or to the first free place of a sequence that begins there. The table
has a power of two of places, and is large enough to stay half empty. -/

namespace GridRobot.Value

/-- Numbers are taken modulo this prime. -/
def residueModulus : Nat := Nat.pow 2 61 - 1

/-- The residue of a magnitude, with the sign of the number. No residue is minus one. -/
def signedResidue (isNegative : Bool) (r : Nat) : Int :=
  if !isNegative then r else if r = 1 then -2 else -(r : Int)

/-- The residue of a number. Equal numbers have equal residues. Dividing by two is multiplying by a
power of two, because the 61st power is one. -/
def residue? : Value → Option Int
  | bool b => some (if b then 1 else 0)
  | int n => some (signedResidue (n < 0) (n.natAbs % residueModulus))
  | float x =>
    if x.isNaN then none
    else if x.isInf then some (if x < 0 then -314159 else 314159)
    else
      let b := Decimal.Binary.ofBits x.toBits
      let scale := Nat.pow 2 (b.exponent.emod 61).toNat
      some (signedResidue (x < 0) (b.mantissa * scale % residueModulus))
  | _ => none

/-- The size of the table for so many members. -/
def tableSize (count : Nat) : Nat :=
  if count < 5 then 8 else Nat.pow 2 ((2 * count).log2 + 1)

/-- The first free place from `place` on. Nine places behind a place come next if the table has
them, and after them a place that the digits of the residue in base 32 lead to. -/
def freePlace (isFree : Nat → Bool) (size : Nat) : Nat → Nat → Nat → Nat
  | 0, place, _ => place
  | fuel + 1, place, digits =>
    let run := if place + 9 < size then 10 else 1
    match (List.range run).find? fun k => isFree (place + k) with
    | some k => place + k
    | none =>
      let digits := digits / 32
      freePlace isFree size fuel ((place * 5 + 1 + digits) % size) digits

/-- Puts a member into a table. -/
def putIn (table : Array (Option Value)) (member : Value × Int) : Array (Option Value) :=
  let size := table.size
  let digits := (member.2.emod (Nat.pow 2 64 : Nat)).toNat
  let isFree (i : Nat) : Bool := (table.getD i none).isNone
  table.setIfInBounds (freePlace isFree size (size + 16) (digits % size) digits) (some member.1)

/-- The members of a set in the order in which they are shown. Other members than numbers stay in
the order in which they came. -/
def setOrder (members : List Value) : List Value :=
  match members.mapM fun v => (residue? v).map fun r => (v, r) with
  | some numbered =>
    (numbered.foldl putIn (Array.replicate (tableSize members.length) none)).toList.filterMap id
  | none => members

end GridRobot.Value
