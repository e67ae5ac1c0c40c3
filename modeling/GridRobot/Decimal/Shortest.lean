import GridRobot.Text.Basic

/-! # Shortest decimals

A binary fraction is shown by the fewest decimal digits that are read back as the same binary
fraction, and by the nearest such digits to it. All arithmetic is exact. -/

namespace GridRobot.Decimal

/-- The number `mantissa * 2 ^ exponent`, as a format of 53 binary digits holds it. Where it is
`narrow`, its lower neighbour is half as far away as its upper one. -/
structure Binary where
  mantissa : Nat
  exponent : Int
  narrow : Bool

/-- The magnitude of a finite number, from its 64 bits. -/
def Binary.ofBits (bits : UInt64) : Binary :=
  let field := ((bits >>> 52) &&& 0x7FF).toNat
  let fraction := (bits &&& 0xFFFFFFFFFFFFF).toNat
  if field = 0 then ⟨fraction, -1074, false⟩
  else ⟨0x10000000000000 + fraction, (field : Int) - 1075, fraction = 0 && 1 < field⟩

/-- A power of ten, which is one for exponents below zero. -/
def tens (exponent : Int) : Nat :=
  Nat.pow 10 exponent.toNat

/-- A power of two, which is one for exponents below zero. -/
def twos (exponent : Int) : Nat :=
  Nat.pow 2 exponent.toNat

/-- Compares `a * 10 ^ i` with `n * 2 ^ j`. -/
def compareScaled (a : Nat) (i : Int) (n : Nat) (j : Int) : Ordering :=
  compare (a * tens i * twos (-j)) (n * twos j * tens (-i))

namespace Binary

/-- The decimal `a * 10 ^ i` is read as this number: it lies nearer to it than to its neighbours,
or half way if the mantissa is even. -/
def readsBack (x : Binary) (a : Nat) (i : Int) : Bool :=
  let low := if x.narrow then 4 * x.mantissa - 1 else 4 * x.mantissa - 2
  let high := 4 * x.mantissa + 2
  let closed := x.mantissa % 2 == 0
  let atLow := compareScaled a i low (x.exponent - 2)
  let atHigh := compareScaled a i high (x.exponent - 2)
  (atLow == .gt || closed && atLow == .eq) && (atHigh == .lt || closed && atHigh == .eq)

/-- How often `10 ^ p` goes into the number. -/
def floorAt (x : Binary) (p : Int) : Nat :=
  (x.mantissa * twos x.exponent * tens (-p)) / (twos (-x.exponent) * tens p)

/-- The decimal exponent of the first digit. The logarithm of the mantissa gives it up to one. -/
def leading (x : Binary) : Int :=
  let guess := ((x.mantissa.log2 : Int) + x.exponent) * 30103 / 100000
  if compareScaled 1 (guess + 1) x.mantissa x.exponent ≠ .gt then guess + 1
  else if compareScaled 1 guess x.mantissa x.exponent = .gt then guess - 1
  else guess

/-- The digits on the grid of `10 ^ p` that are read back, the nearest if there are two. -/
def onGrid (x : Binary) (p : Int) : Option Nat :=
  let below := x.floorAt p
  match x.readsBack below p, x.readsBack (below + 1) p with
  | true, true =>
    match compareScaled (2 * below + 1) p (2 * x.mantissa) x.exponent with
    | .gt => some below
    | .lt => some (below + 1)
    | .eq => some (below + below % 2)
  | true, false => some below
  | false, true => some (below + 1)
  | false, false => none

/-- The shortest decimal, as digits and the exponent of the last one. Seventeen digits are always
enough; the exact decimal stands behind them. -/
def shortest (x : Binary) : Nat × Int :=
  let grids := (List.range 17).map fun (k : Nat) => x.leading - k
  match grids.findSome? fun p => (x.onGrid p).map (·, p) with
  | some d => d
  | none =>
    if x.exponent < 0 then (x.mantissa * Nat.pow 5 x.exponent.natAbs, x.exponent)
    else (x.mantissa * twos x.exponent, 0)

end Binary

/-- How decimals are laid out: which places of the point are written in full, and how many digits
an exponent has at least. -/
structure Layout where
  firstPlace : Int
  lastPlace : Int
  exponentDigits : Nat

/-- Writes the digits with the point after the first `place` of them. -/
def Layout.write (layout : Layout) (digits : Text) (place : Int) : Text :=
  if layout.firstPlace ≤ place ∧ place ≤ layout.lastPlace then
    if place ≤ 0 then '0' :: '.' :: List.replicate (-place).toNat '0' ++ digits
    else
      let whole := digits.take place.toNat
      let rest := digits.drop place.toNat
      whole ++ List.replicate (place.toNat - digits.length) '0' ++
        '.' :: (if rest.isEmpty then ['0'] else rest)
  else
    let e := (place - 1).natAbs
    let shown := Nat.toDigits 10 e
    digits.take 1 ++ (if digits.length < 2 then [] else '.' :: digits.drop 1) ++
      'e' :: (if place < 1 then '-' else '+') ::
      List.replicate (layout.exponentDigits - shown.length) '0' ++ shown

/-- Writes a number of 64 bits. -/
def Layout.float (layout : Layout) (x : Float) : Text :=
  let bits := x.toBits
  let sign : Text := if bits >>> 63 = 1 then ['-'] else []
  if x.isNaN then "nan".toList
  else if x.isInf then sign ++ "inf".toList
  else
    let b := Binary.ofBits bits
    if b.mantissa = 0 then sign ++ "0.0".toList
    else
      let (d, p) := b.shortest
      let all := Nat.toDigits 10 d
      let digits := (all.reverse.dropWhile (· = '0')).reverse
      sign ++ layout.write digits (all.length + p)

/-- The integer that a number of 64 bits is equal to. -/
def integer? (x : Float) : Option Int :=
  if x.isNaN || x.isInf then none
  else
    let b := Binary.ofBits x.toBits
    let scale := twos (-b.exponent)
    if b.mantissa % scale ≠ 0 then none
    else
      let n := b.mantissa * twos b.exponent / scale
      some (if x < 0 then -(n : Int) else n)

/-- The number of 64 bits that is nearest to `digits * 10 ^ exponent`. -/
def toFloat (digits : Nat) (exponent : Int) : Float :=
  let length := (Nat.toDigits 10 digits).length
  if digits = 0 then 0
  else if 400 < length + exponent then Float.ofBits 0x7FF0000000000000
  else if length + exponent < -400 then 0
  else Float.ofScientific digits (exponent < 0) exponent.natAbs

end GridRobot.Decimal
