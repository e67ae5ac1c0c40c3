import GridRobot.Text.Basic

/-! # Charts of characters

A chart says which character has which code. Charts are put together: one comes before another, or
the codes of one are counted in another way. -/

namespace GridRobot.Encoding

/-- The character of each code, and the code that each character is written with. -/
structure Chart where
  char? : Nat → Option Char
  code? : Char → Option Nat

namespace Chart

/-- Two characters in a row that have one code together. -/
structure Pair where
  code : Nat
  first : Char
  second : Char
  deriving DecidableEq, Repr

def empty : Chart :=
  ⟨fun _ => none, fun _ => none⟩

/-- The codes of `a`, and besides them those of `b`. -/
def orElse (a b : Chart) : Chart where
  char? code := (a.char? code).or (b.char? code)
  code? c := (a.code? c).or (b.code? c)

/-- Charts one after another. The first that has a code or a character decides. -/
def join (charts : List Chart) : Chart :=
  charts.foldr orElse empty

/-- Characters with codes that follow each other. -/
def ofChars (first : Nat) (cs : Array Char) : Chart where
  char? code := if first ≤ code then cs[code - first]? else none
  code? c := (cs.findIdx? (· == c)).map (first + ·)

/-- Spans of characters, each with the code of its first character. -/
def ofSpans (spans : List (Nat × String)) : Chart :=
  join (spans.map fun (first, s) => ofChars first s.toList.toArray)

/-- Characters that follow each other from `start` on, with codes that do so too. -/
def ofBlock (first start count : Nat) : Chart where
  char? code :=
    if first ≤ code ∧ code < first + count then some (Char.ofNat (start + (code - first)))
    else none
  code? c :=
    if start ≤ c.toNat ∧ c.toNat < start + count then some (first + (c.toNat - start))
    else none

/-- Blocks of characters, each with its first code, its first character and its size. -/
def ofBlocks (blocks : List (Nat × Nat × Nat)) : Chart :=
  join (blocks.map fun (first, start, count) => ofBlock first start count)

/-- The same characters with other codes: `index?` gives the code in the chart, `code` takes it
back. -/
def recode (chart : Chart) (index? : Nat → Option Nat) (code : Nat → Nat) : Chart where
  char? n := (index? n).bind chart.char?
  code? c := (chart.code? c).map code

/-- The chart without some codes. -/
def without (chart : Chart) (codes : List Nat) : Chart where
  char? n := if n ∈ codes then none else chart.char? n
  code? c := (chart.code? c).filter (· ∉ codes)

/-- The code points below `bound` of the characters of some spans. -/
def marks (bound : Nat) (spans : List (Nat × String)) : Array Bool :=
  (spans.flatMap fun s => s.2.toList).foldl (fun ms c => ms.setIfInBounds c.toNat true)
    (Array.replicate bound false)

/-- The characters from `first` to `last`, in order, that are not among those of some spans. -/
def remaining (first last : Nat) (spans : List (Nat × String)) : Array Char :=
  let taken := marks (last + 1) spans
  let codes := (List.range' first (last + 1 - first)).filter fun n => !taken.getD n false
  (codes.map Char.ofNat).toArray

end Chart

end GridRobot.Encoding
