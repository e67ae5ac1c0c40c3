import GridRobot.Text.Basic

/-! # Similar names

Two names are similar if they have much in common: the longest list that stands in both, and in the
same way what they have in common in front of it and behind it. -/

namespace GridRobot.CommandLine

variable {α : Type} [DecidableEq α]

/-- The length of the longest common start of two lists. -/
def commonStart : List α → List α → Nat
  | c :: t, d :: u => if c = d then commonStart t u + 1 else 0
  | _, _ => 0

/-- Where the longest list that stands in both begins in each, and its length. The first one counts,
in `t` before `u`. -/
def longestCommon (t u : List α) : Nat × Nat × Nat :=
  let places := (List.range t.length).flatMap fun i => (List.range u.length).map fun j => (i, j)
  places.foldl (fun best (i, j) =>
    let n := commonStart (t.drop i) (u.drop j)
    if best.2.2 < n then (i, j, n) else best) (0, 0, 0)

/-- The number of elements that two lists have in common. -/
def common : Nat → List α → List α → Nat
  | 0, _, _ => 0
  | fuel + 1, t, u =>
    match longestCommon t u with
    | (_, _, 0) => 0
    | (i, j, n) => common fuel (t.take i) (u.take j) + n + common fuel (t.drop (i + n)) (u.drop (j + n))

/-- Three fifths of both lists, at least, stand in the other. -/
def isSimilar (t u : List α) : Bool :=
  3 * (t.length + u.length) ≤ 10 * common (t.length + 1) t u

end GridRobot.CommandLine
