import GridRobot.Proofs.Run.Script

/-!
# The moves of a script

A text moves the robot once for each of its symbols that is the letter of a direction, provided that
its number is a literal between one and the limit, with a sign or without. The symbols and the
number are the two tokens of the text, or, where it has no space, the two sides of its boundary.
-/

namespace GridRobot

namespace Outcome

def move? : Outcome → Option Command
  | .move c => some c
  | .entry _ => none

def moves (os : List Outcome) : List Command :=
  os.filterMap move?

theorem moves_append (os ps : List Outcome) : moves (os ++ ps) = moves os ++ moves ps :=
  List.filterMap_append

theorem moves_entry (e : Entry) (os : List Outcome) : moves (.entry e :: os) = moves os := rfl

end Outcome

namespace Command

/-- The symbols and the number of a text. -/
def parts? (c : Text) : Option (Text × Text) :=
  if ' ' ∈ c then
    match tokens c with
    | [s, t] => some (s, t)
    | _ => none
  else (boundary? c).map fun i => (c.take i, c.drop i)

theorem parts?_of_pair {c s t : Text} (hs : ' ' ∈ c) (h : tokens c = [s, t]) :
    parts? c = some (s, t) := by
  rw [parts?, if_pos hs, h]

theorem parts?_of_ne_pair {c : Text} (hs : ' ' ∈ c) (h : ∀ s t, tokens c ≠ [s, t]) :
    parts? c = none := by
  rw [parts?, if_pos hs]
  split
  · next s t ht => exact absurd ht (h s t)
  · rfl

theorem parts?_of_not_mem {c : Text} (hs : ' ' ∉ c) :
    parts? c = (boundary? c).map fun i => (c.take i, c.drop i) :=
  if_neg hs

/-- The number of steps that a number token asks for, if the robot may make so many at once. -/
def stride? (t : Text) : Option Int :=
  (Numeral.literal? t).filter fun n => 1 ≤ n.natAbs ∧ n.natAbs ≤ 100

/-- The move by `n` steps, which goes the opposite way if `n` is negative. -/
def toward (d : Direction) (n : Int) : Command :=
  if n < 0 then ⟨d.opposite, -n⟩ else ⟨d, n⟩

/-- The moves that some symbols and a number ask for. -/
def movesOf (s t : Text) : List Command :=
  match stride? t with
  | some n => (s.filterMap Direction.ofLetter?).map (toward · n)
  | none => []

theorem movesOf_nil (t : Text) : movesOf [] t = [] := by
  unfold movesOf
  split <;> rfl

theorem movesOf_cons (a : Char) (s t : Text) :
    movesOf (a :: s) t = movesOf [a] t ++ movesOf s t := by
  unfold movesOf
  split
  · rw [← List.map_append, ← List.filterMap_append]
    rfl
  · rfl

theorem movesOf_direction (d : Direction) (t : Text) :
    movesOf [d.symbol] t = ((stride? t).map (toward d)).toList := by
  unfold movesOf
  rw [List.filterMap_cons, Direction.ofLetter?_symbol]
  cases stride? t <;> rfl

theorem stride?_upper (t : Text) : stride? t.upper = stride? t := by
  rw [stride?, stride?, Numeral.literal?_upper]

/-! ### The moves of a script, from its end to its start -/

theorem moves_ending (c : Text) (cmd : Command) :
    Outcome.moves [ending c cmd] = if cmd.magnitude ≤ maxMagnitude then [cmd] else [] := by
  unfold ending
  split <;> rfl

theorem magnitude_toward (d : Direction) (n : Int) : (toward d n).magnitude = n.natAbs := by
  unfold toward
  split
  · show -n = n.natAbs
    omega
  · show n = n.natAbs
    omega

/-- A text that asks for `n` steps, which are not none, ends with a move up to the limit. -/
theorem moves_ending_toward (c : Text) (d : Direction) {n : Int} (hn : n ≠ 0) :
    Outcome.moves [ending c (toward d n)] =
      (((some n).filter fun n => 1 ≤ n.natAbs ∧ n.natAbs ≤ 100).map (toward d)).toList := by
  rw [moves_ending, magnitude_toward, Option.filter_some]
  by_cases hl : n.natAbs ≤ 100
  · have hm : (n.natAbs : Int) ≤ maxMagnitude := Int.ofNat_le.mpr hl
    have hb : 1 ≤ n.natAbs ∧ n.natAbs ≤ 100 := ⟨by omega, hl⟩
    rw [if_pos hm, if_pos (decide_eq_true hb)]
    rfl
  · have hm : ¬(n.natAbs : Int) ≤ maxMagnitude := fun h => hl (Int.ofNat_le.mp h)
    have hb : ¬(1 ≤ n.natAbs ∧ n.natAbs ≤ 100) := fun h => hl h.2
    rw [if_neg hm, decide_eq_false hb]
    rfl

theorem moves_scriptOfDirection (c : Text) (d : Direction) (t : Text) :
    Outcome.moves (scriptOfDirection c d t) = ((stride? t).map (toward d)).toList := by
  unfold scriptOfDirection stride?
  cases Numeral.literal? t with
  | none => rfl
  | some n =>
    simp only
    by_cases hneg : n < 0
    · have hw : toward d n = ⟨d.opposite, -n⟩ := if_pos hneg
      have hz : n ≠ 0 := by omega
      rw [if_pos hneg, Outcome.moves_entry, ← hw, moves_ending_toward _ d hz]
    · have hw : toward d n = ⟨d, n⟩ := if_neg hneg
      rw [if_neg hneg]
      by_cases hz : n = 0
      · subst hz
        rfl
      · rw [if_neg hz, ← hw, moves_ending_toward c d hz]

theorem moves_scriptOfSymbol (c : Text) (a : Char) (t : Text) :
    Outcome.moves (scriptOfSymbol c a t) = movesOf [a] t := by
  unfold scriptOfSymbol
  cases hs : Direction.ofSymbol? a with
  | some d =>
    obtain rfl := Direction.eq_symbol_of_ofSymbol? hs
    exact (moves_scriptOfDirection c d t).trans (movesOf_direction d t).symm
  | none =>
    cases hl : Direction.ofLetter? a with
    | some d =>
      have hm : movesOf [a] t = movesOf [d.symbol] t := by
        unfold movesOf
        rw [List.filterMap_cons, hl, List.filterMap_cons, Direction.ofLetter?_symbol]
      rw [hm, movesOf_direction, ← stride?_upper t]
      exact moves_scriptOfDirection c.upper d t.upper
    | none =>
      have hm : movesOf [a] t = [] := by
        unfold movesOf
        rw [List.filterMap_cons, hl]
        cases stride? t <;> rfl
      rw [hm]
      rfl

theorem moves_flatMap_symbols (s t : Text) :
    Outcome.moves (s.flatMap fun a => scriptOfSymbol (a :: ' ' :: t) a t) = movesOf s t := by
  induction s with
  | nil => exact (movesOf_nil t).symm
  | cons a s ih =>
    rw [List.flatMap_cons, Outcome.moves_append, moves_scriptOfSymbol, ih, ← movesOf_cons]

theorem moves_scriptOfTokens (c s t : Text) :
    Outcome.moves (scriptOfTokens c s t) = movesOf s t := by
  match s with
  | [] => exact (movesOf_nil t).symm
  | [a] => exact moves_scriptOfSymbol c a t
  | a :: b :: s => exact moves_flatMap_symbols (a :: b :: s) t

theorem moves_script (c : Text) :
    Outcome.moves (script c) = (parts? c).elim [] fun p => movesOf p.1 p.2 := by
  unfold script
  by_cases hs : ' ' ∈ c
  · rw [if_pos hs]
    split
    · next s t h =>
      rw [parts?_of_pair hs h]
      exact moves_scriptOfTokens c s t
    · next h =>
      rw [parts?_of_ne_pair hs h]
      rfl
  · rw [if_neg hs, parts?_of_not_mem hs]
    cases boundary? c with
    | some i => exact moves_scriptOfTokens _ _ _
    | none => rfl

/-! ### How many, and how long -/

theorem length_movesOf_le (s t : Text) : (movesOf s t).length ≤ s.length := by
  unfold movesOf
  split
  · rw [List.length_map]
    exact List.length_filterMap_le _ _
  · exact Nat.zero_le _

theorem length_of_pair {c s t : Text} (h : tokens c = [s, t]) : s.length + 2 ≤ c.length := by
  obtain ⟨_, _, hn, k, rfl⟩ := tokens_eq_pair_iff.mp h
  have := List.length_pos_iff.mpr hn
  simp only [List.length_append, List.length_cons]
  omega

theorem length_parts?_le {c s t : Text} (h : parts? c = some (s, t)) : s.length ≤ c.length := by
  unfold parts? at h
  split at h
  · split at h
    · next u v hu =>
      obtain ⟨rfl, rfl⟩ := Prod.mk.inj (Option.some.inj h)
      have := length_of_pair hu
      omega
    · cases h
  · obtain ⟨i, _, hi⟩ := Option.map_eq_some_iff.mp h
    obtain ⟨rfl, rfl⟩ := Prod.mk.inj hi
    rw [List.length_take]
    omega

theorem length_moves_le (c : Text) : (Outcome.moves (script c)).length ≤ c.length := by
  rw [moves_script]
  cases hp : parts? c with
  | none => exact Nat.zero_le _
  | some p => exact Nat.le_trans (length_movesOf_le p.1 p.2) (length_parts?_le hp)

/-- No move of a text is longer than the limit, and none is empty. -/
theorem magnitude_of_mem_moves {c : Text} {cmd : Command} (h : cmd ∈ Outcome.moves (script c)) :
    1 ≤ cmd.magnitude ∧ cmd.magnitude ≤ 100 := by
  rw [moves_script] at h
  cases hp : parts? c with
  | none =>
    rw [hp] at h
    cases h
  | some p =>
    rw [hp] at h
    simp only [Option.elim_some, movesOf] at h
    split at h
    · next n hn =>
      obtain ⟨d, _, rfl⟩ := List.mem_map.mp h
      have hb := Option.filter_eq_some_iff.mp hn
      simp only [decide_eq_true_eq] at hb
      rw [magnitude_toward]
      omega
    · cases h

end Command

end GridRobot
