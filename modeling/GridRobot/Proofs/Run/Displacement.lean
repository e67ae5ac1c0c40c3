import GridRobot.Proofs.Run.Room
import Mathlib.Algebra.Ring.Int.Defs

/-!
# The displacement of the robot by one text

Repairs change how a text is written and not where it leads. Where a text has symbols and a number
between one and the limit, the robot moves by the number times the sum of the steps of its letters,
whatever has to be repaired on the way, and any other text leaves it where it is.

Main statement: `process_displacement`.
-/

namespace GridRobot

def Entry.isExecution : Entry → Bool
  | .executed _ _ => true
  | .corrected _ _ _ | .split | .removed _ | .rejected _ => false

namespace Position

def movedBy (p : Position) (c : Command) : Position :=
  p.moved c.direction c.magnitude

/-- The reports of some moves that are made one after the other from `p`. -/
def trail : Position → List Command → List Entry
  | _, [] => []
  | p, c :: cs => .executed c (p.movedBy c) :: trail (p.movedBy c) cs

theorem length_trail (p : Position) (cs : List Command) : (p.trail cs).length = cs.length := by
  induction cs generalizing p with
  | nil => rfl
  | cons c cs ih => rw [trail, List.length_cons, List.length_cons, ih]

theorem isExecution_of_mem_trail {p : Position} {cs : List Command} {e : Entry}
    (h : e ∈ p.trail cs) : e.isExecution = true := by
  induction cs generalizing p with
  | nil => cases h
  | cons c cs ih =>
    rcases List.mem_cons.mp h with rfl | h
    · rfl
    · exact ih h

theorem movedBy_toward (p : Position) (d : Direction) (n : Int) :
    p.movedBy (Command.toward d n) = p.moved d n := by
  unfold Command.toward movedBy
  split
  · simp only [moved, Direction.delta_opposite, Int.neg_mul_neg]
  · rfl

/-- Moves by the same number of steps add up to the number times the sum of the unit steps. -/
theorem foldl_movedBy_toward (p : Position) (ds : List Direction) (n : Int) :
    (ds.map (Command.toward · n)).foldl movedBy p =
      ⟨p.x + n * (ds.map fun d => d.delta.1).sum, p.y + n * (ds.map fun d => d.delta.2).sum⟩ := by
  induction ds generalizing p with
  | nil => simp
  | cons d ds ih =>
    rw [List.map_cons, List.foldl_cons, movedBy_toward, ih]
    simp only [List.map_cons, List.sum_cons, moved]
    ext
    · show p.x + d.delta.1 * n + n * _ = p.x + n * (d.delta.1 + _)
      rw [Int.mul_add, Int.mul_comm d.delta.1 n, Int.add_assoc]
    · show p.y + d.delta.2 * n + n * _ = p.y + n * (d.delta.2 + _)
      rw [Int.mul_add, Int.mul_comm d.delta.2 n, Int.add_assoc]

end Position

namespace Outcome

/-- The outcome is a move, or an entry that reports none. -/
def isProper : Outcome → Bool
  | .move _ => true
  | .entry e => !e.isExecution

theorem last_eq_foldl_moves (p : Position) (os : List Outcome) :
    last p os = (moves os).foldl Position.movedBy p := by
  induction os generalizing p with
  | nil => rfl
  | cons o os ih =>
    cases o with
    | move c => exact ih (p.movedBy c)
    | entry e => exact ih p

theorem filter_isExecution_entries {os : List Outcome} (h : os.all isProper = true)
    (p : Position) :
    (entries p os).filter Entry.isExecution = Position.trail p (moves os) := by
  induction os generalizing p with
  | nil => rfl
  | cons o os ih =>
    obtain ⟨ho, hos⟩ := Bool.and_eq_true_iff.mp h
    cases o with
    | move c => exact congrArg (_ :: ·) (ih hos (p.movedBy c))
    | entry e =>
      have he : ¬e.isExecution = true := by simpa [isProper] using ho
      show (e :: entries p os).filter Entry.isExecution = p.trail (moves os)
      rw [List.filter_cons_of_neg he]
      exact ih hos p

end Outcome

namespace Command

/-! ### No entry of a script reports a move -/

theorem all_isProper_ending (c : Text) (cmd : Command) :
    [ending c cmd].all Outcome.isProper = true := by
  unfold ending
  split <;> rfl

theorem all_isProper_scriptOfDirection (c : Text) (d : Direction) (t : Text) :
    (scriptOfDirection c d t).all Outcome.isProper = true := by
  unfold scriptOfDirection
  split
  · rfl
  · split
    · exact all_isProper_ending _ _
    · split
      · rfl
      · exact all_isProper_ending _ _

theorem all_isProper_scriptOfSymbol (c : Text) (a : Char) (t : Text) :
    (scriptOfSymbol c a t).all Outcome.isProper = true := by
  unfold scriptOfSymbol
  split
  · exact all_isProper_scriptOfDirection _ _ _
  · exact all_isProper_scriptOfDirection _ _ _
  · rfl

theorem all_isProper_scriptOfTokens (c s t : Text) :
    (scriptOfTokens c s t).all Outcome.isProper = true := by
  unfold scriptOfTokens
  split
  · rfl
  · exact all_isProper_scriptOfSymbol _ _ _
  · show (List.flatMap _ _).all Outcome.isProper = true
    rw [List.all_flatMap, List.all_eq_true]
    exact fun a _ => all_isProper_scriptOfSymbol _ a t

theorem all_isProper_script (c : Text) : (script c).all Outcome.isProper = true := by
  unfold script
  split
  · split
    · exact all_isProper_scriptOfTokens _ _ _
    · rfl
  · split
    · exact all_isProper_scriptOfTokens _ _ _
    · rfl

/-! ### What a text asks for -/

/-- The text asks for a move by `n` steps in each of the directions, which are those of the letters
among its symbols. -/
def AsksFor (c : Text) (ds : List Direction) (n : Int) : Prop :=
  ∃ s t, parts? c = some (s, t) ∧ ds = s.filterMap Direction.ofLetter? ∧
    Numeral.IsLiteral t n ∧ 1 ≤ n.natAbs ∧ n.natAbs ≤ 100

theorem stride?_eq_some_iff {t : Text} {n : Int} :
    stride? t = some n ↔ Numeral.IsLiteral t n ∧ 1 ≤ n.natAbs ∧ n.natAbs ≤ 100 := by
  rw [stride?, Option.filter_eq_some_iff, Numeral.literal?_eq_some_iff, decide_eq_true_eq]

theorem moves_of_asksFor {c : Text} {ds : List Direction} {n : Int} (h : AsksFor c ds n) :
    Outcome.moves (script c) = ds.map (toward · n) := by
  obtain ⟨s, t, hp, rfl, hn⟩ := h
  rw [moves_script, hp, Option.elim_some, movesOf, stride?_eq_some_iff.mpr hn]

theorem moves_of_not_asksFor {c : Text} (h : ¬∃ ds n, AsksFor c ds n) :
    Outcome.moves (script c) = [] := by
  rw [moves_script]
  cases hp : parts? c with
  | none => rfl
  | some p =>
    obtain ⟨s, t⟩ := p
    rw [Option.elim_some, movesOf]
    split
    · next n hn => exact absurd ⟨_, n, s, t, hp, rfl, stride?_eq_some_iff.mp hn⟩ h
    · rfl

end Command

/-- A text that asks for moves displaces the robot by the number times the sum of the unit steps,
and every one of the moves is reported, in the order of the letters. Any other text displaces
nothing and reports no move. -/
theorem process_displacement {p : Position} {c : Text} (h : p.HasRoom c.length)
    (log : Array Entry) (notes : Array Note) :
    ∃ new, (Run.process ⟨p, log, notes, none⟩ c).fault = none ∧
      (Run.process ⟨p, log, notes, none⟩ c).log.toList = log.toList ++ new ∧
      (∀ ds n, Command.AsksFor c ds n →
        (Run.process ⟨p, log, notes, none⟩ c).position =
            ⟨p.x + n * (ds.map fun d => d.delta.1).sum,
              p.y + n * (ds.map fun d => d.delta.2).sum⟩ ∧
          new.filter Entry.isExecution = p.trail (ds.map (Command.toward · n))) ∧
      ((¬∃ ds n, Command.AsksFor c ds n) →
        (Run.process ⟨p, log, notes, none⟩ c).position = p ∧
          new.filter Entry.isExecution = []) := by
  have hl := Run.ledger_process_of_hasRoom h log notes
  have hp := congrArg Ledger.position hl
  have hlast := Outcome.last_eq_foldl_moves p (Command.script c)
  have hfilter := Outcome.filter_isExecution_entries (Command.all_isProper_script c) p
  refine ⟨_, congrArg Ledger.fault hl, congrArg Ledger.log hl, ?_, ?_⟩
  · intro ds n hc
    rw [Command.moves_of_asksFor hc] at hlast hfilter
    rw [Position.foldl_movedBy_toward] at hlast
    exact ⟨hp.trans hlast, hfilter⟩
  · intro hc
    rw [Command.moves_of_not_asksFor hc] at hlast hfilter
    exact ⟨hp.trans hlast, hfilter⟩

/-- Both letters of a text with a small letter and a negative number count. -/
theorem process_displacement_of_repaired :
    Position.origin.HasRoom ("nE -3".toList).length ∧
      (Run.process ⟨.origin, #[], #[], none⟩ "nE -3".toList).position = ⟨-3, -3⟩ := by
  have hr : Position.origin.HasRoom ("nE -3".toList).length := by decide +kernel
  have hn : Numeral.IsLiteral "-3".toList (-3) := Numeral.isLiteral_of_literal? (by decide)
  have hc : Command.AsksFor "nE -3".toList [.north, .east] (-3) :=
    ⟨"nE".toList, "-3".toList, by decide, rfl, hn, by decide, by decide⟩
  obtain ⟨_, _, _, hm, _⟩ := process_displacement hr #[] #[]
  exact ⟨hr, (hm _ _ hc).1⟩

end GridRobot
