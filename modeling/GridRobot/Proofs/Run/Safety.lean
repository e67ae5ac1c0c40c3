import GridRobot.Proofs.Run.Lines

/-!
# No run ends with a fault

A repair takes the text apart again and turns numerals into integers and back, and a move is logged
with its distance and its place. Each of these steps can fail on some text or at some place. None of
them does where a run comes to it: validation has let through only what the step can handle, and the
robot has room for the moves of the text.

Main statement: `runs_without_fault`, which also bounds how far the moves of a run take the robot.
-/

namespace GridRobot

namespace Command

variable {c s t : Text} {v : Violation}

/-! ### Messages -/

/-- A number that breaks a rule was read from a literal. -/
theorem writable_of_ofNumber {d : Direction} (h : ofNumber d t = .error v) :
    ∀ n ∈ Failure.numbers ⟨c, v⟩, Numeral.Writable n := by
  intro n hn
  rcases ofNumber_error h with rfl | rfl | ⟨m, hm, ⟨rfl, _⟩ | ⟨rfl, _⟩⟩
  · cases hn
  · cases hn
  · obtain rfl := List.mem_singleton.mp hn
    exact (Numeral.isLiteral_of_literal? hm).writable
  · have hn : n ∈ [maxMagnitude, m] := hn
    rw [List.mem_pair] at hn
    rcases hn with rfl | rfl
    · exact Numeral.writable_of_le (Nat.le_refl 100)
    · exact (Numeral.isLiteral_of_literal? hm).writable

theorem writable_of_ofTokens (h : ofTokens s t = .error v) :
    ∀ n ∈ Failure.numbers ⟨c, v⟩, Numeral.Writable n := by
  unfold ofTokens at h
  split at h
  · cases h
    exact fun n hn => absurd hn List.not_mem_nil
  · split at h
    · exact writable_of_ofNumber h
    -- the other rules on a symbol quote no number
    · split at h
      · cases h
        exact fun n hn => absurd hn List.not_mem_nil
      · split at h
        all_goals
          cases h
          exact fun n hn => absurd hn List.not_mem_nil
  · cases h
    exact fun n hn => absurd hn List.not_mem_nil

theorem writable_numbers (h : violationOr c = .error v) :
    ∀ n ∈ Failure.numbers ⟨c, v⟩, Numeral.Writable n := by
  intro n hn
  have hs : v ≠ .noSpaceSeparator := by
    rintro rfl
    cases hn
  have hu : v ≠ .uninterpretable := by
    rintro rfl
    cases hn
  obtain ⟨s, t, _, ht⟩ := exists_tokens_of_violationOr h hs hu
  exact writable_of_ofTokens ht n hn

end Command

/-! ### Distance from the origin -/

namespace Position

/-- The number of steps between the origin and the place. -/
def norm (p : Position) : Nat :=
  p.x.natAbs + p.y.natAbs

theorem norm_movedBy_le (p : Position) (c : Command) :
    (p.movedBy c).norm ≤ p.norm + c.magnitude.natAbs := by
  unfold norm movedBy
  cases c.direction <;> simp only [moved, Direction.delta] <;> omega

theorem norm_foldl_movedBy_le {cs : List Command} (h : ∀ c ∈ cs, c.magnitude.natAbs ≤ 100)
    (p : Position) : (cs.foldl movedBy p).norm ≤ p.norm + 100 * cs.length := by
  induction cs generalizing p with
  | nil => exact Nat.le_refl _
  | cons c cs ih =>
    have hc := h c (List.mem_cons_self ..)
    have hs := ih (fun d hd => h d (List.mem_cons_of_mem _ hd)) (p.movedBy c)
    have hm := norm_movedBy_le p c
    rw [List.foldl_cons, List.length_cons]
    omega

end Position

/-- Played outcomes take the robot at most a hundred steps further for each reported move. -/
theorem Outcome.Sound.norm_last_le {os : List Outcome} {n : Nat} (h : Sound os n) (p : Position) :
    (last p os).norm ≤ p.norm + 100 * (entries p os).countP Entry.isExecution := by
  have hf := filter_isExecution_entries h.proper p
  rw [last_eq_foldl_moves, List.countP_eq_length_filter, hf, Position.length_trail]
  exact Position.norm_foldl_movedBy_le h.natAbs_le p

/-- Every text that validation refuses has a message whose numbers can be written and a repair that
does not fail. With room for its moves, every text is processed without a fault. A fresh robot
processes all lines of less than `10 ^ 4298` characters together without a fault, and ends at most a
hundred steps away from the origin for each move in the log. -/
theorem runs_without_fault :
    (∀ (c : Text) (f : Failure), Command.validate c = .error f →
      (∀ n ∈ f.numbers, Numeral.write n = .ok (Numeral.text n)) ∧
        ∃ repair, f.repair = .ok repair) ∧
    (∀ (p : Position) (c : Text) (log : Array Entry) (notes : Array Note), p.HasRoom c.length →
      (Run.process ⟨p, log, notes, none⟩ c).fault = none) ∧
    ∀ lines : List Text, totalLength lines < 10 ^ 4298 →
      (Run.ofLines lines).fault = none ∧
        (Run.ofLines lines).position.x.natAbs + (Run.ofLines lines).position.y.natAbs ≤
          100 * (Run.ofLines lines).log.toList.countP Entry.isExecution := by
  refine ⟨?_, ?_, ?_⟩
  · intro c f h
    obtain ⟨hc, hv⟩ := Command.violationOr_of_validate h
    obtain ⟨repair, hr, _⟩ := Command.script_of_error hv
    subst hc
    exact ⟨fun n hn => if_pos (Command.writable_numbers hv n hn), repair, hr⟩
  · intro p c log notes h
    exact congrArg Ledger.fault (Run.ledger_process_of_hasRoom h log notes)
  · intro lines h
    have hl := Run.ledger_ofLines h
    have hp : (Run.ofLines lines).position = Outcome.last .origin (scriptOfLines lines) :=
      congrArg Ledger.position hl
    have hlog : (Run.ofLines lines).log.toList = Outcome.entries .origin (scriptOfLines lines) :=
      congrArg Ledger.log hl
    have hn := (sound_scriptOfLines lines).norm_last_le .origin
    have hz : Position.origin.norm = 0 := rfl
    rw [hz, Nat.zero_add] at hn
    refine ⟨congrArg Ledger.fault hl, ?_⟩
    rw [hlog, hp]
    exact hn

/-- A sign is inverted without a fault, the longest move is made from a place that has just room for
it, and a line with two small letters is processed. -/
theorem runs_without_fault_near_bound :
    (Command.validate "S -5".toList = .error ⟨"S -5".toList, .negativeNumber (-5)⟩ ∧
      ∃ repair, Failure.repair ⟨"S -5".toList, .negativeNumber (-5)⟩ = .ok repair) ∧
    (Position.HasRoom ⟨(Numeral.bound : Int) - 501, 0⟩ ("E 100".toList).length ∧
      (Run.process ⟨⟨(Numeral.bound : Int) - 501, 0⟩, #[], #[], none⟩ "E 100".toList).fault =
        none) ∧
    (totalLength ["ne-5".toList, "ne5".toList] < 10 ^ 4298 ∧
      (Run.ofLines ["ne-5".toList, "ne5".toList]).fault = none) := by
  have hv : Command.validate "S -5".toList = .error ⟨"S -5".toList, .negativeNumber (-5)⟩ := by
    decide
  have hr : Position.HasRoom ⟨(Numeral.bound : Int) - 501, 0⟩ ("E 100".toList).length := by
    decide +kernel
  have hl : totalLength ["ne-5".toList, "ne5".toList] < 10 ^ 4298 := by decide +kernel
  obtain ⟨hrepair, hprocess, hlines⟩ := runs_without_fault
  exact ⟨⟨hv, (hrepair _ _ hv).2⟩, ⟨hr, hprocess _ _ #[] #[] hr⟩, hl, (hlines _ hl).1⟩

end GridRobot
