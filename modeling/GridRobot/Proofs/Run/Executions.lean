import GridRobot.Proofs.Run.Moves

/-!
# The commands that a run executes

A stack of texts is settled text by text, and a text that validation takes for a command is executed
when its turn comes. Which commands these are, and in which order, hangs on the texts alone.

Main statement: the executed commands are the moves of the scripts (`executions_eq_moves`).
-/

namespace GridRobot.Command

/-- The commands that are executed while the texts of a stack are settled, in their order. -/
def executions : List Text → List Command
  | [] => []
  | c :: pending =>
    match _hc : validate c with
    | .ok cmd => cmd :: executions pending
    | .error f =>
      match _hr : f.repair with
      | .ok repair => executions (repair.next ++ pending)
      | .error _ => []
termination_by cs => totalWeight cs
decreasing_by
  · have := weight_pos c
    simp only [totalWeight]
    omega
  · have := weight_repair _hc _hr
    simp only [totalWeight, totalWeight_append]
    omega

theorem script_of_validate_error {c : Text} {f : Failure} (h : validate c = .error f) :
    ∃ repair, f.repair = .ok repair ∧
      script c = .entry repair.entry :: repair.next.flatMap script := by
  obtain ⟨hc, hv⟩ := violationOr_of_validate h
  obtain ⟨repair, hr, hs⟩ := script_of_error hv
  subst hc
  exact ⟨repair, hr, hs⟩

theorem executions_eq_moves (cs : List Text) :
    executions cs = Outcome.moves (cs.flatMap script) := by
  fun_induction executions cs with
  | case1 => rfl
  | case2 c pending cmd hc ih =>
    rw [List.flatMap_cons, script_of_ok (violationOr_of_validate_ok hc), ih]
    rfl
  | case3 c pending f hc repair hr ih =>
    obtain ⟨repair', hr', hs⟩ := script_of_validate_error hc
    rw [hr] at hr'
    cases hr'
    rw [ih, List.flatMap_append, List.flatMap_cons, hs]
    rfl
  | case4 c pending f hc e hr =>
    obtain ⟨repair, hr', _⟩ := script_of_validate_error hc
    rw [hr] at hr'
    cases hr'

end GridRobot.Command
