import GridRobot.Proofs.Command.Verdict
import GridRobot.Proofs.Run.Turn

/-!
# How a text goes on

A text that is no command leads to one entry, and then to what the texts of its repair lead to. For
each broken rule, the entry and the texts are named here.
-/

namespace GridRobot

namespace Command

/-! ### The repairs by name -/

variable {c : Text}

theorem repair_of_insertSpace {c' : Text} (h : insertSpace c = some c') :
    Failure.repair ⟨c, .noSpaceSeparator⟩ = .ok
      { entry := .corrected .missingSpace c c', next := [c'] } := by
  simp only [Failure.repair, h]

theorem repair_of_noBoundary (h : insertSpace c = none) :
    Failure.repair ⟨c, .noSpaceSeparator⟩ = .ok
      { entry := .rejected (Failure.uninterpretableMessage c) } := by
  simp only [Failure.repair, h]

theorem repair_of_pair {s t : Text} (h : tokens c = [s, t]) :
    Failure.repair ⟨c, .multipleSymbols s⟩ = .ok
      { entry := .split, next := s.map fun a => a :: ' ' :: t,
        notes := [.split c (s.map fun a => a :: ' ' :: t)] } := by
  simp only [Failure.repair, splitSymbols, h]

theorem repair_of_invertNegative {n : Int} {c' : Text} (h : invertNegative c = .ok c') :
    Failure.repair ⟨c, .negativeNumber n⟩ = .ok
      { entry := .corrected .negativeNumber c c', next := [c'] } := by
  simp only [Failure.repair, h]

theorem repair_of_isFinal {v : Violation} (h : v.IsFinal) :
    Failure.repair ⟨c, v⟩ = .ok
      { entry := .rejected (Failure.message ⟨c, v⟩),
        notes := [.rejected c (Failure.message ⟨c, v⟩)] } := by
  cases v with
  | uninterpretable => rfl
  | invalidCapitalLetter a => rfl
  | invalidSymbol s => rfl
  | invalidNumberFormat t => rfl
  | numberExceedsLimit n => rfl
  | noSpaceSeparator => exact h.elim
  | lowercaseLetter a => exact h.elim
  | multipleSymbols s => exact h.elim
  | negativeNumber n => exact h.elim
  | zeroNumber => exact h.elim

end Command

namespace Run

/-- Processing the text logs the entry, and goes on with the texts one after the other. -/
def GoesOn (r : Run) (c : Text) (e : Entry) (next : List Text) : Prop :=
  ∃ r' : Run, r'.fault = none ∧ r'.ledger = r.ledger.record e ∧ r.process c = next.foldl process r'

theorem GoesOn.ledger_of_nil {r : Run} {c : Text} {e : Entry} (h : r.GoesOn c e []) :
    (r.process c).ledger = r.ledger.record e := by
  obtain ⟨r', _, hl, hp⟩ := h
  rw [hp, ← hl]
  rfl

theorem goesOn_of_repair {r : Run} {c : Text} {v : Violation} {repair : Repair}
    (h : r.fault = none) (hv : Command.violationOr c = .error v)
    (hr : Failure.repair ⟨c, v⟩ = .ok repair) : r.GoesOn c repair.entry repair.next := by
  have hc := Command.validate_of_error hv
  have hl : ((repair.notes.foldl remark (r.remark (.failed c v.kind))).record repair.entry).ledger =
      r.ledger.record repair.entry := by simp
  refine ⟨(repair.notes.foldl remark (r.remark (.failed c v.kind))).record repair.entry, ?_, hl, ?_⟩
  · rw [← ledger_fault, hl, Ledger.fault_record, ledger_fault, h]
  · rw [← settle_singleton, settle_turn h]
    simp only [turn, hc, hr, List.append_nil]
    exact settle_eq_foldl _ _

theorem ledger_of_error {r : Run} {c : Text} {v : Violation} {e : Fault} (h : r.fault = none)
    (hv : Command.violationOr c = .error v) (hr : Failure.repair ⟨c, v⟩ = .error e) :
    (r.process c).ledger = r.ledger.stop e := by
  have hc := Command.validate_of_error hv
  rw [← settle_singleton, settle_turn h]
  simp only [turn, hc, hr, settle_nil]
  rfl

variable {r : Run} {c : Text}

theorem ledger_of_ok {cmd : Command} (h : r.fault = none) (hv : Command.violationOr c = .ok cmd) :
    (r.process c).ledger = r.ledger.perform cmd := by
  rw [process_of_ok h (Command.validate_of_ok hv), ledger_perform]

theorem goesOn_missingSpace {c' : Text} (h : r.fault = none)
    (hv : Command.violationOr c = .error .noSpaceSeparator) (hc : Command.insertSpace c = some c') :
    r.GoesOn c (.corrected .missingSpace c c') [c'] :=
  goesOn_of_repair h hv (Command.repair_of_insertSpace hc)

theorem goesOn_noBoundary (h : r.fault = none)
    (hv : Command.violationOr c = .error .noSpaceSeparator) (hc : Command.insertSpace c = none) :
    r.GoesOn c (.rejected (Failure.uninterpretableMessage c)) [] :=
  goesOn_of_repair h hv (Command.repair_of_noBoundary hc)

theorem goesOn_lowercase {a : Char} (h : r.fault = none)
    (hv : Command.violationOr c = .error (.lowercaseLetter a)) :
    r.GoesOn c (.corrected .lowercaseLetter c c.upper) [c.upper] :=
  goesOn_of_repair h hv rfl

theorem goesOn_split {s t : Text} (h : r.fault = none)
    (hv : Command.violationOr c = .error (.multipleSymbols s)) (ht : Command.tokens c = [s, t]) :
    r.GoesOn c .split (s.map fun a => a :: ' ' :: t) :=
  goesOn_of_repair h hv (Command.repair_of_pair ht)

theorem goesOn_negative {n : Int} {c' : Text} (h : r.fault = none)
    (hv : Command.violationOr c = .error (.negativeNumber n))
    (hc : Command.invertNegative c = .ok c') :
    r.GoesOn c (.corrected .negativeNumber c c') [c'] :=
  goesOn_of_repair h hv (Command.repair_of_invertNegative hc)

theorem goesOn_zero (h : r.fault = none) (hv : Command.violationOr c = .error .zeroNumber) :
    r.GoesOn c (.removed c) [] :=
  goesOn_of_repair h hv rfl

theorem goesOn_final {v : Violation} (h : r.fault = none) (hv : Command.violationOr c = .error v)
    (hf : v.IsFinal) : r.GoesOn c (.rejected (Failure.message ⟨c, v⟩)) [] :=
  goesOn_of_repair h hv (Command.repair_of_isFinal hf)

end Run

end GridRobot
