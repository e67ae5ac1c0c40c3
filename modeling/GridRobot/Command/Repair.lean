import GridRobot.Command.Weight
import GridRobot.Log.Entry
import GridRobot.Log.Note

/-! # Repairs

The table of section 4.2 of the specification. What is done about a text that breaks a rule: one
entry is logged, and the texts that replace it are handed back, in their order. Where nothing
replaces it the entry is its end. -/

namespace GridRobot

/-- The outcome of a failure: an entry for the log, the texts to go on with, and remarks. -/
structure Repair where
  entry : Entry
  next : List Text := []
  notes : List Note := []

/-- The one repair of each broken rule. -/
def Failure.repair (f : Failure) : Except Fault Repair :=
  match f.violation with
  | .noSpaceSeparator =>
    match Command.insertSpace f.command with
    | some c => .ok { entry := .corrected .missingSpace f.command c, next := [c] }
    | none => .ok { entry := .rejected (uninterpretableMessage f.command) }
  | .lowercaseLetter _ =>
    .ok { entry := .corrected .lowercaseLetter f.command f.command.upper, next := [f.command.upper] }
  | .multipleSymbols _ =>
    match Command.splitSymbols f.command with
    | .ok cs => .ok { entry := .split, next := cs, notes := [.split f.command cs] }
    | .error e => .error e
  | .negativeNumber _ =>
    match Command.invertNegative f.command with
    | .ok c => .ok { entry := .corrected .negativeNumber f.command c, next := [c] }
    | .error e => .error e
  | .zeroNumber => .ok { entry := .removed f.command }
  | .uninterpretable | .invalidCapitalLetter _ | .invalidSymbol _ | .invalidNumberFormat _
  | .numberExceedsLimit _ =>
    .ok { entry := .rejected f.message, notes := [.rejected f.command f.message] }

namespace Command

theorem weight_pos (c : Text) : 0 < weight c := by
  unfold weight
  split <;> omega

theorem violationOr_of_validate {c : Text} {f : Failure} (h : validate c = .error f) :
    f.command = c ∧ violationOr c = .error f.violation := by
  unfold validate at h
  cases hv : violationOr c with
  | error v =>
    rw [hv] at h
    obtain rfl := Except.error.inj h
    exact ⟨rfl, rfl⟩
  | ok a =>
    rw [hv] at h
    cases h

/-- The texts that replace a text weigh less than it, all together. -/
theorem weight_repair {c : Text} {f : Failure} {r : Repair} (hc : validate c = .error f)
    (hr : f.repair = .ok r) : totalWeight r.next < weight c := by
  obtain ⟨hf, hv⟩ := violationOr_of_validate hc
  have hpos := weight_pos c
  unfold Failure.repair at hr
  rw [hf] at hr
  split at hr
  · next hk =>
    rw [hk] at hv
    split at hr
    · next c' hi =>
      obtain rfl := Except.ok.inj hr
      exact weight_insertSpace hi (not_mem_of_noSpace hv)
    · obtain rfl := Except.ok.inj hr
      exact hpos
  · next a hk =>
    obtain rfl := Except.ok.inj hr
    exact weight_upper (hk ▸ hv)
  · next s hk =>
    split at hr
    · next cs hi =>
      obtain rfl := Except.ok.inj hr
      exact weight_splitSymbols (hk ▸ hv) hi
    · simp at hr
  · next n hk =>
    split at hr
    · next c' hi =>
      obtain rfl := Except.ok.inj hr
      exact weight_invertNegative (hk ▸ hv) hi
    · simp at hr
  all_goals
    obtain rfl := Except.ok.inj hr
    exact hpos

end Command

end GridRobot
