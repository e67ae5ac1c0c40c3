import GridRobot.Proofs.Command.Boundary
import GridRobot.Proofs.Command.Resubmission
import GridRobot.Proofs.Run.Continuation

/-!
# The script of a text

What becomes of a text does not depend on the place of the robot or on the log. It is written down
here as a script: the entries and the moves that the text leads to, read off its symbol and its
number without a worklist and without validating a repaired text again.

Main statement: processing a text plays its script (`ledger_process_eq_play`).
-/

namespace GridRobot

/-- A move of the robot, which is logged with the place that it leads to, or an entry of the log. -/
inductive Outcome where
  | move (c : Command)
  | entry (e : Entry)
  deriving DecidableEq

namespace Ledger

def take (l : Ledger) : Outcome → Ledger
  | .move c => l.perform c
  | .entry e => l.record e

/-- The outcomes one after the other, up to a fault. -/
def play (l : Ledger) (os : List Outcome) : Ledger :=
  os.foldl (fun l o => l.andThen (·.take o)) l

theorem play_nil (l : Ledger) : l.play [] = l := rfl

theorem play_cons {l : Ledger} (h : l.fault = none) (o : Outcome) (os : List Outcome) :
    l.play (o :: os) = (l.take o).play os := by
  rw [play, List.foldl_cons, andThen_of_none h]
  rfl

theorem play_append (l : Ledger) (os ps : List Outcome) : l.play (os ++ ps) = (l.play os).play ps :=
  List.foldl_append

theorem play_of_some {l : Ledger} {f : Fault} (h : l.fault = some f) (os : List Outcome) :
    l.play os = l := by
  induction os with
  | nil => rfl
  | cons o os ih =>
    rw [play, List.foldl_cons, andThen_of_some h]
    exact ih

end Ledger

namespace Command

def rejection (c : Text) (v : Violation) : Outcome :=
  .entry (.rejected (Failure.message ⟨c, v⟩))

/-- The end of a text that asks for a distance above zero. -/
def ending (c : Text) (cmd : Command) : Outcome :=
  if cmd.magnitude ≤ maxMagnitude then .move cmd
  else rejection c (.numberExceedsLimit cmd.magnitude)

/-- The script of a text with the symbol of `d` and the number token `t`. -/
def scriptOfDirection (c : Text) (d : Direction) (t : Text) : List Outcome :=
  match Numeral.literal? t with
  | none => [rejection c (.invalidNumberFormat t)]
  | some n =>
    if n < 0 then
      [.entry (.corrected .negativeNumber c (text ⟨d.opposite, -n⟩)),
        ending (text ⟨d.opposite, -n⟩) ⟨d.opposite, -n⟩]
    else if n = 0 then [.entry (.removed c)]
    else [ending c ⟨d, n⟩]

def scriptOfSymbol (c : Text) (a : Char) (t : Text) : List Outcome :=
  match Direction.ofSymbol? a, Direction.ofLetter? a with
  | some d, _ => scriptOfDirection c d t
  | none, some d =>
    .entry (.corrected .lowercaseLetter c c.upper) :: scriptOfDirection c.upper d t.upper
  | none, none => [rejection c (if a.isUpper then .invalidCapitalLetter a else .invalidSymbol [a])]

def scriptOfTokens (c s t : Text) : List Outcome :=
  match s with
  | [] => [rejection c (.invalidSymbol [])]
  | [a] => scriptOfSymbol c a t
  | s => .entry .split :: s.flatMap fun a => scriptOfSymbol (a :: ' ' :: t) a t

def script (c : Text) : List Outcome :=
  if ' ' ∈ c then
    match tokens c with
    | [s, t] => scriptOfTokens c s t
    | _ => [rejection c .uninterpretable]
  else
    match boundary? c with
    | some i =>
      .entry (.corrected .missingSpace c (spacedAt c i)) ::
        scriptOfTokens (spacedAt c i) (c.take i) (c.drop i)
    | none => [.entry (.rejected (Failure.uninterpretableMessage c))]

/-! ### Scripts unfold as texts are settled -/

/-- The script says what the verdict on the text makes of it: a command is one move, and any other
text is the entry of its repair with the scripts of the texts that replace it. -/
inductive Unfolds (c : Text) : List Outcome → Prop where
  | move {cmd : Command} (h : violationOr c = .ok cmd) : Unfolds c [.move cmd]
  | repaired {v : Violation} {repair : Repair} {os : List Outcome} (h : violationOr c = .error v)
    (hr : Failure.repair ⟨c, v⟩ = .ok repair) (hos : os = repair.next.flatMap script) :
    Unfolds c (.entry repair.entry :: os)

variable {c s t : Text} {a : Char} {d : Direction}

theorem script_of_pair (h : tokens c = [s, t]) : script c = scriptOfTokens c s t := by
  rw [script, if_pos (mem_space_of_tokens h), h]

theorem script_of_direction (h : tokens c = [[d.symbol], t]) :
    script c = scriptOfDirection c d t := by
  rw [script_of_pair h, scriptOfTokens, scriptOfSymbol, Direction.ofSymbol?_symbol]

/-- A canonical text that asks for a distance above zero ends at once. -/
theorem script_text (cmd : Command) (hw : Numeral.Writable cmd.magnitude)
    (hp : 0 < cmd.magnitude) : script cmd.text = [ending cmd.text cmd] := by
  have hneg : ¬cmd.magnitude < 0 := by omega
  have hz : cmd.magnitude ≠ 0 := by omega
  rw [script_of_direction (tokens_text cmd), scriptOfDirection, Numeral.literal?_text hw]
  simp only [hneg, hz, if_false]

theorem unfolds_rejection {v : Violation} (hv : violationOr c = .error v) (hf : v.IsFinal) :
    Unfolds c [rejection c v] :=
  .repaired hv (repair_of_isFinal hf) rfl

theorem unfolds_ending {cmd : Command}
    (hv : violationOr c =
      if cmd.magnitude ≤ maxMagnitude then .ok cmd
      else .error (.numberExceedsLimit cmd.magnitude)) :
    Unfolds c [ending c cmd] := by
  unfold ending
  by_cases hl : cmd.magnitude ≤ maxMagnitude
  · rw [if_pos hl] at hv ⊢
    exact .move hv
  · rw [if_neg hl] at hv ⊢
    exact unfolds_rejection hv trivial

theorem unfolds_scriptOfDirection (h : tokens c = [[d.symbol], t]) :
    Unfolds c (scriptOfDirection c d t) := by
  unfold scriptOfDirection
  cases hn : Numeral.literal? t with
  | none => exact unfolds_rejection (violationOr_of_unreadable h hn) trivial
  | some n =>
    simp only
    by_cases hneg : n < 0
    · have hl := Numeral.isLiteral_of_literal? hn
      have hv := violationOr_of_neg h hn hneg
      have hr := repair_of_invertNegative (n := n) (invertNegative_of_literal h hl hneg)
      have hp : 0 < -n := by omega
      have hs := script_text ⟨d.opposite, -n⟩ hl.writable.neg hp
      rw [if_pos hneg]
      refine .repaired hv hr ?_
      rw [List.flatMap_singleton, hs]
    · rw [if_neg hneg]
      by_cases hz : n = 0
      · subst hz
        exact .repaired (violationOr_of_zero h hn) rfl rfl
      · have hp : 0 < n := by omega
        rw [if_neg hz]
        exact unfolds_ending (violationOr_of_pos h hn hp)

theorem unfolds_scriptOfSymbol (h : tokens c = [[a], t]) : Unfolds c (scriptOfSymbol c a t) := by
  unfold scriptOfSymbol
  cases hs : Direction.ofSymbol? a with
  | some d =>
    obtain rfl := Direction.eq_symbol_of_ofSymbol? hs
    exact unfolds_scriptOfDirection h
  | none =>
    cases hl : Direction.ofLetter? a with
    | some d =>
      refine .repaired (violationOr_of_small h hs hl) rfl ?_
      rw [List.flatMap_singleton, script_of_direction (tokens_upper_of_letter h hl)]
    | none => exact unfolds_rejection (violationOr_of_other h hl) (Violation.isFinal_of_other a)

theorem unfolds_scriptOfTokens (h : tokens c = [s, t]) : Unfolds c (scriptOfTokens c s t) := by
  match s with
  | [] => exact unfolds_rejection (violationOr_of_empty h) trivial
  | [a] => exact unfolds_scriptOfSymbol h
  | a :: b :: s =>
    obtain ⟨hs, ht, hn, _⟩ := tokens_eq_pair_iff.mp h
    refine .repaired (violationOr_of_several h (by simp)) (repair_of_pair h) ?_
    rw [List.flatMap_map]
    refine List.flatMap_congr fun x hx => ?_
    have hne : ' ' ≠ x := fun he => hs (he ▸ hx)
    exact (script_of_pair (tokens_letter hne ht hn)).symm

theorem unfolds_script (c : Text) : Unfolds c (script c) := by
  unfold script
  by_cases hs : ' ' ∈ c
  · rw [if_pos hs]
    split
    · next s t h => exact unfolds_scriptOfTokens h
    · next h => exact unfolds_rejection (violationOr_of_ne_pair hs h) trivial
  · have hv := violationOr_of_not_mem hs
    have hc := insertSpace_eq c
    rw [if_neg hs]
    cases hb : boundary? c with
    | some i =>
      rw [hb] at hc
      refine .repaired hv (repair_of_insertSpace hc) ?_
      rw [List.flatMap_singleton, script_of_pair (tokens_spacedAt hs hb)]
    | none =>
      rw [hb] at hc
      exact .repaired hv (repair_of_noBoundary hc) rfl

theorem Unfolds.of_ok {os : List Outcome} {cmd : Command} (hu : Unfolds c os)
    (h : violationOr c = .ok cmd) : os = [.move cmd] := by
  cases hu with
  | move hv =>
    rw [h] at hv
    cases hv
    rfl
  | repaired hv _ _ =>
    rw [h] at hv
    cases hv

theorem Unfolds.of_error {os : List Outcome} {v : Violation} (hu : Unfolds c os)
    (h : violationOr c = .error v) :
    ∃ repair, Failure.repair ⟨c, v⟩ = .ok repair ∧
      os = .entry repair.entry :: repair.next.flatMap script := by
  cases hu with
  | move hv =>
    rw [h] at hv
    cases hv
  | repaired hv hr hos =>
    rw [h] at hv
    cases hv
    exact ⟨_, hr, by rw [hos]⟩

theorem script_of_ok {cmd : Command} (h : violationOr c = .ok cmd) : script c = [.move cmd] :=
  (unfolds_script c).of_ok h

/-- Every broken rule has a repair, and no repair fails. -/
theorem script_of_error {v : Violation} (h : violationOr c = .error v) :
    ∃ repair, Failure.repair ⟨c, v⟩ = .ok repair ∧
      script c = .entry repair.entry :: repair.next.flatMap script :=
  (unfolds_script c).of_error h

theorem weight_le_totalWeight {cs : List Text} (h : c ∈ cs) : weight c ≤ totalWeight cs := by
  induction cs with
  | nil => cases h
  | cons d cs ih =>
    rw [totalWeight]
    cases h with
    | head => omega
    | tail _ hc =>
      have := ih hc
      omega

end Command

namespace Run

theorem ledger_foldl_process_eq_play (cs : List Text)
    (ih : ∀ c ∈ cs, ∀ r : Run, (r.process c).ledger = r.ledger.play (Command.script c)) (r : Run) :
    (cs.foldl process r).ledger = r.ledger.play (cs.flatMap Command.script) := by
  induction cs generalizing r with
  | nil => rfl
  | cons c cs ihs =>
    have hc := ih c (List.mem_cons_self ..) r
    have hr := ihs (fun d hd => ih d (List.mem_cons_of_mem _ hd)) (r.process c)
    rw [List.foldl_cons, hr, hc, List.flatMap_cons, Ledger.play_append]

/-- Processing a text plays its script, whatever the place of the robot and the log. -/
theorem ledger_process_eq_play (r : Run) (c : Text) :
    (r.process c).ledger = r.ledger.play (Command.script c) := by
  induction hw : Command.weight c using Nat.strongRecOn generalizing c r with
  | ind w ih =>
    subst hw
    cases hf : r.fault with
    | some f =>
      have hl : r.ledger.fault = some f := hf
      rw [process_of_fault hf, Ledger.play_of_some hl]
    | none =>
      have hl : r.ledger.fault = none := hf
      cases hv : Command.violationOr c with
      | ok cmd =>
        rw [Command.script_of_ok hv, Ledger.play_cons hl, Ledger.play_nil]
        exact ledger_of_ok hf hv
      | error v =>
        obtain ⟨repair, hr, hs⟩ := Command.script_of_error hv
        obtain ⟨r', _, hl', hp⟩ := goesOn_of_repair hf hv hr
        have hw := Command.weight_repair (Command.validate_of_error hv) hr
        -- the texts that replace `c` weigh less, so their scripts are played
        have hn : ∀ d ∈ repair.next, ∀ r : Run,
            (r.process d).ledger = r.ledger.play (Command.script d) := by
          intro d hd r
          have hd' := Command.weight_le_totalWeight hd
          exact ih _ (by omega) r d rfl
        rw [hp, ledger_foldl_process_eq_play _ hn, hl', hs, Ledger.play_cons hl]
        rfl

end Run

end GridRobot
