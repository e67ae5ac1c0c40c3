import GridRobot.Proofs.Log.Report
import GridRobot.Proofs.Run.Lines

/-!
# Running the executed commands again

Each report in a log shows a command in its canonical text. A run over the shown texts needs no
correction: every text is taken for the command that it was written from, whatever texts the command
was first repaired from, and the reports come out as they were.

Main statement: `ofLines_shown`.
-/

namespace GridRobot

/-! ### Canonical texts as lines of input -/

namespace Command

theorem not_mem_canonical {a : Char} (ha : a ≠ ' ') (hd : a.isDigit = false) (hm : a ≠ '-')
    (hs : Direction.ofSymbol? a = none) (cmd : Command) : a ∉ cmd.text := by
  have hsym : a ≠ cmd.direction.symbol := by
    rintro rfl
    rw [Direction.ofSymbol?_symbol] at hs
    cases hs
  have hn := Numeral.not_mem_text hd hm cmd.magnitude
  exact List.not_mem_cons_of_ne_of_not_mem hsym (List.not_mem_cons_of_ne_of_not_mem ha hn)

theorem stripLineEnd_canonical (cmd : Command) : stripLineEnd cmd.text = cmd.text :=
  stripLineEnd_of_not_mem (not_mem_canonical (by decide) (by decide) (by decide) rfl cmd)
    (not_mem_canonical (by decide) (by decide) (by decide) rfl cmd)

theorem canonical_ne_sentinel (cmd : Command) : cmd.text ≠ sentinel := by
  intro h
  have ht := (List.cons.inj h).2
  cases ht

/-- Every canonical text among the lines is taken as it stands, and none ends the input. -/
theorem takeCommands_canonical (cmds : List Command) :
    takeCommands (cmds.map text) = ⟨cmds.map text, [], false⟩ := by
  induction cmds with
  | nil => rfl
  | cons cmd cmds ih =>
    rw [List.map_cons, takeCommands, stripLineEnd_canonical, if_neg (canonical_ne_sentinel cmd), ih]

theorem violationOr_canonical {cmd : Command} (h : 1 ≤ cmd.magnitude ∧ cmd.magnitude ≤ 100) :
    violationOr cmd.text = .ok cmd := by
  obtain ⟨hp, hl⟩ := h
  have hw : Numeral.Writable cmd.magnitude := Numeral.writable_of_le (by omega)
  rw [violationOr_text cmd hw hp]
  exact if_pos hl

end Command

/-! ### Scripts that only move -/

namespace Outcome

theorem moves_map_move (cs : List Command) : moves (cs.map .move) = cs := by
  induction cs with
  | nil => rfl
  | cons c cs ih => exact congrArg (c :: ·) ih

theorem entries_map_move (p : Position) (cs : List Command) :
    entries p (cs.map .move) = p.trail cs := by
  induction cs generalizing p with
  | nil => rfl
  | cons c cs ih => exact congrArg (_ :: ·) (ih (p.movedBy c))

/-- Commands that ask for a distance within the limit can be played as they stand. -/
theorem sound_map_move {cs : List Command} (h : ∀ c ∈ cs, 1 ≤ c.magnitude ∧ c.magnitude ≤ 100) :
    Sound (cs.map .move) cs.length := by
  refine ⟨?_, ?_, ?_⟩
  · rw [List.all_map]
    exact List.all_eq_true.mpr fun _ _ => rfl
  · rw [moves_map_move]
    exact h
  · rw [moves_map_move]

end Outcome

theorem scriptOfLines_canonical {cmds : List Command}
    (h : ∀ c ∈ cmds, 1 ≤ c.magnitude ∧ c.magnitude ≤ 100) :
    scriptOfLines (cmds.map Command.text) = cmds.map .move := by
  unfold scriptOfLines
  rw [Command.takeCommands_canonical]
  induction cmds with
  | nil => rfl
  | cons c cmds ih =>
    have hc := Command.script_of_ok (Command.violationOr_canonical (h c (List.mem_cons_self ..)))
    have hi := ih fun d hd => h d (List.mem_cons_of_mem _ hd)
    simp only [List.map_cons, List.flatMap_cons, hc] at hi ⊢
    rw [hi]
    rfl

/-! ### The texts that a log shows -/

/-- The canonical text that a report shows. -/
def Entry.shown? : Entry → Option Text
  | .executed c _ => some c.text
  | .corrected _ _ _ | .split | .removed _ | .rejected _ => none

/-- The canonical texts that the log shows, in their order. -/
def Run.shown (r : Run) : List Text :=
  r.log.toList.filterMap Entry.shown?

theorem Outcome.shown_entries {os : List Outcome} (h : os.all isProper = true) (p : Position) :
    (entries p os).filterMap Entry.shown? = (moves os).map Command.text := by
  induction os generalizing p with
  | nil => rfl
  | cons o os ih =>
    obtain ⟨ho, hos⟩ := Bool.and_eq_true_iff.mp h
    cases o with
    | move c => exact congrArg (c.text :: ·) (ih hos (p.movedBy c))
    | entry e =>
      cases e with
      | executed c q => cases ho
      | corrected k before after => exact ih hos p
      | split => exact ih hos p
      | removed c => exact ih hos p
      | rejected m => exact ih hos p

namespace Run

theorem shown_of_log {r : Run} {p : Position} {os : List Outcome}
    (h : os.all Outcome.isProper = true) (hl : r.log.toList = Outcome.entries p os) :
    r.shown = (Outcome.moves os).map Command.text := by
  rw [shown, hl, Outcome.shown_entries h]

/-! ### Runs over canonical texts -/

theorem notes_perform (r : Run) (cmd : Command) : (r.perform cmd).notes = r.notes := by
  by_cases hw : Numeral.Writable cmd.magnitude ∧
      (r.position.moved cmd.direction cmd.magnitude).Writable
  · rw [perform, execute, if_pos hw]
    rfl
  · rw [perform, execute, if_neg hw]

theorem notes_process_of_ok {c : Text} {cmd : Command} (h : Command.violationOr c = .ok cmd)
    (r : Run) : (r.process c).notes = r.notes := by
  cases hf : r.fault with
  | some f => rw [process_of_fault hf]
  | none => rw [process_of_ok hf (Command.validate_of_ok h), notes_perform]

theorem notes_foldl_canonical {cmds : List Command}
    (h : ∀ c ∈ cmds, 1 ≤ c.magnitude ∧ c.magnitude ≤ 100) (r : Run) :
    ((cmds.map Command.text).foldl process r).notes = r.notes := by
  induction cmds generalizing r with
  | nil => rfl
  | cons c cmds ih =>
    have hc := Command.violationOr_canonical (h c (List.mem_cons_self ..))
    rw [List.map_cons, List.foldl_cons, ih fun d hd => h d (List.mem_cons_of_mem _ hd)]
    exact notes_process_of_ok hc r

theorem notes_ofLines_canonical {cmds : List Command}
    (h : ∀ c ∈ cmds, 1 ≤ c.magnitude ∧ c.magnitude ≤ 100) :
    (ofLines (cmds.map Command.text)).notes = #[] := by
  rw [ofLines, processCommands, Command.takeCommands_canonical]
  exact notes_foldl_canonical h {}

/-- A run over canonical texts makes the moves of their commands, and logs nothing else. -/
theorem ledger_ofLines_canonical {cmds : List Command}
    (h : ∀ c ∈ cmds, 1 ≤ c.magnitude ∧ c.magnitude ≤ 100)
    (hr : Position.origin.HasRoom cmds.length) :
    (ofLines (cmds.map Command.text)).ledger =
      ⟨cmds.foldl Position.movedBy .origin, Position.trail .origin cmds, none⟩ := by
  have hp := Ledger.play_of_sound (Outcome.sound_map_move h) hr []
  rw [Outcome.last_eq_foldl_moves, Outcome.moves_map_move, Outcome.entries_map_move] at hp
  rw [ofLines, ledger_processCommands_eq_play, scriptOfLines_canonical h]
  exact hp

end Run

/-- The texts that the log of a run shows are run again without a correction, a split, a rejection
or any other remark. No text ends the input, each one leads to one report, and the reports and the
place of the robot are those of the first run. -/
theorem ofLines_shown {lines : List Text} (h : totalLength lines < 10 ^ 4298) {first again : Run}
    (hf : Run.ofLines lines = first) (ha : Run.ofLines first.shown = again) :
    first.fault = none ∧ again.fault = none ∧
      takeCommands first.shown = ⟨first.shown, [], false⟩ ∧
      (∀ c ∈ first.shown, ∃ cmd, Command.validate c = .ok cmd) ∧
      again.log.size = first.shown.length ∧
      (∀ e ∈ again.log, e.isExecution = true) ∧
      again.logTexts = first.reports ∧
      again.position = first.position ∧
      again.notes = #[] := by
  have hs := sound_scriptOfLines lines
  have hl := Run.ledger_ofLines h
  rw [hf, Outcome.last_eq_foldl_moves] at hl
  have hlog : first.log.toList = Outcome.entries .origin (scriptOfLines lines) :=
    congrArg Ledger.log hl
  have hshown := Run.shown_of_log hs.proper hlog
  have hreports := Run.reports_of_log hs.proper hlog
  have hp := congrArg Ledger.position hl
  have hb := hs.magnitude
  have hroom := Position.hasRoom_origin (Nat.lt_of_le_of_lt hs.length_le h)
  -- from here on, the first run is known by its moves
  generalize Outcome.moves (scriptOfLines lines) = cmds at hshown hreports hp hb hroom
  rw [hshown] at ha ⊢
  have hla := Run.ledger_ofLines_canonical hb hroom
  rw [ha] at hla
  have hloga : again.log.toList = Position.trail .origin cmds := congrArg Ledger.log hla
  refine ⟨congrArg Ledger.fault hl, congrArg Ledger.fault hla,
    Command.takeCommands_canonical cmds, ?_, ?_, ?_, ?_, ?_, ?_⟩
  · intro c hc
    obtain ⟨cmd, hcmd, rfl⟩ := List.mem_map.mp hc
    exact ⟨cmd, Command.validate_of_ok (Command.violationOr_canonical (hb cmd hcmd))⟩
  · rw [← Array.length_toList, hloga, Position.length_trail, List.length_map]
  · intro e he
    rw [← Array.mem_toList_iff, hloga] at he
    exact Position.isExecution_of_mem_trail he
  · rw [Run.logTexts, hloga, hreports]
  · exact (congrArg Ledger.position hla).trans hp.symm
  · rw [← ha]
    exact Run.notes_ofLines_canonical hb

/-- A small letter, a negative number and a missing space are repaired in the first run, and none of
it is left in the second. -/
theorem ofLines_shown_of_repaired :
    totalLength ["ne 5".toList, "W -3".toList, "zz".toList, "S7".toList, "Q".toList, "N 1".toList]
        < 10 ^ 4298 ∧
      (Run.ofLines (Run.ofLines ["ne 5".toList, "W -3".toList, "zz".toList, "S7".toList,
          "Q".toList, "N 1".toList]).shown).position = ⟨8, -2⟩ := by
  have hl : totalLength ["ne 5".toList, "W -3".toList, "zz".toList, "S7".toList, "Q".toList,
      "N 1".toList] < 10 ^ 4298 := by decide +kernel
  obtain ⟨_, _, _, _, _, _, _, hp, _⟩ := ofLines_shown hl rfl rfl
  refine ⟨hl, hp.trans ?_⟩
  decide +kernel

end GridRobot
