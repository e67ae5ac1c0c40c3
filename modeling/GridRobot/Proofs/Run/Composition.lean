import GridRobot.Proofs.Run.Lines

/-!
# Runs one after the other

A run only adds to its log, and what it adds hangs on the place of the robot and on the lines alone.
So lines can be cut in two and run one part after the other, as long as the cut does not come behind
a sentinel. A sentinel ends a run as if there were no lines from it on, and these are not taken.

Main statement: `processCommands_compose`.
-/

namespace GridRobot

/-! ### Lines with and without a sentinel -/

/-- The line is the sentinel with nothing but carriage returns and line feeds behind it. -/
def IsSentinel (line : Text) : Prop :=
  ∃ e, line = sentinel ++ e ∧ ∀ c ∈ e, c = '\r' ∨ c = '\n'

theorem stripLineEnd_eq_sentinel_iff {line : Text} :
    stripLineEnd line = sentinel ↔ IsSentinel line := by
  constructor
  · intro h
    obtain ⟨e, hl, he⟩ := exists_eq_stripLineEnd_append line
    rw [h] at hl
    exact ⟨e, hl, he⟩
  · rintro ⟨e, rfl, he⟩
    have hdrop : ∀ c ∈ e.reverse, (c = '\r' || c = '\n') = true := by
      intro c hc
      have := he c (List.mem_reverse.mp hc)
      simpa using this
    rw [stripLineEnd, List.reverse_append, List.dropWhile_append_of_pos hdrop]
    rfl

theorem takeCommands_append_of_ne {before : List Text} (h : ∀ line ∈ before, ¬IsSentinel line)
    (later : List Text) :
    takeCommands (before ++ later) =
      { takeCommands later with
        commands := before.map stripLineEnd ++ (takeCommands later).commands } := by
  induction before with
  | nil => rfl
  | cons line before ih =>
    have hline : stripLineEnd line ≠ sentinel := by
      intro hs
      exact h line (List.mem_cons_self ..) (stripLineEnd_eq_sentinel_iff.mp hs)
    have hbefore := ih fun l hl => h l (List.mem_cons_of_mem _ hl)
    rw [List.cons_append, takeCommands, if_neg hline, hbefore]
    rfl

theorem commands_takeCommands_of_ne {lines : List Text} (h : ∀ line ∈ lines, ¬IsSentinel line) :
    (takeCommands lines).commands = lines.map stripLineEnd := by
  have ht := takeCommands_append_of_ne h []
  rw [List.append_nil] at ht
  rw [ht]
  exact List.append_nil _

theorem scriptOfLines_append {before : List Text} (h : ∀ line ∈ before, ¬IsSentinel line)
    (later : List Text) :
    scriptOfLines (before ++ later) = scriptOfLines before ++ scriptOfLines later := by
  rw [scriptOfLines, scriptOfLines, scriptOfLines, takeCommands_append_of_ne h,
    commands_takeCommands_of_ne h, List.flatMap_append]

/-! ### Older entries -/

namespace Ledger

/-- The ledger with the entries of an older log in front of its own. -/
def behind (log : List Entry) (l : Ledger) : Ledger :=
  { l with log := log ++ l.log }

theorem behind_nil (log : List Entry) (p : Position) (f : Option Fault) :
    behind log ⟨p, [], f⟩ = ⟨p, log, f⟩ := by
  rw [behind, List.append_nil]

theorem take_behind (log : List Entry) (l : Ledger) (o : Outcome) :
    (l.behind log).take o = (l.take o).behind log := by
  cases o with
  | entry e =>
    show (⟨l.position, log ++ l.log ++ [e], l.fault⟩ : Ledger) = _
    rw [List.append_assoc]
    rfl
  | move c =>
    show (l.behind log).perform c = (l.perform c).behind log
    by_cases hw : Numeral.Writable c.magnitude ∧ (l.position.moved c.direction c.magnitude).Writable
    · have hl : l.perform c = { l with position := l.position.moved c.direction c.magnitude }.record
          (.executed c (l.position.moved c.direction c.magnitude)) := if_pos hw
      rw [hl]
      refine (if_pos hw).trans ?_
      simp only [record, behind, List.append_assoc]
    · have hl : l.perform c = { l with
          position := l.position.moved c.direction c.magnitude }.stop (.numeral .unwritable) :=
        if_neg hw
      rw [hl]
      exact if_neg hw

theorem play_behind (log : List Entry) (l : Ledger) (os : List Outcome) :
    (l.behind log).play os = (l.play os).behind log := by
  induction os generalizing l with
  | nil => rfl
  | cons o os ih =>
    cases hf : l.fault with
    | some f =>
      have hb : (l.behind log).fault = some f := hf
      rw [play_of_some hb, play_of_some hf]
    | none =>
      have hb : (l.behind log).fault = none := hf
      rw [play_cons hb, play_cons hf, take_behind, ih]

theorem play_of_log (p : Position) (log : List Entry) (os : List Outcome) :
    (⟨p, log, none⟩ : Ledger).play os = ((⟨p, [], none⟩ : Ledger).play os).behind log := by
  rw [← play_behind, behind_nil]

theorem fault_of_play {l : Ledger} {os : List Outcome} (h : (l.play os).fault = none) :
    l.fault = none := by
  cases hf : l.fault with
  | none => rfl
  | some f =>
    rw [play_of_some hf, hf] at h
    cases h

end Ledger

/-! ### Runs with a log of their own -/

namespace Run

/-- The run of a robot that stands at `p` over some lines, with an empty log. -/
def linesFrom (p : Position) (lines : List Text) : Run :=
  Run.processCommands ⟨p, #[], #[], none⟩ lines

theorem ledger_linesFrom (p : Position) (lines : List Text) :
    (linesFrom p lines).ledger = (⟨p, [], none⟩ : Ledger).play (scriptOfLines lines) :=
  ledger_processCommands_eq_play _ lines

end Run

/-- Every place that the robot gets to, from `p` on, by the commands among some lines can be
written. -/
def Position.WritableOver (p : Position) (lines : List Text) : Prop :=
  ∀ a ∈ (Command.executions (takeCommands lines).commands).scanl movedBy p, a.Writable

namespace Run

variable {p : Position} {lines before later : List Text} {line c : Text}

theorem fault_linesFrom (h : p.WritableOver lines) : (linesFrom p lines).fault = none :=
  congrArg Ledger.fault (ledger_processCommands_of_writable h #[] #[])

theorem ledger_linesFrom_append (hs : ∀ line ∈ before, ¬IsSentinel line)
    (hf : (linesFrom p (before ++ later)).fault = none) :
    (linesFrom p before).fault = none ∧
      (linesFrom (linesFrom p before).position later).fault = none ∧
      (linesFrom p (before ++ later)).ledger =
        (linesFrom (linesFrom p before).position later).ledger.behind
          (linesFrom p before).log.toList := by
  have hwhole := ledger_linesFrom p (before ++ later)
  rw [scriptOfLines_append hs, Ledger.play_append, ← ledger_linesFrom] at hwhole
  have hfault : ((linesFrom p before).ledger.play (scriptOfLines later)).fault = none := by
    rw [← hwhole]
    exact hf
  have hfirst : (linesFrom p before).fault = none := Ledger.fault_of_play hfault
  have hledger : (linesFrom p before).ledger =
      ⟨(linesFrom p before).position, (linesFrom p before).log.toList, none⟩ := by
    rw [← hfirst]
    rfl
  rw [hledger, Ledger.play_of_log, ← ledger_linesFrom] at hwhole
  rw [hledger, Ledger.play_of_log, ← ledger_linesFrom] at hfault
  exact ⟨hfirst, hfault, hwhole⟩

theorem ledger_linesFrom_sentinel (hq : IsSentinel line) (p : Position) (before later : List Text) :
    (linesFrom p (before ++ line :: later)).ledger = (linesFrom p before).ledger := by
  have hc := (takeCommands_append_sentinel (stripLineEnd_eq_sentinel_iff.mpr hq) before later).1
  rw [ledger_linesFrom, ledger_linesFrom, scriptOfLines, hc, ← scriptOfLines]

/-- What a text adds to the log and where it leads the robot is the same after any log. -/
theorem exists_ledger_process (p : Position) (c : Text) :
    ∃ new q f, (∀ (log : Array Entry) (notes : Array Note),
        (Run.process ⟨p, log, notes, none⟩ c).ledger = ⟨q, log.toList ++ new, f⟩) ∧
      ((∀ a ∈ (Command.executions [c]).scanl Position.movedBy p, a.Writable) → f = none) := by
  let played := (⟨p, [], none⟩ : Ledger).play (Command.script c)
  refine ⟨played.log, played.position, played.fault, ?_, ?_⟩
  · intro log notes
    rw [ledger_process_eq_play]
    exact Ledger.play_of_log p log.toList (Command.script c)
  · intro h
    rw [Command.executions_eq_moves, List.flatMap_singleton] at h
    have hm : ∀ cmd ∈ Outcome.moves (Command.script c), cmd.magnitude.natAbs ≤ 100 :=
      (Outcome.sound_script c).natAbs_le
    have hplay := Ledger.play_of_writable hm (fun a ha => h a (Outcome.mem_scanl_movedBy ha)) []
    exact congrArg Ledger.fault hplay

end Run

open Run in
/-- From every place, a text adds the same entries to every log. Lines without a sentinel and lines
behind them are run as the former and then the latter, and where the places on the way can be
written, all of these runs return. Lines up to a sentinel are run as those before it, and if it is
the first one, just these are taken and all lines behind it are left. -/
theorem processCommands_compose (p : Position) :
    (∀ c : Text, ∃ new q f, (∀ (log : Array Entry) (notes : Array Note),
        (Run.process ⟨p, log, notes, none⟩ c).ledger = ⟨q, log.toList ++ new, f⟩) ∧
      ((∀ a ∈ (Command.executions [c]).scanl Position.movedBy p, a.Writable) → f = none)) ∧
    (∀ before later : List Text, (∀ line ∈ before, ¬IsSentinel line) →
      p.WritableOver (before ++ later) →
        (linesFrom p before).fault = none ∧
        (linesFrom (linesFrom p before).position later).fault = none ∧
        (linesFrom p (before ++ later)).ledger =
          ⟨(linesFrom (linesFrom p before).position later).position,
            (linesFrom p before).log.toList ++
              (linesFrom (linesFrom p before).position later).log.toList, none⟩) ∧
    (∀ (before : List Text) (line : Text) (later : List Text), IsSentinel line →
      (linesFrom p (before ++ line :: later)).ledger = (linesFrom p before).ledger ∧
      (p.WritableOver before → (linesFrom p before).fault = none) ∧
      ((∀ l ∈ before, ¬IsSentinel l) →
        takeCommands (before ++ line :: later) = ⟨before.map stripLineEnd, later, true⟩)) := by
  refine ⟨exists_ledger_process p, ?_, ?_⟩
  · intro before later hs hw
    obtain ⟨hfirst, hsecond, hwhole⟩ := ledger_linesFrom_append hs (fault_linesFrom hw)
    refine ⟨hfirst, hsecond, ?_⟩
    rw [hwhole, ← hsecond]
    rfl
  · intro before line later hq
    refine ⟨ledger_linesFrom_sentinel hq p before later, fault_linesFrom, ?_⟩
    intro hs
    have ht : takeCommands (line :: later) = ⟨[], later, true⟩ :=
      if_pos (stripLineEnd_eq_sentinel_iff.mpr hq)
    rw [takeCommands_append_of_ne hs, ht, List.append_nil]

/-- A sentinel with a space behind it does not cut, and one with three line ends does. -/
theorem processCommands_compose_of_near_sentinel :
    let before := ["Q ".toList, "nE3\r\n".toList]
    let later := ["e -2".toList]
    (∀ line ∈ before, ¬IsSentinel line) ∧ IsSentinel "Q\r\n\n".toList ∧
      Position.origin.WritableOver (before ++ later) ∧
      (Run.linesFrom .origin (before ++ later)).position =
        (Run.linesFrom (Run.linesFrom .origin before).position later).position ∧
      (Run.linesFrom .origin (before ++ "Q\r\n\n".toList :: later)).ledger =
        (Run.linesFrom .origin before).ledger ∧
      takeCommands (before ++ "Q\r\n\n".toList :: later) =
        ⟨["Q ".toList, "nE3".toList], later, true⟩ := by
  intro before later
  obtain ⟨_, hcompose, hcut⟩ := processCommands_compose .origin
  have hs : ∀ line ∈ before, ¬IsSentinel line := by
    have hne : ∀ line ∈ before, stripLineEnd line ≠ sentinel := by decide
    intro line hl hq
    exact hne line hl (stripLineEnd_eq_sentinel_iff.mpr hq)
  have hq : IsSentinel "Q\r\n\n".toList := stripLineEnd_eq_sentinel_iff.mp rfl
  have hw : Position.origin.WritableOver (before ++ later) := by
    unfold Position.WritableOver
    rw [Command.executions_eq_moves]
    decide +kernel
  obtain ⟨_, _, hwhole⟩ := hcompose before later hs hw
  obtain ⟨hledger, _, htaken⟩ := hcut before "Q\r\n\n".toList later hq
  exact ⟨hs, hq, hw, congrArg Ledger.position hwhole, hledger, htaken hs⟩

end GridRobot
