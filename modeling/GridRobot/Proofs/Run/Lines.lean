import GridRobot.Proofs.Run.Displacement
import GridRobot.Proofs.Run.Executions
import GridRobot.Run.Lines
import Mathlib.Algebra.Group.Nat.Defs

/-!
# Runs over lines of input

The commands of some lines are settled one after the other, so a run over the lines plays the
scripts of the commands. How far the robot gets is bounded by the length of the lines, and from the
origin there is room for all lines of less than `10 ^ 4298` characters together.

Main statement: with room, such a run ends where the scripts lead to, and logs what they say
(`ledger_processCommands_of_hasRoom`).
-/

namespace GridRobot

/-- The number of characters of some texts together. -/
def totalLength : List Text → Nat
  | [] => 0
  | t :: ts => t.length + totalLength ts

theorem totalLength_append (ts us : List Text) :
    totalLength (ts ++ us) = totalLength ts + totalLength us := by
  induction ts with
  | nil => exact (Nat.zero_add _).symm
  | cons t ts ih => rw [List.cons_append, totalLength, totalLength, ih, Nat.add_assoc]

/-! ### Taking the commands of some lines -/

theorem exists_eq_stripLineEnd_append (line : Text) :
    ∃ e, line = stripLineEnd line ++ e ∧ ∀ c ∈ e, c = '\r' ∨ c = '\n' := by
  let isEnd : Char → Bool := fun c => c = '\r' || c = '\n'
  refine ⟨(line.reverse.takeWhile isEnd).reverse, ?_, ?_⟩
  · have hcut : line.reverse.takeWhile isEnd ++ line.reverse.dropWhile isEnd = line.reverse :=
      List.takeWhile_append_dropWhile
    have hrev := congrArg List.reverse hcut
    rw [List.reverse_append, List.reverse_reverse] at hrev
    exact hrev.symm
  · intro c hc
    have hall : ∀ d ∈ line.reverse.takeWhile isEnd, isEnd d = true :=
      List.all_eq_true.mp List.all_takeWhile
    have hend := hall c (List.mem_reverse.mp hc)
    simpa [isEnd] using hend

theorem stripLineEnd_subset (line : Text) : stripLineEnd line ⊆ line := by
  obtain ⟨e, hl, _⟩ := exists_eq_stripLineEnd_append line
  intro c hc
  rw [hl]
  exact List.mem_append_left e hc

theorem length_stripLineEnd_le (line : Text) : (stripLineEnd line).length ≤ line.length := by
  obtain ⟨e, hl, _⟩ := exists_eq_stripLineEnd_append line
  have hlen := congrArg List.length hl
  rw [List.length_append] at hlen
  omega

theorem totalLength_commands_le (lines : List Text) :
    totalLength (takeCommands lines).commands ≤ totalLength lines := by
  induction lines with
  | nil => exact Nat.le_refl 0
  | cons line lines ih =>
    have hl := length_stripLineEnd_le line
    unfold takeCommands
    split
    · exact Nat.zero_le _
    · rw [totalLength, totalLength]
      omega

theorem stripLineEnd_of_not_mem {line : Text} (hr : '\r' ∉ line) (hn : '\n' ∉ line) :
    stripLineEnd line = line := by
  have hd : line.reverse.dropWhile (fun c => c = '\r' || c = '\n') = line.reverse := by
    cases h : line.reverse with
    | nil => rfl
    | cons c cs =>
      have hc : c ∈ line := by
        rw [← List.mem_reverse, h]
        exact List.mem_cons_self ..
      have hcr : c ≠ '\r' := fun he => hr (he ▸ hc)
      have hcn : c ≠ '\n' := fun he => hn (he ▸ hc)
      refine List.dropWhile_cons_of_neg ?_
      simp [hcr, hcn]
  rw [stripLineEnd, hd, List.reverse_reverse]

theorem stopped_takeCommands_of_ne {lines : List Text}
    (h : ∀ line ∈ lines, stripLineEnd line ≠ sentinel) : (takeCommands lines).stopped = false := by
  induction lines with
  | nil => rfl
  | cons line lines ih =>
    rw [takeCommands, if_neg (h line (List.mem_cons_self ..))]
    exact ih fun l hl => h l (List.mem_cons_of_mem _ hl)

/-- What is taken up to a sentinel does not depend on the lines behind it. -/
theorem takeCommands_append_sentinel {line : Text} (h : stripLineEnd line = sentinel)
    (before later : List Text) :
    (takeCommands (before ++ line :: later)).commands = (takeCommands before).commands ∧
      (takeCommands (before ++ line :: later)).stopped = true := by
  induction before with
  | nil =>
    have ht : takeCommands (line :: later) = ⟨[], later, true⟩ := if_pos h
    rw [List.nil_append, ht]
    exact ⟨rfl, rfl⟩
  | cons l before ih =>
    rw [List.cons_append, takeCommands, takeCommands]
    split
    · exact ⟨rfl, rfl⟩
    · exact ⟨congrArg (stripLineEnd l :: ·) ih.1, ih.2⟩

theorem mem_commands_takeCommands {lines : List Text} {c : Text}
    (h : c ∈ (takeCommands lines).commands) : ∃ line ∈ lines, c = stripLineEnd line := by
  induction lines with
  | nil => cases h
  | cons line lines ih =>
    rw [takeCommands] at h
    split at h
    · cases h
    · rcases List.mem_cons.mp h with rfl | h
      · exact ⟨line, List.mem_cons_self .., rfl⟩
      · obtain ⟨l, hl, hc⟩ := ih h
        exact ⟨l, List.mem_cons_of_mem _ hl, hc⟩

/-! ### Outcomes that can be played -/

namespace Outcome

theorem mem_scanl_movedBy {p a : Position} {os : List Outcome} (h : a ∈ os.scanl after p) :
    a ∈ (moves os).scanl Position.movedBy p := by
  induction os generalizing p with
  | nil => exact h
  | cons o os ih =>
    rw [List.scanl_cons, List.mem_cons] at h
    cases o with
    | move c =>
      show a ∈ (c :: moves os).scanl Position.movedBy p
      rw [List.scanl_cons, List.mem_cons]
      exact h.imp_right ih
    | entry e =>
      rcases h with rfl | h
      · exact ih (mem_scanl_after a os)
      · exact ih h

/-- All moves are of a distance that a command may ask for, there are `n` of them at most, and no
entry beside them reports a move. -/
structure Sound (os : List Outcome) (n : Nat) : Prop where
  proper : os.all isProper = true
  magnitude : ∀ c ∈ moves os, 1 ≤ c.magnitude ∧ c.magnitude ≤ 100
  length_le : (moves os).length ≤ n

namespace Sound

variable {os ps : List Outcome} {m n : Nat}

theorem nil (n : Nat) : Sound [] n :=
  ⟨rfl, fun _ h => absurd h List.not_mem_nil, Nat.zero_le n⟩

theorem append (ho : Sound os m) (hp : Sound ps n) : Sound (os ++ ps) (m + n) := by
  refine ⟨?_, ?_, ?_⟩
  · rw [List.all_append, ho.proper, hp.proper]
    rfl
  · intro c hc
    rw [moves_append, List.mem_append] at hc
    rcases hc with hc | hc
    · exact ho.magnitude c hc
    · exact hp.magnitude c hc
  · rw [moves_append, List.length_append]
    exact Nat.add_le_add ho.length_le hp.length_le

theorem of_le (h : Sound os m) (hn : m ≤ n) : Sound os n :=
  ⟨h.proper, h.magnitude, Nat.le_trans h.length_le hn⟩

theorem natAbs_le (h : Sound os n) : ∀ c ∈ moves os, c.magnitude.natAbs ≤ 100 := by
  intro c hc
  have := h.magnitude c hc
  omega

end Sound

/-- The outcomes of a text move the robot at most once for each of its characters. -/
theorem sound_script (c : Text) : Sound (Command.script c) c.length :=
  ⟨Command.all_isProper_script c, fun _ => Command.magnitude_of_mem_moves,
    Command.length_moves_le c⟩

theorem sound_scripts (cs : List Text) : Sound (cs.flatMap Command.script) (totalLength cs) := by
  induction cs with
  | nil => exact .nil 0
  | cons c cs ih =>
    rw [List.flatMap_cons, totalLength]
    exact (sound_script c).append ih

end Outcome

/-- The scripts of the commands in some lines. -/
def scriptOfLines (lines : List Text) : List Outcome :=
  (takeCommands lines).commands.flatMap Command.script

theorem sound_scriptOfLines (lines : List Text) :
    Outcome.Sound (scriptOfLines lines) (totalLength lines) :=
  (Outcome.sound_scripts _).of_le (totalLength_commands_le lines)

theorem Ledger.play_of_sound {os : List Outcome} {n : Nat} (hs : Outcome.Sound os n) {p : Position}
    (h : p.HasRoom n) (log : List Entry) :
    (⟨p, log, none⟩ : Ledger).play os =
      ⟨Outcome.last p os, log ++ Outcome.entries p os, none⟩ :=
  play_of_hasRoom hs.natAbs_le (h.of_le hs.length_le) log

theorem Numeral.bound_eq_mul {k : Nat} (h : maxDigits = k + 2) : bound = 10 ^ k * 100 := by
  unfold bound
  rw [h]
  exact Nat.pow_add 10 k 2

/-- From the origin there is room for as many moves as can be asked for in so few characters. -/
theorem Position.hasRoom_origin {n : Nat} (h : n < 10 ^ 4298) : origin.HasRoom n := by
  have hb := Numeral.bound_eq_mul (k := 4298) rfl
  have hz : origin.x.natAbs = 0 ∧ origin.y.natAbs = 0 := ⟨rfl, rfl⟩
  unfold HasRoom
  rw [hb]
  generalize 10 ^ 4298 = k at h ⊢
  omega

namespace Run

/-! ### One run over lines -/

theorem ledger_processCommands_eq_play (r : Run) (lines : List Text) :
    (r.processCommands lines).ledger = r.ledger.play (scriptOfLines lines) := by
  have hp := ledger_foldl_process_eq_play (takeCommands lines).commands
    (fun c _ r => ledger_process_eq_play r c) r
  unfold processCommands
  simp only
  split
  · rw [ledger_remark]
    exact hp
  · exact hp

theorem ledger_processCommands_of_hasRoom {p : Position} {lines : List Text}
    (h : p.HasRoom (totalLength lines)) (log : Array Entry) (notes : Array Note) :
    (Run.processCommands ⟨p, log, notes, none⟩ lines).ledger =
      ⟨Outcome.last p (scriptOfLines lines),
        log.toList ++ Outcome.entries p (scriptOfLines lines), none⟩ := by
  rw [ledger_processCommands_eq_play]
  exact Ledger.play_of_sound (sound_scriptOfLines lines) h log.toList

/-- Where every place on the way of the executed commands can be written, a run over lines makes all
of its moves. -/
theorem ledger_processCommands_of_writable {p : Position} {lines : List Text}
    (h : ∀ a ∈ (Command.executions (takeCommands lines).commands).scanl Position.movedBy p,
      a.Writable) (log : Array Entry) (notes : Array Note) :
    (Run.processCommands ⟨p, log, notes, none⟩ lines).ledger =
      ⟨Outcome.last p (scriptOfLines lines),
        log.toList ++ Outcome.entries p (scriptOfLines lines), none⟩ := by
  rw [Command.executions_eq_moves] at h
  rw [ledger_processCommands_eq_play]
  exact Ledger.play_of_writable (sound_scriptOfLines lines).natAbs_le
    (fun a ha => h a (Outcome.mem_scanl_movedBy ha)) log.toList

theorem processCommands_append_sentinel {line : Text} (h : stripLineEnd line = sentinel) (r : Run)
    (before later : List Text) :
    r.processCommands (before ++ line :: later) = r.processCommands (before ++ [line]) := by
  obtain ⟨hc, hs⟩ := takeCommands_append_sentinel h before later
  obtain ⟨hc', hs'⟩ := takeCommands_append_sentinel h before []
  simp only [processCommands, hc, hs, hc', hs']

/-- The run of a fresh robot over some lines. -/
def ofLines (lines : List Text) : Run :=
  ({} : Run).processCommands lines

theorem ledger_ofLines {lines : List Text} (h : totalLength lines < 10 ^ 4298) :
    (ofLines lines).ledger =
      ⟨Outcome.last .origin (scriptOfLines lines),
        Outcome.entries .origin (scriptOfLines lines), none⟩ :=
  ledger_processCommands_of_hasRoom (Position.hasRoom_origin h) #[] #[]

theorem fault_ofLines {lines : List Text} (h : totalLength lines < 10 ^ 4298) :
    (ofLines lines).fault = none :=
  congrArg Ledger.fault (ledger_ofLines h)

end Run

end GridRobot
