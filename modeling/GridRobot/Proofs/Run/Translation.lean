import GridRobot.Proofs.Run.Lines

/-!
# The same lines from two places

Validation and repair read a text and nothing else, so the outcomes of some lines are the same
wherever the robot stands and whatever has been logged before. Where it stands enters the log in one
way only, by the place that a report names, and a move takes two places an equal step further.

Main statement: two runs over the same lines differ by the step between the places that they start
from (`processCommands_translate`).
-/

namespace GridRobot

namespace Position

variable (p q : Position) (v : Int × Int)

/-- The step from `p` to `q`. -/
def offset : Int × Int :=
  (q.x - p.x, q.y - p.y)

def translate : Position :=
  ⟨p.x + v.1, p.y + v.2⟩

theorem translate_offset : p.translate (p.offset q) = q := by
  ext
  · show p.x + (q.x - p.x) = q.x
    omega
  · show p.y + (q.y - p.y) = q.y
    omega

theorem movedBy_translate (c : Command) :
    (p.translate v).movedBy c = (p.movedBy c).translate v := by
  ext
  · exact Int.add_right_comm p.x v.1 _
  · exact Int.add_right_comm p.y v.2 _

end Position

namespace Entry

/-- A report of the same move to another place. All other entries name no place. -/
def translate (v : Int × Int) : Entry → Entry
  | .executed c p => .executed c (p.translate v)
  | e => e

theorem translate_of_not_isExecution (v : Int × Int) {e : Entry} (h : e.isExecution = false) :
    e.translate v = e := by
  cases e with
  | executed c p => cases h
  | corrected k before after => rfl
  | split => rfl
  | removed c => rfl
  | rejected m => rfl

end Entry

namespace Outcome

/-! ### Outcomes from two places -/

variable {os : List Outcome} (p : Position) (v : Int × Int)

theorem after_translate (o : Outcome) : o.after (p.translate v) = (o.after p).translate v := by
  cases o with
  | move c => exact p.movedBy_translate v c
  | entry e => rfl

theorem entryAt_translate {o : Outcome} (h : o.isProper = true) :
    o.entryAt (p.translate v) = (o.entryAt p).translate v := by
  cases o with
  | move c => exact congrArg (Entry.executed c) (p.movedBy_translate v c)
  | entry e =>
    have he : e.isExecution = false := by simpa [isProper] using h
    exact (Entry.translate_of_not_isExecution v he).symm

theorem last_translate (os : List Outcome) :
    last (p.translate v) os = (last p os).translate v := by
  induction os generalizing p with
  | nil => rfl
  | cons o os ih =>
    have ho := ih (o.after p)
    rw [← after_translate] at ho
    exact ho

/-- Corresponding entries are the same, or report the same move to places a step apart. -/
theorem entries_translate (h : os.all isProper = true) :
    entries (p.translate v) os = (entries p os).map (Entry.translate v) := by
  induction os generalizing p with
  | nil => rfl
  | cons o os ih =>
    obtain ⟨ho, hos⟩ := Bool.and_eq_true_iff.mp h
    rw [entries, entries, List.map_cons, entryAt_translate p v ho, after_translate, ih _ hos]

end Outcome

/-- Two runs over the same lines, from any two places and after any logs, make the same entries but
for the places in the reports, and these differ by the step between the two places, as the places
where the robot ends do. -/
theorem processCommands_translate {p q : Position} {lines : List Text}
    (hp : ∀ a ∈ (Command.executions (takeCommands lines).commands).scanl Position.movedBy p,
      a.Writable)
    (hq : ∀ a ∈ (Command.executions (takeCommands lines).commands).scanl Position.movedBy q,
      a.Writable)
    (log log' : Array Entry) (notes notes' : Array Note) {r r' : Run}
    (hr : Run.processCommands ⟨p, log, notes, none⟩ lines = r)
    (hr' : Run.processCommands ⟨q, log', notes', none⟩ lines = r') :
    r.fault = none ∧ r'.fault = none ∧
      r'.position = r.position.translate (p.offset q) ∧
      ∃ new, r.log.toList = log.toList ++ new ∧
        r'.log.toList = log'.toList ++ new.map (Entry.translate (p.offset q)) := by
  have hl := Run.ledger_processCommands_of_writable hp log notes
  have hl' := Run.ledger_processCommands_of_writable hq log' notes'
  have hs := (sound_scriptOfLines lines).proper
  have hlast := Outcome.last_translate p (p.offset q) (scriptOfLines lines)
  have hentries := Outcome.entries_translate p (p.offset q) hs
  rw [Position.translate_offset] at hlast hentries
  rw [hr] at hl
  rw [hr', hlast, hentries] at hl'
  refine ⟨congrArg Ledger.fault hl, congrArg Ledger.fault hl', ?_, _, congrArg Ledger.log hl,
    congrArg Ledger.log hl'⟩
  have hpos : r.position = Outcome.last p (scriptOfLines lines) := congrArg Ledger.position hl
  rw [hpos]
  exact congrArg Ledger.position hl'

/-- A robot that starts at (5, -7) ends by as much away from where one from the origin ends. -/
theorem processCommands_translate_of_repaired :
    (∀ a ∈ (Command.executions (takeCommands ["nE3".toList, "zz".toList, "S 0".toList,
        "e -2".toList]).commands).scanl Position.movedBy .origin, a.Writable) ∧
      (∀ a ∈ (Command.executions (takeCommands ["nE3".toList, "zz".toList, "S 0".toList,
        "e -2".toList]).commands).scanl Position.movedBy ⟨5, -7⟩, a.Writable) ∧
      (Run.processCommands ⟨⟨5, -7⟩, #[], #[], none⟩ ["nE3".toList, "zz".toList, "S 0".toList,
        "e -2".toList]).position = ⟨6, -4⟩ := by
  have hp : ∀ a ∈ (Command.executions (takeCommands ["nE3".toList, "zz".toList, "S 0".toList,
      "e -2".toList]).commands).scanl Position.movedBy .origin, a.Writable := by
    rw [Command.executions_eq_moves]
    decide +kernel
  have hq : ∀ a ∈ (Command.executions (takeCommands ["nE3".toList, "zz".toList, "S 0".toList,
      "e -2".toList]).commands).scanl Position.movedBy ⟨5, -7⟩, a.Writable := by
    rw [Command.executions_eq_moves]
    decide +kernel
  obtain ⟨_, _, hpos, _⟩ := processCommands_translate hp hq #[] #[] #[] #[] rfl rfl
  refine ⟨hp, hq, hpos.trans ?_⟩
  decide +kernel

end GridRobot
