import GridRobot.Proofs.Log.Report
import GridRobot.Proofs.Run.Executions
import GridRobot.Proofs.Run.Lines

/-!
# Sessions and what their log accounts for

In a session one robot is asked for one thing after the other: to settle a text or some lines of
input with their corrections, to execute a text only if it is a command, or to say what is wrong
with a text. The reports in the log are the moves of the robot, one for one and in their order, and
lead from the origin to the place where the robot stands.

Main statement: `session_accounts`.
-/

namespace GridRobot

/-- What a robot is asked for. -/
inductive Request where
  | process (c : Text)
  | attempt (c : Text)
  | check (c : Text)
  | lines (ls : List Text)

namespace Request

/-- The number of characters of a request. -/
def length : Request → Nat
  | process c | attempt c | check c => c.length
  | lines ls => totalLength ls

/-- The commands that are executed for a request. -/
def executions : Request → List Command
  | process c => Command.executions [c]
  | attempt c =>
    match Command.validate c with
    | .ok cmd => [cmd]
    | .error _ => []
  | check _ => []
  | lines ls => Command.executions (takeCommands ls).commands

def script : Request → List Outcome
  | process c => Command.script c
  | attempt c =>
    match Command.validate c with
    | .ok cmd => [.move cmd]
    | .error _ => []
  | check _ => []
  | lines ls => scriptOfLines ls

theorem executions_eq_moves_script (s : Request) : s.executions = Outcome.moves s.script := by
  cases s with
  | process c =>
    rw [executions, script, Command.executions_eq_moves, List.flatMap_singleton]
  | attempt c =>
    cases h : Command.validate c with
    | ok cmd =>
      simp only [executions, script, h]
      rfl
    | error f =>
      simp only [executions, script, h]
      rfl
  | check c => rfl
  | lines ls => exact Command.executions_eq_moves _

theorem sound_script_request (s : Request) : Outcome.Sound s.script s.length := by
  cases s with
  | process c => exact Outcome.sound_script c
  | attempt c =>
    cases h : Command.validate c with
    | ok cmd =>
      have hs := Outcome.sound_script c
      rw [Command.script_of_ok (Command.violationOr_of_validate_ok h)] at hs
      simp only [script, h]
      exact hs
    | error f =>
      simp only [script, h]
      exact .nil _
  | check c => exact .nil _
  | lines ls => exact sound_scriptOfLines ls

end Request

def totalRequestLength : List Request → Nat
  | [] => 0
  | s :: steps => s.length + totalRequestLength steps

theorem totalRequestLength_append (before after : List Request) :
    totalRequestLength (before ++ after) =
      totalRequestLength before + totalRequestLength after := by
  induction before with
  | nil => exact (Nat.zero_add _).symm
  | cons s before ih =>
    rw [List.cons_append, totalRequestLength, totalRequestLength, ih, Nat.add_assoc]

def scriptOfRequests (steps : List Request) : List Outcome :=
  steps.flatMap Request.script

theorem sound_scriptOfRequests (steps : List Request) :
    Outcome.Sound (scriptOfRequests steps) (totalRequestLength steps) := by
  induction steps with
  | nil => exact .nil 0
  | cons s steps ih => exact (Request.sound_script_request s).append ih

theorem moves_scriptOfRequests (steps : List Request) :
    Outcome.moves (scriptOfRequests steps) = steps.flatMap Request.executions := by
  induction steps with
  | nil => rfl
  | cons s steps ih =>
    rw [List.flatMap_cons, ← ih, Request.executions_eq_moves_script, ← Outcome.moves_append]
    rfl

/-! ### Room and reports along a script -/

theorem Position.HasRoom.foldl_movedBy {cs : List Command} {n : Nat}
    (hm : ∀ c ∈ cs, c.magnitude.natAbs ≤ 100) {p : Position} (h : p.HasRoom (cs.length + n)) :
    (cs.foldl movedBy p).HasRoom n := by
  induction cs generalizing p with
  | nil => rwa [List.length_nil, Nat.zero_add] at h
  | cons c cs ih =>
    have hc := hm c (List.mem_cons_self ..)
    have hr : p.HasRoom (cs.length + n + 1) := h.of_le (by rw [List.length_cons]; omega)
    exact ih (fun d hd => hm d (List.mem_cons_of_mem _ hd)) (hr.moved c.direction hc)

/-- Moves that are made leave the room of those that are still to be made. -/
theorem Position.HasRoom.last {os : List Outcome} {m n : Nat} (hs : Outcome.Sound os m)
    {p : Position} (h : p.HasRoom (m + n)) : (Outcome.last p os).HasRoom n := by
  have hl := hs.length_le
  rw [Outcome.last_eq_foldl_moves]
  exact foldl_movedBy hs.natAbs_le (h.of_le (by omega))

/-! ### The places that moves lead to -/

namespace Position

/-- The places that some moves lead to, one after the other. -/
def places : Position → List Command → List Position
  | _, [] => []
  | p, c :: cs => p.movedBy c :: places (p.movedBy c) cs

theorem length_places (p : Position) (cs : List Command) : (p.places cs).length = cs.length := by
  induction cs generalizing p with
  | nil => rfl
  | cons c cs ih => rw [places, List.length_cons, List.length_cons, ih]

theorem trail_eq_zipWith (p : Position) (cs : List Command) :
    p.trail cs = List.zipWith Entry.executed cs (p.places cs) := by
  induction cs generalizing p with
  | nil => rfl
  | cons c cs ih => rw [trail, places, List.zipWith_cons_cons, ih]

theorem getLast?_places (p : Position) (cs : List Command) :
    (p.places cs).getLast?.getD p = cs.foldl movedBy p := by
  induction cs generalizing p with
  | nil => rfl
  | cons c cs ih =>
    rw [places, List.getLast?_cons, List.foldl_cons, ← ih]
    rfl

theorem movedBy_eq (p : Position) (c : Command) :
    p.movedBy c = ⟨p.x + c.magnitude * c.direction.delta.1,
      p.y + c.magnitude * c.direction.delta.2⟩ := by
  unfold movedBy moved
  rw [Int.mul_comm c.magnitude, Int.mul_comm c.magnitude]

theorem getElem_zero_places (p : Position) {cs : List Command} (h : 0 < cs.length)
    (hp : 0 < (p.places cs).length) : (p.places cs)[0] = p.movedBy cs[0] := by
  cases cs with
  | nil => exact absurd h (Nat.lt_irrefl 0)
  | cons c cs => rfl

theorem getElem_succ_places (p : Position) {cs : List Command} {i : Nat} (h : i + 1 < cs.length)
    (hp : i + 1 < (p.places cs).length) :
    (p.places cs)[i + 1] = (p.places cs)[i].movedBy cs[i + 1] := by
  induction cs generalizing p i with
  | nil => exact absurd h (Nat.not_lt_zero _)
  | cons c cs ih =>
    rw [List.length_cons] at h
    cases i with
    | zero => exact getElem_zero_places (p.movedBy c) (by omega) _
    | succ i => exact ih (p.movedBy c) (by omega) _

end Position

namespace Run

def step (r : Run) : Request → Run
  | .process c => r.process c
  | .attempt c => (r.validateAndExecute c).1
  | .check _ => r
  | .lines ls => r.processCommands ls

/-- The run of a fresh robot that is asked for some things one after the other. -/
def session (steps : List Request) : Run :=
  steps.foldl step {}

theorem ledger_step {r : Run} (h : r.fault = none) (s : Request) :
    (r.step s).ledger = r.ledger.play s.script := by
  cases s with
  | process c => exact ledger_process_eq_play r c
  | attempt c =>
    cases hc : Command.validate c with
    | ok cmd =>
      simp only [step, validateAndExecute, Request.script, hc]
      rw [ledger_perform, Ledger.play_cons h]
      rfl
    | error f =>
      simp only [step, validateAndExecute, Request.script, hc]
      rfl
  | check c => rfl
  | lines ls => exact ledger_processCommands_eq_play r ls

theorem ledger_step_of_hasRoom {r : Run} (hf : r.fault = none) {s : Request}
    (h : r.position.HasRoom s.length) :
    (r.step s).ledger =
      ⟨Outcome.last r.position s.script, r.log.toList ++ Outcome.entries r.position s.script,
        none⟩ := by
  have hl : r.ledger = ⟨r.position, r.log.toList, none⟩ := by
    rw [← hf]
    rfl
  rw [ledger_step hf, hl]
  exact Ledger.play_of_sound (Request.sound_script_request s) h r.log.toList

/-- With room for all requests, each of them starts from where the one before it has led to. -/
theorem ledger_foldl_step {steps : List Request} {r : Run} (hf : r.fault = none)
    (h : r.position.HasRoom (totalRequestLength steps)) :
    (steps.foldl step r).ledger =
      ⟨Outcome.last r.position (scriptOfRequests steps),
        r.log.toList ++ Outcome.entries r.position (scriptOfRequests steps), none⟩ := by
  induction steps generalizing r with
  | nil =>
    show r.ledger = ⟨r.position, r.log.toList ++ [], none⟩
    rw [List.append_nil, ← hf]
    rfl
  | cons s steps ih =>
    have hr : r.position.HasRoom (s.length + totalRequestLength steps) := h
    have hstep := ledger_step_of_hasRoom hf (hr.of_le (Nat.le_add_right _ _))
    have hp : (r.step s).position = Outcome.last r.position s.script :=
      congrArg Ledger.position hstep
    have hlog : (r.step s).log.toList =
        r.log.toList ++ Outcome.entries r.position s.script := congrArg Ledger.log hstep
    have hroom : (r.step s).position.HasRoom (totalRequestLength steps) := by
      rw [hp]
      exact hr.last (Request.sound_script_request s)
    have hi := ih (congrArg Ledger.fault hstep) hroom
    rw [hp, hlog, List.append_assoc] at hi
    rw [List.foldl_cons, hi]
    show _ = (⟨Outcome.last r.position (s.script ++ scriptOfRequests steps),
      r.log.toList ++ Outcome.entries r.position (s.script ++ scriptOfRequests steps),
      none⟩ : Ledger)
    rw [Outcome.entries_append, Outcome.last, Outcome.last, Outcome.last, List.foldl_append]

theorem ledger_session {steps : List Request} (h : totalRequestLength steps < 10 ^ 4298) :
    (session steps).ledger =
      ⟨Outcome.last .origin (scriptOfRequests steps),
        Outcome.entries .origin (scriptOfRequests steps), none⟩ :=
  ledger_foldl_step (r := {}) rfl (Position.hasRoom_origin h)

/-! ### The log as an account -/

/-- The log of a run from the origin accounts for the commands `cs` that were executed: it reports
each of them with its place in `ps`. -/
structure AccountsFor (r : Run) (cs : List Command) (ps : List Position) : Prop where
  fault : r.fault = none
  length : ps.length = cs.length
  reports : r.reports = List.zipWith (fun c p => (Entry.executed c p).text) cs ps
  magnitude : ∀ c ∈ cs, 1 ≤ c.magnitude ∧ c.magnitude ≤ 100
  first : ∀ h : 0 < cs.length, ps[0] =
    ⟨cs[0].magnitude * cs[0].direction.delta.1, cs[0].magnitude * cs[0].direction.delta.2⟩
  /-- Each place is the one before it, moved by the distance of the command in its direction. -/
  next : ∀ (i : Nat) (h : i + 1 < cs.length), ps[i + 1] =
    ⟨ps[i].x + cs[i + 1].magnitude * cs[i + 1].direction.delta.1,
      ps[i].y + cs[i + 1].magnitude * cs[i + 1].direction.delta.2⟩
  /-- The robot stands at the last place. -/
  last : r.position = ps.getLast?.getD .origin
  /-- Each report can be read in one way only. -/
  unique : ∀ line ∈ r.reports, ∃! x : Command × Position, line = (Entry.executed x.1 x.2).text

theorem accountsFor_of_ledger {r : Run} {os : List Outcome} {n : Nat} (hs : Outcome.Sound os n)
    (hl : r.ledger = ⟨Outcome.last .origin os, Outcome.entries .origin os, none⟩) :
    r.AccountsFor (Outcome.moves os) (Position.origin.places (Outcome.moves os)) where
  fault := congrArg Ledger.fault hl
  length := Position.length_places ..
  reports := by
    rw [reports_of_log hs.proper (congrArg Ledger.log hl), Position.trail_eq_zipWith,
      List.map_zipWith]
  magnitude := hs.magnitude
  first := by
    intro h
    rw [Position.getElem_zero_places _ h, Position.movedBy_eq]
    simp [Position.origin]
  next := by
    intro i h
    rw [Position.getElem_succ_places _ h, Position.movedBy_eq]
  last := by
    rw [Position.getLast?_places, ← Outcome.last_eq_foldl_moves]
    exact congrArg Ledger.position hl
  unique := by
    intro line h
    obtain ⟨hm, hi⟩ := List.mem_filter.mp h
    obtain ⟨e, _, rfl⟩ := List.mem_map.mp hm
    exact Entry.existsUnique_of_isReport hi

/-- A request that leads to no report leaves the robot where it stands. -/
theorem exists_report_of_moved {r : Run} (hf : r.fault = none) {s : Request}
    (h : r.position.HasRoom s.length) :
    ∃ new, (r.step s).logTexts = r.logTexts ++ new ∧
      ((r.step s).position ≠ r.position → ∃ line ∈ new, Entry.isReport line = true) := by
  have hl := ledger_step_of_hasRoom hf h
  have hlog : (r.step s).log.toList = r.log.toList ++ Outcome.entries r.position s.script :=
    congrArg Ledger.log hl
  have hp : (r.step s).position = Outcome.last r.position s.script := congrArg Ledger.position hl
  refine ⟨(Outcome.entries r.position s.script).map Entry.text, ?_, ?_⟩
  · rw [logTexts, hlog, List.map_append]
    rfl
  · intro hne
    have hf := Outcome.filter_isExecution_entries (Request.sound_script_request s).proper r.position
    rw [hp, Outcome.last_eq_foldl_moves] at hne
    cases hm : Outcome.moves s.script with
    | nil =>
      rw [hm] at hne
      exact absurd rfl hne
    | cons c cs =>
      rw [hm] at hf
      have he : Entry.executed c (r.position.movedBy c) ∈
          (Outcome.entries r.position s.script).filter Entry.isExecution := by
        rw [hf]
        exact List.mem_cons_self ..
      obtain ⟨he, hx⟩ := List.mem_filter.mp he
      exact ⟨_, List.mem_map_of_mem he, (Entry.isReport_text _).trans hx⟩

end Run

/-- The log of every session accounts for all commands that were executed in it and for the place of
the robot. No entry that quotes a text passes for a report, and no request moves the robot without a
report. -/
theorem session_accounts {steps : List Request} (h : totalRequestLength steps < 10 ^ 4298) :
    (∃ ps, (Run.session steps).AccountsFor (steps.flatMap Request.executions) ps) ∧
      (∀ e : Entry, Entry.isReport e.text = e.isExecution) ∧
      ∀ before s after, steps = before ++ s :: after →
        ∃ new, (Run.session (before ++ [s])).logTexts = (Run.session before).logTexts ++ new ∧
          ((Run.session (before ++ [s])).position ≠ (Run.session before).position →
            ∃ line ∈ new, Entry.isReport line = true) := by
  refine ⟨?_, Entry.isReport_text, ?_⟩
  · rw [← moves_scriptOfRequests]
    exact ⟨_, Run.accountsFor_of_ledger (sound_scriptOfRequests steps) (Run.ledger_session h)⟩
  · rintro before s after rfl
    have hroom : Position.origin.HasRoom (totalRequestLength before + s.length) := by
      refine (Position.hasRoom_origin h).of_le ?_
      rw [totalRequestLength_append, totalRequestLength]
      omega
    have hl := Run.ledger_foldl_step (r := {}) rfl (hroom.of_le (Nat.le_add_right _ _))
    have hp : (Run.session before).position = Outcome.last .origin (scriptOfRequests before) :=
      congrArg Ledger.position hl
    have hs : (Run.session before).position.HasRoom s.length := by
      rw [hp]
      exact hroom.last (sound_scriptOfRequests before)
    have hstep : Run.session (before ++ [s]) = (Run.session before).step s := by
      rw [Run.session, List.foldl_append]
      rfl
    rw [hstep]
    exact Run.exists_report_of_moved (congrArg Ledger.fault hl) hs

/-- A text that quotes a report makes none, and the robot goes where the others lead. -/
theorem session_accounts_of_quoted_report :
    totalRequestLength [.attempt "E 4".toList, .check "W 9".toList,
        .process "Executed command: N 5 -> Position: (0, 5).".toList,
        .lines ["nS -2".toList, "Q".toList, "N 1".toList]] < 10 ^ 4298 ∧
      (Run.session [.attempt "E 4".toList, .check "W 9".toList,
        .process "Executed command: N 5 -> Position: (0, 5).".toList,
        .lines ["nS -2".toList, "Q".toList, "N 1".toList]]).AccountsFor
          [⟨.east, 4⟩, ⟨.south, 2⟩, ⟨.north, 2⟩] [⟨4, 0⟩, ⟨4, -2⟩, ⟨4, 0⟩] := by
  have hl : totalRequestLength [.attempt "E 4".toList, .check "W 9".toList,
      .process "Executed command: N 5 -> Position: (0, 5).".toList,
      .lines ["nS -2".toList, "Q".toList, "N 1".toList]] < 10 ^ 4298 := by decide +kernel
  have hm : Outcome.moves (scriptOfRequests [.attempt "E 4".toList, .check "W 9".toList,
      .process "Executed command: N 5 -> Position: (0, 5).".toList,
      .lines ["nS -2".toList, "Q".toList, "N 1".toList]]) =
        [⟨.east, 4⟩, ⟨.south, 2⟩, ⟨.north, 2⟩] := by decide +kernel
  obtain ⟨⟨ps, ha⟩, _⟩ := session_accounts hl
  rw [← moves_scriptOfRequests, hm] at ha
  have hps : ps = [⟨4, 0⟩, ⟨4, -2⟩, ⟨4, 0⟩] := by
    match ps, ha with
    | [p, q, r], ha =>
      obtain rfl : p = ⟨4, 0⟩ := ha.first (by decide)
      obtain rfl : q = ⟨4, -2⟩ := ha.next 0 (by decide)
      obtain rfl : r = ⟨4, 0⟩ := ha.next 1 (by decide)
      rfl
    | [], ha | [_], ha | [_, _], ha | _ :: _ :: _ :: _ :: _, ha => cases ha.length
  subst hps
  exact ⟨hl, ha⟩

end GridRobot
