import GridRobot.Command.Repair

/-! # Runs

The engine of section 4.2 of the specification, with `validate_and_execute` and `process` of section
10.1. A run holds the position of the robot, the log and the remarks. Commands are settled one after
the other from a stack of texts: a text that is a command moves the robot, any other is replaced by
the texts of its repair. The weights of the texts on the stack add up to less at every step, so the
stack runs empty. -/

namespace GridRobot

/-- The state of a run. A run with a fault has stopped. -/
structure Run where
  position : Position := .origin
  log : Array Entry := #[]
  notes : Array Note := #[]
  fault : Option Fault := none

namespace Run

def remark (r : Run) (n : Note) : Run :=
  { r with notes := r.notes.push n }

def record (r : Run) (e : Entry) : Run :=
  { r with log := r.log.push e }

/-- Moves the robot. The entry is made afterwards, and is missing if it cannot be written. -/
def execute (r : Run) (c : Command) : Run × Except Fault Entry :=
  let r := { r with position := r.position.moved c.direction c.magnitude }
  if Numeral.Writable c.magnitude ∧ r.position.Writable then (r, .ok (.executed c r.position))
  else (r, .error (.numeral .unwritable))

def perform (r : Run) (c : Command) : Run :=
  match r.execute c with
  | (r, .ok e) => r.record e
  | (r, .error f) => { r with fault := some f }

/-- Executes a text that is a command, and changes nothing for any other. -/
def validateAndExecute (r : Run) (c : Text) : Run × Option Failure :=
  match Command.validate c with
  | .ok cmd => (r.perform cmd, none)
  | .error f => (r, some f)

/-- Settles the texts of a stack, the first one on top. -/
def settle : List Text → Run → Run
  | [], r => r
  | c :: pending, r =>
    if r.fault.isSome then r
    else
      match _hc : Command.validate c with
      | .ok cmd => settle pending (r.perform cmd)
      | .error f =>
        let r := r.remark (.failed c f.kind)
        match _hr : f.repair with
        | .ok repair =>
          settle (repair.next ++ pending) ((repair.notes.foldl remark r).record repair.entry)
        | .error e => { r with fault := some e }
termination_by pending => Command.totalWeight pending
decreasing_by
  · have := Command.weight_pos c
    simp only [Command.totalWeight]
    omega
  · have := Command.weight_repair _hc _hr
    simp only [Command.totalWeight, Command.totalWeight_append]
    omega

def process (r : Run) (c : Text) : Run :=
  settle [c] r

end Run

end GridRobot
