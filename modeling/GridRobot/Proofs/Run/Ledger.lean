import GridRobot.Run

/-!
# Ledgers

What can be read off a run from outside: where the robot stands, the log, and the fault that has
ended the run. The remarks are left out.
-/

namespace GridRobot

@[ext] structure Ledger where
  position : Position
  log : List Entry
  fault : Option Fault
  deriving DecidableEq

namespace Ledger

def record (l : Ledger) (e : Entry) : Ledger :=
  { l with log := l.log ++ [e] }

def stop (l : Ledger) (f : Fault) : Ledger :=
  { l with fault := some f }

/-- The robot moves first. Its new place is logged if it can be written, and ends the run if not. -/
def perform (l : Ledger) (c : Command) : Ledger :=
  let p := l.position.moved c.direction c.magnitude
  if Numeral.Writable c.magnitude ∧ p.Writable then { l with position := p }.record (.executed c p)
  else { l with position := p }.stop (.numeral .unwritable)

/-- Goes on with a run unless a fault has ended it. -/
def andThen (l : Ledger) (next : Ledger → Ledger) : Ledger :=
  if l.fault.isSome then l else next l

@[simp] theorem fault_record (l : Ledger) (e : Entry) : (l.record e).fault = l.fault := rfl

theorem andThen_of_none {l : Ledger} (h : l.fault = none) (next : Ledger → Ledger) :
    l.andThen next = next l := by
  simp [andThen, h]

theorem andThen_of_some {l : Ledger} {f : Fault} (h : l.fault = some f) (next : Ledger → Ledger) :
    l.andThen next = l := by
  simp [andThen, h]

end Ledger

namespace Run

/-- The run as it is seen from outside. -/
def ledger (r : Run) : Ledger :=
  ⟨r.position, r.log.toList, r.fault⟩

@[simp] theorem ledger_fault (r : Run) : r.ledger.fault = r.fault := rfl

@[simp] theorem ledger_remark (r : Run) (n : Note) : (r.remark n).ledger = r.ledger := rfl

@[simp] theorem ledger_foldl_remark (ns : List Note) (r : Run) :
    (ns.foldl remark r).ledger = r.ledger := by
  induction ns generalizing r with
  | nil => rfl
  | cons n ns ih => rw [List.foldl_cons, ih, ledger_remark]

@[simp] theorem ledger_record (r : Run) (e : Entry) : (r.record e).ledger = r.ledger.record e := by
  simp [ledger, record, Ledger.record]

@[simp] theorem ledger_perform (r : Run) (c : Command) :
    (r.perform c).ledger = r.ledger.perform c := by
  by_cases hw : Numeral.Writable c.magnitude ∧ (r.position.moved c.direction c.magnitude).Writable
  · have hl : r.ledger.perform c = { r.ledger with
        position := r.position.moved c.direction c.magnitude }.record
          (.executed c (r.position.moved c.direction c.magnitude)) := if_pos hw
    rw [hl, perform, execute, if_pos hw, ledger_record]
    rfl
  · have hl : r.ledger.perform c = { r.ledger with
        position := r.position.moved c.direction c.magnitude }.stop (.numeral .unwritable) :=
      if_neg hw
    rw [hl, perform, execute, if_neg hw]
    rfl

end Run

end GridRobot
