import GridRobot.Proofs.Run.Ledger

/-!
# Turns of the worklist

Settling a stack of texts is taken apart into turns, of which each takes one text off the stack. The
lower part of a stack is not touched before the upper part is done, so a stack is settled text by
text, and a text of which the repair is known is settled as the texts that replace it.
-/

namespace GridRobot.Run

/-- One turn. The text on top is a command and moves the robot, or gives way to the texts of its
repair. -/
def turn : List Text × Run → List Text × Run
  | ([], r) => ([], r)
  | (c :: pending, r) =>
    match Command.validate c with
    | .ok cmd => (pending, r.perform cmd)
    | .error f =>
      let r := r.remark (.failed c f.kind)
      match f.repair with
      | .ok repair => (repair.next ++ pending, (repair.notes.foldl remark r).record repair.entry)
      | .error e => (pending, { r with fault := some e })

theorem turn_append (c : Text) (pending ds : List Text) (r : Run) :
    turn (c :: (pending ++ ds), r) =
      ((turn (c :: pending, r)).1 ++ ds, (turn (c :: pending, r)).2) := by
  simp only [turn]
  split
  · rfl
  · split
    · rw [List.append_assoc]
    · rfl

theorem totalWeight_turn (c : Text) (pending : List Text) (r : Run) :
    Command.totalWeight (turn (c :: pending, r)).1 < Command.totalWeight (c :: pending) := by
  have hpos := Command.weight_pos c
  simp only [turn, Command.totalWeight]
  split
  · show Command.totalWeight pending < _
    omega
  · next f hv =>
    split
    · next repair hr =>
      have hw := Command.weight_repair hv hr
      rw [Command.totalWeight_append]
      omega
    · show Command.totalWeight pending < _
      omega

/-- What holds of the empty stack and of a run with a fault, and of a stack if it holds after one
turn, holds of every stack and run. -/
theorem turn_induction {P : List Text → Run → Prop} (nil : ∀ r, P [] r)
    (fault : ∀ c pending r f, r.fault = some f → P (c :: pending) r)
    (step : ∀ c pending r, r.fault = none →
      P (turn (c :: pending, r)).1 (turn (c :: pending, r)).2 → P (c :: pending) r)
    (cs : List Text) (r : Run) : P cs r := by
  induction hw : Command.totalWeight cs using Nat.strongRecOn generalizing cs r with
  | ind w ih =>
    cases cs with
    | nil => exact nil r
    | cons c pending =>
      cases hf : r.fault with
      | some f => exact fault c pending r f hf
      | none =>
        have hlt := totalWeight_turn c pending r
        rw [hw] at hlt
        exact step c pending r hf (ih _ hlt _ _ rfl)

/-! ### Settling turn by turn -/

theorem settle_nil (r : Run) : settle [] r = r := by
  rw [settle]

theorem settle_of_fault {r : Run} {f : Fault} (h : r.fault = some f) (cs : List Text) :
    settle cs r = r := by
  cases cs with
  | nil => exact settle_nil r
  | cons c cs =>
    have hf : r.fault.isSome = true := by rw [h]; rfl
    rw [settle, if_pos hf]

/-- Settling a stack goes on from the state after one turn. -/
theorem settle_turn {r : Run} (h : r.fault = none) (c : Text) (pending : List Text) :
    settle (c :: pending) r = settle (turn (c :: pending, r)).1 (turn (c :: pending, r)).2 := by
  have hf : ¬r.fault.isSome = true := by simp [h]
  rw [settle, if_neg hf]
  unfold turn
  split
  · next cmd hv => simp only [hv]
  · next f hv =>
    simp only [hv]
    split
    · next repair hr => simp only [hr]
    · next e hr =>
      simp only [hr]
      exact (settle_of_fault rfl pending).symm

/-- The upper part of a stack is settled before the lower part. -/
theorem settle_append (cs ds : List Text) (r : Run) :
    settle (cs ++ ds) r = settle ds (settle cs r) := by
  induction cs, r using turn_induction with
  | nil r => rw [List.nil_append, settle_nil]
  | fault c pending r f h =>
    rw [settle_of_fault h, settle_of_fault h, settle_of_fault h]
  | step c pending r h ih =>
    rw [List.cons_append, settle_turn h, turn_append, ih, ← settle_turn h]

theorem settle_singleton (c : Text) (r : Run) : settle [c] r = r.process c := rfl

theorem settle_eq_foldl (cs : List Text) (r : Run) : settle cs r = cs.foldl process r := by
  induction cs generalizing r with
  | nil => exact settle_nil r
  | cons c cs ih =>
    have h := settle_append [c] cs r
    rw [settle_singleton, ih] at h
    exact h

/-! ### One text -/

theorem process_of_fault {r : Run} {f : Fault} (h : r.fault = some f) (c : Text) :
    r.process c = r :=
  settle_of_fault h [c]

theorem process_of_ok {r : Run} {c : Text} {cmd : Command} (h : r.fault = none)
    (hv : Command.validate c = .ok cmd) : r.process c = r.perform cmd := by
  have ht : turn ([c], r) = ([], r.perform cmd) := by simp only [turn, hv]
  rw [← settle_singleton, settle_turn h, ht, settle_nil]

end GridRobot.Run
