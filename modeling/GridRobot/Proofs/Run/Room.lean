import GridRobot.Proofs.Run.Moves

/-!
# Room to move

A run ends with a fault only where the robot reaches a place that is too far off to be written. From
a place with room for every move of a text it does not get there, so the entries of the text are all
made.

Main statement: with room, processing a text stops at the place that its script leads to, and logs
what its script says (`ledger_process_of_hasRoom`).
-/

namespace GridRobot

theorem Numeral.writable_of_le {n : Int} (h : n.natAbs ≤ 100) : Writable n := by
  have hb : 100 < bound := by
    have hk : 3 ≤ maxDigits := by decide
    unfold bound
    generalize maxDigits = k at hk ⊢
    exact Nat.lt_of_lt_of_le (by decide : 100 < 10 ^ 3) (Nat.pow_le_pow_right (by decide) hk)
  exact Nat.lt_of_le_of_lt h hb

/-- No coordinate gets too long by `n` moves of a hundred steps at most. -/
def Position.HasRoom (p : Position) (n : Nat) : Prop :=
  p.x.natAbs + 100 * n < Numeral.bound ∧ p.y.natAbs + 100 * n < Numeral.bound

instance (p : Position) (n : Nat) : Decidable (p.HasRoom n) :=
  inferInstanceAs (Decidable (_ ∧ _))

namespace Position.HasRoom

variable {p : Position} {m n : Nat}

theorem writable (h : p.HasRoom n) : p.Writable := by
  obtain ⟨hx, hy⟩ := h
  refine ⟨?_, ?_⟩
  · unfold Numeral.Writable
    omega
  · unfold Numeral.Writable
    omega

theorem of_le (h : p.HasRoom n) (hm : m ≤ n) : p.HasRoom m := by
  obtain ⟨hx, hy⟩ := h
  refine ⟨?_, ?_⟩ <;> omega

theorem moved (h : p.HasRoom (n + 1)) (d : Direction) {k : Int} (hk : k.natAbs ≤ 100) :
    (p.moved d k).HasRoom n := by
  obtain ⟨hx, hy⟩ := h
  cases d <;> simp only [HasRoom, Position.moved, Direction.delta] <;> omega

end Position.HasRoom

namespace Outcome

/-- The entry that an outcome makes if the robot stands at `p`. -/
def entryAt (p : Position) : Outcome → Entry
  | .move c => .executed c (p.moved c.direction c.magnitude)
  | .entry e => e

def after (p : Position) : Outcome → Position
  | .move c => p.moved c.direction c.magnitude
  | .entry _ => p

/-- The place that some outcomes lead to. -/
def last (p : Position) (os : List Outcome) : Position :=
  os.foldl after p

/-- The entries that some outcomes make one after the other. -/
def entries : Position → List Outcome → List Entry
  | _, [] => []
  | p, o :: os => o.entryAt p :: entries (o.after p) os

theorem entries_append (p : Position) (os ps : List Outcome) :
    entries p (os ++ ps) = entries p os ++ entries (last p os) ps := by
  induction os generalizing p with
  | nil => rfl
  | cons o os ih =>
    rw [List.cons_append, entries, entries, ih, List.cons_append]
    rfl

theorem length_entries (p : Position) (os : List Outcome) : (entries p os).length = os.length := by
  induction os generalizing p with
  | nil => rfl
  | cons o os ih => rw [entries, List.length_cons, List.length_cons, ih]

theorem mem_scanl_after (p : Position) (os : List Outcome) : p ∈ os.scanl after p := by
  cases os with
  | nil =>
    rw [List.scanl_nil]
    exact List.mem_singleton_self p
  | cons o os =>
    rw [List.scanl_cons]
    exact List.mem_cons_self ..

/-- With room for every move, all places on the way can be written. -/
theorem writable_of_hasRoom {os : List Outcome}
    (hm : ∀ c ∈ moves os, c.magnitude.natAbs ≤ 100) {p : Position}
    (h : p.HasRoom (moves os).length) : ∀ q ∈ os.scanl after p, q.Writable := by
  induction os generalizing p with
  | nil =>
    intro q hq
    rw [List.scanl_nil, List.mem_singleton] at hq
    rw [hq]
    exact h.writable
  | cons o os ih =>
    intro q hq
    rw [List.scanl_cons, List.mem_cons] at hq
    rcases hq with rfl | hq
    · exact h.writable
    · cases o with
      | entry e => exact ih hm h q hq
      | move c =>
        have hc : c.magnitude.natAbs ≤ 100 := hm c (List.mem_cons_self ..)
        have hm' : ∀ c ∈ moves os, c.magnitude.natAbs ≤ 100 :=
          fun d hd => hm d (List.mem_cons_of_mem _ hd)
        -- the move takes up its share, and the rest is enough for the moves that are left
        have hr : p.HasRoom ((moves os).length + 1) := h
        exact ih hm' (hr.moved c.direction hc) q hq

end Outcome

namespace Ledger

theorem perform_of_writable {p : Position} {c : Command} (hm : Numeral.Writable c.magnitude)
    (hp : (p.moved c.direction c.magnitude).Writable) (log : List Entry) :
    (⟨p, log, none⟩ : Ledger).perform c =
      ⟨p.moved c.direction c.magnitude,
        log ++ [.executed c (p.moved c.direction c.magnitude)], none⟩ :=
  if_pos ⟨hm, hp⟩

/-- Where every place on the way can be written, all moves are made and every outcome is logged. -/
theorem play_of_writable {os : List Outcome}
    (hm : ∀ c ∈ Outcome.moves os, c.magnitude.natAbs ≤ 100) {p : Position}
    (h : ∀ q ∈ os.scanl Outcome.after p, q.Writable) (log : List Entry) :
    (⟨p, log, none⟩ : Ledger).play os =
      ⟨Outcome.last p os, log ++ Outcome.entries p os, none⟩ := by
  induction os generalizing p log with
  | nil => rw [play_nil, Outcome.entries, List.append_nil]; rfl
  | cons o os ih =>
    have ho : ∀ q ∈ os.scanl Outcome.after (o.after p), q.Writable := by
      intro q hq
      refine h q ?_
      rw [List.scanl_cons]
      exact List.mem_cons_of_mem _ hq
    rw [play_cons rfl, Outcome.entries]
    cases o with
    | entry e =>
      have hp := ih hm ho (log ++ [e])
      rw [List.append_assoc] at hp
      exact hp
    | move c =>
      have hc : c.magnitude.natAbs ≤ 100 := hm c (List.mem_cons_self ..)
      have hm' : ∀ c ∈ Outcome.moves os, c.magnitude.natAbs ≤ 100 :=
        fun d hd => hm d (List.mem_cons_of_mem _ hd)
      have hw := ho _ (Outcome.mem_scanl_after _ os)
      have hp := ih hm' ho (log ++ [.executed c (p.moved c.direction c.magnitude)])
      show ((⟨p, log, none⟩ : Ledger).perform c).play os = _
      rw [List.append_assoc] at hp
      rw [perform_of_writable (Numeral.writable_of_le hc) hw]
      exact hp

theorem play_of_hasRoom {os : List Outcome}
    (hm : ∀ c ∈ Outcome.moves os, c.magnitude.natAbs ≤ 100) {p : Position}
    (h : p.HasRoom (Outcome.moves os).length) (log : List Entry) :
    (⟨p, log, none⟩ : Ledger).play os =
      ⟨Outcome.last p os, log ++ Outcome.entries p os, none⟩ :=
  play_of_writable hm (Outcome.writable_of_hasRoom hm h) log

end Ledger

namespace Run

theorem ledger_process_of_hasRoom {p : Position} {c : Text} (h : p.HasRoom c.length)
    (log : Array Entry) (notes : Array Note) :
    (Run.process ⟨p, log, notes, none⟩ c).ledger =
      ⟨Outcome.last p (Command.script c), log.toList ++ Outcome.entries p (Command.script c),
        none⟩ := by
  have hm : ∀ cmd ∈ Outcome.moves (Command.script c), cmd.magnitude.natAbs ≤ 100 := by
    intro cmd hc
    have := Command.magnitude_of_mem_moves hc
    omega
  rw [ledger_process_eq_play]
  exact Ledger.play_of_hasRoom hm (h.of_le (Command.length_moves_le c)) log.toList

theorem size_log_process_of_hasRoom {p : Position} {c : Text} (h : p.HasRoom c.length)
    (log : Array Entry) (notes : Array Note) :
    (Run.process ⟨p, log, notes, none⟩ c).log.size = log.size + (Command.script c).length := by
  have hl : (Run.process ⟨p, log, notes, none⟩ c).log.toList =
      log.toList ++ Outcome.entries p (Command.script c) :=
    congrArg Ledger.log (ledger_process_of_hasRoom h log notes)
  have hlen := congrArg List.length hl
  rwa [List.length_append, Outcome.length_entries] at hlen

end Run

end GridRobot
