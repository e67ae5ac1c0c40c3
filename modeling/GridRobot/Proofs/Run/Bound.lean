import GridRobot.Proofs.Run.Shape
import Mathlib.Logic.Function.Iterate

/-!
# How many turns one text takes

Every turn that ends without a fault takes one text off the stack and appends one entry to the log,
so a text takes as many turns as its script has outcomes. The shape of the entries bounds them by
the length of the text.

Main statement: `process_turns`.
-/

namespace GridRobot

namespace Command

variable {c s t : Text} {signs : Bool} {es : List Entry}

/-! ### The length of a script -/

theorem Tail.length_le (h : Tail signs c es) : es.length ≤ 1 + signs.toNat := by
  cases h with
  | plain h =>
    rw [List.length_singleton]
    omega
  | negative hs _ _ =>
    subst hs
    exact Nat.le_refl 2

theorem Leaf.length_le (h : Leaf signs c es) : es.length ≤ 2 + signs.toNat := by
  cases h with
  | plain h =>
    have := h.length_le
    omega
  | lowercase h =>
    have := h.length_le
    rw [List.length_cons]
    omega

theorem length_leaves_le {leaves : List (List Entry)}
    (h : List.Forall₂ (fun a es => Leaf signs (a :: ' ' :: t) es) s leaves) :
    leaves.flatten.length ≤ (2 + signs.toNat) * s.length := by
  induction h with
  | nil => exact Nat.zero_le _
  | cons hl _ ih =>
    have := hl.length_le
    rw [List.flatten_cons, List.length_append, List.length_cons, Nat.mul_succ]
    omega

/-- One symbol makes a leaf at most, and several make one leaf each and the notice of the split. -/
theorem Body.length_le (h : Body signs c es) (hc : tokens c = [s, t]) :
    (s.length ≤ 1 ∧ es.length ≤ 2 + signs.toNat) ∨
      (2 ≤ s.length ∧ es.length ≤ 1 + (2 + signs.toNat) * s.length) := by
  cases h with
  | leaf hs hl => exact .inl ⟨hs s t hc, hl.length_le⟩
  | split hc' hs hf =>
    rw [hc] at hc'
    obtain ⟨rfl, _⟩ := List.cons.inj hc'
    have := length_leaves_le hf
    rw [List.length_cons]
    exact .inr ⟨hs, by omega⟩

/-- A text of `n` characters leads to `3 * n - 3` outcomes at most, and to one if that is none. -/
theorem length_script_le (c : Text) : (script c).length ≤ max 1 (3 * c.length - 3) := by
  have he := Outcome.length_entries .origin
  unfold script
  by_cases hs : ' ' ∈ c
  · rw [if_pos hs]
    split
    · next s t h =>
      have hb : Body true c (Outcome.entries .origin (scriptOfTokens c s t)) :=
        body_scriptOfTokens h (fun _ _ _ => rfl) .origin
      have hl := hb.length_le h
      have hc := length_of_pair h
      rw [he] at hl
      have hsign : true.toNat = 1 := rfl
      rw [hsign] at hl
      omega
    · exact Nat.le_max_left 1 _
  · rw [if_neg hs]
    cases hb : boundary? c with
    | some i =>
      obtain ⟨hi, hlt, _⟩ := exists_of_boundary? hb
      have hl := (body_spacedAt hs hb .origin).length_le (tokens_spacedAt hs hb)
      have hsign : false.toNat = 0 := rfl
      rw [he, List.length_take, hsign] at hl
      simp only [List.length_cons]
      omega
    | none => exact Nat.le_max_left 1 _

end Command

namespace Run

/-! ### Turn by turn -/

theorem log_foldl_remark (ns : List Note) (r : Run) : (ns.foldl remark r).log = r.log :=
  Array.toList_inj.mp (congrArg Ledger.log (ledger_foldl_remark ns r))

theorem exists_log_perform (r : Run) (cmd : Command) (h : (r.perform cmd).fault = none) :
    ∃ e, (r.perform cmd).log = r.log.push e := by
  by_cases hw : Numeral.Writable cmd.magnitude ∧
      (r.position.moved cmd.direction cmd.magnitude).Writable
  · rw [perform, execute, if_pos hw]
    exact ⟨_, rfl⟩
  · rw [perform, execute, if_neg hw] at h
    cases h

theorem exists_log_turn (c : Text) (pending : List Text) (r : Run)
    (h : (turn (c :: pending, r)).2.fault = none) :
    ∃ e, (turn (c :: pending, r)).2.log = r.log.push e := by
  cases hv : Command.validate c with
  | ok cmd =>
    simp only [turn, hv] at h ⊢
    exact exists_log_perform r cmd h
  | error f =>
    simp only [turn, hv] at h ⊢
    cases hr : f.repair with
    | ok repair =>
      refine ⟨repair.entry, ?_⟩
      simp only [record, log_foldl_remark]
      rfl
    | error e =>
      simp only [hr] at h
      cases h

/-- The first `n` turns find a text on the stack and no fault, and append one entry each. -/
def AppendsFor (n : Nat) (s : List Text × Run) : Prop :=
  ∀ m < n, (turn^[m] s).1 ≠ [] ∧ (turn^[m] s).2.fault = none ∧
    ∃ e, (turn^[m + 1] s).2.log = (turn^[m] s).2.log.push e

theorem AppendsFor.size_log {n : Nat} {s : List Text × Run} (h : AppendsFor n s) :
    (turn^[n] s).2.log.size = s.2.log.size + n := by
  induction n with
  | zero => rfl
  | succ n ih =>
    obtain ⟨_, _, e, he⟩ := h n (Nat.lt_succ_self n)
    have hn := ih fun m hm => h m (Nat.lt_succ_of_lt hm)
    rw [he, Array.size_push, hn, Nat.add_assoc]

/-- A stack that is settled without a fault is emptied turn by turn. -/
theorem exists_turns (cs : List Text) (r : Run) (h : (settle cs r).fault = none) :
    ∃ n, turn^[n] (cs, r) = ([], settle cs r) ∧ AppendsFor n (cs, r) := by
  induction cs, r using turn_induction with
  | nil r =>
    rw [settle_nil]
    exact ⟨0, rfl, fun m hm => absurd hm (Nat.not_lt_zero m)⟩
  | fault c pending r f hf =>
    rw [settle_of_fault hf, hf] at h
    cases h
  | step c pending r hf ih =>
    rw [settle_turn hf] at h ⊢
    obtain ⟨n, hn, ha⟩ := ih h
    -- a fault of this turn would have stayed to the end
    have hfault : (turn (c :: pending, r)).2.fault = none := by
      cases ht : (turn (c :: pending, r)).2.fault with
      | none => rfl
      | some f =>
        rw [settle_of_fault ht, ht] at h
        cases h
    refine ⟨n + 1, hn, ?_⟩
    intro m hm
    cases m with
    | zero => exact ⟨List.cons_ne_nil c pending, hf, exists_log_turn c pending r hfault⟩
    | succ m => exact ha m (Nat.lt_of_succ_lt_succ hm)

/-- A text that there is room for takes `3 * n - 3` turns at most, where `n` is its length, and one
if that is none. Every turn takes a text off the stack and appends one entry. -/
theorem process_turns {p : Position} {c : Text} (h : p.HasRoom c.length) (log : Array Entry)
    (notes : Array Note) :
    ∃ n, n ≤ max 1 (3 * c.length - 3) ∧
      turn^[n] ([c], ⟨p, log, notes, none⟩) = ([], Run.process ⟨p, log, notes, none⟩ c) ∧
      AppendsFor n ([c], ⟨p, log, notes, none⟩) ∧
      (Run.process ⟨p, log, notes, none⟩ c).fault = none ∧
      (Run.process ⟨p, log, notes, none⟩ c).log.size = log.size + n := by
  have hl := ledger_process_of_hasRoom h log notes
  have hf : (Run.process ⟨p, log, notes, none⟩ c).fault = none := congrArg Ledger.fault hl
  obtain ⟨n, hn, ha⟩ := exists_turns [c] ⟨p, log, notes, none⟩ hf
  have hs : (Run.process ⟨p, log, notes, none⟩ c).log.size = log.size + n := by
    have := ha.size_log
    rwa [hn] at this
  have hk := size_log_process_of_hasRoom h log notes
  have hle := Command.length_script_le c
  exact ⟨n, by omega, hn, ha, hf, hs⟩

/-- A small letter in front of a digit takes three turns, as many as two characters may. -/
theorem process_turns_of_small_letter :
    Position.origin.HasRoom ("n1".toList).length ∧
      turn^[3] (["n1".toList], ⟨.origin, #[], #[], none⟩) =
        ([], Run.process ⟨.origin, #[], #[], none⟩ "n1".toList) ∧
      AppendsFor 3 (["n1".toList], ⟨.origin, #[], #[], none⟩) := by
  have hr : Position.origin.HasRoom ("n1".toList).length := by decide +kernel
  have hk : (Command.script "n1".toList).length = 3 := by decide
  have hl := size_log_process_of_hasRoom hr #[] #[]
  obtain ⟨n, _, ht, ha, _, hs⟩ := process_turns hr #[] #[]
  have hn : n = 3 := by
    rw [hs, hk] at hl
    exact Nat.add_left_cancel hl
  subst hn
  exact ⟨hr, ht, ha⟩

end Run

end GridRobot
