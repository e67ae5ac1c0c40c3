import GridRobot.Proofs.Command.Resubmission
import GridRobot.Run

/-!
# Inverted signs

A move by a negative number is asked for in the other direction instead. The robot ends up where the
negative number would have led it, unless the number is too large for a command.

Main statement: `invertNegative_keeps_move`.
-/

namespace GridRobot

theorem Position.moved_opposite (p : Position) (d : Direction) (n : Int) :
    p.moved d.opposite n = ⟨p.x + -n * d.delta.1, p.y + -n * d.delta.2⟩ := by
  have hd := Direction.delta_opposite d
  simp only [Position.moved, hd, Int.neg_mul, Int.mul_comm n]

/-- The robot moves even where its new place cannot be logged. -/
theorem Run.position_perform (r : Run) (c : Command) :
    (r.perform c).position = r.position.moved c.direction c.magnitude := by
  by_cases hw : Numeral.Writable c.magnitude ∧ (r.position.moved c.direction c.magnitude).Writable
  · rw [perform, execute, if_pos hw]
    rfl
  · rw [perform, execute, if_neg hw]

namespace Command

open Numeral (IsDigits IsLiteral)

variable {c c' : Text} {cmd : Command}

theorem position_of_ok (h : violationOr c = .ok cmd) (r : Run) :
    (r.validateAndExecute c).1.position = r.position.moved cmd.direction cmd.magnitude := by
  rw [Run.validateAndExecute, validate_of_ok h]
  exact r.position_perform cmd

theorem exists_digits_of_neg {t : Text} {n : Int} (h : IsLiteral t n) (hn : n < 0) :
    ∃ ds, IsDigits ds ∧ t = '-' :: ds ∧ n = -(Nat.ofDigitChars 10 ds 0 : Int) := by
  cases h with
  | unsigned h => omega
  | plus h => omega
  | @minus ds h => exact ⟨ds, h, rfl, rfl⟩

/-- The texts that are rejected for a negative number. -/
theorem exists_of_negativeNumber {n : Int} (h : violationOr c = .error (.negativeNumber n)) :
    ∃ (d : Direction) (ds : Text) (k : Nat),
      tokens c = [[d.symbol], '-' :: ds] ∧
      c = d.symbol :: ' ' :: '-' :: (ds ++ List.replicate k ' ') ∧ IsDigits ds ∧
      0 < Nat.ofDigitChars 10 ds 0 ∧ n = -(Nat.ofDigitChars 10 ds 0 : Int) := by
  obtain ⟨s, t, ht, hv⟩ := exists_tokens_of_violationOr h (by simp) (by simp)
  obtain ⟨d, rfl, hn, hneg⟩ := ofTokens_eq_negative hv
  obtain ⟨ds, hds, rfl, hval⟩ := exists_digits_of_neg (Numeral.isLiteral_of_literal? hn) hneg
  obtain ⟨_, _, _, k, hk⟩ := tokens_eq_pair_iff.mp ht
  have hpos : 0 < Nat.ofDigitChars 10 ds 0 := by omega
  exact ⟨d, ds, k, ht, hk, hds, hpos, hval⟩

/-- The decimal digits of a number, without zeros in front of them. -/
structure IsDecimal (ds : Text) (m : Nat) : Prop where
  digits : IsDigits ds
  head : ds.head? ≠ some '0'
  value : Nat.ofDigitChars 10 ds 0 = m

theorem isDecimal_digits {m : Nat} (hm : 0 < m) (hb : m < Numeral.bound) :
    IsDecimal (Numeral.digits m) m :=
  ⟨Numeral.isDigits_digits hb, Numeral.head?_digits_ne hm, Numeral.ofDigitChars_digits m⟩

/-- What became of a text with the symbol of `d` and the number `-m`, where `m` is written `ds`. -/
structure Inverted (d : Direction) (m : Nat) (ds c' : Text) : Prop where
  canonical : c' = text ⟨d.opposite, m⟩
  spelled : c' = d.opposite.symbol :: ' ' :: ds
  decimal : IsDecimal ds m
  accepted : m ≤ 100 → validate c' = .ok ⟨d.opposite, m⟩
  refused : 100 < m → ∃ f, validate c' = .error f ∧ f.kind = .numberExceedsLimit ∧
    f.message = "Number exceeds limit 100: ".toList ++ ds ++ ['.']
  /-- The move leads from any place by `-m` steps in the direction that was asked for. -/
  moves : m ≤ 100 → ∀ r : Run, (r.validateAndExecute c').1.position =
    ⟨r.position.x + -(m : Int) * d.delta.1, r.position.y + -(m : Int) * d.delta.2⟩

theorem inverted_text {d : Direction} {m : Nat} (hm : 0 < m) (hb : m < Numeral.bound) :
    Inverted d m (Numeral.digits m) (text ⟨d.opposite, m⟩) := by
  have hpos : (0 : Int) < m := by omega
  have hv := violationOr_text ⟨d.opposite, m⟩ (show Numeral.Writable m from hb) hpos
  have hlim : maxMagnitude = 100 := rfl
  have hok : m ≤ 100 → violationOr (text ⟨d.opposite, m⟩) = .ok ⟨d.opposite, m⟩ := by
    intro hle
    have hle : (m : Int) ≤ maxMagnitude := by omega
    rw [hv, if_pos hle]
  refine ⟨rfl, ?_, isDecimal_digits hm hb, ?_, ?_, ?_⟩
  · rw [Command.text, Numeral.text_natCast]
  · intro hle
    exact validate_of_ok (hok hle)
  · intro hlt
    have hgt : ¬(m : Int) ≤ maxMagnitude := by omega
    rw [if_neg hgt] at hv
    refine ⟨_, validate_of_error hv, rfl, ?_⟩
    rw [← Numeral.text_natCast]
    rfl
  · intro hle r
    exact (position_of_ok (hok hle) r).trans (Position.moved_opposite _ d m)

/-- A text that is rejected for the negative number `-m` is inverted to the canonical text of the
opposite move by `m`. If `m` is no more than the limit, the inverted text leads the robot from any
place by `-m` steps in the direction that was asked for. -/
theorem invertNegative_keeps_move {f : Failure} (h : validate c = .error f)
    (hk : f.kind = .negativeNumber) :
    ∃ (d : Direction) (m k : Nat) (zs ds c' : Text),
      c = d.symbol :: ' ' :: '-' :: (zs ++ List.replicate k ' ') ∧ IsDigits zs ∧
      Nat.ofDigitChars 10 zs 0 = m ∧ 1 ≤ m ∧
      invertNegative c = .ok c' ∧ Inverted d m ds c' := by
  obtain ⟨rfl, hv⟩ := violationOr_of_validate h
  have hn : ∃ n, f.violation = .negativeNumber n := by
    unfold Failure.kind at hk
    cases hf : f.violation with
    | negativeNumber n => exact ⟨n, rfl⟩
    | _ =>
      rw [hf] at hk
      cases hk
  obtain ⟨n, hn⟩ := hn
  rw [hn] at hv
  obtain ⟨d, zs, k, ht, hc, hzs, hpos, rfl⟩ := exists_of_negativeNumber hv
  have hl : IsLiteral ('-' :: zs) (-(Nat.ofDigitChars 10 zs 0 : Int)) := .minus hzs
  have hneg : -(Nat.ofDigitChars 10 zs 0 : Int) < 0 := by omega
  have hi := invertNegative_of_literal ht hl hneg
  rw [Int.neg_neg] at hi
  have hb : Nat.ofDigitChars 10 zs 0 < Numeral.bound := by
    have := hl.writable
    unfold Numeral.Writable at this
    rwa [Int.natAbs_neg, Int.natAbs_natCast] at this
  exact ⟨d, _, k, zs, _, _, hc, hzs, rfl, hpos, hi, inverted_text hpos hb⟩

/-- Zeros in front of the number and a space behind it, from a place away from the origin. -/
theorem invertNegative_keeps_move_of_zeros :
    validate "W -007 ".toList = .error ⟨"W -007 ".toList, .negativeNumber (-7)⟩ ∧
      invertNegative "W -007 ".toList = .ok "E 7".toList ∧
      Inverted .west 7 ['7'] "E 7".toList ∧
      (Run.validateAndExecute ⟨⟨-2, 5⟩, #[], #[], none⟩ "E 7".toList).1.position = ⟨5, 5⟩ := by
  have h : validate "W -007 ".toList = .error ⟨"W -007 ".toList, .negativeNumber (-7)⟩ := by
    decide
  have he : invertNegative "W -007 ".toList = .ok "E 7".toList := by decide +kernel
  obtain ⟨d, m, _, _, ds, c', _, _, _, _, hi, hinv⟩ := invertNegative_keeps_move h rfl
  rw [he] at hi
  obtain rfl := Except.ok.inj hi
  obtain ⟨hd, hds⟩ := List.cons.inj hinv.spelled
  obtain rfl := (List.cons.inj hds).2
  have hw : d = .west := by
    cases d
    case west => rfl
    all_goals exact absurd hd (by decide)
  have hm : m = 7 := hinv.decimal.value.symm
  subst hw hm
  exact ⟨h, he, hinv, hinv.moves (by decide) ⟨⟨-2, 5⟩, #[], #[], none⟩⟩

end Command

end GridRobot
