import GridRobot.Proofs.Command.Verdict

/-!
# The grammar of commands

The spellings of a command beside the rules that validation goes through: the symbol of a direction,
one space, a plus sign or none, a run of digits that stands for the distance, and any number of
spaces.

Main statement: a text is taken for a command just if it is a spelling of it
(`validate_eq_ok_iff_spells`).
-/

namespace GridRobot.Command

/-- A plus sign, or none. -/
def IsPlus (sign : Text) : Prop :=
  sign = [] ∨ sign = ['+']

/-- The text is a spelling of the command. Of the digits there are one to `Numeral.maxDigits`, with
the zeros in front of them. -/
inductive Spells : Text → Command → Prop where
  | intro (d : Direction) {sign ds : Text} (hs : IsPlus sign) (hd : Numeral.IsDigits ds)
      (hl : 1 ≤ Nat.ofDigitChars 10 ds 0) (hu : Nat.ofDigitChars 10 ds 0 ≤ 100) (k : Nat) :
      Spells (d.symbol :: ' ' :: (sign ++ ds ++ List.replicate k ' '))
        ⟨d, Nat.ofDigitChars 10 ds 0⟩

variable {c s t : Text} {cmd : Command}

/-! ### The number -/

/-- A literal above zero has no minus sign. -/
theorem exists_digits_of_pos {n : Int} (h : Numeral.IsLiteral t n) (hn : 0 < n) :
    ∃ sign ds, IsPlus sign ∧ Numeral.IsDigits ds ∧ t = sign ++ ds ∧
      n = Nat.ofDigitChars 10 ds 0 := by
  cases h with
  | unsigned h => exact ⟨[], t, Or.inl rfl, h, rfl, rfl⟩
  | @plus ds h => exact ⟨['+'], ds, Or.inr rfl, h, rfl, rfl⟩
  | minus h => omega

theorem isLiteral_of_digits {sign ds : Text} (hs : IsPlus sign) (hd : Numeral.IsDigits ds) :
    Numeral.IsLiteral (sign ++ ds) (Nat.ofDigitChars 10 ds 0) := by
  rcases hs with rfl | rfl
  · exact .unsigned hd
  · exact .plus hd

theorem literal_of_ofNumber {d : Direction} (h : ofNumber d t = .ok cmd) :
    cmd.direction = d ∧ Numeral.IsLiteral t cmd.magnitude ∧ 0 < cmd.magnitude ∧
      cmd.magnitude ≤ 100 := by
  unfold ofNumber at h
  split at h
  · cases h
  · next n hn =>
    split at h
    · cases h
    · next hneg =>
      split at h
      · cases h
      · next hz =>
        split at h
        · cases h
        · next hlim =>
          obtain rfl := Except.ok.inj h
          have hm : maxMagnitude = 100 := rfl
          have hpos : 0 < n := by omega
          have hle : n ≤ 100 := by omega
          exact ⟨rfl, Numeral.isLiteral_of_literal? hn, hpos, hle⟩

/-! ### The symbol -/

theorem symbol_of_ofTokens (h : ofTokens s t = .ok cmd) :
    s = [cmd.direction.symbol] ∧ ofNumber cmd.direction t = .ok cmd := by
  unfold ofTokens at h
  split at h
  · cases h
  · next a =>
    split at h
    · next d hd =>
      obtain rfl := Direction.eq_symbol_of_ofSymbol? hd
      obtain rfl := (literal_of_ofNumber h).1
      exact ⟨rfl, h⟩
    · split at h
      · cases h
      · split at h
        · cases h
        · cases h
  · cases h

theorem tokens_of_violationOr_ok (h : violationOr c = .ok cmd) :
    ∃ t, tokens c = [[cmd.direction.symbol], t] ∧ ofNumber cmd.direction t = .ok cmd := by
  unfold violationOr at h
  split at h
  · split at h
    · next s t ht =>
      obtain ⟨rfl, hn⟩ := symbol_of_ofTokens h
      exact ⟨t, ht, hn⟩
    · cases h
  · cases h

/-! ### Both directions -/

theorem spells_of_violationOr (h : violationOr c = .ok cmd) : Spells c cmd := by
  obtain ⟨t, ht, hn⟩ := tokens_of_violationOr_ok h
  obtain ⟨_, hl, hpos, hle⟩ := literal_of_ofNumber hn
  obtain ⟨sign, ds, hs, hd, rfl, hv⟩ := exists_digits_of_pos hl hpos
  obtain ⟨_, _, _, k, rfl⟩ := tokens_eq_pair_iff.mp ht
  obtain ⟨d, n⟩ := cmd
  have hv : n = Nat.ofDigitChars 10 ds 0 := hv
  subst hv
  exact .intro d hs hd (Int.ofNat_le.mp hpos) (Int.ofNat_le.mp hle) k

theorem tokens_spelling (d : Direction) {sign ds : Text} (hs : IsPlus sign)
    (hd : Numeral.IsDigits ds) (k : Nat) :
    tokens (d.symbol :: ' ' :: (sign ++ ds ++ List.replicate k ' ')) = [[d.symbol], sign ++ ds] := by
  have hb : ' ' ∉ ds := by
    intro hm
    have := hd.2.1 ' ' hm
    cases this
  have hsign : ' ' ∉ sign := by
    rcases hs with rfl | rfl
    · exact List.not_mem_nil
    · decide
  have hne : sign ++ ds ≠ [] := List.append_ne_nil_of_right_ne_nil _ hd.1
  have hsym : ' ' ∉ [d.symbol] := by
    cases d <;> decide
  have hnum : ' ' ∉ sign ++ ds := by
    rw [List.mem_append]
    rintro (h | h)
    · exact hsign h
    · exact hb h
  exact tokens_pair hsym hnum hne k

theorem violationOr_of_spells (h : Spells c cmd) : violationOr c = .ok cmd := by
  cases h with
  | @intro d sign ds hs hd hl hu k =>
    have ht := tokens_spelling d hs hd k
    have hn := Numeral.literal?_of_isLiteral (isLiteral_of_digits hs hd)
    have hpos : (0 : Int) < Nat.ofDigitChars 10 ds 0 := Int.ofNat_lt.mpr hl
    have hle : (Nat.ofDigitChars 10 ds 0 : Int) ≤ maxMagnitude := Int.ofNat_le.mpr hu
    rw [violationOr_of_pos ht hn hpos, if_pos hle]

/-- A text is taken for a command just if it is a spelling of this command. -/
theorem validate_eq_ok_iff_spells (c : Text) (cmd : Command) :
    validate c = .ok cmd ↔ Spells c cmd := by
  constructor
  · intro h
    exact spells_of_violationOr (violationOr_of_validate_ok h)
  · intro h
    exact validate_of_ok (violationOr_of_spells h)

end GridRobot.Command
