import GridRobot.Proofs.Command.Resubmission

/-!
# Texts in capitals

The repair of a small letter turns the whole text into capitals, the number included, and one
character may become several. The tokens are still told apart by the same spaces, the symbol is that
of a direction, and the token behind it is a number just if it was one before, and the same one.

Main statement: `upper_keeps_structure`.
-/

namespace GridRobot

namespace Command

open Numeral (IsLiteral)

/-- What validation says of the text where it finds a move by `n` in the direction `d`. -/
inductive FindsNumber (c : Text) (d : Direction) : Int → Except Failure Command → Prop where
  | negative {n : Int} (h : n < 0) : FindsNumber c d n (.error ⟨c, .negativeNumber n⟩)
  | zero : FindsNumber c d 0 (.error ⟨c, .zeroNumber⟩)
  | command {n : Int} (hl : 1 ≤ n) (hu : n ≤ 100) : FindsNumber c d n (.ok ⟨d, n⟩)
  | exceeding {n : Int} (h : 100 < n) : FindsNumber c d n (.error ⟨c, .numberExceedsLimit n⟩)

/-- The text is rejected with the complaint that `t` is no number. -/
def QuotesNumber (c t : Text) : Prop :=
  ∃ f, validate c = .error f ∧ f.command = c ∧ f.kind = .invalidNumberFormat ∧
    f.message = "Invalid number format used: ".toList ++ t ++ ['.']

variable {c t : Text} {a : Char} {d : Direction} {m n : Int}

/-! ### The number behind the symbol of a direction -/

theorem FindsNumber.unique {verdict : Except Failure Command} (hm : FindsNumber c d m verdict)
    (hn : FindsNumber c d n verdict) : m = n := by
  cases hm with
  | negative => cases hn with | negative => rfl
  | zero => cases hn with | zero => rfl
  | command => cases hn with | command => rfl
  | exceeding => cases hn with | exceeding => rfl

theorem findsNumber_of_isLiteral (h : tokens c = [[d.symbol], t]) (hl : IsLiteral t n) :
    FindsNumber c d n (validate c) := by
  have hn := Numeral.literal?_of_isLiteral hl
  have hmax : maxMagnitude = 100 := rfl
  rcases Int.lt_trichotomy n 0 with hneg | rfl | hpos
  · rw [validate_of_error (violationOr_of_neg h hn hneg)]
    exact .negative hneg
  · rw [validate_of_error (violationOr_of_zero h hn)]
    exact .zero
  · have hv := violationOr_of_pos h hn hpos
    by_cases hle : n ≤ maxMagnitude
    · rw [if_pos hle] at hv
      rw [validate_of_ok hv]
      exact .command (by omega) (by omega)
    · rw [if_neg hle] at hv
      rw [validate_of_error hv]
      exact .exceeding (by omega)

theorem validate_of_noLiteral (h : tokens c = [[d.symbol], t]) (ht : ∀ n, ¬IsLiteral t n) :
    validate c = .error ⟨c, .invalidNumberFormat t⟩ :=
  validate_of_error (violationOr_of_unreadable h (Numeral.literal?_eq_none_iff.mpr ht))

theorem findsNumber_iff (h : tokens c = [[d.symbol], t]) :
    FindsNumber c d n (validate c) ↔ IsLiteral t n := by
  constructor
  · intro hf
    by_cases ht : ∃ m, IsLiteral t m
    · obtain ⟨m, hm⟩ := ht
      obtain rfl := hf.unique (findsNumber_of_isLiteral h hm)
      exact hm
    · -- without a literal the text is rejected for its format, which is no verdict on a number
      rw [validate_of_noLiteral h (not_exists.mp ht)] at hf
      cases hf
  · exact findsNumber_of_isLiteral h

theorem quotesNumber_iff (h : tokens c = [[d.symbol], t]) :
    QuotesNumber c t ↔ ∀ n, ¬IsLiteral t n := by
  constructor
  · rintro ⟨f, hf, _, hk, _⟩ n hl
    have hfound := findsNumber_of_isLiteral h hl
    rw [hf] at hfound
    cases hfound with
    | negative | zero | exceeding => cases hk
  · intro ht
    exact ⟨_, validate_of_noLiteral h ht, rfl, rfl, Failure.message_mk ..⟩

/-! ### Capitals -/

/-- What becomes of a text in capitals, where `a` is the small letter of the direction `d`, and
`t` the token behind it. -/
structure IsCapitalised (c : Text) (a : Char) (t : Text) (d : Direction) : Prop where
  capital : Text.upperChar a = [d.symbol]
  tokens_eq : tokens c.upper = [[d.symbol], t.upper]
  symbolPasses : validate c.upper = (ofNumber d t.upper).mapError (⟨c.upper, ·⟩)
  finds_iff : ∀ n, FindsNumber c.upper d n (validate c.upper) ↔ IsLiteral t n
  quotes_iff : QuotesNumber c.upper t.upper ↔ ∀ n, ¬IsLiteral t n

theorem isCapitalised_of_letter (h : tokens c = [[a], t]) (ha : Direction.ofLetter? a = some d) :
    IsCapitalised c a t d := by
  have hu := tokens_upper_of_letter h ha
  refine ⟨Direction.upperChar_of_ofLetter? ha, hu, ?_, ?_, ?_⟩
  · rw [validate, violationOr_of_symbol hu]
  · intro n
    rw [findsNumber_iff hu, Numeral.isLiteral_upper_iff]
  · simp only [quotesNumber_iff hu, Numeral.isLiteral_upper_iff]

/-- The tokens of a text in capitals are its tokens in capitals. A text that is rejected for a small
letter is handed back in capitals: the number `n` is found in it just if the token behind the letter
was a literal for `n`, and if it was none, its capitals are quoted. -/
theorem upper_keeps_structure (c : Text) :
    tokens c.upper = (tokens c).map Text.upper ∧
      ∀ f, validate c = .error f → f.kind = .lowercaseLetter →
        f.repair.map Repair.next = .ok [c.upper] ∧
          ∃ (a : Char) (t : Text) (d : Direction), tokens c = [[a], t] ∧ IsCapitalised c a t d := by
  refine ⟨tokens_upper c, ?_⟩
  intro f hf hk
  obtain ⟨rfl, hv⟩ := violationOr_of_validate hf
  cases hl : f.violation with
  | lowercaseLetter a =>
    rw [hl] at hv
    obtain ⟨t, d, ht, hd⟩ := exists_of_lowercaseLetter hv
    have hr : f.repair.map Repair.next = .ok [f.command.upper] := by
      simp only [Failure.repair, hl]
      rfl
    exact ⟨hr, a, t, d, ht, isCapitalised_of_letter ht hd⟩
  | _ =>
    rw [Failure.kind, hl] at hk
    cases hk

/-- The sharp s becomes two letters, and zeros, a sign and the space at the end stay as they are. -/
theorem upper_keeps_structure_of_sharpS :
    validate "w ß5".toList = .error ⟨"w ß5".toList, .lowercaseLetter 'w'⟩ ∧
      QuotesNumber "W SS5".toList "SS5".toList ∧
      validate "n -007 ".toList = .error ⟨"n -007 ".toList, .lowercaseLetter 'n'⟩ ∧
      FindsNumber "N -007 ".toList .north (-7) (validate "N -007 ".toList) := by
  have hw : validate "w ß5".toList = .error ⟨"w ß5".toList, .lowercaseLetter 'w'⟩ := by decide
  have hn : validate "n -007 ".toList = .error ⟨"n -007 ".toList, .lowercaseLetter 'n'⟩ := by
    decide
  have hquotes : QuotesNumber "W SS5".toList "SS5".toList := by
    obtain ⟨_, a, t, d, ht, h⟩ := (upper_keeps_structure "w ß5".toList).2 _ hw rfl
    have htokens : tokens "w ß5".toList = [['w'], ['ß', '5']] := by decide
    rw [htokens] at ht
    cases ht
    exact h.quotes_iff.mpr (Numeral.literal?_eq_none_iff.mp (by decide))
  have hfinds : FindsNumber "N -007 ".toList .north (-7) (validate "N -007 ".toList) := by
    obtain ⟨_, a, t, d, ht, h⟩ := (upper_keeps_structure "n -007 ".toList).2 _ hn rfl
    have htokens : tokens "n -007 ".toList = [['n'], "-007".toList] := by decide
    rw [htokens] at ht
    cases ht
    have hd : d = .north := by
      cases d
      case north => rfl
      all_goals exact absurd h.capital (by decide)
    subst hd
    exact (h.finds_iff (-7)).mpr (Numeral.isLiteral_of_literal? (by decide))
  exact ⟨hw, hquotes, hn, hfinds⟩

end Command

end GridRobot
