import GridRobot.Command.Repair
import GridRobot.Proofs.Numeral.Literal

/-!
# Verdicts

What validation says of a text, by its tokens: first by the symbol, then, where the symbol is that
of a direction, by the number.
-/

namespace GridRobot

/-- The direction that a letter stands for, be it a capital or a small one. -/
def Direction.ofLetter? (a : Char) : Option Direction :=
  match a with
  | 'N' | 'n' => some north
  | 'S' | 's' => some south
  | 'E' | 'e' => some east
  | 'W' | 'w' => some west
  | _ => none

namespace Direction

theorem ofLetter?_symbol (d : Direction) : ofLetter? d.symbol = some d := by
  cases d <;> rfl

theorem upperChar_of_ofLetter? {a : Char} {d : Direction} (h : ofLetter? a = some d) :
    Text.upperChar a = [d.symbol] := by
  unfold ofLetter? at h
  split at h
  all_goals first
    | (obtain rfl := Option.some.inj h; rfl)
    | cases h

/-- The letters that stand for a direction are eight, and each stands for the one of its capital. -/
theorem ofLetter?_eq_some_iff {a : Char} {d : Direction} :
    ofLetter? a = some d ↔
      a ∈ ['N', 'S', 'E', 'W', 'n', 's', 'e', 'w'] ∧ Text.upperChar a = [d.symbol] := by
  constructor
  · intro h
    refine ⟨?_, upperChar_of_ofLetter? h⟩
    unfold ofLetter? at h
    split at h
    all_goals first
      | (cases h; done)
      | simp
  · rintro ⟨ha, hu⟩
    have hsome : (ofLetter? a).isSome = true := by
      simp only [List.mem_cons, List.not_mem_nil, or_false] at ha
      rcases ha with rfl | rfl | rfl | rfl | rfl | rfl | rfl | rfl <;> rfl
    obtain ⟨e, he⟩ := Option.isSome_iff_exists.mp hsome
    have hs := upperChar_of_ofLetter? he
    rw [hu] at hs
    have hd : some d = some e := by
      rw [← ofSymbol?_symbol d, ← ofSymbol?_symbol e, (List.cons.inj hs).1]
    rw [he, hd]

theorem exists_ofLetter?_of_small {a : Char} (h : a ∈ Command.smallSymbols) :
    ∃ d, ofLetter? a = some d := by
  simp only [Command.smallSymbols, List.mem_cons, List.not_mem_nil, or_false] at h
  rcases h with rfl | rfl | rfl | rfl <;> exact ⟨_, rfl⟩

theorem mem_smallSymbols {a : Char} (hs : ofSymbol? a = none) (h : (ofLetter? a).isSome = true) :
    a ∈ Command.smallSymbols := by
  unfold ofLetter? at h
  split at h
  all_goals first
    | (cases hs; done)
    | (simp [Command.smallSymbols]; done)
    | cases h

end Direction

/-- Nothing is repaired where the rule is broken, and the text is rejected with its message. -/
def Violation.IsFinal : Violation → Prop
  | .uninterpretable | .invalidCapitalLetter _ | .invalidSymbol _ | .invalidNumberFormat _
  | .numberExceedsLimit _ => True
  | _ => False

theorem Violation.isFinal_of_other (a : Char) :
    IsFinal (if a.isUpper then .invalidCapitalLetter a else .invalidSymbol [a]) := by
  split <;> trivial

namespace Command

variable {c s t : Text} {a : Char} {d : Direction} {n : Int}

theorem validate_of_ok {cmd : Command} (h : violationOr c = .ok cmd) : validate c = .ok cmd := by
  rw [validate, h]
  rfl

theorem validate_of_error {v : Violation} (h : violationOr c = .error v) :
    validate c = .error ⟨c, v⟩ := by
  rw [validate, h]
  rfl

theorem violationOr_of_validate_ok {cmd : Command} (h : validate c = .ok cmd) :
    violationOr c = .ok cmd := by
  unfold validate at h
  cases hv : violationOr c with
  | ok a =>
    rw [hv] at h
    rw [Except.ok.inj h]
  | error v =>
    rw [hv] at h
    cases h

theorem violationOr_of_not_mem (h : ' ' ∉ c) : violationOr c = .error .noSpaceSeparator := by
  rw [violationOr, if_neg h]

theorem violationOr_of_ne_pair (hc : ' ' ∈ c) (h : ∀ s t, tokens c ≠ [s, t]) :
    violationOr c = .error .uninterpretable := by
  rw [violationOr, if_pos hc]
  split
  · next s t ht => exact absurd ht (h s t)
  · rfl

/-! ### By the symbol -/

theorem violationOr_of_empty (h : tokens c = [[], t]) :
    violationOr c = .error (.invalidSymbol []) :=
  violationOr_of_tokens h

theorem violationOr_of_several (h : tokens c = [s, t]) (hs : 2 ≤ s.length) :
    violationOr c = .error (.multipleSymbols s) := by
  rw [violationOr_of_tokens h]
  match s, hs with
  | a :: b :: s, _ => rfl

theorem violationOr_of_small (h : tokens c = [[a], t]) (hs : Direction.ofSymbol? a = none)
    (ha : Direction.ofLetter? a = some d) : violationOr c = .error (.lowercaseLetter a) := by
  have hm : a ∈ smallSymbols := by
    refine Direction.mem_smallSymbols hs ?_
    rw [ha]
    rfl
  rw [violationOr_of_tokens h, ofTokens, hs]
  simp only [hm, if_true]

theorem exists_of_lowercaseLetter (h : violationOr c = .error (.lowercaseLetter a)) :
    ∃ t d, tokens c = [[a], t] ∧ Direction.ofLetter? a = some d := by
  obtain ⟨s, t, ht, hs⟩ := exists_tokens_of_violationOr h (by simp) (by simp)
  obtain ⟨rfl, ha⟩ := ofTokens_eq_lowercase hs
  obtain ⟨d, hd⟩ := Direction.exists_ofLetter?_of_small ha
  exact ⟨t, d, ht, hd⟩

/-- A character that stands for no direction is a wrong capital letter or a wrong symbol. -/
theorem violationOr_of_other (h : tokens c = [[a], t]) (ha : Direction.ofLetter? a = none) :
    violationOr c =
      .error (if a.isUpper then .invalidCapitalLetter a else .invalidSymbol [a]) := by
  have hs : Direction.ofSymbol? a = none := by
    cases hs : Direction.ofSymbol? a with
    | none => rfl
    | some d =>
      rw [Direction.eq_symbol_of_ofSymbol? hs, Direction.ofLetter?_symbol] at ha
      cases ha
  have hm : a ∉ smallSymbols := by
    intro hm
    obtain ⟨d, hd⟩ := Direction.exists_ofLetter?_of_small hm
    rw [ha] at hd
    cases hd
  rw [violationOr_of_tokens h, ofTokens, hs]
  simp only [hm, if_false]
  split <;> rfl

/-! ### By the number -/

theorem violationOr_of_symbol (h : tokens c = [[d.symbol], t]) : violationOr c = ofNumber d t := by
  rw [violationOr_of_tokens h, ofTokens_symbol]

theorem violationOr_of_unreadable (h : tokens c = [[d.symbol], t])
    (ht : Numeral.literal? t = none) :
    violationOr c = .error (.invalidNumberFormat t) := by
  rw [violationOr_of_symbol h, ofNumber, ht]

theorem violationOr_of_neg (h : tokens c = [[d.symbol], t]) (ht : Numeral.literal? t = some n)
    (hn : n < 0) : violationOr c = .error (.negativeNumber n) := by
  rw [violationOr_of_symbol h, ofNumber, ht]
  simp only [hn, if_true]

theorem violationOr_of_zero (h : tokens c = [[d.symbol], t]) (ht : Numeral.literal? t = some 0) :
    violationOr c = .error .zeroNumber := by
  rw [violationOr_of_symbol h, ofNumber, ht]
  rfl

theorem violationOr_of_pos (h : tokens c = [[d.symbol], t]) (ht : Numeral.literal? t = some n)
    (hn : 0 < n) :
    violationOr c = if n ≤ maxMagnitude then .ok ⟨d, n⟩ else .error (.numberExceedsLimit n) := by
  have h₁ : ¬n < 0 := by omega
  have h₂ : ¬n = 0 := by omega
  rw [violationOr_of_symbol h, ofNumber, ht]
  simp only [h₁, h₂, if_false]
  by_cases hl : n ≤ maxMagnitude
  · have hg : ¬maxMagnitude < n := by omega
    rw [if_neg hg, if_pos hl]
  · have hg : maxMagnitude < n := by omega
    rw [if_pos hg, if_neg hl]

end Command

end GridRobot
