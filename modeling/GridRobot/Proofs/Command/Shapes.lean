import GridRobot.Proofs.Command.Verdict

/-!
# The shapes of rejected texts

What a text looks like that breaks a rule, beside the order in which the rules are checked. The
shapes do not overlap, and together they are all texts that are no command; with each stands what
the rejected text is told.

Main statement: `rejected_iff_breaks`.
-/

namespace GridRobot

namespace Command

open Numeral (IsLiteral)

/-- The text is one token, a space, another token that is not empty, and any number of spaces. -/
def FallsInto (c s t : Text) : Prop :=
  ' ' ∉ s ∧ ' ' ∉ t ∧ t ≠ [] ∧ ∃ k, c = s ++ ' ' :: (t ++ List.replicate k ' ')

/-- The shape of the texts that break a rule, and the message about them. -/
inductive Breaks (c : Text) : FailureKind → Text → Prop where
  | noSpaceSeparator (h : ' ' ∉ c) :
    Breaks c .noSpaceSeparator ("No space separator in command: ".toList ++ c ++ ['.'])
  | uninterpretable (hs : ' ' ∈ c) (h : ∀ s t, ¬FallsInto c s t) :
    Breaks c .uninterpretable ("Cannot interpret command: ".toList ++ c ++ ['.'])
  | lowercaseLetter {a : Char} {t : Text} (h : FallsInto c [a] t) (ha : a ∈ ['n', 's', 'e', 'w']) :
    Breaks c .lowercaseLetter ("Lowercase letter used: ".toList ++ [a, '.'])
  | invalidCapitalLetter {a : Char} {t : Text} (h : FallsInto c [a] t) (hu : 'A' ≤ a ∧ a ≤ 'Z')
    (ha : a ∉ ['N', 'S', 'E', 'W']) :
    Breaks c .invalidCapitalLetter ("Invalid capital letter used: ".toList ++ [a, '.'])
  | emptySymbol {t : Text} (h : FallsInto c [] t) :
    Breaks c .invalidSymbol ("Invalid symbol used: ".toList ++ ['.'])
  | invalidSymbol {a : Char} {t : Text} (h : FallsInto c [a] t) (hu : ¬('A' ≤ a ∧ a ≤ 'Z'))
    (ha : a ∉ ['n', 's', 'e', 'w']) :
    Breaks c .invalidSymbol ("Invalid symbol used: ".toList ++ [a, '.'])
  | multipleSymbols {s t : Text} (h : FallsInto c s t) (hs : 2 ≤ s.length) :
    Breaks c .multipleSymbols ("Multiple symbols used: ".toList ++ s ++ ['.'])
  | invalidNumberFormat {a : Char} {t : Text} (h : FallsInto c [a] t)
    (ha : a ∈ ['N', 'S', 'E', 'W']) (ht : ∀ n, ¬IsLiteral t n) :
    Breaks c .invalidNumberFormat ("Invalid number format used: ".toList ++ t ++ ['.'])
  | negativeNumber {a : Char} {t : Text} {n : Int} (h : FallsInto c [a] t)
    (ha : a ∈ ['N', 'S', 'E', 'W']) (ht : IsLiteral t n) (hn : n < 0) :
    Breaks c .negativeNumber ("Negative number used: ".toList ++ Numeral.text n ++ ['.'])
  | zeroNumber {a : Char} {t : Text} (h : FallsInto c [a] t) (ha : a ∈ ['N', 'S', 'E', 'W'])
    (ht : IsLiteral t 0) : Breaks c .zeroNumber "Zero number not allowed.".toList
  | numberExceedsLimit {a : Char} {t : Text} {n : Int} (h : FallsInto c [a] t)
    (ha : a ∈ ['N', 'S', 'E', 'W']) (ht : IsLiteral t n) (hn : 100 < n) :
    Breaks c .numberExceedsLimit ("Number exceeds limit 100: ".toList ++ Numeral.text n ++ ['.'])

variable {c s t m : Text} {a : Char} {d : Direction} {k : FailureKind} {v : Violation}

/-! ### Letters -/

theorem isUpper_iff : a.isUpper = true ↔ 'A' ≤ a ∧ a ≤ 'Z' :=
  decide_eq_true_iff

theorem exists_eq_symbol (h : a ∈ ['N', 'S', 'E', 'W']) : ∃ d : Direction, a = d.symbol := by
  simp only [List.mem_cons, List.not_mem_nil, or_false] at h
  rcases h with rfl | rfl | rfl | rfl
  · exact ⟨.north, rfl⟩
  · exact ⟨.south, rfl⟩
  · exact ⟨.east, rfl⟩
  · exact ⟨.west, rfl⟩

theorem symbol_mem (d : Direction) : d.symbol ∈ ['N', 'S', 'E', 'W'] := by
  cases d <;> decide

theorem ofSymbol?_of_small (h : a ∈ smallSymbols) : Direction.ofSymbol? a = none := by
  simp only [smallSymbols, List.mem_cons, List.not_mem_nil, or_false] at h
  rcases h with rfl | rfl | rfl | rfl <;> rfl

theorem ofLetter?_eq_none (hc : a ∉ ['N', 'S', 'E', 'W']) (hs : a ∉ smallSymbols) :
    Direction.ofLetter? a = none := by
  cases h : Direction.ofLetter? a with
  | none => rfl
  | some d =>
    have hm : a ∈ ['N', 'S', 'E', 'W'] ++ smallSymbols :=
      (Direction.ofLetter?_eq_some_iff.mp h).1
    rcases List.mem_append.mp hm with h | h
    · exact absurd h hc
    · exact absurd h hs

/-! ### A rejected text has the shape -/

theorem breaks_of_ofNumber (hc : tokens c = [[d.symbol], t]) (h : ofNumber d t = .error v) :
    Breaks c v.kind (Failure.message ⟨c, v⟩) := by
  rw [Failure.message_mk]
  have hp : FallsInto c [d.symbol] t := tokens_eq_pair_iff.mp hc
  unfold ofNumber at h
  split at h
  · next hn =>
    cases h
    exact .invalidNumberFormat hp (symbol_mem d) (Numeral.literal?_eq_none_iff.mp hn)
  · next n hn =>
    have hl := Numeral.isLiteral_of_literal? hn
    split at h
    · next hneg =>
      cases h
      exact .negativeNumber hp (symbol_mem d) hl hneg
    · split at h
      · next hz =>
        cases h
        exact .zeroNumber hp (symbol_mem d) (hz ▸ hl)
      · split at h
        · next hlim =>
          cases h
          exact .numberExceedsLimit hp (symbol_mem d) hl hlim
        · cases h

theorem breaks_of_symbol (hc : tokens c = [[a], t]) (h : violationOr c = .error v) :
    Breaks c v.kind (Failure.message ⟨c, v⟩) := by
  have hp : FallsInto c [a] t := tokens_eq_pair_iff.mp hc
  by_cases hbig : a ∈ ['N', 'S', 'E', 'W']
  · obtain ⟨d, rfl⟩ := exists_eq_symbol hbig
    rw [violationOr_of_symbol hc] at h
    exact breaks_of_ofNumber hc h
  · rw [Failure.message_mk]
    by_cases hsmall : a ∈ smallSymbols
    · obtain ⟨d, hd⟩ := Direction.exists_ofLetter?_of_small hsmall
      rw [violationOr_of_small hc (ofSymbol?_of_small hsmall) hd] at h
      cases h
      exact .lowercaseLetter hp hsmall
    · rw [violationOr_of_other hc (ofLetter?_eq_none hbig hsmall)] at h
      cases h
      by_cases hu : a.isUpper = true
      · rw [if_pos hu]
        exact .invalidCapitalLetter hp (isUpper_iff.mp hu) hbig
      · rw [if_neg hu]
        exact .invalidSymbol hp (isUpper_iff.not.mp hu) hsmall

theorem breaks_of_violationOr (h : violationOr c = .error v) :
    Breaks c v.kind (Failure.message ⟨c, v⟩) := by
  by_cases hs : ' ' ∈ c
  · by_cases hp : ∃ s t, tokens c = [s, t]
    · obtain ⟨s, t, ht⟩ := hp
      match s, ht with
      | [], ht =>
        rw [violationOr_of_empty ht] at h
        cases h
        rw [Failure.message_mk]
        exact .emptySymbol (tokens_eq_pair_iff.mp ht)
      | [a], ht => exact breaks_of_symbol ht h
      | a :: b :: s, ht =>
        have hl : 2 ≤ (a :: b :: s).length := by simp
        rw [violationOr_of_several ht hl] at h
        cases h
        rw [Failure.message_mk]
        exact .multipleSymbols (tokens_eq_pair_iff.mp ht) hl
    · have hp : ∀ s t, tokens c ≠ [s, t] := fun s t ht => hp ⟨s, t, ht⟩
      rw [violationOr_of_ne_pair hs hp] at h
      cases h
      rw [Failure.message_mk]
      exact .uninterpretable hs fun s t hf => hp s t (tokens_eq_pair_iff.mpr hf)
  · rw [violationOr_of_not_mem hs] at h
    cases h
    rw [Failure.message_mk]
    exact .noSpaceSeparator hs

/-! ### A text of the shape is rejected -/

/-- The text is rejected for breaking the rule, with the message. -/
def IsRejected (c : Text) (k : FailureKind) (m : Text) : Prop :=
  ∃ v, violationOr c = .error v ∧ v.kind = k ∧ Failure.message ⟨c, v⟩ = m

theorem isRejected_of_breaks (h : Breaks c k m) : IsRejected c k m := by
  cases h with
  | noSpaceSeparator h => exact ⟨_, violationOr_of_not_mem h, rfl, Failure.message_mk ..⟩
  | uninterpretable hs h =>
    have hp : ∀ s t, tokens c ≠ [s, t] := fun s t ht => h s t (tokens_eq_pair_iff.mp ht)
    exact ⟨_, violationOr_of_ne_pair hs hp, rfl, Failure.message_mk ..⟩
  | lowercaseLetter h ha =>
    obtain ⟨d, hd⟩ := Direction.exists_ofLetter?_of_small ha
    have hc := tokens_eq_pair_iff.mpr h
    exact ⟨_, violationOr_of_small hc (ofSymbol?_of_small ha) hd, rfl, Failure.message_mk ..⟩
  | @invalidCapitalLetter a t h hu ha =>
    -- none of the small letters lies between the capital ones
    have hsmall : a ∉ smallSymbols := by
      intro hm
      simp only [smallSymbols, List.mem_cons, List.not_mem_nil, or_false] at hm
      rcases hm with rfl | rfl | rfl | rfl
      all_goals exact absurd hu (by decide)
    have hv := violationOr_of_other (tokens_eq_pair_iff.mpr h) (ofLetter?_eq_none ha hsmall)
    rw [if_pos (isUpper_iff.mpr hu)] at hv
    exact ⟨_, hv, rfl, Failure.message_mk ..⟩
  | emptySymbol h => exact ⟨_, violationOr_of_empty (tokens_eq_pair_iff.mpr h), rfl, Failure.message_mk ..⟩
  | @invalidSymbol a t h hu ha =>
    have hbig : a ∉ ['N', 'S', 'E', 'W'] := by
      intro hm
      obtain ⟨d, rfl⟩ := exists_eq_symbol hm
      exact hu (by cases d <;> decide)
    have hv := violationOr_of_other (tokens_eq_pair_iff.mpr h) (ofLetter?_eq_none hbig ha)
    rw [if_neg (isUpper_iff.not.mpr hu)] at hv
    exact ⟨_, hv, rfl, Failure.message_mk ..⟩
  | multipleSymbols h hs =>
    exact ⟨_, violationOr_of_several (tokens_eq_pair_iff.mpr h) hs, rfl, Failure.message_mk ..⟩
  | @invalidNumberFormat a t h ha ht =>
    obtain ⟨d, rfl⟩ := exists_eq_symbol ha
    have hn := Numeral.literal?_eq_none_iff.mpr ht
    exact ⟨_, violationOr_of_unreadable (tokens_eq_pair_iff.mpr h) hn, rfl, Failure.message_mk ..⟩
  | negativeNumber h ha ht hn =>
    obtain ⟨d, rfl⟩ := exists_eq_symbol ha
    have hl := Numeral.literal?_of_isLiteral ht
    exact ⟨_, violationOr_of_neg (tokens_eq_pair_iff.mpr h) hl hn, rfl, Failure.message_mk ..⟩
  | zeroNumber h ha ht =>
    obtain ⟨d, rfl⟩ := exists_eq_symbol ha
    have hl := Numeral.literal?_of_isLiteral ht
    exact ⟨_, violationOr_of_zero (tokens_eq_pair_iff.mpr h) hl, rfl, Failure.message_mk ..⟩
  | @numberExceedsLimit a t n h ha ht hn =>
    obtain ⟨d, rfl⟩ := exists_eq_symbol ha
    have hl := Numeral.literal?_of_isLiteral ht
    have hpos : 0 < n := by omega
    have hlim : ¬n ≤ maxMagnitude := by
      have : maxMagnitude = 100 := rfl
      omega
    have hv := violationOr_of_pos (tokens_eq_pair_iff.mpr h) hl hpos
    rw [if_neg hlim] at hv
    exact ⟨_, hv, rfl, Failure.message_mk ..⟩

/-- A rule is reported of a text, with this text and the message, just if the text has the shape of
the rule. No text has two shapes, and the texts without a shape are the commands. -/
theorem rejected_iff_breaks (c : Text) :
    (∀ k m, (∃ f, validate c = .error f ∧ f.command = c ∧ f.kind = k ∧ f.message = m) ↔
      Breaks c k m) ∧
    (∀ k l m n, Breaks c k m → Breaks c l n → k = l ∧ m = n) ∧
    ((∃ k m, Breaks c k m) ↔ ∀ cmd, validate c ≠ .ok cmd) := by
  have hiff : ∀ k m, (∃ f, validate c = .error f ∧ f.command = c ∧ f.kind = k ∧ f.message = m) ↔
      Breaks c k m := by
    intro k m
    constructor
    · rintro ⟨f, hf, _, rfl, rfl⟩
      obtain ⟨rfl, hv⟩ := violationOr_of_validate hf
      exact breaks_of_violationOr hv
    · intro h
      obtain ⟨v, hv, hk, hm⟩ := isRejected_of_breaks h
      exact ⟨⟨c, v⟩, validate_of_error hv, rfl, hk, hm⟩
  refine ⟨hiff, ?_, ?_⟩
  · intro k l m n hk hl
    obtain ⟨f, hf, _, rfl, rfl⟩ := (hiff k m).mpr hk
    obtain ⟨g, hg, _, rfl, rfl⟩ := (hiff l n).mpr hl
    rw [hf] at hg
    cases hg
    exact ⟨rfl, rfl⟩
  · constructor
    · rintro ⟨k, m, h⟩ cmd hok
      obtain ⟨f, hf, _⟩ := (hiff k m).mpr h
      rw [hok] at hf
      cases hf
    · intro h
      cases hv : validate c with
      | ok cmd => exact absurd hv (h cmd)
      | error f =>
        obtain ⟨hc, _⟩ := violationOr_of_validate hv
        exact ⟨f.kind, f.message, (hiff _ _).mp ⟨f, hv, hc, rfl, rfl⟩⟩

end Command

end GridRobot
