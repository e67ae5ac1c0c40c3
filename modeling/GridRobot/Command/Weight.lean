import GridRobot.Command.Correction
import GridRobot.Command.Validation

/-! # Weights

The weight of a text bounds the number of log entries that it can lead to. Every repair makes
texts that weigh less than the text that they come from, all together: the repairs of a missing
space, of several symbols, of a small letter and of a negative number follow one another in this
order and never the other way round. -/

namespace GridRobot.Command

/-- A bound on the number of log entries that a text can lead to. -/
def weight (c : Text) : Nat :=
  match violationOr c with
  | .error .noSpaceSeparator => 3 * c.length + 2
  | .error (.multipleSymbols s) => 3 * s.length + 1
  | .error (.lowercaseLetter _) => 3
  | .error (.negativeNumber _) => 2
  | _ => 1

def totalWeight : List Text → Nat
  | [] => 0
  | c :: cs => weight c + totalWeight cs

theorem totalWeight_append (cs ds : List Text) :
    totalWeight (cs ++ ds) = totalWeight cs + totalWeight ds := by
  induction cs with
  | nil => exact (Nat.zero_add _).symm
  | cons c cs ih => simp only [List.cons_append, totalWeight, ih, Nat.add_assoc]

/-! ### What validation says of a text with two tokens -/

theorem mem_space_of_tokens {c s t : Text} (h : tokens c = [s, t]) : ' ' ∈ c := by
  obtain ⟨_, _, _, k, rfl⟩ := tokens_eq_pair_iff.mp h
  simp

theorem violationOr_of_tokens {c s t : Text} (h : tokens c = [s, t]) :
    violationOr c = ofTokens s t := by
  simp [violationOr, mem_space_of_tokens h, h]

/-- A broken rule other than the first two comes from the two tokens. -/
theorem exists_tokens_of_violationOr {c : Text} {v : Violation} (h : violationOr c = .error v)
    (hs : v ≠ .noSpaceSeparator) (hu : v ≠ .uninterpretable) :
    ∃ s t, tokens c = [s, t] ∧ ofTokens s t = .error v := by
  unfold violationOr at h
  split at h
  · split at h
    · next s t ht => exact ⟨s, t, ht, h⟩
    · exact absurd (Except.error.inj h).symm hu
  · exact absurd (Except.error.inj h).symm hs

theorem ofTokens_symbol (d : Direction) (t : Text) : ofTokens [d.symbol] t = ofNumber d t := by
  simp [ofTokens]

/-- The distance is wrong in one of four ways. -/
theorem ofNumber_error {d : Direction} {t : Text} {v : Violation} (h : ofNumber d t = .error v) :
    v = .invalidNumberFormat t ∨ v = .zeroNumber ∨
      ∃ n, Numeral.literal? t = some n ∧ (v = .negativeNumber n ∧ n < 0 ∨
        v = .numberExceedsLimit n ∧ maxMagnitude < n) := by
  unfold ofNumber at h
  split at h
  · exact Or.inl (Except.error.inj h).symm
  · next n hn =>
    split at h
    · next hneg => exact Or.inr (Or.inr ⟨n, hn, Or.inl ⟨(Except.error.inj h).symm, hneg⟩⟩)
    · split at h
      · exact Or.inr (Or.inl (Except.error.inj h).symm)
      · split at h
        · next hlim => exact Or.inr (Or.inr ⟨n, hn, Or.inr ⟨(Except.error.inj h).symm, hlim⟩⟩)
        · simp at h

theorem ofNumber_ne_lowercase {d : Direction} {t : Text} (a : Char) :
    ofNumber d t ≠ .error (.lowercaseLetter a) := by
  intro h
  rcases ofNumber_error h with h | h | ⟨n, _, h | h⟩ <;> simp_all

theorem ofTokens_eq_lowercase {s t : Text} {a : Char}
    (h : ofTokens s t = .error (.lowercaseLetter a)) : s = [a] ∧ a ∈ smallSymbols := by
  unfold ofTokens at h
  split at h
  · simp at h
  · split at h
    · exact absurd h (ofNumber_ne_lowercase a)
    · split at h
      · next ha =>
        simp only [Except.error.injEq, Violation.lowercaseLetter.injEq] at h
        subst h
        exact ⟨rfl, ha⟩
      · split at h <;> simp at h
  · simp at h

theorem ofTokens_eq_multiple {s t u : Text} (h : ofTokens s t = .error (.multipleSymbols u)) :
    s = u ∧ 2 ≤ s.length := by
  unfold ofTokens at h
  split at h
  · simp at h
  · split at h
    · rcases ofNumber_error h with h | h | ⟨n, _, h | h⟩ <;> simp_all
    · split at h
      · simp at h
      · split at h <;> simp at h
  · next hn hs =>
    refine ⟨by simpa using h, ?_⟩
    match s with
    | [] => exact absurd rfl hn
    | [a] => exact absurd rfl (hs a)
    | _ :: _ :: _ => simp

theorem ofTokens_eq_negative {s t : Text} {n : Int}
    (h : ofTokens s t = .error (.negativeNumber n)) :
    ∃ d : Direction, s = [d.symbol] ∧ Numeral.literal? t = some n ∧ n < 0 := by
  unfold ofTokens at h
  split at h
  · simp at h
  · next a =>
    split at h
    · next d hd =>
      refine ⟨d, by rw [Direction.eq_symbol_of_ofSymbol? hd], ?_⟩
      rcases ofNumber_error h with h | h | ⟨m, hm, h | h⟩
      · simp at h
      · simp at h
      · simp only [Violation.negativeNumber.injEq] at h
        exact ⟨h.1 ▸ hm, h.1 ▸ h.2⟩
      · simp at h
    · split at h
      · simp at h
      · split at h <;> simp at h
  · simp at h

/-! ### The weight of a text with two tokens -/

theorem weight_of_tokens {c s t : Text} (h : tokens c = [s, t]) :
    weight c = match ofTokens s t with
      | .error .noSpaceSeparator => 3 * c.length + 2
      | .error (.multipleSymbols u) => 3 * u.length + 1
      | .error (.lowercaseLetter _) => 3
      | .error (.negativeNumber _) => 2
      | _ => 1 := by
  rw [weight, violationOr_of_tokens h]

theorem ofTokens_ne_noSpace {s t : Text} : ofTokens s t ≠ .error .noSpaceSeparator := by
  intro h
  unfold ofTokens at h
  split at h
  · simp at h
  · split at h
    · rcases ofNumber_error h with h | h | ⟨n, _, h | h⟩ <;> simp_all
    · split at h
      · simp at h
      · split at h <;> simp at h
  · simp at h

theorem not_mem_of_noSpace {c : Text} (h : violationOr c = .error .noSpaceSeparator) : ' ' ∉ c := by
  intro hm
  simp only [violationOr, hm, if_true] at h
  split at h
  · exact ofTokens_ne_noSpace h
  · cases h

theorem weight_le_of_tokens {c s t : Text} (h : tokens c = [s, t]) : weight c ≤ 3 * s.length + 1 := by
  rw [weight_of_tokens h]
  split
  · next hv => exact absurd hv ofTokens_ne_noSpace
  · next hv => exact Nat.le_of_eq (by rw [(ofTokens_eq_multiple hv).1])
  · next hv => rw [(ofTokens_eq_lowercase hv).1]; simp
  · next hv =>
    obtain ⟨d, rfl, _⟩ := ofTokens_eq_negative hv
    simp
  · omega

theorem weight_le_three {c t : Text} {a : Char} (h : tokens c = [[a], t]) : weight c ≤ 3 := by
  rw [weight_of_tokens h]
  split
  · next hv => exact absurd hv ofTokens_ne_noSpace
  · next hv =>
    have := (ofTokens_eq_multiple hv).2
    simp at this
  all_goals omega

theorem weight_le_two {c t : Text} {d : Direction} (h : tokens c = [[d.symbol], t]) :
    weight c ≤ 2 := by
  rw [weight_of_tokens h, ofTokens_symbol]
  split
  · next hv => rcases ofNumber_error hv with h | h | ⟨n, _, h | h⟩ <;> simp_all
  · next hv => rcases ofNumber_error hv with h | h | ⟨n, _, h | h⟩ <;> simp_all
  · next hv => exact absurd hv (ofNumber_ne_lowercase _)
  all_goals omega

theorem weight_eq_one {c t : Text} {d : Direction} (h : tokens c = [[d.symbol], t])
    (ht : ∀ n, Numeral.literal? t = some n → 0 ≤ n) : weight c = 1 := by
  rw [weight_of_tokens h, ofTokens_symbol]
  split
  · next hv => rcases ofNumber_error hv with h | h | ⟨n, _, h | h⟩ <;> simp_all
  · next hv => rcases ofNumber_error hv with h | h | ⟨n, _, h | h⟩ <;> simp_all
  · next hv => exact absurd hv (ofNumber_ne_lowercase _)
  · next hv =>
    rcases ofNumber_error hv with h | h | ⟨n, hn, h | h⟩
    · simp at h
    · simp at h
    · have := ht n hn
      omega
    · simp at h
  · rfl

/-! ### Every repair is lighter -/

theorem length_insertSpace {c c' : Text} (h : insertSpace c = some c') :
    c'.length = c.length + 1 ∧ ' ' ∈ c' := by
  fun_induction insertSpace c generalizing c' with
  | case1 a b rest hab =>
    simp only [Option.some.injEq] at h
    subst h
    simp
  | case2 a b rest hab ih =>
    obtain ⟨u, hu, rfl⟩ := Option.map_eq_some_iff.mp h
    obtain ⟨hl, hm⟩ := ih hu
    simp [hl, hm]
  | case3 => simp at h

theorem weight_insertSpace {c c' : Text} (h : insertSpace c = some c') (hc : ' ' ∉ c) :
    weight c' < weight c := by
  obtain ⟨hl, hm⟩ := length_insertSpace h
  have hw : weight c = 3 * c.length + 2 := by simp [weight, violationOr, hc]
  rw [hw]
  by_cases ht : ∃ s t, tokens c' = [s, t]
  · obtain ⟨s, t, ht⟩ := ht
    have hle := weight_le_of_tokens ht
    obtain ⟨_, _, hn, k, rfl⟩ := tokens_eq_pair_iff.mp ht
    have hp : 0 < t.length := List.length_pos_iff.mpr hn
    simp at hl
    omega
  · have h1 : weight c' = 1 := by
      simp only [weight, violationOr, hm, if_true]
      split <;> simp_all
    omega

theorem tokens_letter {a : Char} {t : Text} (ha : ' ' ≠ a) (ht : ' ' ∉ t) (hn : t ≠ []) :
    tokens (a :: ' ' :: t) = [[a], t] := by
  simpa using tokens_pair (s := [a]) (by simpa using ha) ht hn 0

theorem weight_splitSymbols {c : Text} {s : Text} {cs : List Text}
    (hv : violationOr c = .error (.multipleSymbols s)) (h : splitSymbols c = .ok cs) :
    totalWeight cs < weight c := by
  obtain ⟨u, t, ht, hu⟩ := exists_tokens_of_violationOr hv (by simp) (by simp)
  obtain ⟨rfl, h2⟩ := ofTokens_eq_multiple hu
  simp only [splitSymbols, ht, Except.ok.injEq] at h
  subst h
  have hw : weight c = 3 * u.length + 1 := by simp [weight, hv]
  rw [hw]
  obtain ⟨hs, hnt, hne, hk⟩ := tokens_eq_pair_iff.mp ht
  clear hw hu hv ht h2 hk
  suffices h : totalWeight (u.map fun a => a :: ' ' :: t) ≤ 3 * u.length by omega
  induction u with
  | nil => exact Nat.le_refl 0
  | cons a u ih =>
    obtain ⟨ha, hu⟩ := not_or.mp (fun h => hs (List.mem_cons.mpr h))
    have h3 := weight_le_three (tokens_letter ha hnt hne)
    have hr := ih hu
    simp only [List.map_cons, totalWeight, List.length_cons]
    omega

theorem weight_upper {c : Text} {a : Char} (hv : violationOr c = .error (.lowercaseLetter a)) :
    weight c.upper < weight c := by
  have hw : weight c = 3 := by simp [weight, hv]
  obtain ⟨s, t, ht, hu⟩ := exists_tokens_of_violationOr hv (by simp) (by simp)
  obtain ⟨rfl, ha⟩ := ofTokens_eq_lowercase hu
  obtain ⟨_, hnt, hne, k, rfl⟩ := tokens_eq_pair_iff.mp ht
  obtain ⟨d, hd⟩ : ∃ d : Direction, Text.upperChar a = [d.symbol] := by
    simp only [smallSymbols, List.mem_cons, List.not_mem_nil, or_false] at ha
    rcases ha with rfl | rfl | rfl | rfl
    · exact ⟨.north, rfl⟩
    · exact ⟨.south, rfl⟩
    · exact ⟨.east, rfl⟩
    · exact ⟨.west, rfl⟩
  have hU : Text.upper ([a] ++ ' ' :: (t ++ List.replicate k ' ')) =
      [d.symbol] ++ ' ' :: (t.upper ++ List.replicate k ' ') := by
    have hb : Text.upperChar ' ' = [' '] := rfl
    simp [hd, hb, Text.upper_spaces]
  have hle : weight (Text.upper ([a] ++ ' ' :: (t ++ List.replicate k ' '))) ≤ 2 := by
    rw [hU]
    exact weight_le_two (tokens_pair (by cases d <;> decide)
      (fun h => hnt (Text.space_mem_upper_iff.mp h)) (Text.upper_ne_nil hne) k)
  omega

theorem weight_invertNegative {c c' : Text} {n : Int}
    (hv : violationOr c = .error (.negativeNumber n)) (h : invertNegative c = .ok c') :
    weight c' < weight c := by
  have hw : weight c = 2 := by simp [weight, hv]
  obtain ⟨d, m, rfl⟩ := exists_eq_of_invertNegative h
  have ht : tokens (d.symbol :: ' ' :: Numeral.digits m) = [[d.symbol], Numeral.digits m] :=
    tokens_letter (by cases d <;> decide)
      (fun hm => by simpa [Char.isDigit] using Numeral.isDigit_of_mem_digits hm)
      (Numeral.digits_ne_nil m)
  have h1 : weight (d.symbol :: ' ' :: Numeral.digits m) = 1 := weight_eq_one ht fun k hk => by
    rw [Numeral.literal?_of_head Numeral.head_digits] at hk
    obtain ⟨_, _, rfl⟩ := Option.map_eq_some_iff.mp hk
    exact Int.natCast_nonneg _
  omega

end GridRobot.Command
