import GridRobot.Proofs.Run.Script
import Mathlib.Data.List.Chain

/-!
# Which rule can be broken after a repair

A repaired text is validated again and may break another rule. The rules that have a repair come one
after the other: a missing space, several symbols, a small letter, a negative number. A text that is
handed back by the repair of one of them breaks none that comes before it, and not the same again.

Main statement: `resubmissions_in_order`, for one repair and for any chain of them.
-/

namespace GridRobot

namespace FailureKind

def symbolRules : List FailureKind :=
  [lowercaseLetter, invalidCapitalLetter, invalidSymbol]

def numberRules : List FailureKind :=
  [invalidNumberFormat, negativeNumber, zeroNumber, numberExceedsLimit]

/-- The rules that a text may break which replaces a text that breaks this one. -/
def successors : FailureKind → List FailureKind
  | noSpaceSeparator =>
    multipleSymbols :: (symbolRules ++ [invalidNumberFormat, zeroNumber, numberExceedsLimit])
  | multipleSymbols => symbolRules ++ numberRules
  | lowercaseLetter => numberRules
  | negativeNumber => [numberExceedsLimit]
  | _ => []

/-- The place of a rule in the order of repairs. Those without a repair come last, all together. -/
def stage : FailureKind → Nat
  | noSpaceSeparator => 0
  | multipleSymbols => 1
  | lowercaseLetter => 2
  | negativeNumber => 3
  | _ => 4

theorem stage_lt_of_mem_successors (k : FailureKind) : ∀ l ∈ k.successors, k.stage < l.stage := by
  cases k <;> decide

theorem stage_le (k : FailureKind) : k.stage ≤ 4 := by
  cases k <;> decide

end FailureKind

namespace Command

open FailureKind (symbolRules numberRules)

variable {c c' s t : Text} {a : Char} {d : Direction} {v w : Violation}

/-! ### The rules that tokens can break -/

theorem kind_ofNumber (h : ofNumber d t = .error v) : v.kind ∈ numberRules := by
  rcases ofNumber_error h with rfl | rfl | ⟨n, _, ⟨rfl, _⟩ | ⟨rfl, _⟩⟩
  all_goals simp [Violation.kind, numberRules]

theorem kind_ofTokens_symbol (h : ofTokens [a] t = .error v) :
    v.kind ∈ symbolRules ++ numberRules := by
  unfold ofTokens at h
  split at h
  · next hn => cases hn
  · split at h
    · exact List.mem_append_right _ (kind_ofNumber h)
    · refine List.mem_append_left _ ?_
      split at h
      · cases h
        simp [Violation.kind, symbolRules]
      · split at h
        all_goals
          cases h
          simp [Violation.kind, symbolRules]
  · next hs => exact absurd rfl (hs _)

theorem kind_ofTokens (h : ofTokens s t = .error v) :
    v.kind ∈ .multipleSymbols :: (symbolRules ++ numberRules) := by
  match s, h with
  | [], h =>
    cases h
    decide
  | [_], h => exact List.mem_cons_of_mem _ (kind_ofTokens_symbol h)
  | _ :: _ :: _, h =>
    cases h
    exact List.mem_cons_self

/-! ### The rules that a repaired text can break -/

/-- The digit behind the space that was missing leaves no room for a minus sign. -/
theorem kind_of_spacedAt {i : Nat} (hs : ' ' ∉ c) (hb : boundary? c = some i)
    (h : violationOr (spacedAt c i) = .error w) :
    w.kind ∈ FailureKind.noSpaceSeparator.successors := by
  rw [violationOr_of_tokens (tokens_spacedAt hs hb)] at h
  have hne : w.kind ≠ .negativeNumber := by
    intro hk
    cases w with
    | negativeNumber n =>
      obtain ⟨_, _, hn, hneg⟩ := ofTokens_eq_negative h
      have := nonneg_of_drop_boundary hb (Numeral.isLiteral_of_literal? hn)
      omega
    | _ => cases hk
  have hall : ∀ k ∈ FailureKind.multipleSymbols :: (symbolRules ++ numberRules),
      k ≠ .negativeNumber → k ∈ FailureKind.noSpaceSeparator.successors := by
    decide
  exact hall _ (kind_ofTokens h) hne

theorem kind_of_symbol (hc : tokens c = [s, t]) (ha : a ∈ s)
    (h : violationOr (a :: ' ' :: t) = .error w) :
    w.kind ∈ FailureKind.multipleSymbols.successors := by
  obtain ⟨hs, ht, hn, _⟩ := tokens_eq_pair_iff.mp hc
  have hsp : ' ' ≠ a := fun he => hs (he ▸ ha)
  rw [violationOr_of_tokens (tokens_letter hsp ht hn)] at h
  exact kind_ofTokens_symbol h

theorem kind_of_upper (hc : violationOr c = .error (.lowercaseLetter a))
    (h : violationOr c.upper = .error w) : w.kind ∈ FailureKind.lowercaseLetter.successors := by
  obtain ⟨t, d, ht, hd⟩ := exists_of_lowercaseLetter hc
  rw [violationOr_of_symbol (tokens_upper_of_letter ht hd)] at h
  exact kind_ofNumber h

theorem kind_of_invertNegative {n : Int} (hc : violationOr c = .error (.negativeNumber n))
    (hi : invertNegative c = .ok c') (h : violationOr c' = .error w) :
    w.kind ∈ FailureKind.negativeNumber.successors := by
  obtain ⟨s, t, ht, hv⟩ := exists_tokens_of_violationOr hc (by simp) (by simp)
  obtain ⟨d, rfl, hn, hneg⟩ := ofTokens_eq_negative hv
  have hl := Numeral.isLiteral_of_literal? hn
  have hp : 0 < -n := by omega
  rw [invertNegative_of_literal ht hl hneg] at hi
  cases hi
  rw [violationOr_text ⟨d.opposite, -n⟩ hl.writable.neg hp] at h
  split at h
  · cases h
  · cases h
    exact List.mem_singleton_self _

/-- One repair: each text that it hands back breaks one of the rules that may follow, or none. -/
theorem kind_of_repair {repair : Repair} (hv : violationOr c = .error v)
    (hr : Failure.repair ⟨c, v⟩ = .ok repair) (hc : c' ∈ repair.next)
    (hw : violationOr c' = .error w) : w.kind ∈ v.kind.successors := by
  cases v with
  | noSpaceSeparator =>
    have hs := not_mem_of_noSpace hv
    have hi := insertSpace_eq c
    cases hb : boundary? c with
    | none =>
      rw [hb] at hi
      rw [repair_of_noBoundary hi] at hr
      cases hr
      cases hc
    | some i =>
      rw [hb] at hi
      rw [repair_of_insertSpace hi] at hr
      cases hr
      obtain rfl := List.mem_singleton.mp hc
      exact kind_of_spacedAt hs hb hw
  | multipleSymbols s =>
    obtain ⟨u, t, ht, hu⟩ := exists_tokens_of_violationOr hv (by simp) (by simp)
    obtain ⟨rfl, _⟩ := ofTokens_eq_multiple hu
    rw [repair_of_pair ht] at hr
    cases hr
    obtain ⟨a, ha, rfl⟩ := List.mem_map.mp hc
    exact kind_of_symbol ht ha hw
  | lowercaseLetter a =>
    cases hr
    obtain rfl := List.mem_singleton.mp hc
    exact kind_of_upper hv hw
  | negativeNumber n =>
    cases hi : invertNegative c with
    | error e =>
      simp only [Failure.repair, hi] at hr
      cases hr
    | ok d =>
      rw [repair_of_invertNegative hi] at hr
      cases hr
      obtain rfl := List.mem_singleton.mp hc
      exact kind_of_invertNegative hv hi hw
  | uninterpretable | invalidCapitalLetter | invalidSymbol | invalidNumberFormat | zeroNumber
  | numberExceedsLimit =>
    cases hr
    cases hc

/-! ### Chains of repairs -/

/-- The second text is handed back by the repair of the first. -/
def Resubmits (c c' : Text) : Prop :=
  ∃ f repair, validate c = .error f ∧ f.repair = .ok repair ∧ c' ∈ repair.next

def brokenRule? (c : Text) : Option FailureKind :=
  match validate c with
  | .ok _ => none
  | .error f => some f.kind

/-- The stage of the rule that a text breaks. Commands come after all others. -/
def stage (c : Text) : Nat :=
  (brokenRule? c).elim 5 FailureKind.stage

theorem brokenRule?_of_error {f : Failure} (h : validate c = .error f) :
    brokenRule? c = some f.kind := by
  rw [brokenRule?, h]

theorem stage_of_brokenRule? {k : FailureKind} (h : brokenRule? c = some k) :
    stage c = k.stage := by
  rw [stage, h, Option.elim_some]

theorem stage_lt_of_resubmits (h : Resubmits c c') : stage c < stage c' := by
  obtain ⟨f, repair, hf, hr, hc⟩ := h
  obtain ⟨rfl, hv⟩ := violationOr_of_validate hf
  have hk : stage f.command = f.kind.stage := stage_of_brokenRule? (brokenRule?_of_error hf)
  rw [hk]
  cases hw : violationOr c' with
  | ok cmd =>
    have hn : brokenRule? c' = none := by
      rw [brokenRule?, validate_of_ok hw]
    rw [stage, hn, Option.elim_none]
    have := f.kind.stage_le
    omega
  | error w =>
    rw [stage_of_brokenRule? (brokenRule?_of_error (validate_of_error hw))]
    exact FailureKind.stage_lt_of_mem_successors _ _ (kind_of_repair hv hr hc hw)

/-- A chain only ever goes on to a later stage, from each of its texts to all that follow. -/
theorem pairwise_of_isChain {chain : List Text} (h : chain.IsChain Resubmits) :
    (chain.filterMap brokenRule?).Pairwise (fun k l => k.stage < l.stage) := by
  have hs : (chain.map stage).IsChain (· < ·) :=
    (List.isChain_map stage).mpr (h.imp fun _ _ => stage_lt_of_resubmits)
  have hp : chain.Pairwise fun c c' => stage c < stage c' :=
    List.pairwise_map.mp (List.isChain_iff_pairwise.mp hs)
  refine List.pairwise_filterMap.mpr (hp.imp ?_)
  intro c c' hlt k hk l hl
  rwa [stage_of_brokenRule? hk, stage_of_brokenRule? hl] at hlt

/-- A broken rule is repaired, and what replaces the text breaks none but its successors. Along a
chain of repairs the rules follow their order, and none comes twice. -/
theorem resubmissions_in_order {f : Failure} (h : validate c = .error f) :
    ∃ repair, f.repair = .ok repair ∧
      (∀ c' ∈ repair.next, ∀ f', validate c' = .error f' → f'.kind ∈ f.kind.successors) ∧
      ∀ chain : List Text, (c :: chain).IsChain Resubmits →
        ((c :: chain).filterMap brokenRule?).Pairwise (fun k l => k.stage < l.stage) ∧
        ((c :: chain).filterMap brokenRule?).Nodup := by
  obtain ⟨rfl, hv⟩ := violationOr_of_validate h
  obtain ⟨repair, hr, _⟩ := script_of_error hv
  refine ⟨repair, hr, ?_, ?_⟩
  · intro c' hc f' hf'
    obtain ⟨_, hw⟩ := violationOr_of_validate hf'
    exact kind_of_repair hv hr hc hw
  · intro chain hchain
    have hp := pairwise_of_isChain hchain
    refine ⟨hp, hp.imp ?_⟩
    rintro k _ hlt rfl
    exact absurd hlt (Nat.lt_irrefl _)

/-- Several symbols, a small letter and a negative number, repaired one after the other. -/
theorem resubmissions_in_order_of_three :
    let chain := ["n -5".toList, "N -5".toList, "S 5".toList]
    ("nS -5".toList :: chain).filterMap brokenRule? =
        [.multipleSymbols, .lowercaseLetter, .negativeNumber] ∧
      ("nS -5".toList :: chain).IsChain Resubmits ∧
      (("nS -5".toList :: chain).filterMap brokenRule?).Nodup := by
  intro chain
  have h : validate "nS -5".toList = .error ⟨"nS -5".toList, .multipleSymbols "nS".toList⟩ := by
    decide
  have hchain : ("nS -5".toList :: chain).IsChain Resubmits := by
    have hl : validate "n -5".toList = .error ⟨"n -5".toList, .lowercaseLetter 'n'⟩ := by decide
    have hu : "N -5".toList ∈ [Text.upper "n -5".toList] := by decide
    have hn : validate "N -5".toList = .error ⟨"N -5".toList, .negativeNumber (-5)⟩ := by decide
    have hi : invertNegative "N -5".toList = .ok "S 5".toList := by decide +kernel
    refine .cons_cons ⟨_, _, h, rfl, List.mem_cons_self⟩ ?_
    refine .cons_cons ⟨_, _, hl, rfl, hu⟩ ?_
    exact .cons_cons ⟨_, _, hn, repair_of_invertNegative hi, List.mem_cons_self⟩ (.singleton _)
  obtain ⟨_, _, _, hall⟩ := resubmissions_in_order h
  exact ⟨by decide, hchain, (hall chain hchain).2⟩

end Command

end GridRobot
