import GridRobot.Command.Weight
import GridRobot.Proofs.Numeral.Literal

/-!
# The boundary of a symbol and its number

Where a space is missing, it belongs at the least place at which a digit follows a letter. The scan
that puts it in is described by this place, and the two sides of the place are the tokens of the
text that comes out.
-/

namespace GridRobot.Command

/-- A letter ends in front of the place `i`, and a digit starts there. -/
def isBoundary (t : Text) (i : Nat) : Bool :=
  1 ≤ i && t[i - 1]?.any Text.isLetter && t[i]?.any Char.isDigit

def boundary? (c : Text) : Option Nat :=
  (List.range c.length).find? (isBoundary c)

/-- The text with a space put in at the place `i`. -/
def spacedAt (c : Text) (i : Nat) : Text :=
  c.take i ++ ' ' :: c.drop i

theorem isBoundary_zero (c : Text) : isBoundary c 0 = false := rfl

theorem isBoundary_one (a b : Char) (c : Text) :
    isBoundary (a :: b :: c) 1 = (Text.isLetter a && b.isDigit) := rfl

theorem isBoundary_succ (a : Char) (c : Text) {i : Nat} (hi : i ≠ 0) :
    isBoundary (a :: c) (i + 1) = isBoundary c i := by
  obtain ⟨k, rfl⟩ := Nat.exists_eq_succ_of_ne_zero hi
  simp [isBoundary]

theorem boundary?_cons {a : Char} {c : Text} (h : isBoundary (a :: c) 1 = false) :
    boundary? (a :: c) = (boundary? c).map (· + 1) := by
  have hf : (isBoundary (a :: c) ∘ Nat.succ) = isBoundary c := by
    funext i
    by_cases hi : i = 0
    · subst hi
      simpa [isBoundary_zero] using h
    · exact isBoundary_succ a c hi
  rw [boundary?, List.length_cons, List.range_succ_eq_map,
    List.find?_cons_of_neg (by simp [isBoundary_zero]), List.find?_map, hf]
  rfl

/-- The scan puts the space in at the least boundary, and finds no place if there is none. -/
theorem insertSpace_eq (c : Text) : insertSpace c = (boundary? c).map (spacedAt c) := by
  fun_induction insertSpace c with
  | case1 a b rest h =>
    have hb : boundary? (a :: b :: rest) = some 1 := by
      refine List.find?_range_eq_some.mpr ⟨?_, by simp, ?_⟩
      · rw [isBoundary_one]
        exact h
      · intro j hj
        obtain rfl : j = 0 := by omega
        simp [isBoundary_zero]
    rw [hb]
    rfl
  | case2 a b rest h ih =>
    have h1 : isBoundary (a :: b :: rest) 1 = false := by
      rw [isBoundary_one]
      exact Bool.eq_false_iff.mpr h
    rw [ih, boundary?_cons h1, Option.map_map, Option.map_map]
    rfl
  | case3 c h =>
    cases c with
    | nil => rfl
    | cons a c =>
      cases c with
      | nil => simp [boundary?, isBoundary_zero]
      | cons b c => exact absurd rfl (h a b c)

theorem exists_of_isBoundary {c : Text} {i : Nat} (h : isBoundary c i = true) :
    1 ≤ i ∧ i < c.length ∧ ∃ b t, c.drop i = b :: t ∧ b.isDigit = true := by
  simp only [isBoundary, Bool.and_eq_true, decide_eq_true_eq, Option.any_eq_true] at h
  obtain ⟨⟨hi, _⟩, b, hb, hd⟩ := h
  obtain ⟨hl, rfl⟩ := List.getElem?_eq_some_iff.mp hb
  exact ⟨hi, hl, _, c.drop (i + 1), List.drop_eq_getElem_cons hl, hd⟩

theorem exists_of_boundary? {c : Text} {i : Nat} (h : boundary? c = some i) :
    1 ≤ i ∧ i < c.length ∧ ∃ b t, c.drop i = b :: t ∧ b.isDigit = true :=
  exists_of_isBoundary (List.find?_range_eq_some.mp h).1

/-- A text without spaces falls into the two sides of its boundary. -/
theorem tokens_spacedAt {c : Text} {i : Nat} (hs : ' ' ∉ c) (h : boundary? c = some i) :
    tokens (spacedAt c i) = [c.take i, c.drop i] := by
  obtain ⟨_, _, b, t, ht, _⟩ := exists_of_boundary? h
  have hn : c.drop i ≠ [] := by
    rw [ht]
    exact List.cons_ne_nil b t
  have hl : ' ' ∉ c.take i := fun hm => hs (List.mem_of_mem_take hm)
  have hr : ' ' ∉ c.drop i := fun hm => hs (List.mem_of_mem_drop hm)
  simpa [spacedAt] using tokens_pair hl hr hn 0

theorem nonneg_of_drop_boundary {c : Text} {i : Nat} {n : Int} (h : boundary? c = some i)
    (hn : Numeral.IsLiteral (c.drop i) n) : 0 ≤ n := by
  obtain ⟨_, _, b, t, ht, hd⟩ := exists_of_boundary? h
  exact hn.nonneg_of_head (by rw [ht]; rfl) hd

end GridRobot.Command
