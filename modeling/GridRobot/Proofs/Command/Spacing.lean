import GridRobot.Proofs.Command.Boundary

/-!
# Putting in a missing space

The scan for a missing space stops at the least boundary of a letter and a digit, and at no other
place. What is put in can be taken out again, the side in front of it has no boundary left, and the
two sides are the tokens of a text that held no space.

Main statement: `insertSpace_least`.
-/

namespace GridRobot.Command

variable {t t' : Text} {i : Nat}

theorem boundary?_eq_none_iff : boundary? t = none ↔ ∀ i, isBoundary t i = false := by
  constructor
  · intro h i
    rcases Nat.lt_or_ge i t.length with hi | hi
    · have hall := List.find?_range_eq_none.mp h i hi
      simpa using hall
    · have hnone : t[i]? = none := List.getElem?_eq_none hi
      simp [isBoundary, hnone]
  · intro h
    refine List.find?_range_eq_none.mpr fun i _ => ?_
    simp [h i]

theorem boundary?_eq_some_iff :
    boundary? t = some i ↔ isBoundary t i = true ∧ ∀ j < i, isBoundary t j = false := by
  constructor
  · intro h
    obtain ⟨hi, _, hleast⟩ := List.find?_range_eq_some.mp h
    exact ⟨hi, fun j hj => by simpa using hleast j hj⟩
  · rintro ⟨hi, hleast⟩
    obtain ⟨_, hlt, _⟩ := exists_of_isBoundary hi
    have hmem : i ∈ List.range t.length := List.mem_range.mpr hlt
    exact List.find?_range_eq_some.mpr ⟨hi, hmem, fun j hj => by simp [hleast j hj]⟩

/-! ### The two sides -/

theorem isBoundary_take_of_lt {j : Nat} (h : j < i) : isBoundary (t.take i) j = isBoundary t j := by
  have hj : (t.take i)[j]? = t[j]? := List.getElem?_take_of_lt h
  have hpred : (t.take i)[j - 1]? = t[j - 1]? := List.getElem?_take_of_lt (by omega)
  rw [isBoundary, isBoundary, hj, hpred]

theorem isBoundary_take_of_le {j : Nat} (h : i ≤ j) : isBoundary (t.take i) j = false := by
  have hlength : (t.take i).length ≤ j := by
    rw [List.length_take]
    omega
  have hnone : (t.take i)[j]? = none := List.getElem?_eq_none hlength
  simp [isBoundary, hnone]

theorem isBoundary_take (h : ∀ j < i, isBoundary t j = false) (j : Nat) :
    isBoundary (t.take i) j = false := by
  rcases Nat.lt_or_ge j i with hj | hj
  · rw [isBoundary_take_of_lt hj]
    exact h j hj
  · exact isBoundary_take_of_le hj

theorem exists_letter_of_isBoundary (h : isBoundary t i = true) :
    ∃ u a, t.take i = u ++ [a] ∧ Text.isLetter a = true := by
  obtain ⟨hi, hlt, _⟩ := exists_of_isBoundary h
  obtain ⟨k, rfl⟩ := Nat.exists_eq_add_of_le' hi
  have hk : k < t.length := by omega
  have hletter : Text.isLetter t[k] = true := by
    simp only [isBoundary, Nat.add_sub_cancel, List.getElem?_eq_getElem hk, Option.any_some,
      Bool.and_eq_true] at h
    exact h.1.2
  exact ⟨t.take k, t[k], List.take_succ_eq_append_getElem hk, hletter⟩

theorem eraseIdx_spacedAt (h : i ≤ t.length) : (spacedAt t i).eraseIdx i = t := by
  have hlength : (t.take i).length = i := by
    rw [List.length_take]
    omega
  rw [spacedAt, List.eraseIdx_append_of_length_le (Nat.le_of_eq hlength), hlength, Nat.sub_self,
    List.eraseIdx_cons_zero, List.take_append_drop]

/-- The text `t'` is `t` with a space at `i`, which is the least place where a digit follows a
letter. -/
structure IsSpacedAt (t t' : Text) (i : Nat) : Prop where
  boundary : isBoundary t i = true
  least : ∀ j < i, isBoundary t j = false
  eq_append : t' = t.take i ++ ' ' :: t.drop i
  eraseIdx_eq : t'.eraseIdx i = t
  unbroken : ∀ j, isBoundary (t.take i) j = false
  endsInLetter : ∃ u a, t.take i = u ++ [a] ∧ Text.isLetter a = true
  startsInDigit : ∃ b u, t.drop i = b :: u ∧ b.isDigit = true
  tokens_eq : ' ' ∉ t → tokens t' = [t.take i, t.drop i]

theorem isSpacedAt_of_boundary? (h : boundary? t = some i) : IsSpacedAt t (spacedAt t i) i := by
  obtain ⟨hi, hleast⟩ := boundary?_eq_some_iff.mp h
  obtain ⟨_, hlt, hdigit⟩ := exists_of_isBoundary hi
  exact {
    boundary := hi
    least := hleast
    eq_append := rfl
    eraseIdx_eq := eraseIdx_spacedAt (Nat.le_of_lt hlt)
    unbroken := isBoundary_take hleast
    endsInLetter := exists_letter_of_isBoundary hi
    startsInDigit := hdigit
    tokens_eq := fun hs => tokens_spacedAt hs h }

/-- No space is put in just if the text has no boundary, and else it is put in at the least one. -/
theorem insertSpace_least (t : Text) :
    (insertSpace t = none ↔ ∀ i, isBoundary t i = false) ∧
      ∀ t', insertSpace t = some t' ↔ ∃ i, IsSpacedAt t t' i := by
  rw [insertSpace_eq]
  constructor
  · rw [Option.map_eq_none_iff]
    exact boundary?_eq_none_iff
  · intro t'
    rw [Option.map_eq_some_iff]
    constructor
    · rintro ⟨i, hi, rfl⟩
      exact ⟨i, isSpacedAt_of_boundary? hi⟩
    · rintro ⟨i, h⟩
      exact ⟨i, boundary?_eq_some_iff.mpr ⟨h.boundary, h.least⟩, h.eq_append.symm⟩

/-- A boundary further on stays as it is. -/
example : insertSpace ['A', 'B', '1', 'C', '2'] = some ['A', 'B', ' ', '1', 'C', '2'] := by decide

end GridRobot.Command
