import GridRobot.Numeral.Reading
import GridRobot.Text.Uppercase
import Mathlib.Data.List.TakeWhile
import Mathlib.Data.List.Basic

/-!
# Integer literals

The grammar of a literal (a sign or none, then one to `maxDigits` digits) beside the function that
reads it. A literal is read to the same integer by the reader of hand-written integers, its value is
short enough to be written, and capitals leave it as it is.
-/

namespace GridRobot.Numeral

/-- A run of digits that is neither empty nor too long. -/
def IsDigits (ds : Text) : Prop :=
  ds ≠ [] ∧ (∀ c ∈ ds, c.isDigit = true) ∧ ds.length ≤ maxDigits

/-- The text is a sign or none with digits after it, and stands for the integer. -/
inductive IsLiteral : Text → Int → Prop where
  | unsigned {ds : Text} (h : IsDigits ds) : IsLiteral ds (Nat.ofDigitChars 10 ds 0)
  | plus {ds : Text} (h : IsDigits ds) : IsLiteral ('+' :: ds) (Nat.ofDigitChars 10 ds 0)
  | minus {ds : Text} (h : IsDigits ds) : IsLiteral ('-' :: ds) (-(Nat.ofDigitChars 10 ds 0 : Int))

theorem natural?_of_isDigits {ds : Text} (h : IsDigits ds) :
    natural? ds = some (Nat.ofDigitChars 10 ds 0) := by
  obtain ⟨hn, hd, hl⟩ := h
  have ha : ds.all Char.isDigit = true := List.all_eq_true.mpr hd
  rw [natural?, if_pos ⟨hn, ha, hl⟩]

theorem isDigits_of_natural? {ds : Text} {n : Nat} (h : natural? ds = some n) :
    IsDigits ds ∧ n = Nat.ofDigitChars 10 ds 0 := by
  unfold natural? at h
  split at h
  · next hc =>
    obtain ⟨hn, ha, hl⟩ := hc
    exact ⟨⟨hn, List.all_eq_true.mp ha, hl⟩, (Option.some.inj h).symm⟩
  · cases h

theorem toNat_of_isDigit {c : Char} (h : c.isDigit = true) : 48 ≤ c.toNat ∧ c.toNat ≤ 57 :=
  Char.isDigit_iff_toNat.mp h

theorem IsDigits.head_ne_sign {ds : Text} (h : IsDigits ds) :
    ∀ c ∈ ds.head?, c ≠ '-' ∧ c ≠ '+' := by
  intro c hc
  have hd := h.2.1 c (List.mem_of_mem_head? hc)
  constructor <;> rintro rfl <;> simp [Char.isDigit] at hd

theorem literal?_of_isLiteral {t : Text} {n : Int} (h : IsLiteral t n) : literal? t = some n := by
  cases h with
  | unsigned h => rw [literal?_of_head h.head_ne_sign, natural?_of_isDigits h, Option.map_some]
  | plus h => rw [literal?, natural?_of_isDigits h, Option.map_some]
  | minus h => rw [literal?, natural?_of_isDigits h, Option.map_some]

theorem isLiteral_of_literal? {t : Text} {n : Int} (h : literal? t = some n) : IsLiteral t n := by
  unfold literal? at h
  split at h
  all_goals
    obtain ⟨m, hm, rfl⟩ := Option.map_eq_some_iff.mp h
    obtain ⟨hd, rfl⟩ := isDigits_of_natural? hm
  · exact .minus hd
  · exact .plus hd
  · exact .unsigned hd

theorem literal?_eq_some_iff {t : Text} {n : Int} : literal? t = some n ↔ IsLiteral t n :=
  ⟨isLiteral_of_literal?, literal?_of_isLiteral⟩

theorem literal?_eq_none_iff {t : Text} : literal? t = none ↔ ∀ n, ¬IsLiteral t n := by
  simp only [Option.eq_none_iff_forall_ne_some, ne_eq, literal?_eq_some_iff]

/-! ### Size -/

theorem ofDigitChars_lt {ds : Text} (h : ∀ c ∈ ds, c.isDigit = true) :
    Nat.ofDigitChars 10 ds 0 < Nat.pow 10 ds.length := by
  induction ds with
  | nil => exact Nat.one_pos
  | cons c ds ih =>
    have hc := toNat_of_isDigit (h c (List.mem_cons_self ..))
    have hr := ih fun d hd => h d (List.mem_cons_of_mem _ hd)
    have hz : '0'.toNat = 48 := rfl
    have hp : Nat.pow 10 (c :: ds).length = Nat.pow 10 ds.length * 10 := rfl
    rw [Nat.ofDigitChars_cons, Nat.ofDigitChars_eq_ofDigitChars_zero, hp]
    have hv : 10 * 0 + (c.toNat - '0'.toNat) ≤ 9 := by omega
    have hm : _ ≤ Nat.pow 10 ds.length * 9 := Nat.mul_le_mul_left (Nat.pow 10 ds.length) hv
    show Nat.pow 10 ds.length * _ + _ < _
    omega

theorem IsLiteral.writable {t : Text} {n : Int} (h : IsLiteral t n) : Writable n := by
  have key : ∀ ds, IsDigits ds → Nat.ofDigitChars 10 ds 0 < bound := by
    intro ds ⟨_, hd, hl⟩
    unfold bound
    generalize maxDigits = k at hl ⊢
    exact Nat.lt_of_lt_of_le (ofDigitChars_lt hd) (Nat.pow_le_pow_right (by decide) hl)
  unfold Writable
  cases h with
  | unsigned h => simpa using key _ h
  | plus h => simpa using key _ h
  | minus h => simpa using key _ h

theorem Writable.neg {n : Int} (h : Writable n) : Writable (-n) := by
  unfold Writable at h ⊢
  rwa [Int.natAbs_neg]

theorem IsLiteral.nonneg_of_head {t : Text} {n : Int} {b : Char} (h : IsLiteral t n)
    (hb : t.head? = some b) (hd : b.isDigit = true) : 0 ≤ n := by
  cases h with
  | unsigned h => exact Int.natCast_nonneg _
  | plus h => exact Int.natCast_nonneg _
  | minus h =>
    obtain rfl := Option.some.inj hb
    simp [Char.isDigit] at hd

/-! ### Written numerals -/

theorem not_mem_text {a : Char} (hd : a.isDigit = false) (hm : a ≠ '-') (n : Int) :
    a ∉ text n := by
  have hn : a ∉ digits n.natAbs := by
    intro ha
    rw [isDigit_of_mem_digits ha] at hd
    cases hd
  unfold text
  split
  · exact List.not_mem_cons_of_ne_of_not_mem hm hn
  · exact hn

theorem text_ne_nil (n : Int) : text n ≠ [] := by
  unfold text
  split
  · exact List.cons_ne_nil _ _
  · exact digits_ne_nil _

theorem isDigits_digits {n : Nat} (h : n < bound) : IsDigits (digits n) :=
  ⟨digits_ne_nil n, fun _ => isDigit_of_mem_digits, length_digits_le_iff.mpr h⟩

theorem ofDigitChars_digits (n : Nat) : Nat.ofDigitChars 10 (digits n) 0 = n :=
  Nat.ofDigitChars_toDigits (by decide) (by decide)

/-- The digits of a number do not begin with a zero, that of zero apart. -/
theorem head?_digits_ne {n : Nat} (h : 0 < n) : (digits n).head? ≠ some '0' := by
  induction n using Nat.strongRecOn with
  | ind n ih =>
    rw [digits, Nat.toDigits_eq_if (by decide)]
    by_cases hlt : n < 10
    · rw [if_pos hlt]
      have hall : ∀ m < 10, 0 < m → [Nat.digitChar m].head? ≠ some '0' := by decide
      exact hall n hlt h
    · have hq : 0 < n / 10 := by omega
      have hr : n / 10 < n := by omega
      rw [if_neg hlt, List.head?_append_of_ne_nil _ Nat.toDigits_ne_nil]
      exact ih (n / 10) hr hq

theorem digits_injective {m n : Nat} (h : digits m = digits n) : m = n := by
  have hm := ofDigitChars_digits m
  rw [h, ofDigitChars_digits] at hm
  exact hm.symm

theorem text_injective : Function.Injective text := by
  intro m n h
  have hne : ∀ (k l : Nat), '-' :: digits k ≠ digits l := by
    intro k l he
    exact (head_digits (n := l) '-' (by rw [← he]; rfl)).1 rfl
  unfold text at h
  split at h
  · split at h
    · have := digits_injective (List.cons.inj h).2
      omega
    · exact absurd h (hne _ _)
  · split at h
    · exact absurd h.symm (hne _ _)
    · have := digits_injective h
      omega

/-! ### Reading a literal as a hand-written integer -/

theorem isBlank_of_isDigit {c : Char} (h : c.isDigit = true) : Text.isBlank c = false := by
  have hc := toNat_of_isDigit h
  simp [Text.isBlank, Text.CodeRanges.has, Text.blankRanges]
  omega

theorem digitIn?_of_isDigit {c : Char} (h : c.isDigit = true) :
    digitIn? 10 c = some (c.toNat - '0'.toNat) := by
  have hc := toNat_of_isDigit h
  have hz : '0'.toNat = 48 := rfl
  have hv : c.toNat - '0'.toNat < 10 := by omega
  simp only [digitIn?, h, if_true, hv]

theorem ne_underscore_of_isDigit {c : Char} (h : c.isDigit = true) : c ≠ '_' := by
  rintro rfl
  simp [Char.isDigit] at h

theorem dropBaseMark_ten (t : Text) : dropBaseMark 10 t = t := by
  unfold dropBaseMark
  split
  · next m t => simp [baseMark]
  · rfl

theorem underscoresBetween_of_digits {ds : Text} (hn : ds ≠ [])
    (h : ∀ c ∈ ds, c.isDigit = true) : underscoresBetween ds = true := by
  fun_induction underscoresBetween ds with
  | case1 => exact absurd rfl hn
  | case2 => exact absurd rfl (ne_underscore_of_isDigit (h '_' (by simp)))
  | case3 => exact absurd rfl (ne_underscore_of_isDigit (h '_' (by simp)))
  | case4 => rfl
  | case5 c t h₁ h₂ h₃ ih =>
    have ht : t ≠ [] := h₃
    exact ih ht fun d hd => h d (List.mem_cons_of_mem _ hd)

theorem readDigits_of_isDigits {ds : Text} (h : IsDigits ds) :
    readDigits 10 ds = some (ds.map fun c => c.toNat - '0'.toNat, []) := by
  obtain ⟨hn, hd, _⟩ := h
  have hrun : ∀ c ∈ ds, ((digitIn? 10 c).isSome || c = '_') = true := by
    intro c hc
    simp [digitIn?_of_isDigit (hd c hc)]
  have ht : ds.takeWhile (fun c => (digitIn? 10 c).isSome || c = '_') = ds :=
    List.takeWhile_eq_self_iff.mpr hrun
  have hr : ds.dropWhile (fun c => (digitIn? 10 c).isSome || c = '_') = [] :=
    List.dropWhile_eq_nil_iff.mpr hrun
  have hh : ds.head? ≠ some '_' := by
    intro he
    exact ne_underscore_of_isDigit (hd '_' (List.mem_of_mem_head? he)) rfl
  have hm : ds.filterMap (digitIn? 10) = ds.map fun c => c.toNat - '0'.toNat := by
    rw [← List.filterMap_eq_map]
    exact List.filterMap_congr fun c hc => digitIn?_of_isDigit (hd c hc)
  simp only [readDigits, ht, hr, hm]
  rw [if_pos ⟨hh, underscoresBetween_of_digits hn hd⟩]

theorem foldl_digits (ds : Text) :
    (ds.map fun c => c.toNat - '0'.toNat).foldl (fun n d => 10 * n + d) 0 =
      Nat.ofDigitChars 10 ds 0 := by
  rw [Nat.ofDigitChars_eq_foldl, List.foldl_map]

/-- Literals have nothing but a sign and digits, which all come before the capital letters. -/
theorem IsLiteral.toNat_lt {t : Text} {n : Int} (h : IsLiteral t n) : ∀ c ∈ t, c.toNat < 65 := by
  have key : ∀ ds, IsDigits ds → ∀ c ∈ ds, c.toNat < 65 := by
    intro ds hd c hc
    have := toNat_of_isDigit (hd.2.1 c hc)
    omega
  cases h with
  | unsigned h => exact key _ h
  | plus h => exact List.forall_mem_cons.mpr ⟨by decide, key _ h⟩
  | minus h => exact List.forall_mem_cons.mpr ⟨by decide, key _ h⟩

theorem IsLiteral.dropWhile_isBlank {t : Text} {n : Int} (h : IsLiteral t n) :
    t.dropWhile Text.isBlank = t := by
  have hp : Text.isBlank '+' = false := by decide
  have hm : Text.isBlank '-' = false := by decide
  cases h with
  | unsigned h =>
    obtain ⟨c, ds, rfl⟩ := List.exists_cons_of_ne_nil h.1
    have hc := isBlank_of_isDigit (h.2.1 c (List.mem_cons_self ..))
    rw [List.dropWhile_cons, hc]
    rfl
  | plus h => rw [List.dropWhile_cons, hp]; rfl
  | minus h => rw [List.dropWhile_cons, hm]; rfl

theorem IsLiteral.read {t : Text} {n : Int} (h : IsLiteral t n) : read 10 t = .ok n := by
  have ha : t.all (fun c => decide (c.toNat < 128)) = true := by
    refine List.all_eq_true.mpr fun c hc => decide_eq_true ?_
    have := h.toNat_lt c hc
    omega
  have hb := h.dropWhile_isBlank
  have hl : ∀ ds, IsDigits ds →
      ¬((ds.map fun c => c.toNat - '0'.toNat).length > maxDigits ∧ ¬Nat.isPowerOfTwo 10) := by
    intro ds hd hk
    have := hd.2.2
    rw [List.length_map] at hk
    omega
  simp only [Numeral.read, ha, if_true, hb]
  cases h with
  | unsigned h =>
    have hm : ∀ s, t = '-' :: s → False := by
      rintro s rfl
      exact (h.head_ne_sign '-' rfl).1 rfl
    have hp : ∀ s, t = '+' :: s → False := by
      rintro s rfl
      exact (h.head_ne_sign '+' rfl).2 rfl
    simp only [dropBaseMark_ten, readDigits_of_isDigits h, hl _ h, if_false, foldl_digits]
    rfl
  | plus h =>
    simp only [dropBaseMark_ten, readDigits_of_isDigits h, hl _ h, if_false, foldl_digits]
    rfl
  | minus h =>
    simp only [dropBaseMark_ten, readDigits_of_isDigits h, hl _ h, if_false, foldl_digits]
    rfl

/-! ### Capitals -/

theorem IsLiteral.upper {t : Text} {n : Int} (h : IsLiteral t n) : t.upper = t :=
  Text.upper_eq_self h.toNat_lt

/-- A text turns into a literal by capitals only if it is one. -/
theorem literal?_upper (t : Text) : literal? t.upper = literal? t := by
  cases hu : literal? t.upper with
  | some n =>
    have hl := isLiteral_of_literal? hu
    have ht : t.upper = t := Text.upper_eq_self (Text.toNat_lt_of_upper hl.toNat_lt)
    rw [← hu, ht]
  | none =>
    cases ht : literal? t with
    | none => rfl
    | some n =>
      rw [(isLiteral_of_literal? ht).upper, ht] at hu
      cases hu

theorem isLiteral_upper_iff {t : Text} {n : Int} : IsLiteral t.upper n ↔ IsLiteral t n := by
  rw [← literal?_eq_some_iff, literal?_upper, literal?_eq_some_iff]

end GridRobot.Numeral
