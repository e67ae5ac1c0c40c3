import GridRobot.Text.Basic

/-! # Decimal numerals

Integers are written in decimal digits and read from them. A numeral of more than `maxDigits`
digits is neither read nor written.

Main statement: a written numeral is read back (`literal?_text`). -/

namespace GridRobot.Numeral

/-- The length of the longest numeral, without its sign and with its leading zeros. -/
def maxDigits : Nat := 4300

/-- The least number that is too long to write. -/
@[irreducible] def bound : Nat := Nat.pow 10 maxDigits

def digits (n : Nat) : Text :=
  Nat.toDigits 10 n

/-- The numeral of an integer, of any length. -/
def text (n : Int) : Text :=
  if n < 0 then '-' :: digits n.natAbs else digits n.natAbs

/-- The integer has at most `maxDigits` digits. -/
def Writable (n : Int) : Prop :=
  n.natAbs < bound

instance (n : Int) : Decidable (Writable n) :=
  inferInstanceAs (Decidable (n.natAbs < bound))

/-- Reads a run of one to `maxDigits` ASCII digits. -/
def natural? (t : Text) : Option Nat :=
  if t ≠ [] ∧ t.all Char.isDigit ∧ t.length ≤ maxDigits then some (Nat.ofDigitChars 10 t 0)
  else none

/-- Reads an integer literal: a sign or none, then a run of digits. -/
def literal? : Text → Option Int
  | '-' :: t => (natural? t).map fun (n : Nat) => -(n : Int)
  | '+' :: t => (natural? t).map fun (n : Nat) => (n : Int)
  | t => (natural? t).map fun (n : Nat) => (n : Int)

theorem length_digits_le_iff {n : Nat} : (digits n).length ≤ maxDigits ↔ n < bound := by
  have hk : 0 < maxDigits := by decide
  unfold bound
  generalize maxDigits = k at hk ⊢
  exact Nat.length_toDigits_le_iff (by decide) hk

theorem isDigit_of_mem_digits {n : Nat} {c : Char} (h : c ∈ digits n) : c.isDigit = true :=
  Nat.isDigit_of_mem_toDigits (by decide) (by decide) h

theorem digits_ne_nil (n : Nat) : digits n ≠ [] :=
  Nat.toDigits_ne_nil

theorem text_natCast (n : Nat) : text n = digits n := by
  have h : ¬((n : Int) < 0) := by omega
  simp [text, h]

theorem natural?_digits {n : Nat} (h : n < bound) : natural? (digits n) = some n := by
  unfold natural?
  rw [if_pos ⟨digits_ne_nil n, List.all_eq_true.mpr fun _ => isDigit_of_mem_digits,
    length_digits_le_iff.mpr h⟩]
  simp [digits, Nat.ofDigitChars_toDigits]

theorem literal?_of_head {t : Text} (h : ∀ c ∈ t.head?, c ≠ '-' ∧ c ≠ '+') :
    literal? t = (natural? t).map fun (n : Nat) => (n : Int) := by
  unfold literal?
  split
  · simp at h
  · simp at h
  · rfl

theorem head_digits {n : Nat} : ∀ c ∈ (digits n).head?, c ≠ '-' ∧ c ≠ '+' := by
  intro c hc
  have hd := isDigit_of_mem_digits (List.mem_of_mem_head? hc)
  constructor <;> rintro rfl <;> simp [Char.isDigit] at hd

theorem literal?_text {n : Int} (h : Writable n) : literal? (text n) = some n := by
  unfold text
  split
  · simp only [literal?, natural?_digits h, Option.map_some]
    congr 1
    omega
  · rw [literal?_of_head head_digits, natural?_digits h, Option.map_some]
    congr 1
    omega

end GridRobot.Numeral
