import GridRobot.Encoding.Encode
import GridRobot.Proofs.Encoding.Pieces

/-!
# Characters of one to four bytes

What is written in UTF-8 is read back, however the bytes are cut into pieces, and what has been read
of some bytes does not change when more bytes come in behind them.

Main statements: `decode_encode_utf8`, and `steady_stepUtf8`, which `decode_encode_utf8` rests on.
-/

namespace GridRobot.Encoding

/-! ### What comes in behind -/

theorem beginsSurrogate_append {a b : UInt8} {rest : Bytes} (more : Bytes)
    (h : ¬beginsSurrogate a b rest = true) : ¬beginsSurrogate a b (rest ++ more) = true := by
  simp only [beginsSurrogate, Bool.and_eq_true, List.isEmpty_iff, List.append_eq_nil_iff] at h ⊢
  rintro ⟨hab, hr, _⟩
  exact h ⟨hab, hr⟩

/-- No test of the bytes that are there looks at those behind them. -/
theorem stepUtf8_append (bs more : Bytes) :
    (stepUtf8 bs).isDecided = true → stepUtf8 (bs ++ more) = stepUtf8 bs := by
  fun_cases stepUtf8 bs
  case case1 | case4 | case5 | case8 | case11 =>
    intro h
    cases h
  all_goals
    intro h
    clear h
    simp only [List.cons_append, stepUtf8]
  case case2 a rest n ha => rw [if_pos ha]
  case case3 a rest n ha hs => rw [if_neg ha, if_pos hs]
  case case6 a n ha hs b rest hf hb =>
    rw [if_neg ha, if_neg hs, if_pos hf, if_neg (beginsSurrogate_append more hb)]
  case case7 a n ha hs b rest hf hl => rw [if_neg ha, if_neg hs, if_neg hf, if_pos hl]
  case case9 a n ha hs b hf hl c rest hc =>
    rw [if_neg ha, if_neg hs, if_neg hf, if_neg hl, if_pos hc]
  case case10 a n ha hs b hf hl c rest hc hl' =>
    rw [if_neg ha, if_neg hs, if_neg hf, if_neg hl, if_neg hc, if_pos hl']
  case case12 a n ha hs b hf hl c hc hl' d rest hd =>
    rw [if_neg ha, if_neg hs, if_neg hf, if_neg hl, if_neg hc, if_neg hl', if_pos hd]
  case case13 a n ha hs b hf hl c hc hl' d rest hd =>
    rw [if_neg ha, if_neg hs, if_neg hf, if_neg hl, if_neg hc, if_neg hl', if_neg hd]

theorem width_stepUtf8 (bs : Bytes) {t : Text} {width : Nat} :
    stepUtf8 bs = .text t width → 1 ≤ width ∧ width ≤ bs.length ∧ t.length ≤ width := by
  fun_cases stepUtf8 bs
  case case2 | case7 | case10 | case13 =>
    intro h
    cases h
    simp only [List.length_cons, List.length_nil]
    omega
  all_goals
    intro h
    cases h

theorem steady_stepUtf8 : IsSteady stepUtf8 :=
  steady_of_append stepUtf8_append fun bs _ _ h => width_stepUtf8 bs h

theorem isSteadyScheme_utf8 : IsSteadyScheme .utf8 "utf-8".toList stepUtf8 :=
  ⟨steady_stepUtf8, fun _ _ _ => rfl⟩

/-! ### One character -/

theorem toNat_toUInt8 {n : Nat} (h : n < 256) : n.toUInt8.toNat = n := by
  show n % 256 = n
  exact Nat.mod_eq_of_lt h

theorem isContinuation_iff {b : UInt8} :
    isContinuation b = true ↔ 0x80 ≤ b.toNat ∧ b.toNat < 0xC0 := by
  simp only [isContinuation, Bool.and_eq_true, decide_eq_true_eq]

/-- What the lead byte asks of the second byte. -/
theorem fitsLead_iff {a b : UInt8} :
    fitsLead a b = true ↔ (0x80 ≤ b.toNat ∧ b.toNat < 0xC0) ∧
      (a.toNat = 0xE0 → 0xA0 ≤ b.toNat) ∧ (a.toNat = 0xED → b.toNat < 0xA0) ∧
        (a.toNat = 0xF0 → 0x90 ≤ b.toNat) ∧ (a.toNat = 0xF4 → b.toNat < 0x90) := by
  unfold fitsLead
  rw [Bool.and_eq_true, isContinuation_iff]
  refine and_congr_right fun _ => ?_
  split <;> simp_all

/-- The last six bits of a number, as they are written in a byte that goes on a character. -/
def lowBits (n : Nat) : UInt8 :=
  (0x80 + n % 64).toUInt8

theorem toNat_lowBits (n : Nat) : (lowBits n).toNat = 0x80 + n % 64 :=
  toNat_toUInt8 (by omega)

theorem isContinuation_lowBits (n : Nat) : isContinuation (lowBits n) = true := by
  rw [isContinuation_iff, toNat_lowBits]
  omega

section Char

variable {n : Nat} (rest : Bytes)

theorem stepUtf8_one (h : n < 0x80) :
    stepUtf8 (n.toUInt8 :: rest) = .char (Char.ofNat n) 1 := by
  have hn : n.toUInt8.toNat = n := toNat_toUInt8 (by omega)
  simp only [stepUtf8, hn]
  rw [if_pos h]

theorem stepUtf8_two (h : 0x80 ≤ n) (h' : n < 0x800) :
    stepUtf8 ((0xC0 + n / 64).toUInt8 :: lowBits n :: rest) = .char (Char.ofNat n) 2 := by
  have ha : (0xC0 + n / 64).toUInt8.toNat = 0xC0 + n / 64 := toNat_toUInt8 (by omega)
  have hb := toNat_lowBits n
  have hf : fitsLead (0xC0 + n / 64).toUInt8 (lowBits n) = true := by
    rw [fitsLead_iff, ha, hb]
    omega
  have h₁ : ¬0xC0 + n / 64 < 0x80 := by omega
  have h₂ : ¬(0xC0 + n / 64 < 0xC2 ∨ 0xF4 < 0xC0 + n / 64) := by omega
  have h₃ : 0xC0 + n / 64 < 0xE0 := by omega
  have hv : (0xC0 + n / 64 - 0xC0) * 64 + (0x80 + n % 64 - 0x80) = n := by omega
  simp only [stepUtf8, ha, hb, hf]
  rw [if_neg h₁, if_neg h₂, if_neg (by decide), if_pos h₃, hv]

/-- The half surrogates are left out. -/
theorem stepUtf8_three (h : 0x800 ≤ n) (h' : n < 0x10000) (hs : n < 0xD800 ∨ 0xDFFF < n) :
    stepUtf8 ((0xE0 + n / 4096).toUInt8 :: lowBits (n / 64) :: lowBits n :: rest) =
      .char (Char.ofNat n) 3 := by
  have ha : (0xE0 + n / 4096).toUInt8.toNat = 0xE0 + n / 4096 := toNat_toUInt8 (by omega)
  have hb := toNat_lowBits (n / 64)
  have hc := toNat_lowBits n
  have hf : fitsLead (0xE0 + n / 4096).toUInt8 (lowBits (n / 64)) = true := by
    rw [fitsLead_iff, ha, hb]
    omega
  have h₁ : ¬0xE0 + n / 4096 < 0x80 := by omega
  have h₂ : ¬(0xE0 + n / 4096 < 0xC2 ∨ 0xF4 < 0xE0 + n / 4096) := by omega
  have h₃ : ¬0xE0 + n / 4096 < 0xE0 := by omega
  have h₄ : 0xE0 + n / 4096 < 0xF0 := by omega
  have hv : ((0xE0 + n / 4096 - 0xE0) * 64 + (0x80 + n / 64 % 64 - 0x80)) * 64 +
      (0x80 + n % 64 - 0x80) = n := by omega
  simp only [stepUtf8, ha, hb, hc, hf, isContinuation_lowBits]
  rw [if_neg h₁, if_neg h₂, if_neg (by decide), if_neg h₃, if_neg (by decide), if_pos h₄, hv]

theorem stepUtf8_four (h : 0x10000 ≤ n) (h' : n < 0x110000) :
    stepUtf8 ((0xF0 + n / 262144).toUInt8 :: lowBits (n / 4096) :: lowBits (n / 64) :: lowBits n ::
      rest) = .char (Char.ofNat n) 4 := by
  have ha : (0xF0 + n / 262144).toUInt8.toNat = 0xF0 + n / 262144 := toNat_toUInt8 (by omega)
  have hb := toNat_lowBits (n / 4096)
  have hc := toNat_lowBits (n / 64)
  have hd := toNat_lowBits n
  have hf : fitsLead (0xF0 + n / 262144).toUInt8 (lowBits (n / 4096)) = true := by
    rw [fitsLead_iff, ha, hb]
    omega
  have h₁ : ¬0xF0 + n / 262144 < 0x80 := by omega
  have h₂ : ¬(0xF0 + n / 262144 < 0xC2 ∨ 0xF4 < 0xF0 + n / 262144) := by omega
  have h₃ : ¬0xF0 + n / 262144 < 0xE0 := by omega
  have h₄ : ¬0xF0 + n / 262144 < 0xF0 := by omega
  have hv : (((0xF0 + n / 262144 - 0xF0) * 64 + (0x80 + n / 4096 % 64 - 0x80)) * 64 +
      (0x80 + n / 64 % 64 - 0x80)) * 64 + (0x80 + n % 64 - 0x80) = n := by omega
  simp only [stepUtf8, ha, hb, hc, hd, hf, isContinuation_lowBits]
  rw [if_neg h₁, if_neg h₂, if_neg (by decide), if_neg h₃, if_neg (by decide), if_neg h₄,
    if_neg (by decide), hv]

end Char

/-- A written character is read back, whatever comes behind it. -/
theorem stepUtf8_utf8Char (c : Char) (rest : Bytes) :
    stepUtf8 (utf8Char c ++ rest) = .text [c] (utf8Char c).length := by
  have hv : c.toNat < 0xD800 ∨ 0xDFFF < c.toNat ∧ c.toNat < 0x110000 := c.valid
  have hc : Char.ofNat c.toNat = c := Char.ofNat_toNat c
  unfold utf8Char
  by_cases h₁ : c.toNat < 0x80
  · simp only [if_pos h₁]
    have := stepUtf8_one rest h₁
    rwa [hc] at this
  · by_cases h₂ : c.toNat < 0x800
    · simp only [if_neg h₁, if_pos h₂]
      have := stepUtf8_two rest (Nat.le_of_not_lt h₁) h₂
      rwa [hc] at this
    · by_cases h₃ : c.toNat < 0x10000
      · simp only [if_neg h₁, if_neg h₂, if_pos h₃]
        have := stepUtf8_three rest (Nat.le_of_not_lt h₂) h₃ (by omega)
        rwa [hc] at this
      · simp only [if_neg h₁, if_neg h₂, if_neg h₃]
        have := stepUtf8_four rest (Nat.le_of_not_lt h₃) (by omega)
        rwa [hc] at this

/-! ### A text -/

/-- The bytes of a text. -/
def utf8 (t : Text) : Bytes :=
  t.flatMap utf8Char

theorem encode_utf8 (t : Text) : Scheme.utf8.encode t = .ok (utf8 t) := rfl

/-- The bytes of a text are read as the text, and what comes behind them is left. -/
theorem reads_utf8 (t : Text) (rest : Bytes) : Reads stepUtf8 (utf8 t ++ rest) t rest :=
  reads_flatMap stepUtf8_utf8Char t rest

theorem reads_whole_utf8 (t : Text) : Reads stepUtf8 (utf8 t) t [] :=
  reads_whole_flatMap stepUtf8_utf8Char t

theorem length_le_length_utf8 (t : Text) : t.length ≤ (utf8 t).length :=
  (reads_whole_utf8 t).length_le steady_stepUtf8

theorem text_ne_nil_of_stepUtf8 (bs : Bytes) {t : Text} {width : Nat} :
    stepUtf8 bs = .text t width → t ≠ [] := by
  fun_cases stepUtf8 bs
  case case2 | case7 | case10 | case13 =>
    intro h
    cases h
    exact List.cons_ne_nil _ _
  all_goals
    intro h
    cases h

/-- No byte is read without a character. -/
theorem Reads.eq_of_text_nil {bs left : Bytes} {t : Text} (h : Reads stepUtf8 bs t left)
    (ht : t = []) : left = bs := by
  cases h with
  | done => rfl
  | text h _ => exact absurd (List.append_eq_nil_iff.mp ht).1 (text_ne_nil_of_stepUtf8 _ h)

theorem exists_handsOn (bs : Bytes) :
    ∃ n left, HandsOn stepUtf8 [] bs (Scheme.utf8.decode bs) n left :=
  readAll_cases isSteadyScheme_utf8 bs (.nil stepUtf8)

theorem decode_encode_utf8 (t : Text) : Scheme.utf8.decode (utf8 t) = ⟨t, none⟩ :=
  readAll_of_reads isSteadyScheme_utf8 (.nil stepUtf8) (reads_whole_utf8 t)

end GridRobot.Encoding
