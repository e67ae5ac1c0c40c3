import GridRobot.Encoding.Encode
import GridRobot.Proofs.Encoding.Utf8
import GridRobot.Text.Uppercase
import Mathlib.Algebra.Group.Nat.Defs

/-!
# What is written is read back

In the schemes of one byte to a character, and in those that write code points as numbers of a fixed
or of a growing size, with a mark in front or without one, every text that can be written is read
back from its bytes, however these are cut into pieces. What is read in a scheme of one byte to a
character has characters only that can be written in it.

Main statements: `decode_encode`, and `known_of_decode` with `exists_encode_of_known`.
-/

namespace GridRobot.Encoding

/-- Every text that is written in the scheme is read back. -/
def Scheme.IsFaithful : Scheme → Prop
  | .ascii | .latin1 | .singleByte _ | .utf8 | .utf8Signed | .utf16 _ | .utf32 _ => True
  | .multiByte .. | .undefined => False

/-! ### One byte to a character -/

/-- What stands at the front is known from its first byte. -/
theorem steady_of_byte {step : Bytes → Step} (hn : (step []).isDecided = false)
    (hb : ∀ b rest, step (b :: rest) = step [b])
    (hw : ∀ b t width, step [b] = .text t width → width = 1 ∧ t.length = 1) : IsSteady step := by
  refine steady_of_append ?_ ?_
  · intro bs more h
    cases bs with
    | nil =>
      rw [hn] at h
      cases h
    | cons b rest => rw [List.cons_append, hb, hb b rest]
  · intro bs t width h
    cases bs with
    | nil =>
      rw [h] at hn
      cases hn
    | cons b rest =>
      rw [hb] at h
      obtain ⟨rfl, ht⟩ := hw b t width h
      exact ⟨Nat.le_refl 1, Nat.le_add_left _ _, Nat.le_of_eq ht⟩

theorem steady_stepAscii : IsSteady stepAscii := by
  refine steady_of_byte rfl (fun _ _ => rfl) ?_
  intro b t width h
  rw [stepAscii] at h
  split at h
  · cases h
    exact ⟨rfl, rfl⟩
  · cases h

theorem steady_stepLatin1 : IsSteady stepLatin1 := by
  refine steady_of_byte rfl (fun _ _ => rfl) ?_
  intro b t width h
  cases h
  exact ⟨rfl, rfl⟩

theorem steady_stepSingleByte (table : SingleByte) : IsSteady (stepSingleByte table) := by
  refine steady_of_byte rfl (fun _ _ => rfl) ?_
  intro b t width h
  rw [stepSingleByte] at h
  split at h
  · cases h
    exact ⟨rfl, rfl⟩
  · cases h

theorem reads_writeBytes {step : Bytes → Step} {byte? : Char → Option UInt8}
    (h : ∀ {c b}, byte? c = some b → ∀ rest, step (b :: rest) = .text [c] 1)
    {codec reason t : Text} {place : Nat} {bs : Bytes}
    (hw : writeBytes codec reason byte? place t = .ok bs) : Reads step bs t [] := by
  induction t generalizing place bs with
  | nil =>
    cases hw
    exact .done []
  | cons c t ih =>
    rw [writeBytes] at hw
    split at hw
    · next b hb =>
      cases hrest : writeBytes codec reason byte? (place + 1) t with
      | error e =>
        rw [hrest] at hw
        cases hw
      | ok rest =>
        rw [hrest] at hw
        cases hw
        exact .text (h hb rest) (ih hrest)
    · cases hw

theorem exists_writeBytes {byte? : Char → Option UInt8} {t : Text}
    (h : ∀ c ∈ t, (byte? c).isSome = true) (codec reason : Text) (place : Nat) :
    ∃ bs, writeBytes codec reason byte? place t = .ok bs := by
  induction t generalizing place with
  | nil => exact ⟨[], rfl⟩
  | cons c t ih =>
    obtain ⟨hc, ht⟩ := List.forall_mem_cons.mp h
    obtain ⟨b, hb⟩ := Option.isSome_iff_exists.mp hc
    obtain ⟨bs, hbs⟩ := ih ht (place + 1)
    refine ⟨b :: bs, ?_⟩
    rw [writeBytes, hb, hbs]
    rfl

/-- A scheme of one byte to a character. Each character that is read has its byte. -/
structure IsBytewise (scheme : Scheme) (codec : Text) (step : Bytes → Step)
    (byte? : Char → Option UInt8) : Prop where
  steady : IsSteadyScheme scheme codec step
  back {c : Char} {b : UInt8} (h : byte? c = some b) (rest : Bytes) :
    step (b :: rest) = .text [c] 1
  known {bs : Bytes} {t : Text} {width : Nat} (h : step bs = .text t width) :
    ∀ c ∈ t, (byte? c).isSome = true
  encode : ∃ codec reason, ∀ t, scheme.encode t = writeBytes codec reason byte? 0 t

theorem toNat_of_byteBelow {limit : Nat} (hl : limit ≤ 256) {c : Char} {b : UInt8}
    (h : byteBelow limit c = some b) : c.toNat < limit ∧ Char.ofNat b.toNat = c := by
  unfold byteBelow at h
  split at h
  · next hc =>
    cases h
    rw [toNat_toUInt8 (by omega), Char.ofNat_toNat]
    exact ⟨hc, rfl⟩
  · cases h

theorem byteBelow_of_lt {limit : Nat} {c : Char} (h : c.toNat < limit) :
    byteBelow limit c = some c.toNat.toUInt8 :=
  if_pos h

theorem toNat_ofNat_byte (b : UInt8) : (Char.ofNat b.toNat).toNat = b.toNat := by
  have hb := b.toNat_lt
  exact Text.toNat_ofNat_of_lt (Or.inl (by omega))

theorem isBytewise_ascii : IsBytewise .ascii "ascii".toList stepAscii (byteBelow 128) where
  steady := ⟨steady_stepAscii, fun _ _ _ => rfl⟩
  back := by
    intro c b h rest
    obtain ⟨hc, hb⟩ := toNat_of_byteBelow (by decide) h
    have hlt : b.toNat < 128 := by
      rw [← toNat_ofNat_byte, hb]
      exact hc
    rw [stepAscii, if_pos hlt, hb]
    rfl
  known := by
    intro bs t width h
    cases bs with
    | nil => cases h
    | cons b rest =>
      rw [stepAscii] at h
      split at h
      · next hb =>
        cases h
        refine List.forall_mem_singleton.mpr ?_
        rw [byteBelow_of_lt (by rwa [toNat_ofNat_byte])]
        rfl
      · cases h
  encode := ⟨_, _, fun _ => rfl⟩

theorem isBytewise_latin1 :
    IsBytewise .latin1 "latin-1".toList stepLatin1 (byteBelow 256) where
  steady := ⟨steady_stepLatin1, fun _ _ _ => rfl⟩
  back := by
    intro c b h rest
    rw [stepLatin1, (toNat_of_byteBelow (Nat.le_refl 256) h).2]
    rfl
  known := by
    intro bs t width h
    cases bs with
    | nil => cases h
    | cons b rest =>
      cases h
      refine List.forall_mem_singleton.mpr ?_
      rw [byteBelow_of_lt (by rw [toNat_ofNat_byte]; exact b.toNat_lt)]
      rfl
  encode := ⟨_, _, fun _ => rfl⟩

theorem SingleByte.char?_of_byte? {table : SingleByte} {c : Char} {b : UInt8}
    (h : table.byte? c = some b) : table.char? b = some c := by
  obtain ⟨n, hn, rfl⟩ := Option.map_eq_some_iff.mp h
  have hfound := List.find?_some hn
  exact of_decide_eq_true hfound

theorem SingleByte.isSome_byte? {table : SingleByte} {c : Char} {b : UInt8}
    (h : table.char? b = some c) : (table.byte? c).isSome = true := by
  have hb := b.toNat_lt
  rw [byte?, Option.isSome_map, List.find?_isSome]
  have hback : b.toNat.toUInt8 = b := UInt8.ofNat_toNat
  refine ⟨b.toNat, List.mem_reverse.mpr (List.mem_range.mpr hb), decide_eq_true ?_⟩
  rwa [hback]

theorem isBytewise_singleByte (table : SingleByte) :
    IsBytewise (.singleByte table) "charmap".toList (stepSingleByte table) table.byte? where
  steady := ⟨steady_stepSingleByte table, fun _ _ _ => rfl⟩
  back := by
    intro c b h rest
    rw [stepSingleByte, SingleByte.char?_of_byte? h]
    rfl
  known := by
    intro bs t width h
    cases bs with
    | nil => cases h
    | cons b rest =>
      rw [stepSingleByte] at h
      split at h
      · next c hc =>
        cases h
        exact List.forall_mem_singleton.mpr (SingleByte.isSome_byte? hc)
      · cases h
  encode := ⟨_, _, fun _ => rfl⟩

/-! ### Numbers of two or four bytes -/

theorem ofBig_concat (bs : Bytes) (b : UInt8) : ofBig (bs ++ [b]) = 256 * ofBig bs + b.toNat := by
  rw [ofBig, List.foldl_append]
  rfl

theorem ofBig_toBig {count n : Nat} (h : n < 256 ^ count) : ofBig (toBig count n) = n := by
  induction count generalizing n with
  | zero =>
    rw [Nat.pow_zero] at h
    rw [toBig]
    exact (Nat.lt_one_iff.mp h).symm
  | succ count ih =>
    have hdiv : n / 256 < 256 ^ count := by
      rw [Nat.div_lt_iff_lt_mul (by decide), ← Nat.pow_succ]
      exact h
    have hmod : n.toUInt8.toNat = n % 256 := rfl
    rw [toBig, ofBig_concat, ih hdiv, hmod]
    exact Nat.div_add_mod n 256

theorem length_toBig (count n : Nat) : (toBig count n).length = count := by
  induction count generalizing n with
  | zero => rfl
  | succ count ih => rw [toBig, List.length_append, ih, List.length_singleton]

namespace ByteOrder

theorem length_bytes (order : ByteOrder) (count n : Nat) :
    (order.bytes count n).length = count := by
  cases order with
  | little => rw [bytes, List.length_reverse, length_toBig]
  | big => exact length_toBig count n

theorem value_bytes (order : ByteOrder) {count n : Nat} (h : n < 256 ^ count) :
    order.value (order.bytes count n) = n := by
  cases order with
  | little => rw [value, bytes, List.reverse_reverse, ofBig_toBig h]
  | big => exact ofBig_toBig h

theorem value_take_bytes (order : ByteOrder) {count n : Nat} (h : n < 256 ^ count) (rest : Bytes) :
    order.value ((order.bytes count n ++ rest).take count) = n := by
  rw [List.take_left' (order.length_bytes count n), order.value_bytes h]

end ByteOrder

theorem stepUtf16_append (order : ByteOrder) (bs more : Bytes) :
    (stepUtf16 order bs).isDecided = true → stepUtf16 order (bs ++ more) = stepUtf16 order bs := by
  by_cases h₂ : bs.length < 2
  · unfold stepUtf16
    rw [if_pos h₂]
    nofun
  · have hlen : (bs ++ more).length = bs.length + more.length := List.length_append
    have hunit : (bs ++ more).take 2 = bs.take 2 := List.take_append_of_le_length (by omega)
    -- of less than four bytes, the first half of a pair is not decided
    by_cases h₄ : bs.length < 4
    · unfold stepUtf16
      simp only [hunit]
      rw [if_neg h₂, if_neg (by omega : ¬(bs ++ more).length < 2)]
      split
      · exact fun _ => rfl
      · split
        · exact fun _ => rfl
        · nofun
    · have hdrop : (bs ++ more).drop 2 = bs.drop 2 ++ more :=
        List.drop_append_of_le_length (by omega)
      have hlow : ((bs ++ more).drop 2).take 2 = (bs.drop 2).take 2 := by
        rw [hdrop]
        refine List.take_append_of_le_length ?_
        rw [List.length_drop]
        omega
      intro _
      unfold stepUtf16
      simp only [hunit, hlow]
      rw [if_neg h₂, if_neg (by omega : ¬(bs ++ more).length < 2), if_neg h₄,
        if_neg (by omega : ¬(bs ++ more).length < 4)]

theorem steady_stepUtf16 (order : ByteOrder) : IsSteady (stepUtf16 order) := by
  refine steady_of_append (stepUtf16_append order) ?_
  intro bs t width
  fun_cases stepUtf16 order bs
  case case2 | case5 =>
    intro h
    cases h
    simp only [List.length_cons, List.length_nil]
    omega
  all_goals
    intro h
    cases h

theorem stepUtf16_utf16Char (order : ByteOrder) (c : Char) (rest : Bytes) :
    stepUtf16 order (utf16Char order c ++ rest) = .text [c] (utf16Char order c).length := by
  have hv : c.toNat < 0xD800 ∨ 0xDFFF < c.toNat ∧ c.toNat < 0x110000 := c.valid
  have hc : Char.ofNat c.toNat = c := Char.ofNat_toNat c
  unfold utf16Char
  simp only
  by_cases hn : c.toNat < 0x10000
  · have hunit : c.toNat < 256 ^ 2 := hn
    have hlen : ¬(order.bytes 2 c.toNat ++ rest).length < 2 := by
      rw [List.length_append, order.length_bytes]
      omega
    rw [if_pos hn, stepUtf16, if_neg hlen]
    simp only [order.value_take_bytes hunit, order.length_bytes]
    rw [if_pos (by omega : c.toNat < 0xD800 ∨ 0xE000 ≤ c.toNat), hc]
    rfl
  · have hhigh : 0xD800 + (c.toNat - 0x10000) / 0x400 < 256 ^ 2 := by omega
    have hlow : 0xDC00 + (c.toNat - 0x10000) % 0x400 < 256 ^ 2 := by omega
    generalize hh : 0xD800 + (c.toNat - 0x10000) / 0x400 = high at hhigh
    generalize hl : 0xDC00 + (c.toNat - 0x10000) % 0x400 = low at hlow
    have hlen : (order.bytes 2 high ++ order.bytes 2 low).length = 4 := by
      rw [List.length_append, order.length_bytes, order.length_bytes]
    have hall : (order.bytes 2 high ++ order.bytes 2 low ++ rest).length = 4 + rest.length := by
      rw [List.length_append, hlen]
    have hdrop : (order.bytes 2 high ++ (order.bytes 2 low ++ rest)).drop 2 =
        order.bytes 2 low ++ rest := List.drop_left' (order.length_bytes 2 high)
    have hval : 0x10000 + (high - 0xD800) * 0x400 + (low - 0xDC00) = c.toNat := by omega
    rw [if_neg hn, hlen, stepUtf16, hall, List.append_assoc]
    simp only [order.value_take_bytes hhigh, hdrop, order.value_take_bytes hlow]
    rw [if_neg (by omega), if_neg (by omega), if_neg (by omega), if_neg (by omega),
      if_pos (by omega), hval, hc]
    rfl

theorem stepUtf32_append (order : ByteOrder) (bs more : Bytes) :
    (stepUtf32 order bs).isDecided = true → stepUtf32 order (bs ++ more) = stepUtf32 order bs := by
  by_cases h : bs.length < 4
  · unfold stepUtf32
    rw [if_pos h]
    nofun
  · have hlen : (bs ++ more).length = bs.length + more.length := List.length_append
    have hunit : (bs ++ more).take 4 = bs.take 4 := List.take_append_of_le_length (by omega)
    intro _
    unfold stepUtf32
    rw [if_neg h, if_neg (by omega : ¬(bs ++ more).length < 4), hunit]

theorem steady_stepUtf32 (order : ByteOrder) : IsSteady (stepUtf32 order) := by
  refine steady_of_append (stepUtf32_append order) ?_
  intro bs t width
  fun_cases stepUtf32 order bs
  case case4 =>
    intro h
    cases h
    simp only [List.length_cons, List.length_nil]
    omega
  all_goals
    intro h
    cases h

theorem stepUtf32_utf32Char (order : ByteOrder) (c : Char) (rest : Bytes) :
    stepUtf32 order (utf32Char order c ++ rest) = .text [c] (utf32Char order c).length := by
  have hv : c.toNat < 0xD800 ∨ 0xDFFF < c.toNat ∧ c.toNat < 0x110000 := c.valid
  have hn : c.toNat < 256 ^ 4 := by omega
  have hlen : ¬(order.bytes 4 c.toNat ++ rest).length < 4 := by
    rw [List.length_append, order.length_bytes]
    omega
  rw [utf32Char, stepUtf32, if_neg hlen]
  simp only [order.value_take_bytes hn, order.length_bytes]
  rw [if_neg (by omega), if_neg (by omega), Char.ofNat_toNat]
  rfl

/-! ### Whole texts -/

variable {scheme : Scheme} {t : Text} {bs : Bytes}

theorem decode_of_reads {codec : Text} {step : Bytes → Step}
    (h : IsSteadyScheme scheme codec step) (hr : Reads step bs t []) :
    scheme.decode bs = ⟨t, none⟩ :=
  readAll_of_reads h (.nil step) hr

section Bytewise

variable {codec : Text} {step : Bytes → Step} {byte? : Char → Option UInt8}
  (h : IsBytewise scheme codec step byte?)

include h

theorem decode_encode_bytewise (hw : scheme.encode t = .ok bs) : scheme.decode bs = ⟨t, none⟩ := by
  obtain ⟨_, _, hencode⟩ := h.encode
  rw [hencode] at hw
  exact decode_of_reads h.steady (reads_writeBytes h.back hw)

theorem exists_encode_of_known (ht : ∀ c ∈ t, (byte? c).isSome = true) :
    ∃ bs, scheme.encode t = .ok bs := by
  obtain ⟨codec', reason, hencode⟩ := h.encode
  rw [hencode]
  exact exists_writeBytes ht codec' reason 0

theorem known_of_decode (bs : Bytes) : ∀ c ∈ (scheme.decode bs).text, (byte? c).isSome = true := by
  obtain ⟨n, left, hd⟩ := readAll_cases h.steady bs (.nil step)
  have hreads : ∀ {bs t left}, Reads step bs t left → ∀ c ∈ t, (byte? c).isSome = true := by
    intro bs t left hr
    induction hr with
    | done bs => exact fun _ hc => absurd hc List.not_mem_nil
    | text hstep _ ih => exact List.forall_mem_append.mpr ⟨h.known hstep, ih⟩
  exact hreads hd.reads

end Bytewise

theorem isSteadyScheme_utf16 (order : ByteOrder) :
    IsSteadyScheme (.utf16 (some order)) ("utf-16".toList ++ order.suffix) (stepUtf16 order) :=
  ⟨steady_stepUtf16 order, fun _ _ _ => rfl⟩

theorem isSteadyScheme_utf32 (order : ByteOrder) :
    IsSteadyScheme (.utf32 (some order)) ("utf-32".toList ++ order.suffix) (stepUtf32 order) :=
  ⟨steady_stepUtf32 order, fun _ _ _ => rfl⟩

theorem decode_encode (hs : scheme.IsFaithful) (h : scheme.encode t = .ok bs) :
    scheme.decode bs = ⟨t, none⟩ := by
  cases scheme with
  | ascii => exact decode_encode_bytewise isBytewise_ascii h
  | latin1 => exact decode_encode_bytewise isBytewise_latin1 h
  | singleByte table => exact decode_encode_bytewise (isBytewise_singleByte table) h
  | utf8 =>
    rw [encode_utf8] at h
    obtain rfl := Except.ok.inj h
    exact decode_encode_utf8 t
  | utf8Signed =>
    cases h
    exact readAll_behind_mark isSteadyScheme_utf8 (utf8Char '\uFEFF') (by decide)
      (by decide) (fun piece => ⟨_, _, rfl⟩) (reads_whole_utf8 t)
  | utf16 order =>
    cases order with
    | some order =>
      cases h
      exact decode_of_reads (isSteadyScheme_utf16 order)
        (reads_whole_flatMap (stepUtf16_utf16Char order) t)
    | none =>
      cases h
      exact readAll_behind_mark (isSteadyScheme_utf16 .little) (utf16Char .little '\uFEFF')
        (by decide) (by decide) (fun piece => ⟨_, _, rfl⟩)
        (reads_whole_flatMap (stepUtf16_utf16Char .little) t)
  | utf32 order =>
    cases order with
    | some order =>
      cases h
      exact decode_of_reads (isSteadyScheme_utf32 order)
        (reads_whole_flatMap (stepUtf32_utf32Char order) t)
    | none =>
      cases h
      exact readAll_behind_mark (isSteadyScheme_utf32 .little) (utf32Char .little '\uFEFF')
        (by decide) (by decide) (fun piece => ⟨_, _, rfl⟩)
        (reads_whole_flatMap (stepUtf32_utf32Char .little) t)
  | multiByte e shift => exact absurd hs id
  | undefined => exact absurd hs id

end GridRobot.Encoding
