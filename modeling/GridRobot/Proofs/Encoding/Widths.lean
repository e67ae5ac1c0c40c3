import GridRobot.Encoding.Registry
import GridRobot.Proofs.Encoding.Utf8

/-!
# A character takes a byte

In every known encoding, what stands at the front of some bytes has no more characters than it has
bytes. Where bytes always stand for the same, only a few of them are waited for.

Main statement: `isSound_of_lookup`, for every scheme that the registry knows.
-/

namespace GridRobot.Encoding

/-- Of `count` bytes, a text has no more characters than it takes up, nor than there are. -/
def Step.Fits (count : Nat) : Step → Prop
  | .text t width => t.length ≤ width ∧ t.length ≤ count
  | .invalid .. | .incomplete .. => True

/-- The same, and if `count` bytes are no character yet, then they are few. -/
inductive Step.Settles (count : Nat) : Step → Prop where
  | text {t : Text} {width : Nat} (hw : t.length ≤ width) (hc : t.length ≤ count) :
    Settles count (.text t width)
  | invalid (width : Nat) (reason : Text) : Settles count (.invalid width reason)
  | incomplete (firstAlone : Bool) (reason : Text) (h : count ≤ Decoder.maxKept) :
    Settles count (.incomplete firstAlone reason)

namespace Step

variable {count width : Nat}

theorem Settles.fits {s : Step} (h : Settles count s) : s.Fits count := by
  cases h with
  | text hw hc => exact ⟨hw, hc⟩
  | invalid => trivial
  | incomplete => trivial

theorem Settles.char (c : Char) (hw : 1 ≤ width) (hc : 1 ≤ count) :
    Settles count (.char c width) :=
  .text hw hc

theorem fits_char (c : Char) (hw : 1 ≤ width) (hc : 1 ≤ count) : (Step.char c width).Fits count :=
  ⟨hw, hc⟩

end Step

open Step (Settles)

theorem IsSteady.fits {step : Bytes → Step} (hs : IsSteady step) (bs : Bytes) :
    (step bs).Fits bs.length := by
  cases h : step bs with
  | text t width =>
    obtain ⟨_, hwb, htw⟩ := hs.width h
    exact ⟨htw, Nat.le_trans htw hwb⟩
  | invalid => trivial
  | incomplete => trivial

/-! ### Several bytes to a character -/

namespace MultiByte

/-- Two bytes and what may follow them are settled. -/
def SettlesPairs (double : Nat → Step) : Prop :=
  ∀ code count, 2 ≤ count → Settles count (double code)

theorem settlesPairs_textStep {text? : Nat → Option Text}
    (h : ∀ code t, text? code = some t → t.length ≤ 2) : SettlesPairs (textStep text?) := by
  intro code count hc
  unfold textStep
  split
  · next t ht =>
    have hl := h code t ht
    exact .text hl (Nat.le_trans hl hc)
  · exact .invalid _ _

theorem settlesPairs_charStep (char? : Nat → Option Char) : SettlesPairs (charStep char?) := by
  refine settlesPairs_textStep ?_
  intro code t ht
  obtain ⟨c, _, rfl⟩ := Option.map_eq_some_iff.mp ht
  exact Nat.le_succ 1

theorem length_pairedText_le {pairs : List Chart.Pair} {char? : Nat → Option Char} {code : Nat}
    {t : Text} (h : pairedText? pairs char? code = some t) : t.length ≤ 2 := by
  unfold pairedText? at h
  split at h
  · obtain rfl := Option.some.inj h
    exact Nat.le_refl 2
  · obtain ⟨c, _, rfl⟩ := Option.map_eq_some_iff.mp h
    exact Nat.le_succ 1

theorem settlesPairs_editionStep {lacks : List Nat} {text? : Nat → Option Text}
    (h : ∀ code t, text? code = some t → t.length ≤ 2) :
    SettlesPairs (editionStep lacks text?) := by
  intro code count hc
  unfold editionStep
  split
  · exact .invalid _ _
  · exact settlesPairs_textStep h code count hc

theorem settles_incomplete {count : Nat} (h : count ≤ 8) : Settles count incomplete :=
  .incomplete _ _ h

theorem length_le_one {bs : Bytes} (h : ∀ a b rest, bs = a :: b :: rest → False) :
    bs.length ≤ 1 := by
  match bs, h with
  | [], _ => exact Nat.zero_le 1
  | [a], _ => exact Nat.le_refl 1
  | a :: b :: rest, h => exact absurd rfl (h a b rest)

theorem settles_readDouble (single? : Nat → Option (Option Char)) {double : Nat → Step}
    (hd : SettlesPairs double) (bs : Bytes) :
    Settles bs.length (readDouble single? double bs) := by
  fun_cases readDouble single? double bs with
  | case1 => exact settles_incomplete (Nat.zero_le 8)
  | case2 a rest c h => exact .char _ (Nat.le_refl 1) (Nat.le_add_left _ _)
  | case3 a rest h => exact .invalid _ _
  | case4 a h => exact settles_incomplete (Nat.le_add_left 1 7)
  | case5 a h b rest => exact hd _ _ (Nat.le_add_left _ _)

theorem settles_readHighBits {double : Nat → Step} (hd : SettlesPairs double)
    (triple? : Nat → Option Char) (bs : Bytes) :
    Settles bs.length (readHighBits double triple? bs) := by
  fun_cases readHighBits double triple? bs
  case case1 => exact settles_incomplete (Nat.zero_le 8)
  case case2 => exact .char _ (Nat.le_refl 1) (Nat.le_add_left _ _)
  case case3 => exact .char _ (by decide) (Nat.le_add_left _ _)
  case case4 => exact .invalid _ _
  case case5 a rest ha hm hshort =>
    have hrest := length_le_one hshort
    refine settles_incomplete ?_
    rw [List.length_cons]
    omega
  case case6 => exact settles_incomplete (Nat.le_add_left 1 7)
  case case7 => exact settlesPairs_charStep _ _ _ (Nat.le_add_left _ _)
  case case8 => exact hd _ _ (Nat.le_add_left _ _)

theorem settles_readGb18030 (bs : Bytes) : Settles bs.length (readGb18030 bs) := by
  fun_cases readGb18030 bs
  case case1 | case7 => exact .char _ (Nat.le_refl 1) (Nat.le_add_left _ _)
  case case2 | case5 => exact .char _ (by decide) (Nat.le_add_left _ _)
  case case3 | case6 => exact .invalid _ _
  case case4 a b rest ha hb hshort =>
    have hrest := length_le_one hshort
    refine settles_incomplete ?_
    rw [List.length_cons, List.length_cons]
    omega
  case case8 => exact settles_incomplete (Nat.le_add_left 1 7)
  case case9 => exact settles_incomplete (Nat.zero_le 8)

/-- A syllable that is written letter by letter is the longest of all characters. -/
theorem settles_readLetters (bs : Bytes) : Settles bs.length (readLetters bs) := by
  unfold readLetters
  split
  · simp only
    split
    · exact .invalid _ _
    · split
      · exact .char _ (by decide) (Nat.le_add_left _ _)
      · exact .invalid _ _
  · next hlong =>
    refine settles_incomplete (Nat.le_of_lt_succ (Nat.lt_of_not_le fun hl => ?_))
    match bs, hlong, hl with
    | a :: b :: m1 :: i :: m2 :: v :: m3 :: f :: rest, hlong, _ =>
      exact absurd rfl (hlong a b m1 i m2 v m3 f rest)

theorem settles_readEucKr (bs : Bytes) : Settles bs.length (readEucKr bs) := by
  unfold readEucKr
  split
  · split
    · exact settles_readLetters _
    · exact settles_readDouble _ (settlesPairs_charStep _) _
  · exact settles_readDouble _ (settlesPairs_charStep _) _

theorem settles_readTilde (s : Shift) (bs : Bytes) : Settles bs.length (readTilde s bs).1 := by
  fun_cases readTilde s bs
  case case1 => exact settles_incomplete (Nat.zero_le 8)
  case case2 | case10 => exact settles_incomplete (Nat.le_add_left 1 7)
  case case3 | case11 => exact .char _ (by decide) (Nat.le_add_left _ _)
  case case4 | case5 | case6 => exact .text (Nat.zero_le _) (Nat.zero_le _)
  case case7 | case8 | case12 => exact .invalid _ _
  case case9 => exact .char _ (Nat.le_refl 1) (Nat.le_add_left _ _)

/-- Few bytes are waited for, whatever they are set to. -/
def IsShort (e : MultiByte) : Prop :=
  ∀ s bs, Settles bs.length (e.read s bs).1

theorem isShort_ofFixed (name : String) {read : Bytes → Step} (write : Text → Written)
    (h : ∀ bs, Settles bs.length (read bs)) : (ofFixed name read write).IsShort :=
  fun _ bs => h bs

theorem isShort_ofChart (name : String) (chart : Chart) : (ofChart name chart).IsShort :=
  isShort_ofFixed name _ (settles_readDouble _ (settlesPairs_charStep _))

theorem isShort_eucJis (name : String) (lacks : List Nat) (first second : Chart) :
    (eucJis name lacks first second).IsShort :=
  isShort_ofFixed name _
    (settles_readHighBits (settlesPairs_editionStep fun _ _ => length_pairedText_le) _)

theorem isShort_shiftJis0213 (name : String) (lacks : List Nat) (first second : Chart) :
    (shiftJis0213 name lacks first second).IsShort :=
  isShort_ofFixed name _
    (settles_readDouble _ (settlesPairs_editionStep fun _ _ => length_pairedText_le))

end MultiByte

/-! ### Seven bits -/

namespace SevenBit

theorem fits_readSequence (e : SevenBit) (s : Shift) (bs : Bytes) :
    (e.readSequence s bs).1.Fits bs.length := by
  unfold readSequence
  split
  · trivial
  · trivial
  · split
    · split
      · exact ⟨Nat.zero_le _, Nat.zero_le _⟩
      · trivial
    · trivial

theorem fits_readSingle (s : Shift) (b : UInt8) {count : Nat} (hc : 1 ≤ count) :
    (readSingle s b).Fits count := by
  unfold readSingle
  simp only
  split
  · exact Step.fits_char _ (by decide) hc
  · trivial

theorem fits_readSet (e : SevenBit) (s : Shift) (bs : Bytes) :
    (e.readSet s bs).Fits bs.length := by
  fun_cases readSet e s bs
  case case1 | case5 => exact Step.fits_char _ (Nat.le_refl 1) (Nat.le_add_left _ _)
  case case2 | case4 | case6 | case7 => trivial
  case case3 t ht =>
    have hl := MultiByte.length_pairedText_le ht
    exact ⟨hl, Nat.le_trans hl (Nat.le_add_left _ _)⟩

theorem fits_read (e : SevenBit) (s : Shift) (bs : Bytes) : (e.read s bs).1.Fits bs.length := by
  fun_cases read e s bs
  case case1 | case3 | case5 | case12 => trivial
  case case2 | case7 | case10 | case11 =>
    exact Step.fits_char _ (Nat.le_refl 1) (Nat.le_add_left _ _)
  case case4 => exact fits_readSequence e s _
  case case6 => exact fits_readSingle s _ (Nat.le_add_left _ _)
  case case8 | case9 => exact ⟨Nat.zero_le _, Nat.zero_le _⟩
  case case13 => exact fits_readSet e s _

end SevenBit

/-! ### All known encodings -/

/-- The encodings of several bytes to a character in which bytes always stand for the same, or are
set by tildes. -/
def MultiByte.shortOnes : List MultiByte :=
  [.big5, .hongKong, .windows932, .windows949, .windows950, .eucJis2004, .eucJisX0213, .eucJp,
    .eucKr, .gb18030, .gb2312, .gbk, .hz, .johab, .shiftJis, .shiftJis2004, .shiftJisX0213]

theorem MultiByte.isShort_of_mem : ∀ e ∈ shortOnes, e.IsShort := by
  simp only [shortOnes, List.forall_mem_cons]
  refine ⟨isShort_ofChart _ _, isShort_ofFixed _ _ (settles_readDouble _ ?_),
    isShort_ofFixed _ _ (settles_readDouble _ (settlesPairs_charStep _)), isShort_ofChart _ _,
    isShort_ofChart _ _, isShort_eucJis _ _ _ _, isShort_eucJis _ _ _ _,
    isShort_ofFixed _ _ (settles_readHighBits (settlesPairs_charStep _) _),
    isShort_ofFixed _ _ settles_readEucKr, isShort_ofFixed _ _ settles_readGb18030,
    isShort_ofChart _ _, isShort_ofChart _ _, settles_readTilde,
    isShort_ofFixed _ _ (settles_readDouble _ (settlesPairs_charStep _)),
    isShort_ofFixed _ _ (settles_readDouble _ (settlesPairs_charStep _)),
    isShort_shiftJis0213 _ _ _ _, isShort_shiftJis0213 _ _ _ _,
    nofun⟩
  exact settlesPairs_textStep fun _ _ => length_pairedText_le

/-- The encodings in which escape sequences set bytes. -/
def MultiByte.sevenBitOnes : List MultiByte :=
  [.iso2022Jp, .iso2022Jp1, .iso2022Jp2, .iso2022Jp2004, .iso2022Jp3, .iso2022JpExt, .iso2022Kr]

theorem MultiByte.isSevenBit_of_mem : ∀ e ∈ sevenBitOnes, ∃ b : SevenBit, e = b.encoding := by
  simp only [sevenBitOnes, List.forall_mem_cons]
  exact ⟨⟨_, rfl⟩, ⟨_, rfl⟩, ⟨_, rfl⟩, ⟨_, rfl⟩, ⟨_, rfl⟩, ⟨_, rfl⟩, ⟨_, rfl⟩, nofun⟩

/-- Texts of the scheme fit, and if it sets bytes it does so by escape sequences. -/
def Scheme.IsSound : Scheme → Prop
  | .multiByte e _ => e.IsShort ∨ ∃ b : SevenBit, e = b.encoding
  | _ => True

/-- The codec is no scheme, or a sound one. -/
def Codec.IsSound : Codec → Prop
  | .scheme s => s.IsSound
  | .other _ => True

theorem isSound_of_mem_entries : ∀ e ∈ entries, ∀ c ∈ e.codec?, c.IsSound := by
  have hshort := MultiByte.isShort_of_mem
  have hseven := MultiByte.isSevenBit_of_mem
  simp only [MultiByte.shortOnes, MultiByte.sevenBitOnes, List.forall_mem_cons] at hshort hseven
  unfold entries regular special
  simp only [List.forall_mem_cons, Option.mem_def, Option.some.injEq, forall_eq', reduceCtorEq,
    false_implies, Codec.IsSound, Scheme.IsSound, hshort, hseven, true_or, or_true, implies_true,
    true_and]
  exact nofun

theorem exists_entry_of_lookup {name : Text} {codec? : Option Codec}
    (h : lookup name = .ok codec?) : ∃ e ∈ entries, e.codec? = codec? := by
  unfold lookup at h
  split at h
  · cases h
  · split at h
    · next e he =>
      cases h
      refine ⟨e, ?_, rfl⟩
      unfold find? at he
      simp only at he
      split at he
      · next e' he' =>
        cases he
        exact List.mem_of_find?_eq_some he'
      · split at he
        · next e' he' =>
          cases he
          exact List.mem_of_find?_eq_some he'
        · exact List.mem_of_find?_eq_some he
    · cases h

theorem isSound_of_lookup {name : Text} {codec : Codec} (h : lookup name = .ok (some codec)) :
    codec.IsSound := by
  obtain ⟨e, he, hc⟩ := exists_entry_of_lookup h
  exact isSound_of_mem_entries e he codec hc

end GridRobot.Encoding
