import GridRobot.Proofs.Encoding.RoundTrip
import GridRobot.Proofs.Encoding.Widths

/-!
# What can be wrong with bytes

Most schemes find the place in the bytes where they are no text. Some find faults that have no
place, and which these are depends on the scheme alone. What is read of some bytes has no more
characters than there are bytes. Of the codecs that are no schemes, nothing is known.

Main statements: `fault_decode` and `length_decode_le`, and `Codec.fault_decode`.
-/

namespace GridRobot.Encoding

/-- A fault that the scheme finds without a place in the bytes. -/
inductive Scheme.Unplaced : Scheme → DecodeError → Prop where
  | utf16 : Unplaced (.utf16 none) (.noByteOrderMark 16)
  | utf32 : Unplaced (.utf32 none) (.noByteOrderMark 32)
  | sevenBit (e : SevenBit) (shift : Shift) : Unplaced (.multiByte e.encoding shift) .tooManyKept
  | undefined : Unplaced .undefined .undefined

/-- A decoder of the one scheme may go on in the other. -/
inductive Scheme.Leads : Scheme → Scheme → Prop where
  | same (scheme : Scheme) : Leads scheme scheme
  | shifted (e : MultiByte) (shift shift' : Shift) :
    Leads (.multiByte e shift) (.multiByte e shift')
  | utf8Signed : Leads .utf8Signed .utf8
  | utf16 (order : ByteOrder) : Leads (.utf16 none) (.utf16 (some order))
  | utf32 (order : ByteOrder) : Leads (.utf32 none) (.utf32 (some order))

namespace Scheme.Leads

variable {a b : Scheme}

theorem isSound (h : Leads a b) (ha : a.IsSound) : b.IsSound := by
  cases h with
  | same => exact ha
  | shifted => exact ha
  | utf8Signed => trivial
  | utf16 => trivial
  | utf32 => trivial

theorem unplaced (h : Leads a b) {e : DecodeError} (he : Unplaced b e) : Unplaced a e := by
  cases h with
  | same => exact he
  | shifted =>
    cases he
    exact .sevenBit _ _
  | utf8Signed => cases he
  | utf16 => cases he
  | utf32 => cases he

end Scheme.Leads

/-! ### One piece -/

section Scan

variable {σ : Type} {step : σ → Bytes → Step × σ}

theorem length_scan_le (h : ∀ s bs, (step s bs).1.Fits bs.length) (state : σ) (place : Nat)
    (bs : Bytes) : (scan step state place bs).text.length +
      (scan step state place bs).left.length ≤ bs.length := by
  fun_induction scan step state place bs with
  | case1 => exact Nat.le_refl 0
  | case2 state place b rest t width next hstep s ih =>
    have hfit := h state (b :: rest)
    rw [hstep] at hfit
    obtain ⟨hw, hb⟩ := hfit
    rw [show scan step next (place + width) (rest.drop (width - 1)) = s from rfl,
      List.length_drop] at ih
    simp only [List.length_append, List.length_cons] at hb ⊢
    omega
  | case3 => exact Nat.le_of_eq (Nat.zero_add _)
  | case4 => exact Nat.le_of_eq (Nat.zero_add _)

theorem length_left_le (h : ∀ s bs, (step s bs).1.Settles bs.length) (state : σ) (place : Nat)
    (bs : Bytes) (hf : (scan step state place bs).isFault = false) :
    (scan step state place bs).left.length ≤ Decoder.maxKept := by
  fun_induction scan step state place bs with
  | case1 => exact Nat.zero_le _
  | case2 state place b rest t width next hstep s ih => exact ih hf
  | case3 => cases hf
  | case4 state place b rest firstAlone reason next hstep =>
    have hfit := h state (b :: rest)
    rw [hstep] at hfit
    cases hfit with
    | incomplete _ _ hl => exact hl

theorem readPiece_cases (codec : Text) (step : σ → Bytes → Step × σ) (state : σ) (place : Nat)
    (bs : Bytes) (final : Bool) :
    (∃ e, DecodeError.IsInvalid e ∧ readPiece codec step state place bs final = .error e) ∨
      (scan step state place bs).isFault = false ∧
        readPiece codec step state place bs final =
          .ok ((scan step state place bs).text, (scan step state place bs).left,
            (scan step state place bs).state) := by
  unfold readPiece
  simp only
  split
  · exact Or.inl ⟨_, ⟨_, _, _, _, _, rfl⟩, rfl⟩
  · next h =>
    simp only [Bool.or_eq_true, not_or] at h
    exact Or.inr ⟨Bool.eq_false_iff.mpr h.1, rfl⟩

end Scan

/-- What a decoder of the scheme makes of `count` bytes. -/
def Scheme.Meets (scheme : Scheme) (count : Nat) :
    Except DecodeError (Text × Decoder) → Prop
  | .ok (t, d) =>
    scheme.Leads d.scheme ∧ t.length + d.kept.length ≤ count
  | .error e => e.IsInvalid ∨ scheme.Unplaced e

variable {scheme next : Scheme} {count : Nat} {bs : Bytes}

theorem meets_continueWith (hl : scheme.Leads next) {step : Bytes → Step}
    (hs : ∀ bs, (step bs).Fits bs.length) (hb : bs.length ≤ count) (codec : Text) (place : Nat)
    (final : Bool) :
    scheme.Meets count (Decoder.continueWith next codec step place bs final) := by
  have hfits : ∀ state bs, (always step state bs).1.Fits bs.length := fun _ bs => hs bs
  have hlen := length_scan_le hfits () place bs
  unfold Decoder.continueWith
  rcases readPiece_cases codec (always step) () place bs final with ⟨e, he, hr⟩ | ⟨_, hr⟩
  · rw [hr]
    exact Or.inl he
  · rw [hr]
    exact ⟨hl, Nat.le_trans hlen hb⟩

theorem meets_readShifted {e : MultiByte} {shift : Shift} (he : (Scheme.multiByte e shift).IsSound)
    (bs : Bytes) (final : Bool) :
    (Scheme.multiByte e shift).Meets bs.length (Decoder.readShifted e shift bs final) := by
  have hfits : ∀ s bs, (e.read s bs).1.Fits bs.length := by
    intro s bs
    rcases he with hshort | ⟨b, rfl⟩
    · exact (hshort s bs).fits
    · exact SevenBit.fits_read b s bs
  have hlen := length_scan_le hfits shift 0 bs
  unfold Decoder.readShifted
  rcases readPiece_cases e.name.toList e.read shift 0 bs final with ⟨err, herr, hr⟩ | ⟨hf, hr⟩
  · rw [hr]
    exact Or.inl herr
  · rw [hr]
    simp only [bind, Except.bind]
    split
    · next hlong =>
      rcases he with hshort | ⟨b, rfl⟩
      · exact absurd (length_left_le hshort shift 0 bs hf) (Nat.not_le_of_lt hlong)
      · exact Or.inr (.sevenBit b shift)
    · exact ⟨.shifted e shift _, hlen⟩

theorem meets_readMarked {bits : Nat} {marked : ByteOrder → Scheme}
    {step : ByteOrder → Bytes → Step} (hs : ∀ order bs, (step order bs).Fits bs.length)
    (hl : ∀ order, scheme.Leads (marked order)) (hu : scheme.Unplaced (.noByteOrderMark bits))
    (bs : Bytes) (final : Bool) :
    scheme.Meets bs.length (Decoder.readMarked bits marked step scheme bs final) := by
  have hdrop : (bs.drop (bits / 8)).length ≤ bs.length := (List.drop_sublist _ _).length_le
  unfold Decoder.readMarked
  simp only
  split
  · exact meets_continueWith (hl .little) (hs .little) hdrop _ _ _
  · split
    · exact meets_continueWith (hl .big) (hs .big) hdrop _ _ _
    · have hfits : ∀ state bs, (always (step .little) state bs).1.Fits bs.length :=
        fun _ bs => hs .little bs
      have hlen := length_scan_le hfits () 0 bs
      rcases readPiece_cases ("utf-".toList ++ Numeral.digits bits ++ ByteOrder.little.suffix)
        (always (step .little)) () 0 bs final with ⟨e, he, hr⟩ | ⟨_, hr⟩
      · rw [hr]
        exact Or.inl he
      · rw [hr]
        simp only [bind, Except.bind]
        split
        · exact Or.inr hu
        · exact ⟨.same scheme, hlen⟩

/-! ### All pieces -/

theorem meets_feed {d : Decoder} (hd : d.scheme.IsSound) (piece : Bytes) (final : Bool) :
    d.scheme.Meets (d.kept ++ piece).length (d.feed piece final) := by
  obtain ⟨scheme, kept⟩ := d
  have hle := Nat.le_refl (kept ++ piece).length
  cases scheme with
  | ascii => exact meets_continueWith (.same _) steady_stepAscii.fits hle _ _ _
  | latin1 => exact meets_continueWith (.same _) steady_stepLatin1.fits hle _ _ _
  | singleByte table =>
    exact meets_continueWith (.same _) (steady_stepSingleByte table).fits hle _ _ _
  | utf8 => exact meets_continueWith (.same _) steady_stepUtf8.fits hle _ _ _
  | utf8Signed =>
    unfold Decoder.feed
    simp only
    split
    · exact ⟨.same _, Nat.le_of_eq (Nat.zero_add _)⟩
    · refine meets_continueWith .utf8Signed steady_stepUtf8.fits ?_ _ _ _
      split
      · exact (List.drop_sublist _ _).length_le
      · exact hle
  | utf16 order =>
    cases order with
    | none => exact meets_readMarked (fun order => (steady_stepUtf16 order).fits) .utf16 .utf16 _ _
    | some order => exact meets_continueWith (.same _) (steady_stepUtf16 order).fits hle _ _ _
  | utf32 order =>
    cases order with
    | none => exact meets_readMarked (fun order => (steady_stepUtf32 order).fits) .utf32 .utf32 _ _
    | some order => exact meets_continueWith (.same _) (steady_stepUtf32 order).fits hle _ _ _
  | multiByte e shift => exact meets_readShifted hd _ _
  | undefined => exact Or.inr .undefined

/-- What is wrong with the bytes that a decoder reads to their end, and how much it reads. -/
theorem meets_readAll {d : Decoder} (hd : d.scheme.IsSound) (bs : Bytes) :
    (∀ e, (d.readAll bs).fault = some e → e.IsInvalid ∨ d.scheme.Unplaced e) ∧
      (d.readAll bs).text.length ≤ d.kept.length + bs.length := by
  induction hn : bs.length using Nat.strongRecOn generalizing d bs with
  | ind n ih =>
    subst hn
    by_cases hb : bs = []
    · subst hb
      have hfeed := meets_feed hd [] true
      rw [readAll_nil]
      cases hf : d.feed [] true with
      | error e =>
        rw [hf] at hfeed
        refine ⟨?_, Nat.zero_le _⟩
        rintro e' ⟨⟩
        exact hfeed
      | ok p =>
        rw [hf] at hfeed
        refine ⟨nofun, ?_⟩
        have hlen := hfeed.2
        rw [List.append_nil] at hlen
        exact Nat.le_trans (Nat.le_add_right _ _) (Nat.le_trans hlen (Nat.le_add_right _ _))
    · have hfeed := meets_feed hd (bs.take pieceSize) false
      rw [readAll_of_ne_nil d hb]
      cases hf : d.feed (bs.take pieceSize) false with
      | error e =>
        rw [hf] at hfeed
        refine ⟨?_, Nat.zero_le _⟩
        rintro e' ⟨⟩
        exact hfeed
      | ok p =>
        obtain ⟨t, d'⟩ := p
        rw [hf] at hfeed
        obtain ⟨hleads, hlen⟩ := hfeed
        have hlt : (bs.drop pieceSize).length < bs.length := by
          have hpos := List.length_pos_iff.mpr hb
          have hsz : pieceSize = 8192 := rfl
          rw [List.length_drop]
          omega
        -- the rest is read in a scheme that this one leads to, whose faults are faults of this one
        obtain ⟨hfault, hrest⟩ := ih _ hlt (hleads.isSound hd) (bs.drop pieceSize) rfl
        constructor
        · intro e he
          exact (hfault e he).imp_right hleads.unplaced
        · have hsplit : (bs.take pieceSize).length + (bs.drop pieceSize).length = bs.length := by
            rw [← List.length_append, List.take_append_drop]
          rw [List.length_append] at hlen
          simp only [List.length_append]
          omega

/-- A fault that is found in a file has a place, or the scheme is one that finds such faults. -/
theorem fault_decode (hs : scheme.IsSound) {e : DecodeError}
    (he : (scheme.decode bs).fault = some e) : e.IsInvalid ∨ scheme.Unplaced e :=
  (meets_readAll (d := { scheme := scheme }) hs bs).1 e he

theorem length_decode_le (hs : scheme.IsSound) (bs : Bytes) :
    (scheme.decode bs).text.length ≤ bs.length := by
  have hlen := (meets_readAll (d := { scheme := scheme }) hs bs).2
  rwa [List.length_nil, Nat.zero_add] at hlen

namespace Codec

/-- A fault that the codec may find without a place in the bytes. -/
inductive Unplaced : Codec → DecodeError → Prop where
  | scheme {scheme : Scheme} {e : DecodeError} (h : scheme.Unplaced e) : Unplaced (.scheme scheme) e
  | other {codec : OtherCodec} {e : DecodeError} (h : ¬e.IsInvalid) : Unplaced (.other codec) e

variable {codec : Codec} {others : OtherCodecs}

theorem Unplaced.not_isInvalid {e : DecodeError} (h : codec.Unplaced e) : ¬e.IsInvalid := by
  cases h with
  | scheme h =>
    rintro ⟨codec, bs, start, stop, reason, rfl⟩
    cases h
  | other h => exact h

theorem fault_decode (hs : codec.IsSound) {e : DecodeError}
    (he : (codec.decode others bs).fault = some e) : e.IsInvalid ∨ codec.Unplaced e := by
  cases codec with
  | scheme scheme => exact (Encoding.fault_decode hs he).imp_right .scheme
  | other codec => exact (Classical.em e.IsInvalid).imp_right .other

/-- Only where a codec is no scheme can there be more characters than bytes. -/
theorem exists_other_of_length_lt (hs : codec.IsSound)
    (hl : bs.length < (codec.decode others bs).text.length) : ∃ other, codec = .other other := by
  cases codec with
  | scheme scheme => exact absurd (length_decode_le hs bs) (Nat.not_le_of_lt hl)
  | other codec => exact ⟨codec, rfl⟩

end Codec

end GridRobot.Encoding
