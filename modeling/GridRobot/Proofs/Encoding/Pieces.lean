import GridRobot.Encoding.Decoding

/-!
# Reading in pieces

Bytes are read character by character, up to their end, to a fault or to the start of a character
whose end has not come yet. Where more bytes behind a character do not change what it is, it makes no
difference how the bytes are cut into pieces, but for one thing: of the piece that has the fault no
character is handed on.

Main statement: what a decoder hands on is what is read of some whole pieces at the front
(`readAll_cases`).
-/

namespace GridRobot.Encoding

/-- The bytes are read as the text, up to what is left. -/
inductive Reads (step : Bytes → Step) : Bytes → Text → Bytes → Prop where
  | done (bs : Bytes) : Reads step bs [] bs
  | text {bs left : Bytes} {t u : Text} {width : Nat} (h : step bs = .text t width)
      (hr : Reads step (bs.drop width) u left) : Reads step bs (t ++ u) left

/-- More bytes behind those that are there change neither a text nor a fault at the front. A text
takes up at least one byte, and as many as it has characters. -/
structure IsSteady (step : Bytes → Step) : Prop where
  text {bs : Bytes} {t : Text} {width : Nat} (h : step bs = .text t width) (more : Bytes) :
    step (bs ++ more) = .text t width
  invalid {bs : Bytes} {width : Nat} {reason : Text} (h : step bs = .invalid width reason)
    (more : Bytes) : step (bs ++ more) = .invalid width reason
  width {bs : Bytes} {t : Text} {width : Nat} (h : step bs = .text t width) :
    1 ≤ width ∧ width ≤ bs.length ∧ t.length ≤ width

/-- A character or a fault stands at the front, and not the start of a character. -/
def Step.isDecided : Step → Bool
  | .text .. | .invalid .. => true
  | .incomplete .. => false

/-- Nothing is there, or the start of a character. -/
def IsPending (step : Bytes → Step) (bs : Bytes) : Prop :=
  bs = [] ∨ ∃ firstAlone reason, step bs = .incomplete firstAlone reason

/-- A fault is there. -/
def IsFaulty (step : Bytes → Step) (bs : Bytes) : Prop :=
  bs ≠ [] ∧ ∃ width reason, step bs = .invalid width reason

/-- No character stands at the front. -/
def IsStuck (step : Bytes → Step) (bs : Bytes) : Prop :=
  ∀ t width, step bs ≠ .text t width

variable {step : Bytes → Step} {bs left : Bytes} {t u : Text}

theorem steady_of_append
    (ha : ∀ bs more, (step bs).isDecided = true → step (bs ++ more) = step bs)
    (hw : ∀ bs t width, step bs = .text t width →
      1 ≤ width ∧ width ≤ bs.length ∧ t.length ≤ width) : IsSteady step where
  text {bs t width} h more := by rw [ha bs more (by rw [h]; rfl), h]
  invalid {bs width reason} h more := by rw [ha bs more (by rw [h]; rfl), h]
  width h := hw _ _ _ h

theorem IsPending.nil (step : Bytes → Step) : IsPending step [] :=
  Or.inl rfl

theorem IsPending.isStuck (hs : IsSteady step) (h : IsPending step bs) : IsStuck step bs := by
  intro t width ht
  rcases h with rfl | ⟨firstAlone, reason, h⟩
  · have hw := hs.width ht
    have hl : ([] : Bytes).length = 0 := rfl
    omega
  · rw [h] at ht
    cases ht

theorem IsStuck.nil (hs : IsSteady step) : IsStuck step [] :=
  (IsPending.nil step).isStuck hs

theorem IsFaulty.isStuck (h : IsFaulty step bs) : IsStuck step bs := by
  intro t width ht
  obtain ⟨_, w, reason, h⟩ := h
  rw [h] at ht
  cases ht

theorem IsFaulty.append (hs : IsSteady step) (h : IsFaulty step bs) (more : Bytes) :
    IsFaulty step (bs ++ more) := by
  obtain ⟨hn, width, reason, h⟩ := h
  exact ⟨List.append_ne_nil_of_left_ne_nil hn more, width, reason, hs.invalid h more⟩

theorem IsPending.not_isFaulty (h : IsPending step bs) : ¬IsFaulty step bs := by
  rintro ⟨hn, width, reason, hf⟩
  rcases h with rfl | ⟨firstAlone, r, h⟩
  · exact hn rfl
  · rw [hf] at h
    cases h

theorem exists_reads (hs : IsSteady step) (bs : Bytes) :
    ∃ t left, Reads step bs t left ∧ (IsPending step left ∨ IsFaulty step left) := by
  induction hn : bs.length using Nat.strongRecOn generalizing bs with
  | ind n ih =>
    subst hn
    by_cases hb : bs = []
    · exact ⟨[], bs, .done bs, Or.inl (Or.inl hb)⟩
    · cases h : step bs with
      | text t width =>
        have hw := hs.width h
        have hl : (bs.drop width).length < bs.length := by
          rw [List.length_drop]
          omega
        obtain ⟨u, left, hr, he⟩ := ih _ hl (bs.drop width) rfl
        exact ⟨t ++ u, left, .text h hr, he⟩
      | invalid width reason => exact ⟨[], bs, .done bs, Or.inr ⟨hb, width, reason, h⟩⟩
      | incomplete firstAlone reason =>
        exact ⟨[], bs, .done bs, Or.inl (Or.inr ⟨firstAlone, reason, h⟩)⟩

namespace Reads

theorem length_le (hs : IsSteady step) (h : Reads step bs t left) :
    t.length + left.length ≤ bs.length := by
  induction h with
  | done bs => exact Nat.le_of_eq (Nat.zero_add _)
  | text h _ ih =>
    have hw := hs.width h
    rw [List.length_drop] at ih
    rw [List.length_append]
    omega

theorem append (hs : IsSteady step) (h : Reads step bs t left) (more : Bytes) :
    Reads step (bs ++ more) t (left ++ more) := by
  induction h with
  | done bs => exact .done _
  | @text bs left t u width h _ ih =>
    have hw := hs.width h
    refine .text (hs.text h more) ?_
    rwa [List.drop_append_of_le_length hw.2.1]

theorem trans {more : Bytes} (h : Reads step bs t left) (hr : Reads step left u more) :
    Reads step bs (t ++ u) more := by
  induction h with
  | done bs => exact hr
  | text h _ ih =>
    rw [List.append_assoc]
    exact .text h (ih hr)

/-- Of two readings, the one that went on until it was stuck goes on from where the other one
stopped. -/
theorem exists_append {rest : Bytes} (h : Reads step bs t left) (h' : Reads step bs u rest)
    (he : IsStuck step rest) : ∃ v, u = t ++ v ∧ Reads step left v rest := by
  induction h generalizing u with
  | done bs => exact ⟨u, rfl, h'⟩
  | text h _ ih =>
    cases h' with
    | done => exact absurd h (he _ _)
    | text h₁ hr =>
      rw [h] at h₁
      cases h₁
      obtain ⟨v, rfl, hv⟩ := ih hr
      exact ⟨v, (List.append_assoc _ _ _).symm, hv⟩

theorem of_stuck (h : Reads step bs t left) (hs : IsStuck step bs) : t = [] ∧ left = bs := by
  cases h with
  | done => exact ⟨rfl, rfl⟩
  | text h _ => exact absurd h (hs _ _)

/-- Bytes can be read to the point of being stuck in one way only. -/
theorem unique {rest : Bytes} (h : Reads step bs t left) (hl : IsStuck step left)
    (h' : Reads step bs u rest) (he : IsStuck step rest) : u = t ∧ rest = left := by
  obtain ⟨v, rfl, hv⟩ := h.exists_append h' he
  obtain ⟨rfl, rfl⟩ := hv.of_stuck hl
  exact ⟨List.append_nil t, rfl⟩

end Reads

/-! ### One piece -/

section Scan

variable {place width : Nat} {reason : Text}

theorem scan_of_text (h : step bs = .text t width) (hw : 1 ≤ width) (hb : bs ≠ []) :
    scan (always step) () place bs =
      { scan (always step) () (place + width) (bs.drop width) with
        text := t ++ (scan (always step) () (place + width) (bs.drop width)).text } := by
  obtain ⟨b, rest, rfl⟩ := List.exists_cons_of_ne_nil hb
  obtain ⟨k, rfl⟩ : ∃ k, width = k + 1 := ⟨width - 1, by omega⟩
  rw [scan, always, h]
  rfl

theorem scan_of_pending (h : IsPending step bs) (place : Nat) :
    (scan (always step) () place bs).text = [] ∧ (scan (always step) () place bs).left = bs ∧
      (scan (always step) () place bs).isFault = false := by
  cases bs with
  | nil =>
    rw [scan]
    exact ⟨rfl, rfl, rfl⟩
  | cons b rest =>
    rcases h with h | ⟨firstAlone, reason, h⟩
    · cases h
    · rw [scan, always, h]
      exact ⟨rfl, rfl, rfl⟩

theorem scan_of_faulty (h : IsFaulty step bs) :
    (scan (always step) () place bs).isFault = true := by
  obtain ⟨hb, width, reason, h⟩ := h
  obtain ⟨b, rest, rfl⟩ := List.exists_cons_of_ne_nil hb
  rw [scan, always, h]

theorem Reads.scan (hs : IsSteady step) (h : Reads step bs t left) (place : Nat) :
    ∃ place', (scan (always step) () place bs).text =
        t ++ (scan (always step) () place' left).text ∧
      (scan (always step) () place bs).left = (scan (always step) () place' left).left ∧
      (scan (always step) () place bs).isFault =
        (scan (always step) () place' left).isFault := by
  induction h generalizing place with
  | done bs => exact ⟨place, rfl, rfl, rfl⟩
  | @text bs left t u width h _ ih =>
    have hw := hs.width h
    have hb : bs ≠ [] := by
      rintro rfl
      have hl : ([] : Bytes).length = 0 := rfl
      omega
    obtain ⟨place', ht, hl, hf⟩ := ih (place + width)
    refine ⟨place', ?_, ?_, ?_⟩
    · rw [scan_of_text h hw.1 hb, List.append_assoc, ← ht]
    · rw [scan_of_text h hw.1 hb, ← hl]
    · rw [scan_of_text h hw.1 hb, ← hf]

end Scan

/-- Bytes could not be read as text in some place. -/
def DecodeError.IsInvalid (e : DecodeError) : Prop :=
  ∃ codec bytes start stop reason, e = .invalid codec bytes start stop reason

section Piece

variable {final : Bool}

theorem readPiece_of_pending (hs : IsSteady step) (h : Reads step bs t left)
    (hp : IsPending step left) (hf : final = true → left = []) (codec : Text) (place : Nat) :
    readPiece codec (always step) () place bs final = .ok (t, left, ()) := by
  obtain ⟨place', ht, hl, hfault⟩ := h.scan hs place
  obtain ⟨ht', hl', hfault'⟩ := scan_of_pending hp place'
  rw [ht', List.append_nil] at ht
  rw [hl'] at hl
  rw [hfault'] at hfault
  have hc : (false || final && !left.isEmpty) = false := by
    cases final with
    | false => rfl
    | true =>
      rw [hf rfl]
      rfl
  simp only [readPiece, ht, hl, hfault, hc]
  rfl

/-- A piece is refused at the fault that is left, or at what is left at the end of all bytes. -/
theorem readPiece_of_refused {codec : Text} {place : Nat}
    (h : ((scan (always step) () place bs).isFault ||
      final && !(scan (always step) () place bs).left.isEmpty) = true) :
    ∃ e, DecodeError.IsInvalid e ∧ readPiece codec (always step) () place bs final = .error e := by
  let s := scan (always step) () place bs
  refine ⟨.invalid codec s.left s.consumed (s.consumed + s.width) s.reason, ⟨_, _, _, _, _, rfl⟩, ?_⟩
  rw [readPiece, if_pos h]

theorem readPiece_of_faulty (hs : IsSteady step) (h : Reads step bs t left)
    (hp : IsFaulty step left) (codec : Text) (place : Nat) (final : Bool) :
    ∃ e, DecodeError.IsInvalid e ∧ readPiece codec (always step) () place bs final = .error e := by
  obtain ⟨place', _, _, hfault⟩ := h.scan hs place
  rw [scan_of_faulty hp] at hfault
  refine readPiece_of_refused ?_
  rw [hfault, Bool.true_or]

theorem readPiece_of_unfinished (hs : IsSteady step) (h : Reads step bs t left)
    (hp : IsPending step left) (hn : left ≠ []) (codec : Text) (place : Nat) :
    ∃ e, DecodeError.IsInvalid e ∧ readPiece codec (always step) () place bs true = .error e := by
  obtain ⟨place', _, hl, _⟩ := h.scan hs place
  rw [(scan_of_pending hp _).2.1] at hl
  refine readPiece_of_refused ?_
  rw [hl, List.isEmpty_eq_false_iff.mpr hn]
  exact Bool.or_true _

end Piece

/-! ### All pieces -/

/-- The decoder of the scheme goes on with what it kept and stays in the scheme. -/
structure IsSteadyScheme (scheme : Scheme) (codec : Text) (step : Bytes → Step) : Prop where
  steady : IsSteady step
  feed (kept piece : Bytes) (final : Bool) :
    ({ scheme, kept } : Decoder).feed piece final =
      Decoder.continueWith scheme codec step 0 (kept ++ piece) final

/-- What has been handed on was read of whole pieces: of all of them, and then nothing is left, or of
those before a piece with a fault, or before the start of a character without an end. -/
structure HandsOn (step : Bytes → Step) (kept bs : Bytes) (d : Decoded) (n : Nat) (left : Bytes) :
    Prop where
  reads : Reads step (kept ++ bs.take (pieceSize * n)) d.text left
  pending : IsPending step left
  fault : ∀ e ∈ d.fault, e.IsInvalid
  whole : d.fault = none → left = [] ∧ bs.length ≤ pieceSize * n
  broken : d.fault ≠ none → left ≠ [] ∧ bs.length ≤ pieceSize * n ∨
    ∃ u bad, Reads step (kept ++ bs.take (pieceSize * (n + 1))) u bad ∧ IsFaulty step bad

variable {scheme : Scheme} {codec : Text}

theorem feed_of_pending (h : IsSteadyScheme scheme codec step) {kept piece : Bytes}
    (hr : Reads step (kept ++ piece) t left) (hp : IsPending step left) (final : Bool)
    (hf : final = true → left = []) :
    ({ scheme, kept } : Decoder).feed piece final = .ok (t, { scheme, kept := left }) := by
  rw [h.feed, Decoder.continueWith, readPiece_of_pending h.steady hr hp hf]
  rfl

theorem feed_of_error (h : IsSteadyScheme scheme codec step) {kept piece : Bytes} {final : Bool}
    (hr : ∃ e, DecodeError.IsInvalid e ∧
      readPiece codec (always step) () 0 (kept ++ piece) final = .error e) :
    ∃ e, DecodeError.IsInvalid e ∧ ({ scheme, kept } : Decoder).feed piece final = .error e := by
  obtain ⟨e, he, hr⟩ := hr
  refine ⟨e, he, ?_⟩
  rw [h.feed, Decoder.continueWith, hr]
  rfl

theorem readAll_nil (d : Decoder) :
    d.readAll [] = match d.feed [] true with
      | .ok (t, _) => ⟨t, none⟩
      | .error e => ⟨[], some e⟩ := by
  rw [Decoder.readAll, readPieces]
  cases d.feed [] true <;> rfl

theorem readAll_of_ne_nil (d : Decoder) (hb : bs ≠ []) :
    d.readAll bs = match d.feed (bs.take pieceSize) false with
      | .ok (t, d) => { d.readAll (bs.drop pieceSize) with
          text := t ++ (d.readAll (bs.drop pieceSize)).text }
      | .error e => ⟨[], some e⟩ := by
  obtain ⟨b, rest, rfl⟩ := List.exists_cons_of_ne_nil hb
  have htake : (b :: rest).take pieceSize = b :: rest.take (pieceSize - 1) := rfl
  have hdrop : (b :: rest).drop pieceSize = rest.drop (pieceSize - 1) := rfl
  rw [Decoder.readAll, readPieces, htake, hdrop]
  cases d.feed (b :: rest.take (pieceSize - 1)) false <;> rfl

section HandsOn

variable {kept : Bytes} {d : Decoded} {n : Nat}

/-- At the end of the bytes, the start of a character that was kept is a fault. -/
theorem exists_handsOn_nil (h : IsSteadyScheme scheme codec step) (hk : IsPending step kept) :
    ∃ n left, HandsOn step kept [] (({ scheme, kept } : Decoder).readAll []) n left := by
  have hr : Reads step (kept ++ []) [] kept := by
    rw [List.append_nil]
    exact .done kept
  rw [readAll_nil]
  refine ⟨0, kept, ?_⟩
  by_cases hke : kept = []
  · rw [feed_of_pending h hr hk true fun _ => hke]
    exact ⟨hr, hk, nofun, fun _ => ⟨hke, Nat.zero_le _⟩, fun hf => absurd rfl hf⟩
  · obtain ⟨e, he, hf⟩ := feed_of_error h (readPiece_of_unfinished h.steady hr hk hke codec 0)
    rw [hf]
    refine ⟨hr, hk, ?_, nofun, fun _ => Or.inl ⟨hke, Nat.zero_le _⟩⟩
    rintro e' ⟨⟩
    exact he

theorem take_succ_pieces (bs : Bytes) (k : Nat) :
    bs.take (pieceSize * (k + 1)) =
      bs.take pieceSize ++ (bs.drop pieceSize).take (pieceSize * k) := by
  rw [Nat.mul_succ, Nat.add_comm, List.take_add]

theorem HandsOn.cons (hs : IsSteady step) (hr : Reads step (kept ++ bs.take pieceSize) t left)
    {rest : Bytes} (hd : HandsOn step left (bs.drop pieceSize) d n rest) :
    HandsOn step kept bs { d with text := t ++ d.text } (n + 1) rest := by
  have hjoin : ∀ {k u l}, Reads step (left ++ (bs.drop pieceSize).take (pieceSize * k)) u l →
      Reads step (kept ++ bs.take (pieceSize * (k + 1))) (t ++ u) l := by
    intro k u l hu
    rw [take_succ_pieces, ← List.append_assoc]
    exact (hr.append hs _).trans hu
  have hlen : (bs.drop pieceSize).length ≤ pieceSize * n → bs.length ≤ pieceSize * (n + 1) := by
    intro hn
    rw [List.length_drop] at hn
    rw [Nat.mul_succ]
    omega
  refine ⟨hjoin hd.reads, hd.pending, hd.fault, ?_, ?_⟩
  · intro hf
    exact ⟨(hd.whole hf).1, hlen (hd.whole hf).2⟩
  · intro hf
    rcases hd.broken hf with ⟨hne, hle⟩ | ⟨u, bad, hu, hbad⟩
    · exact Or.inl ⟨hne, hlen hle⟩
    · exact Or.inr ⟨t ++ u, bad, hjoin hu, hbad⟩

theorem handsOn_of_faulty {e : DecodeError} (he : e.IsInvalid) (hk : IsPending step kept)
    (hr : Reads step (kept ++ bs.take pieceSize) t left) (hl : IsFaulty step left) :
    HandsOn step kept bs ⟨[], some e⟩ 0 kept := by
  refine ⟨?_, hk, ?_, nofun, fun _ => Or.inr ⟨t, left, ?_, hl⟩⟩
  · rw [Nat.mul_zero, List.take_zero, List.append_nil]
    exact .done kept
  · rintro e' ⟨⟩
    exact he
  · rwa [Nat.zero_add, Nat.mul_one]

end HandsOn

/-- A decoder that has kept the start of a character hands on what is read of some whole pieces. -/
theorem readAll_cases (h : IsSteadyScheme scheme codec step) (bs : Bytes) {kept : Bytes}
    (hk : IsPending step kept) :
    ∃ n left, HandsOn step kept bs (({ scheme, kept } : Decoder).readAll bs) n left := by
  induction hn : bs.length using Nat.strongRecOn generalizing bs kept with
  | ind m ih =>
    subst hn
    by_cases hb : bs = []
    · subst hb
      exact exists_handsOn_nil h hk
    · rw [readAll_of_ne_nil _ hb]
      obtain ⟨t, left, hr, hl | hl⟩ := exists_reads h.steady (kept ++ bs.take pieceSize)
      · rw [feed_of_pending h hr hl false nofun]
        have hlt : (bs.drop pieceSize).length < bs.length := by
          have hpos := List.length_pos_iff.mpr hb
          have hsz : pieceSize = 8192 := rfl
          rw [List.length_drop]
          omega
        -- what this piece ends in the middle of is kept for the rest
        obtain ⟨n, rest, hd⟩ := ih _ hlt (bs.drop pieceSize) hl rfl
        exact ⟨n + 1, rest, hd.cons h.steady hr⟩
      · obtain ⟨e, he, hf⟩ := feed_of_error h (readPiece_of_faulty h.steady hr hl codec 0 false)
        rw [hf]
        exact ⟨0, kept, handsOn_of_faulty he hk hr hl⟩

/-! ### What is handed on, by what the pieces hold -/

/-- What has been read of some pieces is read of more of them, and the others are left. -/
theorem Reads.take_of_le (hs : IsSteady step) {kept : Bytes} {m m' : Nat} (hm : m ≤ m')
    (h : Reads step (kept ++ bs.take m) t left) :
    ∃ more, Reads step (kept ++ bs.take m') t (left ++ more) := by
  have hcut : (bs.take m').take m = bs.take m := by rw [List.take_take, Nat.min_eq_left hm]
  have hjoin : kept ++ bs.take m ++ (bs.take m').drop m = kept ++ bs.take m' := by
    rw [List.append_assoc, ← hcut, List.take_append_drop]
  exact ⟨(bs.take m').drop m, hjoin ▸ h.append hs _⟩

/-- The same of as many bytes as there are, if the pieces cover them. -/
theorem Reads.take_of_reached (hs : IsSteady step) {kept : Bytes} {m m' : Nat}
    (hm : m ≤ m' ∨ bs.length ≤ m') (h : Reads step (kept ++ bs.take m) t left) :
    ∃ more, Reads step (kept ++ bs.take m') t (left ++ more) := by
  rcases hm with hm | hm
  · exact h.take_of_le hs hm
  · have hmax := h.take_of_le hs (Nat.le_max_left m m')
    rwa [List.take_of_length_le (Nat.le_trans hm (Nat.le_max_right m m')),
      ← List.take_of_length_le hm] at hmax

namespace HandsOn

variable {kept : Bytes} {d : Decoded} {n n₀ : Nat}

/-- If some pieces have no fault, their text is handed on. -/
theorem exists_append_of_pending (hs : IsSteady step) (hd : HandsOn step kept bs d n left)
    {k : Bytes} (hr : Reads step (kept ++ bs.take (pieceSize * n₀)) t k) (hk : IsPending step k) :
    ∃ u, d.text = t ++ u := by
  -- either the decoder came as far as these pieces, or there is nothing behind its own
  have key : pieceSize * n₀ ≤ pieceSize * n ∨ bs.length ≤ pieceSize * n → ∃ u, d.text = t ++ u := by
    intro hle
    obtain ⟨more, hr'⟩ := hr.take_of_reached hs hle
    obtain ⟨u, hu, _⟩ := hr'.exists_append hd.reads (hd.pending.isStuck hs)
    exact ⟨u, hu⟩
  cases hf : d.fault with
  | none => exact key (Or.inr (hd.whole hf).2)
  | some e =>
    have hne : d.fault ≠ none := by
      rw [hf]
      nofun
    rcases hd.broken hne with ⟨_, hle⟩ | ⟨u, bad, hu, hbad⟩
    · exact key (Or.inr hle)
    · by_cases hle : n₀ ≤ n
      · exact key (Or.inl (Nat.mul_le_mul_left _ hle))
      · have hlt : n + 1 ≤ n₀ := by omega
        obtain ⟨more, hu'⟩ := hu.take_of_le hs (Nat.mul_le_mul_left pieceSize hlt)
        have hbad' := hbad.append hs more
        obtain ⟨_, rfl⟩ := hr.unique (hk.isStuck hs) hu' hbad'.isStuck
        exact absurd hbad' hk.not_isFaulty

/-- If some pieces have a fault, the decoder does not come as far as their end, and reports it. -/
theorem lt_of_faulty (hs : IsSteady step) (hd : HandsOn step kept bs d n left) {bad : Bytes}
    (hr : Reads step (kept ++ bs.take (pieceSize * n₀)) t bad) (hbad : IsFaulty step bad) :
    d.fault ≠ none ∧ n < n₀ := by
  have key : ¬(pieceSize * n₀ ≤ pieceSize * n ∨ bs.length ≤ pieceSize * n) := by
    intro hle
    obtain ⟨more, hr'⟩ := hr.take_of_reached hs hle
    have hbad' := hbad.append hs more
    obtain ⟨_, rfl⟩ := hr'.unique hbad'.isStuck hd.reads (hd.pending.isStuck hs)
    exact hd.pending.not_isFaulty hbad'
  refine ⟨fun hf => key (Or.inr (hd.whole hf).2), Nat.lt_of_not_le fun hle => ?_⟩
  exact key (Or.inl (Nat.mul_le_mul_left _ hle))

theorem eq_of_reads (hs : IsSteady step) (hd : HandsOn step kept bs d n left)
    (hr : Reads step (kept ++ bs) t []) : d = ⟨t, none⟩ := by
  have hnil := IsStuck.nil hs
  have hwhole : bs.length ≤ pieceSize * n → d.text = t ∧ left = [] := by
    intro hle
    have hd' := hd.reads
    rw [List.take_of_length_le hle] at hd'
    exact hr.unique hnil hd' (hd.pending.isStuck hs)
  obtain ⟨text, fault⟩ := d
  cases fault with
  | none =>
    obtain ⟨rfl, _⟩ := hwhole (hd.whole rfl).2
    rfl
  | some e =>
    rcases hd.broken nofun with ⟨hne, hle⟩ | ⟨u, bad, hu, hbad⟩
    · exact absurd (hwhole hle).2 hne
    · obtain ⟨more, hu'⟩ := hu.take_of_reached hs (Or.inr (Nat.le_refl bs.length))
      rw [List.take_length] at hu'
      have hbad' := hbad.append hs more
      have := (hr.unique hnil hu' hbad'.isStuck).2
      exact absurd this hbad'.1

end HandsOn

/-! ### Bytes that are read to their end -/

/-- Characters that are read back one by one, whatever comes behind them, are read back in a row. -/
theorem reads_flatMap {write : Char → Bytes}
    (h : ∀ c rest, step (write c ++ rest) = .text [c] (write c).length) (t : Text) (rest : Bytes) :
    Reads step (t.flatMap write ++ rest) t rest := by
  induction t with
  | nil => exact .done rest
  | cons c t ih =>
    rw [List.flatMap_cons, List.append_assoc]
    refine .text (h c _) ?_
    rwa [List.drop_left]

theorem reads_whole_flatMap {write : Char → Bytes}
    (h : ∀ c rest, step (write c ++ rest) = .text [c] (write c).length) (t : Text) :
    Reads step (t.flatMap write) t [] := by
  have hr := reads_flatMap h t []
  rwa [List.append_nil] at hr

theorem readAll_of_reads (h : IsSteadyScheme scheme codec step) {kept : Bytes}
    (hk : IsPending step kept) (hr : Reads step (kept ++ bs) t []) :
    ({ scheme, kept } : Decoder).readAll bs = ⟨t, none⟩ := by
  obtain ⟨n, left, hd⟩ := readAll_cases h bs hk
  exact hd.eq_of_reads h.steady hr

/-- Bytes that can be read to their end can be read from anywhere in them. -/
theorem Reads.exists_cut (hs : IsSteady step) (h : Reads step bs t []) (n : Nat) :
    ∃ t₁ t₂ left, t = t₁ ++ t₂ ∧ Reads step (bs.take n) t₁ left ∧ IsPending step left ∧
      Reads step (left ++ bs.drop n) t₂ [] := by
  obtain ⟨t₁, left, hr, hl⟩ := exists_reads hs (bs.take n)
  have hwhole := hr.append hs (bs.drop n)
  rw [List.take_append_drop] at hwhole
  obtain ⟨t₂, rfl, hrest⟩ := hwhole.exists_append h (IsStuck.nil hs)
  refine ⟨t₁, t₂, left, rfl, hr, ?_, hrest⟩
  rcases hl with hl | hl
  · exact hl
  · have hbad := hl.append hs (bs.drop n)
    have hnil := (hrest.of_stuck hbad.isStuck).2
    exact absurd hnil.symm hbad.1

/-- A mark in front decides the scheme, and is no part of the text. -/
theorem readAll_behind_mark (h : IsSteadyScheme scheme codec step) {d : Decoder} (mark : Bytes)
    (hm : mark ≠ []) (hl : mark.length ≤ pieceSize)
    (hfeed : ∀ piece, ∃ codec place, d.feed (mark ++ piece) false =
      Decoder.continueWith scheme codec step place piece false)
    (hr : Reads step bs t []) : d.readAll (mark ++ bs) = ⟨t, none⟩ := by
  obtain ⟨t₁, t₂, left, rfl, hfirst, hpending, hrest⟩ :=
    hr.exists_cut h.steady (pieceSize - mark.length)
  have htake : (mark ++ bs).take pieceSize = mark ++ bs.take (pieceSize - mark.length) := by
    rw [List.take_append, List.take_of_length_le hl]
  have hdrop : (mark ++ bs).drop pieceSize = bs.drop (pieceSize - mark.length) := by
    rw [List.drop_append, List.drop_eq_nil_iff.mpr hl, List.nil_append]
  obtain ⟨codec', place, hmark⟩ := hfeed (bs.take (pieceSize - mark.length))
  have hfinal : false = true → left = [] := nofun
  have hpiece := readPiece_of_pending h.steady hfirst hpending hfinal codec' place
  have hok : d.feed (mark ++ bs.take (pieceSize - mark.length)) false =
      .ok (t₁, { scheme, kept := left }) := by
    rw [hmark, Decoder.continueWith, hpiece]
    rfl
  rw [readAll_of_ne_nil d (List.append_ne_nil_of_left_ne_nil hm bs), htake, hok, hdrop]
  simp only [readAll_of_reads h hpending hrest]

end GridRobot.Encoding
