import GridRobot.Proofs.Files.Reading

/-!
# What stands behind a sentinel in a file

Lines behind a sentinel are not looked at, but a file is decoded in whole pieces of
`Encoding.pieceSize` bytes, and a line is taken only after the piece that it ends in. So the bytes
behind the sentinel do not matter up to one thing: a fault among those of them that come in the same
piece as the end of the sentinel's line ends the run with an error.

Main statements: `readCommands_behind_sentinel`, and `not_forall_behind_sentinel` at the smallest
file with such a fault.
-/

namespace GridRobot

open Encoding (Bytes Decoded IsPending IsFaulty Reads Scheme pieceSize stepUtf8 utf8)
open Text (EndsLine IsUnbroken splitLines)

/-- A text that goes on with a line that ends the input. -/
def endedBySentinel (u : Text) : Text :=
  u ++ (sentinel ++ ['\n'])

/-- The number of pieces that the first `n` bytes are in. -/
def pieceCount (n : Nat) : Nat :=
  (n + pieceSize - 1) / pieceSize

/-- How many bytes come in the same piece as the last one of the first `n` bytes, behind it. -/
def readAhead (n : Nat) : Nat :=
  pieceSize * pieceCount n - n

/-- The bytes are those of some characters, but for the start of one more. -/
def BeginsText (bs : Bytes) : Prop :=
  ∃ t left, Reads stepUtf8 bs t left ∧ IsPending stepUtf8 left

theorem beginsText_utf8 (t : Text) : BeginsText (utf8 t) :=
  ⟨t, [], Encoding.reads_whole_utf8 t, IsPending.nil stepUtf8⟩

theorem not_beginsText_of_isFaulty {bs : Bytes} (h : IsFaulty stepUtf8 bs) : ¬BeginsText bs := by
  rintro ⟨t, left, hr, hp⟩
  obtain ⟨_, rfl⟩ := hr.of_stuck h.isStuck
  exact hp.not_isFaulty h

/-! ### The piece that the sentinel is in -/

section Piece

variable {x : Text} {later : Bytes}

theorem take_pieces (front later : Bytes) :
    (front ++ later).take (pieceSize * pieceCount front.length) =
      front ++ later.take (readAhead front.length) := by
  have hle : front.length ≤ pieceSize * pieceCount front.length := by
    unfold pieceCount pieceSize
    omega
  rw [List.take_append, List.take_of_length_le hle]
  rfl

theorem lt_of_lt_pieceCount {k n : Nat} (h : k < pieceCount n) : pieceSize * k < n := by
  unfold pieceCount at h
  unfold pieceSize at h ⊢
  omega

/-- Without a fault in its last piece, a written text is decoded. -/
theorem exists_text_of_beginsText (h : BeginsText (later.take (readAhead (utf8 x).length))) :
    ∃ v, (Scheme.utf8.decode (utf8 x ++ later)).text = x ++ v := by
  obtain ⟨t, left, hr, hp⟩ := h
  obtain ⟨n, rest, hd⟩ := Encoding.exists_handsOn (utf8 x ++ later)
  have hall := (Encoding.reads_utf8 x _).trans hr
  rw [← take_pieces] at hall
  obtain ⟨v, hv⟩ := hd.exists_append_of_pending Encoding.steady_stepUtf8 hall hp
  exact ⟨t ++ v, by rw [hv, List.append_assoc]⟩

/-- With a fault in its last piece, a written text is decoded up to an earlier piece. -/
theorem exists_text_of_not_beginsText
    (h : ¬BeginsText (later.take (readAhead (utf8 x).length))) :
    (Scheme.utf8.decode (utf8 x ++ later)).fault ≠ none ∧
      ∃ v, v ≠ [] ∧ x = (Scheme.utf8.decode (utf8 x ++ later)).text ++ v := by
  obtain ⟨t, bad, hr, hp⟩ :=
    Encoding.exists_reads Encoding.steady_stepUtf8 (later.take (readAhead (utf8 x).length))
  have hbad : IsFaulty stepUtf8 bad := hp.resolve_left fun hp => h ⟨t, bad, hr, hp⟩
  obtain ⟨n, left, hd⟩ := Encoding.exists_handsOn (utf8 x ++ later)
  have hall := (Encoding.reads_utf8 x _).trans hr
  rw [← take_pieces] at hall
  obtain ⟨hne, hn⟩ := hd.lt_of_faulty Encoding.steady_stepUtf8 hall hbad
  refine ⟨hne, ?_⟩
  have hlt := lt_of_lt_pieceCount hn
  -- what was decoded is read of the bytes of the text itself, and not of all of them
  have hdone := hd.reads
  rw [List.nil_append, List.take_append_of_le_length (Nat.le_of_lt hlt)] at hdone
  have hwhole := hdone.append Encoding.steady_stepUtf8 ((utf8 x).drop (pieceSize * n))
  rw [List.take_append_drop] at hwhole
  have hnil := Encoding.IsStuck.nil Encoding.steady_stepUtf8
  obtain ⟨v, hv, hrest⟩ := hwhole.exists_append (Encoding.reads_whole_utf8 x) hnil
  refine ⟨v, ?_, hv⟩
  intro hvn
  have hempty := (List.append_eq_nil_iff.mp (hrest.eq_of_text_nil hvn).symm).2
  have := List.drop_eq_nil_iff.mp hempty
  omega

end Piece

/-! ### The lines of the text -/

variable {u v : Text} {d : Decoded}

theorem stripLineEnd_sentinel : stripLineEnd sentinel = sentinel := rfl

theorem splitLines_endedBySentinel (hu : EndsLine u) (v : Text) :
    splitLines (endedBySentinel u ++ v) =
      (u.lines ++ sentinel :: (splitLines v).1, (splitLines v).2) := by
  have hline : splitLines (sentinel ++ ['\n'] ++ v) =
      (sentinel :: (splitLines v).1, (splitLines v).2) := rfl
  have hk : Text.KeepsEnds u (sentinel ++ ['\n'] ++ v) := by
    rintro _ ⟨⟩
  rw [endedBySentinel, List.append_assoc, Text.splitLines_append_of_whole hu.splitLines_snd hk,
    hline, hu.lines_eq]

/-- Once the line of the sentinel is decoded, it is among the lines that are seen. -/
theorem exists_lines_of_append (hu : EndsLine u) (hd : d.text = endedBySentinel u ++ v) :
    ∃ later, d.lines = u.lines ++ sentinel :: later := by
  unfold Decoded.lines
  rw [hd]
  cases d.fault with
  | none =>
    simp only [Text.lines, splitLines_endedBySentinel hu]
    split
    · exact ⟨_, rfl⟩
    · exact ⟨_, List.append_assoc ..⟩
  | some e =>
    obtain ⟨w, hw, hl⟩ := Text.linesSoFar_eq (endedBySentinel u ++ v)
    have hfront : ∃ v', w = endedBySentinel u ++ v' := by
      rcases hw with ⟨rfl, _⟩ | hw
      · exact ⟨v, rfl⟩
      · rcases List.eq_nil_or_concat v with rfl | ⟨v', c, rfl⟩
        · have := congrArg List.getLast? hw
          simp [endedBySentinel] at this
        · rw [List.concat_eq_append, ← List.append_assoc] at hw
          exact ⟨v', ((List.append_inj' hw rfl).1).symm⟩
    obtain ⟨v', rfl⟩ := hfront
    rw [hl, splitLines_endedBySentinel hu]
    exact ⟨_, rfl⟩

/-- Before its line is decoded to the end, the sentinel is not seen. -/
theorem linesSoFar_before_sentinel {t : Text} (hu : EndsLine u) (ht : endedBySentinel u = t ++ v)
    (hv : v ≠ []) : t.linesSoFar <+: u.lines := by
  obtain ⟨v', c, rfl⟩ := (List.eq_nil_or_concat v).resolve_left hv
  rw [List.concat_eq_append, ← List.append_assoc, endedBySentinel, ← List.append_assoc] at ht
  have hcut : u ++ sentinel = t ++ v' := (List.append_inj' ht rfl).1
  have hk : Text.KeepsEnds u sentinel := by
    rintro _ ⟨⟩
  have hstay := Text.linesSoFar_stay t v'
  have hs : splitLines sentinel = ([], sentinel) := rfl
  rwa [← hcut, Text.splitLines_append_of_whole hu.splitLines_snd hk, hs, List.append_nil,
    ← hu.lines_eq] at hstay

/-! ### Both files -/

variable {H : Host} {s s' : H.files.State} {path : LooseText} {later : Bytes}

/-- A file whose sentinel is decoded comes to the same as one that ends behind it. -/
theorem processDecoded_of_append (hu : EndsLine u) (hd : d.text = endedBySentinel u ++ v) :
    ({} : Run).processDecoded d = (Run.ofLines (u.lines ++ [sentinel]), none) := by
  obtain ⟨later, hl⟩ := exists_lines_of_append hu hd
  have hs := (takeCommands_append_sentinel stripLineEnd_sentinel u.lines later).2
  have hr : Run.ofLines (u.lines ++ sentinel :: later) = Run.ofLines (u.lines ++ [sentinel]) :=
    Run.processCommands_append_sentinel stripLineEnd_sentinel {} u.lines later
  rw [processDecoded_eq, Decoded.faultSeen, hl, if_pos hs, hr]

theorem processDecoded_endedBySentinel (hu : EndsLine u) :
    ({} : Run).processDecoded ⟨endedBySentinel u, none⟩ =
      (Run.ofLines (u.lines ++ [sentinel]), none) :=
  processDecoded_of_append hu (List.append_nil _).symm

/-- Apart from the files themselves, what is reported does not depend on them. -/
theorem ofReading_files {State : Type} (s s' : State) (path : LooseText) (x : Run × Option Encoding.DecodeError) :
    FileOutcome.ofReading s' path x = { FileOutcome.ofReading s path x with files := s' } := by
  unfold FileOutcome.ofReading
  split <;> rfl

theorem ledger_ofLines_sentinel (lines : List Text) :
    (Run.ofLines (lines ++ [sentinel])).ledger = (Run.ofLines lines).ledger := by
  have hc := (takeCommands_append_sentinel stripLineEnd_sentinel lines []).1
  have hs : scriptOfLines (lines ++ [sentinel]) = scriptOfLines lines := by
    rw [scriptOfLines, scriptOfLines, hc]
  rw [Run.ofLines, Run.ofLines, Run.ledger_processCommands_eq_play,
    Run.ledger_processCommands_eq_play, hs]

/-- Bytes with a fault in the piece of the sentinel end the run before the sentinel is seen. -/
theorem exists_error_of_not_beginsText (hu : EndsLine u) (hq : sentinel ∉ u.lines)
    (hl : totalLength u.lines < 10 ^ 4298)
    (hr : H.files.readPath s path = .ok (utf8 (endedBySentinel u) ++ later))
    (h : ¬BeginsText (later.take (readAhead (utf8 (endedBySentinel u)).length))) :
    ∃ reason, (H.readCommands s path Settings.default.encoding).result =
      .error (.commandFile path reason) := by
  obtain ⟨hne, v, hv, ht⟩ := exists_text_of_not_beginsText h
  have hread := readCommands_of_room hr rfl
  generalize Scheme.utf8.decode (utf8 (endedBySentinel u) ++ later) = d at hne ht hread
  obtain ⟨e, he⟩ := Option.ne_none_iff_exists'.mp hne
  have hlines : d.lines = d.text.linesSoFar := by rw [Decoded.lines, he]
  have hpre : d.lines <+: u.lines := hlines ▸ linesSoFar_before_sentinel hu ht hv
  have hstop : (takeCommands d.lines).stopped = false := by
    refine stopped_takeCommands_of_ne fun line hline hs => ?_
    have hub := isUnbroken_of_mem_decodedLines hline
    rw [stripLineEnd_of_not_mem hub.1 hub.2] at hs
    exact hq (hs ▸ hpre.subset hline)
  have hseen : d.faultSeen = some e := by
    rw [Decoded.faultSeen, hstop, he]
    rfl
  have hroom : totalLength d.lines < 10 ^ 4298 := by
    refine Nat.lt_of_le_of_lt ?_ hl
    obtain ⟨more, hmore⟩ := hpre
    rw [← hmore, totalLength_append]
    exact Nat.le_add_right _ _
  refine ⟨e.message.loose, ?_⟩
  rw [hread hroom, hseen]

theorem result_of_endedBySentinel (hu : EndsLine u) (hl : totalLength u.lines < 10 ^ 4298)
    (hr : H.files.readPath s path = .ok (utf8 (endedBySentinel u))) :
    (H.readCommands s path Settings.default.encoding).result =
      .ok (Run.ofLines u.lines).log.toList := by
  have hledger := ledger_ofLines_sentinel u.lines
  have hlog : (Run.ofLines (u.lines ++ [sentinel])).log.toList = (Run.ofLines u.lines).log.toList :=
    congrArg Ledger.log hledger
  have hfault : (Run.ofLines (u.lines ++ [sentinel])).fault = none :=
    (congrArg Ledger.fault hledger).trans (Run.fault_ofLines hl)
  rw [readCommands_of_ok hr, Encoding.decode_encode_utf8, processDecoded_endedBySentinel hu,
    FileOutcome.ofReading, hfault, ← hlog]

/-- Without a fault in the piece of the sentinel, the bytes behind its line make no difference. -/
theorem outcome_of_beginsText (hu : EndsLine u)
    (hr : H.files.readPath s path = .ok (utf8 (endedBySentinel u)))
    (hr' : H.files.readPath s' path = .ok (utf8 (endedBySentinel u) ++ later))
    (h : BeginsText (later.take (readAhead (utf8 (endedBySentinel u)).length))) :
    H.readCommands s' path Settings.default.encoding =
      { H.readCommands s path Settings.default.encoding with files := s' } := by
  obtain ⟨v, hv⟩ := exists_text_of_beginsText h
  rw [readCommands_of_ok hr, readCommands_of_ok hr', Encoding.decode_encode_utf8,
    processDecoded_endedBySentinel hu, processDecoded_of_append hu hv, ofReading_files s s']

/-- The bytes behind the sentinel's line make no difference if there is no fault among those that
come in the same piece as its end. If there is one, the file is refused, unless an earlier line is a
sentinel. Without those bytes, the run ends at the sentinel. -/
theorem readCommands_behind_sentinel (hu : EndsLine u)
    (hr : H.files.readPath s path = .ok (utf8 (endedBySentinel u)))
    (hr' : H.files.readPath s' path = .ok (utf8 (endedBySentinel u) ++ later)) :
    (totalLength u.lines < 10 ^ 4298 →
      (H.readCommands s path Settings.default.encoding).result =
        .ok (Run.ofLines u.lines).log.toList) ∧
    (BeginsText (later.take (readAhead (utf8 (endedBySentinel u)).length)) →
      (H.readCommands s' path Settings.default.encoding).result =
          (H.readCommands s path Settings.default.encoding).result ∧
        (H.readCommands s' path Settings.default.encoding).notes =
          (H.readCommands s path Settings.default.encoding).notes) ∧
    (¬BeginsText (later.take (readAhead (utf8 (endedBySentinel u)).length)) →
      sentinel ∉ u.lines → totalLength u.lines < 10 ^ 4298 →
        ∃ reason, (H.readCommands s' path Settings.default.encoding).result =
          .error (.commandFile path reason)) := by
  refine ⟨fun hl => result_of_endedBySentinel hu hl hr, ?_, ?_⟩
  · intro hb
    rw [outcome_of_beginsText hu hr hr' hb]
    exact ⟨rfl, rfl⟩
  · intro hb hq hl
    exact exists_error_of_not_beginsText hu hq hl hr' hb

section Lone

theorem endsLine_nil : EndsLine [] := by
  rintro _ ⟨⟩

theorem totalLength_lines_nil_lt : totalLength (Text.lines []) < 10 ^ 4298 := by
  decide +kernel

theorem readAhead_lone : readAhead (utf8 (endedBySentinel [])).length = 8190 := rfl

theorem not_beginsText_lone :
    ¬BeginsText (List.take (readAhead (utf8 (endedBySentinel [])).length) [0xFF]) := by
  rw [readAhead_lone]
  exact not_beginsText_of_isFaulty ⟨List.cons_ne_nil _ _, 1, _, rfl⟩

/-- A sentinel alone, with one more line behind it, and with one byte that is no character. -/
theorem readCommands_behind_lone_sentinel :
    let outcome (bs : Bytes) :=
      (sampleHost.readCommands (oneFile bs) [.char 'c'] Settings.default.encoding).result
    outcome (utf8 "Q\n".toList) = .ok (Run.ofLines []).log.toList ∧
      outcome (utf8 "Q\n".toList ++ utf8 "N 1".toList) = outcome (utf8 "Q\n".toList) ∧
      ∃ reason, outcome (utf8 "Q\n".toList ++ [0xFF]) = .error (.commandFile [.char 'c'] reason) := by
  have hr := readPath_oneFile (utf8 (endedBySentinel []))
  have hline := readPath_oneFile (utf8 (endedBySentinel []) ++ utf8 "N 1".toList)
  have hbyte := readPath_oneFile (utf8 (endedBySentinel []) ++ [0xFF])
  obtain ⟨hlog, hsame, _⟩ := readCommands_behind_sentinel endsLine_nil hr hline
  obtain ⟨_, _, herror⟩ := readCommands_behind_sentinel endsLine_nil hr hbyte
  have htext : (utf8 "N 1".toList).take 8190 = utf8 "N 1".toList :=
    List.take_of_length_le (by decide)
  rw [readAhead_lone, htext] at hsame
  exact ⟨hlog totalLength_lines_nil_lt, (hsame (beginsText_utf8 _)).1,
    herror not_beginsText_lone (by decide) totalLength_lines_nil_lt⟩

/-- What stands behind a sentinel can make a difference. -/
theorem not_forall_behind_sentinel :
    ¬∀ (H : Host) (u : Text) (later : Bytes) (s s' : H.files.State) (path : LooseText),
      EndsLine u → H.files.readPath s path = .ok (utf8 (endedBySentinel u)) →
      H.files.readPath s' path = .ok (utf8 (endedBySentinel u) ++ later) →
      (H.readCommands s' path Settings.default.encoding).result =
        (H.readCommands s path Settings.default.encoding).result := by
  intro h
  have hr := readPath_oneFile (utf8 (endedBySentinel []))
  have hr' := readPath_oneFile (utf8 (endedBySentinel []) ++ [0xFF])
  have hsame := h _ [] [0xFF] _ _ _ endsLine_nil hr hr'
  obtain ⟨reason, herror⟩ := exists_error_of_not_beginsText endsLine_nil (by decide)
    totalLength_lines_nil_lt hr' not_beginsText_lone
  rw [herror, result_of_endedBySentinel endsLine_nil totalLength_lines_nil_lt hr] at hsame
  cases hsame

end Lone

end GridRobot
