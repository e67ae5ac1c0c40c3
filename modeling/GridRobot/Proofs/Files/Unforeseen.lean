import GridRobot.CommandLine.Call
import GridRobot.CommandLine.Console
import GridRobot.Proofs.Encoding.Faults
import GridRobot.Proofs.Files.Writing
import GridRobot.Proofs.Settings.Accepted

/-!
# Files that cannot be read

A file of commands that cannot be opened, or whose bytes are no text in some place, is reported with
its path. There is more that can go wrong: a path may have no bytes, and accepted settings can name
an encoding that is not for text, or one that finds faults without a place. These errors are not
foreseen, and are not reported.

Main statements: `readCommands_ends` says how reading ends, in any encoding that settings can name,
and `not_forall_reported` that it does not always end with a log or a report.
-/

namespace GridRobot

open CommandLine (Task Terminal failed shownNotes)
open Encoding (Bytes Codec DecodeError EncodeError OtherCodec lookup lookupText)

/-- How the reading of the commands of a file ends. The last four ends are not foreseen. -/
inductive ReadingEnds (H : Host) (s : H.files.State) (path : LooseText) (encoding : Text) :
    Except Error (List Entry) → Prop where
  | unopened {e : OpenError} (hr : H.files.readPath s path = .error (.refused e)) :
    ReadingEnds H s path encoding (.error (.commandFile path (e.message path).loose))
  | log {bytes : Bytes} {codec : Codec} (hr : H.files.readPath s path = .ok bytes)
      (hs : lookupText H.locale encoding = .ok codec)
      (hf : (codec.decode H.codecs bytes).faultSeen = none) :
    ReadingEnds H s path encoding
      (.ok (Run.ofLines (codec.decode H.codecs bytes).lines).log.toList)
  | undecodable {bytes : Bytes} {codec : Codec} {e : DecodeError}
      (hr : H.files.readPath s path = .ok bytes) (hs : lookupText H.locale encoding = .ok codec)
      (hf : (codec.decode H.codecs bytes).faultSeen = some e) (he : e.IsInvalid) :
    ReadingEnds H s path encoding (.error (.commandFile path e.message.loose))
  | unencodable {e : EncodeError} (he : H.files.encodePath path = .error e) :
    ReadingEnds H s path encoding (.error (.encode e))
  | unplaced {bytes : Bytes} {codec : Codec} {e : DecodeError}
      (hr : H.files.readPath s path = .ok bytes) (hs : lookupText H.locale encoding = .ok codec)
      (hf : (codec.decode H.codecs bytes).faultSeen = some e) (he : codec.Unplaced e) :
    ReadingEnds H s path encoding (.error (.decode e))
  | notText {bytes : Bytes} (hr : H.files.readPath s path = .ok bytes)
      (hs : lookup encoding = .ok none) :
    ReadingEnds H s path encoding (.error (.encoding (.notText encoding)))
  | overrun {bytes : Bytes} {other : OtherCodec} {f : Fault}
      (hr : H.files.readPath s path = .ok bytes)
      (hs : lookupText H.locale encoding = .ok (.other other))
      (hl : 10 ^ 4298 ≤ (H.codecs.decode other bytes).text.length)
      (hf : (Run.ofLines (H.codecs.decode other bytes).lines).fault = some f) :
    ReadingEnds H s path encoding (.error (.fault f))

variable {H : Host} {T : Terminal H.files.State} {s : H.files.State} {path : LooseText}
  {encoding : Text} {bytes : Bytes} {codec : Codec}

theorem ofReading_of_isInvalid {r : Run} {e : DecodeError} (hf : r.fault = none)
    (he : e.IsInvalid) :
    FileOutcome.ofReading s path (r, some e) =
      ⟨s, r.notes, .error (.commandFile path e.message.loose)⟩ := by
  obtain ⟨codec, bs, start, stop, reason, rfl⟩ := he
  simp only [FileOutcome.ofReading, hf]

theorem ofReading_of_not_isInvalid {r : Run} {e : DecodeError} (hf : r.fault = none)
    (he : ¬e.IsInvalid) :
    FileOutcome.ofReading s path (r, some e) = ⟨s, r.notes, .error (.decode e)⟩ := by
  unfold FileOutcome.ofReading
  simp only [hf]
  split
  · next h => cases h
  · next h =>
    cases h
    exact absurd ⟨_, _, _, _, _, rfl⟩ he
  · next h =>
    cases h
    rfl
  · next h => cases h

theorem readingEnds_of_codec (he : '\x00' ∉ encoding) (hr : H.files.readPath s path = .ok bytes)
    (hs : lookupText H.locale encoding = .ok codec) (hsound : codec.IsSound)
    (hl : bytes.length < 10 ^ 4298) :
    ReadingEnds H s path encoding (H.readCommands s path encoding).result := by
  rw [readCommands_of_codec he hr hs, processDecoded_eq]
  cases hf : (Run.ofLines (codec.decode H.codecs bytes).lines).fault with
  | some f =>
    have hlines := totalLength_lines_le (codec.decode H.codecs bytes)
    have hlong : 10 ^ 4298 ≤ totalLength (codec.decode H.codecs bytes).lines := by
      by_contra hroom
      rw [Run.fault_ofLines (Nat.lt_of_not_le hroom)] at hf
      cases hf
    obtain ⟨other, rfl⟩ := Codec.exists_other_of_length_lt hsound
      (Nat.lt_of_lt_of_le hl (Nat.le_trans hlong hlines))
    simp only [FileOutcome.ofReading, hf]
    exact .overrun hr hs (Nat.le_trans hlong hlines) hf
  | none =>
    cases hseen : (codec.decode H.codecs bytes).faultSeen with
    | none =>
      simp only [FileOutcome.ofReading, hf]
      exact .log hr hs hseen
    | some e =>
      rcases Codec.fault_decode hsound (fault_of_faultSeen hseen) with hplace | hplace
      · rw [ofReading_of_isInvalid hf hplace]
        exact .undecodable hr hs hseen hplace
      · rw [ofReading_of_not_isInvalid hf hplace.not_isInvalid]
        exact .unplaced hr hs hseen hplace

/-- What a run from file to file reports of commands that were not read. -/
theorem perform_run_of_error {settings : Settings} {e : Error} (output : LooseText)
    (h : (H.readCommands s path settings.encoding).result = .error e) :
    ∃ messages, (Task.run path output).perform H T s settings = failed H T s messages e := by
  obtain ⟨hresult, hfiles⟩ := processFile_of_error output h
  refine ⟨shownNotes settings.level (H.processFile s path output settings).notes, ?_⟩
  rw [Task.perform]
  simp only [hresult, hfiles]

/-- Reading in the encoding of accepted settings ends in one of seven ways. The program ends with a
report where a file is to blame, and only there. -/
theorem readCommands_ends {room : Nat} {values : List (Value × Value)} {settings : Settings}
    (hm : Settings.ofMapping room values = .ok settings) (hp : .char '\x00' ∉ path)
    (hl : ∀ bytes, H.files.readPath s path = .ok bytes → bytes.length < 10 ^ 4298) :
    ReadingEnds H s path settings.encoding (H.readCommands s path settings.encoding).result ∧
    (∀ output reason,
      (H.readCommands s path settings.encoding).result = .error (.commandFile path reason) →
      ∃ messages, (Task.run path output).perform H T s settings =
        ⟨s, [], messages ++ T.echo (Text.loose "Error: ".toList ++
          Error.commandFileMessage path reason), .ok 1⟩) ∧
    ∀ output e, (H.readCommands s path settings.encoding).result = .error e →
      e.isReported = false →
      ∃ messages, (Task.run path output).perform H T s settings =
        ⟨s, [], messages, .error e⟩ := by
  obtain ⟨codec?, hs⟩ := Settings.exists_lookup_of_ofMapping hm
  have hnull := Encoding.null_not_mem_of_lookup hs
  refine ⟨?_, ?_, ?_⟩
  · rcases FileSystem.readPath_cases hp s with ⟨bytes, hr⟩ | ⟨e, hr⟩ | ⟨e, he, hr⟩
    · have htext := Encoding.lookupText_of_lookup hs H.locale
      cases codec? with
      | some codec =>
        exact readingEnds_of_codec hnull hr htext (Encoding.isSound_of_lookup hs) (hl bytes hr)
      | none =>
        -- the registry knows the encoding, but no file is opened with it
        rw [readCommands_of_nameError hnull hr htext]
        exact .notText hr hs
    · rw [readCommands_of_pathError hnull hr]
      exact .unopened hr
    · rw [readCommands_of_pathError hnull hr]
      exact .unencodable he
  · intro output reason h
    obtain ⟨messages, hrun⟩ := perform_run_of_error (T := T) output h
    exact ⟨messages, hrun⟩
  · intro output e h he
    obtain ⟨messages, hrun⟩ := perform_run_of_error (T := T) output h
    refine ⟨messages, ?_⟩
    rw [hrun, failed, he]
    rfl

section Unmarked

/-- Settings with an encoding whose bytes begin with a mark of their order. -/
def markedValues : List (Value × Value) :=
  [(.text Settings.encodingKey.loose, .text (Text.loose "utf-16".toList))]

def markedSettings : Settings :=
  ⟨"utf-16".toList, .warning⟩

theorem ofMapping_markedValues (room : Nat) :
    Settings.ofMapping room markedValues = .ok markedSettings :=
  Settings.ofMapping_of_encoding rfl rfl (by decide +kernel) room

/-- A command in words of two bytes, without the mark. -/
def unmarked : Bytes :=
  [0x4E, 0, 0x20, 0, 0x35, 0]

theorem length_unmarked_lt (bytes : Bytes)
    (h : sampleHost.files.readPath (oneFile unmarked) [.char 'c'] = .ok bytes) :
    bytes.length < 10 ^ 4298 := by
  rw [readPath_oneFile] at h
  obtain rfl := Except.ok.inj h
  decide +kernel

theorem result_of_unmarked :
    (sampleHost.readCommands (oneFile unmarked) [.char 'c'] markedSettings.encoding).result =
      .error (.decode (.noByteOrderMark 16)) := by
  decide +kernel

/-- Without a mark, neither a log nor a report comes of a file. -/
theorem readCommands_ends_of_unmarked :
    ReadingEnds sampleHost (oneFile unmarked) [.char 'c'] markedSettings.encoding
      (.error (.decode (.noByteOrderMark 16))) ∧
    ∃ messages, (Task.run [.char 'c'] [.char 'o']).perform sampleHost CommandLine.console
        (oneFile unmarked) markedSettings =
      ⟨oneFile unmarked, [], messages, .error (.decode (.noByteOrderMark 16))⟩ := by
  obtain ⟨hends, _, hrun⟩ := readCommands_ends (T := CommandLine.console)
    (ofMapping_markedValues 0) (by decide) length_unmarked_lt
  rw [result_of_unmarked] at hends
  exact ⟨hends, hrun [.char 'o'] _ result_of_unmarked rfl⟩

theorem not_forall_reported :
    ¬∀ (H : Host) (values : List (Value × Value)) (settings : Settings) (s : H.files.State)
      (path : LooseText), Settings.ofMapping H.room values = .ok settings →
      .char '\x00' ∉ path →
      (∀ bytes, H.files.readPath s path = .ok bytes → bytes.length < 10 ^ 4298) →
      (∃ log, (H.readCommands s path settings.encoding).result = .ok log) ∨
        ∃ reason, (H.readCommands s path settings.encoding).result =
          .error (.commandFile path reason) := by
  intro h
  rcases h sampleHost markedValues markedSettings (oneFile unmarked) [.char 'c']
    (ofMapping_markedValues _) (by decide) length_unmarked_lt with ⟨log, hlog⟩ | ⟨reason, herror⟩
  · rw [result_of_unmarked] at hlog
    cases hlog
  · rw [result_of_unmarked] at herror
    cases herror

end Unmarked

end GridRobot
