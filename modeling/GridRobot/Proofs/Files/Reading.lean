import GridRobot.Files.Run
import GridRobot.Files.Store
import GridRobot.Encoding.Special
import GridRobot.Proofs.Encoding.Utf8
import GridRobot.Proofs.Run.Lines
import GridRobot.Proofs.Text.Lines

/-!
# Commands from a file

A file is read in pieces while its commands are settled. With the default encoding, all that this
comes to can be said without the pieces: the lines that are seen are those of the text that was
decoded, up to its fault if it has one, and they are settled as lines from anywhere else.

Main statement: a file whose lines have one and the same end, whichever of the three, is settled as
its lines are settled in memory (`readCommands_of_holdsLines`).
-/

namespace GridRobot

open Encoding (Bytes Codec Decoded DecodeError NameError Scheme lookupText utf8)
open Text (HoldsLines IsLineEnd IsUnbroken)

/-! ### The lines that are seen -/

/-- The lines of a decoded text. Before a fault, only a line whose end was seen counts. -/
def Encoding.Decoded.lines (d : Decoded) : List Text :=
  match d.fault with
  | none => d.text.lines
  | some _ => d.text.linesSoFar

theorem totalLength_eq_length_flatten (ts : List Text) : totalLength ts = ts.flatten.length := by
  induction ts with
  | nil => rfl
  | cons t ts ih => rw [totalLength, ih, List.flatten_cons, List.length_append]

theorem flatten_decodedLines_sublist (d : Decoded) : d.lines.flatten.Sublist d.text := by
  unfold Decoded.lines
  cases d.fault with
  | none => exact Text.flatten_lines_sublist d.text
  | some e => exact Text.flatten_linesSoFar_sublist d.text

theorem totalLength_lines_le (d : Decoded) : totalLength d.lines ≤ d.text.length := by
  rw [totalLength_eq_length_flatten]
  exact (flatten_decodedLines_sublist d).length_le

theorem isUnbroken_of_mem_decodedLines {d : Decoded} {line : Text} (h : line ∈ d.lines) :
    IsUnbroken line := by
  unfold Decoded.lines at h
  cases hf : d.fault with
  | none =>
    rw [hf] at h
    exact Text.isUnbroken_of_mem_lines h
  | some e =>
    rw [hf] at h
    exact Text.isUnbroken_of_mem_linesSoFar h

/-! ### Reading in any encoding -/

variable {H : Host} {s : H.files.State} {path : LooseText} {bytes : Bytes} {d : Decoded}

/-- What is reported of a run over the lines of a file, and of the fault that was met. -/
def FileOutcome.ofReading {State : Type} (s : State) (path : LooseText)
    (x : Run × Option DecodeError) : FileOutcome State (List Entry) :=
  match x.1.fault, x.2 with
  | some f, _ => ⟨s, x.1.notes, .error (.fault f)⟩
  | none, some (.invalid codec bytes start stop reason) =>
    let e : DecodeError := .invalid codec bytes start stop reason
    ⟨s, x.1.notes, .error (.commandFile path e.message.loose)⟩
  | none, some e => ⟨s, x.1.notes, .error (.decode e)⟩
  | none, none => ⟨s, x.1.notes, .ok x.1.log.toList⟩

theorem files_readCommands (s : H.files.State) (path : LooseText) (encoding : Text) :
    (H.readCommands s path encoding).files = s := by
  unfold Host.readCommands
  split
  · rfl
  · split
    split <;> rfl

section Encoding

variable {encoding : Text} (he : '\x00' ∉ encoding)

include he

theorem readCommands_of_pathError {e : PathError} (hr : H.files.readPath s path = .error e) :
    H.readCommands s path encoding = ⟨s, #[], .error (e.commandFile path)⟩ := by
  have hopen : H.openCommands s path encoding = .error (e.commandFile path) := by
    simp only [Host.openCommands, if_neg he, hr]
    rfl
  rw [Host.readCommands, hopen]

theorem readCommands_of_nameError {e : NameError} (hr : H.files.readPath s path = .ok bytes)
    (hs : lookupText H.locale encoding = .error e) :
    H.readCommands s path encoding = ⟨s, #[], .error (.encoding e)⟩ := by
  have hopen : H.openCommands s path encoding = .error (.encoding e) := by
    simp only [Host.openCommands, if_neg he, hr, hs]
    rfl
  rw [Host.readCommands, hopen]

theorem readCommands_of_codec {codec : Codec} (hr : H.files.readPath s path = .ok bytes)
    (hs : lookupText H.locale encoding = .ok codec) :
    H.readCommands s path encoding =
      .ofReading s path (({} : Run).processDecoded (codec.decode H.codecs bytes)) := by
  have hopen : H.openCommands s path encoding = .ok (codec, bytes) := by
    simp only [Host.openCommands, if_neg he, hr, hs]
    rfl
  rw [Host.readCommands, hopen]
  rfl

/-- A log comes of the lines of a file that could be opened in the encoding. -/
theorem exists_of_readCommands_ok {log : List Entry}
    (h : (H.readCommands s path encoding).result = .ok log) :
    ∃ bytes codec, H.files.readPath s path = .ok bytes ∧
      lookupText H.locale encoding = .ok codec ∧
      (({} : Run).processDecoded (codec.decode H.codecs bytes)).1.log.toList = log := by
  cases hr : H.files.readPath s path with
  | error e =>
    rw [readCommands_of_pathError he hr] at h
    cases h
  | ok bytes =>
    cases hs : lookupText H.locale encoding with
    | error e =>
      rw [readCommands_of_nameError he hr hs] at h
      cases h
    | ok codec =>
      refine ⟨bytes, codec, rfl, rfl, ?_⟩
      rw [readCommands_of_codec he hr hs, FileOutcome.ofReading] at h
      split at h
      · cases h
      · cases h
      · cases h
      · exact Except.ok.inj h

end Encoding

/-! ### Reading with the default encoding -/

theorem null_not_mem_default : '\x00' ∉ Settings.default.encoding := by
  decide

theorem lookup_default : Encoding.lookup Settings.default.encoding = .ok (some (.scheme .utf8)) := by
  have h : ((Encoding.find? Settings.default.encoding).any fun e =>
      e.codec?.any fun c => c matches .scheme .utf8) = true := by
    decide +kernel
  obtain ⟨e, hf, he⟩ := (Option.any_eq_true _ _).mp h
  obtain ⟨c, hc, hutf8⟩ := (Option.any_eq_true _ _).mp he
  rw [Encoding.lookup, if_neg null_not_mem_default, hf]
  split at hutf8
  · exact congrArg Except.ok hc
  · cases hutf8

theorem lookupText_default (locale : Scheme) :
    lookupText locale Settings.default.encoding = .ok (.scheme .utf8) := by
  have hd : Settings.default.encoding ≠ Encoding.localeName := by decide
  simp only [lookupText, if_neg hd, lookup_default]
  rfl

theorem readCommands_of_ok (hr : H.files.readPath s path = .ok bytes) :
    H.readCommands s path Settings.default.encoding =
      .ofReading s path (({} : Run).processDecoded (Scheme.utf8.decode bytes)) :=
  readCommands_of_codec null_not_mem_default hr (lookupText_default H.locale)

/-- A fault counts unless a sentinel comes before it. -/
def Encoding.Decoded.faultSeen (d : Decoded) : Option DecodeError :=
  if (takeCommands d.lines).stopped then none else d.fault

theorem processDecoded_eq (d : Decoded) :
    ({} : Run).processDecoded d = (Run.ofLines d.lines, d.faultSeen) := by
  unfold Run.processDecoded Run.ofLines Decoded.faultSeen Decoded.lines
  cases hf : d.fault with
  | none => simp
  | some e => simp

theorem fault_of_faultSeen {e : DecodeError} (h : d.faultSeen = some e) : d.fault = some e := by
  unfold Decoded.faultSeen at h
  split at h
  · cases h
  · exact h

theorem isInvalid_of_decode {e : DecodeError} (h : (Scheme.utf8.decode bytes).fault = some e) :
    e.IsInvalid := by
  obtain ⟨n, left, hd⟩ := Encoding.exists_handsOn bytes
  exact hd.fault e h

/-- With room for the moves, reading ends with the log of the lines or at a fault of the bytes. -/
theorem readCommands_of_room (hr : H.files.readPath s path = .ok bytes)
    (hd : Scheme.utf8.decode bytes = d) (hl : totalLength d.lines < 10 ^ 4298) :
    H.readCommands s path Settings.default.encoding =
      ⟨s, (Run.ofLines d.lines).notes,
        match d.faultSeen with
        | none => .ok (Run.ofLines d.lines).log.toList
        | some e => .error (.commandFile path e.message.loose)⟩ := by
  rw [readCommands_of_ok hr, hd, processDecoded_eq, FileOutcome.ofReading, Run.fault_ofLines hl]
  cases hf : d.faultSeen with
  | none => rfl
  | some e =>
    have hfault : (Scheme.utf8.decode bytes).fault = some e := by
      rw [hd]
      exact fault_of_faultSeen hf
    obtain ⟨_, _, _, _, _, rfl⟩ := isInvalid_of_decode hfault
    rfl

theorem totalLength_lines_decode_le (bytes : Bytes) :
    totalLength (Scheme.utf8.decode bytes).lines ≤ bytes.length := by
  obtain ⟨n, left, hd⟩ := Encoding.exists_handsOn bytes
  have hle := hd.reads.length_le Encoding.steady_stepUtf8
  have htake : (bytes.take (Encoding.pieceSize * n)).length ≤ bytes.length :=
    List.length_take_le' _ _
  have hlines := totalLength_lines_le (Scheme.utf8.decode bytes)
  rw [List.nil_append] at hle
  omega

/-! ### Files made of lines -/

/-- A file of lines with one and the same end is settled as the lines are: up to the first sentinel,
with nothing but the line ends taken away, and without a fault. -/
theorem readCommands_of_holdsLines {e text : Text} {commands : List Text}
    (hc : ∀ c ∈ commands, IsUnbroken c) (he : IsLineEnd e) (ht : HoldsLines e commands text)
    (hr : H.files.readPath s path = .ok (utf8 text)) (hl : totalLength commands < 10 ^ 4298) :
    H.readCommands s path Settings.default.encoding =
        ⟨s, (Run.ofLines commands).notes, .ok (Run.ofLines commands).log.toList⟩ ∧
      (Run.ofLines commands).fault = none := by
  have hd := Encoding.decode_encode_utf8 text
  have hlines : (⟨text, none⟩ : Decoded).lines = commands := Text.lines_of_holdsLines ht hc he
  have hseen : (⟨text, none⟩ : Decoded).faultSeen = none := ite_self none
  have hread := readCommands_of_room hr hd (by rwa [hlines])
  rw [hlines, hseen] at hread
  exact ⟨hread, Run.fault_ofLines hl⟩

/-! ### A small host -/

/-- A reader of settings files that knows the empty file and the empty list. -/
def Yaml.sampleLoader : Yaml.Loader := fun scheme bs =>
  match (scheme.decode bs).fault, (scheme.decode bs).text with
  | some e, _ => .error (.stream e)
  | none, [] => .ok .null
  | none, ['[', ']'] => .ok (.list [])
  | none, _ => .error (.malformed [])

/-- Stores of files, and nothing that is not known of the codecs that are no schemes. -/
def sampleHost : Host where
  files := FileStore.system
  codecs := .special
  locale := .utf8
  loader := Yaml.sampleLoader
  room := 980

/-- A store of one file. -/
def oneFile (content : Bytes) : FileStore :=
  { files := [([utf8 ['c']], content)] }

theorem readPath_oneFile (content : Bytes) :
    sampleHost.files.readPath (oneFile content) [.char 'c'] = .ok content := rfl

/-- A carriage return behind the first of three lines and behind the second, which is the sentinel,
and none behind the third. -/
theorem readCommands_of_carriageReturns :
    let commands := ["n2".toList, ['Q'], "S 1".toList]
    let s := oneFile (utf8 "n2\rQ\rS 1".toList)
    sampleHost.readCommands s [.char 'c'] Settings.default.encoding =
        ⟨s, (Run.ofLines commands).notes, .ok (Run.ofLines commands).log.toList⟩ ∧
      (Run.ofLines commands).fault = none := by
  have hc : ∀ c ∈ ["n2".toList, ['Q'], "S 1".toList], IsUnbroken c := by
    unfold IsUnbroken
    decide
  have ht : HoldsLines ['\r'] ["n2".toList, ['Q'], "S 1".toList] "n2\rQ\rS 1".toList :=
    .unended ["n2".toList, ['Q']] (by decide)
  exact readCommands_of_holdsLines hc (Or.inr (Or.inr rfl)) ht (readPath_oneFile _)
    (by decide +kernel)

end GridRobot
