import GridRobot.Proofs.Files.Reading
import GridRobot.Proofs.Log.Characters

/-!
# The log in a file

With the default settings, a run from one file to another either writes its whole log or leaves all
files alone: the commands are read to their end before the other file is opened, and every text can
be written. What is written is the log, for its entries can be told apart in the file. A failure is
one of a file that is reported, but for a path that the file system has no bytes for.

Main statements: `processFile_all_or_nothing`, and `not_forall_all_or_nothing` at such a path.
-/

namespace GridRobot

open Encoding (Bytes Codec EncodeError Scheme lookupText utf8)
open Text (IsUnbroken)

/-- The bytes are those of the entries with single line feeds between them, and the entries can be
read off them again. -/
structure HoldsLog (log : List Entry) (bs : Bytes) : Prop where
  bytes : bs = utf8 (['\n'].intercalate (log.map Entry.text))
  entries : ∀ e ∈ log, e.text ≠ [] ∧ IsUnbroken e.text
  decoded : Scheme.utf8.decode bs = ⟨['\n'].intercalate (log.map Entry.text), none⟩
  split : log ≠ [] → (['\n'].intercalate (log.map Entry.text)).splitOn '\n' = log.map Entry.text
  unended : (['\n'].intercalate (log.map Entry.text)).getLast? ≠ some '\n'
  empty : bs = [] ↔ log = []

/-- Why a run from file to file is given up, by the file that is to blame: the commands cannot be
opened, they are no text before the sentinel is seen, or the log cannot be opened for writing. -/
inductive Refuses (H : Host) (s : H.files.State) (input output : LooseText) : LooseText → Prop where
  | unreadable {e : OpenError} (h : H.files.readPath s input = .error (.refused e)) :
    Refuses H s input output input
  | undecodable {bytes : Bytes} (h : H.files.readPath s input = .ok bytes)
      (hf : (Scheme.utf8.decode bytes).faultSeen ≠ none) : Refuses H s input output input
  | unwritable {e : OpenError} (h : H.files.createPath s output = .error (.refused e)) :
    Refuses H s input output output

/-- The ways in which a run from file to file ends. -/
inductive WritesOrFails (H : Host) (s : H.files.State) (input output : LooseText)
    (r : FileOutcome H.files.State (List Entry)) : Prop where
  | writes {bytes : Bytes} {file : H.files.File} {opened : H.files.State} {log : List Entry}
      {bs : Bytes} (hi : H.files.readPath s input = .ok bytes)
      (hlog : log = (Run.ofLines (Scheme.utf8.decode bytes).lines).log.toList)
      (hr : r.result = .ok log) (hw : H.files.createPath s output = .ok (file, opened))
      (hf : r.files = H.files.write opened file bs) (hl : HoldsLog log bs)
      (hc : H.files.Keeps file → H.files.content? r.files file = some bs)
      (hs : H.files.SameBut file s r.files) : WritesOrFails H s input output r
  | fails {path reason : LooseText} (hp : Refuses H s input output path)
      (hr : r.result = .error (.commandFile path reason)) (hf : r.files = s) :
      WritesOrFails H s input output r
  /-- The path has no bytes. -/
  | unencodable {path : LooseText} {e : EncodeError} (hp : path = input ∨ path = output)
      (he : H.files.encodePath path = .error e) (hr : r.result = .error (.encode e))
      (hf : r.files = s) : WritesOrFails H s input output r

/-! ### The text of a log -/

variable {log : List Entry}

theorem splitOn_log (h : ∀ e ∈ log, IsUnbroken e.text) (hne : log ≠ []) :
    (['\n'].intercalate (log.map Entry.text)).splitOn '\n' = log.map Entry.text := by
  refine List.splitOn_intercalate '\n' ?_ (List.map_eq_nil_iff.not.mpr hne)
  intro t ht
  obtain ⟨e, he, rfl⟩ := List.mem_map.mp ht
  exact (h e he).2

theorem nil_not_mem_texts (log : List Entry) : [] ∉ log.map Entry.text := by
  intro hm
  obtain ⟨e, _, he⟩ := List.mem_map.mp hm
  exact e.text_ne_nil he

theorem intercalate_log_eq_nil_iff (h : ∀ e ∈ log, IsUnbroken e.text) :
    ['\n'].intercalate (log.map Entry.text) = [] ↔ log = [] := by
  constructor
  · intro hnil
    by_cases hne : log = []
    · exact hne
    · have hs := splitOn_log h hne
      have hm : [] ∈ log.map Entry.text := by
        rw [← hs, hnil]
        exact List.mem_singleton_self []
      exact absurd hm (nil_not_mem_texts log)
  · rintro rfl
    rfl

/-- A last line feed would stand before an empty entry. -/
theorem getLast?_log_ne (h : ∀ e ∈ log, IsUnbroken e.text) :
    (['\n'].intercalate (log.map Entry.text)).getLast? ≠ some '\n' := by
  intro hlast
  obtain ⟨t, ht⟩ := List.getLast?_eq_some_iff.mp hlast
  have hne : log ≠ [] := by
    rintro rfl
    cases hlast
  have hs := splitOn_log h hne
  rw [ht, List.splitOn_append_cons_self] at hs
  have hm : [] ∈ log.map Entry.text := by
    rw [← hs]
    exact List.mem_append_right _ (List.mem_singleton_self [])
  exact absurd hm (nil_not_mem_texts log)

theorem utf8_eq_nil_iff {t : Text} : utf8 t = [] ↔ t = [] := by
  constructor
  · intro h
    have hle := Encoding.length_le_length_utf8 t
    rw [h] at hle
    exact List.length_eq_zero_iff.mp (Nat.le_zero.mp hle)
  · rintro rfl
    rfl

theorem holdsLog (h : ∀ e ∈ log, IsUnbroken e.text) :
    HoldsLog log (utf8 (['\n'].intercalate (log.map Entry.text))) where
  bytes := rfl
  entries e he := ⟨e.text_ne_nil, h e he⟩
  decoded := Encoding.decode_encode_utf8 _
  split := splitOn_log h
  unended := getLast?_log_ne h
  empty := utf8_eq_nil_iff.trans (intercalate_log_eq_nil_iff h)

/-! ### Reading, then writing -/

variable {H : Host} {s : H.files.State} {input output : LooseText}

/-- Reading gives the log of the lines, whose entries stand in one line each, or an error. -/
theorem readCommands_cases (hi : .char '\x00' ∉ input)
    (hl : ∀ bytes, H.files.readPath s input = .ok bytes → bytes.length < 10 ^ 4298)
    (output : LooseText) :
    (∃ bytes log, H.files.readPath s input = .ok bytes ∧
      log = (Run.ofLines (Scheme.utf8.decode bytes).lines).log.toList ∧
      (H.readCommands s input Settings.default.encoding).result = .ok log ∧
      ∀ e ∈ log, IsUnbroken e.text) ∨
    (Refuses H s input output input ∧
      ∃ reason, (H.readCommands s input Settings.default.encoding).result =
        .error (.commandFile input reason)) ∨
    ∃ e, H.files.encodePath input = .error e ∧
      (H.readCommands s input Settings.default.encoding).result = .error (.encode e) := by
  rcases FileSystem.readPath_cases hi s with ⟨bytes, hr⟩ | ⟨e, hr⟩ | ⟨e, he, hr⟩
  · have hlen : totalLength (Scheme.utf8.decode bytes).lines < 10 ^ 4298 :=
      Nat.lt_of_le_of_lt (totalLength_lines_decode_le bytes) (hl bytes hr)
    rw [readCommands_of_room hr rfl hlen]
    cases hf : (Scheme.utf8.decode bytes).faultSeen with
    | none =>
      refine .inl ⟨bytes, _, hr, rfl, rfl, fun e he => ?_⟩
      exact isUnbroken_of_mem_log (fun _ => isUnbroken_of_mem_decodedLines) he
    | some e =>
      have hne : (Scheme.utf8.decode bytes).faultSeen ≠ none := by
        rw [hf]
        nofun
      exact .inr (.inl ⟨.undecodable hr hne, _, rfl⟩)
  · rw [readCommands_of_pathError null_not_mem_default hr]
    exact .inr (.inl ⟨.unreadable hr, _, rfl⟩)
  · rw [readCommands_of_pathError null_not_mem_default hr]
    exact .inr (.inr ⟨e, he, rfl⟩)

section Encoding

variable {encoding : Text} (he : '\x00' ∉ encoding)

include he

theorem writeLines_of_pathError {e : PathError} (hw : H.files.createPath s output = .error e)
    (ts : List Text) : H.writeLines s output encoding ts = (s, .error (e.commandFile output)) := by
  rw [Host.writeLines, if_neg he, hw]

/-- A file that is open is written as a whole or left empty. -/
theorem writeLines_of_codec {codec : Codec} {file : H.files.File} {opened : H.files.State}
    (hw : H.files.createPath s output = .ok (file, opened))
    (hs : lookupText H.locale encoding = .ok codec) (ts : List Text) :
    H.writeLines s output encoding ts =
      match codec.encode H.codecs (['\n'].intercalate ts) with
      | .ok bs => (H.files.write opened file bs, .ok ())
      | .error e => (opened, .error (.encode e)) := by
  rw [Host.writeLines, if_neg he, hw]
  simp only [hs]
  cases codec.encode H.codecs (['\n'].intercalate ts) <;> rfl

end Encoding

theorem writeLines_default {file : H.files.File} {opened : H.files.State}
    (hw : H.files.createPath s output = .ok (file, opened)) (ts : List Text) :
    H.writeLines s output Settings.default.encoding ts =
      (H.files.write opened file (utf8 (['\n'].intercalate ts)), .ok ()) :=
  writeLines_of_codec null_not_mem_default hw (lookupText_default H.locale) ts

theorem processFile_of_ok {settings : Settings} (output : LooseText)
    (h : (H.readCommands s input settings.encoding).result = .ok log) :
    ∃ notes notes', H.processFile s input output settings =
      match H.writeLines s output settings.encoding (log.map Entry.text) with
      | (s, .error e) => ⟨s, notes, .error e⟩
      | (s, .ok ()) => ⟨s, notes', .ok log⟩ := by
  unfold Host.processFile
  simp only [h]
  exact ⟨_, _, rfl⟩

theorem processFile_of_error {settings : Settings} {e : Error} (output : LooseText)
    (h : (H.readCommands s input settings.encoding).result = .error e) :
    (H.processFile s input output settings).result = .error e ∧
      (H.processFile s input output settings).files = s := by
  unfold Host.processFile
  simp only [h]
  exact ⟨trivial, files_readCommands s input _⟩

/-- Where the commands are a written text, only the other file can be to blame. -/
theorem Refuses.of_utf8 {path : LooseText} {t : Text} (h : Refuses H s input output path)
    (hr : H.files.readPath s input = .ok (utf8 t)) :
    path = output ∧ ∃ e, H.files.createPath s output = .error (.refused e) := by
  cases h with
  | unreadable h =>
    rw [hr] at h
    cases h
  | undecodable h hf =>
    rw [hr] at h
    obtain rfl := Except.ok.inj h
    rw [Encoding.decode_encode_utf8] at hf
    exact absurd (ite_self none) hf
  | unwritable h => exact ⟨rfl, _, h⟩

/-- A run from file to file writes its log and nothing else, or fails and changes no file. -/
theorem processFile_all_or_nothing (hi : .char '\x00' ∉ input) (ho : .char '\x00' ∉ output)
    (hl : ∀ bytes, H.files.readPath s input = .ok bytes → bytes.length < 10 ^ 4298) :
    WritesOrFails H s input output (H.processFile s input output .default) := by
  rcases readCommands_cases hi hl output with
    ⟨bytes, log, hin, hlog, hread, hu⟩ | ⟨href, reason, hread⟩ | ⟨e, he, hread⟩
  · obtain ⟨notes, notes', hprocess⟩ := processFile_of_ok output hread
    rw [hprocess]
    rcases FileSystem.createPath_cases ho s with ⟨file, opened, hw⟩ | ⟨e, hw⟩ | ⟨e, he, hw⟩
    · rw [writeLines_default hw]
      exact .writes hin hlog rfl hw rfl (holdsLog hu) (H.files.content?_write opened · _)
        (FileSystem.sameBut_write hw _)
    · rw [writeLines_of_pathError null_not_mem_default hw]
      exact .fails (.unwritable hw) rfl rfl
    · rw [writeLines_of_pathError null_not_mem_default hw]
      exact .unencodable (.inr rfl) he rfl rfl
  · obtain ⟨hresult, hfiles⟩ := processFile_of_error output hread
    exact .fails href hresult hfiles
  · obtain ⟨hresult, hfiles⟩ := processFile_of_error output hread
    exact .unencodable (.inl rfl) he hresult hfiles

/-- The log of a small letter, written, and not written into a directory that is not there. -/
theorem processFile_of_small_letter :
    let s := oneFile (utf8 "n2\n".toList)
    let path : LooseText := [.char 'd', .char '/', .char 'o']
    (∃ bs, FileStore.content? (sampleHost.processFile s [.char 'c'] [.char 'o'] .default).files
        [utf8 ['o']] = some bs ∧ HoldsLog (Run.ofLines ["n2".toList]).log.toList bs) ∧
      (∃ reason, (sampleHost.processFile s [.char 'c'] path .default).result =
        .error (.commandFile path reason)) ∧
      (sampleHost.processFile s [.char 'c'] path .default).files = s := by
  intro s path
  have hc := readPath_oneFile (utf8 "n2\n".toList)
  have hl : ∀ bytes, sampleHost.files.readPath s [.char 'c'] = .ok bytes →
      bytes.length < 10 ^ 4298 := by
    intro bytes hb
    rw [hc] at hb
    cases hb
    decide +kernel
  have hw : sampleHost.files.createPath s [.char 'o'] =
      .ok ([utf8 ['o']], FileStore.write s [utf8 ['o']] []) := rfl
  have hd : sampleHost.files.createPath s path = .error (.refused FileStore.notFound) := rfl
  have he : ∀ {p : LooseText} {e : EncodeError}, p = [.char 'c'] ∨ p = [.char 'o'] ∨ p = path →
      sampleHost.files.encodePath p ≠ .error e := by
    rintro p e (rfl | rfl | rfl) <;> nofun
  have hwritten : WritesOrFails sampleHost s [.char 'c'] [.char 'o']
      (sampleHost.processFile s [.char 'c'] [.char 'o'] .default) :=
    processFile_all_or_nothing (by decide) (by decide) hl
  have hrefused : WritesOrFails sampleHost s [.char 'c'] path
      (sampleHost.processFile s [.char 'c'] path .default) :=
    processFile_all_or_nothing (by decide) (by decide) hl
  constructor
  · cases hwritten with
    | @writes bytes file opened log bs hin hlog _ hw' _ hholds hcontent _ =>
      rw [hc] at hin
      obtain rfl := Except.ok.inj hin
      rw [Encoding.decode_encode_utf8] at hlog
      rw [hw] at hw'
      cases hw'
      subst hlog
      exact ⟨bs, hcontent trivial, hholds⟩
    | fails href _ _ =>
      obtain ⟨_, e, hno⟩ := href.of_utf8 hc
      rw [hw] at hno
      cases hno
    | unencodable hp hno _ _ => exact absurd hno (he (hp.imp_right .inl))
  · cases hrefused with
    | writes _ _ _ hw' _ _ _ _ =>
      rw [hd] at hw'
      cases hw'
    | @fails blamed reason href hr hf =>
      obtain ⟨rfl, _⟩ := href.of_utf8 hc
      exact ⟨⟨reason, hr⟩, hf⟩
    | unencodable hp hno _ _ => exact absurd hno (he (hp.imp_right .inr))

/-- A path that is half of a surrogate pair has no bytes, and this is not reported. -/
theorem not_forall_all_or_nothing :
    ¬∀ (H : Host) (s : H.files.State) (input output : LooseText), .char '\x00' ∉ input →
      .char '\x00' ∉ output →
      (∀ bytes, H.files.readPath s input = .ok bytes → bytes.length < 10 ^ 4298) →
      (∃ log, (H.processFile s input output .default).result = .ok log) ∨
        ∃ path reason, (H.processFile s input output .default).result =
          .error (.commandFile path reason) := by
  intro h
  have hr : sampleHost.files.readPath (oneFile []) [.half 0xD800] = .error (.encode
      (.unencodable "utf-8".toList (.half 0xD800) 0 1 "surrogates not allowed".toList)) := rfl
  have hread : (sampleHost.readCommands (oneFile []) [.half 0xD800]
      Settings.default.encoding).result = .error (.encode
        (.unencodable "utf-8".toList (.half 0xD800) 0 1 "surrogates not allowed".toList)) := by
    rw [readCommands_of_pathError null_not_mem_default hr]
    rfl
  have hl : ∀ bytes, sampleHost.files.readPath (oneFile []) [.half 0xD800] = .ok bytes →
      bytes.length < 10 ^ 4298 := by
    intro bytes hb
    rw [hr] at hb
    cases hb
  have hresult := (processFile_of_error [.char 'o'] hread).1
  rcases h _ _ [.half 0xD800] [.char 'o'] (by decide) (by decide) hl with
    ⟨log, hlog⟩ | ⟨path, reason, hreport⟩
  · rw [hresult] at hlog
    cases hlog
  · rw [hresult] at hreport
    cases hreport

end GridRobot
