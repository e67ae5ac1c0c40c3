import GridRobot.Proofs.Encoding.RoundTrip
import GridRobot.Proofs.Files.Writing
import GridRobot.Proofs.Log.Characters
import GridRobot.Proofs.Settings.Accepted

/-!
# Logs that cannot be written

A log quotes its commands in capitals, and a scheme can have a small letter without its capital. Then
what was read in the scheme has a log that cannot be written in it, and the file that was opened for
the log is left empty: what it held is lost, and the error is not foreseen. In a scheme that has the
capitals of its characters, this does not happen.

Main statements: `processFile_ends` says how a run from file to file ends once its commands are
read, in any encoding that settings can name, and `not_forall_kept` that the file of the log does not
always hold the log or what it held before.
-/

namespace GridRobot

open Encoding (Bytes Codec EncodeError OtherCodecs Scheme lookupText)
open Text (Within)

/-- Whatever is read in the scheme, its log can be written in it. -/
def Encoding.Scheme.KeepsLogs : Scheme → Prop
  | .ascii | .utf8 | .utf8Signed | .utf16 _ | .utf32 _ => True
  | .singleByte table =>
    Text.IsClosed (fun c => (table.byte? c).isSome = true) ∧ (table.byte? '\n').isSome = true
  | .latin1 | .multiByte .. | .undefined => False

/-- The same of a codec. One that is no scheme writes every text. -/
def Encoding.Codec.KeepsLogs (others : OtherCodecs) : Codec → Prop
  | .scheme s => s.KeepsLogs
  | .other c => ∀ t, ∃ bs, others.encode c t = .ok bs

/-- How a run from file to file ends whose commands gave the log: the log is written, the file for
it cannot be opened, or it is opened and left empty. -/
inductive ProcessEnds (H : Host) (s : H.files.State) (output : LooseText) (encoding : Text)
    (log : List Entry) (r : FileOutcome H.files.State (List Entry)) : Prop where
  | written {codec : Codec} {file : H.files.File} {opened : H.files.State} {bs : Bytes}
      (hs : lookupText H.locale encoding = .ok codec)
      (hw : H.files.createPath s output = .ok (file, opened))
      (hb : codec.encode H.codecs (['\n'].intercalate (log.map Entry.text)) = .ok bs)
      (hback : ∀ scheme : Scheme, codec = .scheme scheme → scheme.IsFaithful →
        scheme.decode bs = ⟨['\n'].intercalate (log.map Entry.text), none⟩)
      (hr : r.result = .ok log) (hf : r.files = H.files.write opened file bs)
      (hc : H.files.Keeps file → H.files.content? r.files file = some bs)
      (ho : H.files.SameBut file s r.files)
  | unopened {e : OpenError} (hw : H.files.createPath s output = .error (.refused e))
      (hr : r.result = .error (.commandFile output (e.message output).loose)) (hf : r.files = s)
  /-- The path has no bytes. -/
  | unencodable {e : EncodeError} (he : H.files.encodePath output = .error e)
      (hr : r.result = .error (.encode e)) (hf : r.files = s)
  | emptied {codec : Codec} {file : H.files.File} {opened : H.files.State} {e : EncodeError}
      (hs : lookupText H.locale encoding = .ok codec) (hk : ¬codec.KeepsLogs H.codecs)
      (hw : H.files.createPath s output = .ok (file, opened))
      (hb : codec.encode H.codecs (['\n'].intercalate (log.map Entry.text)) = .error e)
      (hr : r.result = .error (.encode e)) (hf : r.files = opened)
      (hc : H.files.Keeps file → H.files.content? r.files file = some [])
      (ho : H.files.SameBut file s r.files)

/-! ### Characters of a file and of its log -/

variable {P : Char → Prop}

theorem within_of_mem_decodedLines {d : Encoding.Decoded} (h : Within P d.text) :
    ∀ line ∈ d.lines, Within P line := by
  intro line hline
  refine h.of_subset fun a ha => (flatten_decodedLines_sublist d).subset ?_
  exact List.mem_flatten.mpr ⟨line, hline, ha⟩

theorem within_log {d : Encoding.Decoded} (hP : Text.IsClosed P) (hn : P '\n')
    (h : Within P d.text) :
    Within P (['\n'].intercalate ((Run.ofLines d.lines).log.toList.map Entry.text)) := by
  have hbreak : Within P ['\n'] := List.forall_mem_singleton.mpr hn
  refine Text.within_intercalate hbreak fun t ht => ?_
  obtain ⟨e, he, rfl⟩ := List.mem_map.mp ht
  exact within_of_mem_log hP (within_of_mem_decodedLines h) he

theorem exists_encode_bytewise {scheme : Scheme} {codec : Text} {step : Bytes → Encoding.Step}
    {byte? : Char → Option UInt8} (h : Encoding.IsBytewise scheme codec step byte?)
    (hP : Text.IsClosed fun c => (byte? c).isSome = true) (hn : (byte? '\n').isSome = true)
    (bytes : Bytes) :
    ∃ bs, scheme.encode (['\n'].intercalate
      ((Run.ofLines (scheme.decode bytes).lines).log.toList.map Entry.text)) = .ok bs :=
  Encoding.exists_encode_of_known h (within_log hP hn (Encoding.known_of_decode h bytes))

theorem isClosed_byteBelow : Text.IsClosed fun c => (Encoding.byteBelow 128 c).isSome = true := by
  have hiff : (fun c => (Encoding.byteBelow 128 c).isSome = true) = fun c => c.toNat < 128 := by
    funext c
    rw [Encoding.byteBelow, Option.isSome_ite]
  rw [hiff]
  exact Text.isClosed_ascii

theorem Encoding.Scheme.KeepsLogs.exists_encode {scheme : Scheme} (h : scheme.KeepsLogs) (bytes : Bytes) :
    ∃ bs, scheme.encode (['\n'].intercalate
      ((Run.ofLines (scheme.decode bytes).lines).log.toList.map Entry.text)) = .ok bs := by
  cases scheme with
  | ascii =>
    exact exists_encode_bytewise Encoding.isBytewise_ascii isClosed_byteBelow rfl bytes
  | singleByte table =>
    exact exists_encode_bytewise (Encoding.isBytewise_singleByte table) h.1 h.2 bytes
  | utf8 => exact ⟨_, rfl⟩
  | utf8Signed => exact ⟨_, rfl⟩
  | utf16 order => cases order <;> exact ⟨_, rfl⟩
  | utf32 order => cases order <;> exact ⟨_, rfl⟩
  | latin1 => exact absurd h id
  | multiByte e shift => exact absurd h id
  | undefined => exact absurd h id

theorem Encoding.Codec.KeepsLogs.exists_encode {others : OtherCodecs} {codec : Codec}
    (h : codec.KeepsLogs others) (bytes : Bytes) :
    ∃ bs, codec.encode others (['\n'].intercalate
      ((Run.ofLines (codec.decode others bytes).lines).log.toList.map Entry.text)) = .ok bs := by
  cases codec with
  | scheme scheme => exact Scheme.KeepsLogs.exists_encode h bytes
  | other codec => exact h _

/-! ### Reading, then writing -/

variable {H : Host} {s : H.files.State} {input output : LooseText} {settings : Settings}
  {log : List Entry}

/-- Once the commands are read, a run from file to file ends in one of four ways. Only with a codec
that does not keep logs can the file that was opened for the log be left empty. -/
theorem processFile_ends {room : Nat} {values : List (Value × Value)}
    (hm : Settings.ofMapping room values = .ok settings) (ho : .char '\x00' ∉ output)
    (h : (H.readCommands s input settings.encoding).result = .ok log) :
    ProcessEnds H s output settings.encoding log (H.processFile s input output settings) := by
  obtain ⟨_, hlookup⟩ := Settings.exists_lookup_of_ofMapping hm
  have he := Encoding.null_not_mem_of_lookup hlookup
  obtain ⟨bytes, codec, _, hs, hlog⟩ := exists_of_readCommands_ok he h
  rw [processDecoded_eq] at hlog
  obtain ⟨notes, notes', hrun⟩ := processFile_of_ok output h
  rw [hrun]
  rcases FileSystem.createPath_cases ho s with ⟨file, opened, hw⟩ | ⟨e, hw⟩ | ⟨e, hpath, hw⟩
  · rw [writeLines_of_codec he hw hs]
    cases hb : codec.encode H.codecs (['\n'].intercalate (log.map Entry.text)) with
    | ok bs =>
      have hback : ∀ scheme : Scheme, codec = .scheme scheme → scheme.IsFaithful →
          scheme.decode bs = ⟨['\n'].intercalate (log.map Entry.text), none⟩ := by
        rintro scheme rfl hfaithful
        exact Encoding.decode_encode hfaithful hb
      exact .written hs hw hb hback rfl rfl (H.files.content?_write opened · bs)
        (FileSystem.sameBut_write hw bs)
    | error e =>
      -- the log is one of a text that was decoded in the scheme
      have hk : ¬codec.KeepsLogs H.codecs := by
        intro hk
        obtain ⟨bs, hbs⟩ := hk.exists_encode bytes
        rw [hlog, hb] at hbs
        cases hbs
      exact .emptied hs hk hw hb rfl rfl (FileSystem.content?_createPath hw)
        (FileSystem.sameBut_createPath hw)
  · rw [writeLines_of_pathError he hw]
    exact .unopened hw rfl rfl
  · rw [writeLines_of_pathError he hw]
    exact .unencodable hpath rfl rfl

section Narrow

/-- Settings with an encoding that has a small letter without its capital. -/
def narrowValues : List (Value × Value) :=
  [(.text Settings.encodingKey.loose, .text (Text.loose "latin-1".toList))]

def narrowSettings : Settings :=
  ⟨"latin-1".toList, .warning⟩

/-- A command with that letter, beside a file that is there already. -/
def narrowStore : FileStore :=
  { files := [([[0x63]], [0x6E, 0x20, 0xFF]), ([[0x6F]], [0x6B])] }

def narrowLog : List Entry :=
  (Run.ofLines ["n ÿ".toList]).log.toList

theorem ofMapping_narrowValues (room : Nat) :
    Settings.ofMapping room narrowValues = .ok narrowSettings :=
  Settings.ofMapping_of_encoding rfl rfl (by decide +kernel) room

theorem result_narrowStore :
    (sampleHost.readCommands narrowStore [.char 'c'] narrowSettings.encoding).result =
      .ok narrowLog := by
  decide +kernel

theorem createPath_narrowStore : sampleHost.files.createPath narrowStore [.char 'o'] =
    .ok ([[0x6F]], narrowStore.write [[0x6F]] []) := rfl

theorem result_processFile_narrow :
    (sampleHost.processFile narrowStore [.char 'c'] [.char 'o'] narrowSettings).result =
      .error (.encode (.unencodable "latin-1".toList (.char 'Ÿ') 37 38
        "ordinal not in range(256)".toList)) := by
  decide +kernel

/-- The file of the log is empty, and what it held is lost. -/
theorem processFile_ends_of_narrow :
    ProcessEnds sampleHost narrowStore [.char 'o'] narrowSettings.encoding narrowLog
      (sampleHost.processFile narrowStore [.char 'c'] [.char 'o'] narrowSettings) ∧
    narrowStore.content? [[0x6F]] = some [0x6B] ∧
    FileStore.content? (sampleHost.processFile narrowStore [.char 'c'] [.char 'o']
      narrowSettings).files [[0x6F]] = some [] := by
  have hends : ProcessEnds sampleHost narrowStore [.char 'o'] narrowSettings.encoding narrowLog
      (sampleHost.processFile narrowStore [.char 'c'] [.char 'o'] narrowSettings) :=
    processFile_ends (ofMapping_narrowValues 0) (by decide) result_narrowStore
  refine ⟨hends, rfl, ?_⟩
  cases hends with
  | written _ _ _ _ hr _ _ _ =>
    rw [result_processFile_narrow] at hr
    cases hr
  | unopened hw _ _ =>
    rw [createPath_narrowStore] at hw
    cases hw
  | unencodable he _ _ => cases he
  | emptied _ _ hw _ _ _ hc _ =>
    rw [createPath_narrowStore] at hw
    cases hw
    exact hc trivial

theorem not_forall_kept :
    ¬∀ (H : Host) (values : List (Value × Value)) (settings : Settings) (s : H.files.State)
      (input output : LooseText) (log : List Entry),
      Settings.ofMapping H.room values = .ok settings → .char '\x00' ∉ input →
      .char '\x00' ∉ output → (H.readCommands s input settings.encoding).result = .ok log →
      (∃ codec file opened bs, lookupText H.locale settings.encoding = .ok codec ∧
        H.files.createPath s output = .ok (file, opened) ∧
        (H.processFile s input output settings).result = .ok log ∧
        (H.processFile s input output settings).files = H.files.write opened file bs ∧
        codec.decode H.codecs bs = ⟨['\n'].intercalate (log.map Entry.text), none⟩) ∨
      ∃ path reason,
        (H.processFile s input output settings).result = .error (.commandFile path reason) ∧
        ∀ file, H.files.content? (H.processFile s input output settings).files file =
          H.files.content? s file := by
  intro h
  rcases h sampleHost narrowValues narrowSettings narrowStore [.char 'c'] [.char 'o'] narrowLog
    (ofMapping_narrowValues _) (by decide) (by decide) result_narrowStore with
    ⟨_, _, _, _, _, _, hr, _⟩ | ⟨_, _, hr, _⟩
  · rw [result_processFile_narrow] at hr
    cases hr
  · rw [result_processFile_narrow] at hr
    cases hr

end Narrow

end GridRobot
