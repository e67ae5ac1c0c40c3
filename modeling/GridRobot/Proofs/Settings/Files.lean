import GridRobot.Proofs.Files.Reading
import GridRobot.Proofs.Log.Characters
import GridRobot.Proofs.Settings.Mapping
import GridRobot.Settings.File

/-!
# Settings files that cannot be used

A settings file that cannot be opened or is not in the language, or that holds something other than
a mapping, is reported with its path, and a setting that is not valid with its name. The other errors
of a settings file are not foreseen: a path that has no bytes, bytes that are no text, other errors
of the reader, and settings that cannot even be checked.

Main statements: `ofFile_ends` says how reading ends for any file, and `not_forall_configured` that
it does not always end with settings or a report.
-/

namespace GridRobot

open Encoding (Bytes DecodeError EncodeError)
open Text (Within)

namespace Settings

/-! ### Plain paths -/

variable {path : LooseText}

/-- A plain path has slashes and points beside members of the path. -/
theorem within_plainPath {P : CodePoint → Prop} (h : Within P path) (hs : P (.char '/'))
    (hp : P (.char '.')) : Within P (plainPath path) := by
  have hslash : Within P [.char '/'] := List.forall_mem_singleton.mpr hs
  have hpoint : Within P [.char '.'] := List.forall_mem_singleton.mpr hp
  have hnames : ∀ name ∈ (path.splitOn (.char '/')).filter fun n => n ≠ [] && n ≠ [.char '.'],
      Within P name :=
    fun name hname => h.splitOn (.char '/') name (List.mem_of_mem_filter hname)
  have hstart (n : Nat) : Within P
      (if n = 0 then [] else if n = 2 then [.char '/', .char '/'] else [.char '/']) := by
    split
    · exact fun _ ha => absurd ha List.not_mem_nil
    · split
      · exact hslash.append hslash
      · exact hslash
  have hplain := (hstart (path.takeWhile (· = .char '/')).length).append
    (Text.within_intercalate hslash hnames)
  exact iteInduction (fun _ => hpoint) fun _ => hplain

theorem null_not_mem_plainPath (h : .char '\x00' ∉ path) : .char '\x00' ∉ plainPath path :=
  Text.within_ne_iff.mp (within_plainPath (Text.within_ne_iff.mpr h) (by decide) (by decide))

/-! ### The stages of reading -/

variable {H : Host} {s : H.files.State} {bytes : Bytes}

theorem ofFile_of_pathError {e : PathError}
    (hr : H.files.readPath s (plainPath path) = .error e) :
    ofFile H s path = .error (e.configuration (plainPath path)) := by
  simp only [ofFile, hr, mapError_error, bind, Except.bind]

theorem ofFile_of_loadError {e : Yaml.LoadError}
    (hr : H.files.readPath s (plainPath path) = .ok bytes)
    (hv : H.loader H.locale bytes = .error e) :
    ofFile H s path = .error (e.configuration (plainPath path)) := by
  simp only [ofFile, hr, hv, mapError_ok, mapError_error, bind, Except.bind]

theorem ofFile_of_loaded {v : Value} (hr : H.files.readPath s (plainPath path) = .ok bytes)
    (hv : H.loader H.locale bytes = .ok v) :
    ofFile H s path = ofValue H.room (plainPath path) v := by
  simp only [ofFile, hr, hv, mapError_ok, bind, Except.bind]

/-- How the reading of a settings file ends. The last three ends are not foreseen, and neither are
some of those of a mapping. -/
inductive FileEnds (H : Host) (s : H.files.State) (path : LooseText) :
    Except Error Settings → Prop where
  | unopened {e : OpenError} (hr : H.files.readPath s (plainPath path) = .error (.refused e)) :
    FileEnds H s path
      (.error (.configuration (plainPath path) (e.message (plainPath path)).loose))
  | malformed {bytes : Bytes} {reason : LooseText}
      (hr : H.files.readPath s (plainPath path) = .ok bytes)
      (hv : H.loader H.locale bytes = .error (.malformed reason)) :
    FileEnds H s path (.error (.configuration (plainPath path) reason))
  | noMapping {bytes : Bytes} {v : Value} (hr : H.files.readPath s (plainPath path) = .ok bytes)
      (hv : H.loader H.locale bytes = .ok v) (hm : ∀ es, v ≠ .mapping es)
      (he : v.isEmpty = false) :
    FileEnds H s path (.error (.configuration (plainPath path)
      (Text.loose "top level must be a mapping".toList)))
  | nothing {bytes : Bytes} {v : Value} (hr : H.files.readPath s (plainPath path) = .ok bytes)
      (hv : H.loader H.locale bytes = .ok v) (he : v.isEmpty = true) :
    FileEnds H s path (.ok default)
  | mapping {bytes : Bytes} {es : List (Value × Value)} {r : Except Error Settings}
      (hr : H.files.readPath s (plainPath path) = .ok bytes)
      (hv : H.loader H.locale bytes = .ok (.mapping es))
      (he : MakingEnds H.room (givenEncoding es) (givenLevel es) r) :
    FileEnds H s path r
  | unencodable {e : EncodeError} (he : H.files.encodePath (plainPath path) = .error e) :
    FileEnds H s path (.error (.encode e))
  | undecodable {bytes : Bytes} {e : DecodeError}
      (hr : H.files.readPath s (plainPath path) = .ok bytes)
      (hv : H.loader H.locale bytes = .error (.stream e)) :
    FileEnds H s path (.error (.decode e))
  | foreign {bytes : Bytes} {e : ForeignError}
      (hr : H.files.readPath s (plainPath path) = .ok bytes)
      (hv : H.loader H.locale bytes = .error (.other e)) :
    FileEnds H s path (.error (.foreign e))

theorem fileEnds_of_loadError {e : Yaml.LoadError}
    (hr : H.files.readPath s (plainPath path) = .ok bytes)
    (hv : H.loader H.locale bytes = .error e) :
    FileEnds H s path (.error (e.configuration (plainPath path))) := by
  cases e with
  | malformed reason => exact .malformed hr hv
  | stream e => exact .undecodable hr hv
  | other e => exact .foreign hr hv

theorem fileEnds_of_loaded {v : Value} (hr : H.files.readPath s (plainPath path) = .ok bytes)
    (hv : H.loader H.locale bytes = .ok v) :
    FileEnds H s path (ofValue H.room (plainPath path) v) := by
  unfold ofValue
  cases he : v.isEmpty with
  | true => exact .nothing hr hv he
  | false =>
    simp only [Bool.false_eq_true, if_false]
    split
    · exact .mapping hr hv (makingEnds_ofMapping _ _)
    · next hm => exact .noMapping hr hv hm he

theorem fileEnds (hp : .char '\x00' ∉ path) (s : H.files.State) :
    FileEnds H s path (ofFile H s path) := by
  rcases H.files.readPath_cases (null_not_mem_plainPath hp) s with
    ⟨bytes, hr⟩ | ⟨e, hr⟩ | ⟨e, he, hr⟩
  · cases hv : H.loader H.locale bytes with
    | error e =>
      rw [ofFile_of_loadError hr hv]
      exact fileEnds_of_loadError hr hv
    | ok v =>
      rw [ofFile_of_loaded hr hv]
      exact fileEnds_of_loaded hr hv
  · rw [ofFile_of_pathError hr]
    exact .unopened hr
  · rw [ofFile_of_pathError hr]
    exact .unencodable he

/-- The settings of a file are read, or its path or one of its settings is reported, or the file
ends the program. Bytes that are no text end it, whatever they are, if the reader hands on their
fault. -/
theorem ofFile_ends (H : Host) (s : H.files.State) (hp : .char '\x00' ∉ path) :
    FileEnds H s path (ofFile H s path) ∧
      (H.loader.Propagates → ∀ bytes, H.files.readPath s (plainPath path) = .ok bytes →
        (H.locale.decode bytes).fault ≠ none → ∃ e, ofFile H s path = .error (.decode e)) := by
  refine ⟨fileEnds hp s, fun hl bytes hr hf => ?_⟩
  obtain ⟨e, hv⟩ := hl H.locale bytes hf
  exact ⟨e, ofFile_of_loadError hr hv⟩

section Undecodable

/-- A byte that stands in no text. -/
def noText : Bytes := [0xFF]

def noTextFault : DecodeError :=
  .invalid "utf-8".toList noText 0 1 "invalid start byte".toList

theorem propagates_sampleLoader : Yaml.sampleLoader.Propagates := by
  intro scheme bs hf
  obtain ⟨e, he⟩ := Option.ne_none_iff_exists'.mp hf
  refine ⟨e, ?_⟩
  simp only [Yaml.sampleLoader, he]

theorem fault_noText : (Encoding.Scheme.utf8.decode noText).fault = some noTextFault := by
  decide +kernel

theorem readPath_noText :
    sampleHost.files.readPath (oneFile noText) (plainPath [.char 'c']) = .ok noText := rfl

theorem ofFile_noText :
    ofFile sampleHost (oneFile noText) [.char 'c'] = .error (.decode noTextFault) := by
  have hv : sampleHost.loader sampleHost.locale noText = .error (.stream noTextFault) := by
    simp only [sampleHost, Yaml.sampleLoader, fault_noText]
  exact ofFile_of_loadError readPath_noText hv

/-- A file whose bytes are no text ends the program. -/
theorem ofFile_ends_of_noText :
    .char '\x00' ∉ [CodePoint.char 'c'] ∧ sampleHost.loader.Propagates ∧
      sampleHost.files.readPath (oneFile noText) (plainPath [.char 'c']) = .ok noText ∧
      FileEnds sampleHost (oneFile noText) [.char 'c'] (.error (.decode noTextFault)) ∧
      ∃ e, ofFile sampleHost (oneFile noText) [.char 'c'] = .error (.decode e) := by
  have hp : .char '\x00' ∉ [CodePoint.char 'c'] := by decide
  have hf : (sampleHost.locale.decode noText).fault ≠ none := by
    rw [show sampleHost.locale.decode noText = Encoding.Scheme.utf8.decode noText from rfl,
      fault_noText]
    exact Option.some_ne_none _
  obtain ⟨hends, hfault⟩ := ofFile_ends sampleHost (oneFile noText) hp
  rw [ofFile_noText] at hends
  exact ⟨hp, propagates_sampleLoader, readPath_noText, hends,
    hfault propagates_sampleLoader noText readPath_noText hf⟩

theorem not_forall_configured :
    ¬∀ (H : Host) (s : H.files.State) (path : LooseText), H.loader.Propagates →
      .char '\x00' ∉ path → (∃ settings, ofFile H s path = .ok settings) ∨
        ∃ setting reason, ofFile H s path = .error (.configuration setting reason) := by
  intro h
  rcases h sampleHost (oneFile noText) [.char 'c'] propagates_sampleLoader (by decide) with
    ⟨settings, hok⟩ | ⟨setting, reason, herror⟩
  · rw [ofFile_noText] at hok
    cases hok
  · rw [ofFile_noText] at herror
    cases herror

end Undecodable

end Settings

end GridRobot
