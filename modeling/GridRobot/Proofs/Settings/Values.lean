import GridRobot.Proofs.Settings.Files

/-!
# Settings files by their values

A settings file whose value is a mapping stands for the settings of the mapping, and a file without
a value for the defaults. A file with another value is reported if the value does not count as
nothing, and else it stands for the defaults, too.

Main statements: `ofFile_of_value`, and `not_forall_noMapping_reported` for the values that count as
nothing.
-/

namespace GridRobot

open Encoding (Bytes utf8)

namespace Value

/-- The values that count as nothing. -/
inductive IsNothing : Value → Prop where
  | null : IsNothing null
  | false : IsNothing (bool false)
  | zero : IsNothing (int 0)
  | floatZero {x : Float} (hx : (x == 0) = true) : IsNothing (float x)
  | text : IsNothing (text [])
  | bytes : IsNothing (bytes [])
  | list : IsNothing (list [])
  | tuple : IsNothing (tuple [])
  | set : IsNothing (set [])
  | mapping : IsNothing (mapping [])

theorem isEmpty_iff {v : Value} : v.isEmpty = true ↔ v.IsNothing := by
  constructor
  · intro h
    cases v with
    | null => exact .null
    | bool b =>
      cases b with
      | false => exact .false
      | true => cases h
    | int n =>
      obtain rfl := of_decide_eq_true h
      exact .zero
    | float x => exact .floatZero h
    | text t =>
      obtain rfl := List.isEmpty_iff.mp h
      exact .text
    | bytes bs =>
      obtain rfl := List.isEmpty_iff.mp h
      exact .bytes
    | list items =>
      obtain rfl := List.isEmpty_iff.mp h
      exact .list
    | tuple items =>
      obtain rfl := List.isEmpty_iff.mp h
      exact .tuple
    | set items =>
      obtain rfl := List.isEmpty_iff.mp h
      exact .set
    | mapping es =>
      obtain rfl := List.isEmpty_iff.mp h
      exact .mapping
    | date d => cases h
    | time t => cases h
    | loop isMapping => cases h
  · intro h
    cases h with
    | floatZero hx => exact hx
    | _ => rfl

end Value

namespace Settings

variable {H : Host} {s : H.files.State} {path : LooseText} {bytes : Bytes} {v : Value}

theorem ofMapping_nil (room : Nat) : ofMapping room [] = .ok default := by
  have henc : checkEncoding (.text default.encoding.loose) = .ok default.encoding := by
    rw [checkEncoding_loose, lookup_default]
  have hnone (key : Text) : value? [] key = none := rfl
  rw [ofMapping, make, hnone, hnone, Option.getD_none, Option.getD_none, henc, checkLevel_default]
  rfl

theorem ofValue_of_isNothing (room : Nat) (path : LooseText) (h : v.IsNothing) :
    ofValue room path v = .ok default := by
  unfold ofValue
  rw [if_pos (Value.isEmpty_iff.mpr h)]

theorem ofValue_mapping (room : Nat) (path : LooseText) (es : List (Value × Value)) :
    ofValue room path (.mapping es) = ofMapping room es := by
  cases es with
  | nil => rw [ofValue_of_isNothing room path .mapping, ofMapping_nil]
  | cons e es => rfl

theorem ofValue_of_noMapping (room : Nat) (path : LooseText) (hm : ∀ es, v ≠ .mapping es)
    (he : ¬v.IsNothing) : ofValue room path v = .error (.configuration path
      (Text.loose "top level must be a mapping".toList)) := by
  unfold ofValue
  rw [if_neg fun h => he (Value.isEmpty_iff.mp h)]
  split
  · next es => exact absurd rfl (hm es)
  · rfl

/-- Settings are made of the value of a file just as of a mapping, if it is one, and a file without
a value stands for the defaults. Any other value is reported, but for those that count as nothing. -/
theorem ofFile_of_value (hr : H.files.readPath s (plainPath path) = .ok bytes)
    (hv : H.loader H.locale bytes = .ok v) :
    (∀ es, v = .mapping es → ofFile H s path = ofMapping H.room es) ∧
      (v = .null → ofFile H s path = .ok default) ∧
      ((∀ es, v ≠ .mapping es) → v.IsNothing → ofFile H s path = .ok default) ∧
      ((∀ es, v ≠ .mapping es) → ¬v.IsNothing →
        ofFile H s path = .error (.configuration (plainPath path)
          (Text.loose "top level must be a mapping".toList))) := by
  rw [ofFile_of_loaded hr hv]
  refine ⟨?_, ?_, fun _ => ofValue_of_isNothing _ _, ofValue_of_noMapping _ _⟩
  · rintro es rfl
    exact ofValue_mapping _ _ es
  · rintro rfl
    exact ofValue_of_isNothing _ _ .null

section EmptyList

/-- The text of a list without items. -/
def emptyList : Text := ['[', ']']

theorem readPath_emptyList : sampleHost.files.readPath (oneFile (utf8 emptyList))
    (plainPath [.char 'c']) = .ok (utf8 emptyList) := rfl

theorem loader_emptyList :
    sampleHost.loader sampleHost.locale (utf8 emptyList) = .ok (.list []) := by
  have hd := Encoding.decode_encode_utf8 emptyList
  unfold sampleHost Yaml.sampleLoader
  simp only [hd]
  rfl

theorem ofFile_of_value_emptyList :
    sampleHost.files.readPath (oneFile (utf8 emptyList)) (plainPath [.char 'c']) =
        .ok (utf8 emptyList) ∧
      sampleHost.loader sampleHost.locale (utf8 emptyList) = .ok (.list []) ∧
      (∀ es, Value.list [] ≠ .mapping es) ∧ (Value.list []).IsNothing ∧
      ofFile sampleHost (oneFile (utf8 emptyList)) [.char 'c'] = .ok default :=
  ⟨readPath_emptyList, loader_emptyList, nofun, .list,
    (ofFile_of_value readPath_emptyList loader_emptyList).2.2.1 nofun .list⟩

theorem not_forall_noMapping_reported :
    ¬∀ (H : Host) (s : H.files.State) (path : LooseText) (bytes : Bytes) (v : Value),
      H.files.readPath s (plainPath path) = .ok bytes → H.loader H.locale bytes = .ok v →
      (∀ es, v ≠ .mapping es) → v ≠ .null →
      ∃ reason, ofFile H s path = .error (.configuration (plainPath path) reason) := by
  intro h
  obtain ⟨reason, hreason⟩ := h _ _ _ _ _ readPath_emptyList loader_emptyList nofun nofun
  rw [ofFile_of_loaded readPath_emptyList loader_emptyList,
    ofValue_of_isNothing _ _ .list] at hreason
  cases hreason

end EmptyList

end Settings

end GridRobot
