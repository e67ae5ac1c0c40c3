import GridRobot.Settings

/-!
# The encoding of accepted settings

Settings are accepted with any encoding that the registry knows. A file can be opened with it if it
is one of text; the name that stands for the surroundings where a file is opened is not known to the
registry.

Main statements: `exists_lookup_of_ofMapping` and `lookupText_of_lookup`.
-/

namespace GridRobot

namespace Encoding

variable {name : Text} {codec? : Option Codec}

theorem null_not_mem_of_lookup (h : lookup name = .ok codec?) : '\x00' ∉ name := by
  intro hn
  rw [lookup, if_pos hn] at h
  cases h

theorem lookup_localeName : lookup localeName = .error (.unknown localeName) := by
  have hnone : (find? localeName).isNone = true := by decide +kernel
  have hn : '\x00' ∉ localeName := by decide
  rw [lookup, if_neg hn, Option.isNone_iff_eq_none.mp hnone]

theorem lookupText_of_lookup (h : lookup name = .ok codec?) (locale : Scheme) :
    lookupText locale name = codec?.elim (.error (.notText name)) .ok := by
  have hne : name ≠ localeName := by
    rintro rfl
    rw [lookup_localeName] at h
    cases h
  rw [lookupText, if_neg hne, h]
  cases codec? <;> rfl

end Encoding

namespace Settings

theorem checkLevel_default (room : Nat) :
    checkLevel room (.text default.level.name.loose) = .ok default.level := by
  have hname : default.level.name.loose.upper.text?.bind Level.ofName? = some default.level := by
    decide +kernel
  unfold checkLevel
  simp only [Value.str, mapError_ok, bind, Except.bind, hname]

theorem exists_lookup_of_checkEncoding {v : Value} {name : Text}
    (h : checkEncoding v = .ok name) : ∃ codec?, Encoding.lookup name = .ok codec? := by
  unfold checkEncoding at h
  split at h
  · next loose =>
    cases hl : Encoding.textOfLoose 0 loose with
    | error e =>
      rw [hl] at h
      cases h
    | ok t =>
      rw [hl, mapError_ok] at h
      simp only [bind, Except.bind] at h
      split at h
      · next codec? hs =>
        cases h
        exact ⟨codec?, hs⟩
      · cases h
      · cases h
  · cases h

theorem exists_lookup_of_ofMapping {room : Nat} {values : List (Value × Value)}
    {settings : Settings} (h : ofMapping room values = .ok settings) :
    ∃ codec?, Encoding.lookup settings.encoding = .ok codec? := by
  unfold ofMapping make at h
  cases he : checkEncoding ((value? values encodingKey).getD (.text default.encoding.loose)) with
  | error e =>
    rw [he] at h
    cases h
  | ok name =>
    rw [he] at h
    simp only [bind, Except.bind] at h
    split at h
    · cases h
    · cases h
      exact exists_lookup_of_checkEncoding he

theorem ofMapping_of_encoding {values : List (Value × Value)} {v : Value} {name : Text}
    (he : value? values encodingKey = some v) (hl : value? values levelKey = none)
    (hv : checkEncoding v = .ok name) (room : Nat) :
    ofMapping room values = .ok ⟨name, default.level⟩ := by
  rw [ofMapping, make, he, hl, Option.getD_some, Option.getD_none, hv, checkLevel_default]
  rfl

end Settings

end GridRobot
