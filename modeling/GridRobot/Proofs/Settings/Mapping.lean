import GridRobot.Proofs.Settings.Making

/-!
# Settings from a mapping

What becomes of a mapping depends on the two values that it gives for the settings, or on their
defaults, and on the room that there is for the text of the level. The encoding is judged first.

Main statements: `ofMapping_ends` says how and when the making of settings ends, and
`not_forall_valid_or_reported` that it does not always end with settings or a report.
-/

namespace GridRobot.Settings

open Encoding (lookup)

variable {room : Nat} {entries : List (Value × Value)} {encoding level : Value}
  {settings : Settings}

/-- The value that a mapping gives for the encoding. -/
def givenEncoding (entries : List (Value × Value)) : Value :=
  (value? entries encodingKey).getD (.text default.encoding.loose)

/-- The value that a mapping gives for the level. -/
def givenLevel (entries : List (Value × Value)) : Value :=
  (value? entries levelKey).getD (.text default.level.name.loose)

/-- The value names an encoding of the registry. -/
def NamesEncoding (v : Value) (name : Text) : Prop :=
  v = .text name.loose ∧ ∃ codec?, lookup name = .ok codec?

/-- The value is no text, or one that the registry looks up and does not know. -/
def NamesNoEncoding (v : Value) : Prop :=
  (∀ t, v ≠ .text t) ∨ ∃ name : Text, v = .text name.loose ∧ lookup name = .error (.unknown name)

/-- The capitals of the value's text are the name of the level. -/
def NamesLevel (room : Nat) (v : Value) (level : Level) : Prop :=
  ∃ t, v.str room = .ok t ∧ t.upper = level.name.loose

/-- The value has a text, and its capitals are not the name of a level. -/
def NamesNoLevel (room : Nat) (v : Value) : Prop :=
  ∃ t, v.str room = .ok t ∧ ∀ level : Level, t.upper ≠ level.name.loose

/-- The names of the levels with their numbers. -/
def levelNumbers : List (Text × Nat) :=
  [("DEBUG".toList, 10), ("INFO".toList, 20), ("WARNING".toList, 30), ("ERROR".toList, 40),
    ("CRITICAL".toList, 50)]

/-- The settings are those that two values stand for. -/
structure AreNamedBy (room : Nat) (encoding level : Value) (settings : Settings) : Prop where
  encoding_known : NamesEncoding encoding settings.encoding
  level_named : NamesLevel room level settings.level
  level_listed : (settings.level.name, settings.level.number) ∈ levelNumbers

theorem mem_levelNumbers (l : Level) : (l.name, l.number) ∈ levelNumbers := by
  cases l <;> decide

/-! ### The encoding -/

theorem checkEncoding_loose (name : Text) :
    checkEncoding (.text name.loose) =
      match lookup name with
      | .ok _ => .ok name
      | .error .embeddedNull => .error (.encoding .embeddedNull)
      | .error e => .error (.configuration encodingKey.loose e.message.loose) := by
  simp only [checkEncoding, Encoding.textOfLoose_loose, mapError_ok, bind, Except.bind]
  cases lookup name with
  | ok codec? => rfl
  | error e => cases e <;> rfl

theorem checkEncoding_eq_ok_iff {name : Text} :
    checkEncoding encoding = .ok name ↔ NamesEncoding encoding name := by
  constructor
  · intro h
    have hends := encodingEnds encoding
    rw [h] at hends
    cases hends with
    | known hs => exact ⟨rfl, _, hs⟩
  · rintro ⟨rfl, codec?, hs⟩
    rw [checkEncoding_loose, hs]

theorem checkEncoding_reports_iff {key : LooseText} :
    (∃ reason, checkEncoding encoding = .error (.configuration key reason)) ↔
      key = encodingKey.loose ∧ NamesNoEncoding encoding := by
  constructor
  · rintro ⟨reason, h⟩
    have hends := encodingEnds encoding
    rw [h] at hends
    cases hends with
    | unknown hs => exact ⟨rfl, .inr ⟨_, rfl, hs⟩⟩
    | notText hv => exact ⟨rfl, .inl hv⟩
  · rintro ⟨rfl, hv | ⟨name, rfl, hs⟩⟩
    · unfold checkEncoding
      split
      · next t => exact absurd rfl (hv t)
      · exact ⟨_, rfl⟩
    · rw [checkEncoding_loose, hs]
      exact ⟨_, rfl⟩

/-! ### The level -/

theorem checkLevel_eq_ok_iff {l : Level} : checkLevel room level = .ok l ↔ NamesLevel room level l := by
  constructor
  · intro h
    have hends := levelEnds room level
    rw [h] at hends
    cases hends with
    | known ht hl => exact ⟨_, ht, hl⟩
  · rintro ⟨t, ht, hl⟩
    have hlevel : t.upper.text?.bind Level.ofName? = some l := by
      rw [hl, LooseText.text?_loose, Option.bind_some, Level.ofName?_eq_some_iff]
    unfold checkLevel
    simp only [ht, mapError_ok, bind, Except.bind, hlevel]

theorem checkLevel_reports_iff {key : LooseText} :
    (∃ reason, checkLevel room level = .error (.configuration key reason)) ↔
      key = levelKey.loose ∧ NamesNoLevel room level := by
  have hends := levelEnds room level
  constructor
  · rintro ⟨reason, h⟩
    rw [h] at hends
    cases hends with
    | unknown ht hl => exact ⟨rfl, _, ht, hl⟩
  · rintro ⟨rfl, t, ht, hl⟩
    cases hc : checkLevel room level with
    | ok l =>
      obtain ⟨t', ht', hl'⟩ := checkLevel_eq_ok_iff.mp hc
      rw [ht] at ht'
      cases ht'
      exact absurd hl' (hl l)
    | error e =>
      rw [hc] at hends
      cases hends with
      | unknown _ _ => exact ⟨_, rfl⟩
      | unwritable hs _ =>
        rw [ht] at hs
        cases hs
      | tooDeep hs _ =>
        rw [ht] at hs
        cases hs

/-! ### The keys -/

theorem value?_cons_self (key : Text) (v : Value) (entries : List (Value × Value)) :
    value? ((.text key.loose, v) :: entries) key = some v := by
  simp [value?]

theorem value?_cons_of_ne {k : Value} {key : Text} (h : k ≠ .text key.loose) (v : Value)
    (entries : List (Value × Value)) : value? ((k, v) :: entries) key = value? entries key := by
  unfold value?
  cases k with
  | text t =>
    have ht : t ≠ key.loose := fun he => h (congrArg Value.text he)
    simp [ht]
  | _ => rfl

/-- The entry is one of a setting. -/
def isSetting (e : Value × Value) : Bool :=
  match e.1 with
  | .text key => key = encodingKey.loose || key = levelKey.loose
  | _ => false

theorem value?_filter {key : Text} (hkey : key = encodingKey ∨ key = levelKey) :
    value? (entries.filter isSetting) key = value? entries key := by
  induction entries with
  | nil => rfl
  | cons e entries ih =>
    obtain ⟨k, v⟩ := e
    by_cases hk : k = .text key.loose
    · have hs : isSetting (k, v) = true := by
        rcases hkey with rfl | rfl <;> simp [hk, isSetting]
      rw [List.filter_cons_of_pos hs, hk, value?_cons_self, value?_cons_self]
    · rw [value?_cons_of_ne hk, List.filter_cons]
      split
      · rw [value?_cons_of_ne hk, ih]
      · exact ih

theorem ofMapping_filter (room : Nat) (entries : List (Value × Value)) :
    ofMapping room (entries.filter isSetting) = ofMapping room entries := by
  rw [ofMapping, ofMapping, value?_filter (.inl rfl), value?_filter (.inr rfl)]

/-! ### Both settings -/

theorem makingEnds_ofMapping (room : Nat) (entries : List (Value × Value)) :
    MakingEnds room (givenEncoding entries) (givenLevel entries) (ofMapping room entries) :=
  makingEnds room (value? entries encodingKey) (value? entries levelKey)

theorem ofMapping_eq (room : Nat) (entries : List (Value × Value)) :
    ofMapping room entries = (checkEncoding (givenEncoding entries)).bind fun name =>
      (checkLevel room (givenLevel entries)).map fun level => ⟨name, level⟩ := by
  unfold ofMapping make givenEncoding givenLevel
  cases checkEncoding ((value? entries encodingKey).getD (.text default.encoding.loose)) with
  | error e => rfl
  | ok name =>
    cases checkLevel room ((value? entries levelKey).getD (.text default.level.name.loose)) <;> rfl

theorem ofMapping_eq_ok_iff :
    ofMapping room entries = .ok settings ↔
      AreNamedBy room (givenEncoding entries) (givenLevel entries) settings := by
  rw [ofMapping_eq]
  constructor
  · intro h
    cases he : checkEncoding (givenEncoding entries) with
    | error e =>
      rw [he] at h
      cases h
    | ok name =>
      cases hl : checkLevel room (givenLevel entries) with
      | error e =>
        rw [he, hl] at h
        cases h
      | ok level =>
        rw [he, hl] at h
        cases h
        exact ⟨checkEncoding_eq_ok_iff.mp he, checkLevel_eq_ok_iff.mp hl, mem_levelNumbers level⟩
  · rintro ⟨he, hl, _⟩
    rw [checkEncoding_eq_ok_iff.mpr he, checkLevel_eq_ok_iff.mpr hl]
    rfl

theorem ofMapping_eq_error_iff {e : Error} :
    ofMapping room entries = .error e ↔
      checkEncoding (givenEncoding entries) = .error e ∨
        (∃ name, NamesEncoding (givenEncoding entries) name) ∧
          checkLevel room (givenLevel entries) = .error e := by
  rw [ofMapping_eq]
  constructor
  · intro h
    cases he : checkEncoding (givenEncoding entries) with
    | error e' =>
      rw [he] at h
      cases h
      exact .inl rfl
    | ok name =>
      cases hl : checkLevel room (givenLevel entries) with
      | error e' =>
        rw [he, hl] at h
        cases h
        exact .inr ⟨⟨name, checkEncoding_eq_ok_iff.mp he⟩, rfl⟩
      | ok level =>
        rw [he, hl] at h
        cases h
  · rintro (he | ⟨⟨name, he⟩, hl⟩)
    · rw [he]
      rfl
    · rw [checkEncoding_eq_ok_iff.mpr he, hl]
      rfl

theorem ofMapping_reports_encoding_iff :
    (∃ reason, ofMapping room entries = .error (.configuration encodingKey.loose reason)) ↔
      NamesNoEncoding (givenEncoding entries) := by
  constructor
  · rintro ⟨reason, h⟩
    rcases ofMapping_eq_error_iff.mp h with he | ⟨_, hl⟩
    · exact (checkEncoding_reports_iff.mp ⟨reason, he⟩).2
    · have hkey := (checkLevel_reports_iff.mp ⟨reason, hl⟩).1
      exact absurd hkey (by decide)
  · intro h
    obtain ⟨reason, he⟩ := checkEncoding_reports_iff.mpr ⟨rfl, h⟩
    exact ⟨reason, ofMapping_eq_error_iff.mpr (.inl he)⟩

theorem ofMapping_reports_level_iff :
    (∃ reason, ofMapping room entries = .error (.configuration levelKey.loose reason)) ↔
      (∃ name, NamesEncoding (givenEncoding entries) name) ∧ NamesNoLevel room (givenLevel entries) := by
  constructor
  · rintro ⟨reason, h⟩
    rcases ofMapping_eq_error_iff.mp h with he | ⟨hname, hl⟩
    · have hkey := (checkEncoding_reports_iff.mp ⟨reason, he⟩).1
      exact absurd hkey (by decide)
    · exact ⟨hname, (checkLevel_reports_iff.mp ⟨reason, hl⟩).2⟩
  · rintro ⟨hname, h⟩
    obtain ⟨reason, hl⟩ := checkLevel_reports_iff.mpr ⟨rfl, h⟩
    exact ⟨reason, ofMapping_eq_error_iff.mpr (.inr ⟨hname, hl⟩)⟩

/-- Settings are made just of names of a known encoding and of a level. An encoding that is not known
is reported, and else a level that is none. All other ends are those of `MakingEnds` that are not
foreseen. Entries of other keys do not matter. -/
theorem ofMapping_ends (room : Nat) (entries : List (Value × Value)) :
    MakingEnds room (givenEncoding entries) (givenLevel entries) (ofMapping room entries) ∧
      (∀ settings, ofMapping room entries = .ok settings ↔
        AreNamedBy room (givenEncoding entries) (givenLevel entries) settings) ∧
      ((∃ reason, ofMapping room entries = .error (.configuration encodingKey.loose reason)) ↔
        NamesNoEncoding (givenEncoding entries)) ∧
      ((∃ reason, ofMapping room entries = .error (.configuration levelKey.loose reason)) ↔
        (∃ name, NamesEncoding (givenEncoding entries) name) ∧
          NamesNoLevel room (givenLevel entries)) ∧
      ofMapping room (entries.filter isSetting) = ofMapping room entries :=
  ⟨makingEnds_ofMapping room entries, fun _ => ofMapping_eq_ok_iff, ofMapping_reports_encoding_iff,
    ofMapping_reports_level_iff, ofMapping_filter room entries⟩

section EmbeddedNull

/-- A name of an encoding that holds the null character. -/
def nullName : Text := ['a', '\x00', 'b']

def nullEntries : List (Value × Value) :=
  [(.text encodingKey.loose, .text nullName.loose)]

theorem ofMapping_nullEntries (room : Nat) :
    ofMapping room nullEntries = .error (.encoding .embeddedNull) := by
  have hgiven : givenEncoding nullEntries = .text nullName.loose := by
    rw [givenEncoding, nullEntries, value?_cons_self]
    rfl
  have hlookup : lookup nullName = .error .embeddedNull := rfl
  refine ofMapping_eq_error_iff.mpr (.inl ?_)
  rw [hgiven, checkEncoding_loose, hlookup]

theorem not_forall_valid_or_reported :
    ¬∀ (room : Nat) (entries : List (Value × Value)),
      (∃ settings, ofMapping room entries = .ok settings) ∨
        (∃ reason, ofMapping room entries = .error (.configuration encodingKey.loose reason)) ∨
        ∃ reason, ofMapping room entries = .error (.configuration levelKey.loose reason) := by
  intro h
  rcases h 0 nullEntries with ⟨settings, hok⟩ | ⟨reason, herror⟩ | ⟨reason, herror⟩
  · rw [ofMapping_nullEntries] at hok
    cases hok
  · rw [ofMapping_nullEntries] at herror
    cases herror
  · rw [ofMapping_nullEntries] at herror
    cases herror

end EmbeddedNull

end GridRobot.Settings
