import GridRobot.Proofs.Settings.Accepted
import GridRobot.Proofs.Value.Showing

/-!
# How settings are made

Two values are checked one after the other, and each check ends in one of a few ways. Some of them
are not foreseen: a name with a null character or with half of a surrogate pair, and a level that
holds an integer too long to write, or parts too deep inside of each other.

Main statement: `makingEnds`.
-/

namespace GridRobot

open Encoding (Codec lookup textOfLoose)

namespace Encoding

theorem textOfLoose_loose (place : Nat) (t : Text) : textOfLoose place t.loose = .ok t := by
  induction t generalizing place with
  | nil => rfl
  | cons c t ih =>
    have hrest := ih (place + 1)
    unfold Text.loose at hrest ⊢
    rw [List.map_cons, textOfLoose, hrest]
    rfl

theorem eq_loose_of_textOfLoose {place : Nat} {loose : LooseText} {t : Text}
    (h : textOfLoose place loose = .ok t) : loose = t.loose := by
  induction loose generalizing place t with
  | nil =>
    cases h
    rfl
  | cons x loose ih =>
    cases x with
    | half n => cases h
    | char c =>
      rw [textOfLoose] at h
      cases hr : textOfLoose (place + 1) loose with
      | error e =>
        rw [hr] at h
        cases h
      | ok u =>
        rw [hr] at h
        cases h
        rw [ih hr]
        rfl

/-- Only a half of a surrogate pair keeps a loose text from being one. -/
theorem exists_half_of_textOfLoose {place : Nat} {loose : LooseText} {e : EncodeError}
    (h : textOfLoose place loose = .error e) : ∃ n, .half n ∈ loose := by
  induction loose generalizing place with
  | nil => cases h
  | cons x loose ih =>
    cases x with
    | half n => exact ⟨n, List.mem_cons_self⟩
    | char c =>
      rw [textOfLoose] at h
      cases hr : textOfLoose (place + 1) loose with
      | error e' =>
        rw [hr] at h
        cases h
        obtain ⟨n, hn⟩ := ih hr
        exact ⟨n, List.mem_cons_of_mem _ hn⟩
      | ok u =>
        rw [hr] at h
        cases h

theorem lookup_error {name : Text} {e : NameError} (h : lookup name = .error e) :
    '\x00' ∈ name ∧ e = .embeddedNull ∨ '\x00' ∉ name ∧ e = .unknown name := by
  unfold lookup at h
  split at h
  · next hn => exact .inl ⟨hn, (Except.error.inj h).symm⟩
  · next hn =>
    split at h
    · cases h
    · exact .inr ⟨hn, (Except.error.inj h).symm⟩

end Encoding

theorem LooseText.eq_loose_of_text? {loose : LooseText} {t : Text} (h : loose.text? = some t) :
    loose = t.loose := by
  induction loose generalizing t with
  | nil =>
    cases h
    rfl
  | cons x loose ih =>
    cases x with
    | half n => cases h
    | char c =>
      unfold text? at h ih
      rw [List.mapM_cons] at h
      cases hr : loose.mapM CodePoint.char? with
      | none =>
        rw [hr] at h
        cases h
      | some u =>
        rw [hr] at h
        cases h
        rw [ih hr]
        rfl

theorem Level.ofName?_eq_some_iff {t : Text} {level : Level} :
    Level.ofName? t = some level ↔ t = level.name := by
  constructor
  · intro h
    have hname := List.find?_some h
    exact (of_decide_eq_true hname).symm
  · rintro rfl
    cases level <;> decide

namespace Settings

/-- How the check of an encoding ends. -/
inductive EncodingEnds : Value → Except Error Text → Prop where
  | known {name : Text} {codec? : Option Codec} (hs : lookup name = .ok codec?) :
    EncodingEnds (.text name.loose) (.ok name)
  | unknown {name : Text} (hs : lookup name = .error (.unknown name)) :
    EncodingEnds (.text name.loose)
      (.error (.configuration encodingKey.loose
        (Encoding.NameError.unknown name).message.loose))
  | notText {v : Value} (hv : ∀ t, v ≠ .text t) :
    EncodingEnds v (.error (.configuration encodingKey.loose
      (Text.loose ("lookup() argument must be str, not ".toList ++ v.typeName))))
  | null {name : Text} (hn : '\x00' ∈ name) :
    EncodingEnds (.text name.loose) (.error (.encoding .embeddedNull))
  | half {t : LooseText} {n : Nat} {e : Encoding.EncodeError} (hn : .half n ∈ t) :
    EncodingEnds (.text t) (.error (.encode e))

/-- How the check of a level ends. -/
inductive LevelEnds (room : Nat) (v : Value) : Except Error Level → Prop where
  | known {t : LooseText} {level : Level} (ht : v.str room = .ok t)
      (hl : t.upper = level.name.loose) : LevelEnds room v (.ok level)
  | unknown {t : LooseText} (ht : v.str room = .ok t)
      (hl : ∀ level : Level, t.upper ≠ level.name.loose) :
    LevelEnds room v (.error (.configuration levelKey.loose
      (Text.loose ("expected one of ".toList ++ levelNames ++ ", got ".toList) ++ t.upper)))
  | unwritable (hs : v.str room = .error .unwritable) (hw : v.isWritable = false) :
    LevelEnds room v (.error (.fault (.numeral .unwritable)))
  | tooDeep {form : Text} (hs : v.str room = .error (.tooDeep form)) (hd : room < v.height) :
    LevelEnds room v (.error (.tooDeep form))

theorem encodingEnds (v : Value) : EncodingEnds v (checkEncoding v) := by
  unfold checkEncoding
  split
  · next loose =>
    cases ht : textOfLoose 0 loose with
    | error e =>
      obtain ⟨n, hn⟩ := Encoding.exists_half_of_textOfLoose ht
      exact .half hn
    | ok name =>
      obtain rfl := Encoding.eq_loose_of_textOfLoose ht
      rw [mapError_ok]
      cases hs : lookup name with
      | ok scheme =>
        simp only [bind, Except.bind, hs]
        exact .known hs
      | error e =>
        rcases Encoding.lookup_error hs with ⟨hn, rfl⟩ | ⟨_, rfl⟩
        · simp only [bind, Except.bind, hs]
          exact .null hn
        · simp only [bind, Except.bind, hs]
          exact .unknown hs
  · next hv => exact .notText hv

theorem levelEnds (room : Nat) (v : Value) : LevelEnds room v (checkLevel room v) := by
  have hstr := Value.endsAs_str v room
  unfold checkLevel
  cases ht : v.str room with
  | error e =>
    rw [ht] at hstr
    cases e with
    | unwritable => exact .unwritable ht hstr
    | tooDeep form => exact .tooDeep ht hstr
  | ok t =>
    simp only [mapError_ok, bind, Except.bind]
    cases hl : t.upper.text?.bind Level.ofName? with
    | some level =>
      obtain ⟨name, hname, hlevel⟩ := Option.bind_eq_some_iff.mp hl
      have hupper : t.upper = level.name.loose := by
        rw [LooseText.eq_loose_of_text? hname, Level.ofName?_eq_some_iff.mp hlevel]
      exact .known ht hupper
    | none =>
      refine .unknown ht fun level hupper => ?_
      rw [hupper, LooseText.text?_loose, Option.bind_some,
        Level.ofName?_eq_some_iff.mpr rfl] at hl
      cases hl

/-- How the making of settings ends. The level is not looked at before the encoding is known. -/
inductive MakingEnds (room : Nat) (encoding level : Value) : Except Error Settings → Prop where
  | made {name : Text} {chosen : Level} (he : EncodingEnds encoding (.ok name))
      (hl : LevelEnds room level (.ok chosen)) : MakingEnds room encoding level (.ok ⟨name, chosen⟩)
  | encodingRefused {e : Error} (he : EncodingEnds encoding (.error e)) :
    MakingEnds room encoding level (.error e)
  | levelRefused {name : Text} {e : Error} (he : EncodingEnds encoding (.ok name))
      (hl : LevelEnds room level (.error e)) : MakingEnds room encoding level (.error e)

theorem makingEnds (room : Nat) (encoding level : Option Value) :
    MakingEnds room (encoding.getD (.text default.encoding.loose))
      (level.getD (.text default.level.name.loose)) (make room encoding level) := by
  have he := encodingEnds (encoding.getD (.text default.encoding.loose))
  have hl := levelEnds room (level.getD (.text default.level.name.loose))
  unfold make
  cases hname : checkEncoding (encoding.getD (.text default.encoding.loose)) with
  | error e =>
    rw [hname] at he
    exact .encodingRefused he
  | ok name =>
    rw [hname] at he
    cases hchosen : checkLevel room (level.getD (.text default.level.name.loose)) with
    | error e =>
      rw [hchosen] at hl
      exact .levelRefused he hl
    | ok chosen =>
      rw [hchosen] at hl
      exact .made he hl

end Settings

end GridRobot
