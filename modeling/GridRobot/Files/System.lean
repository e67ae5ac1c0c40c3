import GridRobot.Encoding.Fault
import GridRobot.Fault

/-! # File systems

A path is given to the system as bytes. The system reads files, and opens files to write to them; it
can refuse either for reasons of its own. What it does is taken as it comes, but for one thing: who
writes to a file changes no other file, and leaves nothing in it of what it held before. -/

namespace GridRobot

open Encoding (Bytes EncodeError)

/-- Why a file was not opened, by the number and the words of the system. -/
structure OpenError where
  number : Nat
  text : Text
  deriving DecidableEq, Repr

/-- The error as it is reported for a path. -/
def OpenError.message (e : OpenError) (path : LooseText) : Text :=
  "[Errno ".toList ++ Numeral.digits e.number ++ "] ".toList ++ e.text ++ ": ".toList ++ path.quoted

/-- A file system. Its states tell what all files hold. -/
structure FileSystem where
  State : Type
  /-- Files themselves, of which one may have many paths. -/
  File : Type
  encodePath : LooseText → Except EncodeError Bytes
  /-- The bytes of the file at a path. -/
  read : State → Bytes → Except OpenError Bytes
  /-- Opens the file at a path for writing, and empties it. There may have been none before. -/
  create : State → Bytes → Except OpenError (File × State)
  write : State → File → Bytes → State
  content? : State → File → Option Bytes
  /-- The file holds what is written to it, which a device need not. -/
  Keeps : File → Prop
  content?_create {s s' : State} {path : Bytes} {f : File} (h : create s path = .ok (f, s')) :
    Keeps f → content? s' f = some []
  content?_create_of_ne {s s' : State} {path : Bytes} {f g : File}
    (h : create s path = .ok (f, s')) (hg : g ≠ f) : content? s' g = content? s g
  content?_write (s : State) {f : File} (hf : Keeps f) (bs : Bytes) :
    content? (write s f bs) f = some bs
  content?_write_of_ne (s : State) {f g : File} (hg : g ≠ f) (bs : Bytes) :
    content? (write s f bs) g = content? s g

/-- Why nothing was opened at a path. -/
inductive PathError where
  /-- The path has no bytes. -/
  | encode (error : EncodeError)
  | null
  | refused (error : OpenError)

namespace FileSystem

variable (F : FileSystem)

/-- The bytes of a path that the system can be asked for. -/
def pathBytes (path : LooseText) : Except PathError Bytes := do
  let bytes ← (F.encodePath path).mapError .encode
  if .char '\x00' ∈ path then throw .null
  return bytes

def readPath (s : F.State) (path : LooseText) : Except PathError Bytes := do
  (F.read s (← F.pathBytes path)).mapError .refused

def createPath (s : F.State) (path : LooseText) : Except PathError (F.File × F.State) := do
  (F.create s (← F.pathBytes path)).mapError .refused

/-- The two states tell the same of all files but one. -/
def SameBut (file : F.File) (s s' : F.State) : Prop :=
  ∀ other, other ≠ file → F.content? s' other = F.content? s other

variable {F} {s s' : F.State} {path : LooseText} {file : F.File}

theorem readPath_cases (hp : .char '\x00' ∉ path) (s : F.State) :
    (∃ bytes, F.readPath s path = .ok bytes) ∨ (∃ e, F.readPath s path = .error (.refused e)) ∨
      ∃ e, F.encodePath path = .error e ∧ F.readPath s path = .error (.encode e) := by
  unfold readPath pathBytes
  cases F.encodePath path with
  | error e => exact .inr (.inr ⟨e, rfl, rfl⟩)
  | ok bytes =>
    simp only [mapError_ok, bind, Except.bind, if_neg hp, pure, Except.pure]
    cases F.read s bytes with
    | error e => exact .inr (.inl ⟨e, rfl⟩)
    | ok content => exact .inl ⟨content, rfl⟩

theorem createPath_cases (hp : .char '\x00' ∉ path) (s : F.State) :
    (∃ file s', F.createPath s path = .ok (file, s')) ∨
      (∃ e, F.createPath s path = .error (.refused e)) ∨
      ∃ e, F.encodePath path = .error e ∧ F.createPath s path = .error (.encode e) := by
  unfold createPath pathBytes
  cases F.encodePath path with
  | error e => exact .inr (.inr ⟨e, rfl, rfl⟩)
  | ok bytes =>
    simp only [mapError_ok, bind, Except.bind, if_neg hp, pure, Except.pure]
    cases F.create s bytes with
    | error e => exact .inr (.inl ⟨e, rfl⟩)
    | ok created => exact .inl ⟨created.1, created.2, rfl⟩

theorem create_of_createPath (h : F.createPath s path = .ok (file, s')) :
    ∃ bytes, F.create s bytes = .ok (file, s') := by
  unfold createPath at h
  cases hb : F.pathBytes path with
  | error e =>
    rw [hb] at h
    cases h
  | ok bytes =>
    rw [hb] at h
    refine ⟨bytes, ?_⟩
    cases hc : F.create s bytes with
    | error e =>
      simp only [bind, Except.bind, hc, mapError_error] at h
      cases h
    | ok created =>
      simp only [bind, Except.bind, hc, mapError_ok] at h
      exact congrArg Except.ok (Except.ok.inj h)

theorem content?_createPath (h : F.createPath s path = .ok (file, s')) (hk : F.Keeps file) :
    F.content? s' file = some [] := by
  obtain ⟨_, hc⟩ := create_of_createPath h
  exact F.content?_create hc hk

theorem sameBut_createPath (h : F.createPath s path = .ok (file, s')) : F.SameBut file s s' := by
  obtain ⟨_, hc⟩ := create_of_createPath h
  exact fun _ => F.content?_create_of_ne hc

theorem sameBut_write (h : F.createPath s path = .ok (file, s')) (bs : Bytes) :
    F.SameBut file s (F.write s' file bs) := fun other ho =>
  (F.content?_write_of_ne s' ho bs).trans (sameBut_createPath h other ho)

end FileSystem

end GridRobot
