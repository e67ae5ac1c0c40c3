import GridRobot.Encoding.Encode
import GridRobot.Files.System

/-! # Stores of files

A store is a file system of directories and files. It knows the working directory. A path is looked
up name by name, from the working directory on or, if it starts with a slash, from the outermost
directory.

Main statement: a file that was written holds what was written, and no other file has changed
(`content?_write`), so a store is a file system (`system`). -/

namespace GridRobot

open Encoding (Bytes)

/-- The names that lead from the outermost directory to a place. -/
abbrev Place := List Bytes

/-- The directories and the files of a system. The working directory and all around it are
directories without being listed. -/
structure FileStore where
  home : Place := []
  directories : List Place := []
  files : List (Place × Bytes) := []

/-- What a path leads to. A `slash` tells that the path ends in one. No file can have a name that is
too long. -/
inductive Target where
  | directory
  | overlong (slash : Bool)
  | file (place : Place) (content : Bytes) (slash : Bool)
  | missing (place : Place) (slash : Bool)

namespace FileStore

def notFound : OpenError := ⟨2, "No such file or directory".toList⟩

def notDirectory : OpenError := ⟨20, "Not a directory".toList⟩

def directoryFound : OpenError := ⟨21, "Is a directory".toList⟩

def nameTooLong : OpenError := ⟨36, "File name too long".toList⟩

def content? (s : FileStore) (place : Place) : Option Bytes :=
  s.files.lookup place

def isDirectory (s : FileStore) (place : Place) : Bool :=
  place.isPrefixOf s.home || s.directories.contains place

/-- The length of the longest name of a file, in bytes. -/
def maxNameLength : Nat := 255

/-- The length of the longest path, in bytes. -/
def maxPathLength : Nat := 4095

def slash : UInt8 := 0x2F

/-- The name of a directory in itself. -/
def here : Bytes := [0x2E]

/-- The name of the directory around a directory in it. -/
def around : Bytes := [0x2E, 0x2E]

/-- Follows names from a directory. -/
def follow (s : FileStore) (start : Place) : List Bytes → Except OpenError Target
  | [] => .ok .directory
  | name :: rest =>
    if name = [] ∨ name = here then s.follow start rest
    else if name = around then s.follow start.dropLast rest
    else
      let next := start ++ [name]
      let atEnd := rest.all (·.isEmpty)
      if maxNameLength < name.length then
        if atEnd then .ok (.overlong !rest.isEmpty) else .error nameTooLong
      else if s.isDirectory next then s.follow next rest
      else
        match s.content? next with
        | some content =>
          if atEnd then .ok (.file next content !rest.isEmpty) else .error notDirectory
        | none => if atEnd then .ok (.missing next !rest.isEmpty) else .error notFound

/-- What a path leads to. -/
def resolve (s : FileStore) (path : Bytes) : Except OpenError Target :=
  if maxPathLength < path.length then .error nameTooLong
  else match path.splitOn slash with
    | [[]] => .error notFound
    | [] :: names => s.follow [] names
    | names => s.follow s.home names

def read (s : FileStore) (path : Bytes) : Except OpenError Bytes := do
  match ← s.resolve path with
  | .directory => throw directoryFound
  | .file _ content false => return content
  | .file _ _ true => throw notDirectory
  | .missing .. => throw notFound
  | .overlong _ => throw nameTooLong

/-- The place of the file that is written at a path, which need not exist yet. -/
def writable (s : FileStore) (path : Bytes) : Except OpenError Place := do
  match ← s.resolve path with
  | .directory => throw directoryFound
  | .file place _ false | .missing place false => return place
  | .file _ _ true | .missing _ true | .overlong true => throw directoryFound
  | .overlong false => throw nameTooLong

/-- Puts a file in place of the one that is there, if any. -/
def write (s : FileStore) (place : Place) (content : Bytes) : FileStore :=
  { s with files := (place, content) :: s.files.filter (·.1 ≠ place) }

/-- The bytes of a path, in which some halves of surrogate pairs stand for single bytes. -/
def encodePath (place : Nat) : LooseText → Except Encoding.EncodeError Bytes
  | [] => .ok []
  | .char c :: path => (encodePath (place + 1) path).map (Encoding.utf8Char c ++ ·)
  | .half n :: path =>
    if 0xDC80 ≤ n ∧ n ≤ 0xDCFF then (encodePath (place + 1) path).map (n.toUInt8 :: ·)
    else
      let more := (path.takeWhile fun x => x.char?.isNone).length
      .error (.unencodable "utf-8".toList (.half n) place (place + 1 + more)
        "surrogates not allowed".toList)

theorem content?_write (s : FileStore) (place other : Place) (content : Bytes) :
    (s.write place content).content? other =
      if other = place then some content else s.content? other := by
  unfold content? write
  by_cases h : other = place
  · simp [h]
  · simp only [List.lookup_cons, beq_false_of_ne h, if_neg h]
    induction s.files with
    | nil => rfl
    | cons f fs ih =>
      obtain ⟨p, b⟩ := f
      by_cases hp : p = place
      · subst hp
        simpa [List.lookup_cons, beq_false_of_ne h] using ih
      · by_cases ho : other = p
        · subst ho
          simp [hp]
        · simpa [hp, List.lookup_cons, beq_false_of_ne ho] using ih

theorem content?_write_self (s : FileStore) (place : Place) (content : Bytes) :
    (s.write place content).content? place = some content := by
  rw [content?_write, if_pos rfl]

theorem content?_write_of_ne (s : FileStore) {place other : Place} (h : other ≠ place)
    (content : Bytes) : (s.write place content).content? other = s.content? other := by
  rw [content?_write, if_neg h]

/-- Opens a file, which is empty then. -/
def create (s : FileStore) (path : Bytes) : Except OpenError (Place × FileStore) :=
  (s.writable path).map fun place => (place, s.write place [])

theorem eq_write_of_create {s s' : FileStore} {path : Bytes} {place : Place}
    (h : s.create path = .ok (place, s')) : s' = s.write place [] := by
  unfold create at h
  cases hw : s.writable path with
  | error e =>
    rw [hw] at h
    cases h
  | ok place' =>
    rw [hw] at h
    cases h
    rfl

def system : FileSystem where
  State := FileStore
  File := Place
  encodePath := encodePath 0
  read := read
  create := create
  write := write
  content? := content?
  Keeps _ := True
  content?_create h _ := eq_write_of_create h ▸ content?_write_self _ _ _
  content?_create_of_ne h hg := eq_write_of_create h ▸ content?_write_of_ne _ hg _
  content?_write s _ _ bs := content?_write_self s _ bs
  content?_write_of_ne s _ _ hg bs := content?_write_of_ne s hg bs

end FileStore

end GridRobot
