import GridRobot.Proofs.CommandLine.Plan
import GridRobot.Proofs.Files.Writing

/-!
# Commands on the line and commands in a file

The same commands can be given as arguments, and their log is printed, or in a file, and their log
is written to another. Both come to the same log: what is printed has a line feed behind each entry,
and what is written lacks the last of them. A path that begins with a hyphen is read as an option,
unless it stands behind two hyphens.

Main statements: `explain_agrees_with_run`, and `not_forall_explain_agrees_with_run` for a path that
is read as an option.
-/

namespace GridRobot.CommandLine

open Encoding (utf8)
open Text (HoldsLines IsUnbroken)

/-! ### Texts that are printed -/

theorem char_mem_loose {c : Char} {t : Text} : .char c ∈ t.loose ↔ c ∈ t :=
  List.mem_map_of_injective fun _ _ => CodePoint.char.inj

theorem loose_lines (ts : List Text) :
    Text.loose (ts.flatMap (· ++ ['\n'])) = ts.flatMap fun t => t.loose ++ [.char '\n'] := by
  unfold Text.loose
  rw [List.map_flatMap]
  exact List.flatMap_congr fun t _ => List.map_append

theorem dropLast_lines (ts : List Text) :
    (ts.flatMap (· ++ ['\n'])).dropLast = ['\n'].intercalate ts := by
  induction ts with
  | nil => rfl
  | cons t ts ih =>
    cases ts with
    | nil =>
      have hone : [t].flatMap (· ++ ['\n']) = t ++ ['\n'] := List.append_nil _
      rw [hone, List.dropLast_concat]
      exact (List.append_nil t).symm
    | cons u ts =>
      have hne : (u :: ts).flatMap (· ++ ['\n']) ≠ [] := by
        rw [List.flatMap_cons]
        have hu : u ++ ['\n'] ≠ [] := List.append_ne_nil_of_right_ne_nil u (List.cons_ne_nil _ _)
        exact List.append_ne_nil_of_left_ne_nil hu _
      rw [List.flatMap_cons, List.dropLast_append_of_ne_nil hne, ih, List.intercalate_cons_cons]

theorem count_lines {ts : List Text} (h : ∀ t ∈ ts, '\n' ∉ t) :
    (ts.flatMap (· ++ ['\n'])).count '\n' = ts.length := by
  induction ts with
  | nil => rfl
  | cons t ts ih =>
    have ht : t.count '\n' = 0 := List.count_eq_zero_of_not_mem (h t (List.mem_cons_self ..))
    have hts := ih fun u hu => h u (List.mem_cons_of_mem _ hu)
    rw [List.flatMap_cons, List.count_append, List.count_append, ht, hts, List.length_cons]
    simp only [List.count_singleton_self]
    omega

/-- Nothing that is noted on a run is shown unless it is asked for. -/
theorem shownNotes_warning (notes : Array Note) : shownNotes .warning notes = [] := by
  have hnone : (notes.toList.filter fun n => Level.warning.number ≤ n.level.number) = [] := by
    rw [List.filter_eq_nil_iff]
    intro n _
    have hlow : n.level.number < Level.warning.number := by
      cases n <;> simp only [Note.level, Level.number, Nat.reduceLT]
    simpa using hlow
  rw [shownNotes, hnone, List.flatMap_nil]

theorem escape_not_mem_report {output : LooseText} (h : .char '\x1b' ∉ output) (n : Nat) :
    .char '\x1b' ∉ report n output := by
  have hesc : Text.IsClosed (· ≠ '\x1b') := Text.isClosed_ne (by decide)
  have hdigits : Text.Within (· ≠ '\x1b') (Numeral.digits n) := by
    rw [← Numeral.text_natCast]
    exact Numeral.within_text hesc n
  have hwrote : Text.Within (· ≠ '\x1b') "Wrote ".toList := hesc.words (by decide +kernel)
  have hto : Text.Within (· ≠ '\x1b') " log entries to ".toList := hesc.words (by decide +kernel)
  have hwords := Text.within_ne_iff.mp ((hwrote.append hdigits).append hto)
  intro hm
  rcases List.mem_append.mp hm with hm | hm
  · exact hwords (char_mem_loose.mp hm)
  · exact h hm

/-! ### The two commands -/

variable {H : Host} {T : Terminal H.files.State} {commands : List Text} {s : H.files.State}

theorem perform_of_plan {c : Call H.files.State} {settings : Settings} {t : Task}
    (h : c.plan H T = .ok (settings, t)) : c.perform H T = t.perform H T c.files settings := by
  rw [Call.perform, h]

theorem perform_explain (hT : T.Conforms) (hl : totalLength commands < 10 ^ 4298)
    (hu : ∀ t ∈ (Run.ofLines commands).logTexts, '\x1b' ∉ t) (s : H.files.State) :
    (Task.explain commands).perform H T s .default =
      ⟨s, Text.loose ((Run.ofLines commands).logTexts.flatMap (· ++ ['\n'])), [], .ok 0⟩ := by
  have hf : (({} : Run).processCommands commands).fault = none := Run.fault_ofLines hl
  have hprinted : ((Run.ofLines commands).logTexts.flatMap fun t => T.echo t.loose) =
      Text.loose ((Run.ofLines commands).logTexts.flatMap (· ++ ['\n'])) := by
    rw [loose_lines]
    exact List.flatMap_congr fun t ht => hT.echo (mt char_mem_loose.mp (hu t ht))
  rw [Task.perform]
  simp only [hf]
  rw [show Settings.default.level = .warning from rfl, shownNotes_warning, ← hprinted]
  rfl

theorem readCommands_lines {input : LooseText} (hc : ∀ c ∈ commands, IsUnbroken c)
    (hl : totalLength commands < 10 ^ 4298)
    (hr : H.files.readPath s input = .ok (utf8 (commands.flatMap (· ++ ['\n'])))) :
    (H.readCommands s input Settings.default.encoding).result =
      .ok (Run.ofLines commands).log.toList := by
  have hlines : (⟨commands.flatMap (· ++ ['\n']), none⟩ : Encoding.Decoded).lines = commands :=
    Text.lines_of_holdsLines (.ended commands) hc (Or.inl rfl)
  have hroom : totalLength (⟨commands.flatMap (· ++ ['\n']), none⟩ : Encoding.Decoded).lines <
      10 ^ 4298 := by rwa [hlines]
  have hseen : (⟨commands.flatMap (· ++ ['\n']), none⟩ : Encoding.Decoded).faultSeen = none :=
    ite_self none
  rw [readCommands_of_room hr (Encoding.decode_encode_utf8 _) hroom, hseen, hlines]

/-- What a run from file to file leaves: the log, and a line that says how long it is. -/
theorem perform_run {input output : LooseText} {file : H.files.File} {opened : H.files.State}
    (hc : ∀ c ∈ commands, IsUnbroken c) (hl : totalLength commands < 10 ^ 4298)
    (hr : H.files.readPath s input = .ok (utf8 (commands.flatMap (· ++ ['\n']))))
    (hw : H.files.createPath s output = .ok (file, opened)) :
    (Task.run input output).perform H T s .default =
      ⟨H.files.write opened file (utf8 (['\n'].intercalate (Run.ofLines commands).logTexts)),
        T.echo (report (Run.ofLines commands).logTexts.length output), [], .ok 0⟩ := by
  have hlen : (Run.ofLines commands).log.toList.length = (Run.ofLines commands).logTexts.length :=
    (List.length_map _).symm
  have htexts : (Run.ofLines commands).log.toList.map Entry.text =
      (Run.ofLines commands).logTexts := rfl
  obtain ⟨_, notes, hprocess⟩ := processFile_of_ok output (readCommands_lines hc hl hr)
  rw [htexts, writeLines_default hw] at hprocess
  rw [Task.perform]
  simp only [hprocess, hlen]
  rw [show Settings.default.level = .warning from rfl, shownNotes_warning]

/-- A run from file to file against the text that is printed for the same commands: the last line
feed is missing in the file, and the entries that are counted are the lines of the text. -/
structure WritesAs (H : Host) (T : Terminal H.files.State) (text : Text) (s : H.files.State)
    (output : LooseText) (file : H.files.File) (ran : Outcome H.files.State) : Prop where
  status : ran.status = .ok 0
  messages : ran.messages = []
  written : H.files.Keeps file → H.files.content? ran.files file = some (utf8 text.dropLast)
  others : H.files.SameBut file s ran.files
  report : ran.output = T.echo (report (text.count '\n') output)
  plainReport : .char '\x1b' ∉ output ∨ (∀ line, T.echo line = line ++ [.char '\n']) →
    ran.output = Text.loose ("Wrote ".toList ++ Numeral.digits (text.count '\n') ++
      " log entries to ".toList) ++ output ++ [.char '\n']

/-- Commands print the log that they write from a file. -/
theorem explain_agrees_with_run (H : Host) {T : Terminal H.files.State} (hT : T.Conforms)
    (hne : commands ≠ []) (hc : ∀ c ∈ commands, IsUnbroken c ∧ '\x1b' ∉ c)
    (hl : totalLength commands < 10 ^ 4298) :
    let text : Text := (Run.ofLines commands).logTexts.flatMap (· ++ ['\n'])
    (∀ s, Call.perform H T
        ⟨s, none, Text.loose "explain".toList :: twoHyphens :: commands.map Text.loose⟩ =
      ⟨s, text.loose, [], .ok 0⟩) ∧
    ∀ {s opened : H.files.State} {input output : LooseText} {file : H.files.File}
      {arguments : List LooseText}, Gives [input, output] arguments →
      H.files.readPath s input = .ok (utf8 (commands.flatMap (· ++ ['\n']))) →
      H.files.createPath s output = .ok (file, opened) → H.files.IsReadableOrMissing s output →
      WritesAs H T text s output file
        (Call.perform H T ⟨s, none, Text.loose "run".toList :: arguments⟩) := by
  intro text
  have hu : ∀ c ∈ commands, IsUnbroken c := fun c h => (hc c h).1
  have hentries : ∀ t ∈ (Run.ofLines commands).logTexts, '\n' ∉ t ∧ '\x1b' ∉ t := by
    intro t ht
    obtain ⟨e, he, rfl⟩ := List.mem_map.mp ht
    have hn : '\n' ∉ e.text := (isUnbroken_of_mem_log hu he).2
    have hesc : '\x1b' ∉ e.text := not_mem_of_mem_log (by decide) (fun c h => (hc c h).2) he
    exact ⟨hn, hesc⟩
  constructor
  · intro s
    rw [perform_of_plan (Call.plan_explain hT hne)]
    exact perform_explain hT hl (fun t ht => (hentries t ht).2) s
  · intro s opened input output file arguments hg hr hw ho
    have hcount : text.count '\n' = (Run.ofLines commands).logTexts.length :=
      count_lines fun t ht => (hentries t ht).1
    have hran : Call.perform H T ⟨s, none, Text.loose "run".toList :: arguments⟩ =
        ⟨H.files.write opened file (utf8 text.dropLast),
          T.echo (report (text.count '\n') output), [], .ok 0⟩ := by
      rw [perform_of_plan (Call.plan_run hT hg (.inl ⟨_, hr⟩) ho), perform_run hu hl hr hw, hcount,
        dropLast_lines]
    rw [hran]
    exact {
      status := rfl
      messages := rfl
      written := fun hk => H.files.content?_write opened hk _
      others := FileSystem.sameBut_write hw _
      report := rfl
      plainReport := by
        rintro (h | h)
        · exact hT.echo (escape_not_mem_report h _)
        · exact h _ }

/-- A small letter and a sentinel with a command behind it, given as arguments and in a file. -/
theorem explain_agrees_with_run_of_sentinel :
    let commands := ["n2".toList, ['Q'], "S 1".toList]
    let s := oneFile (utf8 "n2\nQ\nS 1\n".toList)
    let text : Text := (Run.ofLines commands).logTexts.flatMap (· ++ ['\n'])
    Call.perform sampleHost console
        ⟨s, none, Text.loose "explain".toList :: twoHyphens :: commands.map Text.loose⟩ =
      ⟨s, text.loose, [], .ok 0⟩ ∧
    WritesAs sampleHost console text s [.char 'o'] [utf8 ['o']] (Call.perform sampleHost console
      ⟨s, none, [Text.loose "run".toList, [.char 'c'], [.char 'o']]⟩) := by
  intro commands s text
  have hc : ∀ c ∈ commands, IsUnbroken c ∧ '\x1b' ∉ c := by
    unfold IsUnbroken
    decide
  have hl : totalLength commands < 10 ^ 4298 := by decide +kernel
  have ho : sampleHost.files.IsReadableOrMissing s [.char 'o'] :=
    .inr ⟨FileStore.notFound, rfl, rfl⟩
  obtain ⟨hexplain, hrun⟩ :=
    explain_agrees_with_run sampleHost conforms_console (List.cons_ne_nil _ _) hc hl
  exact ⟨hexplain s, hrun (.plain (by decide)) (readPath_oneFile _) rfl ho⟩

section Hyphen

/-- A store with a command in a file whose name begins with a hyphen. -/
def hyphenFile : FileStore :=
  { files := [([utf8 ['-', 'x']], utf8 "N 1\n".toList)] }

/-- The path of the commands is read as an option of the command, which has none of this name. -/
theorem status_hyphenFile : (Call.perform sampleHost console
    ⟨hyphenFile, none, [Text.loose "run".toList, Text.loose "-x".toList, [.char 'o']]⟩).status =
      .ok 2 := by
  rfl

theorem not_forall_explain_agrees_with_run :
    ¬∀ (H : Host) (T : Terminal H.files.State), T.Conforms → ∀ commands : List Text,
      commands ≠ [] → (∀ c ∈ commands, IsUnbroken c ∧ '\x00' ∉ c ∧ '\x1b' ∉ c) →
      totalLength commands < 10 ^ 4298 →
      ∀ (s opened : H.files.State) (input output : LooseText) (file : H.files.File),
      H.files.readPath s input = .ok (utf8 (commands.flatMap (· ++ ['\n']))) →
      H.files.createPath s output = .ok (file, opened) → H.files.Keeps file →
      (Call.perform H T ⟨s, none, [Text.loose "run".toList, input, output]⟩).status = .ok 0 := by
  intro h
  have hc : ∀ c ∈ ["N 1".toList], IsUnbroken c ∧ '\x00' ∉ c ∧ '\x1b' ∉ c := by
    unfold IsUnbroken
    decide
  have hl : totalLength ["N 1".toList] < 10 ^ 4298 := by decide +kernel
  have hstatus := h sampleHost console conforms_console _ (List.cons_ne_nil _ _) hc hl hyphenFile
    (hyphenFile.write [utf8 ['o']] []) (Text.loose "-x".toList) [.char 'o'] [utf8 ['o']] rfl rfl
    trivial
  rw [status_hyphenFile] at hstatus
  cases hstatus

end Hyphen

end GridRobot.CommandLine
