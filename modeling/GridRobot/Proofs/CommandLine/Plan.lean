import GridRobot.CommandLine.Call
import GridRobot.CommandLine.Console

/-!
# What a call without options is to do

A call that names a command and gives it nothing but its arguments has the default settings, and
its task is made of these arguments as they are. This is said of all terminals that read arguments
as they are documented to, of which the console is one.

Main statements: `plan_explain` and `plan_run`, and `conforms_console`.
-/

namespace GridRobot

/-- The path of a file that can be read, or of none at all, the error number of which is two. -/
def FileSystem.IsReadableOrMissing (F : FileSystem) (s : F.State) (path : LooseText) : Prop :=
  (∃ bytes, F.readPath s path = .ok bytes) ∨
    ∃ e, F.readPath s path = .error (.refused e) ∧ e.number = 2

theorem FileSystem.pathBytes_ne_refused (F : FileSystem) (path : LooseText) (e : OpenError) :
    F.pathBytes path ≠ .error (.refused e) := by
  intro h
  unfold pathBytes at h
  cases hb : F.encodePath path with
  | error e' =>
    rw [hb] at h
    cases h
  | ok bytes =>
    rw [hb] at h
    simp only [mapError_ok, bind, Except.bind] at h
    split at h <;> cases h

/-- The path has bytes, whether a file is there or not. -/
theorem FileSystem.IsReadableOrMissing.exists_pathBytes {F : FileSystem} {s : F.State}
    {path : LooseText} (h : F.IsReadableOrMissing s path) :
    ∃ bytes, F.pathBytes path = .ok bytes ∧
      ((∃ content, F.read s bytes = .ok content) ∨
        ∃ e, F.read s bytes = .error e ∧ e.number = 2) := by
  unfold IsReadableOrMissing readPath at h
  cases hb : F.pathBytes path with
  | error e =>
    rw [hb] at h
    rcases h with ⟨_, hr⟩ | ⟨_, hr, _⟩
    · cases hr
    · obtain rfl := Except.error.inj hr
      exact absurd hb (F.pathBytes_ne_refused path _)
  | ok bytes =>
    rw [hb] at h
    refine ⟨bytes, rfl, ?_⟩
    cases hc : F.read s bytes with
    | ok content => exact .inl ⟨content, rfl⟩
    | error e =>
      simp only [bind, Except.bind, hc, mapError_error] at h
      rcases h with ⟨_, hr⟩ | ⟨_, hr, he⟩
      · cases hr
      · cases hr
        exact .inr ⟨e, rfl, he⟩

namespace CommandLine

/-- The argument is not read as an option: no hyphen is in front of it, or it is nothing else. -/
def IsOperand (argument : LooseText) : Prop :=
  argument.head? = some (.char '-') → argument.length ≤ 1

instance (argument : LooseText) : Decidable (IsOperand argument) :=
  inferInstanceAs (Decidable (_ → _))

def twoHyphens : LooseText := [.char '-', .char '-']

/-- Two ways to give arguments: as they are, if none could be an option, or behind two hyphens. -/
inductive Gives (operands : List LooseText) : List LooseText → Prop where
  | plain (h : ∀ t ∈ operands, IsOperand t) : Gives operands operands
  | behindHyphens : Gives operands (twoHyphens :: operands)

/-- What a terminal is documented to do where no options are given. Arguments behind two hyphens are
handed on as they are, and so are those that could be no options. A path is refused if a directory
is there, or a file that cannot be read. A line is printed with a line feed behind it, and perhaps
without the sequences that set styles, which an escape character begins. -/
structure Terminal.Conforms {F : FileSystem} (T : Terminal F.State) : Prop where
  explainOptions (s : F.State) {commands : List Text} (hne : commands ≠ []) :
    T.options s none (Text.loose "explain".toList :: twoHyphens :: commands.map Text.loose) =
      .ok ({}, .explain, twoHyphens :: commands.map Text.loose)
  explainTask (s : F.State) {commands : List Text} (hne : commands ≠ []) :
    T.task s .explain (twoHyphens :: commands.map Text.loose) = .ok (.explain commands)
  runOptions (s : F.State) {input output : LooseText} {arguments : List LooseText}
    (h : Gives [input, output] arguments) :
    T.options s none (Text.loose "run".toList :: arguments) = .ok ({}, .run, arguments)
  runTask {s : F.State} {input output : LooseText} {arguments : List LooseText}
    (h : Gives [input, output] arguments) (hi : F.IsReadableOrMissing s input)
    (ho : F.IsReadableOrMissing s output) : T.task s .run arguments = .ok (.run input output)
  echo {line : LooseText} (h : .char '\x1b' ∉ line) : T.echo line = line ++ [.char '\n']

/-! ### Any terminal -/

namespace Call

variable {H : Host} {T : Terminal H.files.State} {s : H.files.State}

theorem plan_of_task {arguments rest : List LooseText} {page : Page} {task : Task}
    (ho : T.options s none arguments = .ok ({}, page, rest)) (ht : T.task s page rest = .ok task) :
    plan H T ⟨s, none, arguments⟩ = .ok (.default, task) := by
  unfold plan
  simp only [ho, ht, bind, Except.bind]
  rfl

theorem plan_explain (hT : T.Conforms) {commands : List Text} (hne : commands ≠ []) :
    plan H T ⟨s, none, Text.loose "explain".toList :: twoHyphens :: commands.map Text.loose⟩ =
      .ok (.default, .explain commands) :=
  plan_of_task (hT.explainOptions s hne) (hT.explainTask s hne)

theorem plan_run (hT : T.Conforms) {input output : LooseText} {arguments : List LooseText}
    (h : Gives [input, output] arguments) (hi : H.files.IsReadableOrMissing s input)
    (ho : H.files.IsReadableOrMissing s output) :
    plan H T ⟨s, none, Text.loose "run".toList :: arguments⟩ = .ok (.default, .run input output) :=
  plan_of_task (hT.runOptions s h) (hT.runTask h hi ho)

end Call

/-! ### The arguments that a console reads -/

namespace Given

variable {t : LooseText} {ts operands arguments : List LooseText}

theorem readFrom_operand (h : IsOperand t) (page : Page) (mixed : Bool) :
    readFrom page mixed none (t :: ts) =
      if mixed then (readFrom page mixed none ts).map fun g => { g with rest := t :: g.rest }
      else .ok ⟨[], t :: ts⟩ := by
  have hhyphens : t ≠ [hyphen, hyphen] := by
    rintro rfl
    exact absurd (h rfl) (by decide)
  have hoption : ¬isOption t = true := by
    intro ho
    unfold isOption hyphen at ho
    simp only [Bool.and_eq_true, decide_eq_true_eq] at ho
    have := h ho.1
    omega
  rw [readFrom, if_neg hhyphens, if_neg hoption]

theorem readFrom_hyphens (page : Page) (mixed : Bool) (ts : List LooseText) :
    readFrom page mixed none (twoHyphens :: ts) = .ok ⟨[], ts⟩ := by
  have hhyphens : twoHyphens = [hyphen, hyphen] := rfl
  rw [readFrom, if_pos hhyphens]

theorem read_of_gives (h : Gives operands arguments) (page : Page) :
    read page true arguments = .ok ⟨[], operands⟩ := by
  cases h with
  | behindHyphens => exact readFrom_hyphens page true operands
  | plain h =>
    unfold read
    induction operands with
    | nil => rw [readFrom]
    | cons t ts ih =>
      have hts := ih fun u hu => h u (List.mem_cons_of_mem _ hu)
      rw [readFrom_operand (h t (List.mem_cons_self ..)), if_pos rfl, hts]
      rfl

end Given

namespace Console

variable {s : FileStore} {operands arguments : List LooseText} {input output : LooseText}

/-- The name of a command is read in front of its arguments. -/
theorem options_of_lookup {name : Text} {page : Page} (h : IsOperand name.loose)
    (hn : commands.lookup name = some page) (s : FileStore) (arguments : List LooseText) :
    options s none (name.loose :: arguments) = .ok ({}, page, arguments) := by
  have hread : Given.read .program false (name.loose :: arguments) =
      .ok ⟨[], name.loose :: arguments⟩ :=
    (Given.readFrom_operand h .program false).trans (if_neg Bool.false_ne_true)
  have hoptions : readOptions s none (name.loose :: arguments) =
      .ok ({}, name.loose :: arguments) := by
    rw [readOptions, hread]
    rfl
  have hcommand : command s none (name.loose :: arguments) = .ok (page, arguments) := by
    unfold command
    simp only [LooseText.text?_loose, Option.bind_some, hn]
  unfold options
  simp only [List.isEmpty_cons, Bool.false_eq_true, if_false, hoptions, hcommand, bind, Except.bind]
  rfl

theorem task_explain (h : Gives operands arguments) (hne : operands ≠ []) (s : FileStore) :
    task s .explain arguments =
      .ok (.explain (operands.map fun c => c.map fun x => x.char?.getD '\uFFFD')) := by
  rw [task, Given.read_of_gives h]
  cases operands with
  | nil => exact absurd rfl hne
  | cons t ts => rfl

theorem map_char?_loose (t : Text) : t.loose.map (fun x => x.char?.getD '\uFFFD') = t := by
  induction t with
  | nil => rfl
  | cons c t ih => exact congrArg (c :: ·) ih

theorem resolve_ne_directory {bytes : Encoding.Bytes}
    (h : (∃ content, s.read bytes = .ok content) ∨ ∃ e, s.read bytes = .error e ∧ e.number = 2) :
    s.resolve bytes ≠ .ok .directory := by
  intro hd
  have hread : s.read bytes = .error FileStore.directoryFound := by
    rw [FileStore.read, hd]
    rfl
  rcases h with ⟨content, hr⟩ | ⟨e, hr, he⟩
  · rw [hread] at hr
    cases hr
  · rw [hread] at hr
    obtain rfl := Except.error.inj hr
    exact absurd he (by decide)

theorem checkPath_of_isReadableOrMissing (h : FileStore.system.IsReadableOrMissing s input)
    (page : Page) (parameter : Text) : checkPath s page parameter input = .ok () := by
  obtain ⟨bytes, hb, hr⟩ := h.exists_pathBytes
  unfold checkPath
  simp only [hb]
  split
  · next hd => exact absurd hd (resolve_ne_directory hr)
  · rfl

theorem task_run (h : Gives [input, output] arguments)
    (hi : FileStore.system.IsReadableOrMissing s input)
    (ho : FileStore.system.IsReadableOrMissing s output) :
    task s .run arguments = .ok (.run input output) := by
  have hin := checkPath_of_isReadableOrMissing hi
  have hout := checkPath_of_isReadableOrMissing ho
  rw [task, Given.read_of_gives h]
  simp only [mapError_ok, bind, Except.bind, Given.values, List.filterMap_nil, List.isEmpty_nil,
    Bool.not_true, hin, hout]
  rfl

theorem withoutStyles_of_not_mem {line : LooseText} (h : .char '\x1b' ∉ line) :
    withoutStyles line = line := by
  have hdrop : ∀ fuel, dropStyles fuel line = line := by
    intro fuel
    induction line generalizing fuel with
    | nil => cases fuel <;> rfl
    | cons x line ih =>
      cases fuel with
      | zero => rfl
      | succ fuel =>
        have hx : x ≠ .char '\x1b' := fun hx => h (hx ▸ List.mem_cons_self ..)
        have hline := ih (fun hm => h (List.mem_cons_of_mem x hm)) fuel
        rw [dropStyles, if_neg hx]
        simp only [hline]
  exact hdrop line.length

end Console

theorem conforms_console : @Terminal.Conforms FileStore.system console where
  explainOptions s _ _ := Console.options_of_lookup (by decide) (by decide) s _
  explainTask s commands hne := by
    have hne' : commands.map Text.loose ≠ [] := mt List.map_eq_nil_iff.mp hne
    have hkept : (commands.map Text.loose).map
        (fun c => c.map fun x => x.char?.getD '\uFFFD') = commands := by
      rw [List.map_map]
      exact (List.map_congr_left fun t _ => Console.map_char?_loose t).trans (List.map_id _)
    have htask := Console.task_explain .behindHyphens hne' s
    rwa [hkept] at htask
  runOptions s _ _ _ _ := Console.options_of_lookup (by decide) (by decide) s _
  runTask h hi ho := Console.task_run h hi ho
  echo h := congrArg (fun t : LooseText => t ++ [.char '\n']) (Console.withoutStyles_of_not_mem h)

end CommandLine

end GridRobot
