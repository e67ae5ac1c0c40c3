import GridRobot.Proofs.Run.Lines
import GridRobot.Proofs.Text.Lines

/-!
# Characters of a log

The entries of a log quote the texts that they are about, and put words around them. A repair takes
characters away or puts capitals, digits and spaces in their place. So a class of characters that has
the printable ones of ASCII and its own capitals has all characters of the log if it has those of the
commands. Without line ends in the commands, the entries stand in one line each, and can be told
apart when they are printed one below the other.

Main statements: `within_of_mem_log`, and `isUnbroken_of_mem_log` as a case of it.
-/

namespace GridRobot

namespace Text

/-- All members of the text, be it a loose one or not, are of the class. -/
def Within {α : Type} (P : α → Prop) (t : List α) : Prop :=
  ∀ a ∈ t, P a

/-- The class has the printable characters of ASCII, and the capitals of its own. -/
structure IsClosed (P : Char → Prop) : Prop where
  printable {a : Char} (h : 0x20 ≤ a.toNat ∧ a.toNat < 0x7F) : P a
  upper {a b : Char} (ha : P a) (hb : b ∈ upperChar a) : P b

section Members

variable {α : Type} {P : α → Prop} {a : α} {t u : List α}

theorem within_cons : Within P (a :: t) ↔ P a ∧ Within P t :=
  List.forall_mem_cons

theorem Within.append (ht : Within P t) (hu : Within P u) : Within P (t ++ u) :=
  List.forall_mem_append.mpr ⟨ht, hu⟩

theorem Within.of_subset (h : Within P t) (hu : u ⊆ t) : Within P u :=
  fun a ha => h a (hu ha)

theorem within_intercalate {sep : List α} {ts : List (List α)} (hs : Within P sep)
    (h : ∀ t ∈ ts, Within P t) : Within P (sep.intercalate ts) := by
  induction ts with
  | nil => exact fun a ha => absurd ha List.not_mem_nil
  | cons t ts ih =>
    obtain ⟨ht, hts⟩ := List.forall_mem_cons.mp h
    cases ts with
    | nil =>
      rw [List.intercalate_singleton]
      exact ht
    | cons u ts =>
      rw [List.intercalate_cons_cons]
      exact (ht.append hs).append (ih hts)

theorem subset_intercalate {sep : List α} {ts : List (List α)} (h : t ∈ ts) :
    t ⊆ sep.intercalate ts := by
  induction ts with
  | nil => cases h
  | cons u ts ih =>
    intro c hc
    cases ts with
    | nil =>
      obtain rfl := List.mem_singleton.mp h
      rwa [List.intercalate_singleton]
    | cons v ts =>
      rw [List.intercalate_cons_cons, List.mem_append, List.mem_append]
      rcases List.mem_cons.mp h with rfl | h
      · exact .inl (.inl hc)
      · exact .inr (ih h hc)

theorem Within.splitOn [BEq α] [LawfulBEq α] (h : Within P t) (x : α) : ∀ u ∈ t.splitOn x, Within P u := by
  intro u hu
  have hsub : u ⊆ [x].intercalate (t.splitOn x) := subset_intercalate hu
  rw [List.intercalate_splitOn] at hsub
  exact h.of_subset hsub

theorem within_ne_iff {x : α} : Within (· ≠ x) t ↔ x ∉ t :=
  List.forall_mem_ne'

end Members

variable {P : Char → Prop} {a : Char} {t u : Text}

theorem isClosed_ne {x : Char} (hx : x.toNat < 0x20) : IsClosed (· ≠ x) where
  printable := by
    rintro a ⟨ha, _⟩ rfl
    omega
  upper := by
    rintro a b ha hb rfl
    exact ha ((mem_upperChar_of_lt (by omega)).mp hb).symm

theorem isClosed_ascii : IsClosed (·.toNat < 0x80) where
  printable h := by omega
  upper := by
    intro a b ha hb
    have key : ∀ m < 128, (Char.ofNat m).toUpper.toNat < 128 := by decide +kernel
    have hk := key a.toNat ha
    rw [Char.ofNat_toNat] at hk
    rw [upperChar_of_lt ha] at hb
    rwa [List.mem_singleton.mp hb]

end Text

open Text (IsClosed IsUnbroken Within)

variable {P : Char → Prop} (hP : IsClosed P)

include hP

theorem Text.IsClosed.words {t : Text}
    (h : (t.all fun a => 0x20 ≤ a.toNat && a.toNat < 0x7F) = true) : Within P t := by
  intro a ha
  have hprint := List.all_eq_true.mp h a ha
  simp only [Bool.and_eq_true, decide_eq_true_eq] at hprint
  exact hP.printable hprint

theorem Text.Within.upper {t : Text} (h : Within P t) : Within P t.upper := by
  intro b hb
  obtain ⟨a, ha, hb⟩ := List.mem_flatMap.mp hb
  exact hP.upper (h a ha) hb

theorem Numeral.within_text (n : Int) : Within P (text n) := by
  have hdigits : ∀ k, Within P (digits k) := by
    intro k a ha
    have hd := isDigit_of_mem_digits ha
    simp only [Char.isDigit, Bool.and_eq_true, decide_eq_true_eq] at hd
    obtain ⟨h0, h9⟩ : 48 ≤ a.toNat ∧ a.toNat ≤ 57 := hd
    exact hP.printable (by omega)
  unfold text
  split
  · exact Text.within_cons.mpr ⟨hP.printable (by decide), hdigits _⟩
  · exact hdigits _

theorem Direction.within_symbol (d : Direction) : P d.symbol :=
  hP.printable (by cases d <;> decide)

omit hP

/-! ### What a failure quotes -/

/-- What is quoted of a text has characters of the class only. -/
def Violation.Within (P : Char → Prop) : Violation → Prop
  | lowercaseLetter a | invalidCapitalLetter a => Text.Within P [a]
  | invalidSymbol s | multipleSymbols s | invalidNumberFormat s => Text.Within P s
  | noSpaceSeparator | uninterpretable | zeroNumber => True
  | negativeNumber _ | numberExceedsLimit _ => True

namespace Command

variable {c s t : Text} {v : Violation}

theorem within_of_tokens (h : tokens c = [s, t]) (hc : Within P c) : Within P s ∧ Within P t := by
  obtain ⟨_, _, _, k, rfl⟩ := tokens_eq_pair_iff.mp h
  refine ⟨hc.of_subset (List.subset_append_left _ _), hc.of_subset ?_⟩
  intro a ha
  exact List.mem_append_right _ (List.mem_cons_of_mem _ (List.mem_append_left _ ha))

theorem within_of_ofTokens (h : ofTokens s t = .error v) (hs : Within P s) (ht : Within P t) :
    v.Within P := by
  unfold ofTokens at h
  split at h
  · obtain rfl := Except.error.inj h
    exact hs
  · split at h
    · rcases ofNumber_error h with rfl | rfl | ⟨n, _, ⟨rfl, _⟩ | ⟨rfl, _⟩⟩
      · exact ht
      · trivial
      · trivial
      · trivial
    · split at h
      · obtain rfl := Except.error.inj h
        exact hs
      · split at h
        · obtain rfl := Except.error.inj h
          exact hs
        · obtain rfl := Except.error.inj h
          exact hs
  · obtain rfl := Except.error.inj h
    exact hs

theorem within_violation (h : violationOr c = .error v) (hc : Within P c) : v.Within P := by
  by_cases hs : v = .noSpaceSeparator
  · subst hs
    trivial
  · by_cases hu : v = .uninterpretable
    · subst hu
      trivial
    · obtain ⟨s, t, ht, ho⟩ := exists_tokens_of_violationOr h hs hu
      obtain ⟨hsw, htw⟩ := within_of_tokens ht hc
      exact within_of_ofTokens ho hsw htw

include hP

theorem within_text (cmd : Command) : Within P cmd.text := by
  rw [text, Text.within_cons, Text.within_cons]
  exact ⟨cmd.direction.within_symbol hP, hP.printable (by decide),
    Numeral.within_text hP cmd.magnitude⟩

end Command

include hP

theorem Text.IsClosed.sentence {w t : Text}
    (hw : (w.all fun a => 0x20 ≤ a.toNat && a.toNat < 0x7F) = true) (ht : Within P t) :
    Within P (w ++ t ++ ['.']) :=
  ((hP.words hw).append ht).append (hP.words rfl)

theorem Failure.within_message {f : Failure} (hc : Within P f.command)
    (hv : f.violation.Within P) : Within P f.message := by
  obtain ⟨c, v⟩ := f
  rw [message_mk]
  cases v with
  | noSpaceSeparator => exact hP.sentence rfl hc
  | uninterpretable => exact hP.sentence rfl hc
  | lowercaseLetter a =>
    have ha : Within P ([a] ++ ['.']) := Text.Within.append hv (hP.words rfl)
    exact (hP.words rfl).append ha
  | invalidCapitalLetter a =>
    have ha : Within P ([a] ++ ['.']) := Text.Within.append hv (hP.words rfl)
    exact (hP.words rfl).append ha
  | invalidSymbol s => exact hP.sentence rfl hv
  | multipleSymbols s => exact hP.sentence rfl hv
  | invalidNumberFormat s => exact hP.sentence rfl hv
  | negativeNumber n => exact hP.sentence rfl (Numeral.within_text hP n)
  | zeroNumber =>
    have hm : Within P "Zero number not allowed.".toList := hP.words rfl
    exact hm
  | numberExceedsLimit n => exact hP.sentence rfl (Numeral.within_text hP n)

omit hP

/-! ### Entries -/

namespace Entry

theorem text_ne_nil (e : Entry) : e.text ≠ [] := by
  have hw : ∀ {w t : Text}, w ≠ [] → w ++ t ≠ [] := fun hw => List.append_ne_nil_of_left_ne_nil hw _
  cases e with
  | executed c p => exact hw (hw (hw (hw (by decide +kernel))))
  | corrected k before after => exact hw (hw (hw (hw (hw (hw (by decide +kernel))))))
  | split => exact (by decide +kernel : splitMessage ≠ [])
  | removed c => exact hw (hw (by decide +kernel))
  | rejected m => exact hw (by decide +kernel)

include hP

theorem within_executed (c : Command) (p : Position) : Within P (executed c p).text := by
  have hp : Within P p.text := by
    have hopen : Within P ('(' :: Numeral.text p.x) :=
      Text.within_cons.mpr ⟨hP.printable (by decide), Numeral.within_text hP p.x⟩
    have hcomma : Within P [',', ' '] := hP.words rfl
    exact ((hopen.append hcomma).append (Numeral.within_text hP p.y)).append (hP.words rfl)
  have hmark : Within P ("Executed command: ".toList ++ c.text) :=
    (hP.words rfl).append (c.within_text hP)
  have harrow : Within P " -> Position: ".toList := hP.words rfl
  exact ((hmark.append harrow).append hp).append (hP.words rfl)

theorem within_corrected (k : Correction) {before after : Text} (hb : Within P before)
    (ha : Within P after) : Within P (corrected k before after).text := by
  have hk : Within P ("Corrected ".toList ++ k.label ++ ": ".toList) := by
    refine hP.words ?_
    cases k <;> decide +kernel
  have harrow : Within P " -> ".toList := hP.words rfl
  exact (((hk.append hb).append harrow).append ha).append (hP.words rfl)

theorem within_removed {c : Text} (hc : Within P c) : Within P (removed c).text :=
  hP.sentence rfl hc

theorem within_split : Within P split.text :=
  hP.words rfl

theorem within_rejected {m : Text} (hm : Within P m) : Within P (rejected m).text :=
  (hP.words rfl).append hm

end Entry

omit hP

/-! ### Repairs -/

/-- The entry and the texts to go on with have characters of the class only. -/
def Repair.Within (P : Char → Prop) (r : Repair) : Prop :=
  Text.Within P r.entry.text ∧ ∀ d ∈ r.next, Text.Within P d

namespace Repair

variable {e : Entry}

theorem within_last (h : Text.Within P e.text) (ns : List Note) :
    Within P { entry := e, notes := ns } :=
  ⟨h, fun _ hd => absurd hd List.not_mem_nil⟩

theorem within_single {c : Text} (h : Text.Within P e.text) (hc : Text.Within P c)
    (ns : List Note) : Within P { entry := e, next := [c], notes := ns } := by
  refine ⟨h, fun d hd => ?_⟩
  rwa [List.mem_singleton.mp hd]

end Repair

namespace Command

variable {c : Text} {v : Violation}

include hP

theorem within_insertSpace {c' : Text} (h : insertSpace c = some c') (hc : Within P c) :
    Within P c' := by
  rw [insertSpace_eq] at h
  obtain ⟨i, _, rfl⟩ := Option.map_eq_some_iff.mp h
  have hdrop := hc.of_subset (List.drop_subset i c)
  exact (hc.of_subset (List.take_subset i c)).append
    (Text.within_cons.mpr ⟨hP.printable (by decide), hdrop⟩)

theorem within_splitSymbols {cs : List Text} (h : splitSymbols c = .ok cs) (hc : Within P c) :
    ∀ d ∈ cs, Within P d := by
  unfold splitSymbols at h
  split at h
  · next s t ht =>
    obtain rfl := Except.ok.inj h
    obtain ⟨hs, ht⟩ := within_of_tokens ht hc
    intro d hd
    obtain ⟨a, ha, rfl⟩ := List.mem_map.mp hd
    exact Text.within_cons.mpr ⟨hs a ha, Text.within_cons.mpr ⟨hP.printable (by decide), ht⟩⟩
  · cases h

theorem within_invertNegative {c' : Text} (h : invertNegative c = .ok c') : Within P c' := by
  obtain ⟨d, m, rfl⟩ := exists_eq_of_invertNegative h
  rw [Text.within_cons, Text.within_cons, ← Numeral.text_natCast]
  exact ⟨d.within_symbol hP, hP.printable (by decide), Numeral.within_text hP m⟩

theorem within_repair_of_isFinal {repair : Repair} (h : violationOr c = .error v)
    (hf : v.IsFinal) (hr : Failure.repair ⟨c, v⟩ = .ok repair) (hc : Within P c) :
    repair.Within P := by
  rw [repair_of_isFinal hf] at hr
  obtain rfl := Except.ok.inj hr
  have hm : Within P (Failure.message ⟨c, v⟩) :=
    Failure.within_message hP hc (within_violation h hc)
  exact Repair.within_last (Entry.within_rejected hP hm) _

/-- A text of the class is repaired to texts of the class, and so is what is logged about it. -/
theorem within_repair {repair : Repair} (h : violationOr c = .error v)
    (hr : Failure.repair ⟨c, v⟩ = .ok repair) (hc : Within P c) : repair.Within P := by
  cases v with
  | noSpaceSeparator =>
    cases hi : insertSpace c with
    | some c' =>
      have hc' := within_insertSpace hP hi hc
      rw [repair_of_insertSpace hi] at hr
      obtain rfl := Except.ok.inj hr
      exact Repair.within_single (Entry.within_corrected hP _ hc hc') hc' _
    | none =>
      rw [repair_of_noBoundary hi] at hr
      obtain rfl := Except.ok.inj hr
      have hm : Within P (Failure.uninterpretableMessage c) :=
        hP.sentence rfl hc
      exact Repair.within_last (Entry.within_rejected hP hm) _
  | lowercaseLetter a =>
    obtain rfl := Except.ok.inj hr
    have hu := Text.Within.upper hP hc
    exact Repair.within_single (Entry.within_corrected hP _ hc hu) hu _
  | multipleSymbols s =>
    cases hs : splitSymbols c with
    | ok cs =>
      simp only [Failure.repair, hs] at hr
      obtain rfl := Except.ok.inj hr
      exact ⟨Entry.within_split hP, within_splitSymbols hP hs hc⟩
    | error e =>
      simp only [Failure.repair, hs] at hr
      cases hr
  | negativeNumber n =>
    cases hi : invertNegative c with
    | ok c' =>
      have hc' := within_invertNegative hP hi
      rw [repair_of_invertNegative hi] at hr
      obtain rfl := Except.ok.inj hr
      exact Repair.within_single (Entry.within_corrected hP _ hc hc') hc' _
    | error e =>
      simp only [Failure.repair, hi] at hr
      cases hr
  | zeroNumber =>
    obtain rfl := Except.ok.inj hr
    exact Repair.within_last (Entry.within_removed hP hc) _
  | uninterpretable => exact within_repair_of_isFinal hP h trivial hr hc
  | invalidCapitalLetter a => exact within_repair_of_isFinal hP h trivial hr hc
  | invalidSymbol s => exact within_repair_of_isFinal hP h trivial hr hc
  | invalidNumberFormat t => exact within_repair_of_isFinal hP h trivial hr hc
  | numberExceedsLimit n => exact within_repair_of_isFinal hP h trivial hr hc

/-! ### Whole runs -/

theorem within_script (hc : Within P c) : ∀ e, .entry e ∈ script c → Within P e.text := by
  induction hw : weight c using Nat.strongRecOn generalizing c with
  | ind w ih =>
    subst hw
    intro e he
    cases hv : violationOr c with
    | ok cmd =>
      rw [script_of_ok hv] at he
      cases List.mem_singleton.mp he
    | error v =>
      obtain ⟨repair, hr, hs⟩ := script_of_error hv
      obtain ⟨hentry, hnext⟩ := within_repair hP hv hr hc
      have hw := weight_repair (validate_of_error hv) hr
      rw [hs] at he
      rcases List.mem_cons.mp he with he | he
      · cases he
        exact hentry
      · obtain ⟨d, hd, he⟩ := List.mem_flatMap.mp he
        have hle := weight_le_totalWeight hd
        exact ih (weight d) (by omega) (hnext d hd) rfl e he

end Command

include hP

theorem Ledger.within_take {o : Outcome} (ho : ∀ e, o = .entry e → Within P e.text) {l : Ledger}
    (hl : ∀ e ∈ l.log, Within P e.text) : ∀ e ∈ (l.take o).log, Within P e.text := by
  have hrecord : ∀ {m : Ledger} {e : Entry}, m.log = l.log → Within P e.text →
      ∀ e' ∈ (m.record e).log, Within P e'.text := by
    intro m e hm he
    rw [Ledger.record, hm]
    exact List.forall_mem_append.mpr ⟨hl, List.forall_mem_singleton.mpr he⟩
  cases o with
  | entry e => exact hrecord rfl (ho e rfl)
  | move c =>
    unfold Ledger.take Ledger.perform
    simp only
    split
    · exact hrecord rfl (Entry.within_executed hP c _)
    · exact hl

theorem Ledger.within_play {os : List Outcome} (h : ∀ e, .entry e ∈ os → Within P e.text)
    {l : Ledger} (hl : ∀ e ∈ l.log, Within P e.text) : ∀ e ∈ (l.play os).log, Within P e.text := by
  induction os generalizing l with
  | nil => exact hl
  | cons o os ih =>
    cases hf : l.fault with
    | some f =>
      rw [play_of_some hf]
      exact hl
    | none =>
      rw [play_cons hf]
      refine ih (fun e he => h e (List.mem_cons_of_mem _ he)) (within_take hP ?_ hl)
      rintro e rfl
      exact h e (List.mem_cons_self ..)

/-- The characters of a log are of the class that those of the lines are of. -/
theorem within_of_mem_log {lines : List Text} (h : ∀ line ∈ lines, Within P line) {e : Entry}
    (he : e ∈ (Run.ofLines lines).log.toList) : Within P e.text := by
  have hlog : (Run.ofLines lines).log.toList =
      (Ledger.play ⟨.origin, [], none⟩ (scriptOfLines lines)).log :=
    congrArg Ledger.log (Run.ledger_processCommands_eq_play {} lines)
  rw [hlog] at he
  refine Ledger.within_play hP (fun e he => ?_) (fun e he => absurd he List.not_mem_nil) e he
  obtain ⟨c, hc, he⟩ := List.mem_flatMap.mp he
  obtain ⟨line, hline, rfl⟩ := mem_commands_takeCommands hc
  exact Command.within_script hP ((h line hline).of_subset (stripLineEnd_subset line)) e he

omit hP

theorem not_mem_of_mem_log {x : Char} (hx : x.toNat < 0x20) {lines : List Text}
    (h : ∀ line ∈ lines, x ∉ line) {e : Entry} (he : e ∈ (Run.ofLines lines).log.toList) :
    x ∉ e.text := by
  have hwithin : ∀ line ∈ lines, Within (· ≠ x) line := fun line hm =>
    Text.within_ne_iff.mpr (h line hm)
  exact Text.within_ne_iff.mp (within_of_mem_log (Text.isClosed_ne hx) hwithin he)

/-- The entries of a run over lines stand in one line each. -/
theorem isUnbroken_of_mem_log {lines : List Text} (hu : ∀ line ∈ lines, IsUnbroken line)
    {e : Entry} (he : e ∈ (Run.ofLines lines).log.toList) : IsUnbroken e.text :=
  ⟨not_mem_of_mem_log (by decide) (fun line hm => (hu line hm).1) he,
    not_mem_of_mem_log (by decide) (fun line hm => (hu line hm).2) he⟩

end GridRobot
