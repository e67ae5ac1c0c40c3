import GridRobot.Text.Line

/-!
# Lines of a text

What the lines of a text are, of a text that is put together from lines, and of one that is cut off.
A carriage return and a line feed behind it are one line end, so the two must not be torn apart.

Main statements: `splitLines_append`, and `lines_of_holdsLines` (the lines that a text was made of
are its lines, whatever end they have).
-/

namespace GridRobot.Text

/-- No line end stands in the text. -/
def IsUnbroken (t : Text) : Prop :=
  '\r' ∉ t ∧ '\n' ∉ t

/-- The three ways to end a line. -/
def IsLineEnd (e : Text) : Prop :=
  e = ['\n'] ∨ e = ['\r', '\n'] ∨ e = ['\r']

/-- The text is made of the lines, each with the end `e` behind it. The last end may be missing,
unless the last line is empty. -/
inductive HoldsLines (e : Text) : List Text → Text → Prop where
  | ended (ts : List Text) : HoldsLines e ts (ts.flatMap (· ++ e))
  | unended (ts : List Text) {t : Text} (h : t ≠ []) :
    HoldsLines e (ts ++ [t]) (ts.flatMap (· ++ e) ++ t)

variable {e t u w : Text} {ts : List Text}

@[simp] theorem isUnbroken_nil : IsUnbroken [] :=
  ⟨List.not_mem_nil, List.not_mem_nil⟩

@[simp] theorem isUnbroken_cons {c : Char} :
    IsUnbroken (c :: t) ↔ (c ≠ '\r' ∧ c ≠ '\n') ∧ IsUnbroken t := by
  simp only [IsUnbroken, List.mem_cons, not_or, ne_comm, ne_eq, and_and_and_comm]

/-! ### One more character in front -/

theorem splitLines_feed (t : Text) :
    splitLines ('\n' :: t) = ([] :: (splitLines t).1, (splitLines t).2) := by
  rw [splitLines]

theorem splitLines_return_feed (t : Text) :
    splitLines ('\r' :: '\n' :: t) = ([] :: (splitLines t).1, (splitLines t).2) := by
  rw [splitLines]

theorem splitLines_return (h : t.head? ≠ some '\n') :
    splitLines ('\r' :: t) = ([] :: (splitLines t).1, (splitLines t).2) := by
  rw [splitLines]
  rintro u rfl
  exact h rfl

/-- The character belongs to the first line, or to the rest if there is no line. -/
def putInFront (c : Char) : List Text × Text → List Text × Text
  | ([], rest) => ([], c :: rest)
  | (line :: lines, rest) => ((c :: line) :: lines, rest)

theorem splitLines_cons {c : Char} (h : c ≠ '\r' ∧ c ≠ '\n') (t : Text) :
    splitLines (c :: t) = putInFront c (splitLines t) := by
  rw [splitLines]
  · split
    · next rest hs => rw [hs, putInFront]
    · next line lines rest hs => rw [hs, putInFront]
  · exact h.2
  · intro _ hr
    exact absurd hr h.1
  · exact h.1

/-! ### Texts behind one another -/

/-- The line feed behind a carriage return stays with it. -/
def KeepsEnds (u w : Text) : Prop :=
  u.getLast? = some '\r' → w.head? ≠ some '\n'

theorem KeepsEnds.of_cons {c : Char} (h : KeepsEnds (c :: u) w) : KeepsEnds u w := by
  intro hu
  apply h
  cases u with
  | nil => cases hu
  | cons d u => rwa [List.getLast?_cons_cons]

theorem keepsEnds_of_not_mem (h : '\n' ∉ w) (u : Text) : KeepsEnds u w := by
  intro _ hw
  exact h (List.mem_of_head? hw)

/-- Lines are read from the front: what comes behind goes on with what is left of the last line. -/
theorem splitLines_append (h : KeepsEnds u w) :
    splitLines (u ++ w) =
      ((splitLines u).1 ++ (splitLines ((splitLines u).2 ++ w)).1,
        (splitLines ((splitLines u).2 ++ w)).2) := by
  fun_induction splitLines u with
  | case1 => rfl
  | case2 t lines rest hs ih =>
    rw [List.cons_append, splitLines_feed, ih h.of_cons, hs]
    rfl
  | case3 t lines rest hs ih =>
    rw [List.cons_append, List.cons_append, splitLines_return_feed, ih h.of_cons.of_cons, hs]
    rfl
  | case4 t hn lines rest hs ih =>
    have hhead : (t ++ w).head? ≠ some '\n' := by
      cases t with
      | nil => exact h rfl
      | cons c t =>
        rintro ⟨⟩
        exact hn t rfl
    rw [List.cons_append, splitLines_return hhead, ih h.of_cons, hs]
    rfl
  | case5 c t hn hrn hr rest hs ih =>
    have hc : c ≠ '\r' ∧ c ≠ '\n' := ⟨hr, hn⟩
    rw [List.cons_append, splitLines_cons hc, ih h.of_cons, hs, List.cons_append,
      splitLines_cons hc]
    rfl
  | case6 c t hn hrn hr line lines rest hs ih =>
    have hc : c ≠ '\r' ∧ c ≠ '\n' := ⟨hr, hn⟩
    rw [List.cons_append, splitLines_cons hc, ih h.of_cons, hs]
    rfl

/-- Behind a line end, reading starts anew. -/
theorem splitLines_append_of_whole (hu : (splitLines u).2 = []) (h : KeepsEnds u w) :
    splitLines (u ++ w) = ((splitLines u).1 ++ (splitLines w).1, (splitLines w).2) := by
  rw [splitLines_append h, hu, List.nil_append]

/-! ### Texts made of lines -/

theorem splitLines_of_isUnbroken (h : IsUnbroken t) : splitLines t = ([], t) := by
  induction t with
  | nil => rfl
  | cons c t ih =>
    obtain ⟨hc, ht⟩ := isUnbroken_cons.mp h
    rw [splitLines_cons hc, ih ht, putInFront]

theorem splitLines_lineEnd (he : IsLineEnd e) : splitLines e = ([[]], []) := by
  rcases he with rfl | rfl | rfl
  · rfl
  · rfl
  · rfl

theorem splitLines_line (h : IsUnbroken t) (he : IsLineEnd e) :
    splitLines (t ++ e) = ([t], []) := by
  induction t with
  | nil => exact splitLines_lineEnd he
  | cons c t ih =>
    obtain ⟨hc, ht⟩ := isUnbroken_cons.mp h
    rw [List.cons_append, splitLines_cons hc, ih ht, putInFront]

/-- Lines with one and the same end do not run into each other. -/
theorem keepsEnds_flatMap (h : ∀ t ∈ ts, IsUnbroken t) (he : IsLineEnd e) (t : Text) :
    KeepsEnds (t ++ e) (ts.flatMap (· ++ e)) := by
  have hreturn : '\n' ∉ e → KeepsEnds (t ++ e) (ts.flatMap (· ++ e)) := by
    intro hn
    refine keepsEnds_of_not_mem ?_ _
    intro hm
    obtain ⟨u, hu, hm⟩ := List.mem_flatMap.mp hm
    rcases List.mem_append.mp hm with hm | hm
    · exact (h u hu).2 hm
    · exact hn hm
  have hfeed : e.getLast? = some '\n' → KeepsEnds (t ++ e) (ts.flatMap (· ++ e)) := by
    intro hl hr
    rw [List.getLast?_append, hl] at hr
    cases hr
  rcases he with rfl | rfl | rfl
  · exact hfeed rfl
  · exact hfeed rfl
  · exact hreturn (by decide)

theorem splitLines_flatMap (h : ∀ t ∈ ts, IsUnbroken t) (he : IsLineEnd e) :
    splitLines (ts.flatMap (· ++ e)) = (ts, []) := by
  induction ts with
  | nil => rfl
  | cons t ts ih =>
    have hts : ∀ u ∈ ts, IsUnbroken u := fun u hu => h u (List.mem_cons_of_mem _ hu)
    have ht := splitLines_line (h t (List.mem_cons_self ..)) he
    rw [List.flatMap_cons, splitLines_append_of_whole (by rw [ht]) (keepsEnds_flatMap hts he t), ht,
      ih hts]
    rfl

theorem lines_of_holdsLines (hh : HoldsLines e ts t) (h : ∀ t ∈ ts, IsUnbroken t)
    (he : IsLineEnd e) : t.lines = ts := by
  cases hh with
  | ended =>
    rw [lines, splitLines_flatMap h he]
    rfl
  | @unended ts t hne =>
    have hts := splitLines_flatMap (fun u hu => h u (List.mem_append_left _ hu)) he
    have ht := h t (List.mem_append_right _ (List.mem_singleton_self t))
    rw [lines, splitLines_append_of_whole (by rw [hts]) (keepsEnds_of_not_mem ht.2 _), hts,
      splitLines_of_isUnbroken ht]
    simp [hne]

/-! ### The characters of the lines -/

/-- The lines and what is left, one behind the other. -/
def joined (s : List Text × Text) : Text :=
  s.1.flatten ++ s.2

/-- The lines have all characters of the text but the line ends, in their order. -/
theorem joined_splitLines_sublist (t : Text) : (joined (splitLines t)).Sublist t := by
  fun_induction splitLines t with
  | case1 => exact List.Sublist.slnil
  | case2 t lines rest hs ih =>
    rw [hs] at ih
    exact ih.cons _
  | case3 t lines rest hs ih =>
    rw [hs] at ih
    exact (ih.cons _).cons _
  | case4 t hn lines rest hs ih =>
    rw [hs] at ih
    exact ih.cons _
  | case5 c t hn hrn hr rest hs ih =>
    rw [hs] at ih
    exact ih.cons_cons c
  | case6 c t hn hrn hr line lines rest hs ih =>
    rw [hs] at ih
    exact ih.cons_cons c

theorem flatten_splitLines_sublist (t : Text) : (splitLines t).1.flatten.Sublist t :=
  (List.sublist_append_left _ _).trans (joined_splitLines_sublist t)

theorem flatten_lines_sublist (t : Text) : t.lines.flatten.Sublist t := by
  unfold lines
  simp only
  split
  · exact flatten_splitLines_sublist t
  · rw [List.flatten_append, List.flatten_singleton]
    exact joined_splitLines_sublist t

theorem isUnbroken_splitLines (t : Text) :
    (∀ line ∈ (splitLines t).1, IsUnbroken line) ∧ IsUnbroken (splitLines t).2 := by
  have hempty : ∀ {lines : List Text}, (∀ line ∈ lines, IsUnbroken line) →
      ∀ line ∈ [] :: lines, IsUnbroken line := by
    intro lines h line hl
    rcases List.mem_cons.mp hl with rfl | hl
    · exact isUnbroken_nil
    · exact h line hl
  fun_induction splitLines t with
  | case1 => exact ⟨fun _ h => absurd h List.not_mem_nil, isUnbroken_nil⟩
  | case2 t lines rest hs ih =>
    rw [hs] at ih
    exact ⟨hempty ih.1, ih.2⟩
  | case3 t lines rest hs ih =>
    rw [hs] at ih
    exact ⟨hempty ih.1, ih.2⟩
  | case4 t hn lines rest hs ih =>
    rw [hs] at ih
    exact ⟨hempty ih.1, ih.2⟩
  | case5 c t hn hrn hr rest hs ih =>
    rw [hs] at ih
    exact ⟨ih.1, isUnbroken_cons.mpr ⟨⟨hr, hn⟩, ih.2⟩⟩
  | case6 c t hn hrn hr line lines rest hs ih =>
    rw [hs] at ih
    refine ⟨?_, ih.2⟩
    intro l hl
    rcases List.mem_cons.mp hl with rfl | hl
    · exact isUnbroken_cons.mpr ⟨⟨hr, hn⟩, ih.1 line (List.mem_cons_self ..)⟩
    · exact ih.1 l (List.mem_cons_of_mem _ hl)

theorem isUnbroken_of_mem_lines {line : Text} (h : line ∈ t.lines) : IsUnbroken line := by
  obtain ⟨hl, hr⟩ := isUnbroken_splitLines t
  unfold lines at h
  simp only at h
  split at h
  · exact hl line h
  · rcases List.mem_append.mp h with h | h
    · exact hl line h
    · rw [List.mem_singleton.mp h]
      exact hr

/-! ### Texts that end in a line end -/

/-- The text is empty, or its last character ends a line. -/
def EndsLine (t : Text) : Prop :=
  ∀ c ∈ t.getLast?, c = '\r' ∨ c = '\n'

theorem EndsLine.of_cons {c : Char} (h : EndsLine (c :: t)) : EndsLine t := by
  intro d hd
  apply h
  cases t with
  | nil => cases hd
  | cons a t => rwa [List.getLast?_cons_cons]

theorem eq_nil_of_splitLines (h : splitLines t = ([], [])) : t = [] := by
  cases t with
  | nil => rfl
  | cons c t =>
    by_cases hn : c = '\n'
    · rw [hn, splitLines_feed] at h
      cases h
    · by_cases hr : c = '\r'
      · subst hr
        cases t with
        | nil => cases h
        | cons d t =>
          by_cases hd : d = '\n'
          · rw [hd, splitLines_return_feed] at h
            cases h
          · have hh : (d :: t).head? ≠ some '\n' := fun he => hd (Option.some.inj he)
            rw [splitLines_return hh] at h
            cases h
      · rw [splitLines_cons ⟨hr, hn⟩] at h
        generalize splitLines t = p at h
        obtain ⟨lines, rest⟩ := p
        cases lines <;> cases h

theorem EndsLine.splitLines_snd (h : EndsLine t) : (splitLines t).2 = [] := by
  fun_induction splitLines t with
  | case1 => rfl
  | case2 t lines rest hs ih =>
    rw [hs] at ih
    exact ih h.of_cons
  | case3 t lines rest hs ih =>
    rw [hs] at ih
    exact ih h.of_cons.of_cons
  | case4 t hn lines rest hs ih =>
    rw [hs] at ih
    exact ih h.of_cons
  | case5 c t hn hrn hr rest hs ih =>
    rw [hs] at ih
    have hrest : rest = [] := ih h.of_cons
    rw [hrest] at hs
    obtain rfl := eq_nil_of_splitLines hs
    exact absurd (h c rfl) (not_or.mpr ⟨hr, hn⟩)
  | case6 c t hn hrn hr line lines rest hs ih =>
    rw [hs] at ih
    exact ih h.of_cons

theorem EndsLine.lines_eq (h : EndsLine t) : t.lines = (splitLines t).1 := by
  unfold lines
  simp only
  rw [h.splitLines_snd]
  rfl

/-! ### Texts that are cut off -/

/-- A carriage return at the end of what was seen is left out, for it may be half of a line end. -/
theorem linesSoFar_eq (t : Text) :
    ∃ u, (u = t ∧ u.getLast? ≠ some '\r' ∨ t = u ++ ['\r']) ∧ t.linesSoFar = (splitLines u).1 := by
  unfold linesSoFar
  by_cases h : t.getLast? = some '\r'
  · rw [if_pos h]
    obtain ⟨u, rfl⟩ := List.getLast?_eq_some_iff.mp h
    rw [List.dropLast_concat]
    exact ⟨u, Or.inr rfl, rfl⟩
  · rw [if_neg h]
    exact ⟨t, Or.inl ⟨rfl, h⟩, rfl⟩

theorem flatten_linesSoFar_sublist (t : Text) : t.linesSoFar.flatten.Sublist t := by
  obtain ⟨u, hu, hl⟩ := linesSoFar_eq t
  rw [hl]
  refine (flatten_splitLines_sublist u).trans ?_
  rcases hu with ⟨rfl, _⟩ | rfl
  · exact List.Sublist.refl u
  · exact List.sublist_append_left u _

theorem isUnbroken_of_mem_linesSoFar {line : Text} (h : line ∈ t.linesSoFar) : IsUnbroken line := by
  obtain ⟨u, _, hl⟩ := linesSoFar_eq t
  rw [hl] at h
  exact (isUnbroken_splitLines u).1 line h

/-- The lines that were seen so far stay, whatever comes behind. -/
theorem linesSoFar_stay (t w : Text) : t.linesSoFar <+: (splitLines (t ++ w)).1 := by
  obtain ⟨u, hu, hl⟩ := linesSoFar_eq t
  have hstay : ∀ v, KeepsEnds u v → t ++ w = u ++ v → t.linesSoFar <+: (splitLines (t ++ w)).1 := by
    intro v hk hv
    rw [hl, hv, splitLines_append hk]
    exact List.prefix_append _ _
  rcases hu with ⟨rfl, hlast⟩ | rfl
  · exact hstay w (fun h => absurd h hlast) rfl
  · refine hstay ('\r' :: w) ?_ (List.append_cons ..).symm
    rintro _ ⟨⟩

end GridRobot.Text
