import GridRobot.Text.Basic

/-! # Tokens of a command

A command is cut at every single space, and the empty tokens at its end are dropped. So trailing
spaces do not matter, while leading and doubled spaces make empty tokens.

Main statements: `tokens_join` (joined tokens with any number of trailing spaces are read back) and
`exists_join_tokens` (every text is its tokens, joined, and some spaces). -/

namespace GridRobot.Command

def dropEmptyEnd : List Text → List Text
  | [] => []
  | t :: ts =>
    match dropEmptyEnd ts with
    | [] => if t.isEmpty then [] else [t]
    | rest => t :: rest

def tokens (c : Text) : List Text :=
  dropEmptyEnd (c.splitOn ' ')

/-- The tokens joined by single spaces, and `trailing` spaces after them. -/
def join (ts : List Text) (trailing : Nat) : Text :=
  [' '].intercalate ts ++ List.replicate trailing ' '

/-- No token holds a space, and the last token is not empty. -/
def IsTokens (ts : List Text) : Prop :=
  (∀ t ∈ ts, ' ' ∉ t) ∧ ∀ t ∈ ts.getLast?, t ≠ []

/-! ### Dropping empty tokens -/

theorem dropEmptyEnd_append_nil (ts : List Text) : dropEmptyEnd (ts ++ [[]]) = dropEmptyEnd ts := by
  induction ts with
  | nil => rfl
  | cons t ts ih => simp [dropEmptyEnd, ih]

theorem dropEmptyEnd_append_replicate (ts : List Text) (k : Nat) :
    dropEmptyEnd (ts ++ List.replicate k []) = dropEmptyEnd ts := by
  induction k with
  | zero => simp
  | succ k ih => rw [List.replicate_succ', ← List.append_assoc, dropEmptyEnd_append_nil, ih]

/-- A list that ends in a text with characters loses nothing. -/
theorem dropEmptyEnd_eq_self {ts : List Text} (h : ∀ t ∈ ts.getLast?, t ≠ []) :
    dropEmptyEnd ts = ts := by
  induction ts with
  | nil => rfl
  | cons t ts ih =>
    cases ts with
    | nil => simpa [dropEmptyEnd] using h
    | cons u us =>
      rw [dropEmptyEnd, ih (by simpa [List.getLast?_cons_cons] using h)]

/-- What is dropped is a run of empty texts, and what is left does not end in one. -/
theorem exists_eq_dropEmptyEnd_append (ts : List Text) :
    ∃ k, ts = dropEmptyEnd ts ++ List.replicate k [] ∧
      ∀ t ∈ (dropEmptyEnd ts).getLast?, t ≠ [] := by
  induction ts with
  | nil => exact ⟨0, by simp [dropEmptyEnd]⟩
  | cons t ts ih =>
    obtain ⟨k, hk, hl⟩ := ih
    rw [dropEmptyEnd]
    split
    · next hd =>
      rw [hd, List.nil_append] at hk
      split
      · next ht =>
        have he : t = [] := by simpa using ht
        exact ⟨k + 1, by simp [he, ← hk, List.replicate_succ], by simp⟩
      · next ht => exact ⟨k, by simp [← hk], by simpa using ht⟩
    · next rest hne =>
      refine ⟨k, by rw [List.cons_append, ← hk], ?_⟩
      obtain ⟨u, us, hu⟩ := List.exists_cons_of_ne_nil hne
      rw [hu, List.getLast?_cons_cons]
      rw [hu] at hl
      exact hl

/-! ### Joining tokens -/

theorem splitOn_replicate_space (k : Nat) :
    (List.replicate k ' ').splitOn ' ' = List.replicate (k + 1) [] := by
  induction k with
  | zero => rfl
  | succ k ih => simp [List.replicate_succ, List.splitOn_cons_eq_if_modifyHead, ih]

theorem splitOn_append_spaces (xs : Text) (k : Nat) :
    (xs ++ List.replicate k ' ').splitOn ' ' = xs.splitOn ' ' ++ List.replicate k [] := by
  cases k with
  | zero => simp
  | succ k =>
    rw [List.replicate_succ, List.splitOn_append_cons_self, splitOn_replicate_space]

theorem tokens_join {ts : List Text} (h : IsTokens ts) (k : Nat) : tokens (join ts k) = ts := by
  unfold tokens join
  rw [splitOn_append_spaces, dropEmptyEnd_append_replicate]
  cases ts with
  | nil => rfl
  | cons t ts =>
    rw [List.splitOn_intercalate ' ' h.1 (by simp), dropEmptyEnd_eq_self h.2]

theorem intercalate_append_nil {ts : List Text} (h : ts ≠ []) :
    [' '].intercalate (ts ++ [[]]) = [' '].intercalate ts ++ [' '] := by
  induction ts with
  | nil => exact absurd rfl h
  | cons t ts ih =>
    cases ts with
    | nil => simp [List.intercalate_cons_cons]
    | cons u us =>
      have hi := ih (by simp)
      simp only [List.cons_append] at hi ⊢
      rw [List.intercalate_cons_cons, hi, List.intercalate_cons_cons]
      simp

theorem intercalate_append_replicate {ts : List Text} (h : ts ≠ []) (k : Nat) :
    [' '].intercalate (ts ++ List.replicate k []) = [' '].intercalate ts ++ List.replicate k ' ' := by
  induction k with
  | zero => simp
  | succ k ih =>
    rw [List.replicate_succ', ← List.append_assoc, intercalate_append_nil (by simp [h]), ih,
      List.replicate_succ', List.append_assoc]

theorem intercalate_replicate_nil (k : Nat) :
    [' '].intercalate (List.replicate (k + 1) ([] : Text)) = List.replicate k ' ' := by
  have h := @intercalate_append_replicate [[]] (by simp) k
  simpa [List.replicate_succ] using h

theorem not_mem_of_mem_splitOn {c t : Text} (h : t ∈ c.splitOn ' ') : ' ' ∉ t := by
  induction c generalizing t with
  | nil => simp_all
  | cons a c ih =>
    rw [List.splitOn_cons_eq_if_modifyHead] at h
    split at h
    · rcases List.mem_cons.mp h with rfl | h
      · simp
      · exact ih h
    · next ha =>
      obtain ⟨u, us, hu⟩ := List.exists_cons_of_ne_nil (List.splitOn_ne_nil ' ' c)
      rw [hu, List.modifyHead_cons] at h
      rcases List.mem_cons.mp h with rfl | h
      · have hn : ' ' ∉ u := ih (by simp [hu])
        simp only [beq_iff_eq] at ha
        simp [hn, Ne.symm ha]
      · exact ih (by simp [hu, h])

theorem isTokens_tokens (c : Text) : IsTokens (tokens c) := by
  obtain ⟨k, hk, hl⟩ := exists_eq_dropEmptyEnd_append (c.splitOn ' ')
  exact ⟨fun t ht => not_mem_of_mem_splitOn (c := c) (hk ▸ List.mem_append_left _ ht), hl⟩

theorem exists_join_tokens (c : Text) : ∃ k, join (tokens c) k = c := by
  obtain ⟨k, hk, _⟩ := exists_eq_dropEmptyEnd_append (c.splitOn ' ')
  have hc : [' '].intercalate (tokens c ++ List.replicate k []) = c := by
    rw [show tokens c ++ List.replicate k [] = c.splitOn ' ' from hk.symm]
    exact List.intercalate_splitOn ' '
  by_cases ht : tokens c = []
  · rw [ht] at hc ⊢
    cases k with
    | zero => exact ⟨0, by simpa [join] using hc⟩
    | succ k =>
      rw [List.nil_append, intercalate_replicate_nil] at hc
      exact ⟨k, by simpa [join] using hc⟩
  · exact ⟨k, by rw [join, ← intercalate_append_replicate ht, hc]⟩

/-! ### Two tokens -/

theorem join_pair (s t : Text) (k : Nat) :
    join [s, t] k = s ++ ' ' :: (t ++ List.replicate k ' ') := by
  simp [join, List.intercalate_cons_cons]

theorem tokens_pair {s t : Text} (hs : ' ' ∉ s) (ht : ' ' ∉ t) (hn : t ≠ []) (k : Nat) :
    tokens (s ++ ' ' :: (t ++ List.replicate k ' ')) = [s, t] := by
  rw [← join_pair]
  exact tokens_join ⟨by simp [hs, ht], by simpa using hn⟩ k

/-- A text has exactly two tokens if it is made of them and of some trailing spaces. -/
theorem tokens_eq_pair_iff {c s t : Text} :
    tokens c = [s, t] ↔
      ' ' ∉ s ∧ ' ' ∉ t ∧ t ≠ [] ∧ ∃ k, c = s ++ ' ' :: (t ++ List.replicate k ' ') := by
  constructor
  · intro h
    obtain ⟨hm, hl⟩ := h ▸ isTokens_tokens c
    obtain ⟨k, hk⟩ := exists_join_tokens c
    rw [h, join_pair] at hk
    exact ⟨hm s (by simp), hm t (by simp), hl t (by simp), k, hk.symm⟩
  · rintro ⟨hs, ht, hn, k, rfl⟩
    exact tokens_pair hs ht hn k

end GridRobot.Command
