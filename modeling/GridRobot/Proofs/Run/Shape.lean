import GridRobot.Proofs.Run.Room

/-!
# The shape of the log of one text

The grammar of the entries that one text leads to. A space is put in at most once and before all
else. A text with one symbol makes a leaf: a small letter is put right, then a sign is inverted, and
then one terminal entry says how the text ended. A text with several symbols makes the notice of a
split and one leaf for each symbol, in their order.

Main statement: what a text logs has this shape, with one terminal entry for each symbol
(`log_process_shape`).
-/

namespace GridRobot

def Entry.isTerminal : Entry → Bool
  | .executed _ _ | .removed _ | .rejected _ => true
  | .corrected _ _ _ | .split => false

namespace Command

/-- The terminal entry of a text, by the verdict on it. -/
inductive Ends (c : Text) : Entry → Prop where
  | executed {cmd : Command} (h : violationOr c = .ok cmd) (p : Position) : Ends c (.executed cmd p)
  | removed (h : violationOr c = .error .zeroNumber) : Ends c (.removed c)
  | rejected {v : Violation} (h : violationOr c = .error v) (hf : v.IsFinal) :
    Ends c (.rejected (Failure.message ⟨c, v⟩))
  | unspaced (h : violationOr c = .error .noSpaceSeparator) (hi : insertSpace c = none) :
    Ends c (.rejected (Failure.uninterpretableMessage c))

/-- A terminal entry, behind the correction of a negative number if `signs` allows for one. -/
inductive Tail (signs : Bool) (c : Text) : List Entry → Prop where
  | plain {e : Entry} (h : Ends c e) : Tail signs c [e]
  | negative {c' : Text} {e : Entry} (hs : signs = true) (hc : invertNegative c = .ok c')
    (h : Ends c' e) : Tail signs c [.corrected .negativeNumber c c', e]

inductive Leaf (signs : Bool) (c : Text) : List Entry → Prop where
  | plain {es : List Entry} (h : Tail signs c es) : Leaf signs c es
  | lowercase {es : List Entry} (h : Tail signs c.upper es) :
    Leaf signs c (.corrected .lowercaseLetter c c.upper :: es)

/-- A leaf, or the notice of a split and one leaf for each of two symbols or more. -/
inductive Body (signs : Bool) (c : Text) : List Entry → Prop where
  | leaf {es : List Entry} (hs : ∀ s t, tokens c = [s, t] → s.length ≤ 1) (h : Leaf signs c es) :
    Body signs c es
  | split {s t : Text} {leaves : List (List Entry)} (hc : tokens c = [s, t]) (hs : 2 ≤ s.length)
    (h : List.Forall₂ (fun a es => Leaf signs (a :: ' ' :: t) es) s leaves) :
    Body signs c (.split :: leaves.flatten)

/-- The entries of one text. No sign is inverted behind a space that was missing. -/
inductive Shape (c : Text) : List Entry → Prop where
  | plain {es : List Entry} (hc : ' ' ∈ c ∨ insertSpace c = none) (h : Body true c es) : Shape c es
  | spaced {c' : Text} {es : List Entry} (hs : ' ' ∉ c) (hc : insertSpace c = some c')
    (h : Body false c' es) : Shape c (.corrected .missingSpace c c' :: es)

variable {c s t : Text} {a : Char} {d : Direction} {signs : Bool} {es : List Entry}

/-! ### The entries of a script -/

theorem ends_rejection {v : Violation} (hv : violationOr c = .error v) (hf : v.IsFinal)
    (p : Position) : Ends c ((rejection c v).entryAt p) :=
  .rejected hv hf

theorem ends_ending {cmd : Command}
    (hv : violationOr c =
      if cmd.magnitude ≤ maxMagnitude then .ok cmd
      else .error (.numberExceedsLimit cmd.magnitude)) (p : Position) :
    Ends c ((ending c cmd).entryAt p) := by
  unfold ending
  by_cases hl : cmd.magnitude ≤ maxMagnitude
  · rw [if_pos hl] at hv ⊢
    exact .executed hv _
  · rw [if_neg hl] at hv ⊢
    exact ends_rejection hv trivial p

theorem tail_scriptOfDirection (h : tokens c = [[d.symbol], t])
    (hs : ∀ n, Numeral.literal? t = some n → n < 0 → signs = true) (p : Position) :
    Tail signs c (Outcome.entries p (scriptOfDirection c d t)) := by
  unfold scriptOfDirection
  cases hn : Numeral.literal? t with
  | none => exact .plain (ends_rejection (violationOr_of_unreadable h hn) trivial p)
  | some n =>
    simp only
    by_cases hneg : n < 0
    · have hl := Numeral.isLiteral_of_literal? hn
      have hp : 0 < -n := by omega
      rw [if_pos hneg]
      exact .negative (hs n hn hneg) (invertNegative_of_literal h hl hneg)
        (ends_ending (violationOr_text ⟨d.opposite, -n⟩ hl.writable.neg hp) p)
    · rw [if_neg hneg]
      by_cases hz : n = 0
      · subst hz
        exact .plain (.removed (violationOr_of_zero h hn))
      · have hp : 0 < n := by omega
        rw [if_neg hz]
        exact .plain (ends_ending (violationOr_of_pos h hn hp) p)

theorem leaf_scriptOfSymbol (h : tokens c = [[a], t])
    (hs : ∀ n, Numeral.literal? t = some n → n < 0 → signs = true) (p : Position) :
    Leaf signs c (Outcome.entries p (scriptOfSymbol c a t)) := by
  unfold scriptOfSymbol
  cases ha : Direction.ofSymbol? a with
  | some d =>
    obtain rfl := Direction.eq_symbol_of_ofSymbol? ha
    exact .plain (tail_scriptOfDirection h hs p)
  | none =>
    cases hl : Direction.ofLetter? a with
    | some d =>
      -- capitals make no number of a token that is none
      have hs' : ∀ n, Numeral.literal? t.upper = some n → n < 0 → signs = true := by
        rw [Numeral.literal?_upper]
        exact hs
      exact .lowercase (tail_scriptOfDirection (tokens_upper_of_letter h hl) hs' p)
    | none =>
      exact .plain (.plain
        (ends_rejection (violationOr_of_other h hl) (Violation.isFinal_of_other a) p))

/-- The symbols of a split make one leaf each, in their order. -/
theorem leaves_symbols (hs : ' ' ∉ s) (ht : ' ' ∉ t) (hn : t ≠ [])
    (hsign : ∀ n, Numeral.literal? t = some n → n < 0 → signs = true) (p : Position) :
    ∃ leaves, Outcome.entries p (s.flatMap fun a => scriptOfSymbol (a :: ' ' :: t) a t) =
        leaves.flatten ∧
      List.Forall₂ (fun a es => Leaf signs (a :: ' ' :: t) es) s leaves := by
  induction s generalizing p with
  | nil => exact ⟨[], rfl, .nil⟩
  | cons a s ih =>
    obtain ⟨ha, hs'⟩ := List.ne_and_not_mem_of_not_mem_cons hs
    have hl := leaf_scriptOfSymbol (tokens_letter ha ht hn) hsign p
    -- the other symbols start from the place that the first one leads to
    obtain ⟨leaves, he, hf⟩ := ih hs' (Outcome.last p (scriptOfSymbol (a :: ' ' :: t) a t))
    refine ⟨Outcome.entries p (scriptOfSymbol (a :: ' ' :: t) a t) :: leaves, ?_, .cons hl hf⟩
    rw [List.flatMap_cons, Outcome.entries_append, he, List.flatten_cons]

theorem body_scriptOfTokens (h : tokens c = [s, t])
    (hs : ∀ n, Numeral.literal? t = some n → n < 0 → signs = true) (p : Position) :
    Body signs c (Outcome.entries p (scriptOfTokens c s t)) := by
  have hone : s.length ≤ 1 → ∀ u v, tokens c = [u, v] → u.length ≤ 1 := by
    intro hl u v hu
    rw [h] at hu
    obtain ⟨rfl, _⟩ := List.cons.inj hu
    exact hl
  match s, h, hone with
  | [], h, hone =>
    have he := ends_rejection (violationOr_of_empty h) trivial p
    exact .leaf (hone (by simp)) (.plain (.plain he))
  | [a], h, hone => exact .leaf (hone (by simp)) (leaf_scriptOfSymbol h hs p)
  | a :: b :: s, h, _ =>
    obtain ⟨hsp, ht, hn, _⟩ := tokens_eq_pair_iff.mp h
    obtain ⟨leaves, he, hf⟩ := leaves_symbols hsp ht hn hs p
    have hb : Body signs c (.split :: leaves.flatten) := .split h (by simp) hf
    rw [← he] at hb
    exact hb

/-- Behind a space that was missing there is no sign to invert. -/
theorem body_spacedAt {i : Nat} (hs : ' ' ∉ c) (hb : boundary? c = some i) (p : Position) :
    Body false (spacedAt c i)
      (Outcome.entries p (scriptOfTokens (spacedAt c i) (c.take i) (c.drop i))) := by
  refine body_scriptOfTokens (tokens_spacedAt hs hb) ?_ p
  intro n hn hneg
  have := nonneg_of_drop_boundary hb (Numeral.isLiteral_of_literal? hn)
  omega

theorem ne_pair_of_not_mem (h : ' ' ∉ c) : ∀ s t, tokens c ≠ [s, t] := by
  intro s t ht
  obtain ⟨_, _, _, k, rfl⟩ := tokens_eq_pair_iff.mp ht
  exact absurd (by simp) h

theorem shape_script (c : Text) (p : Position) : Shape c (Outcome.entries p (script c)) := by
  unfold script
  by_cases hs : ' ' ∈ c
  · rw [if_pos hs]
    refine .plain (.inl hs) ?_
    split
    · next s t h => exact body_scriptOfTokens h (fun _ _ _ => rfl) p
    · next h =>
      have hv := violationOr_of_ne_pair hs h
      exact .leaf (fun s t ht => absurd ht (h s t)) (.plain (.plain (ends_rejection hv trivial p)))
  · have hc := insertSpace_eq c
    rw [if_neg hs]
    cases hb : boundary? c with
    | some i =>
      rw [hb] at hc
      exact .spaced hs hc (body_spacedAt hs hb p)
    | none =>
      rw [hb] at hc
      have hv := violationOr_of_not_mem hs
      exact .plain (.inr hc) (.leaf (fun s t ht => absurd ht (ne_pair_of_not_mem hs s t))
        (.plain (.plain (.unspaced hv hc))))

/-! ### One terminal entry for each symbol -/

/-- How many symbols a text is settled for: those that it has, or the text as a whole. -/
def symbolCount (c : Text) : Nat :=
  (parts? c).elim 1 fun p => max 1 p.1.length

theorem Ends.isTerminal {e : Entry} (h : Ends c e) : e.isTerminal = true := by
  cases h <;> rfl

theorem Tail.countP_isTerminal (h : Tail signs c es) : es.countP Entry.isTerminal = 1 := by
  cases h with
  | plain h => simp [h.isTerminal]
  | negative _ _ h =>
    rw [List.countP_cons_of_neg Bool.false_ne_true, List.countP_singleton, h.isTerminal]
    rfl

theorem Leaf.countP_isTerminal (h : Leaf signs c es) : es.countP Entry.isTerminal = 1 := by
  cases h with
  | plain h => exact h.countP_isTerminal
  | lowercase h => exact h.countP_isTerminal

theorem countP_leaves {leaves : List (List Entry)}
    (h : List.Forall₂ (fun a es => Leaf signs (a :: ' ' :: t) es) s leaves) :
    leaves.flatten.countP Entry.isTerminal = s.length := by
  induction h with
  | nil => rfl
  | cons hl _ ih =>
    rw [List.flatten_cons, List.countP_append, hl.countP_isTerminal, ih, List.length_cons]
    omega

theorem Body.countP_of_pair (h : Body signs c es) (hc : tokens c = [s, t]) :
    es.countP Entry.isTerminal = max 1 s.length := by
  cases h with
  | leaf hs hl =>
    have := hs s t hc
    rw [hl.countP_isTerminal]
    omega
  | split hc' hs hf =>
    rw [hc] at hc'
    obtain ⟨rfl, _⟩ := List.cons.inj hc'
    have := countP_leaves hf
    simp only [List.countP_cons, Entry.isTerminal, this]
    simp
    omega

theorem Body.countP_of_ne_pair (h : Body signs c es) (hc : ∀ s t, tokens c ≠ [s, t]) :
    es.countP Entry.isTerminal = 1 := by
  cases h with
  | leaf _ hl => exact hl.countP_isTerminal
  | split hc' _ _ => exact absurd hc' (hc _ _)

theorem Shape.countP_isTerminal (h : Shape c es) :
    es.countP Entry.isTerminal = symbolCount c := by
  unfold symbolCount
  cases h with
  | plain hc h =>
    by_cases hs : ' ' ∈ c
    · by_cases hp : ∃ s t, tokens c = [s, t]
      · obtain ⟨s, t, ht⟩ := hp
        rw [parts?_of_pair hs ht]
        exact h.countP_of_pair ht
      · have ht : ∀ s t, tokens c ≠ [s, t] := fun s t ht => hp ⟨s, t, ht⟩
        rw [parts?_of_ne_pair hs ht]
        exact h.countP_of_ne_pair ht
    · have hi := hc.resolve_left hs
      rw [insertSpace_eq, Option.map_eq_none_iff] at hi
      rw [parts?_of_not_mem hs, hi]
      exact h.countP_of_ne_pair (ne_pair_of_not_mem hs)
  | spaced hs hc h =>
    rw [insertSpace_eq] at hc
    obtain ⟨i, hb, rfl⟩ := Option.map_eq_some_iff.mp hc
    rw [parts?_of_not_mem hs, hb]
    exact h.countP_of_pair (tokens_spacedAt hs hb)

theorem symbolCount_pos (c : Text) : 0 < symbolCount c := by
  unfold symbolCount
  cases parts? c with
  | none => exact Nat.one_pos
  | some p => exact Nat.lt_of_lt_of_le Nat.one_pos (Nat.le_max_left 1 p.1.length)

end Command

/-- What a text logs is not empty and has the shape, with one terminal entry for each symbol. -/
theorem log_process_shape {p : Position} {c : Text} (h : p.HasRoom c.length) (log : Array Entry)
    (notes : Array Note) :
    ∃ new, (Run.process ⟨p, log, notes, none⟩ c).fault = none ∧
      (Run.process ⟨p, log, notes, none⟩ c).log.toList = log.toList ++ new ∧
      Command.Shape c new ∧ new ≠ [] ∧ new.countP Entry.isTerminal = Command.symbolCount c := by
  have hl := Run.ledger_process_of_hasRoom h log notes
  have hs := Command.shape_script c p
  have hc := hs.countP_isTerminal
  refine ⟨_, congrArg Ledger.fault hl, congrArg Ledger.log hl, hs, ?_, hc⟩
  intro hn
  have := Command.symbolCount_pos c
  rw [← hc, hn] at this
  exact absurd this (by simp)

/-- A text without a space, with a small letter among its symbols, is settled for two symbols. -/
theorem log_process_shape_of_unspaced :
    Position.origin.HasRoom ("nE3".toList).length ∧
      ∃ new, (Run.process ⟨.origin, #[], #[], none⟩ "nE3".toList).log.toList = new ∧
        Command.Shape "nE3".toList new ∧ new.countP Entry.isTerminal = 2 := by
  have hr : Position.origin.HasRoom ("nE3".toList).length := by decide +kernel
  have hk : Command.symbolCount "nE3".toList = 2 := by decide
  obtain ⟨new, _, hl, hs, _, hc⟩ := log_process_shape hr #[] #[]
  exact ⟨hr, new, hl, hs, hc.trans hk⟩

end GridRobot
