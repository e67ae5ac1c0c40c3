import GridRobot.Proofs.Command.Verdict

/-!
# The texts that repairs hand back

What the tokens of a repaired text are, and what validation says of it: of a text in capitals, and
of a text with its sign inverted.
-/

namespace GridRobot

namespace Command

theorem symbol_ne_space (d : Direction) : ' ' ≠ d.symbol := by
  cases d <;> decide

/-! ### Capitals -/

theorem upper_intercalate (ts : List Text) :
    Text.upper ([' '].intercalate ts) = [' '].intercalate (ts.map Text.upper) := by
  have hb : Text.upper [' '] = [' '] := rfl
  induction ts with
  | nil => rfl
  | cons t ts ih =>
    cases ts with
    | nil => simp
    | cons u us =>
      rw [List.intercalate_cons_cons, Text.upper_append, Text.upper_append, ih, hb]
      simp [List.intercalate_cons_cons]

/-- Capitals do not move the spaces: each token is turned into capitals on its own. -/
theorem tokens_upper (c : Text) : tokens c.upper = (tokens c).map Text.upper := by
  obtain ⟨k, hk⟩ := exists_join_tokens c
  obtain ⟨hs, hl⟩ := isTokens_tokens c
  have hu : IsTokens ((tokens c).map Text.upper) := by
    constructor
    · intro t ht hm
      obtain ⟨u, hu, rfl⟩ := List.mem_map.mp ht
      exact hs u hu (Text.space_mem_upper_iff.mp hm)
    · intro t ht
      rw [List.getLast?_map] at ht
      obtain ⟨u, hu, rfl⟩ := Option.map_eq_some_iff.mp ht
      exact Text.upper_ne_nil (hl u hu)
  calc tokens c.upper = tokens (Text.upper (join (tokens c) k)) := by rw [hk]
    _ = tokens (join ((tokens c).map Text.upper) k) := by
      rw [join, Text.upper_append, upper_intercalate, Text.upper_spaces, join]
    _ = (tokens c).map Text.upper := tokens_join hu k

theorem tokens_upper_of_letter {c t : Text} {a : Char} {d : Direction} (h : tokens c = [[a], t])
    (ha : Direction.ofLetter? a = some d) : tokens c.upper = [[d.symbol], t.upper] := by
  rw [tokens_upper, h]
  simp [Direction.upperChar_of_ofLetter? ha]

/-! ### Canonical texts -/

theorem tokens_text (cmd : Command) :
    tokens cmd.text = [[cmd.direction.symbol], Numeral.text cmd.magnitude] :=
  tokens_letter (symbol_ne_space _) (Numeral.not_mem_text (by decide) (by decide) _)
    (Numeral.text_ne_nil _)

/-- A canonical text with a distance above zero is the command, unless the distance is too long. -/
theorem violationOr_text (cmd : Command) (hw : Numeral.Writable cmd.magnitude)
    (hp : 0 < cmd.magnitude) :
    violationOr cmd.text =
      if cmd.magnitude ≤ maxMagnitude then .ok cmd
      else .error (.numberExceedsLimit cmd.magnitude) :=
  violationOr_of_pos (tokens_text cmd) (Numeral.literal?_text hw) hp

/-! ### Inverted signs -/

/-- A negative number is inverted to the canonical text of the opposite move. -/
theorem invertNegative_of_literal {c t : Text} {d : Direction} {n : Int}
    (h : tokens c = [[d.symbol], t]) (hn : Numeral.IsLiteral t n) (hneg : n < 0) :
    invertNegative c = .ok (text ⟨d.opposite, -n⟩) := by
  have hd : Direction.ofText [d.symbol] = .ok d := by
    simp only [Direction.ofText, Direction.ofSymbol?_symbol]
  have hm : ((n.natAbs : Nat) : Int) = -n := by omega
  have hw : Numeral.Writable (n.natAbs : Int) := by
    have := hn.writable
    unfold Numeral.Writable at this ⊢
    rwa [Int.natAbs_natCast]
  have ht : Numeral.write (n.natAbs : Int) = .ok (Numeral.text (-n)) := by
    rw [Numeral.write, if_pos hw, hm]
  simp only [invertNegative, h, hd, hn.read, mapError_ok, bind, Except.bind, ht]
  rfl

end Command

end GridRobot
