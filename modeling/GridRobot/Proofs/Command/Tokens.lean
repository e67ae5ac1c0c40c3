import GridRobot.Command.Token
import Mathlib.Logic.ExistsUnique

/-!
# Texts and their tokens

A text is no more than its tokens and the number of spaces at its end: both can be read off the
text, and any tokens come with any number of spaces.

Main statement: `join_tokens_unique`.
-/

namespace GridRobot.Command

variable {ts us : List Text} {k l : Nat}

theorem length_join (ts : List Text) (k : Nat) :
    (join ts k).length = ([' '].intercalate ts).length + k := by
  rw [join, List.length_append, List.length_replicate]

theorem join_inj (ht : IsTokens ts) (hu : IsTokens us) (h : join ts k = join us l) :
    ts = us ∧ k = l := by
  have hts : ts = us := by
    have hk := tokens_join ht k
    rw [h, tokens_join hu l] at hk
    exact hk.symm
  subst hts
  have hlength := congrArg List.length h
  rw [length_join, length_join] at hlength
  exact ⟨rfl, by omega⟩

/-- A text is its tokens, joined, with one number of spaces behind them and no other. Tokens are
read back from what they are joined to, whatever the number of spaces. -/
theorem join_tokens_unique :
    (∀ c : Text, IsTokens (tokens c) ∧ ∃! k, c = join (tokens c) k) ∧
      ∀ (ts : List Text) (k : Nat), IsTokens ts → tokens (join ts k) = ts := by
  constructor
  · intro c
    have ht := isTokens_tokens c
    obtain ⟨k, hk⟩ := exists_join_tokens c
    refine ⟨ht, k, hk.symm, ?_⟩
    intro l hl
    have hjoin : join (tokens c) l = join (tokens c) k := by rw [hk, ← hl]
    exact (join_inj ht ht hjoin).2
  · intro ts k ht
    exact tokens_join ht k

/-- Leading and doubled spaces make empty tokens, and those at the end make none. -/
theorem join_tokens_unique_of_gaps :
    IsTokens [[], ['N'], [], ['5']] ∧
      tokens [' ', 'N', ' ', ' ', '5', ' ', ' '] = [[], ['N'], [], ['5']] := by
  have ht : IsTokens [[], ['N'], [], ['5']] := by simp [IsTokens]
  exact ⟨ht, join_tokens_unique.2 [[], ['N'], [], ['5']] 2 ht⟩

end GridRobot.Command
