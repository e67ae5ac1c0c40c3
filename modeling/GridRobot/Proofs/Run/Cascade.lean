import GridRobot.Proofs.Run.Continuation

/-!
# The cascade of corrections

The corrections of a text, told as a recursion: a text that breaks a rule with a repair is replaced
by the repaired text, and the cascade starts over with it. A text with several symbols starts one
cascade for each of them, and each ends before the next begins.

Main statement: the worklist does the same as the recursion (`process_eq_cascade`).
-/

namespace GridRobot

namespace Command

/-- The second token. -/
def numberToken (c : Text) : Text :=
  (tokens c).getD 1 []

theorem tokens_of_multiple {c s : Text} (h : violationOr c = .error (.multipleSymbols s)) :
    tokens c = [s, numberToken c] := by
  obtain ⟨u, t, ht, hu⟩ := exists_tokens_of_violationOr h (by simp) (by simp)
  obtain ⟨rfl, _⟩ := ofTokens_eq_multiple hu
  rw [numberToken, ht]
  rfl

/-- The command of one of several symbols weighs less than the command of all of them. -/
theorem weight_symbol {c s : Text} {a : Char} (h : violationOr c = .error (.multipleSymbols s))
    (ha : a ∈ s) : weight (a :: ' ' :: numberToken c) < weight c := by
  obtain ⟨hs, hn, hne, _⟩ := tokens_eq_pair_iff.mp (tokens_of_multiple h)
  have hsp : ' ' ≠ a := by
    rintro rfl
    exact hs ha
  have h3 := weight_le_three (tokens_letter hsp hn hne)
  have hw : weight c = 3 * s.length + 1 := by simp [weight, h]
  have hp := List.length_pos_of_mem ha
  omega

end Command

open Command in
/-- Settles a text and all that comes of it, by recursion. -/
def cascade (c : Text) (l : Ledger) : Ledger :=
  match _hv : violationOr c with
  | .ok cmd => l.perform cmd
  | .error v =>
    match v with
    | .noSpaceSeparator =>
      match _hi : insertSpace c with
      | some c' => cascade c' (l.record (.corrected .missingSpace c c'))
      | none => l.record (.rejected (Failure.uninterpretableMessage c))
    | .lowercaseLetter _ => cascade c.upper (l.record (.corrected .lowercaseLetter c c.upper))
    | .multipleSymbols s =>
      s.attach.foldl (fun l a => l.andThen (cascade (a.1 :: ' ' :: numberToken c)))
        (l.record .split)
    | .negativeNumber _ =>
      match _hn : invertNegative c with
      | .ok c' => cascade c' (l.record (.corrected .negativeNumber c c'))
      | .error e => l.stop e
    | .zeroNumber => l.record (.removed c)
    | v => l.record (.rejected (Failure.message ⟨c, v⟩))
termination_by weight c
decreasing_by
  · exact weight_insertSpace _hi (not_mem_of_noSpace _hv)
  · exact weight_upper _hv
  · exact weight_symbol _hv a.2
  · exact weight_invertNegative _hv _hn

/-- One cascade after the other, as the worklist settles the texts one after the other. -/
theorem ledger_foldl_process (cs : List Text)
    (ih : ∀ c ∈ cs, ∀ r : Run, r.fault = none → (r.process c).ledger = cascade c r.ledger)
    (r : Run) :
    (cs.foldl Run.process r).ledger = cs.foldl (fun l c => l.andThen (cascade c)) r.ledger := by
  induction cs generalizing r with
  | nil => rfl
  | cons c cs ihs =>
    have hr := ihs fun d hd => ih d (List.mem_cons_of_mem _ hd)
    rw [List.foldl_cons, List.foldl_cons, hr]
    cases hf : r.fault with
    | some f => rw [Run.process_of_fault hf, Ledger.andThen_of_some hf]
    | none => rw [ih c (List.mem_cons_self ..) r hf, Ledger.andThen_of_none hf]

theorem ledger_process (c : Text) (r : Run) (h : r.fault = none) :
    (r.process c).ledger = cascade c r.ledger := by
  induction hw : Command.weight c using Nat.strongRecOn generalizing c r with
  | ind w ih =>
    subst hw
    -- the texts that replace `c` weigh less, and the run that goes on with them has no fault
    have next : ∀ e c', Command.weight c' < Command.weight c → r.GoesOn c e [c'] →
        (r.process c).ledger = cascade c' (r.ledger.record e) := by
      intro e c' hlt ⟨r', hf, hl, hp⟩
      rw [hp, ← hl]
      exact ih _ hlt c' r' hf rfl
    rw [cascade]
    split
    · next cmd hv => exact Run.ledger_of_ok h hv
    · next v hv =>
      cases v with
      | noSpaceSeparator =>
        dsimp only
        split
        · next c' hi =>
          have hlt := Command.weight_insertSpace hi (Command.not_mem_of_noSpace hv)
          exact next _ c' hlt (Run.goesOn_missingSpace h hv hi)
        · next hi => exact (Run.goesOn_noBoundary h hv hi).ledger_of_nil
      | lowercaseLetter a =>
        exact next _ c.upper (Command.weight_upper hv) (Run.goesOn_lowercase h hv)
      | multipleSymbols s =>
        obtain ⟨r', hr', hl, hp⟩ := Run.goesOn_split h hv (Command.tokens_of_multiple hv)
        have ih' : ∀ d ∈ s.map (fun a => a :: ' ' :: Command.numberToken c), ∀ r : Run,
            r.fault = none → (r.process d).ledger = cascade d r.ledger := by
          intro d hd r hr
          obtain ⟨a, ha, rfl⟩ := List.mem_map.mp hd
          exact ih _ (Command.weight_symbol hv ha) _ r hr rfl
        rw [hp, ledger_foldl_process _ ih', hl, List.foldl_map]
        exact (List.foldl_attach (f := fun (l : Ledger) (a : Char) =>
          l.andThen (cascade (a :: ' ' :: Command.numberToken c)))).symm
      | negativeNumber n =>
        dsimp only
        split
        · next c' hc =>
          have hlt := Command.weight_invertNegative hv hc
          exact next _ c' hlt (Run.goesOn_negative h hv hc)
        · next e hc =>
          have hr : Failure.repair ⟨c, .negativeNumber n⟩ = .error e := by
            simp only [Failure.repair, hc]
          exact Run.ledger_of_error h hv hr
      | zeroNumber => exact (Run.goesOn_zero h hv).ledger_of_nil
      | uninterpretable | invalidCapitalLetter | invalidSymbol | invalidNumberFormat
      | numberExceedsLimit => exact (Run.goesOn_final h hv trivial).ledger_of_nil

/-- From every position and with every log, the worklist ends with the log and the position that the
recursion ends with, and with its fault if a coordinate is too long to be written. -/
theorem process_eq_cascade (p : Position) (log : Array Entry) (notes : Array Note) (c : Text) :
    (Run.process ⟨p, log, notes, none⟩ c).ledger = cascade c ⟨p, log.toList, none⟩ :=
  ledger_process c ⟨p, log, notes, none⟩ rfl

end GridRobot
