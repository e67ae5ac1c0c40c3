import GridRobot.Proofs.Numeral.Literal
import GridRobot.Proofs.Run.Displacement
import GridRobot.Run.Lines

/-!
# Reports of moves in a printed log

The lines of a log are told apart by how they start. A line that starts with the words of a report
is the report of a move, whatever texts the other entries quote, and the command and the place that
it reports can be read off it in one way only.

Main statements: `isReport_text` and `text_executed_inj`.
-/

namespace GridRobot

namespace Entry

/-- The words that the report of a move starts with. -/
def reportMark : Text := "Executed command: ".toList

/-- The line starts as the report of a move does. -/
def isReport (line : Text) : Bool :=
  reportMark.isPrefixOf line

/-! ### The layout of a report -/

/-- What stands between the distance and the first coordinate, without the space in front. -/
def placeMark : Text := "-> Position: (".toList

theorem link_placeMark : " -> Position: ".toList ++ ['('] = ' ' :: placeMark := by decide

/-- The numerals of a report are followed by a space, a comma and a closing parenthesis. -/
theorem text_executed (c : Command) (p : Position) :
    (executed c p).text = reportMark ++ c.direction.symbol :: ' ' :: (Numeral.text c.magnitude ++
      ' ' :: (placeMark ++ (Numeral.text p.x ++ ',' :: ' ' ::
        (Numeral.text p.y ++ ')' :: ['.'])))) := by
  have hs := link_placeMark
  unfold text executedMessage reportMark
  -- the words themselves do not matter, and are not to be spelled out
  generalize "Executed command: ".toList = mark
  generalize " -> Position: ".toList = link at hs ⊢
  generalize placeMark = place at hs ⊢
  have hl : ∀ t, link ++ '(' :: t = ' ' :: (place ++ t) := by
    intro t
    have := congrArg (· ++ t) hs
    simpa using this
  simp [Command.text, Position.text, hl]

/-- A line starts as a report does just if it is one: the words in front of what the other entries
quote are different ones. -/
theorem isReport_text (e : Entry) : isReport e.text = e.isExecution := by
  cases e with
  | executed c p =>
    rw [text_executed]
    exact List.isPrefixOf_iff_prefix.mpr (List.prefix_append _ _)
  | corrected k before after => rfl
  | split => rfl
  | removed c => rfl
  | rejected m => rfl

theorem filter_isReport_texts (es : List Entry) :
    (es.map text).filter isReport = (es.filter isExecution).map text := by
  have hf : isReport ∘ text = isExecution := funext isReport_text
  rw [List.filter_map, hf]

/-! ### What a report says -/

/-- A part that lacks a character ends where the character stands. -/
theorem append_cons_inj {a : Char} {x y s t : Text} (hx : a ∉ x) (hy : a ∉ y)
    (h : x ++ a :: s = y ++ a :: t) : x = y ∧ s = t := by
  induction x generalizing y with
  | nil =>
    cases y with
    | nil => exact ⟨rfl, (List.cons.inj h).2⟩
    | cons b y =>
      obtain ⟨rfl, _⟩ := List.cons.inj h
      exact absurd (List.mem_cons_self ..) hy
  | cons b x ih =>
    cases y with
    | nil =>
      obtain ⟨rfl, _⟩ := List.cons.inj h
      exact absurd (List.mem_cons_self ..) hx
    | cons d y =>
      obtain ⟨rfl, ht⟩ := List.cons.inj h
      obtain ⟨rfl, hs⟩ := ih (List.not_mem_of_not_mem_cons hx) (List.not_mem_of_not_mem_cons hy) ht
      exact ⟨rfl, hs⟩

/-- A numeral ends where a character stands that is neither a digit nor a sign. -/
theorem numeral_append_inj {a : Char} (hd : a.isDigit = false) (hm : a ≠ '-') {m n : Int}
    {s t : Text} (h : Numeral.text m ++ a :: s = Numeral.text n ++ a :: t) : m = n ∧ s = t := by
  obtain ⟨hn, hs⟩ :=
    append_cons_inj (Numeral.not_mem_text hd hm m) (Numeral.not_mem_text hd hm n) h
  exact ⟨Numeral.text_injective hn, hs⟩

/-- The command and the place can be read off a report. -/
theorem text_executed_inj {c c' : Command} {p p' : Position}
    (h : (executed c p).text = (executed c' p').text) : c = c' ∧ p = p' := by
  rw [text_executed, text_executed] at h
  obtain ⟨hd, h⟩ := List.cons.inj (List.append_cancel_left h)
  obtain ⟨hm, h⟩ := numeral_append_inj (by decide) (by decide) (List.cons.inj h).2
  obtain ⟨hx, h⟩ := numeral_append_inj (by decide) (by decide) (List.append_cancel_left h)
  obtain ⟨hy, _⟩ := numeral_append_inj (by decide) (by decide) (List.cons.inj h).2
  have hs : some c.direction = some c'.direction := by
    rw [← Direction.ofSymbol?_symbol, ← Direction.ofSymbol?_symbol, hd]
  cases c
  cases c'
  cases hs
  cases hm
  exact ⟨rfl, Position.ext hx hy⟩

/-- A line that starts as a report does reports one command and one place. -/
theorem existsUnique_of_isReport {e : Entry} (h : isReport e.text = true) :
    ∃! x : Command × Position, e.text = (executed x.1 x.2).text := by
  rw [isReport_text] at h
  cases e with
  | executed c p =>
    refine ⟨(c, p), rfl, ?_⟩
    intro x hx
    obtain ⟨rfl, rfl⟩ := text_executed_inj hx
    rfl
  | corrected k before after => cases h
  | split => cases h
  | removed c => cases h
  | rejected m => cases h

end Entry

namespace Run

/-- The lines of the printed log that start as reports do. -/
def reports (r : Run) : List Text :=
  r.logTexts.filter Entry.isReport

theorem reports_eq (r : Run) :
    r.reports = (r.log.toList.filter Entry.isExecution).map Entry.text :=
  Entry.filter_isReport_texts r.log.toList

/-- A log of outcomes reports their moves, and nothing else. -/
theorem reports_of_log {r : Run} {p : Position} {os : List Outcome}
    (h : os.all Outcome.isProper = true) (hl : r.log.toList = Outcome.entries p os) :
    r.reports = (p.trail (Outcome.moves os)).map Entry.text := by
  rw [reports_eq, hl, Outcome.filter_isExecution_entries h]

end Run

end GridRobot
