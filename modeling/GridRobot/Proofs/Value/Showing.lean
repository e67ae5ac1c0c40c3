import GridRobot.Value

/-!
# When a value has a text

A value is shown part by part. What keeps it from having a text is the first part in order that is
an integer too long to write, or that lies too deep for the room there is.

Main statement: `endsAs_str`.
-/

namespace GridRobot.Value

/-- How the writing of what has these integers and this depth ends in some room: with a result only
if all can be written and there is room for it, and else for a reason that is one. -/
def EndsAs {α : Type} (writable : Bool) (depth room : Nat) : Except TextError α → Prop
  | .ok _ => writable = true ∧ depth ≤ room
  | .error .unwritable => writable = false
  | .error (.tooDeep _) => room < depth

namespace EndsAs

variable {α β : Type} {w w' : Bool} {d d' room : Nat} {x : Except TextError α}

theorem map (h : EndsAs w d room x) (f : α → β) : EndsAs w d room (x.map f) := by
  cases x with
  | ok a => exact h
  | error e => cases e <;> exact h

theorem succ (h : EndsAs w d room x) : EndsAs w (d + 1) (room + 1) x := by
  cases x with
  | ok a => exact ⟨h.1, Nat.succ_le_succ h.2⟩
  | error e =>
    cases e with
    | unwritable => exact h
    | tooDeep form => exact Nat.succ_lt_succ h

theorem bind (hx : EndsAs w d room x) {y : α → Except TextError β}
    (hy : ∀ a, EndsAs w' d' room (y a)) : EndsAs (w && w') (max d d') room (x >>= y) := by
  cases x with
  | error e =>
    cases e with
    | unwritable =>
      have hw : w = false := hx
      rw [hw]
      rfl
    | tooDeep form => exact Nat.lt_of_lt_of_le hx (Nat.le_max_left _ _)
  | ok a =>
    obtain ⟨rfl, hd⟩ := hx
    have ha := hy a
    show EndsAs (true && w') (max d d') room (y a)
    rw [Bool.true_and]
    cases hb : y a with
    | error e =>
      rw [hb] at ha
      cases e with
      | unwritable => exact ha
      | tooDeep form => exact Nat.lt_of_lt_of_le ha (Nat.le_max_right _ _)
    | ok b =>
      rw [hb] at ha
      exact ⟨ha.1, Nat.max_le.mpr ⟨hd, ha.2⟩⟩

end EndsAs

/-- There is no room for the first of some parts. -/
theorem endsAs_partTooDeep {α : Type} (w : Bool) (d d' : Nat) :
    EndsAs w (max (d + 1) d') 0 (.error .partTooDeep : Except TextError α) :=
  Nat.lt_of_lt_of_le (Nat.zero_lt_succ d) (Nat.le_max_left _ _)

mutual

theorem endsAs_shown : ∀ (v : Value) (room : Nat), EndsAs v.isWritable v.depth room (v.shown room)
  | null, _ | bool _, _ | float _, _ | text _, _ | bytes _, _ | date _, _ | time _, _ | loop _, _ =>
    ⟨rfl, Nat.zero_le _⟩
  | int n, _ => by
    unfold shown isWritable depth
    split
    · next hn => exact ⟨decide_eq_true hn, Nat.zero_le _⟩
    · next hn => exact decide_eq_false hn
  | list items, room => (endsAs_shownItems items room).map _
  | tuple items, room => (endsAs_shownItems items room).map _
  | set [], _ => ⟨rfl, Nat.zero_le _⟩
  | set (_ :: _), 0 => Nat.zero_lt_succ _
  | set (item :: items), room + 1 => (endsAs_shownItems (item :: items) room).succ.map _
  | mapping entries, room => (endsAs_shownEntries entries room).map _

theorem endsAs_shownItems : ∀ (vs : List Value) (room : Nat),
    EndsAs (areWritable vs) (depthOfItems vs) room (shownItems vs room)
  | [], _ => ⟨rfl, Nat.zero_le _⟩
  | _ :: _, 0 => endsAs_partTooDeep _ _ _
  | v :: vs, room + 1 =>
    (endsAs_shown v room).succ.bind fun _ => (endsAs_shownItems vs (room + 1)).map _

theorem endsAs_shownEntries : ∀ (es : List (Value × Value)) (room : Nat),
    EndsAs (areWritableEntries es) (depthOfEntries es) room (shownEntries es room)
  | [], _ => ⟨rfl, Nat.zero_le _⟩
  | (_, _) :: _, 0 => endsAs_partTooDeep _ _ _
  | (k, v) :: es, room + 1 =>
    (endsAs_shown k room).succ.bind fun _ => (endsAs_shown v room).succ.bind fun _ =>
      (endsAs_shownEntries es (room + 1)).map _

end

/-- The text of a value is missing only if an integer cannot be written or there is no room. -/
theorem endsAs_str (v : Value) (room : Nat) : EndsAs v.isWritable v.height room (v.str room) := by
  have hshown : ∀ room, EndsAs v.isWritable (v.depth + 1) (room + 1)
      ((v.shown room).map Text.loose) := fun room => ((endsAs_shown v room).succ).map _
  cases room with
  | zero =>
    cases v with
    | text t => exact ⟨rfl, Nat.le_refl 0⟩
    | _ => exact Nat.zero_lt_succ _
  | succ room =>
    cases v with
    | text t => exact ⟨rfl, Nat.zero_le _⟩
    | date d => exact ⟨rfl, Nat.succ_le_succ (Nat.zero_le _)⟩
    | time t => exact ⟨rfl, Nat.succ_le_succ (Nat.zero_le _)⟩
    | _ => exact hshown room

end GridRobot.Value
