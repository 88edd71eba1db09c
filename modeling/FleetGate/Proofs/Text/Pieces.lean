import FleetGate.Text.CodePoint

/-!
# Pieces between separators

A text is cut into pieces at its separators, and a list of pieces is joined with separators between
them. A separator cuts a text in two halves that are cut on their own (`Text.splitOn_append`), and
joining goes the same way back (`Text.joinWith_append`). So the pieces of a text are the only texts
without a separator that join to it (`Text.splitOn_eq_iff`). A joined text is at least as long as
each of its pieces, and as their number if none is empty.
-/

namespace FleetGate

namespace Text

theorem splitOn_separator (separator : Char) (rest : Text) :
    splitOn separator (.scalar separator :: rest) = [] :: splitOn separator rest := by
  rw [splitOn]
  split
  · rename_i none_left
    exact absurd none_left (splitOn_ne_nil separator rest)
  · rename_i piece pieces split_eq
    simp [CodePoint.is, split_eq]

theorem splitOn_append (separator : Char) (left right : Text) :
    splitOn separator (left ++ .scalar separator :: right) =
      splitOn separator left ++ splitOn separator right := by
  induction left with
  | nil => exact splitOn_separator separator right
  | cons point left ih =>
      rw [List.cons_append, splitOn, ih, splitOn]
      cases cut : splitOn separator left with
      | nil => exact absurd cut (splitOn_ne_nil separator left)
      | cons piece pieces =>
          simp only [List.cons_append]
          split <;> rfl

theorem joinWith_append (separator : Text) {front back : List Text} (hasFront : front ≠ [])
    (hasBack : back ≠ []) :
    joinWith separator (front ++ back) =
      joinWith separator front ++ separator ++ joinWith separator back := by
  induction front with
  | nil => exact absurd rfl hasFront
  | cons piece pieces ih =>
      cases pieces with
      | nil =>
          cases back with
          | nil => exact absurd rfl hasBack
          | cons next others => rfl
      | cons next others =>
          have later := ih (List.cons_ne_nil next others)
          simp only [List.cons_append, joinWith] at later ⊢
          rw [later]
          simp only [List.append_assoc]

/-! ## Pieces without a separator -/

theorem splitOn_of_notMem {separator : Char} {text : Text}
    (missing : .scalar separator ∉ text) : splitOn separator text = [text] := by
  induction text with
  | nil => rfl
  | cons point rest ih =>
      simp only [List.mem_cons, not_or] at missing
      have isOther : point.is separator = false := by
        rw [Bool.eq_false_iff, ne_eq, CodePoint.is_eq_true_iff]
        exact Ne.symm missing.1
      rw [splitOn, ih missing.2]
      simp [isOther]

theorem notMem_of_mem_splitOn {separator : Char} {text piece : Text}
    (listed : piece ∈ splitOn separator text) : .scalar separator ∉ piece := by
  induction text generalizing piece with
  | nil =>
      rw [splitOn, List.mem_singleton] at listed
      simp [listed]
  | cons point rest ih =>
      rw [splitOn] at listed
      cases cut : splitOn separator rest with
      | nil => exact absurd cut (splitOn_ne_nil separator rest)
      | cons first others =>
          have own : .scalar separator ∉ first := ih (by simp [cut])
          simp only [cut] at listed
          split at listed
          · rcases List.mem_cons.1 listed with rfl | later
            · simp
            · exact ih (by simpa [cut] using later)
          · rename_i differs
            rcases List.mem_cons.1 listed with rfl | later
            · intro inside
              rcases List.mem_cons.1 inside with rfl | deeper
              · simp at differs
              · exact own deeper
            · exact ih (by simp [cut, later])

theorem splitOn_joinWith {separator : Char} {pieces : List Text} (filled : pieces ≠ [])
    (clean : ∀ piece ∈ pieces, .scalar separator ∉ piece) :
    splitOn separator (joinWith (ofChar separator) pieces) = pieces := by
  induction pieces with
  | nil => exact absurd rfl filled
  | cons first others ih =>
      have alone : splitOn separator first = [first] :=
        splitOn_of_notMem (clean first List.mem_cons_self)
      cases others with
      | nil => exact alone
      | cons next more =>
          have later := ih (List.cons_ne_nil next more)
            fun piece listed => clean piece (List.mem_cons_of_mem first listed)
          rw [joinWith, ofChar, List.append_assoc]
          change splitOn separator (first ++ .scalar separator :: _) = _
          rw [splitOn_append, alone]
          exact congrArg (first :: ·) later

/-- The pieces of a text are those that hold no separator and join to it. -/
theorem splitOn_eq_iff {separator : Char} {text : Text} {pieces : List Text} :
    splitOn separator text = pieces ↔
      pieces ≠ [] ∧ (∀ piece ∈ pieces, .scalar separator ∉ piece) ∧
        joinWith (ofChar separator) pieces = text := by
  constructor
  · rintro rfl
    refine ⟨splitOn_ne_nil separator text, ?_, joinWith_splitOn separator text⟩
    intro piece listed
    exact notMem_of_mem_splitOn listed
  · rintro ⟨filled, clean, rfl⟩
    exact splitOn_joinWith filled clean

/-! ## What stands behind a piece -/

/-- What stands behind a piece of a joined text in front of an ending: the other pieces, each behind
a separator, and the ending. -/
def behindPiece (separator : Text) (others : List Text) (ending : Text) : Text :=
  match others with
  | [] => ending
  | next :: more => separator ++ (next ++ behindPiece separator more ending)

/-- Behind a piece stand the mark and the blanks of the separator, then the other pieces. -/
theorem behindPiece_cons {separator : Text} {mark : CodePoint} {blanks : Text}
    (parts : separator = mark :: blanks) (next : Text) (more : List Text) (ending : Text) :
    behindPiece separator (next :: more) ending =
      mark :: (blanks ++ (next ++ behindPiece separator more ending)) := by
  subst parts
  rfl

theorem joinWith_cons_append (separator first : Text) (others : List Text) (ending : Text) :
    joinWith separator (first :: others) ++ ending =
      first ++ behindPiece separator others ending := by
  induction others generalizing first with
  | nil => rfl
  | cons next more ih =>
      rw [joinWith, behindPiece, ← ih, List.append_assoc, List.append_assoc]

/-- Pieces that are not empty take at least a place each. -/
theorem length_le_joinWith (separator : Text) {pieces : List Text}
    (filled : ∀ piece ∈ pieces, piece ≠ []) :
    pieces.length ≤ (joinWith separator pieces).length := by
  induction pieces with
  | nil => simp
  | cons first others ih =>
      have own := List.length_pos_iff.2 (filled first (by simp))
      have later := ih fun piece listed => filled piece (by simp [listed])
      cases others with
      | nil => simpa [joinWith] using Nat.succ_le_of_lt own
      | cons next more =>
          simp only [joinWith, List.length_append, List.length_cons] at later ⊢
          omega

theorem length_le_joinWith_of_mem (separator : Text) {pieces : List Text} {piece : Text}
    (listed : piece ∈ pieces) : piece.length ≤ (joinWith separator pieces).length := by
  induction pieces with
  | nil => cases listed
  | cons first others ih =>
      cases others with
      | nil => simp [joinWith, List.mem_singleton.1 listed]
      | cons next more =>
          simp only [joinWith, List.length_append]
          rcases List.mem_cons.1 listed with rfl | later
          · omega
          · have short := ih later
            omega

end Text

end FleetGate
