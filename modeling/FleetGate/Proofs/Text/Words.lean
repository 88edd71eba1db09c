import FleetGate.Text.Blank

/-!
# Words between blanks

Splitting a text at its white space cuts off one word after the other. A word is not empty and has
no blank in it; what stands behind its first blank is split on its own. More generally the words on
the two sides of a gap have nothing to do with each other (`splitBlank_append_gap`), so how long a
gap is and what kind of white space it is made of does not matter.
-/

namespace FleetGate

namespace Text

/-- The text has no white space in it. -/
def IsUnbroken (text : Text) : Prop :=
  ∀ point ∈ text, point.isBlank = false

/-- The text is white space only. -/
def IsGap (text : Text) : Prop :=
  ∀ point ∈ text, point.isBlank = true

instance (text : Text) : Decidable (IsUnbroken text) :=
  inferInstanceAs (Decidable (∀ point ∈ text, point.isBlank = false))

instance (text : Text) : Decidable (IsGap text) :=
  inferInstanceAs (Decidable (∀ point ∈ text, point.isBlank = true))

theorem isGap_nil : IsGap [] :=
  fun _ point_mem => absurd point_mem List.not_mem_nil

theorem splitBlank_nil : splitBlank [] = [] := rfl

theorem splitBlank_cons_blank {blank : CodePoint} (isBlank : blank.isBlank = true) (rest : Text) :
    splitBlank (blank :: rest) = splitBlank rest := by
  rw [splitBlank.eq_def]
  simp only [isBlank, if_true]

theorem splitBlank_singleton {point : CodePoint} (notBlank : point.isBlank = false) :
    splitBlank [point] = [[point]] := by
  rw [splitBlank.eq_def]
  simp only [notBlank, Bool.false_eq_true, if_false]

/-- A word of one code point ends in front of a blank. -/
theorem splitBlank_cons_cons_blank {point blank : CodePoint} (notBlank : point.isBlank = false)
    (isBlank : blank.isBlank = true) (rest : Text) :
    splitBlank (point :: blank :: rest) = [point] :: splitBlank rest := by
  rw [splitBlank.eq_def]
  simp only [notBlank, isBlank, Bool.false_eq_true, if_false, if_true,
    splitBlank_cons_blank isBlank]

theorem splitBlank_ne_nil {point : CodePoint} (notBlank : point.isBlank = false) (rest : Text) :
    splitBlank (point :: rest) ≠ [] := by
  rw [splitBlank.eq_def]
  simp only [notBlank, Bool.false_eq_true, if_false]
  split
  · exact List.cons_ne_nil _ _
  · split
    · exact List.cons_ne_nil _ _
    · split <;> exact List.cons_ne_nil _ _

/-- In front of a word a code point belongs to it. -/
theorem splitBlank_cons_word {point next : CodePoint} {rest word : Text} {words : List Text}
    (notBlank : point.isBlank = false) (nextNotBlank : next.isBlank = false)
    (split : splitBlank (next :: rest) = word :: words) :
    splitBlank (point :: next :: rest) = (point :: word) :: words := by
  rw [splitBlank.eq_def]
  simp only [notBlank, nextNotBlank, Bool.false_eq_true, if_false, split]

theorem splitBlank_word {word : Text} (nonempty : word ≠ []) (unbroken : IsUnbroken word) :
    splitBlank word = [word] := by
  induction word with
  | nil => exact absurd rfl nonempty
  | cons point rest ih =>
      have notBlank : point.isBlank = false := unbroken point List.mem_cons_self
      have restUnbroken : IsUnbroken rest := fun other other_mem =>
        unbroken other (List.mem_cons_of_mem point other_mem)
      cases rest with
      | nil => exact splitBlank_singleton notBlank
      | cons next others =>
          exact splitBlank_cons_word notBlank (restUnbroken next List.mem_cons_self)
            (ih (List.cons_ne_nil next others) restUnbroken)

/-- The words in front of a blank have nothing to do with those behind it. -/
theorem splitBlank_append_cons {blank : CodePoint} (isBlank : blank.isBlank = true)
    (before after : Text) :
    splitBlank (before ++ blank :: after) = splitBlank before ++ splitBlank after := by
  induction before with
  | nil => exact splitBlank_cons_blank isBlank after
  | cons point rest ih =>
      rw [List.cons_append]
      cases own : point.isBlank with
      | true => rw [splitBlank_cons_blank own, splitBlank_cons_blank own, ih]
      | false =>
          cases rest with
          | nil =>
              rw [List.nil_append, splitBlank_cons_cons_blank own isBlank,
                splitBlank_singleton own, List.singleton_append]
          | cons next others =>
              rw [List.cons_append] at ih ⊢
              cases nextOwn : next.isBlank with
              | true =>
                  rw [splitBlank_cons_blank nextOwn, splitBlank_cons_blank nextOwn] at ih
                  rw [splitBlank_cons_cons_blank own nextOwn,
                    splitBlank_cons_cons_blank own nextOwn,
                    ih, List.cons_append]
              | false =>
                  rcases List.exists_cons_of_ne_nil (splitBlank_ne_nil nextOwn others) with
                    ⟨word, words, split⟩
                  rw [split, List.cons_append] at ih
                  rw [splitBlank_cons_word own nextOwn ih, splitBlank_cons_word own nextOwn split,
                    List.cons_append]

/-- A word ends at the first blank behind it. -/
theorem splitBlank_append_blank {word : Text} {blank : CodePoint} (nonempty : word ≠ [])
    (unbroken : IsUnbroken word) (isBlank : blank.isBlank = true) (rest : Text) :
    splitBlank (word ++ blank :: rest) = word :: splitBlank rest := by
  rw [splitBlank_append_cons isBlank, splitBlank_word nonempty unbroken, List.singleton_append]

theorem splitBlank_gap_append {gap : Text} (isGap : IsGap gap) (text : Text) :
    splitBlank (gap ++ text) = splitBlank text := by
  induction gap with
  | nil => rfl
  | cons blank rest ih =>
      rw [List.cons_append, splitBlank_cons_blank (isGap blank List.mem_cons_self)]
      exact ih fun point point_mem => isGap point (List.mem_cons_of_mem blank point_mem)

/-- The words on the two sides of a gap are split on their own. -/
theorem splitBlank_append_gap {gap : Text} (isGap : IsGap gap) (nonempty : gap ≠ [])
    (before after : Text) :
    splitBlank (before ++ gap ++ after) = splitBlank before ++ splitBlank after := by
  rcases List.exists_cons_of_ne_nil nonempty with ⟨blank, rest, rfl⟩
  have restGap : IsGap rest := fun point point_mem =>
    isGap point (List.mem_cons_of_mem blank point_mem)
  rw [List.append_assoc, List.cons_append,
    splitBlank_append_cons (isGap blank List.mem_cons_self), splitBlank_gap_append restGap]

theorem splitBlank_append_gap_end {gap : Text} (isGap : IsGap gap) (text : Text) :
    splitBlank (text ++ gap) = splitBlank text := by
  cases gap with
  | nil => rw [List.append_nil]
  | cons blank rest =>
      have split := splitBlank_append_gap isGap (List.cons_ne_nil blank rest) text []
      rwa [List.append_nil, splitBlank_nil, List.append_nil] at split

/-- A text without words is a gap. -/
theorem isGap_of_splitBlank {text : Text} (noWords : splitBlank text = []) : IsGap text := by
  induction text with
  | nil => exact isGap_nil
  | cons point rest ih =>
      cases own : point.isBlank with
      | false => exact absurd noWords (splitBlank_ne_nil own rest)
      | true =>
          rw [splitBlank_cons_blank own] at noWords
          intro other other_mem
          rcases List.mem_cons.1 other_mem with rfl | other_mem
          · exact own
          · exact ih noWords other other_mem

/-- The first word of a text stands between a gap and the end of the text or the next blank. -/
theorem exists_of_splitBlank_cons {text word : Text} {words : List Text}
    (split : splitBlank text = word :: words) :
    ∃ before rest, text = before ++ word ++ rest ∧ IsGap before ∧ word ≠ [] ∧ IsUnbroken word ∧
      splitBlank rest = words ∧ ∀ point ∈ rest.head?, point.isBlank = true := by
  induction text generalizing word words with
  | nil => cases split
  | cons point rest ih =>
      cases own : point.isBlank with
      | true =>
          rw [splitBlank_cons_blank own] at split
          rcases ih split with ⟨before, later, rfl, isGap, facts⟩
          refine ⟨point :: before, later, by simp, ?_, facts⟩
          intro other other_mem
          rcases List.mem_cons.1 other_mem with rfl | other_mem
          · exact own
          · exact isGap other other_mem
      | false =>
          have alone : IsUnbroken [point] := fun other other_mem =>
            List.mem_singleton.1 other_mem ▸ own
          cases rest with
          | nil =>
              rw [splitBlank_singleton own] at split
              cases split
              exact ⟨[], [], rfl, isGap_nil, List.cons_ne_nil _ _, alone, rfl, by simp⟩
          | cons next others =>
              cases nextOwn : next.isBlank with
              | true =>
                  rw [splitBlank_cons_cons_blank own nextOwn] at split
                  cases split
                  exact ⟨[], next :: others, rfl, isGap_nil, List.cons_ne_nil _ _, alone,
                    splitBlank_cons_blank nextOwn others, by simpa using nextOwn⟩
              | false =>
                  rcases List.exists_cons_of_ne_nil (splitBlank_ne_nil nextOwn others) with
                    ⟨first, later, firstSplit⟩
                  rw [splitBlank_cons_word own nextOwn firstSplit] at split
                  cases split
                  rcases ih firstSplit with
                    ⟨before, rest, spelled, isGap, nonempty, unbroken, facts⟩
                  -- The next word starts at once, so the gap in front of it is empty.
                  have noBlank : before = [] := by
                    cases before with
                    | nil => rfl
                    | cons blank gap =>
                        simp only [List.cons_append, List.cons.injEq] at spelled
                        rw [spelled.1, isGap blank List.mem_cons_self] at nextOwn
                        cases nextOwn
                  subst noBlank
                  refine ⟨[], rest, by simp [spelled], isGap_nil, List.cons_ne_nil _ _, ?_, facts⟩
                  intro other other_mem
                  rcases List.mem_cons.1 other_mem with rfl | other_mem
                  · exact own
                  · exact unbroken other other_mem

end Text

end FleetGate
