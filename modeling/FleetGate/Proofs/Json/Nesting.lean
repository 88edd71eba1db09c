import FleetGate.Json.Reader

/-!
# Where reading stops at nesting

Only containers can be nested too deeply. Words, numbers and strings stop with other faults, and
so does a text with a zero character in first or second place, whatever follows: nothing may
stand there but the start of a container that the zero character breaks at once.
-/

namespace FleetGate

namespace Json

/-- The zero character. -/
def zero : CodePoint := .scalar '\x00'

/-- Reading is about a container: it stops at nesting, or it finds an object. -/
inductive Opens : Except Stop (Json × Text) → Prop where
  | nesting (container : Container) : Opens (.error (.nesting container))
  | object (fields : Entries Json) (rest : Text) : Opens (.ok (.object fields, rest))

theorem readNumber_not_opens (mode : NumberMode) (negative : Bool) (start text : Text) :
    ¬Opens (readNumber mode negative start text) := by
  intro opens
  simp only [readNumber] at opens
  split at opens
  · cases opens
  · cases mode with
    | texts => cases opens
    | values =>
        dsimp only at opens
        split at opens
        · split at opens <;> cases opens
        · cases opens

/-- No word stands for an object. -/
theorem readScalar_not_opens (mode : NumberMode) (text : Text) :
    ¬Opens (readScalar mode text) := by
  intro opens
  rw [readScalar.eq_def] at opens
  split at opens
  · rename_i result spelled
    rcases List.exists_of_findSome?_eq_some spelled with ⟨⟨word, value⟩, word_mem, read⟩
    rcases Option.map_eq_some_iff.1 read with ⟨after, _, rfl⟩
    cases opens
    simp [words] at word_mem
  · split at opens
    · cases opens
    · split at opens
      · exact readNumber_not_opens mode true _ _ opens
      · exact readNumber_not_opens mode false _ _ opens

theorem afterWord?_zero (rest : Text) :
    words.findSome? (fun (word, value) => (afterWord? word (zero :: rest)).map (value, ·)) =
      none := by
  simp only [words, List.findSome?_cons, List.findSome?_nil, afterWord?]
  rfl

theorem readScalar_zero (mode : NumberMode) (rest : Text) :
    readScalar mode (zero :: rest) = .error (.flaw .value (rest.length + 1)) := by
  rw [readScalar, afterWord?_zero]
  rfl

theorem readValue_zero (mode : NumberMode) (bound depth : Nat) (rest : Text) :
    readValue mode bound depth (zero :: rest) = .error (.flaw .value (rest.length + 1)) := by
  cases depth with
  | zero => exact readScalar_zero mode rest
  | succ depth => exact readScalar_zero mode rest

theorem readString_zero (rest : Text) :
    readString (zero :: rest) = .error (.flaw .controlCharacter (rest.length + 1)) := by
  rw [readString, readPieces.eq_def]
  simp [zero, CodePoint.value]

theorem skipSpace_zero (rest : Text) : skipSpace (zero :: rest) = zero :: rest := rfl

/-- A zero character behind the first code point breaks whatever container opens there. -/
theorem readValue_second_zero (mode : NumberMode) (bound depth : Nat) (point : CodePoint)
    (rest : Text) :
    readValue mode (bound + 1) (depth + 1) (point :: zero :: rest) =
        readScalar mode (point :: zero :: rest) ∨
      ∃ found remaining, readValue mode (bound + 1) (depth + 1) (point :: zero :: rest) =
        .error (.flaw found remaining) := by
  rw [readValue]
  split
  · right
    rw [readString_zero]
    exact ⟨_, _, rfl⟩
  · split
    · right
      simp only [skipSpace_zero]
      split
      · rename_i closing
        simp [zero] at closing
      · rw [readItems, readValue_zero]
        exact ⟨_, _, rfl⟩
    · split
      · right
        simp only [skipSpace_zero]
        split
        · rename_i closing
          simp [zero] at closing
        · simp only [readFields, zero, CodePoint.is_scalar]
          exact ⟨_, _, rfl⟩
      · exact Or.inl rfl

theorem readWhole_eq_nesting_iff {mode : NumberMode} {text : Text} {limit : Nat}
    {container : Container} :
    readWhole mode text limit = .error (.nesting container) ↔
      readValue mode text.length limit (skipSpace text) = .error (.nesting container) := by
  rw [readWhole]
  split
  · rename_i stop stopped
    simp [stopped]
  · rename_i value rest found
    rw [found]
    split <;> simp

theorem readWhole_eq_ok_iff {mode : NumberMode} {text : Text} {limit : Nat} {value : Json} :
    readWhole mode text limit = .ok value ↔
      ∃ rest, readValue mode text.length limit (skipSpace text) = .ok (value, rest) ∧
        skipSpace rest = [] := by
  rw [readWhole]
  split
  · rename_i stop stopped
    simp [stopped]
  · rename_i own rest found
    rw [found]
    simp only [Except.ok.injEq, Prod.mk.injEq]
    split
    · rename_i nothing
      constructor
      · intro same
        exact ⟨rest, ⟨by simpa using same, rfl⟩, nothing⟩
      · rintro ⟨_, ⟨rfl, rfl⟩, _⟩
        rfl
    · rename_i something
      refine iff_of_false (by simp) ?_
      rintro ⟨_, ⟨rfl, rfl⟩, nothing⟩
      simp [something] at nothing

theorem readWhole_zero (mode : NumberMode) (rest : Text) (limit : Nat) :
    readWhole mode (zero :: rest) limit = .error (.flaw .value (rest.length + 1)) := by
  rw [readWhole, skipSpace_zero, readValue_zero]

/-- With a zero character in the second place a text is neither nested too deeply nor an object, if
there is room for one container: what stands in front of the zero is white space, or breaks there,
or holds nothing else. -/
theorem readWhole_second_zero (mode : NumberMode) (point : CodePoint) (rest : Text)
    {limit : Nat} (room : 0 < limit) :
    (∀ container, readWhole mode (point :: zero :: rest) limit ≠ .error (.nesting container)) ∧
      ∀ fields, readWhole mode (point :: zero :: rest) limit ≠ .ok (.object fields) := by
  simp only [ne_eq, readWhole_eq_nesting_iff, readWhole_eq_ok_iff, not_exists, not_and]
  by_cases space : isSpace point = true
  · have skipped : skipSpace (point :: zero :: rest) = zero :: rest := by
      rw [skipSpace, List.dropWhile_cons_of_pos space]
      exact skipSpace_zero rest
    simp [skipped, readValue_zero]
  · have kept : skipSpace (point :: zero :: rest) = point :: zero :: rest := by
      rw [skipSpace, List.dropWhile_cons_of_neg space]
    rw [kept]
    have notOpens : ¬Opens (readValue mode (rest.length + 1 + 1) limit
        (point :: zero :: rest)) := by
      rcases Nat.exists_eq_add_one.2 room with ⟨depth, rfl⟩
      rcases readValue_second_zero mode (rest.length + 1) depth point rest with
        scalar | ⟨flaw, remaining, stopped⟩
      · rw [scalar]
        exact readScalar_not_opens mode _
      · rw [stopped]
        exact fun opens => by cases opens
    refine ⟨fun container nested => notOpens ?_, fun fields after found => absurd ?_ notOpens⟩
    · exact nested ▸ .nesting container
    · exact found ▸ .object fields after

end Json

end FleetGate
