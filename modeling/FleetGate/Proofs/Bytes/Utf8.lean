import FleetGate.Bytes.Utf8

/-!
# Dots and zeros in UTF-8

Only the dot itself is spelled with the byte of a dot, so a text may be cut at its dots before or
after it is written in UTF-8. A byte of zero near the start of bytes that read as UTF-8 is a zero
character there. Bytes that read strictly read loosely as the same text.
-/

namespace FleetGate

namespace CodePoint

/-- Beyond ASCII no byte of a character is an ASCII byte. -/
theorem ascii_notMem_utf8OfNat {number : Nat} {byte : UInt8} (valid : number < 0x110000)
    (large : 0x80 ≤ number) (ascii : byte < 0x80) : byte ∉ utf8OfNat number := by
  have small : byte.toNat < 0x80 := by simpa [UInt8.lt_iff_toNat_lt] using ascii
  intro byte_mem
  rw [utf8OfNat] at byte_mem
  split at byte_mem
  · omega
  · split at byte_mem
    · simp only [List.mem_cons, List.not_mem_nil, or_false] at byte_mem
      rcases byte_mem with rfl | rfl <;> simp only [UInt8.toNat_ofNat'] at small <;> omega
    · split at byte_mem
      · simp only [List.mem_cons, List.not_mem_nil, or_false] at byte_mem
        rcases byte_mem with rfl | rfl | rfl <;> simp only [UInt8.toNat_ofNat'] at small <;> omega
      · simp only [List.mem_cons, List.not_mem_nil, or_false] at byte_mem
        rcases byte_mem with rfl | rfl | rfl | rfl <;>
          simp only [UInt8.toNat_ofNat'] at small <;> omega

end CodePoint

namespace Bytes

theorem ofChars_cons (char : Char) (rest : List Char) :
    ofChars (char :: rest) = CodePoint.utf8OfNat char.toNat ++ ofChars rest := rfl

theorem ofChars_append (left right : List Char) :
    ofChars (left ++ right) = ofChars left ++ ofChars right := by
  simp [ofChars]

theorem toNat_lt_codeSpace (char : Char) : char.toNat < 0x110000 := by
  rcases char.valid with low | ⟨_, high⟩
  · exact Nat.lt_trans low (by decide)
  · exact high

theorem eq_dot_of_mem_utf8OfNat {char : Char}
    (dot_mem : 46 ∈ CodePoint.utf8OfNat char.toNat) : char = '.' := by
  by_cases small : char.toNat < 0x80
  · simp only [CodePoint.utf8OfNat, small, if_true, List.mem_singleton] at dot_mem
    have number : char.toNat = 46 := by
      have same := congrArg UInt8.toNat dot_mem
      simp only [UInt8.toNat_ofNat'] at same
      have literal : (46 : UInt8).toNat = 46 := rfl
      omega
    exact Char.toNat_inj.1 (number.trans rfl)
  · exact absurd dot_mem (CodePoint.ascii_notMem_utf8OfNat (toNat_lt_codeSpace char)
      (by omega) (by decide))

/-- Characters whose UTF-8 form has a dot somewhere have a dot character there. -/
theorem exists_dot_of_ofChars_eq {chars : List Char} {before after : Bytes}
    (spelled : ofChars chars = before ++ 46 :: after) :
    ∃ left right, chars = left ++ '.' :: right ∧ ofChars left = before ∧
      ofChars right = after := by
  induction chars generalizing before with
  | nil => simp [ofChars] at spelled
  | cons char rest ih =>
      rw [ofChars_cons] at spelled
      rcases List.append_eq_append_iff.1 spelled with
        ⟨others, before_eq, rest_eq⟩ | ⟨others, char_eq, after_eq⟩
      · rcases ih rest_eq with ⟨left, right, rfl, left_eq, right_eq⟩
        refine ⟨char :: left, right, rfl, ?_, right_eq⟩
        rw [ofChars_cons, left_eq, before_eq]
      -- The dot may begin the bytes of `rest` or stand inside those of `char`.
      · cases others with
        | nil =>
            have rest_eq : ofChars rest = [] ++ 46 :: after := after_eq.symm
            rcases ih rest_eq with ⟨left, right, rfl, left_eq, right_eq⟩
            refine ⟨char :: left, right, rfl, ?_, right_eq⟩
            rw [ofChars_cons, left_eq, char_eq]
            simp
        | cons other others =>
            simp only [List.cons_append, List.cons.injEq] at after_eq
            rcases after_eq with ⟨rfl, after_eq⟩
            have isDot : char = '.' := eq_dot_of_mem_utf8OfNat (by simp [char_eq])
            subst isDot
            have alone : CodePoint.utf8OfNat '.'.toNat = [46] := rfl
            rw [alone] at char_eq
            have nothingElse := congrArg List.length char_eq
            simp only [List.length_cons, List.length_append, List.length_nil] at nothingElse
            have before_nil : before = [] := List.eq_nil_of_length_eq_zero (by omega)
            have others_nil : others = [] := List.eq_nil_of_length_eq_zero (by omega)
            subst before_nil others_nil
            exact ⟨[], rest, rfl, rfl, after_eq.symm⟩

/-- What reads strictly reads loosely as the same text. -/
theorem readLooseUtf8From_of_readUtf8From {position skip : Nat} {bytes : Bytes}
    {chars : List Char} (read : readUtf8From position skip bytes = .ok chars) :
    readLooseUtf8From skip bytes = some (chars.map .scalar) := by
  induction bytes generalizing position skip chars with
  | nil => cases skip <;> simp_all [readUtf8From, readLooseUtf8From]
  | cons lead rest ih =>
      cases skip with
      | succ skip =>
          simp only [readUtf8From] at read
          simp only [readLooseUtf8From]
          exact ih read
      | zero =>
          simp only [readUtf8From] at read
          simp only [readLooseUtf8From]
          cases sequence : sequenceAt lead rest with
          | error flaw => simp [sequence] at read
          | ok found =>
              simp only [sequence] at read ⊢
              cases restRead : readUtf8From (position + 1) (found.2 - 1) rest with
              | error fault => simp [restRead, Except.map] at read
              | ok others =>
                  simp only [restRead, Except.map, Except.ok.injEq] at read
                  simp [ih restRead, ← read]

theorem readLooseUtf8?_of_readUtf8 {bytes : Bytes} {chars : List Char}
    (read : readUtf8 bytes = .ok chars) : readLooseUtf8? bytes = some (chars.map .scalar) :=
  readLooseUtf8From_of_readUtf8From read

theorem readUtf8From_zero {position : Nat} {rest : Bytes} {chars : List Char}
    (read : readUtf8From position 0 (0 :: rest) = .ok chars) :
    ∃ others, chars = '\x00' :: others := by
  simp only [readUtf8From, sequenceAt, sequenceLength] at read
  cases restRead : readUtf8From (position + 1) 0 rest with
  | error fault => simp [restRead, Except.map] at read
  | ok others =>
      simp [restRead, Except.map] at read
      exact ⟨others, read.symm⟩

/-- A sequence that a byte of zero follows is one byte long. -/
theorem length_eq_one_of_zero_follows {lead : UInt8} {rest : Bytes} {number length : Nat}
    (sequence : sequenceAt lead (0 :: rest) = .ok (number, length)) : length = 1 := by
  have noTail : isTail 0 = false := by decide
  have noSecond : maySecond lead 0 = false := by simp [maySecond, noTail]
  rw [sequenceAt.eq_def] at sequence
  split at sequence
  · simp only [Except.ok.injEq, Prod.mk.injEq] at sequence
    exact sequence.2.symm
  · simp at sequence
  · simp at sequence
  · rename_i _ following
    cases following
    simp [noTail] at sequence
  · rename_i _ following
    cases following
    simp [noSecond] at sequence
  · rename_i following _ _ _ _
    cases following
    simp [noSecond] at sequence

/-- A byte of zero in the second place is a zero character in the second place. -/
theorem readUtf8_second_zero {first : UInt8} {rest : Bytes} {chars : List Char}
    (read : readUtf8 (first :: 0 :: rest) = .ok chars) :
    ∃ char others, chars = char :: '\x00' :: others := by
  simp only [readUtf8] at read
  rw [readUtf8From] at read
  cases sequence : sequenceAt first (0 :: rest) with
  | error flaw => simp [sequence] at read
  | ok found =>
      have single : found.2 = 1 := length_eq_one_of_zero_follows sequence
      simp only [sequence, single] at read
      cases restRead : readUtf8From (0 + 1) (1 - 1) (0 :: rest) with
      | error fault =>
          rw [restRead] at read
          cases read
      | ok others =>
          rcases readUtf8From_zero restRead with ⟨later, rfl⟩
          simp only [restRead, Except.map, Except.ok.injEq] at read
          exact ⟨_, later, read.symm⟩

end Bytes

end FleetGate
