import FleetGate.Proofs.Bytes.Utf8

/-!
# Reading UTF-8 back

Characters written in UTF-8 read back as themselves. The strict reader refuses overlong forms,
halves of pairs and numbers that are too large, so it has to be shown that none of these is ever
written: the number of a character decides how many bytes it takes and where its lead byte lies.
-/

namespace FleetGate

namespace Bytes

open CodePoint

theorem toNat_ofNat_small {number : Nat} (small : number < 0x100) :
    (UInt8.ofNat number).toNat = number := by
  rw [UInt8.toNat_ofNat']
  omega

/-- A byte inside a sequence, which holds six bits. -/
def tailByte (bits : Nat) : UInt8 :=
  UInt8.ofNat (0x80 + bits)

theorem toNat_tailByte {bits : Nat} (small : bits < 64) : (tailByte bits).toNat = 0x80 + bits :=
  toNat_ofNat_small (by omega)

theorem isTail_tailByte {bits : Nat} (small : bits < 64) : isTail (tailByte bits) = true := by
  simp only [isTail, Bool.and_eq_true, decide_eq_true_eq, UInt8.le_iff_toNat_le,
    UInt8.lt_iff_toNat_lt, toNat_tailByte small]
  exact ⟨Nat.le_add_right _ _, Nat.add_lt_add_left small _⟩

/-- A lead byte opens as many bytes as its range says. -/
theorem sequenceLength_ofNat {number : Nat} (small : number < 0x100) :
    sequenceLength (UInt8.ofNat number) =
      if number < 0x80 then 1
      else if 0xC2 ≤ number ∧ number < 0xE0 then 2
      else if 0xE0 ≤ number ∧ number < 0xF0 then 3
      else if 0xF0 ≤ number ∧ number < 0xF5 then 4
      else 0 := by
  simp only [sequenceLength, Bool.and_eq_true, decide_eq_true_eq, UInt8.le_iff_toNat_le,
    UInt8.lt_iff_toNat_lt, toNat_ofNat_small small]
  rfl

/-- The second byte is in order when the number is neither overlong nor half of a pair nor too
large. -/
theorem maySecond_of_bounds {number bits : Nat} (byte : number < 0x100) (small : bits < 64)
    (bounds : (number = 0xE0 → 32 ≤ bits) ∧ (number = 0xED → bits < 32) ∧
      (number = 0xF0 → 16 ≤ bits) ∧ (number = 0xF4 → bits < 16)) :
    maySecond (UInt8.ofNat number) (tailByte bits) = true := by
  have lead (other : UInt8) : UInt8.ofNat number = other ↔ number = other.toNat := by
    rw [← UInt8.toNat_inj, toNat_ofNat_small byte]
  simp only [maySecond, isTail_tailByte small, Bool.and_eq_true, Bool.or_eq_true, bne_iff_ne,
    decide_eq_true_eq, UInt8.le_iff_toNat_le, UInt8.lt_iff_toNat_lt, toNat_tailByte small, ne_eq,
    lead, true_and]
  have e0 : (0xE0 : UInt8).toNat = 0xE0 := rfl
  have a0 : (0xA0 : UInt8).toNat = 0xA0 := rfl
  have ed : (0xED : UInt8).toNat = 0xED := rfl
  have f0 : (0xF0 : UInt8).toNat = 0xF0 := rfl
  have f4 : (0xF4 : UInt8).toNat = 0xF4 := rfl
  have x90 : (0x90 : UInt8).toNat = 0x90 := rfl
  rw [e0, a0, ed, f0, f4, x90]
  omega

theorem utf8OfNat_eq (number : Nat) :
    utf8OfNat number =
      if number < 0x80 then [UInt8.ofNat number]
      else if number < 0x800 then [UInt8.ofNat (0xC0 + number / 0x40), tailByte (number % 0x40)]
      else if number < 0x10000 then
        [UInt8.ofNat (0xE0 + number / 0x1000), tailByte (number / 0x40 % 0x40),
          tailByte (number % 0x40)]
      else
        [UInt8.ofNat (0xF0 + number / 0x40000), tailByte (number / 0x1000 % 0x40),
          tailByte (number / 0x40 % 0x40), tailByte (number % 0x40)] := by
  simp only [utf8OfNat, tailByte, Nat.div_one]

theorem sequenceValue_one {lead a : Nat} (byte : lead < 0x100) (smallA : a < 64) :
    sequenceValue (UInt8.ofNat lead) [tailByte a] = lead % 32 * 64 + a := by
  have part : (0x80 + a) % 64 = a := by omega
  simp only [sequenceValue, List.foldl_cons, List.foldl_nil, toNat_tailByte smallA,
    toNat_ofNat_small byte, part]
  rfl

theorem sequenceValue_two {lead a b : Nat} (byte : lead < 0x100) (smallA : a < 64)
    (smallB : b < 64) :
    sequenceValue (UInt8.ofNat lead) [tailByte a, tailByte b] =
      (lead % 16 * 64 + a) * 64 + b := by
  have partA : (0x80 + a) % 64 = a := by omega
  have partB : (0x80 + b) % 64 = b := by omega
  simp only [sequenceValue, List.foldl_cons, List.foldl_nil, toNat_tailByte smallA,
    toNat_tailByte smallB, toNat_ofNat_small byte, partA, partB]
  rfl

theorem sequenceValue_three {lead a b c : Nat} (byte : lead < 0x100) (smallA : a < 64)
    (smallB : b < 64) (smallC : c < 64) :
    sequenceValue (UInt8.ofNat lead) [tailByte a, tailByte b, tailByte c] =
      ((lead % 8 * 64 + a) * 64 + b) * 64 + c := by
  have partA : (0x80 + a) % 64 = a := by omega
  have partB : (0x80 + b) % 64 = b := by omega
  have partC : (0x80 + c) % 64 = c := by omega
  simp only [sequenceValue, List.foldl_cons, List.foldl_nil, toNat_tailByte smallA,
    toNat_tailByte smallB, toNat_tailByte smallC, toNat_ofNat_small byte, partA, partB, partC]
  rfl

theorem sequenceAt_one_byte {number : Nat} (below : number < 0x80) (rest : Bytes) :
    sequenceAt (UInt8.ofNat number) rest = .ok (number, 1) := by
  have byte : number < 0x100 := Nat.lt_trans below (by decide)
  have opens : sequenceLength (UInt8.ofNat number) = 1 := by
    rw [sequenceLength_ofNat byte, if_pos below]
  simp only [sequenceAt, opens, toNat_ofNat_small byte]

theorem sequenceAt_two_bytes {number : Nat} (above : 0x80 ≤ number) (below : number < 0x800)
    (rest : Bytes) :
    sequenceAt (UInt8.ofNat (0xC0 + number / 64)) (tailByte (number % 64) :: rest) =
      .ok (number, 2) := by
  have byte : 0xC0 + number / 64 < 0x100 := by omega
  have small : number % 64 < 64 := Nat.mod_lt _ (by decide)
  have opens : sequenceLength (UInt8.ofNat (0xC0 + number / 64)) = 2 := by
    rw [sequenceLength_ofNat byte, if_neg (by omega), if_pos (by omega)]
  have value : (0xC0 + number / 64) % 32 * 64 + number % 64 = number := by omega
  simp only [sequenceAt, opens, isTail_tailByte small, if_true, sequenceValue_one byte small, value]

theorem sequenceAt_three_bytes {number : Nat} (above : 0x800 ≤ number) (below : number < 0x10000)
    (noHalf : number < 0xD800 ∨ 0xDFFF < number) (rest : Bytes) :
    sequenceAt (UInt8.ofNat (0xE0 + number / 4096))
        (tailByte (number / 64 % 64) :: tailByte (number % 64) :: rest) = .ok (number, 3) := by
  have small (part : Nat) : part % 64 < 64 := Nat.mod_lt _ (by decide)
  have byte : 0xE0 + number / 4096 < 0x100 := by omega
  have opens : sequenceLength (UInt8.ofNat (0xE0 + number / 4096)) = 3 := by
    rw [sequenceLength_ofNat byte, if_neg (by omega), if_neg (by omega), if_pos (by omega)]
  have second : maySecond (UInt8.ofNat (0xE0 + number / 4096)) (tailByte (number / 64 % 64)) =
      true := by
    apply maySecond_of_bounds byte (small _)
    omega
  have value : ((0xE0 + number / 4096) % 16 * 64 + number / 64 % 64) * 64 + number % 64 =
      number := by omega
  simp only [sequenceAt, opens, second, Bool.not_true, Bool.false_eq_true, if_false,
    isTail_tailByte (small _), if_true, sequenceValue_two byte (small _) (small _), value]

theorem sequenceAt_four_bytes {number : Nat} (above : 0x10000 ≤ number)
    (below : number < 0x110000) (rest : Bytes) :
    sequenceAt (UInt8.ofNat (0xF0 + number / 262144))
        (tailByte (number / 4096 % 64) :: tailByte (number / 64 % 64) :: tailByte (number % 64) ::
          rest) = .ok (number, 4) := by
  have small (part : Nat) : part % 64 < 64 := Nat.mod_lt _ (by decide)
  have byte : 0xF0 + number / 262144 < 0x100 := by omega
  have opens : sequenceLength (UInt8.ofNat (0xF0 + number / 262144)) = 4 := by
    rw [sequenceLength_ofNat byte, if_neg (by omega), if_neg (by omega), if_neg (by omega),
      if_pos (by omega)]
  have second : maySecond (UInt8.ofNat (0xF0 + number / 262144))
      (tailByte (number / 4096 % 64)) = true := by
    apply maySecond_of_bounds byte (small _)
    omega
  have value : (((0xF0 + number / 262144) % 8 * 64 + number / 4096 % 64) * 64 +
      number / 64 % 64) * 64 + number % 64 = number := by omega
  simp only [sequenceAt, opens, second, Bool.not_true, Bool.false_eq_true, if_false,
    isTail_tailByte (small _), if_true, sequenceValue_three byte (small _) (small _) (small _),
    value]

/-- The bytes of a character are read as its number, whatever follows them. -/
theorem sequenceAt_utf8OfNat {number : Nat} (valid : number.isValidChar) :
    ∃ lead tails, utf8OfNat number = lead :: tails ∧
      ∀ rest, sequenceAt lead (tails ++ rest) = .ok (number, tails.length + 1) := by
  have noHalf : number < 0xD800 ∨ 0xDFFF < number ∧ number < 0x110000 := valid
  rw [utf8OfNat_eq]
  split
  · rename_i one
    exact ⟨_, [], rfl, fun rest => sequenceAt_one_byte one rest⟩
  · split
    · exact ⟨_, [_], rfl, fun rest => sequenceAt_two_bytes (by omega) (by omega) rest⟩
    · split
      · refine ⟨_, [_, _], rfl, fun rest => ?_⟩
        exact sequenceAt_three_bytes (by omega) (by omega) (by omega) rest
      · refine ⟨_, [_, _, _], rfl, fun rest => ?_⟩
        exact sequenceAt_four_bytes (by omega) (by omega) rest

theorem readUtf8From_skip (position : Nat) (tails rest : Bytes) :
    readUtf8From position tails.length (tails ++ rest) =
      readUtf8From (position + tails.length) 0 rest := by
  induction tails generalizing position with
  | nil => rfl
  | cons tail tails ih =>
      simp only [List.length_cons, List.cons_append, readUtf8From]
      rw [ih, Nat.add_assoc, Nat.add_comm 1]

theorem readUtf8From_ofChars (position : Nat) (chars : List Char) :
    readUtf8From position 0 (ofChars chars) = .ok chars := by
  induction chars generalizing position with
  | nil => rfl
  | cons char rest ih =>
      rcases sequenceAt_utf8OfNat char.valid with ⟨lead, tails, written, sequence⟩
      have spelled : utf8OfNat char.toNat = lead :: tails := written
      rw [ofChars_cons, spelled, List.cons_append, readUtf8From, sequence]
      simp only [Nat.add_sub_cancel]
      rw [readUtf8From_skip, ih]
      have same : Char.ofNat char.val.toNat = char := Char.ofNat_toNat char
      simp only [Except.map, same]

/-- Characters written in UTF-8 read back as themselves. -/
theorem readUtf8_ofChars (chars : List Char) : readUtf8 (ofChars chars) = .ok chars :=
  readUtf8From_ofChars 0 chars

end Bytes
end FleetGate
