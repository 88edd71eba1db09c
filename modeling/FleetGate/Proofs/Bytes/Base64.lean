import FleetGate.Bytes.Base64

/-!
# Reading base64 back

What is written in the URL-safe alphabet without padding reads back as the bytes it was written
from, whatever their number. Reading first restores the padding; groups of four characters are
then read three bytes at a time, so the padding only matters for the group at the end.
-/

namespace FleetGate

namespace Bytes

/-- The byte of six bits in the URL-safe alphabet. -/
def sextetByte (sextet : Nat) : UInt8 :=
  UInt8.ofNat (sextetChar sextet).toNat

theorem sextetByte_facts :
    ∀ sextet : Fin 64, sextet? (sextetByte sextet) = some sextet.val ∧
      sextetByte sextet ≠ 61 ∧ sextetByte sextet ≠ 46 ∧
      CodePoint.utf8OfNat (sextetChar sextet).toNat = [sextetByte sextet] := by
  decide +kernel

theorem sextet?_sextetByte {sextet : Nat} (small : sextet < 64) :
    sextet? (sextetByte sextet) = some sextet :=
  (sextetByte_facts ⟨sextet, small⟩).1

theorem sextetByte_ne_padding {sextet : Nat} (small : sextet < 64) : sextetByte sextet ≠ 61 :=
  (sextetByte_facts ⟨sextet, small⟩).2.1

theorem sextetByte_ne_dot {sextet : Nat} (small : sextet < 64) : sextetByte sextet ≠ 46 :=
  (sextetByte_facts ⟨sextet, small⟩).2.2.1

theorem ofChars_sextetChar {sextet : Nat} (small : sextet < 64) (rest : List Char) :
    ofChars (sextetChar sextet :: rest) = sextetByte sextet :: ofChars rest := by
  have alone := (sextetByte_facts ⟨sextet, small⟩).2.2.2
  simp only [ofChars, List.flatMap_cons]
  rw [alone, List.singleton_append]

/-- A group of four characters does not change how much padding the rest calls for. -/
theorem padded_group (a b c d : UInt8) (rest : Bytes) :
    padded (a :: b :: c :: d :: rest) = a :: b :: c :: d :: padded rest := by
  have sameFill : (rest.length + 1 + 1 + 1 + 1) % 4 = rest.length % 4 := by omega
  simp only [padded, List.length_cons, sameFill, List.cons_append]

/-- A character at the start of a group waits for more. -/
theorem readGroups_empty_sextet {written sextet : Nat} (small : sextet < 64) (rest : Bytes) :
    readGroups written .empty (sextetByte sextet :: rest) =
      readGroups written (.one sextet) rest := by
  rw [readGroups.eq_def]
  simp [sextetByte_ne_padding small, sextet?_sextetByte small]

theorem readGroups_one_sextet {written left sextet : Nat} (small : sextet < 64) (rest : Bytes) :
    readGroups written (.one left) (sextetByte sextet :: rest) =
      (readGroups (written + 1) (.two (sextet % 16) 0) rest).map
        (UInt8.ofNat (left * 4 + sextet / 16) :: ·) := by
  rw [readGroups.eq_def]
  simp [sextetByte_ne_padding small, sextet?_sextetByte small]

theorem readGroups_two_sextet {written left pads sextet : Nat} (small : sextet < 64)
    (rest : Bytes) :
    readGroups written (.two left pads) (sextetByte sextet :: rest) =
      (readGroups (written + 1) (.three (sextet % 4)) rest).map
        (UInt8.ofNat (left * 16 + sextet / 4) :: ·) := by
  rw [readGroups.eq_def]
  simp [sextetByte_ne_padding small, sextet?_sextetByte small]

theorem readGroups_three_sextet {written left sextet : Nat} (small : sextet < 64)
    (rest : Bytes) :
    readGroups written (.three left) (sextetByte sextet :: rest) =
      (readGroups (written + 1) .empty rest).map (UInt8.ofNat (left * 64 + sextet) :: ·) := by
  rw [readGroups.eq_def]
  simp [sextetByte_ne_padding small, sextet?_sextetByte small]

theorem padded_two (a b : UInt8) : padded [a, b] = [a, b, 61, 61] := rfl

theorem padded_three (a b c : UInt8) : padded [a, b, c] = [a, b, c, 61] := rfl

/-- The first byte of a group stands in its first two characters. -/
theorem join_first (a b : Nat) (byte : UInt8) (small : b < 16)
    (spelled : a = byte.toNat % 4 * 16 + b) :
    UInt8.ofNat (byte.toNat / 4 * 4 + a / 16) = byte := by
  have whole : byte.toNat / 4 * 4 + a / 16 = byte.toNat := by omega
  rw [whole, UInt8.ofNat_toNat]

theorem join_second (a b c : Nat) (byte : UInt8) (small : c < 4)
    (left : a % 16 = byte.toNat / 16) (right : b = byte.toNat % 16 * 4 + c) :
    UInt8.ofNat (a % 16 * 16 + b / 4) = byte := by
  have bound := byte.toNat_lt
  have whole : a % 16 * 16 + b / 4 = byte.toNat := by omega
  rw [whole, UInt8.ofNat_toNat]

theorem join_third (a : Nat) (byte : UInt8) (left : a % 4 = byte.toNat / 64) :
    UInt8.ofNat (a % 4 * 64 + byte.toNat % 64) = byte := by
  have whole : a % 4 * 64 + byte.toNat % 64 = byte.toNat := by omega
  rw [whole, UInt8.ofNat_toNat]

/-- Bytes in the URL-safe alphabet are read back from the start of a group on. -/
theorem readGroups_toBase64Url (bytes : Bytes) (written : Nat) :
    readGroups written .empty (padded (ofChars (toBase64Url bytes))) = .ok bytes := by
  fun_induction toBase64Url bytes generalizing written with
  | case1 => simp [ofChars, padded, readGroups]
  | case2 a =>
      have bound := a.toNat_lt
      have first : a.toNat / 4 < 64 := by omega
      have second : a.toNat % 4 * 16 < 64 := by omega
      have joined := join_first (a.toNat % 4 * 16) 0 a (by omega) (by omega)
      rw [ofChars_sextetChar first, ofChars_sextetChar second, ofChars, List.flatMap_nil,
        padded_two, readGroups_empty_sextet first, readGroups_one_sextet second, joined]
      rfl
  | case3 a b =>
      have boundA := a.toNat_lt
      have boundB := b.toNat_lt
      have first : a.toNat / 4 < 64 := by omega
      have second : a.toNat % 4 * 16 + b.toNat / 16 < 64 := by omega
      have third : b.toNat % 16 * 4 < 64 := by omega
      have joinedA := join_first (a.toNat % 4 * 16 + b.toNat / 16) (b.toNat / 16) a
        (by omega) (by omega)
      have joinedB := join_second (a.toNat % 4 * 16 + b.toNat / 16) (b.toNat % 16 * 4) 0 b
        (by omega) (by omega) (by omega)
      rw [ofChars_sextetChar first, ofChars_sextetChar second, ofChars_sextetChar third, ofChars,
        List.flatMap_nil, padded_three, readGroups_empty_sextet first,
        readGroups_one_sextet second, readGroups_two_sextet third, joinedA, joinedB]
      rfl
  | case4 a b c rest ih =>
      have boundA := a.toNat_lt
      have boundB := b.toNat_lt
      have boundC := c.toNat_lt
      have first : a.toNat / 4 < 64 := by omega
      have second : a.toNat % 4 * 16 + b.toNat / 16 < 64 := by omega
      have third : b.toNat % 16 * 4 + c.toNat / 64 < 64 := by omega
      have fourth : c.toNat % 64 < 64 := by omega
      have joinedA := join_first (a.toNat % 4 * 16 + b.toNat / 16) (b.toNat / 16) a
        (by omega) (by omega)
      have joinedB := join_second (a.toNat % 4 * 16 + b.toNat / 16)
        (b.toNat % 16 * 4 + c.toNat / 64) (c.toNat / 64) b (by omega) (by omega) (by omega)
      have joinedC := join_third (b.toNat % 16 * 4 + c.toNat / 64) c (by omega)
      rw [ofChars_sextetChar first, ofChars_sextetChar second, ofChars_sextetChar third,
        ofChars_sextetChar fourth, padded_group, readGroups_empty_sextet first,
        readGroups_one_sextet second, readGroups_two_sextet third, readGroups_three_sextet fourth,
        ih, joinedA, joinedB, joinedC]
      rfl

/-- Bytes written in the URL-safe alphabet read back as themselves. -/
theorem readBase64_toBase64Url (bytes : Bytes) :
    readBase64 (ofChars (toBase64Url bytes)) = .ok bytes :=
  readGroups_toBase64Url bytes 0

/-- Everything written in the URL-safe alphabet is one of its 64 characters. -/
theorem exists_sextet_of_mem_toBase64Url {bytes : Bytes} {char : Char}
    (char_mem : char ∈ toBase64Url bytes) : ∃ sextet < 64, char = sextetChar sextet := by
  fun_induction toBase64Url bytes with
  | case1 => simp at char_mem
  | case2 a =>
      have bound := a.toNat_lt
      simp only [List.mem_cons, List.not_mem_nil, or_false] at char_mem
      rcases char_mem with rfl | rfl
      · exact ⟨a.toNat / 4, by omega, rfl⟩
      · exact ⟨a.toNat % 4 * 16, by omega, rfl⟩
  | case3 a b =>
      have boundA := a.toNat_lt
      have boundB := b.toNat_lt
      simp only [List.mem_cons, List.not_mem_nil, or_false] at char_mem
      rcases char_mem with rfl | rfl | rfl
      · exact ⟨a.toNat / 4, by omega, rfl⟩
      · exact ⟨a.toNat % 4 * 16 + b.toNat / 16, by omega, rfl⟩
      · exact ⟨b.toNat % 16 * 4, by omega, rfl⟩
  | case4 a b c rest ih =>
      have boundA := a.toNat_lt
      have boundB := b.toNat_lt
      have boundC := c.toNat_lt
      simp only [List.mem_cons] at char_mem
      rcases char_mem with rfl | rfl | rfl | rfl | rest_mem
      · exact ⟨a.toNat / 4, by omega, rfl⟩
      · exact ⟨a.toNat % 4 * 16 + b.toNat / 16, by omega, rfl⟩
      · exact ⟨b.toNat % 16 * 4 + c.toNat / 64, by omega, rfl⟩
      · exact ⟨c.toNat % 64, by omega, rfl⟩
      · exact ih rest_mem

/-- No dot stands in what is written in the URL-safe alphabet. -/
theorem dot_notMem_toBase64Url (bytes : Bytes) : 46 ∉ ofChars (toBase64Url bytes) := by
  intro dot_mem
  rcases List.mem_flatMap.1 dot_mem with ⟨char, char_mem, dot_mem_char⟩
  rcases exists_sextet_of_mem_toBase64Url char_mem with ⟨sextet, small, rfl⟩
  rw [(sextetByte_facts ⟨sextet, small⟩).2.2.2, List.mem_singleton] at dot_mem_char
  exact sextetByte_ne_dot small dot_mem_char.symm

end Bytes

end FleetGate
