import Mathlib
import FleetGate.Number.Layout
import FleetGate.Number.Nearest

/-!
# The bits of a double

A double is made of its bits (`FloatParts.eq_ofBits`): what is unpacked into a sign, an exponent and
a significand is packed into the same bits again. The bits of a finite double that is not zero are
those of a number between the least and the largest double, behind its sign.
-/

namespace FleetGate

/-! ## Packing and unpacking -/

namespace FloatParts

open Float.Model Float.Model.UnpackedFloat

theorem toNat_packComponents (sign : Sign) (exponent : BitVec 11) (mantissa : BitVec 52) :
    (packComponents Format.binary64 sign exponent mantissa).toNat =
      (sign.toBitVec.toNat * 2 ^ 11 + exponent.toNat) * 2 ^ 52 + mantissa.toNat := by
  simp only [packComponents, BitVec.toNat_append]
  rw [← Nat.shiftLeft_add_eq_or_of_lt mantissa.isLt, ← Nat.shiftLeft_add_eq_or_of_lt exponent.isLt,
    Nat.shiftLeft_eq, Nat.shiftLeft_eq]

theorem toNat_unpackMantissa (bits : BitVec 64) :
    (@unpackMantissa Format.binary64 bits).toNat = bits.toNat % 2 ^ 52 := by
  simp [unpackMantissa]

theorem toNat_unpackExponent (bits : BitVec 64) :
    (@unpackExponent Format.binary64 bits).toNat = bits.toNat / 2 ^ 52 % 2 ^ 11 := by
  simp [unpackExponent, Nat.shiftRight_eq_div_pow]

theorem toNat_unpackSign (bits : BitVec 64) :
    (@unpackSign Format.binary64 bits).toNat = bits.toNat / 2 ^ 63 := by
  have small := bits.isLt
  simp [unpackSign, Nat.shiftRight_eq_div_pow]
  omega

theorem toBitVec_ofBitVec (bit : BitVec 1) : (Sign.ofBitVec bit).toBitVec = bit := by
  revert bit
  decide


theorem packComponents_unpack (bits : BitVec 64) :
    packComponents Format.binary64
      (Sign.ofBitVec (@unpackSign Format.binary64 bits)) (unpackExponent bits)
      (unpackMantissa bits) = bits := by
  apply BitVec.eq_of_toNat_eq
  rw [toNat_packComponents, toBitVec_ofBitVec, toNat_unpackSign, toNat_unpackExponent,
    toNat_unpackMantissa]
  have small := bits.isLt
  omega

/-- Below the powers of two that doubles have, a number is packed without an exponent. -/
theorem pack_subnormal (sign : Sign) {mantissa : Nat} {exponent : Int} (positive : 0 < mantissa)
    (small : mantissa < 2 ^ 52) (least : exponent = -1074) :
    UnpackedFloat.pack Format.binary64 (.finite sign mantissa exponent positive) =
      packComponents Format.binary64 sign 0#11 (BitVec.ofNat 52 mantissa) := by
  have short : mantissa.log2 < 52 := (Nat.log2_lt (Nat.ne_of_gt positive)).2 small
  subst least
  rw [UnpackedFloat.pack]
  dsimp only
  rw [if_neg (by decide), if_neg]
  simp only [Format.mantissaBits]
  omega

/-- The first bit of a significand of 53 bits is not packed. -/
theorem pack_normal (sign : Sign) {mantissa : Nat} {exponent : Int} (positive : 0 < mantissa)
    (large : 2 ^ 52 ≤ mantissa) (small : mantissa < 2 ^ 53) {biased : Nat} (inside : biased < 2047)
    (same : exponent = biased - 1075) :
    UnpackedFloat.pack Format.binary64 (.finite sign mantissa exponent positive) =
      packComponents Format.binary64 sign (BitVec.ofNat 11 biased) (BitVec.ofNat 52 mantissa) := by
  have size : mantissa.log2 = 52 := (Nat.log2_eq_iff (Nat.ne_of_gt positive)).2 ⟨large, small⟩
  have counted : (exponent + Format.binary64.exponentBias +
      Format.binary64.mantissaBitsWithoutImplicit).toNat = biased := by
    simp only [Format.exponentBias]
    omega
  rw [UnpackedFloat.pack]
  dsimp only
  rw [counted, if_neg (by omega), if_pos (by rw [size]; rfl)]

/-- Packing undoes unpacking, as there is only one way to spell what is not a number. -/
theorem pack_unpack {bits : BitVec 64} (valid : Format.binary64.Valid bits) :
    UnpackedFloat.pack Format.binary64 (UnpackedFloat.unpack Format.binary64 bits) = bits := by
  have whole := packComponents_unpack bits
  have fraction : (@unpackMantissa Format.binary64 bits).toNat < 2 ^ 52 :=
    (@unpackMantissa Format.binary64 bits).isLt
  have exponent : (@unpackExponent Format.binary64 bits).toNat < 2 ^ 11 :=
    (@unpackExponent Format.binary64 bits).isLt
  simp only [UnpackedFloat.unpack]
  split
  · rename_i full
    split
    · rename_i nothing
      rw [full, nothing] at whole
      exact whole
    · rename_i something
      exact (valid.eq_packedNaN full something).symm
  · rename_i notFull
    split
    · rename_i least
      split
      · rename_i nothing
        rw [least, nothing] at whole
        exact whole
      · rename_i something
        rw [pack_subnormal _ _ fraction (by rw [least]; rfl), BitVec.ofNat_toNat,
          BitVec.setWidth_eq, ← least]
        exact whole
    · have inside : (@unpackExponent Format.binary64 bits).toNat < 2047 := by
        have differs : (@unpackExponent Format.binary64 bits).toNat ≠ 2047 :=
          fun same => notFull (BitVec.eq_of_toNat_eq same)
        omega
      have above : (1#1 ++ @unpackMantissa Format.binary64 bits).toNat =
          2 ^ 52 + (@unpackMantissa Format.binary64 bits).toNat := by
        rw [BitVec.toNat_append, ← Nat.shiftLeft_add_eq_or_of_lt fraction]
        rfl
      have cut : BitVec.ofNat 52 (1#1 ++ @unpackMantissa Format.binary64 bits).toNat =
          @unpackMantissa Format.binary64 bits := by
        apply BitVec.eq_of_toNat_eq
        rw [BitVec.toNat_ofNat, above]
        omega
      rw [pack_normal _ _ (by omega) (by omega) inside (by rfl), cut, BitVec.ofNat_toNat,
        BitVec.setWidth_eq]
      exact whole

variable {number : Float} {negative : Bool} {magnitude : Binary}

/-- A double is made of its bits. -/
theorem eq_ofBits {bits : Nat} (same : number.toBits.toNat = bits) :
    number = Float.ofBits (UInt64.ofNat bits) := by
  rcases number with ⟨⟨own, valid⟩⟩
  subst same
  have whole : Float.Model.ofBits own = ⟨own, valid⟩ := by
    simp only [Float.Model.ofBits, Float.Model.pack, pack_unpack valid]
  simp only [Float.toBits, UInt64.ofNat_toNat, Float.ofBits, whole]

/-- Only the largest exponent stands for what is not finite. -/
theorem isFinite_iff : number.isFinite = true ↔ number.toBits.toNat / 2 ^ 52 % 2 ^ 11 ≠ 2047 := by
  rcases number with ⟨⟨own, valid⟩⟩
  have full_iff : @unpackExponent Format.binary64 own.toBitVec = -1#11 ↔
      own.toBitVec.toNat / 2 ^ 52 % 2 ^ 11 = 2047 := by
    rw [← toNat_unpackExponent]
    exact ⟨fun same => by rw [same]; rfl, fun same => BitVec.eq_of_toNat_eq same⟩
  have unfolded : (⟨⟨own, valid⟩⟩ : Float).isFinite =
      (UnpackedFloat.unpack Format.binary64 own.toBitVec).isFinite := rfl
  rw [unfolded, UnpackedFloat.unpack]
  dsimp only
  split
  · rename_i full
    refine iff_of_false ?_ (not_not_intro (full_iff.1 full))
    split <;> simp [UnpackedFloat.isFinite]
  · rename_i notFull
    refine iff_of_true ?_ fun full => notFull (full_iff.2 full)
    split
    · split <;> rfl
    · rfl

end FloatParts

/-! ## Finite doubles -/

namespace Binary

/-- The number is a positive double: its significand has 53 bits, or less at the least exponent. -/
structure IsDouble (binary : Binary) : Prop where
  positive : 0 < binary.significand
  small : binary.significand < 2 ^ 53
  least : leastExponent ≤ binary.exponent
  most : binary.exponent ≤ 971
  filled : binary.exponent = leastExponent ∨ 2 ^ 52 ≤ binary.significand

end Binary

namespace FloatParts

variable {number : Float} {negative : Bool} {magnitude : Binary}

/-- A finite double is zero or a sign with a magnitude. -/
theorem zero_or_finite_of_isFinite (finite : number.isFinite = true) :
    (∃ negative, ofFloat number = .zero negative) ∨
      ∃ negative magnitude, ofFloat number = .finite negative magnitude := by
  have notFull := isFinite_iff.1 finite
  simp only [ofFloat]
  split
  · rename_i full
    exact absurd full notFull
  · split
    · split
      · exact Or.inl ⟨_, rfl⟩
      · exact Or.inr ⟨_, _, rfl⟩
    · exact Or.inr ⟨_, _, rfl⟩

/-- What is not finite has no brief text. -/
theorem brief?_eq_none (infinite : number.isFinite = false) : (ofFloat number).brief? = none := by
  have full : number.toBits.toNat / 0x10000000000000 % 2048 = 2047 := by
    rw [← Bool.not_eq_true, isFinite_iff, Decidable.not_not] at infinite
    exact infinite
  simp only [ofFloat, full, if_true]
  split <;> rfl

theorem eq_of_zero (parts : ofFloat number = .zero negative) :
    number = Float.ofBits (UInt64.ofNat (Decimal.signBits negative)) := by
  have small := number.toBits.toNat_lt
  apply eq_ofBits
  simp only [ofFloat] at parts
  split at parts
  · split at parts <;> cases parts
  · split at parts
    · split at parts
      · cases parts
        simp only [Decimal.signBits, beq_iff_eq]
        split <;> omega
      · cases parts
    · cases parts

/-- A double that is neither zero nor infinite has the bits of its magnitude behind its sign. -/
theorem eq_of_finite (parts : ofFloat number = .finite negative magnitude) :
    magnitude.IsDouble ∧
      number = Float.ofBits (UInt64.ofNat (Decimal.signBits negative + magnitude.bits)) := by
  have small := number.toBits.toNat_lt
  simp only [ofFloat] at parts
  split at parts
  · split at parts <;> cases parts
  · split at parts
    · split at parts
      · cases parts
      · rename_i something
        cases parts
        have short := Nat.mod_lt number.toBits.toNat (y := 0x10000000000000) (by decide)
        refine ⟨⟨Nat.pos_of_ne_zero something, Nat.lt_trans short (by decide), Int.le_refl _,
          by simp, Or.inl rfl⟩, ?_⟩
        apply eq_ofBits
        simp only [Decimal.signBits, beq_iff_eq, Binary.bits, Binary.leastExponent]
        split <;> omega
    · cases parts
      constructor
      · constructor <;> simp only [Binary.leastExponent] <;> omega
      · apply eq_ofBits
        simp only [Decimal.signBits, beq_iff_eq, Binary.bits, Binary.leastExponent]
        split <;> omega

end FloatParts

end FleetGate
