import FleetGate.Bytes.Base64

/-!
# What reading base64 overlooks

A byte is foreign to base64 when it is neither a character of one of the two alphabets nor padding.
Foreign bytes are skipped wherever they stand. They do count for the length from which the missing
padding is worked out, so that exactly groups of four of them can be put in without a trace
(`readBase64_insert`).

What is read is at most three quarters as long as the characters of base64 that it was read from
(`length_le_sextets`), however many other bytes stand between them.
-/

namespace FleetGate

namespace Bytes

/-- The byte is neither a character of base64 nor padding. -/
def IsForeign (byte : UInt8) : Prop :=
  sextet? byte = none ∧ byte ≠ 61

instance (byte : UInt8) : Decidable (IsForeign byte) :=
  inferInstanceAs (Decidable (_ ∧ _))

/-- The number of characters of base64, in either alphabet. -/
def sextets (bytes : Bytes) : Nat :=
  bytes.countP fun byte => (sextet? byte).isSome

variable {written : Nat} {group : Group}

theorem readGroups_foreign {byte : UInt8} (foreign : IsForeign byte) (rest : Bytes) :
    readGroups written group (byte :: rest) = readGroups written group rest := by
  rw [readGroups.eq_def]
  cases group <;> simp [foreign.1, foreign.2]

theorem readGroups_foreign_append {others : Bytes} (foreign : ∀ byte ∈ others, IsForeign byte)
    (rest : Bytes) : readGroups written group (others ++ rest) = readGroups written group rest := by
  induction others with
  | nil => rfl
  | cons byte others ih =>
      rw [List.cons_append, readGroups_foreign (foreign byte List.mem_cons_self)]
      exact ih fun other other_mem => foreign other (List.mem_cons_of_mem byte other_mem)

theorem readGroups_cons_congr {rest other : Bytes}
    (same : ∀ written group, readGroups written group rest = readGroups written group other)
    (byte : UInt8) : readGroups written group (byte :: rest) =
      readGroups written group (byte :: other) := by
  rw [readGroups.eq_def, readGroups.eq_def written group (byte :: other)]
  cases group <;> simp only [same]

theorem readGroups_insert {others : Bytes} (foreign : ∀ byte ∈ others, IsForeign byte)
    (left right : Bytes) :
    readGroups written group (left ++ (others ++ right)) =
      readGroups written group (left ++ right) := by
  induction left generalizing written group with
  | nil => exact readGroups_foreign_append foreign right
  | cons byte left ih => exact readGroups_cons_congr (fun _ _ => ih) byte

/-- Four foreign bytes, or any multiple of four, can be put in without a trace. -/
theorem readBase64_insert {others : Bytes} (foreign : ∀ byte ∈ others, IsForeign byte)
    (whole : others.length % 4 = 0) (left right : Bytes) :
    readBase64 (left ++ others ++ right) = readBase64 (left ++ right) := by
  have sameFill : (left ++ others ++ right).length % 4 = (left ++ right).length % 4 := by
    simp only [List.length_append]
    omega
  rw [readBase64, readBase64, padded, padded, sameFill, List.append_assoc, List.append_assoc,
    readGroups_insert foreign, List.append_assoc]

/-- The characters of a group that have been read. -/
def Group.taken : Group → Nat
  | empty => 0
  | one _ => 1
  | two _ _ => 2
  | three _ => 3

/-- The bytes of a group that have been written. -/
def Group.given : Group → Nat
  | empty => 0
  | one _ => 0
  | two _ _ => 1
  | three _ => 2

theorem sextets_cons (byte : UInt8) (rest : Bytes) :
    sextets (byte :: rest) = sextets rest + if (sextet? byte).isSome then 1 else 0 :=
  List.countP_cons

theorem map_eq_ok {ε α β : Type} {outcome : Except ε α} {change : α → β} {value : β}
    (mapped : outcome.map change = .ok value) : ∃ own, outcome = .ok own ∧ change own = value := by
  cases outcome with
  | error fault => cases mapped
  | ok own => exact ⟨own, rfl, Except.ok.inj mapped⟩

/-- Four characters give at most three bytes, from the middle of a group on as well. -/
theorem length_le_of_readGroups {bytes result : Bytes}
    (read : readGroups written group bytes = .ok result) :
    4 * (group.given + result.length) ≤ 3 * (group.taken + sextets bytes) := by
  induction bytes generalizing written group result with
  | nil =>
      rw [readGroups.eq_def] at read
      cases group with
      | empty =>
          cases read
          exact Nat.zero_le _
      | _ => cases read
  | cons byte rest ih =>
      rw [sextets_cons]
      rw [readGroups.eq_def] at read
      -- Padding and foreign bytes give nothing, and the first character of a group gives no byte.
      by_cases padding : byte = 61
      · cases group with
        | two left pads =>
            simp only [padding, if_true] at read
            split at read
            · have rest := ih read
              simp only [Group.given, Group.taken] at rest ⊢
              omega
            · cases read
              simp only [Group.given, Group.taken, List.length_nil]
              omega
        | three left =>
            simp only [padding, if_true, Except.ok.injEq] at read
            subst read
            simp only [Group.given, Group.taken, List.length_nil]
            omega
        | _ =>
            simp only [padding, if_true] at read
            have rest := ih read
            omega
      · cases sextet : sextet? byte with
        | none =>
            have skipped : readGroups written group rest = .ok result := by
              cases group <;> simpa only [padding, if_false, sextet] using read
            have rest := ih skipped
            omega
        | some bits =>
            simp only [Option.isSome_some, if_true]
            cases group with
            | empty =>
                simp only [padding, if_false, sextet] at read
                have rest := ih read
                simp only [Group.given, Group.taken] at rest ⊢
                omega
            | _ =>
                simp only [padding, if_false, sextet] at read
                rcases map_eq_ok read with ⟨later, restRead, rfl⟩
                have rest := ih restRead
                simp only [Group.given, Group.taken, List.length_cons] at rest ⊢
                omega

theorem sextets_padded (bytes : Bytes) : sextets (padded bytes) = sextets bytes := by
  have noSextet : (sextet? 61).isSome = false := rfl
  simp [sextets, padded, List.countP_append, List.countP_replicate, noSextet]

theorem length_le_sextets {bytes result : Bytes} (read : readBase64 bytes = .ok result) :
    4 * result.length ≤ 3 * sextets bytes := by
  have bound := length_le_of_readGroups read
  simpa [Group.given, Group.taken, sextets_padded] using bound

end Bytes

end FleetGate
