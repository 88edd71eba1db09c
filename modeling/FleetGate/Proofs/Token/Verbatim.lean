import FleetGate.Proofs.Token.Verify

/-!
# Verifying under a verbatim secret

With a verbatim secret there is one key, and nothing can go wrong with it. Verifying a token then
ends with claims or with a plain failure, but for four ways in which it breaks off: the token has
no UTF-8 form, its header or its payload is nested too deeply, or a time claim is timeless. The
last two take a signed token.
-/

namespace FleetGate

namespace Token

/-- The verification of a token breaks off with a fault. -/
inductive Breaks (now : Int) (secret token : Text) : Prop where
  | halves (notScalar : ¬token.IsScalar)
  | header (deep : SignedToken.HeaderTooDeep token)
  | payload {parts : SignedToken} {algorithm : Algorithm} {key : Bytes}
      (signed : IsSigned secret token parts algorithm key) (deep : PayloadTooDeep parts.payload)
  | claims {parts : SignedToken} {algorithm : Algorithm} {key : Bytes} {claims : Entries Json}
      (signed : IsSigned secret token parts algorithm key)
      (holds : PayloadHolds parts.payload claims) (breakOff : Claims.BreakOff now claims)

variable {now : Int} {secret token : Text} {own : Bytes}

theorem verifiedPayload_of_isVerbatim {parts : SignedToken} {algorithm : Algorithm}
    (verbatim : Secret.IsVerbatim secret own) (tagged : IsTagged token parts algorithm) :
    verifiedPayload secret token =
      if algorithm.mac own parts.signed = parts.tag then .ok parts.payload
      else .error (SignedToken.invalid "Signature verification failed.") := by
  rw [verifiedPayload_eq tagged verbatim.alone, verbatim.keysOf_eq, verbatim.refusalOf?_eq]
  simp

theorem IsSigned.key_eq {parts : SignedToken} {algorithm : Algorithm} {key : Bytes}
    (signed : IsSigned secret token parts algorithm key)
    (verbatim : Secret.IsVerbatim secret own) : key = own := by
  rcases signed.hasKey with ⟨candidates, candidate, found, candidate_mem, isKey⟩
  rw [verbatim.alone, Except.ok.injEq] at found
  subst found
  rw [List.mem_singleton] at candidate_mem
  rw [candidate_mem, verbatim.keyBytes_eq, Except.ok.injEq] at isKey
  exact isKey.symm

/-- A signed token gives its payload away. -/
theorem IsSigned.verifiedPayload_eq {parts : SignedToken} {algorithm : Algorithm} {key : Bytes}
    (signed : IsSigned secret token parts algorithm key)
    (verbatim : Secret.IsVerbatim secret own) :
    verifiedPayload secret token = .ok parts.payload := by
  rw [verifiedPayload_of_isVerbatim verbatim signed.toIsTagged, ← signed.key_eq verbatim,
    if_pos signed.holds.symm]

/-- Checking the tag only breaks off where the token cannot even be read. -/
theorem verifiedPayload_ends (verbatim : Secret.IsVerbatim secret own) :
    Ends SignedToken.IsRefusal (¬token.IsScalar ∨ SignedToken.HeaderTooDeep token)
      (verifiedPayload secret token) := by
  rcases tagged_or_stopped secret token with ⟨parts, algorithm, tagged⟩ | ⟨raised, stopped, ends⟩
  · have intact := (SignedToken.read_ends token).intact_of_eq_ok
      (SignedToken.read_eq_ok_iff.2 tagged.spelled)
    rw [verifiedPayload_of_isVerbatim verbatim tagged]
    split
    · exact .passes _ intact
    · exact .refuses _ (SignedToken.isRefusal_invalid (Text.isScalar_ofString _)) intact
  · rw [stopped]
    exact ends

/-- Under a verbatim secret, verifying ends with claims, a plain failure, or a break. -/
theorem verify_ends (verbatim : Secret.IsVerbatim secret own) :
    Ends Raised.IsPlain (Breaks now secret token) (verify now secret token) := by
  have tagEnds : Ends Raised.IsPlain _ (verifiedPayload secret token) :=
    (verifiedPayload_ends verbatim).mono fun raised plain => ⟨_, plain⟩
  have ends := tagEnds.bind fun payload _ =>
    (judge_ends now payload).mono fun raised plain => ⟨_, plain⟩
  rw [verify_eq]
  refine ends.congr ?_
  constructor
  · rintro ((notScalar | deep) | ⟨payload, verified, broken⟩)
    · exact .halves notScalar
    · exact .header deep
    · rcases isSigned_of_verifiedPayload verified with ⟨parts, algorithm, key, signed, rfl⟩
      rcases broken with deep | ⟨claims, holds, breakOff⟩
      · exact .payload signed deep
      · exact .claims signed holds breakOff
  · rintro (notScalar | deep | ⟨signed, deep⟩ | ⟨signed, holds, breakOff⟩)
    · exact Or.inl (Or.inl notScalar)
    · exact Or.inl (Or.inr deep)
    · exact Or.inr ⟨_, signed.verifiedPayload_eq verbatim, Or.inl deep⟩
    · exact Or.inr ⟨_, signed.verifiedPayload_eq verbatim, Or.inr ⟨_, holds, breakOff⟩⟩

/-- A token that is not tagged counts as one with an invalid tag, unless it cannot even be read. -/
theorem refuses_untagged_iff (untagged : ¬∃ parts algorithm, IsTagged token parts algorithm) :
    Refuses .signatureInvalid now secret token ↔
      ¬(¬token.IsScalar ∨ SignedToken.HeaderTooDeep token) := by
  rcases tagged_or_stopped secret token with tagged | ⟨raised, stopped, ends⟩
  · exact absurd tagged untagged
  · unfold Refuses
    rw [← ends.judged_iff, verify_of_error stopped]
    simp

/-- The claims of a signed object are accepted or refused, unless they are timeless. -/
theorem judged_object_iff {parts : SignedToken} {algorithm : Algorithm} {key : Bytes}
    {claims : Entries Json} (verbatim : Secret.IsVerbatim secret own)
    (signed : IsSigned secret token parts algorithm key)
    (holds : PayloadHolds parts.payload claims) :
    ((∃ accepted, verify now secret token = .ok accepted) ∨
        Refuses .tokenExpiredOrInvalid now secret token) ↔
      ¬Claims.BreakOff now claims := by
  have judged : verify now secret token = judge now parts.payload := by
    rw [verify_eq, signed.verifiedPayload_eq verbatim]
    rfl
  have notTooDeep : ¬PayloadTooDeep parts.payload := by
    rw [← (checkObject_ends parts.payload).judged_iff]
    exact Or.inl ⟨(), checkObject_of_payloadHolds holds⟩
  unfold Refuses
  rw [judged, (judge_ends now parts.payload).judged_iff]
  refine not_congr ⟨?_, ?_⟩
  · rintro (deep | ⟨other, otherHolds, breakOff⟩)
    · exact absurd deep notTooDeep
    · rw [← readClaims_eq_ok_iff] at holds otherHolds
      rw [holds, Except.ok.injEq] at otherHolds
      rw [otherHolds]
      exact breakOff
  · intro breakOff
    exact Or.inr ⟨claims, holds, breakOff⟩

end Token

end FleetGate
