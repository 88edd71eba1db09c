import FleetGate.Proofs.Token.Keys
import FleetGate.Proofs.Token.Payload

/-!
# The tag comes first

Verifying a token is checking its tag and then judging its payload. Only the second part looks at
the clock, and it never calls a tag invalid. So the verdict on a tag is the same at any time, and
no claim is judged before the tag holds under one of the keys of the secret. That the token is
taken apart a second time for its claims changes nothing: what passed once passes again.
-/

namespace FleetGate

namespace Token

/-- A token can be taken apart, and its header names an algorithm. -/
structure IsTagged (token : Text) (parts : SignedToken) (algorithm : Algorithm) : Prop where
  spelled : parts.IsSpelledBy token
  named : Entries.find "alg" parts.header = some (.string (Text.ofString algorithm.name))

/-- The tag of a token is the one that its algorithm gives under a key of the secret. -/
structure IsSigned (secret token : Text) (parts : SignedToken) (algorithm : Algorithm)
    (key : Bytes) : Prop extends IsTagged token parts algorithm where
  hasKey : Secret.HasKey secret key
  holds : parts.tag = algorithm.mac key parts.signed

/-- The verification of a token ends with a failed check of a kind. -/
def Refuses (kind : FailureKind) (now : Int) (secret token : Text) : Prop :=
  ∃ failure : AuthFailure, failure.kind = kind ∧
    verify now secret token = .error (.failure failure)

/-- For a tagged token and a secret that has candidates, the keys decide. -/
theorem verifiedPayload_eq {secret token : Text} {parts : SignedToken} {algorithm : Algorithm}
    {candidates : List Json} (tagged : IsTagged token parts algorithm)
    (found : Secret.candidates secret = .ok candidates) :
    verifiedPayload secret token =
      if ∃ key ∈ Secret.keysOf candidates, algorithm.mac key parts.signed = parts.tag then
        .ok parts.payload
      else
        match Secret.refusalOf? candidates with
        | none => .error (SignedToken.invalid "Signature verification failed.")
        | some raised => .error raised := by
  have read : SignedToken.read token = .ok parts := SignedToken.read_eq_ok_iff.2 tagged.spelled
  have chosen : parts.algorithm = .ok algorithm := SignedToken.algorithm_eq_ok_iff.2 tagged.named
  simp only [verifiedPayload, read, chosen, found, Secret.anyVerifies_eq, bind, Except.bind]
  by_cases holds : ∃ key ∈ Secret.keysOf candidates, algorithm.mac key parts.signed = parts.tag
  · simp only [holds, if_true]
  · simp only [holds, if_false]
    cases Secret.refusalOf? candidates with
    | none => rfl
    | some raised => rfl

/-- A token that is not tagged is stopped before any key is tried: it is refused, unless it cannot
even be read. -/
theorem tagged_or_stopped (secret token : Text) :
    (∃ parts algorithm, IsTagged token parts algorithm) ∨
      ∃ raised, verifiedPayload secret token = .error raised ∧
        Ends SignedToken.IsRefusal (¬token.IsScalar ∨ SignedToken.HeaderTooDeep token)
          (.error raised : Except Raised Bytes) := by
  have ends := SignedToken.read_ends token
  cases read : SignedToken.read token with
  | error raised =>
      exact Or.inr ⟨raised, by simp [verifiedPayload, read, bind, Except.bind],
        ends.of_error read⟩
  | ok parts =>
      cases chosen : parts.algorithm with
      | error raised =>
          exact Or.inr ⟨raised, by simp [verifiedPayload, read, chosen, bind, Except.bind],
            .refuses raised (SignedToken.isRefusal_of_algorithm chosen)
              (ends.intact_of_eq_ok read)⟩
      | ok algorithm =>
          exact Or.inl ⟨parts, algorithm, SignedToken.read_eq_ok_iff.1 read,
            SignedToken.algorithm_eq_ok_iff.1 chosen⟩

/-- A secret without candidates is a fault for every tagged token. -/
theorem verifiedPayload_of_no_candidates {secret token : Text} {parts : SignedToken}
    {algorithm : Algorithm} {fault : Fault} (tagged : IsTagged token parts algorithm)
    (broken : Secret.candidates secret = .error fault) :
    verifiedPayload secret token = .error (.fault fault) := by
  simp only [verifiedPayload, SignedToken.read_eq_ok_iff.2 tagged.spelled,
    SignedToken.algorithm_eq_ok_iff.2 tagged.named, broken, bind, Except.bind]

/-- A payload comes out of a signed token only. -/
theorem isSigned_of_verifiedPayload {secret token : Text} {payload : Bytes}
    (verified : verifiedPayload secret token = .ok payload) :
    ∃ parts algorithm key, IsSigned secret token parts algorithm key ∧
      parts.payload = payload := by
  rcases tagged_or_stopped secret token with ⟨parts, algorithm, tagged⟩ | ⟨raised, stopped, _⟩
  · cases found : Secret.candidates secret with
    | error fault =>
        rw [verifiedPayload_of_no_candidates tagged found] at verified
        cases verified
    | ok candidates =>
        rw [verifiedPayload_eq tagged found] at verified
        split at verified
        · rename_i holds
          rcases holds with ⟨key, key_mem, holds⟩
          rcases Secret.exists_candidate_of_mem_keysOf key_mem with
            ⟨candidate, candidate_mem, isKey⟩
          refine ⟨parts, algorithm, key, ⟨tagged, ?_, holds.symm⟩, ?_⟩
          · exact ⟨candidates, candidate, found, candidate_mem, isKey⟩
          · simpa using verified
        · split at verified <;> cases verified
  · rw [stopped] at verified
    cases verified

theorem verifiedPayload_refusal {secret token : Text} {raised : Raised}
    (refused : verifiedPayload secret token = .error raised) :
    raised.IsFailure .signatureInvalid ∨ raised.IsFault := by
  rcases tagged_or_stopped secret token with ⟨parts, algorithm, tagged⟩ | ⟨other, stopped, ends⟩
  · cases found : Secret.candidates secret with
    | error fault =>
        rw [verifiedPayload_of_no_candidates tagged found] at refused
        cases refused
        exact Or.inr ⟨fault, rfl⟩
    | ok candidates =>
        rw [verifiedPayload_eq tagged found] at refused
        split at refused
        · cases refused
        · split at refused
          · cases refused
            exact Or.inl ⟨_, rfl, rfl⟩
          · rename_i other otherRefuses
            cases refused
            rcases Secret.exists_candidate_of_refusalOf? otherRefuses with
              ⟨candidate, _, isNoKey⟩
            exact Secret.keyBytes_refusal isNoKey
  · rw [stopped, Except.error.injEq] at refused
    subst refused
    exact ends.isFailure_or_isFault

/-- Verifying is checking the tag and then judging the payload. -/
theorem verify_eq (now : Int) (secret token : Text) :
    verify now secret token = verifiedPayload secret token >>= judge now := by
  cases verified : verifiedPayload secret token with
  | error raised => simp [verify, verified, bind, Except.bind]
  | ok payload => simp [verify, claimsOf, judge, verified, bind, Except.bind]

theorem verify_of_error {now : Int} {secret token : Text} {raised : Raised}
    (stopped : verifiedPayload secret token = .error raised) :
    verify now secret token = .error raised := by
  rw [verify_eq, stopped]
  rfl

/-- Whether a tag is called invalid does not depend on the clock. -/
theorem verify_signatureInvalid_iff {now : Int} {secret token : Text} {failure : AuthFailure}
    (kind : failure.kind = .signatureInvalid) :
    verify now secret token = .error (.failure failure) ↔
      verifiedPayload secret token = .error (.failure failure) := by
  rw [verify_eq]
  cases verified : verifiedPayload secret token with
  | error raised => simp [bind, Except.bind]
  -- Judging refuses too, but never for the tag.
  | ok payload =>
      refine iff_of_false ?_ (by simp)
      intro judged
      have ends := judge_ends now payload
      rw [show judge now payload = .error (.failure failure) from judged] at ends
      rcases ends.isFailure_or_isFault with isFailure | isFault
      · have other : Raised.IsFailure .signatureInvalid (.failure failure) := ⟨failure, rfl, kind⟩
        exact absurd (isFailure.kind_unique other) (by decide)
      · rcases isFault with ⟨fault, same⟩
        cases same

/-- Claims are judged of signed tokens only. -/
theorem isSigned_of_judged {now : Int} {secret token : Text}
    (judged : (∃ claims, verify now secret token = .ok claims) ∨
      Refuses .tokenExpiredOrInvalid now secret token) :
    ∃ parts algorithm key, IsSigned secret token parts algorithm key := by
  cases verified : verifiedPayload secret token with
  | ok payload =>
      rcases isSigned_of_verifiedPayload verified with ⟨parts, algorithm, key, signed, _⟩
      exact ⟨parts, algorithm, key, signed⟩
  | error raised =>
      have stopped : verify now secret token = .error raised := verify_of_error verified
      rcases judged with ⟨claims, accepted⟩ | ⟨failure, kind, refused⟩
      · rw [stopped] at accepted
        cases accepted
      · rw [stopped, Except.error.injEq] at refused
        have isFailure : raised.IsFailure .tokenExpiredOrInvalid := ⟨failure, refused, kind⟩
        rcases verifiedPayload_refusal verified with other | isFault
        · exact absurd (isFailure.kind_unique other) (by decide)
        · exact absurd isFailure isFault.not_isFailure

/-- The tag comes first: what is said against a tag is the same at any time, and only the claims of
signed tokens are accepted or refused. -/
theorem signature_precedes_claims (secret token : Text) :
    (∀ (earlier later : Int) (failure : AuthFailure), failure.kind = .signatureInvalid →
      (verify earlier secret token = .error (.failure failure) ↔
        verify later secret token = .error (.failure failure))) ∧
      ∀ now, ((∃ claims, verify now secret token = .ok claims) ∨
          Refuses .tokenExpiredOrInvalid now secret token) →
        ∃ parts algorithm key, IsSigned secret token parts algorithm key := by
  constructor
  · intro earlier later failure kind
    rw [verify_signatureInvalid_iff kind, verify_signatureInvalid_iff kind]
  · intro now judged
    exact isSigned_of_judged judged

/-- A claim is there and holds a text. -/
def holdsText (name text : Text) (claims : Entries Json) : Bool :=
  match Entries.find name claims with
  | some (.string own) => own == text
  | _ => false

theorem find_of_holdsText {name text : Text} {claims : Entries Json}
    (holds : holdsText name text claims = true) :
    Entries.find name claims = some (.string text) := by
  unfold holdsText at holds
  split at holds
  · rename_i own found
    rw [found, eq_of_beq holds]
  · cases holds

/-- A short word is a verbatim secret. -/
theorem isVerbatim_plain : Secret.IsVerbatim "s" [115] :=
  ⟨rfl, rfl, by decide +kernel⟩

/-- The token of a driver `D1` under the secret `s`. -/
def driverToken : Text :=
  "eyJhbGciOiJIUzI1NiJ9.eyJ0eXBlIjoiZHJpdmVyIiwiZHJpdmVyX2lkIjoiRDEifQ." ++
    "ecDGCIUDGn4fJNXHF8R4TNaCCWIp1k7vCc72OQFBOC4"

theorem exists_claims_driverToken :
    ∃ claims, verify 0 "s" driverToken = .ok claims ∧
      Entries.find "type" claims = some (.string "driver") ∧
      Entries.find "driver_id" claims = some (.string "D1") := by
  have test : (match verify 0 "s" driverToken with
      | .ok claims => holdsText "type" "driver" claims && holdsText "driver_id" "D1" claims
      | .error _ => false) = true := by
    decide +kernel
  split at test
  · rename_i claims accepted
    rw [Bool.and_eq_true] at test
    exact ⟨claims, accepted, find_of_holdsText test.1, find_of_holdsText test.2⟩
  · cases test

theorem driverToken_isSigned :
    (∃ claims, verify 0 "s" driverToken = .ok claims) ∧
      ∃ parts algorithm key, IsSigned "s" driverToken parts algorithm key := by
  rcases exists_claims_driverToken with ⟨claims, accepted, _⟩
  have judged := (signature_precedes_claims "s" driverToken).2 0
  exact ⟨⟨claims, accepted⟩, judged (Or.inl ⟨claims, accepted⟩)⟩

end Token

end FleetGate
