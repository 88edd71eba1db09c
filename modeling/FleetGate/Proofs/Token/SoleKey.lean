import FleetGate.Proofs.Token.Verify

/-!
# Secrets that sign alone

A secret signs alone under `own` when a tag gets past the check exactly if `own` gives it. One
would expect this of every secret, with its UTF-8 form as `own`. It does hold of verbatim secrets.
But a secret that reads as JSON stands for other keys, and two quotes stand for the empty key, so
that whoever knows no secret at all can sign. `KeysAgree` says exactly which secrets sign alone.
-/

namespace FleetGate

namespace Token

/-- Of tagged tokens, the check of the tag lets through exactly those whose tag `own` gives. -/
def SignsAlone (secret : Text) (own : Bytes) : Prop :=
  ∀ (now : Int) (token : Text) (parts : SignedToken) (algorithm : Algorithm),
    IsTagged token parts algorithm →
      (¬Refuses .signatureInvalid now secret token ↔
        parts.tag = algorithm.mac own parts.signed)

/-- A secret has keys, no fault stands behind them, and each of them gives tagged tokens the same
tags as `own`. -/
def KeysAgree (secret : Text) (own : Bytes) : Prop :=
  ∃ candidates, Secret.candidates secret = .ok candidates ∧
    Secret.keysOf candidates ≠ [] ∧
    (∀ raised, Secret.refusalOf? candidates = some raised → ¬raised.IsFault) ∧
    ∀ key ∈ Secret.keysOf candidates, ∀ token parts algorithm, IsTagged token parts algorithm →
      algorithm.mac key parts.signed = algorithm.mac own parts.signed

/-- A tag gets past the check when a key gives it, or when there is a fault behind the keys. -/
theorem passes_iff {now : Int} {secret token : Text} {parts : SignedToken} {algorithm : Algorithm}
    {candidates : List Json} (tagged : IsTagged token parts algorithm)
    (found : Secret.candidates secret = .ok candidates) :
    ¬Refuses .signatureInvalid now secret token ↔
      (∃ key ∈ Secret.keysOf candidates, algorithm.mac key parts.signed = parts.tag) ∨
        ∃ raised, Secret.refusalOf? candidates = some raised ∧ raised.IsFault := by
  have sameTag : Refuses .signatureInvalid now secret token ↔
      ∃ failure : AuthFailure, failure.kind = .signatureInvalid ∧
        verifiedPayload secret token = .error (.failure failure) :=
    exists_congr fun failure => and_congr_right verify_signatureInvalid_iff
  rw [sameTag, verifiedPayload_eq tagged found]
  by_cases holds : ∃ key ∈ Secret.keysOf candidates, algorithm.mac key parts.signed = parts.tag
  · simp [holds]
  · simp only [holds, if_false, false_or]
    cases refused : Secret.refusalOf? candidates with
    | none =>
        refine iff_of_false ?_ (by simp)
        exact fun passes => passes ⟨_, rfl, rfl⟩
    | some raised =>
        rcases Secret.exists_candidate_of_refusalOf? refused with ⟨candidate, _, isNoKey⟩
        simp only [Except.error.injEq, Option.some.injEq, exists_eq_left']
        rcases Secret.keyBytes_refusal isNoKey with isFailure | isFault
        · refine iff_of_false ?_ (fun isFault => isFault.not_isFailure isFailure)
          rcases isFailure with ⟨failure, same, kind⟩
          exact fun passes => passes ⟨failure, kind, same⟩
        · refine iff_of_true ?_ isFault
          rintro ⟨failure, kind, same⟩
          exact isFault.not_isFailure ⟨failure, same, kind⟩

theorem IsTagged.retag {token : Text} {parts : SignedToken} {algorithm : Algorithm}
    (tagged : IsTagged token parts algorithm) (newTag : Bytes) :
    ∃ other, IsTagged other { parts with tag := newTag } algorithm := by
  rcases tagged.spelled.retag newTag with ⟨other, spelled⟩
  exact ⟨other, spelled, tagged.named⟩

/-- There is a tagged token, with nothing in it but the name of its algorithm. -/
theorem exists_isTagged : ∃ token parts, IsTagged token parts .hs256 := by
  have test : (match SignedToken.read "eyJhbGciOiJIUzI1NiJ9.." with
      | .ok parts => holdsText "alg" "HS256" parts.header
      | .error _ => false) = true := by
    decide +kernel
  split at test
  · rename_i parts read
    exact ⟨_, parts, SignedToken.read_eq_ok_iff.1 read, find_of_holdsText test⟩
  · cases test

/-- Where the keys agree, the secret signs alone. -/
theorem KeysAgree.signsAlone {secret : Text} {own : Bytes} (agree : KeysAgree secret own) :
    SignsAlone secret own := by
  intro now token parts algorithm tagged
  rcases agree with ⟨candidates, found, nonempty, noFault, same⟩
  rw [passes_iff tagged found]
  constructor
  · rintro (⟨key, key_mem, holds⟩ | ⟨raised, refused, isFault⟩)
    · rw [← holds, same key key_mem token parts algorithm tagged]
    · exact absurd isFault (noFault raised refused)
  · intro holds
    rcases List.exists_mem_of_ne_nil _ nonempty with ⟨key, key_mem⟩
    exact Or.inl ⟨key, key_mem,
      by rw [holds, same key key_mem token parts algorithm tagged]⟩

/-- A secret without candidates is a fault, whatever the tag. -/
theorem exists_candidates_of_signsAlone {secret : Text} {own : Bytes}
    (alone : SignsAlone secret own) : ∃ candidates, Secret.candidates secret = .ok candidates := by
  cases found : Secret.candidates secret with
  | ok candidates => exact ⟨candidates, rfl⟩
  | error fault =>
      -- The fault lets any tag past the check, even one that is a byte too long to be right.
      rcases exists_isTagged with ⟨token, parts, tagged⟩
      rcases tagged.retag (0 :: Algorithm.hs256.mac own parts.signed) with ⟨other, otherTagged⟩
      have stopped : verifiedPayload secret other = .error (.fault fault) :=
        verifiedPayload_of_no_candidates otherTagged found
      have passes : ¬Refuses .signatureInvalid 0 secret other := by
        rintro ⟨failure, kind, refused⟩
        rw [verify_signatureInvalid_iff kind, stopped] at refused
        cases refused
      have wrong := (alone 0 other _ _ otherTagged).1 passes
      simp at wrong

/-- Where a secret signs alone, its keys agree. -/
theorem SignsAlone.keysAgree {secret : Text} {own : Bytes} (alone : SignsAlone secret own) :
    KeysAgree secret own := by
  rcases exists_candidates_of_signsAlone alone with ⟨candidates, found⟩
  -- The check may be asked about every tag, since any tag can be put on a tagged token.
  have givesTag {token : Text} {parts : SignedToken} {algorithm : Algorithm}
      (tagged : IsTagged token parts algorithm) (newTag : Bytes) :
      ((∃ key ∈ Secret.keysOf candidates, algorithm.mac key parts.signed = newTag) ∨
          ∃ raised, Secret.refusalOf? candidates = some raised ∧ raised.IsFault) ↔
        newTag = algorithm.mac own parts.signed := by
    rcases tagged.retag newTag with ⟨other, otherTagged⟩
    rw [← alone 0 other _ algorithm otherTagged, passes_iff otherTagged found]
  rcases exists_isTagged with ⟨token, parts, tagged⟩
  have noFault (raised : Raised) (refused : Secret.refusalOf? candidates = some raised) :
      ¬raised.IsFault := by
    intro isFault
    have wrong : 0 :: Algorithm.hs256.mac own parts.signed = Algorithm.hs256.mac own parts.signed :=
      (givesTag tagged _).1 (Or.inr ⟨raised, refused, isFault⟩)
    simp at wrong
  refine ⟨candidates, found, ?_, noFault, ?_⟩
  · rcases (givesTag tagged _).2 rfl with ⟨key, key_mem, _⟩ | ⟨raised, refused, isFault⟩
    · exact List.ne_nil_of_mem key_mem
    · exact absurd isFault (noFault raised refused)
  · intro key key_mem token parts algorithm tagged
    exact (givesTag tagged _).1 (Or.inl ⟨key, key_mem, rfl⟩)

/-- A verbatim secret is its only key. -/
theorem keysAgree_of_isVerbatim {secret : Text} {own : Bytes}
    (verbatim : Secret.IsVerbatim secret own) : KeysAgree secret own := by
  refine ⟨[.string secret], verbatim.alone, ?_, ?_, ?_⟩
  · simp [verbatim.keysOf_eq]
  · simp [verbatim.refusalOf?_eq]
  · intro key key_mem token parts algorithm _
    rw [verbatim.keysOf_eq, List.mem_singleton] at key_mem
    rw [key_mem]

/-- Verbatim secrets sign alone, and in general exactly those secrets do whose keys agree. -/
theorem signsAlone_verbatim_iff (secret : Text) (own : Bytes) :
    (Secret.IsVerbatim secret own → SignsAlone secret own) ∧
      (SignsAlone secret own ↔ KeysAgree secret own) := by
  refine ⟨fun verbatim => (keysAgree_of_isVerbatim verbatim).signsAlone, ?_, ?_⟩
  · exact SignsAlone.keysAgree
  · exact KeysAgree.signsAlone

/-- The secret `s` signs alone. -/
theorem signsAlone_plain : SignsAlone "s" [115] := by
  exact (signsAlone_verbatim_iff "s" [115]).1 isVerbatim_plain

/-- Two quotes. They read as the JSON text that is empty. -/
def twoQuotes : Text := "\"\""

/-- A token with an empty payload under the empty key. -/
def keylessToken : Text :=
  "eyJhbGciOiJIUzI1NiJ9.e30.4E_Bsx-pJi3kOW9wVXN8CgbATwP09D9V5gxh9-9zSZ0"

/-- Two quotes do not sign alone: the empty key signs for them. -/
theorem twoQuotes_not_signsAlone :
    Bytes.encode twoQuotes = .ok [34, 34] ∧ ¬SignsAlone twoQuotes [34, 34] := by
  refine ⟨rfl, fun alone => ?_⟩
  have accepted : (match verify 0 twoQuotes keylessToken with
      | .ok _ => true
      | .error _ => false) = true := by
    decide +kernel
  have foreign : (match SignedToken.read keylessToken with
      | .ok parts => holdsText "alg" "HS256" parts.header &&
          parts.tag != Algorithm.hs256.mac [34, 34] parts.signed
      | .error _ => false) = true := by
    decide +kernel
  split at foreign
  · rename_i parts read
    rw [Bool.and_eq_true, bne_iff_ne] at foreign
    have tagged : IsTagged keylessToken parts .hs256 :=
      ⟨SignedToken.read_eq_ok_iff.1 read, find_of_holdsText foreign.1⟩
    refine foreign.2 ((alone 0 keylessToken parts .hs256 tagged).1 ?_)
    rintro ⟨failure, _, refused⟩
    rw [refused] at accepted
    cases accepted
  · cases foreign

end Token

end FleetGate
