import FleetGate.Proofs.Token.Segments
import FleetGate.Token.Secret

/-!
# The keys of a secret

The search for a key goes through the candidates of a secret until a tag holds or a candidate is
no key. So a secret has keys, which stand in front of the first candidate that is none, and
perhaps a refusal, which is what that candidate raises. A verbatim secret is the plain case: it
has one key, which is the secret itself in UTF-8.
-/

namespace FleetGate

namespace Secret

/-- The keys in front of the first candidate that is none. -/
def keysOf : List Json → List Bytes
  | [] => []
  | candidate :: rest =>
    match keyBytes candidate with
    | .ok key => key :: keysOf rest
    | .error _ => []

/-- What the first candidate that is no key raises. -/
def refusalOf? : List Json → Option Raised
  | [] => none
  | candidate :: rest =>
    match keyBytes candidate with
    | .ok _ => refusalOf? rest
    | .error raised => some raised

/-- A key that a candidate of the secret stands for. -/
def HasKey (secret : Text) (key : Bytes) : Prop :=
  ∃ candidates candidate, Secret.candidates secret = .ok candidates ∧ candidate ∈ candidates ∧
    keyBytes candidate = .ok key

/-- A secret that is its own and only key: it does not read as JSON, it has a UTF-8 form, and it
does not look like a key file. -/
structure IsVerbatim (secret : Text) (own : Bytes) : Prop where
  alone : candidates secret = .ok [.string secret]
  encoded : Bytes.encode secret = .ok own
  plain : looksAsymmetric secret = false

theorem exists_candidate_of_mem_keysOf {candidates : List Json} {key : Bytes}
    (key_mem : key ∈ keysOf candidates) :
    ∃ candidate ∈ candidates, keyBytes candidate = .ok key := by
  induction candidates with
  | nil => simp [keysOf] at key_mem
  | cons candidate rest ih =>
      rw [keysOf] at key_mem
      cases found : keyBytes candidate with
      | error raised => simp [found] at key_mem
      | ok own =>
          simp only [found, List.mem_cons] at key_mem
          rcases key_mem with rfl | key_mem
          · exact ⟨candidate, by simp, found⟩
          · rcases ih key_mem with ⟨other, other_mem, otherFound⟩
            exact ⟨other, by simp [other_mem], otherFound⟩

theorem exists_candidate_of_refusalOf? {candidates : List Json} {raised : Raised}
    (refused : refusalOf? candidates = some raised) :
    ∃ candidate ∈ candidates, keyBytes candidate = .error raised := by
  induction candidates with
  | nil => simp [refusalOf?] at refused
  | cons candidate rest ih =>
      rw [refusalOf?] at refused
      cases found : keyBytes candidate with
      | error other =>
          simp only [found, Option.some.injEq] at refused
          exact ⟨candidate, by simp, by rw [found, refused]⟩
      | ok own =>
          simp only [found] at refused
          rcases ih refused with ⟨other, other_mem, otherFound⟩
          exact ⟨other, by simp [other_mem], otherFound⟩

/-- A candidate that is no key is refused as an invalid tag, or it is a fault. -/
theorem keyBytes_refusal {candidate : Json} {raised : Raised}
    (refused : keyBytes candidate = .error raised) :
    raised.IsFailure .signatureInvalid ∨ raised.IsFault := by
  have invalid (detail : Text) : (SignedToken.invalid detail).IsFailure .signatureInvalid :=
    ⟨_, rfl, rfl⟩
  have isFault (fault : Fault) : (Raised.fault fault).IsFault := ⟨fault, rfl⟩
  unfold keyBytes at refused
  split at refused
  · split at refused
    · cases refused
      exact Or.inr (isFault _)
    · split at refused
      · cases refused
        exact Or.inl (invalid _)
      · cases refused
  · dsimp only at refused
    split at refused
    · split at refused
      · split at refused
        · cases refused
          exact Or.inr (isFault _)
        · split at refused
          · cases refused
          · cases refused
            exact Or.inr (isFault _)
      · cases refused
        exact Or.inr (isFault _)
    · cases refused
      exact Or.inl (invalid _)
  · cases refused
    exact Or.inl (invalid _)

/-- The tag holds under one of the keys, or the refusal decides. -/
theorem anyVerifies_eq (algorithm : Algorithm) (signed tag : Bytes) (candidates : List Json) :
    anyVerifies algorithm signed tag candidates =
      if ∃ key ∈ keysOf candidates, algorithm.mac key signed = tag then .ok true
      else
        match refusalOf? candidates with
        | none => .ok false
        | some raised => .error raised := by
  induction candidates with
  | nil => simp [anyVerifies, keysOf, refusalOf?]
  | cons candidate rest ih =>
      rw [anyVerifies, keysOf, refusalOf?]
      cases found : keyBytes candidate with
      | error raised => simp
      | ok own =>
          by_cases holds : algorithm.mac own signed = tag
          · simp [holds]
          · simp [holds, ih]

theorem IsVerbatim.keyBytes_eq {secret : Text} {own : Bytes} (verbatim : IsVerbatim secret own) :
    keyBytes (.string secret) = .ok own := by
  simp [keyBytes, verbatim.encoded, verbatim.plain]

theorem IsVerbatim.keysOf_eq {secret : Text} {own : Bytes} (verbatim : IsVerbatim secret own) :
    keysOf [.string secret] = [own] := by
  simp [keysOf, verbatim.keyBytes_eq]

theorem IsVerbatim.refusalOf?_eq {secret : Text} {own : Bytes}
    (verbatim : IsVerbatim secret own) : refusalOf? [.string secret] = none := by
  simp [refusalOf?, verbatim.keyBytes_eq]

end Secret

theorem Algorithm.ofName?_eq_some_iff {name : Text} {own : Algorithm} :
    ofName? name = some own ↔ name = Text.ofString own.name := by
  constructor
  · intro found
    have named := List.find?_some found
    exact (of_decide_eq_true named).symm
  · rintro rfl
    exact ofName?_name own

namespace SignedToken

/-- The algorithm of a token is the one that its header names. -/
theorem algorithm_eq_ok_iff {token : SignedToken} {own : Algorithm} :
    token.algorithm = .ok own ↔
      Entries.find "alg" token.header = some (.string (Text.ofString own.name)) := by
  constructor
  · intro found
    unfold algorithm at found
    split at found
    · cases found
    · rename_i value named
      split at found
      · cases found
      · split at found
        · rename_i name _
          split at found
          · rename_i other known
            cases found
            rw [named, Algorithm.ofName?_eq_some_iff.1 known]
          · cases found
        · cases found
  · intro named
    have nonempty : (Json.string (Text.ofString own.name)).truthy = true := by
      cases own <;> decide
    simp [algorithm, named, nonempty, Algorithm.ofName?_name]

theorem isRefusal_of_algorithm {token : SignedToken} {raised : Raised}
    (refused : token.algorithm = .error raised) : IsRefusal raised := by
  have invalid (detail : String) : IsRefusal (SignedToken.invalid (Text.ofString detail)) :=
    isRefusal_invalid (Text.isScalar_ofString detail)
  unfold algorithm at refused
  split at refused
  · cases refused
    exact invalid _
  · split at refused
    · cases refused
      exact invalid _
    · split at refused
      · split at refused
        · cases refused
        · cases refused
          exact invalid _
      · cases refused
        exact invalid _

end SignedToken

end FleetGate
