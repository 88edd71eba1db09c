import FleetGate.Proofs.Auth.Order

/-!
# The texts of a failure

What a failure has to say could be any data, but no check gives anything other than texts. A
failure of a pipeline can therefore be answered exactly when its two texts are scalar.
-/

namespace FleetGate

namespace AuthFailure

/-- The failure has a text as its detail and another one as its message. -/
def Speaks (failure : AuthFailure) (detail message : Text) : Prop :=
  failure.detail = .string detail ∧ failure.message = .string message

/-- A failure with texts can be answered exactly when both of them are scalar. -/
theorem Speaks.exists_response_iff {failure : AuthFailure} {detail message : Text} {legacy : Bool}
    (speaks : failure.Speaks detail message) :
    (∃ response, Response.ofFailure failure legacy = .ok response) ↔
      detail.IsScalar ∧ message.IsScalar := by
  rcases failure with ⟨kind, ownDetail, ownMessage, cause⟩
  rcases speaks with ⟨rfl, rfl⟩
  exact Response.exists_ofFailure_eq_ok_iff

end AuthFailure

namespace Raised

/-- What is raised is a failure with texts, unless it is no failure. -/
def IsWorded (raised : Raised) : Prop :=
  ∀ failure, raised = .failure failure → ∃ detail message, failure.Speaks detail message

theorem isWorded_of_speaks {failure : AuthFailure} {detail message : Text}
    (speaks : failure.Speaks detail message) : IsWorded (.failure failure) := by
  intro other same
  cases same
  exact ⟨detail, message, speaks⟩

theorem IsPlainFailure.isWorded {kind : FailureKind} {raised : Raised}
    (plain : raised.IsPlainFailure kind) : raised.IsWorded := by
  rcases plain with ⟨detail, message, _, _, rfl⟩
  exact isWorded_of_speaks ⟨rfl, rfl⟩

theorem IsFault.isWorded {raised : Raised} (isFault : raised.IsFault) : raised.IsWorded := by
  rcases isFault with ⟨fault, rfl⟩
  intro failure same
  cases same

end Raised

theorem Ends.isWorded {α : Type} {kind : FailureKind} {breaks : Prop} {raised : Raised}
    (ends : Ends (Raised.IsPlainFailure kind) breaks (.error raised : Except Raised α)) :
    raised.IsWorded := by
  cases ends with
  | refuses _ plain _ => exact plain.isWorded
  | breaksOff _ isFault _ => exact isFault.isWorded

theorem SignedToken.isWorded_invalid (detail : Text) : (SignedToken.invalid detail).IsWorded :=
  Raised.isWorded_of_speaks ⟨rfl, rfl⟩

theorem Secret.isWorded_of_keyBytes {candidate : Json} {raised : Raised}
    (refused : Secret.keyBytes candidate = .error raised) : raised.IsWorded := by
  have ofFault (fault : Fault) : (Raised.fault fault).IsWorded := Raised.IsFault.isWorded ⟨_, rfl⟩
  have invalid := SignedToken.isWorded_invalid
  unfold keyBytes at refused
  split at refused
  · split at refused
    · cases refused
      exact ofFault _
    · split at refused
      · cases refused
        exact invalid _
      · cases refused
  · dsimp only at refused
    split at refused
    · split at refused
      · split at refused
        · cases refused
          exact ofFault _
        · split at refused
          · cases refused
          · cases refused
            exact ofFault _
      · cases refused
        exact ofFault _
    · cases refused
      exact invalid _
  · cases refused
    exact invalid _

namespace Token

theorem isWorded_of_verifiedPayload {secret token : Text} {raised : Raised}
    (refused : verifiedPayload secret token = .error raised) : raised.IsWorded := by
  rcases tagged_or_stopped secret token with ⟨parts, algorithm, tagged⟩ | ⟨other, stopped, ends⟩
  · cases found : Secret.candidates secret with
    | error fault =>
        rw [verifiedPayload_of_no_candidates tagged found] at refused
        cases refused
        exact Raised.IsFault.isWorded ⟨fault, rfl⟩
    | ok candidates =>
        rw [verifiedPayload_eq tagged found] at refused
        split at refused
        · cases refused
        · split at refused
          · cases refused
            exact SignedToken.isWorded_invalid _
          · rename_i other otherRefuses
            cases refused
            rcases Secret.exists_candidate_of_refusalOf? otherRefuses with
              ⟨candidate, _, isNoKey⟩
            exact Secret.isWorded_of_keyBytes isNoKey
  · rw [stopped, Except.error.injEq] at refused
    subst refused
    exact ends.isWorded

theorem isWorded_of_verify {now : Int} {secret token : Text} {raised : Raised}
    (refused : verify now secret token = .error raised) : raised.IsWorded := by
  cases verified : verifiedPayload secret token with
  | error own =>
      rw [verify_of_error verified, Except.error.injEq] at refused
      subst refused
      exact isWorded_of_verifiedPayload verified
  | ok payload =>
      have ends := judge_ends now payload
      rw [verify_eq, verified] at refused
      exact (ends.of_error refused : Ends _ _ (.error raised : Except Raised Unit)).isWorded

end Token

namespace Resolution

theorem isWorded_of_ofAnswer {kind : PrincipalKind} {identifier : Text} {answer : StoreAnswer}
    {raised : Raised} (refused : (ofAnswer kind identifier answer).1 = .error raised) :
    raised.IsWorded := by
  have unknown (detail : Text) (cause : Option Raised) :
      Raised.IsWorded (.failure { notFound kind detail with cause := cause }) := by
    cases kind <;> exact Raised.isWorded_of_speaks ⟨rfl, rfl⟩
  cases answer with
  | found record =>
      rw [ofAnswer] at refused
      split at refused
      · cases refused
      · cases refused
        exact unknown _ none
  | absent =>
      cases refused
      exact unknown _ none
  | raised own =>
      rw [ofAnswer] at refused
      split at refused
      · cases refused
        exact unknown _ (some own)
      · rename_i notError
        cases refused
        rintro failure rfl
        exact absurd rfl notError

theorem isWorded_of_resolve {stores : Stores} {kind : PrincipalKind} {identifier : Text}
    {raised : Raised} (refused : (resolve stores identifier kind).result = .error raised) :
    raised.IsWorded := by
  unfold resolve at refused
  split at refused
  · cases refused
    exact Raised.IsFault.isWorded ⟨_, rfl⟩
  · exact isWorded_of_ofAnswer refused

end Resolution

namespace Pipeline

/-- Every failure of a pipeline has texts. -/
theorem isWorded_of_run {pipeline : Pipeline} {now : Int} {authorization : Option Text}
    {base : Context} {raised : Raised}
    (stopped : (pipeline.run now authorization base).result = .error raised) :
    raised.IsWorded := by
  rcases run_eq_error_iff.1 stopped with ⟨stage, stops⟩
  cases stops with
  | extract refused =>
      rcases Credential.isPlain_of_token refused with ⟨kind, plain⟩
      exact plain.isWorded
  | verify _ refused => exact Token.isWorded_of_verify refused
  | validate _ _ refused =>
      rcases Identity.isPlain_of_ofClaims refused with ⟨kind, plain⟩
      exact plain.isWorded
  | resolve _ refused => exact Resolution.isWorded_of_resolve refused

end Pipeline

end FleetGate
