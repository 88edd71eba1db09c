import FleetGate.Proofs.Auth.Stages

/-!
# The order of the stages

The stages of a pipeline run in their order, and the first one whose check fails ends the run.
`Pipeline.StopsAt` says at which stage a run stops and with what. Every kind of failure belongs to
one stage, and a failure comes out of a run exactly when the run stops with it at the stage of its
kind. What only later stages look at makes no difference to a run that has stopped; in particular
no store is asked before the first three stages have passed, and then only the one of the kind, for
the identifier that the claims name.

An error of a store never shows as what it is, even if it is a failed check of its own kind: the
principal counts as unknown, with something to say about it, and the failure carries the error as
its cause.
-/

namespace FleetGate

theorem Credential.stage_of_token {authorization : Option Text} {failure : AuthFailure}
    (refused : Credential.token authorization = .error failure) :
    failure.kind.stage = .extractCredential := by
  unfold Credential.token at refused
  split at refused
  · cases refused
    rfl
  · cases refused
    rfl
  · split at refused
    · split at refused
      · cases refused
      · cases refused
        rfl
    · cases refused
      rfl

theorem Identity.stage_of_ofClaims {claims : Entries Json} {kind : PrincipalKind}
    {failure : AuthFailure} (refused : Identity.ofClaims claims kind = .error failure) :
    failure.kind.stage = .validateClaims := by
  unfold Identity.ofClaims at refused
  split at refused
  · split at refused
    · split at refused
      · cases refused
      · cases refused
        rfl
    · cases refused
      rfl
  · cases refused
    rfl

namespace Token

variable {now : Int} {secret token : Text}

theorem judge_refusal {payload : Bytes} {failure : AuthFailure}
    (refused : judge now payload = .error (.failure failure)) :
    failure.kind = .tokenExpiredOrInvalid := by
  have ends := judge_ends now payload
  rw [refused] at ends
  rcases ends.isFailure_or_isFault with ⟨own, same, kind⟩ | ⟨fault, same⟩
  · cases same
    exact kind
  · cases same

theorem stage_of_verify {failure : AuthFailure}
    (refused : verify now secret token = .error (.failure failure)) :
    failure.kind.stage = .decodeAndVerify := by
  rw [verify_eq] at refused
  cases verified : verifiedPayload secret token with
  | error raised =>
      rw [verified] at refused
      cases refused
      rcases verifiedPayload_refusal verified with ⟨own, same, kind⟩ | ⟨fault, same⟩
      · cases same
        rw [kind]
        rfl
      · cases same
  | ok payload =>
      rw [verified] at refused
      have kind := judge_refusal refused
      rw [kind]
      rfl

end Token

namespace Resolution

variable {stores others : Stores} {kind : PrincipalKind} {identifier : Text}

theorem stage_of_resolve {failure : AuthFailure}
    (refused : (resolve stores identifier kind).result = .error (.failure failure)) :
    failure.kind.stage = .resolvePrincipal := by
  unfold resolve at refused
  split at refused
  · cases refused
  · rename_i store _
    dsimp only at refused
    cases answer : (store.lookup identifier).1 with
    | found record =>
        rw [answer, ofAnswer] at refused
        split at refused
        · cases refused
        · cases refused
          rfl
    | absent =>
        rw [answer] at refused
        cases refused
        rfl
    | raised raised =>
        rw [answer, ofAnswer] at refused
        split at refused
        · cases refused
          rfl
        · rename_i notError
          cases refused
          exact absurd rfl notError

/-- The stores have the same to say about an identifier of a kind. -/
def AgreeOn (stores others : Stores) (kind : PrincipalKind) (identifier : Text) : Prop :=
  (others.get? kind).map (·.lookup identifier) = (stores.get? kind).map (·.lookup identifier)

/-- Of the stores only what the one of the kind says about the identifier matters. -/
theorem resolve_congr (agree : AgreeOn stores others kind identifier) :
    resolve others identifier kind = resolve stores identifier kind := by
  unfold AgreeOn at agree
  cases own : stores.get? kind with
  | none =>
      rw [own, Option.map_none, Option.map_eq_none_iff] at agree
      simp only [resolve, own, agree]
  | some store =>
      rw [own, Option.map_some, Option.map_eq_some_iff] at agree
      rcases agree with ⟨other, registered, same⟩
      simp only [resolve, own, registered, same]

theorem calls_resolve (supported : stores.supports kind = true) :
    (resolve stores identifier kind).calls = [(kind, identifier)] := by
  rcases Option.isSome_iff_exists.1 supported with ⟨store, registered⟩
  simp only [resolve, registered]

/-- There is something to say about every error, if only its name. -/
theorem storeDetail_ne_nil (raised : Raised) : storeDetail raised ≠ [] := by
  unfold storeDetail
  split
  · exact Text.ofString_ne_nil raised.name_ne_empty
  · rename_i something
    simpa using something

end Resolution

namespace Pipeline

variable {pipeline : Pipeline} {now : Int} {authorization : Option Text} {base : Context}

/-- The checks in front of a stage pass, and the check of the stage itself raises something. -/
inductive StopsAt (pipeline : Pipeline) (now : Int) (authorization : Option Text) :
    Stage → Raised → Prop where
  | extract {failure : AuthFailure}
      (refused : Credential.token authorization = .error failure) :
      StopsAt pipeline now authorization .extractCredential (.failure failure)
  | verify {token : Text} {raised : Raised}
      (presents : Credential.Presents authorization token)
      (refused : Token.verify now pipeline.secret token = .error raised) :
      StopsAt pipeline now authorization .decodeAndVerify raised
  | validate {token : Text} {claims : Entries Json} {failure : AuthFailure}
      (presents : Credential.Presents authorization token)
      (verified : Token.verify now pipeline.secret token = .ok claims)
      (refused : Identity.ofClaims claims pipeline.kind = .error failure) :
      StopsAt pipeline now authorization .validateClaims (.failure failure)
  | resolve {token : Text} {claims : Entries Json} {identifier : Text} {raised : Raised}
      (identifies : Identifies pipeline now authorization token claims identifier)
      (refused : (Resolution.resolve pipeline.stores identifier pipeline.kind).result =
        .error raised) :
      StopsAt pipeline now authorization .resolvePrincipal raised

/-- A failure belongs to the stage at which a run stops with it. -/
theorem StopsAt.stage_eq {stage : Stage} {failure : AuthFailure}
    (stops : StopsAt pipeline now authorization stage (.failure failure)) :
    failure.kind.stage = stage := by
  cases stops with
  | extract refused => exact Credential.stage_of_token refused
  | verify _ refused => exact Token.stage_of_verify refused
  | validate _ _ refused => exact Identity.stage_of_ofClaims refused
  | resolve _ refused => exact Resolution.stage_of_resolve refused

/-- Everything that the checks up to and with a stage look at is the same for two runs. -/
def SharesUpTo (stage : Stage) (pipeline : Pipeline) (now : Int) (other : Pipeline)
    (later : Int) : Prop :=
  match stage with
  | .extractCredential => True
  | .decodeAndVerify => other.secret = pipeline.secret ∧ later = now
  | .validateClaims =>
    other.secret = pipeline.secret ∧ later = now ∧ other.kind = pipeline.kind
  | .resolvePrincipal =>
    other.secret = pipeline.secret ∧ later = now ∧ other.kind = pipeline.kind ∧
      other.stores.get? pipeline.kind = pipeline.stores.get? pipeline.kind

theorem identify_of_token_error {failure : AuthFailure}
    (refused : Credential.token authorization = .error failure) :
    identify pipeline.kind pipeline.secret now authorization = .error (.failure failure) := by
  simp only [identify, Token.decode, refused]

theorem identify_of_verify_error {token : Text} {raised : Raised}
    (presents : Credential.Presents authorization token)
    (refused : Token.verify now pipeline.secret token = .error raised) :
    identify pipeline.kind pipeline.secret now authorization = .error raised := by
  simp only [identify, Token.decode, Credential.token_eq_ok_iff.2 presents, refused]

theorem identify_of_ofClaims_error {token : Text} {claims : Entries Json} {failure : AuthFailure}
    (presents : Credential.Presents authorization token)
    (verified : Token.verify now pipeline.secret token = .ok claims)
    (refused : Identity.ofClaims claims pipeline.kind = .error failure) :
    identify pipeline.kind pipeline.secret now authorization = .error (.failure failure) := by
  simp only [identify, Token.decode, Credential.token_eq_ok_iff.2 presents, verified, refused]

theorem run_eq_of_identify_error {raised : Raised}
    (stopped : identify pipeline.kind pipeline.secret now authorization = .error raised) :
    pipeline.run now authorization base = ⟨.error raised, [], []⟩ := by
  simp only [run, stopped]

theorem identify_of_identifies {token identifier : Text} {claims : Entries Json}
    (identifies : Identifies pipeline now authorization token claims identifier) :
    identify pipeline.kind pipeline.secret now authorization =
      .ok ⟨identifier, pipeline.kind, accountOf claims⟩ :=
  identify_eq_ok_iff.2 ⟨token, claims, identifier, identifies, rfl⟩

theorem run_eq_of_resolve_error {identity : Identity} {raised : Raised}
    (identified : identify pipeline.kind pipeline.secret now authorization = .ok identity)
    (refused : (Resolution.resolve pipeline.stores identity.identifier pipeline.kind).result =
      .error raised) :
    pipeline.run now authorization base =
      ⟨.error raised,
        (Resolution.resolve pipeline.stores identity.identifier pipeline.kind).calls,
        (Resolution.resolve pipeline.stores identity.identifier pipeline.kind).logs⟩ := by
  simp only [run, identified, refused]

theorem StopsAt.run_result {stage : Stage} {raised : Raised}
    (stops : StopsAt pipeline now authorization stage raised) :
    (pipeline.run now authorization base).result = .error raised := by
  cases stops with
  | extract refused => exact run_of_identify_error (identify_of_token_error refused)
  | verify presents refused =>
      exact run_of_identify_error (identify_of_verify_error presents refused)
  | validate presents verified refused =>
      exact run_of_identify_error (identify_of_ofClaims_error presents verified refused)
  | resolve identifies refused => exact run_of_resolve_error identifies refused

theorem exists_stopsAt_of_identify_error {raised : Raised}
    (stopped : identify pipeline.kind pipeline.secret now authorization = .error raised) :
    ∃ stage, StopsAt pipeline now authorization stage raised := by
  unfold identify Token.decode at stopped
  cases presented : Credential.token authorization with
  | error failure =>
      simp only [presented, Except.error.injEq] at stopped
      subst stopped
      exact ⟨_, .extract presented⟩
  | ok token =>
      simp only [presented] at stopped
      have presents := Credential.token_eq_ok_iff.1 presented
      cases verified : Token.verify now pipeline.secret token with
      | error own =>
          simp only [verified, Except.error.injEq] at stopped
          subst stopped
          exact ⟨_, .verify presents verified⟩
      | ok claims =>
          simp only [verified] at stopped
          cases established : Identity.ofClaims claims pipeline.kind with
          | error failure =>
              simp only [established, Except.error.injEq] at stopped
              subst stopped
              exact ⟨_, .validate presents verified established⟩
          | ok identity => simp [established] at stopped

/-- A run raises something exactly when it stops with it at some stage. -/
theorem run_eq_error_iff {raised : Raised} :
    (pipeline.run now authorization base).result = .error raised ↔
      ∃ stage, StopsAt pipeline now authorization stage raised := by
  constructor
  · intro stopped
    cases identified : identify pipeline.kind pipeline.secret now authorization with
    | error own =>
        rw [run_of_identify_error identified, Except.error.injEq] at stopped
        subst stopped
        exact exists_stopsAt_of_identify_error identified
    | ok identity =>
        -- The first three stages have passed, so that only the store can have stopped the run.
        rcases identify_eq_ok_iff.1 identified with ⟨token, claims, identifier, identifies, rfl⟩
        cases resolved : (Resolution.resolve pipeline.stores identifier pipeline.kind).result with
        | error own =>
            rw [run_of_resolve_error identifies resolved, Except.error.injEq] at stopped
            subst stopped
            exact ⟨_, .resolve identifies resolved⟩
        | ok record => simp [run, identified, resolved] at stopped
  · rintro ⟨stage, stops⟩
    exact stops.run_result

/-- A run that stops at a stage is the same whatever later stages would do. -/
theorem StopsAt.run_congr {stage : Stage} {raised : Raised} {other : Pipeline} {later : Int}
    {otherBase : Context} (stops : StopsAt pipeline now authorization stage raised)
    (shares : SharesUpTo stage pipeline now other later) :
    other.run later authorization otherBase = pipeline.run now authorization base := by
  cases stops with
  | extract refused =>
      rw [run_eq_of_identify_error (identify_of_token_error refused),
        run_eq_of_identify_error (identify_of_token_error refused)]
  | verify presents refused =>
      rcases shares with ⟨sameSecret, rfl⟩
      have otherRefused := refused
      rw [← sameSecret] at otherRefused
      rw [run_eq_of_identify_error (identify_of_verify_error presents refused),
        run_eq_of_identify_error (identify_of_verify_error presents otherRefused)]
  | validate presents verified refused =>
      rcases shares with ⟨sameSecret, rfl, sameKind⟩
      have otherVerified := verified
      have otherRefused := refused
      rw [← sameSecret] at otherVerified
      rw [← sameKind] at otherRefused
      rw [run_eq_of_identify_error (identify_of_ofClaims_error presents verified refused),
        run_eq_of_identify_error (identify_of_ofClaims_error presents otherVerified otherRefused)]
  | @resolve _ _ identifier _ identifies refused =>
      -- Only here do the stores matter, and of them only the one of the kind.
      rcases shares with ⟨sameSecret, rfl, sameKind, sameStore⟩
      have identified := identify_of_identifies identifies
      have otherIdentified := identified
      rw [← sameSecret, ← sameKind] at otherIdentified
      have agree : Resolution.AgreeOn pipeline.stores other.stores pipeline.kind identifier := by
        rw [Resolution.AgreeOn, sameStore]
      have resolved := Resolution.resolve_congr agree
      rw [← sameKind] at resolved
      rw [run_eq_of_resolve_error identified refused,
        run_eq_of_resolve_error otherIdentified (by rw [resolved, sameKind, refused]), resolved,
        sameKind]

theorem calls_of_identifies {token identifier : Text} {claims : Entries Json}
    (supported : pipeline.stores.supports pipeline.kind = true)
    (identifies : Identifies pipeline now authorization token claims identifier) :
    (pipeline.run now authorization base).calls = [(pipeline.kind, identifier)] := by
  have identified := identify_of_identifies identifies
  rw [← Resolution.calls_resolve supported]
  cases resolved : (Resolution.resolve pipeline.stores identifier pipeline.kind).result with
  | error raised => rw [run_eq_of_resolve_error identified resolved]
  | ok record => simp only [run, identified, resolved]

theorem calls_of_not_identifies
    (unknown : ¬∃ token claims identifier,
      Identifies pipeline now authorization token claims identifier) :
    (pipeline.run now authorization base).calls = [] := by
  cases identified : identify pipeline.kind pipeline.secret now authorization with
  | error raised => rw [run_eq_of_identify_error identified]
  | ok identity =>
      rcases identify_eq_ok_iff.1 identified with ⟨token, claims, identifier, identifies, _⟩
      exact absurd ⟨token, claims, identifier, identifies⟩ unknown

/-- Of the stores only the answer to the identifier matters, if the first three stages find one,
and nothing at all if they do not. -/
theorem run_congr_stores {others : Stores}
    (agree : ∀ token claims identifier,
      Identifies pipeline now authorization token claims identifier →
        Resolution.AgreeOn pipeline.stores others pipeline.kind identifier) :
    run { pipeline with stores := others } now authorization base =
      pipeline.run now authorization base := by
  cases identified : identify pipeline.kind pipeline.secret now authorization with
  | error raised => simp only [run, identified]
  | ok identity =>
      rcases identify_eq_ok_iff.1 identified with ⟨token, claims, identifier, identifies, rfl⟩
      simp only [run, identified, Resolution.resolve_congr (agree _ _ _ identifies)]

theorem supports_of_build {kind : PrincipalKind} {secret : Text} {stores : Stores}
    (built : Pipeline.build kind secret stores = .ok pipeline) :
    pipeline.stores.supports pipeline.kind = true := by
  unfold Pipeline.build at built
  split at built
  · cases built
  · split at built
    · cases built
    · rename_i supported
      cases built
      simpa using supported

/-- A failed check of another stage than the one at which stores are asked. -/
def foreignCheck : Raised := .failure (.of .wrongTokenKind [])

/-- A store that raises a failed check. -/
def brokenStores : Stores :=
  ⟨some (.constant (.raised foreignCheck)), none⟩

end Pipeline

end FleetGate
