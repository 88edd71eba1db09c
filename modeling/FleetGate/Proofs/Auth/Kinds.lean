import FleetGate.Proofs.Auth.Order
import FleetGate.Proofs.Token.Validity

/-!
# Two kinds of principal

A credential is good for one kind of principal at most. What a token claims does not depend on the
time at which it is verified, so two pipelines with one secret judge the same claims, and these name
one kind. Neither do the stores mix: a run asks the store of its own kind or none, and what the
other store holds makes no difference to it.
-/

namespace FleetGate

theorem PrincipalKind.text_injective {kind other : PrincipalKind}
    (same : Vocabulary.text kind = Vocabulary.text other) : kind = other := by
  revert same
  cases kind <;> cases other <;> decide

/-- The clock decides whether a token is accepted, but not what it claims. -/
theorem Token.claims_unique {now later : Int} {secret token : Text} {claims others : Entries Json}
    (verified : verify now secret token = .ok claims)
    (verifiedLater : verify later secret token = .ok others) : claims = others := by
  rw [verify_eq] at verified verifiedLater
  cases found : verifiedPayload secret token with
  | error raised =>
      rw [found] at verified
      cases verified
  | ok payload =>
      rw [found] at verified verifiedLater
      rcases judge_eq_ok_iff.1 verified with ⟨holds, _⟩
      rcases judge_eq_ok_iff.1 verifiedLater with ⟨holdsLater, _⟩
      have read := readClaims_eq_ok_iff.2 holds
      rw [readClaims_eq_ok_iff.2 holdsLater] at read
      cases read
      rfl

theorem Credential.token_unique {authorization : Option Text} {token other : Text}
    (presents : Presents authorization token) (presentsOther : Presents authorization other) :
    token = other := by
  have found := token_eq_ok_iff.2 presents
  rw [token_eq_ok_iff.2 presentsOther] at found
  cases found
  rfl

theorem Resolution.kind_of_mem_calls {stores : Stores} {identifier : Text} {kind : PrincipalKind}
    {call : PrincipalKind × Text}
    (called : call ∈ (Resolution.resolve stores identifier kind).calls) : call.1 = kind := by
  unfold Resolution.resolve at called
  split at called
  · cases called
  · rw [List.mem_singleton.1 called]

namespace Pipeline

variable {pipeline other : Pipeline} {now later : Int} {authorization : Option Text}
  {base : Context}

/-- Pipelines with one secret that both find a principal behind a credential are of one kind. -/
theorem Identifies.kind_eq {token otherToken identifier otherIdentifier : Text}
    {claims otherClaims : Entries Json} (sameSecret : other.secret = pipeline.secret)
    (identifies : Identifies pipeline now authorization token claims identifier)
    (identifiesOther : Identifies other later authorization otherToken otherClaims
      otherIdentifier) : other.kind = pipeline.kind := by
  have sameToken := Credential.token_unique identifies.presents identifiesOther.presents
  subst sameToken
  have verified := identifiesOther.verified
  rw [sameSecret] at verified
  have sameClaims := Token.claims_unique identifies.verified verified
  subst sameClaims
  have ofKind := identifiesOther.ofKind
  rw [identifies.ofKind] at ofKind
  apply PrincipalKind.text_injective
  simpa using ofKind.symm

theorem kind_eq_of_runs {context otherContext otherBase : Context}
    (sameSecret : other.secret = pipeline.secret)
    (succeeds : (pipeline.run now authorization base).result = .ok context)
    (succeedsOther : (other.run later authorization otherBase).result = .ok otherContext) :
    other.kind = pipeline.kind := by
  rcases run_eq_ok_iff.1 succeeds with ⟨_, _, _, _, admits, _⟩
  rcases run_eq_ok_iff.1 succeedsOther with ⟨_, _, _, _, admitsOther, _⟩
  exact admits.toIdentifies.kind_eq sameSecret admitsOther.toIdentifies

/-- A run asks no store but the one of its kind. -/
theorem kind_of_mem_calls {call : PrincipalKind × Text}
    (called : call ∈ (pipeline.run now authorization base).calls) : call.1 = pipeline.kind := by
  cases identified : identify pipeline.kind pipeline.secret now authorization with
  | error raised =>
      rw [run_eq_of_identify_error identified] at called
      cases called
  | ok identity =>
      have asked : call ∈
          (Resolution.resolve pipeline.stores identity.identifier pipeline.kind).calls := by
        simp only [run, identified] at called
        split at called <;> exact called
      exact Resolution.kind_of_mem_calls asked

/-- What the store of another kind holds makes no difference to a run. -/
theorem run_congr_other {others : Stores}
    (same : others.get? pipeline.kind = pipeline.stores.get? pipeline.kind) :
    run { pipeline with stores := others } now authorization base =
      pipeline.run now authorization base := by
  apply run_congr_stores
  intro token claims identifier _
  rw [Resolution.AgreeOn, same]

/-- No credential lets a driver and a user in under one secret, whenever they come and whatever
the stores hold, and the pipeline of either kind leaves the store of the other one alone. -/
theorem kinds_keep_apart (secret : Text) (authorization : Option Text) (now later : Int)
    (stores others : Stores) (base otherBase : Context) :
    (∀ context otherContext,
      ¬((run ⟨.driver, secret, stores⟩ now authorization base).result = .ok context ∧
        (run ⟨.user, secret, others⟩ later authorization otherBase).result = .ok otherContext)) ∧
      (∀ call ∈ (run ⟨.driver, secret, stores⟩ now authorization base).calls,
        call.1 = .driver) ∧
      (∀ call ∈ (run ⟨.user, secret, others⟩ later authorization otherBase).calls,
        call.1 = .user) ∧
      (∀ users, run ⟨.driver, secret, { stores with users := users }⟩ now authorization base =
        run ⟨.driver, secret, stores⟩ now authorization base) ∧
      ∀ drivers,
        run ⟨.user, secret, { others with drivers := drivers }⟩ later authorization otherBase =
          run ⟨.user, secret, others⟩ later authorization otherBase := by
  refine ⟨?_, ?_, ?_, ?_, ?_⟩
  · rintro context otherContext ⟨succeeds, succeedsOther⟩
    have same := @kind_eq_of_runs ⟨.driver, secret, stores⟩ ⟨.user, secret, others⟩ _ _ _ _ _ _ _
      rfl succeeds succeedsOther
    cases same
  · intro call called
    exact kind_of_mem_calls called
  · intro call called
    exact kind_of_mem_calls called
  · intro users
    exact @run_congr_other ⟨.driver, secret, stores⟩ now authorization base _ rfl
  · intro drivers
    exact @run_congr_other ⟨.user, secret, others⟩ later authorization otherBase _ rfl

/-- A pipeline for a kind of principal whose stores find the same record for everybody. -/
def undiscerning (kind : PrincipalKind) : Pipeline :=
  ⟨kind, "s", ⟨some (.constant (.found (.data (.bool true)))),
    some (.constant (.found (.data (.bool true))))⟩⟩

theorem driverToken_for_drivers :
    (∃ context, ((undiscerning .driver).run 0 (some ("Bearer " ++ Token.driverToken))
        .empty).result = .ok context) ∧
      (∃ call ∈ ((undiscerning .driver).run 0 (some ("Bearer " ++ Token.driverToken)) .empty).calls,
        call = (PrincipalKind.driver, Text.ofString "D1") ∧ call.1 = .driver) ∧
      ∀ context, ((undiscerning .user).run 7 (some ("Bearer " ++ Token.driverToken))
        .empty).result ≠ .ok context := by
  rcases Token.exists_claims_driverToken with ⟨claims, verified, ofKind, named⟩
  have identifies : Identifies (undiscerning .driver) 0 (some ("Bearer " ++ Token.driverToken))
      Token.driverToken claims "D1" :=
    ⟨⟨_, rfl, by decide +kernel⟩, verified, ofKind, named⟩
  have succeeds := (@run_eq_ok_iff (undiscerning .driver) 0
    (some ("Bearer " ++ Token.driverToken)) .empty _).2
      ⟨_, _, _, _, ⟨identifies, ⟨_, rfl, rfl⟩, rfl⟩, rfl⟩
  have called := @calls_of_identifies _ 0 _ .empty _ _ _ rfl identifies
  rcases kinds_keep_apart "s" (some ("Bearer " ++ Token.driverToken)) 0 7
    (undiscerning .driver).stores (undiscerning .user).stores .empty .empty with
    ⟨apart, own, _⟩
  have asked : (PrincipalKind.driver, Text.ofString "D1") ∈
      ((undiscerning .driver).run 0 (some ("Bearer " ++ Token.driverToken)) .empty).calls := by
    rw [called]
    exact List.mem_singleton_self _
  refine ⟨⟨_, succeeds⟩, ⟨_, asked, rfl, own _ asked⟩, ?_⟩
  intro context succeedsOther
  exact apart _ context ⟨succeeds, succeedsOther⟩

end Pipeline

end FleetGate
