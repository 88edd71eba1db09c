import FleetGate.Auth.Layer
import FleetGate.Proofs.Token.Verify

/-!
# What the stages of authentication need

A credential presents a token, the token yields claims, the claims name a principal, and the store
of the kind finds a record. `Pipeline.Identifies` says that the first three stages pass and with
what, `Pipeline.Admits` that all of them do. A pipeline puts a record into the context exactly when
it admits it.
-/

namespace FleetGate

namespace Credential

/-- The header value is the word `Bearer` and a token, apart from white space. -/
def Presents (authorization : Option Text) (token : Text) : Prop :=
  ∃ value, authorization = some value ∧ value.splitBlank = [scheme, token]

theorem token_eq_ok_iff {authorization : Option Text} {own : Text} :
    token authorization = .ok own ↔ Presents authorization own := by
  unfold token Presents
  split
  · simp
  · have noWords : Text.splitBlank [] = [] := rfl
    simp [noWords]
  · rename_i value _
    simp only [Option.some.injEq, exists_eq_left']
    split
    · rename_i word other words
      by_cases isScheme : word = scheme
      · simp [isScheme, words]
      · simp [isScheme, words]
    · rename_i words
      refine iff_of_false (by simp) (words scheme own)

end Credential

theorem Credential.isPlain_of_token {authorization : Option Text} {failure : AuthFailure}
    (refused : Credential.token authorization = .error failure) :
    Raised.IsPlain (.failure failure) := by
  have plain (kind : FailureKind) (detail : String) :
      Raised.IsPlain (.failure (.of kind (Text.ofString detail))) :=
    ⟨kind, _, _, Text.isScalar_ofString detail, Text.isScalar_ofString _, rfl⟩
  unfold Credential.token at refused
  split at refused
  · cases refused
    exact plain _ _
  · cases refused
    exact plain _ _
  · split at refused
    · split at refused
      · cases refused
      · cases refused
        exact plain _ _
    · cases refused
      exact plain _ _

namespace Identity

/-- Claims establish an identity of a kind when they name the kind and hold its identifier. -/
theorem ofClaims_eq_ok_iff {claims : Entries Json} {kind : PrincipalKind} {identity : Identity} :
    ofClaims claims kind = .ok identity ↔
      Entries.find "type" claims = some (.string (Vocabulary.text kind)) ∧
        ∃ identifier, Entries.find (Text.ofString kind.identifierClaim) claims =
            some (.string identifier) ∧
          identity = ⟨identifier, kind, (Entries.find "account" claims).getD .null⟩ := by
  unfold ofClaims
  split
  · rename_i tokenType found
    by_cases ofKind : tokenType = Vocabulary.text kind
    · simp only [found, ofKind, if_true, true_and]
      split
      · rename_i identifier named
        rw [named, Except.ok.injEq]
        constructor
        · rintro rfl
          exact ⟨identifier, rfl, rfl⟩
        · rintro ⟨_, same, rfl⟩
          cases same
          rfl
      · rename_i notNamed
        refine iff_of_false (by simp) ?_
        rintro ⟨identifier, named, _⟩
        exact notNamed identifier named
    · simp [found, ofKind]
  · rename_i notText
    refine iff_of_false (by simp) ?_
    rintro ⟨found, _⟩
    exact notText _ found

theorem isPlain_of_ofClaims {claims : Entries Json} {kind : PrincipalKind} {failure : AuthFailure}
    (refused : ofClaims claims kind = .error failure) : Raised.IsPlain (.failure failure) := by
  have wrongKind : Raised.IsPlain (.failure (.of .wrongTokenKind "invalid token type")) :=
    ⟨_, _, _, Text.isScalar_ofString _, Text.isScalar_ofString _, rfl⟩
  unfold ofClaims at refused
  split at refused
  · split at refused
    · split at refused
      · cases refused
      · cases refused
        cases kind <;> exact ⟨_, _, _, by simp, by simp, rfl⟩
    · cases refused
      exact wrongKind
  · cases refused
    exact wrongKind

end Identity

namespace Resolution

theorem ofAnswer_eq_ok_iff {kind : PrincipalKind} {identifier : Text} {answer : StoreAnswer}
    {record : Value} :
    (ofAnswer kind identifier answer).1 = .ok record ↔
      answer = .found record ∧ record.isSomething = true := by
  cases answer with
  | found other =>
      rw [ofAnswer]
      by_cases something : other.isSomething = true
      · simp only [something, if_true, Except.ok.injEq, StoreAnswer.found.injEq]
        constructor
        · rintro rfl
          exact ⟨rfl, something⟩
        · exact fun same => same.1
      · simp only [something, StoreAnswer.found.injEq]
        refine iff_of_false (by simp) ?_
        rintro ⟨rfl, isSomething⟩
        exact something isSomething
  | absent => simp [ofAnswer]
  | raised raised =>
      rw [ofAnswer]
      split <;> simp

/-- The store of a kind gives an answer to an identifier. -/
def Answers (stores : Stores) (kind : PrincipalKind) (identifier : Text) (answer : StoreAnswer) :
    Prop :=
  ∃ store, stores.get? kind = some store ∧ (store.lookup identifier).1 = answer

theorem resolve_result {stores : Stores} {kind : PrincipalKind} {identifier : Text}
    {answer : StoreAnswer} (answers : Answers stores kind identifier answer) :
    (resolve stores identifier kind).result = (ofAnswer kind identifier answer).1 := by
  rcases answers with ⟨store, registered, rfl⟩
  simp [resolve, registered]

/-- An error of a store is the cause of the failure that it comes out as. -/
theorem resolve_of_raised {stores : Stores} {kind : PrincipalKind} {identifier : Text}
    {raised : Raised} (answers : Answers stores kind identifier (.raised raised))
    (isError : raised.isError = true) :
    (resolve stores identifier kind).result =
      .error (.failure ((notFound kind (storeDetail raised)).because raised)) := by
  rw [resolve_result answers, ofAnswer, if_pos isError]

/-- A principal is resolved when the store of the kind finds something. -/
theorem resolve_eq_ok_iff {stores : Stores} {kind : PrincipalKind} {identifier : Text}
    {record : Value} :
    (resolve stores identifier kind).result = .ok record ↔
      Answers stores kind identifier (.found record) ∧ record.isSomething = true := by
  cases registered : stores.get? kind with
  | none => simp [resolve, Answers, registered]
  | some store =>
      have answers : Answers stores kind identifier (store.lookup identifier).1 :=
        ⟨store, registered, rfl⟩
      rw [resolve_result answers, ofAnswer_eq_ok_iff]
      simp [Answers, registered]

end Resolution

namespace Context

/-- Attaching sets three keys and leaves all others alone. -/
theorem get?_attach (base : Context) (principal identifier account : Value) (key : Text) :
    (base.attach principal identifier account).get? key =
      if key = principalKey then some principal
      else if key = identifierKey then some identifier
      else if key = accountKey then some account
      else base.get? key := by
  have identifier_ne : principalKey ≠ identifierKey := by decide
  have account_ne : principalKey ≠ accountKey := by decide
  have other_ne : identifierKey ≠ accountKey := by decide
  simp only [get?, attach, extend, Entries.putAll, List.foldl_cons, List.foldl_nil,
    Entries.find_put]
  by_cases isPrincipal : key = principalKey
  · simp [isPrincipal, identifier_ne, account_ne]
  · by_cases isIdentifier : key = identifierKey
    · simp [isIdentifier, other_ne, identifier_ne.symm]
    · simp [isPrincipal, isIdentifier]

end Context

namespace Pipeline

variable {pipeline : Pipeline} {now : Int} {authorization : Option Text}

/-- A credential presents a token that is valid now, and its claims name a principal of the kind
of the pipeline. -/
structure Identifies (pipeline : Pipeline) (now : Int) (authorization : Option Text)
    (token : Text) (claims : Entries Json) (identifier : Text) : Prop where
  presents : Credential.Presents authorization token
  verified : Token.verify now pipeline.secret token = .ok claims
  ofKind : Entries.find "type" claims = some (.string (Vocabulary.text pipeline.kind))
  named : Entries.find (Text.ofString pipeline.kind.identifierClaim) claims =
    some (.string identifier)

/-- The store of the kind also finds a record of the principal. -/
structure Admits (pipeline : Pipeline) (now : Int) (authorization : Option Text)
    (token : Text) (claims : Entries Json) (identifier : Text) (record : Value) : Prop
    extends Identifies pipeline now authorization token claims identifier where
  found : Resolution.Answers pipeline.stores pipeline.kind identifier (.found record)
  something : record.isSomething = true

/-- The account claim, or null. -/
def accountOf (claims : Entries Json) : Json :=
  (Entries.find "account" claims).getD .null

/-- The first three stages establish an identity exactly when the pipeline identifies one. -/
theorem identify_eq_ok_iff {identity : Identity} :
    identify pipeline.kind pipeline.secret now authorization = .ok identity ↔
      ∃ token claims identifier,
        Identifies pipeline now authorization token claims identifier ∧
          identity = ⟨identifier, pipeline.kind, accountOf claims⟩ := by
  constructor
  · intro identified
    unfold identify Token.decode at identified
    cases presented : Credential.token authorization with
    | error failure => simp [presented] at identified
    | ok token =>
        simp only [presented] at identified
        cases verified : Token.verify now pipeline.secret token with
        | error raised => simp [verified] at identified
        | ok claims =>
            simp only [verified] at identified
            cases established : Identity.ofClaims claims pipeline.kind with
            | error failure => simp [established] at identified
            | ok own =>
                simp only [established, Except.ok.injEq] at identified
                subst identified
                rcases Identity.ofClaims_eq_ok_iff.1 established with
                  ⟨ofKind, identifier, named, same⟩
                exact ⟨token, claims, identifier,
                  ⟨Credential.token_eq_ok_iff.1 presented, verified, ofKind, named⟩, same⟩
  · rintro ⟨token, claims, identifier, identifies, rfl⟩
    have established : Identity.ofClaims claims pipeline.kind =
        .ok ⟨identifier, pipeline.kind, accountOf claims⟩ :=
      Identity.ofClaims_eq_ok_iff.2 ⟨identifies.ofKind, identifier, identifies.named, rfl⟩
    simp only [identify, Token.decode, Credential.token_eq_ok_iff.2 identifies.presents,
      identifies.verified, established]

/-- A run ends with a context exactly when the pipeline admits a record, which is then in it. -/
theorem run_eq_ok_iff {base context : Context} :
    (pipeline.run now authorization base).result = .ok context ↔
      ∃ token claims identifier record,
        Admits pipeline now authorization token claims identifier record ∧
          context = base.attach record (.data (.string identifier))
            (.data (accountOf claims)) := by
  constructor
  · intro succeeded
    unfold run at succeeded
    cases identified : identify pipeline.kind pipeline.secret now authorization with
    | error raised => simp [identified] at succeeded
    | ok identity =>
        rcases identify_eq_ok_iff.1 identified with ⟨token, claims, identifier, identifies, rfl⟩
        simp only [identified] at succeeded
        cases resolved : (Resolution.resolve pipeline.stores identifier pipeline.kind).result with
        | error raised => simp [resolved] at succeeded
        | ok record =>
            rcases Resolution.resolve_eq_ok_iff.1 resolved with ⟨found, something⟩
            simp only [resolved, Except.ok.injEq] at succeeded
            exact ⟨token, claims, identifier, record, ⟨identifies, found, something⟩,
              succeeded.symm⟩
  · rintro ⟨token, claims, identifier, record, admits, rfl⟩
    have identified := identify_eq_ok_iff.2
      ⟨token, claims, identifier, admits.toIdentifies, rfl⟩
    have resolved := Resolution.resolve_eq_ok_iff.2 ⟨admits.found, admits.something⟩
    simp only [run, identified, resolved]

theorem run_of_identify_error {base : Context} {raised : Raised}
    (stopped : identify pipeline.kind pipeline.secret now authorization = .error raised) :
    (pipeline.run now authorization base).result = .error raised := by
  simp only [run, stopped]

theorem run_of_resolve_error {base : Context} {token identifier : Text} {claims : Entries Json}
    {raised : Raised} (identifies : Identifies pipeline now authorization token claims identifier)
    (stopped : (Resolution.resolve pipeline.stores identifier pipeline.kind).result =
      .error raised) :
    (pipeline.run now authorization base).result = .error raised := by
  have identified := identify_eq_ok_iff.2 ⟨token, claims, identifier, identifies, rfl⟩
  simp only [run, identified, stopped]

end Pipeline

end FleetGate
