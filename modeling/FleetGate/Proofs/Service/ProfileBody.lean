import FleetGate.Proofs.Auth.Stages
import FleetGate.Proofs.Http.Bodies
import FleetGate.Proofs.Token.Lifetime
import FleetGate.Service.Endpoint

/-!
# The body of a profile

A profile shows a principal, all of whose fields are flags and texts, and the account claim of a
token, which has been read from the payload and so is tidy. What a client finds in the body is both,
the account without infinities and NaN.
-/

namespace FleetGate

namespace Token

variable {now : Int} {secret token name : Text} {claims : Entries Json} {value : Json}

/-- The claims of an accepted token are tidy. -/
theorem isTidy_of_verify (accepted : verify now secret token = .ok claims)
    (found : Entries.find name claims = some value) : value.IsTidy := by
  rcases exists_payload_of_verify accepted with ⟨payload, _, ⟨chars, _, isRead⟩, _⟩
  rcases Json.read_eq_readWhole .values (chars.map .scalar) with whole | ⟨remaining, stopped⟩
  · rw [whole] at isRead
    cases Json.isTidy_of_readWhole isRead with
    | object _ all => exact all _ (Entries.mem_of_find found)
  · rw [stopped] at isRead
    cases isRead

/-- So is the account claim, or null in its place. -/
theorem isTidy_accountOf (accepted : verify now secret token = .ok claims) :
    (Pipeline.accountOf claims).IsTidy := by
  cases found : Entries.find "account" claims with
  | none =>
      rw [Pipeline.accountOf, found]
      exact .null
  | some value =>
      rw [Pipeline.accountOf, found]
      exact isTidy_of_verify accepted found

end Token

namespace Principal

theorem isTidy_fields (principal : Principal) : (Json.object principal.fields).IsTidy := by
  cases principal with
  | driver record =>
      refine .object (by simp only [fields, Driver.fields, List.map_cons, List.map_nil]; decide) ?_
      simp [fields, Driver.fields, Json.IsTidy.string, Json.IsTidy.bool]
  | user record =>
      refine .object (by simp only [fields, User.fields, List.map_cons, List.map_nil]; decide) ?_
      have permissions : (Json.array (record.permissions.map fun permission =>
          .string (Vocabulary.text permission))).IsTidy := by
        refine .array ?_
        simp [Json.IsTidy.string]
      simp [fields, User.fields, Json.IsTidy.string, Json.IsTidy.bool, permissions]

/-- There is no number in a principal. -/
theorem finiteFields_fields (principal : Principal) :
    Json.finiteFields principal.fields = principal.fields := by
  apply Json.finiteFields_of_allFinite
  cases principal with
  | driver record => rfl
  | user record =>
      have permissions : Json.allFiniteItems (record.permissions.map fun permission =>
          .string (Vocabulary.text permission)) = true := by
        simp [Json.allFiniteItems_eq, Json.allFinite]
      simp [fields, User.fields, Json.allFiniteFields, Json.allFinite, permissions]

end Principal

namespace Service

variable {kind : PrincipalKind} {principal : Principal} {account : Json}

theorem isTidy_profileBody (tidy : account.IsTidy) :
    (profileBody kind principal (.data account)).IsTidy := by
  have distinct : ([Vocabulary.text kind, "account"] : List Text).Nodup := by
    cases kind <;> decide
  refine .object distinct ?_
  simp [principal.isTidy_fields, tidy]

theorem finitePart_profileBody :
    (profileBody kind principal (.data account)).finitePart =
      profileBody kind principal (.data account.finitePart) := by
  simp [profileBody, Json.finitePart, Json.finiteFields, principal.finiteFields_fields]

/-- A client reads the principal in a profile, and what is finite in the account. -/
theorem readsAs_of_ofRecord_profileBody {status : Status} {response : Response}
    (tidy : account.IsTidy)
    (made : Response.ofRecord status (profileBody kind principal (.data account)) =
      .ok response) :
    response.ReadsAs (profileBody kind principal (.data account.finitePart)) := by
  rw [← finitePart_profileBody]
  exact Response.readsAs_of_ofRecord (isTidy_profileBody tidy) made

theorem exists_ofRecord_profileBody {status : Status} (tidy : account.IsTidy)
    (fits : (profileBody kind principal (.data account)).recordFlaw? = none) :
    ∃ response,
      Response.ofRecord status (profileBody kind principal (.data account)) = .ok response ∧
        response.status = status ∧ response.trailing = none :=
  Response.exists_ofRecord (isTidy_profileBody tidy) fits

end Service

end FleetGate
