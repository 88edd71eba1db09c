import FleetGate.Fault
import FleetGate.Json.Writer
import FleetGate.Validation

/-!
# Authentication failures

Each check of a request fails in its own way, and each kind of failure belongs to one stage. A
failure carries a message for the client, a detail for diagnosis and the error of a store that it
stands for, if there is one. On the wire it is an object with the status code 401, the message and
the detail; older clients get some kinds without the code.
-/

namespace FleetGate

/-- What went wrong, one kind per check. -/
inductive FailureKind where
  | missingCredential
  | malformedCredential
  | signatureInvalid
  | tokenExpiredOrInvalid
  | wrongTokenKind
  | missingIdentifier
  | principalNotFound
  deriving DecidableEq, Repr

/-- The checks of a request, in the order in which they run. -/
inductive Stage where
  | extractCredential
  | decodeAndVerify
  | validateClaims
  | resolvePrincipal
  deriving DecidableEq, Repr

/-- The name of a stage. -/
def Stage.name : Stage → String
  | extractCredential => "extract_credential"
  | decodeAndVerify => "decode_and_verify"
  | validateClaims => "validate_claims"
  | resolvePrincipal => "resolve_principal"

namespace FailureKind

/-- The code of a kind in error bodies and logs. -/
def code : FailureKind → String
  | missingCredential => "missing_credential"
  | malformedCredential => "malformed_credential"
  | signatureInvalid => "signature_invalid"
  | tokenExpiredOrInvalid => "token_expired_or_invalid"
  | wrongTokenKind => "wrong_token_kind"
  | missingIdentifier => "missing_identifier"
  | principalNotFound => "principal_not_found"

/-- The name of a kind as an error. -/
def name : FailureKind → String
  | missingCredential => "MissingCredential"
  | malformedCredential => "MalformedCredential"
  | signatureInvalid => "SignatureInvalid"
  | tokenExpiredOrInvalid => "TokenExpiredOrInvalid"
  | wrongTokenKind => "WrongTokenKind"
  | missingIdentifier => "MissingIdentifier"
  | principalNotFound => "PrincipalNotFound"

theorem name_ne_empty (kind : FailureKind) : kind.name ≠ "" := by
  cases kind <;> decide

/-- All kinds. -/
def all : List FailureKind :=
  [missingCredential, malformedCredential, signatureInvalid, tokenExpiredOrInvalid,
    wrongTokenKind, missingIdentifier, principalNotFound]

/-- The kind of a name. -/
def ofName? (name : Text) : Option FailureKind :=
  all.find? fun kind => Text.ofString kind.name = name

/-- The stage at which a kind is found. -/
def stage : FailureKind → Stage
  | missingCredential | malformedCredential => .extractCredential
  | signatureInvalid | tokenExpiredOrInvalid => .decodeAndVerify
  | wrongTokenKind | missingIdentifier => .validateClaims
  | principalNotFound => .resolvePrincipal

/-- What a client is told unless the check has something better to say. -/
def defaultMessage : FailureKind → String
  | missingCredential => "Missing authorization header"
  | malformedCredential => "Invalid authorization format"
  | signatureInvalid => "Invalid token"
  | tokenExpiredOrInvalid => "Token expired or invalid"
  | wrongTokenKind => "Invalid token type"
  | missingIdentifier => "Missing principal ID in token"
  | principalNotFound => "Principal does not exist"

/-- The detail of the kinds that have only one. -/
def defaultDetail? : FailureKind → Option String
  | missingCredential => some "missing authorization header"
  | malformedCredential => some "invalid authorization format"
  | wrongTokenKind => some "invalid token type"
  | _ => none

/-- Older clients do not expect a code for these kinds. -/
def legacyCodeless : FailureKind → Bool
  | missingCredential | malformedCredential | missingIdentifier | principalNotFound => true
  | _ => false

end FailureKind

/-- An error of the service with a name, a code, a message, a status and details. -/
structure ServiceError where
  name : ErrorName
  code : Json
  message : Json
  status : Json
  details : Json

namespace ServiceError

/-- The name of the errors that are given by their parts. -/
def generalName : ErrorName := ⟨"DispatchAPIException", by decide⟩

/-- The name of the errors about missing credentials. -/
def unauthorizedName : ErrorName := ⟨"UnauthorizedException", by decide⟩

/-- An error from its parts; details that say nothing are an empty object. -/
def make (code message status details : Json) : ServiceError :=
  ⟨generalName, code, message, status, if details.truthy then details else .object []⟩

/-- The object sent to the client for an error that is given by its parts; here, too, details that
say nothing are left out. -/
def payloadOf (code message details : Json) : Json :=
  let fields : Entries Json := [("error", code), ("message", message)]
  let more : Entries Json := [("details", details)]
  .object (if details.truthy then fields ++ more else fields)

/-- A request without valid credentials. -/
def unauthorized (message : Json) : ServiceError :=
  ⟨unauthorizedName, "unauthorized", message, .int 401, .object []⟩

/-- The message of an unauthorized request that has nothing better to say. -/
def defaultUnauthorized : Text := "Valid token required"

/-- The object sent to the client; details that say nothing are left out. -/
def payload (error : ServiceError) : Json :=
  let fields : Entries Json := [("error", error.code), ("message", error.message)]
  let details : Entries Json := [("details", error.details)]
  .object (if error.details.truthy then fields ++ details else fields)

/-- The body sent to the client. -/
def body (error : ServiceError) : Text :=
  error.payload.write .compact

end ServiceError

mutual

/-- A failed check. The checks themselves give texts as detail and message. A failure that stands
for the error of a store has this error as its cause. -/
structure AuthFailure where
  kind : FailureKind
  detail : Json
  message : Json
  cause : Option Raised

/-- Whatever can come out of a step instead of its result. A step is cancelled from within, with a
message, and abandoned from without, when nobody waits for the request any more. -/
inductive Raised where
  | failure (failure : AuthFailure)
  | service (error : ServiceError)
  | fault (fault : Fault)
  | rejected (rejection : Rejection)
  | cancelled (message : Text)
  | abandoned

end

namespace AuthFailure

/-- A failure with a message of its own; a message that says nothing gives way to the default. -/
def make (kind : FailureKind) (detail message : Json) : AuthFailure :=
  ⟨kind, detail, if message.truthy then message else kind.defaultMessage, none⟩

/-- A failure with the default message of its kind. -/
def of (kind : FailureKind) (detail : Text) : AuthFailure :=
  ⟨kind, .string detail, kind.defaultMessage, none⟩

/-- A failure with a text as its message. -/
def withMessage (kind : FailureKind) (detail message : Text) : AuthFailure :=
  make kind (.string detail) (.string message)

/-- The failure that stands for an error. -/
def because (failure : AuthFailure) (raised : Raised) : AuthFailure :=
  { failure with cause := some raised }

/-- The status of every answer to a failure. -/
def status : Nat := 401

/-- How a failure shows itself in diagnostics. -/
def shown (failure : AuthFailure) : Text :=
  "<" ++ Text.ofString failure.kind.name ++ "(kind=" ++ Text.ofString failure.kind.code ++
    ", detail=" ++ failure.detail.shown ++ ")>"

/-- The object sent to the client. -/
def payload (failure : AuthFailure) (legacy : Bool) : Json :=
  let texts : Entries Json := [("message", failure.message), ("detail", failure.detail)]
  .object (if legacy && failure.kind.legacyCodeless then texts
    else ("code", .int status) :: texts)

/-- The body sent to the client. -/
def body (failure : AuthFailure) (legacy : Bool) : Text :=
  (failure.payload legacy).write .compact

end AuthFailure

/-- The error that a failure is to the rest of the service. -/
def AuthFailure.toServiceError (failure : AuthFailure) : ServiceError :=
  ⟨⟨failure.kind.name, failure.kind.name_ne_empty⟩, failure.kind.code, failure.message,
    .int AuthFailure.status, .object []⟩

namespace Raised

/-- The name of something raised. -/
def name : Raised → String
  | .failure own => own.kind.name
  | .service own => own.name.text
  | .fault own => own.kind.name
  | .rejected _ => "ValidationError"
  | .cancelled _ | .abandoned => "CancelledError"

/-- Everything that can be raised has a name. -/
theorem name_ne_empty (raised : Raised) : raised.name ≠ "" := by
  cases raised with
  | failure own => exact own.kind.name_ne_empty
  | service own => exact own.name.given
  | fault own => exact own.kind.name_ne_empty
  | rejected | cancelled | abandoned => exact of_decide_eq_true rfl

/-- An error, as opposed to a cancellation. -/
def isError : Raised → Bool
  | .cancelled _ | .abandoned => false
  | _ => true

/-- What is logged about something raised. -/
def message : Raised → Text
  | .failure own => own.message.display
  | .service own => own.message.display
  | .fault own => own.message
  | .rejected own => own.headline
  | .cancelled own => own
  | .abandoned => []

end Raised

end FleetGate
