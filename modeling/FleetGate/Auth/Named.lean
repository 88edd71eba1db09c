import FleetGate.Auth.Failure

/-!
# Errors by name

An error may be asked for by the name of its kind, with arguments that say what it is about. Most
kinds take any arguments and show them; those that are meant for clients take a fixed number and
give each a place.
-/

namespace FleetGate

/-- The arguments of an error: those that it needs, by name, and how many more it may take. Its
owner is the kind of error that says so, which counts as one argument itself. -/
structure Signature where
  owner : String
  needed : List String
  optional : Nat

namespace Signature

/-- The names of the arguments that are missing. -/
def missing (signature : Signature) (given : Nat) : List Text :=
  (signature.needed.drop given).map fun name => (Text.ofString name).quoted

/-- The complaint about arguments of which there are too few or too many. -/
def complaint (signature : Signature) (given : Nat) : Fault :=
  let missing := signature.missing given
  let least := signature.needed.length + 1
  let reason : Text :=
    if missing.isEmpty then
      "takes from " ++ Text.ofNat least ++ " to " ++ Text.ofNat (least + signature.optional) ++
        " positional arguments but " ++ Text.ofNat (given + 1) ++ Text.ofString " were given"
    else
      "missing " ++ Text.ofNat missing.length ++
        Text.ofString (if missing.length = 1 then " required positional argument: "
          else " required positional arguments: ") ++ Text.joinWith " and " missing
  ⟨.wrongType, Text.ofString signature.owner ++ ".__init__() " ++ reason⟩

end Signature

namespace Fault

/-- What an error shows of its arguments: nothing, one as it is, or several in parentheses. -/
def shownArguments : List Json → Text
  | [] => []
  | [argument] => argument.display
  | arguments => Text.ofChar '(' ++ Json.shownItems arguments ++ Text.ofChar ')'

/-- A fault of a kind that is about its arguments. A missing key is shown in quotes, and what ran
out of time may give a number and a reason, and what it was about. -/
def ofArguments (kind : Kind) (arguments : List Json) : Fault :=
  match kind, arguments with
  | .missingKey, [key] => ⟨kind, key.shown⟩
  | .timeout, [number, reason] =>
    ⟨kind, "[Errno " ++ number.display ++ Text.ofString "] " ++ reason.display⟩
  | .timeout, [number, reason, subject] =>
    let about : Text :=
      match subject with
      | .null => []
      | _ => ": " ++ subject.shown
    ⟨kind, "[Errno " ++ number.display ++ Text.ofString "] " ++ reason.display ++ about⟩
  | _, _ => ⟨kind, shownArguments arguments⟩

end Fault

namespace AuthFailure

/-- The name that all failed checks share. It belongs to no check of its own. -/
def sharedName : String := "AuthenticationError"

/-- The arguments of failed checks that have no detail of their own. -/
def sharedSignature : Signature := ⟨sharedName, ["detail"], 1⟩

/-- A failure from arguments, or what is wrong with them: a kind with a detail of its own takes at
most another detail, any other needs a detail and may take a message. -/
def ofArguments (kind : FailureKind) (arguments : List Json) : Except Fault AuthFailure :=
  match kind.defaultDetail?, arguments with
  | some standard, [] => .ok (make kind standard .null)
  | _, [detail] => .ok (make kind detail .null)
  | none, [detail, message] => .ok (make kind detail message)
  | some _, _ => .error (Signature.complaint ⟨kind.name, [], 1⟩ arguments.length)
  | none, _ => .error (sharedSignature.complaint arguments.length)

end AuthFailure

namespace ServiceError

/-- An error from its arguments, or what is wrong with them. -/
def ofArguments (name : String) (arguments : List Json) : Except Fault ServiceError :=
  if name = generalName.text then
    match arguments with
    | [code, message] => .ok (make code message (.int 500) .null)
    | [code, message, status] => .ok (make code message status .null)
    | [code, message, status, details] => .ok (make code message status details)
    | _ => .error (Signature.complaint ⟨name, ["error", "message"], 2⟩ arguments.length)
  else if name = unauthorizedName.text then
    match arguments with
    | [] => .ok (unauthorized (.string defaultUnauthorized))
    | [message] => .ok (unauthorized message)
    | _ => .error (Signature.complaint ⟨name, [], 1⟩ arguments.length)
  else
    match arguments with
    | [_] | [_, _] =>
      .error ⟨.missingAttribute, "'" ++ Text.ofString name ++ "' object has no attribute 'kind'"⟩
    | _ => .error (AuthFailure.sharedSignature.complaint arguments.length)

/-- The names of errors that are no faults. -/
def names : List String := [generalName.text, unauthorizedName.text, AuthFailure.sharedName]

end ServiceError

namespace Raised

/-- The name of a cancellation. -/
def cancelledName : String := "CancelledError"

/-- Whatever a name and arguments ask for. Arguments that do not fit are a fault themselves. -/
def ofArguments (name : Text) (arguments : List Json) : Raised :=
  let word := (name.toString?).getD ""
  match FailureKind.ofName? name with
  | some kind =>
    match AuthFailure.ofArguments kind arguments with
    | .ok own => .failure own
    | .error own => .fault own
  | none =>
    if word = cancelledName then .cancelled (Fault.shownArguments arguments)
    else if ServiceError.names.contains word then
      match ServiceError.ofArguments word arguments with
      | .ok own => .service own
      | .error own => .fault own
    else .fault (Fault.ofArguments (.ofName word) arguments)

end Raised

end FleetGate
