import FleetGate.Json.Basic
import FleetGate.Number.Reading
import FleetGate.Auth.Failure

/-!
# Registered claims

The claims that every token may carry: when it was issued, from when and until when it holds, its
subject and its identifier. They are checked in this order, and the first that fails decides.
-/

namespace FleetGate

/-- Why a value is no integer. -/
inductive IntegerFault where
  | spelling
  | infinite
  | notNumeric (typeName : String)
  deriving DecidableEq

namespace Json

/-- The integer part of a finite double. -/
def truncated (negative : Bool) (magnitude : Binary) : Int :=
  let whole : Int := magnitude.toRatio.floor
  if negative then -whole else whole

/-- A value as an integer: fractions are cut off, texts are read, a flag counts as 0 or 1. -/
def toInt : Json → Except IntegerFault Int
  | int number => .ok number
  | bool flag => .ok (if flag then 1 else 0)
  | float number =>
    match FloatParts.ofFloat number with
    | .nan => .error .spelling
    | .infinite _ => .error .infinite
    | .zero _ => .ok 0
    | .finite negative magnitude => .ok (truncated negative magnitude)
  | string text =>
    match text.toInt? with
    | some number => .ok number
    | none => .error .spelling
  | other => .error (.notNumeric other.typeName)

end Json

namespace Claims

/-- A token that was signed by us and is not valid. -/
def invalid (detail : Text) : Raised :=
  .failure (.of .tokenExpiredOrInvalid detail)

/-- The integer of a time claim; `complaint` is said of a value that is none. -/
def time (complaint : String) (value : Json) : Except Raised Int :=
  match value.toInt with
  | .ok number => .ok number
  | .error .spelling => .error (invalid complaint)
  | .error .infinite => .error (.fault ⟨.overflow, "cannot convert float infinity to integer"⟩)
  | .error (.notNumeric typeName) =>
    .error (.fault ⟨.wrongType,
      "int() argument must be a string, a bytes-like object or a real number, not '" ++
        Text.ofString typeName ++ "'"⟩)

/-- The time of issue must be an integer. -/
def checkIssued (claims : Entries Json) : Except Raised Unit :=
  match Entries.find "iat" claims with
  | none => .ok ()
  | some value => (time "Issued At claim (iat) must be an integer." value).map fun _ => ()

/-- The token must hold already. -/
def checkStart (now : Int) (claims : Entries Json) : Except Raised Unit :=
  match Entries.find "nbf" claims with
  | none => .ok ()
  | some value =>
    match time "Not Before claim (nbf) must be an integer." value with
    | .error raised => .error raised
    | .ok start =>
      if now < start then .error (invalid "The token is not yet valid (nbf)") else .ok ()

/-- The token must still hold; it does up to and with its last second. -/
def checkEnd (now : Int) (claims : Entries Json) : Except Raised Unit :=
  match Entries.find "exp" claims with
  | none => .ok ()
  | some value =>
    match time "Expiration Time claim (exp) must be an integer." value with
    | .error raised => .error raised
    | .ok last => if last < now then .error (invalid "Signature has expired.") else .ok ()

/-- A claim that must be a text if it is there. -/
def checkText (name complaint : String) (claims : Entries Json) : Except Raised Unit :=
  match Entries.find name claims with
  | none | some (.string _) => .ok ()
  | some _ => .error (invalid complaint)

/-- A digest of an access token cannot be compared with anything here. -/
def checkAccessDigest (claims : Entries Json) : Except Raised Unit :=
  match Entries.find "at_hash" claims with
  | none => .ok ()
  | some _ =>
    .error (invalid "No access_token provided to compare against at_hash claim.")

/-- All checks of the registered claims, in order. -/
def check (now : Int) (claims : Entries Json) : Except Raised Unit := do
  checkIssued claims
  checkStart now claims
  checkEnd now claims
  checkText "sub" "Subject must be a string." claims
  checkText "jti" "JWT ID must be a string." claims
  checkAccessDigest claims

end Claims

end FleetGate
