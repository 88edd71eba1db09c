import FleetGate.Auth.Context
import FleetGate.Bytes.Utf8
import FleetGate.Http.Path
import FleetGate.Http.Status
import FleetGate.Json.RecordFlaw

/-!
# Requests and responses

A request has a path, a method, a query, headers and a state that layers hand on. Where the service
stands below a root path, only what is left of the path without it is routed. A response has a
status, headers and a text body, which it announces by type and length in bytes.
-/

namespace FleetGate

/-- Header lines in order. Names are in lower case. -/
abbrev Headers := Entries Text

/-- A request as it reaches a layer, with the name of the server that it reached. Requests that
are not plain HTTP pass most layers by. -/
structure Request where
  server : Text
  isHttp : Bool
  method : Text
  rootPath : Text
  path : Text
  query : Bytes
  headers : Headers
  state : Option RequestState

/-- A response as it is sent. Something may still be raised when it has been sent. -/
structure Response where
  status : Status
  headers : Headers
  body : Text
  trailing : Option Raised

namespace Request

/-- The value of the first header line of a name. -/
def header? (request : Request) (name : Text) : Option Text :=
  Entries.find name request.headers

/-- The path that is routed. -/
def routePath (request : Request) : Text :=
  Path.below request.rootPath request.path

end Request

namespace Response

/-- Plain text. -/
def plainText : Text := "text/plain; charset=utf-8"

/-- JSON. -/
def jsonText : Text := "application/json"

/-- A response of a media type with a text body; a body with lone halves cannot be sent. -/
def ofText (status : Status) (mediaType body : Text) : Except Fault Response :=
  match Bytes.ofText body with
  | .error fault => .error ⟨.encoding, fault.message⟩
  | .ok bytes =>
    let type : Headers := [("content-type", mediaType)]
    let length : Headers := [("content-length", Text.ofNat bytes.length)]
    .ok ⟨status, if status.hasLength then length ++ type else type, body, none⟩

/-- A response with a JSON body, which has no way to write infinity or NaN. -/
def ofJson (status : Status) (value : Json) : Except Fault Response :=
  if value.allFinite then ofText status jsonText (value.write .compact)
  else .error ⟨.badValue, "Out of range float values are not JSON compliant"⟩

/-- The complaint about a value that is no record, for a reason of a kind. -/
def notRecord (kind : Fault.Kind) (reason : Text) : Fault :=
  ⟨.serialization, "Error serializing to JSON: " ++ Text.ofString kind.name ++
    Text.ofString ": " ++ reason⟩

/-- A response with a record as its body, in which what is not finite is null. -/
def ofRecord (status : Status) (value : Json) : Except Fault Response :=
  match value.recordFlaw? with
  | some (.halves text) =>
    .error (notRecord .encoding (Bytes.loneHalves text).message)
  | some .depth => .error (notRecord .badValue "Maximum serialization depth exceeded")
  | none => ofText status jsonText (value.write .brief)

/-- The response with more header lines. -/
def addHeaders (response : Response) (added : Headers) : Response :=
  { response with headers := response.headers ++ added }

/-- The response to a failed check. -/
def ofFailure (failure : AuthFailure) (legacy : Bool) : Except Fault Response :=
  ofJson (.code AuthFailure.status) (failure.payload legacy)

/-- A response with a JSON body under a status that may be any value. The body must be in order
before the status counts. -/
def ofJsonUnder (status value : Json) : Except Fault Response :=
  match ofJson 500 value, Status.ofJson status with
  | .error fault, _ => .error fault
  | .ok _, .error fault => .error fault
  | .ok _, .ok status => ofJson status value

/-- The response to an error of the service. -/
def ofServiceError (error : ServiceError) : Except Fault Response :=
  ofJsonUnder error.status error.payload

/-- The response to an error that is given by its parts. -/
def ofParts (code message status details : Json) : Except Fault Response :=
  ofJsonUnder status (ServiceError.payloadOf code message details)

end Response

end FleetGate
