import FleetGate.Http.Handler

/-!
# Sharing between origins

Every origin may use the service, with credentials. A browser that asks beforehand whether a
method is allowed is answered at once; all other requests go on, and their responses say which
origin they are meant for.
-/

namespace FleetGate

namespace Cors

/-- The methods that may be used. -/
def methods : List Text :=
  ["DELETE", "GET", "HEAD", "OPTIONS", "PATCH", "POST", "PUT", "QUERY"]

/-- The header that names the origin of a request. -/
def originHeader : Text := "origin"

/-- The header that asks for a method beforehand. -/
def methodHeader : Text := "access-control-request-method"

/-- The header that asks for headers beforehand. -/
def headersHeader : Text := "access-control-request-headers"

/-- The header that asks for a private network beforehand. -/
def networkHeader : Text := "access-control-request-private-network"

/-- The method with which is asked beforehand. -/
def askingMethod : Text := "OPTIONS"

/-- Header lines for the origin of a request. -/
def originLines (request : Request) : Headers :=
  match request.header? originHeader with
  | some origin =>
    [("access-control-allow-credentials", "true"), ("access-control-allow-origin", origin)]
  | none => []

/-- The header lines that every response gets. -/
def lines (request : Request) : Headers :=
  ("vary", "Origin") :: originLines request

/-- The request asks beforehand, and for which method. -/
def question? (request : Request) : Option Text :=
  if request.method == askingMethod && (request.header? originHeader).isSome then
    request.header? methodHeader
  else none

/-- What stands in the way of a method. -/
def refusals (request : Request) (method : Text) : List Text :=
  (if methods.contains method then [] else [Text.ofString "method"]) ++
    (if (request.header? networkHeader).isSome then [Text.ofString "private-network"] else [])

/-- The header lines of the answer to a question. -/
def answerLines (request : Request) : Headers :=
  let wanted : Headers :=
    match request.header? headersHeader with
    | some names => [("access-control-allow-headers", names)]
    | none => []
  let standing : Headers :=
    [("access-control-allow-methods", Text.joinWith ", " methods),
      ("access-control-max-age", "600"),
      ("vary", "Origin, Access-Control-Request-Method, Access-Control-Request-Headers, " ++
        Text.ofString "Access-Control-Request-Private-Network")]
  standing ++ originLines request ++ wanted

/-- The answer to the question for a method. -/
def answer (request : Request) (method : Text) : Except Fault Response :=
  let refused := refusals request method
  let made :=
    if refused.isEmpty then Response.ofText 200 Response.plainText "OK"
    else
      Response.ofText 400 Response.plainText
        (Text.ofString "Disallowed CORS " ++ Text.joinWith ", " refused)
  made.map (·.addHeaders (answerLines request))

/-- Shares a handler between origins. -/
def share (inner : Handler) : Handler :=
  fun instruments request =>
    match question? request with
    | some method => (instruments, .quiet (.ofResponse (answer request method)))
    | none =>
      inner.mapOutcome (fun request => .map (·.addHeaders (lines request))) instruments request

end Cors

end FleetGate
