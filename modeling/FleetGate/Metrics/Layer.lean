import FleetGate.Http.Handler
import FleetGate.Http.Path
import FleetGate.Http.Url

/-!
# Counting requests

The counting layer stands in front of everything else. It marks a request as under way, lets it
through, and takes the mark away again however the request ends. Only an answered request is counted
and timed. Requests for the metrics themselves are let through unseen, and so is everything when
there is no collector. The URL of a request is read and its route is looked up before it is let
through; where that fails, the request ends here.
-/

namespace FleetGate

namespace Counting

/-- Requests whose path ends like this ask for the metrics. -/
def metricsSuffix : Text := "/metrics"

/-- The label of the path in the URL of a request. -/
def pathLabel (request : Request) : Except Fault Text :=
  request.urlPath.map Path.label

/-- The label under which a request is counted, if it is. -/
def label? (instruments : Instruments) (route : Request → Except Fault Text)
    (request : Request) : Except Fault (Option RequestLabel) :=
  if instruments.collector.isNone then .ok none
  else
    match request.urlPath with
    | .error fault => .error fault
    | .ok path =>
      if Text.endsWith path metricsSuffix then .ok none
      else (route request).map fun route => some ⟨request.method, route⟩

/-- Marks a request as under way and takes the time. -/
def start (instruments : Instruments) (label : RequestLabel) : Float × Instruments :=
  (instruments.update (·.started label)).read

/-- Takes the mark away; an answered request is counted and timed. -/
def finish (instruments : Instruments) (label : RequestLabel) (begun : Float)
    (outcome : Outcome) : Instruments × List LogLine :=
  let ended := instruments.update (·.ended label)
  match outcome with
  | .error _ => (ended, [])
  | .ok response =>
    let (time, timed) := ended.read
    let status := response.status.shown
    let duration := time - begun
    (timed.update (·.recorded label status duration),
      [Collector.recordLine label status duration])

/-- The complaint about a handler that was cancelled from within. -/
def noResponse : Fault := ⟨.runtime, "No response returned."⟩

/-- A handler that is cancelled from within leaves its request without a response. -/
def settled : Outcome → Outcome
  | .error (.cancelled _) => .error (.fault noResponse)
  | outcome => outcome

/-- Counts the requests to a handler under the labels of a route. -/
def measure (route : Request → Except Fault Text) (inner : Handler) : Handler :=
  fun instruments request =>
    if !request.isHttp then inner instruments request
    else
      match label? instruments route request with
      | .error fault => (instruments, .quiet (.error (.fault fault)))
      | .ok none =>
        let (after, step) := inner instruments request
        (after, step.map settled)
      | .ok (some label) =>
        let (begun, running) := start instruments label
        let (after, step) := inner running request
        let (done, logs) := finish after label begun (settled step.result)
        (done, (step.map settled).addLogs logs)

end Counting

end FleetGate
