import FleetGate.Fault
import FleetGate.Json.Writer

/-!
# Status codes

The status of a response is a number. The service itself answers with whole numbers, but an error
may bring any number along, and a flag counts as zero or one.
-/

namespace FleetGate

/-- The status of a response. -/
inductive Status where
  | code (number : Int)
  | flag (value : Bool)
  | real (number : Float)

namespace Status

instance (number : Nat) : OfNat Status number := ⟨code number⟩

/-- The complaint about a status that is no number. -/
def notNumber (value : Json) : Fault :=
  ⟨.wrongType, "'<' not supported between instances of '" ++ Text.ofString value.typeName ++
    Text.ofString "' and 'int'"⟩

/-- The status that a value stands for. -/
def ofJson : Json → Except Fault Status
  | .int number => .ok (code number)
  | .bool value => .ok (flag value)
  | .float number => .ok (real number)
  | value => .error (notNumber value)

/-- A status as a value. -/
def toJson : Status → Json
  | code number => .int number
  | flag value => .bool value
  | real number => .float number

/-- A status in labels and lines. -/
def shown (status : Status) : Text :=
  status.toJson.display

/-- Answers of some statuses have no length. -/
def hasLength : Status → Bool
  | code number => 200 ≤ number && number != 204 && number != 304
  | flag _ => false
  | real number => !(number < 200) && number != 204 && number != 304

end Status

end FleetGate
