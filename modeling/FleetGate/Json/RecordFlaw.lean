import FleetGate.Json.Basic

/-!
# What a record cannot hold

The body of a record has room for values of a limited depth whose texts have bytes.
`Json.recordFlaw?` finds the first thing that it has no room for, in the order in which the value is
written.
-/

namespace FleetGate

namespace Json

/-- What a record cannot hold: a value too far inside others, or a text with lone halves. -/
inductive RecordFlaw where
  | depth
  | halves (text : Text)
  deriving DecidableEq

/-- The number of values, each inside the one before it, that a record has room for. -/
def depthLimit : Nat := 255

/-- The flaw of a text. -/
def textFlaw? (text : Text) : Option RecordFlaw :=
  if text.any (·.toChar?.isNone) then some (.halves text) else none

mutual
/-- The first flaw of a value inside `depth` others. -/
def flawAt? (depth : Nat) : Json → Option RecordFlaw
  | array items =>
    if depthLimit ≤ depth then some .depth else flawOfItems? (depth + 1) items
  | object fields =>
    if depthLimit ≤ depth then some .depth else flawOfFields? (depth + 1) fields
  | string text => if depthLimit ≤ depth then some .depth else textFlaw? text
  | _ => if depthLimit ≤ depth then some .depth else none

/-- The first flaw of items. -/
def flawOfItems? (depth : Nat) : List Json → Option RecordFlaw
  | [] => none
  | item :: rest => (flawAt? depth item).orElse fun _ => flawOfItems? depth rest

/-- The first flaw of fields, names included. -/
def flawOfFields? (depth : Nat) : List (Text × Json) → Option RecordFlaw
  | [] => none
  | (name, value) :: rest =>
    (textFlaw? name).orElse fun _ =>
      (flawAt? depth value).orElse fun _ => flawOfFields? depth rest
end

/-- The first flaw of a value. -/
def recordFlaw? (value : Json) : Option RecordFlaw :=
  flawAt? 0 value

end Json

end FleetGate
