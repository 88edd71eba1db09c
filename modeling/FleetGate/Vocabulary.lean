import FleetGate.Fault
import FleetGate.Json.Writer

/-!
# Vocabularies

Fleets, roles, permissions and the like are small closed sets of words. Each member has a value,
which the outside uses, and a name, under which tables store it. `Vocabulary` gathers both
together with the title of the set, so that reading a word and complaining about an unknown one
are written once.
-/

namespace FleetGate

/-- A closed set of words. -/
class Vocabulary (α : Type) where
  title : String
  members : List α
  value : α → String
  name : α → String

namespace Vocabulary

variable {α : Type} [Vocabulary α]

/-- The value of a member as a text. -/
def text (member : α) : Text :=
  Text.ofString (value member)

/-- A member with the title of its set, as diagnostics show it. -/
def qualified (member : α) : Text :=
  Text.ofString (title α) ++ "." ++ Text.ofString (name member)

/-- The member of a value. -/
def ofValue? (text : Text) : Option α :=
  (members (α := α)).find? fun member => Text.ofString (value member) = text

/-- The member that is stored under a name. -/
def ofName? (text : Text) : Option α :=
  (members (α := α)).find? fun member => Text.ofString (name member) = text

/-- The member whose value is a given JSON text. -/
def ofJson? : Json → Option α
  | .string text => ofValue? text
  | _ => none

variable (α)

/-- The complaint about a value of no member. -/
def unknownValue (value : Json) : Fault :=
  ⟨.badValue, value.shown ++ " is not a valid " ++ Text.ofString (title α)⟩

/-- The member of a JSON value, or a complaint. -/
def read (value : Json) : Except Fault α :=
  match ofJson? value with
  | some member => .ok member
  | none => .error (unknownValue α value)

/-- A name in a list of possible values, cut after eleven characters. -/
def abbreviated (name : String) : Text :=
  let points := Text.ofString name
  if 11 < points.length then points.take 11 ++ ".." else points

/-- The possible names: all of them up to four, else the first three and the last. -/
def possibleNames (names : List String) : List Text :=
  let shown := names.map abbreviated
  if 4 < names.length then shown.take 3 ++ [Text.ofString "..."] ++ shown.drop (names.length - 1)
  else shown

/-- The complaint about a stored name of no member. -/
def unknownName (stored : Text) : Fault :=
  let names := (members (α := α)).map name
  ⟨.lookup, stored.quoted ++ " is not among the defined enum values. Enum name: " ++
    (Text.ofString (title α)).lowerAscii ++ ". Possible values: " ++
    Text.joinWith ", " (possibleNames names)⟩

end Vocabulary

end FleetGate
