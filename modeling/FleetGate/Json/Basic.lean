import FleetGate.Entries
import FleetGate.Number.Shortest

/-!
# JSON values

Claims, header objects, request state and stored lists are JSON values. Integers and floats are
kept apart, an object keeps its fields in the order in which their names first came, and of two
fields with one name the last value counts.
-/

namespace FleetGate

/-- A JSON value. -/
inductive Json where
  | null
  | bool (flag : Bool)
  | int (number : Int)
  | float (number : Float)
  | string (text : Text)
  | array (items : List Json)
  | object (fields : List (Text × Json))
  deriving Inhabited

namespace Json

instance : Coe String Json := ⟨fun string => .string (Text.ofString string)⟩

/-- The value of a field, if this is an object that has it. -/
def get? (value : Json) (name : Text) : Option Json :=
  match value with
  | object fields => Entries.find name fields
  | _ => none

/-- Whether a value counts as true: everything but null, false, zero and what is empty. -/
def truthy : Json → Bool
  | null => false
  | bool flag => flag
  | int number => number != 0
  | float number => !(number == 0)
  | string text => !text.isEmpty
  | array items => !items.isEmpty
  | object fields => !fields.isEmpty

/-- The word for the kind of a value in messages. -/
def typeName : Json → String
  | null => "NoneType"
  | bool _ => "bool"
  | int _ => "int"
  | float _ => "float"
  | string _ => "str"
  | array _ => "list"
  | object _ => "dict"

/-- The exact value of a number, as a sign and a ratio; nothing for what is not finite. -/
def number? : Json → Option (Bool × Ratio)
  | bool flag => some (false, ⟨if flag then 1 else 0, 1⟩)
  | int number => some (number < 0, ⟨number.natAbs, 1⟩)
  | float number =>
    match FloatParts.ofFloat number with
    | .zero _ => some (false, ⟨0, 1⟩)
    | .finite negative magnitude => some (negative, magnitude.toRatio)
    | _ => none
  | _ => none

/-- Two numbers of any kind are equal when their exact values are. -/
def sameNumber (left right : Json) : Bool :=
  match left, right with
  | float left, float right => left == right
  | left, right =>
    match left.number?, right.number? with
    | some (signLeft, left), some (signRight, right) =>
      (signLeft == signRight || left.num == 0) && left.le right && right.le left
    | _, _ => false

mutual
/-- Equality of values: numbers by value, arrays in order, objects in any order. -/
def same : Json → Json → Bool
  | null, null => true
  | string left, string right => left == right
  | array lefts, array rights => sameItems lefts rights
  | object lefts, object rights => lefts.length == rights.length && sameFields lefts rights
  | left, right => sameNumber left right

/-- Equality of arrays, item by item. -/
def sameItems : List Json → List Json → Bool
  | [], [] => true
  | left :: lefts, right :: rights => same left right && sameItems lefts rights
  | _, _ => false

/-- Every field has an equal value on the other side. -/
def sameFields : List (Text × Json) → List (Text × Json) → Bool
  | [], _ => true
  | (name, value) :: rest, fields =>
    (match Entries.find name fields with
      | some other => same value other
      | none => false) && sameFields rest fields
end

mutual
/-- No infinity and no NaN anywhere inside. -/
def allFinite : Json → Bool
  | float number => number.isFinite
  | array items => allFiniteItems items
  | object fields => allFiniteFields fields
  | _ => true

/-- No infinity and no NaN in any item. -/
def allFiniteItems : List Json → Bool
  | [] => true
  | item :: rest => allFinite item && allFiniteItems rest

/-- No infinity and no NaN in any field. -/
def allFiniteFields : List (Text × Json) → Bool
  | [] => true
  | (_, value) :: rest => allFinite value && allFiniteFields rest
end

end Json

end FleetGate
