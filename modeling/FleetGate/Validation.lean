import FleetGate.Text.CodePoint

/-!
# Validation issues

Checking data against the shape of a record collects one issue per wrong part: where it stands
and what kind of thing is wrong with it.
-/

namespace FleetGate

/-- A step into a value. -/
inductive Place where
  | field (name : Text)
  | index (position : Nat)
  deriving DecidableEq

namespace Issue

/-- What can be wrong with a part of a value. -/
inductive Kind where
  | missing
  | stringType
  | enum
  | boolType
  | boolParsing
  | timestampType
  | timestampParsing
  | timestampFromDate
  | tupleType
  | frozen
  deriving DecidableEq

/-- The name of a kind in answers. -/
def Kind.name : Kind → String
  | missing => "missing"
  | stringType => "string_type"
  | enum => "enum"
  | boolType => "bool_type"
  | boolParsing => "bool_parsing"
  | timestampType => "datetime_type"
  | timestampParsing => "datetime_parsing"
  | timestampFromDate => "datetime_from_date_parsing"
  | tupleType => "tuple_type"
  | frozen => "frozen_instance"

end Issue

/-- A wrong part of a value. -/
structure Issue where
  place : List Place
  kind : Issue.Kind
  deriving DecidableEq

/-- A field that is wrong as a whole. -/
def Issue.atField (name : String) (kind : Issue.Kind) : Issue :=
  ⟨[.field name], kind⟩

/-- The issues of a record of the given name. -/
structure Rejection where
  record : String
  issues : List Issue

/-- The first line of the message for a rejected record. -/
def Rejection.headline (rejection : Rejection) : Text :=
  let count := rejection.issues.length
  Text.ofNat count ++ (if count = 1 then Text.ofString " validation error for " else
    " validation errors for ") ++ Text.ofString rejection.record

end FleetGate
