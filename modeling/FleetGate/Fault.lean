import FleetGate.Text.CodePoint

/-!
# Faults

A fault is an error that is not an authentication failure: a value of the wrong type, a store
that breaks, a broken database row. It has a kind, whose name answers and logs show, and a
message.
-/

namespace FleetGate

/-- The name of a kind of error. Every kind has one. -/
structure ErrorName where
  text : String
  given : text ≠ ""
  deriving DecidableEq, Repr

namespace Fault

/-- The kinds of fault. A foreign one comes from outside, and only its name is known. -/
inductive Kind where
  | wrongType
  | badValue
  | missingKey
  | missingAttribute
  | overflow
  | recursion
  | encoding
  | serialization
  | decoding
  | jsonText
  | base64
  | assertion
  | lookup
  | runtime
  | timeout
  | missingModule
  | principalLookup
  | principalContext
  | integrity
  | statement
  | operational
  | programming
  | urlArgument
  | unknownDialect
  | invalidRequest
  | database
  | foreign (name : ErrorName)
  deriving DecidableEq, Repr

/-- The name of a kind in answers and logs. -/
def Kind.name : Kind → String
  | wrongType => "TypeError"
  | badValue => "ValueError"
  | missingKey => "KeyError"
  | missingAttribute => "AttributeError"
  | overflow => "OverflowError"
  | recursion => "RecursionError"
  | encoding => "UnicodeEncodeError"
  | serialization => "PydanticSerializationError"
  | decoding => "UnicodeDecodeError"
  | jsonText => "JSONDecodeError"
  | base64 => "Error"
  | assertion => "AssertionError"
  | lookup => "LookupError"
  | runtime => "RuntimeError"
  | timeout => "TimeoutError"
  | missingModule => "ModuleNotFoundError"
  | principalLookup => "PrincipalLookupError"
  | principalContext => "PrincipalContextError"
  | integrity => "IntegrityError"
  | statement => "StatementError"
  | operational => "OperationalError"
  | programming => "ProgrammingError"
  | urlArgument => "ArgumentError"
  | unknownDialect => "NoSuchModuleError"
  | invalidRequest => "InvalidRequestError"
  | database => "SQLAlchemyError"
  | foreign name => name.text

theorem Kind.name_ne_empty (kind : Kind) : kind.name ≠ "" := by
  cases kind with
  | foreign name => exact name.given
  | _ => decide

/-- All kinds of fault that are not foreign. -/
def Kind.all : List Kind :=
  [wrongType, badValue, missingKey, missingAttribute, overflow, recursion, encoding,
    serialization, decoding, jsonText, base64, assertion, lookup, runtime, timeout,
    missingModule, principalLookup, principalContext, integrity, statement, operational,
    programming, urlArgument, unknownDialect, invalidRequest, database]

/-- What stands for a kind of which nothing is known, not even its name. -/
def unnamed : ErrorName := ⟨"Exception", by decide⟩

/-- The kind of a name. -/
def Kind.ofName (name : String) : Kind :=
  (Kind.all.find? fun kind => kind.name = name).getD
    (foreign (if given : name ≠ "" then ⟨name, given⟩ else unnamed))

end Fault

/-- A kind of fault with its message. -/
structure Fault where
  kind : Fault.Kind
  message : Text
  deriving DecidableEq

/-- Of two steps one after the other that give a result, both do. -/
theorem exists_of_bind_eq_ok {ε α β : Type} {first : Except ε α} {next : α → Except ε β}
    {result : β} (isOk : first >>= next = .ok result) :
    ∃ value, first = .ok value ∧ next value = .ok result := by
  cases first with
  | error fault => cases isOk
  | ok value => exact ⟨value, rfl, isOk⟩

end FleetGate
