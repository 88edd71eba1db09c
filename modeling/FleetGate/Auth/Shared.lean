import FleetGate.Auth.Pipeline
import FleetGate.Objects

/-!
# Shared contexts

The context of one request may be the base of many others, and a caller may go on writing to the
dictionary from which a context was made. Both are looked at here as objects with addresses. A
context keeps a dictionary of its own, a copy of the one that it was made from, and is known by its
address; a child is made from a new dictionary, into which the values of its base are copied. A
chain of runs lets every run that succeeds hand its context on to the next one.
-/

namespace FleetGate

/-- Dictionaries of values: those that callers hold, and those that contexts keep. -/
abbrev Dictionaries := Objects (Entries Value)

namespace Dictionaries

/-- A new dictionary with entries. -/
def add (dictionaries : Dictionaries) (entries : Entries Value) : Dictionaries × Address :=
  dictionaries.make entries

/-- What stands in a dictionary. -/
def entries (dictionaries : Dictionaries) (address : Address) : Entries Value :=
  (dictionaries.get? address).getD []

/-- The context that keeps the dictionary at an address, as it answers now. -/
def contextAt (dictionaries : Dictionaries) (address : Address) : Context :=
  ⟨dictionaries.entries address⟩

/-- A new context made from a dictionary, of which it keeps a copy. -/
def makeContext (dictionaries : Dictionaries) (source : Address) : Dictionaries × Address :=
  dictionaries.add (dictionaries.entries source)

/-- A new context with the values of another one and more. -/
def extend (dictionaries : Dictionaries) (base : Address) (added : Entries Value) :
    Dictionaries × Address :=
  let (merged, source) := dictionaries.add ((dictionaries.entries base).putAll added)
  merged.makeContext source

/-- A new context with values given one by one by name. -/
def withValues (dictionaries : Dictionaries) (base : Address) (added : Entries Value) :
    Except Fault (Dictionaries × Address) :=
  match (dictionaries.contextAt base).withValues added with
  | .error fault => .error fault
  | .ok _ => .ok (dictionaries.extend base added)

/-- A new context with a principal, its identifier and the account claim. -/
def attach (dictionaries : Dictionaries) (base : Address) (principal identifier account : Value) :
    Dictionaries × Address :=
  dictionaries.extend base
    [(Context.principalKey, principal), (Context.identifierKey, identifier),
      (Context.accountKey, account)]

end Dictionaries

namespace Pipeline

/-- All stages but the last one: the principal of a request and the identity that names it. -/
def examine (pipeline : Pipeline) (now : Int) (authorization : Option Text) :
    Traced (Except Raised (Value × Identity)) :=
  match identify pipeline.kind pipeline.secret now authorization with
  | .error raised => ⟨.error raised, [], []⟩
  | .ok identity =>
    let resolved := Resolution.resolve pipeline.stores identity.identifier pipeline.kind
    match resolved.result with
    | .error raised => ⟨.error raised, resolved.calls, resolved.logs⟩
    | .ok principal =>
      ⟨.ok (principal, identity), resolved.calls, resolved.logs ++ welcomes principal⟩

/-- Runs every stage for one request whose context is an object. -/
def runAt (pipeline : Pipeline) (now : Int) (authorization : Option Text)
    (dictionaries : Dictionaries) (base : Address) :
    Dictionaries × Traced (Except Raised Address) :=
  let step := pipeline.examine now authorization
  match step.result with
  | .error raised => (dictionaries, ⟨.error raised, step.calls, step.logs⟩)
  | .ok (principal, identity) =>
    let (after, child) := dictionaries.attach base principal
      (.data (.string identity.identifier)) (.data identity.account)
    (after, ⟨.ok child, step.calls, step.logs⟩)

end Pipeline

/-- A credential that is shown to a pipeline at some time. -/
structure Attempt where
  pipeline : Pipeline
  now : Int
  authorization : Option Text

/-- Where a chain of runs stands: all dictionaries, and the context that the next run starts
from. -/
structure Chain where
  dictionaries : Dictionaries
  base : Address

namespace Chain

/-- The context that the next run starts from. -/
def context (chain : Chain) : Context :=
  chain.dictionaries.contextAt chain.base

/-- One more run. Its context is the next base; a run that fails leaves the base as it was. -/
def step (chain : Chain) (attempt : Attempt) : Chain × Traced (Except Raised Address) :=
  let (after, run) := attempt.pipeline.runAt attempt.now attempt.authorization chain.dictionaries
    chain.base
  match run.result with
  | .ok child => (⟨after, child⟩, run)
  | .error _ => (⟨after, chain.base⟩, run)

/-- The chain after runs, one after the other. -/
def run (chain : Chain) (attempts : List Attempt) : Chain :=
  attempts.foldl (fun chain attempt => (chain.step attempt).1) chain

end Chain

end FleetGate
