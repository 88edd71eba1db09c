import FleetGate.Auth.Scope
import FleetGate.Proofs.Auth.Admission
import FleetGate.Proofs.Auth.Texts

/-!
# Scopes stay as they were

A call of a layer ends in one of four ways: the application is called with the scope of the caller,
it is called with a copy, a failed check is answered, or something is raised. The only thing that
the layer ever writes to what was there before is a list of the header lines in the place of these
lines (`Memory.listHeaders`). So the scope of the caller describes the same request as before, and
where its header lines were a list it is the same scope. An application that only writes to what it
is given leaves it at that.
-/

namespace FleetGate

/-- Header lines in a list. -/
def HeaderLines.IsList (headers : HeaderLines) : Prop :=
  ∃ lines, headers = .list lines

namespace Scope

/-- Two scopes agree on every key. For the header lines this means that they are the same lines,
even if only one scope has them in a list. -/
structure Matches (scope other : Scope) : Prop where
  entries : other = { scope with headers := other.headers }
  lines : other.headers.lines = scope.headers.lines

theorem Matches.refl (scope : Scope) : scope.Matches scope :=
  ⟨rfl, rfl⟩

theorem matches_listHeaders (scope : Scope) : scope.Matches scope.listHeaders :=
  ⟨rfl, rfl⟩

theorem listHeaders_eq_self_iff (scope : Scope) :
    scope.listHeaders = scope ↔ scope.headers.IsList := by
  rcases scope with ⟨_, _, _, _, _, _, headers, _, _⟩
  cases headers <;> simp [listHeaders, HeaderLines.asList, HeaderLines.lines, HeaderLines.IsList]

end Scope

namespace Memory

variable {before after last memory : Memory}

/-- Every scope and every state is still where it was, and as it was. -/
structure Keeps (before after : Memory) : Prop where
  scopes : before.scopes.Keeps after.scopes
  states : before.states.Keeps after.states

theorem Keeps.refl (memory : Memory) : memory.Keeps memory :=
  ⟨.refl _, .refl _⟩

theorem Keeps.trans (early : before.Keeps after) (late : after.Keeps last) : before.Keeps last :=
  ⟨early.scopes.trans late.scopes, early.states.trans late.states⟩

/-- A scope is kept at an address, and its state is kept too. -/
structure Holds (memory : Memory) (address : Address) (scope : Scope) : Prop where
  found : memory.scopes.get? address = some scope
  backed : ∀ state, scope.state = .held state → ∃ entries, memory.states.get? state = some entries

theorem Holds.scopeAt_eq {address : Address} {scope : Scope} (holds : memory.Holds address scope) :
    memory.scopeAt address = scope := by
  rw [scopeAt, holds.found, Option.getD_some]

/-- Where header lines are made a list, the scope is still there with its state, and everything else
is as it was. -/
theorem holds_listHeaders {address : Address} {scope : Scope}
    (holds : memory.Holds address scope) :
    (memory.listHeaders address).Holds address scope.listHeaders := by
  refine ⟨?_, holds.backed⟩
  rw [listHeaders, holds.scopeAt_eq]
  exact Objects.get?_write_same holds.found _

/-- No scope comes into being by that. -/
theorem get?_eq_none_of_listHeaders {address other : Address}
    (isNew : (memory.listHeaders address).scopes.get? other = none) :
    memory.scopes.get? other = none := by
  simpa [listHeaders, Objects.get?, Objects.write] using isNew

/-- The state of a scope with a context in it. -/
def stateWith (memory : Memory) (scope : Scope) (context : Context) : RequestState :=
  Entries.put RequestState.contextKey (.context context) ((memory.stateOf scope).getD [])

/-- A copy of a scope is new, and so is its state; apart from the state it is like the scope. -/
theorem copy_spec (memory : Memory) (scope : Scope) (state : RequestState) :
    memory.Keeps (memory.copy scope state).1 ∧
      memory.scopes.get? (memory.copy scope state).2 = none ∧
      memory.states.get? memory.states.next = none ∧
      (memory.copy scope state).1.Holds (memory.copy scope state).2
        { scope with state := .held memory.states.next } ∧
      (memory.copy scope state).1.states.get? memory.states.next = some state := by
  have foundState := Objects.get?_make_next memory.states state
  refine ⟨⟨?_, ?_⟩, ?_, ?_, ⟨?_, ?_⟩, foundState⟩
  · exact Objects.keeps_make memory.scopes _
  · exact Objects.keeps_make memory.states _
  · exact Objects.get?_next memory.scopes
  · exact Objects.get?_next memory.states
  · exact Objects.get?_make_next memory.scopes _
  · intro address own
    cases own
    exact ⟨state, foundState⟩

/-- The copy describes the request with the new state. -/
theorem request_copy (memory : Memory) (scope : Scope) (state : RequestState) :
    (memory.copy scope state).1.request
        ((memory.copy scope state).1.scopeAt (memory.copy scope state).2) =
      { memory.request scope with state := some state } := by
  rcases copy_spec memory scope state with ⟨_, _, _, holds, foundState⟩
  rw [holds.scopeAt_eq]
  simp only [request, stateOf, foundState]

end Memory

namespace AuthLayer

variable {layer : AuthLayer} {now : Int} {memory : Memory} {address : Address} {scope : Scope}

/-- What the pipeline of a layer makes of a request, starting from what stands in the place of the
context. -/
def outcome (layer : AuthLayer) (now : Int) (request : Request) : Except Raised Context :=
  match layer.runOn now request (baseOf request), RequestState.base (request.state.getD []) with
  | .error raised, _ => .error raised
  | .ok _, .error json => .error (brokenBase json)
  | .ok context, .ok _ => .ok context

theorem exists_outcome_of_admits {request : Request} {base : Context} {token identifier : Text}
    {claims : Entries Json} {record : Value}
    (based : RequestState.base (request.state.getD []) = .ok base)
    (admits : Admits layer now request token claims identifier record) :
    ∃ context, layer.outcome now request = .ok context := by
  have succeeded : layer.runOn now request (baseOf request) = .ok _ :=
    Pipeline.run_eq_ok_iff.2 ⟨token, claims, identifier, record, admits, rfl⟩
  simp only [outcome, succeeded, based]
  exact ⟨_, rfl⟩

/-- The application is called exactly once, with a scope in a memory. Its result is the result, and
nothing is written after it. -/
def Calls (layer : AuthLayer) (now : Int) (memory : Memory) (address : Address)
    (ready : Memory) (given : Address) : Prop :=
  ∃ calls logs, ∀ {ρ : Type} (application : Application ρ),
    layer.serve now application memory address =
      ⟨⟨(application ready given).1, .passed (application ready given).2⟩, calls, logs⟩

/-- The application is not called. Some messages are sent in its stead, and nothing is written but
the list of header lines. -/
def Sends (layer : AuthLayer) (now : Int) (memory : Memory) (address : Address)
    (messages : List Message) : Prop :=
  ∃ calls logs, ∀ {ρ : Type} (application : Application ρ),
    layer.serve now application memory address =
      ⟨⟨memory.listHeaders address, .sent messages⟩, calls, logs⟩

/-- The application is not called. Something is raised, nothing is sent, and nothing is written but
the list of header lines. -/
def Raises (layer : AuthLayer) (now : Int) (memory : Memory) (address : Address)
    (raised : Raised) : Prop :=
  ∃ calls logs, ∀ {ρ : Type} (application : Application ρ),
    layer.serve now application memory address =
      ⟨⟨memory.listHeaders address, .raised raised⟩, calls, logs⟩

theorem handle_eq_authenticate {request : Request} (covered : layer.covers request = true) :
    layer.handle now request = layer.authenticate now request := by
  rw [handle, if_pos covered]

/-- The application gets the request with the context that the pipeline ends with. -/
theorem authenticate_of_ok {request : Request} {context : Context}
    (covered : layer.covers request = true)
    (succeeded : layer.outcome now request = .ok context) :
    (layer.authenticate now request).result = .forward (withContext request context) := by
  rw [← handle_eq_authenticate covered]
  unfold outcome at succeeded
  split at succeeded
  · cases succeeded
  · cases succeeded
  · rename_i own base ran based
    cases succeeded
    have baseOf_eq : baseOf request = base := by simp [baseOf, based, Except.toOption]
    rw [baseOf_eq] at ran
    exact handle_of_ok covered based ran

theorem authenticate_of_failure {request : Request} {failure : AuthFailure}
    (covered : layer.covers request = true)
    (refused : layer.outcome now request = .error (.failure failure)) :
    layer.runOn now request (baseOf request) = .error (.failure failure) ∧
      (layer.authenticate now request).result =
        match Response.ofFailure failure layer.legacy with
        | .ok response => .respond response
        | .error fault => .raise (.fault fault) := by
  rw [← handle_eq_authenticate covered]
  unfold outcome at refused
  split at refused
  · rename_i raised ran
    rw [Except.error.injEq] at refused
    subst refused
    exact ⟨ran, handle_of_failure covered ran⟩
  · cases refused
  · cases refused

/-- Whatever is no failed check comes out of the layer as it is. -/
theorem authenticate_of_other {request : Request} {raised : Raised}
    (covered : layer.covers request = true)
    (stopped : layer.outcome now request = .error raised)
    (other : ∀ failure, raised ≠ .failure failure) :
    (layer.authenticate now request).result = .raise raised := by
  rw [← handle_eq_authenticate covered]
  unfold outcome at stopped
  split at stopped
  · rename_i own ran
    cases stopped
    unfold runOn baseOf at ran
    simp only [handle, covered, if_true, authenticate, ran]
  · rename_i context json ran foreign
    cases stopped
    exact handle_of_brokenBase covered foreign ran
  · cases stopped

/-- A request that the layer does not cover passes it by, and no store is asked. -/
theorem serve_of_not_covers (holds : memory.Holds address scope)
    (passesBy : layer.covers (memory.request scope) = false) {ρ : Type}
    (application : Application ρ) :
    layer.serve now application memory address =
      ⟨⟨(application memory address).1, .passed (application memory address).2⟩, [], []⟩ := by
  simp only [serve, holds.scopeAt_eq, passesBy]
  rfl

theorem calls_of_ok {context : Context} (holds : memory.Holds address scope)
    (covered : layer.covers (memory.request scope) = true)
    (succeeded : layer.outcome now (memory.request scope) = .ok context) :
    Calls layer now memory address
      ((memory.listHeaders address).copy scope.listHeaders (memory.stateWith scope context)).1
      ((memory.listHeaders address).copy scope.listHeaders (memory.stateWith scope context)).2 := by
  let step := layer.authenticate now (memory.request scope)
  refine ⟨step.calls, step.logs, fun application => ?_⟩
  simp only [serve, holds.scopeAt_eq, (Memory.holds_listHeaders holds).scopeAt_eq, covered, if_true,
    authenticate_of_ok covered succeeded]
  rfl

theorem sends_of_failure {failure : AuthFailure} {response : Response}
    (holds : memory.Holds address scope)
    (covered : layer.covers (memory.request scope) = true)
    (refused : layer.outcome now (memory.request scope) = .error (.failure failure))
    (answered : Response.ofFailure failure layer.legacy = .ok response) :
    Sends layer now memory address response.messages := by
  have verdict := (authenticate_of_failure covered refused).2
  rw [answered] at verdict
  let step := layer.authenticate now (memory.request scope)
  refine ⟨step.calls, step.logs, fun application => ?_⟩
  simp only [serve, holds.scopeAt_eq, covered, if_true, verdict]
  rfl

theorem raises_of_raise {raised : Raised} (holds : memory.Holds address scope)
    (covered : layer.covers (memory.request scope) = true)
    (verdict : (layer.authenticate now (memory.request scope)).result = .raise raised) :
    Raises layer now memory address raised := by
  let step := layer.authenticate now (memory.request scope)
  refine ⟨step.calls, step.logs, fun application => ?_⟩
  simp only [serve, holds.scopeAt_eq, covered, if_true, verdict]
  rfl

/-- A failed check is answered if its texts are scalar; otherwise the answer cannot be made. -/
theorem settles_failure {failure : AuthFailure} (holds : memory.Holds address scope)
    (covered : layer.covers (memory.request scope) = true)
    (refused : layer.outcome now (memory.request scope) = .error (.failure failure)) :
    ∃ detail message, failure.Speaks detail message ∧
      (detail.IsScalar ∧ message.IsScalar →
        ∃ bytes, Bytes.ofText (failure.body layer.legacy) = .ok bytes ∧
          Sends layer now memory address
            [.start (.code 401) [("content-length", Text.ofNat bytes.length),
              ("content-type", "application/json")], .body (failure.body layer.legacy)]) ∧
      (¬(detail.IsScalar ∧ message.IsScalar) →
        ∃ fault, Raises layer now memory address (.fault fault)) := by
  rcases authenticate_of_failure covered refused with ⟨ran, verdict⟩
  rcases Pipeline.isWorded_of_run ran failure rfl with ⟨detail, message, speaks⟩
  refine ⟨detail, message, speaks, ?_, ?_⟩
  · intro scalar
    rcases speaks.exists_response_iff.2 scalar with ⟨response, answered⟩
    rcases Response.ofFailure_eq_ok answered with ⟨bytes, spelled, rfl⟩
    exact ⟨bytes, spelled, sends_of_failure holds covered refused answered⟩
  · intro halves
    cases answered : Response.ofFailure failure layer.legacy with
    | ok response => exact absurd (speaks.exists_response_iff.1 ⟨response, answered⟩) halves
    | error fault =>
        rw [answered] at verdict
        exact ⟨fault, raises_of_raise holds covered verdict⟩

end AuthLayer

namespace Application

variable {ρ : Type}

/-- The application writes to no scope and to no state that it finds. -/
def OnlyReads (application : Application ρ) : Prop :=
  ∀ (memory : Memory) given, memory.Keeps (application memory given).1

/-- The application writes to the scope that it is given and to the state in it, but to no other. -/
def KeepsToItself (application : Application ρ) : Prop :=
  ∀ (memory : Memory) given scope, memory.Holds given scope →
    (∀ other found, other ≠ given → memory.scopes.get? other = some found →
      (application memory given).1.scopes.get? other = some found) ∧
    ∀ other found, scope.state ≠ .held other → memory.states.get? other = some found →
      (application memory given).1.states.get? other = some found

end Application

namespace Memory

/-- Afterwards a scope and its state are what they were before. -/
def SameScope (before after : Memory) (address : Address) (scope : Scope) : Prop :=
  after.scopes.get? address = some scope ∧ after.stateOf scope = before.stateOf scope

theorem Holds.sameScope {before after : Memory} {address : Address} {scope : Scope}
    (holds : before.Holds address scope)
    (scopeKept : after.scopes.get? address = some scope)
    (stateKept : ∀ state entries, scope.state = .held state →
      before.states.get? state = some entries → after.states.get? state = some entries) :
    before.SameScope after address scope := by
  refine ⟨scopeKept, ?_⟩
  unfold stateOf
  cases slot : scope.state with
  | absent => rfl
  | null => rfl
  | held state =>
      rcases holds.backed state slot with ⟨entries, found⟩
      simp only [found, stateKept state entries slot found]

theorem Keeps.sameScope {before after : Memory} {address : Address} {scope : Scope}
    (keeps : before.Keeps after) (holds : before.Holds address scope) :
    before.SameScope after address scope :=
  holds.sameScope (keeps.scopes _ _ holds.found) fun _ _ _ found => keeps.states _ _ found

end Memory

namespace AuthLayer

variable {layer : AuthLayer} {now : Int} {memory : Memory} {address : Address} {scope : Scope}

theorem not_failure_or (raised : Raised) :
    (∃ failure, raised = .failure failure) ∨ ∀ failure, raised ≠ .failure failure := by
  cases raised with
  | failure failure => exact .inl ⟨failure, rfl⟩
  | _ => exact .inr fun failure same => by cases same

/-- A call of a layer does what its verdict on the described request calls for. -/
theorem serve_of_verdict (holds : memory.Holds address scope) :
    match (layer.handle now (memory.request scope)).result with
    | .forward called =>
        ∃ ready given, Calls layer now memory address ready given ∧
          ready.request (ready.scopeAt given) = called
    | .respond response => Sends layer now memory address response.messages
    | .raise raised => Raises layer now memory address raised := by
  cases covered : layer.covers (memory.request scope) with
  | false =>
      rw [handle, covered, if_neg (by simp)]
      refine ⟨memory, address, ⟨[], [], fun application => ?_⟩, ?_⟩
      · exact serve_of_not_covers holds covered application
      · rw [holds.scopeAt_eq]
  | true =>
      rw [handle_eq_authenticate covered]
      cases ends : layer.outcome now (memory.request scope) with
      | ok context =>
          rw [authenticate_of_ok covered ends]
          exact ⟨_, _, calls_of_ok holds covered ends, Memory.request_copy _ _ _⟩
      | error raised =>
          rcases not_failure_or raised with ⟨failure, rfl⟩ | other
          · have verdict := (authenticate_of_failure covered ends).2
            cases answered : Response.ofFailure failure layer.legacy with
            | ok response =>
                rw [answered] at verdict
                rw [verdict]
                exact sends_of_failure holds covered ends answered
            | error fault =>
                rw [answered] at verdict
                rw [verdict]
                exact raises_of_raise holds covered verdict
          · have verdict := authenticate_of_other covered ends other
            rw [verdict]
            exact raises_of_raise holds covered verdict

/-- Where the pipeline does not succeed, nothing is written but the list of header lines. -/
theorem memory_of_error {raised : Raised} (holds : memory.Holds address scope)
    (covered : layer.covers (memory.request scope) = true)
    (stopped : layer.outcome now (memory.request scope) = .error raised) {ρ : Type}
    (application : Application ρ) :
    (layer.serve now application memory address).result.memory =
      memory.listHeaders address := by
  rcases not_failure_or raised with ⟨failure, rfl⟩ | other
  · rcases settles_failure holds covered stopped with ⟨detail, message, _, sends, raises⟩
    by_cases scalar : detail.IsScalar ∧ message.IsScalar
    · rcases sends scalar with ⟨bytes, _, calls, logs, same⟩
      rw [same]
    · rcases raises scalar with ⟨fault, calls, logs, same⟩
      rw [same]
  · rcases raises_of_raise holds covered (authenticate_of_other covered stopped other) with
      ⟨calls, logs, same⟩
    rw [same]

/-- A call on a guarded path makes a list of the header lines of the caller's scope. Apart from that
the scope and its state stay as they were, unless the application writes to them, which it cannot
by writing to the copy that it is given. -/
theorem sameScope_of_covers (holds : memory.Holds address scope)
    (covered : layer.covers (memory.request scope) = true) {ρ : Type}
    (application : Application ρ)
    (harmless : application.OnlyReads ∨ application.KeepsToItself) :
    (memory.listHeaders address).SameScope
      (layer.serve now application memory address).result.memory address scope.listHeaders := by
  have listed := Memory.holds_listHeaders holds
  cases ends : layer.outcome now (memory.request scope) with
  | error raised =>
      rw [memory_of_error holds covered ends]
      exact (Memory.Keeps.refl _).sameScope listed
  | ok context =>
      rcases Memory.copy_spec (memory.listHeaders address) scope.listHeaders
        (memory.stateWith scope context) with ⟨keeps, isNew, isNewState, given, _⟩
      rcases calls_of_ok holds covered ends with ⟨calls, logs, same⟩
      rw [same]
      rcases harmless with reads | keepsToItself
      · exact (keeps.trans (reads _ _)).sameScope listed
      · rcases keepsToItself _ _ _ given with ⟨scopesKept, statesKept⟩
        apply listed.sameScope
        · apply scopesKept
          · intro sameAddress
            rw [← sameAddress, listed.found] at isNew
            cases isNew
          · exact keeps.scopes _ _ listed.found
        · intro state entries slot found
          apply statesKept
          · rw [ne_eq, StateSlot.held.injEq]
            rintro rfl
            rw [found] at isNewState
            cases isNewState
          · exact keeps.states _ _ found

/-- A driver's request whose state holds a count and a context of somebody else. -/
def crowdedScope : Scope :=
  ⟨"http", "server", "GET", [], "/", [],
    .list [(credentialHeader, "Bearer " ++ Token.driverToken)], .held 0, []⟩

/-- The memory of a server that holds one request. -/
def crowdedMemory : Memory :=
  ⟨⟨[crowdedScope]⟩,
    ⟨[[("count", .data (.int 7)), ("auth_context", .context ⟨[("account", .data (.int 1))]⟩)]]⟩⟩

/-- An application that wipes out the scope that it is given. -/
def wiping : Application Unit :=
  fun memory given => (⟨memory.scopes.write given .empty, memory.states⟩, ())

theorem keepsToItself_wiping : wiping.KeepsToItself := by
  intro memory given scope _
  constructor
  · intro other found differ before
    rw [wiping, Objects.get?_write_other differ]
    exact before
  · intro other found _ before
    exact before

theorem exists_outcome_crowdedScope :
    ∃ context, driverLayer.outcome 0 (crowdedMemory.request crowdedScope) = .ok context := by
  rcases driverRequest_admitted with ⟨claims, admits⟩
  have sameHeader : (crowdedMemory.request crowdedScope).header? credentialHeader =
      driverRequest.header? credentialHeader := rfl
  unfold Admits at admits
  rw [← sameHeader] at admits
  exact exists_outcome_of_admits rfl admits

end AuthLayer

end FleetGate
