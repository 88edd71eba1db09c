import FleetGate.Proofs.Auth.Stages
import FleetGate.Service.Handle

/-!
# Who is let in

What a layer does with a request is said from the outside here, by what becomes of an arbitrary
handler behind it: the handler is called once, with a request and nothing else, or it is not
called at all. A guarded request gets through exactly when the pipeline of the layer admits it.
-/

namespace FleetGate

namespace AuthLayer

variable {layer : AuthLayer} {now : Int} {request called : Request}

/-- The handler behind the layer is called exactly once, with the request `called`. Whatever it
does with its instruments is done once, and what it answers is the answer. -/
def CallsOnce (layer : AuthLayer) (now : Int) (request called : Request) : Prop :=
  ∃ before : Traced Unit, ∀ (inner : Handler) (instruments : Instruments),
    layer.protect now inner instruments request =
      ((inner instruments called).1, before.after (inner instruments called).2)

/-- The handler behind the layer is not called: what it would do makes no difference. -/
def Ignores (layer : AuthLayer) (now : Int) (request : Request) : Prop :=
  ∃ step : Traced Outcome, ∀ (inner : Handler) (instruments : Instruments),
    layer.protect now inner instruments request = (instruments, step)

theorem callsOnce_of_forward (forward : (layer.handle now request).result = .forward called) :
    CallsOnce layer now request called := by
  refine ⟨(layer.handle now request).map fun _ => (), fun inner instruments => ?_⟩
  simp only [protect, forward]
  rfl

theorem ignores_of_not_forward
    (stays : ∀ called, (layer.handle now request).result ≠ .forward called) :
    Ignores layer now request := by
  cases verdict : (layer.handle now request).result with
  | forward called => exact absurd verdict (stays called)
  | respond response =>
      refine ⟨(layer.handle now request).map fun _ => .ok response, fun inner instruments => ?_⟩
      simp only [protect, verdict]
  | raise raised =>
      refine ⟨(layer.handle now request).map fun _ => .error raised, fun inner instruments => ?_⟩
      simp only [protect, verdict]

/-- A handler that raises what it is told to, by the request that it gets. -/
def raising (choose : Request → Raised) : Handler :=
  fun instruments request => (instruments, .quiet (.error (choose request)))

/-- Instruments that measure nothing. -/
def noInstruments : Instruments := ⟨none, ⟨fun _ => 0, 0⟩⟩

theorem CallsOnce.raises (calls : CallsOnce layer now request called)
    (choose : Request → Raised) :
    (layer.protect now (raising choose) noInstruments request).2.result =
      .error (choose called) := by
  rcases calls with ⟨before, same⟩
  rw [same]
  rfl

/-- A handler that is called is not ignored: it may raise one thing or another. -/
theorem CallsOnce.not_ignores (calls : CallsOnce layer now request called) :
    ¬Ignores layer now request := by
  rintro ⟨step, same⟩
  have abandons := calls.raises fun _ => .abandoned
  have cancels := calls.raises fun _ => .cancelled []
  rw [same] at abandons cancels
  rw [abandons] at cancels
  cases cancels

/-- The handler is called exactly when the verdict is to forward. -/
theorem callsOnce_iff :
    CallsOnce layer now request called ↔
      (layer.handle now request).result = .forward called := by
  classical
  refine ⟨fun calls => ?_, callsOnce_of_forward⟩
  cases verdict : (layer.handle now request).result with
  | forward other =>
      let choose (request : Request) : Raised :=
        if request = called then .abandoned else .cancelled []
      have raises := calls.raises choose
      have forwarded := (callsOnce_of_forward verdict).raises choose
      rw [forwarded, Except.error.injEq] at raises
      by_cases same : other = called
      · rw [same]
      · simp [choose, same] at raises
  | _ =>
      refine absurd (ignores_of_not_forward ?_) calls.not_ignores
      simp [verdict]

theorem ignores_iff :
    Ignores layer now request ↔ ¬∃ called, CallsOnce layer now request called := by
  constructor
  · rintro ignores ⟨called, calls⟩
    exact calls.not_ignores ignores
  · intro notCalled
    exact ignores_of_not_forward fun called forward =>
      notCalled ⟨called, callsOnce_of_forward forward⟩

/-- The request with a context in its state. -/
def withContext (request : Request) (context : Context) : Request :=
  let state := request.state.getD []
  { request with state := some (Entries.put RequestState.contextKey (.context context) state) }

/-- What the pipeline of a layer makes of a request that starts from a context. -/
def runOn (layer : AuthLayer) (now : Int) (request : Request) (base : Context) :
    Except Raised Context :=
  (layer.pipeline.run now (request.header? credentialHeader) base).result

/-- The context that a request starts from, if there is one in order. -/
def baseOf (request : Request) : Context :=
  (RequestState.base (request.state.getD [])).toOption.getD .empty

theorem handle_of_ok {base context : Context} (covered : layer.covers request = true)
    (based : RequestState.base (request.state.getD []) = .ok base)
    (succeeded : layer.runOn now request base = .ok context) :
    (layer.handle now request).result = .forward (withContext request context) := by
  unfold runOn at succeeded
  simp only [handle, covered, if_true, authenticate, based, Except.toOption, Option.getD_some,
    succeeded]
  rfl

theorem handle_of_brokenBase {context : Context} {json : Json}
    (covered : layer.covers request = true)
    (foreign : RequestState.base (request.state.getD []) = .error json)
    (succeeded : layer.runOn now request (baseOf request) = .ok context) :
    (layer.handle now request).result = .raise (brokenBase json) := by
  unfold runOn baseOf at succeeded
  rw [foreign] at succeeded
  simp only [handle, covered, if_true, authenticate, foreign, succeeded]

theorem handle_of_failure {failure : AuthFailure} (covered : layer.covers request = true)
    (refused : layer.runOn now request (baseOf request) = .error (.failure failure)) :
    (layer.handle now request).result =
      match Response.ofFailure failure layer.legacy with
      | .ok response => .respond response
      | .error fault => .raise (.fault fault) := by
  unfold runOn baseOf at refused
  simp only [handle, covered, if_true, authenticate, refused]
  cases Response.ofFailure failure layer.legacy <;> rfl

theorem handle_of_fault {fault : Fault} (covered : layer.covers request = true)
    (broken : layer.runOn now request (baseOf request) = .error (.fault fault)) :
    (layer.handle now request).result = .raise (.fault fault) := by
  unfold runOn baseOf at broken
  simp only [handle, covered, if_true, authenticate, broken]

/-- A guarded request is only forwarded after its pipeline succeeded. -/
theorem exists_context_of_forward (covered : layer.covers request = true)
    (forward : (layer.handle now request).result = .forward called) :
    ∃ context, layer.runOn now request (baseOf request) = .ok context := by
  cases outcome : layer.runOn now request (baseOf request) with
  | ok context => exact ⟨context, rfl⟩
  | error raised =>
      unfold runOn baseOf at outcome
      simp only [handle, covered, if_true, authenticate, outcome] at forward
      cases raised with
      | failure failure =>
          dsimp only at forward
          split at forward <;> cases forward
      | _ => cases forward

/-- A guarded request is only answered because of a failed check. -/
theorem exists_failure_of_respond {response : Response} (covered : layer.covers request = true)
    (responds : (layer.handle now request).result = .respond response) :
    ∃ failure, Response.ofFailure failure layer.legacy = .ok response := by
  simp only [handle, covered, if_true, authenticate] at responds
  split at responds
  · split at responds <;> cases responds
  · rename_i failure _
    split at responds
    · rename_i own answered
      cases responds
      exact ⟨failure, answered⟩
    · cases responds
  · cases responds

/-- The pipeline of a layer admits a request. -/
def Admits (layer : AuthLayer) (now : Int) (request : Request) (token : Text)
    (claims : Entries Json) (identifier : Text) (record : Value) : Prop :=
  layer.pipeline.Admits now (request.header? credentialHeader) token claims identifier record

/-- A guarded request is forwarded exactly when it is admitted, with what was admitted. -/
theorem forward_iff {base : Context} (covered : layer.covers request = true)
    (based : RequestState.base (request.state.getD []) = .ok base) :
    (layer.handle now request).result = .forward called ↔
      ∃ token claims identifier record, Admits layer now request token claims identifier record ∧
        called = withContext request (base.attach record (.data (.string identifier))
          (.data (Pipeline.accountOf claims))) := by
  have baseOf_eq : baseOf request = base := by simp [baseOf, based, Except.toOption]
  constructor
  · intro forward
    rcases exists_context_of_forward covered forward with ⟨context, succeeded⟩
    rw [baseOf_eq] at succeeded
    rw [handle_of_ok covered based succeeded, Verdict.forward.injEq] at forward
    rcases Pipeline.run_eq_ok_iff.1 succeeded with
      ⟨token, claims, identifier, record, admits, rfl⟩
    exact ⟨token, claims, identifier, record, admits, forward.symm⟩
  · rintro ⟨token, claims, identifier, record, admits, rfl⟩
    exact handle_of_ok covered based
      (Pipeline.run_eq_ok_iff.2 ⟨token, claims, identifier, record, admits, rfl⟩)

/-- A context holds what was admitted, and everything else that the base holds. -/
def Carries (context base : Context) (claims : Entries Json) (identifier : Text)
    (record : Value) : Prop :=
  ∀ key, context.get? key =
    if key = Context.principalKey then some record
    else if key = Context.identifierKey then some (.data (.string identifier))
    else if key = Context.accountKey then some (.data (Pipeline.accountOf claims))
    else base.get? key

/-- The handler behind a layer is called exactly for the guarded requests that are admitted, once
each, and with a context that carries what was admitted. All other guarded requests never reach
it. -/
theorem called_iff_admitted {base : Context} (covered : layer.covers request = true)
    (based : RequestState.base (request.state.getD []) = .ok base) :
    ((∃ called, CallsOnce layer now request called) ↔
        ∃ token claims identifier record,
          Admits layer now request token claims identifier record) ∧
      (Ignores layer now request ↔
        ¬∃ token claims identifier record,
          Admits layer now request token claims identifier record) ∧
      ∀ token claims identifier record,
        Admits layer now request token claims identifier record →
          ∃ context, CallsOnce layer now request (withContext request context) ∧
            Carries context base claims identifier record := by
  have calls_iff : (∃ called, CallsOnce layer now request called) ↔
      ∃ token claims identifier record,
        Admits layer now request token claims identifier record := by
    simp only [callsOnce_iff, forward_iff covered based]
    constructor
    · rintro ⟨called, token, claims, identifier, record, admits, _⟩
      exact ⟨token, claims, identifier, record, admits⟩
    · rintro ⟨token, claims, identifier, record, admits⟩
      exact ⟨_, token, claims, identifier, record, admits, rfl⟩
  refine ⟨calls_iff, ignores_iff.trans (not_congr calls_iff), ?_⟩
  intro token claims identifier record admits
  refine ⟨_, callsOnce_iff.2 ?_, fun key => Context.get?_attach _ _ _ _ key⟩
  exact (forward_iff covered based).2 ⟨token, claims, identifier, record, admits, rfl⟩

/-- A layer in front of all paths that lets drivers in whom the secret `s` vouches for. -/
def driverLayer : AuthLayer :=
  ⟨.ofPrefix [], ⟨.driver, "s", ⟨some (.constant (.found (.data (.bool true)))), none⟩⟩, false⟩

/-- A request of the driver `D1`. -/
def driverRequest : Request :=
  ⟨"server", true, "GET", [], "/", [], [(credentialHeader, "Bearer " ++ Token.driverToken)], none⟩

theorem driverRequest_admitted :
    ∃ claims, Admits driverLayer 0 driverRequest Token.driverToken claims "D1"
      (.data (.bool true)) := by
  rcases Token.exists_claims_driverToken with ⟨claims, verified, ofKind, named⟩
  refine ⟨claims, ⟨⟨?_, verified, ofKind, named⟩, ⟨_, rfl, rfl⟩, rfl⟩⟩
  exact ⟨_, rfl, by decide +kernel⟩

theorem driverRequest_called :
    ∃ context claims, CallsOnce driverLayer 0 driverRequest (withContext driverRequest context) ∧
      Carries context .empty claims "D1" (.data (.bool true)) := by
  have admission := @called_iff_admitted driverLayer 0 driverRequest .empty (by decide) rfl
  rcases driverRequest_admitted with ⟨claims, admits⟩
  rcases admission.2.2 _ _ _ _ admits with ⟨context, calls, carries⟩
  exact ⟨context, claims, calls, carries⟩

end AuthLayer

end FleetGate
