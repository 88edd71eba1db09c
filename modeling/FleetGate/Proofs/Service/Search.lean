import FleetGate.Proofs.Service.SoleRoutes

/-!
# Searching the routes

The route of a request is searched for twice: once for the label under which the request is counted,
and once more to send the request there. Each search goes through the routes one by one, ends at the
first that takes the request in full, and remembers the first that takes its path alone. A route
that takes the path but cannot read it ends both searches.

Among routes of which no two take one path (`Routing.AreSole`) it does not matter which ones have
been asked before, so that both searches find what `Routing.label` and `Routing.destination` say.
-/

namespace FleetGate

/-- How a route takes a request. -/
inductive RouteMatch where
  | none
  | pathOnly
  | full

namespace Route

/-- What a route makes of a request. The parts of a path are read as soon as the route takes it. -/
def judge (route : Route) (request : Request) : Except Fault RouteMatch :=
  if route.takesPath request.routePath then
    match route.fault? request.routePath with
    | some fault => .error fault
    | none => .ok (if route.methods.contains request.method then .full else .pathOnly)
  else .ok .none

variable {route : Route} {request : Request}

theorem judge_of_missed (missed : route.takesPath request.routePath = false) :
    route.judge request = .ok .none := by
  rw [judge, missed, if_neg Bool.false_ne_true]

theorem judge_of_unreadable {fault : Fault}
    (unreadable : route.fault? request.routePath = some fault) :
    route.judge request = .error fault := by
  have taken : route.takesPath request.routePath = true := Template.takes_of_fault? unreadable
  rw [judge, taken, if_pos rfl, unreadable]

theorem judge_of_readable (taken : route.takesPath request.routePath = true)
    (readable : route.fault? request.routePath = none) :
    route.judge request = .ok (if route.takes request then .full else .pathOnly) := by
  rw [judge, taken, if_pos rfl, readable, takes, taken, Bool.true_and]

end Route

namespace Routing

/-- The search for the label of a request, which remembers a template. -/
def labelFrom (request : Request) : Option Text → List Route → Except Fault Text
  | some (point :: rest), [] => .ok (point :: rest)
  | _, [] => .ok unmatched
  | remembered, route :: rest =>
    match route.judge request with
    | .error fault => .error fault
    | .ok .full => .ok route.template
    | .ok .pathOnly => labelFrom request (remembered.or (some route.template)) rest
    | .ok .none => labelFrom request remembered rest

/-- The search for a route that takes another spelling of a path. -/
def detourFrom (request : Request) (path : Text) : List Route → Destination
  | [] => .nowhere
  | route :: rest =>
    match route.judge { request with path := path } with
    | .error fault => .unreadable fault
    | .ok .none => detourFrom request path rest
    | .ok _ => .elsewhere path

/-- Where a request goes whose path no route takes. -/
def strayDestination (request : Request) (all : List Route) : Destination :=
  if request.routePath == slash then .nowhere
  else detourFrom request (otherSpelling request) all

/-- The search for the way of a request, which remembers a route. The other spelling of the path
is looked for among all routes. -/
def destinationFrom (request : Request) (all : List Route) :
    Option Route → List Route → Destination
  | some route, [] => .wrongMethod route
  | none, [] => strayDestination request all
  | remembered, route :: rest =>
    match route.judge request with
    | .error fault => .unreadable fault
    | .ok .full => .endpoint route.endpoint
    | .ok .pathOnly => destinationFrom request all (remembered.or (some route)) rest
    | .ok .none => destinationFrom request all remembered rest

/-- What both searches have in common: the route that they end at, and whether it takes the request
in full. -/
def search (request : Request) : Option Route → List Route → Except Fault (Option (Route × Bool))
  | remembered, [] => .ok (remembered.map fun route => (route, false))
  | remembered, route :: rest =>
    match route.judge request with
    | .error fault => .error fault
    | .ok .full => .ok (some (route, true))
    | .ok .pathOnly => search request (remembered.or (some route)) rest
    | .ok .none => search request remembered rest

variable {routes earlier later : List Route} {route : Route} {request : Request} {path : Text}

theorem labelFrom_eq (request : Request) (named : ∀ route ∈ routes, route.template ≠ [])
    {remembered : Option Route} (rememberedNamed : ∀ route ∈ remembered, route.template ≠ []) :
    labelFrom request (remembered.map (·.template)) routes =
      (search request remembered routes).map fun found =>
        (found.map (·.1.template)).getD unmatched := by
  induction routes generalizing remembered with
  | nil =>
      cases remembered with
      | none => rfl
      | some route =>
          have own := rememberedNamed route rfl
          cases template : route.template with
          | nil => exact absurd template own
          | cons point rest =>
              simp only [Option.map_some, template, labelFrom, search, Except.map, Option.getD_some]
  | cons route rest ih =>
      rcases List.forall_mem_cons.1 named with ⟨own, others⟩
      rw [labelFrom, search]
      cases route.judge request with
      | error fault => rfl
      | ok verdict =>
          cases verdict with
          | full => rfl
          | none => exact ih others rememberedNamed
          | pathOnly =>
              have next : (remembered.map (·.template)).or (some route.template) =
                  (remembered.or (some route)).map (·.template) := by
                cases remembered <;> rfl
              simp only [next]
              apply ih others
              intro other isRemembered
              cases remembered with
              | none =>
                  cases isRemembered
                  exact own
              | some first => exact rememberedNamed other isRemembered

theorem destinationFrom_eq (request : Request) (all : List Route) (remembered : Option Route) :
    destinationFrom request all remembered routes =
      match search request remembered routes with
      | .error fault => .unreadable fault
      | .ok (some (route, true)) => .endpoint route.endpoint
      | .ok (some (route, false)) => .wrongMethod route
      | .ok none => strayDestination request all := by
  induction routes generalizing remembered with
  | nil => cases remembered <;> rfl
  | cons route rest ih =>
      rw [destinationFrom, search]
      cases route.judge request with
      | error fault => rfl
      | ok verdict =>
          cases verdict with
          | full => rfl
          | none => exact ih remembered
          | pathOnly => exact ih _

/-- Routes of which no two take one path. -/
def AreSole (routes : List Route) : Prop :=
  ∀ path, ∀ route ∈ routes, ∀ other ∈ routes,
    route.takesPath path = true → other.takesPath path = true → route = other

theorem areSole_routes (apiPrefix : Text) : AreSole (Routing.routes apiPrefix) :=
  fun _ _ listed _ otherListed => eq_of_takesPath listed otherListed

/-- A path is missed by all routes, or all that take it are the first one that does. -/
theorem AreSole.missed_or_split (sole : AreSole routes) (path : Text) :
    (∀ route ∈ routes, route.takesPath path = false) ∨
      ∃ earlier route later, routes = earlier ++ route :: later ∧ route.takesPath path = true ∧
        (∀ other ∈ earlier, other.takesPath path = false) ∧
        ∀ other ∈ later, other.takesPath path = true → other = route := by
  cases found : routes.find? (·.takesPath path) with
  | none =>
      left
      simpa using found
  | some route =>
      right
      rcases List.find?_eq_some_iff_append.1 found with ⟨taken, earlier, later, rfl, missed⟩
      refine ⟨earlier, route, later, rfl, taken, by simpa using missed, ?_⟩
      intro other listed otherTaken
      exact sole path other (by simp [listed]) route (by simp) otherTaken taken

theorem search_of_missed (missed : ∀ route ∈ earlier, route.takesPath request.routePath = false)
    (remembered : Option Route) :
    search request remembered (earlier ++ later) = search request remembered later := by
  induction earlier with
  | nil => rfl
  | cons route rest ih =>
      rcases List.forall_mem_cons.1 missed with ⟨own, others⟩
      rw [List.cons_append, search, Route.judge_of_missed own]
      exact ih others

/-- A route that is remembered is the one in the end, if no other one takes the path. -/
theorem search_of_remembered (unmet : route.judge request = .ok .pathOnly)
    (only : ∀ other ∈ later, other.takesPath request.routePath = true → other = route) :
    search request (some route) later = .ok (some (route, false)) := by
  induction later with
  | nil => rfl
  | cons other rest ih =>
      rcases List.forall_mem_cons.1 only with ⟨own, others⟩
      rw [search]
      cases taken : other.takesPath request.routePath with
      | false =>
          rw [Route.judge_of_missed taken]
          exact ih others
      | true =>
          rw [own taken, unmet]
          exact ih others

theorem fault?_of_missed (missed : ∀ route ∈ routes, route.takesPath path = false) :
    fault? routes path = none := by
  refine List.findSome?_eq_none_iff.2 fun route listed => ?_
  cases unreadable : route.fault? path with
  | none => rfl
  | some fault =>
      have taken : route.takesPath path = true := Template.takes_of_fault? unreadable
      rw [missed route listed] at taken
      cases taken

theorem route?_of_missed (missed : ∀ route ∈ routes, route.takesPath request.routePath = false) :
    route? routes request = none := by
  have none : routes.find? (·.takes request) = none := by
    rw [List.find?_eq_none]
    intro route listed
    simp [Route.takes, missed route listed]
  rw [route?, none]
  simpa using missed

theorem fault?_of_split (first : ∀ other ∈ earlier, other.takesPath path = false)
    (only : ∀ other ∈ later, other.takesPath path = true → other = route) :
    fault? (earlier ++ route :: later) path = route.fault? path := by
  have nothing : earlier.findSome? (·.fault? path) = none := fault?_of_missed first
  rw [fault?, List.findSome?_append, nothing, Option.none_or, List.findSome?_cons]
  cases unreadable : route.fault? path with
  | some fault => rfl
  | none =>
      refine List.findSome?_eq_none_iff.2 fun other listed => ?_
      cases otherwise : other.fault? path with
      | none => rfl
      | some fault =>
          rw [only other listed (Template.takes_of_fault? otherwise), unreadable] at otherwise
          cases otherwise

theorem route?_of_split (taken : route.takesPath request.routePath = true)
    (first : ∀ other ∈ earlier, other.takesPath request.routePath = false)
    (only : ∀ other ∈ later, other.takesPath request.routePath = true → other = route) :
    route? (earlier ++ route :: later) request = some route := by
  have byPath :
      (earlier ++ route :: later).find? (·.takesPath request.routePath) = some route := by
    rw [List.find?_eq_some_iff_append]
    exact ⟨taken, earlier, later, rfl, by simpa using first⟩
  cases full : (earlier ++ route :: later).find? (·.takes request) with
  | none => simp only [route?, full, byPath]
  | some other =>
      have otherTakes := List.find?_some full
      rw [Route.takes, Bool.and_eq_true] at otherTakes
      rcases List.mem_append.1 (List.mem_of_find?_eq_some full) with early | late
      · rw [first other early] at otherTakes
        cases otherTakes.1
      · rcases List.mem_cons.1 late with rfl | late
        · simp only [route?, full]
        · simp only [route?, full, only other late otherTakes.1]

/-- With sole routes the search ends where the route of a request is. -/
theorem AreSole.search_eq (sole : AreSole routes) (request : Request) :
    search request none routes =
      match fault? routes request.routePath with
      | some fault => .error fault
      | none => .ok ((route? routes request).map fun route => (route, route.takes request)) := by
  rcases sole.missed_or_split request.routePath with
    missed | ⟨earlier, route, later, rfl, taken, first, only⟩
  · have ends := @search_of_missed routes [] request missed none
    rw [List.append_nil] at ends
    rw [ends, fault?_of_missed missed, route?_of_missed missed]
    rfl
  · rw [search_of_missed first, fault?_of_split first only, route?_of_split taken first only,
      search]
    cases unreadable : route.fault? request.routePath with
    | some fault =>
        rw [Route.judge_of_unreadable unreadable]
    | none =>
        have judged := Route.judge_of_readable taken unreadable
        cases full : route.takes request with
        | true =>
            rw [judged, full]
            simp [full]
        | false =>
            rw [full] at judged
            rw [judged]
            simp only [Bool.false_eq_true, if_false, Option.none_or] at judged ⊢
            rw [search_of_remembered judged only, Option.map_some, full]

theorem detourFrom_of_missed
    (missed : ∀ route ∈ earlier, route.takesPath (Path.below request.rootPath path) = false) :
    detourFrom request path (earlier ++ later) = detourFrom request path later := by
  induction earlier with
  | nil => rfl
  | cons route rest ih =>
      rcases List.forall_mem_cons.1 missed with ⟨own, others⟩
      have misses : route.judge { request with path := path } = .ok .none :=
        Route.judge_of_missed own
      rw [List.cons_append, detourFrom, misses]
      exact ih others

theorem detourFrom_of_taken (taken : route.takesPath (Path.below request.rootPath path) = true) :
    detourFrom request path (route :: later) =
      match route.fault? (Path.below request.rootPath path) with
      | some fault => .unreadable fault
      | none => .elsewhere path := by
  rw [detourFrom]
  cases unreadable : route.fault? (Path.below request.rootPath path) with
  | some fault =>
      have judged : route.judge { request with path := path } = .error fault :=
        Route.judge_of_unreadable unreadable
      rw [judged]
  | none =>
      have judged : route.judge { request with path := path } =
          .ok (if route.takes { request with path := path } then .full else .pathOnly) :=
        Route.judge_of_readable taken unreadable
      rw [judged]
      cases route.takes { request with path := path } <;> rfl

/-- The search for another spelling finds the detour of a path. -/
theorem AreSole.strayDestination_eq (sole : AreSole routes) (request : Request) :
    strayDestination request routes =
      match detour? routes request with
      | none => .nowhere
      | some path =>
        match fault? routes (Path.below request.rootPath path) with
        | some fault => .unreadable fault
        | none => .elsewhere path := by
  unfold strayDestination detour?
  by_cases atRoot : request.routePath = slash
  · simp [atRoot]
  · rcases sole.missed_or_split (Path.below request.rootPath (otherSpelling request)) with
      missed | ⟨earlier, route, later, rfl, taken, first, only⟩
    · have ends := @detourFrom_of_missed routes [] request _ missed
      rw [List.append_nil] at ends
      have nobody : routes.any
          (·.takesPath (Path.below request.rootPath (otherSpelling request))) = false := by
        simpa using missed
      simp [atRoot, ends, nobody, detourFrom]
    · have somebody : (earlier ++ route :: later).any
          (·.takesPath (Path.below request.rootPath (otherSpelling request))) = true := by
        simp [taken]
      simp only [beq_iff_eq, atRoot, if_false, bne_iff_ne, ne_eq, not_false_eq_true,
        Bool.and_eq_true, somebody, and_self, if_true, fault?_of_split first only,
        detourFrom_of_missed first, detourFrom_of_taken taken]

/-- The label of a request is the one that a search of its own finds. -/
theorem label_eq_labelFrom (sole : AreSole routes) (named : ∀ route ∈ routes, route.template ≠ [])
    (request : Request) : label routes request = labelFrom request none routes := by
  have found := @labelFrom_eq routes request named none (by simp)
  rw [Option.map_none] at found
  rw [found, sole.search_eq, label]
  cases fault? routes request.routePath with
  | some fault => rfl
  | none =>
      simp only [Except.map, Option.map_map, template]
      cases route? routes request <;> rfl

/-- A request goes where a search of its own finds that it goes. -/
theorem destination_eq_destinationFrom (sole : AreSole routes) (request : Request) :
    destination routes request = destinationFrom request routes none routes := by
  rw [destinationFrom_eq, sole.search_eq, sole.strayDestination_eq, destination,
    readableDestination]
  cases fault? routes request.routePath with
  | some fault => rfl
  | none =>
      cases route? routes request with
      | none => rfl
      | some route =>
          cases full : route.takes request with
          | true => simp [full]
          | false => simp [full]

end Routing

end FleetGate
