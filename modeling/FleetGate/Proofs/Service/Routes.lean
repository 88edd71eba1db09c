import FleetGate.Service.Basic

/-!
# Routes and guards

Routes compare paths with templates, and guards compare them with prefixes. Without names in its
braces a template takes itself alone, but for a line feed at the end, and what stands behind a
prefix of that kind keeps its own names (`Template.pieces_append`). Below such a prefix the two ways
to look at a path agree: a guard covers a path that a route takes exactly when the route shows the
profile of its kind (`Service.guard_covers_iff`).

No prefix lets the guards of two kinds meet at one path (`Service.kind_eq_of_covers`), since behind
the prefix the path would have to go on in two ways.
-/

namespace FleetGate

namespace Template

theorem takeWhile_append_slash (front back : Text) :
    (front ++ .scalar '/' :: back).takeWhile isNamePoint = front.takeWhile isNamePoint := by
  induction front with
  | nil => rfl
  | cons point rest ih => simp only [List.cons_append, List.takeWhile_cons, ih]

theorem nameOf_append_slash (front back : Text) :
    nameOf (front ++ .scalar '/' :: back) = nameOf front := by
  cases front with
  | nil => rfl
  | cons point rest =>
      have stays := takeWhile_append_slash (point :: rest) back
      simp only [List.cons_append] at stays ⊢
      simp only [nameOf, stays]

theorem nameOf_length_le (text : Text) : (nameOf text).length ≤ text.length := by
  unfold nameOf
  split
  · exact Nat.le_refl 0
  · split
    · exact (List.takeWhile_sublist _).length_le
    · exact Nat.zero_le _

/-- A slash cannot complete a parameter. -/
theorem parameterAt?_append_slash {front : Text} (plain : parameterAt? front = none)
    (back : Text) : parameterAt? (front ++ .scalar '/' :: back) = none := by
  unfold parameterAt? at plain ⊢
  dsimp only at plain ⊢
  rw [nameOf_append_slash, List.drop_append_of_le_length (nameOf_length_le front)]
  cases named : (nameOf front).isEmpty with
  | true => rfl
  | false =>
      cases behind : front.drop (nameOf front).length with
      | nil => rfl
      | cons mark rest =>
          simp only [named, behind] at plain
          simp only [List.cons_append, nameOf_append_slash,
            List.drop_append_of_le_length (nameOf_length_le rest)]
          cases after : rest.drop (nameOf rest).length with
          | nil => simpa [after] using plain
          | cons next others => simpa [after] using plain

theorem exists_parameter_of_parameterAt? {text : Text} {piece : Piece} {length : Nat}
    (found : parameterAt? text = some (piece, length)) :
    ∃ name word, piece = .parameter name word := by
  unfold parameterAt? at found
  dsimp only at found
  split at found
  · split at found
    · cases found
      exact ⟨_, _, rfl⟩
    · split at found
      · cases found
        exact ⟨_, _, rfl⟩
      · cases found
  · cases found

/-- A code point at the start of a template without parameters opens none. -/
theorem pieces_cons {point : CodePoint} {rest : Text} (plain : parameters (point :: rest) = []) :
    pieces (point :: rest) = .point point :: pieces rest ∧ parameters rest = [] ∧
      (point.is '\x7b' = true → parameterAt? rest = none) := by
  unfold parameters at plain ⊢
  unfold pieces at plain ⊢
  rw [piecesFrom] at plain ⊢
  split at plain
  · rename_i opens
    cases found : parameterAt? rest with
    | none => simpa [opens, found] using plain
    | some parameter =>
        rcases exists_parameter_of_parameterAt? found with ⟨name, word, same⟩
        simp [found, same] at plain
  · rename_i stands
    simpa [stands] using plain

/-- A template without parameters goes on as what stands behind it does. -/
theorem pieces_append {front : Text} (plain : parameters front = []) (back : Text) :
    pieces (front ++ .scalar '/' :: back) =
      front.map .point ++ pieces (.scalar '/' :: back) := by
  -- Without the slash a brace that `front` leaves open could be closed in `back`.
  induction front with
  | nil => rfl
  | cons point rest ih =>
      rcases pieces_cons plain with ⟨_, plainRest, noParameter⟩
      have goesOn : pieces ((point :: rest) ++ .scalar '/' :: back) =
          .point point :: pieces (rest ++ .scalar '/' :: back) := by
        unfold pieces
        rw [List.cons_append, piecesFrom]
        split
        · rename_i opens
          rw [parameterAt?_append_slash (noParameter opens)]
        · rfl
      rw [goesOn, ih plainRest, List.map_cons, List.cons_append]

theorem parameters_of_pieces {template : Text} (own : Text)
    (standing : pieces template = own.map .point) : parameters template = [] := by
  rw [parameters, standing]
  simp

theorem check_of_plain {template : Text} (plain : parameters template = []) :
    check template = .ok () := by
  simp [check, plain, repeated]

/-- Pieces that stand for themselves fit one text, but for a line feed at its end. -/
theorem fits_map_point_iff {own path : Text} :
    fits (own.map .point) path = true ↔ path = own ∨ path = own ++ Text.ofChar '\n' := by
  induction own generalizing path with
  | nil => simp [fits]
  | cons point rest ih =>
      cases path with
      | nil => simp [fits]
      | cons first behind =>
          simp only [List.map_cons, fits, Bool.and_eq_true, beq_iff_eq, ih, List.cons_append,
            List.cons.injEq]
          constructor
          · rintro ⟨rfl, rfl | rfl⟩
            · exact Or.inl ⟨rfl, rfl⟩
            · exact Or.inr ⟨rfl, rfl⟩
          · rintro (⟨rfl, rfl⟩ | ⟨rfl, rfl⟩)
            · exact ⟨rfl, Or.inl rfl⟩
            · exact ⟨rfl, Or.inr rfl⟩

theorem takes_append_iff {front back path : Text} (plain : parameters front = [])
    (own : pieces (.scalar '/' :: back) = (.scalar '/' :: back).map .point) :
    takes (front ++ .scalar '/' :: back) path = true ↔
      path = front ++ .scalar '/' :: back ∨
        path = front ++ .scalar '/' :: back ++ Text.ofChar '\n' := by
  rw [takes, pieces_append plain, own, ← List.map_append, fits_map_point_iff]

/-- The kind of part that a piece stands for, if it is a parameter. -/
def Piece.kind? : Piece → Option Kind
  | .point _ => none
  | .parameter _ word => Kind.ofWord? word

/-- The part for a parameter is cut off in front of the parts for the pieces behind it. -/
theorem exists_cut_of_parts? {name word path : Text} {rest : List Piece}
    {parts : List (Kind × Text)} (cut : parts? (.parameter name word :: rest) path = some parts) :
    ∃ kind length later, Kind.ofWord? word = some kind ∧ length ≤ path.length ∧
      parts? rest (path.drop length) = some later ∧ parts = (kind, path.take length) :: later := by
  unfold parts? at cut
  cases known : Kind.ofWord? word with
  | none =>
      rw [known] at cut
      cases cut
  | some kind =>
      rw [known] at cut
      rcases List.exists_of_findSome?_eq_some cut with ⟨length, listed, found⟩
      split at found
      · rcases Option.map_eq_some_iff.1 found with ⟨later, behind, same⟩
        have bounded : length < path.length + 1 := by simpa using listed
        exact ⟨kind, length, later, rfl, Nat.le_of_lt_succ bounded, behind, same.symm⟩
      · cases found

/-- A path has one part for each parameter, of its kind. -/
theorem kinds_of_parts? {pieces : List Piece} {path : Text} {parts : List (Kind × Text)}
    (cut : parts? pieces path = some parts) :
    parts.map (·.1) = pieces.filterMap Piece.kind? := by
  induction pieces generalizing path parts with
  | nil =>
      unfold parts? at cut
      split at cut
      · cases cut
        rfl
      · cases cut
  | cons piece rest ih =>
      cases piece with
      | point own =>
          unfold parts? at cut
          cases path with
          | nil => cases cut
          | cons point behind =>
              simp only at cut
              split at cut
              · exact ih cut
              · cases cut
      | parameter name word =>
          rcases exists_cut_of_parts? cut with ⟨kind, length, later, known, _, behind, rfl⟩
          rw [List.map_cons, ih behind, List.filterMap_cons, Piece.kind?, known]

/-- What no point stands for is in some part, but for a line feed at the end. -/
theorem length_le_of_parts? {pieces : List Piece} {path : Text} {parts : List (Kind × Text)}
    (cut : parts? pieces path = some parts) :
    path.length ≤ pieces.length + (parts.flatMap (·.2)).length + 1 := by
  induction pieces generalizing path parts with
  | nil =>
      unfold parts? at cut
      split at cut
      · rename_i ends
        have short : path = [] ∨ path = Text.ofChar '\n' := by simpa using ends
        rcases short with rfl | rfl
        · exact Nat.zero_le _
        · simp [Text.ofChar]
      · cases cut
  | cons piece rest ih =>
      cases piece with
      | point own =>
          unfold parts? at cut
          cases path with
          | nil => cases cut
          | cons point behind =>
              simp only at cut
              split at cut
              · have later := ih cut
                simp only [List.length_cons]
                omega
              · cases cut
      | parameter name word =>
          rcases exists_cut_of_parts? cut with ⟨kind, length, later, _, bounded, behind, rfl⟩
          have shorter := ih behind
          simp only [List.length_drop] at shorter
          simp only [List.length_cons, List.flatMap_cons, List.length_append, List.length_take]
          omega

/-- Without parameters there is nothing to read. -/
theorem fault?_of_plain {template : Text} (plain : parameters template = []) (path : Text) :
    fault? template path = none := by
  have noKinds : (pieces template).filterMap Piece.kind? = [] := by
    unfold parameters at plain
    rw [List.filterMap_eq_nil_iff] at plain ⊢
    intro piece listed
    have own := plain piece listed
    cases piece with
    | point point => rfl
    | parameter name word => cases own
  unfold fault?
  cases cut : parts? (pieces template) path with
  | none => rfl
  | some parts =>
      have empty : parts = [] := by
        rw [← List.map_eq_nil_iff, kinds_of_parts? cut, noKinds]
      rw [empty]
      rfl

/-- An integer with too many digits cannot be read. -/
theorem isSome_fault?_of_long {template path : Text}
    (sole : (pieces template).filterMap Piece.kind? = [.integer])
    (taken : takes template path = true)
    (long : (pieces template).length + integerDigitLimit + 1 < path.length) :
    (fault? template path).isSome = true := by
  rw [takes, ← isSome_parts?] at taken
  rcases Option.isSome_iff_exists.1 taken with ⟨parts, cut⟩
  have kinds := kinds_of_parts? cut
  have bound := length_le_of_parts? cut
  rw [sole] at kinds
  rcases List.map_eq_cons_iff.1 kinds with ⟨⟨kind, part⟩, later, rfl, rfl, alone⟩
  rw [List.map_eq_nil_iff.1 alone] at cut bound
  simp only [List.flatMap_cons, List.flatMap_nil, List.append_nil] at bound
  have tooLong : integerDigitLimit < part.length := by omega
  simp [fault?, cut, Kind.fault?, tooLong]

end Template

namespace Guard

variable {guard : Guard} {path : Text}

theorem covers_iff (named : guard.pathPrefix ≠ []) :
    guard.covers path = true ↔
      path = guard.pathPrefix ∨ guard.pathPrefix ++ Text.ofChar '/' <+: path := by
  simp [covers, named, Text.startsWith]

theorem pathPrefix_isPrefix (covered : guard.covers path = true) :
    guard.pathPrefix <+: path := by
  by_cases named : guard.pathPrefix = []
  · rw [named]
    exact List.nil_prefix
  · rcases (covers_iff named).1 covered with same | below
    · exact same ▸ List.prefix_rfl
    · exact (List.prefix_append _ _).trans below

/-- A guard does not look at what its prefix has in common with a path. -/
theorem covers_append {front own : Text} (named : own ≠ []) (behind : Text) :
    (Guard.mk (front ++ own)).covers (front ++ behind) = (Guard.mk own).covers behind := by
  rw [Bool.eq_iff_iff, covers_iff (by simp [named]), covers_iff named]
  simp [List.append_assoc, List.prefix_append_right_inj]

end Guard

namespace Routing

theorem branch_ne_nil (kind : PrincipalKind) : branch kind ≠ [] := by
  cases kind <;> decide

/-- No slash ends the prefix of a guard. -/
theorem guard_ofPrefix_branch (apiPrefix : Text) (kind : PrincipalKind) :
    Guard.ofPrefix (apiPrefix ++ branch kind) = ⟨apiPrefix ++ branch kind⟩ := by
  have ends : (branch kind).reverse.dropWhile (·.is '/') = (branch kind).reverse := by
    cases kind <;> decide
  rw [Guard.ofPrefix, Path.dropTrailingSlashes, List.reverse_append, List.dropWhile_append]
  simp [ends, branch_ne_nil]

theorem route_mem (apiPrefix : Text) (endpoint : Endpoint) :
    route apiPrefix endpoint ∈ routes apiPrefix :=
  List.mem_map_of_mem (Endpoint.mem_all endpoint)

theorem eq_route_of_mem {apiPrefix : Text} {own : Route} (listed : own ∈ routes apiPrefix) :
    own = route apiPrefix own.endpoint := by
  rcases List.mem_map.1 listed with ⟨endpoint, _, rfl⟩
  rfl

/-- The name of an endpoint starts with a slash and has no parameters. -/
theorem nameOf_plain (endpoint : Endpoint) :
    ∃ back, nameOf endpoint = .scalar '/' :: back ∧
      Template.pieces (nameOf endpoint) = (nameOf endpoint).map .point := by
  rcases endpoint with (_ | _ | _ | _) | _ | _ | (_ | _) | _ <;> exact ⟨_, rfl, by decide⟩

/-- The guards look at what stands below the prefix, and there the profiles have names of their
own. -/
theorem covers_nameOf_iff {endpoint : Endpoint} (below : endpoint.isBelow = true)
    (kind : PrincipalKind) :
    ((Guard.mk (branch kind)).covers (nameOf endpoint) = true ↔ endpoint = .profile kind) ∧
      ((Guard.mk (branch kind)).covers (nameOf endpoint ++ Text.ofChar '\n') = true ↔
        endpoint = .profile kind) := by
  cases endpoint with
  | page | root => cases below
  | profile other => cases other <;> cases kind <;> decide
  | health | metrics => cases kind <;> decide

/-- What does not stand below the prefix has no branch in its name. -/
theorem not_isInfix_of_apart {endpoint : Endpoint} (apart : endpoint.isBelow = false)
    (kind : PrincipalKind) : ¬ branch kind <:+: nameOf endpoint ++ Text.ofChar '\n' := by
  rw [← Text.contains_iff]
  cases endpoint with
  | page page => cases page <;> cases kind <;> decide
  | root => cases kind <;> decide
  | _ => cases apart

theorem parameters_frontOf {apiPrefix : Text} (plain : Template.parameters apiPrefix = [])
    (endpoint : Endpoint) : Template.parameters (frontOf apiPrefix endpoint) = [] := by
  unfold frontOf
  split
  · exact plain
  · rfl

theorem parameters_of_mem {apiPrefix : Text} {own : Route}
    (plain : Template.parameters apiPrefix = []) (listed : own ∈ routes apiPrefix) :
    Template.parameters own.template = [] := by
  have plainFront := parameters_frontOf plain own.endpoint
  rcases nameOf_plain own.endpoint with ⟨back, named, standing⟩
  refine Template.parameters_of_pieces (frontOf apiPrefix own.endpoint ++ nameOf own.endpoint) ?_
  rw [eq_route_of_mem listed]
  simp only [route]
  rw [named] at standing ⊢
  rw [Template.pieces_append plainFront, standing, List.map_append]

theorem check_of_plain {apiPrefix : Text} (formed : checkPrefix apiPrefix = .ok ())
    (plain : Template.parameters apiPrefix = []) : check apiPrefix = .ok () := by
  have inOrder (listed : List Route) (below : ∀ route ∈ listed, route ∈ routes apiPrefix) :
      (listed.forM fun route => Template.check route.template) = .ok () := by
    induction listed with
    | nil => rfl
    | cons route rest ih =>
        have own := parameters_of_mem plain (below route List.mem_cons_self)
        rw [List.forM, Template.check_of_plain own]
        exact ih fun other later => below other (List.mem_cons_of_mem route later)
  rw [check, formed]
  exact inOrder (routes apiPrefix) fun _ => id

/-- Below a prefix without parameters every path can be read. -/
theorem fault?_of_plain {apiPrefix : Text} (plain : Template.parameters apiPrefix = [])
    (path : Text) : fault? (routes apiPrefix) path = none := by
  refine List.findSome?_eq_none_iff.2 fun route listed => ?_
  exact Template.fault?_of_plain (parameters_of_mem plain listed) path

/-- A path that a route takes is the one of the route, but for a line feed. -/
theorem takesPath_iff {apiPrefix path : Text} (plain : Template.parameters apiPrefix = [])
    (endpoint : Endpoint) :
    (route apiPrefix endpoint).takesPath path = true ↔
      path = frontOf apiPrefix endpoint ++ nameOf endpoint ∨
        path = frontOf apiPrefix endpoint ++ (nameOf endpoint ++ Text.ofChar '\n') := by
  rcases nameOf_plain endpoint with ⟨back, named, standing⟩
  rw [named] at standing ⊢
  rw [Route.takesPath, route, named,
    Template.takes_append_iff (parameters_frontOf plain endpoint) standing, List.append_assoc]

end Routing

namespace Service

variable {service : Service} {path : Text}

/-- What the layer for a kind of principal guards. -/
def guard (service : Service) (kind : PrincipalKind) : Guard :=
  .ofPrefix (service.settings.apiPrefix ++ Routing.branch kind)

theorem guard_layer (service : Service) (database : Database) (kind : PrincipalKind) :
    (service.layer database kind).guard = service.guard kind := rfl

theorem guard_eq (service : Service) (kind : PrincipalKind) :
    service.guard kind = ⟨service.settings.apiPrefix ++ Routing.branch kind⟩ :=
  Routing.guard_ofPrefix_branch _ kind

theorem guard_covers_append (kind : PrincipalKind) (behind : Text) :
    (service.guard kind).covers (service.settings.apiPrefix ++ behind) =
      (Guard.mk (Routing.branch kind)).covers behind := by
  rw [guard_eq, Guard.covers_append (Routing.branch_ne_nil kind)]

/-- The guards of two kinds cover no path in common. -/
theorem kind_eq_of_covers {kind other : PrincipalKind}
    (covered : (service.guard kind).covers path = true)
    (coveredOther : (service.guard other).covers path = true) : kind = other := by
  rw [guard_eq] at covered coveredOther
  have same := List.prefix_or_prefix_of_prefix (Guard.pathPrefix_isPrefix covered)
    (Guard.pathPrefix_isPrefix coveredOther)
  simp only [List.prefix_append_right_inj] at same
  revert same
  cases kind <;> cases other <;> decide

/-- A guard covers a path that a route takes exactly when the route shows the profile of its
kind. -/
theorem guard_covers_iff {route : Route}
    (plain : Template.parameters service.settings.apiPrefix = [])
    (listed : route ∈ service.routes) (taken : route.takesPath path = true)
    (kind : PrincipalKind) :
    (service.guard kind).covers path = true ↔ route.endpoint = .profile kind := by
  rw [Routing.eq_route_of_mem listed, Routing.takesPath_iff plain, Routing.frontOf] at taken
  cases below : route.endpoint.isBelow with
  | true =>
      rw [below, if_pos rfl] at taken
      rcases Routing.covers_nameOf_iff below kind with ⟨covers, coversFeed⟩
      rcases taken with rfl | rfl
      · rw [guard_covers_append, covers]
      · rw [guard_covers_append, coversFeed]
  | false =>
      rw [below, if_neg Bool.false_ne_true, List.nil_append, List.nil_append] at taken
      refine iff_of_false (fun covered => ?_) (fun shows => by rw [shows] at below; cases below)
      rw [guard_eq] at covered
      have inside : Routing.branch kind <:+: path :=
        (List.suffix_append _ _).isInfix.trans (Guard.pathPrefix_isPrefix covered).isInfix
      refine Routing.not_isInfix_of_apart below kind ?_
      rcases taken with rfl | rfl
      · exact inside.trans (List.prefix_append _ _).isInfix
      · exact inside

theorem mem_of_route? {routes : List Route} {request : Request} {route : Route}
    (found : Routing.route? routes request = some route) :
    route ∈ routes ∧ route.takesPath request.routePath = true := by
  unfold Routing.route? at found
  split at found
  · rename_i own taken
    cases found
    have takes := List.find?_some taken
    simp only [Route.takes, Bool.and_eq_true] at takes
    exact ⟨List.mem_of_find?_eq_some taken, takes.1⟩
  · have takes := List.find?_some found
    exact ⟨List.mem_of_find?_eq_some found, takes⟩

end Service

end FleetGate
