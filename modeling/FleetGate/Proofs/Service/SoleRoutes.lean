import FleetGate.Proofs.Service.Routes

/-!
# No two routes take one path

A prefix may have parameters, and some of them take slashes. But whatever the prefix of a service
is, what stands behind it keeps its name (`Template.piecesFrom_append`), so that a path ends with
the name of a route that takes it (`Template.isSuffix_of_fits`), and no name ends another one.
-/

namespace FleetGate

namespace Template

/-! ## What a path ends with -/

/-- A slash neither completes a parameter nor changes one. -/
theorem parameterAt?_append (front back : Text) :
    parameterAt? (front ++ .scalar '/' :: back) = parameterAt? front := by
  unfold parameterAt?
  dsimp only
  rw [nameOf_append_slash, List.drop_append_of_le_length (nameOf_length_le front)]
  cases (nameOf front).isEmpty with
  | true => rfl
  | false =>
      cases front.drop (nameOf front).length with
      | nil => rfl
      | cons mark rest =>
          simp only [List.cons_append, nameOf_append_slash,
            List.drop_append_of_le_length (nameOf_length_le rest)]
          cases rest.drop (nameOf rest).length with
          | nil => simp [CodePoint.is]
          | cons next others => rfl

theorem length_le_of_parameterAt? {text : Text} {piece : Piece} {length : Nat}
    (found : parameterAt? text = some (piece, length)) : length ≤ text.length := by
  unfold parameterAt? at found
  dsimp only at found
  split at found
  · rename_i mark rest _ behind
    have size := congrArg List.length behind
    rw [List.length_drop, List.length_cons] at size
    split at found
    · cases found
      omega
    · split at found
      · rename_i closed
        cases found
        cases after : rest.drop (nameOf rest).length with
        | nil => simp [after] at closed
        | cons next others =>
            have closing := congrArg List.length after
            rw [List.length_drop, List.length_cons] at closing
            omega
      · cases found
  · cases found

theorem piecesFrom_append {skip : Nat} {front : Text} (within : skip ≤ front.length)
    (back : Text) :
    piecesFrom skip (front ++ .scalar '/' :: back) =
      piecesFrom skip front ++ pieces (.scalar '/' :: back) := by
  induction front generalizing skip with
  | nil =>
      rw [List.length_nil, Nat.le_zero] at within
      rw [within]
      rfl
  | cons point rest ih =>
      cases skip with
      | succ skip => exact ih (Nat.le_of_succ_le_succ within)
      | zero =>
          have plain := ih (Nat.zero_le rest.length)
          simp only [List.cons_append, piecesFrom, parameterAt?_append]
          split
          · split
            · rename_i piece length found
              rw [ih (length_le_of_parameterAt? found), List.cons_append]
            · rw [plain, List.cons_append]
          · rw [plain, List.cons_append]

/-- A path ends with what stands for itself at the end of a template. -/
theorem isSuffix_of_fits {earlier : List Piece} {own path : Text}
    (taken : fits (earlier ++ own.map .point) path = true) :
    own <:+ path ∨ own ++ Text.ofChar '\n' <:+ path := by
  induction earlier generalizing path with
  | nil =>
      rcases fits_map_point_iff.1 taken with rfl | rfl
      · exact Or.inl List.suffix_rfl
      · exact Or.inr List.suffix_rfl
  | cons piece rest ih =>
      cases piece with
      | point point =>
          cases path with
          | nil => cases taken
          | cons first behind =>
              simp only [List.cons_append, fits, Bool.and_eq_true] at taken
              have later := List.suffix_cons first behind
              exact (ih taken.2).imp (·.trans later) (·.trans later)
      | parameter name word =>
          simp only [List.cons_append, fits] at taken
          split at taken
          · cases taken
          · rcases List.any_eq_true.1 taken with ⟨length, _, cut⟩
            have later := List.drop_suffix length path
            rw [Bool.and_eq_true] at cut
            exact (ih cut.2).imp (·.trans later) (·.trans later)

/-- Only a path that fits has parts that cannot be read. -/
theorem takes_of_fault? {template path : Text} {fault : Fault}
    (unreadable : fault? template path = some fault) : takes template path = true := by
  rcases Option.bind_eq_some_iff.1 unreadable with ⟨parts, cut, _⟩
  rw [takes, ← isSome_parts?, cut]
  rfl

end Template

namespace Routing

/-! ## No two routes take one path -/

theorem pieces_route (apiPrefix : Text) (endpoint : Endpoint) :
    Template.pieces (route apiPrefix endpoint).template =
      Template.pieces (frontOf apiPrefix endpoint) ++ (nameOf endpoint).map .point := by
  rcases nameOf_plain endpoint with ⟨back, named, standing⟩
  rw [← standing]
  simp only [route]
  rw [named]
  exact Template.piecesFrom_append (Nat.zero_le _) back

/-- A path ends with the name of an endpoint whose route takes it. -/
theorem isSuffix_of_takesPath {apiPrefix path : Text} {endpoint : Endpoint}
    (taken : (route apiPrefix endpoint).takesPath path = true) :
    nameOf endpoint <:+ path ∨ nameOf endpoint ++ Text.ofChar '\n' <:+ path := by
  rw [Route.takesPath, Template.takes, pieces_route] at taken
  exact Template.isSuffix_of_fits taken

/-- No name of an endpoint ends another one, with a line feed or without. -/
theorem eq_of_isSuffix {endpoint other : Endpoint} {path : Text}
    (ends : nameOf endpoint <:+ path ∨ nameOf endpoint ++ Text.ofChar '\n' <:+ path)
    (otherEnds : nameOf other <:+ path ∨ nameOf other ++ Text.ofChar '\n' <:+ path) :
    endpoint = other := by
  -- Two texts that end the same path meet: one of them ends the other.
  have meet : ∃ own ∈ [nameOf endpoint, nameOf endpoint ++ Text.ofChar '\n'],
      ∃ theirs ∈ [nameOf other, nameOf other ++ Text.ofChar '\n'],
        own <:+ theirs ∨ theirs <:+ own := by
    rcases ends with own | own <;> rcases otherEnds with theirs | theirs
    all_goals
      exact ⟨_, by simp, _, by simp, List.suffix_or_suffix_of_suffix own theirs⟩
  clear ends otherEnds
  revert meet
  rcases endpoint with (_ | _ | _ | _) | _ | _ | (_ | _) | _ <;>
    rcases other with (_ | _ | _ | _) | _ | _ | (_ | _) | _ <;> decide

/-- A path is taken by one route at most, whatever the parameters of the prefix are. -/
theorem eq_of_takesPath {apiPrefix path : Text} {own other : Route}
    (listed : own ∈ routes apiPrefix) (otherListed : other ∈ routes apiPrefix)
    (taken : own.takesPath path = true) (otherTaken : other.takesPath path = true) :
    own = other := by
  rw [eq_route_of_mem listed] at taken ⊢
  rw [eq_route_of_mem otherListed] at otherTaken ⊢
  have same := eq_of_isSuffix (isSuffix_of_takesPath taken) (isSuffix_of_takesPath otherTaken)
  rw [same]

end Routing

end FleetGate
