import FleetGate.Http.Path
import FleetGate.Proofs.Text.Pieces

/-!
# Guarded paths

A guard compares a path with its prefix code point by code point. What it decides can be said in
segments alone: a path is guarded exactly if its segments start with those of the prefix
(`Path.segments_isPrefix_iff`). The slash that the guard wants behind its prefix stands for the end
of the last segment, so that no longer name passes for it.
-/

namespace FleetGate

namespace Path

theorem segments_ne_nil (path : Text) : segments path ≠ [] :=
  Text.splitOn_ne_nil '/' path

theorem segments_append (front back : Text) :
    segments (front ++ .scalar '/' :: back) = segments front ++ segments back :=
  Text.splitOn_append '/' front back

/-- Segments start with others if the path is the other one or goes on behind a slash. -/
theorem segments_isPrefix_iff {own path : Text} :
    segments own <+: segments path ↔ path = own ∨ own ++ Text.ofChar '/' <+: path := by
  constructor
  · rintro ⟨rest, cut⟩
    have whole := ofSegments_segments path
    rw [← cut, ofSegments] at whole
    cases rest with
    | nil =>
        left
        rw [← whole, List.append_nil]
        exact ofSegments_segments own
    | cons next others =>
        right
        rw [Text.joinWith_append _ (segments_ne_nil own) (List.cons_ne_nil next others)] at whole
        have front : Text.joinWith (Text.ofChar '/') (segments own) = own :=
          ofSegments_segments own
        rw [front] at whole
        exact ⟨_, whole⟩
  · rintro (rfl | ⟨rest, rfl⟩)
    · exact List.prefix_rfl
    · rw [List.append_assoc]
      exact ⟨segments rest, (segments_append own rest).symm⟩

/-! ## Slashes at the end -/

theorem dropTrailingSlashes_append (path : Text) (count : Nat) :
    dropTrailingSlashes (path ++ List.replicate count (.scalar '/')) =
      dropTrailingSlashes path := by
  rw [dropTrailingSlashes, List.reverse_append, List.reverse_replicate, List.dropWhile_append,
    List.dropWhile_replicate]
  simp [dropTrailingSlashes]

/-- What is dropped is a number of slashes, and no slash is left. -/
theorem exists_slashes_of_dropTrailingSlashes (path : Text) :
    (∃ count, path = dropTrailingSlashes path ++ List.replicate count (.scalar '/')) ∧
      (dropTrailingSlashes path).getLast? ≠ some (.scalar '/') := by
  constructor
  · refine ⟨(path.reverse.takeWhile (·.is '/')).length, ?_⟩
    have slashes : path.reverse.takeWhile (·.is '/') =
        List.replicate (path.reverse.takeWhile (·.is '/')).length (.scalar '/') := by
      rw [List.eq_replicate_iff]
      refine ⟨rfl, fun point listed => ?_⟩
      exact (CodePoint.is_eq_true_iff _ _).1 (List.all_eq_true.1 List.all_takeWhile point listed)
    have whole := List.takeWhile_append_dropWhile (p := (·.is '/')) (l := path.reverse)
    rw [slashes] at whole
    have turned := congrArg List.reverse whole
    rw [List.reverse_append, List.reverse_replicate, List.reverse_reverse] at turned
    exact turned.symm
  · rw [dropTrailingSlashes, List.getLast?_reverse]
    intro last
    have kept := List.head?_dropWhile_not (·.is '/') path.reverse
    rw [last] at kept
    cases kept

end Path

namespace Guard

variable {configured path : Text}

theorem covers_ofPrefix_iff :
    (ofPrefix configured).covers path = true ↔
      Path.dropTrailingSlashes configured = [] ∨
        Path.segments (Path.dropTrailingSlashes configured) <+: Path.segments path := by
  rw [Path.segments_isPrefix_iff]
  simp [covers, ofPrefix, Text.startsWith, or_assoc]

theorem covers_below (covered : (ofPrefix configured).covers path = true) (below : Text) :
    (ofPrefix configured).covers (path ++ .scalar '/' :: below) = true := by
  rw [covers_ofPrefix_iff] at covered ⊢
  refine covered.imp_right fun starts => ?_
  rw [Path.segments_append]
  exact starts.trans (List.prefix_append _ _)

theorem covers_sibling (named : Path.dropTrailingSlashes configured ≠ []) {point : CodePoint}
    (differs : point ≠ .scalar '/') (rest : Text) :
    (ofPrefix configured).covers (Path.dropTrailingSlashes configured ++ point :: rest) =
      false := by
  rw [Bool.eq_false_iff, ne_eq, covers_ofPrefix_iff, Path.segments_isPrefix_iff]
  rintro (isEmpty | same | starts)
  · exact named isEmpty
  · simp at same
  · rw [List.prefix_append_right_inj, Text.ofChar, List.cons_prefix_cons] at starts
    exact differs starts.1.symm

/-- A prefix counts without the slashes at its end, however many there are. If nothing is left,
every path is guarded; otherwise a path is guarded exactly if its segments start with those of the
prefix. So what stands below a guarded path is guarded, and a name that only starts like the prefix
is not. -/
theorem guards_by_segments (configured : Text) :
    let own := Path.dropTrailingSlashes configured
    ((∃ count, configured = own ++ List.replicate count (.scalar '/')) ∧
        own.getLast? ≠ some (.scalar '/')) ∧
      (own = [] → ∀ path, (ofPrefix configured).covers path = true) ∧
      (own ≠ [] → ∀ path, (ofPrefix configured).covers path = true ↔
        Path.segments own <+: Path.segments path) ∧
      (∀ count, ofPrefix (configured ++ List.replicate count (.scalar '/')) =
        ofPrefix configured) ∧
      (∀ path, (ofPrefix configured).covers path = true →
        ∀ below, (ofPrefix configured).covers (path ++ .scalar '/' :: below) = true) ∧
      (own ≠ [] → ∀ point, point ≠ .scalar '/' →
        ∀ rest, (ofPrefix configured).covers (own ++ point :: rest) = false) := by
  intro own
  refine ⟨Path.exists_slashes_of_dropTrailingSlashes configured, ?_, ?_, ?_, ?_, ?_⟩
  · intro isEmpty path
    exact covers_ofPrefix_iff.2 (Or.inl isEmpty)
  · intro named path
    rw [covers_ofPrefix_iff]
    exact or_iff_right named
  · intro count
    rw [ofPrefix, Path.dropTrailingSlashes_append, ofPrefix]
  · intro path covered below
    exact covers_below covered below
  · intro named point differs rest
    exact covers_sibling named differs rest

end Guard

end FleetGate
