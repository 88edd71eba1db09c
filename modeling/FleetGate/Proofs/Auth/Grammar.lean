import FleetGate.Proofs.Auth.Stages
import FleetGate.Proofs.Text.Words

/-!
# The grammar of a credential

A header value presents a token when it is the word `Bearer`, a gap and the token, with gaps at its
two ends that may be empty. This is said here without the splitting of a text into words, and
reading a credential finds the token exactly then. Every other value is malformed, unless there is
nothing in it, which counts as no value at all.

What the gaps are made of plays no part in this. The one value to which white space may not be
added is the empty one: it is missing, and a value of white space alone is malformed.
-/

namespace FleetGate

namespace Credential

open Text

/-- The header value spells a token. -/
structure Spells (value token : Text) (before between after : Text) : Prop where
  spelled : value = before ++ scheme ++ between ++ token ++ after
  before_gap : IsGap before
  between_gap : IsGap between
  after_gap : IsGap after
  separated : between ≠ []
  nonempty : token ≠ []
  unbroken : IsUnbroken token

/-- There is no header value. -/
def missing : AuthFailure := .of .missingCredential "missing authorization header"

/-- The header value is not the right word and a token. -/
def malformed : AuthFailure := .of .malformedCredential "invalid authorization format"

theorem isUnbroken_scheme : IsUnbroken scheme := by
  decide

theorem splitBlank_of_spells {value own before between after : Text}
    (spells : Spells value own before between after) : splitBlank value = [scheme, own] := by
  rw [spells.spelled, splitBlank_append_gap_end spells.after_gap, List.append_assoc before,
    List.append_assoc before, splitBlank_gap_append spells.before_gap,
    splitBlank_append_gap spells.between_gap spells.separated,
    splitBlank_word (by decide) isUnbroken_scheme, splitBlank_word spells.nonempty spells.unbroken,
    List.singleton_append]

theorem exists_spells_of_splitBlank {value own : Text} (split : splitBlank value = [scheme, own]) :
    ∃ before between after, Spells value own before between after := by
  rcases exists_of_splitBlank_cons split with
    ⟨before, rest, rfl, beforeGap, _, _, restSplit, restStart⟩
  rcases exists_of_splitBlank_cons restSplit with
    ⟨between, after, rfl, betweenGap, nonempty, unbroken, afterSplit, _⟩
  refine ⟨before, between, after, by simp, beforeGap, betweenGap, isGap_of_splitBlank afterSplit,
    ?_, nonempty, unbroken⟩
  -- Without a gap the token would begin with a blank, because the scheme ends in front of one.
  rintro rfl
  rcases List.exists_cons_of_ne_nil nonempty with ⟨first, others, rfl⟩
  have isBlank : first.isBlank = true := restStart first rfl
  rw [unbroken first List.mem_cons_self] at isBlank
  cases isBlank

theorem token_eq_ok_iff_spells {value own : Text} :
    token (some value) = .ok own ↔
      ∃ before between after, Spells value own before between after := by
  rw [token_eq_ok_iff]
  constructor
  · rintro ⟨_, same, split⟩
    cases same
    exact exists_spells_of_splitBlank split
  · rintro ⟨before, between, after, spells⟩
    exact ⟨value, rfl, splitBlank_of_spells spells⟩

theorem token_of_not_spells {value : Text} (nonempty : value ≠ [])
    (noToken : ∀ own before between after, ¬Spells value own before between after) :
    token (some value) = .error malformed := by
  cases value with
  | nil => exact absurd rfl nonempty
  | cons first rest =>
      simp only [token]
      split
      · rename_i word own words
        by_cases isScheme : word = scheme
        · subst isScheme
          rcases exists_spells_of_splitBlank words with ⟨before, between, after, spells⟩
          exact absurd spells (noToken own before between after)
        · rw [if_neg isScheme]
          rfl
      · rfl

/-- Of a value that is there only its words matter. -/
theorem token_congr {value other : Text} (nonempty : value ≠ []) (otherNonempty : other ≠ [])
    (sameWords : splitBlank value = splitBlank other) :
    token (some value) = token (some other) := by
  cases value with
  | nil => exact absurd rfl nonempty
  | cons first rest =>
      cases other with
      | nil => exact absurd rfl otherNonempty
      | cons otherFirst otherRest => simp only [token, sameWords]

/-- Which values present which token, what is said of the others, and that it does not matter how
long the gaps are and what they are made of. -/
theorem token_by_grammar :
    (∀ value own, token (some value) = .ok own ↔
        ∃ before between after, Spells value own before between after) ∧
      token none = .error missing ∧ token (some []) = .error missing ∧
      (∀ value, value ≠ [] → (∀ own before between after, ¬Spells value own before between after) →
        token (some value) = .error malformed) ∧
      (∀ left gap other right, IsGap gap → gap ≠ [] → IsGap other → other ≠ [] →
        token (some (left ++ gap ++ right)) = token (some (left ++ other ++ right))) ∧
      ∀ value before after, value ≠ [] → IsGap before → IsGap after →
        token (some (before ++ value ++ after)) = token (some value) := by
  refine ⟨fun value own => token_eq_ok_iff_spells, rfl, rfl, fun value => token_of_not_spells,
    ?_, ?_⟩
  · intro left gap other right isGap nonempty otherGap otherNonempty
    apply token_congr (by simp [nonempty]) (by simp [otherNonempty])
    rw [splitBlank_append_gap isGap nonempty, splitBlank_append_gap otherGap otherNonempty]
  · intro value before after nonempty beforeGap afterGap
    apply token_congr (by simp [nonempty]) nonempty
    rw [splitBlank_append_gap_end afterGap, splitBlank_gap_append beforeGap]

/-- A token between wide blanks, separators and tabs. -/
theorem wideGaps_present :
    token (some "\u3000Bearer\x1f\tabc\u2028") = .ok "abc" ∧
      token (some "Bearer\x1f\tabc") = token (some "Bearer abc") ∧
      token (some "\u3000Bearer abc\u2028") = token (some "Bearer abc") ∧
      token (some "Bearerabc") = .error malformed := by
  rcases token_by_grammar with ⟨found, _, _, refused, replaced, added⟩
  have spells : Spells "\u3000Bearer\x1f\tabc\u2028" "abc" "\u3000" "\x1f\t" "\u2028" := by
    constructor <;> decide
  refine ⟨(found _ _).2 ⟨_, _, _, spells⟩, ?_, ?_, ?_⟩
  · exact replaced "Bearer" "\x1f\t" " " "abc" (by decide) (by decide) (by decide) (by decide)
  · exact added "Bearer abc" "\u3000" "\u2028" (by decide) (by decide) (by decide)
  · apply refused "Bearerabc" (by decide)
    intro own before between after spells
    cases splitBlank_of_spells spells

/-- White space may not be added to an empty value: that is missing, and a blank is malformed. -/
theorem blank_is_not_missing :
    ¬∀ value before after, IsGap before → IsGap after →
      token (some (before ++ value ++ after)) = token (some value) := by
  intro unchanged
  have same : (.error malformed : Except AuthFailure Text) = .error missing :=
    unchanged [] " " [] (by decide) isGap_nil
  have sameKind := congrArg AuthFailure.kind (Except.error.inj same)
  cases sameKind

end Credential

end FleetGate
