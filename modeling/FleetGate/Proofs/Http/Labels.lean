import FleetGate.Proofs.Http.Guards
import Mathlib.Data.List.Forall2

/-!
# Labels of paths

The label of a path is made segment by segment: cutting the label gives the segments of the path
again, each as it is or replaced (`Path.segments_label`). That holds for all paths, also with empty
segments, because no segment of a label holds a slash. What two labels share is then a matter of
single segments: a replaced segment and one that is the placeholder from the start cannot be told
apart afterwards, and nothing else is lost (`Path.labelSegment_eq_iff`).
-/

namespace FleetGate

namespace Path

/-- A segment that a label replaces: 36 code points, four of them hyphens. -/
def HasIdentifierForm (segment : Text) : Prop :=
  segment.length = 36 ∧ segment.count (.scalar '-') = 4

/-- What a label shows in the place of a segment. -/
def IsShownAs (segment shown : Text) : Prop :=
  HasIdentifierForm segment ∧ shown = placeholder ∨ ¬HasIdentifierForm segment ∧ shown = segment

/-- A segment that stands as the placeholder in a label. -/
def ShowsPlaceholder (segment : Text) : Prop :=
  HasIdentifierForm segment ∨ segment = placeholder

/-- Two segments that cannot be told apart in a label. -/
def LooksLike (left right : Text) : Prop :=
  left = right ∨ ShowsPlaceholder left ∧ ShowsPlaceholder right

variable {segment left right : Text}

theorem isIdentifier_iff : isIdentifier segment = true ↔ HasIdentifierForm segment := by
  have hyphens : segment.countP (·.is '-') = segment.count (.scalar '-') := by
    apply List.countP_congr
    intro point _
    rw [CodePoint.is_eq_true_iff, beq_iff_eq]
  simp [isIdentifier, HasIdentifierForm, hyphens]

/-! ## One segment -/

theorem labelSegment_of_form (form : HasIdentifierForm segment) :
    labelSegment segment = placeholder := by
  rw [labelSegment, if_pos (isIdentifier_iff.2 form)]

theorem labelSegment_of_not_form (form : ¬HasIdentifierForm segment) :
    labelSegment segment = segment := by
  rw [labelSegment, if_neg (mt isIdentifier_iff.1 form)]

theorem isShownAs_labelSegment (segment : Text) : IsShownAs segment (labelSegment segment) := by
  by_cases form : HasIdentifierForm segment
  · exact Or.inl ⟨form, labelSegment_of_form form⟩
  · exact Or.inr ⟨form, labelSegment_of_not_form form⟩

/-- The placeholder is too short to be replaced. -/
theorem not_hasIdentifierForm_placeholder : ¬HasIdentifierForm placeholder := by
  intro form
  exact absurd form.1 (by decide)

theorem not_hasIdentifierForm_labelSegment (segment : Text) :
    ¬HasIdentifierForm (labelSegment segment) := by
  by_cases form : HasIdentifierForm segment
  · rw [labelSegment_of_form form]
    exact not_hasIdentifierForm_placeholder
  · rw [labelSegment_of_not_form form]
    exact form

theorem labelSegment_labelSegment (segment : Text) :
    labelSegment (labelSegment segment) = labelSegment segment :=
  labelSegment_of_not_form (not_hasIdentifierForm_labelSegment segment)

theorem slash_notMem_labelSegment (whole : .scalar '/' ∉ segment) :
    .scalar '/' ∉ labelSegment segment := by
  by_cases form : HasIdentifierForm segment
  · rw [labelSegment_of_form form]
    decide
  · rw [labelSegment_of_not_form form]
    exact whole

theorem labelSegment_eq_placeholder_iff :
    labelSegment segment = placeholder ↔ ShowsPlaceholder segment := by
  by_cases form : HasIdentifierForm segment
  · simp [labelSegment_of_form form, ShowsPlaceholder, form]
  · simp [labelSegment_of_not_form form, ShowsPlaceholder, form]

theorem labelSegment_eq_iff :
    labelSegment left = labelSegment right ↔ LooksLike left right := by
  constructor
  · intro alike
    by_cases leftForm : HasIdentifierForm left
    · right
      refine ⟨Or.inl leftForm, labelSegment_eq_placeholder_iff.1 ?_⟩
      rw [← alike, labelSegment_of_form leftForm]
    · by_cases rightForm : HasIdentifierForm right
      · right
        refine ⟨labelSegment_eq_placeholder_iff.1 ?_, Or.inl rightForm⟩
        rw [alike, labelSegment_of_form rightForm]
      · left
        rwa [labelSegment_of_not_form leftForm, labelSegment_of_not_form rightForm] at alike
  · rintro (rfl | ⟨leftShown, rightShown⟩)
    · rfl
    · rw [labelSegment_eq_placeholder_iff.2 leftShown, labelSegment_eq_placeholder_iff.2 rightShown]

/-! ## All segments -/

theorem segments_label (path : Text) :
    segments (label path) = (segments path).map labelSegment := by
  apply Text.splitOn_eq_iff.2
  refine ⟨?_, ?_, rfl⟩
  · simp [segments_ne_nil]
  · intro shown listed
    rcases List.mem_map.1 listed with ⟨own, ownListed, rfl⟩
    exact slash_notMem_labelSegment (Text.notMem_of_mem_splitOn ownListed)

theorem label_label (path : Text) : label (label path) = label path := by
  have again : (segments (label path)).map labelSegment = segments (label path) := by
    rw [segments_label, List.map_map]
    apply List.map_congr_left
    intro segment _
    exact labelSegment_labelSegment segment
  rw [label, again, ofSegments_segments]

theorem label_eq_iff :
    label left = label right ↔
      (segments left).map labelSegment = (segments right).map labelSegment := by
  constructor
  · intro alike
    rw [← segments_label, alike, segments_label]
  · intro alike
    rw [label, alike, label]

/-- The label of a path has as many segments as the path, in the same order: the placeholder for
exactly those of the form of an identifier, and all others as they are. Making the label of a label
changes nothing, and no segment of that form is left in it. Two paths share a label exactly if they
have equally many segments and at each place equal ones, or two that both have that form or are the
placeholder already. -/
theorem label_by_segments (path : Text) :
    (segments (label path)).length = (segments path).length ∧
      (segments path).Forall₂ IsShownAs (segments (label path)) ∧
      label (label path) = label path ∧
      (∀ shown ∈ segments (label path), ¬HasIdentifierForm shown) ∧
      ∀ other, label path = label other ↔ (segments path).Forall₂ LooksLike (segments other) := by
  refine ⟨?_, ?_, label_label path, ?_, ?_⟩
  · rw [segments_label, List.length_map]
  · rw [segments_label, List.forall₂_map_right_iff, List.forall₂_same]
    intro segment _
    exact isShownAs_labelSegment segment
  · intro shown listed
    rw [segments_label] at listed
    rcases List.mem_map.1 listed with ⟨own, _, rfl⟩
    exact not_hasIdentifierForm_labelSegment own
  · intro other
    rw [label_eq_iff, ← List.forall₂_eq_eq_eq, List.forall₂_map_left_iff,
      List.forall₂_map_right_iff]
    simp only [labelSegment_eq_iff]

example : label "/api/v1/drivers/6f1c1a8e-2b7d-4c55-9a8e-0d7b8f7e9c21/orders" =
    Text.ofString "/api/v1/drivers/\x7bid\x7d/orders" := by
  decide

end Path

end FleetGate
