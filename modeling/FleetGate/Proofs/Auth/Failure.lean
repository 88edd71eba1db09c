import FleetGate.Http.Message
import FleetGate.Proofs.Text.Scalar
import Mathlib.Tactic.SplitIfs

/-!
# Failures and their answers

What is raised is a failed check, a fault or something else. `Ends` says of a check how it may end
and when exactly it breaks off with a fault, and it is kept when checks follow one another.

A failed check whose detail and message are texts can be answered exactly when both of them are
scalar: the body is sent in UTF-8, and writing a text as JSON keeps its lone halves.
-/

namespace FleetGate

namespace Raised

/-- A failed check of a kind. -/
def IsFailure (kind : FailureKind) (raised : Raised) : Prop :=
  ∃ failure : AuthFailure, raised = .failure failure ∧ failure.kind = kind

/-- A failed check of a kind, with texts free of lone halves as its detail and message. -/
def IsPlainFailure (kind : FailureKind) (raised : Raised) : Prop :=
  ∃ detail message : Text, detail.IsScalar ∧ message.IsScalar ∧
    raised = .failure ⟨kind, .string detail, .string message, none⟩

/-- A plain failure of some kind. -/
def IsPlain (raised : Raised) : Prop :=
  ∃ kind, raised.IsPlainFailure kind

/-- A fault, which is no failed check. -/
def IsFault (raised : Raised) : Prop :=
  ∃ fault, raised = .fault fault

theorem IsPlainFailure.isFailure {kind : FailureKind} {raised : Raised}
    (plain : raised.IsPlainFailure kind) : raised.IsFailure kind := by
  rcases plain with ⟨detail, message, _, _, rfl⟩
  exact ⟨_, rfl, rfl⟩

theorem IsFault.not_isFailure {kind : FailureKind} {raised : Raised} (isFault : raised.IsFault) :
    ¬raised.IsFailure kind := by
  rcases isFault with ⟨fault, rfl⟩
  rintro ⟨failure, same, _⟩
  cases same

theorem IsFailure.kind_unique {left right : FailureKind} {raised : Raised}
    (isLeft : raised.IsFailure left) (isRight : raised.IsFailure right) : left = right := by
  rcases isLeft with ⟨failure, rfl, rfl⟩
  rcases isRight with ⟨other, same, rfl⟩
  cases same
  rfl

end Raised

/-- A check passes, or it refuses in a way of its own, or it breaks off with a fault, and it breaks
off exactly when something holds. -/
inductive Ends {α : Type} (refusal : Raised → Prop) (breaks : Prop) : Except Raised α → Prop where
  | passes (value : α) (intact : ¬breaks) : Ends refusal breaks (.ok value)
  | refuses (raised : Raised) (isRefusal : refusal raised) (intact : ¬breaks) :
      Ends refusal breaks (.error raised)
  | breaksOff (raised : Raised) (isFault : raised.IsFault) (broken : breaks) :
      Ends refusal breaks (.error raised)

namespace Ends

variable {α β : Type} {refusal weaker : Raised → Prop} {breaks other : Prop}
  {outcome : Except Raised α}

theorem congr (same : breaks ↔ other) (ends : Ends refusal breaks outcome) :
    Ends refusal other outcome := by
  cases ends with
  | passes value intact => exact .passes value (mt same.2 intact)
  | refuses raised isRefusal intact => exact .refuses raised isRefusal (mt same.2 intact)
  | breaksOff raised isFault broken => exact .breaksOff raised isFault (same.1 broken)

theorem mono (weaken : ∀ raised, refusal raised → weaker raised)
    (ends : Ends refusal breaks outcome) : Ends weaker breaks outcome := by
  cases ends with
  | passes value intact => exact .passes value intact
  | refuses raised isRefusal intact => exact .refuses raised (weaken raised isRefusal) intact
  | breaksOff raised isFault broken => exact .breaksOff raised isFault broken

/-- A check that follows another one may only break off if the first one passes. -/
theorem bind {later : α → Prop} {next : α → Except Raised β}
    (first : Ends refusal breaks outcome)
    (second : ∀ value, outcome = .ok value → Ends refusal (later value) (next value)) :
    Ends refusal (breaks ∨ ∃ value, outcome = .ok value ∧ later value) (outcome >>= next) := by
  cases first with
  | passes value intact =>
      have ends := second value rfl
      exact ends.congr (by simp [intact])
  | refuses raised isRefusal intact => exact .refuses raised isRefusal (by simp [intact])
  | breaksOff raised isFault broken => exact .breaksOff raised isFault (Or.inl broken)

theorem isFailure_or_isFault {kind : FailureKind} {raised : Raised}
    (ends : Ends (Raised.IsPlainFailure kind) breaks (.error raised : Except Raised α)) :
    raised.IsFailure kind ∨ raised.IsFault := by
  cases ends with
  | refuses _ plain _ => exact Or.inl plain.isFailure
  | breaksOff _ isFault _ => exact Or.inr isFault

/-- A check passes or refuses exactly when it does not break off. -/
theorem judged_iff {kind : FailureKind}
    (ends : Ends (Raised.IsPlainFailure kind) breaks outcome) :
    ((∃ value, outcome = .ok value) ∨
        ∃ failure : AuthFailure, failure.kind = kind ∧ outcome = .error (.failure failure)) ↔
      ¬breaks := by
  cases ends with
  | passes value intact => exact iff_of_true (Or.inl ⟨value, rfl⟩) intact
  | refuses raised isRefusal intact =>
      rcases isRefusal.isFailure with ⟨failure, rfl, rfl⟩
      exact iff_of_true (Or.inr ⟨failure, rfl, rfl⟩) intact
  | breaksOff raised isFault broken =>
      refine iff_of_false ?_ (fun intact => intact broken)
      rcases isFault with ⟨fault, rfl⟩
      rintro (⟨value, same⟩ | ⟨failure, _, same⟩) <;> cases same

theorem intact_of_eq_ok {value : α} (ends : Ends refusal breaks outcome)
    (passed : outcome = .ok value) : ¬breaks := by
  cases ends with
  | passes _ intact => exact intact
  | refuses _ _ intact => exact intact
  | breaksOff => cases passed

/-- How a check stops does not depend on what it would have given. -/
theorem of_error {raised : Raised} (ends : Ends refusal breaks outcome)
    (stopped : outcome = .error raised) :
    Ends refusal breaks (.error raised : Except Raised β) := by
  cases ends with
  | passes => cases stopped
  | refuses own isRefusal intact =>
      cases stopped
      exact .refuses raised isRefusal intact
  | breaksOff own isFault broken =>
      cases stopped
      exact .breaksOff raised isFault broken

theorem exists_fault (ends : Ends refusal breaks outcome) (broken : breaks) :
    ∃ fault, outcome = .error (.fault fault) := by
  cases ends with
  | passes value intact => exact absurd broken intact
  | refuses raised isRefusal intact => exact absurd broken intact
  | breaksOff raised isFault _ =>
      rcases isFault with ⟨fault, rfl⟩
      exact ⟨fault, rfl⟩

end Ends

namespace Json

theorem isScalar_escapeUnit (number : Nat) : (escapeUnit number).IsScalar := by
  simp [escapeUnit]

theorem isScalar_escapeNumber (number : Nat) : (escapeNumber number).IsScalar := by
  unfold escapeNumber
  split <;> simp [isScalar_escapeUnit]

theorem isScalar_writePoint_scalar (asciiOnly : Bool) (char : Char) :
    Text.IsScalar (writePoint asciiOnly (.scalar char)) := by
  unfold writePoint
  split_ifs <;> simp [isScalar_escapeUnit, isScalar_escapeNumber]

theorem isScalar_writeString_of_isScalar (asciiOnly : Bool) {text : Text} (scalar : text.IsScalar) :
    (writeString asciiOnly text).IsScalar := by
  simp only [writeString, Text.isScalar_append, Text.isScalar_ofChar, true_and, and_true,
    Text.isScalar_flatMap]
  intro point listed
  rcases scalar point listed with ⟨char, rfl⟩
  exact isScalar_writePoint_scalar asciiOnly char

/-- Raw writing escapes no lone half. -/
theorem isScalar_writePoint {point : CodePoint} :
    Text.IsScalar (writePoint false point) ↔ ∃ char, point = .scalar char := by
  cases point with
  | scalar char => simp [isScalar_writePoint_scalar]
  | surrogate half =>
      have large : ¬(CodePoint.surrogate half).value < 32 := by
        simp only [CodePoint.value]
        omega
      have notBackspace : (CodePoint.surrogate half).value ≠ 8 := by omega
      have notFormFeed : (CodePoint.surrogate half).value ≠ 12 := by omega
      simp [writePoint, large, notBackspace, notFormFeed]

theorem isScalar_writeString {text : Text} :
    (writeString false text).IsScalar ↔ text.IsScalar := by
  refine ⟨fun written point listed => ?_, isScalar_writeString_of_isScalar false⟩
  simp only [writeString, Text.isScalar_append, Text.isScalar_ofChar, true_and, and_true,
    Text.isScalar_flatMap] at written
  exact isScalar_writePoint.1 (written point listed)

end Json

namespace AuthFailure

/-- The body of a failure with texts has the lone halves of these texts and no others. -/
theorem isScalar_body {kind : FailureKind} {detail message : Text} {cause : Option Raised}
    {legacy : Bool} :
    (body ⟨kind, .string detail, .string message, cause⟩ legacy).IsScalar ↔
      detail.IsScalar ∧ message.IsScalar := by
  unfold body payload
  split <;>
    simp [Json.write, Json.writeFields, Json.Style.compact, Json.isScalar_writeString,
      and_comm]

theorem allFinite_payload {kind : FailureKind} {detail message : Text} {cause : Option Raised}
    {legacy : Bool} :
    (payload ⟨kind, .string detail, .string message, cause⟩ legacy).allFinite = true := by
  unfold payload
  split <;> simp [Json.allFinite, Json.allFiniteFields]

end AuthFailure

namespace Response

/-- The text of a response can be sent exactly when it is scalar. -/
theorem exists_ofText_eq_ok_iff {status : Status} {mediaType body : Text} :
    (∃ response, ofText status mediaType body = .ok response) ↔ body.IsScalar := by
  rw [← Bytes.exists_ofText_eq_ok_iff]
  unfold ofText
  cases written : Bytes.ofText body with
  | error fault => simp
  | ok bytes => simp

/-- A failed check with texts can be answered exactly when both of them are scalar. -/
theorem exists_ofFailure_eq_ok_iff {kind : FailureKind} {detail message : Text}
    {cause : Option Raised} {legacy : Bool} :
    (∃ response, ofFailure ⟨kind, .string detail, .string message, cause⟩ legacy = .ok response) ↔
      detail.IsScalar ∧ message.IsScalar := by
  have sent := @exists_ofText_eq_ok_iff (.code AuthFailure.status) jsonText
    (AuthFailure.body ⟨kind, .string detail, .string message, cause⟩ legacy)
  rw [AuthFailure.isScalar_body] at sent
  simpa only [ofFailure, ofJson, AuthFailure.allFinite_payload, if_true, AuthFailure.body]
    using sent

/-- The answer to a failed check: its status, the length and the type of its body, and the body. -/
theorem ofFailure_eq_ok {failure : AuthFailure} {legacy : Bool} {response : Response}
    (answered : ofFailure failure legacy = .ok response) :
    ∃ bytes, Bytes.ofText (failure.body legacy) = .ok bytes ∧
      response = ⟨.code 401, [("content-length", Text.ofNat bytes.length),
        ("content-type", jsonText)], failure.body legacy, none⟩ := by
  unfold ofFailure ofJson ofText at answered
  split at answered
  · cases written : Bytes.ofText ((failure.payload legacy).write .compact) with
    | error fault => simp [written] at answered
    | ok bytes =>
        simp only [written, Except.ok.injEq] at answered
        exact ⟨bytes, written, answered.symm⟩
  · simp at answered

end Response

end FleetGate
