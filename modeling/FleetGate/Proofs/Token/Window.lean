import FleetGate.Proofs.Auth.Failure
import FleetGate.Token.Window

/-!
# When claims break off

The registered claims are checked in order. Each check passes or refuses, but for one case: from
some values no time can be read at all, and a check that comes to such a value breaks off. The
clock matters here, because a token that does not hold yet is refused before its end is looked at.
-/

namespace FleetGate

/-- No time can be read from the value: it is infinite, or neither a number nor a flag nor a
text. -/
def Json.isTimeless : Json → Bool
  | null | array _ | object _ => true
  | float number =>
    match FloatParts.ofFloat number with
    | .infinite _ => true
    | _ => false
  | _ => false

namespace Claims

/-- A token is refused because of its claims. -/
abbrev IsRefusal : Raised → Prop := Raised.IsPlainFailure .tokenExpiredOrInvalid

theorem isRefusal_invalid {detail : Text} (scalar : detail.IsScalar) :
    IsRefusal (invalid detail) :=
  ⟨detail, _, scalar, Text.isScalar_ofString _, rfl⟩

/-- A time claim is there and timeless. -/
def HasTimeless (name : Text) (claims : Entries Json) : Prop :=
  ∃ value, Entries.find name claims = some value ∧ value.isTimeless = true

/-- The checks come to a timeless claim, so those in front of it have passed. -/
inductive BreakOff (now : Int) (claims : Entries Json) : Prop where
  | issued (timeless : HasTimeless "iat" claims)
  | start (issuedPasses : checkIssued claims = .ok ()) (timeless : HasTimeless "nbf" claims)
  | finish (issuedPasses : checkIssued claims = .ok ())
      (startPasses : checkStart now claims = .ok ()) (timeless : HasTimeless "exp" claims)

theorem time_ends (complaint : String) (value : Json) :
    Ends IsRefusal (value.isTimeless = true) (time complaint value) := by
  have refused : IsRefusal (invalid complaint) :=
    isRefusal_invalid (Text.isScalar_ofString complaint)
  unfold time
  cases value with
  | null => exact .breaksOff _ ⟨_, rfl⟩ rfl
  | bool flag => exact .passes _ (by simp [Json.isTimeless])
  | int number => exact .passes _ (by simp [Json.isTimeless])
  | float number =>
      simp only [Json.toInt, Json.isTimeless]
      cases FloatParts.ofFloat number with
      | nan => exact .refuses _ refused (by simp)
      | infinite negative => exact .breaksOff _ ⟨_, rfl⟩ rfl
      | zero negative => exact .passes _ (by simp)
      | finite negative magnitude => exact .passes _ (by simp)
  | string text =>
      simp only [Json.toInt, Json.isTimeless]
      cases text.toInt? with
      | none => exact .refuses _ refused (by simp)
      | some number => exact .passes _ (by simp)
  | array items => exact .breaksOff _ ⟨_, rfl⟩ rfl
  | object fields => exact .breaksOff _ ⟨_, rfl⟩ rfl

/-- A check that reads a time claim if it is there, and then only passes or refuses, breaks off
where that claim is timeless. -/
theorem ends_of_time {name : Text} {complaint : String} {claims : Entries Json}
    {check : Except Raised Unit} {next : Int → Except Raised Unit}
    (absent : Entries.find name claims = none → check = .ok ())
    (present : ∀ value, Entries.find name claims = some value →
      check = time complaint value >>= next)
    (nextEnds : ∀ number, Ends IsRefusal False (next number)) :
    Ends IsRefusal (HasTimeless name claims) check := by
  cases found : Entries.find name claims with
  | none =>
      rw [absent found]
      exact .passes _ (by simp [HasTimeless, found])
  | some value =>
      rw [present value found]
      refine ((time_ends complaint value).bind fun number _ => nextEnds number).congr ?_
      simp [HasTimeless, found]

theorem checkIssued_ends (claims : Entries Json) :
    Ends IsRefusal (HasTimeless "iat" claims) (checkIssued claims) := by
  apply ends_of_time
  · intro absent
    simp [checkIssued, absent]
  · intro value present
    simp only [checkIssued, present]
    rfl
  · exact fun number => .passes () not_false

theorem checkStart_ends (now : Int) (claims : Entries Json) :
    Ends IsRefusal (HasTimeless "nbf" claims) (checkStart now claims) := by
  have step (value : Json) (present : Entries.find "nbf" claims = some value) :
      checkStart now claims =
        time "Not Before claim (nbf) must be an integer." value >>= fun start =>
          if now < start then .error (invalid "The token is not yet valid (nbf)") else .ok () := by
    simp only [checkStart, present]
    cases time "Not Before claim (nbf) must be an integer." value <;> rfl
  refine ends_of_time (fun absent => by simp [checkStart, absent]) step fun start => ?_
  by_cases early : now < start
  · rw [if_pos early]
    exact .refuses _ (isRefusal_invalid (Text.isScalar_ofString _)) not_false
  · rw [if_neg early]
    exact .passes () not_false

theorem checkEnd_ends (now : Int) (claims : Entries Json) :
    Ends IsRefusal (HasTimeless "exp" claims) (checkEnd now claims) := by
  have step (value : Json) (present : Entries.find "exp" claims = some value) :
      checkEnd now claims =
        time "Expiration Time claim (exp) must be an integer." value >>= fun last =>
          if last < now then .error (invalid "Signature has expired.") else .ok () := by
    simp only [checkEnd, present]
    cases time "Expiration Time claim (exp) must be an integer." value <;> rfl
  refine ends_of_time (fun absent => by simp [checkEnd, absent]) step fun last => ?_
  by_cases late : last < now
  · rw [if_pos late]
    exact .refuses _ (isRefusal_invalid (Text.isScalar_ofString _)) not_false
  · rw [if_neg late]
    exact .passes () not_false

theorem checkText_ends (name complaint : String) (claims : Entries Json) :
    Ends IsRefusal False (checkText name complaint claims) := by
  unfold checkText
  split
  · exact .passes () not_false
  · exact .passes () not_false
  · exact .refuses _ (isRefusal_invalid (Text.isScalar_ofString _)) not_false

theorem checkAccessDigest_ends (claims : Entries Json) :
    Ends IsRefusal False (checkAccessDigest claims) := by
  unfold checkAccessDigest
  split
  · exact .passes () not_false
  · exact .refuses _ (isRefusal_invalid (Text.isScalar_ofString _)) not_false

/-- The checks of the registered claims break off where they come to a timeless claim. -/
theorem check_ends (now : Int) (claims : Entries Json) :
    Ends IsRefusal (BreakOff now claims) (check now claims) := by
  have rest : Ends IsRefusal False (do
      checkText "sub" "Subject must be a string." claims
      checkText "jti" "JWT ID must be a string." claims
      checkAccessDigest claims) :=
    ((checkText_ends "sub" _ claims).bind fun _ _ =>
      ((checkText_ends "jti" _ claims).bind fun _ _ =>
        checkAccessDigest_ends claims)).congr (by simp)
  have times := (checkIssued_ends claims).bind fun _ _ =>
    (checkStart_ends now claims).bind fun _ _ =>
      (checkEnd_ends now claims).bind fun _ _ => rest
  refine times.congr ?_
  constructor
  · rintro (timeless | ⟨_, issuedPasses, timeless | ⟨_, startPasses, timeless | ⟨_, _, absurd⟩⟩⟩)
    · exact .issued timeless
    · exact .start issuedPasses timeless
    · exact .finish issuedPasses startPasses timeless
    · exact absurd.elim
  · rintro (timeless | ⟨issuedPasses, timeless⟩ | ⟨issuedPasses, startPasses, timeless⟩)
    · exact Or.inl timeless
    · exact Or.inr ⟨(), issuedPasses, Or.inl timeless⟩
    · exact Or.inr ⟨(), issuedPasses, Or.inr ⟨(), startPasses, Or.inl timeless⟩⟩

end Claims

end FleetGate
