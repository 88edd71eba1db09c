import FleetGate.Proofs.Token.Lifetime

/-!
# The two readings of a payload

The payload of a signed token is read twice, by readers that differ in how they come from bytes to
a text: the first one goes by the encoding that the first bytes speak for and lets lone halves
through, the second one takes nothing but UTF-8. What the first one has seen to be an object is only
checked for that; the claims are what the second one finds.

The two never find different objects. Where the second one finds an object, the first one has found
the same, because bytes that spell an object in UTF-8 speak for no other encoding. So a payload on
which they do not agree about an object is refused, whichever of them fails.
-/

namespace FleetGate

namespace Token

/-- The value that a payload holds in the encoding that its first bytes speak for. -/
def seenValue? (payload : Bytes) : Option Json :=
  (Bytes.readGuessed? payload).bind fun text => (Json.readWhole .values text).toOption

/-- The value that a payload holds in UTF-8. -/
def strictValue? (payload : Bytes) : Option Json :=
  (Bytes.readUtf8 payload).toOption.bind fun chars =>
    (Json.read .values (chars.map .scalar)).toOption

variable {payload : Bytes} {claims : Entries Json}

theorem toOption_eq_some_iff {ε α : Type} {outcome : Except ε α} {value : α} :
    outcome.toOption = some value ↔ outcome = .ok value := by
  cases outcome <;> simp [Except.toOption]

theorem strictValue?_eq_object_iff :
    strictValue? payload = some (.object claims) ↔ PayloadHolds payload claims := by
  simp only [strictValue?, PayloadHolds, Option.bind_eq_some_iff, toOption_eq_some_iff]

/-- What the strict reading finds has been seen before. -/
theorem seenValue?_of_payloadHolds (holds : PayloadHolds payload claims) :
    seenValue? payload = some (.object claims) := by
  rcases holds with ⟨chars, utf8, object⟩
  simp only [seenValue?, Option.bind_eq_some_iff, toOption_eq_some_iff]
  rcases Bytes.readGuessed?_of_readUtf8 utf8 with same | nothing
  · refine ⟨chars.map .scalar, same, ?_⟩
    rcases Json.read_eq_readWhole .values (chars.map .scalar) with read | ⟨remaining, stopped⟩
    · rw [← read, object]
    · rw [stopped] at object
      cases object
  · exact absurd object (nothing.2 claims)

theorem seenValue?_of_payloadTooDeep (deep : PayloadTooDeep payload) :
    seenValue? payload = none := by
  rcases deep with ⟨text, guessed, container, stopped⟩
  rw [seenValue?, guessed, Option.bind_some, stopped]
  rfl

theorem readings_agree (holds : PayloadHolds payload claims) :
    seenValue? payload = some (.object claims) ∧ strictValue? payload = some (.object claims) :=
  ⟨seenValue?_of_payloadHolds holds, strictValue?_eq_object_iff.2 holds⟩

/-- What is not seen as one object by both readings is refused for the claims, unless it is nested
too deeply. -/
theorem judge_of_readings_differ (now : Int) (shallow : ¬PayloadTooDeep payload)
    (differ : seenValue? payload ≠ strictValue? payload ∨
      ∀ claims, seenValue? payload ≠ some (.object claims)) :
    ∃ failure : AuthFailure, failure.kind = .tokenExpiredOrInvalid ∧
      judge now payload = .error (.failure failure) := by
  have holdsNothing : ∀ claims, ¬PayloadHolds payload claims := by
    intro claims holds
    rcases readings_agree holds with ⟨seen, strict⟩
    rcases differ with differ | noObject
    · exact differ (seen.trans strict.symm)
    · exact noObject claims seen
  have intact : ¬(PayloadTooDeep payload ∨
      ∃ claims, PayloadHolds payload claims ∧ Claims.BreakOff now claims) := by
    rintro (deep | ⟨claims, holds, _⟩)
    · exact shallow deep
    · exact holdsNothing claims holds
  rcases (judge_ends now payload).judged_iff.2 intact with ⟨claims, accepted⟩ | refused
  · exact absurd (judge_eq_ok_iff.1 accepted).1 (holdsNothing claims)
  · exact refused

/-- Of a token whose tag holds, the claims that come out are the object that was seen, and a payload
that the two readings do not both find to be one object is refused for its claims. -/
theorem seen_object_is_returned {secret token : Text}
    (verified : verifiedPayload secret token = .ok payload) :
    (∀ now claims, verify now secret token = .ok claims →
        seenValue? payload = some (.object claims) ∧
          strictValue? payload = some (.object claims)) ∧
      (¬PayloadTooDeep payload →
        (seenValue? payload ≠ strictValue? payload ∨
          ∀ claims, seenValue? payload ≠ some (.object claims)) →
        ∀ now, Refuses .tokenExpiredOrInvalid now secret token) := by
  have judged (now : Int) : verify now secret token = judge now payload := by
    rw [verify_eq, verified]
    rfl
  constructor
  · intro now claims accepted
    rw [judged, judge_eq_ok_iff] at accepted
    exact readings_agree accepted.1
  · intro shallow differ now
    unfold Refuses
    rw [judged]
    exact judge_of_readings_differ now shallow differ

/-- A payload that spells an empty object in two bytes for each character. -/
def widePayload : List Char := ['\x7b', '\x00', '\x7d', '\x00']

/-- A token with this payload is signed, and its payload is seen to be an object, but it is refused
for not being one in UTF-8. The claims of a token that is accepted have been seen. -/
theorem wideToken_refused_momentToken_seen :
    (verifiedPayload "s" (mint .hs512 [115] tagHeader widePayload) =
          .ok (Bytes.ofChars widePayload) ∧
        seenValue? (Bytes.ofChars widePayload) = some (.object []) ∧
        ∀ now, Refuses .tokenExpiredOrInvalid now "s"
          (mint .hs512 [115] tagHeader widePayload)) ∧
      verify 5 "s" (mint .hs512 [115] tagHeader momentPayload) = .ok momentClaims ∧
        seenValue? (Bytes.ofChars momentPayload) = some (.object momentClaims) := by
  have verified (payload : List Char) :
      verifiedPayload "s" (mint .hs512 [115] tagHeader payload) = .ok (Bytes.ofChars payload) :=
    verifiedPayload_mint isVerbatim_plain read_tagHeader rfl
  constructor
  · have seen : seenValue? (Bytes.ofChars widePayload) = some (.object []) := rfl
    refine ⟨verified widePayload, seen, ?_⟩
    apply (seen_object_is_returned (verified widePayload)).2
    · intro deep
      rw [seenValue?_of_payloadTooDeep deep] at seen
      cases seen
    · left
      have strict : strictValue? (Bytes.ofChars widePayload) = none := rfl
      rw [seen, strict]
      exact Option.some_ne_none _
  · have accepted : verify 5 "s" (mint .hs512 [115] tagHeader momentPayload) = .ok momentClaims :=
      verify_mint isVerbatim_plain read_tagHeader rfl read_momentPayload areValid_momentClaims
    have returned := (seen_object_is_returned (verified momentPayload)).1 5 momentClaims accepted
    exact ⟨accepted, returned.1⟩

end Token

end FleetGate
