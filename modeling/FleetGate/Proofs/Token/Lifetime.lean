import FleetGate.Proofs.Auth.Kinds
import FleetGate.Proofs.Number.Integers
import FleetGate.Proofs.Token.Mint

/-!
# The lifetime of a token

A token that is accepted at all is accepted in one unbroken stretch of time: from its start to its
end, both included, where a token without one of them is not bounded on that side. Outside this
stretch it is refused for its claims and never breaks off, because the checks that were passed once
have read both bounds. The clock is compared with the bounds and nothing else; that a token says
when it was issued only has to be an integer.
-/

namespace FleetGate

namespace Claims

/-- A time lies between the start and the end that claims set, as far as they set them. -/
structure Span (now : Int) (claims : Entries Json) : Prop where
  started : ∀ value, Entries.find "nbf" claims = some value →
    ∃ start, value.CountsAs start ∧ start ≤ now
  lasting : ∀ value, Entries.find "exp" claims = some value →
    ∃ last, value.CountsAs last ∧ now ≤ last

variable {now moment earlier later : Int} {claims : Entries Json}

theorem AreValid.span (valid : AreValid now claims) : Span now claims := by
  constructor
  · intro value found
    rcases valid.started value found with ⟨start, converted, begun⟩
    exact ⟨start, Json.toInt_eq_ok_iff.1 converted, begun⟩
  · intro value found
    rcases valid.lasting value found with ⟨last, converted, before⟩
    exact ⟨last, Json.toInt_eq_ok_iff.1 converted, before⟩

/-- Of claims that were valid once only their start and their end matter. -/
theorem AreValid.valid_iff_span (valid : AreValid moment claims) :
    AreValid now claims ↔ Span now claims := by
  constructor
  · exact AreValid.span
  · intro span
    refine ⟨valid.issued, ?_, ?_, valid.subject, valid.identifier, valid.noDigest⟩
    · intro value found
      rcases span.started value found with ⟨start, counts, begun⟩
      exact ⟨start, Json.toInt_eq_ok_iff.2 counts, begun⟩
    · intro value found
      rcases span.lasting value found with ⟨last, counts, before⟩
      exact ⟨last, Json.toInt_eq_ok_iff.2 counts, before⟩

/-- The start bounds a span from below only, and the end from above. -/
theorem Span.between (early : Span earlier claims) (late : Span later claims)
    (notBefore : earlier ≤ now) (notAfter : now ≤ later) : Span now claims := by
  constructor
  · intro value found
    rcases early.started value found with ⟨start, counts, begun⟩
    exact ⟨start, counts, by omega⟩
  · intro value found
    rcases late.lasting value found with ⟨last, counts, before⟩
    exact ⟨last, counts, by omega⟩

theorem isTimeless_of_toInt {value : Json} {number : Int} (converted : value.toInt = .ok number) :
    value.isTimeless = false := by
  cases value with
  | float own =>
      cases parts : FloatParts.ofFloat own with
      | infinite negative => simp [Json.toInt, parts] at converted
      | _ => simp [Json.isTimeless, parts]
  | null => cases converted
  | array items => cases converted
  | object fields => cases converted
  | _ => rfl

/-- The checks of claims that were valid once never break off. -/
theorem AreValid.not_breakOff (valid : AreValid moment claims) : ¬BreakOff now claims := by
  have timely {name : Text} (reads : ∀ value, Entries.find name claims = some value →
      ∃ number, value.toInt = .ok number) : ¬HasTimeless name claims := by
    rintro ⟨value, found, timeless⟩
    rcases reads value found with ⟨number, converted⟩
    rw [isTimeless_of_toInt converted] at timeless
    cases timeless
  intro breakOff
  cases breakOff with
  | issued timeless => exact timely valid.issued timeless
  | start _ timeless =>
      refine timely (fun value found => ?_) timeless
      rcases valid.started value found with ⟨start, converted, _⟩
      exact ⟨start, converted⟩
  | finish _ _ timeless =>
      refine timely (fun value found => ?_) timeless
      rcases valid.lasting value found with ⟨last, converted, _⟩
      exact ⟨last, converted⟩

/-- Any other time of issue leads to the same verdict. -/
theorem check_put_issued {value : Json} {time : Int} (valid : AreValid moment claims)
    (converted : value.toInt = .ok time) :
    check now (Entries.put "iat" value claims) = check now claims := by
  have issued : checkIssued claims = .ok () := checkIssued_eq_ok_iff.2 valid.issued
  have issuedToo : checkIssued (Entries.put "iat" value claims) = .ok () := by
    apply checkIssued_eq_ok_iff.2
    intro own found
    rw [Entries.find_put_same, Option.some.injEq] at found
    exact ⟨time, found ▸ converted⟩
  have other {name : Text} (differs : name ≠ "iat") :
      Entries.find name (Entries.put "iat" value claims) = Entries.find name claims :=
    Entries.find_put_other differs value claims
  simp only [check, issued, issuedToo, checkStart, checkEnd, checkText, checkAccessDigest]
  rw [other (by decide), other (by decide), other (by decide), other (by decide),
    other (by decide)]

end Claims

namespace Token

variable {moment now : Int} {secret token : Text} {claims : Entries Json}

/-- Behind an accepted token stands a payload whose claims were valid. -/
theorem exists_payload_of_verify (accepted : verify moment secret token = .ok claims) :
    ∃ payload, verifiedPayload secret token = .ok payload ∧ PayloadHolds payload claims ∧
      Claims.AreValid moment claims := by
  rw [verify_eq] at accepted
  cases verified : verifiedPayload secret token with
  | error raised =>
      rw [verified] at accepted
      cases accepted
  | ok payload =>
      rw [verified] at accepted
      exact ⟨payload, rfl, judge_eq_ok_iff.1 accepted⟩

/-- A token that was accepted once is accepted, with the same claims, in its span. -/
theorem verify_eq_ok_iff_span (accepted : verify moment secret token = .ok claims) :
    verify now secret token = .ok claims ↔ Claims.Span now claims := by
  rcases exists_payload_of_verify accepted with ⟨payload, verified, holds, valid⟩
  rw [← valid.valid_iff_span, verify_eq, verified]
  change judge now payload = .ok claims ↔ _
  rw [judge_eq_ok_iff]
  exact and_iff_right holds

/-- Outside its span it is refused for its claims. -/
theorem refuses_of_not_span (accepted : verify moment secret token = .ok claims)
    (outside : ¬Claims.Span now claims) : Refuses .tokenExpiredOrInvalid now secret token := by
  rcases exists_payload_of_verify accepted with ⟨payload, verified, holds, valid⟩
  have judged : verify now secret token = judge now payload := by
    rw [verify_eq, verified]
    rfl
  have ends := judge_ends now payload
  rw [← judged] at ends
  cases outcome : verify now secret token with
  | ok others =>
      have same := claims_unique accepted outcome
      subst same
      exact absurd ((verify_eq_ok_iff_span accepted).1 outcome) outside
  | error raised =>
      rw [outcome] at ends
      cases ends with
      | refuses _ plain _ =>
          rcases plain with ⟨detail, message, _, _, rfl⟩
          exact ⟨_, rfl, outcome⟩
      | breaksOff _ _ broken =>
          exfalso
          rcases broken with deep | ⟨others, othersHold, breakOff⟩
          · apply (checkObject_ends payload).judged_iff.1 _ deep
            exact Or.inl ⟨(), checkObject_of_payloadHolds holds⟩
          · rw [← readClaims_eq_ok_iff] at holds othersHold
            rw [holds, Except.ok.injEq] at othersHold
            subst othersHold
            exact valid.not_breakOff breakOff

/-- The times at which a token is accepted have no gap, and its claims are the same at all of them.
If there is any, they are the times from its start to its end, and at all others it is refused for
its claims. When it was issued plays no part in it: it counts as an integer, and as any other
integer it would lead to the same verdicts. -/
theorem accepted_from_start_to_end (secret token : Text) :
    (∀ earlier later claims others, verify earlier secret token = .ok claims →
        verify later secret token = .ok others →
          ∀ now, earlier ≤ now → now ≤ later →
            verify now secret token = .ok claims ∧ others = claims) ∧
      ∀ moment claims, verify moment secret token = .ok claims →
        (∀ now, (∃ others, verify now secret token = .ok others) ↔ Claims.Span now claims) ∧
          (∀ now, Claims.Span now claims → verify now secret token = .ok claims) ∧
          (∀ now, ¬Claims.Span now claims →
            Refuses .tokenExpiredOrInvalid now secret token) ∧
          (∀ value, Entries.find "iat" claims = some value → ∃ time, value.CountsAs time) ∧
          ∀ value time, value.CountsAs time →
            ∀ now, Claims.check now (Entries.put "iat" value claims) =
              Claims.check now claims := by
  constructor
  · intro earlier later claims others accepted acceptedLater now notBefore notAfter
    have same := claims_unique accepted acceptedLater
    subst same
    have early := (verify_eq_ok_iff_span accepted).1 accepted
    have late := (verify_eq_ok_iff_span accepted).1 acceptedLater
    exact ⟨(verify_eq_ok_iff_span accepted).2 (early.between late notBefore notAfter), rfl⟩
  · intro moment claims accepted
    have inSpan (now : Int) := @verify_eq_ok_iff_span moment now secret token claims accepted
    rcases exists_payload_of_verify accepted with ⟨payload, _, _, valid⟩
    refine ⟨?_, fun now => (inSpan now).2, fun now => refuses_of_not_span accepted, ?_, ?_⟩
    · intro now
      constructor
      · rintro ⟨others, acceptedNow⟩
        have same := claims_unique accepted acceptedNow
        subst same
        exact (inSpan now).1 acceptedNow
      · intro span
        exact ⟨claims, (inSpan now).2 span⟩
    · intro value found
      rcases valid.issued value found with ⟨time, converted⟩
      exact ⟨time, Json.toInt_eq_ok_iff.1 converted⟩
    · intro value time counts now
      exact Claims.check_put_issued valid (Json.toInt_eq_ok_iff.2 counts)

/-- A minted token whose claims are valid is accepted. -/
theorem verify_mint {own : Bytes} {algorithm : Algorithm} {header payload : List Char}
    {fields : Entries Json} (verbatim : Secret.IsVerbatim secret own)
    (headerObject : Json.read .values (header.map .scalar) = .ok (.object fields))
    (named : Entries.find "alg" fields = some (.string (Text.ofString algorithm.name)))
    (payloadObject : Json.read .values (payload.map .scalar) = .ok (.object claims))
    (valid : Claims.AreValid now claims) :
    verify now secret (mint algorithm own header payload) = .ok claims := by
  rw [verify_eq, verifiedPayload_mint verbatim headerObject named]
  exact judge_eq_ok_iff.2 ⟨payloadHolds_ofChars payloadObject, valid⟩

/-- A payload with a flag, a text and a fraction as its times. -/
def shiftPayload : List Char := "\x7b\"iat\":true,\"nbf\":\" +1_0\",\"exp\":20.75\x7d".toList

/-- A claim is there and counts as an integer. -/
def countsFor (name : Text) (number : Int) (claims : Entries Json) : Bool :=
  match Entries.find name claims with
  | some value =>
    match value.toInt with
    | .ok own => own == number
    | .error _ => false
  | none => false

theorem bound_of_countsFor {name : Text} {number : Int}
    (counts : countsFor name number claims = true) :
    ∃ value, Entries.find name claims = some value ∧
      ∀ other, value.CountsAs other ↔ other = number := by
  unfold countsFor at counts
  split at counts
  · rename_i value found
    refine ⟨value, found, fun other => ?_⟩
    rw [← Json.toInt_eq_ok_iff]
    split at counts
    · rename_i own converted
      rw [converted, eq_of_beq counts, Except.ok.injEq]
      exact eq_comm
    · cases counts
  · cases counts

/-- The claims of a payload start to count at a moment, are in order then and end at another. -/
def lastsFor (start last : Int) (payload : Text) : Bool :=
  match Json.read .values payload with
  | .ok (.object claims) =>
    countsFor "nbf" start claims && countsFor "exp" last claims &&
      (Claims.check start claims).isOk
  | _ => false

theorem claims_of_lastsFor {start last : Int} {payload : Text}
    (lasts : lastsFor start last payload = true) :
    ∃ claims, Json.read .values payload = .ok (.object claims) ∧
      countsFor "nbf" start claims = true ∧ countsFor "exp" last claims = true ∧
      Claims.AreValid start claims := by
  unfold lastsFor at lasts
  split at lasts
  · rename_i claims read
    rw [Bool.and_eq_true, Bool.and_eq_true] at lasts
    rcases lasts with ⟨⟨starts, ends⟩, checked⟩
    refine ⟨claims, read, starts, ends, Claims.check_eq_ok_iff.1 ?_⟩
    cases result : Claims.check start claims with
    | ok => rfl
    | error raised =>
        rw [result] at checked
        cases checked
  · cases lasts

theorem shiftPayload_lasts : lastsFor 10 20 (shiftPayload.map .scalar) = true := by
  decide +kernel

/-- The token is accepted from the tenth to the twentieth second. -/
theorem shiftToken_accepted :
    ∃ claims, verify 10 "s" (mint .hs512 [115] tagHeader shiftPayload) = .ok claims ∧
      (∀ now, 10 ≤ now → now ≤ 20 →
        verify now "s" (mint .hs512 [115] tagHeader shiftPayload) = .ok claims) ∧
      ∀ now, now < 10 ∨ 20 < now →
        Refuses .tokenExpiredOrInvalid now "s" (mint .hs512 [115] tagHeader shiftPayload) := by
  rcases claims_of_lastsFor shiftPayload_lasts with ⟨claims, read, start, last, valid⟩
  have accepted : verify 10 "s" (mint .hs512 [115] tagHeader shiftPayload) = .ok claims :=
    verify_mint isVerbatim_plain read_tagHeader rfl read valid
  have lifetime := (accepted_from_start_to_end "s" _).2 10 claims accepted
  rcases lifetime with ⟨_, inside, outside, _⟩
  rcases bound_of_countsFor start with ⟨startValue, startFound, startCounts⟩
  rcases bound_of_countsFor last with ⟨lastValue, lastFound, lastCounts⟩
  refine ⟨claims, accepted, ?_, ?_⟩
  · intro now notBefore notAfter
    apply inside now
    constructor
    · intro value found
      rw [startFound, Option.some.injEq] at found
      exact ⟨10, found ▸ (startCounts 10).2 rfl, notBefore⟩
    · intro value found
      rw [lastFound, Option.some.injEq] at found
      exact ⟨20, found ▸ (lastCounts 20).2 rfl, notAfter⟩
  · intro now beyond
    apply outside now
    intro span
    rcases span.started startValue startFound with ⟨early, counts, begun⟩
    rcases span.lasting lastValue lastFound with ⟨late, countsToo, before⟩
    rw [(startCounts early).1 counts] at begun
    rw [(lastCounts late).1 countsToo] at before
    omega

end Token

end FleetGate
