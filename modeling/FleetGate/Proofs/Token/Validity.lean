import FleetGate.Proofs.Token.Payload

/-!
# Valid claims

Registered claims are valid at a time when nothing in them speaks against the token then. That is
said without the order of the checks here: a claim that is absent is in order, and one that is
there has to be of the right kind and to leave room for the time. The checks pass exactly then.
-/

namespace FleetGate

namespace Claims

/-- Nothing in the registered claims speaks against the token now. -/
structure AreValid (now : Int) (claims : Entries Json) : Prop where
  issued : ∀ value, Entries.find "iat" claims = some value → ∃ time, value.toInt = .ok time
  started : ∀ value, Entries.find "nbf" claims = some value →
    ∃ start, value.toInt = .ok start ∧ start ≤ now
  lasting : ∀ value, Entries.find "exp" claims = some value →
    ∃ last, value.toInt = .ok last ∧ now ≤ last
  subject : ∀ value, Entries.find "sub" claims = some value → ∃ text, value = .string text
  identifier : ∀ value, Entries.find "jti" claims = some value → ∃ text, value = .string text
  noDigest : Entries.find "at_hash" claims = none

variable {now : Int} {claims : Entries Json}

/-- A check that follows another one passes when both do. -/
theorem both_pass_iff {first second : Except Raised Unit} :
    (first >>= fun _ => second) = .ok () ↔ first = .ok () ∧ second = .ok () := by
  cases first with
  | error raised => simp [bind, Except.bind]
  | ok nothing => simp [bind, Except.bind]

theorem time_eq_ok_iff (complaint : String) (value : Json) (number : Int) :
    time complaint value = .ok number ↔ value.toInt = .ok number := by
  unfold time
  cases value.toInt with
  | ok own => simp
  | error fault => cases fault <;> simp

theorem checkIssued_eq_ok_iff :
    checkIssued claims = .ok () ↔
      ∀ value, Entries.find "iat" claims = some value → ∃ time, value.toInt = .ok time := by
  unfold checkIssued
  cases Entries.find "iat" claims with
  | none => simp
  | some value =>
      have reads := time_eq_ok_iff "Issued At claim (iat) must be an integer." value
      simp only [Option.some.injEq, forall_eq', ← reads]
      cases time "Issued At claim (iat) must be an integer." value <;> simp [Except.map]

theorem checkStart_eq_ok_iff :
    checkStart now claims = .ok () ↔
      ∀ value, Entries.find "nbf" claims = some value →
        ∃ start, value.toInt = .ok start ∧ start ≤ now := by
  unfold checkStart
  cases Entries.find "nbf" claims with
  | none => simp
  | some value =>
      have reads := time_eq_ok_iff "Not Before claim (nbf) must be an integer." value
      simp only [Option.some.injEq, forall_eq', ← reads]
      cases time "Not Before claim (nbf) must be an integer." value with
      | error raised => simp
      | ok start => simp

theorem checkEnd_eq_ok_iff :
    checkEnd now claims = .ok () ↔
      ∀ value, Entries.find "exp" claims = some value →
        ∃ last, value.toInt = .ok last ∧ now ≤ last := by
  unfold checkEnd
  cases Entries.find "exp" claims with
  | none => simp
  | some value =>
      have reads := time_eq_ok_iff "Expiration Time claim (exp) must be an integer." value
      simp only [Option.some.injEq, forall_eq', ← reads]
      cases time "Expiration Time claim (exp) must be an integer." value with
      | error raised => simp
      | ok last => simp

theorem checkText_eq_ok_iff {name complaint : String} :
    checkText name complaint claims = .ok () ↔
      ∀ value, Entries.find name claims = some value → ∃ text, value = .string text := by
  unfold checkText
  cases Entries.find (Text.ofString name) claims with
  | none => simp
  | some value => cases value <;> simp

theorem checkAccessDigest_eq_ok_iff :
    checkAccessDigest claims = .ok () ↔ Entries.find "at_hash" claims = none := by
  unfold checkAccessDigest
  cases Entries.find "at_hash" claims with
  | none => simp
  | some value => simp

/-- The checks of the registered claims pass exactly when the claims are valid. -/
theorem check_eq_ok_iff : check now claims = .ok () ↔ AreValid now claims := by
  simp only [check, both_pass_iff, checkIssued_eq_ok_iff, checkStart_eq_ok_iff,
    checkEnd_eq_ok_iff, checkText_eq_ok_iff, checkAccessDigest_eq_ok_iff]
  constructor
  · rintro ⟨issued, started, lasting, subject, identifier, noDigest⟩
    exact ⟨issued, started, lasting, subject, identifier, noDigest⟩
  · rintro ⟨issued, started, lasting, subject, identifier, noDigest⟩
    exact ⟨issued, started, lasting, subject, identifier, noDigest⟩

end Claims

namespace Token

/-- A payload is judged to be fine when it holds claims that are valid, and these come out. -/
theorem judge_eq_ok_iff {now : Int} {payload : Bytes} {claims : Entries Json} :
    judge now payload = .ok claims ↔
      PayloadHolds payload claims ∧ Claims.AreValid now claims := by
  rw [← readClaims_eq_ok_iff, ← Claims.check_eq_ok_iff]
  constructor
  · intro judged
    rcases exists_of_bind_eq_ok judged with ⟨_, _, judged⟩
    rcases exists_of_bind_eq_ok judged with ⟨own, read, judged⟩
    rcases exists_of_bind_eq_ok judged with ⟨_, checked, judged⟩
    cases judged
    exact ⟨read, checked⟩
  · rintro ⟨read, checked⟩
    have isObject := checkObject_of_payloadHolds (readClaims_eq_ok_iff.1 read)
    simp [judge, isObject, read, checked, bind, Except.bind, pure, Except.pure]

end Token

end FleetGate
