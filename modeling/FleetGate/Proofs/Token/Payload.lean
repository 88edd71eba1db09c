import FleetGate.Proofs.Bytes.Utf8
import FleetGate.Proofs.Json.Nesting
import FleetGate.Proofs.Token.Segments
import FleetGate.Proofs.Token.Window
import FleetGate.Token.Verify

/-!
# Judging a payload

Once the tag of a token holds, only its payload and the clock matter. `Token.judge` is what is left
to do then: the payload is read loosely, then strictly, and its registered claims are checked. It
breaks off in two cases only: the payload is nested too deeply for the loose reading, or the checks
come to a timeless claim.

The strict reading is never nested too deeply after the loose one has passed. For where the two
readings see different texts, the strict one sees a byte-order mark or a zero character near the
start, and stops there.
-/

namespace FleetGate

namespace Json

/-- Reading minds the byte-order mark and is reading whole otherwise. -/
theorem read_eq_readWhole (mode : NumberMode) (text : Text) (limit : Nat := nestingLimit) :
    read mode text limit = readWhole mode text limit ∨
      ∃ remaining, read mode text limit = .error (.flaw .byteOrderMark remaining) := by
  cases text with
  | nil => exact Or.inl rfl
  | cons point rest =>
      by_cases marked : point.value = 0xFEFF
      · exact Or.inr ⟨rest.length + 1, by simp [read, marked]⟩
      · exact Or.inl (by simp [read, marked])

/-- Reading finds no object here and does not stop at nesting either. -/
def HoldsNothing (text : Text) : Prop :=
  (∀ container, read .values text ≠ .error (.nesting container)) ∧
    ∀ fields, read .values text ≠ .ok (.object fields)

theorem holdsNothing_of_error {text : Text} {found : Flaw} {remaining : Nat}
    (stopped : read .values text = .error (.flaw found remaining)) : HoldsNothing text := by
  simp [HoldsNothing, stopped]

theorem holdsNothing_zero (rest : Text) : HoldsNothing (zero :: rest) := by
  rcases read_eq_readWhole .values (zero :: rest) with whole | ⟨remaining, stopped⟩
  · rw [readWhole_zero] at whole
    exact holdsNothing_of_error whole
  · exact holdsNothing_of_error stopped

theorem holdsNothing_second_zero (point : CodePoint) (rest : Text) :
    HoldsNothing (point :: zero :: rest) := by
  rcases read_eq_readWhole .values (point :: zero :: rest) with whole | ⟨remaining, stopped⟩
  · rw [HoldsNothing, whole]
    exact readWhole_second_zero .values point rest (by decide)
  · exact holdsNothing_of_error stopped

end Json

namespace Bytes

theorem readUtf8_ne_ok {lead : UInt8} {rest : Bytes} {chars : List Char}
    (opensNothing : sequenceLength lead = 0) : readUtf8 (lead :: rest) ≠ .ok chars := by
  simp [readUtf8, readUtf8From, sequenceAt, opensNothing]

/-- The three bytes of the byte-order mark are the mark as a character. -/
theorem readUtf8_mark {rest : Bytes} {chars : List Char}
    (read : readUtf8 (0xEF :: 0xBB :: 0xBF :: rest) = .ok chars) :
    ∃ others, chars = '\uFEFF' :: others := by
  have mark : sequenceAt 0xEF (0xBB :: 0xBF :: rest) = .ok (0xFEFF, 3) := rfl
  simp only [readUtf8] at read
  rw [readUtf8From, mark] at read
  dsimp only at read
  cases restRead : readUtf8From (0 + 1) (3 - 1) (0xBB :: 0xBF :: rest) with
  | error fault => simp [restRead, Except.map] at read
  | ok others =>
      simp only [restRead, Except.map, Except.ok.injEq] at read
      exact ⟨others, read.symm⟩

theorem holdsNothing_of_zero {rest : Bytes} {chars : List Char}
    (read : readUtf8 (0 :: rest) = .ok chars) : Json.HoldsNothing (chars.map .scalar) := by
  rcases readUtf8From_zero read with ⟨others, rfl⟩
  exact Json.holdsNothing_zero _

/-- With a zero among the first two bytes nothing can be found. -/
theorem holdsNothing_of_zeros {first second : UInt8} {rest : Bytes} {chars : List Char}
    (read : readUtf8 (first :: second :: rest) = .ok chars) (zeros : first = 0 ∨ second = 0) :
    Json.HoldsNothing (chars.map .scalar) := by
  rcases zeros with rfl | rfl
  · exact holdsNothing_of_zero read
  · rcases readUtf8_second_zero read with ⟨char, others, rfl⟩
    exact Json.holdsNothing_second_zero _ _

theorem holdsNothing_of_mark {bytes mark : Bytes} {encoding : Encoding} {chars : List Char}
    (read : readUtf8 bytes = .ok chars) (isMark : (mark, encoding) ∈ marks)
    (marked : mark <+: bytes) : Json.HoldsNothing (chars.map .scalar) := by
  rcases marked with ⟨rest, rfl⟩
  simp only [marks, List.mem_cons, Prod.mk.injEq, List.not_mem_nil, or_false] at isMark
  -- Only the mark that begins with a zero and the one of UTF-8 itself can begin UTF-8.
  rcases isMark with ⟨rfl, _⟩ | ⟨rfl, _⟩ | ⟨rfl, _⟩ | ⟨rfl, _⟩ | ⟨rfl, _⟩
  · exact holdsNothing_of_zero read
  · exact absurd read (readUtf8_ne_ok rfl)
  · exact absurd read (readUtf8_ne_ok rfl)
  · exact absurd read (readUtf8_ne_ok rfl)
  · rcases readUtf8_mark read with ⟨others, rfl⟩
    exact Json.holdsNothing_of_error rfl

/-- Without a mark bytes are guessed to be UTF-8 unless there is a zero among the first two. -/
theorem guessUnmarked_of_no_zeros {first second : UInt8} {rest : Bytes}
    (noZeros : ¬(first = 0 ∨ second = 0)) :
    guessUnmarked (first :: second :: rest) = .utf8 false := by
  rw [not_or] at noZeros
  unfold guessUnmarked
  split
  · rename_i same
    simp only [List.cons.injEq] at same
    rcases same with ⟨rfl, rfl, _⟩
    simp only [noZeros, if_false]
  · rename_i same
    simp only [List.cons.injEq] at same
    rcases same with ⟨rfl, rfl, _⟩
    simp only [noZeros, if_false]
  · rfl

/-- Bytes that read strictly are guessed to be UTF-8, or nothing can be found in them. -/
theorem readGuessed?_of_readUtf8 {bytes : Bytes} {chars : List Char}
    (read : readUtf8 bytes = .ok chars) :
    readGuessed? bytes = some (chars.map .scalar) ∨ Json.HoldsNothing (chars.map .scalar) := by
  have loose (unmarked : guessUnmarked bytes = .utf8 false) :
      readEncoded? bytes (guessUnmarked bytes) = some (chars.map .scalar) := by
    simp [unmarked, readEncoded?, readLooseUtf8?_of_readUtf8 read]
  unfold readGuessed? guessEncoding
  cases found : marks.find? (·.1.isPrefixOf bytes) with
  | some entry =>
      have marked : entry.1 <+: bytes := by simpa using List.find?_some found
      exact Or.inr (holdsNothing_of_mark read (List.mem_of_find?_eq_some found) marked)
  | none =>
      dsimp only
      match bytes with
      | [] => exact Or.inl (loose rfl)
      | [_] => exact Or.inl (loose rfl)
      | first :: second :: rest =>
          by_cases zeros : first = 0 ∨ second = 0
          · exact Or.inr (holdsNothing_of_zeros read zeros)
          · exact Or.inl (loose (guessUnmarked_of_no_zeros zeros))

end Bytes

namespace Token

/-- The payload is nested too deeply for the reading that lets any encoding through. -/
def PayloadTooDeep (payload : Bytes) : Prop :=
  ∃ text, Bytes.readGuessed? payload = some text ∧
    ∃ container, Json.readWhole .values text = .error (.nesting container)

/-- The payload is a JSON object in UTF-8. -/
def PayloadHolds (payload : Bytes) (claims : Entries Json) : Prop :=
  ∃ chars, Bytes.readUtf8 payload = .ok chars ∧
    Json.read .values (chars.map .scalar) = .ok (.object claims)

theorem readClaims_eq_ok_iff {payload : Bytes} {claims : Entries Json} :
    readClaims payload = .ok claims ↔ PayloadHolds payload claims := by
  unfold readClaims PayloadHolds
  cases utf8 : Bytes.readUtf8 payload with
  | error fault => simp
  | ok chars =>
      simp only [Except.ok.injEq, exists_eq_left']
      cases json : Json.read .values (chars.map .scalar) with
      | ok value => cases value <;> simp
      | error stop => cases stop <;> simp

theorem checkObject_ends (payload : Bytes) :
    Ends Claims.IsRefusal (PayloadTooDeep payload) (checkObject payload) := by
  unfold checkObject PayloadTooDeep
  cases guessed : Bytes.readGuessed? payload with
  | none =>
      exact .refuses _ (Claims.isRefusal_invalid (Text.isScalar_ofString _)) (by simp)
  | some text =>
      simp only [Option.some.injEq, exists_eq_left']
      cases json : Json.readWhole .values text with
      | ok value =>
          have unparsed : Claims.IsRefusal
              (.failure (.withMessage .tokenExpiredOrInvalid "invalid token claims"
                "Unable to parse token claims")) :=
            ⟨_, _, Text.isScalar_ofString _, Text.isScalar_ofString _, rfl⟩
          cases value with
          | object fields => exact .passes () (by simp)
          | _ => exact .refuses _ unparsed (by simp)
      | error stop =>
          cases stop with
          | nesting container => exact .breaksOff _ ⟨_, rfl⟩ ⟨container, rfl⟩
          | _ =>
              exact .refuses _ (Claims.isRefusal_invalid (Text.isScalar_ofString _))
                (by simp)

theorem checkObject_eq_ok_iff {payload : Bytes} :
    checkObject payload = .ok () ↔
      ∃ text fields, Bytes.readGuessed? payload = some text ∧
        Json.readWhole .values text = .ok (.object fields) := by
  unfold checkObject
  cases guessed : Bytes.readGuessed? payload with
  | none => simp
  | some text =>
      simp only [Option.some.injEq]
      cases json : Json.readWhole .values text with
      | ok value => cases value <;> simp [json]
      | error stop => cases stop <;> simp [json]

/-- After the loose reading the strict one is not nested too deeply. -/
theorem read_ne_nesting {payload : Bytes} {chars : List Char}
    (isObject : checkObject payload = .ok ()) (utf8 : Bytes.readUtf8 payload = .ok chars)
    (container : Json.Container) :
    Json.read .values (chars.map .scalar) ≠ .error (.nesting container) := by
  rcases checkObject_eq_ok_iff.1 isObject with ⟨text, fields, guessed, whole⟩
  rcases Bytes.readGuessed?_of_readUtf8 utf8 with same | nothing
  · rw [guessed, Option.some.injEq] at same
    rw [← same]
    rcases Json.read_eq_readWhole .values text with read | ⟨remaining, stopped⟩
    · simp [read, whole]
    · simp [stopped]
  · exact nothing.1 container

/-- After the loose reading the strict one does not break off. -/
theorem readClaims_ends {payload : Bytes} (isObject : checkObject payload = .ok ()) :
    Ends Claims.IsRefusal False (readClaims payload) := by
  unfold readClaims
  cases utf8 : Bytes.readUtf8 payload with
  | error fault =>
      exact .refuses _
        (Claims.isRefusal_invalid (by simp [Bytes.isScalar_message_utf8Fault])) not_false
  | ok chars =>
      dsimp only
      cases json : Json.read .values (chars.map .scalar) with
      | ok value =>
          cases value with
          | object claims => exact .passes claims not_false
          | _ =>
              exact .refuses _ (Claims.isRefusal_invalid (Text.isScalar_ofString _)) not_false
      | error stop =>
          cases stop with
          | nesting container => exact absurd json (read_ne_nesting isObject utf8 container)
          | _ =>
              exact .refuses _
                (Claims.isRefusal_invalid (by simp [Json.isScalar_message_stop])) not_false

/-- What reads strictly as an object also passes the loose reading. -/
theorem checkObject_of_payloadHolds {payload : Bytes} {claims : Entries Json}
    (holds : PayloadHolds payload claims) : checkObject payload = .ok () := by
  rcases holds with ⟨chars, utf8, object⟩
  rw [checkObject_eq_ok_iff]
  rcases Bytes.readGuessed?_of_readUtf8 utf8 with same | nothing
  · refine ⟨chars.map .scalar, claims, same, ?_⟩
    rcases Json.read_eq_readWhole .values (chars.map .scalar) with read | ⟨remaining, stopped⟩
    · rw [← read, object]
    · simp [stopped] at object
  · exact absurd object (nothing.2 claims)

/-- What is left to do once the tag of a token holds. -/
def judge (now : Int) (payload : Bytes) : Except Raised (Entries Json) := do
  checkObject payload
  let claims ← readClaims payload
  Claims.check now claims
  return claims

/-- Judging breaks off at a payload that is nested too deeply and at claims that are timeless. -/
theorem judge_ends (now : Int) (payload : Bytes) :
    Ends Claims.IsRefusal
      (PayloadTooDeep payload ∨
        ∃ claims, PayloadHolds payload claims ∧ Claims.BreakOff now claims)
      (judge now payload) := by
  have claimsEnd (claims : Entries Json) :
      Ends Claims.IsRefusal (Claims.BreakOff now claims) (do
        Claims.check now claims
        return claims) :=
    ((Claims.check_ends now claims).bind fun _ _ => .passes claims not_false).congr (by simp)
  have ends := (checkObject_ends payload).bind fun _ isObject =>
    (readClaims_ends isObject).bind fun claims _ => claimsEnd claims
  -- The strict reading adds no case of its own, and what it reads has passed the loose one.
  refine ends.congr (or_congr_right ?_)
  simp only [false_or, readClaims_eq_ok_iff]
  constructor
  · rintro ⟨_, _, claims, holds, broken⟩
    exact ⟨claims, holds, broken⟩
  · rintro ⟨claims, holds, broken⟩
    exact ⟨(), checkObject_of_payloadHolds holds, claims, holds, broken⟩

end Token

end FleetGate
