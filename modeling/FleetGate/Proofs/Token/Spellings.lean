import FleetGate.Proofs.Bytes.Foreign
import FleetGate.Proofs.Digest.Mac
import FleetGate.Proofs.Text.Pieces
import FleetGate.Proofs.Token.Lifetime

/-!
# Which texts are accepted

A token is written as three segments in the URL-safe alphabet, with dots between them. Such texts
are compact (`SignedToken.IsCompact`). Of the texts with no more than two dots and nothing else in
them but this alphabet, the neat ones, only compact ones are accepted. Other texts are cut at their
first and last dot as well, and of the three parts nothing else is asked than that they can be read,
which passes over foreign characters. Texts that cannot be read count as texts with an invalid tag.

What stands before the last dot is signed as it is written, so that no other spelling of it passes
without a tag of its own. What stands behind it counts by the bytes that it spells.
-/

namespace FleetGate

namespace Text

/-- Between two separators that stand side by side there is an empty piece. -/
theorem nil_mem_splitOn (separator : Char) (left right : Text) :
    [] ∈ (splitOn separator
      (left ++ .scalar separator :: .scalar separator :: right)).tail := by
  rw [splitOn_append, splitOn_separator, List.tail_append_of_ne_nil (splitOn_ne_nil separator left)]
  exact List.mem_append_right _ List.mem_cons_self

end Text

namespace SignedToken

/-- A character of the URL-safe alphabet. -/
def isUrlSafe : CodePoint → Bool
  | .scalar char => char.isAlphanum || char == '-' || char == '_'
  | .surrogate _ => false

/-- Three segments with dots between them, in the URL-safe alphabet, none of them empty. -/
def IsCompact (token : Text) : Prop :=
  (Text.splitOn '.' token).length = 3 ∧
    ∀ segment ∈ Text.splitOn '.' token, segment ≠ [] ∧ segment.all isUrlSafe

instance (token : Text) : Decidable (IsCompact token) :=
  inferInstanceAs (Decidable (_ ∧ _))

theorem not_isCompact_of_dots (left right : Text) :
    ¬IsCompact (left ++ .scalar '.' :: .scalar '.' :: right) := by
  rintro ⟨_, segments⟩
  have empty := segments [] (List.mem_of_mem_tail (Text.nil_mem_splitOn '.' left right))
  exact empty.1 rfl

/-- A text with no more than two dots, and with nothing else in it but the URL-safe alphabet. -/
structure IsNeat (token : Text) : Prop where
  dots : token.count (.scalar '.') ≤ 2
  spelled : ∀ point ∈ token, isUrlSafe point = true ∨ point = .scalar '.'

theorem IsNeat.isScalar {token : Text} (neat : IsNeat token) : token.IsScalar := by
  intro point listed
  rcases neat.spelled point listed with safe | rfl
  · cases point with
    | scalar char => exact ⟨char, rfl⟩
    | surrogate _ => cases safe
  · exact ⟨'.', rfl⟩

/-- A text whose three parts spell bytes. -/
structure Legible (token : Text) (header payload tag : Bytes) : Prop
    extends Segments token header payload tag where
  header_read : ∃ bytes, Bytes.readBase64 header = .ok bytes
  payload_read : ∃ bytes, Bytes.readBase64 payload = .ok bytes
  tag_read : ∃ bytes, Bytes.readBase64 tag = .ok bytes

variable {token other : Text} {header payload tag otherHeader otherPayload otherTag : Bytes}

theorem Segments.unique (segments : Segments token header payload tag)
    (others : Segments token otherHeader otherPayload otherTag) :
    header = otherHeader ∧ payload = otherPayload ∧ tag = otherTag := by
  have same := Except.ok.inj (segments.encoded.symm.trans others.encoded)
  have last := splitLastDot?_eq_some_iff.2 ⟨same, others.tag_noDot⟩
  rw [splitLastDot?_eq_some_iff.2 ⟨rfl, segments.tag_noDot⟩, Option.some.injEq,
    Prod.mk.injEq] at last
  have first := splitFirstDot?_eq_some_iff.2 ⟨last.1, others.header_noDot⟩
  rw [splitFirstDot?_eq_some_iff.2 ⟨rfl, segments.header_noDot⟩, Option.some.injEq,
    Prod.mk.injEq] at first
  exact ⟨first.1, first.2, last.2⟩

/-- The segments as texts. -/
theorem Segments.exists_texts (segments : Segments token header payload tag) :
    ∃ first middle last : List Char,
      token = first.map .scalar ++ .scalar '.' :: middle.map .scalar ++
          .scalar '.' :: last.map .scalar ∧
        Bytes.ofChars first = header ∧ Bytes.ofChars middle = payload ∧
        Bytes.ofChars last = tag := by
  rcases Bytes.encode_eq_ok_iff.1 segments.encoded with ⟨chars, rfl, written⟩
  rcases Bytes.exists_dot_of_ofChars_eq written with
    ⟨signed, last, rfl, signedWritten, lastWritten⟩
  rcases Bytes.exists_dot_of_ofChars_eq signedWritten with
    ⟨first, middle, rfl, firstWritten, middleWritten⟩
  exact ⟨first, middle, last, by simp, firstWritten, middleWritten, lastWritten⟩

theorem Segments.two_le_count (segments : Segments token header payload tag) :
    2 ≤ token.count (.scalar '.') := by
  rcases segments.exists_texts with ⟨first, middle, last, rfl, _⟩
  simp only [List.count_append, List.count_cons_self]
  omega

/-- More can be written behind a token as long as there is no dot in it. -/
theorem Segments.append {chars : List Char} (segments : Segments token header payload tag)
    (noDot : 46 ∉ Bytes.ofChars chars) :
    Segments (token ++ chars.map .scalar) header payload (tag ++ Bytes.ofChars chars) := by
  rcases Bytes.encode_eq_ok_iff.1 segments.encoded with ⟨own, rfl, written⟩
  refine ⟨Bytes.encode_eq_ok_iff.2 ⟨own ++ chars, by rw [List.map_append], ?_⟩,
    segments.header_noDot, ?_⟩
  · rw [Bytes.ofChars_append, written]
    simp
  · simp [segments.tag_noDot, noDot]

/-- The pieces of a neat text with three segments are the segments, so that it is compact unless one
of them is empty. -/
theorem IsNeat.isCompact (neat : IsNeat token) (segments : Segments token header payload tag)
    (hasHeader : header ≠ []) (hasPayload : payload ≠ []) (hasTag : tag ≠ []) :
    IsCompact token := by
  rcases segments.exists_texts with ⟨first, middle, last, rfl, rfl, rfl, rfl⟩
  have counted := neat.dots
  simp only [List.count_append, List.count_cons_self] at counted
  have noDot {chars : List Char} (none : (chars.map CodePoint.scalar).count (.scalar '.') = 0) :
      .scalar '.' ∉ chars.map CodePoint.scalar := List.count_eq_zero.1 none
  have firstNoDot := @noDot first (by omega)
  have middleNoDot := @noDot middle (by omega)
  have lastNoDot := @noDot last (by omega)
  have pieces : Text.splitOn '.' (first.map .scalar ++ .scalar '.' :: middle.map .scalar ++
      .scalar '.' :: last.map .scalar) =
      [first.map .scalar, middle.map .scalar, last.map .scalar] := by
    rw [Text.splitOn_append, Text.splitOn_append, Text.splitOn_of_notMem firstNoDot,
      Text.splitOn_of_notMem middleNoDot, Text.splitOn_of_notMem lastNoDot]
    rfl
  have isSegment {chars : List Char} (nonempty : Bytes.ofChars chars ≠ [])
      (isClean : .scalar '.' ∉ chars.map CodePoint.scalar)
      (within : ∀ point ∈ chars.map CodePoint.scalar,
        isUrlSafe point = true ∨ point = .scalar '.') :
      chars.map CodePoint.scalar ≠ [] ∧ (chars.map CodePoint.scalar).all isUrlSafe := by
    constructor
    · rintro empty
      rw [List.map_eq_nil_iff.1 empty] at nonempty
      exact nonempty rfl
    · rw [List.all_eq_true]
      intro point listed
      rcases within point listed with safe | rfl
      · exact safe
      · exact absurd listed isClean
  unfold IsCompact
  rw [pieces]
  refine ⟨rfl, ?_⟩
  have spelled := neat.spelled
  simp only [List.forall_mem_append, List.forall_mem_cons] at spelled
  simp only [List.forall_mem_cons, List.not_mem_nil, false_implies, implies_true, and_true]
  exact ⟨isSegment hasHeader firstNoDot spelled.1.1, isSegment hasPayload middleNoDot spelled.1.2.2,
    isSegment hasTag lastNoDot spelled.2.2⟩

theorem read_congr_tag (segments : Segments token header payload tag)
    (others : Segments other header payload otherTag)
    (same : Bytes.readBase64 otherTag = Bytes.readBase64 tag) : read other = read token := by
  rw [read_of_segments segments, read_of_segments others, ofSegments, ofSegments, same]

theorem IsSpelledBy.legible {parts : SignedToken} (spelled : parts.IsSpelledBy token) :
    ∃ header payload tag, Legible token header payload tag := by
  rcases spelled with
    ⟨header, payload, tag, _, segments, ⟨_, _, headerRead, _⟩, _, payloadRead, tagRead, _⟩
  exact ⟨header, payload, tag, segments, ⟨_, headerRead⟩, ⟨_, payloadRead⟩, ⟨_, tagRead⟩⟩

theorem two_le_sextets {segment bytes : Bytes} (read : Bytes.readBase64 segment = .ok bytes)
    (nonempty : bytes ≠ []) : 2 ≤ Bytes.sextets segment := by
  have length_pos := List.length_pos_of_ne_nil nonempty
  have bound := Bytes.length_le_sextets read
  omega

theorem ne_nil_of_object {bytes : Bytes} {chars : List Char} {fields : Entries Json}
    (utf8 : Bytes.readUtf8 bytes = .ok chars)
    (object : Json.read .values (chars.map .scalar) = .ok (.object fields)) : bytes ≠ [] := by
  rintro rfl
  obtain rfl : [] = chars := Except.ok.inj utf8
  cases object

end SignedToken

namespace Token

open SignedToken

variable {now : Int} {secret token other : Text} {claims : Entries Json}
  {header payload tag otherTag : Bytes}

/-- The parts of an accepted text: header and payload hold something, and the last part spells the
tag that a key of the secret gives to the first two as they are written. -/
structure SignedParts (secret : Text) (header payload tag : Bytes) (algorithm : Algorithm)
    (key : Bytes) : Prop where
  header_sextets : 2 ≤ Bytes.sextets header
  payload_sextets : 2 ≤ Bytes.sextets payload
  tag_sextets : 43 ≤ Bytes.sextets tag
  hasKey : Secret.HasKey secret key
  holds : Bytes.readBase64 tag = .ok (algorithm.mac key (header ++ 46 :: payload))

theorem tag_sextets_of_mac {algorithm : Algorithm} {key message : Bytes}
    (holds : Bytes.readBase64 tag = .ok (algorithm.mac key message)) : 43 ≤ Bytes.sextets tag := by
  have bound := Bytes.length_le_sextets holds
  rw [algorithm.length_mac] at bound
  have least := algorithm.digestSize_ge
  omega

theorem exists_signedParts_of_verify (verified : verify now secret token = .ok claims) :
    ∃ header payload tag algorithm key, Legible token header payload tag ∧
      SignedParts secret header payload tag algorithm key := by
  rcases exists_payload_of_verify verified with ⟨payloadBytes, read, payloadHolds, _⟩
  rcases isSigned_of_verifiedPayload read with ⟨parts, algorithm, key, signed, rfl⟩
  rcases signed.spelled with
    ⟨header, payload, tag, text, segments, ⟨headerBytes, headerChars, headerRead, headerUtf8, rfl⟩,
      headerObject, payloadRead, tagRead, signed_eq⟩
  rcases payloadHolds with ⟨payloadChars, payloadUtf8, payloadObject⟩
  have tagHolds : Bytes.readBase64 tag = .ok (algorithm.mac key (header ++ 46 :: payload)) := by
    rw [tagRead, signed.holds, signed_eq]
  refine ⟨header, payload, tag, algorithm, key, ?_, ?_⟩
  · exact ⟨segments, ⟨_, headerRead⟩, ⟨_, payloadRead⟩, ⟨_, tagRead⟩⟩
  · exact ⟨two_le_sextets headerRead (ne_nil_of_object headerUtf8 headerObject),
      two_le_sextets payloadRead (ne_nil_of_object payloadUtf8 payloadObject),
      tag_sextets_of_mac tagHolds, signed.hasKey, tagHolds⟩

/-- An illegible text counts as one with an invalid tag, unless it cannot even be read. -/
theorem refuses_illegible (scalar : token.IsScalar) (shallow : ¬HeaderTooDeep token)
    (illegible : ¬∃ header payload tag, Legible token header payload tag) (now : Int) :
    Refuses .signatureInvalid now secret token := by
  have untagged : ¬∃ parts algorithm, IsTagged token parts algorithm := by
    rintro ⟨parts, algorithm, tagged⟩
    exact illegible tagged.spelled.legible
  rw [refuses_untagged_iff untagged]
  rintro (notScalar | deep)
  · exact notScalar scalar
  · exact shallow deep

theorem refuses_of_count_dot (scalar : token.IsScalar) (few : token.count (.scalar '.') < 2)
    (now : Int) : Refuses .signatureInvalid now secret token := by
  have notSegments {header payload tag : Bytes} : ¬Segments token header payload tag :=
    fun segments => absurd segments.two_le_count (by omega)
  apply refuses_illegible scalar
  · rintro ⟨header, payload, tag, text, container, segments, _⟩
    exact notSegments segments
  · rintro ⟨header, payload, tag, legible⟩
    exact notSegments legible.toSegments

/-- The first and the last segment of a signed text are not empty. -/
theorem exists_segments_of_isSigned {parts : SignedToken} {algorithm : Algorithm} {key : Bytes}
    (signed : IsSigned secret token parts algorithm key) :
    ∃ header payload tag, Segments token header payload tag ∧ header ≠ [] ∧ tag ≠ [] ∧
      Bytes.readBase64 payload = .ok parts.payload := by
  rcases signed.spelled with
    ⟨header, payload, tag, text, segments, ⟨headerBytes, chars, headerRead, utf8, rfl⟩, object,
      payloadRead, tagRead, _⟩
  refine ⟨header, payload, tag, segments, ?_, ?_, payloadRead⟩
  · rintro rfl
    obtain rfl : [] = headerBytes := Except.ok.inj headerRead
    exact ne_nil_of_object utf8 object rfl
  · rintro rfl
    have size := tag_sextets_of_mac (tagRead.trans (congrArg _ signed.holds))
    exact absurd size (by decide)

/-- An empty payload is no object. -/
theorem judge_nil (now : Int) :
    ∃ failure : AuthFailure, failure.kind = .tokenExpiredOrInvalid ∧
      judge now [] = .error (.failure failure) := ⟨_, rfl, rfl⟩

/-- A neat text is accepted only if it is compact. -/
theorem isCompact_of_verify (verified : verify now secret token = .ok claims)
    (neat : IsNeat token) : IsCompact token := by
  rcases exists_signedParts_of_verify verified with
    ⟨header, payload, tag, algorithm, key, legible, parts⟩
  have nonempty {segment : Bytes} (some : 0 < Bytes.sextets segment) : segment ≠ [] := by
    rintro rfl
    exact absurd some (by decide)
  exact neat.isCompact legible.toSegments (nonempty (Nat.lt_of_lt_of_le (by decide)
    parts.header_sextets)) (nonempty (Nat.lt_of_lt_of_le (by decide) parts.payload_sextets))
    (nonempty (Nat.lt_of_lt_of_le (by decide) parts.tag_sextets))

/-- The tag of a neat text that is not compact is called invalid, unless the text is signed as it
stands with an empty payload, or the secret cannot be used. -/
theorem refuses_of_not_isCompact (neat : IsNeat token) (shallow : ¬HeaderTooDeep token)
    (loose : ¬IsCompact token) (now : Int) :
    Refuses .signatureInvalid now secret token ∨
      ((∃ header tag, Segments token header [] tag) ∧
        (∃ parts algorithm key, IsSigned secret token parts algorithm key) ∧
        Refuses .tokenExpiredOrInvalid now secret token) ∨
      ((∃ fault, verify now secret token = .error (.fault fault)) ∧
        ¬∃ own, Secret.IsVerbatim secret own) := by
  cases verified : verifiedPayload secret token with
  | ok payload =>
      right; left
      rcases isSigned_of_verifiedPayload verified with ⟨parts, algorithm, key, signed, rfl⟩
      rcases exists_segments_of_isSigned signed with
        ⟨header, payload, tag, segments, hasHeader, hasTag, payloadRead⟩
      -- Only the payload is left to be empty.
      obtain rfl : payload = [] := by
        by_contra hasPayload
        exact loose (neat.isCompact segments hasHeader hasPayload hasTag)
      rcases judge_nil now with ⟨failure, ofKind, judged⟩
      have nothing : parts.payload = [] := (Except.ok.inj payloadRead).symm
      refine ⟨⟨header, tag, segments⟩, ⟨parts, algorithm, key, signed⟩, failure, ofKind, ?_⟩
      rw [verify_eq, verified, nothing]
      exact judged
  | error raised =>
      have stopped : verify now secret token = .error raised := verify_of_error verified
      rcases verifiedPayload_refusal verified with ⟨failure, rfl, ofKind⟩ | ⟨fault, rfl⟩
      · exact Or.inl ⟨failure, ofKind, stopped⟩
      · refine Or.inr (Or.inr ⟨⟨fault, stopped⟩, ?_⟩)
        rintro ⟨own, verbatim⟩
        have ends : Ends SignedToken.IsRefusal (¬token.IsScalar ∨ HeaderTooDeep token)
            (verifiedPayload secret token) := verifiedPayload_ends verbatim
        rw [verified] at ends
        cases ends with
        | breaksOff _ _ broken =>
            rcases broken with notScalar | deep
            · exact notScalar neat.isScalar
            · exact shallow deep
        | refuses _ refusal _ =>
            rcases refusal with ⟨_, _, _, _, same⟩
            cases same

/-- Texts that differ in their last parts only, but spell the same bytes there, are verified
alike. -/
theorem verify_congr_tag (segments : Segments token header payload tag)
    (others : Segments other header payload otherTag)
    (same : Bytes.readBase64 otherTag = Bytes.readBase64 tag) :
    verify now secret other = verify now secret token := by
  have payloads : verifiedPayload secret other = verifiedPayload secret token := by
    rw [verifiedPayload, verifiedPayload, read_congr_tag segments others same]
  rw [verify_eq, verify_eq, payloads]

/-- Foreign characters behind a token go unnoticed, if they are four bytes long or a multiple of
that. -/
theorem verify_append_foreign {chars : List Char} (segments : Segments token header payload tag)
    (foreign : ∀ byte ∈ Bytes.ofChars chars, Bytes.IsForeign byte)
    (noDot : 46 ∉ Bytes.ofChars chars) (whole : (Bytes.ofChars chars).length % 4 = 0) :
    verify now secret (token ++ chars.map .scalar) = verify now secret token := by
  apply verify_congr_tag segments (segments.append noDot)
  have inserted := Bytes.readBase64_insert foreign whole tag []
  rwa [List.append_nil, List.append_nil] at inserted

/-- A tag passes behind two different beginnings only if its algorithm gives it to both of them. -/
theorem mac_eq_of_same_tag {later : Int} {otherHeader otherPayload : Bytes}
    {otherClaims : Entries Json} (segments : Segments token header payload tag)
    (others : Segments other otherHeader otherPayload tag)
    (verified : verify now secret token = .ok claims)
    (otherVerified : verify later secret other = .ok otherClaims) :
    ∃ (algorithm : Algorithm) (key otherKey : Bytes), Secret.HasKey secret key ∧
      Secret.HasKey secret otherKey ∧
      algorithm.mac key (header ++ 46 :: payload) =
        algorithm.mac otherKey (otherHeader ++ 46 :: otherPayload) := by
  rcases exists_signedParts_of_verify verified with
    ⟨ownHeader, ownPayload, ownTag, algorithm, key, legible, accepted⟩
  rcases exists_signedParts_of_verify otherVerified with
    ⟨foreignHeader, foreignPayload, foreignTag, otherAlgorithm, otherKey, otherLegible,
      otherAccepted⟩
  rcases segments.unique legible.toSegments with ⟨rfl, rfl, rfl⟩
  rcases others.unique otherLegible.toSegments with ⟨rfl, rfl, rfl⟩
  -- Equal tags are equally long, so that one algorithm gave them both.
  have same := Except.ok.inj (accepted.holds.symm.trans otherAccepted.holds)
  obtain rfl := Algorithm.eq_of_mac_eq same
  exact ⟨algorithm, key, otherKey, accepted.hasKey, otherAccepted.hasKey, same⟩

theorem segments_letters : Segments ".b.c" [] [98] [99] := ⟨rfl, by decide, by decide⟩

/-- The token of the driver with four characters behind it that spell nothing. -/
def shoutedToken : Text := driverToken ++ "!!!!".toList.map .scalar

/-- A signed token whose payload is empty. -/
def hollowToken : Text := mint .hs512 [115] tagHeader []

theorem not_isCompact_hollowToken : ¬SignedToken.IsCompact hollowToken := by
  have cut : hollowToken = (segment tagHeader).map .scalar ++ .scalar '.' :: .scalar '.' ::
      (Bytes.toBase64Url (tagOf .hs512 [115] tagHeader [])).map .scalar := by
    have empty : segment [] = [] := rfl
    rw [hollowToken, mint, mintChars, signingInput, empty]
    simp
  rw [cut]
  exact SignedToken.not_isCompact_of_dots _ _

/-- A header without a payload or a tag. -/
def bareToken : Text := (segment tagHeader ++ "..".toList).map .scalar

/-- The same with a header that is nested too deeply to be read. -/
def deepToken : Text := (segment (List.replicate 1000 '[') ++ "..".toList).map .scalar

/-- Verification ends without a verdict. -/
def breaksOff (secret token : Text) : Bool :=
  match verify 0 secret token with
  | .error (.fault _) => true
  | _ => false

end Token

end FleetGate
