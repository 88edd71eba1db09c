import FleetGate.Proofs.Auth.Failure
import FleetGate.Proofs.Bytes.Base64
import FleetGate.Proofs.Bytes.Utf8
import FleetGate.Token.Segments

/-!
# What it means to spell a token

`SignedToken.IsSpelledBy` says when a text spells the parts of a token: dots delimit its first and
its last segment, all three segments are base64, and the first one holds a JSON object. Reading
finds exactly these parts. Where there are none, the tag counts as invalid, with two exceptions:
a text that has no UTF-8 form, and a header that is nested too deeply to be read.
-/

namespace FleetGate

theorem Bytes.isScalar_message_utf8Fault (fault : Bytes.Utf8Fault) : fault.message.IsScalar := by
  unfold Bytes.Utf8Fault.message
  split <;> simp

/-- What is said about a text that is no JSON is free of lone halves, whatever the text holds. -/
theorem Json.isScalar_message_stop (text : Text) (stop : Json.Stop) :
    (stop.message text).IsScalar := by
  cases stop with
  | flaw found remaining => simp [Json.Stop.message]
  | longInteger digits => simp [Json.Stop.message]
  | nesting container => cases container <;> simp [Json.Stop.message]

theorem Bytes.encode_eq_ok_iff {text : Text} {bytes : Bytes} :
    Bytes.encode text = .ok bytes ↔
      ∃ chars : List Char, text = chars.map .scalar ∧ Bytes.ofChars chars = bytes := by
  rw [← Bytes.ofText_eq_ok_iff]
  unfold Bytes.encode
  split
  · rename_i written found
    simp [found]
  · rename_i fault found
    simp [found]

theorem Bytes.exists_encode_eq_error_iff {text : Text} :
    (∃ fault, Bytes.encode text = .error fault) ↔ ¬text.IsScalar := by
  rw [← Bytes.exists_ofText_eq_ok_iff]
  unfold Bytes.encode
  split
  · rename_i written found
    simp [found]
  · rename_i fault found
    simp [found]

namespace SignedToken

/-- Splitting at the first dot cuts where the first dot stands. -/
theorem splitFirstDot?_eq_some_iff {bytes before after : Bytes} :
    splitFirstDot? bytes = some (before, after) ↔ bytes = before ++ 46 :: after ∧ 46 ∉ before := by
  induction bytes generalizing before with
  | nil => simp [splitFirstDot?]
  | cons byte rest ih =>
      rw [splitFirstDot?]
      by_cases dot : byte = 46
      · subst dot
        cases before with
        | nil => simp
        | cons first others => simp_all
      · simp only [dot, if_false, Option.map_eq_some_iff, Prod.exists, Prod.mk.injEq]
        constructor
        · rintro ⟨others, later, found, rfl, rfl⟩
          rcases ih.1 found with ⟨rfl, noDot⟩
          exact ⟨rfl, by simp [noDot, Ne.symm dot]⟩
        · rintro ⟨spelled, noDot⟩
          cases before with
          | nil => simp_all
          | cons first others =>
              simp only [List.cons_append, List.cons.injEq] at spelled
              rcases spelled with ⟨rfl, rfl⟩
              refine ⟨others, after, ih.2 ⟨rfl, ?_⟩, rfl, rfl⟩
              exact fun dot_mem => noDot (by simp [dot_mem])

theorem splitLastDot?_eq_some_iff {bytes before after : Bytes} :
    splitLastDot? bytes = some (before, after) ↔ bytes = before ++ 46 :: after ∧ 46 ∉ after := by
  simp only [splitLastDot?, Option.map_eq_some_iff, Prod.exists, Prod.mk.injEq]
  constructor
  · rintro ⟨later, earlier, found, rfl, rfl⟩
    rcases splitFirstDot?_eq_some_iff.1 found with ⟨reversed, noDot⟩
    refine ⟨?_, by simpa using noDot⟩
    rw [← List.reverse_reverse bytes, reversed]
    simp
  · rintro ⟨rfl, noDot⟩
    refine ⟨after.reverse, before.reverse, ?_, by simp, by simp⟩
    rw [splitFirstDot?_eq_some_iff]
    exact ⟨by simp, by simpa using noDot⟩

/-- A token is three segments with dots between them; the middle one may hold dots itself. -/
structure Segments (token : Text) (header payload tag : Bytes) : Prop where
  encoded : Bytes.encode token = .ok (header ++ 46 :: payload ++ 46 :: tag)
  header_noDot : 46 ∉ header
  tag_noDot : 46 ∉ tag

/-- The text that a header segment holds in base64. -/
def HeaderReads (header : Bytes) (text : Text) : Prop :=
  ∃ bytes chars, Bytes.readBase64 header = .ok bytes ∧ Bytes.readUtf8 bytes = .ok chars ∧
    text = chars.map .scalar

/-- A token text spells the parts of a token. -/
def IsSpelledBy (parts : SignedToken) (token : Text) : Prop :=
  ∃ header payload tag text, Segments token header payload tag ∧ HeaderReads header text ∧
    Json.read .values text = .ok (.object parts.header) ∧
    Bytes.readBase64 payload = .ok parts.payload ∧ Bytes.readBase64 tag = .ok parts.tag ∧
    parts.signed = header ++ 46 :: payload

/-- The header of a token is nested too deeply to be read. -/
def HeaderTooDeep (token : Text) : Prop :=
  ∃ header payload tag text container, Segments token header payload tag ∧
    HeaderReads header text ∧ Json.read .values text = .error (.nesting container)

/-- A token is refused because of its tag, or because it cannot be taken apart. -/
abbrev IsRefusal : Raised → Prop := Raised.IsPlainFailure .signatureInvalid

theorem isRefusal_invalid {detail : Text} (scalar : detail.IsScalar) :
    IsRefusal (invalid detail) :=
  ⟨detail, _, scalar, Text.isScalar_ofString _, rfl⟩

/-- Reading a token goes on with its segments. -/
theorem read_of_segments {token : Text} {header payload tag : Bytes}
    (segments : Segments token header payload tag) :
    read token = ofSegments (header ++ 46 :: payload) header payload tag := by
  have last : splitLastDot? (header ++ 46 :: payload ++ 46 :: tag) =
      some (header ++ 46 :: payload, tag) :=
    splitLastDot?_eq_some_iff.2 ⟨rfl, segments.tag_noDot⟩
  have first : splitFirstDot? (header ++ 46 :: payload) = some (header, payload) :=
    splitFirstDot?_eq_some_iff.2 ⟨rfl, segments.header_noDot⟩
  simp only [read, segments.encoded, last, first]

/-- A text that is not three segments is refused. -/
theorem read_of_not_segments {token : Text}
    (notSegments : ∀ header payload tag, ¬Segments token header payload tag) :
    (∃ fault, Bytes.encode token = .error fault ∧ read token = .error (.fault fault)) ∨
      read token = .error (invalid "Not enough segments") := by
  cases encoded : Bytes.encode token with
  | error fault => exact Or.inl ⟨fault, rfl, by simp [read, encoded]⟩
  | ok bytes =>
      right
      cases last : splitLastDot? bytes with
      | none => simp [read, encoded, last]
      | some cut =>
          obtain ⟨signed, tag⟩ := cut
          cases first : splitFirstDot? signed with
          | none => simp [read, encoded, last, first]
          | some cut =>
              obtain ⟨header, payload⟩ := cut
              rcases splitLastDot?_eq_some_iff.1 last with ⟨rfl, tag_noDot⟩
              rcases splitFirstDot?_eq_some_iff.1 first with ⟨rfl, header_noDot⟩
              exact absurd ⟨encoded, header_noDot, tag_noDot⟩ (notSegments header payload tag)

/-- The header of a token is an object, or it is refused, or it is nested too deeply. -/
theorem readHeader_cases (bytes : Bytes) :
    (∃ chars header, Bytes.readUtf8 bytes = .ok chars ∧
        Json.read .values (chars.map .scalar) = .ok (.object header) ∧
        readHeader bytes = .ok header) ∨
      (∃ detail : Text, detail.IsScalar ∧ readHeader bytes = .error (invalid detail)) ∨
      (∃ chars container fault, Bytes.readUtf8 bytes = .ok chars ∧
        Json.read .values (chars.map .scalar) = .error (.nesting container) ∧
        readHeader bytes = .error (.fault fault)) := by
  unfold readHeader
  cases utf8 : Bytes.readUtf8 bytes with
  | error fault =>
      right; left
      exact ⟨_, by simp [Bytes.isScalar_message_utf8Fault], rfl⟩
  | ok chars =>
      dsimp only
      cases json : Json.read .values (chars.map .scalar) with
      | ok value =>
          cases value with
          | object header => exact Or.inl ⟨chars, header, rfl, json, rfl⟩
          | _ =>
              right; left
              exact ⟨_, Text.isScalar_ofString "Invalid header string: must be a json object", rfl⟩
      | error stop =>
          cases stop with
          | nesting container =>
              right; right
              exact ⟨chars, container, _, rfl, json, rfl⟩
          | _ =>
              right; left
              exact ⟨_, by simp [Json.isScalar_message_stop], rfl⟩

/-- Three segments are the parts of a token, or they are refused, or the header is nested too
deeply. -/
theorem ofSegments_cases (signed header payload tag : Bytes) :
    (∃ parts text, HeaderReads header text ∧
        Json.read .values text = .ok (.object parts.header) ∧
        Bytes.readBase64 payload = .ok parts.payload ∧ Bytes.readBase64 tag = .ok parts.tag ∧
        parts.signed = signed ∧ ofSegments signed header payload tag = .ok parts) ∨
      (∃ detail : Text, detail.IsScalar ∧
        ofSegments signed header payload tag = .error (invalid detail)) ∨
      (∃ text container fault, HeaderReads header text ∧
        Json.read .values text = .error (.nesting container) ∧
        ofSegments signed header payload tag = .error (.fault fault)) := by
  unfold ofSegments
  cases headerRead : Bytes.readBase64 header with
  | error fault => exact Or.inr (Or.inl ⟨_, Text.isScalar_ofString "Not enough segments", rfl⟩)
  | ok bytes =>
      dsimp only
      rcases readHeader_cases bytes with ⟨chars, fields, utf8, json, found⟩ |
        ⟨detail, scalar, refused⟩ | ⟨chars, container, fault, utf8, deep, stopped⟩
      · rw [found]
        dsimp only
        cases payloadRead : Bytes.readBase64 payload with
        | error fault =>
            exact Or.inr (Or.inl ⟨_, Text.isScalar_ofString "Invalid payload padding", rfl⟩)
        | ok payload =>
            cases tagRead : Bytes.readBase64 tag with
            | error fault =>
                exact Or.inr (Or.inl ⟨_, Text.isScalar_ofString "Invalid crypto padding", rfl⟩)
            | ok tag =>
                exact Or.inl ⟨⟨signed, fields, payload, tag⟩, _,
                  ⟨bytes, chars, headerRead, utf8, rfl⟩, json, rfl, rfl, rfl, rfl⟩
      · rw [refused]
        exact Or.inr (Or.inl ⟨detail, scalar, rfl⟩)
      · rw [stopped]
        have reads : HeaderReads header (chars.map .scalar) := ⟨bytes, chars, headerRead, utf8, rfl⟩
        exact Or.inr (Or.inr ⟨_, container, fault, reads, deep, rfl⟩)

theorem ofSegments_eq_ok {signed header payload tag payloadBytes tagBytes : Bytes} {text : Text}
    {fields : Entries Json} (reads : HeaderReads header text)
    (object : Json.read .values text = .ok (.object fields))
    (payloadRead : Bytes.readBase64 payload = .ok payloadBytes)
    (tagRead : Bytes.readBase64 tag = .ok tagBytes) :
    ofSegments signed header payload tag = .ok ⟨signed, fields, payloadBytes, tagBytes⟩ := by
  rcases reads with ⟨bytes, chars, base64, utf8, rfl⟩
  simp only [ofSegments, readHeader, base64, utf8, object, payloadRead, tagRead]

/-- Reading a token finds exactly the parts that it spells. -/
theorem read_eq_ok_iff {token : Text} {parts : SignedToken} :
    read token = .ok parts ↔ parts.IsSpelledBy token := by
  constructor
  · intro found
    by_cases taken : ∃ header payload tag, Segments token header payload tag
    · rcases taken with ⟨header, payload, tag, segments⟩
      rw [read_of_segments segments] at found
      rcases ofSegments_cases (header ++ 46 :: payload) header payload tag with
        ⟨others, text, reads, object, payloadRead, tagRead, signed, same⟩ |
          ⟨detail, _, refused⟩ | ⟨text, container, fault, _, _, stopped⟩
      · rw [same, Except.ok.injEq] at found
        subst found
        exact ⟨header, payload, tag, text, segments, reads, object, payloadRead, tagRead, signed⟩
      · rw [refused] at found
        cases found
      · rw [stopped] at found
        cases found
    · have notSegments : ∀ header payload tag, ¬Segments token header payload tag :=
        fun header payload tag segments => taken ⟨header, payload, tag, segments⟩
      rcases read_of_not_segments notSegments with ⟨fault, _, stopped⟩ | refused
      · rw [stopped] at found
        cases found
      · rw [refused] at found
        cases found
  · rintro ⟨header, payload, tag, text, segments, reads, object, payloadRead, tagRead, signed⟩
    rw [read_of_segments segments, ofSegments_eq_ok reads object payloadRead tagRead, ← signed]

/-- The tag of a token can be replaced by any other. -/
theorem IsSpelledBy.retag {parts : SignedToken} {token : Text} (spelled : parts.IsSpelledBy token)
    (newTag : Bytes) : ∃ other, IsSpelledBy { parts with tag := newTag } other := by
  rcases spelled with
    ⟨header, payload, tag, text, segments, reads, object, payloadRead, _, signed⟩
  -- The token is cut as a text here, so that only its last segment is written anew.
  rcases Bytes.encode_eq_ok_iff.1 segments.encoded with ⟨chars, _, written⟩
  rcases Bytes.exists_dot_of_ofChars_eq written with ⟨left, right, _, leftWritten, _⟩
  refine ⟨(left ++ '.' :: Bytes.toBase64Url newTag).map .scalar, header, payload,
    Bytes.ofChars (Bytes.toBase64Url newTag), text, ⟨?_, segments.header_noDot, ?_⟩, reads, object,
    payloadRead, Bytes.readBase64_toBase64Url newTag, signed⟩
  · refine Bytes.encode_eq_ok_iff.2 ⟨_, rfl, ?_⟩
    rw [Bytes.ofChars_append, leftWritten]
    rfl
  · exact Bytes.dot_notMem_toBase64Url newTag

theorem isFault_of_headerTooDeep {token : Text} (deep : HeaderTooDeep token) :
    ∃ raised : Raised, raised.IsFault ∧ read token = .error raised := by
  rcases deep with ⟨header, payload, tag, text, container, segments, reads, stopped⟩
  rw [read_of_segments segments]
  rcases reads with ⟨bytes, chars, base64, utf8, rfl⟩
  simp only [ofSegments, readHeader, base64, utf8, stopped]
  exact ⟨_, ⟨_, rfl⟩, rfl⟩

theorem isFault_of_not_isScalar {token : Text} (notScalar : ¬token.IsScalar) :
    ∃ raised : Raised, raised.IsFault ∧ read token = .error raised := by
  rcases Bytes.exists_encode_eq_error_iff.2 notScalar with ⟨fault, notEncoded⟩
  exact ⟨_, ⟨fault, rfl⟩, by simp [read, notEncoded]⟩

/-- Reading a token finds its parts or refuses it, unless it has no UTF-8 form or its header is
nested too deeply. -/
theorem read_ends (token : Text) :
    Ends IsRefusal (¬token.IsScalar ∨ HeaderTooDeep token) (read token) := by
  by_cases broken : ¬token.IsScalar ∨ HeaderTooDeep token
  · have stops : ∃ raised : Raised, raised.IsFault ∧ read token = .error raised := by
      rcases broken with notScalar | deep
      · exact isFault_of_not_isScalar notScalar
      · exact isFault_of_headerTooDeep deep
    rcases stops with ⟨raised, isFault, stopped⟩
    rw [stopped]
    exact .breaksOff raised isFault broken
  · by_cases taken : ∃ header payload tag, Segments token header payload tag
    · rcases taken with ⟨header, payload, tag, segments⟩
      rw [read_of_segments segments]
      rcases ofSegments_cases (header ++ 46 :: payload) header payload tag with
        ⟨parts, text, reads, object, payloadRead, tagRead, signed, found⟩ |
          ⟨detail, scalar, refused⟩ | ⟨text, container, fault, reads, deep, stopped⟩
      · rw [found]
        exact .passes parts broken
      · rw [refused]
        exact .refuses _ (isRefusal_invalid scalar) broken
      · exact absurd (Or.inr ⟨header, payload, tag, text, container, segments, reads, deep⟩) broken
    · have notSegments : ∀ header payload tag, ¬Segments token header payload tag :=
        fun header payload tag segments => taken ⟨header, payload, tag, segments⟩
      rcases read_of_not_segments notSegments with ⟨fault, notEncoded, stopped⟩ | refused
      · have notScalar : ¬token.IsScalar :=
          Bytes.exists_encode_eq_error_iff.1 ⟨fault, notEncoded⟩
        exact absurd (Or.inl notScalar) broken
      · rw [refused]
        exact .refuses _ (isRefusal_invalid (Text.isScalar_ofString _)) broken

end SignedToken

end FleetGate
