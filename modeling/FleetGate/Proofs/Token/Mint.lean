import FleetGate.Proofs.Auth.Stages
import FleetGate.Proofs.Bytes.Utf8Reading
import FleetGate.Proofs.Text.Words
import FleetGate.Proofs.Token.Validity
import FleetGate.Proofs.Token.Verbatim
import Mathlib.Data.List.Permutation

/-!
# Minted tokens

Whoever has the secret can mint a token: header and payload are written in base64 with a dot
between them, and the tag over both follows behind another dot. As the credential of a request
such a token is decoded to the claims that were put into it, provided that its header names the
algorithm of the tag and that the claims are valid.

The credential is cut at its white space and the token at its dots, so no base64 segment may hold
either of them. The payload is the middle segment and could hold dots without harm; the header and
the tag could not.
-/

namespace FleetGate

namespace Bytes

/-- What is written in the URL-safe alphabet keeps every property that its 64 characters have. -/
theorem forall_mem_toBase64Url {property : Char → Prop} (bytes : Bytes)
    (sextets : ∀ sextet < 64, property (sextetChar sextet)) :
    ∀ char ∈ toBase64Url bytes, property char := by
  intro char char_mem
  rcases exists_sextet_of_mem_toBase64Url char_mem with ⟨sextet, small, rfl⟩
  exact sextets sextet small

theorem isBlank_sextetChar :
    ∀ sextet < 64, (CodePoint.scalar (sextetChar sextet)).isBlank = false := by
  decide +kernel

end Bytes

namespace Token

/-- A segment of a token, in base64. -/
def segment (chars : List Char) : List Char :=
  Bytes.toBase64Url (Bytes.ofChars chars)

/-- What the tag of a token is about: its header and its payload, as they are written. -/
def signingInput (header payload : List Char) : List Char :=
  segment header ++ '.' :: segment payload

/-- The tag over a header and a payload under a key. -/
def tagOf (algorithm : Algorithm) (key : Bytes) (header payload : List Char) : Bytes :=
  algorithm.mac key (Bytes.ofChars (signingInput header payload))

/-- The characters of a token with a header and a payload, signed with a key. -/
def mintChars (algorithm : Algorithm) (key : Bytes) (header payload : List Char) : List Char :=
  signingInput header payload ++ '.' :: Bytes.toBase64Url (tagOf algorithm key header payload)

/-- A token with a header and a payload, signed with a key. -/
def mint (algorithm : Algorithm) (key : Bytes) (header payload : List Char) : Text :=
  (mintChars algorithm key header payload).map .scalar

/-- The credential that presents a token. -/
def bearer (token : Text) : Text :=
  Credential.scheme ++ .scalar ' ' :: token

variable {algorithm : Algorithm} {key own : Bytes} {header payload : List Char}

theorem ofChars_signingInput :
    Bytes.ofChars (signingInput header payload) =
      Bytes.ofChars (segment header) ++ 46 :: Bytes.ofChars (segment payload) := by
  rw [signingInput, Bytes.ofChars_append, Bytes.ofChars_cons]
  rfl

theorem segments_mint :
    SignedToken.Segments (mint algorithm key header payload) (Bytes.ofChars (segment header))
      (Bytes.ofChars (segment payload))
      (Bytes.ofChars (Bytes.toBase64Url (tagOf algorithm key header payload))) := by
  refine ⟨?_, Bytes.dot_notMem_toBase64Url _, Bytes.dot_notMem_toBase64Url _⟩
  refine Bytes.encode_eq_ok_iff.2 ⟨_, rfl, ?_⟩
  rw [mintChars, Bytes.ofChars_append, Bytes.ofChars_cons, ofChars_signingInput]
  rfl

/-- A minted token spells what it was minted from. -/
theorem isSpelledBy_mint {fields : Entries Json}
    (object : Json.read .values (header.map .scalar) = .ok (.object fields)) :
    SignedToken.IsSpelledBy
      ⟨Bytes.ofChars (signingInput header payload), fields, Bytes.ofChars payload,
        tagOf algorithm key header payload⟩
      (mint algorithm key header payload) := by
  have reads : SignedToken.HeaderReads (Bytes.ofChars (segment header)) (header.map .scalar) :=
    ⟨Bytes.ofChars header, header, Bytes.readBase64_toBase64Url _, Bytes.readUtf8_ofChars header,
      rfl⟩
  exact ⟨_, _, _, _, segments_mint, reads, object, Bytes.readBase64_toBase64Url _,
    Bytes.readBase64_toBase64Url _, ofChars_signingInput⟩

theorem payloadHolds_ofChars {claims : Entries Json}
    (object : Json.read .values (payload.map .scalar) = .ok (.object claims)) :
    PayloadHolds (Bytes.ofChars payload) claims :=
  ⟨payload, Bytes.readUtf8_ofChars payload, object⟩

theorem isUnbroken_mint : Text.IsUnbroken (mint algorithm key header payload) := by
  have base64 (bytes : Bytes) : ∀ char ∈ Bytes.toBase64Url bytes,
      (CodePoint.scalar char).isBlank = false :=
    Bytes.forall_mem_toBase64Url bytes Bytes.isBlank_sextetChar
  have dot : (CodePoint.scalar '.').isBlank = false := by decide
  intro point point_mem
  rcases List.mem_map.1 point_mem with ⟨char, char_mem, rfl⟩
  simp only [mintChars, signingInput, segment, List.mem_append, List.mem_cons] at char_mem
  rcases char_mem with (inHeader | rfl | inPayload) | rfl | inTag
  · exact base64 _ char inHeader
  · exact dot
  · exact base64 _ char inPayload
  · exact dot
  · exact base64 _ char inTag

/-- The credential of an unbroken token presents it. -/
theorem presents_bearer {token : Text} (nonempty : token ≠ [])
    (unbroken : Text.IsUnbroken token) : Credential.Presents (some (bearer token)) token := by
  have schemeUnbroken : Text.IsUnbroken Credential.scheme := by
    unfold Text.IsUnbroken
    decide
  refine ⟨_, rfl, ?_⟩
  rw [bearer, Text.splitBlank_append_blank (by decide) schemeUnbroken (by decide),
    Text.splitBlank_word nonempty unbroken]

/-- Under a verbatim secret the tag of a minted token holds. -/
theorem verifiedPayload_mint {secret : Text} {fields : Entries Json}
    (verbatim : Secret.IsVerbatim secret own)
    (headerObject : Json.read .values (header.map .scalar) = .ok (.object fields))
    (named : Entries.find "alg" fields = some (.string (Text.ofString algorithm.name))) :
    verifiedPayload secret (mint algorithm own header payload) = .ok (Bytes.ofChars payload) := by
  have tagged : IsTagged (mint algorithm own header payload) _ algorithm :=
    ⟨isSpelledBy_mint headerObject, named⟩
  rw [verifiedPayload_of_isVerbatim verbatim tagged]
  simp [tagOf]

/-- Under a verbatim secret a minted token is decoded to the claims that were put into it. -/
theorem decode_bearer_mint {secret : Text} {now : Int} {fields claims : Entries Json}
    (verbatim : Secret.IsVerbatim secret own)
    (headerObject : Json.read .values (header.map .scalar) = .ok (.object fields))
    (named : Entries.find "alg" fields = some (.string (Text.ofString algorithm.name)))
    (payloadObject : Json.read .values (payload.map .scalar) = .ok (.object claims))
    (valid : Claims.AreValid now claims) :
    decode now secret (some (bearer (mint algorithm own header payload))) = .ok claims := by
  have nonempty : mint algorithm own header payload ≠ [] := by
    simp [mint, mintChars]
  have presented : Credential.token (some (bearer (mint algorithm own header payload))) =
      .ok (mint algorithm own header payload) :=
    Credential.token_eq_ok_iff.2 (presents_bearer nonempty isUnbroken_mint)
  have tagged : IsTagged (mint algorithm own header payload) _ algorithm :=
    ⟨isSpelledBy_mint headerObject, named⟩
  have verified : verifiedPayload secret (mint algorithm own header payload) =
      .ok (Bytes.ofChars payload) := by
    rw [verifiedPayload_of_isVerbatim verbatim tagged]
    simp [tagOf]
  have judged : judge now (Bytes.ofChars payload) = .ok claims :=
    judge_eq_ok_iff.2 ⟨payloadHolds_ofChars payloadObject, valid⟩
  rw [decode, presented]
  change verify now secret (mint algorithm own header payload) = .ok claims
  rw [verify_eq, verified]
  exact judged

/-- A header that names an algorithm. -/
def tagHeader : List Char := "\x7b\"alg\":\"HS512\"\x7d".toList

/-- A payload that is valid in one second only. -/
def momentPayload : List Char := "\x7b\"nbf\":\"5\",\"exp\":\"5\"\x7d".toList

/-- The claims of a payload that is valid in one second only. -/
def momentClaims : Entries Json := [("nbf", .string "5"), ("exp", .string "5")]

theorem read_tagHeader :
    Json.read .values (tagHeader.map .scalar) = .ok (.object [("alg", .string "HS512")]) := by
  cbv

theorem read_momentPayload :
    Json.read .values (momentPayload.map .scalar) = .ok (.object momentClaims) := by
  cbv

theorem areValid_momentClaims : Claims.AreValid 5 momentClaims := by
  rw [← Claims.check_eq_ok_iff]
  rfl

/-- In that second the token is decoded. -/
theorem decode_bearer_mint_moment :
    decode 5 "s" (some (bearer (mint .hs512 [115] tagHeader momentPayload))) =
      .ok momentClaims := by
  apply decode_bearer_mint isVerbatim_plain read_tagHeader
  · rfl
  · exact read_momentPayload
  · exact areValid_momentClaims

end Token

end FleetGate
