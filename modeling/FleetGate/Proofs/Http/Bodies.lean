import FleetGate.Proofs.Auth.Failure
import FleetGate.Proofs.Bytes.Utf8Reading
import FleetGate.Proofs.Json.Tidy
import FleetGate.Proofs.Token.Payload

/-!
# Error bodies and what a client reads in them

A client reads the body of an answer from its bytes, in UTF-8 or in the encoding that the first
bytes speak for. Both ways it finds the object that was sent, as long as the object is built from
null, flags, integers, finite doubles and scalar texts (`Response.exists_ofJson`).

The object for an error of the service is put together in two places, from the parts and from the
error that keeps them. Both leave out details that say nothing (`ServiceError.payloadOf_eq`).
-/

namespace FleetGate

namespace Json

theorem allFiniteItems_eq (items : List Json) : allFiniteItems items = items.all allFinite := by
  induction items with
  | nil => rfl
  | cons first others ih => rw [allFiniteItems, ih, List.all_cons]

theorem allFiniteFields_eq (fields : Entries Json) :
    allFiniteFields fields = fields.all fun field => field.2.allFinite := by
  induction fields with
  | nil => rfl
  | cons first others ih => rw [allFiniteFields, ih, List.all_cons]

variable {depth : Nat} {value : Json}

theorem IsPlain.allFinite (plain : IsPlain depth value) : value.allFinite = true := by
  induction plain with
  | float finite => exact finite
  | array _ ih =>
      rw [Json.allFinite, allFiniteItems_eq, List.all_eq_true]
      exact ih
  | object _ _ _ ih =>
      rw [Json.allFinite, allFiniteFields_eq, List.all_eq_true]
      exact ih
  | _ => rfl

/-- Values that are built from scalar texts are written as such. -/
theorem IsPlain.isScalar_write {style : Style} (readable : style.IsReadable)
    (plain : IsPlain depth value) : (value.write style).IsScalar := by
  induction plain with
  | null => exact Text.isScalar_ofString _
  | bool flag => cases flag <;> exact Text.isScalar_ofString _
  | int _ => exact Text.isScalar_ofInt _
  | float _ => exact readable.isScalar _
  | string scalar => exact isScalar_writeString_of_isScalar _ scalar
  | array _ ih =>
      rw [write, writeItems_eq, Text.isScalar_append, Text.isScalar_append,
        Text.isScalar_joinWith (Text.isScalar_ofString _), List.forall_mem_map]
      exact ⟨⟨Text.isScalar_ofChar _, ih⟩, Text.isScalar_ofChar _⟩
  | object _ named _ ih =>
      rw [write, writeFields_eq, Text.isScalar_append, Text.isScalar_append,
        Text.isScalar_joinWith (Text.isScalar_ofString _), List.forall_mem_map]
      refine ⟨⟨Text.isScalar_ofChar _, fun field listed => ?_⟩, Text.isScalar_ofChar _⟩
      rw [writeField, Text.isScalar_append, Text.isScalar_append]
      exact ⟨⟨isScalar_writeString_of_isScalar _ (named field listed), Text.isScalar_ofString _⟩,
        ih field listed⟩

end Json

namespace Response

/-- The body is sent as bytes in which a client finds the value, in UTF-8 and also in the encoding
that the bytes speak for. -/
def ReadsAs (response : Response) (value : Json) : Prop :=
  ∃ bytes, Bytes.ofText response.body = .ok bytes ∧
    (∃ chars, Bytes.readUtf8 bytes = .ok chars ∧
      Json.read .values (chars.map .scalar) = .ok value) ∧
    ∃ text, Bytes.readGuessed? bytes = some text ∧ Json.readWhole .values text = .ok value

variable {fields : Entries Json}

/-- A client reads the body and nothing else. -/
theorem ReadsAs.of_body_eq {response other : Response} {value : Json}
    (reads : other.ReadsAs value) (same : response.body = other.body) :
    response.ReadsAs value := by
  unfold ReadsAs
  rwa [same]

/-- There is one thing to read in a body. -/
theorem ReadsAs.unique {response : Response} {value other : Json}
    (reads : response.ReadsAs value) (readsOther : response.ReadsAs other) : value = other := by
  rcases reads with ⟨bytes, encoded, ⟨chars, utf8, read⟩, _⟩
  rcases readsOther with ⟨otherBytes, otherEncoded, ⟨otherChars, otherUtf8, otherRead⟩, _⟩
  rw [encoded] at otherEncoded
  cases otherEncoded
  rw [utf8] at otherUtf8
  cases otherUtf8
  rw [read] at otherRead
  exact Except.ok.inj otherRead

/-- A plain object is found in the body that it is written to. -/
theorem readsAs_of_body {style : Json.Style} (readable : style.IsReadable)
    (plain : Json.IsPlain Json.nestingLimit (.object fields)) {response : Response}
    (written : response.body = (Json.object fields).write style) :
    response.ReadsAs (.object fields) := by
  rcases Text.isScalar_iff_exists_map.1 (plain.isScalar_write readable) with ⟨chars, spelled⟩
  have read := Json.read_write readable plain
  rw [spelled] at read
  have utf8 := Bytes.readUtf8_ofChars chars
  refine ⟨Bytes.ofChars chars, ?_, ⟨chars, utf8, read⟩, chars.map .scalar, ?_, ?_⟩
  · exact Bytes.ofText_eq_ok_iff.2 ⟨chars, written.trans spelled, rfl⟩
  · rcases Bytes.readGuessed?_of_readUtf8 utf8 with same | nothing
    · exact same
    · exact absurd read (nothing.2 fields)
  · rcases Json.read_eq_readWhole .values (chars.map .scalar) with whole | ⟨remaining, stopped⟩
    · rw [← whole, read]
    · rw [stopped] at read
      cases read

/-- A plain object can be sent under every status. -/
theorem exists_ofJson (status : Status)
    (plain : Json.IsPlain Json.nestingLimit (.object fields)) :
    ∃ response, ofJson status (.object fields) = .ok response ∧ response.status = status ∧
      response.ReadsAs (.object fields) := by
  have readable := Json.Style.isReadable_compact
  rcases Text.isScalar_iff_exists_map.1 (plain.isScalar_write readable) with ⟨chars, spelled⟩
  have bytes := Bytes.ofText_eq_ok_iff.2 ⟨chars, spelled, rfl⟩
  rw [ofJson, if_pos plain.allFinite, ofText, bytes]
  exact ⟨_, rfl, rfl, readsAs_of_body readable plain rfl⟩

theorem exists_ofJsonUnder (status : Int)
    (plain : Json.IsPlain Json.nestingLimit (.object fields)) :
    ∃ response, ofJsonUnder (.int status) (.object fields) = .ok response ∧
      response.status = .code status ∧ response.ReadsAs (.object fields) := by
  rcases exists_ofJson 500 plain with ⟨trial, tried, _⟩
  rw [ofJsonUnder, tried]
  exact exists_ofJson (.code status) plain

/-- A client finds in a record what is finite in the value that it was made of. -/
theorem readsAs_of_ofRecord {status : Status} {response : Response}
    (tidy : (Json.object fields).IsTidy) (made : ofRecord status (.object fields) = .ok response) :
    response.ReadsAs (Json.object fields).finitePart := by
  unfold ofRecord at made
  split at made
  · cases made
  · cases made
  · rename_i fits
    have plain := (tidy.isPlain_finitePart fits).mono (by decide : _ ≤ Json.nestingLimit)
    unfold ofText at made
    split at made
    · cases made
    · cases made
      exact readsAs_of_body Json.Style.isReadable_brief plain tidy.write_finitePart.symm

/-- A record is made of every tidy value that it has room for. -/
theorem exists_ofRecord {status : Status} (tidy : (Json.object fields).IsTidy)
    (fits : (Json.object fields).recordFlaw? = none) :
    ∃ response, ofRecord status (.object fields) = .ok response ∧ response.status = status ∧
      response.trailing = none := by
  have scalar := (tidy.isPlain_finitePart fits).isScalar_write Json.Style.isReadable_brief
  rw [tidy.write_finitePart] at scalar
  rcases Bytes.exists_ofText_eq_ok_iff.2 scalar with ⟨bytes, written⟩
  simp only [ofRecord, fits, ofText, written]
  exact ⟨_, rfl, rfl, rfl⟩

end Response

namespace AuthFailure

variable {kind : FailureKind} {detail message : Text} {cause : Option Raised} {legacy : Bool}

/-- The object for a failure whose detail and message are texts. -/
theorem payload_texts : payload ⟨kind, .string detail, .string message, cause⟩ legacy =
    .object (
      if legacy = true ∧ kind ∈ [.missingCredential, .malformedCredential, .missingIdentifier,
        .principalNotFound]
      then [("message", .string message), ("detail", .string detail)]
      else [("code", .int 401), ("message", .string message), ("detail", .string detail)]) := by
  cases legacy <;> cases kind <;> rfl

theorem isPlain_payload (isMessage : message.IsScalar) (isDetail : detail.IsScalar) :
    Json.IsPlain 1 (payload ⟨kind, .string detail, .string message, cause⟩ legacy) := by
  have code : Json.IsPlain 0 (.int status) := .int (by decide)
  unfold payload
  split
  · have distinct : (["message", "detail"] : List Text).Nodup := by decide
    refine .object distinct ?_ ?_ <;>
      simp [Json.IsPlain.string isMessage, Json.IsPlain.string isDetail]
  · have distinct : (["code", "message", "detail"] : List Text).Nodup := by decide
    refine .object distinct ?_ ?_ <;>
      simp [code, Json.IsPlain.string isMessage, Json.IsPlain.string isDetail]

end AuthFailure

namespace ServiceError

/-- Both ways the object for an error has details exactly when these are not empty. -/
theorem payloadOf_eq (code message status details : Json) :
    payloadOf code message details = (make code message status details).payload := by
  unfold payloadOf payload make
  by_cases filled : details.truthy = true
  · simp [filled]
  · simp only [filled]
    rfl

theorem isPlain_payloadOf {depth : Nat} {code message details : Json}
    (isCode : code.IsPlain depth) (isMessage : message.IsPlain depth)
    (isDetails : details.IsPlain depth) :
    Json.IsPlain (depth + 1) (payloadOf code message details) := by
  unfold payloadOf
  split
  · have distinct : (["error", "message", "details"] : List Text).Nodup := by decide
    refine .object distinct ?_ ?_ <;> simp [isCode, isMessage, isDetails]
  · have distinct : (["error", "message"] : List Text).Nodup := by decide
    refine .object distinct ?_ ?_ <;> simp [isCode, isMessage]

end ServiceError

namespace Response

/-- A client finds in the body of an error what went into it: for a failure its message and detail,
with the code unless an older client is spared it, and for an error given by its parts the object of
the error that keeps them. The parts may be values of any shape, as long as there is room around
them for the object. -/
theorem errors_read_back :
    (∀ (kind : FailureKind) (message detail : Text) (cause : Option Raised) (legacy : Bool),
      message.IsScalar → detail.IsScalar →
        ∃ response, ofFailure ⟨kind, .string detail, .string message, cause⟩ legacy = .ok response ∧
          response.status = .code 401 ∧
          response.ReadsAs (.object (
            if legacy = true ∧ kind ∈ [.missingCredential, .malformedCredential,
              .missingIdentifier, .principalNotFound]
            then [("message", .string message), ("detail", .string detail)]
            else [("code", .int 401), ("message", .string message), ("detail", .string detail)]))) ∧
    ∀ (code message details : Json) (status : Int) (depth : Nat), depth < Json.nestingLimit →
      code.IsPlain depth → message.IsPlain depth → details.IsPlain depth →
        ∃ response, ofParts code message (.int status) details = .ok response ∧
          response.status = .code status ∧
          response.ReadsAs (ServiceError.make code message (.int status) details).payload := by
  constructor
  · intro kind message detail cause legacy isMessage isDetail
    have plain : Json.IsPlain Json.nestingLimit
        (AuthFailure.payload ⟨kind, .string detail, .string message, cause⟩ legacy) :=
      (AuthFailure.isPlain_payload isMessage isDetail).mono (by decide)
    rw [ofFailure]
    rw [AuthFailure.payload_texts] at plain ⊢
    exact exists_ofJson _ plain
  · intro code message details status depth room isCode isMessage isDetails
    have plain : Json.IsPlain Json.nestingLimit (ServiceError.payloadOf code message details) :=
      (ServiceError.isPlain_payloadOf isCode isMessage isDetails).mono room
    rw [← ServiceError.payloadOf_eq, ofParts]
    exact exists_ofJsonUnder status plain

theorem errors_read_back_quoted :
    (Text.IsScalar "say \"no\"\n\\" ∧ Text.IsScalar "\u0007 😀" ∧
      ∃ response,
        ofFailure ⟨.missingIdentifier, .string "\u0007 😀", .string "say \"no\"\n\\", none⟩ true =
            .ok response ∧
          response.status = .code 401 ∧
          response.ReadsAs (.object [("message", .string "say \"no\"\n\\"),
            ("detail", .string "\u0007 😀")])) ∧
    (2 < Json.nestingLimit ∧ Json.IsPlain 2 (.string "gone") ∧ Json.IsPlain 2 (.string "") ∧
      Json.IsPlain 2 (.object [("left", .array [.null, .int (-7)])]) ∧
      ∃ response,
        ofParts (.string "gone") (.string "") (.int 410)
            (.object [("left", .array [.null, .int (-7)])]) = .ok response ∧
          response.status = .code 410 ∧
          response.ReadsAs (ServiceError.make (.string "gone") (.string "") (.int 410)
            (.object [("left", .array [.null, .int (-7)])])).payload) := by
  have message : Text.IsScalar "say \"no\"\n\\" := Text.isScalar_ofString _
  have detail : Text.IsScalar "\u0007 😀" := Text.isScalar_ofString _
  have code : Json.IsPlain 2 (.string "gone") := .string (Text.isScalar_ofString _)
  have nothing : Json.IsPlain 2 (.string "") := .string (Text.isScalar_ofString _)
  have seven : Json.IsPlain 0 (.int (-7)) := .int (by decide)
  have items : Json.IsPlain 1 (.array [.null, .int (-7)]) :=
    .array (by simp [Json.IsPlain.null, seven])
  have details : Json.IsPlain 2 (.object [("left", .array [.null, .int (-7)])]) :=
    .object (by simp) (by simp) (by simp [items])
  exact ⟨⟨message, detail, errors_read_back.1 .missingIdentifier _ _ none true message detail⟩,
    by decide, code, nothing, details,
    errors_read_back.2 _ _ _ 410 2 (by decide) code nothing details⟩

end Response

end FleetGate
