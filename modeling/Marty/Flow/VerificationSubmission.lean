import Marty.Flow.RequestObject

/-!
# Verification submissions

A wallet answers a verification request by a form or over the Digital Credentials API.  The answer
is checked against the context of the instance, and what is left is evaluated: the policy is asked
about the presentation together with the query that the context recorded last.

## Main definitions

* `validateTransport`, `evaluationTransport` — the query that an evaluation is about.
* `prepareVerificationSubmission` — a submission up to the decision of the policy.
* `directPostInput`, `dcApiInput` — what a form and the Digital Credentials API submit.
-/

namespace Marty.Flow

open Lib Lib.Checked

structure VerificationSubmissionInput where
  vpToken : String
  presentationSubmission : Option Value
  state : Option String
  audienceOverride : Option String

inductive FlowVerificationSubmissionError
  | provider (error : FlowProviderError)
  | record (error : FlowRecordError)
  | invalidState
  | invalidContext (field : String)
  | stateMismatch
  | invalidPresentationSubmission
  | callbackUnavailable
  | invalidEncryptedResponse
  | serialization
  | invalidClock
  deriving DecidableEq, Repr

abbrev Submitted := Except FlowVerificationSubmissionError

/-- The query, and the answer to it, that the policy is asked about. -/
structure Oid4vpEvaluationTransportV1 where
  queryKind : Oid4vp.QueryKind
  queryDocument : Value
  queryDigest : String
  presentationSubmission : Option Value
  vpTokenRaw : String
  verifierClientId : String
  requestNonce : String

structure PresentationEvaluationRequest where
  policyId : String
  organizationId : String
  principalId : String
  presentation : String
  nonce : String
  audience : String
  oid4vpTransport : Option Oid4vpEvaluationTransportV1
  context : Json.Map

/-- What a submission takes from other packages: the digest of a payload, the parser of JSON, the
transcript of a session and the digests that bind a token to it, and the check of the header of an
encrypted response. -/
structure SubmissionPackages where
  flow : Packages
  contract : Oid4vp.Packages
  request : RequestPackages
  payloadDigest : Value → Option String
  parseJson : String → Option Value
  buildMdocSessionTranscript : String → String → String → Option String → Option (List UInt8)
  mdocBindingDigests : List UInt8 → String → String → String → Option String → String → Bool
  validHaipResponseHeader : String → Bool

/-! ## The transport of an evaluation -/

def maxTransportRawTokenBytes : Nat := 2097152
def maxTransportClientIdBytes : Nat := 4096

/-- The document has the shape of its kind. -/
def shapeMatchesKind (kind : Oid4vp.QueryKind) (document : Value) : Bool :=
  match kind with
  | .dcql => ((document.get "credentials").bind Json.Value.asArray).isSome
  | .presentationExchange => ((document.get "id").bind Json.Value.asStr).isSome &&
      ((document.get "input_descriptors").bind Json.Value.asArray).isSome

def Oid4vpEvaluationTransportV1.validateTransport (packages : Oid4vp.Packages)
    (transport : Oid4vpEvaluationTransportV1) : Oid4vp.Validated Unit := do
  Oid4vp.validateSerializedSize transport.queryDocument Oid4vp.maxQueryDocumentBytes
    "query_document"
  rejectIf (transport.queryDocument.isObject = false) (.invalidField "query_document")
  rejectIf (shapeMatchesKind transport.queryKind transport.queryDocument = false)
    .invalidQueryDocument
  let digest ← Oid4vp.digestQueryDocument packages transport.queryDocument
  rejectIf (transport.queryDigest ≠ digest) .queryDigestMismatch
  match transport.presentationSubmission with
  | none => .ok ()
  | some submission => do
      Oid4vp.validateSerializedSize submission Oid4vp.maxWalletSubmissionBytes
        "presentation_submission"
      rejectIf (submission.isObject = false) (.invalidField "presentation_submission")
  rejectIf (transport.vpTokenRaw.isEmpty ∨
    maxTransportRawTokenBytes < transport.vpTokenRaw.utf8ByteSize) (.sizeLimit "vp_token_raw")
  rejectIf (transport.verifierClientId.isEmpty ∨ transport.requestNonce.isEmpty)
    (.invalidField "verifier_binding")
  rejectIf (maxTransportClientIdBytes < transport.verifierClientId.utf8ByteSize ∨
    Oid4vp.maxIdentifierBytes < transport.requestNonce.utf8ByteSize)
    (.sizeLimit "verifier_binding")

def Oid4vpEvaluationTransportV1.overLimit (packages : Oid4vp.Packages)
    (transport : Oid4vpEvaluationTransportV1) : Bool :=
  match transport.validateTransport packages with
  | .error (.sizeLimit _) => true
  | _ => false

def contextText (context : Json.Map) (key : String) : Option String :=
  (context.get key).bind Json.Value.asStr

/-- The recorded request still is about the nonce and the client of the context. -/
def checkRequestBinding (context payload : Json.Map) (entry : String × String) : Submitted Unit :=
  rejectIf ((contextText context entry.2).all (·.isEmpty) ∨
      contextText payload entry.1 ≠ contextText context entry.2)
    (.invalidContext "presentation_request_binding")

/-- The one query of a recorded request. -/
def recordedQuery (payload : Json.Map) : Submitted (Oid4vp.QueryKind × Value) :=
  let present key := (payload.get key).filter fun value => !value.isNull
  match present "dcql_query", present "presentation_definition" with
  | some document, none => .ok (.dcql, document)
  | none, some document => .ok (.presentationExchange, document)
  | _, _ => .error (.invalidContext "presentation_request_query")

def recordedMessage (context : Json.Map) : Option Value :=
  ((context.get "mip_messages").bind Json.Value.asObject).bind
    (Json.Map.get · "presentation_request")

/-- The transport that a recorded request and an answer make. -/
def messageTransport (packages : SubmissionPackages) (context : Json.Map) (message : Value)
    (submission : Option Value) (vpTokenRaw : String) :
    Submitted Oid4vpEvaluationTransportV1 := do
  let payload ← okOr ((message.get "payload").bind Json.Value.asObject)
    (.invalidContext "presentation_request")
  forEach (checkRequestBinding context payload) [("nonce", "nonce"),
    ("client_id", "oid4vp_client_id")]
  let query ← recordedQuery payload
  let digest ← (Oid4vp.digestQueryDocument packages.contract query.2).mapError
    fun _ => .invalidContext "presentation_request_query"
  let clientId ← okOr (contextText payload "client_id")
    (.invalidContext "presentation_request_binding")
  let nonce ← okOr (contextText payload "nonce") (.invalidContext "presentation_request_binding")
  return ⟨query.1, query.2, digest, submission, vpTokenRaw, clientId, nonce⟩

/-- A transport that only exceeds the limits of the contract is left out, and the evaluation goes
on without one. -/
def evaluationTransport (packages : SubmissionPackages) (context : Json.Map)
    (submission : Option Value) (vpTokenRaw : String) :
    Submitted (Option Oid4vpEvaluationTransportV1) :=
  if (context.get "oid4vp_verifier_context").bind Json.Value.asBool ≠ some true then .ok none
  else
    match recordedMessage context with
    | none => .ok none
    | some message => do
        let transport ← messageTransport packages context message submission vpTokenRaw
        match transport.validateTransport packages.contract with
        | .ok _ => return some transport
        | .error (.sizeLimit _) => return none
        | .error _ => throw (.invalidContext "presentation_request_query")

/-! ## Tokens -/

/-- A text that looks like a credential. -/
def looksLikeToken (value : String) : Bool :=
  value.toList.contains '~' || 2 ≤ value.toList.count '.' || Text.startsWith value "mso_mdoc:" ||
    Text.startsWith value "mdoc:" || Text.startsWith value "oob:"

mutual

def findToken : Value → Option String
  | .string value => if looksLikeToken value then some value else none
  | .array items => findItemToken items
  | .object entries => findEntryToken entries
  | _ => none

def findItemToken : List Value → Option String
  | [] => none
  | item :: items => (findToken item).or (findItemToken items)

def findEntryToken : List (String × Value) → Option String
  | [] => none
  | (_, value) :: entries => (findToken value).or (findEntryToken entries)

end

/-- The token of an answer that holds one. -/
def selectVpToken (packages : SubmissionPackages) (raw : String) : String :=
  match packages.parseJson raw with
  | none => raw
  | some (.object [(key, .array [.string token])]) =>
      if nonBlank token then token
      else (findToken (.object [(key, .array [.string token])])).getD raw
  | some value => (findToken value).getD raw

/-- A text is parsed; any other value is taken as it is. -/
def parseText (packages : SubmissionPackages) : Value → Submitted Value
  | .string raw => okOr (packages.parseJson raw) .invalidPresentationSubmission
  | value => .ok value

def parsePresentationSubmission (packages : SubmissionPackages) (value : Option Value) :
    Submitted (Option Value) :=
  match value with
  | none => .ok none
  | some value => do
      let parsed ← parseText packages value
      let object ← okOr parsed.asObject .invalidPresentationSubmission
      rejectIf ((∃ field ∈ ["id", "definition_id"],
          (contextText object field).all (fun value => !nonBlank value) = true) ∨
          ((object.get "descriptor_map").bind Json.Value.asArray).isNone)
        .invalidPresentationSubmission
      return some parsed

/-! ## A submission -/

def submissionTransition (packages : Packages) (instanceRecord : FlowInstanceRecord)
    (status : FlowInstanceStatus) (event : String) (now : Utc) : FlowInstanceRecord :=
  { instanceRecord with
    status := status
    updatedAt := now
    completedAt := if status.isTerminal then some now else instanceRecord.completedAt
    stateHistory := instanceRecord.stateHistory ++ [.object
      [("prior_state", instanceRecord.status.toValue), ("new_state", status.toValue),
        ("timestamp", .string (packages.toRfc3339 now)), ("actor", .string "wallet_submission"),
        ("event", .string event)]] }

def expireSubmission (packages : Packages) (instanceRecord : FlowInstanceRecord) (now : Utc)
    (event : String) : Submitted FlowInstanceRecord := do
  let moved := submissionTransition packages instanceRecord .expired event now
  let expired := { moved with error := some event }
  let _ ← (expired.kernel packages).mapError .record
  return expired

def requiredContextString (context : Json.Map) (field : String) : Submitted String :=
  okOr ((contextText context field).filter fun value => !value.isEmpty) (.invalidContext field)

/-- The handover of a request that is answered at a response URI, as the evaluation sees it. -/
def handoverEntries (packages : SubmissionPackages) (context : Json.Map) (nonce vpToken : String) :
    Submitted Json.Map :=
  match contextText context "oid4vp_client_id", contextText context "oid4vp_response_uri" with
  | some clientId, some responseUri => do
      let responseJwk := ((context.get "oid4vp_response_encryption_jwk").filter
        Json.Value.isObject).map fun jwk => String.ofList jwk.write
      let transcript ← okOr
        (packages.buildMdocSessionTranscript clientId nonce responseUri responseJwk)
        (.invalidContext "mdoc_handover")
      rejectIf (packages.mdocBindingDigests transcript clientId nonce responseUri responseJwk
        vpToken = false) (.invalidContext "mdoc_handover")
      return [("mdoc_session_transcript_b64url", .string (Base64.encode base64Url transcript)),
        ("oid4vp_client_id", .string clientId), ("oid4vp_response_uri", .string responseUri)]
  | _, _ => .ok []

def verifierEntries (context : Json.Map) : Json.Map :=
  if (context.get "oid4vp_verifier_context").bind Json.Value.asBool = some true then
    [("oid4vp_verifier_context", .bool true), ("replay_check_verified", .bool true)]
  else []

/-- What the policy is asked about a submission to an open instance. -/
def evaluationRequest (packages : SubmissionPackages) (instanceRecord : FlowInstanceRecord)
    (input : VerificationSubmissionInput) : Submitted PresentationEvaluationRequest := do
  let context ← okOr instanceRecord.context.asObject (.invalidContext "context")
  rejectIf (∃ expected ∈ contextText context "oid4vp_expected_state",
    input.state ≠ some expected) .stateMismatch
  let nonce ← requiredContextString context "nonce"
  let policyId ← requiredContextString context "presentation_policy_id"
  let principalId ← requiredContextString context "_marty_verification_principal_id"
  let audience := (input.audienceOverride.or (contextText context "verification_audience")).getD ""
  let submission ← parsePresentationSubmission packages input.presentationSubmission
  let transport ← evaluationTransport packages context submission input.vpToken
  let vpToken := selectVpToken packages input.vpToken
  let handover ← handoverEntries packages context nonce vpToken
  let trust := (context.get "trust_profile_id").toList.map fun id => ("trust_profile_id", id)
  return ⟨policyId, instanceRecord.organizationId, principalId, vpToken, nonce, audience,
    transport, verifierEntries context ++ handover ++ trust⟩

inductive SubmissionStage (ρ : Type)
  | sameTerminal (response : ρ)
  | replayConflict
  | expired (instanceRecord : FlowInstanceRecord)
  | evaluates (request : PresentationEvaluationRequest)

/-- A submission up to the decision of the policy; `project` shows the result of an instance. -/
def prepareVerificationSubmission {ρ : Type} (packages : SubmissionPackages)
    (project : FlowInstanceRecord → Except FlowRecordError ρ)
    (instanceRecord : FlowInstanceRecord) (input : VerificationSubmissionInput) (now : Utc) :
    Submitted (SubmissionStage ρ) := do
  let digest ← okOr (packages.payloadDigest (.object [("vp_token", .string input.vpToken),
    ("presentation_submission", input.presentationSubmission.getD .null),
    ("state", .ofOption .string input.state)])) .serialization
  if instanceRecord.status = .completed ∨ instanceRecord.status = .failed then
    if (instanceRecord.result.bind fun value => (value.get "submission_digest").bind
        Json.Value.asStr) = some digest then
      let response ← (project instanceRecord).mapError .record
      return .sameTerminal response
    else return .replayConflict
  else if ∃ expiresAt ∈ instanceRecord.expiresAt, expiresAt ≤ now then
    let expired ← expireSubmission packages.flow instanceRecord now "submission_expired"
    return .expired expired
  else if ¬ (instanceRecord.status = .awaitingWallet ∨ instanceRecord.status = .inProgress) then
    throw .invalidState
  else
    let request ← evaluationRequest packages instanceRecord input
    return .evaluates request

/-! ## The channels -/

inductive ChannelError
  | http (status : Nat) (code : String) (detail : Value)
  | submission (error : FlowVerificationSubmissionError)

abbrev Received := Except ChannelError

def decryptVerificationResponse (packages : SubmissionPackages)
    (envelope : Option FlowKeyEnvelopeProvider) (instanceRecord : FlowInstanceRecord)
    (compactJwe : String) : Submitted Value := do
  rejectIf (packages.validHaipResponseHeader compactJwe = false) .invalidEncryptedResponse
  let provider ← okOr envelope (.provider (.unavailable "flow_key_envelope"))
  rejectIf (instanceRecord.context.get "haip_response_encryption_key_envelope").isSome
    .invalidEncryptedResponse
  let reference ← okOr ((instanceRecord.context.get
    "haip_response_encryption_key_reference").bind Json.Value.asStr) .invalidEncryptedResponse
  let version ← okOr
    (versionFor reference instanceRecord.organizationId instanceRecord.id) .invalidEncryptedResponse
  let publicJwk ← okOr (instanceRecord.context.get "haip_response_encryption_public_jwk")
    .invalidEncryptedResponse
  rejectIf (matchesPublicJwk packages.request publicJwk version = false) .invalidEncryptedResponse
  let plaintext ← (provider.decryptHaipResponse instanceRecord.organizationId instanceRecord.id
    version compactJwe).mapError .provider
  let value ← okOr (packages.parseJson plaintext) .invalidEncryptedResponse
  rejectIf (value.isObject = false) .invalidEncryptedResponse
  return value

/-- An encrypted answer that comes too late is not decrypted; the expired instance is stored. -/
def rejectUnactionableEncryptedSubmission (packages : SubmissionPackages)
    (persist : FlowInstanceRecord → Received Unit) (instanceRecord : FlowInstanceRecord)
    (now : Utc) : Received Unit :=
  if instanceRecord.status = .cancelled then .error (.submission .invalidState)
  else if ¬ (instanceRecord.status = .awaitingWallet ∨ instanceRecord.status = .inProgress) then
    .ok ()
  else if ∀ expiresAt ∈ instanceRecord.expiresAt, now < expiresAt then .ok ()
  else do
    let expired ← (expireSubmission packages.flow instanceRecord now
      "submission_expired").mapError .submission
    persist expired
    throw (.http 410 "verification_submission_expired"
      (.string "Verification transaction has expired"))

def tokenString : Value → String
  | .string value => value
  | value => String.ofList value.write

structure DirectPostForm where
  vpToken : Option String
  presentationSubmission : Option String
  state : Option String
  response : Option String

section

variable (packages : SubmissionPackages) (envelope : Option FlowKeyEnvelopeProvider)
  (persist : FlowInstanceRecord → Received Unit) (instanceRecord : FlowInstanceRecord)

def directPostInput (form : DirectPostForm) (now : Utc) :
    Received VerificationSubmissionInput := do
  let vpToken := form.vpToken.filter fun value => !value.isEmpty
  let response := form.response.filter fun value => !value.isEmpty
  rejectIf (vpToken.isSome = response.isSome) (.http 400 "verification_submission_shape"
    (.string "Exactly one of vp_token or response is required"))
  match response with
  | some response => do
      rejectUnactionableEncryptedSubmission packages persist instanceRecord now
      let decrypted ← (decryptVerificationResponse packages envelope instanceRecord
        response).mapError .submission
      let vpToken ← okOr (decrypted.get "vp_token") (.http 400 "invalid_encrypted_response"
        (.string "Encrypted response has no vp_token"))
      return ⟨tokenString vpToken, (decrypted.get "presentation_submission").or
        (form.presentationSubmission.map .string),
        ((decrypted.get "state").bind Json.Value.asStr).or form.state, none⟩
  | none => return ⟨vpToken.getD "", form.presentationSubmission.map .string, form.state, none⟩

def dcApiProtocol : String := "openid4vp-v1-signed"
def dcApiResponseMode : String := "dc_api.jwt"

structure DigitalCredentialSubmissionRequest where
  protocol : Option String
  origin : Option String
  data : Json.Map

def dcApiExpectedOrigins : List String :=
  ((((instanceRecord.context.get "dc_api_expected_origins").bind Json.Value.asArray).getD
    []).filterMap Json.Value.asStr).map (Text.trimEndMatches · '/')

/-- The origin of an answer: the one it names, or its header, or the only one expected. -/
def dcApiOrigin (request : DigitalCredentialSubmissionRequest) (originHeader : Option String) :
    Received String := do
  let expected := dcApiExpectedOrigins instanceRecord
  let origin ← okOr
    (((request.origin.or originHeader).map (Text.trimEndMatches · '/')).or
      (if expected.length = 1 then expected.head? else none))
    (.http 400 "dc_api_origin_required"
      (.string "Verifier origin is required for dc_api submissions"))
  rejectIf (origin ∉ expected) (.http 400 "dc_api_origin_mismatch"
    (.object [("error", .string "invalid_request"),
      ("error_description", .string "Origin does not match expected_origins")]))
  return origin

/-- The data of an answer, and its response mode when it was encrypted. -/
def dcApiData (request : DigitalCredentialSubmissionRequest) (now : Utc) :
    Received (Value × Option String) :=
  match (request.data.get "response").bind Json.Value.asStr with
  | none => .ok (.object request.data, none)
  | some response => do
      rejectUnactionableEncryptedSubmission packages persist instanceRecord now
      let data ← (decryptVerificationResponse packages envelope instanceRecord
        response).mapError .submission
      return (data, some dcApiResponseMode)

def rejectWalletError (data : Value) : Received Unit :=
  match data.get "error" with
  | some error => .error (.http 400 "wallet_verification_error" (.object [("error", error),
      ("error_description", .string "Wallet returned an OpenID4VP error")]))
  | none => .ok ()

/-- The context with the origin of an answer, and its response mode when it was encrypted. -/
def notedContext (context : Value) (origin : String) (responseMode : Option String) : Value :=
  let noted := setMember (some context) "dc_api_last_origin" (.string origin)
  match responseMode with
  | none => noted
  | some mode => setMember (some noted) "dc_api_last_response_mode" (.string mode)

/-- What an answer over the Digital Credentials API submits, and to which instance. -/
def dcApiInput (request : DigitalCredentialSubmissionRequest) (originHeader : Option String)
    (now : Utc) : Received (FlowInstanceRecord × VerificationSubmissionInput) := do
  rejectIf (request.protocol.getD dcApiProtocol ≠ dcApiProtocol)
    (.http 400 "unsupported_dc_api_protocol" (.string "Unsupported Digital Credentials protocol"))
  let data ← dcApiData packages envelope persist instanceRecord request now
  rejectWalletError data.1
  let vpToken ← okOr (data.1.get "vp_token") (.http 400 "dc_api_vp_token_required"
    (.string "DigitalCredential.data.vp_token is required"))
  let origin ← dcApiOrigin instanceRecord request originHeader
  return ({ instanceRecord with context := notedContext instanceRecord.context origin data.2 },
    ⟨tokenString vpToken, data.1.get "presentation_submission", none,
      some ("origin:" ++ origin)⟩)

end

end Marty.Flow
