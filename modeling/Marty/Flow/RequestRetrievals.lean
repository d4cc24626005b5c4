import Marty.Flow.Runs
import Marty.Flow.VerificationSubmission
import Mathlib.Data.List.TakeDrop

/-!
# Retrievals of a verification request

A wallet may retrieve the request of an instance more than once, each time for another profile.
The context holds what the last retrieval left, over what the retrievals before it had left.

## Main definitions

* `Retrieval` — one retrieval, with what the services and the clock answer to it.
* `DescribesRequest` — the context says what the payload says.
* `FollowsRequest` — the context describes the payload, and an answer to it is evaluated as one.
-/

namespace Marty.Flow

open Lib Lib.Checked

structure Retrieval where
  providers : RequestProviders
  artifacts : Option PresentationRequestArtifacts
  publicBaseUrl : String
  options : RequestObjectOptions
  messageId : String
  now : Utc

namespace Retrieval

variable (packages : RequestPackages) (retrieval : Retrieval) (instanceRecord : FlowInstanceRecord)

def prepare : Requested PreparedRequestObject :=
  prepareRequestObject packages retrieval.providers instanceRecord retrieval.artifacts
    retrieval.publicBaseUrl retrieval.options retrieval.now

def build : Requested SignedRequestObject :=
  buildProfiledRequestObject packages retrieval.providers instanceRecord retrieval.artifacts
    retrieval.publicBaseUrl retrieval.options retrieval.messageId retrieval.now

/-- What is signed. -/
def payload : Requested Json.Map := (retrieval.prepare packages instanceRecord).map (·.payload)

end Retrieval

/-- The instance after successful retrievals. -/
def retrieveAll (packages : RequestPackages) (start : FlowInstanceRecord)
    (retrievals : List Retrieval) : Requested FlowInstanceRecord :=
  retrievals.foldlM (fun record retrieval =>
    (retrieval.build packages record).map (·.instanceRecord)) start

/-! ## What a payload says -/

section

variable {basis : RequestBasis} {artifacts : Option PresentationRequestArtifacts}
  {options : RequestObjectOptions} {now : Utc} {payload : Json.Map}

theorem get_addWalletNonce {key : String} (hkey : key ≠ "wallet_nonce") (payload : Json.Map) :
    (addWalletNonce options payload).get key = payload.get key := by
  unfold addWalletNonce
  split
  · rfl
  · rw [Json.Map.get_insert, if_neg hkey]

theorem get_addEncryption {key : String} {encryption : Option (Value × String)}
    (hmode : key ≠ "response_mode") (hmetadata : key ≠ "client_metadata") (payload : Json.Map) :
    (addEncryption options encryption payload).get key = payload.get key := by
  unfold addEncryption
  split
  · rfl
  · simp only [Json.Map.get_insert, if_neg hmode, if_neg hmetadata]

/-- The key that a payload asks to encrypt the response to. -/
def presentedKey (payload : Json.Map) : Option Value :=
  ((((payload.get "client_metadata").bind (·.get "jwks")).bind (·.get "keys")).bind
    Json.Value.asArray).bind List.head?

theorem presentedKey_addEncryption {encryption : Option (Value × String)}
    (hnone : presentedKey payload = none) :
    presentedKey (addEncryption options encryption payload) = encryption.map Prod.fst := by
  cases encryption with
  | none => exact hnone
  | some key =>
      simp [addEncryption, presentedKey, setMember, Json.Map.get_insert, Json.Map.get_cons,
        Json.Value.get, Json.Value.asObject, Json.Value.asArray]

/-- The fields of a presentation request that its answer is checked against. -/
structure PresentationFields (basis : RequestBasis) (options : RequestObjectOptions)
    (payload : Json.Map) : Prop where
  responseType : contextText payload "response_type" = some "vp_token"
  clientId : payload.get "client_id" = some (.string basis.clientId)
  nonce : payload.get "nonce" = some (.string basis.nonce)
  responseUri : payload.get "response_uri" =
    if options.dcApi then none else some (.string basis.responseUri)
  state : payload.get "state" =
    if options.dcApi then none else some (.string basis.instanceId)

theorem presentationPayload_fields
    (h : presentationPayload basis artifacts options now = .ok payload) :
    PresentationFields basis options payload ∧ presentedKey payload = none := by
  simp only [presentationPayload, bind_eq_ok, okOr_eq_ok] at h
  obtain ⟨artifacts, -, queried, hqueried, hpayload⟩ := h
  cases hpayload
  unfold addQuery at hqueried
  split at hqueried
  case h_1 =>
    cases hqueried
    cases hdc : options.dcApi with
    | false =>
        constructor
        · constructor
          all_goals simp [bindOrigins, hdc, contextText, commonPayload, Json.Map.get_insert,
            Json.Map.get_cons, Json.Value.asStr]
        · cases hstrict : options.strictClientMetadata
          all_goals simp [bindOrigins, hdc, presentedKey, commonPayload, clientMetadata, hstrict,
            Json.Map.get_insert, Json.Map.get_cons, Json.Value.get, Json.Value.asObject]
    | true =>
        constructor
        · constructor
          all_goals simp [bindOrigins, hdc, contextText, commonPayload, Json.Map.insert,
            swapRemove, List.span_eq_takeWhile_dropWhile, Json.Map.get_cons, Json.Value.asStr]
        · cases hstrict : options.strictClientMetadata
          all_goals simp [bindOrigins, hdc, presentedKey, commonPayload, clientMetadata, hstrict,
            Json.Map.insert, swapRemove, List.span_eq_takeWhile_dropWhile, Json.Map.get_cons,
            Json.Value.get, Json.Value.asObject]
  case h_2 =>
    simp only [bind_eq_ok, rejectIf_eq_ok, exists_unit] at hqueried
    obtain ⟨-, hqueried⟩ := hqueried
    cases hqueried
    cases hdc : options.dcApi with
    | false =>
        constructor
        · constructor
          all_goals simp [bindOrigins, hdc, contextText, commonPayload, Json.Map.get_insert,
            Json.Map.get_cons, Json.Value.asStr]
        · simp [bindOrigins, hdc, presentedKey, commonPayload, Json.Map.get_insert,
            Json.Map.get_cons]
    | true =>
        constructor
        · constructor
          all_goals simp [bindOrigins, hdc, contextText, commonPayload, Json.Map.insert,
            swapRemove, List.span_eq_takeWhile_dropWhile, Json.Map.get_cons, Json.Value.asStr]
        · simp [bindOrigins, hdc, presentedKey, commonPayload, Json.Map.insert, swapRemove,
            List.span_eq_takeWhile_dropWhile, Json.Map.get_cons]

/-- **The payload of a presentation request** names the client, the nonce, where it is answered
and the key that answers are encrypted to. -/
theorem requestPayload_fields (hsiop : basis.isSiop = false)
    (h : requestPayload basis artifacts options now = .ok payload) :
    PresentationFields basis options payload ∧
      presentedKey payload = basis.responseEncryption.map Prod.fst := by
  simp only [requestPayload, hsiop, Bool.false_eq_true, if_false, bind_eq_ok] at h
  obtain ⟨common, hcommon, hpayload⟩ := h
  cases hpayload
  obtain ⟨hfields, hkey⟩ := presentationPayload_fields hcommon
  have hget : ∀ key, key ≠ "wallet_nonce" → key ≠ "response_mode" → key ≠ "client_metadata" →
      (addWalletNonce options (addEncryption options basis.responseEncryption common)).get key =
        common.get key := fun key hnonce hmode hmetadata => by
    rw [get_addWalletNonce hnonce, get_addEncryption hmode hmetadata]
  refine ⟨⟨?_, ?_, ?_, ?_, ?_⟩, ?_⟩
  · rw [contextText, hget _ (by decide) (by decide) (by decide)]
    exact hfields.responseType
  · rw [hget _ (by decide) (by decide) (by decide)]
    exact hfields.clientId
  · rw [hget _ (by decide) (by decide) (by decide)]
    exact hfields.nonce
  · rw [hget _ (by decide) (by decide) (by decide)]
    exact hfields.responseUri
  · rw [hget _ (by decide) (by decide) (by decide)]
    exact hfields.state
  · rw [presentedKey, get_addWalletNonce (by decide)]
    exact presentedKey_addEncryption hkey

theorem requestPayload_siop (hsiop : basis.isSiop = true)
    (h : requestPayload basis artifacts options now = .ok payload) :
    contextText payload "response_type" = some "id_token" ∧
      payload.get "client_id" = some (.string basis.clientId) ∧
      payload.get "nonce" = some (.string basis.nonce) := by
  simp only [requestPayload, hsiop, if_true, bind_eq_ok] at h
  obtain ⟨common, hcommon, hpayload⟩ := h
  cases hcommon
  cases hpayload
  refine ⟨?_, ?_, ?_⟩
  · rw [contextText, get_addWalletNonce (by decide), get_addEncryption (by decide) (by decide)]
    simp [siopPayload, Json.Map.get_cons, Json.Value.asStr]
  · rw [get_addWalletNonce (by decide), get_addEncryption (by decide) (by decide)]
    simp [siopPayload, Json.Map.get_cons]
  · rw [get_addWalletNonce (by decide), get_addEncryption (by decide) (by decide)]
    simp [siopPayload, Json.Map.get_cons]

end

/-! ## What a retrieval leaves -/

section

variable {basis : RequestBasis} {options : RequestObjectOptions} {context recorded : Json.Map}
  {payload : Json.Map} {messageId sentAt : String}

/-- The keys of a context that a submission reads back, as a retrieval leaves them. -/
structure RecordedFields (basis : RequestBasis) (options : RequestObjectOptions)
    (context recorded : Json.Map) : Prop where
  clientId : recorded.get "oid4vp_client_id" = some (.string basis.clientId)
  responseUri : recorded.get "oid4vp_response_uri" =
    some (if options.dcApi then .null else .string basis.responseUri)
  responseKey : recorded.get "oid4vp_response_encryption_jwk" =
    some ((basis.responseEncryption.map Prod.fst).getD .null)
  verifier : recorded.get "oid4vp_verifier_context" = some (.bool true)
  state : recorded.get "oid4vp_expected_state" =
    if options.dcApi then context.get "oid4vp_expected_state" else some (.string basis.instanceId)
  nonce : recorded.get "nonce" = context.get "nonce"
  flowType : recorded.get "flow_type" = context.get "flow_type"

theorem extend_fields : RecordedFields basis options context
    ((context.extend (transportEntries basis options)).extend
      (encryptionEntries basis options)) := by
  cases hdc : options.dcApi
  all_goals
    cases hkey : basis.responseEncryption
    all_goals
      constructor
      all_goals simp [transportEntries, encryptionEntries, hdc, hkey, Json.Map.extend,
        Json.Map.get_insert]

theorem recordRequest_fields (hsiop : basis.isSiop = false)
    (h : recordRequest context basis options payload messageId sentAt = .ok recorded) :
    RecordedFields basis options context recorded ∧
      ∃ extended : Json.Map, recordedMessage recorded = some (presentationMessage extended basis
        (if options.dcApi then none else some basis.responseUri) payload messageId sentAt) := by
  simp only [recordRequest, hsiop, Bool.false_eq_true, if_false, recordPresentationMessage,
    bind_eq_ok, okOr_eq_ok] at h
  obtain ⟨messages, -, hrecorded⟩ := h
  cases hrecorded
  have hfields := @extend_fields basis options context
  constructor
  · constructor
    all_goals rw [Json.Map.get_insert, if_neg (by decide)]
    · exact hfields.clientId
    · exact hfields.responseUri
    · exact hfields.responseKey
    · exact hfields.verifier
    · exact hfields.state
    · exact hfields.nonce
    · exact hfields.flowType
  · refine ⟨(context.extend (transportEntries basis options)).extend
      (encryptionEntries basis options), ?_⟩
    simp only [recordedMessage, Json.Map.get_insert, if_true, Option.bind_some,
      Json.Value.asObject]

theorem recordRequest_siop (hsiop : basis.isSiop = true)
    (h : recordRequest context basis options payload messageId sentAt = .ok recorded) :
    recorded = context.insert "siop_client_id" (.string basis.clientId) := by
  simp only [recordRequest, hsiop, if_true, Except.ok.injEq] at h
  exact h.symm

end

/-! ## One retrieval -/

/-- The entry of a context that holds a text. -/
def recordText (instanceRecord : FlowInstanceRecord) (key : String) : Option String :=
  (instanceRecord.context.get key).bind Json.Value.asStr

section

variable {packages : RequestPackages} {retrieval : Retrieval} {instanceRecord : FlowInstanceRecord}
  {prepared : PreparedRequestObject} {signed : SignedRequestObject}

/-- What is settled before the signature. -/
structure PreparedFields (retrieval : Retrieval) (instanceRecord : FlowInstanceRecord)
    (prepared : PreparedRequestObject) : Prop where
  context : instanceRecord.context = .object prepared.context
  instanceId : prepared.basis.instanceId = instanceRecord.id
  isSiop : prepared.basis.isSiop = true ↔
    contextText prepared.context "flow_type" = some "siop_v2"
  nonce : contextText prepared.context "nonce" = some prepared.basis.nonce
  payload : requestPayload prepared.basis retrieval.artifacts retrieval.options retrieval.now =
    .ok prepared.payload
  api : retrieval.options.dcApi = true → prepared.basis.isSiop = false

theorem Retrieval.prepare_fields (h : retrieval.prepare packages instanceRecord = .ok prepared) :
    PreparedFields retrieval instanceRecord prepared := by
  simp only [Retrieval.prepare, prepareRequestObject, contextObject, bind_eq_ok, okOr_eq_ok,
    rejectIf_eq_ok, exists_unit] at h
  obtain ⟨context, hcontext, -, did, -, provider, -, identity, -, basis, hbasis, payload, hpayload,
    kid, -, hprepared⟩ := h
  cases hprepared
  simp only [requestBasis, bind_eq_ok, okOr_eq_ok, rejectIf_eq_ok, exists_unit] at hbasis
  obtain ⟨client, -, nonce, hnonce, expiresAt, -, hapi, -, encryption, -, hbasis⟩ := hbasis
  cases hbasis
  have hobject : instanceRecord.context = .object context := by
    cases hvalue : instanceRecord.context
    case object entries =>
      rw [hvalue] at hcontext
      cases hcontext
      rfl
    all_goals
      rw [hvalue] at hcontext
      cases hcontext
  exact {
    context := hobject
    instanceId := rfl
    isSiop := decide_eq_true_iff
    nonce := (Option.filter_eq_some_iff.mp hnonce).1
    payload := hpayload
    api := fun hdc => by
      simp only [hdc, true_and] at hapi
      exact decide_eq_false hapi }

theorem Retrieval.build_eq_ok : retrieval.build packages instanceRecord = .ok signed ↔
    ∃ prepared compactJwt context, retrieval.prepare packages instanceRecord = .ok prepared ∧
      signPayload prepared.provider instanceRecord.id prepared.identity prepared.payload
        prepared.requestKid prepared.basis.requestX5c = .ok compactJwt ∧
      recordRequest prepared.context prepared.basis retrieval.options prepared.payload
        retrieval.messageId (packages.toRfc3339 retrieval.now) = .ok context ∧
      signed = ⟨{ instanceRecord with context := .object context, updatedAt := retrieval.now },
        compactJwt, prepared.basis.clientId, prepared.basis.responseUri⟩ := by
  simp only [Retrieval.build, buildProfiledRequestObject, bind_eq_ok]
  constructor
  · rintro ⟨prepared, hprepared, jwt, hjwt, context, hcontext, hsigned⟩
    cases hsigned
    exact ⟨prepared, jwt, context, hprepared, hjwt, hcontext, rfl⟩
  · rintro ⟨prepared, jwt, context, hprepared, hjwt, hcontext, rfl⟩
    exact ⟨prepared, hprepared, jwt, hjwt, context, hcontext, rfl⟩

/-- A retrieval keeps the identifier, the flow and the nonce, and records a state exactly when the
request is a presentation answered at a response URI. -/
theorem Retrieval.build_keeps (h : retrieval.build packages instanceRecord = .ok signed) :
    recordText signed.instanceRecord "flow_type" = recordText instanceRecord "flow_type" ∧
      recordText signed.instanceRecord "oid4vp_expected_state" =
        if retrieval.options.dcApi ∨ recordText instanceRecord "flow_type" = some "siop_v2" then
          recordText instanceRecord "oid4vp_expected_state"
        else some instanceRecord.id := by
  obtain ⟨prepared, jwt, context, hprepared, -, hrecorded, rfl⟩ := Retrieval.build_eq_ok.mp h
  have hfields := Retrieval.prepare_fields hprepared
  simp only [recordText, hfields.context, Json.Value.get_object]
  cases hsiop : prepared.basis.isSiop with
  | true =>
      have hflow := hfields.isSiop.mp hsiop
      rw [contextText] at hflow
      rw [recordRequest_siop hsiop hrecorded, if_pos (.inr hflow)]
      simp only [Json.Map.get_insert]
      exact ⟨rfl, rfl⟩
  | false =>
      have hflow : ¬ (prepared.context.get "flow_type").bind Json.Value.asStr = some "siop_v2" :=
        fun hflow => by
          rw [hfields.isSiop.mpr hflow] at hsiop
          cases hsiop
      obtain ⟨hrecord, -⟩ := recordRequest_fields hsiop hrecorded
      rw [hrecord.flowType, hrecord.state]
      refine ⟨rfl, ?_⟩
      cases hdc : retrieval.options.dcApi with
      | true => simp
      | false => simp [hflow, hfields.instanceId, Json.Value.asStr]

theorem Retrieval.payload_eq_ok {payload : Json.Map} :
    retrieval.payload packages instanceRecord = .ok payload ↔
      ∃ prepared, retrieval.prepare packages instanceRecord = .ok prepared ∧
        prepared.payload = payload := by
  rw [Retrieval.payload]
  cases retrieval.prepare packages instanceRecord <;> simp [Except.map]

end

section

variable {packages : RequestPackages} {retrieval : Retrieval} {instanceRecord : FlowInstanceRecord}
  {signed : SignedRequestObject} {payload : Json.Map}

/-- The object that a retrieval answers with carries the payload between its header and its
signature. -/
theorem Retrieval.compactJwt_eq (hbuild : retrieval.build packages instanceRecord = .ok signed)
    (hpayload : retrieval.payload packages instanceRecord = .ok payload) :
    ∃ header signature, signed.compactJwt =
      header ++ "." ++ encodeDocument payload ++ "." ++ signature := by
  obtain ⟨prepared, jwt, context, hprepared, hjwt, -, rfl⟩ := Retrieval.build_eq_ok.mp hbuild
  obtain ⟨prepared', hprepared', rfl⟩ := Retrieval.payload_eq_ok.mp hpayload
  obtain rfl : prepared = prepared' := Except.ok.inj (hprepared.symm.trans hprepared')
  simp only [signPayload, bind_eq_ok] at hjwt
  obtain ⟨result, -, -, -, hjwt⟩ := hjwt
  cases hjwt
  exact ⟨_, _, rfl⟩

end

/-! ## A run of retrievals -/

/-- After a run the instance expects a state unless none was expected at the start and every
retrieval was over the Digital Credentials API. -/
theorem retrieveAll_state {packages : RequestPackages} {retrievals : List Retrieval}
    {start instanceRecord : FlowInstanceRecord}
    (h : retrieveAll packages start retrievals = .ok instanceRecord) :
    recordText instanceRecord "flow_type" = recordText start "flow_type" ∧
      (recordText start "flow_type" ≠ some "siop_v2" →
        (recordText instanceRecord "oid4vp_expected_state" = none ↔
          recordText start "oid4vp_expected_state" = none ∧
            ∀ retrieval ∈ retrievals, retrieval.options.dcApi = true)) := by
  induction retrievals generalizing start with
  | nil =>
      cases h
      exact ⟨rfl, fun _ => by simp⟩
  | cons retrieval retrievals ih =>
      rw [retrieveAll, List.foldlM_cons, bind_eq_ok] at h
      obtain ⟨next, hnext, hrest⟩ := h
      obtain ⟨signed, hsigned, rfl⟩ : ∃ signed, retrieval.build packages start = .ok signed ∧
          signed.instanceRecord = next := by
        cases hbuild : retrieval.build packages start with
        | error e =>
            rw [hbuild] at hnext
            cases hnext
        | ok signed =>
            rw [hbuild] at hnext
            cases hnext
            exact ⟨signed, rfl, rfl⟩
      obtain ⟨hflow, hstate⟩ := Retrieval.build_keeps hsigned
      obtain ⟨hflow', hstate'⟩ := ih hrest
      refine ⟨hflow'.trans hflow, fun hsiop => ?_⟩
      rw [hstate' (hflow ▸ hsiop), hstate, List.forall_mem_cons]
      cases hdc : retrieval.options.dcApi with
      | true => simp
      | false => simp [hsiop]

/-! ## What a submission meets -/

/-- The context says what the payload says. -/
structure DescribesRequest (context payload : Json.Map) : Prop where
  clientId : contextText context "oid4vp_client_id" = contextText payload "client_id"
  responseUri : context.get "oid4vp_response_uri" =
    some ((payload.get "response_uri").getD .null)
  responseKey : context.get "oid4vp_response_encryption_jwk" =
    some ((presentedKey payload).getD .null)
  message : ∃ message, ∃ recorded : Json.Map, recordedMessage context = some message ∧
    message.get "payload" = some (.object recorded) ∧
    ∀ key ∈ ["client_id", "nonce", "presentation_definition", "dcql_query", "response_mode",
      "response_uri"], recorded.get key = some ((payload.get key).getD .null)
  nonce : contextText context "nonce" = contextText payload "nonce"
  state : contextText context "oid4vp_expected_state" = contextText payload "state"

section

variable {packages : SubmissionPackages} {context payload : Json.Map}
  {record target : FlowInstanceRecord} {input : VerificationSubmissionInput}

/-- The transport that an answer to a payload makes. -/
structure TransportOf (packages : SubmissionPackages) (payload : Json.Map)
    (input : VerificationSubmissionInput) (transport : Oid4vpEvaluationTransportV1) : Prop where
  query : recordedQuery payload = .ok (transport.queryKind, transport.queryDocument)
  digest : Oid4vp.digestQueryDocument packages.contract transport.queryDocument =
    .ok transport.queryDigest
  submission : parsePresentationSubmission packages input.presentationSubmission =
    .ok transport.presentationSubmission
  raw : transport.vpTokenRaw = input.vpToken
  clientId : contextText payload "client_id" = some transport.verifierClientId
  nonce : contextText payload "nonce" = some transport.requestNonce

/-- The policy is asked about the query of the payload, or, when the answer exceeds the limits of
the contract, about none. -/
def EvaluatesQuery (packages : SubmissionPackages) (payload : Json.Map)
    (input : VerificationSubmissionInput) (request : PresentationEvaluationRequest) : Prop :=
  ∃ transport, TransportOf packages payload input transport ∧
    (request.oid4vpTransport = some transport ∨
      request.oid4vpTransport = none ∧ transport.overLimit packages.contract = true)

/-- An answer arrives through the channel of a payload: at its response URI, or, when it names
none, over the Digital Credentials API. -/
inductive Arrives (packages : SubmissionPackages) (record : FlowInstanceRecord)
    (payload : Json.Map) : FlowInstanceRecord → VerificationSubmissionInput → Prop
  | directPost {envelope : Option FlowKeyEnvelopeProvider}
      {persist : FlowInstanceRecord → Received Unit} {form : DirectPostForm} {now : Utc}
      {input : VerificationSubmissionInput} (huri : (payload.get "response_uri").isSome)
      (hinput : directPostInput packages envelope persist record form now = .ok input) :
      Arrives packages record payload record input
  | dcApi {envelope : Option FlowKeyEnvelopeProvider}
      {persist : FlowInstanceRecord → Received Unit}
      {request : DigitalCredentialSubmissionRequest} {originHeader : Option String} {now : Utc}
      {target : FlowInstanceRecord} {input : VerificationSubmissionInput}
      (huri : payload.get "response_uri" = none)
      (hinput : dcApiInput packages envelope persist record request originHeader now =
        .ok (target, input)) : Arrives packages record payload target input

/-- The keys of the context that an answer over the Digital Credentials API writes. -/
def dcApiKeys : List String := ["dc_api_last_origin", "dc_api_last_response_mode"]

theorem notedContext_eq (context : Json.Map) (origin : String) (responseMode : Option String) :
    ∃ met : Json.Map, notedContext (.object context) origin responseMode = .object met ∧
      ∀ key, key ∉ dcApiKeys → met.get key = context.get key := by
  cases responseMode
  all_goals
    refine ⟨_, rfl, fun key hkey => ?_⟩
    simp only [dcApiKeys, List.mem_cons, List.not_mem_nil, or_false, not_or] at hkey
    simp [Json.Value.asObject, Json.Map.get_insert, hkey, setMember]

/-- What an answer meets is the context of the instance, but for what its channel notes. -/
theorem Arrives.context_eq (h : Arrives packages record payload target input)
    (hrecord : record.context = .object context) :
    ∃ met : Json.Map, target.context = .object met ∧
      ∀ key, key ∉ dcApiKeys → met.get key = context.get key := by
  cases h with
  | directPost => exact ⟨context, hrecord, fun _ _ => rfl⟩
  | dcApi huri hinput =>
      simp only [dcApiInput, bind_eq_ok, rejectIf_eq_ok, exists_unit, okOr_eq_ok] at hinput
      obtain ⟨-, data, -, -, token, -, origin, -, hpair⟩ := hinput
      cases hpair
      obtain ⟨met, hmet, hget⟩ := notedContext_eq context origin data.2
      rw [hrecord]
      exact ⟨met, hmet, hget⟩

/-! No part of a submission but the check of the state reports a mismatch of it. -/

theorem parsePresentationSubmission_ne_mismatch (value : Option Value) :
    parsePresentationSubmission packages value ≠ .error .stateMismatch := by
  cases value with
  | none => simp [parsePresentationSubmission]
  | some value =>
      have hparse : parseText packages value ≠ .error .stateMismatch := by
        unfold parseText
        split
        · exact okOr_ne_error (by simp)
        · simp
      refine bind_ne_error hparse fun parsed => ?_
      refine bind_ne_error (okOr_ne_error (by simp)) fun object => ?_
      exact bind_ne_error (rejectIf_ne_error (by simp)) fun _ => pure_ne_error

theorem checkRequestBinding_ne_mismatch (payload : Json.Map) (entry : String × String) :
    checkRequestBinding context payload entry ≠ .error .stateMismatch :=
  rejectIf_ne_error (by simp)

theorem checkRequestBindings_ne_mismatch (payload : Json.Map) (entries : List (String × String)) :
    forEach (checkRequestBinding context payload) entries ≠ .error .stateMismatch := by
  induction entries with
  | nil => simp [forEach]
  | cons entry entries ih =>
      rw [forEach]
      split
      · exact ih
      · next e herror =>
          intro h
          cases h
          exact checkRequestBinding_ne_mismatch payload entry herror

theorem recordedQuery_ne_mismatch (payload : Json.Map) :
    recordedQuery payload ≠ .error .stateMismatch := by
  simp only [recordedQuery]
  split <;> simp

theorem evaluationTransport_ne_mismatch (submission : Option Value) (raw : String) :
    evaluationTransport packages context submission raw ≠ .error .stateMismatch := by
  unfold evaluationTransport
  split
  · simp
  split
  · simp
  · refine bind_ne_error ?_ fun transport => ?_
    · refine bind_ne_error (okOr_ne_error (by simp)) fun payload => ?_
      refine bind_ne_error (checkRequestBindings_ne_mismatch payload _) fun _ => ?_
      refine bind_ne_error (recordedQuery_ne_mismatch payload) fun query => ?_
      refine bind_ne_error (mapError_ne_error (by simp)) fun digest => ?_
      refine bind_ne_error (okOr_ne_error (by simp)) fun clientId => ?_
      exact bind_ne_error (okOr_ne_error (by simp)) fun _ => pure_ne_error
    · split <;> simp [pure, Except.pure, throw, throwThe, MonadExceptOf.throw]

theorem handoverEntries_ne_mismatch (nonce vpToken : String) :
    handoverEntries packages context nonce vpToken ≠ .error .stateMismatch := by
  unfold handoverEntries
  split
  · refine bind_ne_error (okOr_ne_error (by simp)) fun transcript => ?_
    exact bind_ne_error (rejectIf_ne_error (by simp)) fun _ => pure_ne_error
  · simp

/-- **A submission that echoes the expected state** is never refused for its state. -/
theorem prepareVerificationSubmission_ne_mismatch {ρ : Type}
    {project : FlowInstanceRecord → Except FlowRecordError ρ} {met : Json.Map}
    (htarget : target.context = .object met)
    (hstate : contextText met "oid4vp_expected_state" = input.state) (now : Utc) :
    prepareVerificationSubmission packages project target input now ≠ .error .stateMismatch := by
  have hmatch : ¬ ∃ expected ∈ contextText met "oid4vp_expected_state",
      input.state ≠ some expected := by
    rw [hstate]
    rintro ⟨expected, hexpected, hne⟩
    exact hne hexpected
  have hrequest : evaluationRequest packages target input ≠ .error .stateMismatch := by
    rw [evaluationRequest, htarget]
    change (rejectIf _ _ >>= _) ≠ _
    rw [rejectIf, if_neg hmatch]
    refine bind_ne_error (by simp) fun _ => ?_
    refine bind_ne_error (okOr_ne_error (by simp)) fun nonce => ?_
    refine bind_ne_error (okOr_ne_error (by simp)) fun policyId => ?_
    refine bind_ne_error (okOr_ne_error (by simp)) fun principalId => ?_
    refine bind_ne_error (parsePresentationSubmission_ne_mismatch _) fun submission => ?_
    refine bind_ne_error (evaluationTransport_ne_mismatch submission _) fun transport => ?_
    exact bind_ne_error (handoverEntries_ne_mismatch nonce _) fun _ => pure_ne_error
  unfold prepareVerificationSubmission
  refine bind_ne_error (okOr_ne_error (by simp)) fun digest => ?_
  split
  · split
    · exact bind_ne_error (mapError_ne_error (by simp)) fun _ => pure_ne_error
    · exact pure_ne_error
  split
  · refine bind_ne_error ?_ fun _ => pure_ne_error
    exact bind_ne_error (mapError_ne_error (by simp)) fun _ => pure_ne_error
  split
  · simp [throw, throwThe, MonadExceptOf.throw]
  · exact bind_ne_error hrequest fun _ => pure_ne_error

/-! What an evaluation is about. -/

theorem evaluationRequest_of_evaluates {ρ : Type}
    {project : FlowInstanceRecord → Except FlowRecordError ρ} {now : Utc}
    {request : PresentationEvaluationRequest}
    (h : prepareVerificationSubmission packages project target input now =
      .ok (.evaluates request)) : evaluationRequest packages target input = .ok request := by
  simp only [prepareVerificationSubmission, bind_eq_ok, okOr_eq_ok] at h
  obtain ⟨digest, -, h⟩ := h
  split at h
  · split at h
    · obtain ⟨response, -, h⟩ := bind_eq_ok.mp h
      cases h
    · cases h
  split at h
  · obtain ⟨expired, -, h⟩ := bind_eq_ok.mp h
    cases h
  split at h
  · cases h
  · obtain ⟨request', hrequest, h⟩ := bind_eq_ok.mp h
    cases h
    exact hrequest

theorem evaluationTransport_of_request {met : Json.Map} {request : PresentationEvaluationRequest}
    (htarget : target.context = .object met)
    (h : evaluationRequest packages target input = .ok request) :
    ∃ submission, parsePresentationSubmission packages input.presentationSubmission =
        .ok submission ∧
      evaluationTransport packages met submission input.vpToken = .ok request.oid4vpTransport := by
  simp only [evaluationRequest, htarget, bind_eq_ok, okOr_eq_ok, rejectIf_eq_ok,
    exists_unit] at h
  obtain ⟨context, hcontext, -, nonce, -, policyId, -, principalId, -, submission, hsubmission,
    transport, htransport, handover, -, hrequest⟩ := h
  cases hcontext
  cases hrequest
  exact ⟨submission, hsubmission, htransport⟩

theorem recordedQuery_congr {recorded : Json.Map}
    (h : ∀ key ∈ ["presentation_definition", "dcql_query"],
      recorded.get key = some ((payload.get key).getD .null)) :
    recordedQuery recorded = recordedQuery payload := by
  have hpresent : ∀ key ∈ ["presentation_definition", "dcql_query"],
      (recorded.get key).filter (fun value => !value.isNull) =
        (payload.get key).filter fun value => !value.isNull := fun key hkey => by
    rw [h key hkey]
    cases payload.get key <;> rfl
  simp only [recordedQuery, hpresent "dcql_query" (by decide),
    hpresent "presentation_definition" (by decide)]

theorem contextText_congr {recorded : Json.Map} {key : String}
    (h : recorded.get key = some ((payload.get key).getD .null)) :
    contextText recorded key = contextText payload key := by
  rw [contextText, contextText, h]
  cases payload.get key <;> rfl

/-- **The transport** that a recorded message makes is that of the payload it records. -/
theorem evaluationTransport_of_recorded {message : Value} {recorded : Json.Map}
    {submission : Option Value} {transport : Option Oid4vpEvaluationTransportV1}
    (hverifier : context.get "oid4vp_verifier_context" = some (.bool true))
    (hmessage : recordedMessage context = some message)
    (hrecorded : message.get "payload" = some (.object recorded))
    (hfields : ∀ key ∈ ["client_id", "nonce", "presentation_definition", "dcql_query"],
      recorded.get key = some ((payload.get key).getD .null))
    (hsubmission : parsePresentationSubmission packages input.presentationSubmission =
      .ok submission)
    (h : evaluationTransport packages context submission input.vpToken = .ok transport) :
    ∃ made, TransportOf packages payload input made ∧
      (transport = some made ∨ transport = none ∧ made.overLimit packages.contract = true) := by
  rw [evaluationTransport, hverifier, if_neg (by simp [Json.Value.asBool]), hmessage] at h
  obtain ⟨made, hmade, hvalid⟩ := bind_eq_ok.mp h
  simp only [messageTransport, hrecorded, Option.bind_some, bind_eq_ok, okOr_eq_ok] at hmade
  obtain ⟨payload', hpayload', -, -, query, hquery, digest, hdigest, clientId, hclientId, nonce,
    hnonce, hmade⟩ := hmade
  cases hpayload'
  cases hmade
  refine ⟨⟨query.1, query.2, digest, submission, input.vpToken, clientId, nonce⟩,
    ⟨?_, ?_, hsubmission, rfl, ?_, ?_⟩, ?_⟩
  · rw [← hquery]
    refine (recordedQuery_congr fun key hkey => hfields key ?_).symm
    exact List.mem_cons_of_mem _ (List.mem_cons_of_mem _ hkey)
  · cases hresult : Oid4vp.digestQueryDocument packages.contract query.2 with
    | error e =>
        rw [hresult] at hdigest
        cases hdigest
    | ok value =>
        rw [hresult] at hdigest
        cases hdigest
        rfl
  · rw [← contextText_congr (hfields "client_id" (by decide))]
    exact hclientId
  · rw [← contextText_congr (hfields "nonce" (by decide))]
    exact hnonce
  · split at hvalid
    · cases hvalid
      exact .inl rfl
    · next hlimit =>
        cases hvalid
        refine .inr ⟨rfl, ?_⟩
        rw [Oid4vpEvaluationTransportV1.overLimit, hlimit]
    · cases hvalid

end

/-! ## The last request -/

/-- The payload asks for a presentation, and not for an identity token alone. -/
def isPresentation (payload : Json.Map) : Prop :=
  contextText payload "response_type" = some "vp_token"

/-- **The instance follows a payload**: its context describes a presentation that was asked for,
and what answers it with its state is evaluated as an answer to it. -/
structure FollowsRequest {ρ : Type} (packages : SubmissionPackages)
    (project : FlowInstanceRecord → Except FlowRecordError ρ) (record : FlowInstanceRecord)
    (payload : Json.Map) : Prop where
  described : isPresentation payload →
    ∃ context, record.context = .object context ∧ DescribesRequest context payload
  identified : ¬ isPresentation payload →
    recordText record "siop_client_id" = contextText payload "client_id" ∧
      recordText record "nonce" = contextText payload "nonce"
  answered : isPresentation payload → ∀ target input, Arrives packages record payload target input →
    input.state = contextText payload "state" → ∀ now,
      prepareVerificationSubmission packages project target input now ≠ .error .stateMismatch ∧
        ∀ request, prepareVerificationSubmission packages project target input now =
          .ok (.evaluates request) → EvaluatesQuery packages payload input request

section

variable {ρ : Type} {packages : SubmissionPackages}
  {project : FlowInstanceRecord → Except FlowRecordError ρ} {context payload : Json.Map}
  {record : FlowInstanceRecord}

theorem DescribesRequest.answered (h : DescribesRequest context payload)
    (hverifier : context.get "oid4vp_verifier_context" = some (.bool true))
    (hrecord : record.context = .object context) {target : FlowInstanceRecord}
    {input : VerificationSubmissionInput} (harrives : Arrives packages record payload target input)
    (hstate : input.state = contextText payload "state") (now : Utc) :
    prepareVerificationSubmission packages project target input now ≠ .error .stateMismatch ∧
      ∀ request, prepareVerificationSubmission packages project target input now =
        .ok (.evaluates request) → EvaluatesQuery packages payload input request := by
  obtain ⟨met, hmet, hget⟩ := harrives.context_eq hrecord
  obtain ⟨message, recorded, hmessage, hpayload, hfields⟩ := h.message
  constructor
  · apply prepareVerificationSubmission_ne_mismatch hmet
    rw [contextText, hget _ (by decide), hstate]
    exact h.state
  · intro request hrequest
    obtain ⟨submission, hsubmission, htransport⟩ :=
      evaluationTransport_of_request hmet (evaluationRequest_of_evaluates hrequest)
    refine evaluationTransport_of_recorded ?_ ?_ hpayload ?_ hsubmission htransport
    · rw [hget _ (by decide)]
      exact hverifier
    · rw [recordedMessage, hget _ (by decide)]
      exact hmessage
    · intro key hkey
      refine hfields key ?_
      simp only [List.mem_cons, List.not_mem_nil, or_false] at hkey ⊢
      tauto

theorem message_fields {basis : RequestBasis} {options : RequestObjectOptions}
    (hfields : PresentationFields basis options payload) (extended : Json.Map)
    (messageId sentAt : String) : ∃ recorded : Json.Map,
    (presentationMessage extended basis (if options.dcApi then none else some basis.responseUri)
      payload messageId sentAt).get "payload" = some (.object recorded) ∧
    ∀ key ∈ ["client_id", "nonce", "presentation_definition", "dcql_query", "response_mode",
      "response_uri"], recorded.get key = some ((payload.get key).getD .null) := by
  refine ⟨_, rfl, ?_⟩
  have huri : Json.Value.ofOption .string
      (if options.dcApi then none else some basis.responseUri) =
        (payload.get "response_uri").getD .null := by
    rw [hfields.responseUri]
    cases options.dcApi <;> rfl
  simp [Json.Map.get_cons, hfields.clientId, hfields.nonce, huri]

/-- **After a retrieval** the instance follows the payload exactly when no state is expected that
the payload does not carry. -/
theorem Retrieval.follows_iff {retrieval : Retrieval} {before : FlowInstanceRecord}
    {signed : SignedRequestObject} (hbuild : retrieval.build packages.request before = .ok signed)
    (hpayload : retrieval.payload packages.request before = .ok payload) :
    FollowsRequest packages project signed.instanceRecord payload ↔
      recordText before "flow_type" = some "siop_v2" ∨ retrieval.options.dcApi = false ∨
        recordText before "oid4vp_expected_state" = none := by
  obtain ⟨prepared, jwt, context, hprepared, -, hrecorded, rfl⟩ := Retrieval.build_eq_ok.mp hbuild
  obtain ⟨prepared', hprepared', rfl⟩ := Retrieval.payload_eq_ok.mp hpayload
  obtain rfl : prepared = prepared' := Except.ok.inj (hprepared.symm.trans hprepared')
  have hprep := Retrieval.prepare_fields hprepared
  have hflow : recordText before "flow_type" = contextText prepared.context "flow_type" := by
    rw [recordText, hprep.context]
    rfl
  have hexpected : recordText before "oid4vp_expected_state" =
      contextText prepared.context "oid4vp_expected_state" := by
    rw [recordText, hprep.context]
    rfl
  cases hsiop : prepared.basis.isSiop with
  | true =>
      obtain ⟨htype, hclient, hnonce⟩ := requestPayload_siop hsiop hprep.payload
      have hidentity : ¬ isPresentation prepared.payload := by
        rw [isPresentation, htype]
        decide
      refine ⟨fun _ => .inl (hflow.trans (hprep.isSiop.mp hsiop)), fun _ => ?_⟩
      refine ⟨fun h => absurd h hidentity, fun _ => ?_, fun h => absurd h hidentity⟩
      rw [recordRequest_siop hsiop hrecorded]
      simp only [recordText, Json.Value.get_object, contextText, hclient, hnonce,
        Json.Map.get_insert]
      exact ⟨rfl, hprep.nonce⟩
  | false =>
      obtain ⟨hfields, hkey⟩ := requestPayload_fields hsiop hprep.payload
      obtain ⟨hrecord, extended, hmessage⟩ := recordRequest_fields hsiop hrecorded
      have hnot : recordText before "flow_type" ≠ some "siop_v2" := fun h => by
        rw [hprep.isSiop.mpr (hflow.symm.trans h)] at hsiop
        cases hsiop
      have hstate : contextText context "oid4vp_expected_state" =
          contextText prepared.payload "state" ↔ retrieval.options.dcApi = false ∨
            contextText prepared.context "oid4vp_expected_state" = none := by
        rw [contextText, contextText, hrecord.state, hfields.state]
        cases retrieval.options.dcApi <;> simp [contextText]
      constructor
      · intro h
        obtain ⟨context', hcontext', hdescribes⟩ := h.described hfields.responseType
        cases hcontext'
        right
        rw [hexpected]
        exact hstate.mp hdescribes.state
      · rintro (h | h)
        · exact absurd h hnot
        rw [hexpected] at h
        obtain ⟨recorded, hpayloadEntry, hsame⟩ := message_fields hfields extended
          retrieval.messageId (packages.request.toRfc3339 retrieval.now)
        have hdescribes : DescribesRequest context prepared.payload := {
          clientId := by rw [contextText, contextText, hrecord.clientId, hfields.clientId]
          responseUri := by
            rw [hrecord.responseUri, hfields.responseUri]
            cases retrieval.options.dcApi <;> rfl
          responseKey := by rw [hrecord.responseKey, hkey]
          message := ⟨_, recorded, hmessage, hpayloadEntry, hsame⟩
          nonce := by
            rw [contextText, contextText, hrecord.nonce, hfields.nonce]
            exact hprep.nonce
          state := hstate.mpr h }
        refine ⟨fun _ => ⟨context, rfl, hdescribes⟩, fun hno => absurd hfields.responseType hno,
          fun _ target input harrives hecho now => ?_⟩
        exact hdescribes.answered hrecord.verifier rfl harrives hecho now

/-- **The context follows the last request** exactly when that was answered at a response URI, or
nothing had left a state to expect. -/
theorem context_follows_last_request {start : FlowInstanceRecord} {retrievals : List Retrieval}
    {last : Retrieval} {signed : SignedRequestObject}
    (hrun : retrieveAll packages.request start retrievals = .ok record)
    (hlast : last.build packages.request record = .ok signed)
    (hpayload : last.payload packages.request record = .ok payload) :
    FollowsRequest packages project signed.instanceRecord payload ↔
      recordText start "flow_type" = some "siop_v2" ∨ last.options.transport = .requestUri ∨
        recordText start "oid4vp_expected_state" = none ∧
          ∀ retrieval ∈ retrievals, retrieval.options.transport = .digitalCredentialsApi := by
  obtain ⟨hflow, hstate⟩ := retrieveAll_state hrun
  have hdcApi : ∀ options : RequestObjectOptions, options.dcApi = false ↔
      options.transport = .requestUri := fun options => by
    cases htransport : options.transport <;> simp [RequestObjectOptions.dcApi, htransport]
  rw [Retrieval.follows_iff hlast hpayload, hflow, hdcApi]
  by_cases hsiop : recordText start "flow_type" = some "siop_v2"
  · simp [hsiop]
  · rw [hstate hsiop]
    simp [hsiop, RequestObjectOptions.dcApi]

end

/-! ## Retrievals that leave a state behind -/

namespace Example

def verifierIdentity : SigningIdentity where
  organizationId := "org-1"
  issuerDid := "did:web:verifier.example"
  verificationMethodId := "did:web:verifier.example#key-1"
  signingKeyReference := "managed-key-1"
  publicJwk := [("crv", .string "P-256"), ("kty", .string "EC"),
    ("x", .string "axfR8uEsQkf4vOblY6RA8ncDfYEt6zOg9KE5RdiYwpY"),
    ("y", .string "T-NC4v4af5uO5-tKfA-eFivOM1drMV7Oy7ZAaDe_UfU")]
  keyPurpose := requestPurpose
  credentialFormat := requestFormat
  algorithm := requestAlgorithm

def haipKey : HaipRemoteKey where
  organizationId := "org-1"
  flowInstanceId := "flow-1"
  keyReference := "didcomm/haip/keys/org-1/flow-1/versions/0123456789abcdef0123456789abcdef"
  publicJwk := .object [("kty", .string "EC"), ("crv", .string "P-256"),
    ("alg", .string "ECDH-ES"), ("use", .string "enc"),
    ("kid", .string "oid4vp-haip-0123456789abcdef0123456789abcdef"),
    ("x", .string "axfR8uEsQkf4vOblY6RA8ncDfYEt6zOg9KE5RdiYwpY"),
    ("y", .string "T-NC4v4af5uO5-tKfA-eFivOM1drMV7Oy7ZAaDe_UfU")]

def requestProviders : RequestProviders where
  signingIdentity := some ⟨fun _ _ _ _ _ => .ok verifierIdentity, fun request =>
    .ok ⟨request.issuerDid, request.verificationMethodId, request.algorithm, "c2lnbmF0dXJl"⟩⟩
  flowKeyEnvelope := some ⟨fun _ _ _ => .ok haipKey, fun _ _ => .ok haipKey,
    fun _ _ _ _ => .error (.unavailable "flow_key_envelope")⟩

def submissionPackages : SubmissionPackages where
  flow := packages
  contract := ⟨fun _ => some "sha256:query", fun _ => none, some⟩
  request := ⟨fun _ method => .ok (method ++ ":verifier"), fun _ _ => .error "no certificate",
    fun bytes => bytes.length == 65, fun _ => "2026-01-01T00:00:00+00:00"⟩
  payloadDigest := fun _ => some "sha256:payload"
  parseJson := fun _ => none
  buildMdocSessionTranscript := fun _ _ _ _ => some []
  mdocBindingDigests := fun _ _ _ _ _ _ => true
  validHaipResponseHeader := fun _ => true

/-- An instance that waits for a wallet. -/
def awaitingInstance : FlowInstanceRecord where
  id := "flow-1"
  flowDefinitionId := "__verification"
  organizationId := "org-1"
  status := .awaitingWallet
  currentStepId := none
  context := .object [("flow_type", .string "verification"), ("nonce", .string "nonce-1"),
    ("oid4vp_issuer_did", .string "did:web:verifier.example"),
    ("presentation_policy_id", .string "policy-1"),
    ("_marty_verification_principal_id", .string "member-1")]
  stepHistory := []
  stateHistory := []
  subjectId := none
  subjectType := "user"
  externalReference := none
  applicationFlowKeyHash := none
  startedAt := some 0
  completedAt := none
  expiresAt := none
  result := none
  error := none
  createdAt := 0
  updatedAt := 0

def retrievalOver (transport : RequestObjectTransport) : Retrieval where
  providers := requestProviders
  artifacts := some ⟨.object [("credentials", .array [.object [("id", .string "member")]])],
    .object [("id", .string "definition-1")]⟩
  publicBaseUrl := "https://verifier.example"
  options := { RequestObjectOptions.default with
    transport := transport
    expectedOrigins := ["https://verifier.example"] }
  messageId := "message-1"
  now := 1000000000

/-- An answer over the Digital Credentials API. -/
def dcApiAnswer : DigitalCredentialSubmissionRequest where
  protocol := none
  origin := some "https://verifier.example"
  data := [("vp_token", .string "header.payload.signature")]

def reportsMismatch {α : Type} : Submitted α → Bool
  | .error .stateMismatch => true
  | _ => false

end Example

open Example in
/-- The request is retrieved at its URI, and again over the Digital Credentials API; the answer to
the second carries no state, as the second does not, and is refused for its state. -/
theorem context_keeps_stale_state : ∃ record signed payload target input,
    retrieveAll submissionPackages.request awaitingInstance [retrievalOver .requestUri] =
        .ok record ∧
      (retrievalOver .digitalCredentialsApi).build submissionPackages.request record =
        .ok signed ∧
      (retrievalOver .digitalCredentialsApi).payload submissionPackages.request record =
        .ok payload ∧
      isPresentation payload ∧
      Arrives submissionPackages signed.instanceRecord payload target input ∧
      input.state = contextText payload "state" ∧
      reportsMismatch (prepareVerificationSubmission submissionPackages
        (fun _ => .ok ()) target input 2000000000) = true := by
  have hrun : ((retrieveAll submissionPackages.request awaitingInstance
      [retrievalOver .requestUri]).toOption.any fun record =>
      ((retrievalOver .digitalCredentialsApi).build submissionPackages.request
        record).toOption.any fun signed =>
      ((retrievalOver .digitalCredentialsApi).payload submissionPackages.request
        record).toOption.any fun payload =>
      (dcApiInput submissionPackages none (fun _ => .ok ()) signed.instanceRecord dcApiAnswer none
        2000000000).toOption.any fun arrived =>
      decide (contextText payload "response_type" = some "vp_token") &&
        (payload.get "response_uri").isNone &&
        decide (arrived.2.state = contextText payload "state") &&
        reportsMismatch (prepareVerificationSubmission submissionPackages (fun _ => .ok ())
          arrived.1 arrived.2 2000000000)) = true := by
    decide +kernel
  obtain ⟨record, hrecord, hrun⟩ := (Option.any_eq_true _ _).mp hrun
  obtain ⟨signed, hsigned, hrun⟩ := (Option.any_eq_true _ _).mp hrun
  obtain ⟨payload, hpayload, hrun⟩ := (Option.any_eq_true _ _).mp hrun
  obtain ⟨arrived, harrived, hrun⟩ := (Option.any_eq_true _ _).mp hrun
  simp only [Bool.and_eq_true, decide_eq_true_eq, Option.isNone_iff_eq_none] at hrun
  obtain ⟨⟨⟨htype, huri⟩, hstate⟩, hmismatch⟩ := hrun
  exact ⟨record, signed, payload, arrived.1, arrived.2, toOption_eq_some.mp hrecord,
    toOption_eq_some.mp hsigned, toOption_eq_some.mp hpayload, htype,
    .dcApi huri (toOption_eq_some.mp harrived), hstate, hmismatch⟩

open Example in
/-- Two retrievals at the request URI: the second is followed. -/
theorem context_follows_last_request_uri : ∃ record signed payload,
    retrieveAll submissionPackages.request awaitingInstance [retrievalOver .requestUri] =
        .ok record ∧
      (retrievalOver .requestUri).build submissionPackages.request record = .ok signed ∧
      (retrievalOver .requestUri).payload submissionPackages.request record = .ok payload ∧
      FollowsRequest submissionPackages (fun _ => .ok ()) signed.instanceRecord payload := by
  have hrun : ((retrieveAll submissionPackages.request awaitingInstance
      [retrievalOver .requestUri]).toOption.any fun record =>
      ((retrievalOver .requestUri).build submissionPackages.request
        record).toOption.any fun _ =>
      ((retrievalOver .requestUri).payload submissionPackages.request
        record).toOption.isSome) = true := by
    decide +kernel
  obtain ⟨record, hrecord, hrun⟩ := (Option.any_eq_true _ _).mp hrun
  obtain ⟨signed, hsigned, hrun⟩ := (Option.any_eq_true _ _).mp hrun
  obtain ⟨payload, hpayload⟩ := Option.isSome_iff_exists.mp hrun
  have hrecord := toOption_eq_some.mp hrecord
  have hsigned := toOption_eq_some.mp hsigned
  have hpayload := toOption_eq_some.mp hpayload
  exact ⟨record, signed, payload, hrecord, hsigned, hpayload,
    (context_follows_last_request hrecord hsigned hpayload).mpr (.inr (.inl rfl))⟩

end Marty.Flow
