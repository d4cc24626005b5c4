import Marty.Flow.Instances
import Marty.Flow.Outbox
import Marty.Flow.PublicProjection
import Marty.Flow.VerificationSubmission
import Marty.Lib.Interleaving
import Marty.Lib.Table

/-!
# Ending a verification

A submission reads its instance, prepares what the instance becomes, and finalizes it in one
database transaction: the nonce is consumed, the row is written when it still has the status that
was read, and the callback is put into the outbox.  A submission that loses looks at what is
stored.  Requests that are retrieved, steps that are advanced and instances that expire write the
row under its status and its version; a cancellation and a replaced offer write it by themselves.

## Main definitions

* `finalizeVerification`, `compareAndSwapInstance`, `cancelInstance`, `replaceActiveArtifacts` —
  the operations of the repository.
* `closeSubmission`, `retryableSnapshot` — a submission after the decision of the policy.
* `prepareSiopSubmission` — a submission of a self-issued identity.
* `SubmissionCall`, `submissionStep` — the steps of a submission.
* `submissionMachine` — any number of submissions, and the other writers of instances.
-/

namespace Marty.Flow.Finalization

open Lib Lib.Checked

/-! ## The tables -/

/-- A row of `flow_nonce_consumptions`, under its digest. -/
structure NonceConsumption where
  flowInstanceId : String
  consumedAt : DateTime
  expiresAt : DateTime
  deriving DecidableEq

structure PreparedVerificationFinalization where
  instanceRecord : FlowInstanceRecord
  nonceDigest : String
  replayExpiresAtMs : Nat
  expectedStatus : FlowInstanceStatus
  callback : Option Message
  submissionDigest : String

/-- A finalization that took effect, with the time until which its nonce is kept. -/
structure CommittedFinalization extends PreparedVerificationFinalization where
  replayExpiresAt : DateTime
  committedAt : DateTime

/-- The tables, the finalizations that took effect in their order, and the clock of the
database. -/
structure VerificationStore where
  instances : InstanceTable
  nonces : TextMap NonceConsumption
  outbox : CallbackOutbox
  committed : List CommittedFinalization
  clock : DateTime

def rounded (moment : Utc) : Utc := Utc.ofStored moment.stored

/-- A record as its columns keep it. -/
def asStored (record : FlowInstanceRecord) : FlowInstanceRecord :=
  { record with
    startedAt := record.startedAt.map rounded
    completedAt := record.completedAt.map rounded
    expiresAt := record.expiresAt.map rounded
    createdAt := rounded record.createdAt
    updatedAt := rounded record.updatedAt }

/-- The row that an `UPDATE` of all columns leaves. -/
def writtenOver (record row : FlowInstanceRecord) : FlowInstanceRecord :=
  { asStored record with id := row.id, createdAt := row.createdAt }

def isOpenStatus (status : FlowInstanceStatus) : Bool :=
  status = .inProgress || status = .awaitingWallet

/-! ## The operations -/

section

variable (packages : Packages)

/-- `compare_and_swap_instance`. -/
def compareAndSwapInstance (s : VerificationStore) (instanceRecord : FlowInstanceRecord)
    (expectedStatus : FlowInstanceStatus) (expectedUpdatedAt : Utc) :
    Except RepositoryError (Bool × VerificationStore) := do
  validateInstanceRecord packages instanceRecord
  match s.instances.get instanceRecord.id with
  | none => pure (false, s)
  | some row =>
      if isOpenStatus expectedStatus = true ∧ expectedUpdatedAt < instanceRecord.updatedAt ∧
          row.status = expectedStatus ∧ row.updatedAt = rounded expectedUpdatedAt ∧
          row.status.isTerminal = false then
        pure (true, { s with instances := s.instances.put (writtenOver instanceRecord row) })
      else pure (false, s)

/-- `replace_active_artifacts`; `inserted` is whether the new offer is one of its own. -/
def replaceActiveArtifacts (s : VerificationStore) (instanceRecord : FlowInstanceRecord)
    (expectedUpdatedAt : Utc) (inserted : Bool) :
    Except RepositoryError (Bool × VerificationStore) := do
  validateInstanceRecord packages instanceRecord
  rejectIf (instanceRecord.updatedAt ≤ expectedUpdatedAt)
    (.invalidStoredState (invalid "artifact replacement binding"))
  match s.instances.get instanceRecord.id with
  | none => pure (false, s)
  | some row =>
      if row.updatedAt = rounded expectedUpdatedAt ∧ inserted = true then
        pure (true, { s with
          instances := s.instances.put { row with
            context := instanceRecord.context
            updatedAt := rounded instanceRecord.updatedAt } })
      else pure (false, s)

/-- `cancel_instance`. -/
def cancelInstance (s : VerificationStore) (id actor : String) (now : Utc) : VerificationStore :=
  match s.instances.get id with
  | none => s
  | some row =>
      if row.status.isTerminal then s
      else
        { s with
          instances := s.instances.put { row with
            status := .cancelled
            completedAt := some (rounded now)
            updatedAt := rounded now
            stateHistory := row.stateHistory ++ [.object
              [("prior_state", row.status.toValue), ("new_state", .string "cancelled"),
                ("timestamp", .string (packages.toRfc3339 now)), ("actor", .string actor),
                ("event", .string "flow_cancelled")]] } }

/-- `save_started_instance`, which never replaces a row. -/
def saveStartedInstance (s : VerificationStore) (instanceRecord : FlowInstanceRecord) :
    VerificationStore :=
  match s.instances.get instanceRecord.id with
  | some _ => s
  | none => { s with instances := s.instances.put (asStored instanceRecord) }

def validateCallback (instanceRecord : FlowInstanceRecord) (callback : Option Message) :
    Except RepositoryError Unit :=
  match callback with
  | none => .ok ()
  | some message => do
      checkedPublicRecord packages message.payload
      rejectIf (message.messageId ≠ instanceRecord.id ∨
        message.correlationId ≠ some instanceRecord.id ∨
        message.tenantId ≠ some instanceRecord.organizationId)
        (.storage "callback identity does not match terminal flow")

/-- A digest is consumed when no row that has not expired holds it. -/
def consumeNonce (nonces : TextMap NonceConsumption) (clock : StatementClock)
    (digest instanceId : String) (expiresAt : DateTime) : Option (TextMap NonceConsumption) :=
  let live := nonces.retain fun _ row => clock.reads 0 < row.expiresAt
  if live.containsKey digest then none
  else some (live.insert digest ⟨instanceId, clock.reads 1, expiresAt⟩)

/-- The row that the finalization writes. -/
def finalizable (row : FlowInstanceRecord) (finalization : PreparedVerificationFinalization)
    (now : DateTime) : Prop :=
  row.status = finalization.expectedStatus ∧
    row.organizationId = finalization.instanceRecord.organizationId ∧
    row.flowDefinitionId = finalization.instanceRecord.flowDefinitionId ∧
    ∀ expiresAt ∈ row.expiresAt, now ≤ expiresAt.stored

instance (row : FlowInstanceRecord) (finalization : PreparedVerificationFinalization)
    (now : DateTime) : Decidable (finalizable row finalization now) :=
  inferInstanceAs (Decidable (_ ∧ _ ∧ _ ∧ _))

def enqueueCallback (outbox : CallbackOutbox) : Option Message →
    Except RepositoryError CallbackOutbox
  | none => .ok outbox
  | some callback => insertCallback outbox callback

/-- The row that the finalization may write. -/
def finalizableRow (s : VerificationStore) (finalization : PreparedVerificationFinalization)
    (now : DateTime) : Option FlowInstanceRecord :=
  (s.instances.get finalization.instanceRecord.id).filter fun row =>
    finalizable row finalization now

/-- `finalize_verification`: one of the statements fails, or the nonce and the row do not allow
it, or the whole takes effect. -/
def finalizeVerification (s : VerificationStore) (clock : StatementClock)
    (finalization : PreparedVerificationFinalization) :
    Except RepositoryError (Bool × VerificationStore) := do
  validateInstanceRecord packages finalization.instanceRecord
  rejectIf (validSha256 finalization.nonceDigest = false) .invalidReplayDigest
  if isOpenStatus finalization.expectedStatus = false then pure (false, s)
  else do
    validateCallback packages finalization.instanceRecord finalization.callback
    let replayExpiresAt ← timestamp finalization.replayExpiresAtMs
    match consumeNonce s.nonces clock finalization.nonceDigest finalization.instanceRecord.id
        replayExpiresAt.stored, finalizableRow s finalization (clock.reads 2) with
    | some nonces, some row => do
        let outbox ← enqueueCallback s.outbox finalization.callback
        pure (true,
          { instances := s.instances.put (writtenOver finalization.instanceRecord row)
            nonces := nonces
            outbox := outbox
            committed := s.committed ++ [⟨finalization, replayExpiresAt.stored, clock.reads 2⟩]
            clock := clock.reads 2 })
    | _, _ => pure (false, s)

end

/-! ## A submission after the decision -/

/-- What closing a submission takes from other packages: the digest of a text, the shortest secret
of an event, the destinations of an organization, the syntax type of a subject that is a key, and
the last rejected attempt in a result. -/
structure ClosingPackages extends SubmissionPackages where
  sha256Hex : String → String
  minimumEventSecretBytes : Nat
  destinationAllowed : String → String → Bool
  jwkThumbprintSubjectPrefix : String
  attempt : InstanceProjectionInput → Option Value

structure VerificationSubmissionOptions where
  callbackSecret : Option String
  verifierSenderId : String
  nonceTtlSeconds : Nat
  callbackRetentionSeconds : Nat

structure PresentationEvaluationResult where
  result : String
  decision : String
  decisionReason : Option String
  verifiedClaims : Json.Map
  credentialResults : List Value
  errorCodes : List String
  warnings : List String

abbrev Response := VerificationResultResponse Value

section

variable (packages : ClosingPackages)

def submissionDigest (input : VerificationSubmissionInput) : Submitted String :=
  okOr (packages.payloadDigest (.object [("vp_token", .string input.vpToken),
    ("presentation_submission", input.presentationSubmission.getD .null),
    ("state", .ofOption .string input.state)])) .serialization

def texts (values : List String) : Value := .array (values.map .string)

/-- The texts of a field, of the evaluation and of its credentials, each once and in order. -/
def mergedTexts (field : String) (top : List String) (credentials : List Value) : List String :=
  (BTreeSet.ofList ((top ++ credentials.flatMap fun credential =>
    (((credential.get field).bind Json.Value.asArray).getD []).filterMap
      Json.Value.asStr).filter (· ≠ ""))).toList

def flag (name : String) (value : Value) : Bool :=
  (value.get name).bind Json.Value.asBool = some true

/-- Every presented credential is signed by its issuer. -/
def authenticated (evaluation : PresentationEvaluationResult) : Bool :=
  !evaluation.credentialResults.isEmpty &&
    evaluation.credentialResults.all (flag "signature_valid")

def finalAllowed (evaluation : PresentationEvaluationResult) : Bool :=
  evaluation.result = "passed" && evaluation.decision = "allow"

/-- The result that is stored. -/
def resultDocument (evaluation : PresentationEvaluationResult) (credentialResults : List Value)
    (digest : String) : Json.Map :=
  [("evaluation_result", .string evaluation.result), ("decision", .string evaluation.decision),
    ("decision_reason", .ofOption .string evaluation.decisionReason),
    ("verified_claims", if finalAllowed evaluation then
      publicContext (.object evaluation.verifiedClaims) else .object []),
    ("credential_results", .array credentialResults),
    ("error_codes", texts (mergedTexts "error_codes" evaluation.errorCodes credentialResults)),
    ("warnings", texts (mergedTexts "warnings" evaluation.warnings credentialResults)),
    ("submission_digest", .string digest)]

/-- The context without the tokens, and with their digests. -/
def closedContext (context : Json.Map) (input : VerificationSubmissionInput)
    (request : PresentationEvaluationRequest) (submission : Option Value) : Submitted Json.Map := do
  let kept := ["vp_token", "vp_token_raw", "presentation_submission"].foldl Json.Map.remove context
  let hashed := kept.insert "vp_token_sha256" (.string (packages.sha256Hex request.presentation))
  let transported := if input.vpToken = request.presentation then hashed
    else hashed.insert "vp_transport_sha256" (.string (packages.sha256Hex input.vpToken))
  let digest ← okOr ((submission.map packages.payloadDigest).getD (some "")) .serialization
  let submitted := if submission.isSome then
      transported.insert "presentation_submission_sha256" (.string digest)
    else transported
  let stated := (input.state.map fun state => submitted.insert "state" (.string state)).getD
    submitted
  pure (if request.audience = "" then stated
    else stated.insert "verification_audience" (.string request.audience))

/-- The status history of an instance that is closed: a wallet that was awaited has answered. -/
def closeStatus (instanceRecord : FlowInstanceRecord) (received closed : String)
    (status : FlowInstanceStatus) (now : Utc) : FlowInstanceRecord :=
  submissionTransition packages.flow
    (if instanceRecord.status = .awaitingWallet then
      submissionTransition packages.flow instanceRecord .inProgress received now
    else instanceRecord) status closed now

def claimResult (claim : String × Value) : Value :=
  .object [("claim_name", .string claim.1), ("required", .bool false),
    ("present", .bool (!claim.2.isNull)), ("satisfies_predicate", .bool (!claim.2.isNull)),
    ("result", .string (if claim.2.isNull then "SKIPPED" else "PASS"))]

/-- The message about a result, under an identifier of its own. -/
def resultMessage (options : VerificationSubmissionOptions) (instanceRecord : FlowInstanceRecord)
    (result : Json.Map) (policyId messageId : String) (now : Utc) : Value :=
  let claims := ((result.get "verified_claims").bind Json.Value.asObject).getD []
  let credentials := ((result.get "credential_results").bind Json.Value.asArray).getD []
  let checked := !credentials.isEmpty && credentials.all (flag "revocation_checked")
  let nonce := instanceRecord.context.get "nonce"
  let evaluatedAt := packages.flow.toRfc3339 now
  .object [("mip_version", .string "0.3.1"), ("message_type", .string "VerificationResult"),
    ("message_id", .string messageId), ("correlation_id", .string instanceRecord.id),
    ("timestamp", .string evaluatedAt),
    ("sender_id", .string options.verifierSenderId),
    ("nonce", nonce.getD .null),
    ("payload", .object [("flow_instance_id", .string instanceRecord.id),
      ("policy_id", .string policyId),
      ("overall_result", .string (((((result.get "evaluation_result").bind
        Json.Value.asStr).getD "failed").map Char.toUpper))),
      ("claim_results", .array (claims.map claimResult)),
      ("trust_chain_valid",
        .bool (!credentials.isEmpty && credentials.all (flag "trust_check_passed"))),
      ("revocation_checked", .bool checked),
      ("revocation_status", .string (if checked then
          if credentials.all (flag "not_revoked") then "VALID" else "REVOKED"
        else "UNKNOWN")),
      ("evaluated_at", .string evaluatedAt),
      ("verifier_nonce", .string ((nonce.bind Json.Value.asStr).getD ""))]),
    ("signature", .null)]

/-- What the callback says of an instance. -/
def callbackPayload (instanceRecord : FlowInstanceRecord) (policyId : String) :
    Submitted Json.Map := do
  let result ← okOr (instanceRecord.result.bind Json.Value.asObject) .serialization
  let evidence ← okOr (packages.payloadDigest (.object
    [("credential_results", (result.get "credential_results").getD (.array []))])) .serialization
  let payload : Json.Map := [("flow_instance_id", .string instanceRecord.id),
    ("result", (result.get "evaluation_result").getD .null),
    ("decision", (result.get "decision").getD .null),
    ("decision_reason", (result.get "decision_reason").getD .null),
    ("verified_claims", (result.get "verified_claims").getD .null),
    ("presentation_policy_id", .string policyId),
    ("completed_at", .ofOption (fun moment => .string (packages.flow.toRfc3339 moment))
      instanceRecord.completedAt),
    ("evidence_digest", .string evidence)]
  let digest ← okOr (packages.payloadDigest (.object payload)) .serialization
  pure (payload ++ [("decision_digest", .string digest)])

def callbackEventType : String := "flow.verification_completed"

def callbackAudience : String := "marty-auth-service"

def saturated (n : Nat) : Nat := min n (2 ^ 64 - 1)

/-- The destination that the context names. -/
def callbackUrl (instanceRecord : FlowInstanceRecord) : Option String :=
  ((instanceRecord.context.get "callback_url").bind Json.Value.asStr).filter (· ≠ "")

def buildCallback (options : VerificationSubmissionOptions) (instanceRecord : FlowInstanceRecord)
    (policyId : String) (now : Utc) : Submitted (Option Message) :=
  match callbackUrl instanceRecord with
  | none => .ok none
  | some destination => do
      rejectIf (options.callbackSecret.all (fun secret =>
        secret.utf8ByteSize < packages.minimumEventSecretBytes) = true) .callbackUnavailable
      let payload ← callbackPayload packages instanceRecord policyId
      let createdAtMs ← okOr (toU64 now.timestampMillis) .invalidClock
      rejectIf (Text.trim instanceRecord.id = "" ∨ Text.trim instanceRecord.organizationId = "" ∨
        packages.destinationAllowed instanceRecord.organizationId destination = false)
        .callbackUnavailable
      pure (some
        { messageId := instanceRecord.id
          correlationId := some instanceRecord.id
          tenantId := some instanceRecord.organizationId
          createdAtMs := createdAtMs
          scheduledAtMs := some createdAtMs
          expiresAtMs := some (saturated (createdAtMs +
            saturated (options.callbackRetentionSeconds * 1000)))
          headers := BTreeMap.ofEntries [("X-MIP-Audience", callbackAudience),
            ("X-MIP-Event", callbackEventType)]
          messageType := callbackEventType
          replyTo := some destination
          payload := .object payload })

/-- How long the nonce of an instance is kept. -/
def replayExpiry (instanceRecord : FlowInstanceRecord) (ttlSeconds : Nat) (now : Utc) :
    Option Nat := do
  let fallback ← if ttlSeconds < 2 ^ 63 then Utc.checkedAddSeconds now ttlSeconds else none
  toU64 (((instanceRecord.expiresAt.filter fun expiresAt => now < expiresAt).getD
    fallback).timestampMillis)

/-- An authenticated submission closes its instance. -/
def closeSubmission (options : VerificationSubmissionOptions)
    (instanceRecord : FlowInstanceRecord) (input : VerificationSubmissionInput)
    (request : PresentationEvaluationRequest) (evaluation : PresentationEvaluationResult)
    (messageId : String) (now : Utc) : Submitted PreparedVerificationFinalization := do
  let digest ← submissionDigest packages input
  let submission ← parsePresentationSubmission packages.toSubmissionPackages
    input.presentationSubmission
  let credentialResults ← okOr (publicContext (.array evaluation.credentialResults)).asArray
    .serialization
  let context ← okOr instanceRecord.context.asObject (.invalidContext "context")
  let closed ← closedContext packages context input request submission
  let result := resultDocument evaluation credentialResults digest
  let moved := closeStatus packages { instanceRecord with context := .object closed }
    "wallet_submission_received"
    (if finalAllowed evaluation then "verification_completed" else "verification_failed")
    (if finalAllowed evaluation then .completed else .failed) now
  let messages ← okOr ((closed.get "mip_messages").getD (.object [])).asObject
    (.invalidContext "mip_messages")
  let final := { moved with
    result := some (.object result)
    context := .object (closed.insert "mip_messages" (.object (messages.insert
      "verification_result" (resultMessage packages options moved result request.policyId
        messageId now)))) }
  let _ ← (final.kernel packages.flow).mapError .record
  let callback ← buildCallback packages options final request.policyId now
  let replayExpiresAtMs ← okOr (replayExpiry final options.nonceTtlSeconds now) .invalidClock
  pure ⟨final, packages.sha256Hex request.nonce, replayExpiresAtMs, instanceRecord.status,
    callback, digest⟩

/-- A submission that may be repeated. -/
def retryableResponse (instanceRecord : FlowInstanceRecord) (reason : String)
    (attempt : Option Value) (now : Utc) : Response :=
  { instanceId := instanceRecord.id
    status := publicStatus instanceRecord.status
    result := some "failed"
    decision := some "deny"
    decisionReason := some reason
    verifiedClaims := .object []
    credentialResults := []
    lastPresentationAttempt := attempt
    errorCodes := []
    warnings := []
    evaluationTimestamp := some (packages.flow.toRfc3339 now) }

def lastPresentationAttempt : String := "last_presentation_attempt"

/-- The instance after a submission that was not authenticated: the attempt is noted, or the one
before it removed; a repeated attempt is not noted in the history again. -/
def retryableSnapshot (instanceRecord : FlowInstanceRecord) (attempt : Option (Value × Bool))
    (now : Utc) : Submitted FlowInstanceRecord := do
  let result ← okOr (instanceRecord.result.getD (.object [])).asObject .serialization
  let noted := (attempt.map fun a => result.insert lastPresentationAttempt a.1).getD
    (result.remove lastPresentationAttempt)
  let snapshot := { instanceRecord with
    result := some (.object noted)
    stateHistory := if attempt.any (fun a => !a.2) then
        instanceRecord.stateHistory ++ [.object
          [("prior_state", instanceRecord.status.toValue),
            ("new_state", instanceRecord.status.toValue),
            ("timestamp", .string (packages.flow.toRfc3339 now)),
            ("actor", .string "wallet_submission"),
            ("event", .string "verification_submission_rejected"), ("retryable", .bool true)]]
      else instanceRecord.stateHistory
    updatedAt := max now (instanceRecord.updatedAt + 1000) }
  let _ ← (snapshot.kernel packages.flow).mapError .record
  pure snapshot

/-! ## Self-issued identities -/

structure SiopVerificationResponse where
  status : String
  sub : String
  nonce : String
  subjectSyntaxType : String
  deriving DecidableEq

inductive FlowSiopSubmissionError
  | record (error : FlowRecordError)
  | invalidState
  | invalidTransaction
  | invalidContext (field : String)
  /-- The token, or one of its claims. -/
  | refused (reason : String)
  | serialization
  | invalidClock
  deriving DecidableEq

/-- A token that was verified against the nonce, the audience and the times of an instance. -/
structure VerifiedIdToken where
  subject : String
  signingAlgorithm : String

inductive PreparedSiopSubmission
  | final (finalization : PreparedVerificationFinalization) (response : SiopVerificationResponse)
  | expired (instanceRecord : FlowInstanceRecord)
  | sameTerminal (response : SiopVerificationResponse)
  | replayConflict

def requiredText (entries : Json.Map) (field : String) :
    Except FlowSiopSubmissionError String :=
  okOr (((entries.get field).bind Json.Value.asStr).filter (· ≠ "")) (.invalidContext field)

def terminalResponse (instanceRecord : FlowInstanceRecord) :
    Except FlowSiopSubmissionError SiopVerificationResponse := do
  let result ← okOr (instanceRecord.result.bind Json.Value.asObject) (.invalidContext "result")
  let subject ← requiredText result "subject"
  let context ← okOr instanceRecord.context.asObject (.invalidContext "context")
  let nonce ← requiredText context "nonce"
  pure ⟨"verified", subject, nonce, ((result.get "subject_syntax_type").bind
    Json.Value.asStr).getD packages.jwkThumbprintSubjectPrefix⟩

def storedDigest (instanceRecord : FlowInstanceRecord) : Option String :=
  instanceRecord.result.bind fun value => (value.get "submission_digest").bind Json.Value.asStr

/-- An instance that is open has no submission that decided it. -/
def DigestAtEnd (instanceRecord : FlowInstanceRecord) : Prop :=
  instanceRecord.status.isTerminal = false → storedDigest instanceRecord = none

instance (instanceRecord : FlowInstanceRecord) : Decidable (DigestAtEnd instanceRecord) :=
  inferInstanceAs (Decidable (_ → _))

/-- `prepare_siop_submission`, with the answer of the verifier of the token. -/
def prepareSiopSubmission (instanceRecord : FlowInstanceRecord) (idToken : String)
    (nonceTtlSeconds : Nat) (verified : Except FlowSiopSubmissionError VerifiedIdToken)
    (now : Utc) : Except FlowSiopSubmissionError PreparedSiopSubmission := do
  let context ← okOr instanceRecord.context.asObject (.invalidContext "context")
  rejectIf ((context.get "flow_type").bind Json.Value.asStr ≠ some "siop_v2") .invalidTransaction
  let digest ← okOr (packages.payloadDigest (.object [("id_token", .string idToken)]))
    .serialization
  if instanceRecord.status = .completed ∨ instanceRecord.status = .failed then
    if storedDigest instanceRecord = some digest then
      let response ← terminalResponse packages instanceRecord
      pure (.sameTerminal response)
    else pure .replayConflict
  else if ∃ expiresAt ∈ instanceRecord.expiresAt, expiresAt ≤ now then
    let moved := submissionTransition packages.flow instanceRecord .expired
      "siop_submission_expired" now
    let expired := { moved with error := some "siop_submission_expired" }
    let _ ← (expired.kernel packages.flow).mapError .record
    pure (.expired expired)
  else if isOpenStatus instanceRecord.status = false then throw .invalidState
  else
    let nonce ← requiredText context "nonce"
    let _ ← requiredText context "siop_client_id"
    let token ← verified
    let final := { closeStatus packages instanceRecord "siop_submission_received"
        "siop_verification_completed" .completed now with
      subjectId := some token.subject
      result := some (.object [("evaluation_result", .string "passed"),
        ("decision", .string "allow"), ("subject", .string token.subject),
        ("subject_syntax_type", .string packages.jwkThumbprintSubjectPrefix),
        ("signing_algorithm", .string token.signingAlgorithm),
        ("claims_trust", .string "self_attested"), ("submission_digest", .string digest)]) }
    let _ ← (final.kernel packages.flow).mapError .record
    let response ← terminalResponse packages final
    let replayExpiresAtMs ← okOr (replayExpiry final nonceTtlSeconds now) .invalidClock
    pure (.final ⟨final, packages.sha256Hex nonce, replayExpiresAtMs, instanceRecord.status, none,
      digest⟩ response)

end

/-! ## The steps -/

inductive Submission
  | oid4vp (input : VerificationSubmissionInput) (permitTerminalReplay : Bool)
  | siop (idToken : String)

inductive Answer
  | verification (response : Response)
  | siop (response : SiopVerificationResponse)

inductive SubmissionFailure
  | notFound
  | expired
  | alreadyProcessed
  | replayConflict
  | requestConflict
  | submission (error : FlowVerificationSubmissionError)
  | siop (error : FlowSiopSubmissionError)
  | record (error : FlowRecordError)
  | repository (error : RepositoryError)
  deriving DecidableEq

/-- Where a submission stands. -/
inductive SubmissionCall
  | idle
  | read (submission : Submission) (instanceRecord : FlowInstanceRecord)
  | evaluating (input : VerificationSubmissionInput) (permitTerminalReplay : Bool)
      (instanceRecord : FlowInstanceRecord) (request : PresentationEvaluationRequest) (now : Utc)
  | finalizing (submission : Submission) (finalization : PreparedVerificationFinalization)
      (answer : Answer)
  /-- The instance is stored as it is, and the outcome follows. -/
  | swapping (instanceRecord : FlowInstanceRecord) (expectedStatus : FlowInstanceStatus)
      (expectedUpdatedAt : Utc) (outcome : Except SubmissionFailure Response)
      (conflict : SubmissionFailure)
  | overtaken (submission : Submission) (finalization : PreparedVerificationFinalization)
  | answered (instanceId : String) (answer : Answer)
  | retryable (response : Response)
  | failed (failure : SubmissionFailure)

/-- What the dispatchers write of a callback. -/
structure DeliveryColumns where
  status : CallbackStatus
  attemptCount : Nat
  nextAttemptAt : DateTime
  leaseToken : Option String
  leaseExpiresAt : Option DateTime
  lastErrorCode : Option String
  deliveredAt : Option DateTime
  /-- The row is past its retention and emptied. -/
  swept : Bool

def dispatched (columns : DeliveryColumns) (row : CallbackRow) : CallbackRow :=
  { row with
    status := columns.status
    attemptCount := columns.attemptCount
    nextAttemptAt := columns.nextAttemptAt
    leaseToken := columns.leaseToken
    leaseExpiresAt := columns.leaseExpiresAt
    lastErrorCode := columns.lastErrorCode
    deliveredAt := columns.deliveredAt
    destinationUrl := if columns.swept then "" else row.destinationUrl
    payload := if columns.swept then .object [] else row.payload }

inductive SubmissionInput
  | submit (submission : Submission) (instanceId : String)
  /-- The submission is prepared; the token of a self-issued identity was verified. -/
  | prepare (clock : Utc) (verified : Except FlowSiopSubmissionError VerifiedIdToken)
  /-- The policy decides, or does not; the attempt is what is noted of a rejection, and whether it
  repeats the one before it. -/
  | evaluate (evaluation : Except String PresentationEvaluationResult)
      (attempt : Option (Value × Bool)) (messageId : String)
  | commit (clock : StatementClock) (learnt : Bool)
  | swap (learnt : Bool)
  | reread (clock : Utc) (verified : Except FlowSiopSubmissionError VerifiedIdToken)
  | fail (error : RepositoryError)
  | start (instanceRecord : FlowInstanceRecord)
  /-- A retrieval, an advance or an expiry stores what it has made of an instance. -/
  | store (instanceRecord : FlowInstanceRecord) (expectedStatus : FlowInstanceStatus)
      (expectedUpdatedAt : Utc)
  | replace (instanceRecord : FlowInstanceRecord) (expectedUpdatedAt : Utc) (inserted : Bool)
  | cancel (id actor : String) (now : Utc)
  | dispatch (eventId : String) (columns : DeliveryColumns)

section

variable (packages : ClosingPackages) (options : VerificationSubmissionOptions)

/-- The clock of a submission is past the version that it has read. -/
def submissionNow (clock : Utc) (instanceRecord : FlowInstanceRecord) : Utc :=
  max clock (instanceRecord.updatedAt + 1000)

def projection (instanceRecord : FlowInstanceRecord) : Except FlowRecordError Response :=
  instanceRecord.verificationProjection packages.flow packages.attempt

/-- The terminal result of an instance, for a submission that may see it again. -/
def replayed (id : String) (permitTerminalReplay : Bool) (response : Response) : SubmissionCall :=
  if permitTerminalReplay then .answered id (.verification response)
  else .failed .alreadyProcessed

def prepareOid4vp (input : VerificationSubmissionInput) (permitTerminalReplay : Bool)
    (instanceRecord : FlowInstanceRecord) (now : Utc) : SubmissionCall :=
  match prepareVerificationSubmission packages.toSubmissionPackages (projection packages)
      instanceRecord input now with
  | .error e => .failed (.submission e)
  | .ok (.sameTerminal response) => replayed instanceRecord.id permitTerminalReplay response
  | .ok .replayConflict => .failed .replayConflict
  | .ok (.expired expired) =>
      .swapping expired instanceRecord.status instanceRecord.updatedAt (.error .expired)
        .replayConflict
  | .ok (.evaluates request) => .evaluating input permitTerminalReplay instanceRecord request now

/-- The step after a self-issued identity was prepared. -/
def siopStep (idToken : String) (instanceRecord : FlowInstanceRecord) :
    PreparedSiopSubmission → SubmissionCall
  | .final finalization response => .finalizing (.siop idToken) finalization (.siop response)
  | .expired expired =>
      .swapping expired instanceRecord.status instanceRecord.updatedAt (.error .expired)
        .replayConflict
  | .sameTerminal response => .answered instanceRecord.id (.siop response)
  | .replayConflict => .failed .replayConflict

def prepareStep (submission : Submission) (instanceRecord : FlowInstanceRecord) (clock : Utc)
    (verified : Except FlowSiopSubmissionError VerifiedIdToken) : SubmissionCall :=
  let now := submissionNow clock instanceRecord
  match submission with
  | .oid4vp input permit => prepareOid4vp packages input permit instanceRecord now
  | .siop idToken =>
      match prepareSiopSubmission packages instanceRecord idToken options.nonceTtlSeconds verified
          now with
      | .error e => .failed (.siop e)
      | .ok prepared => siopStep idToken instanceRecord prepared

/-- A submission whose credentials are not authenticated may be repeated. -/
def rejectStep (instanceRecord : FlowInstanceRecord) (evaluation : PresentationEvaluationResult)
    (attempt : Option (Value × Bool)) (now : Utc) : SubmissionCall :=
  let response := retryableResponse packages instanceRecord
    (evaluation.decisionReason.getD "Presentation authentication failed") (attempt.map Prod.fst) now
  if attempt.isNone ∧
      (instanceRecord.result.bind (·.get lastPresentationAttempt)).isNone then .retryable response
  else
    match retryableSnapshot packages instanceRecord attempt now with
    | .error e => .failed (.submission e)
    | .ok snapshot => .swapping snapshot instanceRecord.status instanceRecord.updatedAt
        (.ok response) .requestConflict

/-- The verifier that a result is sent by is the client of the request, or else the default. -/
def submissionOptions (instanceRecord : FlowInstanceRecord) : VerificationSubmissionOptions :=
  { options with
    verifierSenderId := ((instanceRecord.context.get "oid4vp_client_id").bind
      Json.Value.asStr).getD options.verifierSenderId }

def decideStep (input : VerificationSubmissionInput) (permitTerminalReplay : Bool)
    (instanceRecord : FlowInstanceRecord) (request : PresentationEvaluationRequest)
    (evaluation : PresentationEvaluationResult) (attempt : Option (Value × Bool))
    (messageId : String) (now : Utc) : SubmissionCall :=
  if Text.trim evaluation.result = "" then
    .retryable (retryableResponse packages instanceRecord
      "Policy service returned no verification decision" none now)
  else if authenticated evaluation = false then
    rejectStep packages instanceRecord evaluation attempt now
  else
    match closeSubmission packages (submissionOptions options instanceRecord) instanceRecord input
        request evaluation messageId now with
    | .error e => .failed (.submission e)
    | .ok finalization =>
        match projection packages finalization.instanceRecord with
        | .error e => .failed (.record e)
        | .ok response => .finalizing (.oid4vp input permitTerminalReplay) finalization
            (.verification response)

/-- A submission that has lost looks at what is stored. -/
def rereadStep (s : VerificationStore) (submission : Submission)
    (finalization : PreparedVerificationFinalization) (clock : Utc)
    (verified : Except FlowSiopSubmissionError VerifiedIdToken) : SubmissionCall :=
  match s.instances.get finalization.instanceRecord.id, submission with
  | none, _ => .failed .notFound
  | some current, .oid4vp _ permit =>
      if storedDigest current = some finalization.submissionDigest then
        match projection packages current with
        | .error e => if permit then .failed (.record e) else .failed .alreadyProcessed
        | .ok response => replayed current.id permit response
      else .failed .replayConflict
  | some current, .siop idToken =>
      match prepareSiopSubmission packages current idToken options.nonceTtlSeconds verified
          clock with
      | .error e => .failed (.siop e)
      | .ok (.sameTerminal response) => .answered current.id (.siop response)
      | .ok _ => .failed .replayConflict

/-- The steps of a submission that leave the tables as they are. -/
def readingStep (s : VerificationStore) : SubmissionCall → SubmissionInput → Option SubmissionCall
  | .idle, .submit submission id =>
      some ((s.instances.get id).elim (.failed .notFound) (.read submission))
  | .read submission instanceRecord, .prepare clock verified =>
      some (prepareStep packages options submission instanceRecord clock verified)
  | .evaluating _ _ instanceRecord _ now, .evaluate (.error reason) _ _ =>
      some (.retryable (retryableResponse packages instanceRecord
        ("Policy service unavailable: " ++ reason) none now))
  | .evaluating input permit instanceRecord request now,
      .evaluate (.ok evaluation) attempt messageId =>
      some (decideStep packages options input permit instanceRecord request evaluation attempt
        messageId now)
  | .overtaken submission finalization, .reread clock verified =>
      some (rereadStep packages options s submission finalization clock verified)
  | .idle, .fail e | .read _ _, .fail e | .finalizing _ _ _, .fail e | .swapping _ _ _ _ _, .fail e
  | .overtaken _ _, .fail e => some (.failed (.repository e))
  | _, _ => none

def unlearnt : SubmissionCall := .failed (.repository (.storage "connection lost"))

def swapped : Except SubmissionFailure Response → SubmissionCall
  | .ok response => .retryable response
  | .error e => .failed e

/-- The operations of a submission on the tables. -/
def writingStep (s : VerificationStore) : SubmissionCall → SubmissionInput →
    Option (VerificationStore × SubmissionCall)
  | .finalizing submission finalization answer, .commit clock learnt =>
      if clock.reads 0 < s.clock then none
      else
        match finalizeVerification packages.flow s clock finalization with
        | .error e => some (s, .failed (.repository e))
        | .ok (false, s') => some (s', .overtaken submission finalization)
        | .ok (true, s') => some (s', if learnt then
            .answered finalization.instanceRecord.id answer else unlearnt)
  | .swapping instanceRecord expectedStatus expectedUpdatedAt outcome conflict, .swap learnt =>
      match compareAndSwapInstance packages.flow s instanceRecord expectedStatus
          expectedUpdatedAt with
      | .error e => some (s, .failed (.repository e))
      | .ok (stored, s') => some (s', if learnt then
          if stored then swapped outcome else .failed conflict else unlearnt)
  | _, _ => none

/-- What the other writers of instances and callbacks leave; one that fails leaves the tables.
None of them notes a submission before the instance has ended. -/
def SubmissionInput.apply (s : VerificationStore) : SubmissionInput → Option VerificationStore
  | .start instanceRecord =>
      if DigestAtEnd instanceRecord then some (saveStartedInstance s instanceRecord) else none
  | .store instanceRecord expectedStatus expectedUpdatedAt =>
      if DigestAtEnd instanceRecord then
        some (match compareAndSwapInstance packages.flow s instanceRecord expectedStatus
            expectedUpdatedAt with
          | .ok stored => stored.2
          | .error _ => s)
      else none
  | .replace instanceRecord expectedUpdatedAt inserted =>
      some (match replaceActiveArtifacts packages.flow s instanceRecord expectedUpdatedAt
          inserted with
        | .ok replaced => replaced.2
        | .error _ => s)
  | .cancel id actor now => some (cancelInstance packages.flow s id actor now)
  | .dispatch eventId columns => some (match s.outbox.get eventId with
      | none => s
      | some row => { s with outbox := s.outbox.insert eventId (dispatched columns row) })
  | _ => none

def submissionStep (input : SubmissionInput) (s : VerificationStore) (call : SubmissionCall) :
    Option (VerificationStore × SubmissionCall) :=
  match input.apply packages s with
  | some s' => some (s', call)
  | none =>
      (writingStep packages s call input).or
        ((readingStep packages options s call input).map fun call => (s, call))

def submissionMachine (ι : Type) :
    Machine VerificationStore ι SubmissionInput SubmissionCall where
  step _ input s call := submissionStep packages options input s call

end

end Marty.Flow.Finalization
