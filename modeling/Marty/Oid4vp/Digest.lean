import Marty.Oid4vp.Types
import Marty.Lib.Checked

/-!
# Contracts as JSON, and their digests

The JSON value that each contract is written as, and the domain separated digests of
these values.  The canonical digest of a JSON document, the parser of URLs and percent
decoding belong to other packages and are parameters.

## Main definitions

* `FrozenOid4vpRequestV1.toValue`, `WalletSubmissionV1.toValue`,
  `Oid4vpEvidenceProjectionV1.toValue` — what is serialized.
* `Packages` — the operations of other packages.
* `digestDomainJson` and the digests made from it.
-/

namespace Marty.Oid4vp

open Lib Lib.Checked
open Json.Value (ofNat ofInt ofStrings ofOption)

/-! ## Serialization -/

def TextMap.toValue {β : Type} (f : β → Value) (m : TextMap β) : Value :=
  .object (m.entries.map fun e => (e.1, f e.2))

/-- A field that may be absent is written as `null`. -/
def ofText (text : Option String) : Value := ofOption .string text

/-- A map of values is written as it is. -/
def ofValues (m : TextMap Value) : Value := .object m.entries

def ofTime (time : Option Int) : Value := ofOption ofInt time

def VpToken.toValue : VpToken → Value
  | .single token => .string token
  | .byQuery tokens => TextMap.toValue ofStrings tokens

def PresentationDescriptor.toValue : PresentationDescriptor → Value
  | ⟨id, format, path, none⟩ =>
      .object [("id", .string id), ("format", .string format), ("path", .string path),
        ("path_nested", .null)]
  | ⟨id, format, path, some nested⟩ =>
      .object [("id", .string id), ("format", .string format), ("path", .string path),
        ("path_nested", nested.toValue)]

def PresentationSubmission.toValue (submission : PresentationSubmission) : Value :=
  .object [("id", .string submission.id), ("definition_id", .string submission.definitionId),
    ("descriptor_map", .array (submission.descriptorMap.map PresentationDescriptor.toValue))]

def WalletSubmissionV1.toValue (submission : WalletSubmissionV1) : Value :=
  .object [("contract", .string "marty.oid4vp-wallet-submission/v1"),
    ("vp_token", submission.vpToken.toValue),
    ("presentation_submission",
      ofOption PresentationSubmission.toValue submission.presentationSubmission),
    ("state", ofText submission.state)]

def QueryKind.name : QueryKind → String
  | .dcql => "dcql"
  | .presentationExchange => "presentation_exchange"

def CredentialStatusMode.name : CredentialStatusMode → String
  | .required => "required"
  | .allowAbsent => "allow_absent"

def EvidenceProfileReference.toValue (profile : EvidenceProfileReference) : Value :=
  .object [("id", .string profile.id), ("version", ofNat profile.version),
    ("content_digest", .string profile.contentDigest)]

def FrozenAlternativeRequirementGroup.toValue (group : FrozenAlternativeRequirementGroup) :
    Value :=
  .object [("id", .string group.id), ("requirement_ids", ofStrings group.requirementIds),
    ("min_satisfied", ofNat group.minSatisfied)]

def FrozenPolicyReference.toValue (policy : FrozenPolicyReference) : Value :=
  .object [("id", .string policy.id), ("version", ofNat policy.version),
    ("content_digest", .string policy.contentDigest),
    ("trust_profile", policy.trustProfile.toValue),
    ("max_trust_age_seconds", ofNat policy.maxTrustAgeSeconds),
    ("presentation_proof_required", .bool policy.presentationProofRequired),
    ("alternative_requirement_groups",
      .array (policy.alternativeRequirementGroups.map
        FrozenAlternativeRequirementGroup.toValue))]

/-- The claim paths are left out when there are none. -/
def FrozenCredentialRequirement.toValue (requirement : FrozenCredentialRequirement) : Value :=
  .object ([("id", .string requirement.id),
    ("accepted_formats", ofStrings requirement.acceptedFormats),
    ("format_options", ofValues requirement.formatOptions),
    ("accepted_algorithms", TextMap.toValue ofStrings requirement.acceptedAlgorithms),
    ("accepted_type_sets", .array (requirement.acceptedTypeSets.map ofStrings)),
    ("required_claims", ofStrings requirement.requiredClaims),
    ("allowed_claims", ofStrings requirement.allowedClaims),
    ("retained_claims", ofStrings requirement.retainedClaims)] ++
    (if requirement.dcqlClaimPaths.entries.isEmpty then []
      else [("dcql_claim_paths", TextMap.toValue ofStrings requirement.dcqlClaimPaths)]) ++
    [("required", .bool requirement.required),
    ("min_credentials", ofNat requirement.minCredentials),
    ("max_credentials", ofNat requirement.maxCredentials),
    ("status", .object [("mode", .string requirement.status.mode.name),
      ("max_age_seconds", ofNat requirement.status.maxAgeSeconds)])])

def FrozenQuery.toValue (query : FrozenQuery) : Value :=
  .object [("kind", .string query.kind.name), ("document", query.document),
    ("document_digest", .string query.documentDigest),
    ("requirements", .array (query.requirements.map FrozenCredentialRequirement.toValue))]

def FrozenOid4vpRequestV1.toValue (request : FrozenOid4vpRequestV1) : Value :=
  .object [("contract", .string "marty.oid4vp-frozen-request/v1"),
    ("session_id", .string request.sessionId),
    ("organization_id", .string request.organizationId),
    ("initiating_principal_id", .string request.initiatingPrincipalId),
    ("policy", request.policy.toValue), ("query", request.query.toValue),
    ("verifier", .object [("client_id", .string request.verifier.clientId),
      ("response_uri", .string request.verifier.responseUri)]),
    ("nonce", .string request.nonce), ("expected_state", .string request.expectedState),
    ("issued_at_epoch_seconds", ofInt request.issuedAtEpochSeconds),
    ("expires_at_epoch_seconds", ofInt request.expiresAtEpochSeconds)]

def EvidenceProcessingStatus.name : EvidenceProcessingStatus → String
  | .complete => "complete"
  | .incomplete => "incomplete"

def Oid4vpCheckId.name : Oid4vpCheckId → String
  | .presentationStructure => "presentation.structure"
  | .presentationProof => "presentation.proof"
  | .credentialProof => "credential.proof"
  | .issuerTrust => "issuer.trust"
  | .credentialStatus => "credential.status"
  | .holderBinding => "holder.binding"
  | .transactionBinding => "transaction.binding"
  | .claimConstraints => "claim.constraints"

def EvidenceCheckOutcome.name : EvidenceCheckOutcome → String
  | .passed => "passed"
  | .failed => "failed"
  | .indeterminate => "indeterminate"

def CredentialStatusState.name : CredentialStatusState → String
  | .active => "active"
  | .revoked => "revoked"
  | .suspended => "suspended"
  | .expired => "expired"
  | .unknown => "unknown"
  | .stale => "stale"
  | .notPresent => "not_present"

def AuthenticatedResult.name : AuthenticatedResult → String
  | .passed => "passed"
  | .partialResult => "partial"
  | .failed => "failed"
  | .indeterminate => "indeterminate"

def AuthenticatedDecisionAction.name : AuthenticatedDecisionAction → String
  | .allow => "allow"
  | .deny => "deny"
  | .manualReview => "manual_review"

def ofOutcome (outcome : EvidenceCheckOutcome) : Value := .string outcome.name

def Oid4vpCheckEvidence.toValue (check : Oid4vpCheckEvidence) : Value :=
  .object [("check_id", .string check.checkId.name), ("outcome", ofOutcome check.outcome),
    ("code", .string check.code)]

def EvidenceFact.toValue (fact : EvidenceFact) : Value :=
  .object [("outcome", ofOutcome fact.outcome), ("code", .string fact.code),
    ("evidence_digest", ofText fact.evidenceDigest),
    ("checked_at_epoch_seconds", ofTime fact.checkedAtEpochSeconds)]

def AuthenticatedTrustEvidence.toValue (trust : AuthenticatedTrustEvidence) : Value :=
  .object [("outcome", ofOutcome trust.outcome), ("profile", trust.profile.toValue),
    ("trust_levels", ofStrings trust.trustLevels),
    ("compliance_statuses", ofStrings trust.complianceStatuses),
    ("accreditations", ofStrings trust.accreditations),
    ("checked_at_epoch_seconds", ofInt trust.checkedAtEpochSeconds),
    ("evidence_digest", .string trust.evidenceDigest)]

def AuthenticatedStatusEvidence.toValue (status : AuthenticatedStatusEvidence) : Value :=
  .object [("outcome", ofOutcome status.outcome), ("state", .string status.state.name),
    ("checked_at_epoch_seconds", ofTime status.checkedAtEpochSeconds),
    ("valid_until_epoch_seconds", ofTime status.validUntilEpochSeconds),
    ("evidence_digest", ofText status.evidenceDigest)]

def AuthenticatedCredentialEvidence.toValue (credential : AuthenticatedCredentialEvidence) :
    Value :=
  .object [("credential_id", .string credential.credentialId),
    ("query_id", .string credential.queryId),
    ("response_token_digest", .string credential.responseTokenDigest),
    ("format", .string credential.format),
    ("authenticated_type_or_vct", ofStrings credential.authenticatedTypeOrVct),
    ("claims", ofValues credential.claims),
    ("issuer_id", .string credential.issuerId),
    ("proof_algorithm", .string credential.proofAlgorithm),
    ("issued_at_epoch_seconds", ofInt credential.issuedAtEpochSeconds),
    ("expires_at_epoch_seconds", ofTime credential.expiresAtEpochSeconds),
    ("status_ids", ofStrings credential.statusIds), ("proof", credential.proof.toValue),
    ("trust", credential.trust.toValue), ("status", credential.status.toValue)]

def HolderBindingEvidence.toValue (holder : HolderBindingEvidence) : Value :=
  .object [("outcome", ofOutcome holder.outcome), ("method", ofText holder.method),
    ("proof_profile", ofText holder.proofProfile),
    ("evidence_digest", ofText holder.evidenceDigest),
    ("checked_at_epoch_seconds", ofTime holder.checkedAtEpochSeconds),
    ("code", .string holder.code)]

def DigestBindingEvidence.toValue (binding : DigestBindingEvidence) : Value :=
  .object [("expected_digest", .string binding.expectedDigest),
    ("observed_digest", ofText binding.observedDigest), ("outcome", ofOutcome binding.outcome),
    ("code", .string binding.code)]

def ReplayEvidence.toValue (replay : ReplayEvidence) : Value :=
  .object [("replay_key_digest", .string replay.replayKeyDigest),
    ("outcome", ofOutcome replay.outcome), ("code", .string replay.code),
    ("consumed_at_epoch_seconds", ofTime replay.consumedAtEpochSeconds),
    ("receipt_digest", ofText replay.receiptDigest)]

def AuthenticatedBindingEvidence.toValue (binding : AuthenticatedBindingEvidence) : Value :=
  .object [("holder", binding.holder.toValue), ("challenge", binding.challenge.toValue),
    ("audience", binding.audience.toValue), ("replay", binding.replay.toValue)]

def AuthenticatedPolicyResultV1.toValue (result : AuthenticatedPolicyResultV1) : Value :=
  .object [("policy", .object [("id", .string result.policy.id),
      ("version", ofNat result.policy.version),
      ("content_digest", .string result.policy.contentDigest)]),
    ("result", .string result.result.name), ("decision", .string result.decision.name),
    ("reason_code", .string result.reasonCode),
    ("evaluated_credential_ids", ofStrings result.evaluatedCredentialIds),
    ("total_requirements", ofNat result.totalRequirements),
    ("satisfied_requirements", ofNat result.satisfiedRequirements),
    ("required_total", ofNat result.requiredTotal),
    ("required_satisfied", ofNat result.requiredSatisfied),
    ("verified_claims", ofValues result.verifiedClaims),
    ("violation_codes", ofStrings result.violationCodes),
    ("evaluation_time_epoch_seconds", ofInt result.evaluationTimeEpochSeconds)]

def Oid4vpEvidenceProjectionV1.toValue (projection : Oid4vpEvidenceProjectionV1) : Value :=
  .object [("contract", .string "marty.oid4vp-evidence-projection/v1"),
    ("request_digest", .string projection.requestDigest),
    ("response_digest", .string projection.responseDigest),
    ("processing_status", .string projection.processingStatus.name),
    ("checks", .array (projection.checks.map Oid4vpCheckEvidence.toValue)),
    ("presentation", .object [("structure", projection.presentation.structureFact.toValue),
      ("proof", projection.presentation.proof.toValue)]),
    ("credentials",
      .array (projection.credentials.map AuthenticatedCredentialEvidence.toValue)),
    ("binding", projection.binding.toValue),
    ("policy_result", projection.policyResult.toValue),
    ("decision", .object [("result", .string projection.decision.result.name),
      ("decision", .string projection.decision.decision.name),
      ("reason_code", .string projection.decision.reasonCode)])]

/-! ## Other packages -/

structure Url where
  scheme : String
  host : Option String

/-- What the contracts take from other packages: the canonical digest of a JSON document,
the parser of URLs, and percent decoding to a text, which fails when the bytes are not
UTF-8. -/
structure Packages where
  canonicalDigestJson : Value → Option String
  parseUrl : String → Option Url
  percentDecodeUtf8 : String → Option String

/-! ## Digests -/

def queryDocumentDigestDomain : String := "marty.oid4vp/query-document/v1"
def frozenRequestDigestDomain : String := "marty.oid4vp/frozen-request/v1"
def walletSubmissionDigestDomain : String := "marty.oid4vp/wallet-submission/v1"
def responseItemDigestDomain : String := "marty.oid4vp/response-item/v1"
def nonceDigestDomain : String := "marty.oid4vp/nonce/v1"
def audienceDigestDomain : String := "marty.oid4vp/audience/v1"
def replayKeyDigestDomain : String := "marty.oid4vp/replay-key/v1"

section

variable (packages : Packages)

/-- The digest of a value within the envelope that names its domain. -/
def digestDomainJson (domain : String) (value : Value) : Validated String :=
  okOr (packages.canonicalDigestJson (.object [("domain", .string domain), ("value", value)]))
    .serialization

def digestQueryDocument (value : Value) : Validated String :=
  digestDomainJson packages queryDocumentDigestDomain value

def digestFrozenRequest (request : FrozenOid4vpRequestV1) : Validated String :=
  digestDomainJson packages frozenRequestDigestDomain request.toValue

def digestWalletSubmission (submission : WalletSubmissionV1) : Validated String :=
  digestDomainJson packages walletSubmissionDigestDomain submission.toValue

def digestResponseItem (token queryId selector : String) : Validated String :=
  digestDomainJson packages responseItemDigestDomain
    (.object [("query_id", .string queryId), ("selector", .string selector),
      ("token", .string token)])

def digestNonce (value : String) : Validated String :=
  digestDomainJson packages nonceDigestDomain (.string value)

def digestAudience (value : String) : Validated String :=
  digestDomainJson packages audienceDigestDomain (.string value)

def digestReplayKey (requestDigest responseDigest : String) : Validated String :=
  digestDomainJson packages replayKeyDigestDomain
    (.object [("request_digest", .string requestDigest),
      ("response_digest", .string responseDigest)])

end

end Marty.Oid4vp
