import Marty.Lib.BTree
import Marty.Lib.Json
import Mathlib.Data.String.Basic

/-!
# The contracts of a wallet presentation

What the server freezes before it asks a wallet for a presentation, what the wallet
answers, and what a verifier projects about the answer.  Text keyed maps are ordered
maps, times are seconds of the epoch, and the sixteen and thirty-two bit counters are
natural numbers.

## Main definitions

* `FrozenOid4vpRequestV1` — the request, with its policy and its typed query.
* `WalletSubmissionV1` — the public wallet input.
* `Oid4vpEvidenceProjectionV1` — checks, facts, credentials, bindings and decision.
* `Oid4vpContractError` — the ways in which a contract is refused.
-/

namespace Marty.Oid4vp

open Lib

abbrev Value := Json.Value
abbrev TextMap (β : Type) := BTreeMap String β
abbrev TextSet := BTreeSet String

/-! ## Limits -/

def maxWalletSubmissionBytes : Nat := 1048576
def maxFrozenRequestBytes : Nat := 262144
def maxEvidenceProjectionBytes : Nat := 1048576
def maxIdentifierBytes : Nat := 255
def maxCodeBytes : Nat := 255
def maxTokenBytes : Nat := 262144
def minTokenBytes : Nat := 16
def maxQueryDocumentBytes : Nat := 131072
def maxQueryRequirements : Nat := 64
def maxTokens : Nat := 64
def maxCredentials : Nat := 64
def maxClaimsPerCredential : Nat := 128
def maxClaimValueBytes : Nat := 16384
def maxJsonDepth : Nat := 16
def maxDescriptorDepth : Nat := 8
def maxRequestLifetimeSeconds : Nat := 7200
def maxStatusValiditySeconds : Nat := 86400
def maxEvidenceListItems : Nat := 128
def minNonceBytes : Nat := 32
def maxPrivacyPercentDecodeLayers : Nat := 3
def maxPrivacyBase64DecodeLayers : Nat := 2
def maxPrivacyNormalizationSteps : Nat :=
  maxPrivacyPercentDecodeLayers + maxPrivacyBase64DecodeLayers
def maxPrivacyNormalizationStates : Nat := 64
def maxPrivacyNormalizedBytes : Nat := maxClaimValueBytes
def maxPrivacyFragmentBytes : Nat := maxEvidenceProjectionBytes
def maxPrivacyFragmentParts : Nat := maxCredentials * maxClaimsPerCredential * 2

inductive Oid4vpContractError
  | serialization
  | sizeLimit (field : String)
  | invalidField (field : String)
  | invalidDigest (field : String)
  | invalidQueryDocument
  | queryDigestMismatch
  | invalidLifetime
  | stateMismatch
  | queryCoverageMismatch
  | presentationDefinitionMismatch
  | requestDigestMismatch
  | responseDigestMismatch
  | checkInventoryMismatch
  | checkEvidenceMismatch
  | bindingMismatch
  | credentialBindingMismatch
  | trustEvidenceMismatch
  | statusEvidenceMismatch
  | decisionMismatch
  | privacyViolation
  deriving DecidableEq, Repr

abbrev Validated := Except Oid4vpContractError

/-! ## The wallet submission -/

inductive VpToken
  | single (token : String)
  | byQuery (tokens : TextMap (List String))

structure PresentationDescriptor where
  id : String
  format : String
  path : String
  pathNested : Option PresentationDescriptor

structure PresentationSubmission where
  id : String
  definitionId : String
  descriptorMap : List PresentationDescriptor

/-- The complete public wallet input. -/
structure WalletSubmissionV1 where
  vpToken : VpToken
  presentationSubmission : Option PresentationSubmission
  state : Option String

/-! ## The frozen request -/

inductive QueryKind
  | dcql
  | presentationExchange
  deriving DecidableEq, Repr

inductive CredentialStatusMode
  | required
  | allowAbsent
  deriving DecidableEq, Repr

structure EvidenceProfileReference where
  id : String
  version : Nat
  contentDigest : String
  deriving DecidableEq, Repr

structure FrozenAlternativeRequirementGroup where
  id : String
  requirementIds : List String
  minSatisfied : Nat

structure FrozenPolicyReference where
  id : String
  version : Nat
  contentDigest : String
  trustProfile : EvidenceProfileReference
  maxTrustAgeSeconds : Nat
  presentationProofRequired : Bool
  alternativeRequirementGroups : List FrozenAlternativeRequirementGroup

structure FrozenStatusPolicy where
  mode : CredentialStatusMode
  maxAgeSeconds : Nat

structure FrozenCredentialRequirement where
  id : String
  acceptedFormats : List String
  formatOptions : TextMap Value
  acceptedAlgorithms : TextMap (List String)
  acceptedTypeSets : List (List String)
  requiredClaims : List String
  allowedClaims : List String
  retainedClaims : List String
  dcqlClaimPaths : TextMap (List String)
  required : Bool
  minCredentials : Nat
  maxCredentials : Nat
  status : FrozenStatusPolicy

structure FrozenQuery where
  kind : QueryKind
  document : Value
  documentDigest : String
  requirements : List FrozenCredentialRequirement

structure FrozenVerifier where
  clientId : String
  responseUri : String

/-- Authority frozen by the server before it accepts a wallet response. -/
structure FrozenOid4vpRequestV1 where
  sessionId : String
  organizationId : String
  initiatingPrincipalId : String
  policy : FrozenPolicyReference
  query : FrozenQuery
  verifier : FrozenVerifier
  nonce : String
  expectedState : String
  issuedAtEpochSeconds : Int
  expiresAtEpochSeconds : Int

/-! ## The evidence projection -/

inductive EvidenceProcessingStatus
  | complete
  | incomplete
  deriving DecidableEq, Repr

inductive Oid4vpCheckId
  | presentationStructure
  | presentationProof
  | credentialProof
  | issuerTrust
  | credentialStatus
  | holderBinding
  | transactionBinding
  | claimConstraints
  deriving DecidableEq, Repr

def requiredOid4vpChecks : List Oid4vpCheckId :=
  [.presentationStructure, .presentationProof, .credentialProof, .issuerTrust,
    .credentialStatus, .holderBinding, .transactionBinding, .claimConstraints]

inductive EvidenceCheckOutcome
  | passed
  | failed
  | indeterminate
  deriving DecidableEq, Repr

structure Oid4vpCheckEvidence where
  checkId : Oid4vpCheckId
  outcome : EvidenceCheckOutcome
  code : String
  deriving DecidableEq, Repr

structure EvidenceFact where
  outcome : EvidenceCheckOutcome
  code : String
  evidenceDigest : Option String
  checkedAtEpochSeconds : Option Int

structure AuthenticatedPresentationEvidence where
  structureFact : EvidenceFact
  proof : EvidenceFact

structure AuthenticatedTrustEvidence where
  outcome : EvidenceCheckOutcome
  profile : EvidenceProfileReference
  trustLevels : List String
  complianceStatuses : List String
  accreditations : List String
  checkedAtEpochSeconds : Int
  evidenceDigest : String

inductive CredentialStatusState
  | active
  | revoked
  | suspended
  | expired
  | unknown
  | stale
  | notPresent
  deriving DecidableEq, Repr

structure AuthenticatedStatusEvidence where
  outcome : EvidenceCheckOutcome
  state : CredentialStatusState
  checkedAtEpochSeconds : Option Int
  validUntilEpochSeconds : Option Int
  evidenceDigest : Option String

structure AuthenticatedCredentialEvidence where
  credentialId : String
  queryId : String
  responseTokenDigest : String
  format : String
  authenticatedTypeOrVct : List String
  claims : TextMap Value
  issuerId : String
  proofAlgorithm : String
  issuedAtEpochSeconds : Int
  expiresAtEpochSeconds : Option Int
  statusIds : List String
  proof : EvidenceFact
  trust : AuthenticatedTrustEvidence
  status : AuthenticatedStatusEvidence

structure HolderBindingEvidence where
  outcome : EvidenceCheckOutcome
  method : Option String
  proofProfile : Option String
  evidenceDigest : Option String
  checkedAtEpochSeconds : Option Int
  code : String

structure DigestBindingEvidence where
  expectedDigest : String
  observedDigest : Option String
  outcome : EvidenceCheckOutcome
  code : String

structure ReplayEvidence where
  replayKeyDigest : String
  outcome : EvidenceCheckOutcome
  code : String
  consumedAtEpochSeconds : Option Int
  receiptDigest : Option String

structure AuthenticatedBindingEvidence where
  holder : HolderBindingEvidence
  challenge : DigestBindingEvidence
  audience : DigestBindingEvidence
  replay : ReplayEvidence

structure FrozenPolicyIdentity where
  id : String
  version : Nat
  contentDigest : String
  deriving DecidableEq, Repr

inductive AuthenticatedResult
  | passed
  | partialResult
  | failed
  | indeterminate
  deriving DecidableEq, Repr

inductive AuthenticatedDecisionAction
  | allow
  | deny
  | manualReview
  deriving DecidableEq, Repr

structure AuthenticatedPolicyResultV1 where
  policy : FrozenPolicyIdentity
  result : AuthenticatedResult
  decision : AuthenticatedDecisionAction
  reasonCode : String
  evaluatedCredentialIds : List String
  totalRequirements : Nat
  satisfiedRequirements : Nat
  requiredTotal : Nat
  requiredSatisfied : Nat
  verifiedClaims : TextMap Value
  violationCodes : List String
  evaluationTimeEpochSeconds : Int

structure AuthenticatedDecision where
  result : AuthenticatedResult
  decision : AuthenticatedDecisionAction
  reasonCode : String
  deriving DecidableEq, Repr

/-- The strict projection that a verifier candidate emits. -/
structure Oid4vpEvidenceProjectionV1 where
  requestDigest : String
  responseDigest : String
  processingStatus : EvidenceProcessingStatus
  checks : List Oid4vpCheckEvidence
  presentation : AuthenticatedPresentationEvidence
  credentials : List AuthenticatedCredentialEvidence
  binding : AuthenticatedBindingEvidence
  policyResult : AuthenticatedPolicyResultV1
  decision : AuthenticatedDecision

end Marty.Oid4vp
