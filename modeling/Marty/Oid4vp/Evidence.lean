import Marty.Oid4vp.Request

/-!
# Facts, trust, status and bindings

The single pieces of evidence that a verifier projects, each with the check that its
record is one that its outcome allows.

## Main definitions

* `aggregateOutcomes` — the outcome of several checks together.
* `validateFact`, `validateTrust`, `validateStatus` — evidence about a presentation and
  about one credential.
* `Oid4vpEvidenceProjectionV1.validateSupportingFacts`,
  `Oid4vpEvidenceProjectionV1.validateBindings`.
-/

namespace Marty.Oid4vp

open Lib Lib.Checked

variable (packages : Packages)

/-! ## Outcomes -/

def aggregateFrom (any indeterminate : Bool) : List EvidenceCheckOutcome → EvidenceCheckOutcome
  | [] => if any = false ∨ indeterminate = true then .indeterminate else .passed
  | .failed :: _ => .failed
  | .indeterminate :: outcomes => aggregateFrom true true outcomes
  | .passed :: outcomes => aggregateFrom true indeterminate outcomes

/-- Failed when any outcome is, else indeterminate when any outcome is or there is none. -/
def aggregateOutcomes (outcomes : List EvidenceCheckOutcome) : EvidenceCheckOutcome :=
  aggregateFrom false false outcomes

theorem aggregateFrom_eq_passed (any indeterminate : Bool) (l : List EvidenceCheckOutcome) :
    aggregateFrom any indeterminate l = .passed ↔
      (any = true ∨ l ≠ []) ∧ indeterminate = false ∧ ∀ o ∈ l, o = .passed := by
  induction l generalizing any indeterminate with
  | nil => simp [aggregateFrom]
  | cons o l ih => cases o <;> simp [aggregateFrom, ih]

theorem aggregateFrom_eq_failed (any indeterminate : Bool) (l : List EvidenceCheckOutcome) :
    aggregateFrom any indeterminate l = .failed ↔ .failed ∈ l := by
  induction l generalizing any indeterminate with
  | nil =>
      simp only [aggregateFrom]
      split <;> simp
  | cons o l ih => cases o <;> simp [aggregateFrom, ih]

theorem aggregateOutcomes_eq_passed {l : List EvidenceCheckOutcome} :
    aggregateOutcomes l = .passed ↔ l ≠ [] ∧ ∀ o ∈ l, o = .passed := by
  simp [aggregateOutcomes, aggregateFrom_eq_passed]

theorem aggregateOutcomes_eq_failed {l : List EvidenceCheckOutcome} :
    aggregateOutcomes l = .failed ↔ .failed ∈ l :=
  aggregateFrom_eq_failed false false l

/-! ## Facts -/

inductive FactKind
  | presentationStructure
  | presentationProof
  | credentialProof
  deriving DecidableEq, Repr

def expectedFactCode : FactKind → EvidenceCheckOutcome → String
  | .presentationStructure, .passed => "OID4VP_PRESENTATION_PARSED"
  | .presentationStructure, .failed => "OID4VP_PRESENTATION_MALFORMED"
  | .presentationStructure, .indeterminate => "OID4VP_PRESENTATION_STRUCTURE_UNAVAILABLE"
  | .presentationProof, .passed => "OID4VP_PRESENTATION_SIGNATURE_VERIFIED"
  | .presentationProof, .failed => "OID4VP_PRESENTATION_SIGNATURE_INVALID"
  | .presentationProof, .indeterminate => "OID4VP_PRESENTATION_SIGNATURE_UNAVAILABLE"
  | .credentialProof, .passed => "OID4VP_CREDENTIAL_SIGNATURE_VERIFIED"
  | .credentialProof, .failed => "OID4VP_CREDENTIAL_SIGNATURE_INVALID"
  | .credentialProof, .indeterminate => "OID4VP_CREDENTIAL_SIGNATURE_UNAVAILABLE"

def proofNotRequiredCode : String := "OID4VP_PRESENTATION_PROOF_NOT_REQUIRED"

def validateCheckedAt (checkedAt : Int) (request : FrozenOid4vpRequestV1) (now : Int) :
    Validated Unit :=
  rejectIf (checkedAt < request.issuedAtEpochSeconds ∨ now < checkedAt) .invalidLifetime

def validateFact (fact : EvidenceFact) (kind : FactKind) (request : FrozenOid4vpRequestV1)
    (now : Int) : Validated Unit :=
  if kind = .presentationProof ∧ request.policy.presentationProofRequired = false ∧
      fact.outcome = .indeterminate ∧ fact.code = proofNotRequiredCode then
    rejectIf (¬ (fact.evidenceDigest = none ∧ fact.checkedAtEpochSeconds = none))
      .checkEvidenceMismatch
  else do
    rejectIf (fact.code ≠ expectedFactCode kind fact.outcome) .checkEvidenceMismatch
    let digest ← okOr fact.evidenceDigest .checkEvidenceMismatch
    validateDigest digest "evidence_fact.evidence_digest"
    let checkedAt ← okOr fact.checkedAtEpochSeconds .checkEvidenceMismatch
    validateCheckedAt checkedAt request now

def Oid4vpEvidenceProjectionV1.validateSupportingFacts
    (projection : Oid4vpEvidenceProjectionV1) (request : FrozenOid4vpRequestV1) (now : Int) :
    Validated Unit := do
  validateFact projection.presentation.structureFact .presentationStructure request now
  validateFact projection.presentation.proof .presentationProof request now

/-! ## Trust and status -/

/-- Both times lie in the life of the request, so that their difference is exact. -/
def validateTrust (credential : AuthenticatedCredentialEvidence)
    (request : FrozenOid4vpRequestV1) (now : Int) : Validated Unit := do
  validateProfile credential.trust.profile
  rejectIf (credential.trust.profile ≠ request.policy.trustProfile) .trustEvidenceMismatch
  validateStringList credential.trust.trustLevels "credentials.trust.trust_levels"
    (credential.trust.outcome ≠ .passed)
  validateStringList credential.trust.complianceStatuses "credentials.trust.compliance_statuses"
    true
  validateStringList credential.trust.accreditations "credentials.trust.accreditations" true
  validateDigest credential.trust.evidenceDigest "credentials.trust.evidence_digest"
  validateCheckedAt credential.trust.checkedAtEpochSeconds request now
  rejectIf ((request.policy.maxTrustAgeSeconds : Int) <
    now - credential.trust.checkedAtEpochSeconds) .trustEvidenceMismatch

def AuthenticatedCredentialEvidence.expired (credential : AuthenticatedCredentialEvidence)
    (now : Int) : Bool :=
  credential.expiresAtEpochSeconds.any fun expiresAt => expiresAt ≤ now

/-- The record of a status is one that its state allows. -/
def statusValid (credential : AuthenticatedCredentialEvidence)
    (requirement : FrozenCredentialRequirement) (now : Int) : Bool :=
  let status := credential.status
  let expired := credential.expired now
  match status.state with
  | .notPresent =>
      !expired && credential.statusIds.isEmpty && requirement.status.mode == .allowAbsent &&
        status.outcome == .passed && status.checkedAtEpochSeconds.isNone &&
        status.validUntilEpochSeconds.isNone && status.evidenceDigest.isNone
  | .active =>
      !expired && !credential.statusIds.isEmpty && status.outcome == .passed &&
        status.validUntilEpochSeconds.any (fun value => now ≤ value) &&
        status.checkedAtEpochSeconds.isSome && status.evidenceDigest.isSome
  | .revoked | .suspended =>
      !expired && !credential.statusIds.isEmpty && status.outcome == .failed &&
        status.checkedAtEpochSeconds.isSome && status.evidenceDigest.isSome
  | .expired =>
      expired && status.outcome == .failed && status.checkedAtEpochSeconds.isNone &&
        status.validUntilEpochSeconds.isNone && status.evidenceDigest.isNone
  | .unknown =>
      !expired && !credential.statusIds.isEmpty && status.outcome == .indeterminate &&
        status.validUntilEpochSeconds.isNone
  | .stale =>
      !expired && !credential.statusIds.isEmpty && status.outcome == .failed &&
        status.validUntilEpochSeconds.any (fun value => value < now) &&
        status.checkedAtEpochSeconds.isSome && status.evidenceDigest.isSome

def validateStatusAge (requirement : FrozenCredentialRequirement)
    (request : FrozenOid4vpRequestV1) (now : Int) (checkedAt : Int) : Validated Unit := do
  validateCheckedAt checkedAt request now
  rejectIf ((requirement.status.maxAgeSeconds : Int) < now - checkedAt) .statusEvidenceMismatch

def validateStatusValidity (checkedAt validUntil : Int) : Validated Unit := do
  let validity ← okOr (checkedSub validUntil checkedAt) .statusEvidenceMismatch
  rejectIf (¬ (0 ≤ validity ∧ validity ≤ maxStatusValiditySeconds)) .statusEvidenceMismatch

def validateStatus (credential : AuthenticatedCredentialEvidence)
    (requirement : FrozenCredentialRequirement) (request : FrozenOid4vpRequestV1) (now : Int) :
    Validated Unit := do
  let status := credential.status
  rejectIf (statusValid credential requirement now = false) .statusEvidenceMismatch
  forEach (validateStatusAge requirement request now) status.checkedAtEpochSeconds.toList
  match status.checkedAtEpochSeconds, status.validUntilEpochSeconds with
  | some checkedAt, some validUntil => validateStatusValidity checkedAt validUntil
  | _, _ => .ok ()
  forEach (validateDigest · "credentials.status.evidence_digest") status.evidenceDigest.toList

/-! ## Bindings -/

inductive DigestBindingKind
  | challenge
  | audience
  deriving DecidableEq, Repr

def expectedDigestBindingCode : DigestBindingKind → EvidenceCheckOutcome → String
  | .challenge, .passed => "OID4VP_NONCE_MATCHED"
  | .challenge, .failed => "OID4VP_NONCE_MISMATCH"
  | .challenge, .indeterminate => "OID4VP_NONCE_UNAVAILABLE"
  | .audience, .passed => "OID4VP_AUDIENCE_MATCHED"
  | .audience, .failed => "OID4VP_AUDIENCE_MISMATCH"
  | .audience, .indeterminate => "OID4VP_AUDIENCE_UNAVAILABLE"

def expectedHolderCode : EvidenceCheckOutcome → String
  | .passed => "OID4VP_HOLDER_KEY_BOUND"
  | .failed => "OID4VP_HOLDER_BINDING_FAILED"
  | .indeterminate => "OID4VP_HOLDER_BINDING_UNAVAILABLE"

def expectedReplayCode : EvidenceCheckOutcome → String
  | .passed => "OID4VP_REPLAY_CAS_CONSUMED"
  | .failed => "OID4VP_REPLAY_DETECTED"
  | .indeterminate => "OID4VP_REPLAY_UNAVAILABLE"

/-- The outcome of a digest binding is the comparison of its two digests. -/
def DigestBindingEvidence.outcomeMatches (binding : DigestBindingEvidence) : Bool :=
  match binding.outcome with
  | .passed => binding.observedDigest == some binding.expectedDigest
  | .failed => binding.observedDigest.any fun observed => observed ≠ binding.expectedDigest
  | .indeterminate => binding.observedDigest.isNone

def validateDigestBinding (binding : DigestBindingEvidence) (authoritativeExpected : String)
    (kind : DigestBindingKind) (field : String) : Validated Unit := do
  validateDigest binding.expectedDigest field
  forEach (validateDigest · field) binding.observedDigest.toList
  rejectIf (binding.code ≠ expectedDigestBindingCode kind binding.outcome) .bindingMismatch
  rejectIf (binding.expectedDigest ≠ authoritativeExpected ∨ binding.outcomeMatches = false)
    .bindingMismatch

def validateHolder (holder : HolderBindingEvidence) (request : FrozenOid4vpRequestV1)
    (now : Int) : Validated Unit := do
  rejectIf (holder.code ≠ expectedHolderCode holder.outcome) .bindingMismatch
  match holder.outcome with
  | .passed => do
      let method ← okOr holder.method .bindingMismatch
      requireIdentifier method "binding.holder.method"
      let proofProfile ← okOr holder.proofProfile .bindingMismatch
      requireIdentifier proofProfile "binding.holder.proof_profile"
      let digest ← okOr holder.evidenceDigest .bindingMismatch
      validateDigest digest "binding.holder.evidence_digest"
      let checkedAt ← okOr holder.checkedAtEpochSeconds .bindingMismatch
      validateCheckedAt checkedAt request now
  | .failed | .indeterminate =>
      rejectIf (holder.method.isSome ∨ holder.proofProfile.isSome ∨
        holder.evidenceDigest.isSome ∨ holder.checkedAtEpochSeconds.isSome) .bindingMismatch

def validateReplay (replay : ReplayEvidence) (requestDigest responseDigest : String)
    (now : Int) : Validated Unit := do
  rejectIf (replay.code ≠ expectedReplayCode replay.outcome) .bindingMismatch
  validateDigest replay.replayKeyDigest "binding.replay.replay_key_digest"
  let expected ← digestReplayKey packages requestDigest responseDigest
  rejectIf (replay.replayKeyDigest ≠ expected) .bindingMismatch
  match replay.outcome with
  | .passed => do
      rejectIf (replay.consumedAtEpochSeconds ≠ some now) .bindingMismatch
      let receipt ← okOr replay.receiptDigest .bindingMismatch
      validateDigest receipt "binding.replay.receipt_digest"
  | .failed | .indeterminate =>
      rejectIf (replay.consumedAtEpochSeconds.isSome ∨ replay.receiptDigest.isSome)
        .bindingMismatch

def Oid4vpEvidenceProjectionV1.validateBindings (projection : Oid4vpEvidenceProjectionV1)
    (request : FrozenOid4vpRequestV1) (now : Int) : Validated Unit := do
  let binding := projection.binding
  let nonceDigest ← digestNonce packages request.nonce
  validateDigestBinding binding.challenge nonceDigest .challenge "binding.challenge"
  let audienceDigest ← digestAudience packages request.verifier.clientId
  validateDigestBinding binding.audience audienceDigest .audience "binding.audience"
  validateHolder binding.holder request now
  validateReplay packages binding.replay projection.requestDigest projection.responseDigest now

/-! ## What a success says -/

theorem validateCheckedAt_eq_ok {checkedAt : Int} {request : FrozenOid4vpRequestV1} {now : Int}
    {u : Unit} :
    validateCheckedAt checkedAt request now = .ok u ↔
      request.issuedAtEpochSeconds ≤ checkedAt ∧ checkedAt ≤ now := by
  simp [validateCheckedAt]

/-- Trust is taken from the frozen profile and is as fresh as the policy asks. -/
theorem validateTrust_eq_ok {credential : AuthenticatedCredentialEvidence}
    {request : FrozenOid4vpRequestV1} {now : Int}
    (h : validateTrust credential request now = .ok ()) :
    credential.trust.profile = request.policy.trustProfile ∧
      request.issuedAtEpochSeconds ≤ credential.trust.checkedAtEpochSeconds ∧
      credential.trust.checkedAtEpochSeconds ≤ now ∧
      now - credential.trust.checkedAtEpochSeconds ≤ request.policy.maxTrustAgeSeconds := by
  simp only [validateTrust, bind_eq_ok, exists_unit, rejectIf_eq_ok,
    validateCheckedAt_eq_ok, not_not, not_lt] at h
  obtain ⟨-, hprofile, -, -, -, -, ⟨hissued, hnow⟩, hage⟩ := h
  exact ⟨hprofile, hissued, hnow, hage⟩

/-- A status that is passed: none where the requirement allows that, or an active one that
is fresh and still valid. -/
theorem validateStatus_passed {credential : AuthenticatedCredentialEvidence}
    {requirement : FrozenCredentialRequirement} {request : FrozenOid4vpRequestV1} {now : Int}
    (h : validateStatus credential requirement request now = .ok ())
    (hpassed : credential.status.outcome = .passed) :
    credential.expired now = false ∧
      (credential.status.state = .notPresent ∧ requirement.status.mode = .allowAbsent ∧
          credential.statusIds = [] ∨
        credential.status.state = .active ∧ credential.statusIds ≠ [] ∧
          (∃ validUntil, credential.status.validUntilEpochSeconds = some validUntil ∧
            now ≤ validUntil) ∧
          ∃ checkedAt, credential.status.checkedAtEpochSeconds = some checkedAt ∧
            checkedAt ≤ now ∧ now - checkedAt ≤ requirement.status.maxAgeSeconds) := by
  simp only [validateStatus, bind_eq_ok, exists_unit, rejectIf_eq_ok, forEach_eq_ok,
    validateStatusAge, validateCheckedAt_eq_ok, not_lt, Option.mem_toList,
    Bool.not_eq_false] at h
  obtain ⟨hvalid, hage, -⟩ := h
  cases hstate : credential.status.state <;>
    simp [statusValid, hstate, hpassed] at hvalid
  case active =>
    obtain ⟨⟨⟨⟨hexpired, hids⟩, huntil⟩, hchecked⟩, -⟩ := hvalid
    obtain ⟨checkedAt, hchecked⟩ := Option.isSome_iff_exists.mp hchecked
    obtain ⟨validUntil, hsome, huntil⟩ := (Option.any_eq_true _ _).mp huntil
    have hfresh := hage checkedAt hchecked
    exact ⟨hexpired, .inr ⟨rfl, by simpa using hids, ⟨validUntil, hsome, of_decide_eq_true huntil⟩,
      checkedAt, hchecked, hfresh.1.2, hfresh.2⟩⟩
  case notPresent =>
    obtain ⟨⟨⟨⟨⟨hexpired, hids⟩, hmode⟩, -⟩, -⟩, -⟩ := hvalid
    exact ⟨hexpired, .inl ⟨rfl, hmode, by simpa using hids⟩⟩

/-- A digest binding that is passed has observed the digest that the server computes. -/
theorem validateDigestBinding_passed {binding : DigestBindingEvidence}
    {authoritativeExpected : String} {kind : DigestBindingKind} {field : String}
    (h : validateDigestBinding binding authoritativeExpected kind field = .ok ())
    (hpassed : binding.outcome = .passed) :
    binding.observedDigest = some authoritativeExpected := by
  simp only [validateDigestBinding, bind_eq_ok, exists_unit, rejectIf_eq_ok, not_or,
    not_not, Bool.not_eq_false] at h
  obtain ⟨-, -, -, hexpected, hmatches⟩ := h
  simp only [DigestBindingEvidence.outcomeMatches, hpassed, beq_iff_eq] at hmatches
  rw [hmatches, hexpected]

/-- A replay check that is passed has consumed the response at this very time. -/
theorem validateReplay_passed {replay : ReplayEvidence} {requestDigest responseDigest : String}
    {now : Int} (h : validateReplay packages replay requestDigest responseDigest now = .ok ())
    (hpassed : replay.outcome = .passed) : replay.consumedAtEpochSeconds = some now := by
  simp only [validateReplay, hpassed, bind_eq_ok, exists_unit, rejectIf_eq_ok,
    not_not] at h
  obtain ⟨-, -, -, -, -, hconsumed, -⟩ := h
  exact hconsumed

/-- Bindings that were validated and passed: the digests are those of the nonce and of the
client, and the response is consumed now. -/
theorem validateBindings_eq_ok {projection : Oid4vpEvidenceProjectionV1}
    {request : FrozenOid4vpRequestV1} {now : Int}
    (h : projection.validateBindings packages request now = .ok ()) :
    (projection.binding.challenge.outcome = .passed →
        ∃ digest, digestNonce packages request.nonce = .ok digest ∧
          projection.binding.challenge.observedDigest = some digest) ∧
      (projection.binding.audience.outcome = .passed →
        ∃ digest, digestAudience packages request.verifier.clientId = .ok digest ∧
          projection.binding.audience.observedDigest = some digest) ∧
      (projection.binding.replay.outcome = .passed →
        projection.binding.replay.consumedAtEpochSeconds = some now) := by
  simp only [Oid4vpEvidenceProjectionV1.validateBindings, bind_eq_ok, exists_unit] at h
  obtain ⟨nonce, hnonce, hchallenge, client, hclient, haudience, -, hreplay⟩ := h
  refine ⟨?_, ?_, ?_⟩
  · intro hpassed
    exact ⟨nonce, hnonce, validateDigestBinding_passed hchallenge hpassed⟩
  · intro hpassed
    exact ⟨client, hclient, validateDigestBinding_passed haudience hpassed⟩
  · exact validateReplay_passed packages hreplay

end Marty.Oid4vp
