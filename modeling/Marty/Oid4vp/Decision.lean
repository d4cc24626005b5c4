import Marty.Oid4vp.Credentials

/-!
# The decision a projection must carry

The checks, the policy result and the decision are computed again from the facts, the
credentials and the bindings, and a projection is accepted only with exactly these.

## Main definitions

* `expectedOutcomes`, `Oid4vpEvidenceProjectionV1.validateChecks` — the eight checks.
* `requiredPolicyOutcome`, `policyParityCounts`, `expectedPolicyViolations`,
  `policyVerifiedClaims` — what the policy says of the credentials.
* `Oid4vpEvidenceProjectionV1.validateDecision`.
-/

namespace Marty.Oid4vp

open Lib Lib.Checked

/-! ## Checks -/

def expectedCheckCode : Oid4vpCheckId → EvidenceCheckOutcome → String
  | .presentationStructure, .passed => "OID4VP_PRESENTATION_STRUCTURE_PASSED"
  | .presentationStructure, .failed => "OID4VP_PRESENTATION_STRUCTURE_FAILED"
  | .presentationStructure, .indeterminate => "OID4VP_PRESENTATION_STRUCTURE_INDETERMINATE"
  | .presentationProof, .passed => "OID4VP_PRESENTATION_PROOF_PASSED"
  | .presentationProof, .failed => "OID4VP_PRESENTATION_PROOF_FAILED"
  | .presentationProof, .indeterminate => "OID4VP_PRESENTATION_PROOF_INDETERMINATE"
  | .credentialProof, .passed => "OID4VP_CREDENTIAL_PROOF_PASSED"
  | .credentialProof, .failed => "OID4VP_CREDENTIAL_PROOF_FAILED"
  | .credentialProof, .indeterminate => "OID4VP_CREDENTIAL_PROOF_INDETERMINATE"
  | .issuerTrust, .passed => "OID4VP_ISSUER_TRUST_PASSED"
  | .issuerTrust, .failed => "OID4VP_ISSUER_TRUST_FAILED"
  | .issuerTrust, .indeterminate => "OID4VP_ISSUER_TRUST_INDETERMINATE"
  | .credentialStatus, .passed => "OID4VP_CREDENTIAL_STATUS_PASSED"
  | .credentialStatus, .failed => "OID4VP_CREDENTIAL_STATUS_FAILED"
  | .credentialStatus, .indeterminate => "OID4VP_CREDENTIAL_STATUS_INDETERMINATE"
  | .holderBinding, .passed => "OID4VP_HOLDER_BINDING_PASSED"
  | .holderBinding, .failed => "OID4VP_HOLDER_BINDING_FAILED"
  | .holderBinding, .indeterminate => "OID4VP_HOLDER_BINDING_INDETERMINATE"
  | .transactionBinding, .passed => "OID4VP_TRANSACTION_BINDING_PASSED"
  | .transactionBinding, .failed => "OID4VP_TRANSACTION_BINDING_FAILED"
  | .transactionBinding, .indeterminate => "OID4VP_TRANSACTION_BINDING_INDETERMINATE"
  | .claimConstraints, .passed => "OID4VP_CLAIM_CONSTRAINTS_PASSED"
  | .claimConstraints, .failed => "OID4VP_CLAIM_CONSTRAINTS_FAILED"
  | .claimConstraints, .indeterminate => "OID4VP_CLAIM_CONSTRAINTS_INDETERMINATE"

section

variable (projection : Oid4vpEvidenceProjectionV1) (request : FrozenOid4vpRequestV1)
  (state : CredentialValidationState)

/-- The outcomes of the required checks, in their order. -/
def expectedOutcomes : List EvidenceCheckOutcome :=
  [projection.presentation.structureFact.outcome, projection.presentation.proof.outcome,
    state.credentialProof, state.trust, state.status, projection.binding.holder.outcome,
    aggregateOutcomes [projection.binding.challenge.outcome, projection.binding.audience.outcome,
      projection.binding.replay.outcome],
    state.claims]

def expectedCode (checkId : Oid4vpCheckId) (outcome : EvidenceCheckOutcome) : String :=
  if checkId = .presentationProof ∧ request.policy.presentationProofRequired = false ∧
      projection.presentation.proof.code = proofNotRequiredCode then
    proofNotRequiredCode
  else expectedCheckCode checkId outcome

/-- An indeterminate check leaves the processing incomplete, except for a presentation
proof (the second check) that the policy does not require. -/
def expectedProcessing : EvidenceProcessingStatus :=
  if (expectedOutcomes projection state).zipIdx.any fun e =>
      e.1 == .indeterminate && (e.2 != 1 || request.policy.presentationProofRequired) then
    .incomplete
  else .complete

def checkMatches (e : Oid4vpCheckEvidence × EvidenceCheckOutcome) : Validated Unit :=
  rejectIf (e.1.outcome ≠ e.2 ∨ e.1.code ≠ expectedCode projection request e.1.checkId e.2)
    .checkEvidenceMismatch

def Oid4vpEvidenceProjectionV1.validateChecks : Validated Unit := do
  rejectIf (projection.checks.map (·.checkId) ≠ requiredOid4vpChecks) .checkInventoryMismatch
  forEach (checkMatches projection request)
    (projection.checks.zip (expectedOutcomes projection state))
  rejectIf (projection.processingStatus ≠ expectedProcessing projection request state)
    .checkEvidenceMismatch

end

/-! ## The policy -/

section

variable (request : FrozenOid4vpRequestV1) (state : CredentialValidationState)

/-- Every requirement of the request has an outcome. -/
def CredentialValidationState.outcomeOf (id : String) : EvidenceCheckOutcome :=
  (state.requirementOutcomes.get id).getD .failed

def FrozenOid4vpRequestV1.groupedIds : TextSet :=
  BTreeSet.ofList (request.policy.alternativeRequirementGroups.flatMap (·.requirementIds))

/-- The requirements that stand in no alternative group. -/
def FrozenOid4vpRequestV1.direct : List FrozenCredentialRequirement :=
  request.query.requirements.filter fun requirement => requirement.id ∉ request.groupedIds

def groupOutcome (group : FrozenAlternativeRequirementGroup) : EvidenceCheckOutcome :=
  let outcomes := group.requirementIds.map state.outcomeOf
  if group.minSatisfied ≤ outcomes.countP (· == .passed) then .passed
  else if group.minSatisfied ≤ outcomes.countP (· != .failed) then .indeterminate
  else .failed

def requiredPolicyOutcome : EvidenceCheckOutcome :=
  let direct := (request.direct.filter (·.required)).map fun requirement =>
    state.outcomeOf requirement.id
  let outcomes := direct ++ request.policy.alternativeRequirementGroups.map (groupOutcome state)
  if outcomes.isEmpty then .passed else aggregateOutcomes outcomes

structure PolicyParityCounts where
  total : Nat
  satisfied : Nat
  requiredTotal : Nat
  requiredSatisfied : Nat
  satisfiedCredentialObligations : Nat
  deriving DecidableEq, Repr

def isSatisfied (id : String) : Bool := state.requirementOutcomes.get id == some .passed

def groupSatisfied (group : FrozenAlternativeRequirementGroup) : Bool :=
  group.minSatisfied ≤ group.requirementIds.countP (isSatisfied state)

def policyParityCounts (presentationProofSatisfied : Bool) : Validated PolicyParityCounts := do
  let groups := request.policy.alternativeRequirementGroups
  let requiredDirect := request.direct.filter (·.required)
  let directSatisfied := request.direct.countP fun r => isSatisfied state r.id
  let requiredDirectSatisfied := requiredDirect.countP fun r => isSatisfied state r.id
  let satisfiedGroups := groups.countP (groupSatisfied state)
  let proofUnit := request.policy.presentationProofRequired.toNat
  let proofSatisfied :=
    (request.policy.presentationProofRequired && presentationProofSatisfied).toNat
  let total ← okOr (toU16 (request.direct.length + groups.length + proofUnit))
    .decisionMismatch
  let satisfied ← okOr (toU16 (directSatisfied + satisfiedGroups + proofSatisfied))
    .decisionMismatch
  let requiredTotal ← okOr (toU16 (requiredDirect.length + groups.length + proofUnit))
    .decisionMismatch
  let requiredSatisfied ←
    okOr (toU16 (requiredDirectSatisfied + satisfiedGroups + proofSatisfied)) .decisionMismatch
  let obligations ← okOr (toU16 (requiredDirectSatisfied + satisfiedGroups)) .decisionMismatch
  return ⟨total, satisfied, requiredTotal, requiredSatisfied, obligations⟩

/-- The checks on the presentation as a whole. -/
def globalIndices : List Nat :=
  if request.policy.presentationProofRequired then [0, 1, 5, 6] else [0, 5, 6]

end

/-- The checks at the given places. -/
def checksAt (checks : List Oid4vpCheckEvidence) (indices : List Nat) :
    List Oid4vpCheckEvidence :=
  indices.filterMap fun index => checks[index]?

def violationsAt (checks : List Oid4vpCheckEvidence) (indices : List Nat) : List String :=
  ((checksAt checks indices).filter fun check => check.outcome != .passed).map (·.code)

section

variable (projection : Oid4vpEvidenceProjectionV1) (request : FrozenOid4vpRequestV1)
  (state : CredentialValidationState)

def expectedPolicyViolations (globalIndices : List Nat) : List String :=
  let global := violationsAt projection.checks globalIndices
  sortDedup (if requiredPolicyOutcome request state = .passed then global
    else global ++ violationsAt projection.checks [2, 3, 4, 7])

/-! ## Verified claims -/

def insertClaim (merged : TextMap Value) (e : String × Value) : Validated (TextMap Value) := do
  rejectIf ((merged.get e.1).any fun previous => !(previous == e.2)) .decisionMismatch
  return merged.insert e.1 e.2

/-- All claims together, unless two credentials disagree on one. -/
def mergedVerifiedClaims (credentials : List AuthenticatedCredentialEvidence) :
    Validated (TextMap Value) :=
  (credentials.flatMap (·.claims.entries)).foldlM insertClaim BTreeMap.empty

/-- The queries whose credentials the policy relies on. -/
def selectedQueries : TextSet :=
  let direct := (request.direct.filter fun r => state.outcomeOf r.id == .passed).map (·.id)
  let groups := request.policy.alternativeRequirementGroups.flatMap fun group =>
    let passed := group.requirementIds.filter fun id => state.outcomeOf id == .passed
    if group.minSatisfied ≤ passed.length then passed else []
  BTreeSet.ofList (direct ++ groups)

/-- The credentials whose claims the policy has verified. -/
def selectedCredentials : List AuthenticatedCredentialEvidence :=
  let ids := BTreeSet.ofList ((BTreeSet.toList (selectedQueries request state)).flatMap
    fun query => (state.credentialsByQuery.get query).getD [])
  projection.credentials.filter fun credential => credential.credentialId ∈ ids

def policyVerifiedClaims : Validated (TextMap Value) :=
  mergedVerifiedClaims (selectedCredentials projection request state)

def valuesBeq : List (String × Value) → List (String × Value) → Bool
  | [], [] => true
  | e :: es, f :: fs => e.1 == f.1 && e.2 == f.2 && valuesBeq es fs
  | _, _ => false

/-- Equality of two maps to JSON values. -/
def sameClaims (claims claims' : TextMap Value) : Bool :=
  valuesBeq claims.entries claims'.entries

/-! ## The decision -/

def FrozenPolicyReference.identity (policy : FrozenPolicyReference) : FrozenPolicyIdentity :=
  ⟨policy.id, policy.version, policy.contentDigest⟩

def policyPassedCode : String := "OID4VP_AND_POLICY_PASSED"

def globalOutcome : EvidenceCheckOutcome :=
  aggregateOutcomes ((checksAt projection.checks (globalIndices request)).map (·.outcome))

/-- Every obligation is met, by the counts and by the outcomes. -/
def fullySatisfied (counts : PolicyParityCounts) : Bool :=
  counts.requiredSatisfied == counts.requiredTotal &&
    globalOutcome projection request == .passed && requiredPolicyOutcome request state == .passed

def expectedDecision (counts : PolicyParityCounts) :
    AuthenticatedResult × AuthenticatedDecisionAction :=
  let global := globalOutcome projection request
  let anyRequiredIndeterminate :=
    global == .indeterminate || requiredPolicyOutcome request state == .indeterminate
  let isPartial := 0 < counts.satisfiedCredentialObligations && global != .failed &&
    !anyRequiredIndeterminate
  if fullySatisfied projection request state counts then (.passed, .allow)
  else if isPartial then (.partialResult, .manualReview)
  else if anyRequiredIndeterminate then (.indeterminate, .deny)
  else (.failed, .deny)

/-- The result names the frozen policy, the time, the credentials and the counts. -/
def validatePolicyResultHead (counts : PolicyParityCounts) (now : Int) : Validated Unit :=
  let result := projection.policyResult
  rejectIf (result.policy ≠ request.policy.identity ∨
      result.evaluationTimeEpochSeconds ≠ now ∨ result.totalRequirements ≠ counts.total ∨
      result.satisfiedRequirements ≠ counts.satisfied ∨
      result.requiredTotal ≠ counts.requiredTotal ∨
      result.requiredSatisfied ≠ counts.requiredSatisfied ∨
      result.evaluatedCredentialIds ≠ BTreeSet.toList state.credentialIds)
    .decisionMismatch

/-- The claims of a fully satisfied policy, or the violations of another. -/
def validatePolicyOutcome (counts : PolicyParityCounts) : Validated Unit :=
  let result := projection.policyResult
  let violations := expectedPolicyViolations projection request state (globalIndices request)
  if fullySatisfied projection request state counts then do
    rejectIf (¬ result.violationCodes.isEmpty ∨ result.reasonCode ≠ policyPassedCode)
      .decisionMismatch
    let claims ← policyVerifiedClaims projection request state
    rejectIf (sameClaims result.verifiedClaims claims = false) .decisionMismatch
  else do
    let firstViolation ← okOr violations.head? .decisionMismatch
    rejectIf (¬ result.verifiedClaims.entries.isEmpty ∨ result.reasonCode ≠ firstViolation ∨
      result.violationCodes ≠ violations) .decisionMismatch

def Oid4vpEvidenceProjectionV1.validateDecision (now : Int) : Validated Unit := do
  let result := projection.policyResult
  let counts ← policyParityCounts request state
    (projection.presentation.proof.outcome == .passed)
  validatePolicyResultHead projection request state counts now
  requireCode result.reasonCode "policy_result.reason_code"
  requireCode projection.decision.reasonCode "decision.reason_code"
  rejectIf (maxEvidenceListItems < result.violationCodes.length) .decisionMismatch
  validateStringList result.violationCodes "policy_result.violation_codes" true
  let expected := expectedDecision projection request state counts
  rejectIf ((result.result, result.decision) ≠ expected ∨
      (projection.decision.result, projection.decision.decision) ≠ expected ∨
      result.reasonCode ≠ projection.decision.reasonCode)
    .decisionMismatch
  validatePolicyOutcome projection request state counts

/-- The checks and the decision together. -/
def Oid4vpEvidenceProjectionV1.validateVerdict (now : Int) : Validated Unit := do
  projection.validateChecks request state
  projection.validateDecision request state now

/-! ## The checks that are accepted -/

/-- The checks with their outcomes and codes. -/
def expectedChecks : List Oid4vpCheckEvidence :=
  (requiredOid4vpChecks.zip (expectedOutcomes projection state)).map fun e =>
    ⟨e.1, e.2, expectedCode projection request e.1 e.2⟩

private theorem checks_eq_iff (code : Oid4vpCheckId → EvidenceCheckOutcome → String)
    (checks : List Oid4vpCheckEvidence) :
    ∀ (ids : List Oid4vpCheckId) (outcomes : List EvidenceCheckOutcome),
      ids.length = outcomes.length →
      ((checks.map (·.checkId) = ids ∧ ∀ e ∈ checks.zip outcomes,
          e.1.outcome = e.2 ∧ e.1.code = code e.1.checkId e.2) ↔
        checks = (ids.zip outcomes).map fun e => ⟨e.1, e.2, code e.1 e.2⟩) := by
  induction checks with
  | nil =>
      intro ids outcomes hlen
      cases ids with
      | nil => simp
      | cons i ids =>
          cases outcomes with
          | nil => simp at hlen
          | cons o outcomes => simp
  | cons c checks ih =>
      intro ids outcomes hlen
      cases ids with
      | nil => simp
      | cons i ids =>
          cases outcomes with
          | nil => simp at hlen
          | cons o outcomes =>
              have htail := ih ids outcomes (by simpa using hlen)
              obtain ⟨id, outcome, text⟩ := c
              simp only [List.map_cons, List.cons.injEq, List.zip_cons_cons, List.mem_cons,
                forall_eq_or_imp, ← htail, Oid4vpCheckEvidence.mk.injEq]
              constructor
              · rintro ⟨⟨rfl, hids⟩, ⟨rfl, rfl⟩, hrest⟩
                exact ⟨⟨rfl, rfl, rfl⟩, hids, hrest⟩
              · rintro ⟨⟨rfl, rfl, rfl⟩, hids, hrest⟩
                exact ⟨⟨rfl, hids⟩, ⟨rfl, rfl⟩, hrest⟩

/-- **The accepted checks** are exactly the expected ones. -/
theorem validateChecks_eq_ok {u : Unit} :
    projection.validateChecks request state = .ok u ↔
      projection.checks = expectedChecks projection request state ∧
        projection.processingStatus = expectedProcessing projection request state := by
  rw [expectedChecks, ← checks_eq_iff (expectedCode projection request) projection.checks
    requiredOid4vpChecks (expectedOutcomes projection state) rfl]
  simp only [Oid4vpEvidenceProjectionV1.validateChecks, checkMatches, bind_eq_ok, exists_unit,
    rejectIf_eq_ok, forEach_eq_ok, not_not, not_or, and_assoc]

/-- The global outcome is passed when the facts and bindings it stands for are. -/
theorem globalOutcome_eq_passed
    (hchecks : projection.checks = expectedChecks projection request state) :
    globalOutcome projection request = .passed ↔
      projection.presentation.structureFact.outcome = .passed ∧
        (request.policy.presentationProofRequired = true →
          projection.presentation.proof.outcome = .passed) ∧
        projection.binding.holder.outcome = .passed ∧
        projection.binding.challenge.outcome = .passed ∧
        projection.binding.audience.outcome = .passed ∧
        projection.binding.replay.outcome = .passed := by
  cases hproof : request.policy.presentationProofRequired <;>
    simp [globalOutcome, globalIndices, hproof, hchecks, checksAt, expectedChecks,
      expectedOutcomes, requiredOid4vpChecks, aggregateOutcomes_eq_passed]

/-! ## The policy that is passed -/

theorem groupOutcome_eq_passed {group : FrozenAlternativeRequirementGroup} :
    groupOutcome state group = .passed ↔
      group.minSatisfied ≤ (group.requirementIds.filter fun id =>
        state.outcomeOf id == .passed).length := by
  rw [← List.countP_eq_length_filter]
  simp only [groupOutcome, List.countP_map, Function.comp_def]
  split
  · simp_all
  · split <;> simp_all

/-- A policy is passed when every direct required requirement and every group is. -/
theorem requiredPolicyOutcome_eq_passed :
    requiredPolicyOutcome request state = .passed ↔
      (∀ requirement ∈ request.direct, requirement.required = true →
        state.outcomeOf requirement.id = .passed) ∧
      ∀ group ∈ request.policy.alternativeRequirementGroups,
        groupOutcome state group = .passed := by
  simp only [requiredPolicyOutcome, List.isEmpty_iff]
  split
  · next hempty =>
    simp only [List.append_eq_nil_iff, List.map_eq_nil_iff, List.filter_eq_nil_iff] at hempty
    simp only [true_iff, hempty.2, List.not_mem_nil, false_implies, implies_true, and_true]
    intro requirement hmem hrequired
    exact absurd hrequired (hempty.1 requirement hmem)
  · next hne =>
    rw [aggregateOutcomes_eq_passed]
    simp only [hne, ne_eq, not_false_eq_true, true_and, List.mem_append, List.mem_map,
      List.mem_filter]
    constructor
    · intro h
      refine ⟨fun r hr hrequired => h _ (.inl ⟨r, ⟨hr, hrequired⟩, rfl⟩), fun g hg =>
        h _ (.inr ⟨g, hg, rfl⟩)⟩
    · rintro ⟨hdirect, hgroups⟩ o (⟨r, ⟨hr, hrequired⟩, rfl⟩ | ⟨g, hg, rfl⟩)
      · exact hdirect r hr hrequired
      · exact hgroups g hg

variable {projection request state} in
/-- The outcome recorded for a requirement is the assessment of the credentials that
answer it. -/
theorem outcomeOf_eq {now : Int} (hwf : request.WellFormed)
    (hcredentials : CredentialsValidated projection request now state)
    {requirement : FrozenCredentialRequirement}
    (hmem : requirement ∈ request.query.requirements) :
    state.outcomeOf requirement.id =
      (requirementAssessment requirement (projection.answering requirement.id)).outcome := by
  have hnodup : ((request.query.requirements.map fun r =>
      (r.id, (requirementAssessment r (projection.answering r.id)).outcome)).map
        Prod.fst).Nodup := by
    simpa only [List.map_map, Function.comp_def] using hwf.nodup
  rw [CredentialValidationState.outcomeOf, hcredentials.outcomes,
    (BTreeMap.get_ofEntries hnodup _ _).mpr (List.mem_map.mpr ⟨requirement, hmem, rfl⟩),
    Option.getD_some]

/-! ## The decision that is accepted -/

theorem fullySatisfied_iff {counts : PolicyParityCounts} :
    fullySatisfied projection request state counts = true ↔
      counts.requiredSatisfied = counts.requiredTotal ∧
        globalOutcome projection request = .passed ∧
        requiredPolicyOutcome request state = .passed := by
  simp [fullySatisfied, and_assoc]

theorem expectedDecision_allow {counts : PolicyParityCounts} :
    (expectedDecision projection request state counts).2 = .allow ↔
      fullySatisfied projection request state counts = true := by
  by_cases hfull : fullySatisfied projection request state counts = true
  · simp [expectedDecision, hfull]
  · simp only [expectedDecision, hfull, Bool.false_eq_true, if_false, iff_false]
    split
    · exact nofun
    · split <;> exact nofun

end

end Marty.Oid4vp
