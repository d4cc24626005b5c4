import Marty.Oid4vp.Counts
import Marty.Oid4vp.Soundness

/-!
# The evidence determines the decision

For validated evidence there is exactly one verdict — checks, processing status, policy
result and decision — that is accepted.  No evidence is left without one.

## Main definitions

* `Verdict` — the part of a projection that the evidence determines.
* `expectedVerdict` — the verdict that the checks compute again.
* `VerdictDetermined` — the counts fit and agree with the outcomes, a policy that is not
  satisfied has violations, and the accepted verdict is unique.
-/

namespace Marty.Oid4vp

open Lib Lib.Checked

variable (packages : Packages)

/-! ## Codes and lists -/

theorem requireCode_eq_ok {value field : String} {u : Unit} :
    requireCode value field = .ok u ↔
      (¬ value.isEmpty ∧ Text.trim value = value ∧ value.utf8ByteSize ≤ maxCodeBytes) ∧
        value.toList.all isCodeChar = true := by
  simp [requireCode, requireText]

private theorem requireIdentifier_of_code {value field field' : String}
    (h : requireCode value field = .ok ()) : (requireIdentifier value field').isOk = true := by
  have hcode := (requireCode_eq_ok.mp h).1
  have hok : requireIdentifier value field' = .ok () := by
    simpa [requireIdentifier, requireText, maxIdentifierBytes, maxCodeBytes] using hcode
  rw [hok]
  rfl

/-- Every code of a check is a code. -/
theorem requireCode_expectedCode (projection : Oid4vpEvidenceProjectionV1)
    (request : FrozenOid4vpRequestV1) (checkId : Oid4vpCheckId) (outcome : EvidenceCheckOutcome)
    (field : String) : requireCode (expectedCode projection request checkId outcome) field
      = .ok () := by
  rw [requireCode_eq_ok]
  unfold expectedCode
  split
  · decide +kernel
  · cases checkId <;> cases outcome <;> decide +kernel

/-! ## Claims -/

/-- No two of the credentials disagree on a claim. -/
def ClaimsAgree (credentials : List AuthenticatedCredentialEvidence) : Prop :=
  ∀ c ∈ credentials, ∀ d ∈ credentials, ∀ e ∈ c.claims.entries, ∀ f ∈ d.claims.entries,
    e.1 = f.1 → (e.2 == f.2) = true

private theorem foldlM_insertClaim (entries : List (String × Value)) :
    ∀ (seen : List (String × Value)) (merged : TextMap Value),
      (∀ name value, merged.get name = some value → (name, value) ∈ seen) →
      (∀ e ∈ seen ++ entries, ∀ f ∈ seen ++ entries, e.1 = f.1 → (e.2 == f.2) = true) →
      ∃ claims, entries.foldlM insertClaim merged = .ok claims := by
  induction entries with
  | nil =>
      intro seen merged _ _
      exact ⟨merged, rfl⟩
  | cons e entries ih =>
      intro seen merged hseen hagree
      have hinsert : insertClaim merged e = .ok (merged.insert e.1 e.2) := by
        have hnone : ¬ ((merged.get e.1).any fun previous => !(previous == e.2)) = true := by
          cases hget : merged.get e.1 with
          | none => simp
          | some previous =>
              have hsame := hagree (e.1, previous)
                (List.mem_append_left _ (hseen _ _ hget)) e (by simp) rfl
              simpa using hsame
        rw [insertClaim, (rejectIf_eq_ok (u := ())).mpr hnone]
        rfl
      have hbound : ∀ name value, (merged.insert e.1 e.2).get name = some value →
          (name, value) ∈ seen ++ [e] := by
        intro name value hget
        rw [BTreeMap.get_insert] at hget
        split at hget
        · next hname =>
          cases hget
          simp [hname]
        · exact List.mem_append_left _ (hseen name value hget)
      obtain ⟨claims, hclaims⟩ := ih (seen ++ [e]) (merged.insert e.1 e.2) hbound
        (by simpa using hagree)
      refine ⟨claims, ?_⟩
      rw [List.foldlM_cons, hinsert]
      exact hclaims

/-- Claims on which the credentials agree can be merged. -/
theorem mergedVerifiedClaims_ok {credentials : List AuthenticatedCredentialEvidence}
    (h : ClaimsAgree credentials) :
    ∃ claims, mergedVerifiedClaims credentials = .ok claims := by
  refine foldlM_insertClaim _ [] BTreeMap.empty (by simp) ?_
  intro e he f hf
  obtain ⟨c, hc, he⟩ := List.mem_flatMap.mp he
  obtain ⟨d, hd, hf⟩ := List.mem_flatMap.mp hf
  exact h c hc d hd e he f hf

theorem valuesBeq_refl (entries : List (String × Value)) : valuesBeq entries entries = true := by
  induction entries with
  | nil => rfl
  | cons e entries ih => simp [valuesBeq, ih]

@[simp] theorem sameClaims_refl (claims : TextMap Value) : sameClaims claims claims = true :=
  valuesBeq_refl claims.entries

theorem sameClaims_empty {claims : TextMap Value} :
    sameClaims claims BTreeMap.empty = true ↔ claims.entries.isEmpty = true := by
  cases h : claims.entries with
  | nil => simp [sameClaims, h, BTreeMap.empty, valuesBeq]
  | cons e entries => simp [sameClaims, h, BTreeMap.empty, valuesBeq]

/-! ## Verdicts -/

/-- What a verifier concludes from the evidence. -/
structure Verdict where
  checks : List Oid4vpCheckEvidence
  processingStatus : EvidenceProcessingStatus
  policyResult : AuthenticatedPolicyResultV1
  decision : AuthenticatedDecision

/-- The same evidence with another verdict. -/
def Oid4vpEvidenceProjectionV1.withVerdict (projection : Oid4vpEvidenceProjectionV1)
    (verdict : Verdict) : Oid4vpEvidenceProjectionV1 :=
  { projection with
    checks := verdict.checks
    processingStatus := verdict.processingStatus
    policyResult := verdict.policyResult
    decision := verdict.decision }

/-- Equality of verdicts, with the verified claims compared as JSON values are. -/
def Verdict.Same (verdict other : Verdict) : Prop :=
  verdict.checks = other.checks ∧ verdict.processingStatus = other.processingStatus ∧
    verdict.decision = other.decision ∧
    { verdict.policyResult with verifiedClaims := other.policyResult.verifiedClaims } =
      other.policyResult ∧
    sameClaims verdict.policyResult.verifiedClaims other.policyResult.verifiedClaims = true

@[simp] theorem Verdict.same_refl (verdict : Verdict) : verdict.Same verdict := by
  simp [Verdict.Same]

/-- A verdict is accepted for the evidence. -/
def Accepts (projection : Oid4vpEvidenceProjectionV1) (request : FrozenOid4vpRequestV1)
    (state : CredentialValidationState) (now : Int) (verdict : Verdict) : Prop :=
  (projection.withVerdict verdict).validateVerdict request state now = .ok ()

section

variable (projection : Oid4vpEvidenceProjectionV1) (request : FrozenOid4vpRequestV1)
  (state : CredentialValidationState)

/-- The evidence with the checks that it determines. -/
def Oid4vpEvidenceProjectionV1.withExpectedChecks : Oid4vpEvidenceProjectionV1 :=
  { projection with checks := expectedChecks projection request state }

/-- The counts of the evidence. -/
def evidenceCounts : PolicyParityCounts :=
  parityCounts request state (projection.presentation.proof.outcome == .passed)

/-- Every obligation is met by the evidence. -/
def evidenceSatisfied : Bool :=
  fullySatisfied (projection.withExpectedChecks request state) request state
    (evidenceCounts projection request state)

def evidenceViolations : List String :=
  expectedPolicyViolations (projection.withExpectedChecks request state) request state
    (globalIndices request)

def evidenceDecision : AuthenticatedResult × AuthenticatedDecisionAction :=
  expectedDecision (projection.withExpectedChecks request state) request state
    (evidenceCounts projection request state)

def evidenceReason : String :=
  if evidenceSatisfied projection request state then policyPassedCode
  else (evidenceViolations projection request state).headD ""

/-- The verdict that the checks compute again, with the claims of a satisfied policy. -/
def expectedVerdict (now : Int) (claims : TextMap Value) : Verdict where
  checks := expectedChecks projection request state
  processingStatus := expectedProcessing projection request state
  policyResult := {
    policy := request.policy.identity
    result := (evidenceDecision projection request state).1
    decision := (evidenceDecision projection request state).2
    reasonCode := evidenceReason projection request state
    evaluatedCredentialIds := BTreeSet.toList state.credentialIds
    totalRequirements := (evidenceCounts projection request state).total
    satisfiedRequirements := (evidenceCounts projection request state).satisfied
    requiredTotal := (evidenceCounts projection request state).requiredTotal
    requiredSatisfied := (evidenceCounts projection request state).requiredSatisfied
    verifiedClaims := if evidenceSatisfied projection request state then claims else BTreeMap.empty
    violationCodes := if evidenceSatisfied projection request state then []
      else evidenceViolations projection request state
    evaluationTimeEpochSeconds := now }
  decision := ⟨(evidenceDecision projection request state).1,
    (evidenceDecision projection request state).2, evidenceReason projection request state⟩

end

variable {projection : Oid4vpEvidenceProjectionV1} {request : FrozenOid4vpRequestV1}
  {state : CredentialValidationState} {now : Int}

/-! ## Violations -/

private theorem violationsAt_eq_nil {checks : List Oid4vpCheckEvidence} {indices : List Nat} :
    violationsAt checks indices = [] ↔ ∀ check ∈ checksAt checks indices,
      check.outcome = .passed := by
  simp [violationsAt, List.filter_eq_nil_iff]

private theorem length_violationsAt_le (checks : List Oid4vpCheckEvidence)
    (indices : List Nat) : (violationsAt checks indices).length ≤ indices.length := by
  rw [violationsAt, List.length_map]
  exact (List.length_filter_le _ _).trans (List.length_filterMap_le _ _)

/-- A policy that is not satisfied has a violation: a global check that is not passed, or a
check on the credentials that is not. -/
theorem evidenceViolations_ne_nil (hwf : request.WellFormed)
    (hcredentials : CredentialsValidated projection request now state)
    (hunsatisfied : evidenceSatisfied projection request state = false) :
    evidenceViolations projection request state ≠ [] := by
  intro hnil
  have hnone : ∀ code, code ∉ evidenceViolations projection request state := by
    simp [hnil]
  simp only [evidenceViolations, expectedPolicyViolations, mem_sortDedup] at hnone
  have hpassed : requiredPolicyOutcome request state = .passed := by
    by_contra hnot
    simp only [hnot, if_false, List.mem_append, not_or] at hnone
    have hchecks := violationsAt_eq_nil.mp
      (List.eq_nil_iff_forall_not_mem.mpr fun code => (hnone code).2)
    simp only [checksAt, Oid4vpEvidenceProjectionV1.withExpectedChecks, expectedChecks,
      expectedOutcomes, requiredOid4vpChecks, List.zip_cons_cons, List.map_cons,
      List.filterMap_cons, List.getElem?_cons_succ, List.getElem?_cons_zero,
      List.filterMap_nil, List.mem_cons, forall_eq_or_imp] at hchecks
    exact hnot (requiredPolicyOutcome_of_checks hwf hcredentials hchecks.1 hchecks.2.1
      hchecks.2.2.1 hchecks.2.2.2.1)
  have hglobal : globalOutcome (projection.withExpectedChecks request state) request
      = .passed := by
    simp only [hpassed, if_true] at hnone
    have hchecks := violationsAt_eq_nil.mp (List.eq_nil_iff_forall_not_mem.mpr hnone)
    rw [globalOutcome, aggregateOutcomes_eq_passed]
    constructor
    · cases hproof : request.policy.presentationProofRequired <;>
        simp [globalIndices, hproof, checksAt, Oid4vpEvidenceProjectionV1.withExpectedChecks,
          expectedChecks, expectedOutcomes, requiredOid4vpChecks]
    · intro outcome houtcome
      obtain ⟨check, hcheck, rfl⟩ := List.mem_map.mp houtcome
      exact hchecks check hcheck
  have hcounts := (@counts_agree (projection.withExpectedChecks request state) request state
    rfl).mpr ⟨hpassed, hglobal⟩
  have hfull : evidenceSatisfied projection request state = true :=
    (fullySatisfied_iff _ _ _).mpr ⟨hcounts.1, hglobal, hpassed⟩
  rw [hunsatisfied] at hfull
  cases hfull

theorem evidenceViolations_sorted :
    (evidenceViolations projection request state).Pairwise (· < ·) :=
  sorted_sortDedup _

theorem evidenceViolations_length_le :
    (evidenceViolations projection request state).length ≤ maxEvidenceListItems := by
  have hglobal := length_violationsAt_le
    (projection.withExpectedChecks request state).checks (globalIndices request)
  have hcredentials := length_violationsAt_le
    (projection.withExpectedChecks request state).checks [2, 3, 4, 7]
  have hindices : (globalIndices request).length ≤ 4 := by
    unfold globalIndices
    split <;> decide
  refine (length_sortDedup_le _).trans ?_
  simp only [maxEvidenceListItems, List.length_cons, List.length_nil] at hcredentials ⊢
  split
  · omega
  · rw [List.length_append]
    omega

/-- Every violation is the code of a check. -/
theorem requireCode_of_mem_violations {code : String}
    (h : code ∈ evidenceViolations projection request state) (field : String) :
    requireCode code field = .ok () := by
  have hcheck : ∃ check ∈ expectedChecks projection request state, check.code = code := by
    have hat : ∀ indices, code ∈ violationsAt (expectedChecks projection request state) indices →
        ∃ check ∈ expectedChecks projection request state, check.code = code := by
      intro indices hin
      obtain ⟨check, hcheck, hcode⟩ := List.mem_map.mp hin
      obtain ⟨index, -, hindex⟩ := List.mem_filterMap.mp (List.mem_filter.mp hcheck).1
      exact ⟨check, List.mem_of_getElem? hindex, hcode⟩
    simp only [evidenceViolations, expectedPolicyViolations, mem_sortDedup] at h
    split at h
    · exact hat _ h
    · rcases List.mem_append.mp h with h | h
      · exact hat _ h
      · exact hat _ h
  obtain ⟨check, hmem, rfl⟩ := hcheck
  obtain ⟨e, -, rfl⟩ := List.mem_map.mp hmem
  exact requireCode_expectedCode projection request e.1 e.2 field

private theorem requireCode_evidenceReason (hwf : request.WellFormed)
    (hcredentials : CredentialsValidated projection request now state) (field : String) :
    requireCode (evidenceReason projection request state) field = .ok () := by
  unfold evidenceReason
  split
  · exact requireCode_eq_ok.mpr (by decide +kernel)
  · next hfull =>
    have hne := evidenceViolations_ne_nil hwf hcredentials (Bool.eq_false_iff.mpr hfull)
    have hmem : (evidenceViolations projection request state).headD "" ∈
        evidenceViolations projection request state := by
      rw [List.headD_eq_head?_getD, List.head?_eq_some_head hne]
      exact List.head_mem hne
    exact requireCode_of_mem_violations hmem field

private theorem validateStringList_violations (field : String) :
    validateStringList (evidenceViolations projection request state) field true = .ok () := by
  refine validateStringList_eq_ok.mpr ⟨nofun, evidenceViolations_length_le, ?_,
    evidenceViolations_sorted⟩
  intro code hcode
  exact requireIdentifier_of_code (requireCode_of_mem_violations hcode field)

/-! ## The accepted verdict -/

/-- What a verdict with the expected checks must say to be accepted. -/
private theorem validateDecision_eq_ok (hwf : request.WellFormed) {verdict : Verdict}
    (hchecks : verdict.checks = expectedChecks projection request state) :
    (projection.withVerdict verdict).validateDecision request state now = .ok () ↔
      validatePolicyResultHead (projection.withVerdict verdict) request state
          (evidenceCounts projection request state) now = .ok () ∧
        requireCode verdict.policyResult.reasonCode "policy_result.reason_code" = .ok () ∧
        requireCode verdict.decision.reasonCode "decision.reason_code" = .ok () ∧
        verdict.policyResult.violationCodes.length ≤ maxEvidenceListItems ∧
        validateStringList verdict.policyResult.violationCodes "policy_result.violation_codes"
          true = .ok () ∧
        ((verdict.policyResult.result, verdict.policyResult.decision) =
            evidenceDecision projection request state ∧
          (verdict.decision.result, verdict.decision.decision) =
            evidenceDecision projection request state ∧
          verdict.policyResult.reasonCode = verdict.decision.reasonCode) ∧
        if evidenceSatisfied projection request state then
          verdict.policyResult.violationCodes = [] ∧
            verdict.policyResult.reasonCode = policyPassedCode ∧
            ∃ claims, policyVerifiedClaims projection request state = .ok claims ∧
              sameClaims verdict.policyResult.verifiedClaims claims = true
        else
          ∃ first, (evidenceViolations projection request state).head? = some first ∧
            verdict.policyResult.verifiedClaims.entries.isEmpty = true ∧
            verdict.policyResult.reasonCode = first ∧
            verdict.policyResult.violationCodes = evidenceViolations projection request state := by
  have hcounts : policyParityCounts request state
      ((projection.withVerdict verdict).presentation.proof.outcome == .passed) =
        .ok (evidenceCounts projection request state) :=
    policyParityCounts_eq hwf _
  have hglobal : globalOutcome (projection.withVerdict verdict) request =
      globalOutcome (projection.withExpectedChecks request state) request := by
    simp only [globalOutcome, Oid4vpEvidenceProjectionV1.withVerdict,
      Oid4vpEvidenceProjectionV1.withExpectedChecks, hchecks]
  have hdecision : expectedDecision (projection.withVerdict verdict) request state
      (evidenceCounts projection request state) = evidenceDecision projection request state := by
    rw [evidenceDecision, expectedDecision, expectedDecision, fullySatisfied, fullySatisfied,
      hglobal]
  have hsatisfied : fullySatisfied (projection.withVerdict verdict) request state
      (evidenceCounts projection request state) = evidenceSatisfied projection request state := by
    rw [evidenceSatisfied, fullySatisfied, fullySatisfied, hglobal]
  have hviolations : expectedPolicyViolations (projection.withVerdict verdict) request state
      (globalIndices request) = evidenceViolations projection request state := by
    simp only [evidenceViolations, expectedPolicyViolations,
      Oid4vpEvidenceProjectionV1.withVerdict, Oid4vpEvidenceProjectionV1.withExpectedChecks,
      hchecks]
  have hclaims : policyVerifiedClaims (projection.withVerdict verdict) request state =
      policyVerifiedClaims projection request state := rfl
  have houtcome : validatePolicyOutcome (projection.withVerdict verdict) request state
      (evidenceCounts projection request state) = .ok () ↔
        if evidenceSatisfied projection request state then
          verdict.policyResult.violationCodes = [] ∧
            verdict.policyResult.reasonCode = policyPassedCode ∧
            ∃ claims, policyVerifiedClaims projection request state = .ok claims ∧
              sameClaims verdict.policyResult.verifiedClaims claims = true
        else
          ∃ first, (evidenceViolations projection request state).head? = some first ∧
            verdict.policyResult.verifiedClaims.entries.isEmpty = true ∧
            verdict.policyResult.reasonCode = first ∧
            verdict.policyResult.violationCodes =
              evidenceViolations projection request state := by
    simp only [validatePolicyOutcome, hsatisfied, hviolations, hclaims]
    split <;> simp only [bind_eq_ok, exists_unit, rejectIf_eq_ok, okOr_eq_ok, not_or, not_not,
      Bool.not_eq_false, List.isEmpty_iff, and_assoc] <;> rfl
  rw [← houtcome]
  simp only [Oid4vpEvidenceProjectionV1.validateDecision, bind_eq_ok, exists_unit,
    rejectIf_eq_ok, not_or, not_not, not_lt, hcounts, Except.ok.injEq, exists_eq_left',
    hdecision]
  rfl

private theorem validatePolicyResultHead_eq_ok {verdict : Verdict} :
    validatePolicyResultHead (projection.withVerdict verdict) request state
        (evidenceCounts projection request state) now = .ok () ↔
      verdict.policyResult.policy = request.policy.identity ∧
        verdict.policyResult.evaluationTimeEpochSeconds = now ∧
        verdict.policyResult.totalRequirements =
          (evidenceCounts projection request state).total ∧
        verdict.policyResult.satisfiedRequirements =
          (evidenceCounts projection request state).satisfied ∧
        verdict.policyResult.requiredTotal =
          (evidenceCounts projection request state).requiredTotal ∧
        verdict.policyResult.requiredSatisfied =
          (evidenceCounts projection request state).requiredSatisfied ∧
        verdict.policyResult.evaluatedCredentialIds = BTreeSet.toList state.credentialIds := by
  simp only [validatePolicyResultHead, rejectIf_eq_ok, not_or, not_not]
  rfl

/-- The policy result of an accepted verdict, apart from its verified claims. -/
private theorem policyResult_eq {result : AuthenticatedPolicyResultV1} {claims : TextMap Value}
    {expected : AuthenticatedPolicyResultV1} (hpolicy : result.policy = expected.policy)
    (hresult : result.result = expected.result) (hdecision : result.decision = expected.decision)
    (hreason : result.reasonCode = expected.reasonCode)
    (hids : result.evaluatedCredentialIds = expected.evaluatedCredentialIds)
    (htotal : result.totalRequirements = expected.totalRequirements)
    (hsatisfied : result.satisfiedRequirements = expected.satisfiedRequirements)
    (hrequiredTotal : result.requiredTotal = expected.requiredTotal)
    (hrequiredSatisfied : result.requiredSatisfied = expected.requiredSatisfied)
    (hclaims : claims = expected.verifiedClaims)
    (hviolations : result.violationCodes = expected.violationCodes)
    (htime : result.evaluationTimeEpochSeconds = expected.evaluationTimeEpochSeconds) :
    { result with verifiedClaims := claims } = expected := by
  cases result
  cases expected
  simp_all

private theorem validateChecks_withVerdict {verdict : Verdict} :
    (projection.withVerdict verdict).validateChecks request state = .ok () ↔
      verdict.checks = expectedChecks projection request state ∧
        verdict.processingStatus = expectedProcessing projection request state :=
  validateChecks_eq_ok (projection.withVerdict verdict) request state

/-- **Exactly the expected verdict is accepted.** -/
theorem accepts_iff (hwf : request.WellFormed)
    (hcredentials : CredentialsValidated projection request now state) {claims : TextMap Value}
    (hclaims : evidenceSatisfied projection request state = true →
      policyVerifiedClaims projection request state = .ok claims) (verdict : Verdict) :
    Accepts projection request state now verdict ↔
      verdict.Same (expectedVerdict projection request state now claims) := by
  rw [Accepts, Oid4vpEvidenceProjectionV1.validateVerdict, bind_eq_ok, exists_unit,
    validateChecks_withVerdict]
  constructor
  · rintro ⟨⟨hchecks, hprocessing⟩, haccepted⟩
    obtain ⟨hhead, -, -, -, -, ⟨hresult, hfinal, hreasons⟩, houtcome⟩ :=
      (validateDecision_eq_ok hwf hchecks).mp haccepted
    obtain ⟨hpolicy, htime, htotal, hsatisfied, hrequiredTotal, hrequiredSatisfied, hids⟩ :=
      validatePolicyResultHead_eq_ok.mp hhead
    have hrest : verdict.policyResult.reasonCode = evidenceReason projection request state ∧
        verdict.policyResult.violationCodes =
          (expectedVerdict projection request state now claims).policyResult.violationCodes ∧
        sameClaims verdict.policyResult.verifiedClaims
          (expectedVerdict projection request state now claims).policyResult.verifiedClaims
            = true := by
      by_cases hfull : evidenceSatisfied projection request state = true
      · rw [if_pos hfull] at houtcome
        obtain ⟨hviolations, hreason, merged, hmerged, hsame⟩ := houtcome
        rw [hclaims hfull, Except.ok.injEq] at hmerged
        subst hmerged
        simpa [expectedVerdict, evidenceReason, hfull] using ⟨hreason, hviolations, hsame⟩
      · rw [if_neg hfull] at houtcome
        obtain ⟨first, hfirst, hempty, hreason, hviolations⟩ := houtcome
        rw [← sameClaims_empty] at hempty
        simpa [expectedVerdict, evidenceReason, hfull, hfirst] using
          ⟨hreason, hviolations, hempty⟩
    simp only [Prod.ext_iff] at hresult hfinal
    refine ⟨hchecks, hprocessing, ?_, ?_, hrest.2.2⟩
    · calc verdict.decision
          = ⟨verdict.decision.result, verdict.decision.decision, verdict.decision.reasonCode⟩ :=
            rfl
        _ = (expectedVerdict projection request state now claims).decision := by
            rw [hfinal.1, hfinal.2, ← hreasons, hrest.1]
            rfl
    · exact policyResult_eq hpolicy hresult.1 hresult.2 hrest.1 hids htotal hsatisfied
        hrequiredTotal hrequiredSatisfied rfl hrest.2.1 htime
  · rintro ⟨hchecks, hprocessing, hdecision, hresult, hsame⟩
    have hreason : verdict.policyResult.reasonCode = evidenceReason projection request state :=
      congrArg (·.reasonCode) hresult
    have hviolations : verdict.policyResult.violationCodes =
        if evidenceSatisfied projection request state then []
        else evidenceViolations projection request state :=
      congrArg (·.violationCodes) hresult
    have hcode := requireCode_evidenceReason hwf hcredentials
    refine ⟨⟨hchecks, hprocessing⟩, (validateDecision_eq_ok hwf hchecks).mpr
      ⟨?_, ?_, ?_, ?_, ?_, ⟨?_, ?_, ?_⟩, ?_⟩⟩
    · exact validatePolicyResultHead_eq_ok.mpr
        ⟨congrArg (·.policy) hresult, congrArg (·.evaluationTimeEpochSeconds) hresult,
          congrArg (·.totalRequirements) hresult, congrArg (·.satisfiedRequirements) hresult,
          congrArg (·.requiredTotal) hresult, congrArg (·.requiredSatisfied) hresult,
          congrArg (·.evaluatedCredentialIds) hresult⟩
    · rw [hreason]
      exact hcode _
    · rw [hdecision]
      exact hcode _
    · rw [hviolations]
      split
      · exact Nat.zero_le _
      · exact evidenceViolations_length_le
    · rw [hviolations]
      split
      · rfl
      · exact validateStringList_violations _
    · exact Prod.ext (congrArg (·.result) hresult) (congrArg (·.decision) hresult)
    · rw [hdecision]
      rfl
    · rw [hreason, hdecision]
      rfl
    · by_cases hfull : evidenceSatisfied projection request state = true
      · rw [if_pos hfull] at hviolations ⊢
        refine ⟨hviolations, by rw [hreason, evidenceReason, if_pos hfull], claims,
          hclaims hfull, ?_⟩
        simpa [expectedVerdict, hfull] using hsame
      · have hne := evidenceViolations_ne_nil hwf hcredentials (Bool.eq_false_iff.mpr hfull)
        rw [if_neg hfull] at hviolations ⊢
        refine ⟨_, List.head?_eq_some_head hne, ?_, ?_, hviolations⟩
        · rw [← sameClaims_empty]
          simpa [expectedVerdict, hfull] using hsame
        · rw [hreason, evidenceReason, if_neg hfull, List.headD_eq_head?_getD,
            List.head?_eq_some_head hne, Option.getD_some]

/-- What the evidence determines: the counts, which fit and agree with the outcomes, the
violations of a policy that is not satisfied, and the one accepted verdict. -/
structure VerdictDetermined (projection : Oid4vpEvidenceProjectionV1)
    (request : FrozenOid4vpRequestV1) (state : CredentialValidationState) (now : Int) :
    Prop where
  counts : policyParityCounts request state
    (projection.presentation.proof.outcome == .passed)
      = .ok (evidenceCounts projection request state)
  agree : ((evidenceCounts projection request state).requiredSatisfied =
        (evidenceCounts projection request state).requiredTotal ∧
      globalOutcome (projection.withExpectedChecks request state) request = .passed) ↔
    requiredPolicyOutcome request state = .passed ∧
      globalOutcome (projection.withExpectedChecks request state) request = .passed
  violations : evidenceSatisfied projection request state = false →
    evidenceViolations projection request state ≠ [] ∧
      (evidenceViolations projection request state).Pairwise (· < ·) ∧
      (evidenceViolations projection request state).length ≤ maxEvidenceListItems
  unique : ∃ verdict, Accepts projection request state now verdict ∧
    ∀ other, Accepts projection request state now other ↔ other.Same verdict

/-- **The evidence determines exactly one decision.**  For validated credentials, which agree
on the claims the policy selects when it is satisfied, exactly one verdict is accepted, up to
the order of the keys within a JSON object.  The records of the facts and of the bindings
need not be valid: only their outcomes count. -/
theorem verdict_determined {submission : WalletSubmissionV1}
    (hrequest : request.validateStructure packages = .ok ())
    (hcredentials : projection.validateCredentials packages request submission now = .ok state)
    (hagree : evidenceSatisfied projection request state = true →
      ClaimsAgree (selectedCredentials projection request state)) :
    VerdictDetermined projection request state now := by
  have hwf := FrozenOid4vpRequestV1.wellFormed packages hrequest
  have hvalidated := validateCredentials_eq_ok packages hcredentials
  refine ⟨policyParityCounts_eq hwf _, ?_, ?_, ?_⟩
  · exact @counts_agree (projection.withExpectedChecks request state) request state rfl
  · intro hunsatisfied
    exact ⟨evidenceViolations_ne_nil hwf hvalidated hunsatisfied, evidenceViolations_sorted,
      evidenceViolations_length_le⟩
  · have hclaims : ∃ claims, evidenceSatisfied projection request state = true →
        policyVerifiedClaims projection request state = .ok claims := by
      by_cases hfull : evidenceSatisfied projection request state = true
      · obtain ⟨claims, hmerged⟩ := mergedVerifiedClaims_ok (hagree hfull)
        exact ⟨claims, fun _ => hmerged⟩
      · exact ⟨BTreeMap.empty, fun h => absurd h hfull⟩
    obtain ⟨claims, hclaims⟩ := hclaims
    have haccepts := accepts_iff hwf hvalidated hclaims
    exact ⟨expectedVerdict projection request state now claims,
      (haccepts _).mpr (Verdict.same_refl _), haccepts⟩

private theorem mem_of_mem_selectedCredentials {credential : AuthenticatedCredentialEvidence}
    (h : credential ∈ selectedCredentials projection request state) :
    credential ∈ projection.credentials :=
  List.mem_of_mem_filter h

private theorem claimsAgree_example (state : CredentialValidationState) :
    ClaimsAgree (selectedCredentials Example.projection Example.request state) := by
  intro c hc d hd e he f hf _
  have hsame : ∀ c ∈ selectedCredentials Example.projection Example.request state,
      c.claims.entries = [("name", .string "Avery")] := by
    intro c hc
    have hmem := mem_of_mem_selectedCredentials hc
    simp only [Example.projection, List.mem_singleton] at hmem
    rw [hmem]
    rfl
  rw [hsame c hc, List.mem_singleton] at he
  rw [hsame d hd, List.mem_singleton] at hf
  rw [he, hf]
  exact Json.Value.beq_refl _

/-- The accepted projection of one credential carries the one verdict for its evidence. -/
theorem verdict_determined_example :
    ∃ state, Example.projection.validateCredentials Example.packages Example.request
        Example.submission 1200 = .ok state ∧
      VerdictDetermined Example.projection Example.request state 1200 := by
  obtain ⟨hstructure, -, -, -, -, hcredentials, -⟩ := Example.request_ok
  exact ⟨Example.state, hcredentials, verdict_determined Example.packages hstructure hcredentials
    fun _ => claimsAgree_example Example.state⟩

end Marty.Oid4vp
