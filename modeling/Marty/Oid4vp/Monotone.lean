import Marty.Oid4vp.Determinacy
import Mathlib.Data.List.Forall2

/-!
# The decision is monotone in the outcomes

Weaker evidence never leads to a better decision: when outcomes are replaced by weaker ones and
all else stays, no requirement comes to be passed, no count grows, and a projection that was not
allowed is not allowed.

## Main definitions

* `EvidenceCheckOutcome.Weakens` — failed is weaker than indeterminate, and that than passed.
* `Weakened` — the same evidence with weaker outcomes.
* `NoBetter` — what is promised of weaker evidence.

## Main results

* `decision_monotone` — weaker evidence is no better.
-/

namespace Marty.Oid4vp

open Lib Lib.Checked

/-! ## Weaker outcomes -/

namespace EvidenceCheckOutcome

def rank : EvidenceCheckOutcome → Nat
  | .passed => 2
  | .indeterminate => 1
  | .failed => 0

/-- The second outcome is the first, or one that is weaker. -/
def Weakens (outcome outcome' : EvidenceCheckOutcome) : Prop := outcome'.rank ≤ outcome.rank

variable {outcome outcome' : EvidenceCheckOutcome}

theorem Weakens.refl (outcome : EvidenceCheckOutcome) : outcome.Weakens outcome := le_rfl

theorem weakens_iff : outcome.Weakens outcome' ↔
    (outcome' = .passed → outcome = .passed) ∧ (outcome = .failed → outcome' = .failed) := by
  cases outcome <;> cases outcome' <;> simp [Weakens, rank]

theorem Weakens.passed (h : outcome.Weakens outcome') (hpassed : outcome' = .passed) :
    outcome = .passed :=
  (weakens_iff.mp h).1 hpassed

end EvidenceCheckOutcome

open EvidenceCheckOutcome

theorem aggregateFrom_weakens {outcomes outcomes' : List EvidenceCheckOutcome}
    {any indeterminate indeterminate' : Bool} (h : List.Forall₂ Weakens outcomes outcomes')
    (himp : indeterminate = true → indeterminate' = true) :
    (aggregateFrom any indeterminate outcomes).Weakens
      (aggregateFrom any indeterminate' outcomes') := by
  induction h generalizing any indeterminate indeterminate' with
  | nil =>
    rw [weakens_iff]
    simp only [aggregateFrom]
    cases any <;> cases indeterminate <;> simp_all
  | @cons o o' outcomes outcomes' ho _ ih =>
    cases o' with
    | failed => exact Nat.zero_le _
    | indeterminate =>
      cases o with
      | failed => exact absurd ho (by simp [Weakens, rank])
      | indeterminate => exact ih fun h => h
      | passed => exact ih fun _ => rfl
    | passed =>
      have hpassed : o = .passed := ho.passed rfl
      subst o
      exact ih himp

/-- Aggregation keeps the order. -/
theorem aggregateOutcomes_weakens {outcomes outcomes' : List EvidenceCheckOutcome}
    (h : List.Forall₂ Weakens outcomes outcomes') :
    (aggregateOutcomes outcomes).Weakens (aggregateOutcomes outcomes') :=
  aggregateFrom_weakens h fun h => h

/-! ## Weaker evidence -/

/-- The same credential with weaker outcomes: what the decision reads besides them is the same. -/
structure WeakenedCredential (credential credential' : AuthenticatedCredentialEvidence) : Prop where
  credentialId : credential'.credentialId = credential.credentialId
  queryId : credential'.queryId = credential.queryId
  format : credential'.format = credential.format
  types : credential'.authenticatedTypeOrVct = credential.authenticatedTypeOrVct
  claims : credential'.claims = credential.claims
  proofAlgorithm : credential'.proofAlgorithm = credential.proofAlgorithm
  proof : credential.proof.outcome.Weakens credential'.proof.outcome
  trust : credential.trust.outcome.Weakens credential'.trust.outcome
  status : credential.status.outcome.Weakens credential'.status.outcome

/-- The same evidence with weaker outcomes of credentials, presentation facts and bindings. -/
structure Weakened (projection projection' : Oid4vpEvidenceProjectionV1) : Prop where
  credentials : List.Forall₂ WeakenedCredential projection.credentials projection'.credentials
  structureFact : projection.presentation.structureFact.outcome.Weakens
    projection'.presentation.structureFact.outcome
  proof : projection.presentation.proof.outcome.Weakens projection'.presentation.proof.outcome
  holder : projection.binding.holder.outcome.Weakens projection'.binding.holder.outcome
  challenge : projection.binding.challenge.outcome.Weakens projection'.binding.challenge.outcome
  audience : projection.binding.audience.outcome.Weakens projection'.binding.audience.outcome
  replay : projection.binding.replay.outcome.Weakens projection'.binding.replay.outcome

variable {projection projection' : Oid4vpEvidenceProjectionV1} {request : FrozenOid4vpRequestV1}
  {state state' : CredentialValidationState} {now now' : Int}

theorem WeakenedCredential.matches_iff {credential credential' : AuthenticatedCredentialEvidence}
    (h : WeakenedCredential credential credential') (requirement : FrozenCredentialRequirement) :
    credentialMatchesRequirement credential' requirement ↔
      credentialMatchesRequirement credential requirement := by
  rw [credentialMatchesRequirement, credentialMatchesRequirement, h.format, h.types, h.claims,
    h.proofAlgorithm]

theorem Weakened.answering (h : Weakened projection projection') (id : String) :
    List.Forall₂ WeakenedCredential (projection.answering id) (projection'.answering id) := by
  refine List.rel_filter ?_ h.credentials
  intro credential credential' hc
  simp only [hc.queryId]

theorem all_match_iff {credentials credentials' : List AuthenticatedCredentialEvidence}
    (h : List.Forall₂ WeakenedCredential credentials credentials')
    (requirement : FrozenCredentialRequirement) :
    (∀ credential ∈ credentials', credentialMatchesRequirement credential requirement) ↔
      ∀ credential ∈ credentials, credentialMatchesRequirement credential requirement := by
  induction h with
  | nil => exact Iff.rfl
  | cons hc _ ih => rw [List.forall_mem_cons, List.forall_mem_cons, hc.matches_iff, ih]

/-- An assessment follows the outcomes of the credentials. -/
theorem requirementAssessment_weakens
    {credentials credentials' : List AuthenticatedCredentialEvidence}
    (h : List.Forall₂ WeakenedCredential credentials credentials')
    (requirement : FrozenCredentialRequirement) :
    (requirementAssessment requirement credentials).outcome.Weakens
      (requirementAssessment requirement credentials').outcome := by
  unfold requirementAssessment
  by_cases hall : ∀ credential ∈ credentials, credentialMatchesRequirement credential requirement
  · rw [if_pos hall, if_pos ((all_match_iff h requirement).mpr hall)]
    refine aggregateOutcomes_weakens (List.rel_flatMap h ?_)
    intro credential credential' hc
    exact .cons hc.proof (.cons hc.trust (.cons hc.status .nil))
  · rw [if_neg hall, if_neg fun hall' => hall ((all_match_iff h requirement).mp hall')]
    exact Weakens.refl _

/-! ## Weaker requirements -/

/-- The outcomes of the requirements follow those of the credentials. -/
theorem Weakened.requirementOutcomes (h : Weakened projection projection')
    (hstate : CredentialsValidated projection request now state)
    (hstate' : CredentialsValidated projection' request now' state') (id : String) :
    Option.Rel Weakens (state.requirementOutcomes.get id) (state'.requirementOutcomes.get id) := by
  rw [hstate.outcomes, hstate'.outcomes]
  refine BTreeMap.get_ofEntries_rel ?_ id
  rw [List.forall₂_map_left_iff, List.forall₂_map_right_iff, List.forall₂_same]
  exact fun requirement _ => ⟨rfl, requirementAssessment_weakens (h.answering _) requirement⟩

theorem isSatisfied_of_rel {id : String}
    (h : Option.Rel Weakens (state.requirementOutcomes.get id) (state'.requirementOutcomes.get id))
    (hsatisfied : isSatisfied state' id = true) : isSatisfied state id = true := by
  unfold isSatisfied at hsatisfied ⊢
  generalize state.requirementOutcomes.get id = outcome at h ⊢
  generalize state'.requirementOutcomes.get id = outcome' at h hsatisfied
  cases h with
  | none => exact hsatisfied
  | some hweak => rw [hweak.passed (by simpa using hsatisfied), beq_self_eq_true]

/-! What follows from the requirements that are passed. -/

section

variable (hids : ∀ id, isSatisfied state' id = true → isSatisfied state id = true)
include hids

theorem groupSatisfied_mono (group : FrozenAlternativeRequirementGroup)
    (h : groupSatisfied state' group = true) : groupSatisfied state group = true := by
  rw [groupSatisfied, decide_eq_true_iff] at h ⊢
  exact h.trans (List.countP_mono_left fun id _ => hids id)

theorem parityCounts_mono {proof proof' : Bool} (hproof : proof' = true → proof = true) :
    (parityCounts request state' proof').satisfied ≤ (parityCounts request state proof).satisfied ∧
      (parityCounts request state' proof').requiredSatisfied ≤
        (parityCounts request state proof).requiredSatisfied := by
  have hdirect := List.countP_mono_left (l := request.direct)
    fun r _ => hids r.id
  have hrequired := List.countP_mono_left (l := request.direct.filter (·.required))
    fun r _ => hids r.id
  have hgroups := List.countP_mono_left (l := request.policy.alternativeRequirementGroups)
    fun group _ => groupSatisfied_mono hids group
  have hunit : (request.policy.presentationProofRequired && proof').toNat ≤
      (request.policy.presentationProofRequired && proof).toNat := by
    cases request.policy.presentationProofRequired <;> cases proof' <;> simp_all
  simp only [parityCounts]
  omega

theorem requiredPolicyOutcome_mono (h : requiredPolicyOutcome request state' = .passed) :
    requiredPolicyOutcome request state = .passed := by
  rw [requiredPolicyOutcome_eq_passed] at h ⊢
  obtain ⟨hdirect, hgroups⟩ := h
  refine ⟨fun requirement hmem hrequired => ?_, fun group hgroup => ?_⟩
  · exact isSatisfied_iff.mp (hids _ (isSatisfied_iff.mpr (hdirect requirement hmem hrequired)))
  · exact groupSatisfied_iff.mp
      (groupSatisfied_mono hids group (groupSatisfied_iff.mpr (hgroups group hgroup)))

end

/-! ## The decision -/

/-- A policy is allowed when its requirements, and the checks on the presentation, are passed. -/
theorem evidenceDecision_allow : (evidenceDecision projection request state).2 = .allow ↔
    requiredPolicyOutcome request state = .passed ∧
      globalOutcome (projection.withExpectedChecks request state) request = .passed := by
  let counts := evidenceCounts projection request state
  have hagree : counts.requiredSatisfied = counts.requiredTotal ∧
        globalOutcome (projection.withExpectedChecks request state) request = .passed ↔
      requiredPolicyOutcome request state = .passed ∧
        globalOutcome (projection.withExpectedChecks request state) request = .passed :=
    @counts_agree (projection.withExpectedChecks request state) request state rfl
  rw [← hagree, evidenceDecision, expectedDecision_allow, fullySatisfied_iff]
  exact ⟨fun h => ⟨h.1, h.2.1⟩, fun h => ⟨h.1, h.2, (hagree.mp h).1⟩⟩

theorem Weakened.globalOutcome (h : Weakened projection projection')
    (hglobal : globalOutcome (projection'.withExpectedChecks request state') request = .passed) :
    globalOutcome (projection.withExpectedChecks request state) request = .passed := by
  rw [globalOutcome_eq_passed _ _ _ rfl] at hglobal ⊢
  obtain ⟨hstructure, hproof, hholder, hchallenge, haudience, hreplay⟩ := hglobal
  exact ⟨h.structureFact.passed hstructure, fun hrequired => h.proof.passed (hproof hrequired),
    h.holder.passed hholder, h.challenge.passed hchallenge, h.audience.passed haudience,
    h.replay.passed hreplay⟩

theorem policyParityCounts_eq_ok {proofSatisfied : Bool} {counts : PolicyParityCounts}
    (h : policyParityCounts request state proofSatisfied = .ok counts) :
    counts = parityCounts request state proofSatisfied := by
  simp only [policyParityCounts, bind_eq_ok, okOr_eq_ok, toU16_eq_some, pure, Except.pure,
    Except.ok.injEq] at h
  obtain ⟨_, ⟨-, rfl⟩, _, ⟨-, rfl⟩, _, ⟨-, rfl⟩, _, ⟨-, rfl⟩, _, ⟨-, rfl⟩, rfl⟩ := h
  rfl

/-- An accepted verdict carries the decision and the counts of its evidence. -/
theorem validateVerdict_eq_ok (h : projection.validateVerdict request state now = .ok ()) :
    projection.decision.decision = (evidenceDecision projection request state).2 ∧
      projection.policyResult.satisfiedRequirements =
        (evidenceCounts projection request state).satisfied ∧
      projection.policyResult.requiredSatisfied =
        (evidenceCounts projection request state).requiredSatisfied := by
  simp only [Oid4vpEvidenceProjectionV1.validateVerdict, bind_eq_ok, exists_unit,
    validateChecks_eq_ok, Oid4vpEvidenceProjectionV1.validateDecision] at h
  obtain ⟨⟨hchecks, -⟩, counts, hcounts, hhead, -, -, -, -, hexpected, -⟩ := h
  simp only [validatePolicyResultHead, rejectIf_eq_ok, not_or, not_not] at hhead hexpected
  have hsame : projection.withExpectedChecks request state = projection := by
    rw [Oid4vpEvidenceProjectionV1.withExpectedChecks, ← hchecks]
  have hcounts := policyParityCounts_eq_ok hcounts
  subst hcounts
  refine ⟨?_, hhead.2.2.2.1, hhead.2.2.2.2.2.1⟩
  rw [evidenceDecision, hsame]
  exact congrArg Prod.snd hexpected.2.1

/-- **Weaker evidence is no better**: what it would be allowed for, what it counts, and what of
it an accepted projection carries. -/
structure NoBetter (projection projection' : Oid4vpEvidenceProjectionV1)
    (request : FrozenOid4vpRequestV1) (state state' : CredentialValidationState) : Prop where
  allow : (evidenceDecision projection' request state').2 = .allow →
    (evidenceDecision projection request state).2 = .allow
  satisfied : (evidenceCounts projection' request state').satisfied ≤
    (evidenceCounts projection request state).satisfied
  requiredSatisfied : (evidenceCounts projection' request state').requiredSatisfied ≤
    (evidenceCounts projection request state).requiredSatisfied
  passed : ∀ id, isSatisfied state' id = true → isSatisfied state id = true
  accepted : ∀ now now', projection.validateVerdict request state now = .ok () →
    projection'.validateVerdict request state' now' = .ok () →
      (projection'.decision.decision = .allow → projection.decision.decision = .allow) ∧
      projection'.policyResult.satisfiedRequirements ≤
        projection.policyResult.satisfiedRequirements ∧
      projection'.policyResult.requiredSatisfied ≤ projection.policyResult.requiredSatisfied

/-- **The decision is monotone**: when the same credentials, presentation facts and bindings have
weaker outcomes, the second projection is no better than the first. -/
theorem decision_monotone (packages : Packages) {submission submission' : WalletSubmissionV1}
    (h : Weakened projection projection')
    (hstate : projection.validateCredentials packages request submission now = .ok state)
    (hstate' : projection'.validateCredentials packages request submission' now' = .ok state') :
    NoBetter projection projection' request state state' := by
  have hids : ∀ id, isSatisfied state' id = true → isSatisfied state id = true := fun id =>
    isSatisfied_of_rel (h.requirementOutcomes (validateCredentials_eq_ok packages hstate)
      (validateCredentials_eq_ok packages hstate') id)
  have hallow : (evidenceDecision projection' request state').2 = .allow →
      (evidenceDecision projection request state).2 = .allow := by
    rw [evidenceDecision_allow, evidenceDecision_allow]
    exact fun ⟨hpolicy, hglobal⟩ =>
      ⟨requiredPolicyOutcome_mono hids hpolicy, h.globalOutcome hglobal⟩
  have hproof : (projection'.presentation.proof.outcome == .passed) = true →
      (projection.presentation.proof.outcome == .passed) = true := by
    rw [beq_iff_eq, beq_iff_eq]
    exact h.proof.passed
  obtain ⟨hsatisfied, hrequired⟩ := @parityCounts_mono request state state' hids _ _ hproof
  refine ⟨hallow, hsatisfied, hrequired, hids, fun _ _ hok hok' => ?_⟩
  obtain ⟨hdecision, hcount, hcount'⟩ := validateVerdict_eq_ok hok
  obtain ⟨hdecision', hweak, hweak'⟩ := validateVerdict_eq_ok hok'
  rw [hdecision, hdecision', hcount, hcount', hweak, hweak']
  exact ⟨hallow, hsatisfied, hrequired⟩

/-- The accepted projection, had the proof of its presentation failed. -/
def Example.unproven : Oid4vpEvidenceProjectionV1 :=
  { Example.projection with
    presentation := { Example.projection.presentation with
      proof := { Example.projection.presentation.proof with outcome := .failed } } }

/-- Without the proof of its presentation, the accepted projection is no better. -/
theorem decision_monotone_unproven :
    NoBetter Example.projection Example.unproven Example.request Example.state Example.state := by
  obtain ⟨-, -, -, -, -, hcredentials, -⟩ := Example.request_ok
  have hweakened : Weakened Example.projection Example.unproven :=
    { credentials := List.forall₂_same.mpr fun _ _ =>
        ⟨rfl, rfl, rfl, rfl, rfl, rfl, Weakens.refl _, Weakens.refl _, Weakens.refl _⟩
      structureFact := Weakens.refl _
      proof := Nat.zero_le _
      holder := Weakens.refl _
      challenge := Weakens.refl _
      audience := Weakens.refl _
      replay := Weakens.refl _ }
  exact decision_monotone Example.packages hweakened hcredentials hcredentials

end Marty.Oid4vp
