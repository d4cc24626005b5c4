import Marty.Oid4vp.Decision

/-!
# Counts and outcomes agree

The policy is computed twice, by counting the obligations that are met and by aggregating
their outcomes.  For a well formed request the counts fit their type, and both
computations say the same.

## Main definitions

* `parityCounts` — the counts, without the bound of their type.
* `policyParityCounts_eq`, `counts_agree` — the counts are these, and agree with the
  outcomes.
* `requiredPolicyOutcome_of_checks` — a policy that is not passed has a check that is not.
-/

namespace Marty.Oid4vp

open Lib Lib.Checked

variable {projection : Oid4vpEvidenceProjectionV1} {request : FrozenOid4vpRequestV1}
  {state : CredentialValidationState}

/-! ## The counts fit -/

def parityCounts (request : FrozenOid4vpRequestV1) (state : CredentialValidationState)
    (presentationProofSatisfied : Bool) : PolicyParityCounts where
  total := request.direct.length + request.policy.alternativeRequirementGroups.length +
    request.policy.presentationProofRequired.toNat
  satisfied := (request.direct.countP fun r => isSatisfied state r.id) +
    request.policy.alternativeRequirementGroups.countP (groupSatisfied state) +
    (request.policy.presentationProofRequired && presentationProofSatisfied).toNat
  requiredTotal := (request.direct.filter (·.required)).length +
    request.policy.alternativeRequirementGroups.length +
    request.policy.presentationProofRequired.toNat
  requiredSatisfied :=
    ((request.direct.filter (·.required)).countP fun r => isSatisfied state r.id) +
    request.policy.alternativeRequirementGroups.countP (groupSatisfied state) +
    (request.policy.presentationProofRequired && presentationProofSatisfied).toNat
  satisfiedCredentialObligations :=
    ((request.direct.filter (·.required)).countP fun r => isSatisfied state r.id) +
    request.policy.alternativeRequirementGroups.countP (groupSatisfied state)

private theorem length_le_flatMap {groups : List FrozenAlternativeRequirementGroup}
    (h : ∀ group ∈ groups, 0 < group.requirementIds.length) :
    groups.length ≤ (groups.flatMap (·.requirementIds)).length := by
  induction groups with
  | nil => simp
  | cons group groups ih =>
      have hhead := h group List.mem_cons_self
      have htail := ih fun other hother => h other (List.mem_cons_of_mem _ hother)
      simp only [List.length_cons, List.flatMap_cons, List.length_append]
      omega

/-- The groups are nonempty and share no members, so there are no more of them than
requirements. -/
theorem FrozenOid4vpRequestV1.WellFormed.groups_le (hwf : request.WellFormed) :
    request.policy.alternativeRequirementGroups.length ≤ maxQueryRequirements := by
  have hnonempty : ∀ group ∈ request.policy.alternativeRequirementGroups,
      0 < group.requirementIds.length := by
    intro group hgroup
    have hbounds := hwf.groupBounds group hgroup
    omega
  have hsubset : request.policy.alternativeRequirementGroups.flatMap (·.requirementIds) ⊆
      request.query.requirements.map (·.id) := by
    intro id hid
    obtain ⟨group, hgroup, hmem⟩ := List.mem_flatMap.mp hid
    obtain ⟨requirement, hrequirement, hsame⟩ := hwf.groupMembers group hgroup id hmem
    exact List.mem_map.mpr ⟨requirement, hrequirement, hsame⟩
  calc request.policy.alternativeRequirementGroups.length
      ≤ (request.policy.alternativeRequirementGroups.flatMap (·.requirementIds)).length :=
        length_le_flatMap hnonempty
    _ ≤ (request.query.requirements.map (·.id)).length :=
        (List.subperm_of_subset hwf.disjoint hsubset).length_le
    _ = request.query.requirements.length := List.length_map _
    _ ≤ maxQueryRequirements := hwf.bounded

theorem FrozenOid4vpRequestV1.WellFormed.direct_le (hwf : request.WellFormed) :
    request.direct.length ≤ maxQueryRequirements :=
  (List.length_filter_le _ _).trans hwf.bounded

/-- **The counts never overflow** for a well formed request. -/
theorem policyParityCounts_eq (hwf : request.WellFormed) (proofSatisfied : Bool) :
    policyParityCounts request state proofSatisfied =
      .ok (parityCounts request state proofSatisfied) := by
  have hgroups := hwf.groups_le
  have hdirect := hwf.direct_le
  have hrequired := List.length_filter_le (·.required) request.direct
  have hdirectSatisfied :=
    List.countP_le_length (p := fun r => isSatisfied state r.id) (l := request.direct)
  have hrequiredSatisfied := List.countP_le_length (p := fun r => isSatisfied state r.id)
    (l := request.direct.filter (·.required))
  have hsatisfied := List.countP_le_length (p := groupSatisfied state)
    (l := request.policy.alternativeRequirementGroups)
  have hunit := Bool.toNat_le request.policy.presentationProofRequired
  have hproof := Bool.toNat_le (request.policy.presentationProofRequired && proofSatisfied)
  simp only [maxQueryRequirements] at hgroups hdirect
  have hfits : ∀ n, n ≤ 129 → toU16 n = some n := fun n hn =>
    toU16_eq_some.mpr ⟨by omega, rfl⟩
  simp (disch := omega) only [policyParityCounts, hfits]
  rfl

/-! ## Counts and outcomes -/

theorem isSatisfied_iff {id : String} :
    isSatisfied state id = true ↔ state.outcomeOf id = .passed := by
  unfold isSatisfied CredentialValidationState.outcomeOf
  cases state.requirementOutcomes.get id <;> simp

theorem groupSatisfied_iff {group : FrozenAlternativeRequirementGroup} :
    groupSatisfied state group = true ↔ groupOutcome state group = .passed := by
  have hsame : isSatisfied state = fun id => state.outcomeOf id == .passed := by
    ext id
    rw [Bool.eq_iff_iff, isSatisfied_iff, beq_iff_eq]
  rw [groupOutcome_eq_passed, groupSatisfied, hsame, List.countP_eq_length_filter,
    decide_eq_true_iff]

/-- **The counts agree with the outcomes**: with a passed global outcome, all required
obligations are counted as satisfied exactly when the policy outcome is passed. -/
theorem counts_agree
    (hchecks : projection.checks = expectedChecks projection request state) :
    let counts := parityCounts request state (projection.presentation.proof.outcome == .passed)
    (counts.requiredSatisfied = counts.requiredTotal ∧
        globalOutcome projection request = .passed) ↔
      requiredPolicyOutcome request state = .passed ∧
        globalOutcome projection request = .passed := by
  intro counts
  refine and_congr_left fun hglobal => ?_
  have hproof := ((globalOutcome_eq_passed projection request state hchecks).mp hglobal).2.1
  have hunit : (request.policy.presentationProofRequired &&
      (projection.presentation.proof.outcome == .passed)).toNat =
        request.policy.presentationProofRequired.toNat := by
    cases hrequired : request.policy.presentationProofRequired
    · rfl
    · simp [hproof hrequired]
  have hdirect := List.countP_le_length (p := fun r => isSatisfied state r.id)
    (l := request.direct.filter (·.required))
  have hgroups := List.countP_le_length (p := groupSatisfied state)
    (l := request.policy.alternativeRequirementGroups)
  have hsplit : counts.requiredSatisfied = counts.requiredTotal ↔
      ((request.direct.filter (·.required)).countP fun r => isSatisfied state r.id) =
          (request.direct.filter (·.required)).length ∧
        request.policy.alternativeRequirementGroups.countP (groupSatisfied state) =
          request.policy.alternativeRequirementGroups.length := by
    simp only [counts, parityCounts, hunit]
    omega
  rw [hsplit, List.countP_eq_length, List.countP_eq_length, requiredPolicyOutcome_eq_passed]
  simp only [List.mem_filter, and_imp, isSatisfied_iff, groupSatisfied_iff]

/-! ## Violations -/

/-- When all four checks on credentials are passed, so is the policy. -/
theorem requiredPolicyOutcome_of_checks {now : Int} (hwf : request.WellFormed)
    (hcredentials : CredentialsValidated projection request now state)
    (hproof : state.credentialProof = .passed) (htrust : state.trust = .passed)
    (hstatus : state.status = .passed) (hclaims : state.claims = .passed) :
    requiredPolicyOutcome request state = .passed := by
  have hproofs := (aggregateOutcomes_eq_passed.mp (hcredentials.credentialProof ▸ hproof)).2
  have htrusts := (aggregateOutcomes_eq_passed.mp (hcredentials.trust ▸ htrust)).2
  have hstatuses := (aggregateOutcomes_eq_passed.mp (hcredentials.status ▸ hstatus)).2
  have hmatches := (aggregateOutcomes_eq_passed.mp (hcredentials.claims ▸ hclaims)).2
  have hall : ∀ requirement ∈ request.query.requirements,
      state.outcomeOf requirement.id = .passed := by
    intro requirement hmem
    rw [outcomeOf_eq hwf hcredentials hmem]
    have hassessed := hmatches _ (List.mem_map.mpr ⟨requirement, hmem, rfl⟩)
    have hadmits := hcredentials.admits requirement hmem
    have hpositive := hwf.positive requirement hmem
    have hpos : 0 < (projection.answering requirement.id).length :=
      lt_of_lt_of_le hpositive hadmits.1
    unfold requirementAssessment at hassessed ⊢
    split at hassessed
    · next hsome =>
      rw [if_pos hsome, aggregateOutcomes_eq_passed]
      obtain ⟨first, hfirst⟩ := List.exists_mem_of_length_pos hpos
      constructor
      · exact List.ne_nil_of_mem (List.mem_flatMap.mpr ⟨first, hfirst, List.mem_cons_self⟩)
      · intro outcome houtcome
        obtain ⟨credential, hanswer, hin⟩ := List.mem_flatMap.mp houtcome
        have hcredential := (List.mem_filter.mp hanswer).1
        simp only [AuthenticatedCredentialEvidence.outcomes, List.mem_cons, List.not_mem_nil,
          or_false] at hin
        rcases hin with rfl | rfl | rfl
        · exact hproofs _ (List.mem_map_of_mem hcredential)
        · exact htrusts _ (List.mem_map_of_mem hcredential)
        · exact hstatuses _ (List.mem_map_of_mem hcredential)
    · cases hassessed
  refine (requiredPolicyOutcome_eq_passed request state).mpr ⟨?_, ?_⟩
  · intro requirement hdirect _
    exact hall requirement (List.mem_filter.mp hdirect).1
  · intro group hgroup
    rw [groupOutcome_eq_passed, List.filter_eq_self.mpr]
    · exact (hwf.groupBounds group hgroup).2
    · intro id hid
      obtain ⟨requirement, hmem, hsame⟩ := hwf.groupMembers group hgroup id hid
      rw [← hsame, hall requirement hmem]
      rfl

end Marty.Oid4vp
