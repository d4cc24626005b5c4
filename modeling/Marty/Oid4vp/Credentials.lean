import Marty.Oid4vp.Evidence

/-!
# Credentials and the requirements they answer

The check of the projected credentials against the tokens of the response and against the
requirements of the request, with the state that the decision is computed from.

## Main definitions

* `validateCredential`, `validateCredentialTokenBinding` — one credential, and all of them
  against the tokens.
* `assessRequirement` — the outcome of one requirement.
* `Oid4vpEvidenceProjectionV1.validateCredentials` — the whole check;
  `validateCredentials_eq_ok` says what its success establishes.
-/

namespace Marty.Oid4vp

open Lib Lib.Checked

variable (packages : Packages)

/-! ## Credentials and their tokens -/

abbrev ByQuery := TextMap (List AuthenticatedCredentialEvidence)

/-- The digests of the response items of one query, in increasing order. -/
def checkQueryTokens (byQuery : ByQuery) (e : String × List String) : Validated Unit := do
  let expected ← mapEach (fun (item : String × Nat) =>
    digestResponseItem packages item.1 e.1 (toString item.2)) e.2.zipIdx
  let credentials ← okOr (byQuery.get e.1) .credentialBindingMismatch
  let actual := credentials.map (·.responseTokenDigest)
  rejectIf (actual.insertionSort (· ≤ ·) ≠ expected.insertionSort (· ≤ ·))
    .credentialBindingMismatch

def checkDescriptorToken (request : FrozenOid4vpRequestV1) (byQuery : ByQuery) (token : String)
    (descriptor : PresentationDescriptor) : Validated Unit := do
  let requirement ← requirementById request.query.requirements descriptor.id
  let selector ← peDescriptorSelector descriptor requirement
  let expected ← digestResponseItem packages token descriptor.id selector
  let credentials ← okOr (byQuery.get descriptor.id) .credentialBindingMismatch
  rejectIf (credentials.map (·.responseTokenDigest) ≠ [expected]) .credentialBindingMismatch

/-- Every response item stands behind exactly one credential. -/
def validateCredentialTokenBinding (request : FrozenOid4vpRequestV1)
    (submission : WalletSubmissionV1) (byQuery : ByQuery) : Validated Unit :=
  match request.query.kind, submission.vpToken with
  | .dcql, .single token => do
      let requirement ← okOr request.query.requirements.head? .credentialBindingMismatch
      let expected ← digestResponseItem packages token requirement.id "0"
      rejectIf (byQuery.values.flatten.map (·.responseTokenDigest) ≠ [expected])
        .credentialBindingMismatch
  | .dcql, .byQuery tokens => forEach (checkQueryTokens packages byQuery) tokens.entries
  | .presentationExchange, .single token => do
      let presentation ← okOr submission.presentationSubmission .credentialBindingMismatch
      forEach (checkDescriptorToken packages request byQuery token) presentation.descriptorMap
  | .presentationExchange, .byQuery _ => .error .credentialBindingMismatch

/-- The metadata of a credential is what the requirement asks for. -/
def credentialMatchesRequirement (credential : AuthenticatedCredentialEvidence)
    (requirement : FrozenCredentialRequirement) : Prop :=
  credential.format ∈ requirement.acceptedFormats ∧
    credential.authenticatedTypeOrVct ∈ requirement.acceptedTypeSets ∧
    ((requirement.acceptedAlgorithms.get credential.format).any fun algorithms =>
      !eqIgnoreNone credential.proofAlgorithm &&
        decide (credential.proofAlgorithm ∈ algorithms)) ∧
    (∀ claim ∈ requirement.requiredClaims, credential.claims.containsKey claim) ∧
    ∀ claim ∈ credential.claims.keys, claim ∈ requirement.allowedClaims

instance (credential : AuthenticatedCredentialEvidence)
    (requirement : FrozenCredentialRequirement) :
    Decidable (credentialMatchesRequirement credential requirement) :=
  inferInstanceAs (Decidable (_ ∧ _))

/-- What was seen of the credentials so far. -/
structure CredentialsSeen where
  credentialIds : TextSet
  responseItemDigests : TextSet
  byQuery : ByQuery

def CredentialsSeen.add (seen : CredentialsSeen) (credential : AuthenticatedCredentialEvidence) :
    CredentialsSeen where
  credentialIds := BTreeSet.insert seen.credentialIds credential.credentialId
  responseItemDigests := BTreeSet.insert seen.responseItemDigests credential.responseTokenDigest
  byQuery := seen.byQuery.insert credential.queryId
    ((seen.byQuery.get credential.queryId).getD [] ++ [credential])

def validateClaim (e : String × Value) : Validated Unit := do
  requireIdentifier e.1 "credentials.claims.name"
  validateBoundedValue e.2 "credentials.claims.value" maxClaimValueBytes

def validateCredentialIdentifiers (credential : AuthenticatedCredentialEvidence) :
    Validated Unit := do
  requireIdentifier credential.credentialId "credentials.credential_id"
  requireIdentifier credential.queryId "credentials.query_id"
  requireIdentifier credential.format "credentials.format"
  requireIdentifier credential.issuerId "credentials.issuer_id"
  requireIdentifier credential.proofAlgorithm "credentials.proof_algorithm"

def validateCredentialContents (credential : AuthenticatedCredentialEvidence) (now : Int) :
    Validated Unit := do
  validateStringList credential.authenticatedTypeOrVct "credentials.authenticated_type_or_vct"
    false
  validateStringList credential.statusIds "credentials.status_ids" true
  rejectIf (maxClaimsPerCredential < credential.claims.length)
    (.invalidField "credentials.claims")
  forEach validateClaim credential.claims.entries
  rejectIf (credential.issuedAtEpochSeconds ≤ 0 ∨ now < credential.issuedAtEpochSeconds)
    .credentialBindingMismatch
  rejectIf (credential.expiresAtEpochSeconds.any fun expiresAt =>
    expiresAt ≤ credential.issuedAtEpochSeconds) .credentialBindingMismatch

def validateCredential (request : FrozenOid4vpRequestV1) (now : Int) (seen : CredentialsSeen)
    (credential : AuthenticatedCredentialEvidence) : Validated CredentialsSeen := do
  validateCredentialIdentifiers credential
  rejectIf (credential.credentialId ∈ seen.credentialIds) .credentialBindingMismatch
  let requirement ← okOr (request.query.requirements.find? fun r => r.id = credential.queryId)
    .credentialBindingMismatch
  validateDigest credential.responseTokenDigest "credentials.response_token_digest"
  rejectIf (credential.responseTokenDigest ∈ seen.responseItemDigests) .credentialBindingMismatch
  validateCredentialContents credential now
  validateFact credential.proof .credentialProof request now
  validateTrust credential request now
  validateStatus credential requirement request now
  return seen.add credential

/-! ## Requirements -/

/-- What the credentials say about one requirement. -/
structure RequirementAssessment where
  id : String
  claims : EvidenceCheckOutcome
  outcome : EvidenceCheckOutcome

def AuthenticatedCredentialEvidence.outcomes (credential : AuthenticatedCredentialEvidence) :
    List EvidenceCheckOutcome :=
  [credential.proof.outcome, credential.trust.outcome, credential.status.outcome]

def assessRequirement (byQuery : ByQuery) (requirement : FrozenCredentialRequirement) :
    Validated RequirementAssessment := do
  let credentials ← okOr (byQuery.get requirement.id) .credentialBindingMismatch
  let count ← okOr (toU16 credentials.length) .credentialBindingMismatch
  rejectIf (¬ requirement.admits count) .credentialBindingMismatch
  if ∀ credential ∈ credentials, credentialMatchesRequirement credential requirement then
    return ⟨requirement.id, .passed,
      aggregateOutcomes (credentials.flatMap AuthenticatedCredentialEvidence.outcomes)⟩
  else return ⟨requirement.id, .failed, .failed⟩

structure CredentialValidationState where
  credentialProof : EvidenceCheckOutcome
  trust : EvidenceCheckOutcome
  status : EvidenceCheckOutcome
  claims : EvidenceCheckOutcome
  credentialIds : TextSet
  requirementOutcomes : TextMap EvidenceCheckOutcome
  credentialsByQuery : TextMap (List String)

def Oid4vpEvidenceProjectionV1.validateCredentials (projection : Oid4vpEvidenceProjectionV1)
    (request : FrozenOid4vpRequestV1) (submission : WalletSubmissionV1) (now : Int) :
    Validated CredentialValidationState := do
  let credentials := projection.credentials
  rejectIf (credentials.isEmpty ∨ maxCredentials < credentials.length)
    .credentialBindingMismatch
  rejectIf (¬ (credentials.map (·.credentialId)).IsChain (· < ·)) .credentialBindingMismatch
  let seen ← credentials.foldlM (validateCredential request now)
    ⟨BTreeMap.empty, BTreeMap.empty, BTreeMap.empty⟩
  validateCredentialTokenBinding packages request submission seen.byQuery
  let assessed ← mapEach (assessRequirement seen.byQuery) request.query.requirements
  return {
    credentialProof := aggregateOutcomes (credentials.map (·.proof.outcome))
    trust := aggregateOutcomes (credentials.map (·.trust.outcome))
    status := aggregateOutcomes (credentials.map (·.status.outcome))
    claims := aggregateOutcomes (assessed.map (·.claims))
    credentialIds := seen.credentialIds
    requirementOutcomes := BTreeMap.ofEntries (assessed.map fun a => (a.id, a.outcome))
    credentialsByQuery := BTreeMap.ofEntries (seen.byQuery.entries.map fun e =>
      (e.1, e.2.map (·.credentialId))) }

/-! ## What a success says -/

/-- The credentials that answer a query. -/
def Oid4vpEvidenceProjectionV1.answering (projection : Oid4vpEvidenceProjectionV1)
    (id : String) : List AuthenticatedCredentialEvidence :=
  projection.credentials.filter fun credential => credential.queryId = id

/-- What was checked of one credential, apart from its distinctness. -/
structure CredentialChecked (request : FrozenOid4vpRequestV1) (now : Int)
    (credential : AuthenticatedCredentialEvidence) : Prop where
  trust : validateTrust credential request now = .ok ()
  status : ∃ requirement ∈ request.query.requirements,
    requirement.id = credential.queryId ∧
      validateStatus credential requirement request now = .ok ()

private theorem validateCredential_eq_ok {request : FrozenOid4vpRequestV1} {now : Int}
    {seen seen' : CredentialsSeen} {credential : AuthenticatedCredentialEvidence}
    (h : validateCredential request now seen credential = .ok seen') :
    seen' = seen.add credential ∧ CredentialChecked request now credential := by
  simp only [validateCredential, bind_eq_ok, exists_unit, okOr_eq_ok, pure, Except.pure,
    Except.ok.injEq] at h
  obtain ⟨-, -, requirement, hfind, -, -, -, -, htrust, hstatus, rfl⟩ := h
  have hid : requirement.id = credential.queryId := by simpa using List.find?_some hfind
  exact ⟨rfl, htrust, requirement, List.mem_of_find?_eq_some hfind, hid, hstatus⟩

private theorem byQuery_foldl_add (credentials : List AuthenticatedCredentialEvidence)
    (seen : CredentialsSeen) (id : String) :
    ((credentials.foldl CredentialsSeen.add seen).byQuery.get id).getD [] =
      (seen.byQuery.get id).getD [] ++ credentials.filter fun c => c.queryId = id := by
  induction credentials generalizing seen with
  | nil => simp
  | cons credential credentials ih =>
      rw [List.foldl_cons, ih]
      by_cases hid : credential.queryId = id
      · simp [CredentialsSeen.add, hid]
      · simp [CredentialsSeen.add, hid, Ne.symm hid]

/-- What the credentials that answer a requirement say about it. -/
def requirementAssessment (requirement : FrozenCredentialRequirement)
    (credentials : List AuthenticatedCredentialEvidence) : RequirementAssessment :=
  if ∀ credential ∈ credentials, credentialMatchesRequirement credential requirement then
    ⟨requirement.id, .passed,
      aggregateOutcomes (credentials.flatMap AuthenticatedCredentialEvidence.outcomes)⟩
  else ⟨requirement.id, .failed, .failed⟩

@[simp] theorem requirementAssessment_id (requirement : FrozenCredentialRequirement)
    (credentials : List AuthenticatedCredentialEvidence) :
    (requirementAssessment requirement credentials).id = requirement.id := by
  unfold requirementAssessment
  split <;> rfl

private theorem assessRequirement_eq_ok {byQuery : ByQuery}
    {requirement : FrozenCredentialRequirement} {assessment : RequirementAssessment}
    (h : assessRequirement byQuery requirement = .ok assessment) :
    assessment = requirementAssessment requirement ((byQuery.get requirement.id).getD []) ∧
      requirement.admits ((byQuery.get requirement.id).getD []).length := by
  simp only [assessRequirement, bind_eq_ok, exists_unit, okOr_eq_ok, rejectIf_eq_ok, not_not,
    toU16_eq_some] at h
  obtain ⟨credentials, hget, count, ⟨-, rfl⟩, hadmits, hreturn⟩ := h
  rw [hget, Option.getD_some]
  refine ⟨?_, hadmits⟩
  unfold requirementAssessment
  split at hreturn <;> rename_i hall
  · rw [if_pos hall]
    exact (Except.ok.inj hreturn).symm
  · rw [if_neg hall]
    exact (Except.ok.inj hreturn).symm

/-- What validated credentials establish, with the state computed from them. -/
structure CredentialsValidated (projection : Oid4vpEvidenceProjectionV1)
    (request : FrozenOid4vpRequestV1) (now : Int) (state : CredentialValidationState) :
    Prop where
  nonempty : projection.credentials ≠ []
  checked : ∀ credential ∈ projection.credentials, CredentialChecked request now credential
  admits : ∀ requirement ∈ request.query.requirements,
    requirement.admits (projection.answering requirement.id).length
  credentialProof :
    state.credentialProof = aggregateOutcomes (projection.credentials.map (·.proof.outcome))
  trust : state.trust = aggregateOutcomes (projection.credentials.map (·.trust.outcome))
  status : state.status = aggregateOutcomes (projection.credentials.map (·.status.outcome))
  claims : state.claims = aggregateOutcomes (request.query.requirements.map fun requirement =>
    (requirementAssessment requirement (projection.answering requirement.id)).claims)
  outcomes : state.requirementOutcomes =
    BTreeMap.ofEntries (request.query.requirements.map fun requirement =>
      (requirement.id,
        (requirementAssessment requirement (projection.answering requirement.id)).outcome))

/-- **What validated credentials establish**: each of them is checked, each requirement is
answered by a number of them that it admits, and its outcome is computed from these. -/
theorem validateCredentials_eq_ok {projection : Oid4vpEvidenceProjectionV1}
    {request : FrozenOid4vpRequestV1} {submission : WalletSubmissionV1} {now : Int}
    {state : CredentialValidationState}
    (h : projection.validateCredentials packages request submission now = .ok state) :
    CredentialsValidated projection request now state := by
  simp only [Oid4vpEvidenceProjectionV1.validateCredentials, bind_eq_ok, exists_unit,
    rejectIf_eq_ok, not_or, pure, Except.pure, Except.ok.injEq] at h
  obtain ⟨⟨hne, -⟩, -, seen, hfold, -, assessed, hassessed, rfl⟩ := h
  obtain ⟨rfl, hchecked⟩ := foldlM_eq_ok (g := CredentialsSeen.add)
    (p := fun _ credential => CredentialChecked request now credential)
    (fun _ _ _ => validateCredential_eq_ok) hfold
  obtain ⟨rfl, hadmits⟩ := mapEach_eq_ok (fun _ _ => assessRequirement_eq_ok) hassessed
  simp only [byQuery_foldl_add, BTreeMap.get_empty, Option.getD_none, List.nil_append]
    at hadmits
  refine ⟨by simpa using hne, fun c hc => (hchecked c hc).elim fun _ => id, hadmits, rfl, rfl,
    rfl, ?_, ?_⟩
  · simp only [List.map_map, Function.comp_def, byQuery_foldl_add, BTreeMap.get_empty,
      Option.getD_none, List.nil_append]
    rfl
  · simp only [List.map_map, Function.comp_def, byQuery_foldl_add, BTreeMap.get_empty,
      Option.getD_none, List.nil_append, requirementAssessment_id]
    rfl

/-- A requirement whose outcome is passed: every credential that answers it matches it and
has passed its three checks. -/
theorem requirementAssessment_passed {requirement : FrozenCredentialRequirement}
    {credentials : List AuthenticatedCredentialEvidence}
    (h : (requirementAssessment requirement credentials).outcome = .passed) :
    ∀ credential ∈ credentials, credentialMatchesRequirement credential requirement ∧
      credential.proof.outcome = .passed ∧ credential.trust.outcome = .passed ∧
      credential.status.outcome = .passed := by
  intro credential hcredential
  unfold requirementAssessment at h
  split at h <;> rename_i hall
  · have houtcomes := (aggregateOutcomes_eq_passed.mp h).2
    have heach : ∀ o ∈ credential.outcomes, o = .passed := fun o ho =>
      houtcomes o (List.mem_flatMap.mpr ⟨credential, hcredential, ho⟩)
    simp only [AuthenticatedCredentialEvidence.outcomes, List.mem_cons, List.not_mem_nil,
      or_false, forall_eq_or_imp, forall_eq] at heach
    exact ⟨hall credential hcredential, heach⟩
  · cases h

end Marty.Oid4vp
