import Marty.Oid4vp.QueryDocument

/-!
# Frozen requests and wallet submissions

The checks a frozen request passes before it is used, and those a wallet submission
passes against it.

## Main definitions

* `FrozenOid4vpRequestV1.validateStructure`, `FrozenOid4vpRequestV1.validateAt`.
* `WalletSubmissionV1.validate`.
* `FrozenOid4vpRequestV1.validateSubmissionAt` — state, coverage and token counts.
-/

namespace Marty.Oid4vp

open Lib Lib.Checked

variable (packages : Packages)

/-! ## The wallet submission -/

def validateDescriptor : PresentationDescriptor → Nat → Validated Unit
  | ⟨id, format, path, pathNested⟩, depth => do
    rejectIf (maxDescriptorDepth < depth)
      (.invalidField "presentation_submission.descriptor_depth")
    requireIdentifier id "presentation_submission.descriptor.id"
    requireIdentifier format "presentation_submission.descriptor.format"
    requireText path "presentation_submission.descriptor.path" maxIdentifierBytes
    match pathNested with
    | none => .ok ()
    | some nested => validateDescriptor nested (depth + 1)

/-- One token of a query: the tokens seen so far are all different. -/
def insertToken (unique : TextSet) (token : String) : Validated TextSet := do
  requireToken token "vp_token.query_token"
  rejectIf (token ∈ unique) (.invalidField "vp_token.duplicate_token")
  return BTreeSet.insert unique token

def insertQueryTokens (unique : TextSet) (e : String × List String) : Validated TextSet := do
  requireIdentifier e.1 "vp_token.query_id"
  rejectIf e.2.isEmpty (.invalidField "vp_token.query_tokens")
  e.2.foldlM insertToken unique

/-- The number of tokens; they are all different, so the set of them counts them. -/
def VpToken.count : VpToken → Validated Nat
  | .single token => do
      requireToken token "vp_token"
      return 1
  | .byQuery tokens => do
      rejectIf (tokens.entries.isEmpty ∨ maxQueryRequirements < tokens.length)
        (.invalidField "vp_token")
      let unique ← tokens.entries.foldlM insertQueryTokens BTreeMap.empty
      return unique.length

def PresentationSubmission.validate (submission : PresentationSubmission) : Validated Unit := do
  requireIdentifier submission.id "presentation_submission.id"
  requireIdentifier submission.definitionId "presentation_submission.definition_id"
  rejectIf (submission.descriptorMap.isEmpty ∨
      maxQueryRequirements < submission.descriptorMap.length)
    (.invalidField "presentation_submission.descriptor_map")
  forEach (validateDescriptor · 1) submission.descriptorMap

def WalletSubmissionV1.validate (submission : WalletSubmissionV1) : Validated Unit := do
  validateSerializedSize submission.toValue maxWalletSubmissionBytes "wallet_submission"
  let tokenCount ← submission.vpToken.count
  rejectIf (maxTokens < tokenCount) (.invalidField "vp_token.count")
  forEach (requireIdentifier · "state") submission.state.toList
  forEach PresentationSubmission.validate submission.presentationSubmission.toList

def WalletSubmissionV1.rawTokens (submission : WalletSubmissionV1) : List String :=
  match submission.vpToken with
  | .single token => [token]
  | .byQuery tokens => tokens.values.flatten

/-! ## The policy and the requirements -/

def validateProfile (profile : EvidenceProfileReference) : Validated Unit := do
  requireIdentifier profile.id "trust.profile.id"
  rejectIf (profile.version = 0) .trustEvidenceMismatch
  validateDigest profile.contentDigest "trust.profile.content_digest"

def groupError : Oid4vpContractError := .invalidField "policy.alternative_requirement_groups"

/-- Put a member of a group to the members of the groups before it. -/
def insertGroupMember (requirementIds grouped : TextSet) (id : String) : Validated TextSet := do
  requireIdentifier id "policy.alternative_group.requirement_id"
  rejectIf (id ∉ requirementIds ∨ id ∈ grouped) groupError
  return BTreeSet.insert grouped id

/-- One group, with the identifier of the group before it and the members so far. -/
def validateGroup (requirementIds : TextSet) (state : Option String × TextSet)
    (group : FrozenAlternativeRequirementGroup) : Validated (Option String × TextSet) := do
  requireIdentifier group.id "policy.alternative_group.id"
  rejectIf (state.1.any (fun previous => group.id ≤ previous) ∨ group.requirementIds.isEmpty ∨
      maxQueryRequirements < group.requirementIds.length ∨
      ¬ group.requirementIds.IsChain (· < ·) ∨ group.minSatisfied = 0 ∨
      group.requirementIds.length < group.minSatisfied)
    groupError
  let grouped ← group.requirementIds.foldlM (insertGroupMember requirementIds) state.2
  return (some group.id, grouped)

/-- The identifiers of the requirements, in order. -/
def FrozenOid4vpRequestV1.queryIds (request : FrozenOid4vpRequestV1) : TextSet :=
  BTreeSet.ofList (request.query.requirements.map (·.id))

def validatePolicyReference (request : FrozenOid4vpRequestV1) : Validated Unit := do
  rejectIf (request.policy.version = 0 ∨ request.policy.maxTrustAgeSeconds = 0 ∨
      maxRequestLifetimeSeconds < request.policy.maxTrustAgeSeconds)
    (.invalidField "policy")
  validateDigest request.policy.contentDigest "policy.content_digest"
  validateProfile request.policy.trustProfile
  let (_, grouped) ← request.policy.alternativeRequirementGroups.foldlM
    (validateGroup request.queryIds) (none, BTreeMap.empty)
  rejectIf (∃ requirement ∈ request.query.requirements,
    requirement.id ∈ grouped ∧ requirement.required = true) groupError
  rejectIf (request.policy.presentationProofRequired = false ∧
      (¬ ∃ requirement ∈ request.query.requirements, requirement.required = true) ∧
      request.policy.alternativeRequirementGroups.isEmpty)
    (.invalidField "policy.obligations")

def validateTypeSets (typeSets : List (List String)) : Validated Unit := do
  rejectIf (typeSets.isEmpty ∨ maxEvidenceListItems < typeSets.length ∨
    ¬ typeSets.IsChain (· < ·)) .invalidQueryDocument
  forEach (validateStringList · "query.requirements.accepted_type_sets" false) typeSets

def validateAlgorithms (algorithms : List String) : Validated Unit := do
  validateStringList algorithms "query.requirements.accepted_algorithms" false
  rejectIf (algorithms.any eqIgnoreNone) .invalidQueryDocument

def validateAcceptedAlgorithms (requirement : FrozenCredentialRequirement) :
    Validated Unit := do
  rejectIf (requirement.acceptedAlgorithms.keys ≠ requirement.acceptedFormats)
    .invalidQueryDocument
  forEach validateAlgorithms requirement.acceptedAlgorithms.values

/-- A bound claim path, whose components joined by a dot are the claim. -/
def validateClaimPath (requirement : FrozenCredentialRequirement)
    (e : String × List String) : Validated Unit := do
  requireIdentifier e.1 "query.requirements.dcql_claim_paths.claim"
  rejectIf (¬ (1 ≤ e.2.length ∧ e.2.length ≤ 2) ∨
      (∃ component ∈ e.2, (requireIdentifier component
        "query.requirements.dcql_claim_paths.component").isOk = false) ∨
      ".".intercalate e.2 ≠ e.1 ∨ e.1 ∉ requirement.allowedClaims)
    .invalidQueryDocument

/-- The lists are increasing when they are searched, so that a search finds every member. -/
def validateRequirement (requirement : FrozenCredentialRequirement) : Validated Unit := do
  requireIdentifier requirement.id "query.requirements.id"
  validateStringList requirement.acceptedFormats "query.requirements.accepted_formats" false
  validateTypeSets requirement.acceptedTypeSets
  validateStringList requirement.requiredClaims "query.requirements.required_claims" true
  validateStringList requirement.allowedClaims "query.requirements.allowed_claims" true
  validateStringList requirement.retainedClaims "query.requirements.retained_claims" true
  rejectIf (maxClaimsPerCredential < requirement.dcqlClaimPaths.length) .invalidQueryDocument
  forEach (validateClaimPath requirement) requirement.dcqlClaimPaths.entries
  rejectIf (¬ ∀ claim ∈ requirement.retainedClaims, claim ∈ requirement.allowedClaims)
    .invalidQueryDocument
  validateAcceptedAlgorithms requirement
  rejectIf ((¬ ∀ claim ∈ requirement.requiredClaims, claim ∈ requirement.allowedClaims) ∨
      requirement.minCredentials = 0 ∨
      requirement.maxCredentials < requirement.minCredentials ∨
      maxCredentials < requirement.maxCredentials ∨ requirement.status.maxAgeSeconds = 0 ∨
      maxRequestLifetimeSeconds < requirement.status.maxAgeSeconds)
    .invalidQueryDocument

def insertRequirementId (ids : TextSet) (requirement : FrozenCredentialRequirement) :
    Validated TextSet := do
  validateRequirement requirement
  rejectIf (requirement.id ∈ ids) .invalidQueryDocument
  return BTreeSet.insert ids requirement.id

def FrozenOid4vpRequestV1.validateRequirements (request : FrozenOid4vpRequestV1) :
    Validated Unit := do
  let requirements := request.query.requirements
  rejectIf (requirements.isEmpty ∨ maxQueryRequirements < requirements.length ∨
    ¬ (requirements.map (·.id)).IsChain (· < ·)) .invalidQueryDocument
  let ids ← requirements.foldlM insertRequirementId BTreeMap.empty
  let documentIds ← validateQueryDocumentSemantics request.query.kind request.query.document
    requirements
  rejectIf (ids.entries ≠ documentIds.entries) .invalidQueryDocument
  rejectIf (request.query.kind = .presentationExchange ∧ ∃ requirement ∈ requirements,
    requirement.minCredentials ≠ 1 ∨ requirement.maxCredentials ≠ 1) .invalidQueryDocument

/-! ## The request -/

def FrozenOid4vpRequestV1.validateLifetime (request : FrozenOid4vpRequestV1) :
    Validated Unit := do
  let lifetime ← okOr
    (checkedSub request.expiresAtEpochSeconds request.issuedAtEpochSeconds) .invalidLifetime
  rejectIf (request.issuedAtEpochSeconds ≤ 0 ∨ lifetime ≤ 0 ∨
    maxRequestLifetimeSeconds < lifetime) .invalidLifetime

def FrozenOid4vpRequestV1.validateResponseUri (request : FrozenOid4vpRequestV1) :
    Validated Unit := do
  requireText request.verifier.responseUri "verifier.response_uri" maxIdentifierBytes
  let uri ← okOr (packages.parseUrl request.verifier.responseUri)
    (.invalidField "verifier.response_uri")
  rejectIf (uri.scheme ≠ "https" ∨ uri.host = none) (.invalidField "verifier.response_uri")

def FrozenOid4vpRequestV1.validateDocumentDigest (request : FrozenOid4vpRequestV1) :
    Validated Unit := do
  validateBoundedValue request.query.document "query.document" maxQueryDocumentBytes
  validateDigest request.query.documentDigest "query.document_digest"
  let digest ← digestQueryDocument packages request.query.document
  rejectIf (digest ≠ request.query.documentDigest) .queryDigestMismatch

def FrozenOid4vpRequestV1.validateStructure (request : FrozenOid4vpRequestV1) :
    Validated Unit := do
  validateSerializedSize request.toValue maxFrozenRequestBytes "frozen_request"
  forEach (fun (e : String × String) => requireIdentifier e.1 e.2)
    [(request.sessionId, "session_id"), (request.organizationId, "organization_id"),
      (request.initiatingPrincipalId, "initiating_principal_id"),
      (request.policy.id, "policy.id"), (request.verifier.clientId, "verifier.client_id"),
      (request.expectedState, "expected_state")]
  requireText request.nonce "nonce" maxIdentifierBytes
  rejectIf (request.nonce.utf8ByteSize < minNonceBytes) (.invalidField "nonce")
  request.validateResponseUri packages
  validatePolicyReference request
  request.validateLifetime
  request.validateDocumentDigest packages
  request.validateRequirements

def FrozenOid4vpRequestV1.validateAt (request : FrozenOid4vpRequestV1) (now : Int) :
    Validated Unit := do
  request.validateStructure packages
  rejectIf (now < request.issuedAtEpochSeconds ∨ request.expiresAtEpochSeconds < now)
    .invalidLifetime

/-! ## The submission against the request -/

def isSupportedNestedCredentialPath (path : String) : Bool :=
  ["$[", "$.verifiableCredential["].any fun start =>
    match (Text.stripPrefix path start).bind (Text.stripSuffix · "]") with
    | none => false
    | some index => !index.isEmpty && index.toList.all fun c => 48 ≤ c.toNat && c.toNat ≤ 57

/-- The part of the token that a descriptor points at. -/
def peDescriptorSelector (descriptor : PresentationDescriptor)
    (requirement : FrozenCredentialRequirement) : Validated String :=
  match descriptor.pathNested with
  | none => do
      rejectIf (descriptor.format ∉ requirement.acceptedFormats ∨
        descriptor.path ∉ ["$", "$[0]"]) .presentationDefinitionMismatch
      return descriptor.path
  | some nested => do
      rejectIf (descriptor.format ∉ ["jwt_vp", "ldp_vp"] ∨ descriptor.path ≠ "$" ∨
          nested.pathNested.isSome ∨ nested.format ∉ requirement.acceptedFormats ∨
          isSupportedNestedCredentialPath nested.path = false)
        .presentationDefinitionMismatch
      return descriptor.path ++ "|" ++ nested.path

def checkDescriptor (request : FrozenOid4vpRequestV1) (descriptor : PresentationDescriptor) :
    Validated Unit := do
  let requirement ← okOr (request.query.requirements.find? fun r => r.id = descriptor.id)
    .presentationDefinitionMismatch
  let _ ← peDescriptorSelector descriptor requirement

/-- The response has a token for exactly the queries that were asked. -/
def FrozenOid4vpRequestV1.validateCoverage (request : FrozenOid4vpRequestV1)
    (submission : WalletSubmissionV1) : Validated Unit :=
  let expectedIds := request.queryIds
  match request.query.kind with
  | .dcql => do
      rejectIf submission.presentationSubmission.isSome .presentationDefinitionMismatch
      match submission.vpToken with
      | .single _ => rejectIf (expectedIds.length ≠ 1) .queryCoverageMismatch
      | .byQuery tokens =>
          rejectIf (tokens.keys ≠ BTreeSet.toList expectedIds) .queryCoverageMismatch
  | .presentationExchange =>
      match submission.vpToken with
      | .byQuery _ => .error .queryCoverageMismatch
      | .single _ => do
          let presentation ← okOr submission.presentationSubmission
            .presentationDefinitionMismatch
          let object := request.query.document.asObject.getD []
          let definitionId ← okOr ((Json.Map.get object "id").bind Json.Value.asStr)
            .invalidQueryDocument
          let descriptorIds := BTreeSet.ofList (presentation.descriptorMap.map (·.id))
          rejectIf (presentation.definitionId ≠ definitionId ∨
              descriptorIds.length ≠ presentation.descriptorMap.length ∨
              descriptorIds.entries ≠ expectedIds.entries)
            .presentationDefinitionMismatch
          forEach (checkDescriptor request) presentation.descriptorMap

/-- A count within the bounds of a requirement. -/
def FrozenCredentialRequirement.admits (requirement : FrozenCredentialRequirement)
    (count : Nat) : Prop :=
  requirement.minCredentials ≤ count ∧ count ≤ requirement.maxCredentials

instance (requirement : FrozenCredentialRequirement) (count : Nat) :
    Decidable (requirement.admits count) :=
  inferInstanceAs (Decidable (_ ∧ _))

def checkQueryCount (tokens : TextMap (List String))
    (requirement : FrozenCredentialRequirement) : Validated Unit := do
  let values ← okOr (tokens.get requirement.id) .queryCoverageMismatch
  let count ← okOr (toU16 values.length) .queryCoverageMismatch
  rejectIf (¬ requirement.admits count) .queryCoverageMismatch

def FrozenOid4vpRequestV1.validateTokenCardinality (request : FrozenOid4vpRequestV1)
    (submission : WalletSubmissionV1) : Validated Unit :=
  if request.query.kind = .presentationExchange then .ok ()
  else
    match submission.vpToken with
    | .single _ => do
        let requirement ← okOr request.query.requirements.head? .queryCoverageMismatch
        rejectIf (¬ requirement.admits 1) .queryCoverageMismatch
    | .byQuery tokens => forEach (checkQueryCount tokens) request.query.requirements

def FrozenOid4vpRequestV1.validateSubmissionAt (request : FrozenOid4vpRequestV1)
    (submission : WalletSubmissionV1) (now : Int) : Validated Unit := do
  request.validateAt packages now
  submission.validate
  rejectIf (submission.state ≠ some request.expectedState) .stateMismatch
  request.validateCoverage submission
  request.validateTokenCardinality submission

/-! ## What a success says -/

/-- What the decision relies on of a frozen request: distinct requirements, and disjoint
groups of optional ones that can be satisfied. -/
structure FrozenOid4vpRequestV1.WellFormed (request : FrozenOid4vpRequestV1) : Prop where
  bounded : request.query.requirements.length ≤ maxQueryRequirements
  sorted : (request.query.requirements.map (·.id)).Pairwise (· < ·)
  positive : ∀ requirement ∈ request.query.requirements, 0 < requirement.minCredentials
  groupMembers : ∀ group ∈ request.policy.alternativeRequirementGroups,
    ∀ id ∈ group.requirementIds, ∃ requirement ∈ request.query.requirements,
      requirement.id = id
  groupBounds : ∀ group ∈ request.policy.alternativeRequirementGroups,
    0 < group.minSatisfied ∧ group.minSatisfied ≤ group.requirementIds.length
  disjoint :
    (request.policy.alternativeRequirementGroups.flatMap (·.requirementIds)).Nodup
  optional : ∀ requirement ∈ request.query.requirements, requirement.required = true →
    requirement.id ∉ request.policy.alternativeRequirementGroups.flatMap (·.requirementIds)

theorem FrozenOid4vpRequestV1.WellFormed.nodup {request : FrozenOid4vpRequestV1}
    (h : request.WellFormed) : (request.query.requirements.map (·.id)).Nodup :=
  h.sorted.imp ne_of_lt

theorem FrozenOid4vpRequestV1.mem_queryIds (request : FrozenOid4vpRequestV1) (id : String) :
    id ∈ request.queryIds ↔ ∃ requirement ∈ request.query.requirements, requirement.id = id := by
  simp [FrozenOid4vpRequestV1.queryIds]

private theorem insertGroupMember_eq_ok {requirementIds grouped grouped' : TextSet}
    {id : String} (h : insertGroupMember requirementIds grouped id = .ok grouped') :
    grouped' = BTreeSet.insert grouped id ∧ id ∉ grouped ∧ id ∈ requirementIds := by
  simp only [insertGroupMember, bind_eq_ok, exists_unit, rejectIf_eq_ok, not_or, not_not,
    pure, Except.pure, Except.ok.injEq] at h
  exact ⟨h.2.2.symm, h.2.1.2, h.2.1.1⟩

/-- One group is bounded, its members are requirements and in no group before it. -/
private theorem validateGroup_eq_ok {requirementIds : TextSet}
    {state state' : Option String × TextSet} {group : FrozenAlternativeRequirementGroup}
    (h : validateGroup requirementIds state group = .ok state') :
    (∀ id, id ∈ state'.2 ↔ id ∈ group.requirementIds ∨ id ∈ state.2) ∧
      group.requirementIds.Nodup ∧
      (∀ id ∈ group.requirementIds, id ∉ state.2 ∧ id ∈ requirementIds) ∧
      0 < group.minSatisfied ∧ group.minSatisfied ≤ group.requirementIds.length := by
  simp only [validateGroup, bind_eq_ok, exists_unit, rejectIf_eq_ok, not_or, not_lt,
    pure, Except.pure, Except.ok.injEq] at h
  obtain ⟨-, ⟨-, -, -, -, hpos, hle⟩, grouped, hfold, rfl⟩ := h
  have hmembers := foldlM_insert_eq_ok (g := id) (q := (· ∈ requirementIds))
    (fun s a s' => insertGroupMember_eq_ok) hfold
  simp only [List.map_id, id_eq] at hmembers
  exact ⟨hmembers.1, hmembers.2.1, hmembers.2.2, by omega, hle⟩

/-- The groups together: all that the single groups satisfy, and no shared members. -/
private theorem validateGroups_eq_ok {requirementIds : TextSet} :
    ∀ {groups : List FrozenAlternativeRequirementGroup} {state state' : Option String × TextSet},
      groups.foldlM (validateGroup requirementIds) state = .ok state' →
      (∀ id, id ∈ state'.2 ↔ id ∈ groups.flatMap (·.requirementIds) ∨ id ∈ state.2) ∧
        (groups.flatMap (·.requirementIds)).Nodup ∧
        (∀ group ∈ groups, (∀ id ∈ group.requirementIds, id ∉ state.2 ∧ id ∈ requirementIds) ∧
          0 < group.minSatisfied ∧ group.minSatisfied ≤ group.requirementIds.length) := by
  intro groups
  induction groups with
  | nil =>
      intro state state' h
      cases h
      simp
  | cons group groups ih =>
      intro state state' h
      rw [List.foldlM_cons, bind_eq_ok] at h
      obtain ⟨mid, hmid, hrest⟩ := h
      obtain ⟨hmem, hnodup, hfresh, hpos, hle⟩ := validateGroup_eq_ok hmid
      obtain ⟨hmems, hnodups, hall⟩ := ih hrest
      refine ⟨?_, ?_, ?_⟩
      · intro id
        rw [hmems, hmem, List.flatMap_cons, List.mem_append]
        tauto
      · refine List.nodup_append'.mpr ⟨hnodup, hnodups, ?_⟩
        intro id hid hids
        obtain ⟨other, hother, hid'⟩ := List.mem_flatMap.mp hids
        exact ((hall other hother).1 id hid').1 ((hmem id).mpr (.inl hid))
      · intro other hother
        rcases List.mem_cons.mp hother with rfl | hother
        · exact ⟨hfresh, hpos, hle⟩
        · refine ⟨?_, (hall other hother).2⟩
          intro id hid
          have hnot := (hall other hother).1 id hid
          exact ⟨fun hs => hnot.1 ((hmem id).mpr (.inr hs)), hnot.2⟩

private theorem insertRequirementId_eq_ok {ids ids' : TextSet}
    {requirement : FrozenCredentialRequirement}
    (h : insertRequirementId ids requirement = .ok ids') :
    ids' = BTreeSet.insert ids requirement.id ∧ requirement.id ∉ ids ∧
      0 < requirement.minCredentials := by
  simp only [insertRequirementId, validateRequirement, bind_eq_ok, exists_unit, rejectIf_eq_ok,
    not_or, pure, Except.pure, Except.ok.injEq] at h
  obtain ⟨⟨-, -, -, -, -, -, -, -, -, -, -, hmin, -⟩, hfresh, rfl⟩ := h
  exact ⟨rfl, hfresh, Nat.pos_of_ne_zero hmin⟩

/-- **A validated request is well formed.** -/
theorem FrozenOid4vpRequestV1.wellFormed {request : FrozenOid4vpRequestV1}
    (h : request.validateStructure packages = .ok ()) : request.WellFormed := by
  simp only [FrozenOid4vpRequestV1.validateStructure, bind_eq_ok, exists_unit] at h
  obtain ⟨-, -, -, -, -, hpolicy, -, -, hrequirements⟩ := h
  simp only [validatePolicyReference, bind_eq_ok, exists_unit, rejectIf_eq_ok] at hpolicy
  obtain ⟨-, -, -, ⟨previous, grouped⟩, hgroups, hoptional, -⟩ := hpolicy
  simp only [FrozenOid4vpRequestV1.validateRequirements, bind_eq_ok, exists_unit,
    rejectIf_eq_ok, not_or, not_lt, not_not, List.isChain_iff_pairwise] at hrequirements
  obtain ⟨⟨-, hbounded, hsorted⟩, ids, hids, -⟩ := hrequirements
  have hpositive := (foldlM_insert_eq_ok (g := fun r => r.id)
    (q := fun r => 0 < r.minCredentials) (fun _ _ _ => insertRequirementId_eq_ok) hids).2.2
  obtain ⟨hmem, hdisjoint, hall⟩ := validateGroups_eq_ok hgroups
  refine ⟨hbounded, hsorted, fun r hr => (hpositive r hr).2, ?_, ?_, hdisjoint, ?_⟩
  · intro group hgroup id hid
    exact (request.mem_queryIds id).mp ((hall group hgroup).1 id hid).2
  · intro group hgroup
    exact (hall group hgroup).2
  · intro requirement hmember hrequired hid
    exact hoptional ⟨requirement, hmember, (hmem requirement.id).mpr (.inl hid), hrequired⟩

/-- A validated submission: the request is validated and the time lies in its life. -/
theorem FrozenOid4vpRequestV1.validateSubmissionAt_eq_ok {request : FrozenOid4vpRequestV1}
    {submission : WalletSubmissionV1} {now : Int}
    (h : request.validateSubmissionAt packages submission now = .ok ()) :
    request.validateStructure packages = .ok () ∧ request.issuedAtEpochSeconds ≤ now ∧
      now ≤ request.expiresAtEpochSeconds := by
  simp only [FrozenOid4vpRequestV1.validateSubmissionAt, FrozenOid4vpRequestV1.validateAt,
    bind_eq_ok, exists_unit, rejectIf_eq_ok, not_or, not_lt] at h
  exact ⟨h.1.1, h.1.2.1, h.1.2.2⟩

end Marty.Oid4vp
