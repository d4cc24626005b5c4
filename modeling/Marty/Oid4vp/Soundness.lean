import Marty.Oid4vp.Privacy

/-!
# An accepted Allow is sound

A projection that is accepted with the decision to allow proves what the request asks for:
the presentation is the answer to this very request, and every required requirement is
answered by credentials that were verified for it.

## Main definitions

* `CredentialAccepted`, `Answered` — what is established of a credential and of a
  requirement.
* `AllowSound` — what is established of the whole projection.
-/

namespace Marty.Oid4vp

open Lib Lib.Checked

section

variable (packages : Packages)

/-- A credential was verified for a requirement, with fresh trust and a good status. -/
structure CredentialAccepted (request : FrozenOid4vpRequestV1) (now : Int)
    (requirement : FrozenCredentialRequirement) (credential : AuthenticatedCredentialEvidence) :
    Prop where
  format : credential.format ∈ requirement.acceptedFormats
  typeSet : credential.authenticatedTypeOrVct ∈ requirement.acceptedTypeSets
  algorithm : ∃ algorithms, requirement.acceptedAlgorithms.get credential.format =
    some algorithms ∧ credential.proofAlgorithm ∈ algorithms
  notNone : Text.eqIgnoreAsciiCase credential.proofAlgorithm "none" = false
  requiredClaims : ∀ claim ∈ requirement.requiredClaims, claim ∈ credential.claims.keys
  allowedClaims : ∀ claim ∈ credential.claims.keys, claim ∈ requirement.allowedClaims
  proof : credential.proof.outcome = .passed
  trust : credential.trust.outcome = .passed
  trustProfile : credential.trust.profile = request.policy.trustProfile
  trustTime : request.issuedAtEpochSeconds ≤ credential.trust.checkedAtEpochSeconds ∧
    credential.trust.checkedAtEpochSeconds ≤ now
  trustAge : now - credential.trust.checkedAtEpochSeconds ≤ request.policy.maxTrustAgeSeconds
  status : credential.status.outcome = .passed
  unexpired : ∀ expiresAt, credential.expiresAtEpochSeconds = some expiresAt → now < expiresAt
  statusRecord :
    credential.status.state = .notPresent ∧ requirement.status.mode = .allowAbsent ∧
        credential.statusIds = [] ∨
      credential.status.state = .active ∧ credential.statusIds ≠ [] ∧
        (∃ validUntil, credential.status.validUntilEpochSeconds = some validUntil ∧
          now ≤ validUntil) ∧
        ∃ checkedAt, credential.status.checkedAtEpochSeconds = some checkedAt ∧
          checkedAt ≤ now ∧ now - checkedAt ≤ requirement.status.maxAgeSeconds

/-- A requirement has as many answers as it admits, all of them accepted. -/
structure Answered (projection : Oid4vpEvidenceProjectionV1) (request : FrozenOid4vpRequestV1)
    (now : Int) (requirement : FrozenCredentialRequirement) : Prop where
  minCredentials : requirement.minCredentials ≤ (projection.answering requirement.id).length
  maxCredentials : (projection.answering requirement.id).length ≤ requirement.maxCredentials
  accepted : ∀ credential ∈ projection.credentials, credential.queryId = requirement.id →
    CredentialAccepted request now requirement credential

structure AllowSound (projection : Oid4vpEvidenceProjectionV1) (request : FrozenOid4vpRequestV1)
    (now : Int) : Prop where
  issued : request.issuedAtEpochSeconds ≤ now
  unexpired : now ≤ request.expiresAtEpochSeconds
  presentation : projection.presentation.structureFact.outcome = .passed
  holder : projection.binding.holder.outcome = .passed
  challenge : projection.binding.challenge.outcome = .passed
  audience : projection.binding.audience.outcome = .passed
  replay : projection.binding.replay.outcome = .passed
  consumed : projection.binding.replay.consumedAtEpochSeconds = some now
  nonceObserved : ∃ digest, digestNonce packages request.nonce = .ok digest ∧
    projection.binding.challenge.observedDigest = some digest
  clientObserved : ∃ digest, digestAudience packages request.verifier.clientId = .ok digest ∧
    projection.binding.audience.observedDigest = some digest
  proof : request.policy.presentationProofRequired = true →
    projection.presentation.proof.outcome = .passed
  required : ∀ requirement ∈ request.query.requirements, requirement.required = true →
    Answered projection request now requirement
  groups : ∀ group ∈ request.policy.alternativeRequirementGroups,
    ∃ ids : List String, ids.Sublist group.requirementIds ∧ ids.Nodup ∧
      group.minSatisfied ≤ ids.length ∧
      ∀ id ∈ ids, ∃ requirement ∈ request.query.requirements, requirement.id = id ∧
        Answered projection request now requirement

variable {projection : Oid4vpEvidenceProjectionV1} {request : FrozenOid4vpRequestV1}
  {now : Int} {state : CredentialValidationState}

/-- A credential that matches a requirement and passed its checks is accepted for it. -/
private theorem credentialAccepted {requirement : FrozenCredentialRequirement}
    {credential : AuthenticatedCredentialEvidence}
    (htrust : validateTrust credential request now = .ok ())
    (hstatus : validateStatus credential requirement request now = .ok ())
    (hmatches : credentialMatchesRequirement credential requirement)
    (houtcomes : credential.proof.outcome = .passed ∧ credential.trust.outcome = .passed ∧
      credential.status.outcome = .passed) :
    CredentialAccepted request now requirement credential := by
  obtain ⟨hformat, htype, halgorithm, hrequired, hallowed⟩ := hmatches
  obtain ⟨algorithms, hget, haccepted⟩ := (Option.any_eq_true _ _).mp halgorithm
  obtain ⟨hnone, hin⟩ := Bool.and_eq_true_iff.mp haccepted
  obtain ⟨hprofile, hissued, hnow, hage⟩ := validateTrust_eq_ok htrust
  obtain ⟨hunexpired, hrecord⟩ := validateStatus_passed hstatus houtcomes.2.2
  refine ⟨hformat, htype, ⟨algorithms, hget, of_decide_eq_true hin⟩, ?_, ?_, hallowed,
    houtcomes.1, houtcomes.2.1, hprofile, ⟨hissued, hnow⟩, hage, houtcomes.2.2, ?_, hrecord⟩
  · simpa [eqIgnoreNone] using hnone
  · intro claim hclaim
    exact (BTreeMap.mem_keys _ _).mpr (hrequired claim hclaim)
  · intro expiresAt hsome
    simpa [AuthenticatedCredentialEvidence.expired, hsome] using hunexpired

/-- A requirement whose recorded outcome is passed is answered. -/
private theorem answered_of_passed (hwf : request.WellFormed)
    (hcredentials : CredentialsValidated projection request now state)
    {requirement : FrozenCredentialRequirement}
    (hmem : requirement ∈ request.query.requirements)
    (hpassed : state.outcomeOf requirement.id = .passed) :
    Answered projection request now requirement := by
  rw [outcomeOf_eq hwf hcredentials hmem] at hpassed
  have hadmits := hcredentials.admits requirement hmem
  refine ⟨hadmits.1, hadmits.2, ?_⟩
  intro credential hcredential hquery
  have hanswers : credential ∈ projection.answering requirement.id :=
    List.mem_filter.mpr ⟨hcredential, by simpa using hquery⟩
  obtain ⟨hmatches, houtcomes⟩ := requirementAssessment_passed hpassed credential hanswers
  have hchecked := hcredentials.checked credential hcredential
  obtain ⟨checkedFor, hfor, hid, hstatus⟩ := hchecked.status
  -- requirement identifiers are distinct, so the status was checked for this one
  have hsame : checkedFor = requirement :=
    List.inj_on_of_nodup_map hwf.nodup hfor hmem (hid.trans hquery)
  subst hsame
  exact credentialAccepted hchecked.trust hstatus hmatches houtcomes

/-- **Soundness of an accepted Allow.**  When a projection is accepted and its decision is
to allow, the presentation answers this request within its life, its bindings are those of
the request, the required requirements are answered, and so are enough members of every
alternative group. -/
theorem allow_sound {submission : WalletSubmissionV1}
    (hok : projection.validateAgainstAt packages request submission now = .ok ())
    (hallow : projection.decision.decision = .allow) :
    AllowSound packages projection request now := by
  simp only [Oid4vpEvidenceProjectionV1.validateAgainstAt,
    Oid4vpEvidenceProjectionV1.validateVerdict, bind_eq_ok, exists_unit] at hok
  obtain ⟨-, hsubmission, -, -, -, -, -, -, -, -, -, state, hcredentials, hbindings,
    ⟨hchecks, hdecision⟩, -⟩ := hok
  have hrequest := request.validateSubmissionAt_eq_ok packages hsubmission
  have hwf := FrozenOid4vpRequestV1.wellFormed packages hrequest.1
  have hvalidated := validateCredentials_eq_ok packages hcredentials
  have hexpected := (validateChecks_eq_ok projection request state).mp hchecks
  simp only [Oid4vpEvidenceProjectionV1.validateDecision, bind_eq_ok, exists_unit,
    rejectIf_eq_ok, not_or, not_not] at hdecision
  obtain ⟨counts, -, -, -, -, -, -, ⟨-, hresult, -⟩, -⟩ := hdecision
  have hfull : fullySatisfied projection request state counts = true := by
    rw [← expectedDecision_allow, ← hresult]
    exact hallow
  obtain ⟨-, hglobal, hpolicy⟩ := (fullySatisfied_iff projection request state).mp hfull
  obtain ⟨hstructure, hproof, hholder, hchallenge, haudience, hreplay⟩ :=
    (globalOutcome_eq_passed projection request state hexpected.1).mp hglobal
  obtain ⟨hdirect, hgroups⟩ := (requiredPolicyOutcome_eq_passed request state).mp hpolicy
  obtain ⟨hnonce, hclient, hconsumed⟩ := validateBindings_eq_ok packages hbindings
  refine ⟨hrequest.2.1, hrequest.2.2, hstructure, hholder, hchallenge, haudience, hreplay,
    hconsumed hreplay, hnonce hchallenge, hclient haudience, hproof, ?_, ?_⟩
  · intro requirement hmem hrequired
    have hungrouped : requirement.id ∉ request.groupedIds := by
      simpa [FrozenOid4vpRequestV1.groupedIds] using hwf.optional requirement hmem hrequired
    exact answered_of_passed hwf hvalidated hmem
      (hdirect requirement (List.mem_filter.mpr ⟨hmem, by simpa using hungrouped⟩) hrequired)
  · intro group hgroup
    have henough := (groupOutcome_eq_passed state).mp (hgroups group hgroup)
    have hnodup : group.requirementIds.Nodup :=
      (List.nodup_flatMap.mp hwf.disjoint).1 group hgroup
    refine ⟨_, List.filter_sublist, hnodup.filter _, henough, ?_⟩
    intro id hid
    have hsplit := List.mem_filter.mp hid
    obtain ⟨requirement, hmem, hsame⟩ := hwf.groupMembers group hgroup id hsplit.1
    have hpassed : state.outcomeOf requirement.id = .passed := by
      rw [hsame]
      exact beq_iff_eq.mp hsplit.2
    exact ⟨requirement, hmem, hsame, answered_of_passed hwf hvalidated hmem hpassed⟩

end

/-! ## An accepted projection -/

namespace Example

def zeroDigest : String :=
  "sha256:0000000000000000000000000000000000000000000000000000000000000000"

def queryDigest : String :=
  "sha256:58d2bb0c56a1ff85ca107757e8c63f26a13c0e07a4abfb639e41c427bd85a59e"

def requestDigest : String :=
  "sha256:012a977f0d5f6a8e8c6b55108fe916f752a42753222cc1b4ccd0db34c03fbdf3"

def responseDigest : String :=
  "sha256:8ec0c2ff65e6eb0ad53596199c7c19a8d3a4439881192559799088d1b0b7d30e"

def itemDigest : String :=
  "sha256:b55ca5ae8b2bc2ec7fad0f2f88eadd2c1926950d7b2cead94501b8c970c637ef"

def nonceDigest : String :=
  "sha256:144a27439fc4eeac818d6b63436d1f2ffd68028494b7b32b206eb830c9c485f5"

def audienceDigest : String :=
  "sha256:674a60e3dee1475e2232b54d4419897a48fffedecfd77b31754609c876c74458"

def replayDigest : String :=
  "sha256:a1935803ded8e2095dbbdee6858adb7897f4cb417b56261c2003e9c5a90b9a38"

/-- The canonical digests of the seven documents of this exchange. -/
def digestOf (domain : String) : Option String :=
  [(queryDocumentDigestDomain, queryDigest), (frozenRequestDigestDomain, requestDigest),
    (walletSubmissionDigestDomain, responseDigest), (responseItemDigestDomain, itemDigest),
    (nonceDigestDomain, nonceDigest), (audienceDigestDomain, audienceDigest),
    (replayKeyDigestDomain, replayDigest)].lookup domain

/-- The other packages, on texts without a percent sign. -/
def packages : Packages where
  canonicalDigestJson
    | .object (("domain", .string domain) :: _) => digestOf domain
    | _ => none
  parseUrl _ := some ⟨"https", some "v.example"⟩
  percentDecodeUtf8 := some

def requirement : FrozenCredentialRequirement where
  id := "member"
  acceptedFormats := ["dc+sd-jwt"]
  formatOptions := BTreeMap.empty
  acceptedAlgorithms := BTreeMap.ofEntries [("dc+sd-jwt", ["ES256"])]
  acceptedTypeSets := [["urn:member"]]
  requiredClaims := ["name"]
  allowedClaims := ["name"]
  retainedClaims := []
  dcqlClaimPaths := BTreeMap.empty
  required := true
  minCredentials := 1
  maxCredentials := 1
  status := ⟨.allowAbsent, 600⟩

def document : Value :=
  .object [("credentials", .array [.object [("id", .string "member"),
    ("format", .string "dc+sd-jwt"),
    ("meta", .object [("vct_values", Json.Value.ofStrings ["urn:member"])]),
    ("claims", .array [.object [("id", .string "claim_name"),
      ("path", Json.Value.ofStrings ["name"])]])]])]

def request : FrozenOid4vpRequestV1 where
  sessionId := "flow-1"
  organizationId := "org-1"
  initiatingPrincipalId := "user-1"
  policy := ⟨"policy-1", 3, zeroDigest, ⟨"trust-1", 2, zeroDigest⟩, 600, true, []⟩
  query := ⟨.dcql, document, queryDigest, [requirement]⟩
  verifier := ⟨"verifier-1", "https://v.example/r"⟩
  nonce := "0123456789abcdef0123456789abcdef"
  expectedState := "state-1"
  issuedAtEpochSeconds := 1000
  expiresAtEpochSeconds := 1600

def submission : WalletSubmissionV1 where
  vpToken := .byQuery (BTreeMap.ofEntries [("member", ["header.payload.sig"])])
  presentationSubmission := none
  state := some "state-1"

def fact (code : String) : EvidenceFact := ⟨.passed, code, some zeroDigest, some 1200⟩

def credential : AuthenticatedCredentialEvidence where
  credentialId := "credential-1"
  queryId := "member"
  responseTokenDigest := itemDigest
  format := "dc+sd-jwt"
  authenticatedTypeOrVct := ["urn:member"]
  claims := BTreeMap.ofEntries [("name", .string "Avery")]
  issuerId := "issuer-1"
  proofAlgorithm := "ES256"
  issuedAtEpochSeconds := 500
  expiresAtEpochSeconds := none
  statusIds := []
  proof := fact "OID4VP_CREDENTIAL_SIGNATURE_VERIFIED"
  trust := ⟨.passed, ⟨"trust-1", 2, zeroDigest⟩, ["high"], [], [], 1200, zeroDigest⟩
  status := ⟨.passed, .notPresent, none, none, none⟩

def binding : AuthenticatedBindingEvidence where
  holder := ⟨.passed, some "jwk_thumbprint", some "kb", some zeroDigest, some 1200,
    "OID4VP_HOLDER_KEY_BOUND"⟩
  challenge := ⟨nonceDigest, some nonceDigest, .passed, "OID4VP_NONCE_MATCHED"⟩
  audience := ⟨audienceDigest, some audienceDigest, .passed, "OID4VP_AUDIENCE_MATCHED"⟩
  replay := ⟨replayDigest, .passed, "OID4VP_REPLAY_CAS_CONSUMED", some 1200, some zeroDigest⟩

def projection : Oid4vpEvidenceProjectionV1 where
  requestDigest := requestDigest
  responseDigest := responseDigest
  processingStatus := .complete
  checks := requiredOid4vpChecks.map fun checkId =>
    ⟨checkId, .passed, expectedCheckCode checkId .passed⟩
  presentation := ⟨fact "OID4VP_PRESENTATION_PARSED",
    fact "OID4VP_PRESENTATION_SIGNATURE_VERIFIED"⟩
  credentials := [credential]
  binding := binding
  policyResult := {
    policy := ⟨"policy-1", 3, zeroDigest⟩
    result := .passed
    decision := .allow
    reasonCode := policyPassedCode
    evaluatedCredentialIds := ["credential-1"]
    totalRequirements := 2
    satisfiedRequirements := 2
    requiredTotal := 2
    requiredSatisfied := 2
    verifiedClaims := BTreeMap.ofEntries [("name", .string "Avery")]
    violationCodes := []
    evaluationTimeEpochSeconds := 1200 }
  decision := ⟨.passed, .allow, policyPassedCode⟩

/-! The parts of the check of this exchange.  The size and the texts of the projection are those
of its entries. -/

theorem byteLength_writeEntries_le {n : Nat} {entries : List (String × Json.Value)}
    (h : ∀ e ∈ entries,
      Json.byteLength (Json.writeString e.1) + Json.byteLength e.2.write + 2 ≤ n) :
    Json.byteLength (Json.writeEntries entries) ≤ entries.length * n + 1 := by
  induction entries with
  | nil => simp [Json.writeEntries, Json.byteLength, Char.utf8Size]
  | cons e entries ih =>
    obtain ⟨he, hrest⟩ := List.forall_mem_cons.mp h
    have htail := ih hrest
    have hcolon : Char.utf8Size ':' = 1 := rfl
    have hcomma : Char.utf8Size ',' = 1 := rfl
    have hclose : Char.utf8Size (Char.ofNat 0x7D) = 1 := rfl
    cases entries with
    | nil =>
      simp only [Json.writeEntries, Json.byteLength, List.map_append, List.map_cons, List.map_nil,
        List.sum_append, List.sum_cons, List.sum_nil, List.length_singleton] at he ⊢
      omega
    | cons f entries =>
      simp only [Json.writeEntries, Json.byteLength, List.map_append, List.map_cons,
        List.sum_append, List.sum_cons, List.length_cons, Nat.add_mul, Nat.one_mul] at he htail ⊢
      omega

theorem validateSerializedSize_object {n maxBytes : Nat} {field : String}
    {entries : List (String × Json.Value)}
    (h : ∀ e ∈ entries,
      Json.byteLength (Json.writeString e.1) + Json.byteLength e.2.write + 2 ≤ n)
    (hmax : entries.length * n + 2 ≤ maxBytes) :
    validateSerializedSize (.object entries) maxBytes field = .ok () := by
  refine rejectIf_eq_ok.mpr (not_lt.mpr ?_)
  have hopen : Char.utf8Size (Char.ofNat 0x7B) = 1 := rfl
  have hsize := byteLength_writeEntries_le h
  simp only [Json.Value.write, Json.byteLength, List.map_cons, List.sum_cons] at hsize ⊢
  omega

theorem validateSerializedSize_projection {projection : Oid4vpEvidenceProjectionV1}
    (h : ∀ e ∈ projection.toValue.asObject.getD [],
      Json.byteLength (Json.writeString e.1) + Json.byteLength e.2.write + 2 ≤ 5000) :
    validateSerializedSize projection.toValue maxEvidenceProjectionBytes
      "evidence_projection" = .ok () :=
  validateSerializedSize_object h (by simp [maxEvidenceProjectionBytes])

def state : CredentialValidationState where
  credentialProof := .passed
  trust := .passed
  status := .passed
  claims := .passed
  credentialIds := BTreeMap.ofEntries [("credential-1", ())]
  requirementOutcomes := BTreeMap.ofEntries [("member", .passed)]
  credentialsByQuery := BTreeMap.ofEntries [("member", ["credential-1"])]

theorem credentials_eq {checked : Validated CredentialValidationState}
    (h : checked.toOption.any (fun s => s.credentialProof = .passed ∧ s.trust = .passed ∧
      s.status = .passed ∧ s.claims = .passed ∧ s.credentialIds = state.credentialIds ∧
      s.requirementOutcomes = state.requirementOutcomes ∧
      s.credentialsByQuery = state.credentialsByQuery) = true) : checked = .ok state := by
  cases checked with
  | error e => simp [Except.toOption] at h
  | ok found =>
    obtain ⟨proof, trust, status, claims, ids, outcomes, byQuery⟩ := found
    simp only [Except.toOption, Option.any_some, decide_eq_true_eq] at h
    obtain ⟨rfl, rfl, rfl, rfl, rfl, rfl, rfl⟩ := h
    rfl

def patterns : List String :=
  ["WVVkV2FGcEhWbmxNYmtKb1pWZDRkbGxYVVhWak1teHU", "WVVkV2FGcEhWbmxNYmtKb1pWZDRkbGxYVVhWak1teHU=",
    "YUdWaFpHVnlMbkJoZVd4dllXUXVjMmxu", "aGVhZGVyLnBheWxvYWQuc2ln", "header.payload.sig"]

theorem entriesContainSensitive_eq_false {entries : List (String × Json.Value)}
    (h : ∀ e ∈ entries, normalizedValueIsForbidden packages patterns true
        maxPrivacyNormalizedBytes e.1 = false ∧
      containsSensitiveString packages patterns e.2 = false) :
    entriesContainSensitive packages patterns entries = false := by
  induction entries with
  | nil => rfl
  | cons e entries ih =>
    obtain ⟨⟨hkey, hvalue⟩, hrest⟩ := List.forall_mem_cons.mp h
    simp [entriesContainSensitive, hkey, hvalue, ih hrest]

theorem size_ok : validateSerializedSize projection.toValue maxEvidenceProjectionBytes
    "evidence_projection" = .ok () := by
  refine validateSerializedSize_projection ?_
  repeat' refine List.forall_mem_cons.mpr ⟨?_, ?_⟩
  on_goal 11 => exact nofun
  all_goals decide +kernel

theorem texts_ok : containsSensitiveString packages patterns projection.toValue = false := by
  refine entriesContainSensitive_eq_false ?_
  simp only [List.forall_mem_cons]
  and_intros
  on_goal 21 => exact nofun
  all_goals decide +kernel

/-- The texts that no entry of the projection may repeat. -/
def forbiddenTexts : {texts : List String // sensitiveTokenPatterns submission.rawTokens = texts ∧
    fragmentedClaimMaterialIsForbidden packages projection texts = false} :=
  ⟨patterns, by decide +kernel, by decide +kernel⟩

theorem privacy_ok : projection.validatePrivacy packages submission = .ok () := by
  have hpatterns : sensitiveTokenPatterns submission.rawTokens = patterns :=
    forbiddenTexts.property.1
  have hfragments : fragmentedClaimMaterialIsForbidden packages projection patterns = false :=
    forbiddenTexts.property.2
  simp [Oid4vpEvidenceProjectionV1.validatePrivacy, hpatterns, hfragments, texts_ok]

/-- The state that the checks of the exchange come to. -/
def checked : {s : CredentialValidationState // request.validateStructure packages = .ok () ∧
    request.validateSubmissionAt packages submission 1200 = .ok () ∧
    validateDigest projection.requestDigest "request_digest" = .ok () ∧
    validateDigest projection.responseDigest "response_digest" = .ok () ∧
    projection.validateSupportingFacts request 1200 = .ok () ∧
    projection.validateCredentials packages request submission 1200 = .ok s ∧
    projection.validateBindings packages request 1200 = .ok () ∧
    projection.validateVerdict request s 1200 = .ok ()} := by
  have hstructure : request.validateStructure packages = .ok () := by decide +kernel
  refine ⟨state, hstructure, ?_, ?_, ?_, ?_, credentials_eq ?_, ?_, ?_⟩
  · simp only [FrozenOid4vpRequestV1.validateSubmissionAt, FrozenOid4vpRequestV1.validateAt,
      bind_eq_ok, exists_unit, hstructure, true_and]
    decide +kernel
  all_goals decide +kernel

theorem request_ok : request.validateStructure packages = .ok () ∧
    request.validateSubmissionAt packages submission 1200 = .ok () ∧
    validateDigest projection.requestDigest "request_digest" = .ok () ∧
    validateDigest projection.responseDigest "response_digest" = .ok () ∧
    projection.validateSupportingFacts request 1200 = .ok () ∧
    projection.validateCredentials packages request submission 1200 = .ok state ∧
    projection.validateBindings packages request 1200 = .ok () ∧
    projection.validateVerdict request state 1200 = .ok () :=
  checked.property

end Example

/-- One credential answers the one requirement of a request, and is allowed. -/
theorem allow_sound_example :
    AllowSound Example.packages Example.projection Example.request 1200 := by
  obtain ⟨-, hsubmission, hrequest, hresponse, hfacts, hcredentials, hbindings, hverdict⟩ :=
    Example.request_ok
  have haccepted : Example.projection.validateAgainstAt Example.packages Example.request
      Example.submission 1200 = .ok () := by
    simp only [Oid4vpEvidenceProjectionV1.validateAgainstAt, bind_eq_ok, exists_unit]
    exact ⟨Example.size_ok, hsubmission, Example.requestDigest, rfl, Example.responseDigest, rfl,
      rfl, rfl, hrequest, hresponse, hfacts, Example.state, hcredentials, hbindings, hverdict,
      Example.privacy_ok⟩
  exact allow_sound Example.packages haccepted rfl

end Marty.Oid4vp
