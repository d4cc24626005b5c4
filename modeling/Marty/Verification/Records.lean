import Marty.Lib.JsonStruct
import Marty.Lib.JsonViews
import Marty.Verification.SessionStore

/-!
# Records without claim values

A session is stored as the text of its fields, and shown as the document of the protocol.  What
is stored of a decided session reads back as it is, and neither the stored text nor the document
depends on the values of the claims.

## Main definitions

* `VerificationSession.toFields`, `VerificationSession.ofFields` — the fields of a record.
* `encodeText`, `decodeText` — the stored text.
* `VerificationSession.protocolValue` — the document of the protocol.
* `SameButValues` — sessions that differ in the values of claims only.
-/

namespace Marty.Verification

open Lib Lib.Json VerificationSession

/-! ## Stored texts -/

def SessionStatus.asStr : SessionStatus → String
  | .pending => "pending"
  | .completed => "completed"
  | .expired => "expired"
  | .failed => "failed"

def SessionStatus.ofValue (value : Value) : Option SessionStatus :=
  [SessionStatus.pending, .completed, .expired, .failed].find? fun status =>
    value.unitVariant = some status.asStr

/-- What the libraries do with texts: the moments of `chrono`, and the texts of `serde_json`, the
fields by which they give a structure and the numbers that they keep. -/
structure Wire where
  writeTime : Utc → String
  readTime : String → Option Utc
  rfc3339 : Utc → String
  readFields : String → Option Map
  isNumber : String → Prop

/-- An integer of thirty-two bits. -/
def readI32 (value : Value) : Option Int :=
  value.asInteger.filter fun n => -2 ^ 31 ≤ n ∧ n < 2 ^ 31

section

variable (W : Wire)

def Wire.time (t : Utc) : Value := .string (W.writeTime t)

def Wire.readTimeValue (value : Value) : Option Utc := value.asStr.bind W.readTime

namespace VerificationSession

/-- The fields that are written, all but the presentation. -/
def toFields (s : VerificationSession) : Map :=
  [("session_id", .string s.sessionId), ("flow_id", .string s.flowId),
    ("flow_instance_id", .string s.flowInstanceId),
    ("organization_id", .string s.organizationId),
    ("evaluation_principal_id", .string s.evaluationPrincipalId),
    ("presentation_policy_id", .ofOption .string s.presentationPolicyId),
    ("response_type", .string s.responseType),
    ("trust_profile_id", .ofOption .string s.trustProfileId),
    ("deployment_profile_id", .ofOption .string s.deploymentProfileId),
    ("external_reference", .ofOption .string s.externalReference),
    ("callback_url", .ofOption .string s.callbackUrl), ("purpose", .string s.purpose),
    ("nonce", .string s.nonce), ("holder_id", .ofOption .string s.holderId),
    ("status", .string s.status.asStr), ("created_at", W.time s.createdAt),
    ("updated_at", W.time s.updatedAt), ("expires_at", W.time s.expiresAt),
    ("result", .ofOption .string s.result), ("decision", .ofOption .string s.decision),
    ("decision_reason", .string s.decisionReason),
    ("verified_claims", .object s.verifiedClaims.entries),
    ("credential_results", .array s.credentialResults),
    ("holder_binding_evidence", s.holderBindingEvidence.getD .null),
    ("inspection_performed", .bool s.inspectionPerformed),
    ("inspection_result", .string s.inspectionResult),
    ("inspection_result_sha256", .ofOption .string s.inspectionResultSha256),
    ("vp_token_sha256", .ofOption .string s.vpTokenSha256),
    ("processing_token", .ofOption .string s.processingToken),
    ("processing_expires_at", .ofOption W.time s.processingExpiresAt),
    ("total_requirements", .ofInt s.totalRequirements),
    ("satisfied_requirements", .ofInt s.satisfiedRequirements),
    ("completed_at", .ofOption W.time s.completedAt), ("error", .ofOption .string s.error)]

/-- The record of the fields; what is not required has a default. -/
def ofFields (m : Map) : Option VerificationSession := do
  let sessionId ← m.field "session_id" Value.asStr
  let flowId ← m.field "flow_id" Value.asStr
  let flowInstanceId ← m.field "flow_instance_id" Value.asStr
  let organizationId ← m.field "organization_id" Value.asStr
  let evaluationPrincipalId ← m.fieldOr "evaluation_principal_id" Value.asStr ""
  let presentationPolicyId ← m.fieldOr "presentation_policy_id" (nullable Value.asStr) none
  let responseType ← m.fieldOr "response_type" Value.asStr "vp_token"
  let trustProfileId ← m.fieldOr "trust_profile_id" (nullable Value.asStr) none
  let deploymentProfileId ← m.fieldOr "deployment_profile_id" (nullable Value.asStr) none
  let externalReference ← m.fieldOr "external_reference" (nullable Value.asStr) none
  let callbackUrl ← m.fieldOr "callback_url" (nullable Value.asStr) none
  let purpose ← m.fieldOr "purpose" Value.asStr ""
  let nonce ← m.field "nonce" Value.asStr
  let holderId ← m.fieldOr "holder_id" (nullable Value.asStr) none
  let status ← m.field "status" SessionStatus.ofValue
  let createdAt ← m.field "created_at" W.readTimeValue
  let updatedAt ← m.field "updated_at" W.readTimeValue
  let expiresAt ← m.field "expires_at" W.readTimeValue
  let result ← m.fieldOr "result" (nullable Value.asStr) none
  let decision ← m.fieldOr "decision" (nullable Value.asStr) none
  let decisionReason ← m.fieldOr "decision_reason" Value.asStr ""
  let verifiedClaims ← m.fieldOr "verified_claims" readMap .empty
  let credentialResults ← m.fieldOr "credential_results" Value.asArray []
  let holderBindingEvidence ← m.fieldOr "holder_binding_evidence" (nullable some) none
  let inspectionPerformed ← m.fieldOr "inspection_performed" Value.asBool false
  let inspectionResult ← m.fieldOr "inspection_result" Value.asStr ""
  let inspectionResultSha256 ← m.fieldOr "inspection_result_sha256" (nullable Value.asStr) none
  let vpTokenSha256 ← m.fieldOr "vp_token_sha256" (nullable Value.asStr) none
  let processingToken ← m.fieldOr "processing_token" (nullable Value.asStr) none
  let processingExpiresAt ← m.fieldOr "processing_expires_at" (nullable W.readTimeValue) none
  let totalRequirements ← m.fieldOr "total_requirements" readI32 0
  let satisfiedRequirements ← m.fieldOr "satisfied_requirements" readI32 0
  let completedAt ← m.fieldOr "completed_at" (nullable W.readTimeValue) none
  let error ← m.fieldOr "error" (nullable Value.asStr) none
  let vpToken ← m.fieldOr "vp_token" (nullable Value.asStr) none
  return {
    sessionId, flowId, flowInstanceId, organizationId, evaluationPrincipalId,
    presentationPolicyId, responseType, trustProfileId, deploymentProfileId,
    externalReference, callbackUrl, purpose, nonce, holderId, status, createdAt, updatedAt,
    expiresAt, result, decision, decisionReason, verifiedClaims, credentialResults,
    holderBindingEvidence, inspectionPerformed, inspectionResult, inspectionResultSha256,
    vpTokenSha256, processingToken, processingExpiresAt, totalRequirements,
    satisfiedRequirements, completedAt, error, vpToken }

end VerificationSession

/-- The stored text of a record. -/
def encodeText (s : VerificationSession) : String :=
  String.ofList (Value.object (s.toFields W)).write

/-- The record of a stored text. -/
def decodeText (P : Platform) (text : String) : Option VerificationSession :=
  ((W.readFields text).bind (VerificationSession.ofFields W)).map (decode P)

/-- The text by which a read replaces a stored one. -/
def canonicalRewrite (P : Platform) (raw : String) : Option String :=
  (decodeText W P raw).bind fun s => if encodeText W s ≠ raw then some (encodeText W s) else none

end

/-! ## The document of the protocol -/

def SessionStatus.protocolStatus : SessionStatus → String
  | .pending => "PENDING"
  | .completed => "PASSED"
  | .expired => "EXPIRED"
  | .failed => "FAILED"

def insertOptional (key : String) (value : Option Value) (fields : Map) : Map :=
  value.elim fields (fields.insert key)

/-- The claims that the results name as missing, in order. -/
def collectClaimsMissing (results : List Value) : List String :=
  BTreeSet.toList <| .ofList <| (results.filterMap Value.asObject).flatMap fun result =>
    (["claims_missing", "missing_claims", "unsatisfied_claims"].flatMap fun key =>
      ((result.get key).bind Value.asArray).getD []).filterMap nonemptyString

/-- What the first result that says so says of the revocation. -/
def deriveRevocationChecked (results : List Value) : Option Bool :=
  (results.filterMap Value.asObject).findSome? fun result =>
    ["revocation_checked", "revocation_validated", "revocation_status_checked"].findSome?
      fun key => (result.get key).map fun value => value.asBool.getD (!value.isNull)

namespace VerificationSession

def protocolResult (s : VerificationSession) : Option Value :=
  if s.completedAt = none ∧ s.result = none then none
  else
    let passed : Bool := s.result = some "passed" ∧ s.status ≠ .failed
    let claims := s.verifiedClaims.keys
    let missing := collectClaimsMissing s.credentialResults
    let reason := if s.decisionReason = "" then s.error.getD "" else s.decisionReason
    let fields : Map := [("passed", .bool passed)]
    some <| .object <| fields
      |> insertOptional "claims_satisfied" (if claims ≠ [] then some (.ofStrings claims) else none)
      |> insertOptional "claims_missing" (if missing ≠ [] then some (.ofStrings missing) else none)
      |> insertOptional "trust_validated"
          (s.decision.map fun decision => .bool (decision = "allow"))
      |> insertOptional "revocation_checked"
          ((deriveRevocationChecked s.credentialResults).map .bool)
      |> insertOptional "holder_binding_evidence" s.holderBindingEvidence
      |> insertOptional "failure_reason"
          (if passed = false ∧ reason ≠ "" then some (.string reason) else none)

def protocolValue (W : Wire) (s : VerificationSession) : Value :=
  let moment (t : Utc) : Value := .string (W.rfc3339 t)
  let fields : Map :=
    [("id", .string s.sessionId), ("flow_id", .string s.flowId),
      ("flow_instance_id", .string s.flowInstanceId), ("verifier_nonce", .string s.nonce),
      ("status", .string s.status.protocolStatus), ("expires_at", moment s.expiresAt),
      ("created_at", moment s.createdAt), ("updated_at", moment s.updatedAt)]
  .object <| fields
    |> insertOptional "presentation_policy_id" (s.presentationPolicyId.map .string)
    |> insertOptional "deployment_profile_id" (s.deploymentProfileId.map .string)
    |> insertOptional "holder_id" (s.holderId.map .string)
    |> insertOptional "result" s.protocolResult
    |> insertOptional "completed_at" (s.completedAt.map moment)
    |> insertOptional "error" (s.error.map .string)

end VerificationSession

/-! ## Records that read back -/

/-- What a record holds by the types of its fields: moments and numbers within their bounds,
and values of JSON; the evidence is written as what it is. -/
structure Storable (W : Wire) (s : VerificationSession) : Prop where
  created : Utc.minUtc ≤ s.createdAt ∧ s.createdAt ≤ Utc.maxUtc
  updated : Utc.minUtc ≤ s.updatedAt ∧ s.updatedAt ≤ Utc.maxUtc
  expires : Utc.minUtc ≤ s.expiresAt ∧ s.expiresAt ≤ Utc.maxUtc
  processing : ∀ t ∈ s.processingExpiresAt, Utc.minUtc ≤ t ∧ t ≤ Utc.maxUtc
  completed : ∀ t ∈ s.completedAt, Utc.minUtc ≤ t ∧ t ≤ Utc.maxUtc
  total : -2 ^ 31 ≤ s.totalRequirements ∧ s.totalRequirements < 2 ^ 31
  satisfied : -2 ^ 31 ≤ s.satisfiedRequirements ∧ s.satisfiedRequirements < 2 ^ 31
  claims : entriesOver W.isNumber s.verifiedClaims.entries
  results : itemsOver W.isNumber s.credentialResults
  evidence : ∀ evidence ∈ s.holderBindingEvidence, evidence.Over W.isNumber ∧ evidence ≠ .null

/-- The libraries read what they write, and read nothing that their types do not hold. -/
structure Wire.Reads (W : Wire) : Prop where
  time : ∀ t, Utc.minUtc ≤ t → t ≤ Utc.maxUtc → W.readTime (W.writeTime t) = some t
  time_bounded : ∀ text t, W.readTime text = some t → Utc.minUtc ≤ t ∧ t ≤ Utc.maxUtc
  fields : ∀ m : Map, (Value.object m).Over W.isNumber →
    W.readFields (String.ofList (Value.object m).write) = some m
  fields_over : ∀ text m, W.readFields text = some m → (Value.object m).Over W.isNumber
  integer : ∀ n : Int, W.isNumber (toString n)

section

variable {W : Wire}

theorem status_ofValue (status : SessionStatus) :
    SessionStatus.ofValue (.string status.asStr) = some status := by
  cases status <;> rfl

theorem nullable_strings (o : Option String) :
    nullable Value.asStr (.ofOption .string o) = some o := by
  cases o <;> rfl

theorem readI32_ofInt {n : Int} (h : -2 ^ 31 ≤ n ∧ n < 2 ^ 31) :
    readI32 (.ofInt n) = some n := by
  have hrange : decide (-2 ^ 31 ≤ n ∧ n < 2 ^ 31) = true := decide_eq_true h
  rw [readI32, Value.asInteger_ofInt, Option.filter, if_pos hrange]

theorem Wire.Reads.timeValue (hreads : W.Reads) {t : Utc}
    (h : Utc.minUtc ≤ t ∧ t ≤ Utc.maxUtc) : W.readTimeValue (W.time t) = some t :=
  hreads.time t h.1 h.2

theorem Wire.Reads.timeOption (hreads : W.Reads) {o : Option Utc}
    (h : ∀ t ∈ o, Utc.minUtc ≤ t ∧ t ≤ Utc.maxUtc) :
    nullable W.readTimeValue (.ofOption W.time o) = some o := by
  cases o with
  | none => rfl
  | some t =>
      have ht := hreads.timeValue (h t rfl)
      exact congrArg (Option.map some) ht

theorem nullable_evidence {evidence : Option Value} (h : ∀ v ∈ evidence, v ≠ .null) :
    nullable some (evidence.getD .null) = some evidence := by
  cases evidence with
  | none => rfl
  | some v =>
      have hne := h v rfl
      cases v with
      | null => exact absurd rfl hne
      | _ => rfl

namespace VerificationSession

/-- The fields read back, but for the presentation. -/
theorem ofFields_toFields (hreads : W.Reads) {s : VerificationSession} (h : Storable W s) :
    ofFields W (s.toFields W) = some { s with vpToken := none } := by
  have hevidence := nullable_evidence fun v hv => (h.evidence v hv).2
  simp only [ofFields, toFields, Map.field, Map.fieldOr, Map.get_cons, Map.get_nil,
    String.reduceEq, if_true, if_false, Option.bind_some, Value.asStr, Value.asArray,
    Value.asBool, nullable_strings, status_ofValue, hreads.timeValue h.created,
    hreads.timeValue h.updated, hreads.timeValue h.expires, hreads.timeOption h.processing,
    hreads.timeOption h.completed, readI32_ofInt h.total, readI32_ofInt h.satisfied,
    readMap_object, hevidence, Option.bind_eq_bind]
  rfl

end VerificationSession

end

/-! ## Minimized records are storable -/

section

variable {W : Wire} {P : Platform} {s : VerificationSession}

theorem keeps_stringList (p : String → Prop) : Keeps p stringList := by
  intro v w h _
  obtain ⟨values, -, rfl⟩ := Option.map_eq_some_iff.mp h
  refine itemsOver_iff.mpr fun v hv => ?_
  obtain ⟨text, -, rfl⟩ := List.mem_map.mp hv
  trivial

theorem keeps_minimizeConstraint (p : String → Prop) : Keeps p minimizeConstraint := by
  refine keeps_keepObject (by decide) fun field hfield => ?_
  obtain ⟨key, -, rfl⟩ := List.mem_map.mp hfield
  exact keeps_keepIf _

theorem keeps_minimizeClaimResult (p : String → Prop) : Keeps p minimizeClaimResult := by
  refine keeps_keepObject (by simp) fun field hfield => ?_
  simp only [List.mem_cons, List.not_mem_nil, or_false] at hfield
  rcases hfield with rfl | rfl | rfl
  · exact keeps_keepIf _
  · exact keeps_keepIf _
  · exact (keeps_minimizeConstraint p).keepItems

theorem keeps_credentialFields (p : String → Prop) :
    ∀ field ∈ credentialFields, Keeps p field.2 := by
  intro field hfield
  simp only [credentialFields, List.mem_append, List.mem_map, List.mem_singleton] at hfield
  rcases hfield with (⟨key, -, rfl⟩ | ⟨key, -, rfl⟩) | rfl
  · exact keeps_keepIf _
  · exact keeps_stringList p
  · exact (keeps_minimizeClaimResult p).keepItems

theorem over_minimizeCredentialResults {p : String → Prop} {results : List Value}
    (h : itemsOver p results) : itemsOver p (minimizeCredentialResults results) := by
  refine itemsOver_iff.mpr fun v hv => ?_
  obtain ⟨source, hsource, rfl⟩ := List.mem_map.mp hv
  obtain ⟨result, hresult, hobject⟩ := List.mem_filterMap.mp hsource
  have hover := itemsOver_iff.mp h result hresult
  cases result with
  | object _ =>
      cases hobject
      exact Map.over_project credentialFields_nodup (keeps_credentialFields p) hover.2
  | _ => cases hobject

theorem over_minimizeVerifiedClaims (p : String → Prop) (claims : BTreeMap String Value) :
    entriesOver p (minimizeVerifiedClaims claims).entries := by
  refine entriesOver_iff.mpr fun e he => ?_
  obtain ⟨entry, -, rfl⟩ := List.mem_map.mp he
  trivial

theorem storable_minimizeTerminal (h : Storable W s) : Storable W (minimizeTerminal P s) := by
  by_cases hpending : s.status = .pending
  · rw [minimizeTerminal_of_pending hpending]
    exact h
  · rw [minimizeTerminal_of_ne hpending]
    obtain ⟨result, digest, hframe⟩ := minimizeInspection_frame P (cleared P s)
    rw [hframe]
    exact
      { created := h.created
        updated := h.updated
        expires := h.expires
        processing := fun t ht => by cases ht
        completed := h.completed
        total := h.total
        satisfied := h.satisfied
        claims := over_minimizeVerifiedClaims _ _
        results := over_minimizeCredentialResults h.results
        evidence := h.evidence }

theorem storable_decode (h : Storable W s) : Storable W (decode P s) :=
  storable_minimizeTerminal { h with }

/-! ## What is read is storable -/

theorem field_eq_some {α : Type} {m : Map} {name : String} {read : Value → Option α} {a : α}
    (h : m.field name read = some a) : ∃ v, read v = some a := by
  obtain ⟨v, -, hv⟩ := Option.bind_eq_some_iff.mp h
  exact ⟨v, hv⟩

theorem fieldOr_eq_some {α : Type} {m : Map} {name : String} {read : Value → Option α}
    {default a : α} (h : m.fieldOr name read default = some a) :
    a = default ∨ ∃ v, m.get name = some v ∧ read v = some a := by
  rw [Map.fieldOr] at h
  cases hget : m.get name with
  | none =>
      rw [hget] at h
      exact .inl (Option.some.inj h).symm
  | some v =>
      rw [hget] at h
      exact .inr ⟨v, rfl, h⟩

theorem nullable_eq_some {α : Type} {read : Value → Option α} {v : Value} {o : Option α}
    (h : nullable read v = some o) {a : α} (ha : a ∈ o) : v ≠ .null ∧ read v = some a := by
  cases ha
  cases v with
  | null => cases h
  | _ =>
      refine ⟨by simp, ?_⟩
      simpa [nullable] using h

/-- The moments that are read are representable. -/
theorem Wire.Reads.bounded (hreads : W.Reads) {v : Value} {t : Utc}
    (h : W.readTimeValue v = some t) : Utc.minUtc ≤ t ∧ t ≤ Utc.maxUtc := by
  obtain ⟨text, -, htext⟩ := Option.bind_eq_some_iff.mp h
  exact hreads.time_bounded text t htext

theorem Wire.Reads.boundedOption (hreads : W.Reads) {m : Map} {name : String} {o : Option Utc}
    (h : m.fieldOr name (nullable W.readTimeValue) none = some o) :
    ∀ t ∈ o, Utc.minUtc ≤ t ∧ t ≤ Utc.maxUtc := by
  intro t ht
  rcases fieldOr_eq_some h with rfl | ⟨v, -, hv⟩
  · cases ht
  · exact hreads.bounded (nullable_eq_some hv ht).2

theorem readI32_bounded {m : Map} {name : String} {n : Int}
    (h : m.fieldOr name readI32 0 = some n) : -2 ^ 31 ≤ n ∧ n < 2 ^ 31 := by
  rcases fieldOr_eq_some h with rfl | ⟨v, -, hv⟩
  · decide
  · simpa using (Option.filter_eq_some_iff.mp hv).2

theorem over_readMap {p : String → Prop} {m : Map} (hm : entriesOver p m) {name : String}
    {claims : BTreeMap String Value} (h : m.fieldOr name readMap .empty = some claims) :
    entriesOver p claims.entries := by
  rcases fieldOr_eq_some h with rfl | ⟨v, hget, hv⟩
  · exact entriesOver_iff.mpr (by simp [BTreeMap.empty])
  · have hover := Map.over_get hm hget
    cases v with
    | object entries =>
        cases hv
        refine entriesOver_iff.mpr fun e he => ?_
        have hfound := (BTreeMap.get_eq_some _ e.1 e.2).mpr he
        exact entriesOver_iff.mp hover.2 e ((BTreeMap.get_ofEntries hover.1 e.1 e.2).mp hfound)
    | _ => cases hv

theorem over_asArray {p : String → Prop} {m : Map} (hm : entriesOver p m) {name : String}
    {items : List Value} (h : m.fieldOr name Value.asArray [] = some items) :
    itemsOver p items := by
  rcases fieldOr_eq_some h with rfl | ⟨v, hget, hv⟩
  · trivial
  · have hover := Map.over_get hm hget
    cases v with
    | array _ =>
        cases hv
        exact hover
    | _ => cases hv

/-- **A record that is read is storable.** -/
theorem storable_ofFields (hreads : W.Reads) {m : Map} (hm : (Value.object m).Over W.isNumber)
    (h : ofFields W m = some s) : Storable W s := by
  rw [ofFields] at h
  iterate 15 obtain ⟨_, -, h⟩ := Option.bind_eq_some_iff.mp h
  obtain ⟨_, hcreated, h⟩ := Option.bind_eq_some_iff.mp h
  obtain ⟨_, hupdated, h⟩ := Option.bind_eq_some_iff.mp h
  obtain ⟨_, hexpires, h⟩ := Option.bind_eq_some_iff.mp h
  iterate 3 obtain ⟨_, -, h⟩ := Option.bind_eq_some_iff.mp h
  obtain ⟨_, hclaims, h⟩ := Option.bind_eq_some_iff.mp h
  obtain ⟨_, hresults, h⟩ := Option.bind_eq_some_iff.mp h
  obtain ⟨_, hevidence, h⟩ := Option.bind_eq_some_iff.mp h
  iterate 5 obtain ⟨_, -, h⟩ := Option.bind_eq_some_iff.mp h
  obtain ⟨_, hprocessing, h⟩ := Option.bind_eq_some_iff.mp h
  obtain ⟨_, htotal, h⟩ := Option.bind_eq_some_iff.mp h
  obtain ⟨_, hsatisfied, h⟩ := Option.bind_eq_some_iff.mp h
  obtain ⟨_, hcompleted, h⟩ := Option.bind_eq_some_iff.mp h
  iterate 2 obtain ⟨_, -, h⟩ := Option.bind_eq_some_iff.mp h
  cases Option.some.inj h
  obtain ⟨_, hcreated⟩ := field_eq_some hcreated
  obtain ⟨_, hupdated⟩ := field_eq_some hupdated
  obtain ⟨_, hexpires⟩ := field_eq_some hexpires
  exact
    { created := hreads.bounded hcreated
      updated := hreads.bounded hupdated
      expires := hreads.bounded hexpires
      processing := hreads.boundedOption hprocessing
      completed := hreads.boundedOption hcompleted
      total := readI32_bounded htotal
      satisfied := readI32_bounded hsatisfied
      claims := over_readMap hm.2 hclaims
      results := over_asArray hm.2 hresults
      evidence := fun evidence hmem => by
        rcases fieldOr_eq_some hevidence with rfl | ⟨v, hget, hv⟩
        · cases hmem
        · obtain ⟨hne, hsome⟩ := nullable_eq_some hv hmem
          cases hsome
          exact ⟨Map.over_get hm.2 hget, hne⟩ }

theorem storable_decodeText (hreads : W.Reads) {raw : String}
    (h : decodeText W P raw = some s) : Storable W s := by
  obtain ⟨read, hread, rfl⟩ := Option.map_eq_some_iff.mp h
  obtain ⟨m, hm, hfields⟩ := Option.bind_eq_some_iff.mp hread
  exact storable_decode (storable_ofFields hreads (hreads.fields_over raw m hm) hfields)

/-- The evidence of an evaluation is not written as nothing. -/
theorem evidence_conclude (session : VerificationSession) (evaluation : Option EvaluationResult)
    (inspection : Option String) (completedAt : Utc) :
    ∀ evidence ∈ (conclude session evaluation inspection completedAt).holderBindingEvidence,
      evidence ≠ .null := by
  have hnormalized (object : Map) : ∀ evidence ∈ normalizeHolderBinding object,
      evidence ≠ .null := by
    intro evidence hevidence
    obtain ⟨raw, -, rfl⟩ := Option.map_eq_some_iff.mp hevidence
    simp
  -- the inspection does not touch the evidence
  have hframe : (conclude session evaluation inspection completedAt).holderBindingEvidence =
      (conclude session evaluation none completedAt).holderBindingEvidence := by
    cases inspection with
    | none => rfl
    | some result =>
        cases evaluation <;> simp only [conclude] <;> split <;> rfl
  rw [hframe]
  intro evidence hevidence
  cases evaluation with
  | none => cases hevidence
  | some result => exact hnormalized _ evidence hevidence

/-! ## Stored texts read back -/

/-- The fields of a record are a value of JSON. -/
theorem over_toFields (hreads : W.Reads) (h : Storable W s) :
    (Value.object (s.toFields W)).Over W.isNumber := by
  refine ⟨?_, ?_⟩
  · have hkeys : (s.toFields W).map Prod.fst =
        ["session_id", "flow_id", "flow_instance_id", "organization_id",
          "evaluation_principal_id", "presentation_policy_id", "response_type",
          "trust_profile_id", "deployment_profile_id", "external_reference", "callback_url",
          "purpose", "nonce", "holder_id", "status", "created_at", "updated_at", "expires_at",
          "result", "decision", "decision_reason", "verified_claims", "credential_results",
          "holder_binding_evidence", "inspection_performed", "inspection_result",
          "inspection_result_sha256", "vp_token_sha256", "processing_token",
          "processing_expires_at", "total_requirements", "satisfied_requirements",
          "completed_at", "error"] := rfl
    rw [hkeys]
    decide
  · have hclaims : (s.verifiedClaims.entries.map Prod.fst).Nodup :=
      s.verifiedClaims.sorted.imp fun hlt => ne_of_lt hlt
    have hevidence : (s.holderBindingEvidence.getD .null).Over W.isNumber := by
      cases hsome : s.holderBindingEvidence with
      | none => trivial
      | some evidence => exact (h.evidence evidence hsome).1
    have htexts (o : Option String) : (Value.ofOption .string o).Over W.isNumber := by
      cases o <;> trivial
    have htimes (o : Option Utc) : (Value.ofOption W.time o).Over W.isNumber := by
      cases o <;> trivial
    have htime (t : Utc) : (W.time t).Over W.isNumber := trivial
    have hintegers (n : Int) : (Value.ofInt n).Over W.isNumber := hreads.integer n
    simp only [toFields, entriesOver, htexts, htimes, htime, hevidence, hintegers, Value.Over,
      hclaims, h.claims, h.results, and_true]

/-- **A stored text reads back**, but for the presentation that was not stored. -/
theorem decodeText_encodeText (hreads : W.Reads) (h : Storable W s) :
    decodeText W P (encodeText W s) = some (decode P { s with vpToken := none }) := by
  rw [decodeText, encodeText, hreads.fields _ (over_toFields hreads h), Option.bind_some,
    ofFields_toFields hreads h]
  rfl

/-- A minimized record is read as it is. -/
theorem decode_of_minimized (h : s.status ≠ .pending) (hmin : minimizeTerminal P s = s) :
    decode P { s with vpToken := none } = s := by
  have htoken : s.vpToken = none := hmin ▸ vpToken_minimizeTerminal P s h
  have hcallback : s.callbackUrl = none := hmin ▸ callbackUrl_minimizeTerminal P s h
  have hsame : ({ s with vpToken := none, callbackUrl := none } : VerificationSession) = s := by
    cases s
    simp_all
  rw [decode, hsame, hmin]

/-- A record that was read is read again as it is, but for the presentation. -/
theorem decode_decode (r : VerificationSession) :
    decode P { decode P r with vpToken := none } = { decode P r with vpToken := none } := by
  by_cases h : r.status = .pending
  · have hread : decode P r = { r with callbackUrl := none } := minimizeTerminal_of_pending h
    rw [hread]
    exact minimizeTerminal_of_pending h
  · have hstatus : (decode P r).status ≠ .pending := by
      rw [decode, status_minimizeTerminal]
      exact h
    have htoken : (decode P r).vpToken = none := vpToken_minimizeTerminal P _ h
    have hsame : ({ decode P r with vpToken := none } : VerificationSession) = decode P r := by
      rw [← htoken]
    exact (decode_of_minimized hstatus minimizeTerminal_idempotent).trans hsame.symm

theorem encodeText_vpToken (s : VerificationSession) (token : Option String) :
    encodeText W { s with vpToken := token } = encodeText W s := rfl

/-- The text by which a stored one is replaced is not replaced again. -/
theorem canonicalRewrite_canonicalRewrite (hreads : W.Reads) {raw canonical : String}
    (h : canonicalRewrite W P raw = some canonical) : canonicalRewrite W P canonical = none := by
  obtain ⟨s, hs, hwrite⟩ := Option.bind_eq_some_iff.mp h
  rw [Option.ite_none_right_eq_some, Option.some.injEq] at hwrite
  obtain ⟨r, -, rfl⟩ := Option.map_eq_some_iff.mp hs
  have hagain : decodeText W P canonical = some { decode P r with vpToken := none } := by
    rw [← hwrite.2, decodeText_encodeText hreads (storable_decodeText hreads hs), decode_decode]
  rw [canonicalRewrite, hagain, Option.bind_some, encodeText_vpToken, hwrite.2]
  exact if_neg (by simp)

end

/-! ## Records that differ in values -/

/-- Constraints that differ outside the fields that are kept. -/
def SameConstraint : Value → Value → Prop :=
  SameFields (fun _ => Eq) ["constraint_type", "passed", "satisfied"]

def SameClaim : Value → Value → Prop :=
  SameFields (fun key => if key = "constraint_results" then SameItems SameConstraint else Eq)
    ["claim_name", "satisfied", "constraint_results"]

def SameCredential : Value → Value → Prop :=
  SameFields (fun key => if key = "claim_results" then SameItems SameClaim else Eq)
    (credentialScalars ++ credentialLists ++ ["claim_results"])

namespace VerificationSession

/-- The digest of the presentation, recorded or not. -/
def presentationDigest (P : Platform) (s : VerificationSession) : Option String :=
  s.vpTokenSha256.or (s.vpToken.map P.sha256Text)

/-- The safe result of the inspection, with its digest. -/
def safeInspection (P : Platform) (s : VerificationSession) : String × Option String :=
  ((minimizeInspection P s).inspectionResult, (minimizeInspection P s).inspectionResultSha256)

/-- The record but for the presentation, the inspection and what was verified. -/
def withoutValues (s : VerificationSession) : VerificationSession :=
  { s with
    verifiedClaims := .empty
    credentialResults := []
    inspectionResult := ""
    inspectionResultSha256 := none
    vpTokenSha256 := none
    vpToken := none }

end VerificationSession

/-- The records differ in the values of the claims, in fields of the results that are not kept,
in the presentation of one digest and in the inspection of one safe result. -/
structure SameButValues (P : Platform) (s s' : VerificationSession) : Prop where
  others : s.withoutValues = s'.withoutValues
  claims : s.verifiedClaims.keys = s'.verifiedClaims.keys
  results : List.Forall₂ SameCredential s.credentialResults s'.credentialResults
  presentation : s.presentationDigest P = s'.presentationDigest P
  inspection : s.safeInspection P = s'.safeInspection P

section

variable {W : Wire} {P : Platform} {s s' : VerificationSession}

theorem blind_minimizeConstraint : Blind minimizeConstraint SameConstraint :=
  blind_keepObject fun _ _ => blind_eq _

theorem blind_minimizeClaimResult : Blind minimizeClaimResult SameClaim := by
  refine blind_keepObject fun field hfield => ?_
  simp only [List.mem_cons, List.not_mem_nil, or_false] at hfield
  rcases hfield with rfl | rfl | rfl
  · exact blind_eq _
  · exact blind_eq _
  · exact blind_minimizeConstraint.keepItems

theorem blind_credentialFields : ∀ field ∈ credentialFields,
    Blind field.2 (if field.1 = "claim_results" then SameItems SameClaim else Eq) := by
  intro field hfield
  simp only [credentialFields, List.mem_append, List.mem_map, List.mem_singleton] at hfield
  rcases hfield with (⟨key, hkey, rfl⟩ | ⟨key, hkey, rfl⟩) | rfl
  · have hne : key ≠ "claim_results" := by
      intro heq
      subst heq
      revert hkey
      decide
    rw [if_neg hne]
    exact blind_eq _
  · have hne : key ≠ "claim_results" := by
      intro heq
      subst heq
      revert hkey
      decide
    rw [if_neg hne]
    exact blind_eq _
  · exact blind_minimizeClaimResult.keepItems

/-- The results are the same to what is kept of them. -/
theorem minimizeCredentialResults_congr {results results' : List Value}
    (h : List.Forall₂ SameCredential results results') :
    minimizeCredentialResults results = minimizeCredentialResults results' := by
  induction h with
  | nil => rfl
  | @cons v w results results' hfirst _ ih =>
      rcases hfirst with rfl | ⟨m, m', rfl, rfl, hfields⟩
      · simp only [minimizeCredentialResults, List.filterMap_cons] at ih ⊢
        cases v.asObject with
        | none => exact ih
        | some source => rw [List.map_cons, List.map_cons, ih]
      · have hproject : m.project credentialFields = m'.project credentialFields :=
          Map.project_congr blind_credentialFields hfields
        simp only [minimizeCredentialResults, List.filterMap_cons, Value.asObject,
          List.map_cons, hproject] at ih ⊢
        rw [ih]

/-- Of the claims the names are kept. -/
theorem entries_minimizeVerifiedClaims (claims : BTreeMap String Value) :
    (minimizeVerifiedClaims claims).entries =
      (claims.keys.filter (· ≠ "")).map fun name => (name, .bool true) := by
  simp only [minimizeVerifiedClaims, BTreeMap.mapValues, BTreeMap.mapEntries, BTreeMap.retain,
    BTreeMap.keys, List.filter_map, List.map_map, Function.comp_def]

theorem minimizeVerifiedClaims_congr {claims claims' : BTreeMap String Value}
    (h : claims.keys = claims'.keys) :
    minimizeVerifiedClaims claims = minimizeVerifiedClaims claims' := by
  apply BTreeMap.ext_entries
  rw [entries_minimizeVerifiedClaims, entries_minimizeVerifiedClaims, h]

/-- A minimized record is made of what is kept. -/
theorem minimizeTerminal_eq (h : s.status ≠ .pending) :
    minimizeTerminal P s =
      { s.withoutValues with
        callbackUrl := none
        evaluationPrincipalId := ""
        processingToken := none
        processingExpiresAt := none
        verifiedClaims := minimizeVerifiedClaims s.verifiedClaims
        credentialResults := minimizeCredentialResults s.credentialResults
        inspectionResult := (s.safeInspection P).1
        inspectionResultSha256 := (s.safeInspection P).2
        vpTokenSha256 := s.presentationDigest P } := by
  have hcleared : (cleared P s).inspectionIsSafe = s.inspectionIsSafe := rfl
  rw [minimizeTerminal_of_ne h, safeInspection]
  by_cases hsafe : s.inspectionIsSafe = true
  · rw [minimizeInspection_of_isSafe hsafe, minimizeInspection_of_isSafe (hcleared.trans hsafe)]
    rfl
  · rw [minimizeInspection, minimizeInspection, hcleared, if_neg hsafe, if_neg hsafe]
    rfl

/-- **A minimized record does not depend on the values of the claims.** -/
theorem minimizeTerminal_congr (hsame : SameButValues P s s') (h : s.status ≠ .pending) :
    minimizeTerminal P s = minimizeTerminal P s' := by
  have heq := congrArg (fun r : VerificationSession => r.status) hsame.others
  have hstatus : s'.status ≠ .pending := fun hpending => h (heq.trans hpending)
  rw [minimizeTerminal_eq h, minimizeTerminal_eq hstatus, hsame.others, hsame.presentation,
    hsame.inspection, minimizeVerifiedClaims_congr hsame.claims,
    minimizeCredentialResults_congr hsame.results]

end

/-! ## Terminal records -/

/-- What is promised of the records that have left the pending state. -/
structure TerminalRecords (W : Wire) (P : Platform) : Prop where
  idempotent : ∀ s : VerificationSession, s.status ≠ .pending →
    minimizeTerminal P (minimizeTerminal P s) = minimizeTerminal P s
  /-- What is written of a minimized record reads back as it is. -/
  reads_back : ∀ s, Storable W s → s.status ≠ .pending →
    decodeText W P (encodeText W (minimizeTerminal P s)) = some (minimizeTerminal P s)
  /-- So does what is written of a record that was read. -/
  reads_again : ∀ raw s, decodeText W P raw = some s → s.status ≠ .pending →
    decodeText W P (encodeText W s) = some s
  rewritten_once : ∀ raw canonical, canonicalRewrite W P raw = some canonical →
    canonicalRewrite W P canonical = none
  encoded : ∀ s s', s.status ≠ .pending → SameButValues P s s' →
    encodeText W (minimizeTerminal P s) = encodeText W (minimizeTerminal P s')
  shown : ∀ s s', s.status ≠ .pending → SameButValues P s s' →
    (minimizeTerminal P s).protocolValue W = (minimizeTerminal P s').protocolValue W

namespace Example

def epoch : String := "1970-01-01T00:00:00Z"

open Classical in
/-- The fields of the one object that is written so. -/
noncomputable def readFields (text : String) : Option Map :=
  if h : ∃ m : Map, (Value.object m).Over isNumberToken ∧
      String.ofList (Value.object m).write = text then some h.choose else none

/-- Libraries that read the texts they write. -/
noncomputable def wire : Wire where
  writeTime t := if t = 0 then epoch else toString t
  readTime text :=
    if text = epoch then some 0
    else (Value.number text).asInteger.filter fun t => Utc.minUtc ≤ t ∧ t ≤ Utc.maxUtc
  rfc3339 _ := "1970-01-01T00:00:00+00:00"
  readFields := readFields
  isNumber := isNumberToken

theorem wire_time (t : Utc) (hlow : Utc.minUtc ≤ t) (hhigh : t ≤ Utc.maxUtc) :
    wire.readTime (wire.writeTime t) = some t := by
  by_cases h : t = 0
  · simp [wire, h]
  · have hinteger : (Value.number (toString t)).asInteger = some t := Value.asInteger_ofInt t
    have hepoch : (Value.number epoch).asInteger = none := by decide +kernel
    have hne : toString t ≠ epoch := by
      intro heq
      rw [heq, hepoch] at hinteger
      cases hinteger
    have hrange : decide (Utc.minUtc ≤ t ∧ t ≤ Utc.maxUtc) = true := decide_eq_true ⟨hlow, hhigh⟩
    simp only [wire, if_neg h, if_neg hne, hinteger, Option.filter, if_pos hrange]

theorem readFields_write (m : Map) (h : (Value.object m).Over isNumberToken) :
    readFields (String.ofList (Value.object m).write) = some m := by
  have hfound : ∃ n : Map, (Value.object n).Over isNumberToken ∧
      String.ofList (Value.object n).write = String.ofList (Value.object m).write := ⟨m, h, rfl⟩
  have htext := String.ofList_injective hfound.choose_spec.2
  have hsame := Value.write_injective hfound.choose_spec.1.wellFormed h.wellFormed htext
  rw [readFields, dif_pos hfound]
  exact congrArg some (Value.object.inj hsame)

theorem wire_reads : wire.Reads where
  time := wire_time
  time_bounded := fun text t h => by
    by_cases htext : text = epoch
    · simp only [wire, htext, if_true, Option.some.injEq] at h
      subst h
      decide
    · simp only [wire, if_neg htext] at h
      simpa using (Option.filter_eq_some_iff.mp h).2
  fields := readFields_write
  fields_over := fun text m h => by
    change readFields text = some m at h
    rw [readFields] at h
    split at h
    case isTrue hfound =>
        cases h
        exact hfound.choose_spec.1
    case isFalse => cases h
  integer := Value.ofInt_wellFormed

def platform : Platform where
  sha256Text _ := "284d1e8c4918248233df17642bbb940c001e1fa856c18aab86ba6dbe7813eb13"
  readJson _ := none

/-- A decided session about someone of this name. -/
def session (name : String) : VerificationSession where
  sessionId := "session"
  flowId := "flow"
  flowInstanceId := "session"
  organizationId := "organization"
  evaluationPrincipalId := "user"
  presentationPolicyId := some "policy"
  responseType := "vp_token"
  trustProfileId := none
  deploymentProfileId := none
  externalReference := none
  callbackUrl := none
  purpose := ""
  nonce := "nonce"
  holderId := none
  status := .completed
  createdAt := 0
  updatedAt := 0
  expiresAt := 0
  result := some "passed"
  decision := some "allow"
  decisionReason := ""
  verifiedClaims := .ofEntries [("given_name", .string name)]
  credentialResults :=
    [.object [("credential_type", .string "pid"), ("claims", .string name),
      ("claim_results", .array [.object [("claim_name", .string "given_name"),
        ("actual", .string name), ("satisfied", .bool true)]])]]
  holderBindingEvidence := none
  inspectionPerformed := true
  inspectionResult := "passed"
  inspectionResultSha256 := none
  vpTokenSha256 := some "digest"
  processingToken := none
  processingExpiresAt := none
  totalRequirements := 1
  satisfiedRequirements := 1
  completedAt := some 0
  error := none
  vpToken := some name

theorem claim_same (name name' : String) :
    SameClaim (.object [("claim_name", .string "given_name"), ("actual", .string name),
        ("satisfied", .bool true)])
      (.object [("claim_name", .string "given_name"), ("actual", .string name'),
        ("satisfied", .bool true)]) := by
  refine .inr ⟨_, _, rfl, rfl, fun key hkey => ?_⟩
  simp only [List.mem_cons, List.not_mem_nil, or_false] at hkey
  rcases hkey with rfl | rfl | rfl
  · exact .some rfl
  · exact .some rfl
  · exact .none

theorem session_same (name name' : String) :
    SameButValues platform (session name) (session name') where
  others := rfl
  claims := rfl
  results := by
    refine .cons (.inr ⟨_, _, rfl, rfl, fun key hkey => ?_⟩) .nil
    have hne : "claims" ≠ key := by
      intro heq
      subst heq
      revert hkey
      decide
    by_cases hclaims : key = "claim_results"
    · subst hclaims
      exact .some (.inr ⟨_, _, rfl, rfl, .cons (claim_same name name') .nil⟩)
    · simp only [if_neg hclaims, Map.get_cons, if_neg hne, if_neg (Ne.symm hclaims), Map.get_nil]
      by_cases htype : "credential_type" = key
      · rw [if_pos htype]
        exact .some rfl
      · rw [if_neg htype]
        exact .none
  presentation := rfl
  inspection := rfl

theorem epoch_bounded : Utc.minUtc ≤ 0 ∧ 0 ≤ Utc.maxUtc := by decide

theorem session_storable (name : String) : Storable wire (session name) where
  created := epoch_bounded
  updated := epoch_bounded
  expires := epoch_bounded
  processing := fun t ht => by cases ht
  completed := fun t ht => by
    cases ht
    exact epoch_bounded
  total := by simp [session]
  satisfied := by simp [session]
  claims := ⟨trivial, trivial⟩
  results := ⟨⟨by simp, trivial, trivial, ⟨⟨by simp, trivial, trivial, trivial, trivial⟩,
    trivial⟩, trivial⟩, trivial⟩
  evidence := fun evidence hevidence => by cases hevidence

end Example

end Marty.Verification
