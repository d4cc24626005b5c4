import Marty.Lib.BTree
import Marty.Lib.Chrono
import Marty.Lib.JsonProjection
import Marty.Lib.Text
import Mathlib.Data.String.Basic

/-!
# Verification sessions

The record of a standalone verification, from the request that opens it to the decision that
is kept.  A record that has left the pending state is minimized: the names of the claims stay
and their values go.

## Main definitions

* `VerificationSession`, `VerificationSession.new` — the record, and how it starts.
* `VerificationSession.minimizeTerminal` — what is kept of a decided record.
* `conclude` — what an evaluation writes into the record.

## Main results

* `minimizeTerminal_idempotent` — a minimized record has nothing left to remove.
-/

namespace Marty.Verification

open Lib Lib.Json

def sessionTtlSeconds : Int := 60 * 60

def submissionLeaseSeconds : Int := 30

def submissionCasRetries : Nat := 8

/-- A span of seconds, in nanoseconds. -/
def utcSeconds (n : Int) : Int := n * 1000000000

inductive SessionStatus
  | pending | completed | expired | failed
  deriving DecidableEq, Repr

structure VerificationSession where
  sessionId : String
  flowId : String
  flowInstanceId : String
  organizationId : String
  evaluationPrincipalId : String
  presentationPolicyId : Option String
  responseType : String
  trustProfileId : Option String
  deploymentProfileId : Option String
  externalReference : Option String
  callbackUrl : Option String
  purpose : String
  nonce : String
  holderId : Option String
  status : SessionStatus
  createdAt : Utc
  updatedAt : Utc
  expiresAt : Utc
  result : Option String
  decision : Option String
  decisionReason : String
  verifiedClaims : BTreeMap String Value
  credentialResults : List Value
  holderBindingEvidence : Option Value
  inspectionPerformed : Bool
  inspectionResult : String
  inspectionResultSha256 : Option String
  vpTokenSha256 : Option String
  processingToken : Option String
  processingExpiresAt : Option Utc
  totalRequirements : Int
  satisfiedRequirements : Int
  completedAt : Option Utc
  error : Option String
  vpToken : Option String
  deriving DecidableEq

structure StartVerificationRequest where
  organizationId : String
  presentationPolicyId : Option String
  responseType : String
  trustProfileId : Option String
  deploymentProfileId : Option String
  externalReference : Option String
  callbackUrl : Option String
  expiryMinutes : Int
  purpose : String

structure EvaluationResult where
  result : String
  decision : String
  decisionReason : String
  verifiedClaims : BTreeMap String Value
  credentialResults : List Value
  holderBindingEvidence : Option Value
  totalRequirements : Int
  satisfiedRequirements : Int
  evaluationTimestamp : String
  nonce : String

inductive VerificationError
  | badRequest (message : String)
  | unauthorized (message : String)
  | forbidden (message : String)
  | notFound (message : String)
  | conflict (message : String)
  | gone (message : String)
  | dependency (message : String)
  | coordination (message : String)
  deriving DecidableEq

/-- The functions of other libraries that a session passes through. -/
structure Platform where
  sha256Text : String → String
  readJson : String → Option Value

/-! ## The parts of a record that are kept -/

def nonemptyString : Value → Option String
  | .string value => if value ≠ "" then some value else none
  | .null => none
  | value =>
      let text := String.ofList value.write
      if text ≠ "" then some text else none

def isScalar : Value → Bool
  | .string _ | .bool _ | .number _ => true
  | _ => false

def isStringOrBool : Value → Bool
  | .string _ | .bool _ => true
  | _ => false

/-- A list of texts. -/
def stringList (v : Value) : Option Value :=
  v.asArray.map fun values => .array ((values.filterMap nonemptyString).map .string)

def minimizeConstraint : Value → Option Value :=
  keepObject (["constraint_type", "passed", "satisfied"].map fun key => (key, keepIf isStringOrBool))

def minimizeClaimResult : Value → Option Value :=
  keepObject [("claim_name", keepIf isStringOrBool), ("satisfied", keepIf isStringOrBool),
    ("constraint_results", keepItems minimizeConstraint)]

def credentialScalars : List String :=
  ["credential_template_id", "credential_type", "credential_format", "satisfied", "issuer_did",
    "signature_valid", "trust_validated", "revocation_checked", "revocation_validated",
    "revocation_status_checked", "holder_binding_validated"]

def credentialLists : List String := ["claims_missing", "claims_satisfied"]

def credentialFields : List (String × (Value → Option Value)) :=
  credentialScalars.map (fun key => (key, keepIf isScalar)) ++
    credentialLists.map (fun key => (key, stringList)) ++
    [("claim_results", keepItems minimizeClaimResult)]

def minimizeCredentialResults (results : List Value) : List Value :=
  (results.filterMap Value.asObject).map fun source => .object (source.project credentialFields)

def minimizeVerifiedClaims (claims : BTreeMap String Value) : BTreeMap String Value :=
  (claims.retain fun name _ => name ≠ "").mapValues fun _ => .bool true

def safeInspectionResults : List String :=
  ["error", "failed", "invalid", "ok", "passed", "recorded", "unavailable", "unsupported",
    "unverified", "valid", "verified"]

/-- The first of the fields that holds a known outcome. -/
def inspectionOutcome (object : Map) : Option String :=
  ["result", "status", "decision"].findSome? fun key =>
    let candidate := ((object.get key).bind Value.asStr).map fun value =>
      Text.toAsciiLowercase (Text.trim value)
    candidate.filter (· ∈ safeInspectionResults)

def minimizeInspectionResult (P : Platform) (raw : String) : String × Option String :=
  if raw = "" then ("", none)
  else
    let digest := P.sha256Text raw
    let normalized := (((P.readJson raw).bind Value.asObject).bind inspectionOutcome).getD
      (Text.toAsciiLowercase (Text.trim raw))
    (if normalized ∈ safeInspectionResults then normalized else "recorded", some digest)

namespace VerificationSession

/-- The inspection holds nothing that a reader may not see. -/
def inspectionIsSafe (s : VerificationSession) : Bool :=
  s.inspectionResult = "" ||
    s.inspectionResultSha256.isSome && safeInspectionResults.contains s.inspectionResult

def minimizeInspection (P : Platform) (s : VerificationSession) : VerificationSession :=
  if s.inspectionIsSafe then s
  else
    { s with
      inspectionResult := (minimizeInspectionResult P s.inspectionResult).1
      inspectionResultSha256 := (minimizeInspectionResult P s.inspectionResult).2 }

/-- The record without what belongs to the pending session and without the values of the
claims. -/
def cleared (P : Platform) (s : VerificationSession) : VerificationSession :=
  { s with
    callbackUrl := none
    evaluationPrincipalId := ""
    processingToken := none
    processingExpiresAt := none
    vpTokenSha256 := s.vpTokenSha256.or (s.vpToken.map P.sha256Text)
    vpToken := none
    verifiedClaims := minimizeVerifiedClaims s.verifiedClaims
    credentialResults := minimizeCredentialResults s.credentialResults }

def minimizeTerminal (P : Platform) (s : VerificationSession) : VerificationSession :=
  if s.status = .pending then s else minimizeInspection P (cleared P s)

def isExpiredAt (s : VerificationSession) (now : Utc) : Bool := now > s.expiresAt

/-- `checked_add_signed`: the end of a session, when it is a representable moment. -/
def expiresAfter (now : Utc) (minutes : Int) : Option Utc :=
  let sum := now + utcSeconds (60 * minutes)
  if Utc.minUtc ≤ sum ∧ sum ≤ Utc.maxUtc then some sum else none

def new (request : StartVerificationRequest) (sessionId flowId nonce : String) (now : Utc) :
    Except VerificationError VerificationSession :=
  match expiresAfter now request.expiryMinutes with
  | none => .error (.badRequest "invalid expiry_minutes")
  | some expiresAt => .ok
      { sessionId := sessionId, flowId := flowId, flowInstanceId := sessionId,
        organizationId := request.organizationId, evaluationPrincipalId := "",
        presentationPolicyId := request.presentationPolicyId,
        responseType := request.responseType, trustProfileId := request.trustProfileId,
        deploymentProfileId := request.deploymentProfileId,
        externalReference := request.externalReference, callbackUrl := none,
        purpose := request.purpose, nonce := nonce, holderId := none, status := .pending,
        createdAt := now, updatedAt := now, expiresAt := expiresAt, result := none,
        decision := none, decisionReason := "", verifiedClaims := BTreeMap.empty,
        credentialResults := [], holderBindingEvidence := none, inspectionPerformed := false,
        inspectionResult := "", inspectionResultSha256 := none, vpTokenSha256 := none,
        processingToken := none, processingExpiresAt := none, totalRequirements := 0,
        satisfiedRequirements := 0, completedAt := none, error := none, vpToken := none }

end VerificationSession

/-! ## Minimizing once more -/

theorem nonemptyString_ne {v : Value} {text : String} (h : nonemptyString v = some text) :
    text ≠ "" := by
  cases v with
  | null => cases h
  | string value | bool value | number token | array items | object entries =>
      simp only [nonemptyString, Option.ite_none_right_eq_some, Option.some.injEq] at h
      exact h.2 ▸ h.1

theorem stringList_idempotent : Idempotent stringList := by
  intro v w h
  obtain ⟨values, -, rfl⟩ := Option.map_eq_some_iff.mp h
  have hagain : ((values.filterMap nonemptyString).map Value.string).filterMap nonemptyString =
      values.filterMap nonemptyString := by
    rw [List.filterMap_map]
    refine (List.filterMap_congr fun text htext => ?_).trans (List.filterMap_some)
    obtain ⟨value, -, hvalue⟩ := List.mem_filterMap.mp htext
    simp [nonemptyString, nonemptyString_ne hvalue]
  simp only [stringList, Value.asArray, Option.map_some, hagain]

theorem minimizeConstraint_idempotent : Idempotent minimizeConstraint := by
  refine keepObject_idempotent (by decide) fun field hfield => ?_
  obtain ⟨key, -, rfl⟩ := List.mem_map.mp hfield
  exact keepIf_idempotent _

theorem minimizeClaimResult_idempotent : Idempotent minimizeClaimResult := by
  refine keepObject_idempotent (by simp) fun field hfield => ?_
  simp only [List.mem_cons, List.not_mem_nil, or_false] at hfield
  rcases hfield with rfl | rfl | rfl
  · exact keepIf_idempotent _
  · exact keepIf_idempotent _
  · exact keepItems_idempotent minimizeConstraint_idempotent

theorem credentialFields_nodup : (credentialFields.map Prod.fst).Nodup := by
  have hkeys : credentialFields.map Prod.fst =
      credentialScalars ++ credentialLists ++ ["claim_results"] := rfl
  rw [hkeys]
  decide

theorem credentialFields_idempotent : ∀ field ∈ credentialFields, Idempotent field.2 := by
  intro field hfield
  simp only [credentialFields, List.mem_append, List.mem_map, List.mem_singleton] at hfield
  rcases hfield with (⟨key, -, rfl⟩ | ⟨key, -, rfl⟩) | rfl
  · exact keepIf_idempotent _
  · exact stringList_idempotent
  · exact keepItems_idempotent minimizeClaimResult_idempotent

theorem minimizeCredentialResults_idempotent (results : List Value) :
    minimizeCredentialResults (minimizeCredentialResults results) =
      minimizeCredentialResults results := by
  rw [minimizeCredentialResults, minimizeCredentialResults, List.filterMap_map]
  have hobjects : (Value.asObject ∘ fun source : Map => .object (source.project credentialFields)) =
      fun source => some (source.project credentialFields) := rfl
  rw [hobjects, List.filterMap_eq_map', List.map_map]
  refine List.map_congr_left fun source _ => ?_
  exact congrArg Value.object
    (Map.project_project credentialFields_nodup credentialFields_idempotent source)

theorem minimizeVerifiedClaims_idempotent (claims : BTreeMap String Value) :
    minimizeVerifiedClaims (minimizeVerifiedClaims claims) = minimizeVerifiedClaims claims := by
  apply BTreeMap.ext_entries
  simp only [minimizeVerifiedClaims, BTreeMap.mapValues, BTreeMap.mapEntries, BTreeMap.retain,
    List.filter_map, List.map_map, List.filter_filter, Function.comp_def]
  simp

namespace VerificationSession

variable {P : Platform} {s : VerificationSession}

/-- What the minimization of the inspection leaves is safe. -/
theorem minimizeInspection_isSafe : (minimizeInspection P s).inspectionIsSafe = true := by
  unfold minimizeInspection
  split
  case isTrue h => exact h
  case isFalse h =>
      have hne : s.inspectionResult ≠ "" := by
        intro heq
        simp [inspectionIsSafe, heq] at h
      simp only [inspectionIsSafe, minimizeInspectionResult, if_neg hne, Option.isSome_some,
        Bool.true_and, Bool.or_eq_true, List.contains_iff_mem]
      right
      split
      case isTrue hsafe => exact hsafe
      case isFalse => decide

theorem minimizeInspection_of_isSafe (h : s.inspectionIsSafe = true) :
    minimizeInspection P s = s := if_pos h

theorem minimizeTerminal_of_pending (h : s.status = .pending) : minimizeTerminal P s = s := if_pos h

/-- The minimization leaves what the decision is. -/
theorem minimizeInspection_frame (P : Platform) (s : VerificationSession) :
    ∃ result digest, minimizeInspection P s =
      { s with inspectionResult := result, inspectionResultSha256 := digest } := by
  unfold minimizeInspection
  split
  · exact ⟨s.inspectionResult, s.inspectionResultSha256, rfl⟩
  · exact ⟨_, _, rfl⟩

theorem minimizeTerminal_of_ne (h : s.status ≠ .pending) :
    minimizeTerminal P s = minimizeInspection P (cleared P s) := if_neg h

/-- A cleared record stays as it is, whatever its inspection. -/
theorem cleared_minimizeInspection :
    cleared P (minimizeInspection P (cleared P s)) = minimizeInspection P (cleared P s) := by
  obtain ⟨result, digest, hframe⟩ := minimizeInspection_frame P (cleared P s)
  rw [hframe]
  simp [cleared, minimizeVerifiedClaims_idempotent, minimizeCredentialResults_idempotent]

/-- **A minimized record has nothing left to remove.** -/
theorem minimizeTerminal_idempotent :
    minimizeTerminal P (minimizeTerminal P s) = minimizeTerminal P s := by
  by_cases h : s.status = .pending
  · rw [minimizeTerminal_of_pending h, minimizeTerminal_of_pending h]
  · have hstatus : (minimizeInspection P (cleared P s)).status ≠ .pending := by
      obtain ⟨result, digest, hframe⟩ := minimizeInspection_frame P (cleared P s)
      rw [hframe]
      exact h
    rw [minimizeTerminal_of_ne h, minimizeTerminal_of_ne hstatus, cleared_minimizeInspection,
      minimizeInspection_of_isSafe minimizeInspection_isSafe]

section Frame

variable (P s)

@[simp] theorem status_minimizeTerminal : (minimizeTerminal P s).status = s.status := by
  unfold minimizeTerminal minimizeInspection
  split <;> [rfl; split <;> rfl]

@[simp] theorem sessionId_minimizeTerminal : (minimizeTerminal P s).sessionId = s.sessionId := by
  unfold minimizeTerminal minimizeInspection
  split <;> [rfl; split <;> rfl]

@[simp] theorem organizationId_minimizeTerminal : (minimizeTerminal P s).organizationId = s.organizationId := by
  unfold minimizeTerminal minimizeInspection
  split <;> [rfl; split <;> rfl]

@[simp] theorem result_minimizeTerminal : (minimizeTerminal P s).result = s.result := by
  unfold minimizeTerminal minimizeInspection
  split <;> [rfl; split <;> rfl]

@[simp] theorem decision_minimizeTerminal : (minimizeTerminal P s).decision = s.decision := by
  unfold minimizeTerminal minimizeInspection
  split <;> [rfl; split <;> rfl]

@[simp] theorem expiresAt_minimizeTerminal : (minimizeTerminal P s).expiresAt = s.expiresAt := by
  unfold minimizeTerminal minimizeInspection
  split <;> [rfl; split <;> rfl]

theorem vpToken_minimizeTerminal (h : s.status ≠ .pending) :
    (minimizeTerminal P s).vpToken = none := by
  rw [minimizeTerminal_of_ne h]
  obtain ⟨result, digest, hframe⟩ := minimizeInspection_frame P (cleared P s)
  rw [hframe]
  rfl

theorem callbackUrl_minimizeTerminal (h : s.status ≠ .pending) :
    (minimizeTerminal P s).callbackUrl = none := by
  rw [minimizeTerminal_of_ne h]
  obtain ⟨result, digest, hframe⟩ := minimizeInspection_frame P (cleared P s)
  rw [hframe]
  rfl

theorem vpTokenSha256_minimizeTerminal (h : s.vpToken = none) :
    (minimizeTerminal P s).vpTokenSha256 = s.vpTokenSha256 := by
  by_cases hpending : s.status = .pending
  · rw [minimizeTerminal_of_pending hpending]
  · rw [minimizeTerminal_of_ne hpending]
    obtain ⟨result, digest, hframe⟩ := minimizeInspection_frame P (cleared P s)
    rw [hframe]
    simp [cleared, h]

theorem vpTokenSha256_minimizeTerminal_some {digest : String}
    (h : s.vpTokenSha256 = some digest) :
    (minimizeTerminal P s).vpTokenSha256 = some digest := by
  by_cases hpending : s.status = .pending
  · rw [minimizeTerminal_of_pending hpending, h]
  · rw [minimizeTerminal_of_ne hpending]
    obtain ⟨result, digest, hframe⟩ := minimizeInspection_frame P (cleared P s)
    rw [hframe]
    simp [cleared, h]

end Frame

end VerificationSession

/-! ## The outcome of an evaluation -/

def EvaluationResult.asValue (r : EvaluationResult) : Map :=
  [("result", .string r.result), ("decision", .string r.decision),
    ("decision_reason", .string r.decisionReason),
    ("verified_claims", .object r.verifiedClaims.entries),
    ("credential_results", .array r.credentialResults),
    ("total_requirements", .ofInt r.totalRequirements),
    ("satisfied_requirements", .ofInt r.satisfiedRequirements),
    ("evaluation_timestamp", .string r.evaluationTimestamp), ("nonce", .string r.nonce)]

def holderBindingKeys : List String :=
  ["binding_method", "proof_profile", "challenge_validated", "audience_validated",
    "replay_checked", "proof_age_seconds", "failure_reason"]

/-- The evidence that the evaluation names, or the one that its flags stand for. -/
def rawHolderBinding (object : Map) : Option Map :=
  ((object.get "holder_binding_evidence").bind Value.asObject).or
    ((object.get "holder_binding_validated").map fun validated =>
      [("required", (object.get "holder_binding_required").getD (.bool true)),
        ("validated", validated)])

def normalizeHolderBinding (object : Map) : Option Value :=
  (rawHolderBinding object).map fun raw =>
    let flag (key : String) : Value := .bool (((raw.get key).bind Value.asBool).getD false)
    .object ([("required", flag "required"), ("validated", flag "validated")] ++
      raw.project (holderBindingKeys.map fun key => (key, keepIf fun v => !v.isNull)))

def applyEvaluation (session : VerificationSession) (r : EvaluationResult) : VerificationSession :=
  let normalized := match r.holderBindingEvidence with
    | some evidence => r.asValue.insert "holder_binding_evidence" evidence
    | none => r.asValue
  { session with
    result := some (if r.result = "" then "failed" else r.result)
    decision := some (if r.decision = "" then "deny" else r.decision)
    decisionReason := r.decisionReason
    verifiedClaims := r.verifiedClaims
    credentialResults := r.credentialResults
    holderBindingEvidence := normalizeHolderBinding normalized
    totalRequirements := r.totalRequirements
    satisfiedRequirements := r.satisfiedRequirements
    error := none }

/-- The record when the evaluation could not be made. -/
def evaluationFailed (session : VerificationSession) : VerificationSession :=
  { session with
    result := some "failed"
    decision := some "deny"
    decisionReason := "Credential evaluation failed"
    holderBindingEvidence := none
    totalRequirements := 0
    satisfiedRequirements := 0
    error := some "Credential evaluation failed" }

/-- What `submit_session` writes into the record between the claim and the finalization: the
evaluation, the inspection unless the evaluation failed, and the status they come to. -/
def conclude (session : VerificationSession) (evaluation : Option EvaluationResult)
    (inspection : Option String) (completedAt : Utc) : VerificationSession :=
  let evaluated := match evaluation with
    | some result => applyEvaluation session result
    | none => evaluationFailed session
  let inspected := match inspection with
    | some result =>
        if evaluated.result ≠ some "failed" then
          { evaluated with inspectionPerformed := true, inspectionResult := result }
        else evaluated
    | none => evaluated
  { inspected with
    status := if inspected.result = some "passed" then .completed else .failed
    completedAt := some completedAt
    updatedAt := completedAt }

/-- An evaluated session is decided. -/
theorem status_conclude (session : VerificationSession) (evaluation : Option EvaluationResult)
    (inspection : Option String) (completedAt : Utc) :
    (conclude session evaluation inspection completedAt).status = .completed ∨
      (conclude session evaluation inspection completedAt).status = .failed := by
  simp only [conclude]
  generalize (match inspection with
    | some result => _
    | none => _ : VerificationSession) = inspected
  by_cases h : inspected.result = some "passed"
  · exact .inl (if_pos h)
  · exact .inr (if_neg h)

end Marty.Verification
