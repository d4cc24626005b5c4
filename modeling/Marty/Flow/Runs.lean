import Marty.Flow.Execution

/-!
# Runs of an instance

What a start and an advance establish when they succeed, read once off the executed code,
and the records that calls reach one after the other.  A call that fails leaves the record
as it was.

## Main definitions

* `StartedBy`, `AdvancedBy` — all that a successful start, or advance, has done.
* `AdvanceCall`, `runCalls` — calls of an instance one after the other.
* `protocolContextKeys` — the entries of the context that the service itself writes.
-/

namespace Marty.Flow

open Lib Lib.Checked

section

variable (packages : Packages)

theorem toOption_eq_some {ε α : Type} {x : Except ε α} {a : α} :
    x.toOption = some a ↔ x = .ok a := by
  cases x <;> simp [Except.toOption]

/-! ## What a start has done -/

structure StartedBy (definition : FlowDefinitionRecord) (request : StartFlowRequest)
    (actor : String) (now : Utc) (trustedContext : Json.Map) (id : String)
    (record : FlowInstanceRecord) (initial : Json.Map) (extensionOnly : Bool) (expiresAt : Utc) :
    Prop where
  validated : request.validate packages = .ok ()
  active : definition.status = .active
  extension : extensionOnlyApplicationGraph packages definition = .ok extensionOnly
  kernel : extensionOnly = false → ∃ kernel, definition.kernel packages = .ok kernel
  initial_eq : request.initialContext = .object initial
  preconditions : requirePreconditions packages definition (initial.extend trustedContext)
    = .ok ()
  expires : now.checkedAddSeconds definition.defaultTimeoutSeconds = some expiresAt
  record_eq : record = startedRecord packages definition request actor now expiresAt
    (startStatus definition extensionOnly) (initial.extend trustedContext) id
  readable : ∃ kernel, record.kernel packages = .ok kernel

/-- **A successful start** has made all of its checks. -/
theorem start_eq_ok {definition : FlowDefinitionRecord} {request : StartFlowRequest}
    {actor : String} {now : Utc} {trustedContext : Json.Map} {id : String}
    {record : FlowInstanceRecord}
    (h : startInstanceRecordWithTrustedContext packages definition request actor now
      trustedContext id = .ok record) :
    ∃ initial extensionOnly expiresAt, StartedBy packages definition request actor now
      trustedContext id record initial extensionOnly expiresAt := by
  simp only [startInstanceRecordWithTrustedContext, bind_eq_ok, exists_unit, mapError_eq_ok,
    rejectIf_eq_ok, okOr_eq_ok, not_not, pure, Except.pure, Except.ok.injEq] at h
  obtain ⟨hvalid, -, hactive, extensionOnly, hextension, hkernel, initial, hinitial, hrequired,
    expiresAt, hexpires, kernel, hrecord, rfl⟩ := h
  refine ⟨initial, extensionOnly, expiresAt, hvalid, hactive, hextension, ?_, ?_, hrequired,
    hexpires, rfl, kernel, hrecord⟩
  · rintro rfl
    simpa [checkGraph, mapError_eq_ok] using hkernel
  · cases hcontext : request.initialContext with
    | object entries =>
        rw [hcontext] at hinitial
        rw [Option.some.inj hinitial]
    | _ => simp [hcontext, Json.Value.asObject] at hinitial

/-! ## What an advance has done -/

structure AdvancedBy (definition : FlowDefinitionRecord) (record : FlowInstanceRecord)
    (request : AdvanceFlowRequest) (actor : String) (now : Utc) (updated : FlowInstanceRecord)
    (graph : FlowDefinition) (currentStepId : String) (outcome : TransitionOutcome)
    (kernel resumed : FlowInstance) (context data : Json.Map) (nowMs : Nat)
    (nextStepId : Option String) (position : Position) (completedAt : Option Utc) : Prop where
  validated : request.validate packages = .ok ()
  live : record.status = .inProgress ∨ record.status = .awaitingWallet
  graph_eq : definition.kernel packages = .ok graph
  current : record.currentStepId = some currentStepId
  outcome_eq : parseOutcome request.stepResult = .ok outcome
  kernel_eq : record.kernel packages = .ok kernel
  context_eq : record.context = .object context
  preconditions : requireCurrentStepPreconditions packages definition currentStepId context
    = .ok ()
  clock : toU64 now.timestampMillis = some nowMs
  resumed_eq : resume packages kernel actor nowMs = .ok resumed
  next_eq : packages.selectNextStep graph.graphRequest currentStepId outcome = .ok nextStepId
  data_eq : request.data = .object data
  left : leaveStep packages definition
    ⟨resumed, completeStepContext packages (context.extend data) definition currentStepId
      request.stepResult now,
      completeStepHistory packages record.stepHistory request.stepResult now⟩
    nextStepId outcome actor now nowMs = .ok position
  completed : optionalTimestamp position.kernel.completedAtMs = .ok completedAt
  record_eq : updated = record.withPosition position completedAt now
  readable : ∃ kernel, updated.kernel packages = .ok kernel

theorem asObject_eq_some {value : Value} {entries : Json.Map}
    (h : value.asObject = some entries) : value = .object entries := by
  cases value with
  | object es => rw [Option.some.inj h]
  | _ => cases h

/-- **A successful advance** has made all of its checks and these changes. -/
theorem advance_eq_ok {definition : FlowDefinitionRecord} {record updated : FlowInstanceRecord}
    {request : AdvanceFlowRequest} {actor : String} {now : Utc}
    (h : advanceInstanceRecord packages definition record request actor now = .ok updated) :
    ∃ graph currentStepId outcome kernel resumed context data nowMs nextStepId position
      completedAt, AdvancedBy packages definition record request actor now updated graph
        currentStepId outcome kernel resumed context data nowMs nextStepId position
        completedAt := by
  simp only [advanceInstanceRecord, mergeContext, bind_eq_ok, exists_unit, mapError_eq_ok,
    rejectIf_eq_ok, okOr_eq_ok, not_not, pure, Except.pure, Except.ok.injEq] at h
  obtain ⟨hvalid, -, hlive, graph, hgraph, currentStepId, hcurrent, outcome, houtcome, kernel,
    hkernel, context, hcontext, hrequired, nowMs, hclock, resumed, hresumed, nextStepId, hnext,
    merged, ⟨data, hdata, -, rfl⟩, position, hleft, completedAt, hcompleted, kernel', hreadable,
    rfl⟩ := h
  exact ⟨graph, currentStepId, outcome, kernel, resumed, context, data, nowMs, nextStepId,
    position, completedAt, hvalid, hlive, hgraph, hcurrent, houtcome, hkernel,
    asObject_eq_some hcontext, hrequired, hclock, hresumed, hnext, asObject_eq_some hdata, hleft,
    hcompleted, rfl, kernel', hreadable⟩

/-- Leaving a step enters the next one, or ends the flow where it stands. -/
theorem leaveStep_eq_ok {definition : FlowDefinitionRecord} {position left : Position}
    {nextStepId : Option String} {outcome : TransitionOutcome} {actor : String} {now : Utc}
    {nowMs : Nat}
    (h : leaveStep packages definition position nextStepId outcome actor now nowMs = .ok left) :
    (∃ next, nextStepId = some next ∧ left.kernel.currentStepId = some next ∧
        left.context = syncProtocolContext position.context definition (some next) ∧
        left.stepHistory = position.stepHistory ++ [enteredStep packages next now]) ∨
      (nextStepId = none ∧ left.kernel.currentStepId = position.kernel.currentStepId ∧
        left.context = position.context ∧ left.stepHistory = position.stepHistory) := by
  have htransition : ∀ {k k' : FlowInstance} {target event},
      transition packages k target actor event nowMs = .ok k' →
        k'.currentStepId = k.currentStepId := by
    intro k k' target event hk
    rw [transition, mapError_eq_ok, FlowInstance.transitionTo] at hk
    split at hk
    · cases hk
    · cases hk
      split <;> rfl
  cases nextStepId with
  | some next =>
      refine .inl ⟨next, rfl, ?_⟩
      simp only [leaveStep, enterStep] at h
      split at h
      · simp only [bind_eq_ok, pure, Except.pure, Except.ok.injEq] at h
        obtain ⟨k, hk, rfl⟩ := h
        exact ⟨htransition hk, rfl, rfl⟩
      · cases h
        exact ⟨rfl, rfl, rfl⟩
  | none =>
      refine .inr ⟨rfl, ?_⟩
      simp only [leaveStep] at h
      split at h
      all_goals
        simp only [bind_eq_ok, pure, Except.pure, Except.ok.injEq] at h
        obtain ⟨k, hk, rfl⟩ := h
        have hcurrent := htransition hk
        exact ⟨hcurrent, rfl, rfl⟩

/-! ## The context -/

/-- The entries of the context that the service writes as an instance moves. -/
def protocolContextKeys : List String :=
  ["step_results", "protocol_flow_type", "current_step_name", "current_step_index"]

theorem get_syncProtocolContext {key : String} (hkey : key ∉ protocolContextKeys)
    (context : Json.Map) (definition : FlowDefinitionRecord) (stepId : Option String) :
    (syncProtocolContext context definition stepId).get key = context.get key := by
  simp only [protocolContextKeys, List.mem_cons, List.not_mem_nil, or_false, not_or] at hkey
  obtain ⟨hresults, htype, hname, hindex⟩ := hkey
  have hfirst : ∀ m : Json.Map,
      (if (m.get "step_results").any Json.Value.isObject then m
        else m.insert "step_results" (.object [])).get key = m.get key := by
    intro m
    split
    · rfl
    · rw [Json.Map.get_insert, if_neg hresults]
  rw [syncProtocolContext]
  split
  · rw [Json.Map.get_insert, if_neg htype, hfirst]
  · rw [Json.Map.get_insert, if_neg hindex]
    split
    · rw [Json.Map.get_insert, if_neg htype, hfirst]
    · rw [Json.Map.get_insert, if_neg hname, Json.Map.get_insert, if_neg htype, hfirst]

theorem get_completeStepContext {key : String} (hkey : key ≠ "step_results")
    (context : Json.Map) (definition : FlowDefinitionRecord) (currentStepId result : String)
    (now : Utc) :
    (completeStepContext packages context definition currentStepId result now).get key =
      context.get key := by
  rw [completeStepContext]
  split
  · rfl
  · split
    · rw [Json.Map.get_insert, if_neg hkey]
    · rfl

/-- The entry of the context of a record. -/
def FlowInstanceRecord.entry (record : FlowInstanceRecord) (key : String) : Option Value :=
  record.context.get key

/-- **A start takes over** the initial context and what the server adds to it. -/
theorem StartedBy.entry {definition : FlowDefinitionRecord} {request : StartFlowRequest}
    {actor : String} {now : Utc} {trustedContext : Json.Map} {id : String}
    {record : FlowInstanceRecord} {initial : Json.Map} {extensionOnly : Bool} {expiresAt : Utc}
    (h : StartedBy packages definition request actor now trustedContext id record initial
      extensionOnly expiresAt) {key : String} (hkey : key ∉ protocolContextKeys) :
    record.entry key = (initial.extend trustedContext).get key := by
  rw [FlowInstanceRecord.entry, h.record_eq]
  exact get_syncProtocolContext hkey _ _ _

/-- **An advance takes over** the client's data, and leaves the other entries alone. -/
theorem AdvancedBy.entry {definition : FlowDefinitionRecord}
    {record updated : FlowInstanceRecord} {request : AdvanceFlowRequest} {actor : String}
    {now : Utc} {graph : FlowDefinition} {currentStepId : String} {outcome : TransitionOutcome}
    {kernel resumed : FlowInstance} {context data : Json.Map} {nowMs : Nat}
    {nextStepId : Option String} {position : Position} {completedAt : Option Utc}
    (h : AdvancedBy packages definition record request actor now updated graph currentStepId
      outcome kernel resumed context data nowMs nextStepId position completedAt)
    {key : String} (hkey : key ∉ protocolContextKeys) :
    updated.entry key = (context.extend data).get key := by
  have hresults : key ≠ "step_results" := fun h => hkey (h ▸ List.mem_cons_self)
  have hcompleted := get_completeStepContext packages hresults (context.extend data) definition
    currentStepId request.stepResult now
  have hentry : updated.entry key = position.context.get key := by
    rw [h.record_eq]
    rfl
  rw [hentry, ← hcompleted]
  rcases leaveStep_eq_ok packages h.left with ⟨next, -, -, hcontext, -⟩ | ⟨-, -, hcontext, -⟩
  · rw [hcontext]
    exact get_syncProtocolContext hkey _ _ _
  · rw [hcontext]

/-! ## Runs -/

/-- A request to advance an instance, under a definition and at a time. -/
structure AdvanceCall where
  definition : FlowDefinitionRecord
  request : AdvanceFlowRequest
  actor : String
  now : Utc

/-- The record after a call: the advanced one, or the same one when the call fails. -/
def applyCall (record : FlowInstanceRecord) (call : AdvanceCall) : FlowInstanceRecord :=
  match advanceInstanceRecord packages call.definition record call.request call.actor call.now
  with
  | .ok updated => updated
  | .error _ => record

/-- The record after calls one after the other. -/
def runCalls (record : FlowInstanceRecord) (calls : List AdvanceCall) : FlowInstanceRecord :=
  calls.foldl (applyCall packages) record

/-- **Run rule**: what every successful advance preserves holds after any calls. -/
theorem runCalls_induct {P : FlowInstanceRecord → Prop} {calls : List AdvanceCall}
    (hstep : ∀ record updated, ∀ call ∈ calls, P record →
      advanceInstanceRecord packages call.definition record call.request call.actor call.now
        = .ok updated → P updated)
    {record : FlowInstanceRecord} (hrecord : P record) : P (runCalls packages record calls) := by
  induction calls generalizing record with
  | nil => exact hrecord
  | cons call calls ih =>
      apply ih fun r u c hc => hstep r u c (List.mem_cons_of_mem _ hc)
      rw [applyCall]
      split
      · next updated hadvance =>
          exact hstep record updated call List.mem_cons_self hrecord hadvance
      · exact hrecord

end

/-! ## An instance that is reviewed -/

namespace Example

/-- Three moments and their texts. -/
def moments : List (Utc × String × String) :=
  [(0, "1970-01-01T00:00:00+00:00", "1970-01-01T00:00:00.000000Z"),
    (60000000000, "1970-01-01T00:01:00+00:00", "1970-01-01T00:01:00.000000Z"),
    (3600000000000, "1970-01-01T01:00:00+00:00", "1970-01-01T01:00:00.000000Z")]

/-- The other packages, for graphs whose steps all exist and data without key material. -/
def packages : Packages where
  validateGraph _ := .ok ()
  selectNextStep graph stepId outcome := .ok <|
    (graph.transitions.find? fun t => t.fromStepId = stepId ∧ t.outcome = outcome).map
      (·.toStepId)
  evaluateTransition request :=
    if request.current = request.target then
      .ok ⟨true, request.current, request.target, request.actor,
        request.event.getD "status_changed", request.target.isTerminal⟩
    else if request.current.isTerminal then .error "transition is not allowed"
    else
      .ok ⟨false, request.current, request.target, request.actor,
        request.event.getD "status_changed", request.target.isTerminal⟩
  applicationEventProducer := "marty-applicant-service"
  applicationEventAudience := "marty-flow-application-approved"
  containsPrivateKey _ := false
  toRfc3339 t := ((moments.lookup t).map (·.1)).getD ""
  toRfc3339Micros t := ((moments.lookup t).map (·.2)).getD ""
  parseFromRfc3339 text :=
    (moments.find? fun m => m.2.1 = text ∨ m.2.2 = text).map (·.1)
  urlScheme _ := none
  instanceDocument record := record.context

def reviewStep : Value :=
  .object [("id", .string "step-1"), ("name", .string "approval_decision"),
    ("step_type", .string "approval"),
    ("config", .object [("required_preconditions", .array [.string "application_approved"])])]

def endStep : Value :=
  .object [("id", .string "step-2"), ("name", .string "done"), ("step_type", .string "end")]

/-- A review that ends the flow when it succeeds. -/
def definition : FlowDefinitionRecord where
  id := "flow-1"
  organizationId := "org-1"
  name := "Review"
  description := none
  status := .active
  flowType := .applicationApprovalIssuance
  steps := [reviewStep, endStep]
  transitions := [.object [("from_step_id", .string "step-1"),
    ("to_step_id", .string "step-2"), ("condition", .string "success")]]
  startStepId := some "step-1"
  credentialTemplateId := none
  applicationTemplateId := some "template-1"
  presentationPolicyId := none
  deliveryDestinationProfileId := none
  deploymentProfileId := none
  deploymentProfileIds := []
  trustProfileId := none
  approvalStrategy := .manual
  hooks := BTreeMap.empty
  trigger := none
  extension := none
  preconditions := []
  defaultTimeoutSeconds := 3600
  maxRetries := 0
  retryCooldownMinutes := 0
  enableResume := true
  version := 1
  createdAt := 0
  updatedAt := 0

/-- The same flow without a review. -/
def openDefinition : FlowDefinitionRecord :=
  { definition with
    steps := [.object [("id", .string "step-1"), ("name", .string "accept_application")],
      endStep] }

def startRequest : StartFlowRequest :=
  ⟨"org-1", "flow-1", some "subject-1", "applicant", none,
    .object [("application", .object [("id", .string "application-1")])]⟩

def zeroSha256 : String := "0000000000000000000000000000000000000000000000000000000000000000"

/-- The evidence of an approval event, as the server records it. -/
def trustedContext : Json.Map :=
  [(preconditionEvidenceKey, .object [("application_approved", .object [
    ("producer", .string "marty-applicant-service"), ("audience", .string "marty-flow-application-approved"),
    ("event_id_sha256", .string zeroSha256), ("payload_sha256", .string zeroSha256),
    ("authenticated_at", .string "1970-01-01T00:00:00+00:00")])])]

def advanceRequest : AdvanceFlowRequest :=
  ⟨"Success", .object [("note", .string "reviewed")]⟩

end Example

end Marty.Flow
