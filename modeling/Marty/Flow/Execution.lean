import Marty.Flow.Requests

/-!
# Running an instance

An instance is started from an active definition and then advanced one step at a time, by
the outcome of the current step.  Client data is merged into the context; the evidence that
an approval rests on is placed there by the server when it starts the instance.

## Main definitions

* `startInstanceRecordWithTrustedContext`, `startInstanceRecord` — the first record.
* `advanceInstanceRecord` — the record after one more step.
* `requirePreconditions`, `requireCurrentStepPreconditions` — what an approval requires.
-/

namespace Marty.Flow

open Lib Lib.Checked

inductive FlowInstanceExecutionError
  | api (error : FlowApiError)
  | domain (error : FlowDomainError)
  | record (error : FlowRecordError)
  | definitionNotActive
  | definitionTenantMismatch
  | instanceDefinitionMismatch
  | notAdvanceable (status : FlowInstanceStatus)
  | noCurrentStep
  | invalidStepResult (value : String)
  | preconditionsNotMet (names : String)
  | invalidClock
  | invalidContext
  deriving DecidableEq, Repr

abbrev Executed (α : Type) := Except FlowInstanceExecutionError α

variable (packages : Packages)

def preconditionEvidenceKey : String := "_marty_precondition_evidence_v1"

/-! ## Reading a definition -/

/-- A step of a definition, with its index. -/
def FlowDefinitionRecord.findStep (definition : FlowDefinitionRecord) (stepId : String) :
    Option (Value × Nat) :=
  definition.steps.zipIdx.find? fun step =>
    decide ((step.1.get "id").bind Json.Value.asStr = some stepId)

def stepType (step : Value) : Option String := (step.get "step_type").bind Json.Value.asStr

def protocolStepOf (step : Value) : Option String := step.asObject.bind protocolStep

/-- The flow type that a definition follows, its own or the one it extends. -/
def effectiveFlowType (definition : FlowDefinitionRecord) : FlowType :=
  if definition.flowType ≠ .custom then definition.flowType
  else
    ((definition.extension.bind (·.get "extends_flow_type")).bind FlowType.ofValue).getD .custom

def applicationApprovedTrigger (definition : FlowDefinitionRecord) : Bool :=
  effectiveFlowType definition == .oid4vciPreAuthorized &&
    match definition.trigger.bind Json.Value.asObject with
    | none => false
    | some trigger =>
        ((trigger.get "trigger_type").bind Json.Value.asStr).any
            (Text.eqIgnoreAsciiCase · "WEBHOOK") &&
          ((((trigger.get "config").bind Json.Value.asObject).bind
            (Json.Map.get · "event_type")).bind Json.Value.asStr).any
              (Text.eqIgnoreAsciiCase · "APPLICATION_APPROVED")

/-- A custom definition for approved applications that has an extension and no graph. -/
def extensionOnlyApplicationGraph (definition : FlowDefinitionRecord) : Executed Bool :=
  if definition.startStepId.isSome ∨ definition.steps ≠ [] ∨ definition.transitions ≠ [] then
    .ok false
  else if definition.flowType ≠ .custom ∨ applicationApprovedTrigger definition = false then
    .ok false
  else do
    let document ← okOr definition.extension .invalidContext
    let extension ← okOr (FlowExtensionRequest.ofValue document) .invalidContext
    (extension.validate packages).mapError .api
    return extension.extendsFlowType == .oid4vciPreAuthorized

/-! ## Preconditions -/

def isLowerHexDigit (c : Char) : Bool :=
  (48 ≤ c.toNat && c.toNat ≤ 57) || (97 ≤ c.toNat && c.toNat ≤ 102)

def validSha256 (value : String) : Bool :=
  value.utf8ByteSize == 64 && value.toList.all isLowerHexDigit

/-- The preconditions that the configuration of an approval step names. -/
def configuredPreconditions (step : Value) : List String :=
  match (step.get "config").bind (·.get "required_preconditions") with
  | some (.array values) => (values.filterMap Json.Value.asStr).filter nonBlank
  | none | some .null => []
  | some _ => ["invalid_required_preconditions_configuration"]

/-- The one precondition there is: an approval event, authenticated by the server. -/
def preconditionMet (name : String) (evidence : Option Json.Map) : Bool :=
  name == "application_approved" &&
    match (evidence.bind (Json.Map.get · "application_approved")).bind Json.Value.asObject with
    | none => false
    | some approval =>
        (approval.get "producer").bind Json.Value.asStr ==
            some packages.applicationEventProducer &&
          (approval.get "audience").bind Json.Value.asStr ==
            some packages.applicationEventAudience &&
          ((approval.get "event_id_sha256").bind Json.Value.asStr).any validSha256 &&
          ((approval.get "payload_sha256").bind Json.Value.asStr).any validSha256 &&
          ((approval.get "authenticated_at").bind Json.Value.asStr).any nonBlank

def evidenceOf (context : Json.Map) : Option Json.Map :=
  (context.get preconditionEvidenceKey).bind Json.Value.asObject

def verifyPreconditions (required : List String) (context : Json.Map) : Executed Unit :=
  let missing := (BTreeSet.ofList required).toList.filter fun name =>
    !preconditionMet packages name (evidenceOf context)
  rejectIf (missing ≠ []) (.preconditionsNotMet (String.intercalate "," missing))

/-- What must hold before an instance of a definition is started. -/
def startPreconditions (definition : FlowDefinitionRecord) : List String :=
  definition.preconditions ++
    (if applicationApprovedTrigger definition then ["application_approved"] else []) ++
    (definition.steps.filter fun step => stepType step == some "approval").flatMap
      configuredPreconditions

def requirePreconditions (definition : FlowDefinitionRecord) (context : Json.Map) :
    Executed Unit :=
  verifyPreconditions packages (startPreconditions definition) context

/-- What must hold before an approval step is left. -/
def stepPreconditions (definition : FlowDefinitionRecord) (step : Value) : List String :=
  if definition.preconditions = [] then configuredPreconditions step
  else definition.preconditions

def requireCurrentStepPreconditions (definition : FlowDefinitionRecord)
    (currentStepId : String) (context : Json.Map) : Executed Unit :=
  match definition.findStep currentStepId with
  | none => .error .noCurrentStep
  | some (step, _) =>
      if stepType step = some "approval" then
        verifyPreconditions packages (stepPreconditions definition step) context
      else .ok ()

/-! ## The context -/

/-- The entries that say where an instance is. -/
def syncProtocolContext (context : Json.Map) (definition : FlowDefinitionRecord)
    (stepId : Option String) : Json.Map :=
  let context :=
    if (context.get "step_results").any Json.Value.isObject then context
    else context.insert "step_results" (.object [])
  let context := context.insert "protocol_flow_type" (effectiveFlowType definition).toValue
  match stepId.bind definition.findStep with
  | none => context
  | some (step, index) =>
      let context :=
        match protocolStepOf step with
        | none => context
        | some name => context.insert "current_step_name" (.string name)
      -- an index is a `usize`
      context.insert "current_step_index" (.ofNat (index % 2 ^ 64))

/-- Change the last entry of a history, when it is an object. -/
def completeLast (complete : Json.Map → Json.Map) : List Value → List Value
  | [] => []
  | [.object entry] => [.object (complete entry)]
  | [entry] => [entry]
  | entry :: next :: history => entry :: completeLast complete (next :: history)

/-- The step history with its last entry completed. -/
def completeStepHistory (history : List Value) (result : String) (now : Utc) : List Value :=
  completeLast (fun entry =>
    (entry.insert "completed_at" (.string (packages.toRfc3339 now))).insert "result"
      (.string result)) history

/-- The context with the result of the current step. -/
def completeStepContext (context : Json.Map) (definition : FlowDefinitionRecord)
    (currentStepId result : String) (now : Utc) : Json.Map :=
  match (definition.findStep currentStepId).bind fun step => protocolStepOf step.1 with
  | none => context
  | some name =>
      match (context.get "step_results").getD (.object []) with
      | .object results =>
          context.insert "step_results" <| .object <| Json.Map.insert results name <|
            .object [("result", .string result),
              ("completed_at", .string (packages.toRfc3339 now))]
      | _ => context

def mergeContext (context : Json.Map) (data : Value) : Executed Json.Map := do
  let data ← okOr data.asObject .invalidContext
  rejectIf (data.containsKey "physical_document_route_trace") .invalidContext
  return context.extend data

def parseOutcome (value : String) : Executed TransitionOutcome :=
  okOr (TransitionOutcome.ofStr (Text.toAsciiLowercase (Text.trim value)))
    (.invalidStepResult value)

def enteredStep (stepId : String) (now : Utc) : Value :=
  .object [("step_id", .string stepId), ("entered_at", .string (packages.toRfc3339 now)),
    ("status", .string "entered")]

/-! ## Starting -/

def startStatus (definition : FlowDefinitionRecord) (extensionOnly : Bool) :
    FlowInstanceStatus :=
  if definition.startStepId.isSome || extensionOnly then .inProgress else .pending

/-- A definition has a kernel, unless it needs none. -/
def checkGraph (definition : FlowDefinitionRecord) (extensionOnly : Bool) : Executed Unit :=
  if extensionOnly then .ok ()
  else (definition.kernel packages).mapError .record >>= fun _ => .ok ()

/-- The first record of an instance. -/
def startedRecord (definition : FlowDefinitionRecord) (request : StartFlowRequest)
    (actor : String) (now expiresAt : Utc) (status : FlowInstanceStatus) (context : Json.Map)
    (id : String) : FlowInstanceRecord where
  id := id
  flowDefinitionId := definition.id
  organizationId := definition.organizationId
  status := status
  currentStepId := definition.startStepId
  context := .object (syncProtocolContext context definition definition.startStepId)
  stepHistory := definition.startStepId.toList.map fun stepId => enteredStep packages stepId now
  stateHistory := [.object [("prior_state", .null), ("new_state", status.toValue),
    ("timestamp", .string (packages.toRfc3339 now)), ("actor", .string actor),
    ("event", .string "flow_instance_created")]]
  subjectId := request.subjectId
  subjectType := request.subjectType
  externalReference := request.externalReference
  applicationFlowKeyHash := none
  startedAt := some now
  completedAt := none
  expiresAt := some expiresAt
  result := none
  error := none
  createdAt := now
  updatedAt := now

/-- Start an instance named `id`, with entries that the server vouches for. -/
def startInstanceRecordWithTrustedContext (definition : FlowDefinitionRecord)
    (request : StartFlowRequest) (actor : String) (now : Utc) (trustedContext : Json.Map)
    (id : String) : Executed FlowInstanceRecord := do
  (request.validate packages).mapError .api
  rejectIf (request.organizationId ≠ definition.organizationId) .definitionTenantMismatch
  rejectIf (definition.status ≠ .active) .definitionNotActive
  let extensionOnly ← extensionOnlyApplicationGraph packages definition
  checkGraph packages definition extensionOnly
  let initial ← okOr request.initialContext.asObject .invalidContext
  let context := Json.Map.extend initial trustedContext
  requirePreconditions packages definition context
  let expiresAt ← okOr (now.checkedAddSeconds definition.defaultTimeoutSeconds) .invalidClock
  let record := startedRecord packages definition request actor now expiresAt
    (startStatus definition extensionOnly) context id
  (record.kernel packages).mapError .record >>= fun _ => pure record

/-- Start an instance for a client. -/
def startInstanceRecord (definition : FlowDefinitionRecord) (request : StartFlowRequest)
    (actor : String) (now : Utc) (id : String) : Executed FlowInstanceRecord :=
  startInstanceRecordWithTrustedContext packages definition request actor now [] id

/-! ## Advancing -/

/-- A status change that an advance makes. -/
def transition (kernel : FlowInstance) (target : FlowInstanceStatus) (actor event : String)
    (nowMs : Nat) : Executed FlowInstance :=
  (kernel.transitionTo packages target (some actor) (some event) nowMs).mapError .domain

/-- An instance that waits for a wallet is in progress again. -/
def resume (kernel : FlowInstance) (actor : String) (nowMs : Nat) : Executed FlowInstance :=
  if kernel.status = .awaitingWallet then
    transition packages kernel .inProgress actor "wallet_step_response_received" nowMs
  else .ok kernel

/-- What an advance changes: the kernel, the context and the history of steps. -/
structure Position where
  kernel : FlowInstance
  context : Json.Map
  stepHistory : List Value

/-- Enter the next step; an end step completes the flow with the context as its result. -/
def enterStep (definition : FlowDefinitionRecord) (position : Position) (nextStepId : String)
    (actor : String) (now : Utc) (nowMs : Nat) : Executed Position := do
  let kernel := { position.kernel with currentStepId := some nextStepId }
  let context := syncProtocolContext position.context definition (some nextStepId)
  let stepHistory := position.stepHistory ++ [enteredStep packages nextStepId now]
  if (definition.findStep nextStepId).bind (fun step => stepType step.1) = some "end" then do
    let kernel ← transition packages kernel .completed actor "flow_completed" nowMs
    return ⟨{ kernel with result := some (.object context) }, context, stepHistory⟩
  else return ⟨kernel, context, stepHistory⟩

/-- Leave the current step: for the next one, or for the end of the flow. -/
def leaveStep (definition : FlowDefinitionRecord) (position : Position)
    (nextStepId : Option String) (outcome : TransitionOutcome) (actor : String) (now : Utc)
    (nowMs : Nat) : Executed Position :=
  match nextStepId with
  | some nextStepId => enterStep packages definition position nextStepId actor now nowMs
  | none =>
      if outcome = .failure then do
        let kernel ← transition packages position.kernel .failed actor "flow_failed" nowMs
        return { position with
          kernel := { kernel with error := some "Step failed with no recovery transition" } }
      else do
        let kernel ← transition packages position.kernel .completed actor "flow_completed" nowMs
        return { position with kernel := kernel }

def millisToTimestamp (value : Nat) : Executed Utc :=
  okOr ((toI64 value).bind Utc.fromTimestampMillis) .invalidClock

def optionalTimestamp : Option Nat → Executed (Option Utc)
  | none => .ok none
  | some value => (millisToTimestamp value).map some

/-- The record of a position that an advance has reached. -/
def FlowInstanceRecord.withPosition (record : FlowInstanceRecord) (position : Position)
    (completedAt : Option Utc) (now : Utc) : FlowInstanceRecord :=
  { record with
    status := position.kernel.status
    currentStepId := position.kernel.currentStepId
    context := .object position.context
    stepHistory := position.stepHistory
    stateHistory := position.kernel.stateHistory.map StateHistoryEntry.toValue
    completedAt := completedAt
    result := position.kernel.result
    error := position.kernel.error
    updatedAt := now }

/-- Advance an instance by the result of its current step. -/
def advanceInstanceRecord (definition : FlowDefinitionRecord) (record : FlowInstanceRecord)
    (request : AdvanceFlowRequest) (actor : String) (now : Utc) :
    Executed FlowInstanceRecord := do
  (request.validate packages).mapError .api
  rejectIf (record.flowDefinitionId ≠ definition.id ∨
    record.organizationId ≠ definition.organizationId) .instanceDefinitionMismatch
  rejectIf (¬ (record.status = .inProgress ∨ record.status = .awaitingWallet))
    (.notAdvanceable record.status)
  let definitionKernel ← (definition.kernel packages).mapError .record
  let currentStepId ← okOr record.currentStepId .noCurrentStep
  let outcome ← parseOutcome request.stepResult
  let kernel ← (record.kernel packages).mapError .record
  let context ← okOr record.context.asObject .invalidContext
  requireCurrentStepPreconditions packages definition currentStepId context
  let nowMs ← okOr (toU64 now.timestampMillis) .invalidClock
  let kernel ← resume packages kernel actor nowMs
  let nextStepId ← (packages.selectNextStep definitionKernel.graphRequest currentStepId
    outcome).mapError fun reason => .domain (.invalidDefinition reason)
  let context ← mergeContext context request.data
  let context := completeStepContext packages context definition currentStepId
    request.stepResult now
  let stepHistory := completeStepHistory packages record.stepHistory request.stepResult now
  let position ← leaveStep packages definition ⟨kernel, context, stepHistory⟩ nextStepId outcome
    actor now nowMs
  let completedAt ← optionalTimestamp position.kernel.completedAtMs
  let updated := record.withPosition position completedAt now
  (updated.kernel packages).mapError .record >>= fun _ => pure updated

end Marty.Flow
