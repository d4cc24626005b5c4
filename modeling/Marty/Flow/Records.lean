import Marty.Flow.Context
import Marty.Lib.BTree
import Marty.Lib.Checked
import Marty.Lib.Chrono
import Mathlib.Data.String.Basic

/-!
# Flow records

The definition of a flow and an instance of it as they are stored, and the kernels that
the domain rules work on.  A record holds its steps, transitions and histories as JSON; a
kernel is what the service reads out of them, or the record is refused.

## Main definitions

* `FlowInstanceStatus`, `TransitionOutcome`, `FlowType` — the enumerations and their names.
* `FlowDefinitionRecord`, `FlowInstanceRecord` — the stored records.
* `Packages` — the functions of other packages that the service calls.
* `FlowDefinitionRecord.kernel`, `FlowInstanceRecord.kernel` — the kernels.
-/

namespace Marty.Flow

open Lib Lib.Checked

abbrev TextMap (β : Type) := BTreeMap String β

/-! ## Enumerations -/

inductive FlowInstanceStatus
  | created | pending | inProgress | awaitingWallet | awaitingApproval | awaitingEvidence
  | completed | failed | cancelled | expired
  deriving DecidableEq, Repr

namespace FlowInstanceStatus

def asStr : FlowInstanceStatus → String
  | created => "created"
  | pending => "pending"
  | inProgress => "in_progress"
  | awaitingWallet => "awaiting_wallet"
  | awaitingApproval => "awaiting_approval"
  | awaitingEvidence => "awaiting_evidence"
  | completed => "completed"
  | failed => "failed"
  | cancelled => "cancelled"
  | expired => "expired"

def all : List FlowInstanceStatus :=
  [created, pending, inProgress, awaitingWallet, awaitingApproval, awaitingEvidence, completed,
    failed, cancelled, expired]

def isTerminal (status : FlowInstanceStatus) : Bool :=
  status ∈ [completed, failed, cancelled, expired]

def ofStr (name : String) : Option FlowInstanceStatus := all.find? (·.asStr == name)

def ofValue (value : Value) : Option FlowInstanceStatus := value.unitVariant.bind ofStr

def toValue (status : FlowInstanceStatus) : Value := .string status.asStr

@[simp] theorem ofValue_toValue (status : FlowInstanceStatus) :
    ofValue status.toValue = some status := by
  cases status <;> rfl

end FlowInstanceStatus

inductive TransitionOutcome
  | success | failure | timeout | userCancel | approvalGranted | approvalDenied | conditionMet
  | always | qrScanned | tokenExchanged | credentialIssued
  deriving DecidableEq, Repr

namespace TransitionOutcome

def asStr : TransitionOutcome → String
  | success => "success"
  | failure => "failure"
  | timeout => "timeout"
  | userCancel => "user_cancel"
  | approvalGranted => "approval_granted"
  | approvalDenied => "approval_denied"
  | conditionMet => "condition_met"
  | always => "always"
  | qrScanned => "qr_scanned"
  | tokenExchanged => "token_exchanged"
  | credentialIssued => "credential_issued"

def all : List TransitionOutcome :=
  [success, failure, timeout, userCancel, approvalGranted, approvalDenied, conditionMet, always,
    qrScanned, tokenExchanged, credentialIssued]

def ofStr (name : String) : Option TransitionOutcome := all.find? (·.asStr == name)

def ofValue (value : Value) : Option TransitionOutcome := value.unitVariant.bind ofStr

end TransitionOutcome

inductive FlowType
  | oid4vciPreAuthorized | oid4vciAuthorizationCode | mdlIssuance | oid4vpPresentation
  | mdlPresentation | siopv2 | applicationApprovalIssuance | credentialRenewal
  | credentialRevocation | physicalDocumentIssuance | combined | custom
  deriving DecidableEq, Repr

namespace FlowType

def asStr : FlowType → String
  | oid4vciPreAuthorized => "oid4vci_pre_authorized"
  | oid4vciAuthorizationCode => "oid4vci_authorization_code"
  | mdlIssuance => "mdl_issuance"
  | oid4vpPresentation => "oid4vp_presentation"
  | mdlPresentation => "mdl_presentation"
  | siopv2 => "siopv2"
  | applicationApprovalIssuance => "application_approval_issuance"
  | credentialRenewal => "credential_renewal"
  | credentialRevocation => "credential_revocation"
  | physicalDocumentIssuance => "physical_document_issuance"
  | combined => "combined"
  | custom => "custom"

def all : List FlowType :=
  [oid4vciPreAuthorized, oid4vciAuthorizationCode, mdlIssuance, oid4vpPresentation,
    mdlPresentation, siopv2, applicationApprovalIssuance, credentialRenewal,
    credentialRevocation, physicalDocumentIssuance, combined, custom]

def ofStr (name : String) : Option FlowType := all.find? (·.asStr == name)

def ofValue (value : Value) : Option FlowType := value.unitVariant.bind ofStr

def toValue (flowType : FlowType) : Value := .string flowType.asStr

@[simp] theorem ofValue_toValue (flowType : FlowType) :
    ofValue flowType.toValue = some flowType := by
  cases flowType <;> rfl

end FlowType

inductive DefinitionStatus
  | draft | active | paused | archived
  deriving DecidableEq, Repr

inductive ApprovalStrategy
  | auto | manual | rulesBased | external
  deriving DecidableEq, Repr

/-! ## Records -/

structure FlowDefinitionRecord where
  id : String
  organizationId : String
  name : String
  description : Option String
  status : DefinitionStatus
  flowType : FlowType
  steps : List Value
  transitions : List Value
  startStepId : Option String
  credentialTemplateId : Option String
  applicationTemplateId : Option String
  presentationPolicyId : Option String
  deliveryDestinationProfileId : Option String
  deploymentProfileId : Option String
  deploymentProfileIds : List String
  trustProfileId : Option String
  approvalStrategy : ApprovalStrategy
  hooks : TextMap (List Value)
  trigger : Option Value
  extension : Option Value
  preconditions : List String
  defaultTimeoutSeconds : Nat
  maxRetries : Nat
  retryCooldownMinutes : Nat
  enableResume : Bool
  version : Nat
  createdAt : Utc
  updatedAt : Utc

structure FlowInstanceRecord where
  id : String
  flowDefinitionId : String
  organizationId : String
  status : FlowInstanceStatus
  currentStepId : Option String
  context : Value
  stepHistory : List Value
  stateHistory : List Value
  subjectId : Option String
  subjectType : String
  externalReference : Option String
  applicationFlowKeyHash : Option String
  startedAt : Option Utc
  completedAt : Option Utc
  expiresAt : Option Utc
  result : Option Value
  error : Option String
  createdAt : Utc
  updatedAt : Utc

inductive FlowProjectionError
  | invalidStoredState (field : String)
  deriving DecidableEq, Repr

inductive FlowRecordError
  | invalidStoredState (field : String)
  | projection (error : FlowProjectionError)
  deriving DecidableEq, Repr

/-- A refused request: the code of the error, the field it is about, and why. -/
structure FlowApiError where
  code : String
  field : String
  message : String
  deriving DecidableEq, Repr

inductive FlowDomainError
  | invalidDefinition (reason : String)
  | privateContext (path : String)
  | invalidTransition (reason : String)
  deriving DecidableEq, Repr

inductive FlowProviderError
  | notFound (provider resource : String)
  | conflict (provider message : String)
  | rejected (provider message : String)
  | invalidResponse (provider message : String)
  | unavailable (provider : String)
  | missing (names : String)
  deriving DecidableEq, Repr

/-! ## Other packages -/

structure FlowTransition where
  fromStepId : String
  toStepId : String
  outcome : TransitionOutcome
  deriving DecidableEq, Repr

structure FlowGraphRequest where
  entryStepId : String
  steps : List String
  transitions : List FlowTransition

structure FlowTransitionRequest where
  current : FlowInstanceStatus
  target : FlowInstanceStatus
  actor : Option String
  event : Option String

structure FlowTransitionDecision where
  noOp : Bool
  priorState : FlowInstanceStatus
  newState : FlowInstanceStatus
  actor : Option String
  event : String
  terminal : Bool

structure FlowExtensionStepRequest where
  stepId : String
  action : String
  description : Option String
  config : TextMap Value
  timeoutSeconds : Option UInt32

inductive ExtensionOutcome
  | success | failure | approved | rejected | timeout | custom
  deriving DecidableEq, Repr

namespace ExtensionOutcome

def asStr : ExtensionOutcome → String
  | success => "SUCCESS"
  | failure => "FAILURE"
  | approved => "APPROVED"
  | rejected => "REJECTED"
  | timeout => "TIMEOUT"
  | custom => "CUSTOM"

def all : List ExtensionOutcome := [success, failure, approved, rejected, timeout, custom]

def ofValue (value : Value) : Option ExtensionOutcome :=
  value.unitVariant.bind fun name => all.find? (·.asStr == name)

def toValue (outcome : ExtensionOutcome) : Value := .string outcome.asStr

@[simp] theorem ofValue_toValue (outcome : ExtensionOutcome) :
    ofValue outcome.toValue = some outcome := by
  cases outcome <;> rfl

def toOutcome : ExtensionOutcome → TransitionOutcome
  | success => .success
  | failure => .failure
  | approved => .approvalGranted
  | rejected => .approvalDenied
  | timeout => .timeout
  | custom => .conditionMet

end ExtensionOutcome

structure FlowExtensionTransitionRequest where
  fromStepId : String
  toStepId : String
  outcome : ExtensionOutcome
  condition : Option (TextMap Value)

structure FlowExtensionRequest where
  extensionUri : String
  extensionVersion : String
  extendsFlowType : FlowType
  entryStepId : String
  steps : List FlowExtensionStepRequest
  transitions : List FlowExtensionTransitionRequest
  config : TextMap Value

/-- The functions of other packages that the flow service calls: the rules of the shared flow
library, the names of the approval events, the key material policy, the clock's text format,
the URL parser, and the generated writer of an instance. -/
structure Packages where
  validateGraph : FlowGraphRequest → Except String Unit
  selectNextStep : FlowGraphRequest → String → TransitionOutcome → Except String (Option String)
  evaluateTransition : FlowTransitionRequest → Except String FlowTransitionDecision
  applicationEventProducer : String
  applicationEventAudience : String
  containsPrivateKey : Value → Bool
  toRfc3339 : Utc → String
  toRfc3339Micros : Utc → String
  parseFromRfc3339 : String → Option Utc
  urlScheme : String → Option String
  instanceDocument : FlowInstanceRecord → Value

/-! ## The kernel of a definition -/

def invalid (field : String) : FlowRecordError := .invalidStoredState field

def object (value : Value) (field : String) : Except FlowRecordError Json.Map :=
  okOr value.asObject (invalid field)

/-- A text that is not blank. -/
def nonBlank (value : String) : Bool := !(Text.trim value).isEmpty

def requiredString (value : Option Value) (field : String) : Except FlowRecordError String :=
  okOr ((value.bind Json.Value.asStr).filter nonBlank) (invalid field)

/-- The protocol step that a step's configuration names, or else the step's name. -/
def protocolStep (step : Json.Map) : Option String :=
  (((((step.get "config").bind Json.Value.asObject).bind
    (Json.Map.get · "protocol_step")).or (step.get "name")).bind Json.Value.asStr).filter nonBlank

structure FlowStep where
  id : String
  protocolStep : String

structure FlowDefinition where
  steps : List FlowStep
  transitions : List FlowTransition
  startStepId : String

def FlowDefinition.graphRequest (definition : FlowDefinition) : FlowGraphRequest :=
  ⟨definition.startStepId, definition.steps.map (·.id), definition.transitions⟩

/-- The place of an element of a list in a record. -/
def indexed (list : String) (index : Nat) (field : String) : String :=
  list ++ "[" ++ toString index ++ "]" ++ field

def kernelStep (entry : Value × Nat) : Except FlowRecordError FlowStep := do
  let step ← object entry.1 (indexed "definition.steps" entry.2 "")
  let id ← requiredString (step.get "id") (indexed "definition.steps" entry.2 ".id")
  let name ← okOr (protocolStep step)
    (invalid (indexed "definition.steps" entry.2 ".protocol_step"))
  return ⟨id, name⟩

def kernelTransition (entry : Value × Nat) : Except FlowRecordError FlowTransition := do
  let transition ← object entry.1 (indexed "definition.transitions" entry.2 "")
  let source ← requiredString (transition.get "from_step_id")
    (indexed "definition.transitions" entry.2 ".from_step_id")
  let target ← requiredString (transition.get "to_step_id")
    (indexed "definition.transitions" entry.2 ".to_step_id")
  let outcome ← okOr ((transition.get "condition").bind TransitionOutcome.ofValue)
    (invalid (indexed "definition.transitions" entry.2 ".condition"))
  return ⟨source, target, outcome⟩

def FlowDefinitionRecord.kernel (packages : Packages) (record : FlowDefinitionRecord) :
    Except FlowRecordError FlowDefinition := do
  let steps ← mapEach kernelStep record.steps.zipIdx
  let transitions ← mapEach kernelTransition record.transitions.zipIdx
  let startStepId ← okOr (record.startStepId.filter nonBlank)
    (invalid "definition.start_step_id")
  let definition : FlowDefinition := ⟨steps, transitions, startStepId⟩
  match packages.validateGraph definition.graphRequest with
  | .ok _ => return definition
  | .error reason => throw (invalid ("FLOW.INVALID_DEFINITION: " ++ reason))

/-! ## The kernel of an instance -/

structure StateHistoryEntry where
  priorState : Option FlowInstanceStatus
  newState : FlowInstanceStatus
  timestampMs : Nat
  actor : Option String
  event : String

def StateHistoryEntry.toValue (entry : StateHistoryEntry) : Value :=
  .object [("prior_state", .ofOption FlowInstanceStatus.toValue entry.priorState),
    ("new_state", entry.newState.toValue), ("timestamp_ms", .ofNat entry.timestampMs),
    ("actor", .ofOption .string entry.actor), ("event", .string entry.event)]

structure FlowInstance where
  status : FlowInstanceStatus
  currentStepId : Option String
  stateHistory : List StateHistoryEntry
  expiresAtMs : Option Nat
  completedAtMs : Option Nat
  result : Option Value
  error : Option String

/-- The status that an entry gives for a field, when it has one that is not null. -/
def parsePriorState (value : Option Value) (field : String) :
    Except FlowRecordError (Option FlowInstanceStatus) :=
  match value with
  | none | some .null => .ok none
  | some value => (okOr (FlowInstanceStatus.ofValue value) (invalid field)).map some

/-- The milliseconds of an entry: its number, or else what its text says. -/
def parseTimestampMs (packages : Packages) (entry : Json.Map) (field : String) :
    Except FlowRecordError Nat :=
  match (entry.get "timestamp_ms").bind Json.Value.asU64 with
  | some value => .ok value
  | none => do
      let timestamp ← requiredString (entry.get "timestamp") field
      let moment ← okOr (packages.parseFromRfc3339 timestamp) (invalid field)
      okOr (toU64 moment.timestampMillis) (invalid field)

def parseStateHistory (packages : Packages) (entry : Value × Nat) :
    Except FlowRecordError StateHistoryEntry := do
  let field := indexed "instance.state_history" entry.2
  let history ← object entry.1 (field "")
  let priorState ← parsePriorState (history.get "prior_state") (field ".prior_state")
  let newState ← okOr ((history.get "new_state").bind FlowInstanceStatus.ofValue)
    (invalid (field ".new_state"))
  let timestampMs ← parseTimestampMs packages history (field ".timestamp")
  let event ← requiredString (history.get "event") (field ".event")
  return ⟨priorState, newState, timestampMs, (history.get "actor").bind Json.Value.asStr, event⟩

def optionalMillis (value : Option Utc) : Except FlowRecordError (Option Nat) :=
  match value with
  | none => .ok none
  | some moment => (okOr (toU64 moment.timestampMillis) (invalid "timestamp")).map some

def FlowInstanceRecord.kernel (packages : Packages) (record : FlowInstanceRecord) :
    Except FlowRecordError FlowInstance := do
  rejectIf (record.context.isObject = false) (invalid "instance.context")
  let stateHistory ← mapEach (parseStateHistory packages) record.stateHistory.zipIdx
  let expiresAtMs ← optionalMillis record.expiresAt
  let completedAtMs ← optionalMillis record.completedAt
  return ⟨record.status, record.currentStepId, stateHistory, expiresAtMs, completedAtMs,
    record.result, record.error⟩

/-- Move an instance to another status, and note it in its history. -/
def FlowInstance.transitionTo (packages : Packages) (kernel : FlowInstance)
    (target : FlowInstanceStatus) (actor event : Option String) (nowMs : Nat) :
    Except FlowDomainError FlowInstance :=
  match packages.evaluateTransition ⟨kernel.status, target, actor, event⟩ with
  | .error reason => .error (.invalidTransition reason)
  | .ok decision =>
      .ok <|
        if decision.noOp then kernel
        else
          { kernel with
            status := decision.newState
            stateHistory := kernel.stateHistory ++
              [⟨some decision.priorState, decision.newState, nowMs, decision.actor,
                decision.event⟩]
            completedAtMs := if decision.terminal then some nowMs else kernel.completedAtMs }

end Marty.Flow
