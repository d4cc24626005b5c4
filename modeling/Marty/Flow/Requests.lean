import Marty.Flow.Records
import Marty.Lib.JsonStruct

/-!
# Client requests

What a client may send to start an instance or to advance one, and the extension graph that
a custom definition carries.  A request is checked as a whole before anything else is done
with it.

## Main definitions

* `StartFlowRequest.validate`, `AdvanceFlowRequest.validate` — the admitted requests.
* `FlowExtensionRequest.validate` — the admitted extensions.
* `rejectPrivateContext` — client data holds no reserved key and no private key material.
-/

namespace Marty.Flow

open Lib Lib.Checked

variable (packages : Packages)

def apiError (code field message : String) : FlowApiError := ⟨code, field, message⟩

def invalidRequest (field message : String) : FlowApiError :=
  apiError "FLOW.INVALID_REQUEST" field message

def maxLength (value : String) (maximum : Nat) (field : String) : Except FlowApiError Unit :=
  rejectIf (maximum < value.toList.length)
    (invalidRequest field ("must be at most " ++ toString maximum ++ " characters"))

def boundedRequired (value : String) (maximum : Nat) (field : String) :
    Except FlowApiError Unit := do
  rejectIf value.isEmpty (invalidRequest field "is required")
  maxLength value maximum field

def optionalMax (value : Option String) (maximum : Nat) (field : String) :
    Except FlowApiError Unit :=
  match value with
  | none => .ok ()
  | some value => maxLength value maximum field

def requireObject (value : Value) (field : String) : Except FlowApiError Unit :=
  rejectIf (value.isObject = false) (invalidRequest field "must be a JSON object")

def FlowDomainError.toStr : FlowDomainError → String
  | .invalidDefinition reason => "FLOW.INVALID_DEFINITION: " ++ reason
  | .privateContext path => "FLOW.PRIVATE_CONTEXT: " ++ path
  | .invalidTransition reason => "FLOW.INVALID_TRANSITION: " ++ reason

def rejectPrivateContext (value : Value) : Except FlowDomainError Unit :=
  match privateContextPath value "" with
  | some path => .error (.privateContext path)
  | none => rejectIf (packages.containsPrivateKey value) (.privateContext "$")

/-- `rejectPrivateContext` for a field of a request. -/
def rejectPrivateField (value : Value) (field : String) : Except FlowApiError Unit :=
  (rejectPrivateContext packages value).mapError fun error =>
    apiError "FLOW.PRIVATE_CONTEXT" field error.toStr

/-! ## Starting and advancing an instance -/

structure StartFlowRequest where
  organizationId : String
  flowDefinitionId : String
  subjectId : Option String
  subjectType : String
  externalReference : Option String
  initialContext : Value

def StartFlowRequest.validate (request : StartFlowRequest) : Except FlowApiError Unit := do
  boundedRequired request.organizationId 255 "organization_id"
  boundedRequired request.flowDefinitionId 255 "flow_definition_id"
  optionalMax request.subjectId 255 "subject_id"
  maxLength request.subjectType 50 "subject_type"
  optionalMax request.externalReference 500 "external_reference"
  requireObject request.initialContext "initial_context"
  rejectPrivateField packages request.initialContext "initial_context"

structure AdvanceFlowRequest where
  stepResult : String
  data : Value

def AdvanceFlowRequest.validate (request : AdvanceFlowRequest) : Except FlowApiError Unit := do
  maxLength request.stepResult 50 "step_result"
  requireObject request.data "data"
  rejectIf (request.data.get "physical_document_route_trace").isSome
    (invalidRequest "data" "physical document route trace is provider owned")
  rejectPrivateField packages request.data "data"

/-- Admitted client data is an object without reserved keys. -/
theorem rejectPrivateField_eq_ok {value : Value} {field : String}
    (h : rejectPrivateField packages value field = .ok ()) :
    ∀ entries, value = .object entries → ∀ e ∈ entries, isPrivateContextKey e.1 = false := by
  rintro entries rfl
  cases hpath : privateContextPath (.object entries) "" with
  | none => exact privateEntriesPath_eq_none hpath
  | some path =>
      rw [rejectPrivateField, rejectPrivateContext, hpath] at h
      cases h

theorem requireObject_eq_ok {value : Value} {field : String}
    (h : requireObject value field = .ok ()) : ∃ entries, value = .object entries := by
  cases value with
  | object entries => exact ⟨entries, rfl⟩
  | _ => cases h

theorem StartFlowRequest.validate_eq_ok {request : StartFlowRequest}
    (h : request.validate packages = .ok ()) :
    ∃ entries, request.initialContext = .object entries ∧
      ∀ e ∈ entries, isPrivateContextKey e.1 = false := by
  simp only [StartFlowRequest.validate, bind_eq_ok, exists_unit] at h
  obtain ⟨-, -, -, -, -, hobject, hprivate⟩ := h
  obtain ⟨entries, heq⟩ := requireObject_eq_ok hobject
  exact ⟨entries, heq, rejectPrivateField_eq_ok packages hprivate entries heq⟩

theorem AdvanceFlowRequest.validate_eq_ok {request : AdvanceFlowRequest}
    (h : request.validate packages = .ok ()) :
    ∃ entries, request.data = .object entries ∧
      (∀ e ∈ entries, isPrivateContextKey e.1 = false) ∧
      ∀ e ∈ entries, e.1 ≠ "physical_document_route_trace" := by
  simp only [AdvanceFlowRequest.validate, bind_eq_ok, exists_unit, rejectIf_eq_ok] at h
  obtain ⟨-, hobject, htrace, hprivate⟩ := h
  obtain ⟨entries, heq⟩ := requireObject_eq_ok hobject
  refine ⟨entries, heq, rejectPrivateField_eq_ok packages hprivate entries heq, ?_⟩
  rw [heq, Json.Value.get_object, Option.not_isSome_iff_eq_none] at htrace
  exact Json.Map.get_eq_none.mp htrace

/-! ## Extensions -/

def absoluteUri (value field : String) : Except FlowApiError Unit :=
  match packages.urlScheme value with
  | none => .error (invalidRequest field "must be an absolute URI")
  | some scheme => rejectIf scheme.isEmpty (invalidRequest field "must be an absolute URI")

def isAsciiLowercase (c : Char) : Bool := 97 ≤ c.toNat && c.toNat ≤ 122

def isAsciiDigit (c : Char) : Bool := 48 ≤ c.toNat && c.toNat ≤ 57

/-- A lowercase letter followed by lowercase letters, digits and the given marks. -/
def isAsciiIdentifier (marks : List Char) (value : String) : Bool :=
  match value.toList with
  | [] => false
  | c :: cs =>
      isAsciiLowercase c &&
        cs.all fun c => isAsciiLowercase c || isAsciiDigit c || marks.contains c

def stepId (value field : String) : Except FlowApiError Unit := do
  rejectIf (value.isEmpty ∨ 128 < value.utf8ByteSize ∨ ¬ value.toList.all (·.toNat < 128))
    (invalidRequest field "must be a 1-128 character ASCII step identifier")
  rejectIf (isAsciiIdentifier ['_', '-'] value = false)
    (invalidRequest field "must match ^[a-z][a-z0-9_-]*$")

def action (value field : String) : Except FlowApiError Unit := do
  rejectIf (value.isEmpty ∨ 160 < value.utf8ByteSize ∨ ¬ value.toList.all (·.toNat < 128))
    (invalidRequest field "must be a 1-160 character ASCII action")
  rejectIf (isAsciiIdentifier ['_', '.', ':', '-'] value = false)
    (invalidRequest field "must match ^[a-z][a-z0-9_.:-]*$")

def FlowExtensionStepRequest.validate (entry : FlowExtensionStepRequest × Nat) :
    Except FlowApiError Unit := do
  let field := indexed "extension.steps" entry.2
  Flow.stepId entry.1.stepId (field ".step_id")
  Flow.action entry.1.action (field ".action")
  optionalMax entry.1.description 512 (field ".description")
  rejectIf (∃ value ∈ entry.1.timeoutSeconds, ¬ (1 ≤ value ∧ value ≤ 86400))
    (invalidRequest (field ".timeout_seconds") "must be between 1 and 86400")

def FlowExtensionRequest.graphRequest (extension : FlowExtensionRequest) : FlowGraphRequest :=
  ⟨extension.entryStepId, extension.steps.map (·.stepId),
    extension.transitions.map fun t => ⟨t.fromStepId, t.toStepId, t.outcome.toOutcome⟩⟩

def FlowExtensionRequest.validate (extension : FlowExtensionRequest) :
    Except FlowApiError Unit := do
  rejectIf (extension.extendsFlowType = .custom)
    (invalidRequest "extension.extends_flow_type" "must be a standard flow type")
  absoluteUri packages extension.extensionUri "extension.extension_uri"
  boundedRequired extension.extensionVersion 64 "extension.extension_version"
  forEach FlowExtensionStepRequest.validate extension.steps.zipIdx
  (packages.validateGraph extension.graphRequest).mapError
    (apiError "FLOW.INVALID_GRAPH" "extension")

/-! ## Extensions as JSON -/

open Lib.Json (structEntries nullable readList readMap)

/-- A number of thirty-two bits. -/
def readU32 (value : Value) : Option UInt32 :=
  value.asU64.bind fun n => if n < 2 ^ 32 then some (.ofNat n) else none

def FlowExtensionStepRequest.toValue (step : FlowExtensionStepRequest) : Value :=
  .object <| [("step_id", .string step.stepId), ("action", .string step.action)] ++
    (step.description.toList.map fun text => ("description", .string text)) ++
    [("config", .object step.config.entries)] ++
    step.timeoutSeconds.toList.map fun n => ("timeout_seconds", .ofNat n.toNat)

def FlowExtensionStepRequest.ofValue (value : Value) : Option FlowExtensionStepRequest := do
  let m ← structEntries ["step_id", "action", "description", "config", "timeout_seconds"] value
  let stepId ← m.field "step_id" Json.Value.asStr
  let action ← m.field "action" Json.Value.asStr
  let description ← m.fieldOr "description" (nullable Json.Value.asStr) none
  let config ← m.fieldOr "config" readMap .empty
  let timeoutSeconds ← m.fieldOr "timeout_seconds" (nullable readU32) none
  return ⟨stepId, action, description, config, timeoutSeconds⟩

def FlowExtensionTransitionRequest.toValue (transition : FlowExtensionTransitionRequest) :
    Value :=
  .object <| [("from_step_id", .string transition.fromStepId),
      ("to_step_id", .string transition.toStepId), ("outcome", transition.outcome.toValue)] ++
    transition.condition.toList.map fun condition => ("condition", .object condition.entries)

def FlowExtensionTransitionRequest.ofValue (value : Value) :
    Option FlowExtensionTransitionRequest := do
  let m ← structEntries ["from_step_id", "to_step_id", "outcome", "condition"] value
  let fromStepId ← m.field "from_step_id" Json.Value.asStr
  let toStepId ← m.field "to_step_id" Json.Value.asStr
  let outcome ← m.field "outcome" ExtensionOutcome.ofValue
  let condition ← m.fieldOr "condition" (nullable readMap) none
  return ⟨fromStepId, toStepId, outcome, condition⟩

def FlowExtensionRequest.toValue (extension : FlowExtensionRequest) : Value :=
  .object [("extension_uri", .string extension.extensionUri),
    ("extension_version", .string extension.extensionVersion),
    ("extends_flow_type", extension.extendsFlowType.toValue),
    ("entry_step_id", .string extension.entryStepId),
    ("steps", .array (extension.steps.map FlowExtensionStepRequest.toValue)),
    ("transitions", .array (extension.transitions.map FlowExtensionTransitionRequest.toValue)),
    ("config", .object extension.config.entries)]

def FlowExtensionRequest.ofValue (value : Value) : Option FlowExtensionRequest := do
  let m ← structEntries ["extension_uri", "extension_version", "extends_flow_type",
    "entry_step_id", "steps", "transitions", "config"] value
  let extensionUri ← m.field "extension_uri" Json.Value.asStr
  let extensionVersion ← m.field "extension_version" Json.Value.asStr
  let extendsFlowType ← m.field "extends_flow_type" FlowType.ofValue
  let entryStepId ← m.field "entry_step_id" Json.Value.asStr
  let steps ← m.field "steps" (readList FlowExtensionStepRequest.ofValue)
  let transitions ← m.fieldOr "transitions" (readList FlowExtensionTransitionRequest.ofValue) []
  let config ← m.fieldOr "config" readMap .empty
  return ⟨extensionUri, extensionVersion, extendsFlowType, entryStepId, steps, transitions,
    config⟩

theorem readU32_ofNat (n : UInt32) : readU32 (.ofNat n.toNat) = some n := by
  have hlt : n.toNat < 2 ^ 32 := n.toNat_lt
  rw [readU32, Json.Value.asU64_ofNat (hlt.trans (by decide)), Option.bind_some, if_pos hlt,
    UInt32.ofNat_toNat]

@[simp] theorem nullable_readU32 (n : UInt32) :
    nullable readU32 (.ofNat n.toNat) = some (some n) :=
  congrArg (Option.map some) (readU32_ofNat n)

theorem FlowExtensionStepRequest.ofValue_toValue (step : FlowExtensionStepRequest) :
    ofValue step.toValue = some step := by
  obtain ⟨stepId, action, description, config, timeoutSeconds⟩ := step
  cases description <;> cases timeoutSeconds <;>
    simp [ofValue, toValue, structEntries, Json.Map.field, Json.Map.fieldOr, Json.Map.get,
      Json.Value.asStr]

theorem FlowExtensionTransitionRequest.ofValue_toValue
    (transition : FlowExtensionTransitionRequest) :
    ofValue transition.toValue = some transition := by
  obtain ⟨fromStepId, toStepId, outcome, condition⟩ := transition
  cases condition <;>
    simp [ofValue, toValue, structEntries, Json.Map.field, Json.Map.fieldOr, Json.Map.get,
      Json.Value.asStr]

/-- **An extension reads back** as it was written. -/
theorem FlowExtensionRequest.ofValue_toValue (extension : FlowExtensionRequest) :
    ofValue extension.toValue = some extension := by
  have hsteps := Json.readList_array FlowExtensionStepRequest.ofValue_toValue extension.steps
  have htransitions :=
    Json.readList_array FlowExtensionTransitionRequest.ofValue_toValue extension.transitions
  simp [ofValue, toValue, structEntries, Json.Map.field, Json.Map.fieldOr, Json.Map.get,
    Json.Value.asStr, hsteps, htransitions]

end Marty.Flow
