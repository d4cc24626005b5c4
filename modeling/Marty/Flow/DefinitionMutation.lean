import Marty.Flow.DefinitionRequests

/-!
# Changing a definition

A change is merged into the request that would create the stored definition, and the
definition is built anew from the merged request: under the same name and with the next
version, as a draft.

## Main definitions

* `buildRecord` — the definition that a request describes.
* `requestFromRecord`, `applyPatch` — a stored definition as a request, and a change of it.
* `updateDefinitionRecord` — the changed definition.
* `definitionReferences` — what a definition refers to.
-/

namespace Marty.Flow

open Lib Lib.Checked

inductive FlowDefinitionMutationError
  | api (error : FlowApiError)
  | domain (error : FlowDomainError)
  | stored (field : String)
  | serialization (field : String)
  /-- An index that is not there. -/
  | panicked
  deriving DecidableEq, Repr

abbrev Mutated (α : Type) := Except FlowDefinitionMutationError α

variable (packages : Packages)

/-! ## Names and steps -/

/-- The words of an identifier, each with a capital letter; identifiers are ASCII. -/
def titleize (value : String) : String :=
  String.intercalate " " <| (value.toList.splitOn '_').filterMap fun part =>
    match part with
    | [] => none
    | c :: cs => some (String.ofList (c.toUpper :: cs))

/-- The last part of an action's name. -/
def extensionAction (value : String) : String :=
  String.ofList (value.toList.rtakeWhile fun c => c != ':' && c != '.')

def stepTypeOf (value : String) : String :=
  if value ∈ ["approval_decision", "accept_application"] then "approval"
  else if Text.startsWith value "validate" then "validation"
  else if Text.startsWith value "verify" then "verification"
  else if Text.startsWith value "issue" ∨ value ∈ ["create_offer", "deliver_credential"] then
    "issuance"
  else if value ∈ ["token_exchange", "presentation_submission", "authentication_submission",
      "session_establishment", "response_items"] then "callback"
  else if value ∈ ["wallet_selection", "device_engagement", "request_items", "authorization",
      "create_request"] then "user_input"
  else if value ∈ ["notify_holder", "revoke_old_credential", "update_status_list",
      "session_termination"] then "end"
  else "wait"

def standardStep (step : FlowStep) : Value :=
  .object [("id", .string step.id), ("name", .string (titleize step.protocolStep)),
    ("description", .string ("Protocol-defined step: " ++ step.protocolStep)),
    ("step_type", .string (stepTypeOf step.protocolStep)),
    ("config", .object [("protocol_step", .string step.protocolStep)]),
    ("timeout_seconds", .null)]

/-- A transition as it is stored; `id` is fresh. -/
def serializeTransition (id : String) (transition : FlowTransition) (expression : Value) :
    Value :=
  .object [("id", .string id), ("from_step_id", .string transition.fromStepId),
    ("to_step_id", .string transition.toStepId),
    ("condition", .string transition.outcome.asStr), ("condition_expression", expression)]

/-! ## Graphs -/

/-- A graph, with its steps and transitions as they are stored. -/
structure BuiltGraph where
  kernel : FlowDefinition
  steps : List Value
  transitions : List Value

/-- The references of a request by their names. -/
def referenceMap (request : CreateFlowDefinitionRequest) : TextMap String :=
  .ofEntries <|
    (["credential_template_id", "application_template_id", "presentation_policy_id",
        "delivery_destination_profile_id"].filterMap fun name =>
      (request.reference name).map fun value => (name, value)) ++
    (request.trustProfileId.toList.map fun value => ("trust_profile_id", value)) ++
    request.extension.toList.map fun extension =>
      ("extension", String.ofList (Json.Value.write (extension.toValue)))

def validateIdentity (organizationId name : String) : Except FlowDomainError Unit :=
  rejectIf (nonBlank organizationId = false ∨ nonBlank name = false)
    (.invalidDefinition "organization_id and name are required")

def validateReferences (flowType : FlowType) (references : TextMap String) :
    Except FlowDomainError Unit :=
  let missing := (BTreeSet.ofList (flowType.requiredReferences.filter fun name =>
    name == "extension" || !(references.get name).any nonBlank)).toList
  rejectIf (missing ≠ [])
    (.invalidDefinition ("missing required references: " ++ String.intercalate ", " missing))

def FlowDefinition.validateGraph (kernel : FlowDefinition) : Except FlowDomainError Unit :=
  (packages.validateGraph kernel.graphRequest).mapError .invalidDefinition

/-- The graph of a standard flow type: its steps in a row. -/
def builtIn (request : CreateFlowDefinitionRequest) (freshId : Nat → String) :
    Except FlowDomainError BuiltGraph := do
  validateIdentity request.organizationId request.name
  validateReferences request.flowType (referenceMap request)
  let steps := request.flowType.sequence.zipIdx.map fun step => ⟨freshId step.2, step.1⟩
  let transitions := steps.zip steps.tail |>.map fun pair => ⟨pair.1.id, pair.2.id, .success⟩
  let start ← okOr steps.head? (.invalidDefinition "flow has no steps")
  let kernel : FlowDefinition := ⟨steps, transitions, start.id⟩
  kernel.validateGraph packages
  return {
    kernel := kernel
    steps := steps.map standardStep
    transitions := transitions.zipIdx.map fun transition =>
      -- one fresh name more is taken by the definition itself, which does not keep it
      serializeTransition (freshId (steps.length + 1 + transition.2)) transition.1 .null }

def extensionStep (id : String) (step : FlowExtensionStepRequest) : Value :=
  let protocolStep := extensionAction step.action
  let config := Json.Map.insert step.config.entries "extension_step_id" (.string step.stepId)
  let config := config.insert "extension_action" (.string step.action)
  let config := config.insert "protocol_step" (.string protocolStep)
  .object [("id", .string id), ("name", .string (titleize step.stepId)),
    ("description", .ofOption .string step.description),
    ("step_type", .string (stepTypeOf protocolStep)), ("config", .object config),
    ("timeout_seconds", .ofOption (fun n => .ofNat n.toNat) step.timeoutSeconds)]

/-- The graph of a custom flow: that of its extension, under fresh names. -/
def customGraph (request : CreateFlowDefinitionRequest) (freshId : Nat → String) :
    Mutated BuiltGraph := do
  let extension ← okOr request.extension (.stored "extension")
  let ids : TextMap String := .ofEntries <|
    extension.steps.zipIdx.map fun step => (step.1.stepId, freshId step.2)
  let idOf := fun name => okOr (ids.get name) FlowDefinitionMutationError.panicked
  let steps ← mapEach (fun step : FlowExtensionStepRequest => do
    let id ← idOf step.stepId
    return (⟨id, extensionAction step.action⟩ : FlowStep)) extension.steps
  let transitions ← mapEach (fun transition : FlowExtensionTransitionRequest => do
    let source ← idOf transition.fromStepId
    let target ← idOf transition.toStepId
    return (⟨source, target, transition.outcome.toOutcome⟩ : FlowTransition)) extension.transitions
  let start ← idOf extension.entryStepId
  return {
    kernel := ⟨steps, transitions, start⟩
    steps := (steps.zip extension.steps).map fun step => extensionStep step.1.id step.2
    transitions := (transitions.zip extension.transitions).zipIdx.map fun transition =>
      serializeTransition (freshId (steps.length + transition.2)) transition.1.1
        (.ofOption (fun condition : TextMap Value =>
          .string (String.ofList (Json.Value.write (.object condition.entries))))
          transition.1.2.condition) }

def buildGraph (request : CreateFlowDefinitionRequest) (freshId : Nat → String) :
    Mutated BuiltGraph :=
  if request.flowType = .custom then customGraph request freshId
  else (builtIn packages request freshId).mapError .domain

/-! ## Records -/

/-- The values of a list, each at its first place. -/
def deduplicate (values : List String) : List String :=
  values.foldl (fun seen value => if value ∈ seen then seen else seen ++ [value]) []

/-- The definition that a request describes, as a draft. -/
def buildRecord (request : CreateFlowDefinitionRequest) (id : String) (version : Nat)
    (createdAt updatedAt : Utc) (freshId : Nat → String) : Mutated FlowDefinitionRecord := do
  let deploymentProfileIds := deduplicate request.deploymentProfileIds
  let graph ← buildGraph packages request freshId
  (graph.kernel.validateGraph packages).mapError .domain
  return {
    id := id
    organizationId := request.organizationId
    name := request.name
    description := request.description
    status := .draft
    flowType := request.flowType
    steps := graph.steps
    transitions := graph.transitions
    startStepId := some graph.kernel.startStepId
    credentialTemplateId := request.credentialTemplateId
    applicationTemplateId := request.applicationTemplateId
    presentationPolicyId := request.presentationPolicyId
    deliveryDestinationProfileId := request.deliveryDestinationProfileId
    deploymentProfileId := deploymentProfileIds.head?
    deploymentProfileIds := deploymentProfileIds
    trustProfileId := request.trustProfileId
    approvalStrategy := request.approvalStrategy
    hooks := request.hooks.mapValues (·.map FlowHookRequest.toValue)
    trigger := request.trigger.map FlowTriggerRequest.toValue
    extension := request.extension.map FlowExtensionRequest.toValue
    preconditions := []
    defaultTimeoutSeconds := 600
    maxRetries := 3
    retryCooldownMinutes := 5
    enableResume := true
    version := version
    createdAt := createdAt
    updatedAt := updatedAt }

/-- A part of a record that may be missing, read as a part of a request. -/
def readOptional {α : Type} (read : Value → Option α) (value : Option Value) (field : String) :
    Mutated (Option α) :=
  match value with
  | none => .ok none
  | some value => (okOr (read value) (.stored field)).map some

def readHooks (entry : String × List Value) : Mutated (String × List FlowHookRequest) := do
  let hooks ← mapEach (fun value => okOr (FlowHookRequest.ofValue value) (.stored "hooks")) entry.2
  return (entry.1, hooks)

/-- The request that would create a stored definition. -/
def requestFromRecord (record : FlowDefinitionRecord) : Mutated CreateFlowDefinitionRequest := do
  let hooks ← mapEach (readHooks) record.hooks.entries
  let trigger ← readOptional FlowTriggerRequest.ofValue record.trigger "trigger"
  let extension ← readOptional FlowExtensionRequest.ofValue record.extension "extension"
  return {
    organizationId := record.organizationId
    name := record.name
    description := record.description
    flowType := record.flowType
    approvalStrategy := record.approvalStrategy
    hooks := .ofEntries hooks
    trigger := trigger
    extension := extension
    credentialTemplateId := record.credentialTemplateId
    applicationTemplateId := record.applicationTemplateId
    presentationPolicyId := record.presentationPolicyId
    deliveryDestinationProfileId := record.deliveryDestinationProfileId
    deploymentProfileIds := record.deploymentProfileIds
    trustProfileId := record.trustProfileId }

def applyPatch (target : CreateFlowDefinitionRequest) (request : UpdateFlowDefinitionRequest) :
    CreateFlowDefinitionRequest :=
  { target with
    name := request.name.required target.name
    description := request.description.optional target.description
    flowType := request.flowType.required target.flowType
    approvalStrategy := request.approvalStrategy.required target.approvalStrategy
    hooks := request.hooks.required target.hooks
    trigger := request.trigger.optional target.trigger
    extension := request.extension.optional target.extension
    credentialTemplateId := request.credentialTemplateId.optional target.credentialTemplateId
    applicationTemplateId := request.applicationTemplateId.optional target.applicationTemplateId
    presentationPolicyId := request.presentationPolicyId.optional target.presentationPolicyId
    deliveryDestinationProfileId :=
      request.deliveryDestinationProfileId.optional target.deliveryDestinationProfileId
    deploymentProfileIds := request.deploymentProfileIds.required target.deploymentProfileIds
    trustProfileId := request.trustProfileId.optional target.trustProfileId }

def createDefinitionRecord (request : CreateFlowDefinitionRequest) (now : Utc) (id : String)
    (freshId : Nat → String) : Mutated FlowDefinitionRecord := do
  (request.validate packages).mapError .api
  buildRecord packages request id 1 now now freshId

/-- The largest number of thirty-two bits. -/
def maxU32 : Nat := 2 ^ 32 - 1

def updateDefinitionRecord (existing : FlowDefinitionRecord)
    (request : UpdateFlowDefinitionRequest) (now : Utc) (freshId : Nat → String) :
    Mutated FlowDefinitionRecord := do
  (request.validate packages).mapError .api
  rejectIf (request.organizationId ≠ existing.organizationId)
    (.api (invalidRequest "organization_id" "cannot be changed for an existing flow definition"))
  let current ← requestFromRecord existing
  let merged := applyPatch current request
  (merged.validate packages).mapError .api
  -- the version saturates
  buildRecord packages merged existing.id (min (existing.version + 1) maxU32)
    existing.createdAt now freshId

/-! ## Reading back -/

section

variable {packages}

/-- A request as a stored definition keeps it: each deployment profile once. -/
def CreateFlowDefinitionRequest.stored (request : CreateFlowDefinitionRequest) :
    CreateFlowDefinitionRequest :=
  { request with deploymentProfileIds := deduplicate request.deploymentProfileIds }

theorem mapEach_written {α β : Type} {f : β → Mutated α} {g : α → β}
    (h : ∀ a, f (g a) = .ok a) (l : List α) : mapEach f (l.map g) = .ok l := by
  rw [mapEach_map (k := fun a => a) fun a _ => h a, List.map_id']

theorem readHooks_written (entry : String × List FlowHookRequest) :
    readHooks (entry.1, entry.2.map FlowHookRequest.toValue) = .ok entry := by
  have hread := mapEach_written (f := fun value => okOr (FlowHookRequest.ofValue value)
    (FlowDefinitionMutationError.stored "hooks")) (fun hook => by rw [FlowHookRequest.ofValue_toValue]; rfl) entry.2
  rw [readHooks, hread]
  rfl

/-- **A built record reads back** as the request that it was built from. -/
theorem requestFromRecord_buildRecord {request : CreateFlowDefinitionRequest} {id : String} {version : Nat}
    {createdAt updatedAt : Utc} {freshId : Nat → String} {record : FlowDefinitionRecord}
    (h : buildRecord packages request id version createdAt updatedAt freshId
      = .ok record) :
    requestFromRecord record = .ok request.stored := by
  simp only [buildRecord, bind_eq_ok, exists_unit, pure, Except.pure, Except.ok.injEq] at h
  obtain ⟨graph, -, -, rfl⟩ := h
  have hhooks : mapEach (readHooks)
      (request.hooks.mapValues (·.map FlowHookRequest.toValue)).entries = .ok request.hooks.entries :=
    mapEach_written readHooks_written request.hooks.entries
  have htrigger : readOptional FlowTriggerRequest.ofValue (request.trigger.map FlowTriggerRequest.toValue)
      "trigger" = .ok request.trigger := by
    cases request.trigger with
    | none => rfl
    | some trigger => rw [Option.map_some, readOptional, FlowTriggerRequest.ofValue_toValue]; rfl
  have hextension : readOptional FlowExtensionRequest.ofValue
      (request.extension.map FlowExtensionRequest.toValue) "extension" = .ok request.extension := by
    cases request.extension with
    | none => rfl
    | some extension => rw [Option.map_some, readOptional, FlowExtensionRequest.ofValue_toValue]; rfl
  have hentries : BTreeMap.ofEntries request.hooks.entries = request.hooks :=
    BTreeMap.ext_entries (BTreeMap.entries_ofEntries request.hooks.sorted)
  simp only [requestFromRecord, bind_eq_ok]
  exact ⟨_, hhooks, _, htrigger, _, hextension, by rw [hentries]; rfl⟩

/-- **A successful update** is built from the stored request and the change. -/
theorem update_eq_ok {existing record : FlowDefinitionRecord}
    {request : UpdateFlowDefinitionRequest} {now : Utc} {freshId : Nat → String}
    (h : updateDefinitionRecord packages existing request now freshId = .ok record) :
    ∃ current, requestFromRecord existing = .ok current ∧
      buildRecord packages (applyPatch current request) existing.id
        (min (existing.version + 1) maxU32) existing.createdAt now freshId = .ok record := by
  simp only [updateDefinitionRecord, bind_eq_ok, exists_unit] at h
  obtain ⟨-, -, current, hcurrent, -, hbuilt⟩ := h
  exact ⟨current, hcurrent, hbuilt⟩

theorem buildRecord_eq_ok {request : CreateFlowDefinitionRequest} {id : String} {version : Nat}
    {createdAt updatedAt : Utc} {freshId : Nat → String} {record : FlowDefinitionRecord}
    (h : buildRecord packages request id version createdAt updatedAt freshId
      = .ok record) :
    record.id = id ∧ record.status = .draft ∧ record.version = version := by
  simp only [buildRecord, bind_eq_ok, exists_unit, pure, Except.pure, Except.ok.injEq] at h
  obtain ⟨graph, -, -, rfl⟩ := h
  exact ⟨rfl, rfl, rfl⟩

end

/-! ## References -/

structure FlowDefinitionReferenceSet where
  credentialTemplateId : Option String
  physicalDocumentIssuance : Bool
  applicationTemplateId : Option String
  presentationPolicyId : Option String
  deliveryDestinationProfileId : Option String
  deploymentProfileIds : List String
  trustProfileId : Option String

end Marty.Flow
