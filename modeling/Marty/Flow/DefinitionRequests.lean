import Marty.Flow.Requests

/-!
# Requests for a definition

What an administrator may send to create a flow definition or to change one.  A change
leaves out the fields that stay, and may set some of the others to null.

## Main definitions

* `CreateFlowDefinitionRequest.validate` — the admitted definitions.
* `Patch`, `UpdateFlowDefinitionRequest.validate` — the admitted changes.
-/

namespace Marty.Flow

open Lib Lib.Checked

variable (packages : Packages)

/-! ## Hooks and triggers -/

inductive HookType
  | webhook | externalApi | script
  deriving DecidableEq, Repr

namespace HookType

def asStr : HookType → String
  | webhook => "WEBHOOK"
  | externalApi => "EXTERNAL_API"
  | script => "SCRIPT"

def all : List HookType := [webhook, externalApi, script]

def ofValue (value : Value) : Option HookType :=
  value.unitVariant.bind fun name => all.find? (·.asStr == name)

def toValue (hookType : HookType) : Value := .string hookType.asStr

@[simp] theorem ofValue_toValue (hookType : HookType) :
    ofValue hookType.toValue = some hookType := by
  cases hookType <;> rfl

end HookType

structure FlowHookRequest where
  hookType : HookType
  url : Option String
  config : TextMap Value

inductive TriggerType
  | apiCall | webhook | schedule | applicationSubmitted
  deriving DecidableEq, Repr

namespace TriggerType

def asStr : TriggerType → String
  | apiCall => "API_CALL"
  | webhook => "WEBHOOK"
  | schedule => "SCHEDULE"
  | applicationSubmitted => "APPLICATION_SUBMITTED"

def all : List TriggerType := [apiCall, webhook, schedule, applicationSubmitted]

def ofValue (value : Value) : Option TriggerType :=
  value.unitVariant.bind fun name => all.find? (·.asStr == name)

def toValue (triggerType : TriggerType) : Value := .string triggerType.asStr

@[simp] theorem ofValue_toValue (triggerType : TriggerType) :
    ofValue triggerType.toValue = some triggerType := by
  cases triggerType <;> rfl

end TriggerType

structure FlowTriggerRequest where
  triggerType : TriggerType
  config : TextMap Value

open Lib.Json (structEntries nullable readMap)

def FlowHookRequest.toValue (hook : FlowHookRequest) : Value :=
  .object <| [("hook_type", hook.hookType.toValue)] ++
    (hook.url.toList.map fun url => ("url", .string url)) ++
    [("config", .object hook.config.entries)]

def FlowHookRequest.ofValue (value : Value) : Option FlowHookRequest := do
  let m ← structEntries ["hook_type", "url", "config"] value
  let hookType ← m.field "hook_type" HookType.ofValue
  let url ← m.fieldOr "url" (nullable Json.Value.asStr) none
  let config ← m.fieldOr "config" readMap .empty
  return ⟨hookType, url, config⟩

theorem FlowHookRequest.ofValue_toValue (hook : FlowHookRequest) :
    ofValue hook.toValue = some hook := by
  obtain ⟨hookType, url, config⟩ := hook
  cases url <;>
    simp [ofValue, toValue, structEntries, Json.Map.field, Json.Map.fieldOr, Json.Map.get,
      Json.Value.asStr]

def FlowTriggerRequest.toValue (trigger : FlowTriggerRequest) : Value :=
  .object [("trigger_type", trigger.triggerType.toValue),
    ("config", .object trigger.config.entries)]

def FlowTriggerRequest.ofValue (value : Value) : Option FlowTriggerRequest := do
  let m ← structEntries ["trigger_type", "config"] value
  let triggerType ← m.field "trigger_type" TriggerType.ofValue
  let config ← m.fieldOr "config" readMap .empty
  return ⟨triggerType, config⟩

theorem FlowTriggerRequest.ofValue_toValue (trigger : FlowTriggerRequest) :
    ofValue trigger.toValue = some trigger := by
  simp [ofValue, toValue, structEntries, Json.Map.field, Json.Map.fieldOr, Json.Map.get]

def FlowHookRequest.validate (hook : FlowHookRequest) (field : String) :
    Except FlowApiError Unit := do
  optionalMax hook.url 2048 (field ++ ".url")
  rejectIf (hook.hookType ≠ .script ∧ hook.url = none)
    (invalidRequest (field ++ ".url") "is required for remote hooks")
  match hook.url with
  | none => .ok ()
  | some url => absoluteUri packages url (field ++ ".url")

def isAsciiAlphabetic (c : Char) : Bool :=
  isAsciiLowercase c || (65 ≤ c.toNat && c.toNat ≤ 90)

/-- A step name: a letter followed by letters, digits and underscores. -/
def isStepName (step : String) : Bool :=
  match step.toList with
  | [] => false
  | c :: cs =>
      isAsciiAlphabetic c &&
        (c :: cs).all fun c => isAsciiAlphabetic c || isAsciiDigit c || c == '_'

/-- The steps of a flow type that hooks may be attached to. -/
def extensibleSteps : FlowType → List String
  | .mdlIssuance | .applicationApprovalIssuance => ["approval_decision", "deliver_credential"]
  | .physicalDocumentIssuance =>
      ["approval_decision", "submit_to_personalization", "quality_verify"]
  | _ => []

def validateHook (flowType : FlowType) (entry : String × List FlowHookRequest) :
    Except FlowApiError Unit := do
  let field := "hooks." ++ entry.1
  let step ← okOr ((Text.stripPrefix entry.1 "pre_").or (Text.stripPrefix entry.1 "post_"))
    (invalidRequest field "must use pre_\x7bstep_name\x7d or post_\x7bstep_name\x7d")
  rejectIf (isStepName step = false) (invalidRequest field "has an invalid step name")
  rejectIf (flowType ≠ .custom ∧ step ∉ extensibleSteps flowType)
    (invalidRequest field "does not target an extensible step")
  forEach (fun hook : FlowHookRequest × Nat => hook.1.validate packages (indexed field hook.2 ""))
    entry.2.zipIdx

def validateHooks (hooks : TextMap (List FlowHookRequest)) (flowType : FlowType) :
    Except FlowApiError Unit :=
  forEach (validateHook packages flowType) hooks.entries

/-! ## Creating -/

structure CreateFlowDefinitionRequest where
  organizationId : String
  name : String
  description : Option String
  flowType : FlowType
  approvalStrategy : ApprovalStrategy
  hooks : TextMap (List FlowHookRequest)
  trigger : Option FlowTriggerRequest
  extension : Option FlowExtensionRequest
  credentialTemplateId : Option String
  applicationTemplateId : Option String
  presentationPolicyId : Option String
  deliveryDestinationProfileId : Option String
  deploymentProfileIds : List String
  trustProfileId : Option String

namespace FlowType

def requiredReferences : FlowType → List String
  | oid4vciPreAuthorized | oid4vciAuthorizationCode | mdlIssuance | credentialRenewal
  | credentialRevocation => ["credential_template_id"]
  | oid4vpPresentation | mdlPresentation | siopv2 => ["presentation_policy_id"]
  | applicationApprovalIssuance => ["application_template_id"]
  | physicalDocumentIssuance =>
      ["credential_template_id", "application_template_id", "delivery_destination_profile_id"]
  | combined => ["credential_template_id", "presentation_policy_id"]
  | custom => ["extension"]

/-- The protocol steps of a flow type in their order. -/
def sequence : FlowType → List String
  | oid4vciPreAuthorized =>
      ["create_offer", "token_exchange", "credential_request", "issue_credential"]
  | oid4vciAuthorizationCode =>
      ["create_offer", "authorization", "token_exchange", "credential_request",
        "issue_credential"]
  | mdlIssuance =>
      ["application_submit", "validate_evidence", "approval_decision", "issue_mdl",
        "deliver_credential"]
  | oid4vpPresentation =>
      ["create_request", "wallet_selection", "presentation_submission", "verify_presentation"]
  | mdlPresentation =>
      ["device_engagement", "session_establishment", "request_items", "response_items",
        "session_termination"]
  | siopv2 => ["create_request", "authentication_submission", "verify_id_token"]
  | applicationApprovalIssuance =>
      ["accept_application", "validate_evidence", "approval_decision", "issue_credential",
        "deliver_credential"]
  | credentialRenewal =>
      ["validate_existing", "create_offer", "token_exchange", "credential_request",
        "issue_renewed_credential", "revoke_old_credential"]
  | credentialRevocation =>
      ["validate_revocation_request", "update_status_list", "notify_holder"]
  | physicalDocumentIssuance =>
      ["accept_application", "validate_evidence", "approval_decision", "generate_data_groups",
        "sign_sod", "submit_to_personalization", "track_production", "quality_verify",
        "activate_credential"]
  | combined =>
      ["accept_application", "approval_decision", "issue_credential", "create_request",
        "presentation_submission", "verify_presentation"]
  | custom => []

end FlowType

/-- The reference of a request that a flow type requires by name. -/
def CreateFlowDefinitionRequest.reference (request : CreateFlowDefinitionRequest) :
    String → Option String
  | "credential_template_id" => request.credentialTemplateId
  | "application_template_id" => request.applicationTemplateId
  | "presentation_policy_id" => request.presentationPolicyId
  | "delivery_destination_profile_id" => request.deliveryDestinationProfileId
  | "extension" => request.extension.map fun _ => "extension"
  | _ => none

def validateFlowReferences (request : CreateFlowDefinitionRequest) :
    Except FlowApiError Unit := do
  rejectIf (request.credentialTemplateId.isSome ∧ request.applicationTemplateId.isSome ∧
      request.flowType ≠ .physicalDocumentIssuance)
    (invalidRequest "body"
      "credential_template_id and application_template_id are mutually exclusive")
  forEach (fun required => rejectIf ((request.reference required).all String.isEmpty)
      (invalidRequest required ("is required for " ++ request.flowType.asStr)))
    request.flowType.requiredReferences
  rejectIf (request.flowType = .applicationApprovalIssuance ∧
      request.credentialTemplateId.isSome)
    (invalidRequest "credential_template_id"
      "must not be set for application_approval_issuance")

/-- A custom definition has an extension, and no other has. -/
def validateExtension (flowType : FlowType) (extension : Option FlowExtensionRequest) :
    Except FlowApiError Unit :=
  match decide (flowType = .custom), extension with
  | true, some extension => extension.validate packages
  | true, none => .error (invalidRequest "extension" "is required for custom flow_type")
  | false, some _ => .error (invalidRequest "extension" "is only permitted for custom flow_type")
  | false, none => .ok ()

def validateProfiles (profiles : List String) : Except FlowApiError Unit :=
  forEach (fun profile : String × Nat =>
    boundedRequired profile.1 255 (indexed "deployment_profile_ids" profile.2 ""))
    profiles.zipIdx

def CreateFlowDefinitionRequest.validate (request : CreateFlowDefinitionRequest) :
    Except FlowApiError Unit := do
  boundedRequired request.organizationId 255 "organization_id"
  boundedRequired request.name 255 "name"
  optionalMax request.description 2000 "description"
  optionalMax request.credentialTemplateId 255 "credential_template_id"
  optionalMax request.applicationTemplateId 255 "application_template_id"
  optionalMax request.presentationPolicyId 255 "presentation_policy_id"
  optionalMax request.deliveryDestinationProfileId 128 "delivery_destination_profile_id"
  optionalMax request.trustProfileId 255 "trust_profile_id"
  validateProfiles request.deploymentProfileIds
  validateHooks packages request.hooks request.flowType
  validateFlowReferences request
  validateExtension packages request.flowType request.extension

/-! ## Changing -/

/-- A field of a change: left out, null, or a value. -/
inductive Patch (α : Type)
  | unset
  | null
  | value (value : α)

namespace Patch

variable {α : Type}

def isUnset : Patch α → Bool
  | unset => true
  | _ => false

def isNull : Patch α → Bool
  | null => true
  | _ => false

def value? : Patch α → Option α
  | value a => some a
  | _ => none

/-- The field that a change of a required field leaves. -/
def required (target : α) : Patch α → α
  | value a => a
  | _ => target

/-- The field that a change of an optional field leaves. -/
def optional (target : Option α) : Patch α → Option α
  | unset => target
  | null => none
  | value a => some a

end Patch

structure UpdateFlowDefinitionRequest where
  organizationId : String
  name : Patch String
  description : Patch String
  flowType : Patch FlowType
  approvalStrategy : Patch ApprovalStrategy
  hooks : Patch (TextMap (List FlowHookRequest))
  trigger : Patch FlowTriggerRequest
  extension : Patch FlowExtensionRequest
  credentialTemplateId : Patch String
  applicationTemplateId : Patch String
  presentationPolicyId : Patch String
  deliveryDestinationProfileId : Patch String
  deploymentProfileIds : Patch (List String)
  trustProfileId : Patch String

/-- A change that leaves every field as it is. -/
def UpdateFlowDefinitionRequest.isEmpty (request : UpdateFlowDefinitionRequest) : Bool :=
  [request.name.isUnset, request.description.isUnset, request.flowType.isUnset,
    request.approvalStrategy.isUnset, request.hooks.isUnset, request.trigger.isUnset,
    request.extension.isUnset, request.credentialTemplateId.isUnset,
    request.applicationTemplateId.isUnset, request.presentationPolicyId.isUnset,
    request.deliveryDestinationProfileId.isUnset, request.deploymentProfileIds.isUnset,
    request.trustProfileId.isUnset].all id

/-- Check the value that a field is given, if it is given one. -/
def checkValue {α : Type} (check : α → Except FlowApiError Unit) (field : Patch α) :
    Except FlowApiError Unit :=
  match field.value? with
  | none => .ok ()
  | some value => check value

def UpdateFlowDefinitionRequest.validate (request : UpdateFlowDefinitionRequest) :
    Except FlowApiError Unit := do
  boundedRequired request.organizationId 255 "organization_id"
  rejectIf request.isEmpty (invalidRequest "body" "at least one mutable Flow field is required")
  checkValue (boundedRequired · 255 "name") request.name
  rejectIf request.name.isNull (invalidRequest "name" "cannot be null")
  checkValue (maxLength · 2000 "description") request.description
  forEach (fun entry : String × Bool => rejectIf entry.2 (invalidRequest entry.1 "cannot be null"))
    [("flow_type", request.flowType.isNull), ("approval_strategy", request.approvalStrategy.isNull),
      ("hooks", request.hooks.isNull),
      ("deployment_profile_ids", request.deploymentProfileIds.isNull)]
  checkValue (validateHooks packages · (request.flowType.value?.getD .custom)) request.hooks
  checkValue (FlowExtensionRequest.validate packages) request.extension
  forEach (fun entry : String × Patch String × Nat =>
      checkValue (maxLength · entry.2.2 entry.1) entry.2.1)
    [("credential_template_id", request.credentialTemplateId, 255),
      ("application_template_id", request.applicationTemplateId, 255),
      ("presentation_policy_id", request.presentationPolicyId, 255),
      ("delivery_destination_profile_id", request.deliveryDestinationProfileId, 128),
      ("trust_profile_id", request.trustProfileId, 255)]
  checkValue validateProfiles request.deploymentProfileIds

end Marty.Flow
