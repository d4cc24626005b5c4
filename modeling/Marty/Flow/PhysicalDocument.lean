import Marty.Flow.Runs

/-!
# Physical documents

The native provider of physical documents answers with the job of an instance.  The first
answer is recorded when the instance is started; a later step refreshes it.  The answers
also say by which route they were obtained, and the instance keeps the trace of the routes.

## Main definitions

* `initializePhysicalDocument` — the provider's first answer, recorded.
* `applyPhysicalAdvanceSideEffect` — the provider's answer to a later step, taken over.
* `preserveSignedPhysicalMaterial` — a refreshed job, checked against the one before it.
-/

namespace Marty.Flow

open Lib Lib.Checked

/-! ## Providers -/

inductive FlowInstanceSideEffectError
  | provider (error : FlowProviderError)
  | invalidContext (reason : String)
  | invalidResponse (reason : String)
  | protocol (reason : String)
  | invalidClock
  deriving DecidableEq, Repr

abbrev SideEffect (α : Type) := Except FlowInstanceSideEffectError α

inductive PhysicalDocumentOperation
  | initializeDocument | generateDataGroups | signSod | submitToPersonalization | trackProduction
  | qualityVerify | activateCredential
  deriving DecidableEq, Repr

structure PhysicalDocumentRequest where
  organizationId : String
  flowInstanceId : String
  operation : PhysicalDocumentOperation
  startIdempotencyKey : Option String
  data : TextMap Value

structure PhysicalDocumentRoute where
  method : String
  path : String

structure PhysicalDocumentResult where
  operation : PhysicalDocumentOperation
  status : String
  data : TextMap Value
  route : Option PhysicalDocumentRoute

structure CredentialTemplateReference where
  id : String
  organizationId : String
  status : String
  credentialType : String
  issuerDid : String
  credentialFormat : String
  issuanceProtocol : String

/-- The providers that a deployment has; they may answer anything. -/
structure FlowProviderRegistry where
  credentialTemplate : Option (String → Except FlowProviderError CredentialTemplateReference)
  physicalDocument :
    Option (PhysicalDocumentRequest → Except FlowProviderError PhysicalDocumentResult)

/-- The provider of a kind, when the deployment has it. -/
def requireProvider {α : Type} (provider : Option α) (name : String) : SideEffect α :=
  okOr provider (.provider (.unavailable name))

/-! ## The template -/

def validateTemplate (template : CredentialTemplateReference) (expectedId organizationId : String) :
    SideEffect Unit :=
  rejectIf (template.id ≠ expectedId ∨ template.organizationId ≠ organizationId ∨
      Text.eqIgnoreAsciiCase template.status "active" = false ∨
      Text.startsWith template.issuerDid "did:" = false ∨
      nonBlank template.credentialType = false)
    (.invalidResponse "credential template binding")

def canonicalTemplateSigningFormat (value : String) : String :=
  let trimmed := Text.trim value
  let name := Text.toAsciiLowercase trimmed
  if name ∈ ["sd_jwt_vc", "ietf_sd_jwt", "w3c_vcdm_v2_sd_jwt", "vc+sd-jwt"] then "dc+sd-jwt"
  else if name ∈ ["jwt_vc", "vc_jwt", "w3c_vcdm_v2_jwt_vc"] then "jwt_vc_json"
  else if name ∈ ["json_ld", "json-ld"] then "ldp_vc"
  else if name = "mdoc" then "mso_mdoc"
  else if name = "icao_emrtd" then "ICAO_EMRTD"
  else trimmed

def validatePhysicalDocumentTemplate (template : CredentialTemplateReference) :
    Except FlowProviderError Unit :=
  rejectIf (canonicalTemplateSigningFormat template.credentialFormat ≠ "ICAO_EMRTD" ∨
      Text.eqIgnoreAsciiCase template.issuanceProtocol "PHYSICAL_DOCUMENT" = false)
    (.rejected "reference_validation"
      "physical document template must bind ICAO_EMRTD and PHYSICAL_DOCUMENT")

/-! ## Answers -/

def jobKey : String := "physical_document_job"

def routeTraceKey : String := "physical_document_route_trace"

def PhysicalDocumentRoute.toValue (route : PhysicalDocumentRoute) : Value :=
  .object [("method", .string route.method), ("path", .string route.path)]

def PhysicalDocumentResult.job (result : PhysicalDocumentResult) : Value :=
  .object result.data.entries

/-- An answer to the operation that was asked for; `expected` is the instance it must name. -/
def validatePhysicalResult (operation : PhysicalDocumentOperation)
    (result : PhysicalDocumentResult) (expected : Option String) : SideEffect String := do
  rejectIf (result.operation ≠ operation ∨ nonBlank result.status = false)
    (.invalidResponse "physical document operation binding")
  let applicationId ← okOr
    (((result.data.get "application_id").bind Json.Value.asStr).filter nonBlank)
    (.invalidResponse "physical document application_id")
  rejectIf (∃ id ∈ expected,
      (result.data.get "flow_execution_id").bind Json.Value.asStr ≠ some id)
    (.invalidResponse "physical document flow_execution_id")
  return applicationId

/-- The first answer starts the trace, whatever the client had put there. -/
def startRouteTrace (context : Json.Map) (route : Option PhysicalDocumentRoute) : Json.Map :=
  match route with
  | none => context.remove routeTraceKey
  | some route => (context.remove routeTraceKey).insert routeTraceKey (.array [route.toValue])

/-- A later answer continues the trace. -/
def recordPhysicalRoute (context : Json.Map) (route : Option PhysicalDocumentRoute) :
    SideEffect Json.Map :=
  match context.get routeTraceKey, route with
  | none, none => .ok context
  | some (.array trace), some route =>
      .ok (context.insert routeTraceKey (.array (trace ++ [route.toValue])))
  | _, _ => .error (.invalidResponse "physical document route trace")

/-- The entries that name the job, its owner and its issuer. -/
def identityFields : List String :=
  ["id", "organization_id", "application_id", "flow_execution_id", "issuer_did"]

/-- The entries that describe the signed material. -/
def signedFields : List String := ["sod_sha256", "sod_signature_verified"]

/-- An entry that is there and not null. -/
def recorded (job : Json.Map) (field : String) : Option Value :=
  (job.get field).filter fun value => !value.isNull

/-- The refreshed job keeps an entry of the job before it, or has none and takes it over. -/
def keepSigned (old : Json.Map) (new : Json.Map) (field : String) : SideEffect Json.Map :=
  match recorded old field with
  | none => .ok new
  | some value =>
      match recorded new field with
      | none => .ok (new.insert field value)
      | some incoming =>
          if incoming == value then .ok new
          else .error (.invalidResponse "signed physical document material changed")

def preserveSignedPhysicalMaterial (previous refreshed : Value) : SideEffect Value := do
  let old ← okOr previous.asObject (.invalidContext "physical document job")
  let new ← okOr refreshed.asObject (.invalidResponse "physical document job")
  rejectIf (∃ field ∈ identityFields, ∃ value ∈ recorded old field,
      (new.get field).any (· == value) = false)
    (.invalidResponse "physical document identity changed")
  let new ← signedFields.foldlM (keepSigned old) new
  return .object new

/-! ## Starting -/

def emptyJsonValue : Value → Bool
  | .null => true
  | .string value => value.isEmpty
  | .array values => values.isEmpty
  | .object entries => entries.isEmpty
  | _ => false

def requiredReference (value : Option String) : SideEffect String :=
  okOr (value.filter nonBlank)
    (.invalidContext "physical document definition references are required")

def contextOf (record : FlowInstanceRecord) : SideEffect Json.Map :=
  okOr record.context.asObject (.invalidContext "instance context must be an object")

/-- The issuer of a document: the one that was fixed before, or that of the template. -/
def physicalIssuerDid (providers : FlowProviderRegistry) (templateId organizationId : String)
    (issuerDid : Option String) : SideEffect String :=
  match issuerDid with
  | some issuerDid => .ok issuerDid
  | none => do
      let provider ← requireProvider providers.credentialTemplate "credential_template"
      let template ← (provider templateId).mapError .provider
      validateTemplate template templateId organizationId
      (validatePhysicalDocumentTemplate template).mapError .provider
      return template.issuerDid

/-- What the provider is asked for when an instance is started. -/
def initialRequest (providers : FlowProviderRegistry) (definition : FlowDefinitionRecord)
    (record : FlowInstanceRecord) (startIdempotencyKey issuerDid : Option String) :
    SideEffect PhysicalDocumentRequest := do
  let context ← contextOf record
  let physical ← okOr ((context.get "physical_document").bind Json.Value.asObject)
    (.invalidContext "initial_context.physical_document is required")
  rejectIf (∃ field ∈ ["country_code", "applicant", "mrz", "data_groups"],
      ((physical.get field).map emptyJsonValue).getD true = true)
    (.invalidContext "physical_document is missing required fields")
  let templateId ← requiredReference definition.credentialTemplateId
  let issuerDid ← physicalIssuerDid providers templateId record.organizationId issuerDid
  let applicationTemplateId ← requiredReference definition.applicationTemplateId
  let destinationId ← requiredReference definition.deliveryDestinationProfileId
  let entry := fun field => (field, (physical.get field).getD .null)
  return {
    organizationId := record.organizationId
    flowInstanceId := record.id
    operation := .initializeDocument
    startIdempotencyKey := startIdempotencyKey
    data := .ofEntries [("application_template_id", .string applicationTemplateId),
      ("credential_template_id", .string templateId), ("issuer_did", .string issuerDid),
      ("delivery_destination_profile_id", .string destinationId),
      ("document_type", (physical.get "document_type").getD (.string "TD3")),
      entry "country_code", entry "applicant", entry "mrz", entry "data_groups"] }

/-- The instance with the provider's first answer. -/
def takeInitialAnswer (record : FlowInstanceRecord) (result : PhysicalDocumentResult) :
    SideEffect FlowInstanceRecord := do
  let applicationId ← validatePhysicalResult .initializeDocument result (some record.id)
  let context ← contextOf record
  let context := startRouteTrace (context.remove "physical_document") result.route
  let context := context.insert jobKey result.job
  let context := context.insert "application_id" (.string applicationId)
  return { record with context := .object context }

def initialAnswer (providers : FlowProviderRegistry) (definition : FlowDefinitionRecord)
    (record : FlowInstanceRecord) (startIdempotencyKey issuerDid : Option String) :
    SideEffect PhysicalDocumentResult := do
  let request ← initialRequest providers definition record startIdempotencyKey issuerDid
  let provider ← requireProvider providers.physicalDocument "physical_document"
  (provider request).mapError .provider

def initializePhysicalDocument (providers : FlowProviderRegistry)
    (definition : FlowDefinitionRecord) (record : FlowInstanceRecord)
    (startIdempotencyKey issuerDid : Option String) : SideEffect FlowInstanceRecord := do
  let result ← initialAnswer providers definition record startIdempotencyKey issuerDid
  takeInitialAnswer record result

/-! ## Advancing -/

def definitionProtocolStep (definition : FlowDefinitionRecord) (stepId : String) :
    Option String :=
  (definition.findStep stepId).bind fun step => protocolStepOf step.1

def physicalOperationForStep : String → Option PhysicalDocumentOperation
  | "generate_data_groups" => some .generateDataGroups
  | "sign_sod" => some .signSod
  | "submit_to_personalization" => some .submitToPersonalization
  | "track_production" => some .trackProduction
  | "quality_verify" => some .qualityVerify
  | "activate_credential" => some .activateCredential
  | _ => none

/-- What the client says of the quality of a document. -/
def qualityEntries (operation : PhysicalDocumentOperation) (data : Value) :
    List (String × Value) :=
  if operation = .qualityVerify then
    [("passed", .bool (((data.get "passed").bind Json.Value.asBool).getD false)),
      ("failure_codes", (data.get "failure_codes").getD (.array []))]
  else []

/-- The operation of the current step, if the provider has one for it. -/
def physicalOperation (definition : FlowDefinitionRecord) (record : FlowInstanceRecord)
    (outcome : TransitionOutcome) : SideEffect (Option PhysicalDocumentOperation) :=
  if effectiveFlowType definition ≠ .physicalDocumentIssuance ∨ outcome ≠ .success then .ok none
  else do
    let stepId ← okOr record.currentStepId (.invalidContext "current_step_id is required")
    return (definitionProtocolStep definition stepId).bind physicalOperationForStep

/-- The provider's answer to an operation on an instance. -/
def operationAnswer (providers : FlowProviderRegistry) (record : FlowInstanceRecord)
    (operation : PhysicalDocumentOperation) (data : Value) :
    SideEffect PhysicalDocumentResult := do
  let context ← contextOf record
  let applicationId ← okOr
    (((((context.get jobKey).bind Json.Value.asObject).bind
      (Json.Map.get · "application_id")).bind Json.Value.asStr).filter nonBlank)
    (.invalidContext "physical document job is not initialized")
  let provider ← requireProvider providers.physicalDocument "physical_document"
  let result ← (provider {
    organizationId := record.organizationId
    flowInstanceId := record.id
    operation := operation
    startIdempotencyKey := none
    data := .ofEntries
      (("application_id", .string applicationId) :: qualityEntries operation data) }).mapError
        .provider
  let _ ← validatePhysicalResult operation result none
  return result

/-- The provider's answer to an advance, if the current step needs one. -/
def advanceAnswer (providers : FlowProviderRegistry) (definition : FlowDefinitionRecord)
    (record : FlowInstanceRecord) (outcome : TransitionOutcome) (data : Value) :
    SideEffect (Option PhysicalDocumentResult) := do
  match ← physicalOperation definition record outcome with
  | none => return none
  | some operation =>
      let result ← operationAnswer providers record operation data
      return some result

/-- The instance with a later answer of the provider. -/
def takeAnswer (record : FlowInstanceRecord) :
    Option PhysicalDocumentResult → SideEffect FlowInstanceRecord
  | none => .ok record
  | some result => do
      let context ← contextOf record
      let context ← recordPhysicalRoute context result.route
      let previous ← okOr (context.get jobKey)
        (.invalidContext "physical document job is not initialized")
      let refreshed ← preserveSignedPhysicalMaterial previous result.job
      return { record with context := .object (context.insert jobKey refreshed) }

def applyPhysicalAdvanceSideEffect (providers : FlowProviderRegistry)
    (definition : FlowDefinitionRecord) (record : FlowInstanceRecord)
    (outcome : TransitionOutcome) (data : Value) : SideEffect FlowInstanceRecord := do
  let answer ← advanceAnswer providers definition record outcome data
  takeAnswer record answer

end Marty.Flow
