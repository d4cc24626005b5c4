import Marty.Flow.Runs

/-!
# Showing an instance

A response shows the public part of an instance.  The projection reads some entries of the
context by their type, and calls a record whose entries have another type invalid stored
state; client data is merged into the same context.

## Main definitions

* `validateInstanceRecord` — the check before a record is stored.
* `projectInstance`, `FlowInstanceRecord.projection` — the response for a record.
* `storedCalls` — the records that are stored one after the other.
* `StartShows`, `CallsShow` — data and clocks that leave the record fit to be shown.
-/

namespace Marty.Flow

open Lib Lib.Checked

/-! ## Storing -/

inductive RepositoryError
  | storage (reason : String)
  | physicalStartKeyConflict
  | applicationOfferConflict (reason : String)
  | invalidReplayDigest
  | invalidPhysicalStartSnapshot
  | artifactConflict (reason : String)
  | invalidStoredState (error : FlowRecordError)
  deriving DecidableEq, Repr

section

variable (packages : Packages)

def checkedPublicRecord (document : Value) : Except RepositoryError Unit :=
  rejectIf (packages.containsPrivateKey document)
    (.invalidStoredState (invalid "private key material"))

def validateInstanceRecord (record : FlowInstanceRecord) : Except RepositoryError Unit := do
  checkedPublicRecord packages (packages.instanceDocument record)
  let _ ← (record.kernel packages).mapError .invalidStoredState
  rejectIf (∃ digest ∈ record.applicationFlowKeyHash, validSha256 digest = false)
    (.invalidStoredState (invalid "instance.application_flow_key_hash"))

/-! ## The projection -/

/-- What a projection reads of a record. -/
structure InstanceProjectionInput where
  id : String
  flowDefinitionId : String
  organizationId : String
  status : FlowInstanceStatus
  context : Value
  subjectId : Option String
  subjectType : String
  externalReference : Option String
  startedAt : Option String
  completedAt : Option String
  expiresAt : Option String
  result : Option Value
  error : Option String
  stateHistory : List Value
  createdAt : String
  updatedAt : String

/-- The response, with a rejected presentation attempt of type `α`. -/
structure FlowInstanceResponse (α : Type) where
  id : String
  flowId : Option String
  flowType : Option FlowType
  organizationId : String
  status : String
  currentStep : Option String
  currentStepIndex : Option Nat
  contextData : Value
  stepResults : Value
  issuedCredentialId : Option String
  startedAt : Option String
  completedAt : Option String
  expiresAt : Option String
  errorCode : Option String
  metadata : Value
  stateHistory : List Value
  lastPresentationAttempt : Option α
  createdAt : String
  updatedAt : String

def invalidProjection (field : String) : FlowProjectionError := .invalidStoredState field

def validateTimestamp (value field : String) : Except FlowProjectionError Unit :=
  rejectIf ((packages.parseFromRfc3339 value).isNone) (invalidProjection field)

def validateOptionalTimestamp (value : Option String) (field : String) :
    Except FlowProjectionError Unit :=
  match value with
  | none => .ok ()
  | some value => validateTimestamp packages value field

def publicStatus : FlowInstanceStatus → String
  | .created | .pending => "PENDING"
  | .inProgress => "IN_PROGRESS"
  | .awaitingWallet => "AWAITING_WALLET"
  | .awaitingApproval => "AWAITING_APPROVAL"
  | .awaitingEvidence => "AWAITING_EVIDENCE"
  | .completed => "COMPLETED"
  | .failed => "FAILED"
  | .cancelled => "CANCELLED"
  | .expired => "EXPIRED"

/-- The flow type that the context names, or the older name of one. -/
def responseFlowType (context : Json.Map) : Except FlowProjectionError (Option FlowType) :=
  match context.get "protocol_flow_type" with
  | some value =>
      (okOr (FlowType.ofValue value)
        (invalidProjection "instance.context.protocol_flow_type")).map some
  | none =>
      let runtime := Text.toAsciiLowercase
        (((context.get "flow_type").bind Json.Value.asStr).getD "")
      .ok <|
        if runtime = "verification" then some .oid4vpPresentation
        else if runtime = "siop_v2" ∨ runtime = "siopv2" then some .siopv2
        else none

def optionalString (context : Json.Map) (name : String) :
    Except FlowProjectionError (Option String) :=
  match context.get name with
  | none | some .null => .ok none
  | some (.string value) => .ok (some value)
  | some _ => .error (invalidProjection ("instance.context." ++ name))

def optionalU64 (context : Json.Map) (name : String) :
    Except FlowProjectionError (Option Nat) :=
  match context.get name with
  | none | some .null => .ok none
  | some value =>
      (okOr value.asU64 (invalidProjection ("instance.context." ++ name))).map some

/-- What a response says beside the context. -/
def projectionMetadata (input : InstanceProjectionInput) (context : Json.Map) : Json.Map :=
  let reference := ((context.get "flow_definition_reference").bind Json.Value.asStr).getD
    input.flowDefinitionId
  [("runtime_status", .string input.status.asStr), ("flow_definition_reference", .string reference),
    ("subject_type", .string input.subjectType)] ++
    (input.subjectId.toList.map fun id => ("subject_id", .string id)) ++
    input.externalReference.toList.map fun value => ("external_reference", .string value)

/-- The response for an instance; `attempt` finds its last rejected presentation. -/
def projectInstance {α : Type} (attempt : InstanceProjectionInput → Option α)
    (input : InstanceProjectionInput) :
    Except FlowProjectionError (FlowInstanceResponse α) := do
  validateOptionalTimestamp packages input.startedAt "instance.started_at"
  validateOptionalTimestamp packages input.completedAt "instance.completed_at"
  validateOptionalTimestamp packages input.expiresAt "instance.expires_at"
  validateTimestamp packages input.createdAt "instance.created_at"
  validateTimestamp packages input.updatedAt "instance.updated_at"
  let contextData := publicContext input.context
  let context ← okOr contextData.asObject (invalidProjection "instance.context")
  let flowType ← responseFlowType context
  let currentStep ← optionalString context "current_step_name"
  let currentStepIndex ← optionalU64 context "current_step_index"
  let issuedCredentialId ← optionalString context "issued_credential_id"
  let errorCode ← optionalString context "error_code"
  return {
    id := input.id
    flowId :=
      if Text.startsWith input.flowDefinitionId "__" then none else some input.flowDefinitionId
    flowType := flowType
    organizationId := input.organizationId
    status := publicStatus input.status
    currentStep := currentStep
    currentStepIndex := currentStepIndex
    contextData := contextData
    stepResults := ((context.get "step_results").filter Json.Value.isObject).getD (.object [])
    issuedCredentialId := issuedCredentialId
    startedAt := input.startedAt
    completedAt := input.completedAt
    expiresAt := input.expiresAt
    errorCode := errorCode
    metadata := publicContext (.object (projectionMetadata input context))
    stateHistory := input.stateHistory.map publicContext
    lastPresentationAttempt := attempt input
    createdAt := input.createdAt
    updatedAt := input.updatedAt }

def FlowInstanceRecord.projectionInput (record : FlowInstanceRecord) :
    InstanceProjectionInput where
  id := record.id
  flowDefinitionId := record.flowDefinitionId
  organizationId := record.organizationId
  status := record.status
  context := record.context
  subjectId := record.subjectId
  subjectType := record.subjectType
  externalReference := record.externalReference
  startedAt := record.startedAt.map packages.toRfc3339Micros
  completedAt := record.completedAt.map packages.toRfc3339Micros
  expiresAt := record.expiresAt.map packages.toRfc3339Micros
  result := record.result
  error := record.error
  stateHistory := record.stateHistory
  createdAt := packages.toRfc3339Micros record.createdAt
  updatedAt := packages.toRfc3339Micros record.updatedAt

def FlowInstanceRecord.projection {α : Type} (attempt : InstanceProjectionInput → Option α)
    (record : FlowInstanceRecord) : Except FlowRecordError (FlowInstanceResponse α) :=
  (projectInstance packages attempt (record.projectionInput packages)).mapError .projection

/-! ## Contexts that can be shown -/

/-- Null or a text. -/
def textOrNull : Value → Bool
  | .null | .string _ => true
  | _ => false

/-- Null or a number of sixty-four bits. -/
def indexOrNull : Value → Bool
  | .null => true
  | value => value.asU64.isSome

/-- The public name of a flow type. -/
def flowTypeText (value : Value) : Bool := (FlowType.ofValue (publicContext value)).isSome

/-- The entries that a projection reads by their type, each with the values that it accepts. -/
def shownEntries : List (String × (Value → Bool)) :=
  [("protocol_flow_type", flowTypeText), ("current_step_name", textOrNull),
    ("current_step_index", indexOrNull), ("issued_credential_id", textOrNull),
    ("error_code", textOrNull)]

/-- A context whose entries a projection accepts. -/
def ContextShown (context : Json.Map) : Prop :=
  ∀ entry ∈ shownEntries, ∀ value, context.get entry.1 = some value → entry.2 value = true

theorem optionalString_publicEntries {context : Json.Map} {name : String}
    (hname : isPrivateContextKey name = false)
    (h : ∀ value, context.get name = some value → textOrNull value = true) :
    ∃ value, optionalString (publicEntries context) name = .ok value := by
  rw [optionalString, get_publicEntries hname]
  cases hvalue : context.get name with
  | none => exact ⟨none, rfl⟩
  | some value =>
      have hfit := h value hvalue
      cases value with
      | null => exact ⟨none, rfl⟩
      | string text => exact ⟨some text, rfl⟩
      | _ => cases hfit

theorem optionalU64_publicEntries {context : Json.Map} {name : String}
    (hname : isPrivateContextKey name = false)
    (h : ∀ value, context.get name = some value → indexOrNull value = true) :
    ∃ value, optionalU64 (publicEntries context) name = .ok value := by
  rw [optionalU64, get_publicEntries hname]
  cases hvalue : context.get name with
  | none => exact ⟨none, rfl⟩
  | some value =>
      have hfit := h value hvalue
      cases value with
      | null => exact ⟨none, rfl⟩
      | number token =>
          obtain ⟨n, hn⟩ := Option.isSome_iff_exists.mp hfit
          have hpublic : (publicContext (.number token)).asU64 = some n := hn
          exact ⟨some n, by simp [publicContext, hn, okOr, Except.map]⟩
      | _ => cases hfit

theorem responseFlowType_publicEntries {context : Json.Map}
    (h : ∀ value, context.get "protocol_flow_type" = some value → flowTypeText value = true) :
    ∃ flowType, responseFlowType (publicEntries context) = .ok flowType := by
  rw [responseFlowType, get_publicEntries (by decide +kernel)]
  cases hvalue : context.get "protocol_flow_type" with
  | none => exact ⟨_, rfl⟩
  | some value =>
      obtain ⟨flowType, hflowType⟩ := Option.isSome_iff_exists.mp (h value hvalue)
      refine ⟨some flowType, ?_⟩
      simp only [Option.map_some, hflowType, okOr]
      rfl

/-- **A fit context is shown**, when the times of the record have texts that can be read. -/
theorem projection_of_shown {α : Type} (attempt : InstanceProjectionInput → Option α)
    {record : FlowInstanceRecord} {context : Json.Map} (hcontext : record.context = .object context)
    (hshown : ContextShown context)
    (htimes : ∀ time, time = record.createdAt ∨ time = record.updatedAt ∨
      some time = record.startedAt ∨ some time = record.completedAt ∨
        some time = record.expiresAt →
      (packages.parseFromRfc3339 (packages.toRfc3339Micros time)).isSome = true) :
    ∃ response, record.projection packages attempt = .ok response := by
  have htime : ∀ time field,
      (packages.parseFromRfc3339 (packages.toRfc3339Micros time)).isSome = true →
      validateTimestamp packages (packages.toRfc3339Micros time) field = .ok () := by
    intro time field hparsed
    rw [validateTimestamp, rejectIf_eq_ok, Option.isNone_iff_eq_none]
    intro hnone
    rw [hnone] at hparsed
    cases hparsed
  have hoptional : ∀ (moment : Option Utc) field, (∀ time, some time = moment →
      (packages.parseFromRfc3339 (packages.toRfc3339Micros time)).isSome = true) →
      validateOptionalTimestamp packages (moment.map packages.toRfc3339Micros) field
        = .ok () := by
    intro moment field h
    cases moment with
    | none => rfl
    | some time => exact htime time field (h time rfl)
  obtain ⟨flowType, hflowType⟩ := responseFlowType_publicEntries
    (hshown ("protocol_flow_type", flowTypeText) (by simp [shownEntries]))
  obtain ⟨step, hstep⟩ := optionalString_publicEntries (by decide +kernel)
    (hshown ("current_step_name", textOrNull) (by simp [shownEntries]))
  obtain ⟨index, hindex⟩ := optionalU64_publicEntries (by decide +kernel)
    (hshown ("current_step_index", indexOrNull) (by simp [shownEntries]))
  obtain ⟨credential, hcredential⟩ := optionalString_publicEntries (by decide +kernel)
    (hshown ("issued_credential_id", textOrNull) (by simp [shownEntries]))
  obtain ⟨code, hcode⟩ := optionalString_publicEntries (by decide +kernel)
    (hshown ("error_code", textOrNull) (by simp [shownEntries]))
  have hobject : (publicContext record.context).asObject = some (publicEntries context) := by
    rw [hcontext]
    rfl
  simp only [FlowInstanceRecord.projection, mapError_eq_ok, projectInstance,
    FlowInstanceRecord.projectionInput, bind_eq_ok, exists_unit, okOr_eq_ok, hobject, pure,
    Except.pure, Except.ok.injEq]
  exact ⟨_, hoptional _ _ fun t ht => htimes t (by simp [ht]),
    hoptional _ _ fun t ht => htimes t (by simp [ht]),
    hoptional _ _ fun t ht => htimes t (by simp [ht]), htime _ _ (htimes _ (.inl rfl)),
    htime _ _ (htimes _ (.inr (.inl rfl))), publicEntries context, rfl, flowType, hflowType,
    step, hstep, index, hindex, credential, hcredential, code, hcode, rfl⟩

/-! ## Data that can be shown -/

/-- The entries that the service writes when it places an instance at a step. -/
def syncedKeys (definition : FlowDefinitionRecord) (stepId : Option String) : List String :=
  "protocol_flow_type" ::
    match stepId.bind definition.findStep with
    | none => []
    | some (step, _) =>
        "current_step_index" :: (protocolStepOf step).toList.map fun _ => "current_step_name"

/-- Data that does not hide an instance: entries that the service overwrites, those in
`written`, may hold anything. -/
def DataShows (written : List String) (data : Json.Map) : Prop :=
  ∀ entry ∈ shownEntries, entry.1 ∉ written → ∀ value, (entry.1, value) ∈ data →
    entry.2 value = true

/-- A context that is fit outside the entries in `written`. -/
def ShownOutside (written : List String) (context : Json.Map) : Prop :=
  ∀ entry ∈ shownEntries, entry.1 ∉ written → ∀ value, context.get entry.1 = some value →
    entry.2 value = true

theorem ShownOutside.of_data {written : List String} {data : Json.Map}
    (h : DataShows written data) : ShownOutside written data :=
  fun entry hentry hwritten value hvalue =>
    h entry hentry hwritten value (Json.Map.mem_of_get hvalue)

theorem ContextShown.extend {written : List String} {context data : Json.Map}
    (h : ContextShown context) (hdata : DataShows written data) :
    ShownOutside written (context.extend data) := by
  intro entry hentry hwritten value hvalue
  rcases Json.Map.get_extend hvalue with hmem | hget
  · exact hdata entry hentry hwritten value hmem
  · exact h entry hentry value hget

theorem ne_stepResults {entry : String × (Value → Bool)} (h : entry ∈ shownEntries) :
    entry.1 ≠ "step_results" := by
  simp only [shownEntries, List.mem_cons, List.not_mem_nil, or_false] at h
  rcases h with rfl | rfl | rfl | rfl | rfl <;> decide

theorem ShownOutside.of_get {written : List String} {context context' : Json.Map}
    (h : ShownOutside written context)
    (hget : ∀ key, key ≠ "step_results" → context'.get key = context.get key) :
    ShownOutside written context' := by
  intro entry hentry hwritten value hvalue
  rw [hget _ (ne_stepResults hentry)] at hvalue
  exact h entry hentry hwritten value hvalue

theorem flowTypeText_toValue (flowType : FlowType) : flowTypeText flowType.toValue = true := by
  cases flowType <;> decide +kernel

theorem indexOrNull_ofNat (n : Nat) : indexOrNull (.ofNat (n % 2 ^ 64)) = true := by
  have h := Json.Value.asU64_ofNat (Nat.mod_lt n (by decide : 0 < 2 ^ 64))
  exact Option.isSome_iff_exists.mpr ⟨_, h⟩

/-- An entry that is not placed at a step keeps its value. -/
theorem get_sync_of_notMem {key : String} {definition : FlowDefinitionRecord}
    {stepId : Option String} (hkey : key ∉ syncedKeys definition stepId)
    (hresults : key ≠ "step_results") (context : Json.Map) :
    (syncProtocolContext context definition stepId).get key = context.get key := by
  have hfirst : ∀ m : Json.Map,
      (if (m.get "step_results").any Json.Value.isObject then m
        else m.insert "step_results" (.object [])).get key = m.get key := by
    intro m
    split
    · rfl
    · rw [Json.Map.get_insert, if_neg hresults]
  rw [syncedKeys] at hkey
  rw [syncProtocolContext]
  cases hstep : stepId.bind definition.findStep with
  | none =>
      rw [hstep] at hkey
      rw [Json.Map.get_insert, if_neg (List.ne_of_not_mem_cons hkey), hfirst]
  | some found =>
      obtain ⟨step, index⟩ := found
      simp only [hstep, List.mem_cons, not_or] at hkey
      obtain ⟨htype, hindex, hname⟩ := hkey
      dsimp only
      rw [Json.Map.get_insert, if_neg hindex]
      cases hprotocol : protocolStepOf step with
      | none => rw [Json.Map.get_insert, if_neg htype, hfirst]
      | some name =>
          rw [hprotocol] at hname
          have hname : key ≠ "current_step_name" := by simpa using hname
          rw [Json.Map.get_insert, if_neg hname, Json.Map.get_insert, if_neg htype, hfirst]

/-- An entry that is placed at a step has a value that can be shown. -/
theorem get_sync_of_mem {entry : String × (Value → Bool)} (hentry : entry ∈ shownEntries)
    {definition : FlowDefinitionRecord} {stepId : Option String}
    (hkey : entry.1 ∈ syncedKeys definition stepId) {context : Json.Map} {value : Value}
    (hvalue : (syncProtocolContext context definition stepId).get entry.1 = some value) :
    entry.2 value = true := by
  rw [syncedKeys] at hkey
  rw [syncProtocolContext] at hvalue
  simp only [shownEntries, List.mem_cons, List.not_mem_nil, or_false] at hentry
  cases hstep : stepId.bind definition.findStep with
  | none =>
      rw [hstep] at hkey hvalue
      rw [List.mem_singleton] at hkey
      rcases hentry with rfl | rfl | rfl | rfl | rfl
      · rw [Json.Map.get_insert, if_pos rfl] at hvalue
        rw [← Option.some.inj hvalue]
        exact flowTypeText_toValue _
      all_goals exact absurd hkey (by decide)
  | some found =>
      obtain ⟨step, index⟩ := found
      simp only [hstep, List.mem_cons, List.mem_map, Option.mem_toList] at hkey hvalue
      rcases hentry with rfl | rfl | rfl | rfl | rfl
      · rw [Json.Map.get_insert, if_neg (by decide)] at hvalue
        have htype : (effectiveFlowType definition).toValue = value := by
          cases hprotocol : protocolStepOf step with
          | none =>
              rw [hprotocol, Json.Map.get_insert, if_pos rfl] at hvalue
              exact Option.some.inj hvalue
          | some name =>
              rw [hprotocol, Json.Map.get_insert, if_neg (by decide), Json.Map.get_insert,
                if_pos rfl] at hvalue
              exact Option.some.inj hvalue
        rw [← htype]
        exact flowTypeText_toValue _
      · rcases hkey with hkey | hkey | ⟨name, hprotocol, -⟩
        · exact absurd hkey (by decide)
        · exact absurd hkey (by decide)
        rw [hprotocol, Json.Map.get_insert, if_neg (by decide), Json.Map.get_insert,
          if_pos rfl] at hvalue
        rw [← Option.some.inj hvalue]
        rfl
      · rw [Json.Map.get_insert, if_pos rfl] at hvalue
        rw [← Option.some.inj hvalue]
        exact indexOrNull_ofNat index
      all_goals simp at hkey

/-- **Placing an instance at a step** repairs the entries that this writes. -/
theorem ShownOutside.sync {context : Json.Map} {definition : FlowDefinitionRecord}
    {stepId : Option String} (h : ShownOutside (syncedKeys definition stepId) context) :
    ContextShown (syncProtocolContext context definition stepId) := by
  intro entry hentry value hvalue
  by_cases hkey : entry.1 ∈ syncedKeys definition stepId
  · exact get_sync_of_mem hentry hkey hvalue
  · rw [get_sync_of_notMem hkey (ne_stepResults hentry)] at hvalue
    exact h entry hentry hkey value hvalue

/-! ## Times that can be shown -/

/-- The moments of the years 0 to 9999, whose texts have four digits for the year. -/
def Readable (t : Utc) : Prop := -62167219200000000000 ≤ t ∧ t ≤ 253402300799999999999

instance (t : Utc) : Decidable (Readable t) := inferInstanceAs (Decidable (_ ∧ _))

/-- The time library reads the texts that it writes for those years. -/
def ReadsTimes : Prop :=
  ∀ t, Readable t → (packages.parseFromRfc3339 (packages.toRfc3339Micros t)).isSome = true

private theorem millis_le (n : Int) (h : 0 ≤ n / 1000000) :
    0 ≤ ((n / 1000000).toNat : Int) * 1000000 ∧ ((n / 1000000).toNat : Int) * 1000000 ≤ n := by
  omega

theorem readable_of_millis {now completed : Utc} {nowMs : Nat} (hnow : Readable now)
    (hnowMs : toU64 now.timestampMillis = some nowMs)
    (hcompleted : millisToTimestamp nowMs = .ok completed) : Readable completed := by
  rw [millisToTimestamp, okOr_eq_ok, Option.bind_eq_some_iff] at hcompleted
  obtain ⟨n, hn, hcompleted⟩ := hcompleted
  rw [toI64, Option.ite_none_right_eq_some, Option.some.injEq] at hn
  rw [Utc.fromTimestampMillis, Option.ite_none_right_eq_some, Option.some.injEq] at hcompleted
  rw [toU64, Option.ite_none_right_eq_some, Option.some.injEq, Utc.timestampMillis] at hnowMs
  obtain ⟨-, rfl⟩ := hn
  obtain ⟨-, rfl⟩ := hcompleted
  obtain ⟨⟨hzero, -⟩, rfl⟩ := hnowMs
  have hbounds := millis_le now hzero
  obtain ⟨-, hmax⟩ := hnow
  constructor
  · exact le_trans (by decide) hbounds.1
  · exact le_trans hbounds.2 hmax

/-- A record that can be shown: its context is fit and its times have readable texts. -/
structure InstanceShown (record : FlowInstanceRecord) : Prop where
  context : ∃ context, record.context = .object context ∧ ContextShown context
  created : Readable record.createdAt
  updated : Readable record.updatedAt
  started : ∀ time ∈ record.startedAt, Readable time
  completed : ∀ time ∈ record.completedAt, Readable time
  expires : ∀ time ∈ record.expiresAt, Readable time

theorem InstanceShown.projection {α : Type} {record : FlowInstanceRecord}
    (h : InstanceShown record) (hreads : ReadsTimes packages)
    (attempt : InstanceProjectionInput → Option α) :
    ∃ response, record.projection packages attempt = .ok response := by
  obtain ⟨context, hcontext, hshown⟩ := h.context
  apply projection_of_shown packages attempt hcontext hshown
  rintro time (rfl | rfl | htime | htime | htime)
  · exact hreads _ h.created
  · exact hreads _ h.updated
  · exact hreads _ (h.started time htime.symm)
  · exact hreads _ (h.completed time htime.symm)
  · exact hreads _ (h.expires time htime.symm)

/-! ## Runs that are stored -/

/-- A start whose context and times can be shown. -/
structure StartShows (definition : FlowDefinitionRecord) (request : StartFlowRequest)
    (now : Utc) (trustedContext : Json.Map) : Prop where
  context : ∀ initial, request.initialContext = .object initial →
    DataShows (syncedKeys definition definition.startStepId) (initial ++ trustedContext)
  clock : Readable now
  expires : Readable (now + definition.defaultTimeoutSeconds * 1000000000)

/-- The entries that an advance writes when it selects a next step. -/
def advancedKeys (definition : FlowDefinitionRecord) (nextStepId : Option String) : List String :=
  nextStepId.toList.flatMap fun next => syncedKeys definition (some next)

/-- A call whose data and clock can be shown. -/
structure CallShows (record : FlowInstanceRecord) (call : AdvanceCall) : Prop where
  data : ∀ graph stepId outcome nextStepId data, call.definition.kernel packages = .ok graph →
    record.currentStepId = some stepId → parseOutcome call.request.stepResult = .ok outcome →
    packages.selectNextStep graph.graphRequest stepId outcome = .ok nextStepId →
    call.request.data = .object data → DataShows (advancedKeys call.definition nextStepId) data
  clock : Readable call.now

/-- The record that is stored after a call: the advanced one when the check accepts it. -/
def storeCall (record : FlowInstanceRecord) (call : AdvanceCall) : FlowInstanceRecord :=
  match advanceInstanceRecord packages call.definition record call.request call.actor call.now
  with
  | .error _ => record
  | .ok updated =>
      match validateInstanceRecord packages updated with
      | .error _ => record
      | .ok _ => updated

def storedCalls (record : FlowInstanceRecord) (calls : List AdvanceCall) : FlowInstanceRecord :=
  calls.foldl (storeCall packages) record

/-- Every call can be shown on the record that it finds. -/
def CallsShow (record : FlowInstanceRecord) : List AdvanceCall → Prop
  | [] => True
  | call :: calls =>
      CallShows packages record call ∧ CallsShow (storeCall packages record call) calls

variable {packages} in
theorem StartedBy.shown {definition : FlowDefinitionRecord} {request : StartFlowRequest}
    {actor : String} {now : Utc} {trustedContext : Json.Map} {id : String}
    {record : FlowInstanceRecord} {initial : Json.Map} {extensionOnly : Bool} {expiresAt : Utc}
    (h : StartedBy packages definition request actor now trustedContext id record initial
      extensionOnly expiresAt)
    (hshows : StartShows definition request now trustedContext) : InstanceShown record := by
  have hexpires : expiresAt = now + definition.defaultTimeoutSeconds * 1000000000 := by
    have hsum := h.expires
    rw [Utc.checkedAddSeconds, Option.ite_none_right_eq_some, Option.some.injEq] at hsum
    exact hsum.2.symm
  have hdata := hshows.context initial h.initial_eq
  have hcontext : ShownOutside (syncedKeys definition definition.startStepId)
      (initial.extend trustedContext) := by
    intro entry hentry hwritten value hvalue
    apply hdata entry hentry hwritten value
    rw [List.mem_append]
    rcases Json.Map.get_extend hvalue with hmem | hget
    · exact .inr hmem
    · exact .inl (Json.Map.mem_of_get hget)
  rw [h.record_eq]
  exact {
    context := ⟨_, rfl, hcontext.sync⟩
    created := hshows.clock
    updated := hshows.clock
    started := by
      intro time htime
      rw [← Option.some.inj htime]
      exact hshows.clock
    completed := by
      intro time htime
      cases htime
    expires := by
      intro time htime
      rw [← Option.some.inj htime, hexpires]
      exact hshows.expires }

/-! ### What an advance keeps -/

theorem transition_completedAtMs {kernel kernel' : FlowInstance} {target : FlowInstanceStatus}
    {actor event : String} {nowMs : Nat}
    (h : transition packages kernel target actor event nowMs = .ok kernel') :
    kernel'.completedAtMs = kernel.completedAtMs ∨ kernel'.completedAtMs = some nowMs := by
  rw [transition, mapError_eq_ok, FlowInstance.transitionTo] at h
  split at h
  · cases h
  · cases h
    split
    · exact .inl rfl
    · dsimp only
      split
      · exact .inr rfl
      · exact .inl rfl

theorem resume_completedAtMs {kernel resumed : FlowInstance} {actor : String} {nowMs : Nat}
    (h : resume packages kernel actor nowMs = .ok resumed) :
    resumed.completedAtMs = kernel.completedAtMs ∨ resumed.completedAtMs = some nowMs := by
  rw [resume] at h
  split at h
  · exact transition_completedAtMs packages h
  · cases h
    exact .inl rfl

theorem leaveStep_completedAtMs {definition : FlowDefinitionRecord} {position left : Position}
    {nextStepId : Option String} {outcome : TransitionOutcome} {actor : String} {now : Utc}
    {nowMs : Nat}
    (h : leaveStep packages definition position nextStepId outcome actor now nowMs = .ok left) :
    left.kernel.completedAtMs = position.kernel.completedAtMs ∨
      left.kernel.completedAtMs = some nowMs := by
  cases nextStepId with
  | some next =>
      simp only [leaveStep, enterStep] at h
      split at h
      · simp only [bind_eq_ok, pure, Except.pure, Except.ok.injEq] at h
        obtain ⟨kernel, hkernel, rfl⟩ := h
        have hcompleted := transition_completedAtMs packages hkernel
        exact hcompleted
      · cases h
        exact .inl rfl
  | none =>
      simp only [leaveStep] at h
      split at h
      all_goals
        simp only [bind_eq_ok, pure, Except.pure, Except.ok.injEq] at h
        obtain ⟨kernel, hkernel, rfl⟩ := h
        have hcompleted := transition_completedAtMs packages hkernel
        exact hcompleted

variable {packages} in
/-- The time of completion is that of the advance, or what it was. -/
theorem AdvancedBy.completed_readable {definition : FlowDefinitionRecord}
    {record updated : FlowInstanceRecord} {request : AdvanceFlowRequest} {actor : String}
    {now : Utc} {graph : FlowDefinition} {currentStepId : String} {outcome : TransitionOutcome}
    {kernel resumed : FlowInstance} {context data : Json.Map} {nowMs : Nat}
    {nextStepId : Option String} {position : Position} {completedAt : Option Utc}
    (h : AdvancedBy packages definition record request actor now updated graph currentStepId
      outcome kernel resumed context data nowMs nextStepId position completedAt)
    (hnow : Readable now) (hrecord : ∀ time ∈ record.completedAt, Readable time) :
    ∀ time ∈ completedAt, Readable time := by
  intro time htime
  have hcompleted := h.completed
  rw [Option.mem_def.mp htime] at hcompleted
  cases hms : position.kernel.completedAtMs with
  | none =>
      rw [hms] at hcompleted
      cases hcompleted
  | some ms =>
      rw [hms, optionalTimestamp] at hcompleted
      have hmillis : millisToTimestamp ms = .ok time := by
        cases hresult : millisToTimestamp ms with
        | error e =>
            rw [hresult] at hcompleted
            cases hcompleted
        | ok t =>
            rw [hresult] at hcompleted
            cases hcompleted
            rfl
      -- the milliseconds are those of the clock, or those of the record
      have hsource : ms = nowMs ∨ kernel.completedAtMs = some ms := by
        rcases leaveStep_completedAtMs packages h.left with hleft | hleft
        · rcases resume_completedAtMs packages h.resumed_eq with hresume | hresume
          · exact .inr (by rw [← hresume, ← hms, hleft])
          · exact .inl (Option.some.inj (by rw [← hresume, ← hms, hleft]))
        · exact .inl (Option.some.inj (by rw [← hms, hleft]))
      rcases hsource with rfl | hkernel
      · exact readable_of_millis hnow h.clock hmillis
      · have hread := h.kernel_eq
        simp only [FlowInstanceRecord.kernel, bind_eq_ok, exists_unit, pure, Except.pure,
          Except.ok.injEq] at hread
        obtain ⟨-, history, -, expires, -, completed, hoptional, rfl⟩ := hread
        obtain rfl : completed = some ms := hkernel
        cases hbefore : record.completedAt with
        | none =>
            rw [hbefore] at hoptional
            cases hoptional
        | some before =>
            rw [hbefore, optionalMillis] at hoptional
            have hclock : toU64 before.timestampMillis = some ms := by
              cases hresult : toU64 before.timestampMillis with
              | none =>
                  rw [hresult] at hoptional
                  cases hoptional
              | some value =>
                  rw [hresult] at hoptional
                  cases hoptional
                  rfl
            exact readable_of_millis (hrecord before hbefore) hclock hmillis

variable {packages} in
theorem AdvancedBy.shown {definition : FlowDefinitionRecord}
    {record updated : FlowInstanceRecord} {request : AdvanceFlowRequest} {actor : String}
    {now : Utc} {graph : FlowDefinition} {currentStepId : String} {outcome : TransitionOutcome}
    {kernel resumed : FlowInstance} {context data : Json.Map} {nowMs : Nat}
    {nextStepId : Option String} {position : Position} {completedAt : Option Utc}
    (h : AdvancedBy packages definition record request actor now updated graph currentStepId
      outcome kernel resumed context data nowMs nextStepId position completedAt)
    (hshows : CallShows packages record ⟨definition, request, actor, now⟩)
    (hshown : InstanceShown record) : InstanceShown updated := by
  have hdata := hshows.data graph currentStepId outcome nextStepId data h.graph_eq h.current
    h.outcome_eq h.next_eq h.data_eq
  obtain ⟨before, hbefore, hcontext⟩ := hshown.context
  obtain rfl : before = context := by
    rw [h.context_eq] at hbefore
    exact (Json.Value.object.inj hbefore).symm
  have houtside := (hcontext.extend hdata).of_get fun key hkey =>
    get_completeStepContext packages hkey _ definition currentStepId request.stepResult now
  have hposition : ContextShown position.context := by
    rcases leaveStep_eq_ok packages h.left with ⟨next, rfl, -, hleft, -⟩ | ⟨rfl, -, hleft, -⟩
    · rw [hleft]
      apply ShownOutside.sync
      simpa [advancedKeys] using houtside
    · rw [hleft]
      intro entry hentry value hvalue
      exact houtside entry hentry (by simp [advancedKeys]) value hvalue
  have hcompleted := h.completed_readable hshows.clock hshown.completed
  rw [h.record_eq]
  exact {
    context := ⟨_, rfl, hposition⟩
    created := hshown.created
    updated := hshows.clock
    started := hshown.started
    completed := hcompleted
    expires := hshown.expires }

theorem storeCall_shown {record : FlowInstanceRecord} {call : AdvanceCall}
    (hshows : CallShows packages record call) (hshown : InstanceShown record) :
    InstanceShown (storeCall packages record call) := by
  rw [storeCall]
  split
  · exact hshown
  · next updated hadvance =>
      split
      · exact hshown
      · obtain ⟨_, _, _, _, _, _, _, _, _, _, _, h⟩ := advance_eq_ok packages hadvance
        exact h.shown hshows hshown

theorem storedCalls_shown {calls : List AdvanceCall} {record : FlowInstanceRecord}
    (hshows : CallsShow packages record calls) (hshown : InstanceShown record) :
    InstanceShown (storedCalls packages record calls) := by
  induction calls generalizing record with
  | nil => exact hshown
  | cons call calls ih => exact ih hshows.2 (storeCall_shown packages hshows.1 hshown)

/-- **Every stored instance is shown** when its start and its calls can be: entries that a
projection reads by their type are given with that type, or are written by the service. -/
theorem stored_instance_shown {α : Type} (hreads : ReadsTimes packages)
    (attempt : InstanceProjectionInput → Option α) {definition : FlowDefinitionRecord}
    {request : StartFlowRequest} {actor : String} {now : Utc} {trustedContext : Json.Map}
    {id : String} {record : FlowInstanceRecord} {calls : List AdvanceCall}
    (hstart : startInstanceRecordWithTrustedContext packages definition request actor now
      trustedContext id = .ok record)
    (hshows : StartShows definition request now trustedContext)
    (hcalls : CallsShow packages record calls) :
    ∃ response, (storedCalls packages record calls).projection packages attempt
      = .ok response := by
  obtain ⟨initial, extensionOnly, expiresAt, h⟩ := start_eq_ok packages hstart
  apply (storedCalls_shown packages hcalls (h.shown hshows)).projection packages hreads

end

namespace Example

/-- The packages, with a text for every other moment too. -/
def readingPackages : Packages :=
  { packages with
    toRfc3339Micros := fun t =>
      ((moments.lookup t).map (·.2)).getD "1970-01-01T00:00:00.000000Z" }

theorem readsTimes_readingPackages : ReadsTimes readingPackages := by
  intro t _
  rcases hlookup : moments.lookup t with _ | ⟨text, micros⟩
  · simp only [readingPackages, hlookup]
    decide +kernel
  · have hmem : (text, micros) ∈ moments.map Prod.snd := by
      simp only [moments, List.lookup_cons, List.lookup_nil] at hlookup
      split at hlookup
      · cases hlookup
        decide
      split at hlookup
      · cases hlookup
        decide
      split at hlookup
      · cases hlookup
        decide
      · cases hlookup
    have hread : ∀ entry ∈ moments.map Prod.snd,
        (packages.parseFromRfc3339 entry.2).isSome = true := by
      decide +kernel
    simpa [readingPackages, hlookup] using hread _ hmem

/-- The first record of an instance without a review. -/
def openStart : Executed FlowInstanceRecord :=
  startInstanceRecordWithTrustedContext readingPackages openDefinition startRequest "client" 0 []
    "instance-1"

def openCall (data : Json.Map) : AdvanceCall :=
  ⟨openDefinition, ⟨"Success", .object data⟩, "client", 60000000000⟩

end Example

/-- An instance is shown after its last step. -/
theorem stored_instance_shown_open :
    ∃ record, Example.openStart = .ok record ∧
      (storedCalls Example.readingPackages record [Example.openCall []]).status = .completed ∧
      ∃ response, (storedCalls Example.readingPackages record
        [Example.openCall []]).projection Example.readingPackages (fun _ => (none : Option Unit))
          = .ok response := by
  have hdone : (Example.openStart.toOption.map fun record =>
      (storedCalls Example.readingPackages record [Example.openCall []]).status)
        = some .completed := by
    decide +kernel
  cases hstart : Example.openStart with
  | error e =>
      rw [hstart] at hdone
      cases hdone
  | ok record =>
      rw [hstart] at hdone
      refine ⟨record, rfl, Option.some.inj hdone, ?_⟩
      have hshows : StartShows Example.openDefinition Example.startRequest 0 [] := {
        context := by
          rintro initial ⟨⟩ entry hentry - value hvalue
          simp only [shownEntries, List.mem_cons, List.not_mem_nil, or_false] at hentry
          rcases hentry with rfl | rfl | rfl | rfl | rfl <;> simp at hvalue
        clock := by decide
        expires := by decide }
      have hcall : CallShows Example.readingPackages record (Example.openCall []) := {
        data := by
          rintro graph stepId outcome nextStepId data - - - - ⟨⟩ entry - - value hvalue
          cases hvalue
        clock := by decide }
      exact stored_instance_shown Example.readingPackages Example.readsTimes_readingPackages _
        hstart hshows ⟨hcall, trivial⟩

/-- A client hides an instance with an error code that is no text: the start and the advance
are accepted and stored, and the stored record has no projection. -/
theorem stored_instance_hidden :
    (Example.openStart.toOption.map fun record =>
      let call := Example.openCall [("error_code", .number "5")]
      ((validateInstanceRecord Example.readingPackages record).toOption.isSome,
        (advanceInstanceRecord Example.readingPackages call.definition record call.request
          call.actor call.now).toOption.isSome,
        (storedCalls Example.readingPackages record [call]).status,
        ((storedCalls Example.readingPackages record [call]).projection Example.readingPackages
          (fun _ => (none : Option Unit))).map fun _ => ()))
      = some (true, true, .completed,
          .error (.projection (.invalidStoredState "instance.context.error_code"))) := by
  decide +kernel

end Marty.Flow
