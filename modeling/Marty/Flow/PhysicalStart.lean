import Marty.Flow.Instances
import Marty.Flow.PhysicalDocument
import Marty.Lib.Interleaving
import Marty.Lib.JsonText
import Mathlib.Data.Prod.Lex

/-!
# Starting a physical document

The native provider is asked for a document once it is certain which instance the document
is for.  A start reserves its key first: the row of the key keeps the instance, the
definition, the actor and the time of the first reservation, and a claim that runs out
after a minute.  A start that finds the claim run out takes it over with a token of its
own, and the instance is stored together with the end of the claim.

## Main definitions

* `PhysicalStartIntent` — the row of a key; `reservePhysicalStart` and
  `saveStartedPhysicalInstance` are its two transactions.
* `PhysicalStartCall`, `physicalStartMachine` — the steps of `start_physical_instance`.
-/

namespace Marty.Flow

open Lib Lib.Checked

inductive PhysicalStartError
  | invalidKey
  | inProgress
  | conflict
  | storedIncomplete
  | expired
  | execution (error : FlowInstanceExecutionError)
  | sideEffect (error : FlowInstanceSideEffectError)
  | repository (error : RepositoryError)
  deriving DecidableEq, Repr

abbrev PhysicalStarted (α : Type) := Except PhysicalStartError α

/-! ## Snapshots -/

/-- The configuration of a tenant before the provider is asked. -/
structure PhysicalStartSnapshot where
  definition : FlowDefinitionRecord
  issuerDid : String

def PhysicalStartSnapshot.Matches (snapshot : PhysicalStartSnapshot)
    (organizationId definitionId : String) : Prop :=
  snapshot.definition.organizationId = organizationId ∧ snapshot.definition.id = definitionId ∧
    effectiveFlowType snapshot.definition = .physicalDocumentIssuance ∧
    Text.startsWith snapshot.issuerDid "did:" = true ∧
    Text.trim snapshot.issuerDid = snapshot.issuerDid

instance (snapshot : PhysicalStartSnapshot) (organizationId definitionId : String) :
    Decidable (snapshot.Matches organizationId definitionId) :=
  inferInstanceAs (Decidable (_ ∧ _))

/-- The digest and the column of a snapshot, which belong to other packages. -/
structure PhysicalStartPackages where
  /-- SHA-256 of a text, in hexadecimal digits. -/
  sha256Hex : List Char → String
  /-- A snapshot as the column holds it, and what a column is read as. -/
  writeSnapshot : PhysicalStartSnapshot → Value
  readSnapshot : Value → Option PhysicalStartSnapshot

def captureSnapshot (providers : FlowProviderRegistry) (definition : FlowDefinitionRecord) :
    SideEffect PhysicalStartSnapshot := do
  let templateId ← requiredReference definition.credentialTemplateId
  let _ ← requiredReference definition.applicationTemplateId
  let _ ← requiredReference definition.deliveryDestinationProfileId
  let provider ← requireProvider providers.credentialTemplate "credential_template"
  let template ← (provider templateId).mapError .provider
  validateTemplate template templateId definition.organizationId
  (validatePhysicalDocumentTemplate template).mapError .provider
  return ⟨definition, template.issuerDid⟩

/-! ## Keys -/

def isKeyChar (c : Char) : Bool :=
  (48 ≤ c.toNat && c.toNat ≤ 57) || (65 ≤ c.toNat && c.toNat ≤ 90) ||
    (97 ≤ c.toNat && c.toNat ≤ 122) || c ∈ ['.', '_', ':', '-']

def validatedClientKey (value : Option String) : PhysicalStarted (Option String) :=
  match value with
  | none => .ok none
  | some key =>
      if key = "" ∨ 128 < key.utf8ByteSize ∨ Text.trim key ≠ key ∨ key.toList.all isKeyChar = false
      then .error .invalidKey
      else .ok (some key)

/-- The text that a UUID is written as. -/
def isCanonicalUuid (text : String) : Bool :=
  text.toList.length == 36 && text.toList.zipIdx.all fun c =>
    if c.2 ∈ [8, 13, 18, 23] then c.1 == '-' else isLowerHexDigit c.1

def StartFlowRequest.toValue (request : StartFlowRequest) : Value :=
  .object ([("organization_id", .string request.organizationId),
      ("flow_definition_id", .string request.flowDefinitionId)] ++
    (request.subjectId.map fun id => ("subject_id", Json.Value.string id)).toList ++
    [("subject_type", .string request.subjectType)] ++
    (request.externalReference.map fun reference =>
      ("external_reference", Json.Value.string reference)).toList ++
    [("initial_context", request.initialContext)])

section

variable (packages : PhysicalStartPackages)

def requestHashOf (request : StartFlowRequest) : String :=
  packages.sha256Hex ("marty:physical-flow-start-request:v1:".toList ++ request.toValue.canonical)

def keyHashOf (key : String) : String :=
  packages.sha256Hex ("marty:physical-flow-start-key:v1:".toList ++ key.toList)

end

/-! ## The row of a key -/

inductive PhysicalStartStatus
  | pending | completed
  deriving DecidableEq, Repr

/-- A row of `physical_start_intents`. -/
structure PhysicalStartIntent where
  requestHash : String
  definitionSnapshot : Value
  initialActor : String
  originalDeadlineAt : DateTime
  keySource : String
  flowDefinitionId : String
  instanceId : String
  status : PhysicalStartStatus
  claimToken : Option String
  claimExpiresAt : Option DateTime
  createdAt : DateTime
  updatedAt : DateTime

/-- An organization and the digest of a key. -/
abbrev IntentKey := Lex (String × String)

def intentKey (organizationId keyHash : String) : IntentKey := toLex (organizationId, keyHash)

abbrev PhysicalStartIntents := BTreeMap IntentKey PhysicalStartIntent

structure PhysicalStartReservationInput where
  organizationId : String
  definitionId : String
  operationKey : String
  keyHash : String
  requestHash : String
  definitionSnapshot : PhysicalStartSnapshot
  initialActor : String
  originalDeadlineAt : Utc
  generatedKey : Bool
  proposedInstanceId : String
  now : Utc

inductive PhysicalStartReservation
  | acquired (instanceId claimToken : String)
  | inProgress (instanceId : String)
  | expired (instanceId : String)
  | completed (instanceId : String)
  deriving DecidableEq, Repr

/-- A claim ends a minute after the clock of its call. -/
def claimExpiry (now : Utc) : Utc := now + 60000000000

/-- The row of a first reservation. -/
def PhysicalStartReservationInput.intent (packages : PhysicalStartPackages)
    (input : PhysicalStartReservationInput) (token : String) : PhysicalStartIntent where
  requestHash := input.requestHash
  definitionSnapshot := packages.writeSnapshot input.definitionSnapshot
  initialActor := input.initialActor
  originalDeadlineAt := input.originalDeadlineAt.stored
  keySource := if input.generatedKey then "generated" else "client"
  flowDefinitionId := input.definitionId
  instanceId := input.proposedInstanceId
  status := .pending
  claimToken := some token
  claimExpiresAt := some (claimExpiry input.now).stored
  createdAt := input.now.stored
  updatedAt := input.now.stored

/-- The claim taken over. -/
def PhysicalStartIntent.claim (intent : PhysicalStartIntent) (token : String) (now : Utc) :
    PhysicalStartIntent :=
  { intent with
    claimToken := some token
    claimExpiresAt := some (claimExpiry now).stored
    updatedAt := now.stored }

/-- What a reservation does with the row that it finds. -/
def reserveExisting (intents : PhysicalStartIntents) (input : PhysicalStartReservationInput)
    (token : String) (intent : PhysicalStartIntent) :
    Except RepositoryError (PhysicalStartIntents × PhysicalStartReservation) :=
  if intent.requestHash ≠ input.requestHash ∨ intent.flowDefinitionId ≠ input.definitionId then
    .error .physicalStartKeyConflict
  else if intent.status = .completed then .ok (intents, .completed intent.instanceId)
  else if Utc.ofStored intent.originalDeadlineAt ≤ input.now then
    .ok (intents, .expired intent.instanceId)
  else if ∃ expiry ∈ intent.claimExpiresAt, input.now < Utc.ofStored expiry then
    .ok (intents, .inProgress intent.instanceId)
  else
    .ok (intents.insert (intentKey input.organizationId input.keyHash)
      (intent.claim token input.now), .acquired intent.instanceId token)

/-- One transaction: the first call inserts the row, and the others find it. -/
def reservePhysicalStart (packages : PhysicalStartPackages) (intents : PhysicalStartIntents)
    (input : PhysicalStartReservationInput) (token : String) :
    Except RepositoryError (PhysicalStartIntents × PhysicalStartReservation) := do
  rejectIf (validSha256 input.keyHash = false ∨ validSha256 input.requestHash = false)
    .invalidReplayDigest
  rejectIf (¬ input.definitionSnapshot.Matches input.organizationId input.definitionId)
    .invalidPhysicalStartSnapshot
  rejectIf (isCanonicalUuid input.operationKey = true ∧ ∃ e ∈ intents.entries,
      (ofLex e.1).1 = input.organizationId ∧ e.2.instanceId = input.operationKey ∧
      (ofLex e.1).2 ≠ input.keyHash)
    .physicalStartKeyConflict
  match intents.get (intentKey input.organizationId input.keyHash) with
  | none => do
      rejectIf (∃ intent ∈ intents.values, intent.instanceId = input.proposedInstanceId)
        (.storage "duplicate instance")
      return (intents.insert (intentKey input.organizationId input.keyHash)
        (input.intent packages token), .acquired input.proposedInstanceId token)
  | some intent => reserveExisting intents input token intent

/-- The claim at its end. -/
def PhysicalStartIntent.complete (intent : PhysicalStartIntent) (now : Utc) :
    PhysicalStartIntent :=
  { intent with
    status := .completed
    claimToken := none
    claimExpiresAt := none
    updatedAt := now.stored }

/-- One transaction: it stores the instance and completes the claim, or it does neither. -/
def saveStartedPhysicalInstance (packages : Packages) (intents : PhysicalStartIntents)
    (instances : InstanceTable) (record : FlowInstanceRecord)
    (keyHash claimToken : String) :
    Except RepositoryError (PhysicalStartIntents × InstanceTable × Bool) := do
  rejectIf (validSha256 keyHash = false) .invalidReplayDigest
  validateInstanceRecord packages record
  let key := intentKey record.organizationId keyHash
  match instances.get record.id, intents.get key with
  | none, some intent =>
      if intent.instanceId = record.id ∧ intent.claimToken = some claimToken ∧
          intent.status = .pending then
        return (intents.insert key (intent.complete record.updatedAt),
          instances.put record, true)
      else return (intents, instances, false)
  | _, _ => return (intents, instances, false)

/-! ## The steps of a start -/

/-- The arguments of a call; what its request holds is the JSON of a client. -/
structure PhysicalStartInvocation where
  definition : FlowDefinitionRecord
  request : StartFlowRequest
  actor : String
  now : Utc
  clientKey : Option String
  wellFormed : request.toValue.WellFormed

structure PhysicalStartResult where
  record : FlowInstanceRecord
  created : Bool

/-- What a call that holds a claim goes by. -/
structure PhysicalStartClaim where
  keyHash : String
  instanceId : String
  token : String

inductive PhysicalStartCall
  | idle
  | reading (invocation : PhysicalStartInvocation)
  | reserving (invocation : PhysicalStartInvocation) (candidate : PhysicalStartSnapshot)
      (record : FlowInstanceRecord)
  | readingExisting (invocation : PhysicalStartInvocation) (keyHash instanceId : String)
  | readingOrigin (invocation : PhysicalStartInvocation) (claim : PhysicalStartClaim)
  | calling (invocation : PhysicalStartInvocation) (claim : PhysicalStartClaim)
      (origin : PhysicalStartIntent) (persisted : PhysicalStartSnapshot)
      (record : FlowInstanceRecord)
  | saving (invocation : PhysicalStartInvocation) (claim : PhysicalStartClaim)
      (record : FlowInstanceRecord)
  | done (result : PhysicalStarted PhysicalStartResult)

inductive PhysicalStartEvent
  | begin (invocation : PhysicalStartInvocation)
  /-- The prior snapshot is read, or one is captured; the instance gets a fresh name. -/
  | readPrior (providers : FlowProviderRegistry) (id : String)
  | reserve (token : String)
  | readExisting
  | readOrigin
  | callNative (providers : FlowProviderRegistry)
  | save
  /-- The caller crashes, or is through. -/
  | stop
  /-- Another statement of the service writes an instance. -/
  | write (record : FlowInstanceRecord)

section

variable (ι : Type)

structure Acquisition where
  caller : ι
  token : String
  now : Utc

structure NativeCall where
  caller : ι
  now : Utc
  request : StartFlowRequest
  snapshot : PhysicalStartSnapshot
  actor : String
  createdAt : Utc
  native : PhysicalDocumentRequest

structure Creation where
  caller : ι
  token : String
  now : Utc
  instanceId : String

/-- What the first reservation of a key was made with. -/
structure FirstReservation where
  request : StartFlowRequest
  definitionId : String
  instanceId : String
  snapshot : Value
  actor : String
  createdAt : DateTime
  deadline : DateTime

/-- The tables, with what has been done for each key. -/
structure PhysicalStartStore where
  intents : PhysicalStartIntents
  instances : InstanceTable
  first : IntentKey → Option FirstReservation
  acquired : IntentKey → List (Acquisition ι)
  nativeCalls : IntentKey → List (NativeCall ι)
  created : IntentKey → List (Creation ι)
  returned : IntentKey → List String

end

variable {ι : Type}

section

variable (packages : Packages) (startPackages : PhysicalStartPackages)

def PhysicalStartInvocation.key (invocation : PhysicalStartInvocation) (keyHash : String) :
    IntentKey :=
  intentKey invocation.request.organizationId keyHash

def decodeSnapshot (value : Value) (organizationId : String) :
    PhysicalStarted PhysicalStartSnapshot := do
  let snapshot ← okOr (startPackages.readSnapshot value) .storedIncomplete
  rejectIf (¬ snapshot.Matches organizationId snapshot.definition.id) .storedIncomplete
  return snapshot

/-- The snapshot of the key's row, when the client names a key that has one. -/
def priorSnapshot (intents : PhysicalStartIntents) (invocation : PhysicalStartInvocation) :
    PhysicalStarted (Option PhysicalStartSnapshot) :=
  match invocation.clientKey with
  | none => .ok none
  | some key => do
      let keyHash := keyHashOf startPackages key
      rejectIf (validSha256 keyHash = false) (.repository .invalidReplayDigest)
      match intents.get (invocation.key keyHash) with
      | none => return none
      | some intent => do
          let snapshot ← decodeSnapshot startPackages intent.definitionSnapshot
            invocation.request.organizationId
          return some snapshot

def candidateSnapshot (providers : FlowProviderRegistry) (definition : FlowDefinitionRecord) :
    Option PhysicalStartSnapshot → PhysicalStarted PhysicalStartSnapshot
  | some prior => .ok prior
  | none => (captureSnapshot providers definition).mapError .sideEffect

/-- The snapshot to reserve with, and the record that the start would make of it. -/
def prepareReservation (intents : PhysicalStartIntents) (invocation : PhysicalStartInvocation)
    (providers : FlowProviderRegistry) (id : String) :
    PhysicalStarted (PhysicalStartSnapshot × FlowInstanceRecord) := do
  let prior ← priorSnapshot startPackages intents invocation
  let candidate ← candidateSnapshot providers invocation.definition prior
  rejectIf (¬ candidate.Matches invocation.request.organizationId
    invocation.request.flowDefinitionId) .conflict
  let record ← (startInstanceRecord packages candidate.definition invocation.request
    invocation.actor invocation.now id).mapError .execution
  return (candidate, record)

def reservationInput (invocation : PhysicalStartInvocation) (candidate : PhysicalStartSnapshot)
    (record : FlowInstanceRecord) (deadline : Utc) : PhysicalStartReservationInput where
  organizationId := record.organizationId
  definitionId := record.flowDefinitionId
  operationKey := invocation.clientKey.getD record.id
  keyHash := keyHashOf startPackages (invocation.clientKey.getD record.id)
  requestHash := requestHashOf startPackages invocation.request
  definitionSnapshot := candidate
  initialActor := invocation.actor
  originalDeadlineAt := deadline
  generatedKey := invocation.clientKey.isNone
  proposedInstanceId := record.id
  now := invocation.now

def reserveError : RepositoryError → PhysicalStartError
  | .physicalStartKeyConflict => .conflict
  | other => .repository other

/-- What a call does next, by the answer to its reservation. -/
def afterReservation (invocation : PhysicalStartInvocation) (keyHash : String) :
    PhysicalStartReservation → PhysicalStartCall
  | .inProgress _ => .done (.error .inProgress)
  | .expired _ => .done (.error .expired)
  | .completed instanceId => .readingExisting invocation keyHash instanceId
  | .acquired instanceId token => .readingOrigin invocation ⟨keyHash, instanceId, token⟩

/-- The instance that another call has created. -/
def readExistingInstance (instances : InstanceTable)
    (invocation : PhysicalStartInvocation) (instanceId : String) :
    PhysicalStarted PhysicalStartResult := do
  let existing ← okOr (instances.get instanceId) .storedIncomplete
  rejectIf (existing.organizationId ≠ invocation.request.organizationId ∨
    existing.flowDefinitionId ≠ invocation.request.flowDefinitionId) .storedIncomplete
  return ⟨existing, false⟩

/-- What is taken from the row: the snapshot, and the record of its time and actor. -/
def prepareNative (intents : PhysicalStartIntents) (invocation : PhysicalStartInvocation)
    (claim : PhysicalStartClaim) :
    PhysicalStarted (PhysicalStartIntent × PhysicalStartSnapshot × FlowInstanceRecord) := do
  rejectIf (validSha256 claim.keyHash = false) (.repository .invalidReplayDigest)
  let origin ← okOr (intents.get (invocation.key claim.keyHash)) .storedIncomplete
  let persisted ← decodeSnapshot startPackages origin.definitionSnapshot
    invocation.request.organizationId
  rejectIf (¬ persisted.Matches invocation.request.organizationId
    invocation.request.flowDefinitionId) .storedIncomplete
  rejectIf (Utc.ofStored origin.originalDeadlineAt ≤ invocation.now) .expired
  let record ← (startInstanceRecord packages persisted.definition invocation.request
    origin.initialActor (Utc.ofStored origin.createdAt) claim.instanceId).mapError .execution
  return (origin, persisted, record)

end

namespace PhysicalStartStore

def withFirst (s : PhysicalStartStore ι) (key : IntentKey) (first : FirstReservation) :
    PhysicalStartStore ι :=
  { s with first := Function.update s.first key (some ((s.first key).getD first)) }

def acquire (s : PhysicalStartStore ι) (key : IntentKey) (acquisition : Acquisition ι) :
    PhysicalStartStore ι :=
  { s with acquired := Function.update s.acquired key (s.acquired key ++ [acquisition]) }

def logCall (s : PhysicalStartStore ι) (key : IntentKey) (call : NativeCall ι) :
    PhysicalStartStore ι :=
  { s with nativeCalls := Function.update s.nativeCalls key (s.nativeCalls key ++ [call]) }

def create (s : PhysicalStartStore ι) (key : IntentKey) (creation : Creation ι) :
    PhysicalStartStore ι :=
  { s with created := Function.update s.created key (s.created key ++ [creation]) }

def answer (s : PhysicalStartStore ι) (key : IntentKey) (id : String) : PhysicalStartStore ι :=
  { s with returned := Function.update s.returned key (s.returned key ++ [id]) }

end PhysicalStartStore

section

variable (packages : Packages) (startPackages : PhysicalStartPackages)

/-- The reservation of a call; its token is random and has not been drawn before. -/
def reserveStep (i : ι) (token : String) (s : PhysicalStartStore ι)
    (invocation : PhysicalStartInvocation) (candidate : PhysicalStartSnapshot)
    (record : FlowInstanceRecord) : Option (PhysicalStartStore ι × PhysicalStartCall) :=
  match record.expiresAt with
  | none => some (s, .done (.error .storedIncomplete))
  | some deadline =>
    let input := reservationInput startPackages invocation candidate record deadline
    let key := intentKey input.organizationId input.keyHash
    match reservePhysicalStart startPackages s.intents input token with
    | .error error => some (s, .done (.error (reserveError error)))
    | .ok (intents, .acquired instanceId claimToken) =>
      if token ∈ (s.acquired key).map (·.token) then none
      else
        let first : FirstReservation := ⟨invocation.request, input.definitionId,
          input.proposedInstanceId, startPackages.writeSnapshot candidate, invocation.actor,
          invocation.now.stored, deadline.stored⟩
        some ((({ s with intents := intents }).withFirst key first).acquire key
            ⟨i, token, invocation.now⟩,
          afterReservation invocation input.keyHash (.acquired instanceId claimToken))
    | .ok (intents, answer) =>
      some ({ s with intents := intents }, afterReservation invocation input.keyHash answer)

/-- The call of the native provider, and what is taken over from its answer. -/
def nativeStep (i : ι) (providers : FlowProviderRegistry) (s : PhysicalStartStore ι)
    (invocation : PhysicalStartInvocation) (claim : PhysicalStartClaim)
    (origin : PhysicalStartIntent) (persisted : PhysicalStartSnapshot)
    (record : FlowInstanceRecord) : PhysicalStartStore ι × PhysicalStartCall :=
  match initialRequest providers persisted.definition record (some claim.instanceId)
      (some persisted.issuerDid), requireProvider providers.physicalDocument "physical_document" with
  | .error error, _ => (s, .done (.error (.sideEffect error)))
  | _, .error error => (s, .done (.error (.sideEffect error)))
  | .ok request, .ok provider =>
    (s.logCall (invocation.key claim.keyHash) ⟨i, invocation.now, invocation.request, persisted,
        origin.initialActor, Utc.ofStored origin.createdAt, request⟩,
      match (provider request).mapError .provider >>= takeInitialAnswer record with
      | .error error => .done (.error (.sideEffect error))
      | .ok record => .saving invocation claim record)

def saveStep (i : ι) (s : PhysicalStartStore ι) (invocation : PhysicalStartInvocation)
    (claim : PhysicalStartClaim) (record : FlowInstanceRecord) :
    PhysicalStartStore ι × PhysicalStartCall :=
  match saveStartedPhysicalInstance packages s.intents s.instances record claim.keyHash
      claim.token with
  | .error error => (s, .done (.error (.repository error)))
  | .ok (_, _, false) => (s, .done (.error .conflict))
  | .ok (intents, instances, true) =>
    let key := intentKey record.organizationId claim.keyHash
    ((({ s with intents := intents, instances := instances }).create key
        ⟨i, claim.token, invocation.now, record.id⟩).answer key record.id,
      .done (.ok ⟨record, true⟩))

def physicalStartStep (i : ι) (e : PhysicalStartEvent) (s : PhysicalStartStore ι)
    (call : PhysicalStartCall) : Option (PhysicalStartStore ι × PhysicalStartCall) :=
  match e, call with
  | .begin invocation, .idle =>
    match validatedClientKey invocation.clientKey with
    | .error error => some (s, .done (.error error))
    | .ok _ => some (s, .reading invocation)
  | .readPrior providers id, .reading invocation =>
    match prepareReservation packages startPackages s.intents invocation providers id with
    | .error error => some (s, .done (.error error))
    | .ok (candidate, record) => some (s, .reserving invocation candidate record)
  | .reserve token, .reserving invocation candidate record =>
    reserveStep startPackages i token s invocation candidate record
  | .readExisting, .readingExisting invocation keyHash instanceId =>
    match readExistingInstance s.instances invocation instanceId with
    | .error error => some (s, .done (.error error))
    | .ok result =>
      some (s.answer (invocation.key keyHash) result.record.id, .done (.ok result))
  | .readOrigin, .readingOrigin invocation claim =>
    match prepareNative packages startPackages s.intents invocation claim with
    | .error error => some (s, .done (.error error))
    | .ok (origin, persisted, record) =>
      some (s, .calling invocation claim origin persisted record)
  | .callNative providers, .calling invocation claim origin persisted record =>
    some (nativeStep i providers s invocation claim origin persisted record)
  | .save, .saving invocation claim record => some (saveStep packages i s invocation claim record)
  | .stop, _ => some (s, .idle)
  | .write record, _ =>
    some ({ s with instances := s.instances.put record }, call)
  | _, _ => none

def physicalStartMachine :
    Machine (PhysicalStartStore ι) ι PhysicalStartEvent PhysicalStartCall :=
  ⟨physicalStartStep packages startPackages⟩

/-- No key has been reserved, whatever instances there are. -/
def physicalStartInit (instances : InstanceTable) :
    Config (PhysicalStartStore ι) ι PhysicalStartCall :=
  ⟨⟨BTreeMap.empty, instances, fun _ => none, fun _ => [], fun _ => [], fun _ => [],
    fun _ => []⟩, fun _ => .idle⟩

end

end Marty.Flow
