import Marty.Issuance.Credentials
import Marty.Lib.Checked
import Marty.Lib.Delivery
import Marty.Lib.Interleaving
import Marty.Lib.Table
import Marty.Lib.Text
import Marty.Lib.Uuid

/-!
# Native DIDComm delivery of a credential

A credential that is delivered over DIDComm is staged together with its encrypted message,
and whoever sends the message has first to claim the transport.  A claim is an attempt with
an identifier of its own and a lease, both kept in the metadata of the delivery; the outcome
of an attempt is written under its identifier.  After the transport has succeeded the
delivery is projected as delivered.

## Main definitions

* `DeliveryRow` — a row of the table of deliveries, of every target.
* `stageDelivery`, `claimTransport`, `finishTransportClaim`, `upsertDelivery` — the operations.
* `deliveryStep` — the steps of `deliver_native`.
* `deliveryMachine` — any number of calls, their crashes, and the other writers of the table.
-/

namespace Marty.Issuance.Didcomm

open Lib Lib.Checked

/-! ## Rows and records -/

/-- The statuses that the native delivery knows, and whatever other targets use. -/
inductive DeliveryStatus
  | transportReady
  | transportRetryable
  | transporting
  | transported
  | deliveryUnknown
  | delivered
  | pending
  | failed
  | other (text : String)
  deriving DecidableEq, Repr

def didcommV2 : String := "didcomm_v2"

/-- A row of `credential_delivery_records`. -/
structure DeliveryRow where
  id : String
  credentialId : String
  transactionId : String
  organizationId : String
  deliveryTarget : String
  deliveryMode : String
  status : DeliveryStatus
  canvasAccountId : Option String
  lastError : Option String
  metadata : Json.Map
  createdAt : DateTime
  updatedAt : DateTime
  deriving DecidableEq

structure StagedDelivery where
  holderDid : String
  serviceEndpoint : String
  messageId : String
  encryptedMessage : String
  deriving DecidableEq, Repr

structure PendingDelivery where
  transaction : CredentialTransaction
  credential : IssuedCredential
  delivery : StagedDelivery
  transported : Bool
  deriving DecidableEq

structure DeliveredDelivery where
  transactionId : String
  organizationId : String
  credentialId : String
  holderDid : String
  serviceEndpoint : String
  messageId : String
  deriving DecidableEq, Repr

/-- The right to send a staged message once. -/
structure TransportClaim where
  pending : PendingDelivery
  deliveryId : String
  attemptId : String
  deriving DecidableEq

inductive TransportFailure
  | generic
  | httpStatus (status : Nat)
  deriving DecidableEq, Repr

inductive TransportOutcome
  | delivered
  | failed
  | tlsUnavailable
  | outcomeUnknown (failure : TransportFailure)
  deriving DecidableEq, Repr

inductive TransportClaimOutcome
  | claimed (claim : TransportClaim)
  | transported (pending : PendingDelivery)
  | delivered (delivered : DeliveredDelivery)
  | busy
  | outcomeUnknown (pending : PendingDelivery) (failure : TransportFailure)
  | bindingMismatch
  | absent
  deriving DecidableEq

/-- What a statement fails with; every failure of the repository is reported alike. -/
inductive RepositoryError
  | unavailable
  deriving DecidableEq, Repr

inductive NativeDidcommError
  | resolutionUnavailable
  | mismatchedDocument
  | missingEndpoint
  | invalidEndpoint
  | httpsRequired
  | endpointUnresolvable
  | endpointNotPublic
  | encryptionPolicyUnavailable
  | capabilityUnavailable
  | senderAuthenticationUnavailable
  | incompatibleKeyAgreement
  | packUnavailable
  | tlsUnavailable
  | transportUnavailable
  deriving DecidableEq, Repr

inductive DeliveryError
  | invalidRequest
  | invalidTransactionState (status : CredentialTransactionStatus)
  | didcommUnavailable
  | prerequisite (reason : NativeDidcommError)
  | credentialUnavailable
  | retiredOpenBadge
  | concurrentDelivery
  | deliveryOutcomeUnknown
  | postIssuanceUnavailable
  | retryStateUnavailable
  deriving DecidableEq, Repr

structure DeliveryReceipt where
  transactionId : String
  credentialId : String
  holderDid : String
  serviceEndpoint : String
  messageId : String
  delivered : Bool
  error : Option String
  deriving DecidableEq, Repr

def genericPublicError : String := "DIDComm transport failed"

def TransportFailure.publicError : TransportFailure → String
  | .generic => genericPublicError
  | .httpStatus status => "HTTP " ++ toString status

/-- The digits of an unsigned sixteen bit number, with or without a sign. -/
def parseU16 (text : String) : Option Nat :=
  (Json.Value.readDigits ((Text.stripPrefix text "+").getD text).toList).filter (· < 2 ^ 16)

def TransportFailure.fromPersistedError (error : Option String) : TransportFailure :=
  let status := error.bind fun value =>
    ((Text.stripPrefix value "HTTP ").bind parseU16).filter fun status =>
      decide (400 ≤ status ∧ status ≤ 599) && value == "HTTP " ++ toString status
  status.elim .generic .httpStatus

/-! ## What is not part of the delivery -/

/-- The moments whose year is written with four digits. -/
def FourDigitYear (t : DateTime) : Prop :=
  seconds (-62135596800) ≤ t ∧ t < seconds 253402300800

instance (t : DateTime) : Decidable (FourDigitYear t) := by
  unfold FourDigitYear
  infer_instance

/-- What the delivery uses: the names of identifiers, the checks of credentials and of
documents, and the text of a moment as the database writes it into a JSON document and as
it is read back. -/
structure Services where
  uuidV5 : String → String
  containsPrivateKey : Json.Value → Bool
  retiredOpenBadge : CredentialTransaction → Option String → Bool
  leaseText : DateTime → String
  readLease : String → Option DateTime
  readLease_leaseText : ∀ t, FourDigitYear t → readLease (leaseText t) = some t

variable (services : Services)

/-! ## The metadata of a delivery -/

/-- `metadata ->> key`, of an entry that is a text, as all that are compared are. -/
def metadataText (metadata : Json.Map) (key : String) : Option String :=
  (metadata.get key).bind Json.Value.asStr

def metadataRequiredText (metadata : Json.Map) (name : String) :
    Except RepositoryError String :=
  okOr (((metadataText metadata name).map Text.trim).filter (· ≠ "")) .unavailable

def attemptKey : String := "didcomm_transport_attempt_id"

def leaseKey : String := "didcomm_transport_lease_expires_at"

def StagedDelivery.metadata (delivery : StagedDelivery) : Json.Map :=
  [("protocol", .string didcommV2), ("holder_did", .string delivery.holderDid),
    ("service_endpoint", .string delivery.serviceEndpoint),
    ("didcomm_message_id", .string delivery.messageId),
    ("encrypted_message", .string delivery.encryptedMessage)]

/-- The metadata without the attempt and its lease. -/
def unclaimed (metadata : Json.Map) : Json.Map := (metadata.remove attemptKey).remove leaseKey

/-- The row still has the texts that were read of it. -/
def DeliveryRow.hasTexts (delivery : StagedDelivery) (row : DeliveryRow) : Bool :=
  metadataText row.metadata "holder_did" == some delivery.holderDid &&
    metadataText row.metadata "service_endpoint" == some delivery.serviceEndpoint &&
    metadataText row.metadata "didcomm_message_id" == some delivery.messageId &&
    metadataText row.metadata "encrypted_message" == some delivery.encryptedMessage

/-- The row is the delivery of this credential by this transaction. -/
def DeliveryRow.delivers (id : String) (pending : PendingDelivery) (row : DeliveryRow) : Bool :=
  row.id == id && row.credentialId == pending.credential.id &&
    row.transactionId == pending.transaction.id &&
    row.organizationId == pending.transaction.organizationId && row.deliveryTarget == didcommV2

/-! ## Staging -/

def stagedRow (transaction : CredentialTransaction) (credential : IssuedCredential)
    (delivery : StagedDelivery) (clock : StatementClock) : DeliveryRow where
  id := deliveryRecordId services.uuidV5 credential.id didcommV2 none
  credentialId := credential.id
  transactionId := transaction.id
  organizationId := transaction.organizationId
  deliveryTarget := didcommV2
  deliveryMode := transaction.deliveryMode
  status := .transportReady
  canvasAccountId := none
  lastError := none
  metadata := delivery.metadata
  createdAt := clock.reads 0
  updatedAt := clock.reads 1

/-- `finalized` is whether the credential could be finalized in the same transaction. -/
def stageDelivery (transaction : CredentialTransaction) (credential : IssuedCredential)
    (delivery : StagedDelivery) (finalized : Bool) (clock : StatementClock)
    (rows : List DeliveryRow) : Except RepositoryError (List DeliveryRow) := do
  rejectIf (services.containsPrivateKey (.object delivery.metadata)) .unavailable
  rejectIf (finalized = false) .unavailable
  let row := stagedRow services transaction credential delivery clock
  rejectIf (rows.any fun r => r.id == row.id) .unavailable
  return rows ++ [row]

/-! ## Claiming the transport -/

def transportClaimLeaseSeconds : Int := 60

def DeliveryRow.outcomeUnknown (now : DateTime) (row : DeliveryRow) : DeliveryRow :=
  { row with
    status := .deliveryUnknown
    lastError := some genericPublicError
    metadata := unclaimed row.metadata
    updatedAt := now }

def markLockedOutcomeUnknown (deliveryId : String) (now : DateTime) (rows : List DeliveryRow) :
    Except RepositoryError (List DeliveryRow) :=
  let unsettled := fun row : DeliveryRow => row.id == deliveryId &&
    row.deliveryTarget == didcommV2 &&
    (row.status == .transporting || row.status == .pending || row.status == .failed)
  if (Table.updated rows unsettled (DeliveryRow.outcomeUnknown now)).length ≠ 1 then
    .error .unavailable
  else .ok (Table.update rows unsettled (DeliveryRow.outcomeUnknown now))

def leaseExpiry (clock : StatementClock) : DateTime :=
  clock.reads 1 + seconds transportClaimLeaseSeconds

def DeliveryRow.claimedBy (attemptId lease : String) (now : DateTime) (row : DeliveryRow) :
    DeliveryRow :=
  { row with
    status := .transporting
    lastError := none
    metadata := (unclaimed row.metadata).extend
      [(attemptKey, .string attemptId), (leaseKey, .string lease)]
    updatedAt := now }

/-- The lease of a row that is being transported, when there is an attempt with one. -/
def DeliveryRow.leaseDeadline (row : DeliveryRow) : Option DateTime :=
  (((metadataText row.metadata attemptKey).map Text.trim).filter Uuid.parses).bind fun _ =>
    (metadataText row.metadata leaseKey).bind services.readLease

/-- The branches over the status of the row that was found. -/
def claimPending (row : DeliveryRow) (pending : PendingDelivery) (clock : StatementClock)
    (attemptId : String) (rows : List DeliveryRow) :
    Except RepositoryError (List DeliveryRow × TransportClaimOutcome) :=
  match row.status with
  | .pending | .failed => do
      let rows' ← markLockedOutcomeUnknown row.id (clock.reads 1) rows
      return (rows', .outcomeUnknown pending .generic)
  | .transported => .ok (rows, .transported pending)
  | .deliveryUnknown =>
      .ok (rows, .outcomeUnknown pending (TransportFailure.fromPersistedError row.lastError))
  | .transporting =>
      if (row.leaseDeadline services).any fun deadline => decide (clock.reads 0 < deadline) then
        .ok (rows, .busy)
      else do
        let rows' ← markLockedOutcomeUnknown row.id (clock.reads 1) rows
        return (rows', .outcomeUnknown pending .generic)
  | .transportReady | .transportRetryable =>
      let claimable := fun r : DeliveryRow =>
        r.delivers row.id pending && r.status == row.status && r.hasTexts pending.delivery
      let claim := DeliveryRow.claimedBy attemptId (services.leaseText (leaseExpiry clock))
        (clock.reads 2)
      if (Table.updated rows claimable claim).length ≠ 1 then .error .unavailable
      else .ok (Table.update rows claimable claim, .claimed ⟨pending, row.id, attemptId⟩)
  | .delivered | .other _ => .error .unavailable

/-- `SELECT … FOR UPDATE`: the DIDComm deliveries of a transaction. -/
def deliveriesOf (organizationId transactionId : String) (rows : List DeliveryRow) :
    List DeliveryRow :=
  rows.filter fun row => row.transactionId == transactionId &&
    row.organizationId == organizationId && row.deliveryTarget == didcommV2

/-- `found` is what the transaction and the credential of the row are read as. -/
def claimTransport (organizationId transactionId holderDid : String)
    (found : Except RepositoryError (Option (CredentialTransaction × IssuedCredential)))
    (clock : StatementClock) (attemptId : String) (rows : List DeliveryRow) :
    Except RepositoryError (List DeliveryRow × TransportClaimOutcome) :=
  match deliveriesOf organizationId transactionId rows with
  | [] => .ok (rows, .absent)
  | _ :: _ :: _ => .error .unavailable
  | [row] => do
      rejectIf (services.containsPrivateKey (.object row.metadata) ∨
        row.lastError.any fun text => services.containsPrivateKey (.string text)) .unavailable
      let holder ← metadataRequiredText row.metadata "holder_did"
      let serviceEndpoint ← metadataRequiredText row.metadata "service_endpoint"
      let messageId ← metadataRequiredText row.metadata "didcomm_message_id"
      if row.transactionId ≠ transactionId ∨ row.organizationId ≠ organizationId ∨
          holder ≠ holderDid then
        return (rows, .bindingMismatch)
      else match ← found with
        | none => return (rows, .bindingMismatch)
        | some (transaction, credential) =>
            if transaction.status ≠ .issued ∨ credential.id ≠ row.credentialId ∨
                row.id ≠ deliveryRecordId services.uuidV5 credential.id didcommV2 none ∨
                credential.id ≠ reservedCredentialId services.uuidV5 transaction ∨
                credential.transactionId ≠ transaction.id ∨
                credential.organizationId ≠ transaction.organizationId then
              return (rows, .bindingMismatch)
            else if row.status = .delivered then
              return (rows, .delivered ⟨transaction.id, transaction.organizationId,
                row.credentialId, holder, serviceEndpoint, messageId⟩)
            else do
              let encryptedMessage ← metadataRequiredText row.metadata "encrypted_message"
              let delivery := ⟨holder, serviceEndpoint, messageId, encryptedMessage⟩
              let pending := ⟨transaction, credential, delivery, row.status = .transported⟩
              claimPending services row pending clock attemptId rows

/-! ## The outcome of an attempt -/

def DeliveryRow.finished (status : DeliveryStatus) (lastError : Option String) (now : DateTime)
    (row : DeliveryRow) : DeliveryRow :=
  { row with
    status := status
    lastError := lastError
    metadata := unclaimed row.metadata
    updatedAt := now }

/-- The row is in the attempt of the claim. -/
def DeliveryRow.inAttempt (claim : TransportClaim) (row : DeliveryRow) : Bool :=
  row.delivers claim.deliveryId claim.pending && row.status == .transporting &&
    metadataText row.metadata attemptKey == some claim.attemptId &&
    row.hasTexts claim.pending.delivery

def finishTransportClaim (claim : TransportClaim) (status : DeliveryStatus)
    (lastError : Option String) (now : DateTime) (rows : List DeliveryRow) :
    Except RepositoryError (List DeliveryRow) :=
  let finish := DeliveryRow.finished status lastError now
  if (Table.updated rows (DeliveryRow.inAttempt claim) finish).length ≠ 1 then
    .error .unavailable
  else .ok (Table.update rows (DeliveryRow.inAttempt claim) finish)

/-- What `mark_transport_*` is told. -/
inductive Mark
  | succeeded
  | unattempted
  | outcomeUnknown (failure : TransportFailure)
  deriving DecidableEq, Repr

def Mark.status : Mark → DeliveryStatus
  | .succeeded => .transported
  | .unattempted => .transportRetryable
  | .outcomeUnknown _ => .deliveryUnknown

def Mark.lastError : Mark → Option String
  | .succeeded => none
  | .unattempted => some genericPublicError
  | .outcomeUnknown failure => some failure.publicError

def markTransport (claim : TransportClaim) (mark : Mark) (now : DateTime)
    (rows : List DeliveryRow) : Except RepositoryError (List DeliveryRow) :=
  finishTransportClaim claim mark.status mark.lastError now rows

/-! ## Projecting a transported delivery -/

def isTransported (pending : PendingDelivery) (rows : List DeliveryRow) : Bool :=
  rows.any fun row =>
    row.id == deliveryRecordId services.uuidV5 pending.credential.id didcommV2 none &&
      row.credentialId == pending.credential.id && row.transactionId == pending.transaction.id &&
      row.organizationId == pending.credential.organizationId &&
      row.deliveryTarget == didcommV2 && row.status == .transported &&
      metadataText row.metadata "service_endpoint" == some pending.delivery.serviceEndpoint &&
      metadataText row.metadata "didcomm_message_id" == some pending.delivery.messageId

/-- What becomes of a row when `row` conflicts with it. -/
def DeliveryRow.mergedInto (excluded row : DeliveryRow) : DeliveryRow :=
  { row with
    credentialId := excluded.credentialId
    transactionId := excluded.transactionId
    organizationId := excluded.organizationId
    deliveryTarget := excluded.deliveryTarget
    deliveryMode := excluded.deliveryMode
    status := excluded.status
    canvasAccountId := excluded.canvasAccountId
    lastError := excluded.lastError
    metadata := if excluded.deliveryTarget = didcommV2 then
        excluded.metadata.insert "holder_did" ((row.metadata.get "holder_did").getD .null)
      else excluded.metadata
    updatedAt := excluded.updatedAt }

/-- `INSERT … ON CONFLICT (id) DO UPDATE … WHERE …`. -/
def upsertDelivery (excluded : DeliveryRow) (rows : List DeliveryRow) :
    Except RepositoryError (List DeliveryRow) :=
  if rows.any fun row => row.id == excluded.id then
    let writable := fun row : DeliveryRow => row.id == excluded.id &&
      (excluded.deliveryTarget != didcommV2 || row.status == .transported)
    if (Table.updated rows writable excluded.mergedInto).length ≠ 1 then .error .unavailable
    else .ok (Table.update rows writable excluded.mergedInto)
  else .ok (rows ++ [excluded])

/-- The row that the projection of a transported delivery writes. -/
def deliveredRow (pending : PendingDelivery) (clock : StatementClock) : DeliveryRow where
  id := deliveryRecordId services.uuidV5 pending.credential.id didcommV2 none
  credentialId := pending.credential.id
  transactionId := pending.transaction.id
  organizationId := pending.credential.organizationId
  deliveryTarget := didcommV2
  deliveryMode := pending.transaction.deliveryMode
  status := .delivered
  canvasAccountId := none
  lastError := none
  metadata :=
    [("protocol", .string didcommV2),
      ("service_endpoint", .string pending.delivery.serviceEndpoint),
      ("didcomm_message_id", .string pending.delivery.messageId)]
  createdAt := clock.reads 0
  updatedAt := clock.reads 1

/-! ## `deliver_native` -/

/-- `pending_delivery_matches_request`, and the credential is that of the transaction. -/
def PendingDelivery.matchesRequest (pending : PendingDelivery)
    (transaction : CredentialTransaction) (holderDid : String) : Bool :=
  ([pending.credential.id, pending.delivery.holderDid, pending.delivery.serviceEndpoint,
      pending.delivery.messageId, pending.delivery.encryptedMessage].all fun value =>
      Text.trim value != "") &&
    pending.transaction.id == transaction.id &&
    pending.transaction.organizationId == transaction.organizationId &&
    pending.credential.transactionId == transaction.id &&
    pending.credential.organizationId == transaction.organizationId &&
    pending.credential.id == reservedCredentialId services.uuidV5 pending.transaction &&
    pending.delivery.holderDid == holderDid &&
    pending.credential.id == reservedCredentialId services.uuidV5 transaction

def DeliveredDelivery.matchesRequest (delivered : DeliveredDelivery)
    (transaction : CredentialTransaction) (holderDid : String) : Bool :=
  ([delivered.credentialId, delivered.holderDid, delivered.serviceEndpoint,
      delivered.messageId].all fun value => Text.trim value != "") &&
    delivered.transactionId == transaction.id &&
    delivered.organizationId == transaction.organizationId &&
    delivered.credentialId == reservedCredentialId services.uuidV5 transaction &&
    delivered.holderDid == holderDid

def PendingDelivery.receipt (pending : PendingDelivery) (delivered : Bool)
    (error : Option String) : DeliveryReceipt where
  transactionId := pending.transaction.id
  credentialId := pending.credential.id
  holderDid := pending.delivery.holderDid
  serviceEndpoint := pending.delivery.serviceEndpoint
  messageId := pending.delivery.messageId
  delivered := delivered
  error := error

def PendingDelivery.failedReceipt (pending : PendingDelivery) (failure : TransportFailure) :
    DeliveryReceipt :=
  pending.receipt false (some failure.publicError)

def PendingDelivery.deliveredReceipt (pending : PendingDelivery) : DeliveryReceipt :=
  pending.receipt true none

def DeliveredDelivery.terminalReceipt (delivered : DeliveredDelivery) : DeliveryReceipt where
  transactionId := delivered.transactionId
  credentialId := delivered.credentialId
  holderDid := delivered.holderDid
  serviceEndpoint := delivered.serviceEndpoint
  messageId := delivered.messageId
  delivered := true
  error := none

/-- A credential that is signed, and its encrypted message, ready to be staged. -/
structure Prepared where
  transaction : CredentialTransaction
  credential : IssuedCredential
  endpoint : String
  messageId : String
  encryptedMessage : String
  deriving DecidableEq

/-- Where a call of `deliver_native` is.  An endpoint is there once it has been validated for
a message that the call has staged itself. -/
inductive Phase
  | idle
  | claiming (transaction : CredentialTransaction) (holderDid : String)
      (endpoint : Option String)
  | preparing (transaction : CredentialTransaction) (holderDid : String)
  | staging (prepared : Prepared) (holderDid : String)
  | validating (claim : TransportClaim)
  | ready (claim : TransportClaim) (endpoint : String)
  | sending (claim : TransportClaim) (endpoint : String)
  | posted (claim : TransportClaim)
  /-- The outcome is to be marked, and then the call ends. -/
  | marking (claim : TransportClaim) (mark : Mark) (answer : Except DeliveryError DeliveryReceipt)
  | markingSucceeded (claim : TransportClaim)
  /-- The success could not be marked. -/
  | salvaging (claim : TransportClaim)
  | projecting (pending : PendingDelivery)
  | upserting (pending : PendingDelivery)
  | ended (answer : Except DeliveryError DeliveryReceipt)

/-- `reject_retired_delivery_work`: the outcome is refused when a credential is to be
activated and is retired. -/
def retiredWork (transaction : CredentialTransaction) (outcome : TransportClaimOutcome) : Bool :=
  let retired := fun pending : PendingDelivery =>
    services.retiredOpenBadge transaction none ||
      services.retiredOpenBadge pending.transaction (some pending.credential.credential)
  match outcome with
  | .claimed claim => retired claim.pending
  | .transported pending => retired pending
  | .absent => services.retiredOpenBadge transaction none
  | .delivered _ | .outcomeUnknown _ _ | .busy | .bindingMismatch => false

/-- A claim that was made for the request goes on, any other is left to expire. -/
def Phase.checked (transaction : CredentialTransaction) (holderDid : String)
    (pending : PendingDelivery) (next : Phase) : Phase :=
  if pending.matchesRequest services transaction holderDid then next
  else .ended (.error .invalidRequest)

/-- What the call does after `claim_transport` has answered. -/
def afterClaim (transaction : CredentialTransaction) (holderDid : String)
    (endpoint : Option String) (outcome : TransportClaimOutcome) : Phase :=
  if retiredWork services transaction outcome then
    match outcome with
    | .claimed claim => .marking claim .unattempted (.error .retiredOpenBadge)
    | _ => .ended (.error .retiredOpenBadge)
  else match outcome, endpoint with
    | .claimed claim, none =>
        Phase.checked services transaction holderDid claim.pending (.validating claim)
    | .claimed claim, some endpoint =>
        Phase.checked services transaction holderDid claim.pending (.ready claim endpoint)
    | .transported pending, none =>
        Phase.checked services transaction holderDid pending (.projecting pending)
    | .transported pending, some _ => .projecting pending
    | .delivered delivered, _ =>
        if delivered.matchesRequest services transaction holderDid then
          .ended (.ok delivered.terminalReceipt)
        else .ended (.error .invalidRequest)
    | .busy, _ => .ended (.error .concurrentDelivery)
    | .outcomeUnknown pending failure, _ =>
        Phase.checked services transaction holderDid pending
          (.ended (.ok (pending.failedReceipt failure)))
    | .bindingMismatch, _ => .ended (.error .invalidRequest)
    | .absent, none =>
        if transaction.status = .pending ∨ transaction.status = .authorized then
          .preparing transaction holderDid
        else .ended (.error (.invalidTransactionState transaction.status))
    | .absent, some _ => .ended (.error .retryStateUnavailable)

/-- The outcome of a request that was sent: the status of its response, if one came. -/
def responseOutcome : Option Nat → TransportOutcome
  | some status =>
      if status < 400 then .delivered else .outcomeUnknown (.httpStatus status)
  | none => .outcomeUnknown .generic

/-- `deliver_claimed` after the transport has answered. -/
def afterTransport (claim : TransportClaim) : TransportOutcome → Phase
  | .delivered => .markingSucceeded claim
  | .failed => .marking claim .unattempted (.ok (claim.pending.failedReceipt .generic))
  | .tlsUnavailable => .marking claim .unattempted (.error (.prerequisite .tlsUnavailable))
  | .outcomeUnknown failure =>
      .marking claim (.outcomeUnknown failure) (.ok (claim.pending.failedReceipt failure))

/-- What is reported when an outcome could not be marked. -/
def Mark.refusal : Mark → DeliveryError
  | .unattempted => .retryStateUnavailable
  | .succeeded | .outcomeUnknown _ => .deliveryOutcomeUnknown

/-! ## Calls -/

/-- What has happened so far: the deliveries that were staged, and what was done in attempts
by the calls that have claimed them. -/
inductive Act (ι : Type*)
  | staged (deliveryId : String) (delivery : StagedDelivery)
  | claimed (holder : ι) (deliveryId attemptId : String) (expires : DateTime)
  /-- A claimer found the lease of the attempt expired. -/
  | lapsed (deliveryId attemptId : String) (now : DateTime)
  | sent (holder : ι) (deliveryId attemptId : String)
  | posted (holder : ι) (deliveryId attemptId endpoint message : String)
  | recorded (holder : ι) (deliveryId attemptId : String) (status : DeliveryStatus)
  deriving DecidableEq

/-- The table, with what has happened so far. -/
structure Store (ι : Type*) where
  rows : List DeliveryRow
  acts : List (Act ι)

inductive Event
  /-- The call is gone, with what it held; a later request is another call. -/
  | crash
  | request (transaction : CredentialTransaction) (holderDid : String)
  | claim (reply : Delivery)
      (found : Except RepositoryError (Option (CredentialTransaction × IssuedCredential)))
      (clock : StatementClock) (attemptId : String)
  /-- The credential is materialized, packed and encrypted, or one of these fails. -/
  | prepare (answer : Except DeliveryError Prepared)
  | stage (reply : Delivery) (finalized released : Bool) (clock : StatementClock)
  | validate (answer : Except NativeDidcommError String)
  /-- The transport is called. -/
  | send
  /-- The transport fails before it has made a request. -/
  | unsent (tls : Bool)
  | post
  | response (status : Option Nat)
  | mark (reply : Delivery) (now : DateTime)
  /-- A step of `after_didcomm_issued` outside of this table fails. -/
  | unprojected
  | checkTransported (reply : Delivery)
  | upsert (reply : Delivery) (clock : StatementClock)
  /-- A delivery to another target is written. -/
  | mirror (row : DeliveryRow)

/-- The attempt of a row, as it stands in the metadata. -/
def DeliveryRow.attempt (row : DeliveryRow) : String :=
  (metadataText row.metadata attemptKey).getD ""

/-- What a claim adds to what has happened. -/
def claimActs {ι : Type*} (i : ι) (clock : StatementClock) (rows : List DeliveryRow) :
    TransportClaimOutcome → List (Act ι)
  | .claimed claim => [.claimed i claim.deliveryId claim.attemptId (leaseExpiry clock)]
  | .outcomeUnknown pending _ =>
      (rows.filter fun row =>
        row.id == deliveryRecordId services.uuidV5 pending.credential.id didcommV2 none &&
          row.status == .transporting).map fun row => .lapsed row.id row.attempt (clock.reads 0)
  | _ => []


variable {ι : Type*}

def Act.claims (attemptId : String) : Act ι → Bool
  | .claimed _ _ attempt _ => attempt == attemptId
  | _ => false

/-- The clock shows a year of four digits, and the drawn attempt is a new UUID. -/
def claimDrawn (acts : List (Act ι)) (clock : StatementClock) (attemptId : String) : Bool :=
  decide (FourDigitYear (leaseExpiry clock)) && Uuid.isCanonical attemptId &&
    !acts.any (Act.claims attemptId)

/-- The steps of `deliver_native` by call `i`. -/
def deliveryStep (i : ι) (event : Event) (s : Store ι) (phase : Phase) :
    Option (Store ι × Phase) :=
  match event, phase with
  | .crash, _ => some (s, .idle)
  | .request transaction holderDid, .idle => some (s, .claiming transaction holderDid none)
  | .claim reply found clock attemptId, .claiming transaction holderDid endpoint =>
      let refusal := Phase.ended (.error
        (if endpoint.isNone then .credentialUnavailable else .retryStateUnavailable))
      if reply = .refused then some (s, refusal)
      else if claimDrawn s.acts clock attemptId then
        match claimTransport services transaction.organizationId transaction.id holderDid found
            clock attemptId s.rows with
        | .error _ => some (s, refusal)
        | .ok (rows, outcome) =>
            some (⟨rows, s.acts ++ claimActs services i clock s.rows outcome⟩,
              if reply = .answered then
                afterClaim services transaction holderDid endpoint outcome
              else refusal)
      else none
  | .prepare (.error error), .preparing _ _ => some (s, .ended (.error error))
  | .prepare (.ok prepared), .preparing _ holderDid => some (s, .staging prepared holderDid)
  | .stage reply finalized released clock, .staging prepared holderDid =>
      let delivery := ⟨holderDid, prepared.endpoint, prepared.messageId, prepared.encryptedMessage⟩
      let refusal := Phase.ended (.error
        (if released then .credentialUnavailable else .retryStateUnavailable))
      if reply = .refused then some (s, refusal)
      else match stageDelivery services prepared.transaction prepared.credential delivery finalized
          clock s.rows with
        | .error _ => some (s, refusal)
        | .ok rows =>
            some (⟨rows, s.acts ++ [.staged (deliveryRecordId services.uuidV5
                prepared.credential.id didcommV2 none) delivery]⟩,
              if reply = .answered then
                .claiming prepared.transaction holderDid (some prepared.endpoint)
              else refusal)
  | .validate (.ok endpoint), .validating claim => some (s, .ready claim endpoint)
  | .validate (.error reason), .validating claim =>
      some (s, .marking claim .unattempted (.error (.prerequisite reason)))
  | .send, .ready claim endpoint =>
      some ({ s with acts := s.acts ++ [.sent i claim.deliveryId claim.attemptId] },
        .sending claim endpoint)
  | .unsent tls, .sending claim _ =>
      some (s, afterTransport claim (if tls then .tlsUnavailable else .failed))
  | .post, .sending claim endpoint =>
      some ({ s with acts := s.acts ++ [.posted i claim.deliveryId claim.attemptId endpoint
          claim.pending.delivery.encryptedMessage] }, .posted claim)
  | .response status, .posted claim => some (s, afterTransport claim (responseOutcome status))
  | .mark reply now, .marking claim mark answer =>
      match reply, markTransport claim mark now s.rows with
      | .refused, _ | _, .error _ => some (s, .ended (.error mark.refusal))
      | reply, .ok rows =>
          some (⟨rows, s.acts ++ [.recorded i claim.deliveryId claim.attemptId mark.status]⟩,
            .ended (if reply = .answered then answer else .error mark.refusal))
  | .mark reply now, .markingSucceeded claim =>
      match reply, markTransport claim .succeeded now s.rows with
      | .refused, _ | _, .error _ => some (s, .salvaging claim)
      | reply, .ok rows =>
          some (⟨rows, s.acts ++ [.recorded i claim.deliveryId claim.attemptId .transported]⟩,
            if reply = .answered then .projecting claim.pending else .salvaging claim)
  | .mark reply now, .salvaging claim =>
      match reply, markTransport claim (.outcomeUnknown .generic) now s.rows with
      | .refused, _ | _, .error _ => some (s, .ended (.error .deliveryOutcomeUnknown))
      | _, .ok rows =>
          some (⟨rows, s.acts ++ [.recorded i claim.deliveryId claim.attemptId .deliveryUnknown]⟩,
            .ended (.error .deliveryOutcomeUnknown))
  | .unprojected, .projecting _ | .unprojected, .upserting _ =>
      some (s, .ended (.error .postIssuanceUnavailable))
  | .checkTransported reply, .projecting pending =>
      some (s, if reply = .answered ∧ isTransported services pending s.rows then
          .upserting pending
        else .ended (.error .postIssuanceUnavailable))
  | .upsert reply clock, .upserting pending =>
      match reply, upsertDelivery (deliveredRow services pending clock) s.rows with
      | .refused, _ | _, .error _ => some (s, .ended (.error .postIssuanceUnavailable))
      | reply, .ok rows =>
          some ({ s with rows := rows },
            .ended (if reply = .answered then .ok pending.deliveredReceipt
              else .error .postIssuanceUnavailable))
  -- the identifiers of different targets are derived from different names
  | .mirror row, _ =>
      if row.deliveryTarget ≠ didcommV2 ∧
          ∀ r ∈ s.rows, r.deliveryTarget = didcommV2 → r.id ≠ row.id then
        match upsertDelivery row s.rows with
        | .error _ => some (s, phase)
        | .ok rows => some ({ s with rows := rows }, phase)
      else none
  | _, _ => none

def deliveryMachine : Machine (Store ι) ι Event Phase := ⟨deliveryStep services⟩

end Marty.Issuance.Didcomm
