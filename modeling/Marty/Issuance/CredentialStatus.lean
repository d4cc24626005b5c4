import Marty.Issuance.CredentialIssuance
import Marty.Lib.Table

/-!
# The status of an issued credential

A credential is active, suspended or revoked.  A transition loads the row, publishes the new
status to the status list, and then writes the row when its status is still the one that was
loaded, with an event for the audit in the same database transaction.  A revocation of a whole
transaction is reconciled with what is stored.  The renewal of a credential binds a transaction to
it, and once that transaction has issued the successor, the finalization of the renewal revokes
the source and links both rows.

## Main definitions

* `ManagedCredential`, `CredentialRow`, `LifecycleEvent`, `ManagementStore` — the tables.
* `publication` — the request to the status list that a credential has its own entry for.
* `checkTransition`, `persist` — the parts of `apply_transition`.
* `selectRenewal`, `linkRenewal` — the parts of `finalize_renewal`; `bindReservation`.
* `LifecycleCall`, `lifecycleStep` — the steps of the calls, one statement or request each.
* `lifecycleMachine` — any number of calls, and the other statements that write the rows.
-/

namespace Marty.Issuance.Management

open Lib Lib.Checked

/-! ## Rows -/

inductive ManagedCredentialStatus
  | active
  | suspended
  | revoked
  deriving DecidableEq

inductive CredentialLifecycleAction
  | revoke
  | suspend
  | reinstate
  deriving DecidableEq

def CredentialLifecycleAction.eventType : CredentialLifecycleAction → String
  | .revoke => "revoked"
  | .suspend => "suspended"
  | .reinstate => "reinstated"

def CredentialLifecycleAction.targetStatus : CredentialLifecycleAction → ManagedCredentialStatus
  | .revoke => .revoked
  | .suspend => .suspended
  | .reinstate => .active

structure ManagedCredential where
  id : String
  transactionId : String
  organizationId : String
  credentialTemplateId : String
  issuerDid : Option String
  status : ManagedCredentialStatus
  statusUpdatedAt : DateTime
  revoked : Bool
  revokedAt : Option DateTime
  revocationReason : Option String
  revocationProfileId : Option String
  statusListEntries : List Json.Value
  deriving DecidableEq

/-- A row of `issued_credentials`. -/
structure CredentialRow extends ManagedCredential where
  renewedFromCredentialId : Option String
  renewedToCredentialId : Option String
  deriving DecidableEq

structure CredentialLifecycleAuditContext where
  comments : Option String
  actorId : Option String
  actorType : Option String
  deriving DecidableEq

structure CredentialLifecycleAuditRecord where
  action : CredentialLifecycleAction
  previousStatus : ManagedCredentialStatus
  reason : Option String
  comments : Option String
  actorId : Option String
  actorType : Option String
  deriving DecidableEq

/-- An event of `issuance_events` that records a transition. -/
structure LifecycleEvent where
  transactionId : String
  applicationId : Option String
  eventType : String
  credentialId : String
  organizationId : String
  credentialTemplateId : String
  status : ManagedCredentialStatus
  audit : CredentialLifecycleAuditRecord
  createdAt : DateTime
  deriving DecidableEq

/-- A request to the service of the status lists. -/
structure Publication where
  organizationId : String
  credentialId : String
  profileId : String
  index : Nat
  status : String
  credentialFormat : String
  reason : Option String
  deriving DecidableEq

/-- The tables, and the requests that the status lists have taken. -/
structure ManagementStore where
  transactions : String → Option CredentialTransaction
  credentials : List CredentialRow
  events : List LifecycleEvent
  published : List Publication

def ManagementStore.credential? (s : ManagementStore) (id : String) : Option CredentialRow :=
  s.credentials.find? fun row => row.id = id

def ManagementStore.setTransaction (s : ManagementStore) (id : String)
    (row : CredentialTransaction) : ManagementStore :=
  { s with transactions := Function.update s.transactions id (some row) }

inductive CredentialManagementError
  | notFound
  | resourceNotFound
  | alreadyRevoked
  | cannotSuspendRevoked
  | cannotReinstateRevoked
  | notSuspended
  | reasonTooLong
  | commentsTooLong
  | repositoryUnavailable (text : String)
  | publicationUnavailable (text : String)
  | canvasRetryUnavailable (text : String)
  | canvasTextEncoding
  deriving DecidableEq

inductive RenewalError
  | sourceNotFound
  | inactive
  | alreadyRenewed
  | sourceTransactionMissing
  | bindingConflict
  | reservationMissing
  | unavailable
  deriving DecidableEq

inductive CallError
  | management (error : CredentialManagementError)
  | lifecycle (text : String)
  | renewal (error : RenewalError)
  /-- A check of the request, or a read, says no. -/
  | refused (reason : String)
  deriving DecidableEq

/-! ## The status list -/

/-- The first entry whose purpose is revocation, which is the purpose of an entry without one. -/
def revocationEntry (entries : List Json.Value) : Option Json.Map :=
  (entries.filterMap Json.Value.asObject).find? fun entry =>
    (((entry.get "status_purpose").or (entry.get "statusPurpose")).bind
      Json.Value.asStr).getD "revocation" = "revocation"

def entryProfile (entry : Json.Map) : String :=
  ((((entry.get "status_list_id").or (entry.get "revocation_profile_id")).bind
    Json.Value.asStr).map Text.trim).getD ""

/-- An index that fits sixty-three bits. -/
def entryIndex (entry : Json.Map) : Option Nat :=
  ((entry.get "index").bind Json.Value.asU64).filter fun index => index < 2 ^ 63

def entryFormat (entry : Json.Map) : String :=
  if Text.contains (Text.toAsciiLowercase (((entry.get "type").bind Json.Value.asStr).getD ""))
      "tokenstatuslist" then "mdoc"
  else "sd_jwt_vc"

/-- The request of `publish`, by the entry that was allocated to the credential. -/
def publication (credential : ManagedCredential) (action : CredentialLifecycleAction)
    (reason : Option String) : Except String Publication := do
  let profileId ← okOr ((credential.revocationProfileId.map Text.trim).filter fun id => id ≠ "")
    "Credential has no active credential-status profile binding"
  let entry ← okOr (revocationEntry credential.statusListEntries)
    "Credential has no allocated status-list entry"
  let index ← okOr (entryIndex entry) "Credential has an invalid allocated status-list entry"
  rejectIf (entryProfile entry = "" ∨ entryProfile entry ≠ profileId)
    "Credential status-list entry does not match its revocation profile"
  pure ⟨credential.organizationId, credential.id, profileId, index, action.eventType,
    entryFormat entry, reason⟩

/-! ## Transitions -/

inductive ReasonPolicy
  | publicLifecycleLimit
  | preserveTransactionInput
  deriving DecidableEq

/-- What a transition was asked for. -/
structure TransitionOrder where
  trusted : Option String
  action : CredentialLifecycleAction
  reason : Option String
  context : CredentialLifecycleAuditContext
  policy : ReasonPolicy
  deriving DecidableEq

def maxReasonCharacters : Nat := 2000

def maxCommentsCharacters : Nat := 4000

def meaningfulText (value : Option String) : Option String :=
  value.filter fun text => Text.trim text ≠ ""

def validateReason (reason : Option String) : Except CredentialManagementError Unit :=
  rejectIf (reason.any (fun text => maxReasonCharacters < text.length) = true) .reasonTooLong

/-- Only a public request is held to the limit of a reason. -/
def ReasonPolicy.validate (reason : Option String) :
    ReasonPolicy → Except CredentialManagementError Unit
  | .publicLifecycleLimit => validateReason reason
  | .preserveTransactionInput => .ok ()

def validateComments (comments : Option String) : Except CredentialManagementError Unit :=
  rejectIf (comments.any (fun text => maxCommentsCharacters < text.length) = true)
    .commentsTooLong

def enforceOrganization (credential : ManagedCredential) (trusted : Option String) :
    Except CredentialManagementError Unit :=
  rejectIf (trusted.any (fun id =>
      Text.trim id = "" ∨ Text.trim id ≠ credential.organizationId) = true) .resourceNotFound

def validateTransition (status : ManagedCredentialStatus) (action : CredentialLifecycleAction) :
    Except CredentialManagementError Unit :=
  match action, status with
  | .revoke, .revoked => .error .alreadyRevoked
  | .suspend, .revoked => .error .cannotSuspendRevoked
  | .reinstate, .revoked => .error .cannotReinstateRevoked
  | .reinstate, .active => .error .notSuspended
  | _, _ => .ok ()

/-- The checks of `apply_transition`. -/
def checkTransition (credential : ManagedCredential) (order : TransitionOrder) :
    Except CredentialManagementError Unit := do
  enforceOrganization credential order.trusted
  order.policy.validate order.reason
  validateComments (meaningfulText order.context.comments)
  validateTransition credential.status order.action

/-- The copy that a transition wants stored. -/
def ManagedCredential.updatedBy (credential : ManagedCredential) (order : TransitionOrder)
    (now : DateTime) : ManagedCredential :=
  if order.action = .revoke then
    { credential with
      status := order.action.targetStatus
      statusUpdatedAt := now
      revoked := true
      revokedAt := some now
      revocationReason := order.reason }
  else { credential with status := order.action.targetStatus, statusUpdatedAt := now }

def auditRecord (credential : ManagedCredential) (order : TransitionOrder) :
    CredentialLifecycleAuditRecord where
  action := order.action
  previousStatus := credential.status
  reason := order.reason
  comments := meaningfulText order.context.comments
  actorId := meaningfulText order.context.actorId
  actorType := meaningfulText order.context.actorType

/-- The columns that `persist` writes. -/
def CredentialRow.writtenBy (row : CredentialRow) (credential : ManagedCredential) :
    CredentialRow :=
  { row with
    status := credential.status
    statusUpdatedAt := credential.statusUpdatedAt
    revoked := credential.revoked
    revokedAt := credential.revokedAt
    revocationReason := credential.revocationReason }

def optionalText (value : Option String) : Json.Value := value.elim .null .string

def auditInput (credential : ManagedCredential) (audit : CredentialLifecycleAuditRecord) :
    Json.Value :=
  .object [("reason", optionalText audit.reason), ("comments", optionalText audit.comments),
    ("actor_id", optionalText audit.actorId), ("actor_type", optionalText audit.actorType),
    ("revocation_reason", optionalText credential.revocationReason)]

/-- The event that `persist` adds for the row it has written. -/
def lifecycleEvent (s : ManagementStore) (row : CredentialRow)
    (audit : CredentialLifecycleAuditRecord) : LifecycleEvent where
  transactionId := row.transactionId
  applicationId := (s.transactions row.transactionId).bind (·.applicationId)
  eventType := "credential_" ++ audit.action.eventType
  credentialId := row.id
  organizationId := row.organizationId
  credentialTemplateId := row.credentialTemplateId
  status := row.status
  audit := audit
  createdAt := row.statusUpdatedAt

section

variable (containsPrivateKey : Json.Value → Bool)

/-- The row that was written, and the tables after the commit. -/
def persist (s : ManagementStore) (credential : ManagedCredential)
    (expected : ManagedCredentialStatus) (audit : CredentialLifecycleAuditRecord) :
    Except String (CredentialRow × ManagementStore) := do
  rejectIf (containsPrivateKey (auditInput credential audit) = true)
    "private key material in credential lifecycle audit"
  let row ← okOr (s.credentials.find? fun row =>
      row.id = credential.id ∧ row.status = expected ∧
        row.organizationId = credential.organizationId)
    "Credential status changed concurrently or credential no longer exists"
  pure (row.writtenBy credential,
    { s with
      credentials := Table.update s.credentials
        (fun row => row.id = credential.id ∧ row.status = expected ∧
          row.organizationId = credential.organizationId)
        (·.writtenBy credential)
      events := s.events ++ [lifecycleEvent s (row.writtenBy credential) audit] })

end

structure CredentialStatusView where
  id : String
  issuerDid : Option String
  status : ManagedCredentialStatus
  statusUpdatedAt : DateTime
  reason : Option String
  deriving DecidableEq

def statusView (credential : ManagedCredential) (reason : Option String) :
    CredentialStatusView :=
  ⟨credential.id, credential.issuerDid, credential.status, credential.statusUpdatedAt, reason⟩

/-! ## Renewals -/

def supersededReason : String := "Superseded by renewed credential"

def onlyActive : String := "Only an active credential can complete renewal"

def successorMismatch : String := "Renewal successor binding mismatch"

/-- The source that a transaction renews, when it renews one. -/
def renewalSource (transaction : CredentialTransaction) : Option String :=
  (transaction.renewalOfCredentialId.map Text.trim).filter fun id => id ≠ ""

def checkSuccessor (transaction : CredentialTransaction) (credential : IssuedCredential)
    (sourceId : String) : Except String Unit :=
  rejectIf (transaction.organizationId ≠ credential.organizationId ∨
    transaction.id ≠ credential.transactionId ∨ sourceId = credential.id) successorMismatch

/-- The row of the successor, and its transaction, as `finalize_renewal` joins them. -/
def successorRow (s : ManagementStore) (transaction : CredentialTransaction)
    (credential : IssuedCredential) : Option CredentialRow :=
  s.credentials.find? fun row =>
    row.id = credential.id ∧ row.organizationId = credential.organizationId ∧
      row.transactionId = transaction.id

def successorTransaction (s : ManagementStore) (transaction : CredentialTransaction)
    (credential : IssuedCredential) : Option CredentialTransaction :=
  (successorRow s transaction credential).bind fun successor =>
    (s.transactions successor.transactionId).filter fun tx =>
      tx.organizationId = credential.organizationId

/-- The transaction of the successor renews the source. -/
def renews (s : ManagementStore) (transaction : CredentialTransaction)
    (credential : IssuedCredential) (source : CredentialRow) : Bool :=
  (successorTransaction s transaction credential).any fun tx =>
    tx.renewalOfCredentialId = some source.id

def successorBound (s : ManagementStore) (transaction : CredentialTransaction)
    (credential : IssuedCredential) (source : CredentialRow) : Bool :=
  renews s transaction credential source &&
    ((successorRow s transaction credential).bind (·.renewedFromCredentialId)).all fun id =>
      id = source.id

def sameSuccessorComplete (s : ManagementStore) (transaction : CredentialTransaction)
    (credential : IssuedCredential) (source : CredentialRow) : Bool :=
  source.status = .revoked && source.revoked &&
    source.renewedToCredentialId = some credential.id &&
    ((successorRow s transaction credential).bind (·.renewedFromCredentialId)).any
      (fun id => id = source.id) &&
    renews s transaction credential source

/-- What `finalize_renewal` finds before it publishes: the source to supersede, unless the renewal
is already complete. -/
def selectRenewal (s : ManagementStore) (transaction : CredentialTransaction)
    (credential : IssuedCredential) (sourceId : String) :
    Except String (Option CredentialRow) := do
  let source ← okOr (s.credential? sourceId) "Renewal source credential no longer exists"
  rejectIf (source.organizationId ≠ credential.organizationId)
    "Renewal source organization mismatch"
  rejectIf (successorBound s transaction credential source = false) successorMismatch
  rejectIf (sameSuccessorComplete s transaction credential source = false ∧
    (source.status ≠ .active ∨ source.renewedToCredentialId.any (fun id => id ≠ "") = true))
    onlyActive
  pure (if sameSuccessorComplete s transaction credential source then none else some source)

/-- The rows that the first `UPDATE` of the commit meets. -/
def supersedable (sourceId organizationId : String) (row : CredentialRow) : Bool :=
  row.id = sourceId ∧ row.organizationId = organizationId ∧ row.status = .active ∧
    (row.renewedToCredentialId = none ∨ row.renewedToCredentialId = some "")

def CredentialRow.supersededBy (row : CredentialRow) (successorId : String)
    (statusAt revokedAt : DateTime) : CredentialRow :=
  { row with
    status := .revoked
    statusUpdatedAt := statusAt
    revoked := true
    revokedAt := some revokedAt
    revocationReason := some supersededReason
    renewedToCredentialId := some successorId }

/-- The rows that the second `UPDATE` meets. -/
def succeeding (transaction : CredentialTransaction) (credential : IssuedCredential)
    (sourceId : String) (row : CredentialRow) : Bool :=
  row.id = credential.id ∧ row.organizationId = credential.organizationId ∧
    row.transactionId = transaction.id ∧
    (row.renewedFromCredentialId = none ∨ row.renewedFromCredentialId = some sourceId)

/-- The commit of `finalize_renewal`. -/
def linkRenewal (s : ManagementStore) (transaction : CredentialTransaction)
    (credential : IssuedCredential) (sourceId : String) (statusAt revokedAt : DateTime) :
    Except String ManagementStore := do
  let superseded := Table.update s.credentials
    (supersedable sourceId credential.organizationId)
    (·.supersededBy credential.id statusAt revokedAt)
  rejectIf (∀ row ∈ s.credentials,
    supersedable sourceId credential.organizationId row = false) onlyActive
  rejectIf (∀ row ∈ superseded, succeeding transaction credential sourceId row = false)
    successorMismatch
  pure { s with
    credentials := Table.update superseded (succeeding transaction credential sourceId)
      fun row => { row with renewedFromCredentialId := some sourceId } }

/-- What decides about a reservation beside the rows: no delivery was staged for it, its
idempotency is that of the request, and the application of the source follows it. -/
structure ReservationChecks where
  undelivered : Bool
  sameRequest : Bool
  applicationMoved : Bool
  deriving DecidableEq

/-- `BIND_RENEWAL_RESERVATION`. -/
def bindable (s : ManagementStore) (row : CredentialTransaction) (source : CredentialRow)
    (applicationId : Option String) (checks : ReservationChecks) : Prop :=
  row.organizationId = source.organizationId ∧
    (row.renewalOfCredentialId = some source.id ∧ row.applicationId = applicationId ∨
      row.renewalOfCredentialId = none ∧ row.applicationId = none ∧ row.status = .pending ∧
        row.reservedCredentialId = none ∧ (∀ r ∈ s.credentials, r.transactionId ≠ row.id) ∧
        checks.undelivered = true) ∧
    checks.sameRequest = true

instance (s : ManagementStore) (row : CredentialTransaction) (source : CredentialRow)
    (applicationId : Option String) (checks : ReservationChecks) :
    Decidable (bindable s row source applicationId checks) :=
  inferInstanceAs (Decidable (_ ∧ _ ∧ _))

def bindReservation (s : ManagementStore) (transaction : CredentialTransaction)
    (source : CredentialRow) (applicationId : Option String) (checks : ReservationChecks) :
    Except RenewalError ManagementStore := do
  rejectIf (transaction.organizationId ≠ source.organizationId) .bindingConflict
  let row ← okOr (s.transactions transaction.id) .reservationMissing
  rejectIf (row.organizationId ≠ source.organizationId) .reservationMissing
  rejectIf (¬ bindable s row source applicationId checks) .bindingConflict
  rejectIf (checks.applicationMoved = false) .bindingConflict
  pure (s.setTransaction transaction.id
    { row with renewalOfCredentialId := some source.id, applicationId := applicationId })

/-! ## The other statements -/

/-- The row that `insert_credential` adds. -/
def CredentialRow.issued (credential : IssuedCredential) : CredentialRow where
  id := credential.id
  transactionId := credential.transactionId
  organizationId := credential.organizationId
  credentialTemplateId := credential.credentialTemplateId
  issuerDid := some credential.issuerDid
  status := .active
  statusUpdatedAt := credential.issuedAt
  revoked := false
  revokedAt := none
  revocationReason := none
  revocationProfileId := credential.revocationProfileId
  statusListEntries := credential.statusListEntries
  renewedFromCredentialId := credential.renewedFromCredentialId
  renewedToCredentialId := none

/-- The statements of the issuance that write the rows. -/
inductive IssuingStatement
  /-- A transaction is reserved, and no initiation links it to a source. -/
  | insert (row : CredentialTransaction)
  /-- The transaction is claimed, released, failed, cancelled or revoked. -/
  | progress (id : String) (status : CredentialTransactionStatus)
      (reservedCredentialId : Option String)
  /-- `finalize_credential`. -/
  | issue (credential : IssuedCredential)

/-- What `finalize_credential` asks of the row of the transaction. -/
def issuable (s : ManagementStore) (row : CredentialTransaction) (credential : IssuedCredential) :
    Prop :=
  row.status = .signing ∧ row.organizationId = credential.organizationId ∧
    row.credentialTemplateId = credential.credentialTemplateId ∧
    row.reservedCredentialId = some credential.id ∧
    Signing.renewalSourceId row.renewalOfCredentialId =
      Signing.renewalSourceId credential.renewedFromCredentialId ∧
    ∀ r ∈ s.credentials, r.id ≠ credential.id ∧ r.transactionId ≠ credential.transactionId

instance (s : ManagementStore) (row : CredentialTransaction) (credential : IssuedCredential) :
    Decidable (issuable s row credential) :=
  inferInstanceAs (Decidable (_ ∧ _ ∧ _ ∧ _ ∧ _ ∧ _))

def IssuingStatement.apply (s : ManagementStore) : IssuingStatement → ManagementStore
  | .insert row =>
      if s.transactions row.id = none ∧ row.renewalOfCredentialId = none then
        s.setTransaction row.id row
      else s
  | .progress id status reservedCredentialId =>
      match s.transactions id with
      | none => s
      | some row => s.setTransaction id
          { row with status := status, reservedCredentialId := reservedCredentialId }
  | .issue credential =>
      match s.transactions credential.transactionId with
      | none => s
      | some row =>
          if issuable s row credential then
            { s.setTransaction credential.transactionId { row with status := .issued } with
              credentials := s.credentials ++ [.issued credential] }
          else s

/-! ## The steps of a call -/

inductive CanvasLifecycleSyncError
  | port (text : String)
  | textEncoding
  deriving DecidableEq

/-- How a statement or a request ends: as its caller learns, or without that. -/
inductive Reply
  | done
  | lost (text : String)
  | failed (text : String)
  deriving DecidableEq

inductive LifecycleCall
  | idle
  | publishing (order : TransitionOrder) (credential : ManagedCredential)
  | persisting (order : TransitionOrder) (credential : ManagedCredential)
  | reloading (order : TransitionOrder) (credentialId : String) (text : String)
  | synchronizing (order : TransitionOrder) (updated : ManagedCredential)
  | republishing (credential : ManagedCredential)
  | resynchronizing (credential : ManagedCredential)
  | answered (view : CredentialStatusView)
  /-- There is no revocation to recover. -/
  | unrevoked
  | selecting (transaction : CredentialTransaction) (credential : IssuedCredential)
      (sourceId : String)
  | superseding (transaction : CredentialTransaction) (credential : IssuedCredential)
      (source : CredentialRow)
  | linking (transaction : CredentialTransaction) (credential : IssuedCredential)
      (source : CredentialRow)
  | renewed
  | tracing (source : CredentialRow)
  | reserving (source : CredentialRow) (applicationId : Option String)
  | binding (source : CredentialRow) (applicationId : Option String)
      (transaction : CredentialTransaction)
  | offered (sourceId transactionId : String)
  | failed (error : CallError)
  deriving DecidableEq

inductive LifecycleRequest
  /-- `transition_with_context`. -/
  | transition (credentialId : String) (trusted : Option String)
      (action : CredentialLifecycleAction) (reason : Option String)
      (context : CredentialLifecycleAuditContext)
  /-- `reconcile_revocation`. -/
  | reconcile (credentialId : String) (trusted reason : Option String)
  /-- `reconcile_existing_revocation`. -/
  | recover (credentialId : String) (trusted reason : Option String)
  /-- `finalize_renewal`. -/
  | finalizeRenewal (transaction : CredentialTransaction) (credential : IssuedCredential)
  | renew (sourceId : String)
  deriving DecidableEq

inductive LifecycleInput
  | start (request : LifecycleRequest)
  | publish (reply : Reply)
  | persist (reply : Reply) (now : DateTime)
  | synchronize (answer : Except CanvasLifecycleSyncError Unit)
  | link (reply : Reply) (statusAt revokedAt : DateTime)
  /-- The reservation of a transaction answers. -/
  | reserve (transactionId : String)
  | bind (reply : Reply) (checks : ReservationChecks)
  /-- The next read of the call. -/
  | exec
  /-- A check of the request, or a read, says no. -/
  | refuse (reason : String)
  | other (statement : IssuingStatement)

def manage (result : Except CredentialManagementError LifecycleCall) : LifecycleCall :=
  match result with
  | .ok call => call
  | .error e => .failed (.management e)

/-- `load`. -/
def ManagementStore.load (s : ManagementStore) (credentialId : String) :
    Except CredentialManagementError CredentialRow :=
  okOr (s.credential? credentialId) .notFound

/-- `apply_transition` up to its publication. -/
def applyTransition (credential : ManagedCredential) (order : TransitionOrder) :
    Except CredentialManagementError LifecycleCall := do
  checkTransition credential order
  pure (.publishing order credential)

def revocationOrder (trusted reason : Option String) : TransitionOrder :=
  ⟨trusted, .revoke, reason, ⟨none, none, none⟩, .preserveTransactionInput⟩

def startLifecycle (s : ManagementStore) : LifecycleRequest → LifecycleCall
  | .transition credentialId trusted action reason context => manage do
      let row ← s.load credentialId
      applyTransition row.toManagedCredential
        ⟨trusted, action, reason, context, .publicLifecycleLimit⟩
  | .reconcile credentialId trusted reason => manage do
      let row ← s.load credentialId
      enforceOrganization row.toManagedCredential trusted
      if row.status ≠ .revoked then
        applyTransition row.toManagedCredential (revocationOrder trusted reason)
      else pure (.republishing row.toManagedCredential)
  | .recover credentialId trusted reason => manage do
      let row ← s.load credentialId
      enforceOrganization row.toManagedCredential trusted
      validateReason reason
      pure (if row.status ≠ .revoked then .unrevoked
        else .republishing row.toManagedCredential)
  | .finalizeRenewal transaction credential =>
      match renewalSource transaction with
      | none => .renewed
      | some sourceId =>
          match checkSuccessor transaction credential sourceId with
          | .error text => .failed (.lifecycle text)
          | .ok () => .selecting transaction credential sourceId
  | .renew sourceId =>
      match s.credential? sourceId with
      | none => .failed (.renewal .sourceNotFound)
      | some source =>
          if source.status ≠ .active then .failed (.renewal .inactive)
          else if source.renewedToCredentialId.any (fun id => id ≠ "") then
            .failed (.renewal .alreadyRenewed)
          else .tracing source

/-- A publication by the copy of a credential that a call has loaded. -/
def publish (s : ManagementStore) (credential : ManagedCredential)
    (action : CredentialLifecycleAction) (reason : Option String) (reply : Reply)
    (next : LifecycleCall) (failure : String → CallError) : ManagementStore × LifecycleCall :=
  match publication credential action reason, reply with
  | .error text, _ => (s, .failed (failure text))
  | .ok p, .done => ({ s with published := s.published ++ [p] }, next)
  | .ok p, .lost text => ({ s with published := s.published ++ [p] }, .failed (failure text))
  | .ok _, .failed text => (s, .failed (failure text))

/-- Only the reconciliation of a transaction looks again after a failed write. -/
def unpersisted (order : TransitionOrder) (credentialId text : String) : LifecycleCall :=
  match order.policy with
  | .preserveTransactionInput => .reloading order credentialId text
  | .publicLifecycleLimit => .failed (.management (.repositoryUnavailable text))

/-- `reconcile_revocation` after its write has failed. -/
def reconcileAgain (s : ManagementStore) (order : TransitionOrder) (credentialId text : String) :
    Except CredentialManagementError LifecycleCall := do
  let row ← s.load credentialId
  enforceOrganization row.toManagedCredential order.trusted
  rejectIf (row.status ≠ .revoked) (.repositoryUnavailable text)
  pure (.republishing row.toManagedCredential)

def synchronized (call : LifecycleCall) : Except CanvasLifecycleSyncError Unit → LifecycleCall
  | .ok () => call
  | .error (.port text) => .failed (.management (.canvasRetryUnavailable text))
  | .error .textEncoding => .failed (.management .canvasTextEncoding)

section

variable (containsPrivateKey : Json.Value → Bool)

/-- The steps that write the tables or publish. -/
def writingStep (s : ManagementStore) : LifecycleCall → LifecycleInput →
    Option (ManagementStore × LifecycleCall)
  | .publishing order credential, .publish reply =>
      some (publish s credential order.action order.reason reply (.persisting order credential)
        fun text => .management (.publicationUnavailable text))
  | .republishing credential, .publish reply =>
      some (publish s credential .revoke credential.revocationReason reply
        (.resynchronizing credential) fun text => .management (.publicationUnavailable text))
  | .superseding transaction credential source, .publish reply =>
      some (publish s source.toManagedCredential .revoke (some supersededReason) reply
        (.linking transaction credential source) .lifecycle)
  | .persisting order credential, .persist (.failed text) _ =>
      some (s, unpersisted order credential.id text)
  | .persisting order credential, .persist reply now =>
      match persist containsPrivateKey s (credential.updatedBy order now) credential.status
          (auditRecord credential order) with
      | .error text => some (s, unpersisted order credential.id text)
      | .ok (row, committed) => some (committed,
          match reply with
          | .lost text => unpersisted order credential.id text
          | _ => .synchronizing order row.toManagedCredential)
  | .linking transaction credential source, .link reply statusAt revokedAt =>
      match reply, linkRenewal s transaction credential source.id statusAt revokedAt with
      | .failed text, _ => some (s, .failed (.lifecycle text))
      | _, .error text => some (s, .failed (.lifecycle text))
      | .lost text, .ok committed => some (committed, .failed (.lifecycle text))
      | .done, .ok committed => some (committed, .renewed)
  | .binding source applicationId transaction, .bind reply checks =>
      match reply, bindReservation s transaction source applicationId checks with
      | .failed _, _ => some (s, .failed (.renewal .unavailable))
      | _, .error e => some (s, .failed (.renewal e))
      | .lost _, .ok committed => some (committed, .failed (.renewal .unavailable))
      | .done, .ok committed => some (committed, .offered source.id transaction.id)
  | _, _ => none

/-- The steps that read. -/
def readingStep (s : ManagementStore) : LifecycleCall → LifecycleInput → Option LifecycleCall
  | .idle, .start request => some (startLifecycle s request)
  | .reloading order credentialId text, .exec =>
      some (manage (reconcileAgain s order credentialId text))
  | .synchronizing order updated, .synchronize answer =>
      some (synchronized (.answered (statusView updated order.reason)) answer)
  | .resynchronizing credential, .synchronize answer =>
      some (synchronized (.answered (statusView credential credential.revocationReason)) answer)
  | .selecting transaction credential sourceId, .exec =>
      match selectRenewal s transaction credential sourceId with
      | .error text => some (.failed (.lifecycle text))
      | .ok none => some .renewed
      | .ok (some source) => some (.superseding transaction credential source)
  | .tracing source, .exec =>
      match (s.transactions source.transactionId).filter fun tx =>
          tx.organizationId = source.organizationId with
      | none => some (.failed (.renewal .sourceTransactionMissing))
      | some tx => some (.reserving source tx.applicationId)
  | .reserving source applicationId, .reserve transactionId =>
      (s.transactions transactionId).map (.binding source applicationId)
  | .idle, .refuse reason | .reloading _ _ _, .refuse reason | .selecting _ _ _, .refuse reason
  | .tracing _, .refuse reason | .reserving _ _, .refuse reason =>
      some (.failed (.refused reason))
  | _, _ => none

def lifecycleStep (input : LifecycleInput) (s : ManagementStore) (call : LifecycleCall) :
    Option (ManagementStore × LifecycleCall) :=
  match input with
  | .other statement => some (statement.apply s, call)
  | input =>
      (writingStep containsPrivateKey s call input).or
        ((readingStep s call input).map fun call => (s, call))

def lifecycleMachine (ι : Type) : Machine ManagementStore ι LifecycleInput LifecycleCall where
  step _ input s call := lifecycleStep containsPrivateKey input s call

end

end Marty.Issuance.Management
