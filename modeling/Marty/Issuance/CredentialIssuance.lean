import Marty.Issuance.Credentials
import Marty.Lib.Checked
import Marty.Lib.Interleaving
import Marty.Lib.Text

/-!
# Issuing the credential of a transaction

The credential endpoint and the DIDComm delivery issue from the same rows.  Either claims the row
of its transaction by one conditional `UPDATE`, builds the credential, and finalizes it in one
database transaction, or gives the claim up: the endpoint marks the row as failed, the delivery
restores the status that it found.  The steps of any number of calls interleave, and a statement
may take effect without its caller learning it.

## Main definitions

* `IssuanceRow`, `NotificationBinding`, `IssuanceStore` — the tables.
* `claimForSigning`, `claimRetryably`, `finalizeCredential`, `markFailedIfSigning`,
  `releaseRetryably` — the statements of a claim.
* `IssuanceCall`, `issuanceStep` — the steps of `issue_with_outcome` and of the delivery.
* `issuanceMachine` — any number of calls, and the other statements that write the rows.
-/

namespace Marty.Issuance.Signing

open Lib Lib.Checked

/-! ## Rows -/

structure IssuerContext where
  issuerProfileId : String
  issuerDid : String
  signingServiceId : String
  algorithm : String
  deriving DecidableEq

/-- A row of `issuance_transactions`. -/
structure IssuanceRow extends CredentialTransaction where
  issuerProfileId : Option String
  issuerMode : String
  issuerDid : Option String
  issuerAlgorithm : Option String
  signingServiceId : Option String
  nonce : Option String
  issuedAt : Option DateTime
  deriving DecidableEq

/-- An event of `issuance_events` that binds a notification to a credential. -/
structure NotificationBinding where
  id : String
  transactionId : String
  applicationId : Option String
  notificationId : String
  credentialId : String
  organizationId : String
  deriving DecidableEq

structure ExistingCredential where
  id : String
  credential : String
  notificationId : String
  deriving DecidableEq

inductive IssuanceError
  | invalidAccessToken
  | issuanceInProgress
  | invalidTransactionState
  | invalidNonce
  | nonceRepositoryUnavailable
  | credentialAlreadyIssued
  | retiredOpenBadge
  | builderChangedCredentialId
  | repositoryUnavailable
  | concurrentDelivery
  | credentialUnavailable
  | retryStateUnavailable
  /-- A check of the request, or a service, says no. -/
  | refused (reason : String)
  deriving DecidableEq

structure IssuanceStore where
  transactions : String → Option IssuanceRow
  credentials : List IssuedCredential
  bindings : List NotificationBinding

/-- The credential of a transaction. -/
def IssuanceStore.credential? (s : IssuanceStore) (transactionId : String) :
    Option IssuedCredential :=
  s.credentials.find? fun credential => credential.transactionId = transactionId

def IssuanceStore.setTransaction (s : IssuanceStore) (id : String) (row : IssuanceRow) :
    IssuanceStore :=
  { s with transactions := Function.update s.transactions id (some row) }

/-- What the issuance uses: the names of identifiers, the hash of a credential, and the checks of
credentials and of documents. -/
structure IssuanceServices where
  uuidV5 : String → String
  sha256 : String → String
  containsPrivateKey : Json.Value → Bool
  retiredOpenBadge : CredentialTransaction → Option String → Bool

variable (services : IssuanceServices)

def notificationBindingEventId (transactionId : String) : String :=
  services.uuidV5 ("marty:oid4vci:notification-binding:" ++ transactionId)

def legacyNotificationId (transactionId : String) : String :=
  services.uuidV5 ("marty:oid4vci:legacy-notification:" ++ transactionId)

/-! ## Claims -/

def applyIssuerContext (row : IssuanceRow) (issuer : IssuerContext) : IssuanceRow :=
  { row with
    issuerProfileId := some issuer.issuerProfileId
    issuerDid := some issuer.issuerDid
    issuerAlgorithm := some issuer.algorithm
    signingServiceId := some issuer.signingServiceId }

/-- The row that a claim leaves, from the row in the table and the caller's copy of it. -/
def IssuanceRow.claimedBy (row copy : IssuanceRow) (credentialId : String) : IssuanceRow :=
  { row with
    status := .signing
    reservedCredentialId := some credentialId
    credentialType := copy.credentialType
    issuerProfileId := copy.issuerProfileId
    issuerMode := copy.issuerMode
    issuerDid := copy.issuerDid
    issuerAlgorithm := copy.issuerAlgorithm
    signingServiceId := copy.signingServiceId }

/-- The claims are conditional updates, with the row that they return. -/
def claimWhen (s : IssuanceStore) (copy : IssuanceRow) (credentialId : String)
    (condition : IssuanceRow → Bool) : Option IssuanceRow × IssuanceStore :=
  match s.transactions copy.id with
  | none => (none, s)
  | some row =>
      if condition row then
        (some (row.claimedBy copy credentialId),
          s.setTransaction copy.id (row.claimedBy copy credentialId))
      else (none, s)

/-- `CLAIM_FOR_SIGNING`. -/
def claimForSigning (s : IssuanceStore) (copy : IssuanceRow) (credentialId : String) :
    Option IssuanceRow × IssuanceStore :=
  claimWhen s copy credentialId fun row => row.status = .authorized

/-- A claim of the delivery, with the status to restore. -/
structure DidcommClaim where
  transaction : IssuanceRow
  previousStatus : CredentialTransactionStatus
  deriving DecidableEq

/-- `CLAIM_FOR_DIDCOMM`, which is run on a copy that is pending or authorized. -/
def claimRetryably (s : IssuanceStore) (copy : IssuanceRow) (credentialId : String) :
    Option DidcommClaim × IssuanceStore :=
  if copy.status = .pending ∨ copy.status = .authorized then
    let claimed := claimWhen s copy credentialId fun row =>
      row.organizationId = copy.organizationId ∧ row.status = copy.status
    (claimed.1.map fun row => ⟨row, copy.status⟩, claimed.2)
  else (none, s)

def markFailedIfSigning (s : IssuanceStore) (transactionId : String) : IssuanceStore :=
  match s.transactions transactionId with
  | none => s
  | some row =>
      if row.status = .signing then s.setTransaction transactionId { row with status := .failed }
      else s

/-- Whether one row was released, and the table after it. -/
def releaseRetryably (s : IssuanceStore) (claim : DidcommClaim) : Bool × IssuanceStore :=
  match s.transactions claim.transaction.id with
  | none => (false, s)
  | some row =>
      if row.organizationId = claim.transaction.organizationId ∧ row.status = .signing ∧
          row.reservedCredentialId.isSome ∧
          row.reservedCredentialId = claim.transaction.reservedCredentialId then
        (true, s.setTransaction claim.transaction.id
          { row with status := claim.previousStatus, reservedCredentialId := none })
      else (false, s)

/-! ## The credential -/

/-- What the builder and the status allocation answer. -/
structure Materials where
  builtId : String
  credential : String
  subjectDid : Option String
  issuerDid : String
  revocationProfileId : Option String
  statusListEntries : List Json.Value
  issuedAt : DateTime
  expiresAt : DateTime
  deriving DecidableEq

def materializeCredential (transaction : IssuanceRow) (credentialId : String)
    (materials : Materials) : Except IssuanceError IssuedCredential := do
  rejectIf (services.retiredOpenBadge transaction.toCredentialTransaction none = true)
    .retiredOpenBadge
  rejectIf (materials.builtId ≠ credentialId) .builderChangedCredentialId
  rejectIf (services.retiredOpenBadge transaction.toCredentialTransaction
    (some materials.credential) = true) .retiredOpenBadge
  pure
    { id := credentialId
      transactionId := transaction.id
      organizationId := transaction.organizationId
      credentialTemplateId := transaction.credentialTemplateId
      applicantId := transaction.applicantId
      subjectDid := materials.subjectDid
      issuerDid := materials.issuerDid
      revocationProfileId := materials.revocationProfileId
      renewedFromCredentialId := transaction.renewalOfCredentialId
      statusListEntries := materials.statusListEntries
      credential := materials.credential
      credentialHash := services.sha256 materials.credential
      issuedAt := materials.issuedAt
      expiresAt := materials.expiresAt }

/-! ## Finalization -/

def issuedCredentialContainsPrivateMaterial (credential : IssuedCredential) : Bool :=
  services.containsPrivateKey (.array credential.statusListEntries) ||
    services.containsPrivateKey (.string credential.credential)

def validateFinalizationInput (transaction : IssuanceRow) (credential : IssuedCredential) :
    Except IssuanceError Unit :=
  rejectIf (issuedCredentialContainsPrivateMaterial services credential = true ∨
      transaction.status ≠ .signing ∨
      transaction.reservedCredentialId ≠ some credential.id ∨
      credential.transactionId ≠ transaction.id ∨
      credential.organizationId ≠ transaction.organizationId ∨
      credential.credentialTemplateId ≠ transaction.credentialTemplateId)
    .repositoryUnavailable

def validateAuthoritativeFinalization (row : IssuanceRow) (credential : IssuedCredential) :
    Except IssuanceError Unit :=
  rejectIf (row.status ≠ .signing ∨ row.organizationId ≠ credential.organizationId ∨
      row.credentialTemplateId ≠ credential.credentialTemplateId ∨
      row.reservedCredentialId ≠ some credential.id) .repositoryUnavailable

/-- Blank links of historical rows are no links. -/
def renewalSourceId (value : Option String) : Option String :=
  value.filter fun id => Text.trim id ≠ ""

/-- The primary key and the unique index of `issued_credentials`. -/
def insertCredential (s : IssuanceStore) (credential : IssuedCredential) :
    Except IssuanceError IssuanceStore := do
  rejectIf (∃ row ∈ s.credentials, row.id = credential.id ∨
    row.transactionId = credential.transactionId) .repositoryUnavailable
  pure { s with credentials := s.credentials ++ [credential] }

/-- `INSERT_NOTIFICATION_BINDING`, which leaves a row in conflict as it is. -/
def insertBinding (s : IssuanceStore) (transactionId credentialId notificationId : String) :
    IssuanceStore :=
  match s.transactions transactionId with
  | none => s
  | some row =>
      if (∃ credential ∈ s.credentials, credential.transactionId = transactionId ∧
            credential.id = credentialId ∧ credential.organizationId = row.organizationId) ∧
          ∀ b ∈ s.bindings, b.id ≠ notificationBindingEventId services transactionId ∧
            b.notificationId ≠ notificationId then
        { s with
          bindings := s.bindings ++
            [⟨notificationBindingEventId services transactionId, transactionId, row.applicationId,
              notificationId, credentialId, row.organizationId⟩] }
      else s

def validateNotificationBinding (b : NotificationBinding)
    (transactionId credentialId organizationId : String) (applicationId : Option String)
    (notificationId : String) : Except IssuanceError Unit :=
  rejectIf (b.transactionId ≠ transactionId ∨ b.applicationId ≠ applicationId ∨
      b.notificationId ≠ notificationId ∨ b.credentialId ≠ credentialId ∨
      b.organizationId ≠ organizationId) .repositoryUnavailable

/-- The one binding of the transaction or of the notification is the one that was asked for. -/
def verifyBinding (s : IssuanceStore) (transactionId credentialId organizationId : String)
    (applicationId : Option String) (notificationId : String) : Except IssuanceError Unit :=
  match s.bindings.filter fun b =>
      b.id = notificationBindingEventId services transactionId ∨
        b.notificationId = notificationId with
  | [b] => validateNotificationBinding b transactionId credentialId organizationId applicationId
      notificationId
  | _ => .error .repositoryUnavailable

def insertNotificationBinding (s : IssuanceStore) (transaction : IssuanceRow)
    (credential : IssuedCredential) (notificationId : String) :
    Except IssuanceError IssuanceStore := do
  rejectIf (Text.trim notificationId = "" ∨
    services.containsPrivateKey (.string notificationId) = true) .repositoryUnavailable
  verifyBinding services (insertBinding services s transaction.id credential.id notificationId)
    transaction.id credential.id transaction.organizationId transaction.applicationId
    notificationId
  pure (insertBinding services s transaction.id credential.id notificationId)

/-- Only the endpoint announces a notification when it finalizes. -/
def announce (s : IssuanceStore) (transaction : IssuanceRow) (credential : IssuedCredential)
    (notificationId : Option String) : Except IssuanceError IssuanceStore :=
  match notificationId with
  | none => .ok s
  | some notificationId => insertNotificationBinding services s transaction credential notificationId

/-- `finalize_credential`; `rest` is whether the other statements of the database transaction
succeed: the projection into Canvas, the reference of an mdoc, the delivery that is staged. -/
def finalizeCredential (s : IssuanceStore) (transaction : IssuanceRow)
    (credential : IssuedCredential) (notificationId : Option String) (rest : Bool) :
    Except IssuanceError IssuanceStore := do
  validateFinalizationInput services transaction credential
  let authoritative ← okOr (s.transactions transaction.id) .repositoryUnavailable
  validateAuthoritativeFinalization authoritative credential
  rejectIf (renewalSourceId authoritative.renewalOfCredentialId ≠
    renewalSourceId credential.renewedFromCredentialId) .repositoryUnavailable
  rejectIf (∃ row ∈ s.credentials, row.transactionId = transaction.id) .repositoryUnavailable
  let inserted ← insertCredential s credential
  let announced ← announce services inserted transaction credential notificationId
  rejectIf (rest = false) .repositoryUnavailable
  pure (announced.setTransaction transaction.id
    { authoritative with status := .issued, nonce := none, issuedAt := some credential.issuedAt })

/-- The credential of a transaction with the row that it joins. -/
def IssuanceStore.joined (s : IssuanceStore) (transactionId : String) :
    Option (IssuedCredential × IssuanceRow) := do
  let credential ← s.credential? transactionId
  let row ← s.transactions transactionId
  if credential.organizationId = row.organizationId then some (credential, row) else none

def IssuanceStore.binding? (s : IssuanceStore) (transactionId : String) :
    Option NotificationBinding :=
  s.bindings.find? fun b =>
    b.id = notificationBindingEventId services transactionId ∧ b.transactionId = transactionId

/-- A binding that is found names the credential that it was found with. -/
def existingCredential (credential : IssuedCredential) (row : IssuanceRow)
    (b : NotificationBinding) : Except IssuanceError ExistingCredential := do
  rejectIf (Text.trim b.notificationId = "" ∨ b.credentialId ≠ credential.id ∨
    b.organizationId ≠ row.organizationId ∨ b.applicationId ≠ row.applicationId)
    .repositoryUnavailable
  pure ⟨credential.id, credential.credential, b.notificationId⟩

/-! ## The other statements -/

/-- The statements of the service that write the rows beside the issuance. -/
inductive OtherStatement
  /-- An initiation, or the transaction of an authorization session. -/
  | insert (row : IssuanceRow)
  /-- `CLAIM_TRANSACTION` of a token exchange. -/
  | exchange (id : String) (claims : Json.Map)
  /-- `BIND_AUTHORIZATION_TRANSACTION`. -/
  | bind (id : String) (claims : Json.Map)
  /-- An offer that is still pending is prepared again. -/
  | refresh (id : String) (prepared : IssuanceRow)
  /-- `REVOKE_TRANSACTION`. -/
  | revoke (id : String)
  /-- `CANCEL_UNISSUED_TRANSACTION`. -/
  | cancel (id : String)

/-- A conditional update of one row. -/
def IssuanceStore.updateWhen (s : IssuanceStore) (id : String) (condition : IssuanceRow → Bool)
    (f : IssuanceRow → IssuanceRow) : IssuanceStore :=
  match s.transactions id with
  | none => s
  | some row => if condition row then s.setTransaction id (f row) else s

def OtherStatement.apply (s : IssuanceStore) : OtherStatement → IssuanceStore
  | .insert row =>
      if s.transactions row.id = none ∧ (row.status = .pending ∨ row.status = .authorized) then
        s.setTransaction row.id row
      else s
  | .exchange id claims => s.updateWhen id (fun row => row.status = .pending) fun row =>
      { row with status := .authorized, claims := claims, nonce := none }
  | .bind id claims => s.updateWhen id (fun _ => true) fun row =>
      { row with
        claims := claims
        status := if row.status = .pending then .authorized else row.status }
  | .refresh id prepared => s.updateWhen id (fun row => row.status = .pending) fun row =>
      { prepared with
        id := row.id
        organizationId := row.organizationId
        applicationId := row.applicationId
        renewalOfCredentialId := row.renewalOfCredentialId
        status := row.status
        reservedCredentialId := row.reservedCredentialId
        nonce := row.nonce
        issuedAt := row.issuedAt }
  | .revoke id => s.updateWhen id (fun _ => true) fun row => { row with status := .revoked }
  | .cancel id => s.updateWhen id (fun row =>
      row.status ∈ [.pending, .expired, .failed, .revoked] ∧ row.reservedCredentialId = none ∧
        ∀ credential ∈ s.credentials, credential.transactionId ≠ id) fun row =>
      { row with status := .revoked }

/-! ## The steps of a call -/

inductive Disposition
  | committed
  | replay
  | concurrentRecovery
  deriving DecidableEq

/-- Why the credential of a transaction is looked up: it was issued before the call, or another
call held the claim, and the row was issued by then or was not. -/
inductive Lookup
  | replay
  | recovery (issued : Bool)
  deriving DecidableEq

/-- Where a call of the endpoint or of the delivery stands. -/
inductive IssuanceCall
  | idle
  | fetched (transaction : IssuanceRow)
  | proved (transaction : IssuanceRow)
  | ready (transaction : IssuanceRow)
  | claimed (transaction : IssuanceRow) (credentialId : String)
  | built (transaction : IssuanceRow) (credential : IssuedCredential) (notificationId : String)
  | notifying (transaction : IssuanceRow) (credential : IssuedCredential) (notificationId : String)
  | failing (transactionId : String) (error : IssuanceError)
  | overtaken (transactionId : String)
  | looking (transactionId : String) (lookup : Lookup)
  | unbound (transactionId : String) (lookup : Lookup) (credential : IssuedCredential)
  | binding (transactionId : String) (lookup : Lookup) (credential : IssuedCredential)
      (row : IssuanceRow)
  | verifying (transactionId : String) (lookup : Lookup) (credential : IssuedCredential)
      (row : IssuanceRow)
  | prepared (transaction : IssuanceRow)
  | packing (claim : DidcommClaim) (credentialId : String)
  | staging (claim : DidcommClaim) (credential : IssuedCredential)
  | releasing (claim : DidcommClaim) (error : IssuanceError)
  | staged (transactionId : String) (credential : IssuedCredential)
  | answered (transactionId : String) (existing : ExistingCredential) (disposition : Disposition)
  | failed (error : IssuanceError)
  deriving DecidableEq

inductive IssuanceEvent
  /-- An access token of the transaction is presented. -/
  | fetch (id : String)
  /-- The delivery of the transaction is asked for. -/
  | deliver (id : String)
  /-- The request, the issuer and the proof are in order. -/
  | prove (credentialType : Option String) (issuer : IssuerContext)
  | consumeNonce (answer : Except Unit Bool)
  /-- The claim takes effect, whether or not the call learns it. -/
  | claim (issuer : IssuerContext) (learnt : Bool)
  | materialize (answer : Except IssuanceError Materials) (notificationId : String)
  | finalize (rest learnt : Bool)
  /-- `after_issued` answers. -/
  | notify (answer : Except IssuanceError Unit)
  /-- The next statement of the call. -/
  | exec
  /-- The next statement takes effect, but the call does not learn it. -/
  | lose
  /-- The next statement fails. -/
  | fail
  /-- A check or a service says no. -/
  | reject (error : IssuanceError)
  | other (statement : OtherStatement)

/-- What the endpoint does with the transaction of an access token. -/
def admission (transaction : IssuanceRow) (credentialType : Option String)
    (issuer : IssuerContext) : IssuanceCall :=
  match transaction.status with
  | .issued => .looking transaction.id .replay
  | .signing => .failed .issuanceInProgress
  | .authorized =>
      .proved (applyIssuerContext { transaction with credentialType := credentialType } issuer)
  | _ => .failed .invalidTransactionState

def consumed (transaction : IssuanceRow) : Except Unit Bool → IssuanceCall
  | .ok true => .ready transaction
  | .ok false => .failed .invalidNonce
  | .error () => .failed .nonceRepositoryUnavailable

def claimedSigning (transactionId credentialId : String) : Option IssuanceRow → IssuanceCall
  | some row => .claimed row credentialId
  | none => .overtaken transactionId

def claimedDelivery (credentialId : String) : Option DidcommClaim → IssuanceCall
  | some claim => .packing claim credentialId
  | none => .failed .concurrentDelivery

/-- What is answered with a credential that was found. -/
def Lookup.answer (transactionId : String) (existing : ExistingCredential) : Lookup → IssuanceCall
  | .replay => .answered transactionId existing .replay
  | .recovery true => .answered transactionId existing .concurrentRecovery
  | .recovery false => .failed .issuanceInProgress

def Lookup.missing : Lookup → IssuanceError
  | .replay => .credentialAlreadyIssued
  | .recovery _ => .issuanceInProgress

/-- The first query of `credential_by_transaction`. -/
def lookUp (s : IssuanceStore) (transactionId : String) (lookup : Lookup) : IssuanceCall :=
  match s.joined transactionId with
  | none => .failed lookup.missing
  | some (credential, row) =>
      match s.binding? services transactionId with
      | none => .unbound transactionId lookup credential
      | some b =>
          match existingCredential credential row b with
          | .error e => .failed e
          | .ok existing => lookup.answer transactionId existing

/-- The last query of `credential_by_transaction`, after the binding was inserted. -/
def verified (s : IssuanceStore) (transactionId : String) (lookup : Lookup)
    (credential : IssuedCredential) (row : IssuanceRow) : IssuanceCall :=
  match verifyBinding services s transactionId credential.id row.organizationId row.applicationId
      (legacyNotificationId services transactionId) with
  | .error e => .failed e
  | .ok () => lookup.answer transactionId
      ⟨credential.id, credential.credential, legacyNotificationId services transactionId⟩

/-- The steps that do not hold a claim. -/
def freeStep (s : IssuanceStore) : IssuanceCall → IssuanceEvent → Option IssuanceCall
  | .idle, .fetch id => some ((s.transactions id).elim (.failed .invalidAccessToken) .fetched)
  | .idle, .deliver id => some ((s.transactions id).elim (.failed .credentialUnavailable) fun row =>
      if row.status = .pending ∨ row.status = .authorized then .prepared row
      else .failed .invalidTransactionState)
  | .fetched transaction, .prove credentialType issuer =>
      some (admission transaction credentialType issuer)
  | .proved transaction, .consumeNonce answer => some (consumed transaction answer)
  | .overtaken id, .exec => some (.looking id (.recovery
      ((s.transactions id).any fun row => row.status = .issued)))
  | .looking id lookup, .exec => some (lookUp services s id lookup)
  | .unbound id lookup credential, .exec => some ((s.joined id).elim
      (.failed .repositoryUnavailable) fun found =>
        if found.1.id = credential.id then .binding id lookup credential found.2
        else .failed .repositoryUnavailable)
  | .verifying id lookup credential row, .exec =>
      some (verified services s id lookup credential row)
  | .fetched _, .reject e | .proved _, .reject e | .ready _, .reject e | .prepared _, .reject e
  | .looking _ _, .reject e | .unbound _ _ _, .reject e | .binding _ _ _ _, .reject e
  | .verifying _ _ _ _, .reject e | .overtaken _, .reject e => some (.failed e)
  | _, _ => none

/-- The statements of a call that write the tables. -/
def writeStep (s : IssuanceStore) : IssuanceCall → IssuanceEvent →
    Option (IssuanceStore × IssuanceCall)
  | .ready transaction, .claim issuer learnt =>
      let copy := applyIssuerContext transaction issuer
      let credentialId := reservedCredentialId services.uuidV5 copy.toCredentialTransaction
      let claimed := claimForSigning s copy credentialId
      some (claimed.2, if learnt then claimedSigning copy.id credentialId claimed.1
        else .failed .repositoryUnavailable)
  | .prepared transaction, .claim issuer learnt =>
      let copy := applyIssuerContext transaction issuer
      let credentialId := reservedCredentialId services.uuidV5 copy.toCredentialTransaction
      let claimed := claimRetryably s copy credentialId
      some (claimed.2, if learnt then claimedDelivery credentialId claimed.1
        else .failed .credentialUnavailable)
  | .built transaction credential notificationId, .finalize rest learnt =>
      match finalizeCredential services s transaction credential (some notificationId) rest with
      | .error e => some (s, .failing transaction.id e)
      | .ok finalized => some (finalized,
          if learnt then .notifying transaction credential notificationId
          else .failing transaction.id .repositoryUnavailable)
  | .staging claim credential, .finalize rest learnt =>
      match finalizeCredential services s claim.transaction credential none rest with
      | .error _ => some (s, .releasing claim .credentialUnavailable)
      | .ok finalized => some (finalized,
          if learnt then .staged claim.transaction.id credential
          else .releasing claim .credentialUnavailable)
  | .failing id e, .exec => some (markFailedIfSigning s id, .failed e)
  | .releasing claim e, .exec =>
      some ((releaseRetryably s claim).2,
        if (releaseRetryably s claim).1 then .failed e else .failed .retryStateUnavailable)
  | .releasing claim _, .lose =>
      some ((releaseRetryably s claim).2, .failed .retryStateUnavailable)
  | .binding id lookup credential row, .exec =>
      some (insertBinding services s id credential.id (legacyNotificationId services id),
        .verifying id lookup credential row)
  | _, _ => none

/-- The steps of a call that holds a claim and leaves the tables as they are. -/
def heldStep : IssuanceCall → IssuanceEvent → Option IssuanceCall
  | .claimed transaction credentialId, .materialize answer notificationId =>
      match answer.bind (materializeCredential services transaction credentialId) with
      | .error e => some (.failing transaction.id e)
      | .ok credential => some (.built transaction credential notificationId)
  | .packing claim credentialId, .materialize answer _ =>
      match answer.bind (materializeCredential services claim.transaction credentialId) with
      | .error .retiredOpenBadge => some (.releasing claim .retiredOpenBadge)
      | .error _ => some (.releasing claim .credentialUnavailable)
      | .ok credential => some (.staging claim credential)
  | .notifying transaction credential notificationId, .notify (.ok ()) =>
      some (.answered transaction.id ⟨credential.id, credential.credential, notificationId⟩
        .committed)
  | .notifying transaction _ _, .notify (.error e) => some (.failing transaction.id e)
  | .built transaction _ _, .fail => some (.failing transaction.id .repositoryUnavailable)
  | .staging claim _, .reject e => some (.releasing claim e)
  | .staging claim _, .fail => some (.releasing claim .credentialUnavailable)
  | .failing _ e, .fail => some (.failed e)
  | .releasing _ _, .fail => some (.failed .retryStateUnavailable)
  | _, _ => none

def issuanceStep (event : IssuanceEvent) (s : IssuanceStore) (call : IssuanceCall) :
    Option (IssuanceStore × IssuanceCall) :=
  match event with
  | .other statement => some (statement.apply s, call)
  | event =>
      (writeStep services s call event).or
        (((freeStep services s call event).or (heldStep services call event)).map fun call =>
          (s, call))

def issuanceMachine (ι : Type) : Machine IssuanceStore ι IssuanceEvent IssuanceCall where
  step _ event s call := issuanceStep services event s call

end Marty.Issuance.Signing
