import Marty.Lib.BTree
import Marty.Lib.Checked
import Marty.Lib.Chrono
import Marty.Lib.Hex
import Marty.Lib.Text

/-!
# The lifecycle of signing certificates

The certificates of a country's signing authority, each with its revocation and its
successor, and the outbox of the events that announce every change.  The document carries a
revision that every change raises; a change is made on a copy of the document, and an error
leaves behind what the change had already done to the copy.

## Main definitions

* `CscaLifecycleDocument` — the document; `importCertificate`, `revoke`, `renew`,
  `acknowledgeOutbox` — its changes; `pendingOutbox` — the events to be sent.
* `buildRecord`, `validateStoredDocument` — the checks of certificates and of documents.
-/

namespace Marty.SigningKeys

open Lib Lib.Checked

def maxSafeRedisRevision : Nat := 9007199254740991

def cscaLifecycleSchemaVersion : Nat := 3

def maxOutboxEvents : Nat := 10000

def maxOutboxPageSize : Nat := 1000

inductive CscaLifecycleError
  | invalid (reason : String)
  | conflict (id : String)
  | notFound (id : String)
  | outboxEventNotFound (id : String)
  | concurrentModification
  | storage (reason : String)
  | corrupt (reason : String)
  deriving DecidableEq, Repr

def CscaLifecycleError.display : CscaLifecycleError → String
  | .invalid reason => reason
  | .conflict id => "CSCA certificate '" ++ id ++ "' already exists"
  | .notFound id => "CSCA certificate '" ++ id ++ "' was not found"
  | .outboxEventNotFound id => "CSCA outbox event '" ++ id ++ "' was not found"
  | .concurrentModification =>
      "CSCA lifecycle state changed concurrently; retry the operation"
  | .storage reason => "CSCA lifecycle storage is unavailable: " ++ reason
  | .corrupt reason => "stored CSCA lifecycle document is malformed: " ++ reason

abbrev Lifecycle (α : Type) := Except CscaLifecycleError α

inductive CscaCertificateStatus
  | valid | notYetValid | expired | revoked
  deriving DecidableEq, Repr

structure ImportCscaCertificateRequest where
  certPem : String
  certChainPem : String
  keyReference : String
  expectedPublicJwk : Json.Value
  metadata : Json.Value

structure CscaOutboxEvent where
  eventId : String
  topic : String
  key : String
  payload : Json.Value
  createdAt : String
  publishedAt : Option String

structure CscaCertificateRecord where
  certificateId : String
  subject : String
  issuer : String
  certPem : String
  certChainPem : String
  keyReference : String
  publicJwk : Json.Value
  notBefore : String
  notAfter : String
  createdAt : String
  revokedAt : Option String
  revocationReason : Option String
  renewedFrom : Option String
  renewedTo : Option String
  metadata : Json.Value

structure CscaCertificateView where
  certificate : CscaCertificateRecord
  status : CscaCertificateStatus

structure CscaLifecycleDocument where
  schemaVersion : Nat
  revision : Nat
  organizationId : String
  certificates : BTreeMap String CscaCertificateRecord
  outbox : BTreeMap String CscaOutboxEvent
  updatedAt : String

/-! ## Other packages -/

abbrev Der := List UInt8

structure CertificateInfo where
  subject : String
  issuer : String
  notBefore : String
  notAfter : String
  isCa : Bool

/-- The functions of other packages: certificates, the key material policy, and times. -/
structure CertificatePackages where
  loadCertificatePem : String → Except String Der
  getCertificateInfo : Der → Except String CertificateInfo
  verifyCertificateSignature : Der → Der → Except String Bool
  certificatePemToJwk : String → Except String Json.Value
  samePublicJwk : Json.Value → Json.Value → Bool
  /-- The blocks of a chain, when there is nothing else in the text. -/
  certificateBlocks : String → Option (List String)
  hasPrivateKeyMarker : String → Bool
  containsPrivateKey : Json.Value → Bool
  parseFromRfc3339 : String → Option Utc
  /-- Seconds, with the letter of the zone. -/
  toRfc3339Secs : Utc → String

variable (packages : CertificatePackages)

def parseTime (field value : String) : Lifecycle Utc :=
  okOr (packages.parseFromRfc3339 value) (.invalid (field ++ " must be RFC 3339"))

def timestamp (value : Utc) : String := packages.toRfc3339Secs value

def isIdentifierChar (c : Char) : Bool :=
  (48 ≤ c.toNat && c.toNat ≤ 57) || (65 ≤ c.toNat && c.toNat ≤ 90) ||
    (97 ≤ c.toNat && c.toNat ≤ 122) || c ∈ ['-', '_', '.', ':']

def validateIdentifier (field value : String) : Lifecycle Unit :=
  rejectIf ((Text.trim value).isEmpty ∨ 128 < value.utf8ByteSize ∨
      value.toList.all isIdentifierChar = false)
    (.invalid (field ++ " contains unsupported characters"))

def isControl (c : Char) : Bool := c.toNat < 32 || (127 ≤ c.toNat && c.toNat ≤ 159)

def validateKeyReference (value : String) : Lifecycle Unit := do
  let value := Text.trim value
  rejectIf value.isEmpty
    (.invalid "key_reference is required; private keys must remain in managed custody")
  rejectIf (2048 < value.utf8ByteSize ∨ value.toList.any isControl ∨
      packages.hasPrivateKeyMarker value)
    (.invalid "key_reference must be a bounded managed-provider reference, not key material")

/-! ## Certificate paths -/

def parseCertificateChain (value : String) : Lifecycle (List Der) :=
  if (Text.trim value).isEmpty then .ok []
  else do
    rejectIf (packages.hasPrivateKeyMarker value)
      (.invalid "cert_chain_pem must not contain private key material")
    let blocks ← okOr ((packages.certificateBlocks value).filter (· ≠ []))
      (.invalid "cert_chain_pem must contain only PEM certificates")
    mapEach (fun block => (packages.loadCertificatePem block).mapError fun error =>
      .invalid ("invalid cert_chain_pem: " ++ error)) blocks

def verifyCertificateLink (child : Der) (childInfo : CertificateInfo) (issuer : Der) :
    Lifecycle Unit := do
  let issuerInfo ← (packages.getCertificateInfo issuer).mapError fun error =>
    .invalid ("invalid issuer certificate: " ++ error)
  rejectIf (issuerInfo.isCa = false)
    (.invalid "certificate chain issuer must assert CA basic constraints")
  rejectIf (childInfo.issuer ≠ issuerInfo.subject)
    (.invalid "certificate chain issuer and subject names do not match")
  let valid ← (packages.verifyCertificateSignature child issuer).mapError fun error =>
    .invalid ("certificate chain signature is invalid: " ++ error)
  rejectIf (valid = false) (.invalid "certificate chain signature is invalid")

/-- From a certificate up the chain to its last issuer. -/
def verifyChain (child : Der) (childInfo : CertificateInfo) :
    List Der → Lifecycle (Der × CertificateInfo)
  | [] => .ok (child, childInfo)
  | issuer :: chain => do
      verifyCertificateLink packages child childInfo issuer
      let issuerInfo ← (packages.getCertificateInfo issuer).mapError fun error =>
        .invalid ("invalid cert_chain_pem: " ++ error)
      verifyChain issuer issuerInfo chain

def validateCertificatePath (der : Der) (info : CertificateInfo) (chainPem : String) :
    Lifecycle Unit := do
  let chain ← parseCertificateChain packages chainPem
  if chain.isEmpty then do
    rejectIf (info.subject ≠ info.issuer)
      (.invalid "a non-self-issued CSCA certificate requires its issuer chain")
    verifyCertificateLink packages der info der
  else do
    let childInfo ← (packages.getCertificateInfo der).mapError fun error =>
      .invalid ("invalid cert_pem: " ++ error)
    let last ← verifyChain packages der childInfo chain
    if last.2.subject = last.2.issuer then verifyCertificateLink packages last.1 last.2 last.1
    else return ()

/-! ## Records -/

def CscaCertificateRecord.statusAt (record : CscaCertificateRecord) (now : Utc) :
    Lifecycle CscaCertificateStatus :=
  if record.revokedAt.isSome then .ok .revoked
  else do
    let notBefore ← parseTime packages "not_before" record.notBefore
    if now < notBefore then return .notYetValid
    else do
      let notAfter ← parseTime packages "not_after" record.notAfter
      return if notAfter ≤ now then .expired else .valid

def CscaCertificateRecord.viewAt (record : CscaCertificateRecord) (now : Utc) :
    Lifecycle CscaCertificateView := do
  let status ← record.statusAt packages now
  return ⟨record, status⟩

def buildRecord (certificateId : String) (request : ImportCscaCertificateRequest) (now : Utc)
    (renewedFrom : Option String) : Lifecycle CscaCertificateRecord := do
  validateKeyReference packages request.keyReference
  rejectIf (packages.hasPrivateKeyMarker request.certPem)
    (.invalid "cert_pem must not contain private key material")
  rejectIf (packages.containsPrivateKey request.metadata)
    (.invalid "metadata must not contain private key material")
  rejectIf (packages.containsPrivateKey request.expectedPublicJwk)
    (.invalid "expected_public_jwk must not contain private key material")
  let invalidPem := fun error => CscaLifecycleError.invalid ("invalid cert_pem: " ++ error)
  let der ← (packages.loadCertificatePem request.certPem).mapError invalidPem
  let info ← (packages.getCertificateInfo der).mapError invalidPem
  validateCertificatePath packages der info request.certChainPem
  rejectIf (info.isCa = false)
    (.invalid "CSCA certificate must assert CA basic constraints")
  let publicJwk ← (packages.certificatePemToJwk request.certPem).mapError invalidPem
  rejectIf (packages.samePublicJwk publicJwk request.expectedPublicJwk = false)
    (.invalid "certificate public key does not match expected_public_jwk")
  let notBefore ← parseTime packages "not_before" info.notBefore
  let notAfter ← parseTime packages "not_after" info.notAfter
  rejectIf (notAfter ≤ notBefore)
    (.invalid "CSCA certificate not_after must be later than not_before")
  return {
    certificateId := certificateId
    subject := info.subject
    issuer := info.issuer
    certPem := request.certPem
    certChainPem := request.certChainPem
    keyReference := Text.trim request.keyReference
    publicJwk := publicJwk
    notBefore := info.notBefore
    notAfter := info.notAfter
    createdAt := timestamp packages now
    revokedAt := none
    revocationReason := none
    renewedFrom := renewedFrom
    renewedTo := none
    metadata := request.metadata }

def CscaCertificateRecord.revoke (record : CscaCertificateRecord) (reason : String)
    (now : Utc) : CscaCertificateRecord :=
  { record with
    revokedAt := some (timestamp packages now)
    revocationReason := some
      (if (Text.trim reason).isEmpty then "unspecified" else Text.trim reason) }

def CscaCertificateRecord.supersede (record : CscaCertificateRecord) (replacementId : String)
    (now : Utc) : CscaCertificateRecord :=
  { record with
    revokedAt := some (timestamp packages now)
    revocationReason := some "SUPERSEDED"
    renewedTo := some replacementId }

namespace CscaLifecycleDocument

def empty (organizationId : String) (now : Utc) : CscaLifecycleDocument where
  schemaVersion := cscaLifecycleSchemaVersion
  revision := 0
  organizationId := organizationId
  certificates := BTreeMap.empty
  outbox := BTreeMap.empty
  updatedAt := timestamp packages now

variable (document : CscaLifecycleDocument)

def record (certificateId : String) : Lifecycle CscaCertificateRecord :=
  okOr (document.certificates.get certificateId) (.notFound certificateId)

/-- Put a record in the place of the one with its identifier. -/
def setRecord (certificateId : String) (record : CscaCertificateRecord) :
    CscaLifecycleDocument :=
  { document with certificates := document.certificates.insert certificateId record }

/-! ## The outbox -/

/-- The revision in sixteen digits, the topic, and the key. -/
def outboxEventId (revision : Nat) (topic key : String) : String :=
  String.ofList (fixedHex 16 revision ++ ('-' :: topic.toList ++ '-' :: key.toList))

/-- A change with what it does to the document, also when it fails. -/
abbrev Change (α : Type) := CscaLifecycleDocument × Lifecycle α

def touch (now : Utc) : Change Unit :=
  if maxSafeRedisRevision ≤ document.revision then
    (document, .error (.corrupt "revision counter overflowed"))
  else
    ({ document with
      revision := document.revision + 1
      updatedAt := timestamp packages now }, .ok ())

def enqueue (topic key : String) (payload : Json.Value) (now : Utc) : Change Unit :=
  let eventId := outboxEventId (document.revision + 1) topic key
  let event : CscaOutboxEvent :=
    ⟨eventId, topic, key, payload, timestamp packages now, none⟩
  let queued := { document with outbox := document.outbox.insert eventId event }
  if document.outbox.containsKey eventId then
    (queued, .error (.corrupt ("duplicate outbox event '" ++ eventId ++ "'")))
  else (queued, .ok ())

/-- At capacity, the events that have been published are dropped. -/
def pruneOutbox : CscaLifecycleDocument :=
  if maxOutboxEvents ≤ document.outbox.length then
    { document with outbox := document.outbox.retain fun _ event => event.publishedAt.isNone }
  else document

def prepareOutbox (topic key : String) : Change Unit :=
  if maxSafeRedisRevision ≤ document.revision then
    (document, .error (.corrupt "revision counter overflowed"))
  else
    let pruned := document.pruneOutbox
    let eventId := outboxEventId (document.revision + 1) topic key
    if maxOutboxEvents ≤ pruned.outbox.length then
      (pruned, .error (.storage "CSCA lifecycle outbox capacity was reached"))
    else if pruned.outbox.containsKey eventId then
      (pruned, .error (.corrupt ("duplicate outbox event '" ++ eventId ++ "'")))
    else (pruned, .ok ())

/-- One change after another, unless the first one fails. -/
def Change.andThen {α β : Type} (change : Change α)
    (next : CscaLifecycleDocument → Change β) : Change β :=
  match change with
  | (document, .error error) => (document, .error error)
  | (document, .ok _) => next document

/-- The end of every change: its event is put into the outbox, and the revision is raised. -/
def announce {α : Type} (topic key : String) (payload : Json.Value) (now : Utc) (result : α) :
    Change α :=
  (document.enqueue packages topic key payload now).andThen fun document =>
    (document.touch packages now).andThen fun document => (document, .ok result)

/-! ## The changes -/

def issuedPayload (certificateId : String) (view : CscaCertificateView) : Json.Value :=
  .object [("organization_id", .string document.organizationId),
    ("certificate_id", .string certificateId), ("subject", .string view.certificate.subject),
    ("not_after", .string view.certificate.notAfter)]

/-- The checks of an import, and the record that it makes. -/
def prepareImport (certificateId : String) (request : ImportCscaCertificateRequest)
    (now : Utc) : Lifecycle (CscaCertificateRecord × CscaCertificateView) := do
  validateIdentifier "certificate_id" certificateId
  rejectIf (document.certificates.containsKey certificateId) (.conflict certificateId)
  let record ← buildRecord packages certificateId request now none
  let view ← record.viewAt packages now
  return (record, view)

def importCertificate (certificateId : String) (request : ImportCscaCertificateRequest)
    (now : Utc) : Change CscaCertificateView :=
  match document.prepareImport packages certificateId request now with
  | .error error => (document, .error error)
  | .ok (record, view) =>
      (document.prepareOutbox "certificate.issued" certificateId).andThen fun document =>
        (document.setRecord certificateId record).announce packages "certificate.issued"
          certificateId (document.issuedPayload certificateId view) now view

def revokedPayload (certificateId : String) (view : CscaCertificateView) : Json.Value :=
  .object [("organization_id", .string document.organizationId),
    ("certificate_id", .string certificateId),
    ("reason", .ofOption .string view.certificate.revocationReason)]

/-- Revoke a certificate; one that is revoked stays as it is. -/
def revoke (certificateId reason : String) (now : Utc) : Change CscaCertificateView :=
  match document.record certificateId with
  | .error error => (document, .error error)
  | .ok record =>
      if record.revokedAt.isSome then (document, record.viewAt packages now)
      else
        (document.prepareOutbox "certificate.revoked" certificateId).andThen fun document =>
          let revoked := record.revoke packages reason now
          let document := document.setRecord certificateId revoked
          match revoked.viewAt packages now with
          | .error error => (document, .error error)
          | .ok view =>
              document.announce packages "certificate.revoked" certificateId
                (document.revokedPayload certificateId view) now view

def renewedPayload (certificateId replacementId : String) (view : CscaCertificateView)
    (reuseKey : Bool) : Json.Value :=
  .object [("organization_id", .string document.organizationId),
    ("previous_id", .string certificateId), ("certificate_id", .string replacementId),
    ("subject", .string view.certificate.subject), ("reused_key", .bool reuseKey)]

/-- The checks of a renewal: the record that is there, and the one that takes its place. -/
def prepareRenewal (certificateId replacementId : String)
    (request : ImportCscaCertificateRequest) (reuseKey : Bool) (now : Utc) :
    Lifecycle (CscaCertificateRecord × CscaCertificateRecord × CscaCertificateView) := do
  validateIdentifier "replacement_certificate_id" replacementId
  rejectIf (certificateId = replacementId ∨ document.certificates.containsKey replacementId)
    (.conflict replacementId)
  let prior ← document.record certificateId
  let priorDer ← (packages.loadCertificatePem prior.certPem).mapError fun error =>
    .corrupt ("certificate '" ++ certificateId ++ "' is invalid: " ++ error)
  let replacement ← buildRecord packages replacementId request now (some certificateId)
  let view ← replacement.viewAt packages now
  rejectIf (view.status ≠ .valid)
    (.invalid "replacement CSCA certificate must be currently valid")
  let replacementDer ← (packages.loadCertificatePem replacement.certPem).mapError fun error =>
    .invalid ("invalid replacement cert_pem: " ++ error)
  rejectIf (replacementDer = priorDer)
    (.invalid "replacement CSCA certificate must differ from the existing certificate")
  rejectIf (replacement.subject ≠ prior.subject)
    (.invalid "replacement CSCA certificate must preserve the existing subject")
  let samePublicKey := packages.samePublicJwk replacement.publicJwk prior.publicJwk
  rejectIf (reuseKey = true ∧
      (replacement.keyReference ≠ prior.keyReference ∨ samePublicKey = false))
    (.invalid "reuse_key requires the existing key_reference and certificate public key")
  rejectIf (reuseKey = false ∧ samePublicKey = true)
    (.invalid "reuse_key=false requires a newly rotated certificate public key")
  return (prior, replacement, view)

/-- Put a certificate in the place of another one, whether or not that one is revoked. -/
def renew (certificateId replacementId : String) (request : ImportCscaCertificateRequest)
    (reuseKey : Bool) (now : Utc) : Change CscaCertificateView :=
  match document.prepareRenewal packages certificateId replacementId request reuseKey now with
  | .error error => (document, .error error)
  | .ok (prior, replacement, view) =>
      (document.prepareOutbox "certificate.renewed" replacementId).andThen fun document =>
        let superseded := document.setRecord certificateId
          (prior.supersede packages replacementId now)
        (superseded.setRecord replacementId replacement).announce packages
          "certificate.renewed" replacementId
          (document.renewedPayload certificateId replacementId view reuseKey) now view

/-- The events that have not been published, in the order of their identifiers. -/
def pendingOutbox (limit : Option Nat) : Lifecycle (List CscaOutboxEvent) :=
  let limit := limit.getD 100
  if limit = 0 ∨ maxOutboxPageSize < limit then
    .error (.invalid ("limit must be between 1 and " ++ toString maxOutboxPageSize))
  else .ok ((document.outbox.values.filter fun event => event.publishedAt.isNone).take limit)

/-- The event counts as published before the revision is raised, which may fail. -/
def acknowledgeOutbox (eventId : String) (now : Utc) : Change CscaOutboxEvent :=
  match document.outbox.get eventId with
  | none => (document, .error (.outboxEventNotFound eventId))
  | some event =>
      if event.publishedAt.isSome then (document, .ok event)
      else
        let published := { event with publishedAt := some (timestamp packages now) }
        let document :=
          { document with outbox := document.outbox.insert eventId published }
        (document.touch packages now).andThen fun document => (document, .ok published)

end CscaLifecycleDocument

/-! ## Stored documents -/

def asCorrupt {α : Type} (checked : Lifecycle α) : Lifecycle α :=
  checked.mapError fun error => .corrupt error.display

def checkOptional {α : Type} (check : α → Lifecycle Unit) : Option α → Lifecycle Unit
  | none => .ok ()
  | some value => check value

def checkTime (field value : String) : Lifecycle Unit :=
  (asCorrupt (parseTime packages field value)).map fun _ => ()

def validateStoredRecord (entry : String × CscaCertificateRecord) : Lifecycle Unit := do
  let certificateId := entry.1
  let record := entry.2
  let corrupt := fun reason =>
    CscaLifecycleError.corrupt ("certificate '" ++ certificateId ++ "' " ++ reason)
  asCorrupt (validateIdentifier "certificate_id" certificateId)
  rejectIf (record.certificateId ≠ certificateId) (corrupt "does not match its map key")
  asCorrupt (validateKeyReference packages record.keyReference)
  rejectIf (packages.containsPrivateKey record.metadata)
    (corrupt "metadata contains private key material")
  rejectIf (packages.hasPrivateKeyMarker record.certPem) (corrupt "contains private key material")
  let der ← (packages.loadCertificatePem record.certPem).mapError fun error =>
    corrupt ("is invalid: " ++ error)
  let info ← (packages.getCertificateInfo der).mapError fun error =>
    corrupt ("is invalid: " ++ error)
  asCorrupt (validateCertificatePath packages der info record.certChainPem)
  let publicJwk ← (packages.certificatePemToJwk record.certPem).mapError fun error =>
    corrupt ("public key is invalid: " ++ error)
  rejectIf (info.isCa = false ∨ info.subject ≠ record.subject ∨ info.issuer ≠ record.issuer ∨
      info.notBefore ≠ record.notBefore ∨ info.notAfter ≠ record.notAfter ∨
      packages.samePublicJwk publicJwk record.publicJwk = false)
    (corrupt "metadata does not match its X.509 certificate")
  let notBefore ← asCorrupt (parseTime packages "not_before" record.notBefore)
  let notAfter ← asCorrupt (parseTime packages "not_after" record.notAfter)
  rejectIf (notAfter ≤ notBefore) (corrupt "has an invalid validity interval")
  checkTime packages "created_at" record.createdAt
  checkOptional (checkTime packages "revoked_at") record.revokedAt
  let checkLink := fun id => asCorrupt (validateIdentifier "renewal certificate identifier" id)
  checkOptional checkLink record.renewedFrom
  checkOptional checkLink record.renewedTo

def outboxTopics : List String :=
  ["certificate.issued", "certificate.renewed", "certificate.revoked"]

def validateStoredEvent (entry : String × CscaOutboxEvent) : Lifecycle Unit := do
  let eventId := entry.1
  let event := entry.2
  rejectIf (event.eventId ≠ eventId ∨ 512 < eventId.utf8ByteSize ∨
      eventId.toList.any isControl)
    (.corrupt "outbox event identifier does not match its map key")
  rejectIf (event.topic ∉ outboxTopics)
    (.corrupt ("outbox event '" ++ eventId ++ "' has an unsupported topic"))
  asCorrupt (validateIdentifier "outbox key" event.key)
  rejectIf (packages.containsPrivateKey event.payload)
    (.corrupt ("outbox event '" ++ eventId ++ "' contains private key material"))
  checkTime packages "outbox created_at" event.createdAt
  checkOptional (checkTime packages "outbox published_at") event.publishedAt

def validateStoredDocument (document : CscaLifecycleDocument) : Lifecycle Unit := do
  rejectIf (document.schemaVersion ≠ cscaLifecycleSchemaVersion)
    (.corrupt ("unsupported schema version " ++ toString document.schemaVersion))
  checkTime packages "updated_at" document.updatedAt
  rejectIf (maxSafeRedisRevision < document.revision)
    (.corrupt "revision counter exceeds the Redis-safe integer range")
  rejectIf (maxOutboxEvents < document.outbox.length)
    (.corrupt "CSCA lifecycle outbox exceeds its capacity")
  forEach (validateStoredRecord packages) document.certificates.entries
  forEach (validateStoredEvent packages) document.outbox.entries

end Marty.SigningKeys
