import Marty.Lib.Checked
import Marty.Lib.Delivery
import Marty.Lib.Interleaving
import Marty.Lib.MinimalInteger
import Marty.SigningKeys.RegistryRevision

/-!
# The issuance of document signer certificates

A caller claims an idempotency key for a while, reads four documents, and replaces one of them
when none has changed, its claim still stands, and it still holds the lease of the tenant.
The document keeps a receipt for every key and the serials that have been used.

## Main definitions

* `validSerial` — the serials that are accepted.
* `DscRedis` — the keys of a tenant; `completed`, `takeSnapshot` — what is read of them.
* `prepareCommit`, `commitScript` — the checks of a commit, and its script.
* `dscMachine` — any callers, with leases and claims that expire and other writers.
-/

namespace Marty.SigningKeys.Dsc

open Lib Lib.Checked
open Registry (rotationLeaseKey)
open Json (Value Map)

inductive DscIssuanceStoreError
  | invalid (reason : String)
  | conflict (reason : String)
  | storage
  | corrupt (reason : String)
  deriving DecidableEq, Repr

inductive CertificateFamily
  | icao | mdoc
  deriving DecidableEq, Repr

def CertificateFamily.receipts : CertificateFamily → String
  | icao => "passport_dsc_issuance"
  | mdoc => "mdoc_dsc_issuance"

def CertificateFamily.serials : CertificateFamily → String
  | icao => "passport_dsc_serials"
  | mdoc => "mdoc_dsc_serials"

def CertificateFamily.permission : CertificateFamily → String
  | icao => "passport-certificate:issue"
  | mdoc => "mdoc-certificate:issue"

/-! ## Serials -/

def hexDigitValue (c : Char) : Option Nat :=
  if 48 ≤ c.toNat ∧ c.toNat ≤ 57 then some (c.toNat - 48)
  else if 97 ≤ c.toNat ∧ c.toNat ≤ 102 then some (c.toNat - 87)
  else if 65 ≤ c.toNat ∧ c.toNat ≤ 70 then some (c.toNat - 55)
  else none

/-- A byte in two digits of either case; a plus sign may stand before one digit. -/
def hexByte (c d : Char) : Option Nat :=
  if c = '+' then hexDigitValue d
  else do return 16 * (← hexDigitValue c) + (← hexDigitValue d)

def hexBytes : List Char → Option (List Nat)
  | [] => some []
  | [_] => none
  | c :: d :: cs => do return (← hexByte c d) :: (← hexBytes cs)

def serialBytes (value : String) : Option (List Nat) := hexBytes value.toList

/-- The bytes are a positive integer, and none of them could be left out. -/
def minimalBytes : List Nat → Bool
  | [] => false
  | [b] => b ≠ 0 && b < 128
  | b :: c :: bytes => (b :: c :: bytes).any (· ≠ 0) && b < 128 && (b ≠ 0 || 128 ≤ c)

def validSerial (value : String) : Bool :=
  !value.isEmpty && value.utf8ByteSize ≤ 40 && value.utf8ByteSize % 2 == 0 &&
    (serialBytes value).any minimalBytes

/-- The integer that a serial denotes. -/
def serialNumber (value : String) : Option Nat := (serialBytes value).map bigEndian

/-! ## Documents -/

/-- The bytes of a document, and the value that a JSON reader takes them for. -/
structure JsonCodec (β : Type) where
  read : β → Option Value
  write : Value → β
  /-- A value is read as it was written. -/
  read_write : ∀ value, read (write value) = some value

/-- The documents that a commit depends on. -/
structure DscRaw (β : Type) where
  profiles : Option β
  registry : Option β
  lifecycle : Option β
  certificates : Option β
  deriving DecidableEq

structure PendingClaim where
  owner : String
  requestDigest : String
  deriving DecidableEq

/-- The keys of one tenant; pending claims are named by family and receipt. -/
structure DscRedis (β : Type) where
  profiles : Option β
  registry : Option β
  lifecycles : CertificateFamily → Option β
  certificates : Option β
  leases : String → Option String
  pending : CertificateFamily × String → Option PendingClaim

def DscRedis.raw {β : Type} (redis : DscRedis β) (family : CertificateFamily) : DscRaw β :=
  ⟨redis.profiles, redis.registry, redis.lifecycles family, redis.certificates⟩

/-- The receipt of a key, in a certificate document. -/
def receiptOf (document : Value) (family : CertificateFamily) (receiptId : String) :
    Option Value :=
  (document.get family.receipts).bind (·.get receiptId)

def serialReserved (document : Value) (family : CertificateFamily) (serialId : String) : Bool :=
  ((document.get family.serials).bind Value.asObject).any (·.containsKey serialId)

/-- The certificate of a profile. -/
def profileOf (document : Value) (profileId : String) : Option Value :=
  (document.get "profiles").bind (·.get profileId)

/-- The result of a receipt, for the request that it was made for. -/
def receiptResult (receipt : Value) (digest : String) : Except DscIssuanceStoreError Value := do
  rejectIf ((receipt.get "request_digest").bind Value.asStr ≠ some digest)
    (.conflict "idempotency key was reused with changed input")
  okOr ((receipt.get "result").filter Value.isObject) (.corrupt "issuance receipt result")

structure DscClaim where
  family : CertificateFamily
  receiptId : String
  owner : String
  requestDigest : String

def DscClaim.key (claim : DscClaim) : CertificateFamily × String :=
  (claim.family, claim.receiptId)

def DscClaim.pending (claim : DscClaim) : PendingClaim := ⟨claim.owner, claim.requestDigest⟩

section

variable {β : Type} (codec : JsonCodec β)

/-- What the bytes of the certificate document hold; without bytes it is null. -/
def certificatesOf (bytes : Option β) : Value := (bytes.bind codec.read).getD .null

def completed (redis : DscRedis β) (family : CertificateFamily) (receiptId digest : String) :
    Except DscIssuanceStoreError (Option Value) :=
  match redis.certificates with
  | none => .ok none
  | some bytes => do
      let document ← okOr (codec.read bytes) (.corrupt "certificate document")
      rejectIf (document.isObject = false ∨ ∃ field ∈ [family.receipts, family.serials],
          (document.get field).any (fun value => !value.isObject) = true)
        (.corrupt "certificate issuance ledger")
      match receiptOf document family receiptId with
      | none => return none
      | some receipt => return some (← receiptResult receipt digest)

/-- What a caller has read; the certificates are those of the bytes. -/
structure DscIssuanceSnapshot where
  profiles : Value
  registry : Value
  lifecycle : Value
  certificates : Value
  raw : DscRaw β
  decoded : certificates = certificatesOf codec raw.certificates

def readDocument (bytes : Option β) : Except DscIssuanceStoreError Value := do
  let value ← match bytes with
    | none => .ok .null
    | some bytes => okOr (codec.read bytes) (.corrupt "snapshot JSON")
  rejectIf (value.isNull = false ∧ value.isObject = false) (.corrupt "snapshot document")
  return value

def takeSnapshot (redis : DscRedis β) (family : CertificateFamily) :
    Except DscIssuanceStoreError (DscIssuanceSnapshot codec) := do
  let raw := redis.raw family
  let profiles ← readDocument codec raw.profiles
  let registry ← readDocument codec raw.registry
  let lifecycle ← readDocument codec raw.lifecycle
  let _ ← readDocument codec raw.certificates
  return ⟨profiles, registry, lifecycle, certificatesOf codec raw.certificates, raw, rfl⟩

end

/-! ## Commits -/

structure DscIssuanceInput where
  dscProfileId : String
  cscaProfileId : String
  cscaCertificateId : String
  actorId : String
  serialHex : String
  attachment : Value
  publicResult : Value

mutual

def forbiddenPublicData : Value → Bool
  | .object entries => forbiddenEntries entries
  | .array items => forbiddenItems items
  | _ => false

def forbiddenItems : List Value → Bool
  | [] => false
  | value :: items => forbiddenPublicData value || forbiddenItems items

def forbiddenEntries : List (String × Value) → Bool
  | [] => false
  | (key, value) :: entries =>
      key ∈ ["key_reference", "service_config", "auth_reference", "token"] ||
        forbiddenPublicData value || forbiddenEntries entries

end

def isControl (c : Char) : Bool := c.toNat < 32 || (127 ≤ c.toNat && c.toNat ≤ 159)

def DscIssuanceInput.serialId (input : DscIssuanceInput) : String :=
  input.cscaProfileId ++ ":" ++ input.serialHex

variable (containsPrivateKey : Value → Bool)

def checkInput (input : DscIssuanceInput) : Except DscIssuanceStoreError Unit := do
  rejectIf (validSerial input.serialHex = false ∨ input.dscProfileId = "" ∨
      input.cscaProfileId = "" ∨ input.cscaCertificateId = "" ∨
      Text.trim input.actorId = "" ∨ 256 < input.actorId.utf8ByteSize ∨
      input.actorId.toList.any isControl)
    (.invalid "certificate identity or serial")
  rejectIf (input.attachment.isObject = false ∨ input.publicResult.isObject = false ∨
      forbiddenPublicData input.publicResult = true ∨
      containsPrivateKey input.publicResult = true ∨
      containsPrivateKey input.attachment = true ∨
      ((input.attachment.get "cert_pem").bind Value.asStr).filter (· ≠ "") ≠
        (input.publicResult.get "certificate_pem").bind Value.asStr ∨
      (input.attachment.get "cert_chain_pem").bind Value.asStr ≠
        (input.publicResult.get "chain_pem").bind Value.asStr)
    (.invalid "public certificate result contains signing coordinates")

/-- The fields that make two certificates of a profile the same one. -/
def attachmentFields : List String :=
  ["cert_pem", "cert_chain_pem", "cert_expires_at", "public_jwk", "x5c",
    "signing_key_reference"]

def sameValue : Option Value → Option Value → Bool
  | none, none => true
  | some a, some b => a == b
  | _, _ => false

def sameAttachment (prior attachment : Value) : Bool :=
  attachmentFields.all fun field => sameValue (prior.get field) (attachment.get field)

def newReceipt (claim : DscClaim) (input : DscIssuanceInput) (now : String) : Value :=
  .object [("request_digest", .string claim.requestDigest),
    ("dsc_profile_id", .string input.dscProfileId),
    ("csca_profile_id", .string input.cscaProfileId),
    ("csca_certificate_id", .string input.cscaCertificateId),
    ("actor_id", .string input.actorId),
    ("authorized_permission", .string claim.family.permission),
    ("issued_at", .string now),
    ("serial", .string input.serialHex),
    ("result", input.publicResult)]

/-- The object under a key; it is made when the key is not there. -/
def entryObject (object : Map) (key : String) (error : DscIssuanceStoreError) :
    Except DscIssuanceStoreError Map :=
  okOr (((object.get key).getD (.object [])).asObject) error

/-- The document with the certificate, its receipt and its serial. -/
def replacementOf (object : Map) (claim : DscClaim) (input : DscIssuanceInput) (now : String) :
    Except DscIssuanceStoreError Value := do
  let object := object.insert "updated_at" (.string now)
  let profiles ← entryObject object "profiles" (.corrupt "certificate profiles")
  rejectIf ((profiles.get input.dscProfileId).any
      (fun prior => !sameAttachment prior input.attachment) = true)
    (.conflict "DSC profile already has a different certificate")
  let object := object.insert "profiles"
    (.object (profiles.insert input.dscProfileId input.attachment))
  let receipts ← entryObject object claim.family.receipts (.corrupt "issuance receipts")
  let object := object.insert claim.family.receipts
    (.object (receipts.insert claim.receiptId (newReceipt claim input now)))
  let serials ← entryObject object claim.family.serials (.corrupt "issuance serials")
  return .object (object.insert claim.family.serials
    (.object (serials.insert input.serialId (.string claim.receiptId))))

/-- What a commit has to do: nothing, when there is a receipt, or to replace the document. -/
inductive PreparedCommit
  | completed (result : Value)
  | replace (document : Value)

def prepareCommit (organizationId : String) (family : CertificateFamily) (claim : DscClaim)
    (certificates : Value) (lease : Registry.RotationLease) (input : DscIssuanceInput)
    (now : String) : Except DscIssuanceStoreError PreparedCommit := do
  rejectIf (family ≠ claim.family ∨ lease.key ≠ rotationLeaseKey organizationId)
    (.conflict "tenant signing lease is unavailable")
  checkInput containsPrivateKey input
  match receiptOf certificates family claim.receiptId with
  | some receipt => return .completed (← receiptResult receipt claim.requestDigest)
  | none => do
      let document := if certificates.isNull then .object [("services", .object [])]
        else certificates
      rejectIf (serialReserved document family input.serialId = true)
        (.conflict "CSCA serial is already reserved")
      let object ← okOr document.asObject (.corrupt "certificate document")
      return .replace (← replacementOf object claim input now)

section

variable {β : Type} (codec : JsonCodec β) [DecidableEq β]

/-- The script: the lease and the claim still stand, and no document has changed. -/
def commitScript (redis : DscRedis β) (lease : Registry.RotationLease) (claim : DscClaim)
    (prior : DscRaw β) (replacement : β) : DscRedis β × Int :=
  if redis.leases lease.key ≠ some lease.owner then (redis, -1)
  else if redis.pending claim.key ≠ some claim.pending then (redis, -2)
  else if redis.raw claim.family ≠ prior then (redis, 0)
  else ({ redis with certificates := some replacement }, 1)

def releaseScript (redis : DscRedis β) (claim : DscClaim) : DscRedis β :=
  if redis.pending claim.key = some claim.pending then
    { redis with pending := Function.update redis.pending claim.key none }
  else redis

/-! ## Callers -/

structure DscRequest where
  family : CertificateFamily
  receiptId : String
  requestDigest : String

inductive DscOutcome
  | claimed
  | pending
  | completed (result : Value)
  | committed (result : Value)

/-- What a call has returned, for which request. -/
structure DscAnswer where
  request : DscRequest
  outcome : Except DscIssuanceStoreError DscOutcome

def DscClaim.request (claim : DscClaim) : DscRequest :=
  ⟨claim.family, claim.receiptId, claim.requestDigest⟩

/-- How far a call has come. -/
inductive DscPhase
  | idle
  /-- No receipt has been found; the key is to be claimed. -/
  | claiming (request : DscRequest)
  /-- Another claim stands. -/
  | occupied (request : DscRequest)
  /-- The key is claimed; the receipt is to be looked for once more. -/
  | claimed (claim : DscClaim)
  /-- The claim is to be released before the call returns. -/
  | releasing (claim : DscClaim) (outcome : DscOutcome)
  /-- The documents have changed; a receipt is to be looked for. -/
  | conflicted (claim : DscClaim)

structure DscCaller where
  phase : DscPhase
  claim : Option DscClaim
  snapshot : Option (DscIssuanceSnapshot codec)
  answer : Option DscAnswer

inductive DscEvent (β : Type)
  | begin (family : CertificateFamily) (idempotencyKey requestDigest : String)
      (delivery : Delivery)
  | claim (owner : String) (delivery : Delivery)
  | inspect (delivery : Delivery)
  | recheck (delivery : Delivery)
  | release (delivery : Delivery)
  /-- The caller gives its claim up. -/
  | abandon (delivery : Delivery)
  | snapshot (family : CertificateFamily) (delivery : Delivery)
  | commit (family : CertificateFamily) (lease : Registry.RotationLease) (input : DscIssuanceInput)
      (now : String) (delivery : Delivery)
  | reread (delivery : Delivery)
  /-- The caller crashes. -/
  | restart
  | expire (key : CertificateFamily × String)
  /-- A lease is taken, released or expires. -/
  | lease (key : String) (owner : Option String)
  /-- Other writers change the other documents. -/
  | write (profiles registry : Option β) (lifecycles : CertificateFamily → Option β)

def validPart (part : String) : Bool :=
  part ≠ "" && part.utf8ByteSize ≤ 512 && !part.toList.any isControl

variable {codec}

/-- The call returns. -/
def DscCaller.return_ (caller : DscCaller codec) (request : DscRequest)
    (outcome : Except DscIssuanceStoreError DscOutcome) : DscCaller codec :=
  { caller with phase := .idle, answer := some ⟨request, outcome⟩ }

variable (codec) (receiptIdOf : String → String) (organizationId : String)

def beginCall (redis : DscRedis β) (caller : DscCaller codec) (family : CertificateFamily)
    (idempotencyKey requestDigest : String) (delivery : Delivery) : DscCaller codec :=
  let request : DscRequest := ⟨family, receiptIdOf idempotencyKey, requestDigest⟩
  if [organizationId, idempotencyKey, requestDigest].all validPart = false then
    caller.return_ request (.error (.invalid "bounded identifiers and digest are required"))
  else if delivery ≠ .answered then caller.return_ request (.error .storage)
  else match completed codec redis family request.receiptId requestDigest with
    | .error error => caller.return_ request (.error error)
    | .ok (some result) => caller.return_ request (.ok (.completed result))
    | .ok none => { caller with phase := .claiming request }

/-- The key is claimed unless a claim stands. -/
def claimCall (redis : DscRedis β) (caller : DscCaller codec) (request : DscRequest)
    (owner : String) (delivery : Delivery) : DscRedis β × DscCaller codec :=
  let claim : DscClaim := ⟨request.family, request.receiptId, owner, request.requestDigest⟩
  let redis' :=
    { redis with pending := Function.update redis.pending claim.key (some claim.pending) }
  match delivery with
  | .refused => (redis, caller.return_ request (.error .storage))
  | .lost =>
      (if redis.pending claim.key = none then redis' else redis,
        caller.return_ request (.error .storage))
  | .answered =>
      if redis.pending claim.key = none then
        (redis', { caller with phase := .claimed claim })
      else (redis, { caller with phase := .occupied request })

def inspectCall (redis : DscRedis β) (caller : DscCaller codec) (request : DscRequest)
    (delivery : Delivery) : DscCaller codec :=
  if delivery ≠ .answered then caller.return_ request (.error .storage)
  else if (redis.pending (request.family, request.receiptId)).any
      fun current => current.requestDigest ≠ request.requestDigest then
    caller.return_ request
      (.error (.conflict "idempotency key was reused with changed input"))
  else caller.return_ request (.ok .pending)

def recheckCall (redis : DscRedis β) (caller : DscCaller codec) (claim : DscClaim)
    (delivery : Delivery) : DscCaller codec :=
  if delivery ≠ .answered then caller.return_ claim.request (.error .storage)
  else match completed codec redis claim.family claim.receiptId claim.requestDigest with
    | .error error => caller.return_ claim.request (.error error)
    | .ok (some result) => { caller with phase := .releasing claim (.completed result) }
    | .ok none =>
        { caller.return_ claim.request (.ok .claimed) with claim := some claim }

def releaseRedis (redis : DscRedis β) (claim : DscClaim) (delivery : Delivery) : DscRedis β :=
  if delivery = .refused then redis else releaseScript redis claim

def commitCall (redis : DscRedis β) (caller : DscCaller codec) (family : CertificateFamily)
    (claim : DscClaim) (snapshot : DscIssuanceSnapshot codec) (lease : Registry.RotationLease)
    (input : DscIssuanceInput) (now : String) (delivery : Delivery) :
    DscRedis β × DscCaller codec :=
  match prepareCommit containsPrivateKey organizationId family claim snapshot.certificates lease
      input now with
  | .error error => (redis, caller.return_ claim.request (.error error))
  | .ok (.completed result) =>
      (redis, caller.return_ claim.request (.ok (.completed result)))
  | .ok (.replace document) =>
      let answer := commitScript redis lease claim snapshot.raw (codec.write document)
      match delivery with
      | .refused => (redis, caller.return_ claim.request (.error .storage))
      | .lost => (answer.1, caller.return_ claim.request (.error .storage))
      | .answered =>
          (answer.1,
            if answer.2 = 1 then
              { caller with phase := .releasing claim (.committed input.publicResult) }
            else if answer.2 = 0 then { caller with phase := .conflicted claim }
            else if answer.2 = -1 then
              caller.return_ claim.request (.error (.conflict "tenant signing lease expired"))
            else
              caller.return_ claim.request (.error (.conflict "idempotency claim expired")))

def rereadCall (redis : DscRedis β) (caller : DscCaller codec) (claim : DscClaim)
    (delivery : Delivery) : DscCaller codec :=
  if delivery ≠ .answered then caller.return_ claim.request (.error .storage)
  else match completed codec redis claim.family claim.receiptId claim.requestDigest with
    | .error error => caller.return_ claim.request (.error error)
    | .ok (some result) => caller.return_ claim.request (.ok (.completed result))
    | .ok none =>
        caller.return_ claim.request
          (.error (.conflict "profile, registry, CSCA, or certificate state changed"))

def dscStep (redis : DscRedis β) (caller : DscCaller codec) :
    DscEvent β → Option (DscRedis β × DscCaller codec)
  | .begin family key digest delivery =>
      match caller.phase with
      | .idle => some (redis,
          beginCall codec receiptIdOf organizationId redis caller family key digest delivery)
      | _ => none
  | .claim owner delivery =>
      match caller.phase with
      | .claiming request => some (claimCall codec redis caller request owner delivery)
      | _ => none
  | .inspect delivery =>
      match caller.phase with
      | .occupied request => some (redis, inspectCall codec redis caller request delivery)
      | _ => none
  | .recheck delivery =>
      match caller.phase with
      | .claimed claim => some (redis, recheckCall codec redis caller claim delivery)
      | _ => none
  | .release delivery =>
      match caller.phase with
      | .releasing claim outcome =>
          some (releaseRedis redis claim delivery, caller.return_ claim.request (.ok outcome))
      | _ => none
  | .abandon delivery =>
      match caller.phase, caller.claim with
      | .idle, some claim =>
          some (releaseRedis redis claim delivery, { caller with claim := none })
      | _, _ => none
  | .snapshot family delivery =>
      match caller.phase with
      | .idle => some (redis, { caller with
          snapshot := if delivery = .answered then (takeSnapshot codec redis family).toOption
            else none })
      | _ => none
  | .commit family lease input now delivery =>
      match caller.phase, caller.claim, caller.snapshot with
      | .idle, some claim, some snapshot =>
          some (commitCall containsPrivateKey codec organizationId redis caller family claim
            snapshot lease input now delivery)
      | _, _, _ => none
  | .reread delivery =>
      match caller.phase with
      | .conflicted claim => some (redis, rereadCall codec redis caller claim delivery)
      | _ => none
  | .restart => some (redis, ⟨.idle, none, none, none⟩)
  | .expire key =>
      some ({ redis with pending := Function.update redis.pending key none }, caller)
  | .lease key owner =>
      some ({ redis with leases := Function.update redis.leases key owner }, caller)
  | .write profiles registry lifecycles =>
      some ({ redis with
        profiles := profiles
        registry := registry
        lifecycles := lifecycles }, caller)

variable (ι : Type)

def dscMachine : Machine (DscRedis β) ι (DscEvent β) (DscCaller codec) where
  step _ e redis caller :=
    dscStep containsPrivateKey codec receiptIdOf organizationId redis caller e

/-- What other writers keep in the certificate document: no receipts and no serials. -/
def withoutLedgers (object : Map) : Map :=
  (((object.remove CertificateFamily.icao.receipts).remove
    CertificateFamily.mdoc.receipts).remove CertificateFamily.icao.serials).remove
    CertificateFamily.mdoc.serials

/-- No certificate has been issued yet, and no caller has begun. -/
def dscStart (certificates : Option Map) : Config (DscRedis β) ι (DscCaller codec) where
  store := ⟨none, none, fun _ => none,
    certificates.map fun object => codec.write (.object (withoutLedgers object)),
    fun _ => none, fun _ => none⟩
  calls _ := ⟨.idle, none, none, none⟩

end

end Marty.SigningKeys.Dsc
