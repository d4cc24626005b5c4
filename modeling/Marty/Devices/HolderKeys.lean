import Marty.Devices.HolderCredentials
import Marty.Lib.Hex
import Marty.Lib.Uuid

/-!
# Holder keys

The private half of a holder key stays with the key service.  The store keeps the name of
the key there, its public half, and the registration that it is bound to.

## Main definitions

* `HolderKeyRecord`, `HolderKeyProvision`, `HolderKeyDeletion` — the stored rows.
* `newReference`, `belongsTo` — the names of the keys.
* `HolderKeyRecord.fromProvider`, `HolderKeyRecord.validFor` — what is accepted of a key.
-/

namespace Marty.Devices

open Lib Lib.Checked Lib.Json

structure HolderKeyRecord where
  id : String
  registrationId : String
  userId : String
  organizationId : String
  purpose : String
  algorithm : String
  providerReference : String
  remoteVersion : Int
  publicX : String
  publicY : Option String
  createdAt : DateTime
  revokedAt : Option DateTime
  deriving DecidableEq, Repr

/-- A name that has been reserved for a key before the key is created. -/
structure HolderKeyProvision where
  providerReference : String
  registrationId : String
  userId : String
  organizationId : String
  purpose : String
  algorithm : String
  reservedAt : DateTime
  cleanupAfter : DateTime
  retryAfter : DateTime
  boundAt : Option DateTime
  cleanedAt : Option DateTime
  deriving DecidableEq, Repr

structure HolderKeyDeletion where
  providerReference : String
  queuedAt : DateTime
  retryAfter : DateTime
  attempts : Nat
  deletedAt : Option DateTime
  deriving DecidableEq, Repr

/-- What the key service is told of a key; also `PendingHolderKeyDeletion`. -/
structure HolderKeyScope where
  organizationId : String
  registrationId : String
  purpose : String
  providerReference : String
  deriving DecidableEq, Repr

def HolderKeyRecord.scope (key : HolderKeyRecord) : HolderKeyScope :=
  ⟨key.organizationId, key.registrationId, key.purpose, key.providerReference⟩

def HolderKeyProvision.scope (row : HolderKeyProvision) : HolderKeyScope :=
  ⟨row.organizationId, row.registrationId, row.purpose, row.providerReference⟩

structure CreateHolderKeyRequest where
  scope : HolderKeyScope
  algorithm : String
  deriving DecidableEq, Repr

def maxReferenceBytes : Nat := 128

/-- `namespace`. -/
def purposeNamespace (purpose : String) : Option String :=
  if purpose = "holder_binding" then some "cred-holder"
  else if purpose = "presentation_signing" then some "cred-presenter"
  else none

def hexEncode (bytes : List UInt8) : String :=
  String.ofList (bytes.flatMap fun byte => fixedHex 2 byte.toNat)

def knownAlgorithm (algorithm : String) : Bool := algorithm == "EdDSA" || algorithm == "ES256"

section References

variable (sha256 : String → Digest)

/-- The part of a name that its scope determines. -/
def referencePrefix (organizationId registrationId purpose : String) : Option String :=
  if organizationId = "" ∨ 36 < organizationId.utf8ByteSize ∨ registrationId = "" ∨
      36 < registrationId.utf8ByteSize then none
  else
    (purposeNamespace purpose).map fun name =>
      name ++ "-" ++ hexEncode ((sha256 organizationId).take 16) ++ "-" ++
        hexEncode ((sha256 registrationId).take 16) ++ "-"

/-- The UUID is drawn by the caller and written without its hyphens. -/
def newReference (organizationId registrationId purpose uuid : String) : Option String :=
  (referencePrefix sha256 organizationId registrationId purpose).bind fun start =>
    if (start ++ uuid).utf8ByteSize ≤ maxReferenceBytes then some (start ++ uuid) else none

def belongsTo (reference organizationId registrationId purpose : String) : Bool :=
  decide (reference.utf8ByteSize ≤ maxReferenceBytes) &&
    (referencePrefix sha256 organizationId registrationId purpose).any fun start =>
      (Text.stripPrefix reference start).any fun suffix =>
        suffix.utf8ByteSize == 32 && suffix.toList.all Uuid.isLowerHex

def HolderKeyScope.valid (scope : HolderKeyScope) : Bool :=
  belongsTo sha256 scope.providerReference scope.organizationId scope.registrationId scope.purpose

end References

def invalidMetadata : DeviceError := .badRequest "managed holder key metadata is invalid"

def publicCoordinate (value : Value) (name : String) : Except DeviceError String := do
  let encoded ← okOr ((value.get name).bind Value.asStr) invalidMetadata
  let bytes ← okOr (Base64.decode urlSafeNoPad encoded) invalidMetadata
  rejectIf (bytes.length ≠ 32 ∨ Base64.encode urlSafeNoPad bytes ≠ encoded) invalidMetadata
  return encoded

def asI64 (value : Value) : Option Int := value.asInteger.bind toI64

/-- The members of a public key. -/
def jwkName (name : String) : Bool :=
  name == "kty" || name == "crv" || name == "x" || name == "y" || name == "kid"

namespace HolderKeyRecord

def publicJwk (key : HolderKeyRecord) : Value :=
  match key.publicY with
  | some y => .object [("kty", .string "EC"), ("crv", .string "P-256"),
      ("x", .string key.publicX), ("y", .string y), ("kid", .string key.providerReference)]
  | none => .object [("kty", .string "OKP"), ("crv", .string "Ed25519"),
      ("x", .string key.publicX), ("kid", .string key.providerReference)]

section Accepted

variable (sha256 : String → Digest)

def validFor (key : HolderKeyRecord) (registration : DeviceRegistration) : Bool :=
  eligible registration && key.revokedAt.isNone && key.registrationId == registration.id &&
    key.userId == registration.userId &&
    registration.organizationId == some key.organizationId &&
    belongsTo sha256 key.providerReference key.organizationId key.registrationId key.purpose &&
    decide (0 < key.remoteVersion) &&
    (key.purpose == "holder_binding" || key.purpose == "presentation_signing") &&
    knownAlgorithm key.algorithm && key.publicY.isSome == (key.algorithm == "ES256") &&
    (publicCoordinate key.publicJwk "x").toBool &&
    (key.algorithm == "EdDSA" || (publicCoordinate key.publicJwk "y").toBool)

/-- The id of the new record is drawn by the caller. -/
def fromProvider (containsPrivateKey : Value → Bool) (registration : DeviceRegistration)
    (purpose algorithm providerReference : String) (metadata : Value) (now : DateTime)
    (id : String) : Except DeviceError HolderKeyRecord := do
  rejectIf (eligible registration = false ∨ containsPrivateKey metadata = true ∨
    (purpose ≠ "holder_binding" ∧ purpose ≠ "presentation_signing") ∨
    knownAlgorithm algorithm = false ∨
    (registration.organizationId.any fun organization =>
      belongsTo sha256 providerReference organization registration.id purpose) = false ∨
    (metadata.get "status").bind Value.asStr ≠ some "active" ∨
    (metadata.get "exportable").bind Value.asBool ≠ some false ∨
    (metadata.get "allow_plaintext_backup").bind Value.asBool ≠ some false ∨
    (metadata.get "deletion_allowed").bind Value.asBool ≠ some false ∨
    (metadata.get "type").bind Value.asStr ≠
      some (if algorithm = "EdDSA" then "ed25519" else "ecdsa-p256")) invalidMetadata
  let remoteVersion ← okOr (((metadata.get "latest_version").bind asI64).filter (0 < ·))
    invalidMetadata
  rejectIf ((metadata.get "selected_version").bind Value.asStr ≠ some (toString remoteVersion))
    invalidMetadata
  let jwk ← okOr ((metadata.get "public_jwk").bind Value.asObject) invalidMetadata
  rejectIf ((jwk.any fun entry => !jwkName entry.1) = true ∨
    (Map.get jwk "kid").bind Value.asStr ≠ some providerReference ∨
    (Map.get jwk "kty").bind Value.asStr ≠ some (if algorithm = "EdDSA" then "OKP" else "EC") ∨
    (Map.get jwk "crv").bind Value.asStr ≠
      some (if algorithm = "EdDSA" then "Ed25519" else "P-256") ∨
    (algorithm = "EdDSA" ∧ Map.containsKey jwk "y" = true)) invalidMetadata
  let publicX ← publicCoordinate (.object jwk) "x"
  let publicY ← if algorithm = "ES256" then (publicCoordinate (.object jwk) "y").map some
    else .ok none
  return {
    id
    registrationId := registration.id
    userId := registration.userId
    -- an eligible registration has an organization
    organizationId := registration.organizationId.getD ""
    purpose
    algorithm
    providerReference
    remoteVersion
    publicX
    publicY
    createdAt := now
    revokedAt := none }

end Accepted

end HolderKeyRecord

end Marty.Devices
