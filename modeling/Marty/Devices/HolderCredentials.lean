import Marty.Lib.Base64
import Marty.Lib.Checked
import Marty.Lib.Chrono
import Marty.Lib.Text

/-!
# Holder credentials

A device holds one opaque bearer.  The store keeps its digest, with the scope of the
registration that it was issued for and the span of time for which it is valid.

## Main definitions

* `DeviceRegistration`, `HolderCredentialRecord`, `PairingConfirmation` — the stored rows.
* `validRecordFor`, `authorize` — when a bearer is accepted.
* `issueWithBearer` — a new credential.
-/

namespace Marty.Devices

open Lib Lib.Checked

inductive DeviceError
  | badRequest (text : String)
  | forbidden (text : String)
  | conflict (text : String)
  | persistence (text : String)
  | authorizationUnavailable
  deriving DecidableEq, Repr

structure DeviceRegistration where
  id : String
  userId : String
  organizationId : Option String
  deviceId : String
  isActive : Bool
  deriving DecidableEq, Repr

abbrev Digest := List UInt8

structure HolderCredentialRecord where
  id : String
  registrationId : String
  userId : String
  organizationId : String
  tokenSha256 : Digest
  issuedAt : DateTime
  expiresAt : DateTime
  revokedAt : Option DateTime
  deriving DecidableEq, Repr

structure IssuedHolderCredential where
  bearer : String
  record : HolderCredentialRecord
  deriving DecidableEq, Repr

structure PairingConfirmation where
  pairingId : String
  userId : String
  organizationId : String
  registrationId : Option String
  expiresAt : DateTime
  confirmedAt : Option DateTime
  expiredAt : Option DateTime
  deriving DecidableEq, Repr

def tokenBytes : Nat := 32

/-- Unpadded URL-safe base64 of 32 bytes. -/
def tokenChars : Nat := 43

def maxLifetimeSeconds : Int := 30 * 24 * 60 * 60

def invalidCredential : DeviceError := .forbidden "holder device credential is invalid"

def urlSafeNoPad : Base64.Engine := ⟨true, false⟩

def canonicalBearer (value : String) : Bool :=
  value.utf8ByteSize == tokenChars &&
    (Base64.decode urlSafeNoPad value).any fun bytes =>
      bytes.length == tokenBytes && Base64.encode urlSafeNoPad bytes == value

def eligible (registration : DeviceRegistration) : Bool :=
  registration.isActive && Text.trim registration.userId != "" &&
    Text.trim registration.deviceId != "" &&
    registration.organizationId.any fun value => Text.trim value != ""

def validRecordFor (record : HolderCredentialRecord) (registration : DeviceRegistration)
    (now : DateTime) : Bool :=
  eligible registration && record.registrationId == registration.id &&
    record.userId == registration.userId &&
    registration.organizationId == some record.organizationId && record.revokedAt.isNone &&
    decide (record.issuedAt ≤ now) && decide (now < record.expiresAt) &&
    decide (record.issuedAt < record.expiresAt) &&
    decide (record.expiresAt - record.issuedAt ≤ seconds maxLifetimeSeconds)

/-- A duration in nanoseconds. -/
abbrev Duration := Int

/-- `CREDENTIAL_LIFETIME`: one day. -/
def credentialLifetime : Duration := 24 * 60 * 60 * 1000000000

section Digests

variable (sha256 : String → Digest)

/-- The id of the new record is drawn by the caller. -/
def issueWithBearer (registration : DeviceRegistration) (now : DateTime) (lifetime : Duration)
    (bearer id : String) : Except DeviceError IssuedHolderCredential := do
  rejectIf (eligible registration = false ∨ canonicalBearer bearer = false) invalidCredential
  let wholeSeconds := lifetime.tdiv 1000000000
  rejectIf (¬(1 ≤ wholeSeconds ∧ wholeSeconds ≤ maxLifetimeSeconds) ∨
      lifetime ≠ wholeSeconds * 1000000000)
    (.badRequest "holder device credential lifetime is outside server bounds")
  let expiresAt ← okOr (Utc.checkedAddSeconds (Utc.ofStored now) wholeSeconds.toNat)
    (.badRequest "holder device credential expiry is invalid")
  let organizationId ← okOr registration.organizationId invalidCredential
  return {
    bearer
    record := {
      id
      registrationId := registration.id
      userId := registration.userId
      organizationId
      tokenSha256 := sha256 bearer
      issuedAt := now
      expiresAt := Utc.stored expiresAt
      revokedAt := none } }

/-- `issue`, from the bytes that the generator drew. -/
def issue (registration : DeviceRegistration) (now : DateTime) (lifetime : Duration)
    (random : List UInt8) (id : String) : Except DeviceError IssuedHolderCredential :=
  issueWithBearer sha256 registration now lifetime (Base64.encode urlSafeNoPad random) id

def authorize (record : HolderCredentialRecord) (bearer : String)
    (registration : DeviceRegistration) (userId organizationId : String) (now : DateTime) :
    Except DeviceError Unit :=
  rejectIf (sha256 bearer ≠ record.tokenSha256 ∨ canonicalBearer bearer = false ∨
    validRecordFor record registration now = false ∨ record.userId ≠ userId ∨
    record.organizationId ≠ organizationId) invalidCredential

/-- The row is one that `issueWithBearer` can write for the registration. -/
structure HolderCredentialRecord.IssuedFor (record : HolderCredentialRecord)
    (registration : DeviceRegistration) : Prop where
  registrationId : record.registrationId = registration.id
  userId : record.userId = registration.userId
  organizationId : registration.organizationId = some record.organizationId
  eligible : eligible { registration with isActive := true } = true
  lifetime : record.issuedAt < record.expiresAt ∧
    record.expiresAt - record.issuedAt ≤ seconds maxLifetimeSeconds

variable {sha256}
variable {registration : DeviceRegistration} {now : DateTime} {lifetime : Duration}
  {bearer id : String} {issued : IssuedHolderCredential}

/-- **A new credential** is valid from now on, for the registration and the bearer. -/
theorem issueWithBearer_eq_ok
    (h : issueWithBearer sha256 registration now lifetime bearer id = .ok issued) :
    issued.bearer = bearer ∧ canonicalBearer bearer = true ∧ eligible registration = true ∧
      issued.record.tokenSha256 = sha256 bearer ∧ issued.record.issuedAt = now ∧
      issued.record.revokedAt = none ∧ issued.record.IssuedFor registration := by
  simp only [issueWithBearer, bind_eq_ok, rejectIf_eq_ok, okOr_eq_ok, exists_unit, not_or,
    Bool.not_eq_false, not_not, pure, Except.pure, Except.ok.injEq] at h
  obtain ⟨⟨heligible, hcanonical⟩, ⟨hspan, -⟩, expiresAt, hexpires, organizationId, horg, rfl⟩ := h
  have hactive : registration.isActive = true := by
    simp only [eligible, Bool.and_eq_true] at heligible
    exact heligible.1.1.1
  refine ⟨rfl, hcanonical, heligible, rfl, rfl, rfl, ?_⟩
  constructor
  case registrationId => rfl
  case userId => rfl
  case organizationId => exact horg
  case eligible =>
    have hsame : { registration with isActive := true } = registration := by rw [← hactive]
    rwa [hsame]
  case lifetime =>
    rw [Utc.checkedAddSeconds, Option.ite_none_right_eq_some, Option.some.injEq] at hexpires
    have hbounds : ∀ (t s m : Int), 1 ≤ s ∧ s ≤ m →
        t < (t * 1000 + s.toNat * 1000000000) / 1000 ∧
          (t * 1000 + s.toNat * 1000000000) / 1000 - t ≤ m * 1000000 := by omega
    rw [← hexpires.2]
    exact hbounds now _ _ hspan

theorem authorize_eq_ok {record : HolderCredentialRecord} {userId organizationId : String}
    {u : Unit} (h : authorize sha256 record bearer registration userId organizationId now = .ok u) :
    sha256 bearer = record.tokenSha256 ∧ canonicalBearer bearer = true ∧
      validRecordFor record registration now = true := by
  simp only [authorize, rejectIf_eq_ok, not_or, not_not, Bool.not_eq_false] at h
  exact ⟨h.1, h.2.1, h.2.2.1⟩

end Digests

theorem validRecordFor_iff {record : HolderCredentialRecord} {registration : DeviceRegistration}
    {now : DateTime} : validRecordFor record registration now = true ↔
      eligible registration = true ∧ record.registrationId = registration.id ∧
        record.userId = registration.userId ∧
        registration.organizationId = some record.organizationId ∧ record.revokedAt = none ∧
        record.issuedAt ≤ now ∧ now < record.expiresAt ∧ record.issuedAt < record.expiresAt ∧
        record.expiresAt - record.issuedAt ≤ seconds maxLifetimeSeconds := by
  simp [validRecordFor, and_assoc]

theorem eligible_isActive {registration : DeviceRegistration} (h : eligible registration = true) :
    registration.isActive = true := by
  simp only [eligible, Bool.and_eq_true] at h
  exact h.1.1.1

/-- **An unrevoked record of an active registration** is valid from its issue to its end. -/
theorem HolderCredentialRecord.IssuedFor.valid {record : HolderCredentialRecord}
    {registration : DeviceRegistration} {now : DateTime} (h : record.IssuedFor registration)
    (hactive : registration.isActive = true) (hrevoked : record.revokedAt = none)
    (hissued : record.issuedAt ≤ now) (hexpires : now < record.expiresAt) :
    validRecordFor record registration now = true := by
  have hsame : { registration with isActive := true } = registration := by rw [← hactive]
  have heligible := h.eligible
  rw [hsame] at heligible
  exact validRecordFor_iff.mpr ⟨heligible, h.registrationId, h.userId, h.organizationId, hrevoked,
    hissued, hexpires, h.lifetime.1, h.lifetime.2⟩

end Marty.Devices
