import Marty.Devices.HolderCredentials
import Marty.Lib.Interleaving
import Marty.Lib.Table

/-!
# The calls on holder credentials

Every transaction that writes a credential locks the row of its registration first, so that
what it has read of that registration stays as it is until it commits.  The lookup that
finds the registration of a bearer, the reads of `authorize_bearer`, and the statements on
pairings take no such lock.

## Main definitions

* `Database` — the rows, the locks, the clock, and the rotations so far.
* `Action`, `Database.apply` — what one step does to them.
* `rotateRetry`, `rotateIssue` — the two ends of `rotate`.
* `plan` — what each call does next.
* `credentialMachine` — the calls on one database.
-/

namespace Marty.Devices

open Lib Lib.Checked

/-- The two bearers of a rotation. -/
structure Pair where
  current : String
  replacement : String
  deriving DecidableEq, Repr

/-- A rotation that has been committed. -/
structure Rotation where
  pair : Pair
  replacement : HolderCredentialRecord
  deriving DecidableEq, Repr

/-- The database, with the calls that hold the locks on registrations. -/
structure Database (ι : Type*) where
  registrations : String → Option DeviceRegistration
  credentials : List HolderCredentialRecord
  pairings : List PairingConfirmation
  clock : DateTime
  locks : String → Option ι
  rotations : List Rotation

/-- The pairing of the registration is confirmed. -/
def PairingConfirmation.Confirms (row : PairingConfirmation) (registrationId : String) : Prop :=
  row.registrationId = some registrationId ∧ row.confirmedAt.isSome ∧ row.expiredAt = none

instance (row : PairingConfirmation) (registrationId : String) :
    Decidable (row.Confirms registrationId) := inferInstanceAs (Decidable (_ ∧ _))

/-- What a step does to the database. -/
inductive Action
  | read
  | lock (registrationId : String)
  | rollback (registrationId : String)
  /-- `replace_locked` and the commit; `rotated` is the pair when it is a rotation. -/
  | replace (rotated : Option Pair) (record : HolderCredentialRecord) (now : DateTime)
  | revoke (registrationId : String) (now : DateTime)
  | deactivate (registrationId : String) (now : DateTime)
  | pairings (rows : List PairingConfirmation)
  | tick (now : DateTime)
  deriving DecidableEq, Repr

namespace Database

variable {ι : Type*}

def findByDigest (db : Database ι) (digest : Digest) : Option HolderCredentialRecord :=
  db.credentials.find? fun record => record.tokenSha256 == digest

/-- The unique columns of the record are taken. -/
def conflicts (db : Database ι) (record : HolderCredentialRecord) : Bool :=
  db.credentials.any fun row => row.tokenSha256 == record.tokenSha256 || row.id == record.id

def confirmed (db : Database ι) (registrationId : String) : Bool :=
  db.pairings.any fun row => decide (row.Confirms registrationId)

/-- The pairing may be bound to a registration. -/
def redeemable (db : Database ι) (pairingId userId organizationId : String)
    (row : PairingConfirmation) : Bool :=
  row.pairingId == pairingId && row.userId == userId && row.organizationId == organizationId &&
    row.registrationId.isNone && row.confirmedAt.isNone && row.expiredAt.isNone &&
    decide (db.clock < row.expiresAt)

/-- A bearer of the registration of the pairing, in the joins of `confirm`. -/
def authorizes (db : Database ι) (digest : Digest) (row : PairingConfirmation) : Bool :=
  db.credentials.any fun record => row.registrationId == some record.registrationId &&
    record.tokenSha256 == digest && record.revokedAt.isNone &&
    decide (db.clock < record.expiresAt) && record.userId == row.userId &&
    record.organizationId == row.organizationId &&
    (db.registrations record.registrationId).any fun device => device.userId == row.userId &&
      device.organizationId == some row.organizationId && device.isActive

/-- The pairing may be confirmed with the bearer. -/
def confirmable (db : Database ι) (pairingId : String) (digest : Digest)
    (row : PairingConfirmation) : Bool :=
  row.pairingId == pairingId && db.authorizes digest row && row.confirmedAt.isNone &&
    row.expiredAt.isNone && decide (db.clock < row.expiresAt)

def setLock (db : Database ι) (registrationId : String) (holder : Option ι) : Database ι :=
  { db with locks := Function.update db.locks registrationId holder }

/-- `UPDATE … SET revoked_at = GREATEST($2, issued_at) WHERE registration_id = $1 AND
revoked_at IS NULL`. -/
def revokeCurrent (db : Database ι) (registrationId : String) (now : DateTime) : Database ι :=
  { db with
    credentials := Table.update db.credentials
      (fun row => row.registrationId == registrationId && row.revokedAt.isNone)
      fun row => { row with revokedAt := some (max now row.issuedAt) } }

def replaceLocked (db : Database ι) (record : HolderCredentialRecord) (now : DateTime) :
    Database ι :=
  let db := db.revokeCurrent record.registrationId now
  { db with credentials := db.credentials ++ [record] }

def deactivate (db : Database ι) (registrationId : String) (now : DateTime) : Database ι :=
  let db := db.revokeCurrent registrationId now
  { db with
    registrations := Function.update db.registrations registrationId
      ((db.registrations registrationId).map fun device => { device with isActive := false }) }

/-- One step of the database, taken by call `i`. -/
def apply (db : Database ι) (i : ι) : Action → Database ι
  | .read => db
  | .lock registrationId => db.setLock registrationId (some i)
  | .rollback registrationId => db.setLock registrationId none
  | .replace rotated record now =>
      let db := (db.replaceLocked record now).setLock record.registrationId none
      { db with rotations := db.rotations ++ rotated.toList.map fun pair => ⟨pair, record⟩ }
  | .revoke registrationId now =>
      (db.revokeCurrent registrationId now).setLock registrationId none
  | .deactivate registrationId now =>
      (db.deactivate registrationId now).setLock registrationId none
  | .pairings rows => { db with pairings := rows }
  | .tick now => { db with clock := now }

end Database

/-! ## Calls -/

/-- How far a rotation has come; from `locked` to the end it holds the lock. -/
inductive RotateStage
  | found (registrationId : String)
  | locked (registrationId : String) (device : DeviceRegistration)
  | current (registrationId : String) (device : DeviceRegistration)
      (record : HolderCredentialRecord)
  | timed (registrationId : String) (device : DeviceRegistration)
      (record : HolderCredentialRecord) (now : DateTime)
  | paired (registrationId : String) (device : DeviceRegistration)
      (record : HolderCredentialRecord) (now : DateTime)
  | member (registrationId : String) (device : DeviceRegistration)
      (record : HolderCredentialRecord) (now : DateTime)
  deriving DecidableEq, Repr

/-- What a deactivation returns to: its caller, or a pass over expired pairings. -/
inductive After
  | answer
  | expire (pairingId : String) (rows : List PairingConfirmation)
  deriving DecidableEq, Repr

/-- The state of one call. -/
inductive Call
  | idle
  | issuing (registrationId : String) (device : DeviceRegistration) (lifetime : Duration)
  | issuingAt (registrationId : String) (device : DeviceRegistration) (lifetime : Duration)
      (now : DateTime)
  | issued (issued : IssuedHolderCredential)
  | rotating (pair : Pair) (stage : RotateStage)
  | rotated (pair : Pair) (registrationId : String) (credentialExpiresAt : DateTime)
  | revoking (registrationId : String) (now : DateTime)
  | revoked
  | deactivating (registrationId : String) (device : DeviceRegistration) (after : After)
  | deactivatingAt (registrationId : String) (device : DeviceRegistration) (after : After)
      (now : DateTime)
  | deactivated (answer : Option DeviceRegistration)
  | expiring (rows : List PairingConfirmation)
  | expiringPairing (pairingId : String) (rows : List PairingConfirmation)
  | authorizing (bearer userId organizationId : String) (now : DateTime)
      (record : HolderCredentialRecord)
  | authorized (record : HolderCredentialRecord)
  | answered
  | failed (error : DeviceError)
  deriving DecidableEq, Repr

/-- What a call does next.  Ids and random bytes are drawn outside. -/
inductive Event
  | tick (now : DateTime)
  | issue (registrationId userId organizationId : String) (lifetime : Duration)
  | rotate (pair : Pair)
  | revoke (registrationId : String) (now : DateTime)
  | deactivate (registrationId : String)
  | expire (rows : List PairingConfirmation)
  | authorize (bearer userId organizationId : String) (now : DateTime)
  | recordIssued (row : PairingConfirmation)
  | recordRedeemed (pairingId userId organizationId registrationId : String)
  | confirm (pairingId bearer : String)
  | lock
  | current
  | clock
  | pairing
  | membership (answer : Except DeviceError Unit)
  | commit (id : String) (random : List UInt8)
  | next
  | get
  | abort
  deriving DecidableEq, Repr

def RotateStage.held : RotateStage → Option String
  | .found _ => none
  | .locked registrationId _ => some registrationId
  | .current registrationId _ _ => some registrationId
  | .timed registrationId _ _ _ => some registrationId
  | .paired registrationId _ _ _ => some registrationId
  | .member registrationId _ _ _ => some registrationId

/-- The registration whose row the call has locked. -/
def Call.held : Call → Option String
  | .issuing registrationId _ _ => some registrationId
  | .issuingAt registrationId _ _ _ => some registrationId
  | .rotating _ stage => stage.held
  | .revoking registrationId _ => some registrationId
  | .deactivating registrationId _ _ => some registrationId
  | .deactivatingAt registrationId _ _ _ => some registrationId
  | _ => none

def After.resume (answer : Option DeviceRegistration) : After → Call
  | .answer => .deactivated answer
  | .expire pairingId rows => .expiringPairing pairingId rows

def invalidRotation : DeviceError := .forbidden "holder credential rotation is invalid"

def invalidPairing : DeviceError := .forbidden "wallet pairing confirmation is invalid"

def duplicateKey : DeviceError :=
  .persistence "duplicate key value violates unique constraint"

/-- The end of a repeated rotation, from the row of the replacement. -/
def rotateRetry (replacement : Option HolderCredentialRecord) (device : DeviceRegistration)
    (now revokedAt : DateTime) : Except DeviceError DateTime := do
  let replacement ← okOr replacement invalidRotation
  rejectIf (validRecordFor replacement device now = false ∨ replacement.issuedAt < revokedAt)
    invalidRotation
  return replacement.expiresAt

section Plan

variable (sha256 : String → Digest)

/-- The end of a rotation whose current credential has not been revoked. -/
def rotateIssue (pair : Pair) (current : HolderCredentialRecord) (device : DeviceRegistration)
    (now : DateTime) (id : String) : Except DeviceError IssuedHolderCredential := do
  authorize sha256 current pair.current device current.userId current.organizationId now
  issueWithBearer sha256 device now credentialLifetime pair.replacement id

variable {ι : Type*}

/-- The call fails, and gives back the lock that it holds. -/
def fail (call : Call) (error : DeviceError) : Action × Call :=
  (match call.held with
    | some registrationId => .rollback registrationId
    | none => .read, .failed error)

/-- Lock the row of a registration and go on. -/
def lockRow (db : Database ι) (registrationId : String) (next : Call) : Option (Action × Call) :=
  if (db.locks registrationId).isNone then some (.lock registrationId, next) else none

/-- `deactivate`, up to the lock; an inactive registration is answered at once. -/
def beginDeactivate (db : Database ι) (registrationId : String) (after : After) :
    Option (Action × Call) :=
  match db.registrations registrationId with
  | none => some (.read, after.resume none)
  | some device =>
      if device.isActive then
        lockRow db registrationId (.deactivating registrationId device after)
      else if (db.locks registrationId).isNone then some (.read, after.resume (some device))
      else none

/-- The steps of `rotate` after the lookup. -/
def planRotate (db : Database ι) (pair : Pair) :
    Event → RotateStage → Option (Action × Call)
  | .lock, .found registrationId =>
      match db.registrations registrationId with
      | none => some (.read, .failed invalidRotation)
      | some device =>
          lockRow db registrationId (.rotating pair (.locked registrationId device))
  | .current, .locked registrationId device =>
      match db.findByDigest (sha256 pair.current) with
      | none => some (.rollback registrationId, .failed invalidRotation)
      | some record => some (.read, .rotating pair (.current registrationId device record))
  | .clock, .current registrationId device record =>
      if device.isActive = false ∨ record.userId ≠ device.userId ∨
          device.organizationId ≠ some record.organizationId ∨
          record.registrationId ≠ registrationId then
        some (.rollback registrationId, .failed invalidRotation)
      else some (.read, .rotating pair (.timed registrationId device record db.clock))
  | .pairing, .timed registrationId device record now =>
      if db.confirmed registrationId then
        some (.read, .rotating pair (.paired registrationId device record now))
      else some (.rollback registrationId, .failed invalidRotation)
  | .membership answer, .paired registrationId device record now =>
      match answer with
      | .error error => some (.rollback registrationId, .failed error)
      | .ok () => some (.read, .rotating pair (.member registrationId device record now))
  | .commit id _, .member registrationId device record now =>
      match record.revokedAt with
      | some revokedAt =>
          match rotateRetry (db.credentials.find? fun row =>
              row.tokenSha256 == sha256 pair.replacement &&
                row.registrationId == registrationId) device now revokedAt with
          | .error error => some (.rollback registrationId, .failed error)
          | .ok expiresAt => some (.rollback registrationId, .rotated pair registrationId expiresAt)
      | none =>
          match rotateIssue sha256 pair record device now id with
          | .error error => some (.rollback registrationId, .failed error)
          | .ok issued =>
              if db.conflicts issued.record then
                some (.rollback registrationId, .failed duplicateKey)
              else
                some (.replace (some pair) issued.record now,
                  .rotated pair registrationId issued.record.expiresAt)
  | _, _ => none

/-- The first step of a call. -/
def planFirst (db : Database ι) : Event → Option (Action × Call)
  | .tick now => if db.clock ≤ now then some (.tick now, .idle) else none
  | .issue registrationId userId organizationId lifetime =>
      match db.registrations registrationId with
      | none => some (.read, .failed invalidCredential)
      | some device =>
          if device.userId ≠ userId ∨ device.organizationId ≠ some organizationId then
            some (.read, .failed invalidCredential)
          else lockRow db registrationId (.issuing registrationId device lifetime)
  | .rotate pair =>
      if canonicalBearer pair.current = false ∨ canonicalBearer pair.replacement = false ∨
          pair.current = pair.replacement then
        some (.read, .failed invalidRotation)
      else
        match db.findByDigest (sha256 pair.current) with
        | none => some (.read, .failed invalidRotation)
        | some record => some (.read, .rotating pair (.found record.registrationId))
  | .revoke registrationId now =>
      -- no credential refers to a registration that is not there
      match db.registrations registrationId with
      | none => some (.read, .revoked)
      | some _ => lockRow db registrationId (.revoking registrationId now)
  | .deactivate registrationId => beginDeactivate db registrationId .answer
  | .expire rows =>
      -- the rows that are due, the oldest first, and at most a hundred of them
      if (∀ row ∈ rows, row ∈ db.pairings ∧ row.confirmedAt = none ∧ row.expiredAt = none ∧
          row.expiresAt ≤ db.clock) ∧ rows.Pairwise (·.expiresAt ≤ ·.expiresAt) ∧
          rows.length ≤ 100 then
        some (.read, .expiring rows)
      else none
  | .authorize bearer userId organizationId now =>
      match db.findByDigest (sha256 bearer) with
      | none => some (.read, .failed invalidCredential)
      | some record => some (.read, .authorizing bearer userId organizationId now record)
  | .recordIssued row =>
      if db.pairings.any fun other => other.pairingId == row.pairingId then
        some (.read, .failed duplicateKey)
      else
        some (.pairings (db.pairings ++
          [{ row with registrationId := none, confirmedAt := none, expiredAt := none }]), .answered)
  | .recordRedeemed pairingId userId organizationId registrationId =>
      if db.pairings.any (db.redeemable pairingId userId organizationId) then
        if (db.registrations registrationId).isNone ∨
            db.pairings.any (fun row => row.registrationId == some registrationId) then
          some (.read, .failed duplicateKey)
        else
          some (.pairings (Table.update db.pairings
            (db.redeemable pairingId userId organizationId)
            fun row => { row with registrationId := some registrationId }), .answered)
      else some (.read, .failed invalidPairing)
  | .confirm pairingId bearer =>
      if db.pairings.any (db.confirmable pairingId (sha256 bearer)) then
        some (.pairings (Table.update db.pairings (db.confirmable pairingId (sha256 bearer))
          fun row => { row with confirmedAt := some db.clock }), .answered)
      else if db.pairings.any fun row => row.pairingId == pairingId &&
          db.authorizes (sha256 bearer) row && row.confirmedAt.isSome &&
          row.expiredAt.isNone then
        some (.read, .answered)
      else some (.read, .failed invalidPairing)
  | _ => none

/-- What a call does with an event: nothing when the event is not its next step, or has to
wait for a lock.  An `abort` is a crash, a lost connection, or a row that cannot be read. -/
def plan (db : Database ι) (event : Event) (call : Call) : Option (Action × Call) :=
  match event, call with
  | event, .idle => planFirst sha256 db event
  | .abort, call =>
      match call with
      | .issued _ | .rotated .. | .revoked | .deactivated _ | .authorized _ | .answered
      | .failed _ => none
      | call => some (fail call (.persistence "aborted"))
  | .clock, .issuing registrationId device lifetime =>
      some (.read, .issuingAt registrationId device lifetime db.clock)
  | .commit id random, .issuingAt registrationId device lifetime now =>
      match issue sha256 device now lifetime random id with
      | .error error => some (.rollback registrationId, .failed error)
      | .ok issued =>
          if db.conflicts issued.record then
            some (.rollback registrationId, .failed duplicateKey)
          else some (.replace none issued.record now, .issued issued)
  | event, .rotating pair stage => planRotate sha256 db pair event stage
  | .commit _ _, .revoking registrationId now => some (.revoke registrationId now, .revoked)
  | .clock, .deactivating registrationId device after =>
      some (.read, .deactivatingAt registrationId device after db.clock)
  | .commit _ _, .deactivatingAt registrationId device after now =>
      some (.deactivate registrationId now,
        after.resume (some { device with isActive := false }))
  | .next, .expiring [] => some (.read, .answered)
  | .next, .expiring (row :: rows) =>
      match row.registrationId with
      | none => some (.read, .expiringPairing row.pairingId rows)
      | some registrationId => beginDeactivate db registrationId (.expire row.pairingId rows)
  | .next, .expiringPairing pairingId rows =>
      some (.pairings (Table.update db.pairings
        (fun row => row.pairingId == pairingId && row.confirmedAt.isNone &&
          row.expiredAt.isNone && decide (row.expiresAt ≤ db.clock))
        fun row => { row with expiredAt := some db.clock }), .expiring rows)
  | .get, .authorizing bearer userId organizationId now record =>
      match db.registrations record.registrationId with
      | none => some (.read, .failed invalidCredential)
      | some registration =>
          match authorize sha256 record bearer registration userId organizationId now with
          | .error error => some (.read, .failed error)
          | .ok _ => some (.read, .authorized record)
  | _, _ => none

/-- **The calls on holder credentials.** -/
def credentialMachine (ι : Type*) [DecidableEq ι] : Machine (Database ι) ι Event Call where
  step i event db call :=
    (plan sha256 db event call).map fun (action, call) => (db.apply i action, call)

end Plan

/-- A database in which no credential has been issued yet. -/
def Database.start {ι : Type*} (registrations : List DeviceRegistration)
    (pairings : List PairingConfirmation) (clock : DateTime) : Database ι where
  registrations id := registrations.find? fun device => device.id == id
  credentials := []
  pairings
  clock
  locks _ := none
  rotations := []

end Marty.Devices
