import Marty.Devices.HolderKeys
import Marty.Lib.Interleaving
import Marty.Lib.Table
import Mathlib.Data.List.Sort

/-!
# The calls on holder keys

A key is created at the key service, which shares no transaction with the database.  Its name
is reserved before it is created, it is bound when it has been created, and a worker removes
the keys that are revoked and those that were not bound in time.

A request to the key service takes effect at any later time, or never, whether or not the
call still waits for the answer.

## Main definitions

* `KeyService`, `Database` — the keys that there are, and the rows that name them.
* `Action`, `Database.apply` — what one step does to them.
* `plan` — what each call does next.
* `keyMachine` — the calls on one database and one key service.
-/

namespace Marty.Devices.HolderKeys

open Lib Lib.Checked Lib.Json

/-- The keys of the key service, by their names. -/
structure KeyService where
  keys : List String
  /-- The requests that have not taken effect. -/
  creating : List String
  deleting : List String
  /-- What has taken effect. -/
  created : List String
  deleted : List String
  /-- The keys that a revocation has found gone. -/
  missing : List String
  deriving DecidableEq, Repr

/-- The tables, with the calls that hold the locks on rows. -/
structure Database (ι : Type*) where
  registrations : String → Option DeviceRegistration
  keys : List HolderKeyRecord
  provisions : List HolderKeyProvision
  deletions : List HolderKeyDeletion
  clock : DateTime
  locks : String → Option ι
  provisionLocks : String → Option ι
  service : KeyService
  /-- The reservations that a pass of the worker has listed. -/
  listed : List String

/-- What a step does. -/
inductive Action
  | read
  | lock (registrationId : String)
  | lockProvision (reference : String)
  /-- The end of a transaction that has written nothing. -/
  | release
  | register (device : DeviceRegistration)
  | reserve (row : HolderKeyProvision)
  | bind (key : HolderKeyRecord) (now start : DateTime)
  | revoke (registrationId : String) (now : DateTime)
  | deactivate (registrationId : String) (now : DateTime)
  | abandon (reference : String) (start : DateTime)
  | clean (reference : String) (now start : DateTime)
  | postponeProvision (reference : String) (now start : DateTime)
  | markDeleted (reference : String) (now : DateTime)
  | postponeDeletion (reference : String) (now : DateTime)
  | list (references : List String)
  | requestCreate (reference : String)
  | create (reference : String)
  | requestDelete (reference : String)
  | delete (reference : String)
  | missing (reference : String)
  | tick (now : DateTime)
  deriving DecidableEq, Repr

/-- A minute. -/
def bindWindow : DateTime := seconds 60

def retryDelay : DateTime := seconds 30

namespace Database

variable {ι : Type*}

/-- The reservation has been neither bound nor cleaned. -/
def isOpen (row : HolderKeyProvision) (reference : String) : Bool :=
  row.providerReference == reference && row.boundAt.isNone && row.cleanedAt.isNone

/-- The reservation is open, and its time is up. -/
def stale (row : HolderKeyProvision) (reference : String) (start : DateTime) : Bool :=
  isOpen row reference && decide (row.cleanupAfter ≤ start)

/-- The reservation that `bind` looks for. -/
def bindable (row : HolderKeyProvision) (key : HolderKeyRecord) (start : DateTime) : Bool :=
  isOpen row key.providerReference && row.registrationId == key.registrationId &&
    row.userId == key.userId && row.organizationId == key.organizationId &&
    row.purpose == key.purpose && row.algorithm == key.algorithm &&
    decide (start < row.cleanupAfter)

/-- The keys that `revoke_and_queue` revokes. -/
def retired (registrationId : String) (purpose : Option String) (key : HolderKeyRecord) : Bool :=
  key.registrationId == registrationId && purpose.all (key.purpose == ·) && key.revokedAt.isNone

def revokeAndQueue (db : Database ι) (registrationId : String) (purpose : Option String)
    (now : DateTime) : Database ι :=
  { db with
    keys := Table.update db.keys (retired registrationId purpose) fun key =>
      { key with revokedAt := some (max now key.createdAt) }
    deletions := db.deletions ++ ((db.keys.filter (retired registrationId purpose)).filter
      fun key => !db.deletions.any (·.providerReference == key.providerReference)).map fun key =>
        ⟨key.providerReference, now, now, 0, none⟩ }

/-- `device_holder_key_provisions` has the name, or an open row of the same purpose. -/
def reserveConflicts (db : Database ι) (row : HolderKeyProvision) : Bool :=
  db.provisions.any fun other => other.providerReference == row.providerReference ||
    (other.registrationId == row.registrationId && other.purpose == row.purpose &&
      other.boundAt.isNone && other.cleanedAt.isNone)

/-- `device_holder_keys` has the id or the name. -/
def keyConflicts (db : Database ι) (key : HolderKeyRecord) : Bool :=
  db.keys.any fun other => other.id == key.id || other.providerReference == key.providerReference

def bind (db : Database ι) (key : HolderKeyRecord) (now start : DateTime) : Database ι :=
  let db := db.revokeAndQueue key.registrationId (some key.purpose) now
  { db with
    keys := db.keys ++ [key]
    provisions := Table.update db.provisions (isOpen · key.providerReference) fun row =>
      { row with boundAt := some start } }

def deactivate (db : Database ι) (registrationId : String) (now : DateTime) : Database ι :=
  let db := db.revokeAndQueue registrationId none now
  { db with
    registrations := Function.update db.registrations registrationId
      ((db.registrations registrationId).map fun device => { device with isActive := false }) }

/-- `GREATEST(reserved_at+interval '1 second',now())`. -/
def abandoned (start : DateTime) (row : HolderKeyProvision) : HolderKeyProvision :=
  { row with
    cleanupAfter := max (row.reservedAt + seconds 1) start
    retryAfter := max (row.reservedAt + seconds 1) start }

def pendingDeletion (row : HolderKeyDeletion) (reference : String) : Bool :=
  row.providerReference == reference && row.deletedAt.isNone

/-- The first hundred rows of `pending_deletions`, the longest due first. -/
def pendingDeletions (db : Database ι) (start : DateTime) : List HolderKeyScope :=
  ((((db.deletions.filter fun row => row.deletedAt.isNone && decide (row.retryAfter ≤ start)
    ).insertionSort fun row row' => row.retryAfter < row'.retryAfter ∨
      row.retryAfter = row'.retryAfter ∧ row.providerReference ≤ row'.providerReference
    ).filterMap fun row => db.keys.find? fun key =>
      key.providerReference == row.providerReference && key.revokedAt.isSome).take 100).map
    HolderKeyRecord.scope

/-- The first hundred rows of `expired_provisions`, the longest due first. -/
def expiredProvisions (db : Database ι) (start : DateTime) : List HolderKeyScope :=
  (((db.provisions.filter fun row => row.boundAt.isNone && row.cleanedAt.isNone &&
      decide (row.cleanupAfter ≤ start) && decide (row.retryAfter ≤ start)
    ).insertionSort fun row row' => row.retryAfter < row'.retryAfter ∨
      row.retryAfter = row'.retryAfter ∧ row.providerReference ≤ row'.providerReference
    ).take 100).map HolderKeyProvision.scope

/-- The call gives back its locks. -/
def release [DecidableEq ι] (db : Database ι) (i : ι) : Database ι :=
  { db with
    locks := fun id => if db.locks id = some i then none else db.locks id
    provisionLocks := fun reference =>
      if db.provisionLocks reference = some i then none else db.provisionLocks reference }

/-- One step, taken by call `i`. -/
def apply [DecidableEq ι] (db : Database ι) (i : ι) : Action → Database ι
  | .read => db
  | .lock registrationId =>
      { db with locks := Function.update db.locks registrationId (some i) }
  | .lockProvision reference =>
      { db with provisionLocks := Function.update db.provisionLocks reference (some i) }
  | .release => db.release i
  | .register device =>
      { db with registrations := Function.update db.registrations device.id (some device) }
  | .reserve row => { db with provisions := db.provisions ++ [row] }.release i
  | .bind key now start => (db.bind key now start).release i
  | .revoke registrationId now => (db.revokeAndQueue registrationId none now).release i
  | .deactivate registrationId now => (db.deactivate registrationId now).release i
  | .abandon reference start =>
      { db with provisions := Table.update db.provisions (isOpen · reference) (abandoned start) }
  | .clean reference now start =>
      { db with
        provisions := Table.update db.provisions (stale · reference start) fun row =>
          { row with cleanedAt := some (max now row.cleanupAfter) } }
  | .postponeProvision reference now start =>
      { db with
        provisions := Table.update db.provisions (stale · reference start) fun row =>
          { row with retryAfter := max now row.cleanupAfter + retryDelay } }
  | .markDeleted reference now =>
      { db with
        deletions := Table.update db.deletions (pendingDeletion · reference) fun row =>
          { row with deletedAt := some (max now row.queuedAt) } }
  | .postponeDeletion reference now =>
      { db with
        deletions := Table.update db.deletions (pendingDeletion · reference) fun row =>
          { row with
            attempts := row.attempts + 1
            retryAfter := max now row.queuedAt + retryDelay } }
  | .list references => { db with listed := db.listed ++ references }
  | .requestCreate reference =>
      { db with service.creating := reference :: db.service.creating }
  | .create reference =>
      { db with
        service.creating := db.service.creating.erase reference
        service.keys := reference :: db.service.keys
        service.created := reference :: db.service.created }
  | .requestDelete reference =>
      { db with service.deleting := reference :: db.service.deleting }
  | .delete reference =>
      { db with
        service.deleting := db.service.deleting.erase reference
        service.keys := db.service.keys.filter (· ≠ reference)
        service.deleted := reference :: db.service.deleted }
  | .missing reference => { db with service.missing := reference :: db.service.missing }
  | .tick now => { db with clock := now }

end Database

/-! ## Calls -/

/-- What `provision` has settled before it reserves the name. -/
structure Provisioning where
  registration : DeviceRegistration
  request : CreateHolderKeyRequest
  deriving DecidableEq, Repr

def Provisioning.reference (p : Provisioning) : String := p.request.scope.providerReference

/-- One entry of a pass of the worker, with those that follow and the counts so far. -/
structure Pass where
  entry : HolderKeyScope
  unbound : Bool
  rest : List (HolderKeyScope × Bool)
  deleted : Nat
  postponed : Nat
  deriving DecidableEq, Repr

def Pass.reference (pass : Pass) : String := pass.entry.providerReference

/-- The state of one call. -/
inductive Call
  | idle
  | requested (p : Provisioning)
  | reserving (p : Provisioning) (start : DateTime)
  | reservingRow (p : Provisioning) (row : HolderKeyProvision)
  | reserved (p : Provisioning)
  | creating (p : Provisioning)
  | created (p : Provisioning) (key : HolderKeyRecord) (now : DateTime)
  | binding (p : Provisioning) (key : HolderKeyRecord) (now start : DateTime)
  | bindingLocked (p : Provisioning) (key : HolderKeyRecord) (now start : DateTime)
  | bindingReserved (p : Provisioning) (key : HolderKeyRecord) (now start : DateTime)
  | provisioned (key : HolderKeyRecord)
  | abandoning (p : Provisioning) (error : DeviceError)
  | revoking (registrationId : String) (now : DateTime)
  | revoked
  | deactivating (registrationId : String) (device : DeviceRegistration)
  | deactivatingAt (registrationId : String) (device : DeviceRegistration) (now : DateTime)
  | deactivated (answer : Option DeviceRegistration)
  | holding (registrationId : String)
  | listing (pending : List (HolderKeyScope × Bool))
  | cleaning (rest : List (HolderKeyScope × Bool)) (deleted postponed : Nat)
  | revokingRemote (pass : Pass)
  | refused (pass : Pass)
  | gone (pass : Pass)
  | unmarked (pass : Pass)
  | cleaned (deleted postponed : Nat)
  | answered
  | failed (error : DeviceError)
  deriving DecidableEq, Repr

/-- What happens next.  Ids are drawn outside, and `now` is read from the clock of the
process.  A statement that is a transaction by itself has begun at `start`. -/
inductive Event
  | tick (now : DateTime)
  /-- A request to the key service takes effect. -/
  | create (reference : String)
  | delete (reference : String)
  | register (device : DeviceRegistration)
  | provision (userId organizationId registrationId purpose algorithm uuid : String)
  | revoke (registrationId : String) (now : DateTime)
  | deactivate (registrationId : String)
  /-- Another transaction on the registration. -/
  | hold (registrationId : String)
  | pendingDeletions (start : DateTime)
  | expiredProvisions (start : DateTime)
  | begin
  | lock
  | reservation
  | clock
  /-- `lost` when the answer to a commit that is made does not arrive. -/
  | commit (lost : Bool)
  | send
  | metadata (answer : Except DeviceError Value) (now : DateTime) (id : String)
  | missing
  | unavailable
  | statement (start now : DateTime)
  | check
  | abort
  | crash

def invalidScope : DeviceError := .forbidden "managed holder key scope is invalid"

def invalidEnrollment : DeviceError := .forbidden "managed holder enrollment is invalid"

def invalidReservation : DeviceError := .forbidden "managed holder key reservation is invalid"

def privateMaterial : DeviceError := .persistence "holder KMS returned private material"

def unavailable : DeviceError := .persistence "connection lost"

def duplicateRow : DeviceError :=
  .persistence "duplicate key value violates unique constraint"

section Plan

variable (sha256 : String → Digest) (containsPrivateKey : Value → Bool)
variable {ι : Type*}

/-- `provision`, up to the reservation. -/
def beginProvision (registration : Option DeviceRegistration)
    (userId organizationId registrationId purpose algorithm uuid : String) :
    Except DeviceError Provisioning := do
  let registration ← okOr registration invalidEnrollment
  rejectIf (registration.userId ≠ userId ∨ registration.organizationId ≠ some organizationId ∨
    eligible registration = false) invalidEnrollment
  let reference ← okOr (newReference sha256 organizationId registrationId purpose uuid)
    (.badRequest "managed holder purpose is invalid")
  return ⟨registration, ⟨⟨organizationId, registrationId, purpose, reference⟩, algorithm⟩⟩

/-- The row that `reserve` inserts. -/
def reserveRow (registration : Option DeviceRegistration) (request : CreateHolderKeyRequest)
    (start : DateTime) : Except DeviceError HolderKeyProvision := do
  let registration ← okOr registration invalidScope
  let organizationId ← okOr registration.organizationId invalidScope
  let scope := request.scope
  rejectIf (eligible registration = false ∨ knownAlgorithm request.algorithm = false ∨
    belongsTo sha256 scope.providerReference organizationId scope.registrationId
      scope.purpose = false) invalidScope
  return {
    providerReference := scope.providerReference
    registrationId := scope.registrationId
    userId := registration.userId
    organizationId
    purpose := scope.purpose
    algorithm := request.algorithm
    reservedAt := start
    cleanupAfter := start + bindWindow
    retryAfter := start + bindWindow
    boundAt := none
    cleanedAt := none }

/-- `create` of the client, and the record of what it returns. -/
def acceptMetadata (p : Provisioning) (answer : Except DeviceError Value) (now : DateTime)
    (id : String) : Except DeviceError HolderKeyRecord := do
  let metadata ← answer
  rejectIf (containsPrivateKey metadata = true) privateMaterial
  HolderKeyRecord.fromProvider sha256 containsPrivateKey p.registration p.request.scope.purpose
    p.request.algorithm p.reference metadata now id

/-- The checks of `bind` on the row of the registration. -/
def bindScope (registration : Option DeviceRegistration) (key : HolderKeyRecord)
    (now : DateTime) : Except DeviceError Unit := do
  let registration ← okOr registration invalidScope
  rejectIf (key.validFor sha256 registration = false ∨ now < key.createdAt) invalidScope

/-- Lock the row of a registration and go on. -/
def lockRow (db : Database ι) (registrationId : String) (next : Call) : Option (Action × Call) :=
  if (db.locks registrationId).isNone then some (.lock registrationId, next) else none

/-- A statement on a reservation waits for the row when it meets the condition. -/
def writeProvision (db : Database ι) (reference : String) (meets : HolderKeyProvision → Bool)
    (action : Action) (next otherwise : Call) : Option (Action × Call) :=
  if db.provisions.any meets then
    if (db.provisionLocks reference).isNone then some (action, next) else none
  else some (.read, otherwise)

/-- The pass goes on with the next entry. -/
def Pass.next (pass : Pass) (deleted postponed : Nat) : Call :=
  .cleaning pass.rest (pass.deleted + deleted) (pass.postponed + postponed)

/-- The first step of a call, and what happens to no call. -/
def planFirst (db : Database ι) : Event → Option (Action × Call)
  | .tick now => if db.clock ≤ now then some (.tick now, .idle) else none
  | .create reference =>
      if reference ∈ db.service.creating then some (.create reference, .idle) else none
  | .delete reference =>
      if reference ∈ db.service.deleting then some (.delete reference, .idle) else none
  | .register device =>
      if (db.registrations device.id).isNone then some (.register device, .answered) else none
  | .provision userId organizationId registrationId purpose algorithm uuid =>
      match beginProvision sha256 (db.registrations registrationId) userId organizationId
          registrationId purpose algorithm uuid with
      | .error error => some (.read, .failed error)
      | .ok p => some (.read, .requested p)
  | .revoke registrationId now =>
      -- no key refers to a registration that is not there
      match db.registrations registrationId with
      | none => some (.read, .revoked)
      | some _ => lockRow db registrationId (.revoking registrationId now)
  | .deactivate registrationId =>
      match db.registrations registrationId with
      | none => some (.read, .deactivated none)
      | some device =>
          if device.isActive then
            lockRow db registrationId (.deactivating registrationId device)
          else if (db.locks registrationId).isNone then
            some (.read, .deactivated (some device))
          else none
  | .hold registrationId =>
      if (db.registrations registrationId).isSome then
        lockRow db registrationId (.holding registrationId)
      else none
  | .pendingDeletions start =>
      if start ≤ db.clock then
        some (.read, .listing ((db.pendingDeletions start).map (·, false)))
      else none
  | _ => none

/-- The steps of `provision`. -/
def planProvision (db : Database ι) : Event → Call → Option (Action × Call)
  | .begin, .requested p => some (.read, .reserving p db.clock)
  | .lock, .reserving p start =>
      match reserveRow sha256 (db.registrations p.request.scope.registrationId) p.request start with
      | .error error => some (.read, .failed error)
      | .ok row => lockRow db row.registrationId (.reservingRow p row)
  | .commit lost, .reservingRow p row =>
      if db.reserveConflicts row then some (.release, .failed duplicateRow)
      else some (.reserve row, if lost then .failed unavailable else .reserved p)
  | .send, .reserved p =>
      if p.request.scope.valid sha256 = false ∨ knownAlgorithm p.request.algorithm = false then
        some (.read, .abandoning p (.badRequest "managed holder key scope is invalid"))
      else some (.requestCreate p.reference, .creating p)
  | .metadata answer now id, .creating p =>
      -- the service answers once it has created the key
      if answer.toBool = true ∧ p.reference ∉ db.service.created then none
      else
        match acceptMetadata sha256 containsPrivateKey p answer now id with
        | .error error => some (.read, .abandoning p error)
        | .ok key => some (.read, .created p key now)
  | .begin, .created p key now => some (.read, .binding p key now db.clock)
  | .lock, .binding p key now start =>
      match bindScope sha256 (db.registrations key.registrationId) key now with
      | .error error => some (.read, .abandoning p error)
      | .ok () => lockRow db key.registrationId (.bindingLocked p key now start)
  | .reservation, .bindingLocked p key now start =>
      if db.provisions.any (Database.bindable · key start) then
        if (db.provisionLocks key.providerReference).isNone then
          some (.lockProvision key.providerReference, .bindingReserved p key now start)
        else none
      else some (.release, .abandoning p invalidReservation)
  | .commit lost, .bindingReserved p key now start =>
      if db.keyConflicts key then some (.release, .abandoning p duplicateRow)
      else
        some (.bind key now start, if lost then .abandoning p unavailable else .provisioned key)
  | .statement start _, .abandoning p error =>
      if start ≤ db.clock then
        writeProvision db p.reference (Database.isOpen · p.reference)
          (.abandon p.reference start) (.failed error) (.failed error)
      else none
  | _, _ => none

/-- The steps of `run_once`. -/
def planCleanup (db : Database ι) : Event → Call → Option (Action × Call)
  | .expiredProvisions start, .listing pending =>
      if start ≤ db.clock then
        some (.list ((db.expiredProvisions start).map (·.providerReference)),
          .cleaning (pending ++ (db.expiredProvisions start).map (·, true)) 0 0)
      else none
  | .send, .cleaning rest deleted postponed =>
      match rest with
      | [] => some (.read, .cleaned deleted postponed)
      | (entry, unbound) :: rest =>
          if entry.valid sha256 then
            some (.requestDelete entry.providerReference,
              .revokingRemote ⟨entry, unbound, rest, deleted, postponed⟩)
          else some (.read, .refused ⟨entry, unbound, rest, deleted, postponed⟩)
  | .missing, .revokingRemote pass =>
      -- the service has read the key after its deletion
      if pass.reference ∈ db.service.keys then none
      else some (.missing pass.reference, .gone pass)
  | .unavailable, .revokingRemote pass => some (.read, .refused pass)
  | .unavailable, .gone pass => some (.read, .refused pass)
  | .statement start now, .gone pass =>
      if start ≤ db.clock then
        if pass.unbound then
          writeProvision db pass.reference (Database.stale · pass.reference start)
            (.clean pass.reference now start) (pass.next 1 0) (.unmarked pass)
        else if db.deletions.any (Database.pendingDeletion · pass.reference) then
          some (.markDeleted pass.reference now, pass.next 1 0)
        else some (.read, .unmarked pass)
      else none
  | .check, .unmarked pass =>
      if pass.unbound then
        if db.provisions.any fun row => row.providerReference == pass.reference &&
            row.boundAt.isNone && row.cleanedAt.isSome then
          some (.read, pass.next 1 0)
        else some (.read, .failed (.conflict "holder provision is not pending cleanup"))
      else if db.deletions.any fun row =>
          row.providerReference == pass.reference && row.deletedAt.isSome then
        some (.read, pass.next 1 0)
      else some (.read, .failed (.conflict "holder deletion is not pending"))
  | .statement start now, .refused pass =>
      if start ≤ db.clock then
        if pass.unbound then
          writeProvision db pass.reference (Database.stale · pass.reference start)
            (.postponeProvision pass.reference now start) (pass.next 0 1) (pass.next 0 1)
        else some (.postponeDeletion pass.reference now, pass.next 0 1)
      else none
  | _, _ => none

/-- An error in the middle of a call: `provision` gives up its reservation, and every other
call fails. -/
def abort : Call → Option (Action × Call)
  | .reserved p | .creating p | .created p _ _ | .binding p _ _ _ | .bindingLocked p _ _ _
  | .bindingReserved p _ _ _ => some (.release, .abandoning p unavailable)
  | .abandoning _ error => some (.release, .failed error)
  | .idle | .provisioned _ | .revoked | .deactivated _ | .cleaned .. | .answered | .failed _ => none
  | _ => some (.release, .failed unavailable)

/-- What a call does with an event: nothing when the event is not its next step, or has to
wait for a lock.  A `crash` ends a call wherever it is. -/
def plan (db : Database ι) (event : Event) (call : Call) : Option (Action × Call) :=
  match event, call with
  | event, .idle => planFirst sha256 db event
  | .crash, _ => some (.release, .failed unavailable)
  | .abort, call => abort call
  | .commit _, .revoking registrationId now => some (.revoke registrationId now, .revoked)
  | .clock, .deactivating registrationId device =>
      some (.read, .deactivatingAt registrationId device db.clock)
  | .commit _, .deactivatingAt registrationId device now =>
      some (.deactivate registrationId now, .deactivated (some { device with isActive := false }))
  | .commit _, .holding _ => some (.release, .answered)
  | event, .listing pending => planCleanup sha256 db event (.listing pending)
  | event, .cleaning rest deleted postponed =>
      planCleanup sha256 db event (.cleaning rest deleted postponed)
  | event, .revokingRemote pass => planCleanup sha256 db event (.revokingRemote pass)
  | event, .refused pass => planCleanup sha256 db event (.refused pass)
  | event, .gone pass => planCleanup sha256 db event (.gone pass)
  | event, .unmarked pass => planCleanup sha256 db event (.unmarked pass)
  | event, call => planProvision sha256 containsPrivateKey db event call

/-- The calls on the holder keys of one database. -/
def keyMachine [DecidableEq ι] : Machine (Database ι) ι Event Call where
  step i event db call :=
    (plan sha256 containsPrivateKey db event call).map fun r => (db.apply i r.1, r.2)

end Plan

/-! ## Runs -/

/-- No key has been asked for. -/
structure Initial {ι : Type*} (c : Config (Database ι) ι Call) : Prop where
  ids : ∀ id d, c.store.registrations id = some d → d.id = id
  keys : c.store.keys = []
  provisions : c.store.provisions = []
  deletions : c.store.deletions = []
  locks : ∀ id, c.store.locks id = none
  provisionLocks : ∀ reference, c.store.provisionLocks reference = none
  service : c.store.service = ⟨[], [], [], [], [], []⟩
  listed : c.store.listed = []
  calls : ∀ i, c.calls i = .idle

/-- **Neither of the two late steps**: no reservation is bound that a pass of the worker has
listed, and no key is created that a revocation has found gone. -/
def inTime {ι : Type*} (c : Config (Database ι) ι Call) (i : ι) (event : Event) : Bool :=
  match event, c.calls i with
  | .commit _, .bindingReserved _ key _ _ => key.providerReference ∉ c.store.listed
  | .create reference, .idle => reference ∉ c.store.service.missing
  | _, _ => true

end Marty.Devices.HolderKeys
