import Marty.Lib.Checked
import Marty.Lib.Delivery
import Marty.Lib.Interleaving
import Marty.Lib.Json
import Marty.Lib.Stamps
import Marty.Lib.Text
import Marty.Lib.Uuid

/-!
# The registry of signing services and its revision

The registry of an organization is one payload, and a second key, the sidecar, binds a random
revision to the digest of the payload.  Fenced writers replace both; other writers replace
the payload only, and a reader that finds the two apart binds a new revision to what it has
read.

## Main definitions

* `revisionSidecar`, `checkedRevision` — the binding of a revision to a payload.
* `RegistryRedis` — the keys; `refreshScript`, `saveScript`, `savePendingScript` — the scripts.
* `saveWithRotationLeaseAndRevision`, `bindReferencePurpose`, `savePendingRotationWithMarker` —
  the fenced writers.
* `registryMachine` — any number of readers and writers of one registry.
-/

namespace Marty.SigningKeys.Registry

open Lib Lib.Checked

inductive RegistryError
  | invalid (reason : String)
  | storage
  | secretCapabilityUnavailable
  | corrupt (reason : String)
  | conflict
  | preconditionFailed
  deriving DecidableEq, Repr

def globalRotationFenceKey : String := "signing-service:global-rotation-fence"

def rotationLeaseKey (organizationId : String) : String :=
  "signing-service:rotation-lease:" ++ toString organizationId.utf8ByteSize ++ ":" ++
    organizationId

/-- A lease as its holder knows it: that of an organization, or the fence before all writes. -/
structure RotationLease where
  key : String
  owner : String
  deriving DecidableEq

/-! ## Revisions -/

section

-- the digest of the bytes of a text, in hexadecimal digits
variable (sha256 : String → String)

def registryPayloadDigest : Option String → String
  | some value => sha256 ("present\x00" ++ value)
  | none => sha256 "absent\x00"

def revisionSidecar (revision : String) (payload : Option String) : String :=
  revision ++ ":" ++ registryPayloadDigest sha256 payload

/-- The revision of the sidecar, unless the payload is not the one that it was bound to. -/
def checkedRevision (sidecar : String) (payload : Option String) :
    Except RegistryError (Option String) := do
  let parts ← okOr (Text.splitOnce sidecar ":") (.corrupt "registry revision is malformed")
  rejectIf (Uuid.parses parts.1 = false ∨ parts.2.utf8ByteSize ≠ 64 ∨
      parts.2.toList.all Uuid.isHex = false)
    (.corrupt "registry revision is malformed")
  return if parts.2 = registryPayloadDigest sha256 payload then some parts.1 else none

end

def etagOf (revision : String) : String := "\"r-" ++ revision ++ "\""

/-- What a reader has found: the registry, and the keys as they were. -/
structure RegistryRevisionSnapshot where
  registry : Json.Value
  etag : String
  raw : Option String
  sidecar : String

/-! ## Scripts -/

inductive MarkerIndex
  | none
  | set (members : List String)
  | other

/-- The keys of one organization, with the leases of all. -/
structure RegistryRedis where
  payload : Option String
  sidecar : Option String
  /-- The owner of each lease. -/
  leases : String → Option String
  markers : String → Option String
  indexes : String → MarkerIndex

/-- Bind a revision to what has been read, when it is still there. -/
def refreshScript (redis : RegistryRedis) (payload prior : Option String) (next : String) :
    RegistryRedis × Int :=
  if redis.payload ≠ payload then (redis, 0)
  else if redis.sidecar ≠ prior then (redis, 0)
  else ({ redis with sidecar := some next }, 1)

/-- Replace the payload and the sidecar, under a lease that no fence of another owner stands
against; `expected` holds the keys that must be there still. -/
def saveScript (redis : RegistryRedis) (lease : RotationLease) (payload sidecar : String)
    (expected : Option (Option String × String)) : RegistryRedis × Int :=
  if redis.leases lease.key ≠ some lease.owner then (redis, 0)
  else if ∃ fence ∈ redis.leases globalRotationFenceKey, fence ≠ lease.owner then (redis, 0)
  else if ∃ keys ∈ expected, redis.payload ≠ keys.1 then (redis, -1)
  else if ∃ keys ∈ expected, redis.sidecar ≠ some keys.2 then (redis, -1)
  else ({ redis with payload := some payload, sidecar := some sidecar }, 1)

/-- Put a member into a set; the index must not be anything else. -/
def MarkerIndex.add (member : String) : MarkerIndex → Option MarkerIndex
  | none => some (.set [member])
  | set members => some (.set (if member ∈ members then members else members ++ [member]))
  | other => Option.none

def savePendingScript (redis : RegistryRedis) (lease : RotationLease)
    (markerKey indexKey payload marker sidecar : String) : RegistryRedis × Int :=
  if redis.leases lease.key ≠ some lease.owner then (redis, 0)
  else if redis.leases globalRotationFenceKey ≠ some lease.owner then (redis, 0)
  else if (redis.markers markerKey).isSome then (redis, 0)
  else match (redis.indexes indexKey).add markerKey with
    | none => (redis, 0)
    | some index =>
        ({ redis with
            indexes := Function.update redis.indexes indexKey index
            markers := Function.update redis.markers markerKey (some marker)
            payload := some payload
            sidecar := some sidecar }, 1)

/-- What the caller is told of a script. -/
def delivered {α : Type} (redis : RegistryRedis) (answer : RegistryRedis × Int)
    (reply : Int → Except RegistryError α) :
    Delivery → RegistryRedis × Except RegistryError α
  | .refused => (redis, .error .storage)
  | .lost => (answer.1, .error .storage)
  | .answered => (answer.1, reply answer.2)

/-! ## Fenced writers -/

/-- A registry that has been normalized, and the payload with its credentials sealed. -/
structure PreparedRegistry where
  normalized : Json.Value
  payload : String

section

variable (sha256 : String → String)

def saveWithRotationLeaseAndRevision (redis : RegistryRedis) (organizationId : String)
    (lease : RotationLease) (prepared : Except RegistryError PreparedRegistry)
    (revision : String) (expected : Option RegistryRevisionSnapshot) (delivery : Delivery) :
    RegistryRedis × Except RegistryError (Json.Value × String) :=
  if lease.key ≠ rotationLeaseKey organizationId then (redis, .error .conflict)
  else match prepared with
    | .error error => (redis, .error error)
    | .ok prepared =>
        delivered redis
          (saveScript redis lease prepared.payload
            (revisionSidecar sha256 revision (some prepared.payload))
            (expected.map fun snapshot => (snapshot.raw, snapshot.sidecar)))
          (fun saved =>
            if saved = -1 then .error .preconditionFailed
            else if saved ≠ 1 then .error .conflict
            else .ok (prepared.normalized, etagOf revision))
          delivery

/-- The revision that the caller names must be that of the snapshot, and then of the store. -/
def bindReferencePurpose (redis : RegistryRedis) (organizationId : String)
    (lease : RotationLease) (prepared : Except RegistryError PreparedRegistry)
    (revision : String) (snapshot : RegistryRevisionSnapshot)
    (expectedRevision : Option String) (delivery : Delivery) :
    RegistryRedis × Except RegistryError (Json.Value × String) :=
  if ∃ expected ∈ expectedRevision, expected ≠ snapshot.etag then
    (redis, .error .preconditionFailed)
  else
    saveWithRotationLeaseAndRevision sha256 redis organizationId lease prepared revision
      (expectedRevision.map fun _ => snapshot) delivery

/-- The keys of the marker of a service, its marker, and the registry, when all are there. -/
structure PendingRotation where
  markerKey : String
  indexKey : String
  marker : String
  registry : PreparedRegistry

def savePendingRotationWithMarker (redis : RegistryRedis) (organizationId : String)
    (lease : RotationLease) (pending : Except RegistryError PendingRotation)
    (revision : String) (delivery : Delivery) :
    RegistryRedis × Except RegistryError Json.Value :=
  if lease.key ≠ rotationLeaseKey organizationId then (redis, .error .conflict)
  else match pending with
    | .error error => (redis, .error error)
    | .ok pending =>
        delivered redis
          (savePendingScript redis lease pending.markerKey pending.indexKey
            pending.registry.payload pending.marker
            (revisionSidecar sha256 revision (some pending.registry.payload)))
          (fun saved =>
            if saved ≠ 1 then .error .conflict else .ok pending.registry.normalized)
          delivery

/-! ## Readers -/

/-- A load reads, and it refreshes the sidecar when it must, three times at most. -/
inductive LoadCall
  | idle
  | reading (attempts : Nat)
  | refreshing (attempts : Nat) (payload sidecar : Option String)
  | loaded (snapshot : RegistryRevisionSnapshot)
  | failed (error : RegistryError)

/-- One read of both keys; `decoded` is the registry that the payload holds. -/
def readAttempt (redis : RegistryRedis) (attempts : Nat)
    (decoded : Except RegistryError Json.Value) : LoadCall :=
  match redis.sidecar with
  | none => .refreshing attempts redis.payload none
  | some sidecar =>
      match checkedRevision sha256 sidecar redis.payload with
      | .error error => .failed error
      | .ok none => .refreshing attempts redis.payload (some sidecar)
      | .ok (some revision) =>
          match decoded with
          | .error error => .failed error
          | .ok registry => .loaded ⟨registry, etagOf revision, redis.payload, sidecar⟩

/-- The load goes on to its next attempt, if one is left. -/
def nextAttempt (attempts : Nat) : LoadCall :=
  if attempts ≤ 1 then .failed .conflict else .reading (attempts - 1)

end

/-! ## Leases -/

def acquire (redis : RegistryRedis) (key owner : String) : RegistryRedis :=
  if redis.leases key = none then
    { redis with leases := Function.update redis.leases key (some owner) }
  else redis

def releaseRotationLease (redis : RegistryRedis) (lease : RotationLease) : RegistryRedis :=
  if redis.leases lease.key = some lease.owner then
    { redis with leases := Function.update redis.leases lease.key none }
  else redis

/-! ## One registry, any readers and writers -/

inductive RegistryAct
  | snapshot (snapshot : RegistryRevisionSnapshot)
  | saved (expected : Option RegistryRevisionSnapshot) (lease : RotationLease)
      (payload revision : String)
  | refreshed (payload : Option String) (revision : String)
  | replaced (payload : Option String)

/-- The revision that an act gives, and the payload that it gives it to. -/
def RegistryAct.binding : RegistryAct → Option (String × Option String)
  | saved _ _ payload revision => some (revision, some payload)
  | refreshed payload revision => some (revision, payload)
  | _ => none

/-- The keys of the store, what has happened to them, the leases that have come to their end,
and the UUIDs that have been drawn. -/
structure RegistryStore where
  redis : RegistryRedis
  history : List RegistryAct
  lost : List RotationLease
  drawn : List String

inductive RegistryEvent
  | load
  | read (decoded : Except RegistryError Json.Value) (delivery : Delivery)
  | refresh (revision : String) (delivery : Delivery)
  /-- Save, on the condition that the snapshot is still up to date or without one. -/
  | save (conditional : Bool) (lease : RotationLease)
      (prepared : Except RegistryError PreparedRegistry) (revision : String)
      (delivery : Delivery)
  | bind (expectedRevision : Option String) (lease : RotationLease)
      (prepared : Except RegistryError PreparedRegistry) (revision : String)
      (delivery : Delivery)
  | savePending (lease : RotationLease) (pending : Except RegistryError PendingRotation)
      (revision : String) (delivery : Delivery)
  /-- A writer that knows no revisions replaces the payload, or removes it. -/
  | replace (payload : Option String)
  | acquireLease (organizationId owner : String)
  | acquireFence (lease : RotationLease)
  | release (lease : RotationLease)
  | expire (key : String)
  /-- The markers of rotations are created and cleared. -/
  | mark (markers : String → Option String) (indexes : String → MarkerIndex)

/-- A UUID is random: none is drawn twice. -/
def RegistryStore.Draws (store : RegistryStore) (uuid : String) : Prop :=
  Uuid.isCanonical uuid = true ∧ uuid ∉ store.drawn

instance (store : RegistryStore) (uuid : String) : Decidable (store.Draws uuid) := by
  unfold RegistryStore.Draws
  infer_instance

def RegistryStore.draw (store : RegistryStore) (uuid : String) : RegistryStore :=
  { store with drawn := store.drawn ++ [uuid] }

/-- The script of a save is carried out, and it stores the payload. -/
def Saves (redis : RegistryRedis) (organizationId : String) (lease : RotationLease)
    (expected : Option RegistryRevisionSnapshot) (delivery : Delivery) : Prop :=
  delivery ≠ .refused ∧ lease.key = rotationLeaseKey organizationId ∧
    redis.leases lease.key = some lease.owner ∧
    (∀ fence ∈ redis.leases globalRotationFenceKey, fence = lease.owner) ∧
    ∀ snapshot ∈ expected, redis.payload = snapshot.raw ∧ redis.sidecar = some snapshot.sidecar

instance (redis : RegistryRedis) (organizationId : String) (lease : RotationLease)
    (expected : Option RegistryRevisionSnapshot) (delivery : Delivery) :
    Decidable (Saves redis organizationId lease expected delivery) := by
  unfold Saves
  infer_instance

/-- The script of a pending rotation is carried out, and it stores the payload. -/
def SavesPending (redis : RegistryRedis) (organizationId : String) (lease : RotationLease)
    (pending : PendingRotation) (delivery : Delivery) : Prop :=
  delivery ≠ .refused ∧ lease.key = rotationLeaseKey organizationId ∧
    redis.leases lease.key = some lease.owner ∧
    redis.leases globalRotationFenceKey = some lease.owner ∧
    redis.markers pending.markerKey = none ∧
    ((redis.indexes pending.indexKey).add pending.markerKey).isSome

instance (redis : RegistryRedis) (organizationId : String) (lease : RotationLease)
    (pending : PendingRotation) (delivery : Delivery) :
    Decidable (SavesPending redis organizationId lease pending delivery) := by
  unfold SavesPending
  infer_instance

/-- What a client has read, and what its last save has returned. -/
structure RegistryClient where
  load : LoadCall
  answer : Option (Except RegistryError String)

section

variable (sha256 : String → String) (organizationId : String)

/-- The act of a save, when the script stores the payload. -/
def savedAct (redis : RegistryRedis) (lease : RotationLease)
    (prepared : Except RegistryError PreparedRegistry) (revision : String)
    (expected : Option RegistryRevisionSnapshot) (delivery : Delivery) : List RegistryAct :=
  match prepared with
  | .error _ => []
  | .ok prepared =>
      if Saves redis organizationId lease expected delivery then
        [.saved expected lease prepared.payload revision]
      else []

def RegistryStore.save (store : RegistryStore) (lease : RotationLease)
    (prepared : Except RegistryError PreparedRegistry) (revision : String)
    (expected : Option RegistryRevisionSnapshot) (delivery : Delivery) :
    RegistryStore × Except RegistryError String :=
  let answer := saveWithRotationLeaseAndRevision sha256 store.redis organizationId lease
    prepared revision expected delivery
  ({ store.draw revision with
    redis := answer.1
    history := store.history ++
      savedAct organizationId store.redis lease prepared revision expected delivery },
    answer.2.map (·.2))

def RegistryStore.bind (store : RegistryStore) (lease : RotationLease)
    (prepared : Except RegistryError PreparedRegistry) (revision : String)
    (snapshot : RegistryRevisionSnapshot) (expectedRevision : Option String)
    (delivery : Delivery) : RegistryStore × Except RegistryError String :=
  let answer := bindReferencePurpose sha256 store.redis organizationId lease prepared revision
    snapshot expectedRevision delivery
  ({ store.draw revision with
    redis := answer.1
    history := store.history ++
      if ∃ expected ∈ expectedRevision, expected ≠ snapshot.etag then []
      else savedAct organizationId store.redis lease prepared revision
        (expectedRevision.map fun _ => snapshot) delivery },
    answer.2.map (·.2))

def RegistryStore.savePending (store : RegistryStore) (lease : RotationLease)
    (pending : Except RegistryError PendingRotation) (revision : String)
    (delivery : Delivery) : RegistryStore × Except RegistryError String :=
  let answer := savePendingRotationWithMarker sha256 store.redis organizationId lease pending
    revision delivery
  ({ store.draw revision with
    redis := answer.1
    history := store.history ++ match pending with
      | .error _ => []
      | .ok pending =>
          if SavesPending store.redis organizationId lease pending delivery then
            [.saved none lease pending.registry.payload revision]
          else [] },
    answer.2.map fun _ => etagOf revision)

def RegistryStore.read (store : RegistryStore) (attempts : Nat)
    (decoded : Except RegistryError Json.Value) : RegistryStore × LoadCall :=
  let call := readAttempt sha256 store.redis attempts decoded
  ({ store with
    history := store.history ++ match call with
      | .loaded snapshot => [.snapshot snapshot]
      | _ => [] }, call)

def RegistryStore.refresh (store : RegistryStore) (attempts : Nat)
    (payload sidecar : Option String) (revision : String) (delivery : Delivery) :
    RegistryStore × LoadCall :=
  let answer := refreshScript store.redis payload sidecar
    (revisionSidecar sha256 revision payload)
  match delivery with
  | .refused => (store.draw revision, .failed .storage)
  | .lost | .answered =>
      ({ store.draw revision with
        redis := answer.1
        history := store.history ++
          if store.redis.payload = payload ∧ store.redis.sidecar = sidecar then
            [.refreshed payload revision]
          else [] },
        if delivery = .lost then .failed .storage else nextAttempt attempts)

/-- A lease that has come to its end, by its release or of itself. -/
def RegistryStore.lose (store : RegistryStore) (lease : RotationLease) : RegistryStore :=
  if store.redis.leases lease.key = some lease.owner then
    { store with
      redis := releaseRotationLease store.redis lease
      lost := store.lost ++ [lease] }
  else store

def RegistryStore.expire (store : RegistryStore) (key : String) : RegistryStore :=
  match store.redis.leases key with
  | none => store
  | some owner => store.lose ⟨key, owner⟩

def registryStep (store : RegistryStore) (client : RegistryClient) :
    RegistryEvent → Option (RegistryStore × RegistryClient)
  | .load => some (store, { client with load := .reading 3 })
  | .read decoded delivery =>
      match client.load with
      | .reading attempts =>
          if delivery = .answered then
            let answer := store.read sha256 attempts decoded
            some (answer.1, { client with load := answer.2 })
          else some (store, { client with load := .failed .storage })
      | _ => none
  | .refresh revision delivery =>
      match client.load with
      | .refreshing attempts payload sidecar =>
          if store.Draws revision then
            let answer := store.refresh sha256 attempts payload sidecar revision delivery
            some (answer.1, { client with load := answer.2 })
          else none
      | _ => none
  | .save conditional lease prepared revision delivery =>
      if store.Draws revision then
        if conditional then
          match client.load with
          | .loaded snapshot =>
              let answer := store.save sha256 organizationId lease prepared revision
                (some snapshot) delivery
              some (answer.1, { client with answer := some answer.2 })
          | _ => none
        else
          let answer := store.save sha256 organizationId lease prepared revision none delivery
          some (answer.1, { client with answer := some answer.2 })
      else none
  | .bind expectedRevision lease prepared revision delivery =>
      match client.load with
      | .loaded snapshot =>
          if store.Draws revision then
            let answer := store.bind sha256 organizationId lease prepared revision snapshot
              expectedRevision delivery
            some (answer.1, { client with answer := some answer.2 })
          else none
      | _ => none
  | .savePending lease pending revision delivery =>
      if store.Draws revision then
        let answer := store.savePending sha256 organizationId lease pending revision delivery
        some (answer.1, { client with answer := some answer.2 })
      else none
  | .replace payload =>
      some ({ store with
        redis := { store.redis with payload := payload }
        history := store.history ++ [.replaced payload] }, client)
  | .acquireLease other owner =>
      if store.Draws owner then
        some ({ store.draw owner with
          redis := acquire store.redis (rotationLeaseKey other) owner }, client)
      else none
  | .acquireFence lease =>
      some ({ store with
        redis := acquire store.redis globalRotationFenceKey lease.owner }, client)
  | .release lease => some (store.lose lease, client)
  | .expire key => some (store.expire key, client)
  | .mark markers indexes =>
      some ({ store with
        redis := { store.redis with markers := markers, indexes := indexes } }, client)

variable (ι : Type)

def registryMachine : Machine RegistryStore ι RegistryEvent RegistryClient where
  step _ e store client := registryStep sha256 organizationId store client e

/-- No revision has been given yet, and no lease is held; what there may be is a payload. -/
def registryStart (payload : Option String) : Config RegistryStore ι RegistryClient where
  store := ⟨⟨payload, none, fun _ => none, fun _ => none, fun _ => .none⟩, [], [], []⟩
  calls _ := ⟨.idle, none⟩

end

end Marty.SigningKeys.Registry
