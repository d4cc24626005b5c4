import Marty.Lib.Interleaving
import Marty.Lib.Text
import Marty.Revocation.Ledger
import Mathlib.Data.List.Nodup

/-!
# Allocation of status indexes

`reserve_index` looks its profile up, makes sure the status list exists, reads the
Redis counter of the list as a floor, reserves an index in the durable ledger and
advances the Redis counter past it.  Each of these is one atomic step here, any of
them may fail, and any number of calls interleave: reservations, retries of the same
credential, and calls of the legacy allocator that increments the Redis counter.
Profiles and status lists are changed by others in between.

## Main definitions

* `allocationMachine` — the steps of both allocators over the two stores.
* `Allocated` — the invariant: what the ledger, its history and each call agree on.
* `reserveIndex_injective_stable` — indexes are unique, stable and in bounds.
-/

namespace Marty.Revocation

open Marty.Lib

/-! ## Service data -/

inductive ServiceError
  | invalidArgument (message : String)
  | notFound (profileId : String)
  | permissionDenied
  | failedPrecondition (message : String)
  | storage (message : String)
  | native (message : String)
  deriving DecidableEq, Repr

structure ReserveRequest where
  profileId : String
  organizationId : String
  credentialFormat : String
  credentialId : String
  deriving DecidableEq, Repr

/-- `allocate_index`: a reservation for a fresh synthetic owner. -/
def ReserveRequest.synthetic (profileId organizationId credentialFormat uuid : String) :
    ReserveRequest :=
  ⟨profileId, organizationId, credentialFormat, "urn:marty:legacy-status-allocation:" ++ uuid⟩

/-- A call of either allocator. -/
inductive AllocationRequest
  | reserve (request : ReserveRequest)
  /-- `StatusRepository::allocate_index`. -/
  | legacy (scope : String) (format : StatusListFormat) (size : Nat)
  deriving DecidableEq, Repr

structure StatusOperationResult where
  organizationId : String
  index : Nat
  statusListUrl : String
  deriving DecidableEq, Repr

def statusFormat (credentialFormat : String) : StatusListFormat :=
  if Text.eqIgnoreAsciiCase credentialFormat "mdoc" then .tokenStatusList else .bitstring

def statusScope (p : RevocationProfile) : String := p.organizationId ++ ":" ++ p.id

def statusListUrl (publicBaseUrl : String) (p : RevocationProfile) (format : StatusListFormat)
    (purpose : String) : String :=
  let configured := ((p.statusListBaseUrl.map Text.trim).filter fun value =>
    Text.startsWith value "https://" || Text.startsWith value "http://").map
      fun value => Text.trimEndMatches value '/'
  let base := configured.map fun value =>
    ((Text.splitOnce value "/v1/organizations/").map Prod.fst).getD value
  let base := base.map fun value => (Text.stripSuffix value "/lists").getD value
  base.getD publicBaseUrl ++ "/v1/organizations/" ++ p.organizationId ++ "/revocation-profiles/" ++
    p.id ++ "/status-lists/" ++ format.mechanism ++ "/" ++ purpose

/-- The scope that a reservation request names. -/
def ReserveRequest.scope (a : ReserveRequest) : AllocationScope :=
  ⟨a.organizationId, a.profileId, statusFormat a.credentialFormat⟩

def ServiceError.ofRepository (error : RepositoryError) : ServiceError := .storage error.display

def ServiceError.ofStatus {B T E : Type} (K : StatusKernel B T E) (error : StatusError E) :
    ServiceError :=
  match error with
  | .repository _ => .storage (error.display K)
  | .full _ => .failedPrecondition (error.display K)
  | _ => .native (error.display K)

def statusAllocationError (error : RepositoryError) : ServiceError :=
  match error with
  | .allocationScopeConflict _ => .failedPrecondition error.display
  | .allocationFull _ => .failedPrecondition error.display
  | .operation _ => .storage error.display

/-! ## The two stores -/

/-- The profiles by identifier. -/
structure ProfileTable where
  find : String → Option RevocationProfile
  keyed : ∀ {id p}, find id = some p → p.id = id

namespace ProfileTable

def save (t : ProfileTable) (p : RevocationProfile) : ProfileTable where
  find := Function.update t.find p.id (some p)
  keyed := by
    intro id q h
    by_cases hid : id = p.id
    · subst hid
      simp only [Function.update_self, Option.some.injEq] at h
      rw [h]
    · rw [Function.update_of_ne hid] at h
      exact t.keyed h

def delete (t : ProfileTable) (profileId : String) : ProfileTable where
  find := Function.update t.find profileId none
  keyed := by
    intro id q h
    by_cases hid : id = profileId
    · simp [hid] at h
    · rw [Function.update_of_ne hid] at h
      exact t.keyed h

end ProfileTable

/-- The key of a status list and of its counter. -/
abbrev StatusKey := String × StatusListFormat

structure StatusStore where
  lists : StatusKey → Option StatusListRecord
  nextIndices : StatusKey → Nat

namespace StatusStore

variable {B T E : Type} (K : StatusKernel B T E) (s : StatusStore) (key : StatusKey)

def getOrCreate (size : Nat) (id : String) (now : DateTime) :
    Except (StatusError E) StatusListRecord × StatusStore :=
  match s.lists key with
  | some record =>
      if record.size ≠ size then
        (.error (.repository ("stored size " ++ toString record.size ++
          " differs from configured size " ++ toString size)), s)
      else (.ok record, s)
  | none =>
      match StatusListRecord.empty K id key.1 key.2 size now with
      | .error error => (.error error, s)
      | .ok record => (.ok record, { s with lists := Function.update s.lists key (some record) })

/-- `ALLOCATE_INDEX_SCRIPT`; `none` is its `-1`. -/
def allocateIndexScript (size : Nat) : Option Nat × StatusStore :=
  let current := s.nextIndices key
  if size ≤ current then (none, s)
  else (some current,
    { s with nextIndices := Function.update s.nextIndices key (current + 1) })

/-- `ADVANCE_ALLOCATION_FLOOR_SCRIPT`. -/
def advanceAllocationFloor (requested : Nat) : StatusStore :=
  if s.nextIndices key < requested then
    { s with nextIndices := Function.update s.nextIndices key requested }
  else s

/-- `set_status` of another call, which leaves the list alone when it fails. -/
def setStatus (size index : Nat) (status : UInt8) (id : String) (now : DateTime) : StatusStore :=
  match s.getOrCreate K key size id now with
  | (.error _, s) => s
  | (.ok record, s) =>
      match StatusListRecord.set K record index status now with
      | .error _ => s
      | .ok record => { s with lists := Function.update s.lists key (some record) }

end StatusStore

/-- A reservation that wrote a row of the ledger. -/
structure Reserved (ι : Type) where
  call : ι
  reservation : StatusIndexReservation
  index : Nat
  deriving DecidableEq, Repr

def Reserved.row {ι : Type} (e : Reserved ι) : StatusIndexAllocation :=
  ⟨e.reservation.organizationId, e.reservation.profileId, e.reservation.format, e.index⟩

/-- Both stores, and the reservations that wrote the rows of the ledger. -/
structure AllocationStore (ι : Type) where
  profiles : ProfileTable
  ledger : AllocationLedger
  statuses : StatusStore
  log : List (Reserved ι)

/-! ## The steps of a call -/

/-- What an authorized reservation works with. -/
structure ReserveContext where
  credentialId : String
  profile : RevocationProfile
  format : StatusListFormat
  deriving DecidableEq, Repr

namespace ReserveContext

def key (x : ReserveContext) : StatusKey := (statusScope x.profile, x.format)

def size (x : ReserveContext) : Nat := x.profile.statusListSize

def reservation (x : ReserveContext) (floor : Nat) : StatusIndexReservation :=
  ⟨x.credentialId, x.profile.organizationId, x.profile.id, x.format, x.size, floor⟩

def row (x : ReserveContext) (index : Nat) : StatusIndexAllocation :=
  ⟨x.profile.organizationId, x.profile.id, x.format, index⟩

end ReserveContext

/-- Where a call stands: what it will do next, or its outcome. -/
inductive AllocationCall (E : Type)
  | start
  /-- The profile is known; `get_or_create` is next. -/
  | authorized (x : ReserveContext)
  /-- The list exists; `allocation_floor` is next. -/
  | listed (x : ReserveContext)
  /-- The floor was read; `reserve_status_index` is next. -/
  | floored (x : ReserveContext) (floor : Nat)
  /-- The index is reserved; `advance_allocation_floor` is next. -/
  | reserved (x : ReserveContext) (index : Nat)
  | done (x : ReserveContext) (result : StatusOperationResult)
  /-- Legacy: the list exists; `ALLOCATE_INDEX_SCRIPT` is next. -/
  | incrementing (key : StatusKey) (size : Nat)
  | allocated (key : StatusKey) (index : Nat)
  | refused (error : StatusError E)
  | failed (error : ServiceError)
  deriving DecidableEq, Repr

inductive AllocationEvent
  /-- The next step of the call takes effect. -/
  | exec (id : String) (now : DateTime)
  /-- The next step takes effect, but the call does not learn it. -/
  | lose (id : String) (now : DateTime) (message : String)
  /-- The next step fails. -/
  | fail (message : String)
  | saveProfile (profile : RevocationProfile)
  | deleteProfile (profileId : String)
  /-- Another operation of the service writes a status list. -/
  | setStatus (key : StatusKey) (size index : Nat) (status : UInt8) (id : String) (now : DateTime)
  deriving DecidableEq, Repr

section Machine

variable {B T E ι : Type} (K : StatusKernel B T E) (backend : Backend) (publicBaseUrl : String)
  (request : ι → AllocationRequest)

/-- The checks of `reserve_index` up to the first write. -/
def authorizeReservation (profiles : ProfileTable) (a : ReserveRequest) :
    Except ServiceError ReserveContext :=
  if (Text.trim a.credentialId).isEmpty ∨ 2048 < a.credentialId.utf8ByteSize then
    .error (.invalidArgument "credential_id must contain between 1 and 2048 characters")
  else
    match profiles.find a.profileId with
    | none => .error (.notFound a.profileId)
    | some p =>
        if p.organizationId ≠ a.organizationId then .error .permissionDenied
        else if ¬ p.autoAllocateIndices then
          .error (.failedPrecondition "auto-allocation is not enabled for this profile")
        else .ok ⟨a.credentialId, p, statusFormat a.credentialFormat⟩

/-- The durable reservation, with the row it wrote if it wrote one. -/
def reserveStep (i : ι) (s : AllocationStore ι) (x : ReserveContext) (floor : Nat) :
    AllocationStore ι × AllocationCall E :=
  match backend.reserveStatusIndex s.profiles.find s.ledger (x.reservation floor) with
  | (.error error, ledger) => ({ s with ledger := ledger }, .failed (statusAllocationError error))
  | (.ok index, ledger) =>
      let log := if (s.ledger.allocations x.credentialId).isNone then
        s.log ++ [⟨i, x.reservation floor, index⟩] else s.log
      ({ s with ledger := ledger, log := log }, .reserved x index)

def allocationExec (i : ι) (id : String) (now : DateTime) (s : AllocationStore ι) :
    AllocationCall E → Option (AllocationStore ι × AllocationCall E)
  | .start =>
      match request i with
      | .reserve a =>
          match authorizeReservation s.profiles a with
          | .error error => some (s, .failed error)
          | .ok x => some (s, .authorized x)
      | .legacy scope format size =>
          match s.statuses.getOrCreate K (scope, format) size id now with
          | (.error error, statuses) => some ({ s with statuses := statuses }, .refused error)
          | (.ok _, statuses) =>
              some ({ s with statuses := statuses }, .incrementing (scope, format) size)
  | .authorized x =>
      match s.statuses.getOrCreate K x.key x.size id now with
      | (.error error, statuses) =>
          some ({ s with statuses := statuses }, .failed (.ofStatus K error))
      | (.ok _, statuses) => some ({ s with statuses := statuses }, .listed x)
  | .listed x => some (s, .floored x (s.statuses.nextIndices x.key))
  | .floored x floor => some (reserveStep backend i s x floor)
  | .reserved x index =>
      some ({ s with statuses := s.statuses.advanceAllocationFloor x.key (index + 1) },
        .done x ⟨x.profile.organizationId, index,
          statusListUrl publicBaseUrl x.profile x.format "revocation"⟩)
  | .incrementing key size =>
      match s.statuses.allocateIndexScript key size with
      | (none, statuses) => some ({ s with statuses := statuses }, .refused (.full key.1))
      | (some index, statuses) =>
          some ({ s with statuses := statuses }, .allocated key index)
  | .done .. | .allocated .. | .refused _ | .failed _ => none

/-- What a call reports when its next step fails. -/
def AllocationCall.afterFailure (request : AllocationRequest) (message : String) :
    AllocationCall E → Option (AllocationCall E)
  | .start =>
      match request with
      | .reserve _ => some (.failed (.ofRepository (.operation message)))
      | .legacy .. => some (.refused (.repository message))
  | .authorized _ | .listed _ | .reserved .. =>
      some (.failed (.ofStatus K (.repository message)))
  | .floored .. => some (.failed (statusAllocationError (.operation message)))
  | .incrementing .. => some (.refused (.repository message))
  | .done .. | .allocated .. | .refused _ | .failed _ => none

def allocationStep (i : ι) (e : AllocationEvent) (s : AllocationStore ι)
    (call : AllocationCall E) : Option (AllocationStore ι × AllocationCall E) :=
  match e with
  | .exec id now => allocationExec K backend publicBaseUrl request i id now s call
  | .lose id now message => do
      let next ← allocationExec K backend publicBaseUrl request i id now s call
      let call ← call.afterFailure K (request i) message
      some (next.1, call)
  | .fail message => (call.afterFailure K (request i) message).map fun call => (s, call)
  | .saveProfile p => some ({ s with profiles := s.profiles.save p }, call)
  | .deleteProfile id => some ({ s with profiles := s.profiles.delete id }, call)
  | .setStatus key size index status id now =>
      some ({ s with statuses := s.statuses.setStatus K key size index status id now }, call)

def allocationMachine :
    Machine (AllocationStore ι) ι AllocationEvent (AllocationCall E) :=
  ⟨allocationStep K backend publicBaseUrl request⟩

end Machine

/-- No index has been reserved and no call has begun, whatever Redis holds. -/
def allocationInit {ι E : Type} (profiles : ProfileTable) (statuses : StatusStore) :
    Config (AllocationStore ι) ι (AllocationCall E) :=
  ⟨⟨profiles, .empty, statuses, []⟩, fun _ => .start⟩

/-! ## What the writers keep -/

/-- Every status list is still there, with its size. -/
def ListsKept (s s' : StatusStore) : Prop :=
  ∀ key list, s.lists key = some list → ∃ list', s'.lists key = some list' ∧ list'.size = list.size

/-- The list at `key` has the given size. -/
def Listed (s : StatusStore) (key : StatusKey) (size : Nat) : Prop :=
  ∃ list, s.lists key = some list ∧ list.size = size

theorem ListsKept.refl (s : StatusStore) : ListsKept s s := fun _ list h => ⟨list, h, rfl⟩

theorem ListsKept.trans {s₁ s₂ s₃ : StatusStore} (h : ListsKept s₁ s₂) (h' : ListsKept s₂ s₃) :
    ListsKept s₁ s₃ := by
  intro key list hl
  obtain ⟨list', hl', hs⟩ := h key list hl
  obtain ⟨list'', hl'', hs'⟩ := h' key list' hl'
  exact ⟨list'', hl'', hs'.trans hs⟩

theorem Listed.kept {s s' : StatusStore} {key : StatusKey} {size : Nat}
    (h : Listed s key size) (hk : ListsKept s s') : Listed s' key size := by
  obtain ⟨list, hl, rfl⟩ := h
  exact hk key list hl

theorem Listed.unique {s : StatusStore} {key : StatusKey} {m n : Nat} (h : Listed s key m)
    (h' : Listed s key n) : m = n := by
  obtain ⟨list, hl, rfl⟩ := h
  obtain ⟨list', hl', rfl⟩ := h'
  rw [Option.some.inj (hl.symm.trans hl')]

/-- Writing a list of the size that is there, or where none is, loses no list. -/
private theorem listsKept_update {s : StatusStore} {key : StatusKey} {record : StatusListRecord}
    (h : ∀ list, s.lists key = some list → record.size = list.size) :
    ListsKept s { s with lists := Function.update s.lists key (some record) } := by
  intro k list hl
  by_cases hk : k = key
  · subst hk
    exact ⟨record, Function.update_self .., h list hl⟩
  · exact ⟨list, by simpa [hk] using hl, rfl⟩

section Writers

variable {B T E : Type} {K : StatusKernel B T E} {s s' : StatusStore} {key : StatusKey}
  {size : Nat} {id : String} {now : DateTime}

private theorem empty_size {scope : String} {format : StatusListFormat}
    {record : StatusListRecord}
    (h : StatusListRecord.empty K id scope format size now = .ok record) :
    record.size = size := by
  cases format <;>
    simp only [StatusListRecord.empty, bind, Except.bind, pure, Except.pure] at h <;>
    split at h <;> cases h <;> rfl

theorem getOrCreate_listsKept {res : Except (StatusError E) StatusListRecord}
    (h : s.getOrCreate K key size id now = (res, s')) : ListsKept s s' := by
  unfold StatusStore.getOrCreate at h
  split at h
  · split at h <;> cases h <;> exact .refl s
  · rename_i hnone
    split at h
    · cases h
      exact .refl s
    · cases h
      exact listsKept_update fun list hl => by simp [hnone] at hl

theorem getOrCreate_listed {record : StatusListRecord}
    (h : s.getOrCreate K key size id now = (.ok record, s')) :
    s'.lists key = some record ∧ record.size = size := by
  unfold StatusStore.getOrCreate at h
  split at h
  · rename_i list hl
    split at h
    · cases h
    · cases h
      exact ⟨hl, by simp_all⟩
  · split at h
    · cases h
    · rename_i hempty
      cases h
      exact ⟨Function.update_self .., empty_size hempty⟩

theorem setStatus_listsKept {index : Nat} {status : UInt8} :
    ListsKept s (s.setStatus K key size index status id now) := by
  unfold StatusStore.setStatus
  split
  · exact getOrCreate_listsKept ‹_›
  · rename_i record s₁ hget
    have hkept := getOrCreate_listsKept hget
    split
    · exact hkept
    · rename_i hset
      obtain ⟨hl, -⟩ := getOrCreate_listed hget
      obtain ⟨data, -, rfl⟩ := StatusListRecord.set_eq_ok hset
      exact hkept.trans (listsKept_update fun list hl' => by
        rw [Option.some.inj (hl'.symm.trans hl)])

end Writers

/-! ## The invariant -/

section Invariant

variable {B T E ι : Type} {K : StatusKernel B T E} {backend : Backend} {publicBaseUrl : String}
  {request : ι → AllocationRequest}

/-- The key of the list that a reservation is for. -/
def StatusIndexReservation.key (r : StatusIndexReservation) : StatusKey :=
  (r.organizationId ++ ":" ++ r.profileId, r.format)

/-- The rows of the ledger are the reservations of its history, each in the bounds it
was made under and for a list of the size it was given. -/
structure LedgerLogged (s : AllocationStore ι) : Prop where
  rows : ∀ {c a}, s.ledger.allocations c = some a →
    ∃ e ∈ s.log, e.reservation.credentialId = c ∧ e.row = a
  logged : ∀ e ∈ s.log, s.ledger.allocations e.reservation.credentialId = some e.row ∧
    e.reservation.legacyFloor ≤ e.index ∧ e.index < e.reservation.size ∧
    Listed s.statuses e.reservation.key e.reservation.size
  nodup : (s.log.map fun e => e.reservation.credentialId).Nodup

/-- Rows and lists are only added. -/
structure StoreGrows (s s' : AllocationStore ι) : Prop where
  rows : ∀ {c a}, s.ledger.allocations c = some a → s'.ledger.allocations c = some a
  lists : ListsKept s.statuses s'.statuses

variable (request) in
/-- `x` is what the request of call `i` was authorized for. -/
def Authorized (i : ι) (x : ReserveContext) : Prop :=
  ∃ a, request i = .reserve a ∧ x.credentialId = a.credentialId ∧
    x.profile.organizationId = a.organizationId ∧ x.profile.id = a.profileId ∧
    x.format = statusFormat a.credentialFormat

variable (request) in
/-- What is known of call `i` in each of its states. -/
def CallAllocated (s : AllocationStore ι) (i : ι) : AllocationCall E → Prop
  | .authorized x => Authorized request i x
  | .listed x | .floored x _ => Authorized request i x ∧ Listed s.statuses x.key x.size
  | .reserved x index => Authorized request i x ∧ Listed s.statuses x.key x.size ∧
      s.ledger.allocations x.credentialId = some (x.row index)
  | .done x result => Authorized request i x ∧ Listed s.statuses x.key x.size ∧
      s.ledger.allocations x.credentialId = some (x.row result.index)
  | .incrementing key size => request i = .legacy key.1 key.2 size
  | .allocated key _ => ∃ size, request i = .legacy key.1 key.2 size
  | _ => True

theorem StoreGrows.refl (s : AllocationStore ι) : StoreGrows s s := ⟨id, .refl _⟩

theorem CallAllocated.grow {s s' : AllocationStore ι} {i : ι} {call : AllocationCall E}
    (h : CallAllocated request s i call) (hs : StoreGrows s s') :
    CallAllocated request s' i call := by
  cases call with
  | listed x | floored x => exact ⟨h.1, h.2.kept hs.lists⟩
  | reserved x | done x => exact ⟨h.1, h.2.1.kept hs.lists, hs.rows h.2.2⟩
  | _ => exact h

/-- A step that writes no row only has to keep the lists. -/
private theorem LedgerLogged.quiet {s s' : AllocationStore ι} (h : LedgerLogged s)
    (hrows : s'.ledger.allocations = s.ledger.allocations) (hlog : s'.log = s.log)
    (hlists : ListsKept s.statuses s'.statuses) : LedgerLogged s' := by
  refine ⟨fun ha => ?_, fun e he => ?_, hlog ▸ h.nodup⟩
  · rw [hlog]
    exact h.rows (hrows ▸ ha)
  · rw [hlog] at he
    obtain ⟨hr, hf, hi, hl⟩ := h.logged e he
    exact ⟨hrows ▸ hr, hf, hi, hl.kept hlists⟩

theorem authorizeReservation_eq_ok {profiles : ProfileTable} {a : ReserveRequest}
    {x : ReserveContext} (h : authorizeReservation profiles a = .ok x) :
    x.credentialId = a.credentialId ∧ x.profile.organizationId = a.organizationId ∧
      x.profile.id = a.profileId ∧ x.format = statusFormat a.credentialFormat := by
  unfold authorizeReservation at h
  split at h
  · cases h
  · split at h
    · cases h
    · rename_i p hp
      split at h
      · cases h
      · split at h
        · cases h
        · cases h
          exact ⟨rfl, by simp_all, profiles.keyed hp, rfl⟩

/-- **The durable reservation keeps the invariant**, and gives its call a row. -/
private theorem reserveStep_allocated {i : ι} {s s' : AllocationStore ι} {x : ReserveContext}
    {floor : Nat} {call : AllocationCall E} (hs : LedgerLogged s)
    (ha : Authorized request i x) (hl : Listed s.statuses x.key x.size)
    (h : reserveStep backend i s x floor = (s', call)) :
    LedgerLogged s' ∧ StoreGrows s s' ∧ CallAllocated request s' i call := by
  unfold reserveStep at h
  generalize hr : backend.reserveStatusIndex s.profiles.find s.ledger (x.reservation floor) = out
    at h
  obtain ⟨res, ledger⟩ := out
  have hmove := reserveStatusIndex_move hr
  cases hmove with
  | refused error ledger hrows hnext =>
      cases h
      exact ⟨hs.quiet hrows rfl (.refl _), ⟨fun ha => by rw [hrows, ha], .refl _⟩, trivial⟩
  | existing a hrow hscope =>
      have hrow' : s.ledger.allocations x.credentialId = some a := hrow
      simp only [hrow', Option.isNone_some, Bool.false_eq_true, if_false, Prod.mk.injEq] at h
      obtain ⟨rfl, rfl⟩ := h
      refine ⟨hs, .refl _, ha, hl, ?_⟩
      rw [hrow', Option.some.injEq]
      obtain ⟨o, p, f, n⟩ := a
      simp only [StatusIndexAllocation.scope, StatusIndexReservation.scope,
        ReserveContext.reservation, AllocationScope.mk.injEq] at hscope
      simp [ReserveContext.row, hscope]
  | fresh hnone hsize =>
      have hnone' : s.ledger.allocations x.credentialId = none := hnone
      have hnew := (s.ledger.raise (x.reservation floor).scope floor).allocate_allocations_self
        (x.reservation floor).scope hnone
      rw [AllocationLedger.raise_nextIndex_self] at hnew
      simp only [hnone', Option.isNone_none, if_true, Prod.mk.injEq] at h
      obtain ⟨rfl, rfl⟩ := h
      have hmono := fun c a => (ReserveMove.fresh hnone hsize).allocations_mono (c := c) (a := a)
      refine ⟨⟨fun {c a} hca => ?_, fun e he => ?_, ?_⟩, ⟨hmono _ _, .refl _⟩, ha, hl, hnew⟩
      · by_cases hc : c = x.credentialId
        · subst hc
          refine ⟨_, List.mem_append_right _ (List.mem_singleton_self _), rfl, ?_⟩
          exact Option.some.inj (hnew.symm.trans hca)
        · have hold := (AllocationLedger.allocate_allocations_of_ne
            (s.ledger.raise (x.reservation floor).scope floor) _ hnone hc).symm.trans hca
          obtain ⟨e, he, h1, h2⟩ := hs.rows hold
          exact ⟨e, List.mem_append_left _ he, h1, h2⟩
      · rcases List.mem_append.mp he with he | he
        · obtain ⟨hr, hf, hi, hl⟩ := hs.logged e he
          exact ⟨hmono _ _ hr, hf, hi, hl⟩
        · obtain rfl := List.mem_singleton.mp he
          exact ⟨hnew, Nat.le_max_right _ _, hsize, hl⟩
      · simp only [List.map_append, List.map_cons, List.map_nil]
        rw [List.nodup_append]
        refine ⟨hs.nodup, by simp, ?_⟩
        rintro c hin _ hc rfl
        obtain ⟨e, hmem, hec⟩ := List.mem_map.mp hin
        have hrow := (hs.logged e hmem).1
        rw [hec, List.mem_singleton.mp hc] at hrow
        exact absurd (hrow.symm.trans hnone) (by simp)

private theorem allocationExec_allocated {i : ι} {id : String} {now : DateTime}
    {s s' : AllocationStore ι} {call call' : AllocationCall E} (hs : LedgerLogged s)
    (hc : CallAllocated request s i call)
    (h : allocationExec K backend publicBaseUrl request i id now s call = some (s', call')) :
    LedgerLogged s' ∧ StoreGrows s s' ∧ CallAllocated request s' i call' := by
  -- A step that writes no row only has to justify the call's new state.
  have quiet : ∀ (statuses : StatusStore) (call' : AllocationCall E),
      ListsKept s.statuses statuses →
      CallAllocated request { s with statuses := statuses } i call' →
      LedgerLogged { s with statuses := statuses } ∧
        StoreGrows s { s with statuses := statuses } ∧
        CallAllocated request { s with statuses := statuses } i call' :=
    fun _ _ hk hcall => ⟨hs.quiet rfl rfl hk, ⟨fun hrow => hrow, hk⟩, hcall⟩
  cases call with
  | start =>
      simp only [allocationExec] at h
      cases hreq : request i with
      | reserve a =>
          simp only [hreq] at h
          split at h
          · cases h
            exact quiet _ _ (.refl _) trivial
          · rename_i x hx
            cases h
            exact quiet _ _ (.refl _) ⟨a, hreq, authorizeReservation_eq_ok hx⟩
      | legacy scope format size =>
          simp only [hreq] at h
          split at h
          · cases h
            exact quiet _ _ (getOrCreate_listsKept ‹_›) trivial
          · cases h
            exact quiet _ _ (getOrCreate_listsKept ‹_›) hreq
  | authorized x =>
      simp only [allocationExec] at h
      split at h
      · cases h
        exact quiet _ _ (getOrCreate_listsKept ‹_›) trivial
      · rename_i hget
        cases h
        exact quiet _ _ (getOrCreate_listsKept hget) ⟨hc, _, getOrCreate_listed hget⟩
  | listed x =>
      cases h
      exact quiet _ _ (.refl _) hc
  | floored x floor => exact reserveStep_allocated hs hc.1 hc.2 (Option.some.inj h)
  | reserved x index =>
      cases h
      refine quiet _ _ ?_ ?_
      all_goals
        unfold StatusStore.advanceAllocationFloor
        split
      · exact .refl _
      · exact .refl _
      · exact hc
      · exact hc
  | incrementing key size =>
      simp only [allocationExec, StatusStore.allocateIndexScript] at h
      by_cases hsize : size ≤ s.statuses.nextIndices key
      · simp only [if_pos hsize] at h
        cases h
        exact quiet _ _ (.refl _) trivial
      · simp only [if_neg hsize] at h
        cases h
        exact quiet _ _ (.refl _) ⟨size, hc⟩
  | done | allocated | refused | failed => cases h

variable (request) in
structure Allocated (c : Config (AllocationStore ι) ι (AllocationCall E)) : Prop where
  ledger : LedgerLogged c.store
  calls : ∀ i, CallAllocated request c.store i (c.calls i)

private theorem afterFailure_allocated {s : AllocationStore ι} {i : ι} {message : String}
    {call call' : AllocationCall E} (h : call.afterFailure K (request i) message = some call') :
    CallAllocated request s i call' := by
  cases call with
  | start =>
      simp only [AllocationCall.afterFailure] at h
      split at h <;> cases h <;> trivial
  | authorized | listed | floored | reserved | incrementing => cases h; trivial
  | done | allocated | refused | failed => cases h

/-- What one step does to the invariant. -/
theorem allocationStep_allocated {i : ι} {e : AllocationEvent} {s s' : AllocationStore ι}
    {call call' : AllocationCall E} (hs : LedgerLogged s) (hc : CallAllocated request s i call)
    (h : allocationStep K backend publicBaseUrl request i e s call = some (s', call')) :
    LedgerLogged s' ∧ StoreGrows s s' ∧ CallAllocated request s' i call' := by
  cases e with
  | exec id now => exact allocationExec_allocated hs hc h
  | lose id now message =>
      simp only [allocationStep, Option.bind_eq_bind, Option.bind_eq_some_iff] at h
      obtain ⟨⟨s₁, call₁⟩, hexec, call₂, hfail, h⟩ := h
      cases h
      obtain ⟨h1, h2, -⟩ := allocationExec_allocated hs hc hexec
      exact ⟨h1, h2, afterFailure_allocated hfail⟩
  | fail message =>
      obtain ⟨call₁, hfail, h⟩ := Option.map_eq_some_iff.mp h
      cases h
      exact ⟨hs, .refl _, afterFailure_allocated hfail⟩
  | saveProfile p =>
      cases h
      exact ⟨hs.quiet rfl rfl (.refl _), ⟨fun hrow => hrow, .refl _⟩, hc.grow ⟨fun h => h, .refl _⟩⟩
  | deleteProfile profileId =>
      cases h
      exact ⟨hs.quiet rfl rfl (.refl _), ⟨fun hrow => hrow, .refl _⟩, hc.grow ⟨fun h => h, .refl _⟩⟩
  | setStatus key size index status id now =>
      cases h
      exact ⟨hs.quiet rfl rfl setStatus_listsKept, ⟨fun hrow => hrow, setStatus_listsKept⟩,
        hc.grow ⟨fun h => h, setStatus_listsKept⟩⟩

variable [DecidableEq ι] {c c' : Config (AllocationStore ι) ι (AllocationCall E)}

/-- **One step keeps the invariant.** -/
theorem Allocated.next {i : ι} {e : AllocationEvent} (hc : Allocated request c)
    (h : (allocationMachine K backend publicBaseUrl request).next c i e = some c') :
    Allocated request c' := by
  obtain ⟨s, call, hstep, rfl⟩ := Machine.next_eq_some.mp h
  obtain ⟨hledger, hgrow, hcall⟩ := allocationStep_allocated hc.ledger (hc.calls i) hstep
  refine ⟨hledger, fun j => ?_⟩
  by_cases hj : j = i
  · subst hj
    simpa using hcall
  · simpa [hj] using (hc.calls j).grow hgrow

theorem Allocated.run {t : List (ι × AllocationEvent)} (hc : Allocated request c)
    (h : (allocationMachine K backend publicBaseUrl request).run c t = some c') :
    Allocated request c' :=
  Machine.run_induct (fun _ _ _ _ => Allocated.next) hc h

omit [DecidableEq ι] in
theorem Allocated.init (profiles : ProfileTable) (statuses : StatusStore) :
    Allocated request (allocationInit (ι := ι) (E := E) profiles statuses) := by
  refine ⟨⟨fun ha => ?_, by simp [allocationInit], by simp [allocationInit]⟩, fun i => trivial⟩
  simp [allocationInit, AllocationLedger.empty] at ha

omit [DecidableEq ι] in
/-- The row of a successful reservation, in the terms of its request. -/
private theorem done_row (hc : Allocated request c) {i : ι} {a : ReserveRequest}
    {x : ReserveContext} {res : StatusOperationResult} (hreq : request i = .reserve a)
    (hd : c.calls i = .done x res) :
    Listed c.store.statuses x.key x.size ∧
      x.key = (a.organizationId ++ ":" ++ a.profileId, statusFormat a.credentialFormat) ∧
      ∃ row, c.store.ledger.allocations a.credentialId = some row ∧ row.scope = a.scope ∧
        row.index = res.index := by
  have hcall := hc.calls i
  rw [hd] at hcall
  obtain ⟨⟨a', hreq', h1, h2, h3, h4⟩, hl, hrow⟩ := hcall
  obtain rfl : a' = a := by simpa using hreq'.symm.trans hreq
  refine ⟨hl, by simp [ReserveContext.key, statusScope, h2, h3, h4], x.row res.index,
    h1 ▸ hrow, ?_, rfl⟩
  simp [ReserveContext.row, StatusIndexAllocation.scope, ReserveRequest.scope, h2, h3, h4]

/-- **Status indexes are unique, stable and in bounds.**  Along any schedule of any
calls, with any steps failing: two credentials never get one index of a list; a
credential always gets the same index, of one list; and an index is below the size
its reservation was made with, and not below the floor read by the one reservation
that wrote its row. -/
theorem reserveIndex_injective_stable {profiles : ProfileTable} {statuses : StatusStore}
    {t : List (ι × AllocationEvent)}
    (h : (allocationMachine K backend publicBaseUrl request).run
      (allocationInit profiles statuses) t = some c) :
    (∀ i j a b x y ri rj, request i = .reserve a → request j = .reserve b →
      c.calls i = .done x ri → c.calls j = .done y rj →
      a.credentialId ≠ b.credentialId → a.scope = b.scope → ri.index ≠ rj.index) ∧
    (∀ i j a b x y ri rj, request i = .reserve a → request j = .reserve b →
      c.calls i = .done x ri → c.calls j = .done y rj →
      a.credentialId = b.credentialId → a.scope = b.scope ∧ ri.index = rj.index) ∧
    (∀ i a x r, request i = .reserve a → c.calls i = .done x r →
      r.index < x.profile.statusListSize ∧
      ∃ e ∈ c.store.log, e.reservation.credentialId = a.credentialId ∧
        e.reservation.scope = a.scope ∧ e.index = r.index ∧
        e.reservation.legacyFloor ≤ r.index ∧
        ∀ e' ∈ c.store.log, e'.reservation.credentialId = a.credentialId → e' = e) := by
  have hc : Allocated request c := (Allocated.init profiles statuses).run h
  refine ⟨?_, ?_, ?_⟩
  · intro i j a b x y ri rj hi hj hdi hdj hne hscope hidx
    obtain ⟨-, -, row, hrow, hs, hx⟩ := done_row hc hi hdi
    obtain ⟨-, -, row', hrow', hs', hx'⟩ := done_row hc hj hdj
    refine hne (c.store.ledger.injective hrow hrow' ?_ ?_)
    · rw [hs, hs', hscope]
    · rw [hx, hx', hidx]
  · intro i j a b x y ri rj hi hj hdi hdj heq
    obtain ⟨-, -, row, hrow, hs, hx⟩ := done_row hc hi hdi
    obtain ⟨-, -, row', hrow', hs', hx'⟩ := done_row hc hj hdj
    obtain rfl : row = row' := Option.some.inj (hrow.symm.trans (heq ▸ hrow'))
    exact ⟨hs.symm.trans hs', hx.symm.trans hx'⟩
  · intro i a x r hi hd
    obtain ⟨hl, hkey, row, hrow, hs, hx⟩ := done_row hc hi hd
    obtain ⟨e, he, hcred, rfl⟩ := hc.ledger.rows hrow
    obtain ⟨-, hfloor, hsize, hlist⟩ := hc.ledger.logged e he
    have hscope : e.reservation.scope = a.scope := hs
    have hkey' : e.reservation.key = x.key := by
      simp only [StatusIndexReservation.scope, ReserveRequest.scope,
        AllocationScope.mk.injEq] at hscope
      rw [hkey, StatusIndexReservation.key, hscope.1, hscope.2.1, hscope.2.2]
    have hx' : e.index = r.index := hx
    -- The list of the scope has kept the size under which the row was written.
    have hsame : e.reservation.size = x.size := (hkey' ▸ hlist).unique hl
    refine ⟨hx' ▸ Nat.lt_of_lt_of_eq hsize hsame, e, he, hcred, hscope, hx', hx' ▸ hfloor, ?_⟩
    intro e' he' hcred'
    exact List.inj_on_of_nodup_map hc.ledger.nodup he' he (hcred'.trans hcred.symm)

/-- Calls `0` and `1` are a request and its retry, call `2` is for another credential. -/
def retryRequest : Fin 3 → AllocationRequest
  | 0 | 1 => .reserve ⟨"profile-a", "org-a", "mdoc", "credential-a"⟩
  | 2 => .reserve ⟨"profile-a", "org-a", "mdoc", "credential-b"⟩

def retryProfile : RevocationProfile := ⟨"profile-a", "org-a", true, 4, none⟩

/-- The floor write of call `0` fails after call `2` has read the floor. -/
def retrySchedule : List (Fin 3 × AllocationEvent) :=
  [(0, .saveProfile retryProfile), (0, .exec "" 0), (2, .exec "" 0), (0, .exec "list" 1),
   (0, .exec "" 1), (2, .exec "" 1), (2, .exec "" 1), (0, .exec "" 2), (0, .fail "timed out"),
   (1, .exec "" 3), (1, .exec "" 3), (1, .exec "" 3), (2, .exec "" 3), (1, .exec "" 4),
   (1, .exec "" 4), (2, .exec "" 4)]

theorem reserveIndex_injective_stable_retry :
    ∃ c x y rx ry, (allocationMachine byteKernel .postgres "https://status.example.test"
        retryRequest).run (allocationInit ⟨fun _ => none, nofun⟩ ⟨fun _ => none, fun _ => 2⟩)
        retrySchedule = some c ∧
      c.calls 1 = .done x rx ∧ c.calls 2 = .done y ry ∧ rx.index ≠ ry.index := by
  have hrun : ((allocationMachine byteKernel .postgres "https://status.example.test"
      retryRequest).run (allocationInit ⟨fun _ => none, nofun⟩ ⟨fun _ => none, fun _ => 2⟩)
      retrySchedule).map (fun c => (c.calls 1, c.calls 2)) =
      some (.done ⟨"credential-a", retryProfile, .tokenStatusList⟩ ⟨"org-a", 2,
          "https://status.example.test/v1/organizations/org-a/revocation-profiles/profile-a/" ++
          "status-lists/token-status-list/revocation"⟩,
        .done ⟨"credential-b", retryProfile, .tokenStatusList⟩ ⟨"org-a", 3,
          "https://status.example.test/v1/organizations/org-a/revocation-profiles/profile-a/" ++
          "status-lists/token-status-list/revocation"⟩) := by
    decide +kernel
  obtain ⟨c, hc, hcalls⟩ := Option.map_eq_some_iff.mp hrun
  obtain ⟨h1, h2⟩ := Prod.mk.inj hcalls
  exact ⟨c, _, _, _, _, hc, h1, h2,
    (reserveIndex_injective_stable hc).1 1 2 _ _ _ _ _ _ rfl rfl h1 h2 (by decide) rfl⟩

end Invariant

end Marty.Revocation
