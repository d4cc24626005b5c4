import Mathlib.Logic.Function.Basic
import Marty.Revocation.StatusList

/-!
# The durable allocation ledger

Every status index that a credential owns is a row of the ledger, and every status
list has a counter above the indexes it has given out.  A ledger carries both facts,
so neither backend can build one that gives an index out twice.

The two backends reserve an index by the same rule.  They differ in what they report
when the profile is gone, and in that the in-memory one keeps the raised counter of a
list it found full where PostgreSQL rolls it back; `ReserveMove` is what they share.

## Main definitions

* `AllocationLedger` — rows and counters, with their invariants.
* `Backend.reserveStatusIndex` — one reservation, as one transaction.
* `reserveStatusIndex_move` — everything a reservation can do.
-/

namespace Marty.Revocation

/-- What the status-index operations read of a profile. -/
structure RevocationProfile where
  id : String
  organizationId : String
  autoAllocateIndices : Bool
  statusListSize : Nat
  statusListBaseUrl : Option String
  deriving DecidableEq, Repr

inductive RepositoryError
  | operation (message : String)
  | allocationScopeConflict (credentialId : String)
  | allocationFull (scope : String)
  deriving DecidableEq, Repr

def RepositoryError.display : RepositoryError → String
  | .operation message => "repository operation failed: " ++ message
  | .allocationScopeConflict credentialId =>
      "credential " ++ credentialId ++ " already owns a status index in another scope"
  | .allocationFull scope => "status list is full for scope " ++ scope

/-- The status list of a profile in one format. -/
structure AllocationScope where
  organizationId : String
  profileId : String
  format : StatusListFormat
  deriving DecidableEq, Repr

structure StatusIndexReservation where
  credentialId : String
  organizationId : String
  profileId : String
  format : StatusListFormat
  size : Nat
  legacyFloor : Nat
  deriving DecidableEq, Repr

def StatusIndexReservation.scope (r : StatusIndexReservation) : AllocationScope :=
  ⟨r.organizationId, r.profileId, r.format⟩

structure StatusIndexAllocation where
  organizationId : String
  profileId : String
  format : StatusListFormat
  index : Nat
  deriving DecidableEq, Repr

def StatusIndexAllocation.scope (a : StatusIndexAllocation) : AllocationScope :=
  ⟨a.organizationId, a.profileId, a.format⟩

/-- The rows of the ledger by credential, and the next index of each list. -/
structure AllocationLedger where
  allocations : String → Option StatusIndexAllocation
  nextIndex : AllocationScope → Nat
  /-- The counter of a list is above every index of the list. -/
  below_next : ∀ {c a}, allocations c = some a → a.index < nextIndex a.scope
  /-- No two credentials own one index of a list. -/
  injective : ∀ {c c' a a'}, allocations c = some a → allocations c' = some a' →
    a.scope = a'.scope → a.index = a'.index → c = c'

namespace AllocationLedger

def empty : AllocationLedger where
  allocations _ := none
  nextIndex _ := 0
  below_next := nofun
  injective := nofun

variable (l : AllocationLedger) (scope : AllocationScope)

/-- Raise a counter to a floor. -/
def raise (floor : Nat) : AllocationLedger where
  allocations := l.allocations
  nextIndex := Function.update l.nextIndex scope (max (l.nextIndex scope) floor)
  below_next := by
    intro c a h
    have := l.below_next h
    by_cases hs : a.scope = scope
    · subst hs
      simp only [Function.update_self]
      omega
    · simpa [hs] using this
  injective := l.injective

/-- Give the next index of a list to a credential that owns none. -/
def allocate (credentialId : String) (h : l.allocations credentialId = none) :
    AllocationLedger where
  allocations := Function.update l.allocations credentialId
    (some ⟨scope.organizationId, scope.profileId, scope.format, l.nextIndex scope⟩)
  nextIndex := Function.update l.nextIndex scope (l.nextIndex scope + 1)
  below_next := by
    intro c a ha
    by_cases hc : c = credentialId
    · subst hc
      simp only [Function.update_self, Option.some.injEq] at ha
      subst ha
      simp [StatusIndexAllocation.scope]
    · rw [Function.update_of_ne hc] at ha
      have := l.below_next ha
      by_cases hs : a.scope = scope
      · subst hs
        simp only [Function.update_self]
        omega
      · simpa [hs] using this
  injective := by
    -- An earlier row of the list is below the counter, so it is not the new one.
    have key : ∀ {c a}, l.allocations c = some a → a.scope = scope →
        a.index ≠ l.nextIndex scope := by
      rintro c a ha rfl
      exact Nat.ne_of_lt (l.below_next ha)
    intro c c' a a' ha ha' hs hi
    by_cases hc : c = credentialId <;> by_cases hc' : c' = credentialId
    · rw [hc, hc']
    · rw [hc, Function.update_self, Option.some.injEq] at ha
      rw [Function.update_of_ne hc'] at ha'
      subst ha
      exact absurd hi.symm (key ha' hs.symm)
    · rw [Function.update_of_ne hc] at ha
      rw [hc', Function.update_self, Option.some.injEq] at ha'
      subst ha'
      exact absurd hi (key ha hs)
    · rw [Function.update_of_ne hc] at ha
      rw [Function.update_of_ne hc'] at ha'
      exact l.injective ha ha' hs hi

@[simp] theorem raise_allocations (floor : Nat) :
    (l.raise scope floor).allocations = l.allocations := rfl

@[simp] theorem raise_nextIndex_self (floor : Nat) :
    (l.raise scope floor).nextIndex scope = max (l.nextIndex scope) floor :=
  Function.update_self ..

theorem le_raise_nextIndex (floor : Nat) (s : AllocationScope) :
    l.nextIndex s ≤ (l.raise scope floor).nextIndex s := by
  by_cases hs : s = scope
  · subst hs
    rw [raise_nextIndex_self]
    exact Nat.le_max_left _ _
  · simp [raise, hs]

@[simp] theorem allocate_allocations_self {credentialId : String}
    (h : l.allocations credentialId = none) :
    (l.allocate scope credentialId h).allocations credentialId =
      some ⟨scope.organizationId, scope.profileId, scope.format, l.nextIndex scope⟩ :=
  Function.update_self ..

theorem allocate_allocations_of_ne {credentialId c : String}
    (h : l.allocations credentialId = none) (hc : c ≠ credentialId) :
    (l.allocate scope credentialId h).allocations c = l.allocations c :=
  Function.update_of_ne hc ..

theorem le_allocate_nextIndex {credentialId : String} (h : l.allocations credentialId = none)
    (s : AllocationScope) :
    l.nextIndex s ≤ (l.allocate scope credentialId h).nextIndex s := by
  by_cases hs : s = scope
  · subst hs
    simp [allocate]
  · simp [allocate, hs]

end AllocationLedger

/-! ## The two backends -/

section Reserve

variable (profiles : String → Option RevocationProfile) (l : AllocationLedger)
  (r : StatusIndexReservation)

/-- The answer for a credential that owns an index already. -/
def existingIndex (existing : StatusIndexAllocation) : Except RepositoryError Nat :=
  if existing.organizationId ≠ r.organizationId ∨ existing.profileId ≠ r.profileId ∨
      existing.format ≠ r.format then
    .error (.allocationScopeConflict r.credentialId)
  else .ok existing.index

def scopeName : String := r.organizationId ++ ":" ++ r.profileId

/-- `InMemoryProfileRepository::reserve_status_index`. -/
def reserveInMemory : Except RepositoryError Nat × AllocationLedger :=
  match h : l.allocations r.credentialId with
  | some existing => (existingIndex r existing, l)
  | none =>
      match profiles r.profileId with
      | none => (.error (.operation "revocation profile disappeared"), l)
      | some profile =>
          if profile.organizationId ≠ r.organizationId then
            (.error (.allocationScopeConflict r.credentialId), l)
          else
            let raised := l.raise r.scope r.legacyFloor
            if r.size ≤ raised.nextIndex r.scope then
              (.error (.allocationFull (scopeName r)), raised)
            else (.ok (raised.nextIndex r.scope), raised.allocate r.scope r.credentialId h)

/-- `PgProfileRepository::reserve_status_index`: a transaction, so an error leaves the
ledger as it was. -/
def reserveInPostgres : Except RepositoryError Nat × AllocationLedger :=
  if 2 ^ 63 ≤ r.size ∨ 2 ^ 63 ≤ r.legacyFloor then
    (.error (.operation "out of range integral type conversion attempted"), l)
  else
    match h : l.allocations r.credentialId with
    | some existing => (existingIndex r existing, l)
    | none =>
        if (profiles r.profileId).any (fun p => p.organizationId = r.organizationId) then
          let raised := l.raise r.scope r.legacyFloor
          if r.size ≤ raised.nextIndex r.scope then
            (.error (.allocationFull (scopeName r)), l)
          else (.ok (raised.nextIndex r.scope), raised.allocate r.scope r.credentialId h)
        else (.error (.allocationScopeConflict r.credentialId), l)

inductive Backend
  | memory
  | postgres
  deriving DecidableEq, Repr

def Backend.reserveStatusIndex (b : Backend) : Except RepositoryError Nat × AllocationLedger :=
  match b with
  | .memory => reserveInMemory profiles l r
  | .postgres => reserveInPostgres profiles l r

/-- Everything that a reservation can do. -/
inductive ReserveMove : Except RepositoryError Nat → AllocationLedger → Prop
  /-- An error: no row is written, though a counter may have been raised. -/
  | refused (error : RepositoryError) (l' : AllocationLedger)
      (hrows : l'.allocations = l.allocations) (hnext : ∀ s, l.nextIndex s ≤ l'.nextIndex s) :
      ReserveMove (.error error) l'
  /-- The index that the credential owns already. -/
  | existing (a : StatusIndexAllocation) (ha : l.allocations r.credentialId = some a)
      (hs : a.scope = r.scope) : ReserveMove (.ok a.index) l
  /-- The next index of the list, not below the floor. -/
  | fresh (h : l.allocations r.credentialId = none)
      (hsize : max (l.nextIndex r.scope) r.legacyFloor < r.size) :
      ReserveMove (.ok (max (l.nextIndex r.scope) r.legacyFloor))
        ((l.raise r.scope r.legacyFloor).allocate r.scope r.credentialId h)

variable {profiles l r} {res : Except RepositoryError Nat} {l' : AllocationLedger}

theorem ReserveMove.refl (error : RepositoryError) : ReserveMove l r (.error error) l :=
  .refused error l rfl fun _ => Nat.le_refl _

private theorem existingIndex_move {a : StatusIndexAllocation}
    (ha : l.allocations r.credentialId = some a) : ReserveMove l r (existingIndex r a) l := by
  unfold existingIndex
  split
  · exact .refl _
  · rename_i h
    push Not at h
    refine .existing a ha ?_
    simp [StatusIndexAllocation.scope, StatusIndexReservation.scope, h.1, h.2.1, h.2.2]

private theorem fresh_move (h : l.allocations r.credentialId = none)
    (hsize : ¬ r.size ≤ (l.raise r.scope r.legacyFloor).nextIndex r.scope) :
    ReserveMove l r (.ok ((l.raise r.scope r.legacyFloor).nextIndex r.scope))
      ((l.raise r.scope r.legacyFloor).allocate r.scope r.credentialId h) := by
  rw [AllocationLedger.raise_nextIndex_self] at hsize ⊢
  exact .fresh h (by omega)

/-- **Both backends reserve by one rule.** -/
theorem reserveStatusIndex_move {b : Backend}
    (h : b.reserveStatusIndex profiles l r = (res, l')) : ReserveMove l r res l' := by
  cases b with
  | memory =>
      simp only [Backend.reserveStatusIndex, reserveInMemory] at h
      split at h
      · cases h
        exact existingIndex_move ‹_›
      · split at h
        · cases h
          exact .refl _
        · split at h
          · cases h
            exact .refl _
          · split at h
            · cases h
              exact .refused _ _ rfl (l.le_raise_nextIndex _ _)
            · cases h
              exact fresh_move _ ‹_›
  | postgres =>
      simp only [Backend.reserveStatusIndex, reserveInPostgres] at h
      split at h
      · cases h
        exact .refl _
      · split at h
        · cases h
          exact existingIndex_move ‹_›
        · split at h
          · split at h
            · cases h
              exact .refl _
            · cases h
              exact fresh_move _ ‹_›
          · cases h
            exact .refl _

/-- A reservation keeps every row. -/
theorem ReserveMove.allocations_mono (h : ReserveMove l r res l') {c : String}
    {a : StatusIndexAllocation} (ha : l.allocations c = some a) : l'.allocations c = some a := by
  cases h with
  | refused _ _ hrows => rw [hrows, ha]
  | existing => exact ha
  | fresh hnone =>
      have hc : c ≠ r.credentialId := by
        rintro rfl
        simp [hnone] at ha
      exact ((l.raise _ _).allocate_allocations_of_ne _ hnone hc).trans ha

end Reserve

end Marty.Revocation
