import Marty.SigningKeys.RegistryRevision

/-!
# What an ETag stands for

A revision is bound to one payload, once.  The sidecar holds the last revision that was
bound; a reader takes a revision for that of the payload only when the digest says so.  So
an ETag names one payload, and a writer that finds the sidecar of its snapshot again writes
over nothing that a fenced writer has written since.

## Main definitions

* `Admitted`, `StoreChange` — what a step does to the store.
* `RegistryInv` — what holds of the store and of the snapshots that have been taken.
-/

namespace Marty.SigningKeys.Registry

open Lib Lib.Checked

/-! ## Sidecars -/

theorem splitOnceChars_append {cs : List Char} {c : Char} (h : c ∉ cs) (ds : List Char) :
    Text.splitOnceChars [c] (cs ++ c :: ds) = some (cs, ds) := by
  induction cs with
  | nil => simp [Text.splitOnceChars]
  | cons b cs ih =>
      rw [List.mem_cons, not_or] at h
      have hne : (c == b) = false := beq_eq_false_iff_ne.mpr h.1
      simp [Text.splitOnceChars, List.isPrefixOf, hne, ih h.2]

variable (sha256 : String → String)

theorem splitOnce_revisionSidecar {revision : String} (h : Uuid.isCanonical revision)
    (payload : Option String) :
    Text.splitOnce (revisionSidecar sha256 revision payload) ":" =
      some (revision, registryPayloadDigest sha256 payload) := by
  have hlist : (revisionSidecar sha256 revision payload).toList =
      revision.toList ++ ':' :: (registryPayloadDigest sha256 payload).toList := by
    simp [revisionSidecar]
  have hsep : ":".toList = [':'] := rfl
  rw [Text.splitOnce, hlist, hsep, splitOnceChars_append (Uuid.colon_not_mem h),
    Option.map_some, String.ofList_toList, String.ofList_toList]

variable {sha256}

theorem registryPayloadDigest_injective (hsha : Function.Injective sha256) :
    Function.Injective (registryPayloadDigest sha256) := by
  intro p q h
  cases p with
  | none =>
      cases q with
      | none => rfl
      | some w =>
          have heq := congrArg String.toList (hsha h)
          simp at heq
  | some v =>
      cases q with
      | none =>
          have heq := congrArg String.toList (hsha h)
          simp at heq
      | some w =>
          have heq := congrArg String.toList (hsha h)
          simpa [String.toList_inj] using heq

/-- A sidecar that was written for one payload is taken for that of no other. -/
theorem checkedRevision_revisionSidecar (hsha : Function.Injective sha256) {revision : String}
    (h : Uuid.isCanonical revision) {bound payload : Option String} {found : String}
    (hchecked : checkedRevision sha256 (revisionSidecar sha256 revision bound) payload
      = .ok (some found)) : found = revision ∧ payload = bound := by
  simp only [checkedRevision, splitOnce_revisionSidecar sha256 h, bind_eq_ok, okOr_eq_ok,
    Option.some.injEq, exists_unit, pure, Except.pure, Except.ok.injEq] at hchecked
  obtain ⟨_, rfl, -, hfound⟩ := hchecked
  rw [Option.ite_none_right_eq_some] at hfound
  exact ⟨(Option.some.inj hfound.2).symm, (registryPayloadDigest_injective hsha hfound.1).symm⟩

theorem etagOf_injective : Function.Injective etagOf := by
  intro r s h
  have heq := congrArg String.toList h
  simpa [etagOf, String.toList_inj] using heq

/-! ## One step -/

/-- What an act presupposes of the store. -/
def Admitted (sha256 : String → String) (organizationId : String) (store : RegistryStore) :
    RegistryAct → Prop
  | .snapshot snapshot => store.redis.payload = snapshot.raw ∧
      store.redis.sidecar = some snapshot.sidecar ∧
      ∃ revision, checkedRevision sha256 snapshot.sidecar snapshot.raw = .ok (some revision) ∧
        snapshot.etag = etagOf revision
  | .saved expected lease _ revision => store.Draws revision ∧
      lease.key = rotationLeaseKey organizationId ∧
      store.redis.leases lease.key = some lease.owner ∧
      (∀ fence ∈ store.redis.leases globalRotationFenceKey, fence = lease.owner) ∧
      ∀ snapshot ∈ expected,
        store.redis.payload = snapshot.raw ∧ store.redis.sidecar = some snapshot.sidecar
  | .refreshed payload revision => store.Draws revision ∧ store.redis.payload = payload
  | .replaced _ => True

/-- The payload that an act leaves behind. -/
def RegistryAct.payload (before : Option String) : RegistryAct → Option String
  | saved _ _ payload _ => some payload
  | replaced payload => payload
  | _ => before

/-- The sidecar that an act leaves behind. -/
def RegistryAct.sidecar (sha256 : String → String) (before : Option String)
    (act : RegistryAct) : Option String :=
  match act.binding with
  | some (revision, payload) => some (revisionSidecar sha256 revision payload)
  | none => before

/-- Nothing happens to the payload and its sidecar, or one act does. -/
inductive StoreChange (sha256 : String → String) (organizationId : String)
    (store store' : RegistryStore) : Prop
  | unchanged (payload : store'.redis.payload = store.redis.payload)
      (sidecar : store'.redis.sidecar = store.redis.sidecar)
      (history : store'.history = store.history)
  | act {act : RegistryAct} (admitted : Admitted sha256 organizationId store act)
      (payload : store'.redis.payload = act.payload store.redis.payload)
      (sidecar : store'.redis.sidecar = act.sidecar sha256 store.redis.sidecar)
      (history : store'.history = store.history ++ [act])
      (drawn : ∀ p ∈ act.binding, p.1 ∈ store'.drawn)

variable {organizationId : String}

/-- The script finds the lease held, no fence of another owner, and what it expects. -/
def Accepts (redis : RegistryRedis) (lease : RotationLease)
    (expected : Option RegistryRevisionSnapshot) : Prop :=
  redis.leases lease.key = some lease.owner ∧
    (∀ fence ∈ redis.leases globalRotationFenceKey, fence = lease.owner) ∧
    ∀ snapshot ∈ expected, redis.payload = snapshot.raw ∧ redis.sidecar = some snapshot.sidecar

/-- **All that the script of a save does**: it stores the payload, or nothing changes. -/
theorem saveScript_cases (redis : RegistryRedis) (lease : RotationLease)
    (payload sidecar : String) (expected : Option RegistryRevisionSnapshot) :
    let answer := saveScript redis lease payload sidecar
      (expected.map fun snapshot => (snapshot.raw, snapshot.sidecar))
    (Accepts redis lease expected ∧
      answer = ({ redis with payload := some payload, sidecar := some sidecar }, 1)) ∨
    (¬ Accepts redis lease expected ∧ answer.1 = redis ∧ answer.2 ≠ 1) := by
  dsimp only
  unfold saveScript
  by_cases hlease : redis.leases lease.key = some lease.owner
  · rw [if_neg (not_not.mpr hlease)]
    by_cases hfence : ∀ fence ∈ redis.leases globalRotationFenceKey, fence = lease.owner
    · have hopen : ¬ ∃ fence ∈ redis.leases globalRotationFenceKey, fence ≠ lease.owner := by
        simpa using hfence
      rw [if_neg hopen]
      cases expected with
      | none => exact .inl ⟨⟨hlease, hfence, by simp⟩, by simp⟩
      | some snapshot =>
          by_cases hpayload : redis.payload = snapshot.raw
          · by_cases hsidecar : redis.sidecar = some snapshot.sidecar
            · left
              exact ⟨⟨hlease, hfence, by simp [hpayload, hsidecar]⟩, by simp [hpayload, hsidecar]⟩
            · right
              refine ⟨fun h : Accepts .. => hsidecar (h.2.2 snapshot rfl).2, ?_⟩
              simp [hpayload, hsidecar]
          · right
            refine ⟨fun h : Accepts .. => hpayload (h.2.2 snapshot rfl).1, ?_⟩
            simp [hpayload]
    · right
      have hclosed : ∃ fence ∈ redis.leases globalRotationFenceKey, fence ≠ lease.owner := by
        simpa using hfence
      rw [if_pos hclosed]
      exact ⟨fun h : Accepts .. => hfence h.2.1, rfl, Int.zero_ne_one⟩
  · right
    rw [if_pos hlease]
    exact ⟨fun h : Accepts .. => hlease h.1, rfl, Int.zero_ne_one⟩

/-- What a script that is not refused does has been done, whatever the caller is told. -/
theorem delivered_fst {α : Type} (redis : RegistryRedis) (answer : RegistryRedis × Int)
    (reply : Int → Except RegistryError α) (delivery : Delivery) :
    (delivered redis answer reply delivery).1 =
      if delivery = .refused then redis else answer.1 := by
  cases delivery <;> rfl

theorem delivered_snd_eq_ok {α : Type} {redis : RegistryRedis} {answer : RegistryRedis × Int}
    {reply : Int → Except RegistryError α} {delivery : Delivery} {a : α}
    (h : (delivered redis answer reply delivery).2 = .ok a) :
    delivery = .answered ∧ reply answer.2 = .ok a := by
  cases delivery with
  | refused => cases h
  | lost => cases h
  | answered => exact ⟨rfl, h⟩

/-- **All that a save does.** -/
theorem saveWith_fst (redis : RegistryRedis) (lease : RotationLease)
    (prepared : PreparedRegistry) (revision : String)
    (expected : Option RegistryRevisionSnapshot) (delivery : Delivery) :
    (saveWithRotationLeaseAndRevision sha256 redis organizationId lease (.ok prepared) revision
      expected delivery).1 =
      if Saves redis organizationId lease expected delivery then
        { redis with
          payload := some prepared.payload
          sidecar := some (revisionSidecar sha256 revision (some prepared.payload)) }
      else redis := by
  unfold saveWithRotationLeaseAndRevision
  by_cases hkey : lease.key = rotationLeaseKey organizationId
  · rw [if_neg (not_not.mpr hkey)]
    dsimp only
    rw [delivered_fst]
    have hcases := saveScript_cases redis lease prepared.payload
      (revisionSidecar sha256 revision (some prepared.payload)) expected
    by_cases hrefused : delivery = .refused
    · rw [if_pos hrefused, if_neg fun hsaves : Saves .. => hsaves.1 hrefused]
    · rw [if_neg hrefused]
      rcases hcases with ⟨haccepted, heq⟩ | ⟨hrejected, heq, -⟩
      · rw [if_pos (show Saves .. from ⟨hrefused, hkey, haccepted⟩), heq]
      · rw [if_neg fun hsaves : Saves .. => hrejected hsaves.2.2, heq]
  · rw [if_pos hkey, if_neg fun hsaves : Saves .. => hkey hsaves.2.1]

/-- A save that the caller is told of has stored its payload. -/
theorem saveWith_snd_eq_ok {redis : RegistryRedis} {lease : RotationLease}
    {prepared : Except RegistryError PreparedRegistry} {revision : String}
    {expected : Option RegistryRevisionSnapshot} {delivery : Delivery}
    {answer : Json.Value × String}
    (h : (saveWithRotationLeaseAndRevision sha256 redis organizationId lease prepared revision
      expected delivery).2 = .ok answer) :
    answer.2 = etagOf revision ∧ Saves redis organizationId lease expected delivery ∧
      ∃ registry, prepared = .ok registry := by
  unfold saveWithRotationLeaseAndRevision at h
  split at h
  · cases h
  · next hkey =>
      cases prepared with
      | error error => cases h
      | ok prepared =>
          obtain ⟨rfl, hreply⟩ := delivered_snd_eq_ok h
          have hcases := saveScript_cases redis lease prepared.payload
            (revisionSidecar sha256 revision (some prepared.payload)) expected
          rcases hcases with ⟨haccepted, heq⟩ | ⟨-, -, hfailed⟩
          · rw [heq] at hreply
            cases hreply
            exact ⟨rfl, ⟨by decide, not_not.mp hkey, haccepted⟩, prepared, rfl⟩
          · split at hreply
            · cases hreply
            · -- the other code that is not one stands for a conflict
              cases hreply

/-- **All that the script of a pending rotation does.** -/
theorem savePendingScript_cases (redis : RegistryRedis) (lease : RotationLease)
    (markerKey indexKey payload marker sidecar : String) :
    let answer := savePendingScript redis lease markerKey indexKey payload marker sidecar
    (redis.leases lease.key = some lease.owner ∧
      redis.leases globalRotationFenceKey = some lease.owner ∧
      redis.markers markerKey = none ∧ ((redis.indexes indexKey).add markerKey).isSome ∧
      answer.1.payload = some payload ∧ answer.1.sidecar = some sidecar ∧
      answer.1.leases = redis.leases) ∨
    (¬ (redis.leases lease.key = some lease.owner ∧
        redis.leases globalRotationFenceKey = some lease.owner ∧
        redis.markers markerKey = none ∧ ((redis.indexes indexKey).add markerKey).isSome) ∧
      answer.1 = redis) := by
  dsimp only
  unfold savePendingScript
  by_cases hlease : redis.leases lease.key = some lease.owner
  · rw [if_neg (not_not.mpr hlease)]
    by_cases hfence : redis.leases globalRotationFenceKey = some lease.owner
    · rw [if_neg (not_not.mpr hfence)]
      by_cases hmarker : (redis.markers markerKey).isSome
      · right
        rw [if_pos hmarker]
        exact ⟨fun h => by simp [h.2.2.1] at hmarker, rfl⟩
      · rw [if_neg hmarker]
        cases hindex : (redis.indexes indexKey).add markerKey with
        | none => exact .inr ⟨fun h => Bool.false_ne_true h.2.2.2, rfl⟩
        | some index =>
            left
            exact ⟨hlease, hfence, Option.not_isSome_iff_eq_none.mp hmarker, rfl, rfl, rfl, rfl⟩
    · right
      rw [if_pos hfence]
      exact ⟨fun h => hfence h.2.1, rfl⟩
  · right
    rw [if_pos hlease]
    exact ⟨fun h => hlease h.1, rfl⟩

variable (sha256 organizationId) in
theorem savePending_fst (redis : RegistryRedis) (lease : RotationLease)
    (pending : PendingRotation) (revision : String) (delivery : Delivery) :
    let redis' := (savePendingRotationWithMarker sha256 redis organizationId lease (.ok pending)
      revision delivery).1
    (SavesPending redis organizationId lease pending delivery ∧
      redis'.payload = some pending.registry.payload ∧
      redis'.sidecar = some (revisionSidecar sha256 revision (some pending.registry.payload)) ∧
      redis'.leases = redis.leases) ∨
    (¬ SavesPending redis organizationId lease pending delivery ∧ redis' = redis) := by
  dsimp only
  unfold savePendingRotationWithMarker
  by_cases hkey : lease.key = rotationLeaseKey organizationId
  · rw [if_neg (not_not.mpr hkey)]
    dsimp only
    rw [delivered_fst]
    by_cases hrefused : delivery = .refused
    · right
      rw [if_pos hrefused]
      exact ⟨fun h : SavesPending .. => h.1 hrefused, rfl⟩
    · rw [if_neg hrefused]
      rcases savePendingScript_cases redis lease pending.markerKey pending.indexKey
          pending.registry.payload pending.marker
          (revisionSidecar sha256 revision (some pending.registry.payload)) with
        ⟨hlease, hfence, hmarker, hindex, heq⟩ | ⟨hrejected, heq⟩
      · exact .inl ⟨⟨hrefused, hkey, hlease, hfence, hmarker, hindex⟩, heq⟩
      · exact .inr ⟨fun h : SavesPending .. => hrejected h.2.2, heq⟩
  · right
    rw [if_pos hkey]
    exact ⟨fun h : SavesPending .. => hkey h.2.1, rfl⟩

/-! ## The change of each step -/

theorem save_change {store : RegistryStore} {lease : RotationLease}
    {prepared : Except RegistryError PreparedRegistry} {revision : String}
    (hdraws : store.Draws revision) (expected : Option RegistryRevisionSnapshot)
    (delivery : Delivery) :
    StoreChange sha256 organizationId store
      (store.save sha256 organizationId lease prepared revision expected delivery).1 := by
  unfold RegistryStore.save
  cases prepared with
  | error error =>
      have heq : (saveWithRotationLeaseAndRevision sha256 store.redis organizationId lease
          (.error error) revision expected delivery).1 = store.redis := by
        unfold saveWithRotationLeaseAndRevision
        split <;> rfl
      dsimp only [savedAct]
      rw [heq]
      exact .unchanged rfl rfl (List.append_nil _)
  | ok prepared =>
      dsimp only [savedAct]
      rw [saveWith_fst]
      by_cases hsaves : Saves store.redis organizationId lease expected delivery
      · rw [if_pos hsaves, if_pos hsaves]
        have hadmitted : Admitted sha256 organizationId store
            (.saved expected lease prepared.payload revision) := ⟨hdraws, hsaves.2⟩
        refine .act hadmitted rfl rfl rfl ?_
        rintro p ⟨⟩
        exact List.mem_append_right _ List.mem_cons_self
      · rw [if_neg hsaves, if_neg hsaves]
        exact .unchanged rfl rfl (List.append_nil _)

theorem bind_change {store : RegistryStore} {lease : RotationLease}
    {prepared : Except RegistryError PreparedRegistry} {revision : String}
    (hdraws : store.Draws revision) (snapshot : RegistryRevisionSnapshot)
    (expectedRevision : Option String) (delivery : Delivery) :
    StoreChange sha256 organizationId store
      (store.bind sha256 organizationId lease prepared revision snapshot expectedRevision
        delivery).1 := by
  unfold RegistryStore.bind bindReferencePurpose
  by_cases hother : ∃ expected ∈ expectedRevision, expected ≠ snapshot.etag
  · rw [if_pos hother, if_pos hother]
    exact .unchanged rfl rfl (List.append_nil _)
  · rw [if_neg hother, if_neg hother]
    exact save_change hdraws (expectedRevision.map fun _ => snapshot) delivery

theorem savePending_change {store : RegistryStore} {lease : RotationLease}
    {pending : Except RegistryError PendingRotation} {revision : String}
    (hdraws : store.Draws revision) (delivery : Delivery) :
    StoreChange sha256 organizationId store
      (store.savePending sha256 organizationId lease pending revision delivery).1 := by
  unfold RegistryStore.savePending
  cases pending with
  | error error =>
      have heq : (savePendingRotationWithMarker sha256 store.redis organizationId lease
          (.error error) revision delivery).1 = store.redis := by
        unfold savePendingRotationWithMarker
        split <;> rfl
      dsimp only
      rw [heq]
      exact .unchanged rfl rfl (List.append_nil _)
  | ok pending =>
      dsimp only
      rcases savePending_fst sha256 organizationId store.redis
          lease pending revision delivery with ⟨hsaves, hpayload, hsidecar, -⟩ | ⟨hrejected, heq⟩
      · rw [if_pos hsaves]
        refine .act (?_ : Admitted sha256 organizationId store
          (.saved none lease pending.registry.payload revision)) hpayload hsidecar rfl ?_
        · obtain ⟨-, hkey, hlease, hfence, -⟩ := hsaves
          refine ⟨hdraws, hkey, hlease, ?_, by simp⟩
          rw [hfence]
          rintro fence ⟨⟩
          rfl
        · rintro p ⟨⟩
          exact List.mem_append_right _ List.mem_cons_self
      · rw [if_neg hrejected, heq]
        exact .unchanged rfl rfl (List.append_nil _)

theorem read_change (store : RegistryStore) (attempts : Nat)
    (decoded : Except RegistryError Json.Value) :
    StoreChange sha256 organizationId store (store.read sha256 attempts decoded).1 := by
  unfold RegistryStore.read
  dsimp only
  split
  · next snapshot hread =>
      refine .act (?_ : Admitted sha256 organizationId store (.snapshot snapshot)) rfl rfl rfl nofun
      unfold readAttempt at hread
      split at hread
      · cases hread
      · next sidecar hsidecar =>
          split at hread
          · cases hread
          · cases hread
          · next revision hchecked =>
              split at hread
              · cases hread
              · cases hread
                exact ⟨rfl, hsidecar, revision, hchecked, rfl⟩
  · exact .unchanged rfl rfl (List.append_nil _)

theorem refresh_change {store : RegistryStore} {revision : String}
    (hdraws : store.Draws revision) (attempts : Nat) (payload sidecar : Option String)
    (delivery : Delivery) :
    StoreChange sha256 organizationId store
      (store.refresh sha256 attempts payload sidecar revision delivery).1 := by
  have hsent : StoreChange sha256 organizationId store
      { store.draw revision with
        redis := (refreshScript store.redis payload sidecar
          (revisionSidecar sha256 revision payload)).1
        history := store.history ++
          if store.redis.payload = payload ∧ store.redis.sidecar = sidecar then
            [.refreshed payload revision]
          else [] } := by
    unfold refreshScript
    by_cases hpayload : store.redis.payload = payload
    · by_cases hsidecar : store.redis.sidecar = sidecar
      · rw [if_neg (not_not.mpr hpayload), if_neg (not_not.mpr hsidecar),
          if_pos ⟨hpayload, hsidecar⟩]
        have hadmitted : Admitted sha256 organizationId store (.refreshed payload revision) :=
          ⟨hdraws, hpayload⟩
        refine .act hadmitted rfl rfl rfl ?_
        rintro p ⟨⟩
        exact List.mem_append_right _ List.mem_cons_self
      · rw [if_neg (not_not.mpr hpayload), if_pos hsidecar, if_neg fun h => hsidecar h.2]
        exact .unchanged rfl rfl (List.append_nil _)
    · rw [if_pos hpayload, if_neg fun h => hpayload h.1]
      exact .unchanged rfl rfl (List.append_nil _)
  unfold RegistryStore.refresh
  cases delivery with
  | refused => exact .unchanged rfl rfl rfl
  | lost => exact hsent
  | answered => exact hsent

theorem acquire_change (store : RegistryStore) (key owner : String) :
    (acquire store.redis key owner).payload = store.redis.payload ∧
      (acquire store.redis key owner).sidecar = store.redis.sidecar := by
  unfold acquire
  split
  · exact ⟨rfl, rfl⟩
  · exact ⟨rfl, rfl⟩

theorem lose_change (store : RegistryStore) (lease : RotationLease) :
    StoreChange sha256 organizationId store (store.lose lease) := by
  unfold RegistryStore.lose releaseRotationLease
  split
  · exact .unchanged rfl rfl rfl
  · exact .unchanged rfl rfl rfl

/-- **Every step** leaves the payload and its sidecar as they are, or it is one act. -/
theorem registryStep_change {store store' : RegistryStore} {client client' : RegistryClient}
    {e : RegistryEvent}
    (h : registryStep sha256 organizationId store client e = some (store', client')) :
    StoreChange sha256 organizationId store store' := by
  cases e with
  | load =>
      cases h
      exact .unchanged rfl rfl rfl
  | read decoded delivery =>
      simp only [registryStep] at h
      split at h
      · split at h
        · cases h
          exact read_change store _ decoded
        · cases h
          exact .unchanged rfl rfl rfl
      · cases h
  | refresh revision delivery =>
      simp only [registryStep] at h
      split at h
      · split at h
        · next hdraws =>
            cases h
            exact refresh_change hdraws ..
        · cases h
      · cases h
  | save conditional lease prepared revision delivery =>
      simp only [registryStep] at h
      split at h
      · next hdraws =>
          split at h
          · split at h
            · cases h
              exact save_change hdraws _ delivery
            · cases h
          · cases h
            exact save_change hdraws none delivery
      · cases h
  | bind expectedRevision lease prepared revision delivery =>
      simp only [registryStep] at h
      split at h
      · split at h
        · next hdraws =>
            cases h
            exact bind_change hdraws ..
        · cases h
      · cases h
  | savePending lease pending revision delivery =>
      simp only [registryStep] at h
      split at h
      · next hdraws =>
          cases h
          exact savePending_change hdraws delivery
      · cases h
  | replace payload =>
      cases h
      have hadmitted : Admitted sha256 organizationId store (.replaced payload) := trivial
      exact .act hadmitted rfl rfl rfl nofun
  | acquireLease other owner =>
      simp only [registryStep] at h
      split at h
      · cases h
        obtain ⟨hpayload, hsidecar⟩ := acquire_change store (rotationLeaseKey other) owner
        exact .unchanged hpayload hsidecar rfl
      · cases h
  | acquireFence lease =>
      cases h
      obtain ⟨hpayload, hsidecar⟩ := acquire_change store globalRotationFenceKey lease.owner
      exact .unchanged hpayload hsidecar rfl
  | release lease =>
      cases h
      exact lose_change store lease
  | expire key =>
      cases h
      unfold RegistryStore.expire
      split
      · exact .unchanged rfl rfl rfl
      · exact lose_change store _
  | mark markers indexes =>
      cases h
      exact .unchanged rfl rfl rfl

/-! ## Revisions -/

/-- What holds of the payload, its sidecar and the snapshots that have been taken. -/
structure RevisionInv (sha256 : String → String) (store : RegistryStore) : Prop where
  unrepeated : Unrepeated RegistryAct.binding store.history
  drawn : ∀ p ∈ store.history.filterMap RegistryAct.binding,
    p.1 ∈ store.drawn ∧ Uuid.isCanonical p.1
  sidecar : store.redis.sidecar = (lastStamp RegistryAct.binding store.history).map
    fun p => revisionSidecar sha256 p.1 p.2
  read : ∀ l₁ snapshot l₂, store.history = l₁ ++ .snapshot snapshot :: l₂ →
    ∃ revision, lastStamp RegistryAct.binding l₁ = some (revision, snapshot.raw) ∧
      snapshot.sidecar = revisionSidecar sha256 revision snapshot.raw ∧
      snapshot.etag = etagOf revision

/-- The payload of a snapshot is the one that its revision was bound to. -/
theorem RevisionInv.snapshot (hsha : Function.Injective sha256) {store : RegistryStore}
    (h : RevisionInv sha256 store) {snapshot : RegistryRevisionSnapshot}
    (hadmitted : Admitted sha256 organizationId store (.snapshot snapshot)) :
    ∃ revision, lastStamp RegistryAct.binding store.history = some (revision, snapshot.raw) ∧
      snapshot.sidecar = revisionSidecar sha256 revision snapshot.raw ∧
      snapshot.etag = etagOf revision := by
  obtain ⟨-, hsidecar, found, hchecked, hetag⟩ := hadmitted
  rw [h.sidecar, Option.map_eq_some_iff] at hsidecar
  obtain ⟨⟨revision, bound⟩, hlast, heq⟩ := hsidecar
  dsimp only at heq
  have hcanonical := (h.drawn _ (mem_of_lastStamp hlast)).2
  rw [← heq] at hchecked
  obtain ⟨rfl, hraw⟩ := checkedRevision_revisionSidecar hsha hcanonical hchecked
  refine ⟨found, ?_, ?_, hetag⟩
  · rw [hlast, hraw]
  · rw [← heq, hraw]

/-- **One more act** binds a new revision, or none. -/
theorem RevisionInv.change (hsha : Function.Injective sha256) {store store' : RegistryStore}
    (h : RevisionInv sha256 store)
    (hchange : StoreChange sha256 organizationId store store')
    (hdrawn : ∀ uuid ∈ store.drawn, uuid ∈ store'.drawn) : RevisionInv sha256 store' := by
  cases hchange with
  | unchanged payload sidecar history =>
      constructor
      · rw [history]
        exact h.unrepeated
      · rw [history]
        exact fun p hp => ⟨hdrawn _ (h.drawn p hp).1, (h.drawn p hp).2⟩
      · rw [history, sidecar]
        exact h.sidecar
      · rw [history]
        exact h.read
  | @act act admitted payload sidecar history drawn =>
      have hfresh : ∀ p, act.binding = some p → store.Draws p.1 := by
        intro p hp
        cases act with
        | snapshot snapshot => cases hp
        | saved expected lease payload revision =>
            cases hp
            exact admitted.1
        | refreshed payload revision =>
            cases hp
            exact admitted.1
        | replaced payload => cases hp
      constructor
      · rw [history]
        cases hbinding : act.binding with
        | none => exact h.unrepeated.append_none hbinding
        | some p =>
            apply h.unrepeated.append_some hbinding
            intro q hq heq
            exact (hfresh p hbinding).2 (heq ▸ (h.drawn q hq).1)
      · intro p hp
        rw [history, List.filterMap_append, List.mem_append] at hp
        rcases hp with hp | hp
        · exact ⟨hdrawn _ (h.drawn p hp).1, (h.drawn p hp).2⟩
        · obtain ⟨a, ha, hbinding⟩ := List.mem_filterMap.mp hp
          rw [List.mem_singleton.mp ha] at hbinding
          exact ⟨drawn p hbinding, (hfresh p hbinding).1⟩
      · rw [history, sidecar, RegistryAct.sidecar]
        cases hbinding : act.binding with
        | none => rw [lastStamp_append_none hbinding, ← h.sidecar]
        | some p => rw [lastStamp_append_some hbinding, Option.map_some]
      · intro l₁ snapshot l₂ heq
        rw [history, List.append_eq_append_iff] at heq
        rcases heq with ⟨l, hl₁, hsingle⟩ | ⟨l, hhistory, hrest⟩
        · cases l with
          | nil =>
              -- the snapshot is the new act
              cases hsingle
              rw [hl₁, List.append_nil]
              exact h.snapshot hsha admitted
          | cons a l => simp at hsingle
        · cases l with
          | nil =>
              rw [List.nil_append, List.cons.injEq] at hrest
              rw [List.append_nil] at hhistory
              rw [← hhistory]
              rw [← hrest.1] at admitted
              exact h.snapshot hsha admitted
          | cons a l =>
              rw [List.cons_append, List.cons.injEq] at hrest
              rw [← hrest.1] at hhistory
              exact h.read l₁ snapshot l hhistory

/-! ## Leases -/

/-- What a step does to the leases: nothing, or one is taken, or one comes to its end. -/
inductive LeaseChange (store store' : RegistryStore) : Prop
  | same (leases : store'.redis.leases = store.redis.leases) (lost : store'.lost = store.lost)
  | taken {key owner : String} (free : store.redis.leases key = none)
      (leases : store'.redis.leases = Function.update store.redis.leases key (some owner))
      (lost : store'.lost = store.lost)
      (fresh : key = globalRotationFenceKey ∨ store.Draws owner ∧ owner ∈ store'.drawn)
  | ended {lease : RotationLease} (held : store.redis.leases lease.key = some lease.owner)
      (leases : store'.redis.leases = Function.update store.redis.leases lease.key none)
      (lost : store'.lost = store.lost ++ [lease])

theorem acquire_leases {store store' : RegistryStore} {key owner : String}
    (hredis : store'.redis = acquire store.redis key owner) (hlost : store'.lost = store.lost)
    (hfresh : key = globalRotationFenceKey ∨ store.Draws owner ∧ owner ∈ store'.drawn) :
    LeaseChange store store' := by
  unfold acquire at hredis
  split at hredis
  · next hfree => exact .taken hfree (by rw [hredis]) hlost hfresh
  · exact .same (by rw [hredis]) hlost

theorem lose_leases (store : RegistryStore) (lease : RotationLease) :
    LeaseChange store (store.lose lease) := by
  unfold RegistryStore.lose releaseRotationLease
  split
  · next hheld => exact .ended hheld rfl rfl
  · exact .same rfl rfl

theorem saveWith_leases (redis : RegistryRedis) (lease : RotationLease)
    (prepared : Except RegistryError PreparedRegistry) (revision : String)
    (expected : Option RegistryRevisionSnapshot) (delivery : Delivery) :
    (saveWithRotationLeaseAndRevision sha256 redis organizationId lease prepared revision
      expected delivery).1.leases = redis.leases := by
  cases prepared with
  | error error =>
      unfold saveWithRotationLeaseAndRevision
      split <;> rfl
  | ok prepared =>
      rw [saveWith_fst]
      split <;> rfl

theorem savePending_leases (redis : RegistryRedis) (lease : RotationLease)
    (pending : Except RegistryError PendingRotation) (revision : String) (delivery : Delivery) :
    (savePendingRotationWithMarker sha256 redis organizationId lease pending revision
      delivery).1.leases = redis.leases := by
  cases pending with
  | error error =>
      unfold savePendingRotationWithMarker
      split <;> rfl
  | ok pending =>
      rcases savePending_fst sha256 organizationId redis lease
          pending revision delivery with ⟨-, -, -, heq⟩ | ⟨-, heq⟩
      · exact heq
      · rw [heq]

theorem refreshScript_leases (redis : RegistryRedis) (payload prior : Option String)
    (next : String) : (refreshScript redis payload prior next).1.leases = redis.leases := by
  unfold refreshScript
  split
  · rfl
  · split <;> rfl

/-- No step takes a UUID back. -/
theorem subset_draw (store : RegistryStore) (uuid : String) :
    ∀ drawn ∈ store.drawn, drawn ∈ (store.draw uuid).drawn :=
  fun _ h => List.mem_append_left _ h

theorem registryStep_leases {store store' : RegistryStore} {client client' : RegistryClient}
    {e : RegistryEvent}
    (h : registryStep sha256 organizationId store client e = some (store', client')) :
    LeaseChange store store' ∧ ∀ uuid ∈ store.drawn, uuid ∈ store'.drawn := by
  cases e with
  | load =>
      cases h
      exact ⟨.same rfl rfl, fun _ h => h⟩
  | read decoded delivery =>
      simp only [registryStep] at h
      split at h
      · split at h
        · cases h
          exact ⟨.same rfl rfl, fun _ h => h⟩
        · cases h
          exact ⟨.same rfl rfl, fun _ h => h⟩
      · cases h
  | refresh revision delivery =>
      simp only [registryStep] at h
      split at h
      · split at h
        · cases h
          unfold RegistryStore.refresh
          cases delivery with
          | refused => exact ⟨.same rfl rfl, subset_draw store revision⟩
          | lost => exact ⟨.same (refreshScript_leases ..) rfl, subset_draw store revision⟩
          | answered => exact ⟨.same (refreshScript_leases ..) rfl, subset_draw store revision⟩
        · cases h
      · cases h
  | save conditional lease prepared revision delivery =>
      simp only [registryStep] at h
      split at h
      · split at h
        · split at h
          · cases h
            exact ⟨.same (saveWith_leases ..) rfl, subset_draw store revision⟩
          · cases h
        · cases h
          exact ⟨.same (saveWith_leases ..) rfl, subset_draw store revision⟩
      · cases h
  | bind expectedRevision lease prepared revision delivery =>
      simp only [registryStep] at h
      split at h
      · split at h
        · cases h
          refine ⟨.same ?_ rfl, subset_draw store revision⟩
          unfold RegistryStore.bind bindReferencePurpose
          dsimp only
          split
          · rfl
          · exact saveWith_leases ..
        · cases h
      · cases h
  | savePending lease pending revision delivery =>
      simp only [registryStep] at h
      split at h
      · cases h
        exact ⟨.same (savePending_leases ..) rfl, subset_draw store revision⟩
      · cases h
  | replace payload =>
      cases h
      exact ⟨.same rfl rfl, fun _ h => h⟩
  | acquireLease other owner =>
      simp only [registryStep] at h
      split at h
      · next hdraws =>
          cases h
          refine ⟨acquire_leases rfl rfl (.inr ⟨hdraws, ?_⟩), subset_draw store owner⟩
          exact List.mem_append_right _ List.mem_cons_self
      · cases h
  | acquireFence lease =>
      cases h
      exact ⟨acquire_leases rfl rfl (.inl rfl), fun _ h => h⟩
  | release lease =>
      cases h
      refine ⟨lose_leases store lease, fun uuid h => ?_⟩
      unfold RegistryStore.lose
      split <;> exact h
  | expire key =>
      cases h
      unfold RegistryStore.expire
      split
      · exact ⟨.same rfl rfl, fun _ h => h⟩
      · refine ⟨lose_leases store _, fun uuid h => ?_⟩
        unfold RegistryStore.lose
        split <;> exact h
  | mark markers indexes =>
      cases h
      exact ⟨.same rfl rfl, fun _ h => h⟩

/-- A lease that has come to its end is not held again; the fence may be. -/
structure LeaseInv (store : RegistryStore) : Prop where
  ended : ∀ lease ∈ store.lost, lease.key ≠ globalRotationFenceKey →
    store.redis.leases lease.key ≠ some lease.owner ∧ lease.owner ∈ store.drawn
  drawn : ∀ key owner, key ≠ globalRotationFenceKey →
    store.redis.leases key = some owner → owner ∈ store.drawn

theorem LeaseInv.change {store store' : RegistryStore} (h : LeaseInv store)
    (hchange : LeaseChange store store')
    (hdrawn : ∀ uuid ∈ store.drawn, uuid ∈ store'.drawn) : LeaseInv store' := by
  cases hchange with
  | same leases lost =>
      constructor
      · rw [leases, lost]
        exact fun lease hlost hkey =>
          ⟨(h.ended lease hlost hkey).1, hdrawn _ (h.ended lease hlost hkey).2⟩
      · rw [leases]
        exact fun key owner hkey hheld => hdrawn _ (h.drawn key owner hkey hheld)
  | @taken key owner free leases lost fresh =>
      constructor
      · rw [leases, lost]
        intro lease hlost hkey
        obtain ⟨hheld, howner⟩ := h.ended lease hlost hkey
        refine ⟨?_, hdrawn _ howner⟩
        by_cases heq : lease.key = key
        · rw [heq, Function.update_self, ne_eq, Option.some.injEq]
          rintro rfl
          rcases fresh with rfl | ⟨hdraws, -⟩
          · exact hkey heq
          · exact hdraws.2 howner
        · rw [Function.update_of_ne heq]
          exact hheld
      · rw [leases]
        intro other owner' hkey hheld
        by_cases heq : other = key
        · subst heq
          rw [Function.update_self, Option.some.injEq] at hheld
          rcases fresh with rfl | ⟨-, hmem⟩
          · exact absurd rfl hkey
          · rwa [← hheld]
        · rw [Function.update_of_ne heq] at hheld
          exact hdrawn _ (h.drawn other owner' hkey hheld)
  | @ended lease held leases lost =>
      constructor
      · rw [leases, lost]
        intro other hlost hkey
        rcases List.mem_append.mp hlost with hlost | hlost
        · obtain ⟨hheld, howner⟩ := h.ended other hlost hkey
          refine ⟨?_, hdrawn _ howner⟩
          by_cases heq : other.key = lease.key
          · rw [heq, Function.update_self]
            nofun
          · rw [Function.update_of_ne heq]
            exact hheld
        · cases List.mem_singleton.mp hlost
          rw [Function.update_self]
          exact ⟨nofun, hdrawn _ (h.drawn _ _ hkey held)⟩
      · rw [leases]
        intro other owner hkey hheld
        by_cases heq : other = lease.key
        · rw [heq, Function.update_self] at hheld
          cases hheld
        · rw [Function.update_of_ne heq] at hheld
          exact hdrawn _ (h.drawn other owner hkey hheld)

theorem rotationLeaseKey_ne_fence (organizationId : String) :
    rotationLeaseKey organizationId ≠ globalRotationFenceKey := by
  unfold rotationLeaseKey
  generalize toString organizationId.utf8ByteSize = size
  intro heq
  have hchars := congrArg (fun s => s.toList.take 17) heq
  rw [String.toList_append, String.toList_append, String.toList_append, List.append_assoc,
    List.append_assoc, List.take_append_of_le_length (by decide)] at hchars
  exact absurd hchars (by decide)

/-! ## Runs -/

variable {ι : Type} [DecidableEq ι]

/-- What holds of the store, and what the clients know. -/
structure RegistryInv (sha256 : String → String)
    (c : Config RegistryStore ι RegistryClient) : Prop where
  revisions : RevisionInv sha256 c.store
  leases : LeaseInv c.store
  loaded : ∀ i snapshot, (c.calls i).load = .loaded snapshot →
    .snapshot snapshot ∈ c.store.history

/-- What a step leaves in its client's hands. -/
theorem registryStep_loaded {store store' : RegistryStore} {client client' : RegistryClient}
    {e : RegistryEvent} {snapshot : RegistryRevisionSnapshot}
    (h : registryStep sha256 organizationId store client e = some (store', client'))
    (hloaded : client'.load = .loaded snapshot) :
    client.load = .loaded snapshot ∨ .snapshot snapshot ∈ store'.history := by
  cases e with
  | load =>
      cases h
      cases hloaded
  | read decoded delivery =>
      simp only [registryStep] at h
      split at h
      · split at h
        · cases h
          right
          dsimp only at hloaded
          unfold RegistryStore.read at hloaded ⊢
          dsimp only at hloaded ⊢
          rw [hloaded]
          exact List.mem_append_right _ List.mem_cons_self
        · cases h
          cases hloaded
      · cases h
  | refresh revision delivery =>
      simp only [registryStep] at h
      split at h
      · split at h
        · cases h
          unfold RegistryStore.refresh nextAttempt at hloaded
          cases delivery with
          | refused => cases hloaded
          | lost => cases hloaded
          | answered =>
              dsimp only at hloaded
              rw [if_neg (by decide)] at hloaded
              split at hloaded
              · cases hloaded
              · cases hloaded
        · cases h
      · cases h
  | save conditional lease prepared revision delivery =>
      simp only [registryStep] at h
      split at h
      · split at h
        · split at h
          · cases h
            exact .inl hloaded
          · cases h
        · cases h
          exact .inl hloaded
      · cases h
  | bind expectedRevision lease prepared revision delivery =>
      simp only [registryStep] at h
      split at h
      · split at h
        · cases h
          exact .inl hloaded
        · cases h
      · cases h
  | savePending lease pending revision delivery =>
      simp only [registryStep] at h
      split at h
      · cases h
        exact .inl hloaded
      · cases h
  | replace payload =>
      cases h
      exact .inl hloaded
  | acquireLease other owner =>
      simp only [registryStep] at h
      split at h
      · cases h
        exact .inl hloaded
      · cases h
  | acquireFence lease =>
      cases h
      exact .inl hloaded
  | release lease =>
      cases h
      exact .inl hloaded
  | expire key =>
      cases h
      exact .inl hloaded
  | mark markers indexes =>
      cases h
      exact .inl hloaded

theorem StoreChange.history_prefix {store store' : RegistryStore}
    (h : StoreChange sha256 organizationId store store') : store.history <+: store'.history := by
  cases h with
  | unchanged _ _ history => simp only [history, List.prefix_rfl]
  | act _ _ _ history _ => rw [history]; exact List.prefix_append _ _

theorem registryMachine_next (hsha : Function.Injective sha256)
    {c c' : Config RegistryStore ι RegistryClient} {i : ι} {e : RegistryEvent}
    (h : RegistryInv sha256 c)
    (hnext : (registryMachine sha256 organizationId ι).next c i e = some c') :
    RegistryInv sha256 c' ∧ c.store.history <+: c'.store.history := by
  obtain ⟨store, client, hstep, rfl⟩ := Machine.next_eq_some.mp hnext
  have hchange := registryStep_change hstep
  obtain ⟨hleases, hdrawn⟩ := registryStep_leases hstep
  refine ⟨⟨h.revisions.change hsha hchange hdrawn, h.leases.change hleases hdrawn, ?_⟩,
    hchange.history_prefix⟩
  intro j snapshot hloaded
  by_cases hj : j = i
  · subst hj
    dsimp only at hloaded
    rw [Function.update_self] at hloaded
    rcases registryStep_loaded hstep hloaded with hbefore | hmem
    · exact hchange.history_prefix.subset (h.loaded j snapshot hbefore)
    · exact hmem
  · dsimp only at hloaded
    rw [Function.update_of_ne hj] at hloaded
    exact hchange.history_prefix.subset (h.loaded j snapshot hloaded)

omit [DecidableEq ι] in
theorem registryStart_inv (payload : Option String) :
    RegistryInv sha256 (registryStart ι payload) := by
  refine ⟨⟨Unrepeated.nil, nofun, rfl, ?_⟩, ⟨nofun, nofun⟩, nofun⟩
  intro l₁ snapshot l₂ heq
  cases l₁ <;> cases heq

/-- **A snapshot names its payload**: two of them that have one ETag have one payload. -/
theorem RevisionInv.raw_eq {store : RegistryStore} (h : RevisionInv sha256 store)
    {snapshot snapshot' : RegistryRevisionSnapshot}
    (hmem : .snapshot snapshot ∈ store.history) (hmem' : .snapshot snapshot' ∈ store.history)
    (hetag : snapshot.etag = snapshot'.etag) : snapshot.raw = snapshot'.raw := by
  obtain ⟨l₁, l₂, heq⟩ := List.append_of_mem hmem
  obtain ⟨l₁', l₂', heq'⟩ := List.append_of_mem hmem'
  obtain ⟨revision, hlast, -, htag⟩ := h.read l₁ snapshot l₂ heq
  obtain ⟨revision', hlast', -, htag'⟩ := h.read l₁' snapshot' l₂' heq'
  rw [htag, htag'] at hetag
  cases etagOf_injective hetag
  apply h.unrepeated.value_eq
  · rw [heq, List.filterMap_append]
    exact List.mem_append_left _ (mem_of_lastStamp hlast)
  · rw [heq', List.filterMap_append]
    exact List.mem_append_left _ (mem_of_lastStamp hlast')

/-- **Nothing has been bound since a snapshot** whose sidecar is still there. -/
theorem RevisionInv.unwritten {store : RegistryStore} (h : RevisionInv sha256 store)
    {snapshot : RegistryRevisionSnapshot} {l₁ l₂ : List RegistryAct}
    (heq : store.history = l₁ ++ .snapshot snapshot :: l₂)
    (hsidecar : store.redis.sidecar = some snapshot.sidecar) :
    ∀ act ∈ l₂, act.binding = none := by
  obtain ⟨revision, hlast, hbound, -⟩ := h.read l₁ snapshot l₂ heq
  rw [h.sidecar, Option.map_eq_some_iff] at hsidecar
  obtain ⟨⟨revision', payload⟩, hnow, hsame⟩ := hsidecar
  dsimp only at hsame
  -- one sidecar has one revision before its colon
  have hcanonical' := (h.drawn _ (mem_of_lastStamp hnow)).2
  have hmem := mem_of_lastStamp hlast
  have hcanonical : Uuid.isCanonical revision := by
    apply (h.drawn (revision, snapshot.raw) _).2
    rw [heq, List.filterMap_append]
    exact List.mem_append_left _ hmem
  have hrevision : revision' = revision := by
    have hsplit := splitOnce_revisionSidecar sha256 hcanonical' payload
    rw [hsame, hbound, splitOnce_revisionSidecar sha256 hcanonical] at hsplit
    exact (congrArg Prod.fst (Option.some.inj hsplit)).symm
  rw [hrevision] at hnow
  have hunrepeated := h.unrepeated
  rw [heq] at hnow hunrepeated
  intro act hact
  exact hunrepeated.unstamped hlast hnow act (List.mem_cons_of_mem _ hact)

/-- Nothing but replacements by the same payload has happened since the snapshot. -/
structure Current (store : RegistryStore) (snapshot : RegistryRevisionSnapshot) : Prop where
  payload : store.redis.payload = snapshot.raw
  sidecar : store.redis.sidecar = some snapshot.sidecar
  taken : .snapshot snapshot ∈ store.history
  unwritten : ∀ l₁ l₂, store.history = l₁ ++ .snapshot snapshot :: l₂ →
    ∀ act ∈ l₂, act.binding = none

/-- A conditional save that the caller is told of has stored its payload. -/
theorem save_answered {store store' : RegistryStore} {client client' : RegistryClient}
    {lease : RotationLease} {prepared : Except RegistryError PreparedRegistry}
    {revision etag : String} {delivery : Delivery} {snapshot : RegistryRevisionSnapshot}
    (hloaded : client.load = .loaded snapshot)
    (h : registryStep sha256 organizationId store client
      (.save true lease prepared revision delivery) = some (store', client'))
    (hanswer : client'.answer = some (.ok etag)) :
    Saves store.redis organizationId lease (some snapshot) delivery ∧ etag = etagOf revision ∧
      ∃ registry : PreparedRegistry, store'.history = store.history ++
        [.saved (some snapshot) lease registry.payload revision] := by
  simp only [registryStep, hloaded, if_true] at h
  split at h
  · cases h
    simp only [RegistryStore.save, Option.some.injEq] at hanswer
    cases hsave : (saveWithRotationLeaseAndRevision sha256 store.redis organizationId lease
        prepared revision (some snapshot) delivery).2 with
    | error error =>
        rw [hsave] at hanswer
        cases hanswer
    | ok answer =>
        rw [hsave] at hanswer
        cases hanswer
        obtain ⟨hetag, hsaves, registry, rfl⟩ := saveWith_snd_eq_ok hsave
        refine ⟨hsaves, hetag, registry, ?_⟩
        simp only [RegistryStore.save, savedAct, if_pos hsaves]
  · cases h

/-- The revision that the caller has named is that of the snapshot, and the save is one on the
condition of the snapshot. -/
theorem bind_answered {store store' : RegistryStore} {client client' : RegistryClient}
    {lease : RotationLease} {prepared : Except RegistryError PreparedRegistry}
    {expected revision etag : String} {delivery : Delivery}
    {snapshot : RegistryRevisionSnapshot} (hloaded : client.load = .loaded snapshot)
    (h : registryStep sha256 organizationId store client
      (.bind (some expected) lease prepared revision delivery) = some (store', client'))
    (hanswer : client'.answer = some (.ok etag)) :
    expected = snapshot.etag ∧
      Saves store.redis organizationId lease (some snapshot) delivery ∧ etag = etagOf revision ∧
      ∃ registry : PreparedRegistry, store'.history = store.history ++
        [.saved (some snapshot) lease registry.payload revision] := by
  simp only [registryStep, hloaded] at h
  split at h
  · cases h
    by_cases hother : ∃ other ∈ some expected, other ≠ snapshot.etag
    · simp only [RegistryStore.bind, bindReferencePurpose, if_pos hother] at hanswer
      cases hanswer
    · have hsame : expected = snapshot.etag := by simpa using hother
      simp only [RegistryStore.bind, bindReferencePurpose, if_neg hother, Option.map_some,
        Option.some.injEq] at hanswer
      cases hsave : (saveWithRotationLeaseAndRevision sha256 store.redis organizationId lease
          prepared revision (some snapshot) delivery).2 with
      | error error =>
          rw [hsave] at hanswer
          cases hanswer
      | ok answer =>
          rw [hsave] at hanswer
          cases hanswer
          obtain ⟨hetag, hsaves, registry, rfl⟩ := saveWith_snd_eq_ok hsave
          refine ⟨hsame, hsaves, hetag, registry, ?_⟩
          simp only [RegistryStore.bind, if_neg hother, savedAct, Option.map_some,
            if_pos hsaves]
  · cases h

omit [DecidableEq ι] in
theorem RegistryInv.current {c : Config RegistryStore ι RegistryClient}
    (h : RegistryInv sha256 c) {i : ι} {snapshot : RegistryRevisionSnapshot}
    (hloaded : (c.calls i).load = .loaded snapshot) {lease : RotationLease}
    {delivery : Delivery}
    (hsaves : Saves c.store.redis organizationId lease (some snapshot) delivery) :
    Current c.store snapshot := by
  obtain ⟨hpayload, hsidecar⟩ := hsaves.2.2.2.2 snapshot rfl
  refine ⟨hpayload, hsidecar, h.loaded i snapshot hloaded, ?_⟩
  intro l₁ l₂ heq
  exact h.revisions.unwritten heq hsidecar

/-- **ETags name payloads, and they guard the writes that depend on them.**  Two snapshots
with one ETag have one payload, and no revision is bound twice.  A save that depends on a
snapshot succeeds only while payload and sidecar are those of the snapshot, when no fenced
writer and no reader has bound a revision since it was taken.  Every fenced write is under a
lease that is held and has not been lost before, without a fence of another owner. -/
theorem etags_identify_payloads (hsha : Function.Injective sha256) {payload : Option String}
    {t u : List (ι × RegistryEvent)} {c c' : Config RegistryStore ι RegistryClient}
    (ht : (registryMachine sha256 organizationId ι).run (registryStart ι payload) t = some c)
    (hu : (registryMachine sha256 organizationId ι).run c u = some c') :
    c.store.history <+: c'.store.history ∧
    (∀ snapshot snapshot', .snapshot snapshot ∈ c'.store.history →
      .snapshot snapshot' ∈ c'.store.history → snapshot.etag = snapshot'.etag →
        snapshot.raw = snapshot'.raw) ∧
    Unrepeated RegistryAct.binding c'.store.history ∧
    (∀ i e c'', (registryMachine sha256 organizationId ι).next c' i e = some c'' →
      StoreChange sha256 organizationId c'.store c''.store ∧
      ∀ expected lease payload revision, c''.store.history = c'.store.history ++
          [.saved expected lease payload revision] →
        c'.store.redis.leases lease.key = some lease.owner ∧ lease ∉ c'.store.lost ∧
        ∀ fence ∈ c'.store.redis.leases globalRotationFenceKey, fence = lease.owner) ∧
    ∀ i snapshot lease prepared revision delivery c'' etag,
      (c'.calls i).load = .loaded snapshot →
      ((registryMachine sha256 organizationId ι).next c' i
          (.save true lease prepared revision delivery) = some c'' ∨
        ∃ expected, (registryMachine sha256 organizationId ι).next c' i
          (.bind (some expected) lease prepared revision delivery) = some c'') →
      (c''.calls i).answer = some (.ok etag) →
        Current c'.store snapshot ∧ etag = etagOf revision ∧
        (∃ registry : PreparedRegistry, c''.store.history = c'.store.history ++
          [.saved (some snapshot) lease registry.payload revision]) ∧
        ∀ expected, (registryMachine sha256 organizationId ι).next c' i
          (.bind (some expected) lease prepared revision delivery) = some c'' →
            expected = snapshot.etag := by
  have hinv : RegistryInv sha256 c :=
    Machine.run_induct (fun _ _ _ _ h hnext => (registryMachine_next hsha h hnext).1)
      (registryStart_inv payload) ht
  obtain ⟨hinv', hlater⟩ := Machine.run_induct_rel
    (R := fun c c' : Config RegistryStore ι RegistryClient =>
      c.store.history <+: c'.store.history)
    (fun _ => List.prefix_rfl) (fun _ _ _ => List.IsPrefix.trans)
    (fun _ _ _ _ h hnext => registryMachine_next hsha h hnext) hinv hu
  refine ⟨hlater, ?_, hinv'.revisions.unrepeated, ?_, ?_⟩
  · intro snapshot snapshot' hmem hmem'
    exact hinv'.revisions.raw_eq hmem hmem'
  · intro i e c'' hnext
    obtain ⟨store, client, hstep, rfl⟩ := Machine.next_eq_some.mp hnext
    have hchange := registryStep_change hstep
    refine ⟨hchange, ?_⟩
    intro expected lease payload revision hhistory
    cases hchange with
    | unchanged _ _ history =>
        rw [history] at hhistory
        simp at hhistory
    | act admitted _ _ history _ =>
        rw [history, List.append_cancel_left_eq, List.cons.injEq] at hhistory
        rw [hhistory.1] at admitted
        obtain ⟨-, hkey, hheld, hfence, -⟩ := admitted
        refine ⟨hheld, ?_, hfence⟩
        intro hlost
        refine (hinv'.leases.ended lease hlost ?_).1 hheld
        rw [hkey]
        exact rotationLeaseKey_ne_fence organizationId
  · intro i snapshot lease prepared revision delivery c'' etag hloaded hnext hanswer
    have hbind : ∀ expected, (registryMachine sha256 organizationId ι).next c' i
        (.bind (some expected) lease prepared revision delivery) = some c'' →
        expected = snapshot.etag ∧
          Saves c'.store.redis organizationId lease (some snapshot) delivery ∧
          etag = etagOf revision ∧ ∃ registry : PreparedRegistry, c''.store.history =
            c'.store.history ++ [.saved (some snapshot) lease registry.payload revision] := by
      intro expected hnext
      obtain ⟨store, client, hstep, rfl⟩ := Machine.next_eq_some.mp hnext
      dsimp only at hanswer
      rw [Function.update_self] at hanswer
      exact bind_answered hloaded hstep hanswer
    have hsame := fun expected hnext => (hbind expected hnext).1
    rcases hnext with hnext | ⟨expected, hnext⟩
    · obtain ⟨store, client, hstep, rfl⟩ := Machine.next_eq_some.mp hnext
      dsimp only at hanswer
      rw [Function.update_self] at hanswer
      obtain ⟨hsaves, hetag, hact⟩ := save_answered hloaded hstep hanswer
      exact ⟨hinv'.current hloaded hsaves, hetag, hact, hsame⟩
    · obtain ⟨-, hsaves, hetag, hact⟩ := hbind expected hnext
      exact ⟨hinv'.current hloaded hsaves, hetag, hact, hsame⟩

namespace Example

/-- Digests of the texts that occur; other texts stand for themselves. -/
def digest (text : String) : String :=
  if text = "present\x00A" then String.ofList (List.replicate 64 '1')
  else if text = "present\x00B" then String.ofList (List.replicate 64 '2')
  else if text = "present\x00C" then String.ofList (List.replicate 64 '3')
  else "x" ++ text

theorem digest_injective : Function.Injective digest := by
  have hhead : ∀ text, ("x" ++ text).toList.head? = some 'x' := by
    intro text
    rw [String.toList_append]
    rfl
  have hcases : ∀ text, (digest text).toList.head? = some '1' ∧ text = "present\x00A" ∨
      (digest text).toList.head? = some '2' ∧ text = "present\x00B" ∨
      (digest text).toList.head? = some '3' ∧ text = "present\x00C" ∨
      (digest text).toList.head? = some 'x' ∧ digest text = "x" ++ text := by
    intro text
    unfold digest
    split_ifs with ha hb hc
    · exact .inl ⟨by rw [String.toList_ofList]; rfl, ha⟩
    · exact .inr (.inl ⟨by rw [String.toList_ofList]; rfl, hb⟩)
    · exact .inr (.inr (.inl ⟨by rw [String.toList_ofList]; rfl, hc⟩))
    · exact .inr (.inr (.inr ⟨hhead text, rfl⟩))
  have hcons : ∀ {text text' : String}, "x" ++ text = "x" ++ text' → text = text' := by
    intro text text' heq
    have hchars := congrArg String.toList heq
    simpa [String.toList_inj] using hchars
  intro text text' heq
  have h := hcases text
  have h' := hcases text'
  rw [← heq] at h'
  rcases h with ⟨h, rfl⟩ | ⟨h, rfl⟩ | ⟨h, rfl⟩ | ⟨h, hx⟩ <;>
    rcases h' with ⟨h', rfl⟩ | ⟨h', rfl⟩ | ⟨h', rfl⟩ | ⟨h', hx'⟩ <;> first
      | rfl
      | exact absurd (h.symm.trans h') (by decide)
      | exact hcons (hx.symm.trans hx')

def uuid (c : Char) : String :=
  String.ofList ((List.replicate 8 c) ++ '-' :: (List.replicate 4 c) ++ '-' ::
    (List.replicate 4 c) ++ '-' :: (List.replicate 4 c) ++ '-' :: (List.replicate 12 c))

def registryC : PreparedRegistry := ⟨.object [], "C"⟩

def leaseOf (owner : Char) : RotationLease := ⟨rotationLeaseKey "org", uuid owner⟩

/-- Two clients read the registry, for which no revision has been bound yet; the first one
replaces it, and the second one comes too late. -/
def twoWriters : List (Fin 2 × RegistryEvent) :=
  [(0, .load), (0, .read (.ok (.object [])) .answered), (0, .refresh (uuid 'a') .answered),
    (0, .read (.ok (.object [])) .answered), (1, .load),
    (1, .read (.ok (.object [])) .answered), (0, .acquireLease "org" (uuid 'b')),
    (0, .bind (some (etagOf (uuid 'a'))) (leaseOf 'b') (.ok registryC) (uuid 'c') .answered),
    (1, .save true (leaseOf 'b') (.ok registryC) (uuid 'd') .answered)]

/-- What a client has been told, and what has been bound. -/
def observe (c : Config RegistryStore (Fin 2) RegistryClient) (i : Fin 2) :
    Option (Except RegistryError String) × List (String × Option String) :=
  ((c.calls i).answer, c.store.history.filterMap RegistryAct.binding)

theorem etags_of_two_writers :
    ∃ c c', (registryMachine digest "org" (Fin 2)).run (registryStart (Fin 2) (some "A"))
        (twoWriters.take 6) = some c ∧
      (registryMachine digest "org" (Fin 2)).run c (twoWriters.drop 6) = some c' ∧
      c.store.history <+: c'.store.history ∧
      Unrepeated RegistryAct.binding c'.store.history ∧
      observe c' 0 = (some (.ok (etagOf (uuid 'c'))),
        [(uuid 'a', some "A"), (uuid 'c', some "C")]) ∧
      (observe c' 1).1 = some (.error .preconditionFailed) := by
  have hrun : ((registryMachine digest "org" (Fin 2)).run (registryStart (Fin 2) (some "A"))
      (twoWriters.take 6)).bind (fun c =>
        ((registryMachine digest "org" (Fin 2)).run c (twoWriters.drop 6)).map
          fun c' => (observe c' 0, (observe c' 1).1)) =
      some ((some (.ok (etagOf (uuid 'c'))), [(uuid 'a', some "A"), (uuid 'c', some "C")]),
        some (.error .preconditionFailed)) := by
    decide +kernel
  obtain ⟨c, hc, hobserved⟩ := Option.bind_eq_some_iff.mp hrun
  obtain ⟨c', hc', heq⟩ := Option.map_eq_some_iff.mp hobserved
  rw [Prod.mk.injEq] at heq
  obtain ⟨hlater, -, hunrepeated, -⟩ := etags_identify_payloads digest_injective hc hc'
  exact ⟨c, c', hc, hc', hlater, hunrepeated, heq.1, heq.2⟩

def uuidNumber (uuid : String) : Nat :=
  (uuid.toList.filter (· ≠ '-')).foldl
    (fun n c => 16 * n + if c.toNat < 58 then c.toNat - 48 else c.toNat - 87) 0

/-- A writer that knows no revisions replaces the payload and puts it back, while another
tenant holds the fence; then a save that depends on the first payload is accepted. -/
def replacedTwice : List (Fin 2 × RegistryEvent) :=
  [(0, .load), (0, .read (.ok (.object [])) .answered), (0, .refresh (uuid 'f') .answered),
    (0, .read (.ok (.object [])) .answered), (0, .acquireLease "org" (uuid 'b')),
    (1, .acquireFence (leaseOf 'e')), (1, .replace (some "B")), (1, .replace (some "A")),
    (1, .expire globalRotationFenceKey),
    (0, .save true (leaseOf 'b') (.ok registryC) (uuid '1') .answered)]

/-- The payload is written while there is a fence of another owner; the last replacement comes
after the snapshot, and the save that depends on the snapshot overwrites it; and the
revisions go down. -/
theorem replacement_overwritten :
    (((registryMachine digest "org" (Fin 2)).run (registryStart (Fin 2) (some "A"))
        (replacedTwice.take 6)).map fun c =>
          (c.store.redis.payload, c.store.redis.leases globalRotationFenceKey))
      = some (some "A", some (uuid 'e')) ∧
    (((registryMachine digest "org" (Fin 2)).run (registryStart (Fin 2) (some "A"))
        (replacedTwice.take 7)).map fun c =>
          (c.store.redis.payload, c.store.redis.leases globalRotationFenceKey))
      = some (some "B", some (uuid 'e')) ∧
    (((registryMachine digest "org" (Fin 2)).run (registryStart (Fin 2) (some "A"))
        replacedTwice).map fun c => (c.store.redis.payload, observe c 0))
      = some (some "C", some (.ok (etagOf (uuid '1'))),
          [(uuid 'f', some "A"), (uuid '1', some "C")]) ∧
    uuidNumber (uuid '1') < uuidNumber (uuid 'f') := by
  decide +kernel

end Example

end Marty.SigningKeys.Registry
