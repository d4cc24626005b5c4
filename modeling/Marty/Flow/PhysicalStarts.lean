import Marty.Flow.PhysicalRuns
import Marty.Flow.PhysicalStart

/-!
# Physical starts of one key

Any number of calls start a document under one key, one after the other or at once, and
each may stop after any step.  What the first reservation was made with stays with the
key: every call of the provider is made with it, and so is the one instance that is ever
created.

## Main definitions

* `KeyView` — what the store holds of one key; `KeyMove` — what a step does to it.
* `KeySafe`, `KeyContinues` — what holds of a key, and of a key over time.
* `physical_starts_safe` — both hold along every run.
-/

namespace Marty.Flow

open Lib Lib.Checked

/-! ## One key -/

variable {ι : Type}

variable (ι) in
/-- What the store holds of one key. -/
structure KeyView where
  row : Option PhysicalStartIntent
  first : Option FirstReservation
  acquired : List (Acquisition ι)
  nativeCalls : List (NativeCall ι)
  created : List (Creation ι)
  returned : List String

def PhysicalStartStore.view (s : PhysicalStartStore ι) (key : IntentKey) : KeyView ι :=
  ⟨s.intents.get key, s.first key, s.acquired key, s.nativeCalls key, s.created key,
    s.returned key⟩

section

variable (packages : PhysicalStartPackages)

/-- The row keeps what the first reservation was made with. -/
structure FirstOf (first : FirstReservation) (row : PhysicalStartIntent) : Prop where
  instanceId : first.instanceId = row.instanceId
  definitionId : first.definitionId = row.flowDefinitionId
  snapshot : first.snapshot = row.definitionSnapshot
  actor : first.actor = row.initialActor
  createdAt : first.createdAt = row.createdAt
  deadline : first.deadline = row.originalDeadlineAt
  requestHash : requestHashOf packages first.request = row.requestHash
  wellFormed : first.request.toValue.WellFormed

/-- A call of the provider with what the row keeps. -/
structure CallOf (call : NativeCall ι) (row : PhysicalStartIntent) : Prop where
  idempotencyKey : call.native.startIdempotencyKey = some row.instanceId
  flowInstanceId : call.native.flowInstanceId = row.instanceId
  snapshot : packages.readSnapshot row.definitionSnapshot = some call.snapshot
  definitionId : call.snapshot.definition.id = row.flowDefinitionId
  actor : call.actor = row.initialActor
  createdAt : call.createdAt = Utc.ofStored row.createdAt
  requestHash : requestHashOf packages call.request = row.requestHash
  wellFormed : call.request.toValue.WellFormed
  inTime : call.now < Utc.ofStored row.originalDeadlineAt

/-- The moves of one key under a step of caller `i`. -/
inductive KeyMove (i : ι) (v : KeyView ι) : KeyView ι → Prop
  | same : KeyMove i v v
  | reserved {row : PhysicalStartIntent} {first : FirstReservation} {token : String} {now : Utc}
      (hnone : v.row = none) (hfirst : FirstOf packages first row)
      (hpending : row.status = .pending) (htoken : row.claimToken = some token)
      (hnow : now.stored ≤ row.originalDeadlineAt) :
      KeyMove i v { v with
        row := some row
        first := some (v.first.getD first)
        acquired := v.acquired ++ [⟨i, token, now⟩] }
  | takenOver {row : PhysicalStartIntent} {first : FirstReservation} {token : String} {now : Utc}
      (hrow : v.row = some row) (hpending : row.status = .pending)
      (hfresh : token ∉ v.acquired.map (·.token))
      (hnow : now < Utc.ofStored row.originalDeadlineAt) :
      KeyMove i v { v with
        row := some (row.claim token now)
        first := some (v.first.getD first)
        acquired := v.acquired ++ [⟨i, token, now⟩] }
  | called {row : PhysicalStartIntent} {call : NativeCall ι} (hrow : v.row = some row)
      (hcall : CallOf packages call row) :
      KeyMove i v { v with nativeCalls := v.nativeCalls ++ [call] }
  | completed {row : PhysicalStartIntent} {token : String} {now : Utc} (updatedAt : Utc)
      (hrow : v.row = some row) (hpending : row.status = .pending)
      (htoken : row.claimToken = some token) (hmine : ⟨i, token, now⟩ ∈ v.acquired)
      (hnow : now < Utc.ofStored row.originalDeadlineAt) :
      KeyMove i v { v with
        row := some (row.complete updatedAt)
        created := v.created ++ [⟨i, token, now, row.instanceId⟩]
        returned := v.returned ++ [row.instanceId] }
  | returned {row : PhysicalStartIntent} (hrow : v.row = some row)
      (hcompleted : row.status = .completed) :
      KeyMove i v { v with returned := v.returned ++ [row.instanceId] }

end

/-! ## What a call goes by -/

/-- A later state of a row: only the claim changes, and a completed row stays so. -/
structure IntentKept (row row' : PhysicalStartIntent) : Prop where
  requestHash : row'.requestHash = row.requestHash
  snapshot : row'.definitionSnapshot = row.definitionSnapshot
  actor : row'.initialActor = row.initialActor
  deadline : row'.originalDeadlineAt = row.originalDeadlineAt
  definitionId : row'.flowDefinitionId = row.flowDefinitionId
  instanceId : row'.instanceId = row.instanceId
  createdAt : row'.createdAt = row.createdAt
  completed : row.status = .completed → row'.status = .completed

theorem IntentKept.refl (row : PhysicalStartIntent) : IntentKept row row :=
  ⟨rfl, rfl, rfl, rfl, rfl, rfl, rfl, id⟩

theorem IntentKept.trans {a b c : PhysicalStartIntent} (hab : IntentKept a b)
    (hbc : IntentKept b c) : IntentKept a c where
  requestHash := hbc.requestHash.trans hab.requestHash
  snapshot := hbc.snapshot.trans hab.snapshot
  actor := hbc.actor.trans hab.actor
  deadline := hbc.deadline.trans hab.deadline
  definitionId := hbc.definitionId.trans hab.definitionId
  instanceId := hbc.instanceId.trans hab.instanceId
  createdAt := hbc.createdAt.trans hab.createdAt
  completed h := hbc.completed (hab.completed h)

theorem IntentKept.firstOf {packages : PhysicalStartPackages} {first : FirstReservation}
    {row row' : PhysicalStartIntent} (hkept : IntentKept row row')
    (h : FirstOf packages first row) : FirstOf packages first row' where
  instanceId := h.instanceId.trans hkept.instanceId.symm
  definitionId := h.definitionId.trans hkept.definitionId.symm
  snapshot := h.snapshot.trans hkept.snapshot.symm
  actor := h.actor.trans hkept.actor.symm
  createdAt := h.createdAt.trans hkept.createdAt.symm
  deadline := h.deadline.trans hkept.deadline.symm
  requestHash := h.requestHash.trans hkept.requestHash.symm
  wellFormed := h.wellFormed

/-- A key at a later time: nothing that was done for it is undone. -/
structure KeyContinues (v v' : KeyView ι) : Prop where
  row : ∀ {row}, v.row = some row → ∃ row', v'.row = some row' ∧ IntentKept row row'
  first : ∀ {first}, v.first = some first → v'.first = some first
  acquired : v.acquired <+: v'.acquired
  nativeCalls : v.nativeCalls <+: v'.nativeCalls
  created : v.created <+: v'.created
  returned : v.returned <+: v'.returned

theorem KeyContinues.refl (v : KeyView ι) : KeyContinues v v where
  row h := ⟨_, h, .refl _⟩
  first h := h
  acquired := List.prefix_refl _
  nativeCalls := List.prefix_refl _
  created := List.prefix_refl _
  returned := List.prefix_refl _

theorem KeyContinues.trans {a b c : KeyView ι} (hab : KeyContinues a b)
    (hbc : KeyContinues b c) : KeyContinues a c where
  row h := by
    obtain ⟨row', hb, hkept⟩ := hab.row h
    obtain ⟨row'', hc, hkept'⟩ := hbc.row hb
    exact ⟨row'', hc, hkept.trans hkept'⟩
  first h := hbc.first (hab.first h)
  acquired := hab.acquired.trans hbc.acquired
  nativeCalls := hab.nativeCalls.trans hbc.nativeCalls
  created := hab.created.trans hbc.created
  returned := hab.returned.trans hbc.returned

theorem KeyMove.continues {packages : PhysicalStartPackages} {i : ι} {v v' : KeyView ι}
    (h : KeyMove packages i v v') : KeyContinues v v' := by
  have hfirst : ∀ {first first' : FirstReservation}, v.first = some first →
      some (v.first.getD first') = some first := by
    intro first first' h
    rw [h, Option.getD_some]
  cases h with
  | same => exact .refl v
  | reserved hnone _ _ _ _ =>
      refine ⟨?_, hfirst, List.prefix_append _ _, List.prefix_refl _, List.prefix_refl _,
        List.prefix_refl _⟩
      intro row hrow
      rw [hnone] at hrow
      cases hrow
  | takenOver hrow _ _ _ =>
      refine ⟨?_, hfirst, List.prefix_append _ _, List.prefix_refl _, List.prefix_refl _,
        List.prefix_refl _⟩
      intro row' hrow'
      rw [hrow] at hrow'
      cases hrow'
      exact ⟨_, rfl, rfl, rfl, rfl, rfl, rfl, rfl, rfl, id⟩
  | called _ _ =>
      exact ⟨fun h => ⟨_, h, .refl _⟩, id, List.prefix_refl _, List.prefix_append _ _,
        List.prefix_refl _, List.prefix_refl _⟩
  | completed _ hrow _ _ _ _ =>
      refine ⟨?_, id, List.prefix_refl _, List.prefix_refl _, List.prefix_append _ _,
        List.prefix_append _ _⟩
      intro row' hrow'
      rw [hrow] at hrow'
      cases hrow'
      exact ⟨_, rfl, rfl, rfl, rfl, rfl, rfl, rfl, rfl, fun _ => rfl⟩
  | returned _ _ =>
      exact ⟨fun h => ⟨_, h, .refl _⟩, id, List.prefix_refl _, List.prefix_refl _,
        List.prefix_refl _, List.prefix_append _ _⟩

section

variable (packages : PhysicalStartPackages)

/-- The call has claimed the key for the request that the key was reserved for. -/
def Claimed (s : PhysicalStartStore ι) (i : ι) (invocation : PhysicalStartInvocation)
    (claim : PhysicalStartClaim) (P : PhysicalStartIntent → Prop) : Prop :=
  ∃ row, s.intents.get (invocation.key claim.keyHash) = some row ∧
    row.instanceId = claim.instanceId ∧
    row.requestHash = requestHashOf packages invocation.request ∧
    row.flowDefinitionId = invocation.request.flowDefinitionId ∧
    ⟨i, claim.token, invocation.now⟩ ∈ s.acquired (invocation.key claim.keyHash) ∧ P row

/-- What a call between two of its steps knows of the tables. -/
def CallFacts (s : PhysicalStartStore ι) (i : ι) : PhysicalStartCall → Prop
  | .reserving invocation _ record =>
      record.organizationId = invocation.request.organizationId ∧
        record.flowDefinitionId = invocation.request.flowDefinitionId ∧
        ∀ deadline ∈ record.expiresAt, invocation.now ≤ deadline
  | .readingExisting invocation keyHash instanceId =>
      ∃ row, s.intents.get (invocation.key keyHash) = some row ∧ row.status = .completed ∧
        row.instanceId = instanceId
  | .readingOrigin invocation claim => Claimed packages s i invocation claim fun _ => True
  | .calling invocation claim origin persisted record =>
      Claimed packages s i invocation claim (fun row => IntentKept origin row) ∧
        packages.readSnapshot origin.definitionSnapshot = some persisted ∧
        persisted.definition.id = invocation.request.flowDefinitionId ∧
        invocation.now < Utc.ofStored origin.originalDeadlineAt ∧
        record.id = claim.instanceId ∧
        record.organizationId = invocation.request.organizationId
  | .saving invocation claim record =>
      Claimed packages s i invocation claim
          (fun row => invocation.now < Utc.ofStored row.originalDeadlineAt) ∧
        record.id = claim.instanceId ∧
        record.organizationId = invocation.request.organizationId
  | _ => True

end

theorem Claimed.continues {packages : PhysicalStartPackages} {s s' : PhysicalStartStore ι} {i : ι}
    {invocation : PhysicalStartInvocation} {claim : PhysicalStartClaim}
    {P : PhysicalStartIntent → Prop} (hP : ∀ {row row'}, IntentKept row row' → P row → P row')
    (hcont : ∀ key, KeyContinues (s.view key) (s'.view key))
    (h : Claimed packages s i invocation claim P) : Claimed packages s' i invocation claim P := by
  obtain ⟨row, hrow, hinstance, hrequest, hdefinition, hmine, hp⟩ := h
  obtain ⟨row', hrow', hkept⟩ := (hcont (invocation.key claim.keyHash)).row hrow
  exact ⟨row', hrow', hkept.instanceId.trans hinstance, hkept.requestHash.trans hrequest,
    hkept.definitionId.trans hdefinition,
    (hcont (invocation.key claim.keyHash)).acquired.subset hmine, hP hkept hp⟩

theorem CallFacts.continues {packages : PhysicalStartPackages} {s s' : PhysicalStartStore ι}
    {i : ι} {call : PhysicalStartCall}
    (hcont : ∀ key, KeyContinues (s.view key) (s'.view key)) (h : CallFacts packages s i call) :
    CallFacts packages s' i call := by
  cases call with
  | reserving _ _ _ => exact h
  | readingExisting invocation keyHash instanceId =>
      obtain ⟨row, hrow, hcompleted, hinstance⟩ := h
      obtain ⟨row', hrow', hkept⟩ := (hcont (invocation.key keyHash)).row hrow
      exact ⟨row', hrow', hkept.completed hcompleted, hkept.instanceId.trans hinstance⟩
  | readingOrigin _ _ => exact Claimed.continues (fun _ hp => hp) hcont h
  | calling _ _ _ _ _ =>
      exact ⟨Claimed.continues (fun hkept hp => hp.trans hkept) hcont h.1, h.2⟩
  | saving _ _ _ =>
      refine ⟨Claimed.continues ?_ hcont h.1, h.2⟩
      intro row row' hkept hp
      rw [hkept.deadline]
      exact hp
  | _ => trivial

/-! ## What holds of a key -/

section

variable (packages : PhysicalStartPackages)

/-- A call of the provider goes with the first reservation. -/
structure NativeOf (first : FirstReservation) (call : NativeCall ι) : Prop where
  idempotencyKey : call.native.startIdempotencyKey = some first.instanceId
  flowInstanceId : call.native.flowInstanceId = first.instanceId
  snapshot : packages.readSnapshot first.snapshot = some call.snapshot
  actor : call.actor = first.actor
  createdAt : call.createdAt = Utc.ofStored first.createdAt
  /-- It is for the request and the definition that the key was reserved for. -/
  request : (call.request.toValue == first.request.toValue) = true
  definitionId : call.snapshot.definition.id = first.definitionId
  inTime : call.now < Utc.ofStored first.deadline

/-- Everything done for a key goes with its first reservation. -/
structure KeySafe (v : KeyView ι) : Prop where
  created_once : v.created.length ≤ 1
  created : ∀ creation ∈ v.created, ∃ first, v.first = some first ∧
    creation.instanceId = first.instanceId ∧ creation.now < Utc.ofStored first.deadline
  returned : ∀ id ∈ v.returned, ∃ first, v.first = some first ∧ id = first.instanceId
  native : ∀ call ∈ v.nativeCalls, ∃ first, v.first = some first ∧ NativeOf packages first call
  /-- No claim is acquired by a clock past the deadline, and none is taken over from it on. -/
  acquired : ∀ claim ∈ v.acquired, ∃ first, v.first = some first ∧
    claim.now.stored ≤ first.deadline
  takenOver : ∀ claim ∈ v.acquired.tail, ∃ first, v.first = some first ∧
    claim.now < Utc.ofStored first.deadline
  tokens : (v.acquired.map (·.token)).Nodup
  /-- The instance is created under the last claim: nobody has taken it over. -/
  created_last : ∀ creation ∈ v.created, ∃ claim, v.acquired.getLast? = some claim ∧
    claim.caller = creation.caller ∧ claim.token = creation.token

/-- The row of the key, and what a pending row means. -/
structure KeyInv (v : KeyView ι) : Prop extends KeySafe packages v where
  unreserved : v.row = none → v.first = none ∧ v.acquired = []
  reserved : ∀ {row}, v.row = some row → ∃ first, v.first = some first ∧ FirstOf packages first row
  pending : ∀ {row}, v.row = some row → row.status = .pending → v.created = [] ∧
    ∃ claim, v.acquired.getLast? = some claim ∧ row.claimToken = some claim.token

end

section

variable {packages : PhysicalStartPackages}

theorem CallOf.native (hdigest : Function.Injective packages.sha256Hex) {call : NativeCall ι}
    {row : PhysicalStartIntent} {first : FirstReservation} (h : CallOf packages call row)
    (hfirst : FirstOf packages first row) : NativeOf packages first call where
  idempotencyKey := by rw [hfirst.instanceId, h.idempotencyKey]
  flowInstanceId := by rw [hfirst.instanceId, h.flowInstanceId]
  snapshot := by rw [hfirst.snapshot, h.snapshot]
  actor := by rw [hfirst.actor, h.actor]
  createdAt := by rw [hfirst.createdAt, h.createdAt]
  request := by
    have hhash : requestHashOf packages call.request = requestHashOf packages first.request :=
      h.requestHash.trans hfirst.requestHash.symm
    exact Json.Value.canonical_injective h.wellFormed hfirst.wellFormed
      (List.append_cancel_left (hdigest hhash))
  definitionId := by rw [hfirst.definitionId, h.definitionId]
  inTime := by
    rw [hfirst.deadline]
    exact h.inTime

/-- A token that no claim has used is that of a new last claim. -/
theorem nodup_tokens_append {claims : List (Acquisition ι)} {claim : Acquisition ι}
    (h : (claims.map (·.token)).Nodup) (hfresh : claim.token ∉ claims.map (·.token)) :
    ((claims ++ [claim]).map (·.token)).Nodup := by
  rw [List.map_append]
  refine List.Nodup.append h (List.nodup_singleton _) ?_
  intro token htoken hsingle
  rw [List.map_singleton, List.mem_singleton] at hsingle
  subst hsingle
  exact hfresh htoken

/-- A key that nobody has named. -/
theorem KeyInv.unset : KeyInv packages (⟨none, none, [], [], [], []⟩ : KeyView ι) := by
  constructor
  · constructor
    · exact Nat.zero_le _
    · intro creation hcreation
      cases hcreation
    · intro id hid
      cases hid
    · intro call hcall
      cases hcall
    · intro claim hclaim
      cases hclaim
    · intro claim hclaim
      cases hclaim
    · exact List.nodup_nil
    · intro creation hcreation
      cases hcreation
  · exact fun _ => ⟨rfl, rfl⟩
  · intro row hrow
    cases hrow
  · intro row hrow
    cases hrow

/-- A key that has just been reserved. -/
theorem KeyInv.fresh {i : ι} {row : PhysicalStartIntent} {first : FirstReservation}
    {token : String} {now : Utc} (hfirst : FirstOf packages first row)
    (htoken : row.claimToken = some token) (hnow : now.stored ≤ row.originalDeadlineAt) :
    KeyInv packages ⟨some row, some first, [(⟨i, token, now⟩ : Acquisition ι)], [], [], []⟩ := by
  constructor
  · constructor
    · exact Nat.zero_le _
    · intro creation hcreation
      cases hcreation
    · intro id hid
      cases hid
    · intro call hcall
      cases hcall
    · intro claim hclaim
      rw [List.mem_singleton] at hclaim
      subst hclaim
      exact ⟨first, rfl, by rw [hfirst.deadline]; exact hnow⟩
    · intro claim hclaim
      cases hclaim
    · exact List.nodup_singleton _
    · intro creation hcreation
      cases hcreation
  · intro hnone
    cases hnone
  · rintro row' ⟨⟩
    exact ⟨first, rfl, hfirst⟩
  · rintro row' ⟨⟩ -
    exact ⟨rfl, _, rfl, htoken⟩

theorem KeyInv.reserve {i : ι} {v : KeyView ι} {row : PhysicalStartIntent}
    {first : FirstReservation} {token : String} {now : Utc} (h : KeyInv packages v)
    (hnone : v.row = none) (hfirst : FirstOf packages first row)
    (htoken : row.claimToken = some token) (hnow : now.stored ≤ row.originalDeadlineAt) :
    KeyInv packages { v with
      row := some row
      first := some (v.first.getD first)
      acquired := v.acquired ++ [⟨i, token, now⟩] } := by
  obtain ⟨hunset, hclaims⟩ := h.unreserved hnone
  have hunset' : ∀ {α : Type} {l : List α} {P : α → FirstReservation → Prop},
      (∀ a ∈ l, ∃ first, v.first = some first ∧ P a first) → l = [] := by
    intro α l P hl
    refine List.eq_nil_iff_forall_not_mem.mpr ?_
    intro a ha
    obtain ⟨first', hfirst', -⟩ := hl a ha
    rw [hunset] at hfirst'
    cases hfirst'
  have hcreated : v.created = [] := hunset' h.created
  have hreturned : v.returned = [] := hunset' h.returned
  have hnative : v.nativeCalls = [] := hunset' h.native
  have hview : ({ v with
      row := some row
      first := some (v.first.getD first)
      acquired := v.acquired ++ [⟨i, token, now⟩] } : KeyView ι) =
      ⟨some row, some first, [⟨i, token, now⟩], [], [], []⟩ := by
    rw [hunset, hclaims, hcreated, hreturned, hnative, Option.getD_none, List.nil_append]
  rw [hview]
  exact .fresh hfirst htoken hnow

theorem KeyInv.takeOver {i : ι} {v : KeyView ι} {row : PhysicalStartIntent}
    {other : FirstReservation} {token : String} {now : Utc} (h : KeyInv packages v)
    (hrow : v.row = some row) (hpending : row.status = .pending)
    (hfresh : token ∉ v.acquired.map (·.token))
    (hnow : now < Utc.ofStored row.originalDeadlineAt) :
    KeyInv packages { v with
      row := some (row.claim token now)
      first := some (v.first.getD other)
      acquired := v.acquired ++ [⟨i, token, now⟩] } := by
  obtain ⟨first, hfirst, hof⟩ := h.reserved hrow
  obtain ⟨hcreated, last, hlast, -⟩ := h.pending hrow hpending
  have hsame : some (v.first.getD other) = v.first := by rw [hfirst, Option.getD_some]
  rw [hsame]
  have hstored : now.stored ≤ first.deadline := by
    have hdiv : ∀ a b : Int, a < b * 1000 → a / 1000 ≤ b := by omega
    rw [hof.deadline]
    exact hdiv _ _ hnow
  have hnew : ∀ claim ∈ [(⟨i, token, now⟩ : Acquisition ι)],
      claim.now < Utc.ofStored first.deadline ∧ claim.now.stored ≤ first.deadline := by
    intro claim hclaim
    rw [List.mem_singleton] at hclaim
    subst hclaim
    rw [hof.deadline] at hstored ⊢
    exact ⟨hnow, hstored⟩
  have hne : v.acquired ≠ [] := by
    intro hnil
    rw [hnil] at hlast
    cases hlast
  refine ⟨⟨h.created_once, h.created, h.returned, h.native, ?_, ?_,
    nodup_tokens_append h.tokens hfresh, ?_⟩, nofun, ?_, ?_⟩
  · intro claim hclaim
    rcases List.mem_append.mp hclaim with hclaim | hclaim
    · exact h.acquired claim hclaim
    · exact ⟨first, hfirst, (hnew claim hclaim).2⟩
  · intro claim hclaim
    rw [List.tail_append_of_ne_nil hne] at hclaim
    rcases List.mem_append.mp hclaim with hclaim | hclaim
    · exact h.takenOver claim hclaim
    · exact ⟨first, hfirst, (hnew claim hclaim).1⟩
  · intro creation hcreation
    rw [hcreated] at hcreation
    cases hcreation
  · rintro row' ⟨⟩
    refine ⟨first, hfirst, IntentKept.firstOf ?_ hof⟩
    exact ⟨rfl, rfl, rfl, rfl, rfl, rfl, rfl, id⟩
  · rintro row' ⟨⟩ -
    exact ⟨hcreated, _, List.getLast?_concat, rfl⟩

theorem KeyInv.complete {i : ι} {v : KeyView ι} {row : PhysicalStartIntent} {token : String}
    {now : Utc} (updatedAt : Utc) (h : KeyInv packages v) (hrow : v.row = some row)
    (hpending : row.status = .pending) (htoken : row.claimToken = some token)
    (hmine : ⟨i, token, now⟩ ∈ v.acquired)
    (hnow : now < Utc.ofStored row.originalDeadlineAt) :
    KeyInv packages { v with
      row := some (row.complete updatedAt)
      created := v.created ++ [⟨i, token, now, row.instanceId⟩]
      returned := v.returned ++ [row.instanceId] } := by
  obtain ⟨first, hfirst, hof⟩ := h.reserved hrow
  obtain ⟨hcreated, last, hlast, hclaim⟩ := h.pending hrow hpending
  have hsame : last = ⟨i, token, now⟩ :=
    List.inj_on_of_nodup_map h.tokens (List.mem_of_getLast? hlast) hmine
      (Option.some.inj (hclaim.symm.trans htoken))
  rw [hcreated, List.nil_append]
  refine ⟨⟨le_refl _, ?_, ?_, h.native, h.acquired, h.takenOver, h.tokens, ?_⟩, nofun, ?_, ?_⟩
  · intro creation hcreation
    rw [List.mem_singleton] at hcreation
    subst hcreation
    exact ⟨first, hfirst, hof.instanceId.symm, by rw [hof.deadline]; exact hnow⟩
  · intro id hid
    rcases List.mem_append.mp hid with hid | hid
    · exact h.returned id hid
    · rw [List.mem_singleton] at hid
      exact ⟨first, hfirst, hid.trans hof.instanceId.symm⟩
  · intro creation hcreation
    rw [List.mem_singleton] at hcreation
    subst hcreation
    exact ⟨last, hlast, by rw [hsame], by rw [hsame]⟩
  · rintro row' ⟨⟩
    refine ⟨first, hfirst, IntentKept.firstOf ?_ hof⟩
    exact ⟨rfl, rfl, rfl, rfl, rfl, rfl, rfl, fun _ => rfl⟩
  · rintro row' ⟨⟩ hstatus
    cases hstatus

/-- **One step** leaves everything done for a key with its first reservation. -/
theorem KeyInv.move (hdigest : Function.Injective packages.sha256Hex) {i : ι} {v v' : KeyView ι}
    (h : KeyInv packages v) (hmove : KeyMove packages i v v') : KeyInv packages v' := by
  cases hmove with
  | same => exact h
  | reserved hnone hfirst _ htoken hnow => exact h.reserve hnone hfirst htoken hnow
  | takenOver hrow hpending hfresh hnow => exact h.takeOver hrow hpending hfresh hnow
  | completed updatedAt hrow hpending htoken hmine hnow =>
      exact h.complete updatedAt hrow hpending htoken hmine hnow
  | called hrow hcall =>
      obtain ⟨first, hfirst, hof⟩ := h.reserved hrow
      refine ⟨⟨h.created_once, h.created, h.returned, ?_, h.acquired, h.takenOver, h.tokens,
        h.created_last⟩, h.unreserved, h.reserved, h.pending⟩
      intro call hmem
      rcases List.mem_append.mp hmem with hmem | hmem
      · exact h.native call hmem
      · rw [List.mem_singleton] at hmem
        subst hmem
        exact ⟨first, hfirst, hcall.native hdigest hof⟩
  | returned hrow _ =>
      obtain ⟨first, hfirst, hof⟩ := h.reserved hrow
      refine ⟨⟨h.created_once, h.created, ?_, h.native, h.acquired, h.takenOver, h.tokens,
        h.created_last⟩, h.unreserved, h.reserved, h.pending⟩
      intro id hmem
      rcases List.mem_append.mp hmem with hmem | hmem
      · exact h.returned id hmem
      · rw [List.mem_singleton] at hmem
        exact ⟨first, hfirst, hmem.trans hof.instanceId.symm⟩

end

/-! ## What a step does -/

section

variable {packages : Packages} {startPackages : PhysicalStartPackages}

theorem startInstanceRecord_eq_ok {definition : FlowDefinitionRecord} {request : StartFlowRequest}
    {actor : String} {now : Utc} {id : String} {record : FlowInstanceRecord}
    (h : startInstanceRecord packages definition request actor now id = .ok record) :
    record.id = id ∧ record.organizationId = definition.organizationId ∧
      record.flowDefinitionId = definition.id ∧ ∃ deadline, record.expiresAt = some deadline ∧
        now ≤ deadline := by
  obtain ⟨_, _, deadline, hstarted⟩ := start_eq_ok packages h
  have hexpires := hstarted.expires
  have hle : now ≤ deadline := by
    have hsum : ∀ (t : Int) (n : Nat), t ≤ t + n * 1000000000 := by omega
    rw [Utc.checkedAddSeconds] at hexpires
    split at hexpires
    · cases hexpires
      exact hsum _ _
    · cases hexpires
  rw [hstarted.record_eq]
  exact ⟨rfl, rfl, rfl, deadline, rfl, hle⟩

theorem prepareReservation_eq_ok {s : PhysicalStartStore ι} {i : ι}
    {invocation : PhysicalStartInvocation} {providers : FlowProviderRegistry} {id : String}
    {candidate : PhysicalStartSnapshot} {record : FlowInstanceRecord}
    (h : prepareReservation packages startPackages s.intents invocation providers id =
      .ok (candidate, record)) :
    CallFacts startPackages s i (.reserving invocation candidate record) := by
  simp only [prepareReservation, bind_eq_ok, exists_unit, mapError_eq_ok, rejectIf_eq_ok, not_not,
    pure, Except.pure, Except.ok.injEq, Prod.mk.injEq] at h
  obtain ⟨_, -, _, -, hmatches, _, hstarted, rfl, rfl⟩ := h
  obtain ⟨-, horganization, hdefinition, deadline, hdeadline, hle⟩ :=
    startInstanceRecord_eq_ok hstarted
  refine ⟨horganization.trans hmatches.1, hdefinition.trans hmatches.2.1, ?_⟩
  intro d hd
  rw [hdeadline, Option.mem_some_iff] at hd
  rw [← hd]
  exact hle

/-- **A reservation** inserts the row of its key, takes the claim over, or finds the row of
another call. -/
theorem reservePhysicalStart_eq_ok {intents intents' : PhysicalStartIntents}
    {input : PhysicalStartReservationInput} {token : String} {answer : PhysicalStartReservation}
    (h : reservePhysicalStart startPackages intents input token = .ok (intents', answer)) :
    (intents.get (intentKey input.organizationId input.keyHash) = none ∧
      intents' = intents.insert (intentKey input.organizationId input.keyHash)
        (input.intent startPackages token) ∧
      answer = .acquired input.proposedInstanceId token) ∨
    ∃ intent, intents.get (intentKey input.organizationId input.keyHash) = some intent ∧
      intent.requestHash = input.requestHash ∧ intent.flowDefinitionId = input.definitionId ∧
      ((intent.status = .pending ∧ input.now < Utc.ofStored intent.originalDeadlineAt ∧
          intents' = intents.insert (intentKey input.organizationId input.keyHash)
            (intent.claim token input.now) ∧ answer = .acquired intent.instanceId token) ∨
        intents' = intents ∧ (answer = .inProgress intent.instanceId ∨
          answer = .expired intent.instanceId ∨
          answer = .completed intent.instanceId ∧ intent.status = .completed)) := by
  simp only [reservePhysicalStart, bind_eq_ok, exists_unit, rejectIf_eq_ok] at h
  obtain ⟨-, -, -, h⟩ := h
  cases hrow : intents.get (intentKey input.organizationId input.keyHash) with
  | none =>
      simp only [hrow, bind_eq_ok, exists_unit, rejectIf_eq_ok, pure, Except.pure, Except.ok.injEq,
        Prod.mk.injEq] at h
      obtain ⟨-, rfl, rfl⟩ := h
      exact .inl ⟨rfl, rfl, rfl⟩
  | some intent =>
      rw [hrow] at h
      simp only [reserveExisting] at h
      split at h
      · cases h
      next hsame =>
        rw [not_or, not_not, not_not] at hsame
        refine .inr ⟨intent, rfl, hsame.1, hsame.2, ?_⟩
        split at h
        · next hcompleted =>
            cases h
            exact .inr ⟨rfl, .inr (.inr ⟨rfl, hcompleted⟩)⟩
        split at h
        · cases h
          exact .inr ⟨rfl, .inr (.inl rfl)⟩
        split at h
        · cases h
          exact .inr ⟨rfl, .inl rfl⟩
        next hopen hlate _ =>
          cases h
          refine .inl ⟨?_, not_le.mp hlate, rfl, rfl⟩
          cases hstatus : intent.status with
          | pending => rfl
          | completed => exact absurd hstatus hopen

theorem readExistingInstance_eq_ok {instances : InstanceTable}
    {invocation : PhysicalStartInvocation} {instanceId : String} {result : PhysicalStartResult}
    (h : readExistingInstance instances invocation instanceId = .ok result) :
    result.record.id = instanceId := by
  simp only [readExistingInstance, bind_eq_ok, exists_unit, okOr_eq_ok, pure, Except.pure,
    Except.ok.injEq] at h
  obtain ⟨existing, hexisting, -, rfl⟩ := h
  exact InstanceTable.id_of_get hexisting

theorem decodeSnapshot_eq_ok {value : Value} {organizationId : String}
    {snapshot : PhysicalStartSnapshot}
    (h : decodeSnapshot startPackages value organizationId = .ok snapshot) :
    startPackages.readSnapshot value = some snapshot := by
  simp only [decodeSnapshot, bind_eq_ok, exists_unit, okOr_eq_ok, pure, Except.pure,
    Except.ok.injEq] at h
  obtain ⟨_, hread, -, rfl⟩ := h
  exact hread

theorem prepareNative_eq_ok {s : PhysicalStartStore ι} {i : ι}
    {invocation : PhysicalStartInvocation} {claim : PhysicalStartClaim}
    {origin : PhysicalStartIntent} {persisted : PhysicalStartSnapshot}
    {record : FlowInstanceRecord}
    (h : prepareNative packages startPackages s.intents invocation claim =
      .ok (origin, persisted, record))
    (hclaimed : Claimed startPackages s i invocation claim fun _ => True) :
    CallFacts startPackages s i (.calling invocation claim origin persisted record) := by
  simp only [prepareNative, bind_eq_ok, exists_unit, okOr_eq_ok, rejectIf_eq_ok, mapError_eq_ok,
    not_not, pure, Except.pure, Except.ok.injEq, Prod.mk.injEq] at h
  obtain ⟨-, _, horigin, _, hdecode, hmatches, hlate, _, hstarted, rfl, rfl, rfl⟩ := h
  obtain ⟨hid, horganization, -, -⟩ := startInstanceRecord_eq_ok hstarted
  obtain ⟨row, hrow, hinstance, hrequest, hdefinition, hmine, -⟩ := hclaimed
  rw [horigin] at hrow
  cases hrow
  refine ⟨⟨_, horigin, hinstance, hrequest, hdefinition, hmine, .refl _⟩,
    decodeSnapshot_eq_ok hdecode, hmatches.2.1, not_le.mp hlate, hid,
    horganization.trans hmatches.1⟩

theorem initialRequest_eq_ok {providers : FlowProviderRegistry}
    {definition : FlowDefinitionRecord} {record : FlowInstanceRecord}
    {startIdempotencyKey issuerDid : Option String} {request : PhysicalDocumentRequest}
    (h : initialRequest providers definition record startIdempotencyKey issuerDid = .ok request) :
    request.startIdempotencyKey = startIdempotencyKey ∧ request.flowInstanceId = record.id := by
  simp only [initialRequest, bind_eq_ok, exists_unit, pure, Except.pure, Except.ok.injEq] at h
  obtain ⟨_, -, _, -, -, _, -, _, -, _, -, _, -, rfl⟩ := h
  exact ⟨rfl, rfl⟩

theorem takeInitialAnswer_eq_ok {record record' : FlowInstanceRecord}
    {result : PhysicalDocumentResult} (h : takeInitialAnswer record result = .ok record') :
    record'.id = record.id ∧ record'.organizationId = record.organizationId := by
  simp only [takeInitialAnswer, bind_eq_ok, pure, Except.pure, Except.ok.injEq] at h
  obtain ⟨_, -, _, -, rfl⟩ := h
  exact ⟨rfl, rfl⟩

theorem saveStarted_eq_ok {intents intents' : PhysicalStartIntents}
    {instances instances' : InstanceTable} {record : FlowInstanceRecord}
    {keyHash claimToken : String}
    (h : saveStartedPhysicalInstance packages intents instances record keyHash claimToken =
      .ok (intents', instances', true)) :
    ∃ intent, intents.get (intentKey record.organizationId keyHash) = some intent ∧
      intent.instanceId = record.id ∧ intent.claimToken = some claimToken ∧
      intent.status = .pending ∧
      intents' = intents.insert (intentKey record.organizationId keyHash)
        (intent.complete record.updatedAt) := by
  simp only [saveStartedPhysicalInstance, bind_eq_ok, exists_unit] at h
  obtain ⟨-, -, h⟩ := h
  split at h
  · next intent _ hrow =>
      split at h
      · next hmatch =>
          cases h
          exact ⟨intent, hrow, hmatch.1, hmatch.2.1, hmatch.2.2, rfl⟩
      · cases h
  · cases h

/-! ### The store after a step -/

theorem view_acquire (s : PhysicalStartStore ι) (key key' : IntentKey) (row : PhysicalStartIntent)
    (first : FirstReservation) (claim : Acquisition ι) :
    ((({ s with intents := s.intents.insert key row }).withFirst key first).acquire key
        claim).view key' =
      if key' = key then
        { s.view key with
          row := some row
          first := some ((s.view key).first.getD first)
          acquired := (s.view key).acquired ++ [claim] }
      else s.view key' := by
  by_cases h : key' = key
  · subst h
    simp [PhysicalStartStore.view, PhysicalStartStore.withFirst, PhysicalStartStore.acquire]
  · simp [PhysicalStartStore.view, PhysicalStartStore.withFirst, PhysicalStartStore.acquire, h]

theorem view_logCall (s : PhysicalStartStore ι) (key key' : IntentKey) (call : NativeCall ι) :
    (s.logCall key call).view key' =
      if key' = key then
        { s.view key with nativeCalls := (s.view key).nativeCalls ++ [call] }
      else s.view key' := by
  by_cases h : key' = key
  · subst h
    simp [PhysicalStartStore.view, PhysicalStartStore.logCall]
  · simp [PhysicalStartStore.view, PhysicalStartStore.logCall, h]

theorem view_answer (s : PhysicalStartStore ι) (key key' : IntentKey) (id : String) :
    (s.answer key id).view key' =
      if key' = key then { s.view key with returned := (s.view key).returned ++ [id] }
      else s.view key' := by
  by_cases h : key' = key
  · subst h
    simp [PhysicalStartStore.view, PhysicalStartStore.answer]
  · simp [PhysicalStartStore.view, PhysicalStartStore.answer, h]

theorem view_complete (s : PhysicalStartStore ι) (key key' : IntentKey)
    (row : PhysicalStartIntent) (instances : InstanceTable) (creation : Creation ι)
    (id : String) :
    ((({ s with intents := s.intents.insert key row, instances := instances }).create key
        creation).answer key id).view key' =
      if key' = key then
        { s.view key with
          row := some row
          created := (s.view key).created ++ [creation]
          returned := (s.view key).returned ++ [id] }
      else s.view key' := by
  by_cases h : key' = key
  · subst h
    simp [PhysicalStartStore.view, PhysicalStartStore.create, PhysicalStartStore.answer]
  · simp [PhysicalStartStore.view, PhysicalStartStore.create, PhysicalStartStore.answer, h]

/-- What a step shows: the moves of the keys, and what its call knows next. -/
def StepFacts (packages : PhysicalStartPackages) (i : ι) (s s' : PhysicalStartStore ι)
    (call' : PhysicalStartCall) : Prop :=
  (∀ key, KeyMove packages i (s.view key) (s'.view key)) ∧ CallFacts packages s' i call'

theorem StepFacts.same {i : ι} {s : PhysicalStartStore ι} {call' : PhysicalStartCall}
    (h : CallFacts startPackages s i call') : StepFacts startPackages i s s call' :=
  ⟨fun _ => .same, h⟩

/-- A step that moves one key. -/
theorem moves_of_key {i : ι} {s s' : PhysicalStartStore ι} {key : IntentKey} {v : KeyView ι}
    (hview : ∀ key', s'.view key' = if key' = key then v else s.view key')
    (hmove : KeyMove startPackages i (s.view key) v) (key' : IntentKey) :
    KeyMove startPackages i (s.view key') (s'.view key') := by
  rw [hview]
  split
  · next h =>
      subst h
      exact hmove
  · exact .same

theorem reserveStep_facts {i : ι} {token : String} {s s' : PhysicalStartStore ι}
    {invocation : PhysicalStartInvocation} {candidate : PhysicalStartSnapshot}
    {record : FlowInstanceRecord} {call' : PhysicalStartCall}
    (hfacts : CallFacts startPackages s i (.reserving invocation candidate record))
    (h : reserveStep startPackages i token s invocation candidate record = some (s', call')) :
    StepFacts startPackages i s s' call' := by
  obtain ⟨horganization, hdefinition, hdeadline⟩ := hfacts
  simp only [reserveStep] at h
  cases hexpires : record.expiresAt with
  | none =>
      simp only [hexpires, Option.some.injEq, Prod.mk.injEq] at h
      obtain ⟨rfl, rfl⟩ := h
      exact .same trivial
  | some deadline =>
      rw [hexpires] at h
      dsimp only at h
      set input := reservationInput startPackages invocation candidate record deadline with hinput
      have hkey : invocation.key input.keyHash = intentKey input.organizationId input.keyHash := by
        rw [PhysicalStartInvocation.key, ← horganization]
        rfl
      have hrequested : input.definitionId = invocation.request.flowDefinitionId := hdefinition
      cases hreserve : reservePhysicalStart startPackages s.intents input token with
      | error error =>
          simp only [hreserve, Option.some.injEq, Prod.mk.injEq] at h
          obtain ⟨rfl, rfl⟩ := h
          exact .same trivial
      | ok result =>
          obtain ⟨intents, answer⟩ := result
          rw [hreserve] at h
          rcases reservePhysicalStart_eq_ok hreserve with ⟨hnone, rfl, rfl⟩ |
            ⟨intent, hrow, hhash, hsame, ⟨hpending, hnow, rfl, rfl⟩ | ⟨rfl, hanswer⟩⟩
          · -- the first reservation of the key
            dsimp only at h
            split at h
            · cases h
            next hfresh =>
              rw [Option.some.injEq, Prod.mk.injEq] at h
              obtain ⟨rfl, rfl⟩ := h
              have hstored : invocation.now.stored ≤ deadline.stored := by
                have hdiv : ∀ a b : Int, a ≤ b → a / 1000 ≤ b / 1000 := by omega
                exact hdiv _ _ (hdeadline deadline (by rw [hexpires]; rfl))
              refine ⟨moves_of_key (view_acquire s _ · _ _ _) (.reserved hnone ?_ rfl rfl hstored),
                ?_⟩
              · exact ⟨rfl, rfl, rfl, rfl, rfl, rfl, rfl, invocation.wellFormed⟩
              · refine ⟨input.intent startPackages token, ?_, rfl, rfl, hrequested, ?_, trivial⟩
                · rw [hkey]
                  simp [PhysicalStartStore.withFirst, PhysicalStartStore.acquire]
                · rw [hkey]
                  simp [PhysicalStartStore.withFirst, PhysicalStartStore.acquire]
          · -- a claim that has run out
            dsimp only at h
            split at h
            · cases h
            next hfresh =>
              rw [Option.some.injEq, Prod.mk.injEq] at h
              obtain ⟨rfl, rfl⟩ := h
              refine ⟨moves_of_key (view_acquire s _ · _ _ _)
                (.takenOver hrow hpending hfresh hnow), ?_⟩
              refine ⟨intent.claim token input.now, ?_, rfl, hhash, hsame.trans hrequested, ?_,
                trivial⟩
              · rw [hkey]
                simp [PhysicalStartStore.withFirst, PhysicalStartStore.acquire]
              · rw [hkey]
                simp [PhysicalStartStore.withFirst, PhysicalStartStore.acquire]
          · -- the row of another call
            rcases hanswer with rfl | rfl | ⟨rfl, hcompleted⟩
            · cases h
              exact .same trivial
            · cases h
              exact .same trivial
            · cases h
              refine .same ⟨intent, ?_, hcompleted, rfl⟩
              rw [hkey]
              exact hrow

theorem nativeStep_facts {i : ι} (providers : FlowProviderRegistry) {s : PhysicalStartStore ι}
    {invocation : PhysicalStartInvocation} {claim : PhysicalStartClaim}
    {origin : PhysicalStartIntent} {persisted : PhysicalStartSnapshot}
    {record : FlowInstanceRecord}
    (hfacts : CallFacts startPackages s i (.calling invocation claim origin persisted record)) :
    StepFacts startPackages i s
      (nativeStep i providers s invocation claim origin persisted record).1
      (nativeStep i providers s invocation claim origin persisted record).2 := by
  obtain ⟨⟨row, hrow, hinstance, hrequest, hdefinition, hmine, hkept⟩, hread, hpersisted, hlate,
    hid, horganization⟩ := hfacts
  cases hinitial : initialRequest providers persisted.definition record (some claim.instanceId)
      (some persisted.issuerDid) with
  | error error =>
      simp only [nativeStep, hinitial]
      exact .same trivial
  | ok request =>
      cases hprovider : requireProvider providers.physicalDocument "physical_document" with
      | error error =>
          simp only [nativeStep, hinitial, hprovider]
          exact .same trivial
      | ok provider =>
          simp only [nativeStep, hinitial, hprovider]
          obtain ⟨hidempotency, hflow⟩ := initialRequest_eq_ok hinitial
          have hcall : CallOf startPackages ⟨i, invocation.now, invocation.request, persisted,
              origin.initialActor, Utc.ofStored origin.createdAt, request⟩ row := by
            refine ⟨?_, ?_, ?_, ?_, ?_, ?_, ?_, invocation.wellFormed, ?_⟩
            · rw [hidempotency, hinstance]
            · rw [hflow, hid, hinstance]
            · rw [hkept.snapshot, hread]
            · rw [hpersisted, hdefinition]
            · rw [hkept.actor]
            · rw [hkept.createdAt]
            · rw [hrequest]
            · rw [hkept.deadline]
              exact hlate
          have hmoves := moves_of_key (i := i) (view_logCall s _ · _) (.called hrow hcall)
          refine ⟨hmoves, ?_⟩
          cases hanswer : (provider request).mapError .provider >>= takeInitialAnswer record with
          | error error => trivial
          | ok record' =>
              rw [bind_eq_ok] at hanswer
              obtain ⟨result, -, htaken⟩ := hanswer
              obtain ⟨hsameId, hsameOrganization⟩ := takeInitialAnswer_eq_ok htaken
              have hclaimed : Claimed startPackages s i invocation claim
                  fun row => invocation.now < Utc.ofStored row.originalDeadlineAt :=
                ⟨row, hrow, hinstance, hrequest, hdefinition, hmine, hcall.inTime⟩
              refine ⟨hclaimed.continues ?_ fun key => (hmoves key).continues,
                hsameId.trans hid, hsameOrganization.trans horganization⟩
              intro row row' hkept hp
              rw [hkept.deadline]
              exact hp

theorem saveStep_facts (packages : Packages) {i : ι} {s : PhysicalStartStore ι}
    {invocation : PhysicalStartInvocation} {claim : PhysicalStartClaim}
    {record : FlowInstanceRecord}
    (hfacts : CallFacts startPackages s i (.saving invocation claim record)) :
    StepFacts startPackages i s (saveStep packages i s invocation claim record).1
      (saveStep packages i s invocation claim record).2 := by
  obtain ⟨⟨row, hrow, hinstance, -, -, hmine, hlate⟩, hid, horganization⟩ := hfacts
  cases hsave : saveStartedPhysicalInstance packages s.intents s.instances record claim.keyHash
      claim.token with
  | error error =>
      simp only [saveStep, hsave]
      exact .same trivial
  | ok result =>
      obtain ⟨intents, instances, saved⟩ := result
      cases saved with
      | false =>
          simp only [saveStep, hsave]
          exact .same trivial
      | true =>
          obtain ⟨intent, hintent, hintentId, htoken, hpending, rfl⟩ := saveStarted_eq_ok hsave
          have hkey : invocation.key claim.keyHash =
              intentKey record.organizationId claim.keyHash := by
            rw [PhysicalStartInvocation.key, ← horganization]
          rw [hkey] at hrow hmine
          rw [hintent] at hrow
          cases hrow
          simp only [saveStep, hsave]
          refine ⟨moves_of_key (view_complete s _ · _ _ _ _) ?_, trivial⟩
          rw [← hintentId]
          exact .completed record.updatedAt hintent hpending htoken hmine hlate

/-- **One step** moves the keys, and its call knows what it goes by. -/
theorem physicalStartStep_facts {i : ι} {e : PhysicalStartEvent} {s s' : PhysicalStartStore ι}
    {call call' : PhysicalStartCall} (hfacts : CallFacts startPackages s i call)
    (h : physicalStartStep packages startPackages i e s call = some (s', call')) :
    StepFacts startPackages i s s' call' := by
  cases e with
  | stop =>
      cases h
      exact .same trivial
  | write record =>
      cases h
      have hmoves : ∀ key, KeyMove startPackages i (s.view key)
          (({ s with instances := s.instances.put record } : PhysicalStartStore ι).view key) :=
        fun _ => .same
      exact ⟨hmoves, hfacts.continues fun key => (hmoves key).continues⟩
  | begin invocation =>
      cases call with
      | idle =>
          simp only [physicalStartStep] at h
          split at h <;> cases h <;> exact .same trivial
      | _ => cases h
  | readPrior providers id =>
      cases call with
      | reading invocation =>
          simp only [physicalStartStep] at h
          split at h
          · cases h
            exact .same trivial
          · next candidate record hprepared =>
              cases h
              exact .same (prepareReservation_eq_ok hprepared)
      | _ => cases h
  | reserve token =>
      cases call with
      | reserving invocation candidate record => exact reserveStep_facts hfacts h
      | _ => cases h
  | readExisting =>
      cases call with
      | readingExisting invocation keyHash instanceId =>
          obtain ⟨row, hrow, hcompleted, hinstance⟩ := hfacts
          simp only [physicalStartStep] at h
          split at h
          · cases h
            exact .same trivial
          · next result hresult =>
              cases h
              refine ⟨moves_of_key (view_answer s _ · _) ?_, trivial⟩
              rw [readExistingInstance_eq_ok hresult, ← hinstance]
              exact .returned hrow hcompleted
      | _ => cases h
  | readOrigin =>
      cases call with
      | readingOrigin invocation claim =>
          simp only [physicalStartStep] at h
          split at h
          · cases h
            exact .same trivial
          · next origin persisted record hprepared =>
              cases h
              exact .same (prepareNative_eq_ok hprepared hfacts)
      | _ => cases h
  | callNative providers =>
      cases call with
      | calling invocation claim origin persisted record =>
          have hstep := nativeStep_facts providers hfacts
          rwa [Option.some.inj h] at hstep
      | _ => cases h
  | save =>
      cases call with
      | saving invocation claim record =>
          have hstep := saveStep_facts packages hfacts
          rwa [Option.some.inj h] at hstep
      | _ => cases h

end

/-! ## Every run -/

section

variable {packages : Packages} {startPackages : PhysicalStartPackages}

structure PhysicalStartInv (startPackages : PhysicalStartPackages)
    (c : Config (PhysicalStartStore ι) ι PhysicalStartCall) : Prop where
  keys : ∀ key, KeyInv startPackages (c.store.view key)
  calls : ∀ i, CallFacts startPackages c.store i (c.calls i)

theorem physicalStartInit_inv (instances : InstanceTable) :
    PhysicalStartInv startPackages
      (physicalStartInit instances : Config (PhysicalStartStore ι) ι PhysicalStartCall) :=
  ⟨fun _ => .unset, fun _ => trivial⟩

variable [DecidableEq ι]

theorem PhysicalStartInv.next (hdigest : Function.Injective startPackages.sha256Hex)
    {c c' : Config (PhysicalStartStore ι) ι PhysicalStartCall} {i : ι} {e : PhysicalStartEvent}
    (h : PhysicalStartInv startPackages c)
    (hstep : (physicalStartMachine packages startPackages).next c i e = some c') :
    PhysicalStartInv startPackages c' ∧
      ∀ key, KeyContinues (c.store.view key) (c'.store.view key) := by
  obtain ⟨s, call, hs, rfl⟩ := Machine.next_eq_some.mp hstep
  obtain ⟨hmoves, hfacts⟩ := physicalStartStep_facts (h.calls i) hs
  have hcontinues := fun key => (hmoves key).continues
  refine ⟨⟨fun key => (h.keys key).move hdigest (hmoves key), ?_⟩, hcontinues⟩
  intro j
  by_cases hj : j = i
  · subst hj
    simpa using hfacts
  · simpa [hj] using (h.calls j).continues hcontinues

/-- **Physical starts are idempotent for each key**, along every run and between any two of
its states. -/
theorem physical_starts_safe (hdigest : Function.Injective startPackages.sha256Hex)
    {instances : InstanceTable} {t u : List (ι × PhysicalStartEvent)}
    {c c' : Config (PhysicalStartStore ι) ι PhysicalStartCall}
    (hreach : (physicalStartMachine packages startPackages).run (physicalStartInit instances) t =
      some c)
    (hrun : (physicalStartMachine packages startPackages).run c u = some c') :
    (∀ key, KeySafe startPackages (c'.store.view key)) ∧
      ∀ key, KeyContinues (c.store.view key) (c'.store.view key) := by
  let R : Config (PhysicalStartStore ι) ι PhysicalStartCall →
      Config (PhysicalStartStore ι) ι PhysicalStartCall → Prop :=
    fun c c' => ∀ key, KeyContinues (c.store.view key) (c'.store.view key)
  have hrefl : ∀ c, R c c := fun c key => .refl _
  have htrans : ∀ a b c, R a b → R b c → R a c := fun a b c hab hbc key =>
    (hab key).trans (hbc key)
  have hstep : ∀ c i e c', PhysicalStartInv startPackages c →
      (physicalStartMachine packages startPackages).next c i e = some c' →
      PhysicalStartInv startPackages c' ∧ R c c' :=
    fun (c : Config (PhysicalStartStore ι) ι PhysicalStartCall) i e c' h hnext =>
      h.next hdigest hnext
  have hinv := (Machine.run_induct_rel hrefl htrans hstep (physicalStartInit_inv instances)
    hreach).1
  have hinv' := Machine.run_induct_rel hrefl htrans hstep hinv hrun
  exact ⟨fun key => (hinv'.1.keys key).toKeySafe, hinv'.2⟩

end

namespace Example

def startKeyText : List Char := "marty:physical-flow-start-key:v1:owned-flow:42".toList

/-- The digests of a key and of a request, and an injective function elsewhere. -/
def startDigest (text : List Char) : String :=
  if text = startKeyText then
    "3b088a8e4de45fb18d3a1e6c584fda0ecf6f2070c521b7b2c9464f8d7d61eb31"
  else if text = "marty:physical-flow-start-request:v1:".toList ++
      physicalStartRequest.toValue.canonical then
    "2f915424cb93bf3fb9e86454ccacfc4c350f334a65d1849e06cdd1664b7bf3f8"
  else String.ofList ('s' :: text)

def startPackages : PhysicalStartPackages where
  sha256Hex := startDigest
  writeSnapshot snapshot := .object [
    ("definition", .object [("id", .string snapshot.definition.id)]),
    ("issuer_did", .string snapshot.issuerDid)]
  readSnapshot value := do
    let id ← (((value.get "definition").bind (·.get "id")).bind Json.Value.asStr).filter
      (· == physicalDefinition.id)
    let issuerDid ← (value.get "issuer_did").bind Json.Value.asStr
    return ⟨{ physicalDefinition with id := id }, issuerDid⟩

theorem startDigest_injective : Function.Injective startDigest := by
  have hother : ∀ (text : List Char) (digest : String), digest.toList.head? ≠ some 's' →
      String.ofList ('s' :: text) ≠ digest := by
    intro text digest hhead heq
    rw [← heq, String.toList_ofList] at hhead
    exact hhead rfl
  intro a b h
  unfold startDigest at h
  split at h
  · next ha =>
      split at h
      · next hb => exact ha.trans hb.symm
      split at h
      · exact absurd h (by decide)
      · exact absurd h.symm (hother _ _ (by decide))
  split at h
  · next ha =>
      split at h
      · exact absurd h (by decide)
      split at h
      · next hb => exact ha.trans hb.symm
      · exact absurd h.symm (hother _ _ (by decide))
  split at h
  · exact absurd h (hother _ _ (by decide))
  split at h
  · exact absurd h (hother _ _ (by decide))
  · exact (List.cons.inj (String.ofList_injective h)).2

theorem physicalStartRequest_wellFormed : physicalStartRequest.toValue.WellFormed := by
  simp [physicalStartRequest, startRequest, StartFlowRequest.toValue, Json.Value.WellFormed,
    Json.entriesWellFormed]

def physicalInvocation (now : Utc) : PhysicalStartInvocation where
  definition := physicalDefinition
  request := physicalStartRequest
  actor := "client"
  now := now
  clientKey := some "owned-flow:42"
  wellFormed := physicalStartRequest_wellFormed

def startProviders : FlowProviderRegistry where
  credentialTemplate := some fun id =>
    .ok ⟨id, "org-1", "ACTIVE", "Passport", "did:web:issuer.example", "icao_emrtd",
      "PHYSICAL_DOCUMENT"⟩
  physicalDocument := physicalProviders.physicalDocument

/-- The second call takes the claim over while the first one is with the provider. -/
def startSchedule : List (Fin 2 × PhysicalStartEvent) :=
  [(0, .begin (physicalInvocation 0)), (0, .readPrior startProviders "instance-1"),
    (0, .reserve "token-1"), (1, .begin (physicalInvocation 60000000000)),
    (1, .readPrior startProviders "instance-2"), (1, .reserve "token-2"), (1, .readOrigin),
    (1, .callNative startProviders), (1, .save)]

def takenOverRun : {c : Config (PhysicalStartStore (Fin 2)) (Fin 2) PhysicalStartCall //
    (physicalStartMachine packages startPackages).run (physicalStartInit .empty) startSchedule =
      some c ∧
    c.store.returned (intentKey "org-1" (startDigest startKeyText)) = ["instance-1"]} :=
  (physicalStartMachine packages startPackages).observed (by decide +kernel)

/-- `physical_starts_safe` at a claim that is taken over. -/
theorem physical_starts_safe_takenOver :
    ∃ c : Config (PhysicalStartStore (Fin 2)) (Fin 2) PhysicalStartCall,
      (physicalStartMachine packages startPackages).run (physicalStartInit .empty) startSchedule =
        some c ∧
      c.store.returned (intentKey "org-1" (startDigest startKeyText)) = ["instance-1"] ∧
      (∀ key, KeySafe startPackages (c.store.view key)) ∧
      ∀ key, KeyContinues (c.store.view key) (c.store.view key) := by
  obtain ⟨hrun, hreturned⟩ := takenOverRun.2
  exact ⟨takenOverRun, hrun, hreturned,
    physical_starts_safe startDigest_injective hrun Machine.run_nil⟩

end Example

end Marty.Flow
