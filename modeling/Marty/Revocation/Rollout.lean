import Marty.Revocation.Reservation

/-!
# Both allocators on one list

While the durable allocator is rolled out, the legacy one still increments the Redis
counter of the same list.  Each reads the other's state at its own moment: a
reservation reads the counter as its floor well before it writes its row, and the
counter learns of the row only afterwards, if at all.  A legacy increment in between
gives the index of the row out a second time.

`RolloutSafe` is what a step has to meet for this not to happen: the counter that a
legacy call increments is the index of no row, and a row is written only while the
counter has not passed the index it gets.

## Main definitions

* `IndexesUnique` — the two allocators never returned one index of a list.
* `rollout_indexes_unique` — it holds along every run whose steps are all safe.
* `rollout_index_returned_twice` — a run with an unsafe step that breaks it.
-/

namespace Marty.Revocation

open Marty.Lib

section Rollout

variable {B T E ι : Type} {K : StatusKernel B T E} {backend : Backend} {publicBaseUrl : String}
  {request : ι → AllocationRequest}

/-- The status list of a row. -/
def StatusIndexAllocation.key (a : StatusIndexAllocation) : StatusKey :=
  (a.organizationId ++ ":" ++ a.profileId, a.format)

/-- The status list of a request. -/
def ReserveRequest.key (a : ReserveRequest) : StatusKey :=
  (a.organizationId ++ ":" ++ a.profileId, statusFormat a.credentialFormat)

variable (request) in
/-- No index of a list was returned both by a legacy call and by a reservation. -/
def IndexesUnique (c : Config (AllocationStore ι) ι (AllocationCall E)) : Prop :=
  ∀ i j scope format size key n a x r, request i = .legacy scope format size →
    request j = .reserve a → (scope, format) = a.key →
    c.calls i = .allocated key n → c.calls j = .done x r → n ≠ r.index

/-- The counter of a legacy increment is the index of no row, and a row is written
only while the counter has not passed the index it gets. -/
def StepSafe (s : AllocationStore ι) : AllocationCall E → Prop
  | .incrementing key size => s.statuses.nextIndices key < size →
      ∀ e ∈ s.log, e.row.key = key → e.index ≠ s.statuses.nextIndices key
  | .floored x floor => s.ledger.allocations x.credentialId = none →
      s.statuses.nextIndices x.key ≤ max (s.ledger.nextIndex (x.reservation floor).scope) floor
  | _ => True

instance decidableStepSafe (s : AllocationStore ι) (call : AllocationCall E) :
    Decidable (StepSafe s call) :=
  match call with
  | .incrementing key size => inferInstanceAs (Decidable (s.statuses.nextIndices key < size →
      ∀ e ∈ s.log, e.row.key = key → e.index ≠ s.statuses.nextIndices key))
  | .floored x floor => inferInstanceAs (Decidable (s.ledger.allocations x.credentialId = none →
      s.statuses.nextIndices x.key ≤ max (s.ledger.nextIndex (x.reservation floor).scope) floor))
  | .start | .authorized _ | .listed _ | .reserved .. | .done .. | .allocated .. | .refused _
  | .failed _ => .isTrue trivial

/-- A step that may take effect is safe. -/
def RolloutSafe (c : Config (AllocationStore ι) ι (AllocationCall E)) (i : ι)
    (e : AllocationEvent) : Prop :=
  match e with
  | .exec .. | .lose .. => StepSafe c.store (c.calls i)
  | _ => True

instance decidableRolloutSafe (c : Config (AllocationStore ι) ι (AllocationCall E)) (i : ι)
    (e : AllocationEvent) : Decidable (RolloutSafe c i e) :=
  match e with
  | .exec .. | .lose .. => decidableStepSafe c.store (c.calls i)
  | .fail _ | .saveProfile _ | .deleteProfile _ | .setStatus .. => .isTrue trivial

/-! ## One step -/

/-- What the legacy call that was given `n` relies on. -/
def LegacyOwns (s : AllocationStore ι) (key : StatusKey) (n : Nat) : Prop :=
  n < s.statuses.nextIndices key ∧
    ∀ c a, s.ledger.allocations c = some a → a.key = key → a.index ≠ n

/-- Counters only rise, and a new row lies at or above the counter of its list. -/
structure CountersKept (s s' : AllocationStore ι) : Prop where
  counters : ∀ key, s.statuses.nextIndices key ≤ s'.statuses.nextIndices key
  rows : ∀ {c a}, s'.ledger.allocations c = some a →
    s.ledger.allocations c = some a ∨ s.statuses.nextIndices a.key ≤ a.index

theorem LegacyOwns.kept {s s' : AllocationStore ι} {key : StatusKey} {n : Nat}
    (h : LegacyOwns s key n) (hs : CountersKept s s') : LegacyOwns s' key n := by
  refine ⟨Nat.lt_of_lt_of_le h.1 (hs.counters key), fun c a ha hk => ?_⟩
  rcases hs.rows ha with hold | hnew
  · exact h.2 c a hold hk
  · rw [hk] at hnew
    have := h.1
    omega

/-- A step that writes no row only has to raise counters. -/
private theorem countersKept_quiet {s s' : AllocationStore ι}
    (hrows : s'.ledger.allocations = s.ledger.allocations)
    (h : ∀ key, s.statuses.nextIndices key ≤ s'.statuses.nextIndices key) : CountersKept s s' :=
  ⟨h, fun ha => .inl (hrows ▸ ha)⟩

private theorem getOrCreate_nextIndices {s s' : StatusStore} {key : StatusKey} {size : Nat}
    {id : String} {now : DateTime} {res : Except (StatusError E) StatusListRecord}
    (h : s.getOrCreate K key size id now = (res, s')) : s'.nextIndices = s.nextIndices := by
  unfold StatusStore.getOrCreate at h
  split at h
  · split at h <;> cases h <;> rfl
  · split at h <;> cases h <;> rfl

private theorem setStatus_nextIndices {s : StatusStore} {key : StatusKey} {size index : Nat}
    {status : UInt8} {id : String} {now : DateTime} :
    (s.setStatus K key size index status id now).nextIndices = s.nextIndices := by
  unfold StatusStore.setStatus
  split
  · exact getOrCreate_nextIndices ‹_›
  · rename_i hget
    have hnext := getOrCreate_nextIndices hget
    split
    · exact hnext
    · exact hnext

private theorem countersKept_getOrCreate {s : AllocationStore ι} {statuses : StatusStore}
    {key : StatusKey} {size : Nat} {id : String} {now : DateTime}
    {res : Except (StatusError E) StatusListRecord}
    (h : s.statuses.getOrCreate K key size id now = (res, statuses)) :
    CountersKept s { s with statuses := statuses } := by
  refine countersKept_quiet rfl fun _ => ?_
  simp only [getOrCreate_nextIndices h, le_refl]

private theorem update_nextIndices_le {s : StatusStore} {key : StatusKey} {n : Nat}
    (h : s.nextIndices key ≤ n) (k : StatusKey) :
    s.nextIndices k ≤ Function.update s.nextIndices key n k := by
  by_cases hk : k = key
  · subst hk
    simpa using h
  · simp [hk]

private theorem reserveStep_rollout {i : ι} {s s' : AllocationStore ι} {x : ReserveContext}
    {floor : Nat} {call : AllocationCall E}
    (hsafe : s.ledger.allocations x.credentialId = none →
      s.statuses.nextIndices x.key ≤ max (s.ledger.nextIndex (x.reservation floor).scope) floor)
    (h : reserveStep backend i s x floor = (s', call)) :
    CountersKept s s' ∧ ∀ key n, call ≠ .allocated key n := by
  unfold reserveStep at h
  generalize hr : backend.reserveStatusIndex s.profiles.find s.ledger (x.reservation floor) = out
    at h
  obtain ⟨res, ledger⟩ := out
  have hmove := reserveStatusIndex_move hr
  cases hmove with
  | refused error ledger hrows hnext =>
      cases h
      exact ⟨countersKept_quiet hrows fun _ => le_rfl, nofun⟩
  | existing a hrow hscope =>
      cases h
      exact ⟨countersKept_quiet rfl fun _ => le_rfl, nofun⟩
  | fresh hnone hsize =>
      cases h
      refine ⟨⟨fun _ => le_rfl, fun {c a} ha => ?_⟩, nofun⟩
      have hself := (s.ledger.raise (x.reservation floor).scope floor).allocate_allocations_self
        (x.reservation floor).scope hnone
      rw [AllocationLedger.raise_nextIndex_self] at hself
      by_cases hc : c = x.credentialId
      · subst hc
        obtain rfl := Option.some.inj (hself.symm.trans ha)
        exact .inr (hsafe hnone)
      · exact .inl ((AllocationLedger.allocate_allocations_of_ne
          (s.ledger.raise (x.reservation floor).scope floor) _ hnone hc).symm.trans ha)

private theorem allocationExec_rollout {i : ι} {id : String} {now : DateTime}
    {s s' : AllocationStore ι} {call call' : AllocationCall E} (hs : LedgerLogged s)
    (hsafe : StepSafe s call)
    (h : allocationExec K backend publicBaseUrl request i id now s call = some (s', call')) :
    CountersKept s s' ∧ ∀ key n, call' = .allocated key n → LegacyOwns s' key n := by
  cases call with
  | start =>
      simp only [allocationExec] at h
      split at h
      · split at h <;> cases h <;> exact ⟨countersKept_quiet rfl fun _ => le_rfl, fun _ _ hcall => by cases hcall⟩
      · split at h <;> cases h <;> exact ⟨countersKept_getOrCreate ‹_›, fun _ _ hcall => by cases hcall⟩
  | authorized x =>
      simp only [allocationExec] at h
      split at h <;> cases h <;> exact ⟨countersKept_getOrCreate ‹_›, fun _ _ hcall => by cases hcall⟩
  | listed x =>
      cases h
      exact ⟨countersKept_quiet rfl fun _ => le_rfl, fun _ _ hcall => by cases hcall⟩
  | floored x floor =>
      obtain ⟨hk, hne⟩ := reserveStep_rollout hsafe (Option.some.inj h)
      exact ⟨hk, fun key n hcall => absurd hcall (hne key n)⟩
  | reserved x index =>
      cases h
      refine ⟨countersKept_quiet rfl fun key => ?_, fun _ _ hcall => by cases hcall⟩
      simp only [StatusStore.advanceAllocationFloor]
      split
      · exact update_nextIndices_le (le_of_lt ‹_›) key
      · exact le_rfl
  | incrementing key size =>
      simp only [allocationExec, StatusStore.allocateIndexScript] at h
      by_cases hsize : size ≤ s.statuses.nextIndices key
      · simp only [if_pos hsize] at h
        cases h
        exact ⟨countersKept_quiet rfl fun _ => le_rfl, fun _ _ hcall => by cases hcall⟩
      · simp only [if_neg hsize] at h
        cases h
        refine ⟨countersKept_quiet rfl (update_nextIndices_le (Nat.le_succ _)), ?_⟩
        rintro _ _ ⟨rfl, rfl⟩
        refine ⟨by simp, fun c a ha hkey => ?_⟩
        obtain ⟨e, he, -, rfl⟩ := hs.rows ha
        exact hsafe (by omega) e he hkey
  | done | allocated | refused | failed => cases h

private theorem afterFailure_ne_allocated {i : ι} {message : String}
    {call call' : AllocationCall E} (h : call.afterFailure K (request i) message = some call')
    (key : StatusKey) (n : Nat) : call' ≠ .allocated key n := by
  cases call with
  | start =>
      simp only [AllocationCall.afterFailure] at h
      split at h <;> cases h <;> exact fun hcall => by cases hcall
  | authorized | listed | floored | reserved | incrementing =>
      cases h
      exact fun hcall => by cases hcall
  | done | allocated | refused | failed => cases h

variable [DecidableEq ι]

/-- Every legacy call owns the index it was given. -/
def LegacyDisjoint (c : Config (AllocationStore ι) ι (AllocationCall E)) : Prop :=
  ∀ i key n, c.calls i = .allocated key n → LegacyOwns c.store key n

theorem LegacyDisjoint.next {c c' : Config (AllocationStore ι) ι (AllocationCall E)} {i : ι}
    {e : AllocationEvent} (hs : LedgerLogged c.store) (hc : LegacyDisjoint c)
    (hsafe : RolloutSafe c i e)
    (h : (allocationMachine K backend publicBaseUrl request).next c i e = some c') :
    LegacyDisjoint c' := by
  obtain ⟨s, call, hstep, rfl⟩ := Machine.next_eq_some.mp h
  have hgoal : CountersKept c.store s ∧ ∀ key n, call = .allocated key n →
      LegacyOwns s key n ∨ c.calls i = .allocated key n := by
    cases e with
    | exec id now =>
        obtain ⟨hk, hnew⟩ := allocationExec_rollout hs hsafe hstep
        exact ⟨hk, fun key n hcall => .inl (hnew key n hcall)⟩
    | lose id now message =>
        simp only [allocationMachine, allocationStep, Option.bind_eq_bind,
          Option.bind_eq_some_iff] at hstep
        obtain ⟨⟨s₁, call₁⟩, hexec, call₂, hfail, h⟩ := hstep
        cases h
        exact ⟨(allocationExec_rollout hs hsafe hexec).1,
          fun key n hcall => absurd hcall (afterFailure_ne_allocated hfail key n)⟩
    | fail message =>
        obtain ⟨call₁, hfail, h⟩ := Option.map_eq_some_iff.mp hstep
        cases h
        exact ⟨countersKept_quiet rfl fun _ => le_rfl,
          fun key n hcall => absurd hcall (afterFailure_ne_allocated hfail key n)⟩
    | saveProfile p =>
        cases hstep
        exact ⟨countersKept_quiet rfl fun _ => le_rfl, fun _ _ => .inr⟩
    | deleteProfile profileId =>
        cases hstep
        exact ⟨countersKept_quiet rfl fun _ => le_rfl, fun _ _ => .inr⟩
    | setStatus key size index status id now =>
        cases hstep
        exact ⟨countersKept_quiet rfl fun _ => by rw [setStatus_nextIndices], fun _ _ => .inr⟩
  obtain ⟨hkept, hnew⟩ := hgoal
  intro j key n hj
  by_cases hji : j = i
  · subst hji
    simp only [Function.update_self] at hj
    rcases hnew key n hj with hown | hold
    · exact hown
    · exact (hc j key n hold).kept hkept
  · simp only [Function.update_of_ne hji] at hj
    exact (hc j key n hj).kept hkept

/-! ## Runs -/

/-- **Safe steps keep the indexes of both allocators apart.** -/
theorem rollout_indexes_unique {profiles : ProfileTable} {statuses : StatusStore}
    {t : List (ι × AllocationEvent)} {c : Config (AllocationStore ι) ι (AllocationCall E)}
    (hsafe : (allocationMachine K backend publicBaseUrl request).Guarded RolloutSafe
      (allocationInit profiles statuses) t)
    (h : (allocationMachine K backend publicBaseUrl request).run
      (allocationInit profiles statuses) t = some c) : IndexesUnique request c := by
  have hc : Allocated request c ∧ LegacyDisjoint c := by
    refine Machine.guarded_induct (P := fun c => Allocated request c ∧ LegacyDisjoint c)
      (fun a i e b ha hsafe hab => ⟨ha.1.next hab, ha.2.next ha.1.ledger hsafe hab⟩)
      ⟨Allocated.init profiles statuses, nofun⟩ hsafe h
  intro i j scope format size key n a x r hi hj hkey hdi hdj hn
  have hcall := hc.1.calls i
  rw [hdi] at hcall
  obtain ⟨size', hi'⟩ := hcall
  obtain ⟨rfl, rfl, -⟩ : scope = key.1 ∧ format = key.2 ∧ size = size' := by
    simpa using hi.symm.trans hi'
  have hdone := hc.1.calls j
  rw [hdj] at hdone
  obtain ⟨⟨a', hj', -, h2, h3, h4⟩, -, hrow⟩ := hdone
  obtain rfl : a' = a := by simpa using hj'.symm.trans hj
  refine (hc.2 i key n hdi).2 _ _ hrow ?_ hn.symm
  rw [show key = a'.key from hkey]
  simp [StatusIndexAllocation.key, ReserveContext.row, ReserveRequest.key, h2, h3, h4]

end Rollout

/-! ## A reservation and a legacy increment -/

/-- Call `0` reserves an index durably, call `1` asks the legacy allocator. -/
def rolloutRequest : Fin 2 → AllocationRequest
  | 0 => .reserve ⟨"profile-a", "org-a", "mdoc", "credential-a"⟩
  | 1 => .legacy "org-a:profile-a" .tokenStatusList 4

/-- The legacy call increments the counter only after the reservation advanced it. -/
def rolloutSchedule : List (Fin 2 × AllocationEvent) :=
  [(0, .saveProfile retryProfile), (0, .exec "" 0), (0, .exec "list" 1), (0, .exec "" 1),
   (0, .exec "" 2), (0, .exec "" 3), (1, .exec "" 4), (1, .exec "" 4)]

theorem rollout_indexes_unique_example :
    ∃ c, (allocationMachine byteKernel .postgres "https://status.example.test"
        rolloutRequest).run (allocationInit ⟨fun _ => none, nofun⟩ ⟨fun _ => none, fun _ => 0⟩)
        rolloutSchedule = some c ∧ IndexesUnique rolloutRequest c := by
  have hrun : ((allocationMachine byteKernel .postgres "https://status.example.test"
      rolloutRequest).run (allocationInit ⟨fun _ => none, nofun⟩ ⟨fun _ => none, fun _ => 0⟩)
      rolloutSchedule).isSome = true := by
    decide +kernel
  obtain ⟨c, hc⟩ := Option.isSome_iff_exists.mp hrun
  exact ⟨c, hc, rollout_indexes_unique (by decide +kernel) hc⟩

/-- The legacy call increments the counter after the reservation read it. -/
def rolloutRaceSchedule : List (Fin 2 × AllocationEvent) :=
  [(0, .saveProfile retryProfile), (0, .exec "" 0), (0, .exec "list" 1), (0, .exec "" 1),
   (1, .exec "" 2), (1, .exec "" 2), (0, .exec "" 3), (0, .exec "" 4)]

/-- **Both allocators return index `0` of one list** when the legacy increment falls
between the read of the floor and the reservation. -/
theorem rollout_index_returned_twice :
    ∃ c, (allocationMachine byteKernel .postgres "https://status.example.test"
        rolloutRequest).run (allocationInit ⟨fun _ => none, nofun⟩ ⟨fun _ => none, fun _ => 0⟩)
        rolloutRaceSchedule = some c ∧ ¬ IndexesUnique rolloutRequest c := by
  have hrun : ((allocationMachine byteKernel .postgres "https://status.example.test"
      rolloutRequest).run (allocationInit ⟨fun _ => none, nofun⟩ ⟨fun _ => none, fun _ => 0⟩)
      rolloutRaceSchedule).map (fun c => (c.calls 0, c.calls 1)) =
      some (.done ⟨"credential-a", retryProfile, .tokenStatusList⟩ ⟨"org-a", 0,
          "https://status.example.test/v1/organizations/org-a/revocation-profiles/profile-a/" ++
          "status-lists/token-status-list/revocation"⟩,
        .allocated ("org-a:profile-a", .tokenStatusList) 0) := by
    decide +kernel
  obtain ⟨c, hc, hcalls⟩ := Option.map_eq_some_iff.mp hrun
  obtain ⟨h0, h1⟩ := Prod.mk.inj hcalls
  exact ⟨c, hc, fun hunique =>
    hunique 1 0 _ _ _ _ _ _ _ _ rfl rfl (by decide) h1 h0 rfl⟩

end Marty.Revocation
