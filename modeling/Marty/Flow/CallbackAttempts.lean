import Marty.Flow.CallbackDelivery

/-!
# The limit of attempts

The dispatchers share one configuration, with a limit of attempts.  An attempt is counted when
a callback is leased, and the limit is looked at when the failure of an attempt is recorded: a
dispatcher that stops in its last attempt leaves a lease behind, and the claim that finds the
lease run out counts one attempt more.

## Main definitions

* `DeliveryEvent.sent` — the callback that a step sends.
* `WithinLimit` — no state lets an event pass the limit.
* `TakesOver` — a claim takes over the lease of a last attempt.

## Main results

* `attempts_limited` — while no claim takes over a last attempt, the limit is kept, and an
  event that used it up is not claimed again.
* `attempts_limited_fails` — a dispatcher that stops lets an event pass the limit.
-/

namespace Marty.Flow

open Lib Lib.Checked

variable {ι : Type}

/-! ## What is sent -/

/-- The callback that a step sends: a destination that is rejected is not called. -/
def DeliveryEvent.sent : DeliveryEvent → Dispatcher → Option ClaimedCallback
  | .attempt answer, .delivering (callback :: _) =>
      if answer = .destinationRejected then none else some callback
  | _, _ => none

theorem DeliveryEvent.sent_mem {e : DeliveryEvent} {dispatcher : Dispatcher}
    {callback : ClaimedCallback} (h : e.sent dispatcher = some callback) :
    callback ∈ dispatcher.callbacks := by
  unfold DeliveryEvent.sent at h
  split at h
  · split at h
    · cases h
    · cases h
      exact List.mem_cons_self
  · cases h

/-! ## Claims -/

/-- A callback that is handed out is the one found for its event, and stands for a due row. -/
theorem claimDueCallbacks_mem {packages : Packages} {outbox outbox' : CallbackOutbox}
    {now leaseExpiresAt : Utc} {limit : Nat} {scan : RowScan} {token : String → String}
    {claimed : List ClaimedCallback}
    (h : claimDueCallbacks packages outbox now leaseExpiresAt limit scan token =
      .ok (outbox', claimed)) {callback : ClaimedCallback} (hmem : callback ∈ claimed) :
    claimed.find? (·.eventId == callback.eventId) = some callback ∧
      ∃ row, (callback.eventId, row) ∈
        dueCallbacks (outbox.mapValues (·.sweep now.stored)) now.stored limit scan := by
  simp only [claimDueCallbacks, bind_eq_ok, exists_unit] at h
  obtain ⟨-, claims, hclaims, hok⟩ := h
  cases hok
  have hclaimed := claimedCallbacks_eq_ok hclaims
  rw [hclaimed] at hmem
  obtain ⟨entry, hentry, rfl⟩ := List.mem_map.mp hmem
  refine ⟨?_, entry.2, hentry⟩
  rw [hclaimed]
  exact find?_map_of_nodup (dueCallbacks_nodup _ _ _ _) hentry

/-- A row that a claim leases is among those that are due. -/
theorem mem_dueCallbacks_of_found {packages : Packages} {outbox outbox' : CallbackOutbox}
    {now leaseExpiresAt : Utc} {limit : Nat} {scan : RowScan} {token : String → String}
    {claimed : List ClaimedCallback} {eventId : String} {row : CallbackRow}
    {callback : ClaimedCallback}
    (h : claimDueCallbacks packages outbox now leaseExpiresAt limit scan token =
      .ok (outbox', claimed)) (hrow : outbox.get eventId = some row)
    (hfound : claimed.find? (·.eventId == eventId) = some callback) :
    (eventId, row) ∈
      dueCallbacks (outbox.mapValues (·.sweep now.stored)) now.stored limit scan := by
  have hkey := List.find?_some hfound
  have hevent : callback.eventId = eventId := beq_iff_eq.mp hkey
  obtain ⟨-, due, hdue⟩ := claimDueCallbacks_mem h (List.mem_of_find?_eq_some hfound)
  rw [hevent] at hdue
  have hmem := mem_dueCallbacks hdue
  rw [BTreeMap.mapValues, BTreeMap.get_mapEntries, hrow, Option.map_some,
    Option.some.injEq] at hmem
  obtain ⟨hswept, hdue'⟩ := hmem
  rw [← hswept] at hdue'
  rw [CallbackRow.sweep_of_due hdue'] at hswept
  rw [hswept]
  exact hdue

/-! ## Rows within the limit -/

section

variable {config : CallbackDeliveryConfig}

/-- A row that has passed no limit, and waits only for an attempt that is left. -/
structure CallbackRow.Within (config : CallbackDeliveryConfig) (row : CallbackRow) : Prop where
  count : row.attemptCount ≤ config.maxAttempts
  waiting : row.status ∈ [CallbackStatus.pending, .retry] → row.attemptCount < config.maxAttempts

theorem CallbackRow.Within.of_status {row row' : CallbackRow} (h : row.Within config)
    (hcount : row'.attemptCount = row.attemptCount)
    (hstatus : row'.status ∉ [CallbackStatus.pending, .retry]) : row'.Within config :=
  ⟨hcount.symm ▸ h.count, fun hwaiting => absurd hwaiting hstatus⟩

theorem CallbackRow.within_new {row : CallbackRow} (hcount : row.attemptCount = 0) :
    row.Within config := by
  have hpositive := config.maxAttempts_bounds.1
  exact ⟨by omega, fun _ => by omega⟩

theorem CallbackRow.Within.sweep {row : CallbackRow} (h : row.Within config) (now : DateTime) :
    (row.sweep now).Within config := by
  rcases row.sweep_cases now with hsame | ⟨hexpired, -, hcount⟩
  · rw [hsame]
    exact h
  · exact h.of_status hcount (by simp [hexpired])

theorem CallbackRow.within_lease {row : CallbackRow} (h : row.attemptCount < config.maxAttempts)
    (token : String) (leaseExpiresAt : DateTime) :
    (row.lease token leaseExpiresAt).Within config := by
  refine ⟨?_, ?_⟩
  · change min (row.attemptCount + 1) i32Max ≤ config.maxAttempts
    omega
  · intro hwaiting
    simp [CallbackRow.lease] at hwaiting

/-- A recorded failure leaves the row waiting only when an attempt is left. -/
theorem CallbackRow.Within.failed {row : CallbackRow} (h : row.Within config)
    (next : DateTime) (forceTerminal : Bool) (errorCode : String) :
    (row.failed next (config.terminal row.attemptCount forceTerminal) errorCode).Within
      config := by
  refine ⟨h.count, ?_⟩
  change _ → row.attemptCount < config.maxAttempts
  intro hwaiting
  by_contra hused
  have hterminal : config.terminal row.attemptCount forceTerminal = true := by
    simp only [CallbackDeliveryConfig.terminal, Bool.or_eq_true, decide_eq_true_eq]
    exact .inr (not_lt.mp hused)
  rw [hterminal] at hwaiting
  simp [CallbackRow.failed] at hwaiting

end

/-! ## States within the limit -/

/-- The callback carries the number of the claim it was handed out by. -/
def ClaimedCallback.Numbered (s : DeliveryStore ι) (callback : ClaimedCallback) : Prop :=
  ∃ claim ∈ s.claims callback.eventId,
    claim.token = callback.leaseToken ∧ claim.attempt = callback.attemptCount

/-- What a state keeps: rows within the limit, and callbacks that carry the numbers of their
claims. -/
structure WithinLimit (config : CallbackDeliveryConfig)
    (c : Config (DeliveryStore ι) ι Dispatcher) : Prop where
  row : ∀ eventId row, c.store.outbox.get eventId = some row → row.Within config
  numbered : ∀ i, ∀ callback ∈ (c.calls i).callbacks, callback.Numbered c.store

theorem deliveryInit_within {config : CallbackDeliveryConfig} :
    WithinLimit config (deliveryInit : Config (DeliveryStore ι) ι Dispatcher) := by
  refine ⟨?_, ?_⟩
  · intro eventId row hrow
    cases hrow
  · intro i callback hcallback
    cases hcallback

/-- A claim has the number of its place, which the row counts. -/
theorem EventInv.attempt_le {v : EventView ι} (h : EventInv v) {row : CallbackRow}
    (hrow : v.row = some row) {claim : CallbackClaim ι} (hclaim : claim ∈ v.claims) :
    claim.attempt ≤ row.attemptCount := by
  have hmem : claim.attempt ∈ v.claims.map (·.attempt) := List.mem_map_of_mem hclaim
  rw [h.attempts] at hmem
  obtain ⟨k, hk, hattempt⟩ := List.mem_map.mp hmem
  rw [List.mem_range] at hk
  rw [h.count hrow, ← hattempt]
  omega

/-- The claim of the lease in a row has the number that the row counts. -/
theorem EventInv.attempt_eq {v : EventView ι} (h : EventInv v) {row : CallbackRow}
    {token : String} (hrow : v.row = some row) (hlease : row.LeasedUnder token)
    {claim : CallbackClaim ι} (hclaim : claim ∈ v.claims) (htoken : claim.token = token) :
    claim.attempt = row.attemptCount := by
  obtain ⟨last, hlast, hsame, -⟩ := h.current hrow hlease
  have heq : claim = last :=
    List.inj_on_of_nodup_map h.tokens hclaim (List.mem_of_getLast? hlast)
      (htoken.trans hsame.symm)
  subst heq
  have hget : (v.claims.map (·.attempt)).getLast? = some claim.attempt := by
    rw [List.getLast?_map, hlast, Option.map_some]
  rw [h.attempts, List.getLast?_map, List.getLast?_range] at hget
  rw [h.count hrow]
  obtain ⟨n, hn⟩ : ∃ n, v.claims.length = n + 1 :=
    Nat.exists_eq_succ_of_ne_zero (List.length_pos_of_mem hclaim).ne'
  rw [hn] at hget ⊢
  simpa using hget.symm

/-! ## Steps -/

section

variable {packages : Packages} {config : CallbackDeliveryConfig} {s : DeliveryStore ι} {i : ι}

theorem insertCallback_within {outbox outbox' : CallbackOutbox} {callback : Message}
    (hrows : ∀ eventId row, outbox.get eventId = some row → row.Within config)
    (h : insertCallback outbox callback = .ok outbox') :
    ∀ eventId row, outbox'.get eventId = some row → row.Within config := by
  obtain ⟨-, new, -, hcount, rfl⟩ := insertCallback_eq_ok h
  intro eventId row hrow
  rw [BTreeMap.get_insert] at hrow
  split at hrow
  · cases hrow
    exact CallbackRow.within_new hcount
  · exact hrows eventId row hrow

/-- A claim that takes over no last attempt leases within the limit. -/
theorem claimDueCallbacks_within {outbox outbox' : CallbackOutbox} {now leaseExpiresAt : Utc}
    {limit : Nat} {scan : RowScan} {token : String → String} {claimed : List ClaimedCallback}
    (hrows : ∀ eventId row, outbox.get eventId = some row → row.Within config)
    (htake : ∀ entry ∈ dueCallbacks (outbox.mapValues (·.sweep now.stored)) now.stored limit scan,
      entry.2.status = .delivering → entry.2.attemptCount < config.maxAttempts)
    (h : claimDueCallbacks packages outbox now leaseExpiresAt limit scan token =
      .ok (outbox', claimed)) :
    ∀ eventId row, outbox'.get eventId = some row → row.Within config := by
  intro eventId row' hrow'
  rcases claimDueCallbacks_eq_ok h eventId with ⟨-, hget⟩ | ⟨row, hrow, hdue, hget, hfound⟩
  · rw [hget] at hrow'
    obtain ⟨row, hrow, rfl⟩ := Option.map_eq_some_iff.mp hrow'
    exact (hrows eventId row hrow).sweep _
  · rw [hget] at hrow'
    cases hrow'
    refine CallbackRow.within_lease ?_ _ _
    rcases hdue.2 with ⟨hwaiting, -⟩ | ⟨hdelivering, -⟩
    · exact (hrows eventId row hrow).waiting hwaiting
    · exact htake _ (mem_dueCallbacks_of_found h hrow hfound) hdelivering

theorem claimDueCallbacks_numbered {outbox : CallbackOutbox} {now leaseExpiresAt : Utc}
    {limit : Nat} {scan : RowScan} {token : String → String} {callbacks : List ClaimedCallback}
    (h : claimDueCallbacks packages s.outbox now leaseExpiresAt limit scan token =
      .ok (outbox, callbacks)) {callback : ClaimedCallback} (hmem : callback ∈ callbacks) :
    callback.Numbered (s.claimed i now outbox callbacks) := by
  have hfound := (claimDueCallbacks_mem h hmem).1
  refine ⟨callback.claim i now, ?_, rfl, rfl⟩
  simp [DeliveryStore.claimed, hfound]

theorem updateLeased_within {outbox : CallbackOutbox} {eventId leaseToken : String}
    {change : CallbackRow → CallbackRow}
    (hrows : ∀ eventId row, outbox.get eventId = some row → row.Within config)
    (hchange : ∀ row, outbox.get eventId = some row → row.LeasedUnder leaseToken →
      (change row).Within config) :
    ∀ id row, (updateLeased outbox eventId leaseToken change).1.get id = some row →
      row.Within config := by
  intro id row' hrow'
  rcases updateLeased_cases outbox eventId leaseToken change with
    ⟨row, hrow, hlease, heq⟩ | ⟨-, heq⟩
  · rw [heq, BTreeMap.get_insert] at hrow'
    split at hrow'
    · cases hrow'
      exact hchange row hrow hlease
    · exact hrows id row' hrow'
  · rw [heq] at hrow'
    exact hrows id row' hrow'

theorem recordStep_outbox (configs : ι → CallbackDeliveryConfig) (now : Utc)
    (callback : ClaimedCallback) (outcome : DeliveryOutcome) :
    (recordStep configs i now s callback outcome).outbox =
      ((configs i).record s.outbox callback now outcome).1 := by
  rcases record_cases (configs i) s.outbox callback now outcome with
    ⟨row, changed, -, -, heq, -⟩ | ⟨-, heq⟩
  · rw [recordStep, heq]
    rfl
  · rw [recordStep, heq]

/-- A recording leaves rows within the limit: the callback carries the number of its lease. -/
theorem recordStep_within {callback : ClaimedCallback}
    (hrows : ∀ eventId row, s.outbox.get eventId = some row → row.Within config)
    (hevent : EventInv (s.view callback.eventId)) (hnumbered : callback.Numbered s)
    (now : Utc) (outcome : DeliveryOutcome) :
    ∀ eventId row, (recordStep (fun _ => config) i now s callback outcome).outbox.get eventId =
      some row → row.Within config := by
  obtain ⟨claim, hclaim, htoken, hattempt⟩ := hnumbered
  rw [recordStep_outbox]
  cases outcome with
  | delivered =>
      refine updateLeased_within hrows fun row hrow _ => ?_
      exact (hrows _ row hrow).of_status rfl (by simp [CallbackRow.delivered])
  | failed errorCode forceTerminal =>
      refine updateLeased_within hrows fun row hrow hlease => ?_
      have hcount : callback.attemptCount = row.attemptCount :=
        hattempt.symm.trans (hevent.attempt_eq hrow hlease hclaim htoken)
      rw [hcount]
      exact (hrows _ row hrow).failed _ _ _

/-! ## Runs -/

/-- A claim meets a lease that has run out in the last attempt of its event. -/
def TakesOver (config : CallbackDeliveryConfig) (c : Config (DeliveryStore ι) ι Dispatcher) :
    DeliveryEvent → Prop
  | .claim now scan _ =>
      ∃ entry ∈ dueCallbacks (c.store.outbox.mapValues (·.sweep now.stored)) now.stored
        config.batchSize scan, entry.2.status = .delivering ∧
          config.maxAttempts ≤ entry.2.attemptCount
  | _ => False

instance (c : Config (DeliveryStore ι) ι Dispatcher) :
    (e : DeliveryEvent) → Decidable (TakesOver config c e)
  | .claim _ _ _ => inferInstanceAs (Decidable (∃ entry ∈ _, _))
  | .insert _ | .attempt _ | .record _ | .stop => inferInstanceAs (Decidable False)

theorem ClaimedCallback.Numbered.mono {s' : DeliveryStore ι} {callback : ClaimedCallback}
    (h : callback.Numbered s)
    (hclaims : s.claims callback.eventId <+: s'.claims callback.eventId) :
    callback.Numbered s' := by
  obtain ⟨claim, hclaim, hsame⟩ := h
  exact ⟨claim, hclaims.subset hclaim, hsame⟩

/-- **One step** that takes over no last attempt stays within the limit. -/
theorem WithinLimit.next [DecidableEq ι] {c c' : Config (DeliveryStore ι) ι Dispatcher}
    {e : DeliveryEvent} (h : WithinLimit config c) (hinv : DeliveryInv c)
    (htake : ¬ TakesOver config c e)
    (hstep : (deliveryMachine packages fun _ => config).next c i e = some c') :
    WithinLimit config c' := by
  have hcontinues := (hinv.next hstep).2
  have hkept : ∀ callback : ClaimedCallback, callback.Numbered c.store →
      callback.Numbered c'.store := fun callback hnumbered =>
    hnumbered.mono (hcontinues callback.eventId).claims
  suffices hlocal : (∀ eventId row, c'.store.outbox.get eventId = some row →
      row.Within config) ∧ ∀ callback ∈ (c'.calls i).callbacks,
        callback ∈ (c.calls i).callbacks ∨ callback.Numbered c'.store by
    refine ⟨hlocal.1, ?_⟩
    intro j callback hcallback
    by_cases hj : j = i
    · subst hj
      rcases hlocal.2 callback hcallback with hold | hnew
      · exact hkept callback (h.numbered j callback hold)
      · exact hnew
    · rw [Machine.next_calls_of_ne hstep hj] at hcallback
      exact hkept callback (h.numbered j callback hcallback)
  clear hkept hcontinues
  obtain ⟨s', dispatcher, hs, rfl⟩ := Machine.next_eq_some.mp hstep
  simp only [Function.update_self]
  generalize hcall : c.calls i = before at hs ⊢
  cases e with
  | insert callback =>
      cases hinsert : insertCallback c.store.outbox callback with
      | error _ => simp [deliveryMachine, deliveryStep, hinsert] at hs
      | ok outbox =>
          simp only [deliveryMachine, deliveryStep, hinsert, Option.some.injEq,
            Prod.mk.injEq] at hs
          obtain ⟨rfl, rfl⟩ := hs
          exact ⟨insertCallback_within h.row hinsert, fun _ hmem => .inl hmem⟩
  | claim now scan token =>
      cases before with
      | delivering _ => cases hs
      | recording _ _ _ => cases hs
      | idle =>
          simp only [deliveryMachine, deliveryStep, claimStep] at hs
          split at hs
          · cases hs
            exact ⟨h.row, fun _ hmem => .inl hmem⟩
          · split at hs
            · cases hs
              exact ⟨h.row, fun _ hmem => .inl hmem⟩
            · next outbox callbacks hclaim =>
                split at hs
                · cases hs
                  refine ⟨claimDueCallbacks_within h.row ?_ hclaim,
                    fun callback hmem => .inr (claimDueCallbacks_numbered hclaim hmem)⟩
                  intro entry hentry hdelivering
                  by_contra hused
                  exact htake ⟨entry, hentry, hdelivering, not_lt.mp hused⟩
                · cases hs
  | attempt answer =>
      cases before with
      | idle => cases hs
      | recording _ _ _ => cases hs
      | delivering remaining =>
          cases remaining with
          | nil =>
              cases hs
              exact ⟨h.row, fun _ hmem => .inl hmem⟩
          | cons callback remaining =>
              cases hs
              exact ⟨h.row, fun _ hmem => .inl hmem⟩
  | record now =>
      cases before with
      | idle => cases hs
      | delivering _ => cases hs
      | recording callback outcome remaining =>
          cases hs
          have hmem : callback ∈ (c.calls i).callbacks := by
            rw [hcall]
            exact List.mem_cons_self
          exact ⟨recordStep_within h.row (hinv.event _) (h.numbered i callback hmem) now outcome,
            fun _ hrest => .inl (List.mem_cons_of_mem _ hrest)⟩
  | stop =>
      cases hs
      exact ⟨h.row, fun _ hmem => by cases hmem⟩

theorem WithinLimit.attempt_le {c : Config (DeliveryStore ι) ι Dispatcher}
    (h : WithinLimit config c) (hinv : DeliveryInv c) {callback : ClaimedCallback}
    (hmem : callback ∈ (c.calls i).callbacks) : callback.attemptCount ≤ config.maxAttempts := by
  obtain ⟨claim, hclaim, -, hattempt⟩ := h.numbered i callback hmem
  have hevent := hinv.event callback.eventId
  cases hrow : (c.store.view callback.eventId).row with
  | none =>
      have hnone : claim ∈ (c.store.view callback.eventId).claims := hclaim
      rw [hevent.unclaimed (.inl hrow)] at hnone
      cases hnone
  | some row =>
      rw [← hattempt]
      exact (hevent.attempt_le hrow hclaim).trans (h.row _ row hrow).count

theorem WithinLimit.claims_le {c : Config (DeliveryStore ι) ι Dispatcher}
    (h : WithinLimit config c) (hinv : DeliveryInv c) (eventId : String) :
    (c.store.claims eventId).length ≤ config.maxAttempts := by
  have hevent := hinv.event eventId
  change (c.store.view eventId).claims.length ≤ _
  cases hrow : (c.store.view eventId).row with
  | none =>
      rw [hevent.unclaimed (.inl hrow)]
      exact Nat.zero_le _
  | some row =>
      have hcount := hevent.count hrow
      have hwithin := (h.row eventId row hrow).count
      have hlarge := config.maxAttempts_bounds.2
      unfold i32Max at hcount
      omega

/-- Where an event stands that has used up its attempts. -/
inductive UsedUp (s : DeliveryStore ι) (eventId : String) (row : CallbackRow) : Prop
  /-- The last attempt has no outcome yet. -/
  | pending {token : String} (hlease : row.LeasedUnder token)
      (hopen : token ∉ (s.outcomes eventId).map (·.token))
  | succeeded (hstatus : row.status = .delivered)
  | ended (hstatus : row.status ∈ [CallbackStatus.deadLetter, .expired])

/-- **The limit of attempts**: no step sends a callback under a number above it, no event is
claimed more often, and an event that used up its attempts waits for no other. -/
structure AttemptsLimited [DecidableEq ι] (packages : Packages) (config : CallbackDeliveryConfig)
    (c : Config (DeliveryStore ι) ι Dispatcher) : Prop where
  sent : ∀ {i e c' callback}, (deliveryMachine packages fun _ => config).next c i e = some c' →
    e.sent (c.calls i) = some callback → callback.attemptCount ≤ config.maxAttempts
  claims : ∀ eventId, (c.store.claims eventId).length ≤ config.maxAttempts
  usedUp : ∀ eventId row, c.store.outbox.get eventId = some row →
    config.maxAttempts ≤ (c.store.claims eventId).length → UsedUp c.store eventId row

theorem WithinLimit.usedUp {c : Config (DeliveryStore ι) ι Dispatcher}
    (h : WithinLimit config c) (hinv : DeliveryInv c) {eventId : String} {row : CallbackRow}
    (hrow : c.store.outbox.get eventId = some row)
    (hclaims : config.maxAttempts ≤ (c.store.claims eventId).length) :
    UsedUp c.store eventId row := by
  have hevent := hinv.event eventId
  have hcount : row.attemptCount = min (c.store.claims eventId).length i32Max :=
    hevent.count hrow
  have hlarge := config.maxAttempts_bounds.2
  have hwaiting : row.status ∉ [CallbackStatus.pending, .retry] := by
    intro hmem
    have hlt := (h.row eventId row hrow).waiting hmem
    unfold i32Max at hcount
    omega
  cases hstatus : row.status with
  | pending => simp [hstatus] at hwaiting
  | retry => simp [hstatus] at hwaiting
  | delivering =>
      obtain ⟨token, htoken⟩ := hevent.leased hrow hstatus
      obtain ⟨-, -, -, -, hopen⟩ := hevent.current hrow ⟨hstatus, htoken⟩
      exact .pending ⟨hstatus, htoken⟩ hopen
  | delivered => exact .succeeded hstatus
  | deadLetter => exact .ended (by simp [hstatus])
  | expired => exact .ended (by simp [hstatus])

theorem WithinLimit.limited [DecidableEq ι] {c : Config (DeliveryStore ι) ι Dispatcher}
    (h : WithinLimit config c) (hinv : DeliveryInv c) : AttemptsLimited packages config c where
  sent _ hsent := h.attempt_le hinv (DeliveryEvent.sent_mem hsent)
  claims := h.claims_le hinv
  usedUp _ _ hrow hclaims := h.usedUp hinv hrow hclaims

/-- **The limit is kept while no claim takes over a last attempt**, and an event that used up
its attempts is not claimed again. -/
theorem attempts_limited [DecidableEq ι] {t u : List (ι × DeliveryEvent)}
    {c c' : Config (DeliveryStore ι) ι Dispatcher}
    (hfirst : (deliveryMachine packages fun _ => config).Guarded
      (fun c _ e => ¬ TakesOver config c e) deliveryInit t)
    (hreach : (deliveryMachine packages fun _ => config).run deliveryInit t = some c)
    (hlater : (deliveryMachine packages fun _ => config).Guarded
      (fun c _ e => ¬ TakesOver config c e) c u)
    (hrun : (deliveryMachine packages fun _ => config).run c u = some c') :
    AttemptsLimited packages config c' ∧
      ∀ eventId, config.maxAttempts ≤ (c.store.claims eventId).length →
        c'.store.claims eventId = c.store.claims eventId := by
  have hstep : ∀ (c : Config (DeliveryStore ι) ι Dispatcher) i e c',
      DeliveryInv c ∧ WithinLimit config c → ¬ TakesOver config c e →
      (deliveryMachine packages fun _ => config).next c i e = some c' →
      DeliveryInv c' ∧ WithinLimit config c' := by
    intro c i e c' ⟨hinv, hwithin⟩ htake hnext
    exact ⟨(hinv.next hnext).1, hwithin.next hinv htake hnext⟩
  have hstart := Machine.guarded_induct hstep ⟨deliveryInit_inv, deliveryInit_within⟩ hfirst
    hreach
  obtain ⟨hinv, hwithin⟩ := Machine.guarded_induct hstep hstart hlater hrun
  refine ⟨hwithin.limited hinv, ?_⟩
  intro eventId hused
  have hinitial := ((hstart.1.run hrun).2 eventId).claims
  exact (hinitial.eq_of_length_le ((hwithin.claims_le hinv eventId).trans hused)).symm

end

namespace Example

/-- Dispatchers that attempt each callback once. -/
def onceConfig : CallbackDeliveryConfig :=
  { deliveryConfig with
    maxAttempts := 1
    maxAttempts_bounds := by decide }

def onceDeliveries : Machine (DeliveryStore Nat) Nat DeliveryEvent Dispatcher :=
  deliveryMachine packages fun _ => onceConfig

/-- The only attempt fails, and the failure is recorded. -/
def failedOnce : List (Nat × DeliveryEvent) :=
  [(0, .insert callback), (0, .claim 1800000000000000000 scan fun _ => leaseToken 0),
    (0, .attempt (.response 500)), (0, .record 1800000001000000000)]

/-- Another dispatcher looks for callbacks later. -/
def claimedLater : List (Nat × DeliveryEvent) :=
  [(1, .claim 1800000060000000000 scan fun _ => leaseToken 1)]

/-- A callback whose only attempt failed stays within the limit. -/
theorem attempts_limited_once :
    ∃ c c', onceDeliveries.run deliveryInit failedOnce = some c ∧
      onceDeliveries.run c claimedLater = some c' ∧
      AttemptsLimited packages onceConfig c' ∧
      ∀ eventId, onceConfig.maxAttempts ≤ (c.store.claims eventId).length →
        c'.store.claims eventId = c.store.claims eventId := by
  have hruns : onceDeliveries.Guarded (fun c _ e => ¬ TakesOver onceConfig c e) deliveryInit
        failedOnce ∧
      (onceDeliveries.run deliveryInit failedOnce).any (fun c => decide
        (onceDeliveries.Guarded (fun c _ e => ¬ TakesOver onceConfig c e) c claimedLater ∧
          (onceDeliveries.run c claimedLater).isSome)) = true := by
    decide +kernel
  obtain ⟨hfirst, hany⟩ := hruns
  obtain ⟨c, hreach, hlater⟩ := Option.any_eq_true _ _ |>.mp hany
  obtain ⟨hguarded, hsome⟩ := of_decide_eq_true hlater
  obtain ⟨c', hrun⟩ := Option.isSome_iff_exists.mp hsome
  exact ⟨c, c', hreach, hrun, attempts_limited hfirst hreach hguarded hrun⟩

/-- The dispatcher sends the callback and stops; another one takes it over. -/
def takenOver : List (Nat × DeliveryEvent) :=
  [(0, .insert callback), (0, .claim 1800000000000000000 scan fun _ => leaseToken 0),
    (0, .attempt .networkError), (0, .stop),
    (1, .claim 1800000005000000000 scan fun _ => leaseToken 1)]

/-- **A dispatcher that stops lets an event pass the limit**: the callback is sent under the
number two, and one attempt was configured. -/
theorem attempts_limited_fails :
    ∃ c c' callback, onceDeliveries.run deliveryInit takenOver = some c ∧
      onceDeliveries.next c 1 (.attempt .networkError) = some c' ∧
      (DeliveryEvent.attempt .networkError).sent (c.calls 1) = some callback ∧
      onceConfig.maxAttempts < callback.attemptCount ∧
      onceConfig.maxAttempts < (c.store.claims "flow-1").length := by
  have hruns : (onceDeliveries.run deliveryInit takenOver).any (fun c =>
      (onceDeliveries.next c 1 (.attempt .networkError)).isSome &&
      ((DeliveryEvent.attempt .networkError).sent (c.calls 1)).any (fun callback =>
        decide (onceConfig.maxAttempts < callback.attemptCount ∧
          onceConfig.maxAttempts < (c.store.claims "flow-1").length))) = true := by
    decide +kernel
  obtain ⟨c, hrun, hc⟩ := Option.any_eq_true _ _ |>.mp hruns
  rw [Bool.and_eq_true] at hc
  obtain ⟨c', hnext⟩ := Option.isSome_iff_exists.mp hc.1
  obtain ⟨callback, hsent, hcount⟩ := Option.any_eq_true _ _ |>.mp hc.2
  exact ⟨c, c', callback, hrun, hnext, hsent, of_decide_eq_true hcount⟩

end Example

end Marty.Flow
