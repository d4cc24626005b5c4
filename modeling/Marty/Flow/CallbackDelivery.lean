import Marty.Flow.Outbox
import Marty.Lib.Interleaving
import Mathlib.Data.List.Chain
import Mathlib.Data.Nat.Digits.Defs

/-!
# Delivering callbacks

A dispatcher leases a batch of callbacks, sends them one after the other, and records
what became of each.  Any number of dispatchers work on one outbox, each by its own
clock; a dispatcher may stop after any step and start over.  The store carries, beside
the table, what has been claimed and what has been recorded for each event.

The attempts of an event are counted in a column of thirty-two bits.  They are numbered
from one on, and at the largest number the count stays.

## Main definitions

* `deliveryMachine` — the steps of the dispatchers.
* `EventSafe`, `EventContinues` — what holds of an event, and of an event over time.
* `callback_leases_safe` — both hold along every run, and only the holder of a lease
  records an outcome.
-/

namespace Marty.Flow

open Lib Lib.Checked

/-! ## Dispatchers -/

/-- The part of the configuration that a delivery reads, within its bounds. -/
structure CallbackDeliveryConfig where
  maxAttempts : Nat
  leaseSeconds : Nat
  batchSize : Nat
  retryBaseSeconds : Nat
  retryCapSeconds : Nat
  maxAttempts_bounds : 1 ≤ maxAttempts ∧ maxAttempts ≤ 32
  leaseSeconds_bounds : 5 ≤ leaseSeconds ∧ leaseSeconds ≤ 300
  batchSize_bounds : 1 ≤ batchSize ∧ batchSize ≤ 100
  retryBaseSeconds_bounds : 1 ≤ retryBaseSeconds ∧ retryBaseSeconds ≤ 60
  retryCapSeconds_bounds : 1 ≤ retryCapSeconds ∧ retryCapSeconds ≤ 900

/-- How an attempt ends: the registry refuses the destination, or the client answers. -/
inductive DeliveryAnswer
  | destinationRejected
  | response (status : Nat)
  | timeout
  | networkError
  deriving DecidableEq, Repr

inductive DeliveryOutcome
  | delivered
  | failed (errorCode : String) (forceTerminal : Bool)
  deriving DecidableEq, Repr

def DeliveryAnswer.outcome : DeliveryAnswer → DeliveryOutcome
  | .destinationRejected => .failed "destination_rejected" true
  | .response status =>
      if 200 ≤ status ∧ status < 300 then .delivered
      else .failed ("http_" ++ toString status) false
  | .timeout => .failed "timeout" false
  | .networkError => .failed "network_error" false

namespace CallbackDeliveryConfig

variable (config : CallbackDeliveryConfig)

def terminal (attemptCount : Nat) (forceTerminal : Bool) : Bool :=
  forceTerminal || config.maxAttempts ≤ attemptCount

def nextAttemptAt (attemptCount : Nat) (now : Utc) : Utc :=
  let exponent := min (attemptCount - 1) 16
  let delay := min (config.retryBaseSeconds * 2 ^ exponent) config.retryCapSeconds
  (now.checkedAddSeconds delay).getD now

/-- The `UPDATE` that records an outcome at a reading of the dispatcher's clock. -/
def record (outbox : CallbackOutbox) (callback : ClaimedCallback) (now : Utc) :
    DeliveryOutcome → CallbackOutbox × Bool
  | .delivered => markCallbackDelivered outbox callback.eventId callback.leaseToken now
  | .failed errorCode forceTerminal =>
      markCallbackFailed outbox callback.eventId callback.leaseToken
        (config.nextAttemptAt callback.attemptCount now)
        (config.terminal callback.attemptCount forceTerminal) errorCode

end CallbackDeliveryConfig

/-- What a dispatcher is about to do: take a batch, send the first of the callbacks that
remain, or record what became of one. -/
inductive Dispatcher
  | idle
  | delivering (remaining : List ClaimedCallback)
  | recording (callback : ClaimedCallback) (outcome : DeliveryOutcome)
      (remaining : List ClaimedCallback)

def Dispatcher.callbacks : Dispatcher → List ClaimedCallback
  | idle => []
  | delivering remaining => remaining
  | recording callback _ remaining => callback :: remaining

inductive DeliveryEvent
  /-- A finalization commits its callback. -/
  | insert (callback : Message)
  | claim (now : Utc) (scan : RowScan) (token : String → String)
  | attempt (answer : DeliveryAnswer)
  | record (now : Utc)
  /-- The dispatcher stops, by a crash or an error, and starts over. -/
  | stop

/-! ## The machine -/

section

variable (ι : Type)

structure CallbackClaim where
  dispatcher : ι
  now : DateTime
  leaseExpiresAt : DateTime
  attempt : Nat
  token : String

structure CallbackOutcome where
  dispatcher : ι
  token : String

/-- The table, with the claims and the outcomes of each event in their order. -/
structure DeliveryStore where
  outbox : CallbackOutbox
  claims : String → List (CallbackClaim ι)
  outcomes : String → List (CallbackOutcome ι)

/-- What the store holds of one event. -/
structure EventView where
  row : Option CallbackRow
  claims : List (CallbackClaim ι)
  outcomes : List (CallbackOutcome ι)

end

variable {ι : Type}

def DeliveryStore.view (s : DeliveryStore ι) (eventId : String) : EventView ι :=
  ⟨s.outbox.get eventId, s.claims eventId, s.outcomes eventId⟩

/-- The claim that a callback was handed out by. -/
def ClaimedCallback.claim (i : ι) (now : Utc) (callback : ClaimedCallback) : CallbackClaim ι where
  dispatcher := i
  now := now.stored
  leaseExpiresAt := callback.leaseExpiresAt.stored
  attempt := callback.attemptCount
  token := callback.leaseToken

def DeliveryStore.claimed (s : DeliveryStore ι) (i : ι) (now : Utc) (outbox : CallbackOutbox)
    (callbacks : List ClaimedCallback) : DeliveryStore ι where
  outbox := outbox
  claims eventId := s.claims eventId ++
    ((callbacks.find? (·.eventId == eventId)).map (·.claim i now)).toList
  outcomes := s.outcomes

def DeliveryStore.recorded (s : DeliveryStore ι) (i : ι) (outbox : CallbackOutbox)
    (callback : ClaimedCallback) : DeliveryStore ι where
  outbox := outbox
  claims := s.claims
  outcomes := Function.update s.outcomes callback.eventId
    (s.outcomes callback.eventId ++ [⟨i, callback.leaseToken⟩])

/-- Lease tokens are random: none is drawn twice for an event. -/
def DeliveryStore.Fresh (s : DeliveryStore ι) (callbacks : List ClaimedCallback) : Prop :=
  ∀ callback ∈ callbacks, callback.leaseToken ∉ (s.claims callback.eventId).map (·.token)

instance (s : DeliveryStore ι) (callbacks : List ClaimedCallback) : Decidable (s.Fresh callbacks) :=
  inferInstanceAs (Decidable (∀ callback ∈ callbacks, _))

section

variable (packages : Packages) (config : ι → CallbackDeliveryConfig)

def claimStep (i : ι) (now : Utc) (scan : RowScan) (token : String → String)
    (s : DeliveryStore ι) : Option (DeliveryStore ι × Dispatcher) :=
  match now.checkedAddSeconds (config i).leaseSeconds with
  | none => some (s, .idle)
  | some leaseExpiresAt =>
    match claimDueCallbacks packages s.outbox now leaseExpiresAt (config i).batchSize scan token with
    | .error _ => some (s, .idle)
    | .ok (outbox, callbacks) =>
      if s.Fresh callbacks then some (s.claimed i now outbox callbacks, .delivering callbacks)
      else none

def recordStep (i : ι) (now : Utc) (s : DeliveryStore ι) (callback : ClaimedCallback)
    (outcome : DeliveryOutcome) : DeliveryStore ι :=
  match (config i).record s.outbox callback now outcome with
  | (outbox, true) => s.recorded i outbox callback
  | (_, false) => s

def deliveryStep (i : ι) (e : DeliveryEvent) (s : DeliveryStore ι) (dispatcher : Dispatcher) :
    Option (DeliveryStore ι × Dispatcher) :=
  match e, dispatcher with
  | .insert callback, _ =>
    match insertCallback s.outbox callback with
    | .error _ => none
    | .ok outbox => some ({ s with outbox := outbox }, dispatcher)
  | .claim now scan token, .idle => claimStep packages config i now scan token s
  | .attempt _, .delivering [] => some (s, .idle)
  | .attempt answer, .delivering (callback :: remaining) =>
    some (s, .recording callback answer.outcome remaining)
  | .record now, .recording callback outcome remaining =>
    some (recordStep config i now s callback outcome, .delivering remaining)
  | .stop, _ => some (s, .idle)
  | _, _ => none

def deliveryMachine : Machine (DeliveryStore ι) ι DeliveryEvent Dispatcher :=
  ⟨deliveryStep packages config⟩

/-- No callback has been inserted, and no dispatcher works. -/
def deliveryInit : Config (DeliveryStore ι) ι Dispatcher :=
  ⟨⟨BTreeMap.empty, fun _ => [], fun _ => []⟩, fun _ => .idle⟩

end

/-! ## What a step does to an event -/

/-- The moves of one event under a step of dispatcher `i`. -/
inductive RowMove (i : ι) (v : EventView ι) : EventView ι → Prop
  | same : RowMove i v v
  | inserted {row : CallbackRow} (hnone : v.row = none) (hpending : row.status = .pending)
      (hcount : row.attemptCount = 0) : RowMove i v { v with row := some row }
  | swept (now : DateTime) : RowMove i v { v with row := v.row.map (·.sweep now) }
  | leased {row : CallbackRow} {now leaseExpiresAt : DateTime} {token : String}
      (hrow : v.row = some row) (hdue : row.Due now)
      (hfresh : token ∉ v.claims.map (·.token)) :
      RowMove i v ⟨some (row.lease token leaseExpiresAt),
        v.claims ++ [⟨i, now, leaseExpiresAt, min (row.attemptCount + 1) i32Max, token⟩],
        v.outcomes⟩
  | delivered {row : CallbackRow} {token : String} (now : DateTime)
      (hrow : v.row = some row) (hlease : row.LeasedUnder token)
      (hmine : ∃ claim ∈ v.claims, claim.dispatcher = i ∧ claim.token = token) :
      RowMove i v ⟨some (row.delivered now), v.claims, v.outcomes ++ [⟨i, token⟩]⟩
  | failed {row : CallbackRow} {token : String} (next : DateTime) (terminal : Bool)
      (errorCode : String) (hrow : v.row = some row) (hlease : row.LeasedUnder token)
      (hmine : ∃ claim ∈ v.claims, claim.dispatcher = i ∧ claim.token = token) :
      RowMove i v ⟨some (row.failed next terminal errorCode), v.claims,
        v.outcomes ++ [⟨i, token⟩]⟩

/-- The callbacks a dispatcher works on are claims of its own. -/
def Mine (s : DeliveryStore ι) (i : ι) (dispatcher : Dispatcher) : Prop :=
  ∀ callback ∈ dispatcher.callbacks, ∃ claim ∈ s.claims callback.eventId,
    claim.dispatcher = i ∧ claim.token = callback.leaseToken

theorem insertCallback_eq_ok {outbox outbox' : CallbackOutbox} {callback : Message}
    (h : insertCallback outbox callback = .ok outbox') :
    outbox.get callback.messageId = none ∧ ∃ row, row.status = .pending ∧
      row.attemptCount = 0 ∧ outbox' = outbox.insert callback.messageId row := by
  simp only [insertCallback, bind_eq_ok, exists_unit, rejectIf_eq_ok, okOr_eq_ok] at h
  obtain ⟨_, -, _, -, _, -, _, -, _, -, _, -, _, -, _, -, hnone, -, hok⟩ := h
  cases hok
  refine ⟨?_, _, rfl, rfl, rfl⟩
  simpa [BTreeMap.containsKey] using hnone

theorem claimed_view {s : DeliveryStore ι} {packages : Packages} {i : ι}
    {now leaseExpiresAt : Utc} {limit : Nat} {scan : RowScan} {token : String → String}
    {outbox : CallbackOutbox} {callbacks : List ClaimedCallback}
    (h : claimDueCallbacks packages s.outbox now leaseExpiresAt limit scan token =
      .ok (outbox, callbacks)) (hfresh : s.Fresh callbacks) (eventId : String) :
    RowMove i (s.view eventId) ((s.claimed i now outbox callbacks).view eventId) := by
  rcases claimDueCallbacks_eq_ok h eventId with ⟨hnone, hget⟩ | ⟨row, hrow, hdue, hget, hfound⟩
  · have hview : (s.claimed i now outbox callbacks).view eventId =
        { s.view eventId with row := (s.view eventId).row.map (·.sweep now.stored) } := by
      simp [DeliveryStore.view, DeliveryStore.claimed, hnone, hget]
    rw [hview]
    exact .swept now.stored
  · have hnew : token eventId ∉ (s.claims eventId).map (·.token) :=
      hfresh _ (List.mem_of_find?_eq_some hfound)
    have hview : (s.claimed i now outbox callbacks).view eventId =
        ⟨some (row.lease (token eventId) leaseExpiresAt.stored),
          s.claims eventId ++ [⟨i, now.stored, leaseExpiresAt.stored,
            min (row.attemptCount + 1) i32Max, token eventId⟩], s.outcomes eventId⟩ := by
      simp only [DeliveryStore.view, DeliveryStore.claimed, hget, hfound]
      rfl
    rw [hview]
    exact .leased hrow hdue hnew

theorem record_cases (config : CallbackDeliveryConfig) (outbox : CallbackOutbox)
    (callback : ClaimedCallback) (now : Utc) (outcome : DeliveryOutcome) :
    (∃ row row', outbox.get callback.eventId = some row ∧ row.LeasedUnder callback.leaseToken ∧
      config.record outbox callback now outcome =
        (outbox.insert callback.eventId row', true) ∧
      ((∃ deliveredAt, row' = row.delivered deliveredAt) ∨
        ∃ next terminal errorCode, row' = row.failed next terminal errorCode)) ∨
    (∀ row, outbox.get callback.eventId = some row → ¬ row.LeasedUnder callback.leaseToken) ∧
      config.record outbox callback now outcome = (outbox, false) := by
  cases outcome with
  | delivered =>
      rcases updateLeased_cases outbox callback.eventId callback.leaseToken
        (·.delivered now.stored) with ⟨row, hrow, hlease, heq⟩ | hstale
      · exact .inl ⟨row, _, hrow, hlease, heq, .inl ⟨_, rfl⟩⟩
      · exact .inr hstale
  | failed errorCode forceTerminal =>
      rcases updateLeased_cases outbox callback.eventId callback.leaseToken
        (·.failed (config.nextAttemptAt callback.attemptCount now).stored
          (config.terminal callback.attemptCount forceTerminal) errorCode)
        with ⟨row, hrow, hlease, heq⟩ | hstale
      · exact .inl ⟨row, _, hrow, hlease, heq, .inr ⟨_, _, _, rfl⟩⟩
      · exact .inr hstale

/-- A recording either finds the lease of its callback and adds the outcome, or finds
another and leaves the store. -/
theorem recordStep_cases (config : ι → CallbackDeliveryConfig) (i : ι) (now : Utc)
    (s : DeliveryStore ι) (callback : ClaimedCallback) (outcome : DeliveryOutcome)
    (hmine : ∃ claim ∈ s.claims callback.eventId,
      claim.dispatcher = i ∧ claim.token = callback.leaseToken) :
    (∃ row, s.outbox.get callback.eventId = some row ∧ row.LeasedUnder callback.leaseToken ∧
      (recordStep config i now s callback outcome).outcomes = Function.update s.outcomes
        callback.eventId (s.outcomes callback.eventId ++ [⟨i, callback.leaseToken⟩]) ∧
      ∀ eventId, RowMove i (s.view eventId)
        ((recordStep config i now s callback outcome).view eventId)) ∨
    (∀ row, s.outbox.get callback.eventId = some row → ¬ row.LeasedUnder callback.leaseToken) ∧
      recordStep config i now s callback outcome = s := by
  rcases record_cases (config i) s.outbox callback now outcome with
    ⟨row, row', hrow, hlease, heq, hchange⟩ | ⟨hstale, heq⟩
  · have hstep : recordStep config i now s callback outcome =
        s.recorded i (s.outbox.insert callback.eventId row') callback := by
      rw [recordStep, heq]
    refine .inl ⟨row, hrow, hlease, by rw [hstep]; rfl, ?_⟩
    intro eventId
    rw [hstep]
    by_cases he : eventId = callback.eventId
    · subst he
      have hview : (s.recorded i (s.outbox.insert callback.eventId row') callback).view
          callback.eventId = ⟨some row', s.claims callback.eventId,
            s.outcomes callback.eventId ++ [⟨i, callback.leaseToken⟩]⟩ := by
        simp [DeliveryStore.view, DeliveryStore.recorded]
      rw [hview]
      rcases hchange with ⟨deliveredAt, rfl⟩ | ⟨next, terminal, errorCode, rfl⟩
      · exact .delivered deliveredAt hrow hlease hmine
      · exact .failed next terminal errorCode hrow hlease hmine
    · have hview : (s.recorded i (s.outbox.insert callback.eventId row') callback).view eventId =
          s.view eventId := by
        simp [DeliveryStore.view, DeliveryStore.recorded, he]
      rw [hview]
      exact .same
  · exact .inr ⟨hstale, by rw [recordStep, heq]⟩

theorem claimed_mine {s : DeliveryStore ι} {packages : Packages} {i : ι}
    {now leaseExpiresAt : Utc} {limit : Nat} {scan : RowScan} {token : String → String}
    {outbox : CallbackOutbox} {callbacks : List ClaimedCallback}
    (h : claimDueCallbacks packages s.outbox now leaseExpiresAt limit scan token =
      .ok (outbox, callbacks)) {callback : ClaimedCallback} (hmem : callback ∈ callbacks) :
    ∃ claim ∈ (s.claimed i now outbox callbacks).claims callback.eventId,
      claim.dispatcher = i ∧ claim.token = callback.leaseToken := by
  have hsome : (callbacks.find? (·.eventId == callback.eventId)).isSome :=
    List.find?_isSome.mpr ⟨callback, hmem, beq_self_eq_true _⟩
  obtain ⟨found, hfound⟩ := Option.isSome_iff_exists.mp hsome
  refine ⟨found.claim i now, ?_, rfl, ?_⟩
  · simp [DeliveryStore.claimed, hfound]
  · have hkey := List.find?_some hfound
    have heq : found.eventId = callback.eventId := beq_iff_eq.mp hkey
    change found.leaseToken = callback.leaseToken
    rw [claimDueCallbacks_token h (List.mem_of_find?_eq_some hfound),
      claimDueCallbacks_token h hmem, heq]

theorem recordStep_claims (config : ι → CallbackDeliveryConfig) (i : ι) (now : Utc)
    (s : DeliveryStore ι) (callback : ClaimedCallback) (outcome : DeliveryOutcome) :
    (recordStep config i now s callback outcome).claims = s.claims := by
  unfold recordStep
  split <;> rfl

theorem Mine.of_claims {s s' : DeliveryStore ι} {i : ι} {dispatcher : Dispatcher}
    (h : Mine s i dispatcher) (hclaims : s'.claims = s.claims) : Mine s' i dispatcher := by
  intro callback hcallback
  rw [hclaims]
  exact h callback hcallback

/-- **One step** moves every event, and leaves its dispatcher with callbacks of its own. -/
theorem deliveryStep_moves {packages : Packages} {config : ι → CallbackDeliveryConfig} {i : ι}
    {e : DeliveryEvent} {s s' : DeliveryStore ι} {dispatcher dispatcher' : Dispatcher}
    (h : deliveryStep packages config i e s dispatcher = some (s', dispatcher'))
    (hmine : Mine s i dispatcher) :
    (∀ eventId, RowMove i (s.view eventId) (s'.view eventId)) ∧ Mine s' i dispatcher' := by
  cases e with
  | insert callback =>
      cases hinsert : insertCallback s.outbox callback with
      | error _ => simp [deliveryStep, hinsert] at h
      | ok outbox =>
          simp only [deliveryStep, hinsert, Option.some.injEq, Prod.mk.injEq] at h
          obtain ⟨rfl, rfl⟩ := h
          obtain ⟨hnone, row, hpending, hcount, rfl⟩ := insertCallback_eq_ok hinsert
          refine ⟨?_, hmine⟩
          intro eventId
          by_cases he : eventId = callback.messageId
          · subst he
            have hview : ({ s with outbox := s.outbox.insert callback.messageId row } :
                DeliveryStore ι).view callback.messageId =
                  { s.view callback.messageId with row := some row } := by
              simp [DeliveryStore.view]
            rw [hview]
            exact .inserted hnone hpending hcount
          · have hview : ({ s with outbox := s.outbox.insert callback.messageId row } :
                DeliveryStore ι).view eventId = s.view eventId := by
              simp [DeliveryStore.view, he]
            rw [hview]
            exact .same
  | claim now scan token =>
      cases dispatcher with
      | delivering _ => simp [deliveryStep] at h
      | recording _ _ _ => simp [deliveryStep] at h
      | idle =>
          simp only [deliveryStep, claimStep] at h
          split at h
          · cases h
            exact ⟨fun _ => .same, hmine⟩
          · next leaseExpiresAt _ =>
              split at h
              · cases h
                exact ⟨fun _ => .same, hmine⟩
              · next outbox callbacks hclaim =>
                  split at h
                  · next hfresh =>
                      cases h
                      refine ⟨claimed_view hclaim hfresh, ?_⟩
                      intro callback hcallback
                      exact claimed_mine hclaim hcallback
                  · cases h
  | attempt answer =>
      cases dispatcher with
      | idle => simp [deliveryStep] at h
      | recording _ _ _ => simp [deliveryStep] at h
      | delivering remaining =>
          cases remaining with
          | nil =>
              cases h
              exact ⟨fun _ => .same, by simp [Mine, Dispatcher.callbacks]⟩
          | cons callback remaining =>
              cases h
              exact ⟨fun _ => .same, hmine⟩
  | record now =>
      cases dispatcher with
      | idle => simp [deliveryStep] at h
      | delivering _ => simp [deliveryStep] at h
      | recording callback outcome remaining =>
          cases h
          have hrest : Mine s i (.delivering remaining) := fun other hother =>
            hmine other (List.mem_cons_of_mem _ hother)
          rcases recordStep_cases config i now s callback outcome
            (hmine callback List.mem_cons_self) with ⟨_, _, _, _, hmoves⟩ | ⟨-, hsame⟩
          · exact ⟨hmoves, hrest.of_claims (recordStep_claims config i now s callback outcome)⟩
          · rw [hsame]
            exact ⟨fun _ => .same, hrest⟩
  | stop =>
      cases h
      exact ⟨fun _ => .same, by simp [Mine, Dispatcher.callbacks]⟩

/-! ## What holds of an event -/

/-- The numbers handed out for one event, its claims, and its outcomes. -/
structure EventSafe (v : EventView ι) : Prop where
  /-- The attempts are numbered from one on, up to the largest number of the column. -/
  attempts : v.claims.map (·.attempt) =
    (List.range v.claims.length).map fun k => min (k + 1) i32Max
  tokens : (v.claims.map (·.token)).Nodup
  /-- The next claim follows on an outcome, or by a clock at which the lease has run out. -/
  succession : v.claims.IsChain fun a b =>
    a.token ∈ v.outcomes.map (·.token) ∨ a.leaseExpiresAt ≤ b.now
  /-- The lease in the row is that of the last claim, which has no outcome. -/
  current : ∀ {row token}, v.row = some row → row.LeasedUnder token →
    ∃ claim, v.claims.getLast? = some claim ∧ claim.token = token ∧
      row.leaseExpiresAt = some claim.leaseExpiresAt ∧ token ∉ v.outcomes.map (·.token)
  /-- A claim has one outcome at most, recorded by the dispatcher that made it. -/
  outcomes_once : (v.outcomes.map (·.token)).Nodup
  outcomes_claimed : ∀ outcome ∈ v.outcomes, ∃ claim ∈ v.claims,
    claim.dispatcher = outcome.dispatcher ∧ claim.token = outcome.token

/-- What a claim relies on: the count of the row, and how the last claim came to its end. -/
structure EventInv (v : EventView ι) : Prop extends EventSafe v where
  unclaimed : v.row = none ∨ (∃ row, v.row = some row ∧ row.status = .pending) → v.claims = []
  count : ∀ {row}, v.row = some row → row.attemptCount = min v.claims.length i32Max
  retried : ∀ {row}, v.row = some row → row.status = .retry →
    ∀ claim ∈ v.claims.getLast?, claim.token ∈ v.outcomes.map (·.token)
  leased : ∀ {row}, v.row = some row → row.status = .delivering →
    ∃ token, row.leaseToken = some token

theorem CallbackRow.sweep_cases (now : DateTime) (row : CallbackRow) :
    row.sweep now = row ∨ (row.sweep now).status = .expired ∧ row.status ≠ .delivered ∧
      (row.sweep now).attemptCount = row.attemptCount := by
  unfold CallbackRow.sweep
  split
  · next h =>
      refine .inr ⟨rfl, ?_, rfl⟩
      intro hdelivered
      simp [hdelivered] at h
  · exact .inl rfl

/-- A row that is neither waiting nor leased asks nothing of its event. -/
theorem EventInv.closed {v : EventView ι} (h : EventInv v) {row : CallbackRow}
    {outcomes : List (CallbackOutcome ι)} (hcount : row.attemptCount = min v.claims.length i32Max)
    (hpending : row.status ≠ .pending) (hleased : row.status ≠ .delivering)
    (hretried : row.status = .retry → ∀ claim ∈ v.claims.getLast?,
      claim.token ∈ outcomes.map (·.token))
    (hsub : v.outcomes.map (·.token) ⊆ outcomes.map (·.token))
    (honce : (outcomes.map (·.token)).Nodup)
    (hclaimed : ∀ outcome ∈ outcomes, ∃ claim ∈ v.claims,
      claim.dispatcher = outcome.dispatcher ∧ claim.token = outcome.token) :
    EventInv ⟨some row, v.claims, outcomes⟩ where
  attempts := h.attempts
  tokens := h.tokens
  succession := h.succession.imp fun a b hab => hab.imp_left fun hmem => hsub hmem
  current := by
    rintro row' token ⟨⟩ hlease
    exact absurd hlease.1 hleased
  outcomes_once := honce
  outcomes_claimed := hclaimed
  unclaimed := by
    rintro (hnone | ⟨row', ⟨⟩, hstatus⟩)
    · cases hnone
    · exact absurd hstatus hpending
  count := by
    rintro row' ⟨⟩
    exact hcount
  retried := by
    rintro row' ⟨⟩
    exact hretried
  leased := by
    rintro row' ⟨⟩ hstatus
    exact absurd hstatus hleased

theorem EventInv.outcomes_fresh {v : EventView ι} (h : EventInv v) {i : ι} {row : CallbackRow}
    {token : String} (hrow : v.row = some row) (hlease : row.LeasedUnder token)
    (hmine : ∃ claim ∈ v.claims, claim.dispatcher = i ∧ claim.token = token) :
    v.outcomes.map (·.token) ⊆
        (v.outcomes ++ [(⟨i, token⟩ : CallbackOutcome ι)]).map (·.token) ∧
      ((v.outcomes ++ [(⟨i, token⟩ : CallbackOutcome ι)]).map (·.token)).Nodup ∧
      ∀ outcome ∈ v.outcomes ++ [(⟨i, token⟩ : CallbackOutcome ι)], ∃ claim ∈ v.claims,
        claim.dispatcher = outcome.dispatcher ∧ claim.token = outcome.token := by
  obtain ⟨_, _, _, _, hnot⟩ := h.current hrow hlease
  rw [List.map_append]
  refine ⟨List.subset_append_left _ _, ?_, ?_⟩
  · refine List.Nodup.append h.outcomes_once (List.nodup_singleton _) ?_
    intro t ht hsingle
    rw [List.map_singleton, List.mem_singleton] at hsingle
    subst hsingle
    exact hnot ht
  · intro outcome hmem
    rcases List.mem_append.mp hmem with hmem | hmem
    · exact h.outcomes_claimed outcome hmem
    · rw [List.mem_singleton] at hmem
      subst hmem
      exact hmine

/-- **A lease** is given to an event whose last claim has come to its end. -/
theorem EventInv.lease {v : EventView ι} (h : EventInv v) {i : ι} {row : CallbackRow}
    {now leaseExpiresAt : DateTime} {token : String} (hrow : v.row = some row)
    (hdue : row.Due now) (hfresh : token ∉ v.claims.map (·.token)) :
    EventInv ⟨some (row.lease token leaseExpiresAt),
      v.claims ++ [⟨i, now, leaseExpiresAt, min (row.attemptCount + 1) i32Max, token⟩],
      v.outcomes⟩ := by
  have hcount := h.count hrow
  have hnumber : min (row.attemptCount + 1) i32Max = min (v.claims.length + 1) i32Max := by
    omega
  have hlast : ∀ claim ∈ v.claims.getLast?,
      claim.token ∈ v.outcomes.map (·.token) ∨ claim.leaseExpiresAt ≤ now := by
    intro claim hclaim
    rcases hdue.2 with ⟨hwaiting, -⟩ | ⟨hdelivering, lease, hlease, hexpired⟩
    · rw [List.mem_cons, List.mem_singleton] at hwaiting
      rcases hwaiting with hpending | hretry
      · rw [h.unclaimed (.inr ⟨row, hrow, hpending⟩)] at hclaim
        cases hclaim
      · exact .inl (h.retried hrow hretry claim hclaim)
    · obtain ⟨held, hheld⟩ := h.leased hrow hdelivering
      obtain ⟨last, hgetLast, -, hexpires, -⟩ := h.current hrow ⟨hdelivering, hheld⟩
      rw [hgetLast, Option.mem_some_iff] at hclaim
      rw [hexpires, Option.mem_some_iff] at hlease
      subst hclaim hlease
      exact .inr hexpired
  constructor
  · constructor
    · rw [List.map_append, h.attempts, List.length_append, List.length_singleton,
        List.range_succ, List.map_append, hnumber]
      rfl
    · rw [List.map_append]
      refine List.Nodup.append h.tokens (List.nodup_singleton _) ?_
      intro t ht hsingle
      rw [List.map_singleton, List.mem_singleton] at hsingle
      subst hsingle
      exact hfresh ht
    · refine h.succession.append (List.isChain_singleton _) ?_
      intro a ha b hb
      cases hb
      exact hlast a ha
    · rintro row' held ⟨⟩ hheld
      have htoken : token = held := Option.some.inj hheld.2
      refine ⟨_, List.getLast?_concat, htoken, rfl, ?_⟩
      intro hmem
      obtain ⟨outcome, houtcome, heq⟩ := List.mem_map.mp hmem
      obtain ⟨claim, hclaim, -, hsame⟩ := h.outcomes_claimed outcome houtcome
      exact hfresh (List.mem_map.mpr ⟨claim, hclaim, by rw [hsame, heq, htoken]⟩)
    · exact h.outcomes_once
    · intro outcome houtcome
      obtain ⟨claim, hclaim, hsame⟩ := h.outcomes_claimed outcome houtcome
      exact ⟨claim, List.mem_append_left _ hclaim, hsame⟩
  · rintro (hnone | ⟨row', ⟨⟩, hstatus⟩)
    · cases hnone
    · cases hstatus
  · rintro row' ⟨⟩
    rw [List.length_append, List.length_singleton]
    exact hnumber
  · rintro row' ⟨⟩ hstatus
    cases hstatus
  · rintro row' ⟨⟩ -
    exact ⟨token, rfl⟩

theorem EventInv.move {v v' : EventView ι} {i : ι} (h : EventInv v) (hmove : RowMove i v v') :
    EventInv v' := by
  cases hmove with
  | same => exact h
  | @inserted row hnone hpending hcount =>
      have hclaims := h.unclaimed (.inl hnone)
      refine ⟨⟨h.attempts, h.tokens, h.succession, ?_, h.outcomes_once, h.outcomes_claimed⟩,
        fun _ => hclaims, ?_, ?_, ?_⟩
      · rintro row' token ⟨⟩ hlease
        exact absurd (hpending.symm.trans hlease.1) (by decide)
      · rintro row' ⟨⟩
        rw [hcount, hclaims]
        rfl
      · rintro row' ⟨⟩ hretry
        exact absurd (hpending.symm.trans hretry) (by decide)
      · rintro row' ⟨⟩ hdelivering
        exact absurd (hpending.symm.trans hdelivering) (by decide)
  | swept now =>
      cases hrow : v.row with
      | none =>
          rw [Option.map_none, ← hrow]
          exact h
      | some row =>
          rcases row.sweep_cases now with hsame | ⟨hexpired, -, hcount⟩
          · rw [Option.map_some, hsame, ← hrow]
            exact h
          · refine h.closed (hcount.trans (h.count hrow)) ?_ ?_ ?_ (List.Subset.refl _)
              h.outcomes_once h.outcomes_claimed
            · simp [hexpired]
            · simp [hexpired]
            · simp [hexpired]
  | leased hrow hdue hfresh => exact h.lease hrow hdue hfresh
  | delivered now hrow hlease hmine =>
      obtain ⟨hsub, honce, hclaimed⟩ := h.outcomes_fresh hrow hlease hmine
      have hcount := h.count hrow
      refine h.closed hcount ?_ ?_ ?_ hsub honce hclaimed
      · simp [CallbackRow.delivered]
      · simp [CallbackRow.delivered]
      · simp [CallbackRow.delivered]
  | @failed row token next terminal errorCode hrow hlease hmine =>
      obtain ⟨hsub, honce, hclaimed⟩ := h.outcomes_fresh hrow hlease hmine
      obtain ⟨last, hlast, htoken, -⟩ := h.current hrow hlease
      have hcount := h.count hrow
      refine h.closed hcount ?_ ?_ ?_ hsub honce hclaimed
      · cases terminal <;> simp [CallbackRow.failed]
      · cases terminal <;> simp [CallbackRow.failed]
      · intro _ claim hclaim
        rw [hlast, Option.mem_some_iff] at hclaim
        subst hclaim
        simp [htoken]

/-! ## An event over time -/

def CallbackStatus.finished (status : CallbackStatus) : Bool :=
  status ∈ [CallbackStatus.delivered, .deadLetter, .expired]

/-- A delivered or expired row holds nothing of the callback any more. -/
def CallbackStatus.emptied (status : CallbackStatus) : Bool :=
  status ∈ [CallbackStatus.delivered, .expired]

/-- The row of an event at a later time. -/
structure RowContinues (row row' : CallbackRow) : Prop where
  finished : row.status.finished = true → row'.status.finished = true
  emptied : row.status.emptied = true → row'.status = row.status
  content : row'.status.emptied = false →
    row'.destinationUrl = row.destinationUrl ∧ row'.payload = row.payload

/-- An event at a later time: what was claimed and recorded stands, and a finished event
is not claimed again. -/
structure EventContinues (v v' : EventView ι) : Prop where
  claims : v.claims <+: v'.claims
  outcomes : v.outcomes <+: v'.outcomes
  row : ∀ {row}, v.row = some row → ∃ row', v'.row = some row' ∧ RowContinues row row'
  finished : ∀ {row}, v.row = some row → row.status.finished = true → v'.claims = v.claims

theorem RowContinues.refl (row : CallbackRow) : RowContinues row row :=
  ⟨id, fun _ => rfl, fun _ => ⟨rfl, rfl⟩⟩

theorem RowContinues.trans {a b c : CallbackRow} (hab : RowContinues a b)
    (hbc : RowContinues b c) : RowContinues a c where
  finished ha := hbc.finished (hab.finished ha)
  emptied ha := by
    have hb := hab.emptied ha
    rw [hbc.emptied (by rw [hb]; exact ha), hb]
  content hc := by
    have hb : b.status.emptied = false := by
      by_contra hne
      rw [Bool.not_eq_false] at hne
      rw [hbc.emptied hne, hne] at hc
      cases hc
    have hcb := hbc.content hc
    have hba := hab.content hb
    exact ⟨hcb.1.trans hba.1, hcb.2.trans hba.2⟩

theorem EventContinues.refl (v : EventView ι) : EventContinues v v where
  claims := List.prefix_refl _
  outcomes := List.prefix_refl _
  row h := ⟨_, h, .refl _⟩
  finished _ _ := rfl

theorem EventContinues.trans {a b c : EventView ι} (hab : EventContinues a b)
    (hbc : EventContinues b c) : EventContinues a c where
  claims := hab.claims.trans hbc.claims
  outcomes := hab.outcomes.trans hbc.outcomes
  row ha := by
    obtain ⟨row', hb, hrow⟩ := hab.row ha
    obtain ⟨row'', hc, hrow'⟩ := hbc.row hb
    exact ⟨row'', hc, hrow.trans hrow'⟩
  finished ha hfinished := by
    obtain ⟨row', hb, hrow⟩ := hab.row ha
    rw [hbc.finished hb (hrow.finished hfinished), hab.finished ha hfinished]

theorem CallbackRow.sweep_continues (now : DateTime) (row : CallbackRow) :
    RowContinues row (row.sweep now) := by
  rcases row.sweep_cases now with hsame | ⟨hexpired, hdelivered, -⟩
  · rw [hsame]
    exact .refl row
  · refine ⟨fun _ => by rw [hexpired]; rfl, ?_, ?_⟩
    · intro hemptied
      cases hstatus : row.status <;> simp_all [CallbackStatus.emptied]
    · intro hnot
      rw [hexpired] at hnot
      cases hnot

theorem RowMove.continues {v v' : EventView ι} {i : ι} (hmove : RowMove i v v') :
    EventContinues v v' := by
  cases hmove with
  | same => exact .refl v
  | inserted hnone _ _ =>
      refine ⟨List.prefix_refl _, List.prefix_refl _, ?_, fun _ _ => rfl⟩
      intro row hrow
      rw [hnone] at hrow
      cases hrow
  | swept now =>
      refine ⟨List.prefix_refl _, List.prefix_refl _, ?_, fun _ _ => rfl⟩
      intro row hrow
      exact ⟨row.sweep now, by rw [hrow, Option.map_some], row.sweep_continues now⟩
  | @leased row now leaseExpiresAt token hrow hdue hfresh =>
      have hopen : row.status.finished = false := by
        rcases hdue.2 with ⟨hwaiting, -⟩ | ⟨hdelivering, -⟩
        · rw [List.mem_cons, List.mem_singleton] at hwaiting
          rcases hwaiting with h | h <;> rw [h] <;> rfl
        · rw [hdelivering]
          rfl
      refine ⟨List.prefix_append _ _, List.prefix_refl _, ?_, ?_⟩
      · intro row' hrow'
        rw [hrow] at hrow'
        cases hrow'
        refine ⟨_, rfl, ?_, ?_, fun _ => ⟨rfl, rfl⟩⟩
        · intro hfinished
          rw [hopen] at hfinished
          cases hfinished
        · intro hemptied
          cases hstatus : row.status <;>
            simp_all [CallbackStatus.emptied, CallbackStatus.finished]
      · intro row' hrow' hfinished
        rw [hrow] at hrow'
        cases hrow'
        rw [hopen] at hfinished
        cases hfinished
  | @delivered row token now hrow hlease hmine =>
      refine ⟨List.prefix_refl _, List.prefix_append _ _, ?_, fun _ _ => rfl⟩
      intro row' hrow'
      rw [hrow] at hrow'
      cases hrow'
      refine ⟨_, rfl, fun _ => rfl, ?_, ?_⟩
      · rw [hlease.1]
        intro hemptied
        cases hemptied
      · intro hnot
        cases hnot
  | @failed row token next terminal errorCode hrow hlease hmine =>
      refine ⟨List.prefix_refl _, List.prefix_append _ _, ?_, fun _ _ => rfl⟩
      intro row' hrow'
      rw [hrow] at hrow'
      cases hrow'
      refine ⟨_, rfl, ?_, ?_, fun _ => ⟨rfl, rfl⟩⟩
      · rw [hlease.1]
        intro hfinished
        cases hfinished
      · rw [hlease.1]
        intro hemptied
        cases hemptied

/-! ## Every run -/

/-- The dispatcher made the last claim of the event, under the token that the row is
leased under. -/
def HeldBy (s : DeliveryStore ι) (eventId : String) (i : ι) (token : String) : Prop :=
  ∃ row claim, s.outbox.get eventId = some row ∧ row.LeasedUnder token ∧
    (s.claims eventId).getLast? = some claim ∧ claim.dispatcher = i ∧ claim.token = token

/-- What a state of the system keeps. -/
structure DeliveryInv (c : Config (DeliveryStore ι) ι Dispatcher) : Prop where
  event : ∀ eventId, EventInv (c.store.view eventId)
  mine : ∀ i, Mine c.store i (c.calls i)

theorem deliveryInit_inv : DeliveryInv (deliveryInit : Config (DeliveryStore ι) ι Dispatcher) := by
  refine ⟨?_, ?_⟩
  · intro eventId
    refine ⟨⟨rfl, List.nodup_nil, List.isChain_nil, ?_, List.nodup_nil, ?_⟩, fun _ => rfl, ?_, ?_,
      ?_⟩
    · intro row token hrow
      cases hrow
    · intro outcome houtcome
      cases houtcome
    · intro row hrow
      cases hrow
    · intro row hrow
      cases hrow
    · intro row hrow
      cases hrow
  · intro i callback hcallback
    cases hcallback

theorem Mine.continues {s s' : DeliveryStore ι} {i : ι} {dispatcher : Dispatcher}
    (h : Mine s i dispatcher)
    (hmoves : ∀ eventId, EventContinues (s.view eventId) (s'.view eventId)) :
    Mine s' i dispatcher := by
  intro callback hcallback
  obtain ⟨claim, hclaim, hsame⟩ := h callback hcallback
  exact ⟨claim, (hmoves callback.eventId).claims.subset hclaim, hsame⟩

/-- Who claimed under the token of the lease, holds the lease. -/
theorem EventInv.heldBy {s : DeliveryStore ι} {eventId : String} (h : EventInv (s.view eventId))
    {i : ι} {row : CallbackRow} {token : String} (hrow : s.outbox.get eventId = some row)
    (hlease : row.LeasedUnder token)
    (hmine : ∃ claim ∈ s.claims eventId, claim.dispatcher = i ∧ claim.token = token) :
    HeldBy s eventId i token := by
  obtain ⟨last, hlast, htoken, -⟩ := h.current hrow hlease
  obtain ⟨claim, hclaim, hdispatcher, hsame⟩ := hmine
  have heq : last = claim :=
    List.inj_on_of_nodup_map h.tokens (List.mem_of_getLast? hlast) hclaim
      (htoken.trans hsame.symm)
  exact ⟨row, last, hrow, hlease, hlast, heq ▸ hdispatcher, htoken⟩

theorem EventInv.recorded {s s' : DeliveryStore ι} {eventId : String} {i : ι}
    (h : EventInv (s.view eventId)) (hmove : RowMove i (s.view eventId) (s'.view eventId)) :
    s'.outcomes eventId = s.outcomes eventId ∨
      ∃ token, HeldBy s eventId i token ∧
        s'.outcomes eventId = s.outcomes eventId ++ [⟨i, token⟩] := by
  change (s'.view eventId).outcomes = s.outcomes eventId ∨
    ∃ token, _ ∧ (s'.view eventId).outcomes = s.outcomes eventId ++ [⟨i, token⟩]
  generalize s'.view eventId = v' at hmove ⊢
  cases hmove with
  | same => exact .inl rfl
  | inserted _ _ _ => exact .inl rfl
  | swept _ => exact .inl rfl
  | leased _ _ _ => exact .inl rfl
  | delivered _ hrow hlease hmine => exact .inr ⟨_, h.heldBy hrow hlease hmine, rfl⟩
  | failed _ _ _ hrow hlease hmine => exact .inr ⟨_, h.heldBy hrow hlease hmine, rfl⟩

section

variable [DecidableEq ι] {packages : Packages} {config : ι → CallbackDeliveryConfig}

theorem DeliveryInv.next {c c' : Config (DeliveryStore ι) ι Dispatcher} {i : ι}
    {e : DeliveryEvent} (h : DeliveryInv c)
    (hstep : (deliveryMachine packages config).next c i e = some c') :
    DeliveryInv c' ∧
      ∀ eventId, EventContinues (c.store.view eventId) (c'.store.view eventId) := by
  obtain ⟨s, dispatcher, hs, rfl⟩ := Machine.next_eq_some.mp hstep
  obtain ⟨hmoves, hmine⟩ := deliveryStep_moves hs (h.mine i)
  have hcontinues := fun eventId => (hmoves eventId).continues
  refine ⟨⟨fun eventId => (h.event eventId).move (hmoves eventId), ?_⟩, hcontinues⟩
  intro j
  by_cases hj : j = i
  · subst hj
    simpa using hmine
  · simpa [hj] using (h.mine j).continues hcontinues

/-- Who records outcomes, and what a dispatcher without the lease changes. -/
structure OutcomesByHolder (packages : Packages) (config : ι → CallbackDeliveryConfig)
    (c : Config (DeliveryStore ι) ι Dispatcher) : Prop where
  holder : ∀ {i e c'}, (deliveryMachine packages config).next c i e = some c' → ∀ eventId,
    c'.store.outcomes eventId = c.store.outcomes eventId ∨
      ∃ token, HeldBy c.store eventId i token ∧
        c'.store.outcomes eventId = c.store.outcomes eventId ++ [⟨i, token⟩]
  stale : ∀ {i now callback outcome remaining c'},
    c.calls i = .recording callback outcome remaining →
    ¬ HeldBy c.store callback.eventId i callback.leaseToken →
    (deliveryMachine packages config).next c i (.record now) = some c' → c'.store = c.store

theorem DeliveryInv.outcomes {c : Config (DeliveryStore ι) ι Dispatcher} (h : DeliveryInv c) :
    OutcomesByHolder packages config c := by
  constructor
  · intro i e c' hstep eventId
    obtain ⟨s, dispatcher, hs, rfl⟩ := Machine.next_eq_some.mp hstep
    exact (h.event eventId).recorded ((deliveryStep_moves hs (h.mine i)).1 eventId)
  · intro i now callback outcome remaining c' hcall hheld hstep
    obtain ⟨s, dispatcher, hs, rfl⟩ := Machine.next_eq_some.mp hstep
    have hmem : callback ∈ (c.calls i).callbacks := by
      rw [hcall]
      exact List.mem_cons_self
    simp only [deliveryMachine, deliveryStep, hcall, Option.some.injEq, Prod.mk.injEq] at hs
    obtain ⟨rfl, rfl⟩ := hs
    rcases recordStep_cases config i now c.store callback outcome (h.mine i callback hmem)
      with ⟨row, hrow, hlease, -⟩ | ⟨-, hsame⟩
    · exact absurd ((h.event _).heldBy hrow hlease (h.mine i callback hmem)) hheld
    · exact hsame

/-- An invariant state stays one along every run, and every event continues. -/
theorem DeliveryInv.run {t : List (ι × DeliveryEvent)}
    {c c' : Config (DeliveryStore ι) ι Dispatcher} (h : DeliveryInv c)
    (hrun : (deliveryMachine packages config).run c t = some c') :
    DeliveryInv c' ∧
      ∀ eventId, EventContinues (c.store.view eventId) (c'.store.view eventId) := by
  let R : Config (DeliveryStore ι) ι Dispatcher → Config (DeliveryStore ι) ι Dispatcher → Prop :=
    fun c c' => ∀ eventId, EventContinues (c.store.view eventId) (c'.store.view eventId)
  have hrefl : ∀ c, R c c := fun c eventId => .refl _
  have htrans : ∀ a b c, R a b → R b c → R a c := fun a b c hab hbc eventId =>
    (hab eventId).trans (hbc eventId)
  have hstep : ∀ c i e c', DeliveryInv c →
      (deliveryMachine packages config).next c i e = some c' → DeliveryInv c' ∧ R c c' :=
    fun (c : Config (DeliveryStore ι) ι Dispatcher) i e c' h hnext => h.next hnext
  exact Machine.run_induct_rel hrefl htrans hstep h hrun

/-- **Callback leases are safe**, along every run and between any two of its states. -/
theorem callback_leases_safe {t u : List (ι × DeliveryEvent)}
    {c c' : Config (DeliveryStore ι) ι Dispatcher}
    (hreach : (deliveryMachine packages config).run deliveryInit t = some c)
    (hrun : (deliveryMachine packages config).run c u = some c') :
    (∀ eventId, EventSafe (c'.store.view eventId)) ∧
      (∀ eventId, EventContinues (c.store.view eventId) (c'.store.view eventId)) ∧
      OutcomesByHolder packages config c' := by
  have hinv := (deliveryInit_inv.run hreach).1
  obtain ⟨hinv', hcontinues⟩ := hinv.run hrun
  exact ⟨fun eventId => (hinv'.event eventId).toEventSafe, hcontinues, hinv'.outcomes⟩

end

/-! ## Many attempts

Every claim needs a clock at which the previous lease has run out, so a callback that is
kept for minutes is attempted a handful of times.  The clocks are those of the dispatchers:
when one of them lags behind by centuries, the count of the row reaches its largest value.
-/

/-- A claim that meets one row, and the row is due. -/
theorem claimDueCallbacks_one {packages : Packages} {outbox : CallbackOutbox}
    {now leaseExpiresAt : Utc} {limit : Nat} {token : String → String} {eventId : String}
    {row : CallbackRow} (hlimit : 1 ≤ limit ∧ limit ≤ 100) (hlease : now < leaseExpiresAt)
    (hrow : outbox.get eventId = some row) (hdue : row.Due now.stored)
    (hpublic : packages.containsPrivateKey row.payload = false) :
    ∃ outbox', claimDueCallbacks packages outbox now leaseExpiresAt limit
        ⟨[eventId], List.nodup_singleton _⟩ token =
          .ok (outbox', [row.claimed eventId (token eventId) leaseExpiresAt]) ∧
      outbox'.get eventId = some (row.lease (token eventId) leaseExpiresAt.stored) := by
  have hkept : row.sweep now.stored = row := by
    rw [CallbackRow.sweep, if_neg]
    exact fun h => absurd hdue.1 (not_lt.mpr h.1)
  have hget : (outbox.mapValues (·.sweep now.stored)).get eventId = some row := by
    rw [BTreeMap.mapValues, BTreeMap.get_mapEntries, hrow, Option.map_some, hkept]
  have hrows : dueCallbacks (outbox.mapValues (·.sweep now.stored)) now.stored limit
      ⟨[eventId], List.nodup_singleton _⟩ = [(eventId, row)] := by
    obtain ⟨n, rfl⟩ : ∃ n, limit = n + 1 := ⟨limit - 1, by omega⟩
    simp [dueCallbacks, hget, hdue]
  have hguard : ¬ (limit = 0 ∨ 100 < limit ∨ leaseExpiresAt ≤ now) := by
    rw [not_or, not_or]
    exact ⟨by omega, by omega, not_le.mpr hlease⟩
  refine ⟨(outbox.mapValues (·.sweep now.stored)).insert eventId
    (row.lease (token eventId) leaseExpiresAt.stored), ?_, by rw [BTreeMap.get_insert, if_pos rfl]⟩
  simp only [claimDueCallbacks, hrows, rejectIf, if_neg hguard]
  simp only [mapEach, claimedCallback, checkedPublicRecord, hpublic, rejectIf]
  rfl

namespace Example

/-- The shortest lease that can be configured. -/
def deliveryConfig : CallbackDeliveryConfig where
  maxAttempts := 10
  leaseSeconds := 5
  batchSize := 10
  retryBaseSeconds := 1
  retryCapSeconds := 60
  maxAttempts_bounds := by decide
  leaseSeconds_bounds := by decide
  batchSize_bounds := by decide
  retryBaseSeconds_bounds := by decide
  retryCapSeconds_bounds := by decide

def callback : Message where
  messageId := "flow-1"
  correlationId := some "flow-1"
  tenantId := some "org-1"
  createdAtMs := 1800000000000
  scheduledAtMs := some 1800000000000
  expiresAtMs := some 1800000900000
  headers := .ofEntries [("X-MIP-Audience", "marty-auth-service")]
  messageType := "flow.verification_completed"
  replyTo := some "https://auth.example/callback"
  payload := .object [("result", .string "verified")]

def scan : RowScan := ⟨["flow-1"], List.nodup_singleton _⟩

/-- The binary numeral of `k`. -/
def leaseToken (k : Nat) : String :=
  String.ofList ((Nat.digits 2 k).map fun d => Char.ofNat (48 + d))

/-- The clock of the `k`th dispatcher, three centuries late. -/
def lateClock (k : Nat) : Utc := (-8937418300 + 5 * k) * 1000000000

/-- The first attempt fails, and is recorded by a late clock. -/
def opening : List (Nat × DeliveryEvent) :=
  [(0, .insert callback), (0, .claim 1800000000000000000 scan fun _ => leaseToken 0),
    (0, .attempt (.response 500)), (0, .record (lateClock 0))]

/-- From then on every dispatcher claims the callback and stops. -/
def lateClaims : Nat → List (Nat × DeliveryEvent)
  | 0 => opening
  | k + 1 => lateClaims k ++ [(k + 1, .claim (lateClock (k + 1)) scan fun _ => leaseToken (k + 1))]

def deliveries : Machine (DeliveryStore Nat) Nat DeliveryEvent Dispatcher :=
  deliveryMachine packages fun _ => deliveryConfig

/-- `callback_leases_safe` at a callback whose first attempt fails, with a second claim. -/
theorem callback_leases_safe_retried :
    ∃ c c', deliveries.run deliveryInit opening = some c ∧
      deliveries.run c [(1, .claim (lateClock 1) scan fun _ => leaseToken 1)] = some c' ∧
      (c'.store.claims "flow-1").map (·.attempt) = [1, 2] ∧
      (∀ eventId, EventSafe (c'.store.view eventId)) ∧
      (∀ eventId, EventContinues (c.store.view eventId) (c'.store.view eventId)) ∧
      OutcomesByHolder packages (fun _ => deliveryConfig) c' := by
  have hruns : ((deliveries.run deliveryInit opening).bind fun c =>
      (deliveries.run c [(1, .claim (lateClock 1) scan fun _ => leaseToken 1)]).map fun c' =>
        (c'.store.claims "flow-1").map (·.attempt)) = some [1, 2] := by
    decide +kernel
  obtain ⟨c, hc, hrest⟩ := Option.bind_eq_some_iff.mp hruns
  obtain ⟨c', hc', hattempts⟩ := Option.map_eq_some_iff.mp hrest
  exact ⟨c, c', hc, hc', hattempts, callback_leases_safe hc hc'⟩

theorem leaseToken_inj {j k : Nat} (h : leaseToken j = leaseToken k) : j = k := by
  have hdigits : ∀ n, (leaseToken n).toList.map (fun c => c.toNat - 48) = Nat.digits 2 n := by
    intro n
    rw [leaseToken, String.toList_ofList, List.map_map]
    conv_rhs => rw [← List.map_id (Nat.digits 2 n)]
    refine List.map_congr_left ?_
    intro d hd
    have hlt := Nat.digits_lt_base one_lt_two hd
    obtain rfl | rfl : d = 0 ∨ d = 1 := by omega
    · rfl
    · rfl
  rw [← Nat.digits_inj_iff (b := 2), ← hdigits, ← hdigits, h]

/-- After `k` late claims the callback has been claimed `k + 1` times and is due again. -/
structure Exhausting (k : Nat) (c : Config (DeliveryStore Nat) Nat Dispatcher) : Prop where
  row : ∃ row, c.store.outbox.get "flow-1" = some row ∧
    row.Due (lateClock (k + 1)).stored ∧ row.expiresAt = 1800000900000000
  idle : ∀ j, k < j → c.calls j = .idle
  tokens : ∀ claim ∈ c.store.claims "flow-1", ∃ j ≤ k, claim.token = leaseToken j
  length : (c.store.claims "flow-1").length = k + 1

theorem lateClock_stored (k : Nat) :
    (lateClock k).stored = (-8937418300 + 5 * (k : Int)) * 1000000 := by
  have hscale : ∀ n : Int, n * 1000000000 / 1000 = n * 1000000 := by omega
  exact hscale _

theorem lateClock_stored_lt {k : Nat} (hk : k ≤ 2147483649) :
    (lateClock k).stored < 1800000900000000 := by
  have hlt : (-8937418300 + 5 * (k : Int)) * 1000000 < 1800000900000000 := by omega
  rw [lateClock_stored]
  exact hlt

theorem lateClock_lease {k : Nat} (hk : k ≤ 2147483648) :
    (lateClock k).checkedAddSeconds 5 = some (lateClock (k + 1)) := by
  have hsum : (-8937418300 + 5 * (k : Int)) * 1000000000 + (5 : Nat) * 1000000000 =
      (-8937418300 + 5 * ((k + 1 : Nat) : Int)) * 1000000000 := by
    push_cast
    ring
  have hmax : (-8937418300 + 5 * ((k + 1 : Nat) : Int)) * 1000000000 ≤
      8210266876799999999999 := by
    omega
  change (if _ ≤ _ then some _ else none) = _
  rw [lateClock, hsum]
  exact if_pos hmax

theorem opening_exhausting :
    ∃ c, deliveries.run deliveryInit (lateClaims 0) = some c ∧ Exhausting 0 c := by
  have hrun : (deliveries.run deliveryInit (lateClaims 0)).map (fun c =>
      ((c.store.outbox.get "flow-1").map fun row =>
        (row.status, row.nextAttemptAt, row.expiresAt),
        (c.store.claims "flow-1").map (·.token))) =
      some (some (.retry, -8937418299000000, 1800000900000000), [leaseToken 0]) := by
    decide +kernel
  obtain ⟨c, hc, hview⟩ := Option.map_eq_some_iff.mp hrun
  rw [Prod.mk.injEq] at hview
  obtain ⟨row, hrow, hfields⟩ := Option.map_eq_some_iff.mp hview.1
  simp only [Prod.mk.injEq] at hfields
  obtain ⟨hretry, hnext, hexpires⟩ := hfields
  refine ⟨c, hc, ⟨row, hrow, ⟨?_, .inl ⟨?_, ?_⟩⟩, hexpires⟩, ?_, ?_, ?_⟩
  · rw [hexpires]
    exact lateClock_stored_lt (by decide)
  · rw [hretry]
    decide
  · rw [hnext]
    decide
  · intro j hj
    refine Machine.run_calls_of_ne hc ?_
    simpa [lateClaims, opening] using hj.ne'
  · intro claim hmem
    refine ⟨0, le_refl 0, ?_⟩
    have htoken : claim.token ∈ (c.store.claims "flow-1").map (·.token) :=
      List.mem_map_of_mem hmem
    rw [hview.2] at htoken
    exact List.mem_singleton.mp htoken
  · have hlength := congrArg List.length hview.2
    rwa [List.length_map] at hlength

theorem Exhausting.claim {k : Nat} {c : Config (DeliveryStore Nat) Nat Dispatcher}
    (h : Exhausting k c) (hk : k + 1 ≤ 2147483648) :
    ∃ c', deliveries.next c (k + 1)
        (.claim (lateClock (k + 1)) scan fun _ => leaseToken (k + 1)) = some c' ∧
      Exhausting (k + 1) c' := by
  obtain ⟨row, hrow, hdue, hexpires⟩ := h.row
  have hlease : lateClock (k + 1) < lateClock (k + 1 + 1) := by
    have hlt : ∀ n : Int, (-8937418300 + 5 * n) * 1000000000 <
        (-8937418300 + 5 * (n + 1)) * 1000000000 := by omega
    exact_mod_cast hlt (k + 1)
  obtain ⟨outbox, hclaim, hget⟩ := @claimDueCallbacks_one packages _ _ _ _
    (fun _ => leaseToken (k + 1)) _ _ deliveryConfig.batchSize_bounds hlease hrow hdue rfl
  have hfresh : c.store.Fresh [row.claimed "flow-1" (leaseToken (k + 1)) (lateClock (k + 2))] := by
    intro callback hcallback
    rw [List.mem_singleton] at hcallback
    subst hcallback
    intro hmem
    obtain ⟨claim, hin, heq⟩ := List.mem_map.mp hmem
    obtain ⟨j, hj, hj'⟩ := h.tokens claim hin
    have := leaseToken_inj (hj'.symm.trans heq)
    omega
  refine ⟨⟨c.store.claimed (k + 1) (lateClock (k + 1)) outbox
    [row.claimed "flow-1" (leaseToken (k + 1)) (lateClock (k + 2))],
    Function.update c.calls (k + 1) (.delivering
      [row.claimed "flow-1" (leaseToken (k + 1)) (lateClock (k + 2))])⟩, ?_, ?_⟩
  · refine Machine.next_eq_some.mpr ⟨_, _, ?_, rfl⟩
    simp only [deliveries, deliveryMachine, deliveryStep, h.idle (k + 1) (Nat.lt_succ_self k),
      claimStep, deliveryConfig, lateClock_lease hk]
    rw [scan, show (10 : Nat) = deliveryConfig.batchSize from rfl, hclaim]
    exact if_pos hfresh
  · refine ⟨⟨_, hget, ?_, hexpires⟩, ?_, ?_, ?_⟩
    · refine ⟨?_, .inr ⟨rfl, _, rfl, le_refl _⟩⟩
      change (lateClock (k + 2)).stored < row.expiresAt
      rw [hexpires]
      exact lateClock_stored_lt (by omega)
    · intro j hj
      change Function.update c.calls (k + 1) _ j = _
      rw [Function.update_of_ne (by omega)]
      exact h.idle j (by omega)
    · intro claim hmem
      rcases List.mem_append.mp hmem with hmem | hmem
      · obtain ⟨j, hj, heq⟩ := h.tokens claim hmem
        exact ⟨j, by omega, heq⟩
      · obtain rfl : claim = ⟨k + 1, (lateClock (k + 1)).stored, (lateClock (k + 2)).stored,
            min (row.attemptCount + 1) i32Max, leaseToken (k + 1)⟩ := List.mem_singleton.mp hmem
        exact ⟨k + 1, le_refl _, rfl⟩
    · change (c.store.claims "flow-1" ++ [_]).length = _
      rw [List.length_append, h.length, List.length_singleton]

theorem lateClaims_exhausting {k : Nat} (hk : k ≤ 2147483648) :
    ∃ c, deliveries.run deliveryInit (lateClaims k) = some c ∧ Exhausting k c := by
  induction k with
  | zero => exact opening_exhausting
  | succ k ih =>
      obtain ⟨c, hrun, hc⟩ := ih (by omega)
      obtain ⟨c', hnext, hc'⟩ := hc.claim hk
      refine ⟨c', ?_, hc'⟩
      rw [lateClaims, Machine.run_append, hrun, Option.bind_some, Machine.run_cons, hnext]
      rfl

/-- **A number is handed out twice**: after two thousand million claims by late clocks, the
attempts of a callback are not numbered one after the other. -/
theorem attempts_repeat :
    ∃ c, deliveries.run deliveryInit (lateClaims 2147483648) = some c ∧
      ¬ ((c.store.claims "flow-1").map (·.attempt)).Nodup ∧
      (c.store.claims "flow-1").map (·.attempt) ≠
        (List.range (c.store.claims "flow-1").length).map (· + 1) := by
  obtain ⟨c, hrun, hc⟩ := lateClaims_exhausting (le_refl 2147483648)
  have hinv : DeliveryInv c := (deliveryInit_inv.run hrun).1
  have hattempts := (hinv.event "flow-1").attempts
  have hlength : (c.store.view "flow-1").claims.length = 2147483649 := hc.length
  rw [hlength] at hattempts
  have hrepeat : ¬ ((c.store.claims "flow-1").map (·.attempt)).Nodup := by
    intro hnodup
    change ((c.store.view "flow-1").claims.map (·.attempt)).Nodup at hnodup
    rw [hattempts] at hnodup
    have hsame := List.inj_on_of_nodup_map hnodup (x := 2147483646) (y := 2147483647)
      (List.mem_range.mpr (by decide)) (List.mem_range.mpr (by decide)) rfl
    cases hsame
  refine ⟨c, hrun, hrepeat, ?_⟩
  intro heq
  refine hrepeat ?_
  rw [heq]
  exact List.nodup_range.map (Nat.succ_injective)

end Example

end Marty.Flow
