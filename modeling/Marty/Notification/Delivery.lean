import Marty.Lib.Delivery
import Marty.Notification.Outbox

/-!
# Delivery of a claimed event

A worker reads the subscription and the webhook of the event that it has claimed, decides
whether to send it, and writes the outcome under the token of its claim.  An outcome that is
not to be retried, or the last attempt, makes the row a dead letter.

A read that fails is taken for a record that is absent, and an absent record is not retried:
such a failure makes a dead letter of an event that could have been delivered.

## Main definitions

* `attemptWebhook` — the request to the receiver.
* `deliveryOutcome` — the decision and the attempt; `settle` — the mark.
* `processOutboxEvent` — the delivery of one claimed event.
* `PermanentCause` — the reasons for which an event may be given up.
* `FailuresHarmless` — no other reason makes a dead letter, and a failed read makes none.

## Main results

* `failuresHarmless_iff` — failures are harmless exactly when both reads succeed or the mark
  does not meet its row.
-/

namespace Marty.Notification

open Lib

/-! ## Attempts -/

structure WebhookAttempt where
  success : Bool
  retryable : Bool
  errorCode : Option String
  responseStatusCode : Option Int
  responseTimeMs : Int
  deriving DecidableEq, Repr

def WebhookAttempt.failed (code : String) (retryable : Bool) : WebhookAttempt :=
  ⟨false, retryable, some code, none, 0⟩

/-- What the network answers to an attempt: the addresses of the receiver, the client that is
pinned to them, and the status and the time of a response. -/
structure AttemptAnswers where
  destination : Except WebhookError Unit
  client : Except WebhookError Unit
  response : Option (Nat × Int)

def retryableStatus (status : Nat) : Bool :=
  500 ≤ status && status ≤ 599 || status == 408 || status == 425 || status == 429

/-- The outcome of a response. -/
def responseOutcome (status : Nat) (elapsed : Int) : WebhookAttempt :=
  if 200 ≤ status ∧ status ≤ 299 then ⟨true, false, none, some status, elapsed⟩
  else if 300 ≤ status ∧ status ≤ 399 then
    ⟨false, false, some "WEBHOOK_REDIRECT_REJECTED", some status, elapsed⟩
  else ⟨false, retryableStatus status, some ("HTTP_" ++ toString status), some status, elapsed⟩

/-- **`attempt_webhook`**: nothing is sent with an invalid secret or to a rejected address. -/
def attemptWebhook (secret : String) (answers : AttemptAnswers) : WebhookAttempt :=
  if validWebhookSigningSecret secret = false then .failed "WEBHOOK_SIGNING_UNAVAILABLE" false
  else
    match answers.destination, answers.client, answers.response with
    | .error error, _, _ | .ok (), .error error, _ => .failed error.code error.retryable
    | .ok (), .ok (), none => .failed "WEBHOOK_DELIVERY_FAILED" true
    | .ok (), .ok (), some (status, elapsed) => responseOutcome status elapsed

/-! ## The decision -/

structure RetryPolicy where
  maxAttempts : Int
  initialBackoffSeconds : Int
  maxBackoffSeconds : Int
  deriving DecidableEq, Repr

/-- A row of `subscriptions`. -/
structure Subscription where
  id : String
  organizationId : String
  eventTypes : List String
  filterConfig : Json.Map
  retryPolicy : RetryPolicy
  deliveryTargetId : Option String
  enabled : Bool

def validPayload (event : WebhookOutboxEvent) : Bool :=
  (event.payload.get "id").bind Json.Value.asStr == some event.eventId &&
    (event.payload.get "type").bind Json.Value.asStr == some event.eventType &&
    (event.payload.get "organization_id").bind Json.Value.asStr == some event.organizationId &&
    ((event.payload.get "timestamp").bind Json.Value.asStr).isSome

/-- The subscription asks for the event at its webhook. -/
def Subscription.serves (event : WebhookOutboxEvent) (value : Subscription) : Bool :=
  value.enabled && value.organizationId == event.organizationId &&
    value.deliveryTargetId == some event.webhookId &&
    matchEventPatterns value.eventTypes event.eventType

/-- The webhook takes the event: an enabled one of the organization, of the event's type
unless the event is a test. -/
def WebhookEndpoint.takes (event : WebhookOutboxEvent) (value : WebhookEndpoint) : Bool :=
  value.enabled && value.organizationId == event.organizationId &&
    (isWebhookTestEvent event || value.accepts event.eventType)

/-- What becomes of a claimed event before a request is made. -/
inductive Plan
  | refuse (code : String) (retryable : Bool) (circuitUntil : Option DateTime)
  | attempt (webhook : WebhookEndpoint)

/-- The branches of `process_outbox_event` that are about the webhook, up to the signing
secret. -/
def planAtEndpoint (event : WebhookOutboxEvent) (claimedAt : DateTime) :
    Option WebhookEndpoint → Plan
  | none => .refuse "WEBHOOK_ENDPOINT_MISSING" false none
  | some value =>
      if value.takes event = false then .refuse "WEBHOOK_ENDPOINT_INVALID" false none
      else if value.circuitBreakerOpenUntil.any fun until_ => decide (claimedAt < until_) then
        .refuse "WEBHOOK_CIRCUIT_OPEN" true value.circuitBreakerOpenUntil
      else .attempt value

/-- The branches that are about the event and its subscription, before those. -/
def planDelivery (event : WebhookOutboxEvent) (claimedAt : DateTime)
    (subscription : Option Subscription) (webhook : Option WebhookEndpoint) : Plan :=
  let testDelivery := isWebhookTestEvent event
  if validPayload event = false then .refuse "WEBHOOK_PAYLOAD_INVALID" false none
  else if testDelivery = false ∧ subscription.isNone then
    .refuse "WEBHOOK_SUBSCRIPTION_MISSING" false none
  else if testDelivery = false ∧ subscription.any (fun value => !value.serves event) then
    .refuse "WEBHOOK_SUBSCRIPTION_INVALID" false none
  else planAtEndpoint event claimedAt webhook

/-- The signing secret of a webhook: unwrapped by the key service, or kept in memory. -/
def signingSecret (webhook : WebhookEndpoint) (unwrapped : Except WebhookError String) :
    Except WebhookError String :=
  match webhook.secretEnvelope with
  | some _ => unwrapped
  | none =>
      if validWebhookSigningSecret webhook.secret then .ok webhook.secret
      else .error (.invalidEnvelope "Webhook signing secret is unavailable")

/-- The outcome of a delivery, and whether the receiver was tried. -/
structure Outcome where
  attempt : WebhookAttempt
  attempted : Bool
  circuitUntil : Option DateTime

/-- The outcome when the secret could not be had. -/
def secretFailure (webhook : WebhookEndpoint) : WebhookError → WebhookAttempt
  | .invalidEnvelope _ =>
      .failed (if webhook.secretEnvelope.isSome then "WEBHOOK_SECRET_ENVELOPE_INVALID"
        else "WEBHOOK_SIGNING_UNAVAILABLE") false
  | .destination _ _ | .envelopeUnavailable _ => .failed "WEBHOOK_SECRET_KMS_UNAVAILABLE" true

def deliveryOutcome (plan : Plan) (unwrapped : Except WebhookError String)
    (answers : AttemptAnswers) : Outcome :=
  match plan with
  | .refuse code retryable circuitUntil => ⟨.failed code retryable, false, circuitUntil⟩
  | .attempt webhook =>
      match signingSecret webhook unwrapped with
      | .ok secret => ⟨attemptWebhook secret answers, true, none⟩
      | .error error => ⟨secretFailure webhook error, false, none⟩

/-! ## The mark -/

variable (services : OutboxServices)

/-- The event is not to be tried again after this outcome. -/
def Outcome.isFinal (outcome : Outcome) (event : WebhookOutboxEvent) : Bool :=
  !outcome.attempt.retryable ||
    outcome.circuitUntil.isNone && decide (event.maxAttempts ≤ event.attemptCount)

/-- The earliest time of the next attempt: not before the circuit closes. -/
def nextAttempt (event : WebhookOutboxEvent) (completed : DateTime)
    (circuitUntil : Option DateTime) : DateTime :=
  let next := completed + webhookRetryDelay services event
  (circuitUntil.filter fun until_ => decide (next < until_)).getD next

/-- The mark that `process_outbox_event` makes of an outcome. -/
def settle (o : Outbox) (event : WebhookOutboxEvent) (lease : String) (outcome : Outcome)
    (completed : DateTime) : Outbox × Bool :=
  if outcome.attempt.success then
    markWebhookEventDelivered o event.id lease completed
      (outcome.attempt.responseStatusCode.getD 200)
  else
    markWebhookEventFailed o event.id lease
      (nextAttempt services event completed outcome.circuitUntil) (outcome.isFinal event)
      (outcome.attempt.errorCode.getD "WEBHOOK_DELIVERY_FAILED")
      outcome.attempt.responseStatusCode

/-- A row of `webhook_deliveries`. -/
structure WebhookDelivery where
  id : String
  organizationId : String
  webhookId : String
  subscriptionId : Option String
  eventId : String
  eventType : String
  correlationId : Option String
  success : Bool
  responseStatusCode : Option Int
  errorMessage : Option String
  retryCount : Int
  responseTimeMs : Option Int
  createdAt : DateTime
  deriving DecidableEq, Repr

/-- `save_webhook_delivery`: the last outcome of a delivery. -/
def saveWebhookDelivery (rows : List WebhookDelivery) (item : WebhookDelivery) :
    List WebhookDelivery :=
  if rows.any (fun row => row.id == item.id) then
    Table.update rows (fun row => row.id == item.id) fun row =>
      { row with
        correlationId := item.correlationId, success := item.success
        responseStatusCode := item.responseStatusCode, errorMessage := item.errorMessage
        retryCount := item.retryCount, responseTimeMs := item.responseTimeMs }
  else rows ++ [item]

def deliveryRecord (event : WebhookOutboxEvent) (outcome : WebhookAttempt) : WebhookDelivery where
  id := event.id
  organizationId := event.organizationId
  webhookId := event.webhookId
  subscriptionId := some event.subscriptionId
  eventId := event.eventId
  eventType := event.eventType
  correlationId := (event.payload.get "correlation_id").bind Json.Value.asStr
  success := outcome.success
  responseStatusCode := outcome.responseStatusCode
  errorMessage := outcome.errorCode
  retryCount := max 0 (event.attemptCount - 1)
  responseTimeMs := some outcome.responseTimeMs
  createdAt := event.createdAt

/-- The tables of the service. -/
structure Tables where
  outbox : Outbox
  subscriptions : List Subscription
  webhooks : List WebhookEndpoint
  deliveries : List WebhookDelivery

/-- The writes after a mark that met its row: the counters of the webhook when the receiver
was tried, and the record of the delivery. -/
def recordOutcome (tables : Tables) (event : WebhookOutboxEvent) (webhook : Option WebhookEndpoint)
    (outcome : Outcome) (completed : DateTime) (threshold : Int) (recorded saved : Bool) : Tables :=
  let webhooks :=
    if outcome.attempted && recorded then
      match recordWebhookAttempt tables.webhooks event.webhookId event.organizationId
          outcome.attempt.success completed threshold with
      | .ok (webhooks, _) => webhooks
      | .error _ => tables.webhooks
    else tables.webhooks
  let deliveries :=
    if webhook.all (fun value => value.organizationId == event.organizationId) && saved then
      saveWebhookDelivery tables.deliveries (deliveryRecord event outcome.attempt)
    else tables.deliveries
  { tables with webhooks := webhooks, deliveries := deliveries }

/-- What the repository, the key service, the network and the clock answer to one delivery. -/
structure ProcessAnswers where
  subscription : Except RepositoryError (Option Subscription)
  webhook : Except RepositoryError (Option WebhookEndpoint)
  unwrapped : Except WebhookError String
  attempt : AttemptAnswers
  completed : DateTime
  mark : Delivery
  threshold : Int
  recorded : Bool
  saved : Bool

/-- `.ok().flatten()`. -/
def flatten {α : Type*} (answer : Except RepositoryError (Option α)) : Option α :=
  match answer with
  | .ok value => value
  | .error _ => none

/-- The outcome of the delivery of an event. -/
def ProcessAnswers.outcome (answers : ProcessAnswers) (event : WebhookOutboxEvent)
    (claimedAt : DateTime) : Outcome :=
  deliveryOutcome
    (planDelivery event claimedAt (flatten answers.subscription) (flatten answers.webhook))
    answers.unwrapped answers.attempt

/-- **`process_outbox_event`**, on the tables as they are when it writes. -/
def processOutboxEvent (answers : ProcessAnswers) (event : WebhookOutboxEvent)
    (claimedAt : DateTime) (tables : Tables) : Tables × Option String :=
  match event.leaseToken with
  | none => (tables, none)
  | some lease =>
      let outcome := answers.outcome event claimedAt
      if answers.mark = .refused then (tables, none) else
      let (outbox, marked) := settle services tables.outbox event lease outcome answers.completed
      let tables := { tables with outbox := outbox }
      if answers.mark = .lost ∨ marked = false then (tables, none) else
      (recordOutcome tables event (flatten answers.webhook) outcome answers.completed
          answers.threshold answers.recorded answers.saved,
        some (if outcome.attempt.success then "delivered"
          else if outcome.isFinal event then "dead" else "retried"))

/-! ## Failures -/

/-- A read that the delivery depends on has failed; a test has no subscription to read. -/
def ProcessAnswers.FailedRead (answers : ProcessAnswers) (event : WebhookOutboxEvent) : Prop :=
  (∃ error, answers.webhook = .error error) ∨
    isWebhookTestEvent event = false ∧ ∃ error, answers.subscription = .error error

/-- **The reasons to give an event up.** -/
inductive PermanentCause (event : WebhookOutboxEvent) (answers : ProcessAnswers) : Prop
  | payload (h : validPayload event = false)
  | subscriptionAbsent (htest : isWebhookTestEvent event = false)
      (h : answers.subscription = .ok none)
  | subscriptionMismatch (htest : isWebhookTestEvent event = false) (value : Subscription)
      (h : answers.subscription = .ok (some value)) (hserves : value.serves event = false)
  | webhookAbsent (h : answers.webhook = .ok none)
  | webhookMismatch (value : WebhookEndpoint) (h : answers.webhook = .ok (some value))
      (htakes : value.takes event = false)
  | secretUnopened (value : WebhookEndpoint) (h : answers.webhook = .ok (some value))
      (message : String)
      (hsecret : signingSecret value answers.unwrapped = .error (.invalidEnvelope message))
  | secretInvalid (value : WebhookEndpoint) (h : answers.webhook = .ok (some value))
      (secret : String) (hsecret : signingSecret value answers.unwrapped = .ok secret)
      (hinvalid : validWebhookSigningSecret secret = false)
  /-- The receiver was tried, and its address or its answer is not one to try again. -/
  | receiver (value : WebhookEndpoint) (h : answers.webhook = .ok (some value)) (secret : String)
      (hsecret : signingSecret value answers.unwrapped = .ok secret)
      (hvalid : validWebhookSigningSecret secret = true)
      (hanswer : (attemptWebhook secret answers.attempt).retryable = false)
  | limit (h : event.maxAttempts ≤ event.attemptCount)

/-- **Temporary failures do no harm**: a row becomes a dead letter for one of the reasons only,
and after a failed read the event is still there to be claimed. -/
structure FailuresHarmless (event : WebhookOutboxEvent) (answers : ProcessAnswers)
    (before after : Outbox) : Prop where
  caused : ∀ row ∈ after.rows, row.id = event.id → row.status = .deadLetter →
    row ∈ before.rows ∨ PermanentCause event answers
  claimable : answers.FailedRead event → ∀ row ∈ before.rows, row.id = event.id →
    row.status.isTerminal = false → ∃ row' ∈ after.rows, row'.id = row.id ∧
      row'.status.isTerminal = false ∧ row'.payload = row.payload

/-- The mark is carried out, on the row that the event was claimed from. -/
def MarkMeets (answers : ProcessAnswers) (event : WebhookOutboxEvent) (o : Outbox) : Prop :=
  answers.mark ≠ .refused ∧
    ∃ lease, event.leaseToken = some lease ∧ ∃ row ∈ o.rows, row.isLeasedUnder event.id lease

section Causes

variable {answers : ProcessAnswers} {event : WebhookOutboxEvent} {claimedAt : DateTime}

/-- An outcome at the webhook that is not to be retried has a cause there. -/
theorem permanentCause_at_endpoint {webhook : Option WebhookEndpoint}
    (hwebhook : answers.webhook = .ok webhook)
    (hretry : (deliveryOutcome (planAtEndpoint event claimedAt webhook) answers.unwrapped
      answers.attempt).attempt.retryable = false) : PermanentCause event answers := by
  cases webhook with
  | none => exact .webhookAbsent hwebhook
  | some value =>
      by_cases htakes : value.takes event = false
      · exact .webhookMismatch value hwebhook htakes
      by_cases hcircuit : value.circuitBreakerOpenUntil.any fun until_ => decide (claimedAt < until_)
      · simp [planAtEndpoint, htakes, hcircuit, deliveryOutcome, WebhookAttempt.failed] at hretry
      rw [planAtEndpoint, if_neg htakes, if_neg hcircuit] at hretry
      cases hsecret : signingSecret value answers.unwrapped with
      | error error =>
          cases error with
          | invalidEnvelope message => exact .secretUnopened value hwebhook message hsecret
          | destination code retryable | envelopeUnavailable message =>
              simp [deliveryOutcome, hsecret, secretFailure, WebhookAttempt.failed] at hretry
      | ok secret =>
          simp only [deliveryOutcome, hsecret] at hretry
          by_cases hvalid : validWebhookSigningSecret secret = false
          · exact .secretInvalid value hwebhook secret hsecret hvalid
          · exact .receiver value hwebhook secret hsecret (by simpa using hvalid) hretry

/-- **An outcome that is final** has a permanent cause, unless a read has failed. -/
theorem permanentCause_of_isFinal (hread : ¬ answers.FailedRead event)
    (hfinal : (answers.outcome event claimedAt).isFinal event = true) :
    PermanentCause event answers := by
  by_cases hlimit : event.maxAttempts ≤ event.attemptCount
  · exact .limit hlimit
  have hretry : (answers.outcome event claimedAt).attempt.retryable = false := by
    simpa [Outcome.isFinal, hlimit] using hfinal
  by_cases hpayload : validPayload event = false
  · exact .payload hpayload
  obtain ⟨webhook, hwebhook⟩ : ∃ webhook, answers.webhook = .ok webhook := by
    cases hw : answers.webhook with
    | error error => exact absurd (.inl ⟨error, hw⟩) hread
    | ok webhook => exact ⟨webhook, rfl⟩
  by_cases htest : isWebhookTestEvent event = false
  · cases hsubscription : answers.subscription with
    | error error => exact absurd (.inr ⟨htest, error, hsubscription⟩) hread
    | ok subscription =>
        cases subscription with
        | none => exact .subscriptionAbsent htest hsubscription
        | some value =>
            by_cases hserves : value.serves event = false
            · exact .subscriptionMismatch htest value hsubscription hserves
            have hretry' : (deliveryOutcome (planAtEndpoint event claimedAt webhook)
                answers.unwrapped answers.attempt).attempt.retryable = false := by
              simpa [ProcessAnswers.outcome, planDelivery, hpayload, hsubscription, hserves,
                hwebhook, flatten] using hretry
            exact permanentCause_at_endpoint hwebhook hretry'
  · have hretry' : (deliveryOutcome (planAtEndpoint event claimedAt webhook) answers.unwrapped
        answers.attempt).attempt.retryable = false := by
      simpa [ProcessAnswers.outcome, planDelivery, hpayload, htest, hwebhook, flatten] using hretry
    exact permanentCause_at_endpoint hwebhook hretry'

/-- **After a failed read** the outcome is a failure that is not retried. -/
theorem outcome_of_failedRead (claimedAt : DateTime) (hread : answers.FailedRead event) :
    (answers.outcome event claimedAt).attempt.success = false ∧
      (answers.outcome event claimedAt).isFinal event = true := by
  have hrefused : ∃ code, planDelivery event claimedAt (flatten answers.subscription)
      (flatten answers.webhook) = .refuse code false none := by
    rcases hread with ⟨error, hwebhook⟩ | ⟨htest, error, hsubscription⟩
    · rw [hwebhook]
      unfold planDelivery
      dsimp only
      split_ifs
      · exact ⟨_, rfl⟩
      · exact ⟨_, rfl⟩
      · exact ⟨_, rfl⟩
      · exact ⟨_, rfl⟩
    · rw [hsubscription]
      by_cases hpayload : validPayload event = false
      · exact ⟨_, if_pos hpayload⟩
      · exact ⟨"WEBHOOK_SUBSCRIPTION_MISSING", by simp [planDelivery, hpayload, htest, flatten]⟩
  obtain ⟨code, hplan⟩ := hrefused
  simp [ProcessAnswers.outcome, hplan, deliveryOutcome, WebhookAttempt.failed, Outcome.isFinal]

end Causes

/-- **A mark** changes the row of the event, or none. -/
theorem Outbox.mark_cases (o : Outbox) (id token : String)
    (f : WebhookOutboxEvent → WebhookOutboxEvent) (hf : ∀ row, (f row).content = row.content) :
    ((o.mark id token f hf).1.rows = o.rows ∧ (o.mark id token f hf).2 = false ∧
        ∀ row ∈ o.rows, row.isLeasedUnder id token = false) ∨
      ∃ row, row.isLeasedUnder id token = true ∧ (o.mark id token f hf).2 = true ∧
        Table.Replaces o.rows row (f row) (o.mark id token f hf).1.rows := by
  have hkey : ∀ row : WebhookOutboxEvent, row.isLeasedUnder id token = true → row.id = id := by
    intro row hrow
    simp only [WebhookOutboxEvent.isLeasedUnder, Bool.and_eq_true, beq_iff_eq] at hrow
    exact hrow.1.1
  obtain hnone | ⟨row, hrow, hmet, -, hrep⟩ := Table.update_cases (f := f) o.ids hkey
  · exact .inl ⟨Table.update_of_forall_not hnone, by simpa [mark] using hnone, hnone⟩
  · exact .inr ⟨row, hmet, List.any_eq_true.mpr ⟨row, hrow, hmet⟩, hrep⟩

/-- The row of an event after the mark of an outcome. -/
def settled (services : OutboxServices) (event : WebhookOutboxEvent) (outcome : Outcome)
    (completed : DateTime) : WebhookOutboxEvent → WebhookOutboxEvent :=
  if outcome.attempt.success then
    .deliver completed (outcome.attempt.responseStatusCode.getD 200)
  else
    .fail (nextAttempt services event completed outcome.circuitUntil) (outcome.isFinal event)
      (outcome.attempt.errorCode.getD "WEBHOOK_DELIVERY_FAILED") outcome.attempt.responseStatusCode

/-- **What a mark does**: the row that is leased under the token is settled, or there is none. -/
theorem settle_cases (services : OutboxServices) (o : Outbox) (event : WebhookOutboxEvent)
    (lease : String) (outcome : Outcome) (completed : DateTime) :
    ((settle services o event lease outcome completed).1.rows = o.rows ∧
        (settle services o event lease outcome completed).2 = false ∧
        ∀ row ∈ o.rows, row.isLeasedUnder event.id lease = false) ∨
      ∃ row, row.isLeasedUnder event.id lease = true ∧
        (settle services o event lease outcome completed).2 = true ∧
        Table.Replaces o.rows row (settled services event outcome completed row)
          (settle services o event lease outcome completed).1.rows := by
  unfold settle settled
  split
  · unfold markWebhookEventDelivered
    exact o.mark_cases event.id lease (.deliver completed _) fun _ => rfl
  · unfold markWebhookEventFailed
    exact o.mark_cases event.id lease (.fail _ _ _ _) fun _ => rfl

/-- The outbox after the delivery of an event. -/
theorem processOutboxEvent_outbox (services : OutboxServices) (answers : ProcessAnswers)
    (event : WebhookOutboxEvent) (claimedAt : DateTime) (tables : Tables) :
    (processOutboxEvent services answers event claimedAt tables).1.outbox.rows =
        tables.outbox.rows ∧ ¬ MarkMeets answers event tables.outbox ∨
      ∃ lease row, event.leaseToken = some lease ∧ row.isLeasedUnder event.id lease = true ∧
        MarkMeets answers event tables.outbox ∧
        Table.Replaces tables.outbox.rows row
          (settled services event (answers.outcome event claimedAt) answers.completed row)
          (processOutboxEvent services answers event claimedAt tables).1.outbox.rows := by
  unfold processOutboxEvent
  split
  case h_1 hnone =>
      left
      refine ⟨rfl, ?_⟩
      rintro ⟨-, lease, hlease, -⟩
      rw [hnone] at hlease
      cases hlease
  case h_2 lease hlease =>
      by_cases hrefused : answers.mark = .refused
      · rw [if_pos hrefused]
        exact .inl ⟨rfl, fun hmeets => hmeets.1 hrefused⟩
      rw [if_neg hrefused]
      dsimp only
      rw [apply_ite Prod.fst, apply_ite Tables.outbox, recordOutcome, ite_self]
      dsimp only
      obtain ⟨hrows, -, hnone⟩ | ⟨row, hmet, -, hrep⟩ := settle_cases services tables.outbox event
        lease (answers.outcome event claimedAt) answers.completed
      · refine .inl ⟨hrows, ?_⟩
        rintro ⟨-, lease', hlease', row, hrow, hmet⟩
        obtain rfl : lease = lease' := Option.some.inj (hlease.symm.trans hlease')
        rw [hnone row hrow] at hmet
        cases hmet
      · exact .inr ⟨lease, row, hlease, hmet, ⟨hrefused, lease, hlease, row, hrep.mem, hmet⟩, hrep⟩

/-- **Temporary failures are harmless exactly** when the reads that the delivery depends on
succeed, or its mark does not meet the row. -/
theorem failuresHarmless_iff (answers : ProcessAnswers) (event : WebhookOutboxEvent)
    (claimedAt : DateTime) (tables : Tables) :
    FailuresHarmless event answers tables.outbox
        (processOutboxEvent services answers event claimedAt tables).1.outbox ↔
      ¬ (answers.FailedRead event ∧ MarkMeets answers event tables.outbox) := by
  obtain ⟨hrows, hmeets⟩ | ⟨lease, row, hlease, hmet, hmeets, hrep⟩ :=
    processOutboxEvent_outbox services answers event claimedAt tables
  · refine ⟨fun _ hboth => hmeets hboth.2, fun _ => ⟨fun row hrow _ _ => ?_, ?_⟩⟩
    · exact .inl (hrows ▸ hrow)
    · exact fun _ row hrow _ hopen => ⟨row, hrows ▸ hrow, rfl, hopen, rfl⟩
  · simp only [WebhookOutboxEvent.isLeasedUnder, Bool.and_eq_true, beq_iff_eq] at hmet
    obtain ⟨⟨hid, hdelivering⟩, -⟩ := hmet
    constructor
    · rintro hharmless ⟨hread, -⟩
      -- The mark of a failed read makes a dead letter of a row that was being delivered.
      obtain ⟨hfailed, hfinal⟩ := outcome_of_failedRead claimedAt hread
      obtain ⟨row', hrow', hid', hopen, -⟩ := hharmless.claimable hread row hrep.mem hid
        (by rw [hdelivering, OutboxStatus.isTerminal])
      obtain rfl | ⟨-, hne⟩ := hrep.eq_or_mem tables.outbox.ids hrow'
      · simp [settled, hfailed, hfinal, WebhookOutboxEvent.fail, OutboxStatus.isTerminal] at hopen
      · exact hne hid'
    · intro hboth
      have hread : ¬ answers.FailedRead event := fun hread => hboth ⟨hread, hmeets⟩
      refine ⟨fun row' hrow' _ hdead => ?_, fun h => absurd h hread⟩
      obtain rfl | ⟨hmem, -⟩ := hrep.eq_or_mem tables.outbox.ids hrow'
      · right
        unfold settled at hdead
        split at hdead
        · cases hdead
        · have hfinal : (answers.outcome event claimedAt).isFinal event = true := by
            by_contra hnot
            simp [WebhookOutboxEvent.fail, hnot] at hdead
          exact permanentCause_of_isFinal hread hfinal
      · exact .inl hmem

namespace FailedReadExample

def plainServices : OutboxServices where
  uuidV5 := id
  jitter := fun _ _ _ _ => 0
  isPrivateRecord := fun _ => false
  isPrivatePayload := fun _ => false

/-- An event that is being delivered for the first time. -/
def claimed : WebhookOutboxEvent :=
  (newWebhookOutboxEvent plainServices "O" "W" "S" "E" "application.approved"
    [("id", .string "E"), ("type", .string "application.approved"),
      ("organization_id", .string "O"), ("timestamp", .string "1970-01-01T00:00:00+00:00")]
    3 1 30 0 86400).lease "lease" (seconds 30)

/-- The webhook cannot be read. -/
def unreadable : ProcessAnswers where
  subscription := .ok (some ⟨"S", "O", ["*"], [], ⟨3, 1, 30⟩, some "W", true⟩)
  webhook := .error (.unavailable "pool timed out")
  unwrapped := .error (.envelopeUnavailable "")
  attempt := ⟨.ok (), .ok (), none⟩
  completed := 0
  mark := .answered
  threshold := 5
  recorded := true
  saved := true

def tables : Tables where
  outbox := Outbox.empty.insert claimed (by simp [Outbox.empty]) (by simp [Outbox.empty])
  subscriptions := []
  webhooks := []
  deliveries := []

/-- **The first attempt makes a dead letter** of an event whose webhook could not be read. -/
theorem failed_read_destroys :
    (processOutboxEvent plainServices unreadable claimed 0 tables).2 = some "dead" ∧
      ((processOutboxEvent plainServices unreadable claimed 0 tables).1.outbox.rows.map fun row =>
        (row.status, row.payload.isEmpty)) = [(.deadLetter, true)] ∧
      ¬ FailuresHarmless claimed unreadable tables.outbox
        (processOutboxEvent plainServices unreadable claimed 0 tables).1.outbox := by
  refine ⟨by decide +kernel, by decide +kernel, fun hharmless => ?_⟩
  have hdead : ∀ row ∈ (processOutboxEvent plainServices unreadable claimed 0 tables).1.outbox.rows,
      row.status = .deadLetter := by
    decide +kernel
  have hread : unreadable.FailedRead claimed := .inl ⟨_, rfl⟩
  have hclaimed : claimed ∈ tables.outbox.rows := by simp [tables, Outbox.insert]
  obtain ⟨row, hrow, -, hopen, -⟩ := hharmless.claimable hread claimed hclaimed rfl rfl
  rw [hdead row hrow] at hopen
  cases hopen

end FailedReadExample

end Marty.Notification
