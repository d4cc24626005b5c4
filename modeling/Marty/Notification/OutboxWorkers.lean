import Marty.Lib.Interleaving
import Marty.Notification.Delivery

/-!
# Ingestion and workers

An event that is ingested is queued for every subscription that asks for it.  Any number of
workers claim the due rows, and deliver each of them in a task of its own; a worker that
crashes takes no more steps.  Subscriptions and webhooks may be changed by others at any time.

## Main definitions

* `validateEvent`, `matchingSubscriptions`, `targetOf` — the parts of `ingest_event`.
* `OutboxAct` — what has been done, in order.
* `taskStep` — the steps of a delivery.
* `outboxMachine` — ingestions, workers, and the other writers of the tables.
-/

namespace Marty.Notification

open Lib Lib.Checked

/-! ## Ingestion -/

structure EventIngestRequest where
  eventId : String
  eventType : String
  aggregateId : String
  aggregateType : String
  organizationId : String
  correlationId : String
  data : Json.Map
  timestamp : Option String

/-- What ingestion takes from other packages. -/
structure IngestServices extends OutboxServices where
  readRfc3339 : String → Option DateTime
  writeRfc3339 : DateTime → String
  /-- `validate_internal_event_data`, with the text of its error. -/
  validateInternalEventData : String → Json.Map → Except String Unit

variable (services : IngestServices)

def isAsciiAlphanumeric (c : Char) : Bool :=
  (48 ≤ c.toNat && c.toNat ≤ 57) || (65 ≤ c.toNat && c.toNat ≤ 90) ||
    (97 ≤ c.toNat && c.toNat ≤ 122)

/-- The characters that an identifier of an event may have, the first of them a letter or a
digit. -/
def isSafeEventId (eventId : String) : Bool :=
  (eventId.toList.take 1).all isAsciiAlphanumeric &&
    (eventId.toList.drop 1).all fun c => isAsciiAlphanumeric c || "._:/-".toList.contains c

/-- The status that an event of an application has to carry. -/
def expectedStatus (eventType : String) : Option String :=
  if eventType = "application.approved" then some "APPROVED"
  else if eventType = "application.rejected" then some "REJECTED"
  else none

/-- The event is the projection of one application in that status. -/
def EventIngestRequest.isBound (event : EventIngestRequest) (status : String) : Bool :=
  event.aggregateType == "application" && event.data.length == 4 &&
    (["applicant_id", "application_id", "credential_template_id", "status"].all fun field =>
      ((event.data.get field).bind Json.Value.asStr).any fun value => Text.trim value != "") &&
    (event.data.get "application_id").bind Json.Value.asStr == some event.aggregateId &&
    (event.data.get "status").bind Json.Value.asStr == some status

def validateEvent (event : EventIngestRequest) : Except ServiceError Unit := do
  requireText event.eventId "event_id" 64
  rejectIf (isSafeEventId event.eventId = false) (.invalid "event_id contains unsafe characters")
  rejectIf (Uuid.parses event.correlationId = false)
    (.invalid "correlation_id must be a gateway request UUID")
  (services.validateInternalEventData event.eventType event.data).mapError .invalid
  rejectIf (event.timestamp.any fun text => (services.readRfc3339 text).isNone)
    (.invalid "timestamp must be an ISO 8601 datetime with a timezone")
  match expectedStatus event.eventType with
  | some status =>
      rejectIf (event.isBound status = false)
        (.invalid "Applicant producer is not authorized for this event projection")
  | none => .error (.invalid "Applicant producer is not authorized for this event type")

def filterMatches (filter : Json.Map) (event : EventIngestRequest) : Bool :=
  ((filter.get "aggregate_types").bind Json.Value.asArray).all (fun values =>
      values.isEmpty || values.any fun value => value.asStr == some event.aggregateType) &&
    ((filter.get "required_data_keys").bind Json.Value.asArray).all fun values =>
      values.all fun value => value.asStr.any fun key => event.data.containsKey key

/-- The subscriptions of the organization that ask for the event. -/
def matchingSubscriptions (subscriptions : List Subscription) (event : EventIngestRequest) :
    List Subscription :=
  (subscriptions.filter fun row => row.organizationId == event.organizationId).filter fun row =>
    row.enabled && matchEventPatterns row.eventTypes event.eventType &&
      filterMatches row.filterConfig event

def ingestPayload (event : EventIngestRequest) (createdAt : DateTime) : Json.Map :=
  [("id", .string event.eventId), ("type", .string event.eventType),
    ("timestamp", .string (services.writeRfc3339 createdAt)),
    ("aggregate_id", .string event.aggregateId),
    ("aggregate_type", .string event.aggregateType),
    ("organization_id", .string event.organizationId),
    ("correlation_id", .string event.correlationId), ("data", .object event.data)]

/-- What one subscription asks for: nothing, a target of another organization, or a row. -/
inductive Target
  | skipped
  | foreign
  | found (item : WebhookOutboxEvent)

/-- The body of the loop of `ingest_event`, from the webhook that was read. -/
def targetOf (event : EventIngestRequest) (createdAt : DateTime) (subscription : Subscription)
    (webhook : Option WebhookEndpoint) : Target :=
  match webhook with
  | none => .skipped
  | some webhook =>
      if webhook.enabled = false then .skipped
      else if webhook.organizationId ≠ subscription.organizationId then .foreign
      else if webhook.accepts event.eventType = false then .skipped
      else
        .found (newWebhookOutboxEvent services.toOutboxServices event.organizationId webhook.id
          subscription.id event.eventId event.eventType (ingestPayload services event createdAt)
          subscription.retryPolicy.maxAttempts subscription.retryPolicy.initialBackoffSeconds
          subscription.retryPolicy.maxBackoffSeconds createdAt 86400)

/-- The answer of `ingest_event`. -/
structure IngestAnswer where
  matchedSubscriptions : Nat
  deliveries : Nat
  failures : Nat
  deriving DecidableEq, Repr

/-- An ingestion in its loop: the subscriptions that are left, and what has been counted. -/
structure Ingestion where
  event : EventIngestRequest
  createdAt : DateTime
  remaining : List Subscription
  answer : IngestAnswer

/-! ## Acts and calls -/

/-- What has been done. -/
inductive OutboxAct
  | queued (item : WebhookOutboxEvent)
  | claimed (id token : String) (attempt : Int)
  | readWebhook (id token : String) (webhook : WebhookEndpoint)
  | sent (event : WebhookOutboxEvent) (token : String) (webhook : WebhookEndpoint)
  /-- The outcome of an attempt, in which the receiver was tried or not. -/
  | recorded (id token : String) (attempt : Int) (attempted : Bool)

structure WorkerStore where
  tables : Tables
  acts : List OutboxAct

/-- How far the delivery of a claimed event has come. -/
inductive DeliveryTask
  | claimed (event : WebhookOutboxEvent)
  | subscriptionRead (event : WebhookOutboxEvent) (subscription : Option Subscription)
  | planned (event : WebhookOutboxEvent) (webhook : Option WebhookEndpoint) (plan : Plan)
  | sending (event : WebhookOutboxEvent) (webhook : WebhookEndpoint)
      (unwrapped : Except WebhookError String)
  | decided (event : WebhookOutboxEvent) (webhook : Option WebhookEndpoint) (outcome : Outcome)
  | marked (event : WebhookOutboxEvent) (webhook : Option WebhookEndpoint) (outcome : Outcome)
      (completed : DateTime)
  | finished (answer : Option String)

inductive OutboxPhase
  | idle
  | ingesting (ingestion : Ingestion)
  | queueing (ingestion : Ingestion) (item : WebhookOutboxEvent)
  | ingested (answer : Except ServiceError IngestAnswer)
  /-- Between the two statements of a claim. -/
  | claiming (now leaseExpiresAt : DateTime) (limit : Nat)
  /-- The deliveries of the events that were claimed at a time. -/
  | working (now : DateTime) (tasks : List DeliveryTask)

inductive TaskEvent
  | readSubscription (readable : Bool)
  | readWebhook (readable : Bool)
  | refuse
  /-- The secret is unwrapped and the receiver resolved; what can be sent is sent. -/
  | send (unwrapped : Except WebhookError String) (destination client : Except WebhookError Unit)
  | respond (response : Option (Nat × Int))
  | mark (delivery : Delivery) (completed : DateTime)
  | record (threshold : Int) (recorded saved : Bool)

inductive OutboxEvent
  | ingest (event : EventIngestRequest) (now : DateTime) (readable : Bool)
  | target (readable : Bool)
  | enqueue (delivery : Delivery)
  | expire (now : DateTime) (leaseSeconds : Nat) (limit : Nat)
  | claim (locked : List String) (token : String → String) (received : Bool)
  | task (index : Nat) (event : TaskEvent)
  | configure (subscriptions : List Subscription) (webhooks : List WebhookEndpoint)

/-! ## Steps -/

def unavailable : ServiceError := .unavailable "notification storage is unavailable"

/-- `ingest_event` up to its loop. -/
def beginIngestion (tables : Tables) (event : EventIngestRequest) (now : DateTime)
    (readable : Bool) : OutboxPhase :=
  match validateEvent services event with
  | .error error => .ingested (.error error)
  | .ok () =>
      if readable then
        let matching := matchingSubscriptions tables.subscriptions event
        let createdAt := (event.timestamp.bind services.readRfc3339).getD now
        .ingesting ⟨event, createdAt, matching, ⟨matching.length, 0, 0⟩⟩
      else .ingested (.error unavailable)

/-- One turn of the loop, up to its insertion. -/
def nextTarget (tables : Tables) (ingestion : Ingestion) (readable : Bool) : OutboxPhase :=
  match ingestion.remaining with
  | [] => .ingested (.ok ingestion.answer)
  | subscription :: rest =>
      let next := { ingestion with remaining := rest }
      match subscription.deliveryTargetId with
      | none => .ingesting next
      | some targetId =>
          if readable then
            match targetOf services ingestion.event ingestion.createdAt subscription
                (getWebhook tables.webhooks targetId) with
            | .skipped => .ingesting next
            | .foreign =>
                .ingesting { next with
                  answer := { next.answer with failures := next.answer.failures + 1 } }
            | .found item => .queueing next item
          else .ingested (.error unavailable)

/-- The insertion of a row, and what its answer is counted as. -/
def queueStep (s : WorkerStore) (ingestion : Ingestion) (item : WebhookOutboxEvent)
    (delivery : Delivery) : WorkerStore × OutboxPhase :=
  if delivery = .refused then (s, .ingested (.error unavailable)) else
  match enqueueWebhookEvent services.toOutboxServices s.tables.outbox item with
  | .error _ => (s, .ingested (.error unavailable))
  | .ok (outbox, inserted) =>
      (⟨{ s.tables with outbox := outbox }, if inserted then s.acts ++ [.queued item] else s.acts⟩,
        if delivery = .lost then .ingested (.error unavailable)
        else
          .ingesting { ingestion with
            answer := { ingestion.answer with
              deliveries := ingestion.answer.deliveries + if inserted then 1 else 0 } })

/-- The tokens that were ever given out. -/
def tokensOf (acts : List OutboxAct) : List String :=
  acts.filterMap fun act => match act with
    | .claimed _ token _ => some token
    | _ => none

/-- The rows are leased under tokens that were never given out. -/
def FreshTokens (acts : List OutboxAct) (rows : List WebhookOutboxEvent) (token : String → String) :
    Prop :=
  (rows.map fun row => token row.id).Nodup ∧ ∀ row ∈ rows, token row.id ∉ tokensOf acts

instance decidableFreshTokens (acts : List OutboxAct) (rows : List WebhookOutboxEvent)
    (token : String → String) : Decidable (FreshTokens acts rows token) :=
  inferInstanceAs (Decidable (_ ∧ _))

/-- The second statement of a claim, and what the worker sees of it.  A payload that may not be
read fails the whole answer; the rows are leased all the same. -/
def claimStep (s : WorkerStore) (now leaseExpiresAt : DateTime) (limit : Nat)
    (locked : List String) (token : String → String) (received : Bool) :
    Option (WorkerStore × OutboxPhase) :=
  let due := dueRows s.tables.outbox now limit locked
  if FreshTokens s.acts due token then
    match claimDueWebhookEvents s.tables.outbox now leaseExpiresAt limit locked token with
    | .error _ => some (s, .working now [])
    | .ok (outbox, events) =>
        let readable := received && !events.any fun event => services.isPrivatePayload event.payload
        some (⟨{ s.tables with outbox := outbox },
            s.acts ++ due.map fun row => .claimed row.id (token row.id) (row.attemptCount + 1)⟩,
          .working now (if readable then events.map .claimed else []))
  else none

/-- A request is made: the secret is there and valid, and the address is one to send to. -/
def isSent (webhook : WebhookEndpoint) (unwrapped : Except WebhookError String)
    (destination client : Except WebhookError Unit) : Bool :=
  match signingSecret webhook unwrapped, destination, client with
  | .ok secret, .ok (), .ok () => validWebhookSigningSecret secret
  | _, _, _ => false

/-- **One step of `process_outbox_event`**; a task without a lease ends at once. -/
def taskStep (now : DateTime) (e : TaskEvent) (s : WorkerStore) (task : DeliveryTask) :
    Option (WorkerStore × DeliveryTask) :=
  match task, e with
  | .claimed event, .readSubscription readable =>
      match event.leaseToken with
      | none => some (s, .finished none)
      | some _ =>
          some (s, .subscriptionRead event (if readable then
            s.tables.subscriptions.find? fun row => row.id == event.subscriptionId else none))
  | .subscriptionRead event subscription, .readWebhook readable =>
      let webhook := if readable then getWebhook s.tables.webhooks event.webhookId else none
      some (⟨s.tables, s.acts ++ (webhook.map fun value =>
          OutboxAct.readWebhook event.id (event.leaseToken.getD "") value).toList⟩,
        .planned event webhook (planDelivery event now subscription webhook))
  | .planned event webhook (.refuse code retryable circuitUntil), .refuse =>
      some (s, .decided event webhook ⟨.failed code retryable, false, circuitUntil⟩)
  | .planned event webhook (.attempt value), .send unwrapped destination client =>
      if isSent value unwrapped destination client then
        some (⟨s.tables, s.acts ++ [.sent event (event.leaseToken.getD "") value]⟩,
          .sending event value unwrapped)
      else
        some (s, .decided event webhook
          (deliveryOutcome (.attempt value) unwrapped ⟨destination, client, none⟩))
  | .sending event webhook unwrapped, .respond response =>
      some (s, .decided event (some webhook)
        (deliveryOutcome (.attempt webhook) unwrapped ⟨.ok (), .ok (), response⟩))
  | .decided event webhook outcome, .mark delivery completed =>
      let lease := event.leaseToken.getD ""
      if delivery = .refused then some (s, .finished none) else
      let (outbox, marked) := settle services.toOutboxServices s.tables.outbox event lease outcome
        completed
      some (⟨{ s.tables with outbox := outbox },
          if marked then
            s.acts ++ [.recorded event.id lease event.attemptCount outcome.attempted]
          else s.acts⟩,
        if delivery = .lost ∨ marked = false then .finished none
        else .marked event webhook outcome completed)
  | .marked event webhook outcome completed, .record threshold recorded saved =>
      some (⟨recordOutcome s.tables event webhook outcome completed threshold recorded saved,
          s.acts⟩,
        .finished (some (if outcome.attempt.success then "delivered"
          else if outcome.isFinal event then "dead" else "retried")))
  | _, _ => none

variable {ι : Type*}

def outboxStep : ι → OutboxEvent → WorkerStore → OutboxPhase → Option (WorkerStore × OutboxPhase)
  | _, .configure subscriptions webhooks, s, phase =>
      some (⟨{ s.tables with subscriptions := subscriptions, webhooks := webhooks }, s.acts⟩, phase)
  | _, .ingest event now readable, s, .idle =>
      some (s, beginIngestion services s.tables event now readable)
  | _, .target readable, s, .ingesting ingestion =>
      some (s, nextTarget services s.tables ingestion readable)
  | _, .enqueue delivery, s, .queueing ingestion item =>
      some (queueStep services s ingestion item delivery)
  | _, .expire now leaseSeconds limit, s, .idle =>
      if 5 ≤ leaseSeconds ∧ leaseSeconds ≤ 300 ∧ 1 ≤ limit ∧ limit ≤ 100 then
        some (⟨{ s.tables with outbox := expireWebhookEvents s.tables.outbox now }, s.acts⟩,
          .claiming now (now + seconds leaseSeconds) limit)
      else none
  | _, .claim locked token received, s, .claiming now leaseExpiresAt limit =>
      claimStep services s now leaseExpiresAt limit locked token received
  | _, .task index e, s, .working now tasks =>
      (tasks[index]?).bind fun task =>
        (taskStep services now e s task).map fun r => (r.1, .working now (tasks.set index r.2))
  | _, _, _, _ => none

def outboxMachine : Machine WorkerStore ι OutboxEvent OutboxPhase := ⟨outboxStep services⟩

/-- No event is queued, and every call is still to come. -/
def noEvents (subscriptions : List Subscription) (webhooks : List WebhookEndpoint) :
    Config WorkerStore ι OutboxPhase :=
  ⟨⟨⟨.empty, subscriptions, webhooks, []⟩, []⟩, fun _ => .idle⟩

end Marty.Notification
