import Marty.Lib.Json
import Marty.Notification.Webhooks

/-!
# The outbox of webhook events

An event that matches a subscription is queued once for its webhook.  Workers claim the due
rows under a fresh token each, and the outcome of an attempt is written under the token of the
row; a row that is delivered, given up or too old loses its payload.

## Main definitions

* `WebhookOutboxEvent` — a row; `OutboxContent` — the columns that are written once.
* `Outbox` — the table, with its primary key and its unique index.
* `enqueueWebhookEvent`, `expireWebhookEvents`, `claimDueWebhookEvents`,
  `markWebhookEventDelivered`, `markWebhookEventFailed` — the statements.
-/

namespace Marty.Notification

open Lib Lib.Checked

inductive OutboxStatus
  | pending
  | retry
  | delivering
  | delivered
  | deadLetter
  | expired
  deriving DecidableEq, Repr

/-- The statuses that no statement leaves. -/
def OutboxStatus.isTerminal : OutboxStatus → Bool
  | pending | retry | delivering => false
  | delivered | deadLetter | expired => true

structure WebhookOutboxEvent where
  id : String
  organizationId : String
  webhookId : String
  subscriptionId : String
  eventId : String
  eventType : String
  payload : Json.Map
  maxAttempts : Int
  initialBackoffSeconds : Int
  maxBackoffSeconds : Int
  createdAt : DateTime
  nextAttemptAt : DateTime
  expiresAt : DateTime
  status : OutboxStatus
  attemptCount : Int
  leaseToken : Option String
  leaseExpiresAt : Option DateTime
  deliveredAt : Option DateTime
  lastErrorCode : Option String
  responseStatusCode : Option Int

/-- The columns that are written once, when the event is queued. -/
structure OutboxContent where
  id : String
  organizationId : String
  webhookId : String
  subscriptionId : String
  eventId : String
  eventType : String
  maxAttempts : Int
  initialBackoffSeconds : Int
  maxBackoffSeconds : Int
  createdAt : DateTime
  expiresAt : DateTime
  deriving DecidableEq, Repr

/-- What an event is delivered for: the columns of `ux_webhook_outbox_logical_delivery`. -/
structure LogicalDelivery where
  eventId : String
  subscriptionId : String
  webhookId : String
  deriving DecidableEq, Repr

namespace WebhookOutboxEvent

def content (row : WebhookOutboxEvent) : OutboxContent where
  id := row.id
  organizationId := row.organizationId
  webhookId := row.webhookId
  subscriptionId := row.subscriptionId
  eventId := row.eventId
  eventType := row.eventType
  maxAttempts := row.maxAttempts
  initialBackoffSeconds := row.initialBackoffSeconds
  maxBackoffSeconds := row.maxBackoffSeconds
  createdAt := row.createdAt
  expiresAt := row.expiresAt

def logicalDelivery (row : WebhookOutboxEvent) : LogicalDelivery :=
  ⟨row.eventId, row.subscriptionId, row.webhookId⟩

variable {row row' : WebhookOutboxEvent}

theorem id_eq_of_content (h : row.content = row'.content) : row.id = row'.id :=
  congrArg OutboxContent.id h

theorem logicalDelivery_eq_of_content (h : row.content = row'.content) :
    row.logicalDelivery = row'.logicalDelivery :=
  congrArg (fun c : OutboxContent => LogicalDelivery.mk c.eventId c.subscriptionId c.webhookId) h

end WebhookOutboxEvent

/-! ## The table -/

/-- The table, with its primary key and its unique index. -/
structure Outbox where
  rows : List WebhookOutboxEvent
  ids : (rows.map (·.id)).Nodup
  deliveries : (rows.map (·.logicalDelivery)).Nodup

def Outbox.empty : Outbox := ⟨[], List.nodup_nil, List.nodup_nil⟩

/-- `UPDATE … SET f WHERE p`, of columns that may change. -/
def Outbox.update (o : Outbox) (p : WebhookOutboxEvent → Bool)
    (f : WebhookOutboxEvent → WebhookOutboxEvent) (hf : ∀ row, (f row).content = row.content) :
    Outbox where
  rows := Table.update o.rows p f
  ids := by
    have hsame : (Table.update o.rows p f).map (·.id) = o.rows.map (·.id) := by
      rw [Table.update, List.map_map]
      refine List.map_congr_left fun row _ => ?_
      simp only [Function.comp]
      split
      · exact WebhookOutboxEvent.id_eq_of_content (hf row)
      · rfl
    rw [hsame]
    exact o.ids
  deliveries := by
    have hsame : (Table.update o.rows p f).map (·.logicalDelivery) =
        o.rows.map (·.logicalDelivery) := by
      rw [Table.update, List.map_map]
      refine List.map_congr_left fun row _ => ?_
      simp only [Function.comp]
      split
      · exact WebhookOutboxEvent.logicalDelivery_eq_of_content (hf row)
      · rfl
    rw [hsame]
    exact o.deliveries

/-- A row whose keys no other row has. -/
def Outbox.insert (o : Outbox) (item : WebhookOutboxEvent) (hid : ∀ row ∈ o.rows, row.id ≠ item.id)
    (hdelivery : ∀ row ∈ o.rows, row.logicalDelivery ≠ item.logicalDelivery) : Outbox where
  rows := o.rows ++ [item]
  ids := by
    rw [List.map_append, List.nodup_append]
    refine ⟨o.ids, List.nodup_singleton _, ?_⟩
    rintro _ hmem _ hitem rfl
    obtain ⟨row, hrow, hid'⟩ := List.mem_map.mp hmem
    exact hid row hrow (hid'.trans (List.mem_singleton.mp hitem))
  deliveries := by
    rw [List.map_append, List.nodup_append]
    refine ⟨o.deliveries, List.nodup_singleton _, ?_⟩
    rintro _ hmem _ hitem rfl
    obtain ⟨row, hrow, hid'⟩ := List.mem_map.mp hmem
    exact hdelivery row hrow (hid'.trans (List.mem_singleton.mp hitem))

/-! ## Statements -/

/-- What the outbox takes from other packages. -/
structure OutboxServices where
  /-- The name of a text in the namespace of the outbox, by SHA-1. -/
  uuidV5 : String → String
  /-- The part of a delay that spreads the attempts, from the digest of a row and its count. -/
  jitter : String → Int → Int → Int → Int
  /-- The record, or the payload, holds private key material. -/
  isPrivateRecord : WebhookOutboxEvent → Bool
  isPrivatePayload : Json.Map → Bool

variable (services : OutboxServices)

def logicalWebhookDeliveryId (eventId subscriptionId webhookId : String) : String :=
  services.uuidV5 (eventId ++ ":" ++ subscriptionId ++ ":" ++ webhookId)

/-- The lengths of the columns and the `CHECK` constraints of the table. -/
def WebhookOutboxEvent.fitsColumns (item : WebhookOutboxEvent) : Bool :=
  item.id.length ≤ 36 && item.organizationId.length ≤ 36 && item.webhookId.length ≤ 36 &&
    item.subscriptionId.length ≤ 36 && item.eventId.length ≤ 64 && item.eventType.length ≤ 255 &&
    decide (0 ≤ item.attemptCount) && decide (1 ≤ item.maxAttempts) &&
    decide (0 ≤ item.initialBackoffSeconds) && decide (1 ≤ item.maxBackoffSeconds) &&
    decide (item.initialBackoffSeconds ≤ item.maxBackoffSeconds)

/-- `enqueue_webhook_event`: nothing is inserted for a delivery that is there, and an
identifier that another delivery has fails the statement. -/
def enqueueWebhookEvent (o : Outbox) (item : WebhookOutboxEvent) :
    Except RepositoryError (Outbox × Bool) :=
  if services.isPrivateRecord item then
    .error (.invalid "private key material is not allowed in notification records")
  else if item.fitsColumns = false then .error (.unavailable "value violates a constraint")
  else if hdelivery : ∃ row ∈ o.rows, row.logicalDelivery = item.logicalDelivery then
    .ok (o, false)
  else if hid : ∃ row ∈ o.rows, row.id = item.id then .error (.unavailable "duplicate key")
  else
    .ok (o.insert item (fun row hrow heq => hid ⟨row, hrow, heq⟩)
      (fun row hrow heq => hdelivery ⟨row, hrow, heq⟩), true)

/-- The rows whose retention is over. -/
def WebhookOutboxEvent.isOutdated (now : DateTime) (row : WebhookOutboxEvent) : Bool :=
  decide (row.expiresAt ≤ now) && !row.status.isTerminal

def WebhookOutboxEvent.expire (row : WebhookOutboxEvent) : WebhookOutboxEvent :=
  { row with
    status := .expired
    payload := []
    leaseToken := none
    leaseExpiresAt := none
    lastErrorCode := some "retention_expired" }

/-- The first statement of a claim. -/
def expireWebhookEvents (o : Outbox) (now : DateTime) : Outbox :=
  o.update (·.isOutdated now) .expire fun _ => rfl

/-- The rows that a claim may take. -/
def WebhookOutboxEvent.isDue (now : DateTime) (row : WebhookOutboxEvent) : Bool :=
  decide (now < row.expiresAt) &&
    ((row.status == .pending || row.status == .retry) && decide (row.nextAttemptAt ≤ now) ||
      row.status == .delivering && row.leaseExpiresAt.any fun expiry => decide (expiry ≤ now))

def WebhookOutboxEvent.lease (token : String) (leaseExpiresAt : DateTime)
    (row : WebhookOutboxEvent) : WebhookOutboxEvent :=
  { row with
    status := .delivering
    attemptCount := row.attemptCount + 1
    leaseToken := some token
    leaseExpiresAt := some leaseExpiresAt }

/-- The rows that a claim takes: the oldest due rows that no other transaction has locked. -/
def dueRows (o : Outbox) (now : DateTime) (limit : Nat) (locked : List String) :
    List WebhookOutboxEvent :=
  ((o.rows.filter fun row => row.isDue now && !locked.contains row.id).mergeSort
    fun a b => decide (a.createdAt ≤ b.createdAt)).take (max 1 (min limit 100))

/-- The second statement of a claim: the rows that it takes are leased under new tokens.  A
count that would leave its column fails the statement. -/
def claimDueWebhookEvents (o : Outbox) (now leaseExpiresAt : DateTime) (limit : Nat)
    (locked : List String) (token : String → String) :
    Except RepositoryError (Outbox × List WebhookOutboxEvent) :=
  let due := dueRows o now limit locked
  if due.any fun row => decide (maxInteger < row.attemptCount + 1) then
    .error (.unavailable "integer out of range")
  else
    .ok (o.update (fun row => due.any fun taken => taken.id == row.id)
        (fun row => row.lease (token row.id) leaseExpiresAt) fun _ => rfl,
      due.map fun row => row.lease (token row.id) leaseExpiresAt)

/-- The row that is being delivered under a token. -/
def WebhookOutboxEvent.isLeasedUnder (id token : String) (row : WebhookOutboxEvent) : Bool :=
  row.id == id && row.status == .delivering && row.leaseToken == some token

def WebhookOutboxEvent.deliver (deliveredAt : DateTime) (responseStatusCode : Int)
    (row : WebhookOutboxEvent) : WebhookOutboxEvent :=
  { row with
    status := .delivered
    payload := []
    deliveredAt := some deliveredAt
    responseStatusCode := some responseStatusCode
    leaseToken := none
    leaseExpiresAt := none
    lastErrorCode := none }

def WebhookOutboxEvent.fail (nextAttemptAt : DateTime) (terminal : Bool) (errorCode : String)
    (responseStatusCode : Option Int) (row : WebhookOutboxEvent) : WebhookOutboxEvent :=
  { row with
    status := if terminal then .deadLetter else .retry
    payload := if terminal then [] else row.payload
    nextAttemptAt := nextAttemptAt
    leaseToken := none
    leaseExpiresAt := none
    lastErrorCode := some (String.ofList (errorCode.toList.take 128))
    responseStatusCode := responseStatusCode }

/-- The mark of an outcome, and whether it met its row. -/
def Outbox.mark (o : Outbox) (id token : String) (f : WebhookOutboxEvent → WebhookOutboxEvent)
    (hf : ∀ row, (f row).content = row.content) : Outbox × Bool :=
  (o.update (·.isLeasedUnder id token) f hf, o.rows.any (·.isLeasedUnder id token))

def markWebhookEventDelivered (o : Outbox) (id token : String) (deliveredAt : DateTime)
    (responseStatusCode : Int) : Outbox × Bool :=
  o.mark id token (.deliver deliveredAt responseStatusCode) fun _ => rfl

def markWebhookEventFailed (o : Outbox) (id token : String) (nextAttemptAt : DateTime)
    (terminal : Bool) (errorCode : String) (responseStatusCode : Option Int) : Outbox × Bool :=
  o.mark id token (.fail nextAttemptAt terminal errorCode responseStatusCode) fun _ => rfl

/-! ## New events -/

/-- `new_webhook_outbox_event`. -/
def newWebhookOutboxEvent (organizationId webhookId subscriptionId eventId eventType : String)
    (payload : Json.Map) (maxAttempts initialBackoffSeconds maxBackoffSeconds : Int)
    (createdAt : DateTime) (retentionSeconds : Int) : WebhookOutboxEvent where
  id := logicalWebhookDeliveryId services eventId subscriptionId webhookId
  organizationId := organizationId
  webhookId := webhookId
  subscriptionId := subscriptionId
  eventId := eventId
  eventType := eventType
  payload := payload
  maxAttempts := maxAttempts
  initialBackoffSeconds := initialBackoffSeconds
  maxBackoffSeconds := maxBackoffSeconds
  createdAt := createdAt
  nextAttemptAt := createdAt
  expiresAt := createdAt + seconds retentionSeconds
  status := .pending
  attemptCount := 0
  leaseToken := none
  leaseExpiresAt := none
  deliveredAt := none
  lastErrorCode := none
  responseStatusCode := none

def webhookTestEventIdStart : String := "webhook-test/"

def webhookTestEventType : String := "webhook.test"

def webhookTestSubscriptionId : String := "webhook-test"

/-- `is_webhook_test_event`. -/
def isWebhookTestEvent (event : WebhookOutboxEvent) : Bool :=
  event.subscriptionId == webhookTestSubscriptionId && event.eventType == webhookTestEventType &&
    (Text.stripPrefix event.eventId webhookTestEventIdStart).any Uuid.parses &&
    (event.payload.get "id").bind Json.Value.asStr == some event.eventId &&
    (event.payload.get "type").bind Json.Value.asStr == some webhookTestEventType &&
    (event.payload.get "aggregate_id").bind Json.Value.asStr == some event.webhookId &&
    (event.payload.get "aggregate_type").bind Json.Value.asStr == some "webhook" &&
    (((event.payload.get "data").bind Json.Value.asObject).bind fun data =>
      (data.get "test").bind Json.Value.asBool) == some true

/-- `webhook_retry_delay`: doubled with each attempt up to a limit, and spread. -/
def webhookRetryDelay (event : WebhookOutboxEvent) : Int :=
  let exponent := (max 0 (min (event.attemptCount - 1) 16)).toNat
  let base := min event.maxBackoffSeconds (event.initialBackoffSeconds * 2 ^ exponent)
  let room := event.maxBackoffSeconds - base
  seconds (base + max 0 (services.jitter event.id event.attemptCount base room))

end Marty.Notification
