import Marty.Lib.Checked
import Marty.Lib.Table
import Marty.Lib.Text
import Marty.Lib.Uuid

/-!
# Webhook endpoints

An endpoint is stored with the envelope of its signing secret, never with the secret, and
with the counters that deliveries keep.  An administrator's change writes the whole record;
the completion of a delivery writes the counters alone.

## Main definitions

* `WebhookEndpoint` — the record, in memory and in the table.
* `saveWebhook`, `recordWebhookAttempt`, `getWebhook` — the statements on the table.
* `prepareUpdate` — the record that `update_webhook` computes from the one it has read.
-/

namespace Marty.Notification

open Lib Lib.Checked

inductive RepositoryError
  | unavailable (reason : String)
  | invalid (reason : String)
  deriving DecidableEq, Repr

inductive ServiceError
  | invalid (message : String)
  | notFound (what : String)
  | unavailable (message : String)
  deriving DecidableEq, Repr

inductive WebhookError
  | destination (code : String) (retryable : Bool)
  | envelopeUnavailable (message : String)
  | invalidEnvelope (message : String)
  deriving DecidableEq, Repr

namespace WebhookError

def code : WebhookError → String
  | destination code _ => code
  | envelopeUnavailable _ => "WEBHOOK_SECRET_KMS_UNAVAILABLE"
  | invalidEnvelope _ => "WEBHOOK_SECRET_ENVELOPE_INVALID"

def retryable : WebhookError → Bool
  | destination _ retryable => retryable
  | envelopeUnavailable _ => true
  | invalidEnvelope _ => false

/-- What an error is displayed as. -/
def text : WebhookError → String
  | destination code _ => code
  | envelopeUnavailable message | invalidEnvelope message => message

end WebhookError

/-- The largest `integer` of the database. -/
def maxInteger : Int := 2147483647

/-! ## Endpoints -/

structure WebhookEndpoint where
  id : String
  organizationId : String
  name : String
  url : String
  secret : String
  secretEnvelope : Option String
  secretHint : Option String
  description : Option String
  eventTypes : List String
  enabled : Bool
  failureCount : Int
  lastFailureAt : Option DateTime
  lastTriggeredAt : Option DateTime
  circuitBreakerOpenUntil : Option DateTime
  createdAt : DateTime
  updatedAt : DateTime
  deriving DecidableEq, Repr

/-- `match_event_patterns`: all events, the event itself, or its category. -/
def matchEventPatterns (patterns : List String) (eventType : String) : Bool :=
  let category := ((Text.splitOnce eventType ".").map Prod.fst).getD eventType
  patterns.any fun pattern =>
    pattern == "*" || pattern == eventType || Text.stripSuffix pattern ".*" == some category

/-- An endpoint without event types takes every event. -/
def WebhookEndpoint.accepts (webhook : WebhookEndpoint) (eventType : String) : Bool :=
  webhook.eventTypes.isEmpty || matchEventPatterns webhook.eventTypes eventType

def validWebhookSigningSecret (secret : String) : Bool :=
  let normalized := Text.trim secret
  let lowered := Text.toAsciiLowercase normalized
  32 ≤ normalized.utf8ByteSize && normalized.utf8ByteSize ≤ 128 &&
    !(["change-me", "change_me", "changeme"].any (Text.startsWith lowered))

/-! ## Statements -/

def getWebhook (rows : List WebhookEndpoint) (id : String) : Option WebhookEndpoint :=
  rows.find? fun row => row.id == id

/-- `DO UPDATE SET` of the upsert: the organization and the creation stay. -/
def WebhookEndpoint.overwrite (item row : WebhookEndpoint) : WebhookEndpoint :=
  { item with id := row.id, organizationId := row.organizationId, secret := ""
              createdAt := row.createdAt }

/-- `save_webhook`, of any endpoint whose envelope can be stored. -/
def saveWebhook (isStorable : String → Bool) (rows : List WebhookEndpoint)
    (item : WebhookEndpoint) : Except RepositoryError (List WebhookEndpoint) := do
  rejectIf (item.secretEnvelope.any isStorable = false)
    (.invalid "plaintext-only webhook persistence is forbidden")
  rejectIf (item.secretHint.any (fun hint => hint.length == 4) = false)
    (.invalid "webhook secret hint is invalid")
  .ok (if rows.any (fun row => row.id == item.id) then
      Table.update rows (fun row => row.id == item.id) item.overwrite
    else rows ++ [{ item with secret := "" }])

/-- The counters after an attempt. -/
def WebhookEndpoint.attempted (success : Bool) (completed : DateTime) (failureThreshold : Int)
    (row : WebhookEndpoint) : WebhookEndpoint :=
  { row with
    failureCount := if success then 0 else row.failureCount + 1
    lastTriggeredAt := if success then some completed else row.lastTriggeredAt
    lastFailureAt := if success then row.lastFailureAt else some completed
    circuitBreakerOpenUntil :=
      if success then none
      else if row.failureCount + 1 ≥ failureThreshold then some (completed + seconds 3600)
      else row.circuitBreakerOpenUntil
    updatedAt := max row.updatedAt completed }

/-- The rows that `record_webhook_attempt` writes. -/
def isAttempted (id organizationId : String) (row : WebhookEndpoint) : Bool :=
  row.id == id && row.organizationId == organizationId

/-- `record_webhook_attempt`; a counter that would leave its column fails the statement. -/
def recordWebhookAttempt (rows : List WebhookEndpoint) (id organizationId : String)
    (success : Bool) (completed : DateTime) (failureThreshold : Int) :
    Except RepositoryError (List WebhookEndpoint × Bool) := do
  rejectIf (rows.any (fun row => isAttempted id organizationId row && !success &&
    decide (maxInteger < row.failureCount + 1))) (.unavailable "integer out of range")
  .ok (Table.update rows (isAttempted id organizationId)
      (WebhookEndpoint.attempted success completed failureThreshold),
    rows.any (isAttempted id organizationId))

/-! ## Changes by an administrator -/

structure UpdateWebhookRequest where
  name : Option String := none
  url : Option String := none
  description : Option String := none
  eventTypes : Option (List String) := none
  secret : Option String := none
  enabled : Option Bool := none
  deriving DecidableEq, Repr

def requireText (value field : String) (max : Nat) : Except ServiceError Unit :=
  rejectIf (value.isEmpty ∨ max < value.length)
    (.invalid (field ++ " must be between 1 and " ++ toString max ++ " characters"))

def standardEventTypes : List String :=
  ["credential.offered", "credential.issued", "credential.revoked", "verification.requested",
    "application.received", "application.approved", "application.rejected",
    "applicant.submitted", "applicant.approved", "applicant.rejected",
    "applicant.status_changed", "device.key_expiring"]

/-- The categories of the standard events. -/
def allowedCategories : List String :=
  standardEventTypes.filterMap fun eventType => (Text.splitOnce eventType ".").map Prod.fst

def isUnknownEventType (value : String) : Bool :=
  value != "*" && !standardEventTypes.contains value &&
    !(Text.stripSuffix value ".*").any allowedCategories.contains

def validateEventTypes (eventTypes : List String) : Except ServiceError Unit := do
  rejectIf eventTypes.isEmpty (.invalid "event_types must contain at least one event")
  let unknown := eventTypes.filter isUnknownEventType
  rejectIf (!unknown.isEmpty) (.invalid ("Unknown event_types: " ++ ", ".intercalate unknown))

/-- An empty list, which takes every event, is not validated. -/
def validateAnyEventTypes (eventTypes : List String) : Except ServiceError Unit :=
  if eventTypes.isEmpty then .ok () else validateEventTypes eventTypes

/-- What the world answers to an update: the resolution of the address, and the wrapping of
the secret. -/
structure UpdateAnswers where
  destination : Except WebhookError Unit
  wrapped : Except WebhookError String
  now : DateTime

/-- The record after the secret has been replaced.  Without an envelope it is kept in
memory. -/
def withSecret (isProtected : Bool) (answers : UpdateAnswers) (webhook : WebhookEndpoint)
    (secret : String) : Except ServiceError WebhookEndpoint := do
  rejectIf (secret.utf8ByteSize < 32 ∨ 128 < secret.utf8ByteSize)
    (.invalid "secret must be between 32 and 128 characters")
  let hinted := { webhook with secretHint := some (String.ofList (secret.toList.take 4)) }
  if isProtected then
    match answers.wrapped with
    | .ok envelope => .ok { hinted with secretEnvelope := some envelope, secret := "" }
    | .error _ => .error (.unavailable "Webhook signing secret protection is unavailable")
  else .ok { hinted with secret := secret }

/-- **`update_webhook`** between its read and its write. -/
def prepareUpdate (isProtected : Bool) (answers : UpdateAnswers) (request : UpdateWebhookRequest)
    (webhook : WebhookEndpoint) : Except ServiceError WebhookEndpoint := do
  (request.name.map fun name => requireText name "name" 255).getD (.ok ())
  (request.url.map fun _ => answers.destination.mapError fun error =>
    ServiceError.invalid error.text).getD (.ok ())
  (request.eventTypes.map validateAnyEventTypes).getD (.ok ())
  let patched := { webhook with
    name := request.name.getD webhook.name
    url := request.url.getD webhook.url
    description := request.description.or webhook.description
    eventTypes := request.eventTypes.getD webhook.eventTypes }
  let secured ← (request.secret.map (withSecret isProtected answers patched)).getD (.ok patched)
  .ok { secured with
    enabled := request.enabled.getD secured.enabled
    updatedAt := answers.now }

/-- `rotate_webhook_secret` is an update of the secret alone. -/
def rotation (generated : String) : UpdateWebhookRequest := { secret := some generated }

/-- `generate_webhook_secret`: 32 random bytes in hexadecimal. -/
def isGeneratedSecret (secret : String) : Bool :=
  secret.toList.length == 64 && secret.toList.all Uuid.isLowerHex

/-- The record of a new endpoint. -/
structure CreateWebhookRequest where
  organizationId : String
  name : String
  url : String
  description : Option String
  eventTypes : List String
  secret : Option String
  enabled : Bool
  deriving DecidableEq, Repr

/-- **`create_webhook`** up to its write; the identifier and a generated secret come from the
world. -/
def newWebhook (isProtected : Bool) (answers : UpdateAnswers) (request : CreateWebhookRequest)
    (id generated : String) : Except ServiceError WebhookEndpoint := do
  requireText request.organizationId "organization_id" 255
  requireText request.name "name" 255
  validateAnyEventTypes request.eventTypes
  answers.destination.mapError fun error => ServiceError.invalid error.text
  withSecret isProtected answers
    { id := id, organizationId := request.organizationId, name := request.name
      url := request.url, secret := "", secretEnvelope := none, secretHint := none
      description := request.description, eventTypes := request.eventTypes
      enabled := request.enabled, failureCount := 0, lastFailureAt := none
      lastTriggeredAt := none, circuitBreakerOpenUntil := none, createdAt := answers.now
      updatedAt := answers.now }
    (request.secret.getD generated)

end Marty.Notification
