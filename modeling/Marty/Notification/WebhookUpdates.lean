import Marty.Lib.Delivery
import Marty.Lib.Interleaving
import Marty.Notification.Webhooks

/-!
# Administration of webhooks by concurrent calls

An update reads the endpoint, waits for the network and for the key service, and writes the
whole record back.  What another call has written in between is lost where the update carries
the older value; where it does not, the record is what the last changes have made it.

## Main definitions

* `AdminAct` — what has been done to the endpoints, in order.
* `adminMachine` — creations, updates, rotations and recorded attempts, in any order.
* `Reflects` — an endpoint is what the acts on it have made it.
* `PermittedStep` — an update that writes finds the values that it carries along.

## Main results

* `updates_kept` — the endpoints reflect the acts as long as the steps are permitted.
-/

namespace Marty.Notification

open Lib Lib.Checked

variable {ι : Type*}

/-! ## Calls -/

/-- The key service and the codec of its ciphertexts. -/
structure Envelopes where
  /-- `storable_webhook_ciphertext`. -/
  isStorable : String → Bool
  /-- The secret that a ciphertext holds for an organization and a webhook. -/
  opens : String → String → String → Option String
  /-- The service was built with an envelope. -/
  isProtected : Bool

/-- What has been done to an endpoint. -/
inductive AdminAct
  | created (webhook : WebhookEndpoint) (secret : String)
  | saved (id : String) (request : UpdateWebhookRequest)
  | attempted (id : String) (success : Bool)

def AdminAct.webhookId : AdminAct → String
  | created webhook _ => webhook.id
  | saved id _ | attempted id _ => id

structure AdminStore where
  webhooks : List WebhookEndpoint
  acts : List AdminAct

/-- How far a call has come.  The answer of an update is the record and the new secret. -/
inductive AdminPhase
  | idle
  | editing (request : UpdateWebhookRequest) (webhook : WebhookEndpoint)
  | ready (request : UpdateWebhookRequest) (read prepared : WebhookEndpoint)
  | returned (answer : Except ServiceError (WebhookEndpoint × Option String))

inductive AdminEvent
  | create (request : CreateWebhookRequest) (id generated : String) (answers : UpdateAnswers)
      (delivery : Delivery)
  | update (id organizationId : String) (request : UpdateWebhookRequest) (readable : Bool)
  | rotate (id organizationId generated : String) (readable : Bool)
  | prepare (answers : UpdateAnswers)
  | save (delivery : Delivery)
  | attempt (id organizationId : String) (success : Bool) (completed : DateTime)
      (failureThreshold : Int)

def storageFailed : ServiceError := .unavailable "notification storage is unavailable"

/-- A wrapped secret is the one that was to be wrapped. -/
def Envelopes.wrapsRight (envelopes : Envelopes) (organizationId id secret : String)
    (answers : UpdateAnswers) : Bool :=
  match answers.wrapped with
  | .ok envelope => envelopes.opens organizationId id envelope == some secret
  | .error _ => true

/-- The read of `update_webhook`. -/
def beginUpdate (s : AdminStore) (id organizationId : String) (request : UpdateWebhookRequest)
    (readable : Bool) : AdminPhase :=
  if readable then
    match (getWebhook s.webhooks id).filter fun item => item.organizationId == organizationId with
    | some webhook => .editing request webhook
    | none => .returned (.error (.notFound "Webhook"))
  else .returned (.error storageFailed)

/-- The write of `update_webhook`. -/
def saveUpdate (envelopes : Envelopes) (s : AdminStore) (request : UpdateWebhookRequest)
    (prepared : WebhookEndpoint) (delivery : Delivery) : AdminStore × AdminPhase :=
  if delivery = .refused then (s, .returned (.error storageFailed)) else
  match saveWebhook envelopes.isStorable s.webhooks prepared with
  | .error _ => (s, .returned (.error storageFailed))
  | .ok webhooks =>
      (⟨webhooks, s.acts ++ [.saved prepared.id request]⟩,
        .returned (if delivery = .lost then .error storageFailed
          else .ok (prepared, request.secret)))

/-- `create_webhook`, under an identifier that no endpoint has. -/
def createWebhook (envelopes : Envelopes) (s : AdminStore) (request : CreateWebhookRequest)
    (id generated : String) (answers : UpdateAnswers) (delivery : Delivery) :
    AdminStore × AdminPhase :=
  match newWebhook envelopes.isProtected answers request id generated with
  | .error error => (s, .returned (.error error))
  | .ok webhook =>
      if delivery = .refused then (s, .returned (.error storageFailed)) else
      match saveWebhook envelopes.isStorable s.webhooks webhook with
      | .error _ => (s, .returned (.error storageFailed))
      | .ok webhooks =>
          let secret := request.secret.getD generated
          (⟨webhooks, s.acts ++ [.created webhook secret]⟩,
            .returned (if delivery = .lost then .error storageFailed
              else .ok (webhook, some secret)))

def adminStep (envelopes : Envelopes) :
    ι → AdminEvent → AdminStore → AdminPhase → Option (AdminStore × AdminPhase)
  | _, .create request id generated answers delivery, s, .idle =>
      if s.webhooks.all (fun row => row.id != id) && isGeneratedSecret generated &&
          envelopes.wrapsRight request.organizationId id (request.secret.getD generated) answers
      then some (createWebhook envelopes s request id generated answers delivery)
      else none
  | _, .update id organizationId request readable, s, .idle =>
      some (s, beginUpdate s id organizationId request readable)
  | _, .rotate id organizationId generated readable, s, .idle =>
      if isGeneratedSecret generated then
        some (s, beginUpdate s id organizationId (rotation generated) readable)
      else none
  | _, .prepare answers, s, .editing request webhook =>
      if request.secret.all fun secret =>
          envelopes.wrapsRight webhook.organizationId webhook.id secret answers then
        match prepareUpdate envelopes.isProtected answers request webhook with
        | .ok prepared => some (s, .ready request webhook prepared)
        | .error error => some (s, .returned (.error error))
      else none
  | _, .save delivery, s, .ready request _ prepared =>
      some (saveUpdate envelopes s request prepared delivery)
  | _, .attempt id organizationId success completed failureThreshold, s, .idle =>
      match recordWebhookAttempt s.webhooks id organizationId success completed
          failureThreshold with
      | .error _ => some (s, .idle)
      | .ok (webhooks, recorded) =>
          some (⟨webhooks, if recorded then s.acts ++ [.attempted id success] else s.acts⟩, .idle)
  | _, _, _, _ => none

def adminMachine (envelopes : Envelopes) : Machine AdminStore ι AdminEvent AdminPhase :=
  ⟨adminStep envelopes⟩

/-- No endpoints, and every call still to come. -/
def noWebhooks : Config AdminStore ι AdminPhase := ⟨⟨[], []⟩, fun _ => .idle⟩

/-! ## What the acts have made of an endpoint -/

section Acts

variable {α : Type*}

/-- The acts on an endpoint. -/
def actsOn (acts : List AdminAct) (id : String) : List AdminAct :=
  acts.filter fun act => act.webhookId = id

/-- The value that the last act with a value has given. -/
def lastPatch (f : AdminAct → Option α) (acts : List AdminAct) (id : String) : Option α :=
  ((actsOn acts id).filterMap f).getLast?

/-- What an act says of a field: its creation says something, and an update may. -/
def AdminAct.patch (ofRequest : UpdateWebhookRequest → Option α) (ofWebhook : WebhookEndpoint → α) :
    AdminAct → Option α
  | created webhook _ => some (ofWebhook webhook)
  | saved _ request => ofRequest request
  | attempted _ _ => none

/-- The secret that an act has returned. -/
def AdminAct.secret? : AdminAct → Option String
  | created _ secret => some secret
  | saved _ request => request.secret
  | attempted _ _ => none

def AdminAct.success? : AdminAct → Option Bool
  | created _ _ | saved _ _ => none
  | attempted _ success => some success

/-- The failed attempts since the last successful one. -/
def failures (acts : List AdminAct) (id : String) : Nat :=
  (((actsOn acts id).filterMap AdminAct.success?).reverse.takeWhile fun success => !success).length

variable {f : AdminAct → Option α} {acts : List AdminAct} {act : AdminAct} {id : String}

theorem actsOn_append_ne (h : act.webhookId ≠ id) : actsOn (acts ++ [act]) id = actsOn acts id := by
  simp [actsOn, h]

theorem actsOn_append (h : act.webhookId = id) :
    actsOn (acts ++ [act]) id = actsOn acts id ++ [act] := by
  simp [actsOn, h]

theorem lastPatch_append (h : act.webhookId = id) :
    lastPatch f (acts ++ [act]) id = (f act).or (lastPatch f acts id) := by
  rw [lastPatch, actsOn_append h, List.filterMap_append]
  cases hf : f act with
  | none => simp [hf, lastPatch]
  | some a => simp [hf]

/-- The last value of a field after an update: the one that it asks for, or the one that was
there, which it carries along. -/
theorem lastPatch_saved {ofRequest : UpdateWebhookRequest → Option α}
    {ofWebhook : WebhookEndpoint → α} {request : UpdateWebhookRequest} {old read : α}
    (h : lastPatch (AdminAct.patch ofRequest ofWebhook) acts id = some old)
    (hold : ofRequest request = none → old = read) :
    lastPatch (AdminAct.patch ofRequest ofWebhook) (acts ++ [.saved id request]) id =
      some ((ofRequest request).getD read) := by
  have hact : (AdminAct.saved id request).webhookId = id := rfl
  rw [lastPatch_append hact, h]
  cases hpatch : ofRequest request with
  | none => simp [AdminAct.patch, hpatch, hold]
  | some new => simp [AdminAct.patch, hpatch]

theorem failures_append_none (h : act.webhookId = id) (hact : act.success? = none) :
    failures (acts ++ [act]) id = failures acts id := by
  simp [failures, actsOn_append h, hact]

theorem failures_append_some (h : act.webhookId = id) {success : Bool}
    (hact : act.success? = some success) :
    failures (acts ++ [act]) id = if success then 0 else failures acts id + 1 := by
  cases success <;> simp [failures, actsOn_append h, hact]

end Acts

/-- **An endpoint is what the acts have made it**: every field has the last value that was
asked for, the envelope holds the last secret that was returned, and the counter counts. -/
structure Reflects (envelopes : Envelopes) (acts : List AdminAct) (row : WebhookEndpoint) :
    Prop where
  name : lastPatch (AdminAct.patch (·.name) (·.name)) acts row.id = some row.name
  url : lastPatch (AdminAct.patch (·.url) (·.url)) acts row.id = some row.url
  description : lastPatch (AdminAct.patch (fun r => r.description.map some) (·.description)) acts
    row.id = some row.description
  eventTypes : lastPatch (AdminAct.patch (·.eventTypes) (·.eventTypes)) acts row.id =
    some row.eventTypes
  enabled : lastPatch (AdminAct.patch (·.enabled) (·.enabled)) acts row.id = some row.enabled
  secret : ∃ secret, lastPatch AdminAct.secret? acts row.id = some secret ∧
    row.secretEnvelope.bind (envelopes.opens row.organizationId row.id) = some secret ∧
    row.secretHint = some (String.ofList (secret.toList.take 4))
  failureCount : row.failureCount = failures acts row.id

structure Kept (envelopes : Envelopes) (s : AdminStore) : Prop where
  ids : (s.webhooks.map (·.id)).Nodup
  reflects : ∀ row ∈ s.webhooks, Reflects envelopes s.acts row
  known : ∀ act ∈ s.acts, ∃ row ∈ s.webhooks, row.id = act.webhookId

/-- An act on another endpoint says nothing of this one. -/
theorem Reflects.append_ne {envelopes : Envelopes} {acts : List AdminAct} {row : WebhookEndpoint}
    (h : Reflects envelopes acts row) {act : AdminAct} (hne : act.webhookId ≠ row.id) :
    Reflects envelopes (acts ++ [act]) row := by
  obtain ⟨name, url, description, eventTypes, enabled, secret, failureCount⟩ := h
  constructor <;> simpa only [lastPatch, failures, actsOn_append_ne hne]

/-! ## What a write of a record keeps -/

/-- The fields that the request leaves alone are those of the record that was read. -/
def Unmoved (request : UpdateWebhookRequest) (read row : WebhookEndpoint) : Prop :=
  (request.name = none → row.name = read.name) ∧ (request.url = none → row.url = read.url) ∧
  (request.description = none → row.description = read.description) ∧
  (request.eventTypes = none → row.eventTypes = read.eventTypes) ∧
  (request.enabled = none → row.enabled = read.enabled) ∧
  (request.secret = none →
    row.secretEnvelope = read.secretEnvelope ∧ row.secretHint = read.secretHint) ∧
  row.failureCount = read.failureCount

instance decidableUnmoved (request : UpdateWebhookRequest) (read row : WebhookEndpoint) :
    Decidable (Unmoved request read row) :=
  inferInstanceAs (Decidable (_ ∧ _))

/-- An update that reaches the table finds there what it carries along, and has wrapped the
secret that it writes. -/
def PermittedStep (envelopes : Envelopes) (c : Config AdminStore ι AdminPhase) (i : ι)
    (e : AdminEvent) : Prop :=
  match c.calls i, e with
  | .ready request read _, .save delivery =>
      delivery = .refused ∨
        ((request.secret.isSome → envelopes.isProtected) ∧
          ∀ row ∈ c.store.webhooks, row.id = read.id → Unmoved request read row)
  | _, _ => True

instance decidablePermittedStep (envelopes : Envelopes) (c : Config AdminStore ι AdminPhase)
    (i : ι) (e : AdminEvent) : Decidable (PermittedStep envelopes c i e) := by
  unfold PermittedStep
  split <;> infer_instance

/-- The record that an update has prepared from the one it read. -/
structure Prepared (envelopes : Envelopes) (request : UpdateWebhookRequest)
    (read prepared : WebhookEndpoint) : Prop where
  id : prepared.id = read.id
  name : prepared.name = request.name.getD read.name
  url : prepared.url = request.url.getD read.url
  description : prepared.description = request.description.or read.description
  eventTypes : prepared.eventTypes = request.eventTypes.getD read.eventTypes
  enabled : prepared.enabled = request.enabled.getD read.enabled
  kept_secret : request.secret = none →
    prepared.secretEnvelope = read.secretEnvelope ∧ prepared.secretHint = read.secretHint
  new_secret : ∀ secret, request.secret = some secret → envelopes.isProtected = true →
    prepared.secretEnvelope.bind (envelopes.opens read.organizationId read.id) = some secret ∧
    prepared.secretHint = some (String.ofList (secret.toList.take 4))
  failureCount : prepared.failureCount = read.failureCount

theorem withSecret_eq_ok {isProtected : Bool} {answers : UpdateAnswers}
    {webhook prepared : WebhookEndpoint} {secret : String}
    (h : withSecret isProtected answers webhook secret = .ok prepared) :
    ∃ envelope kept, prepared = { webhook with
        secretEnvelope := envelope, secret := kept
        secretHint := some (String.ofList (secret.toList.take 4)) } ∧
      (isProtected = true → ∃ ciphertext, answers.wrapped = .ok ciphertext ∧
        envelope = some ciphertext) ∧
      (isProtected = false → envelope = webhook.secretEnvelope) := by
  simp only [withSecret, bind_eq_ok, rejectIf_eq_ok, exists_unit] at h
  obtain ⟨-, h⟩ := h
  by_cases hprotected : isProtected = true
  · rw [if_pos hprotected] at h
    cases hwrapped : answers.wrapped with
    | error error => simp [hwrapped] at h
    | ok ciphertext =>
        simp only [hwrapped, Except.ok.injEq] at h
        exact ⟨_, _, h.symm, fun _ => ⟨ciphertext, rfl, rfl⟩, fun hp => by simp [hp] at hprotected⟩
  · rw [if_neg hprotected, Except.ok.injEq] at h
    exact ⟨_, _, h.symm, fun hp => absurd hp hprotected, fun _ => rfl⟩

theorem Envelopes.opens_of_wrapsRight {envelopes : Envelopes} {organizationId id secret : String}
    {answers : UpdateAnswers} {ciphertext : String}
    (h : envelopes.wrapsRight organizationId id secret answers = true)
    (hwrapped : answers.wrapped = .ok ciphertext) :
    envelopes.opens organizationId id ciphertext = some secret := by
  simpa [wrapsRight, hwrapped] using h

/-- **The preparation of an update** patches the record that was read. -/
theorem prepareUpdate_spec {envelopes : Envelopes} {answers : UpdateAnswers}
    {request : UpdateWebhookRequest} {read prepared : WebhookEndpoint}
    (hwraps : request.secret.all fun secret =>
      envelopes.wrapsRight read.organizationId read.id secret answers)
    (h : prepareUpdate envelopes.isProtected answers request read = .ok prepared) :
    Prepared envelopes request read prepared := by
  simp only [prepareUpdate, bind_eq_ok, exists_unit] at h
  obtain ⟨-, -, -, secured, hsecured, h⟩ := h
  cases h
  cases hsecret : request.secret with
  | none =>
      simp only [hsecret, Option.map_none, Option.getD_none, Except.ok.injEq] at hsecured
      subst hsecured
      constructor <;> simp [hsecret]
  | some secret =>
      simp only [hsecret, Option.map_some, Option.getD_some] at hsecured
      obtain ⟨envelope, kept, rfl, henvelope, -⟩ := withSecret_eq_ok hsecured
      constructor <;> simp only [hsecret, reduceCtorEq, false_implies, Option.some.injEq,
        forall_eq']
      intro hprotected
      obtain ⟨ciphertext, hwrapped, rfl⟩ := henvelope hprotected
      rw [hsecret] at hwraps
      exact ⟨Envelopes.opens_of_wrapsRight hwraps hwrapped, trivial⟩

theorem saveWebhook_eq_ok {isStorable : String → Bool} {rows rows' : List WebhookEndpoint}
    {item : WebhookEndpoint} (h : saveWebhook isStorable rows item = .ok rows') :
    rows' = if rows.any (fun row => row.id == item.id) then
        Table.update rows (fun row => row.id == item.id) item.overwrite
      else rows ++ [{ item with secret := "" }] := by
  simp only [saveWebhook, bind_eq_ok, rejectIf_eq_ok, exists_unit, Except.ok.injEq] at h
  exact h.2.2.symm

/-- A record that is in the table is replaced. -/
theorem saveWebhook_replaces {isStorable : String → Bool} {rows rows' : List WebhookEndpoint}
    {item row : WebhookEndpoint} (h : saveWebhook isStorable rows item = .ok rows')
    (hids : (rows.map (·.id)).Nodup) (hrow : row ∈ rows) (hid : row.id = item.id) :
    Table.Replaces rows row (item.overwrite row) rows' := by
  have hany : rows.any (fun row => row.id == item.id) = true :=
    List.any_eq_true.mpr ⟨row, hrow, by simp [hid]⟩
  rw [saveWebhook_eq_ok h, if_pos hany]
  refine (Table.update_at hids hrow (by simp [hid]) ?_).2
  intro r hr
  rw [beq_iff_eq] at hr
  rw [hr, hid]

/-- A record that is not in the table is added. -/
theorem saveWebhook_adds {isStorable : String → Bool} {rows rows' : List WebhookEndpoint}
    {item : WebhookEndpoint} (h : saveWebhook isStorable rows item = .ok rows')
    (hnew : ∀ row ∈ rows, row.id ≠ item.id) : rows' = rows ++ [{ item with secret := "" }] := by
  have hany : ¬ rows.any (fun row => row.id == item.id) = true := by
    simpa using hnew
  rw [saveWebhook_eq_ok h, if_neg hany]

/-- An attempt is recorded on one endpoint, or on none. -/
theorem recordWebhookAttempt_cases {rows rows' : List WebhookEndpoint}
    {id organizationId : String} {success recorded : Bool} {completed : DateTime} {threshold : Int}
    (h : recordWebhookAttempt rows id organizationId success completed threshold =
      .ok (rows', recorded)) (hids : (rows.map (·.id)).Nodup) :
    (recorded = false ∧ rows' = rows) ∨
      (recorded = true ∧ ∃ row, row.id = id ∧
        Table.Replaces rows row (row.attempted success completed threshold) rows') := by
  simp only [recordWebhookAttempt, bind_eq_ok, rejectIf_eq_ok, exists_unit, Except.ok.injEq,
    Prod.mk.injEq] at h
  obtain ⟨-, rfl, rfl⟩ := h
  have hkey : ∀ r, isAttempted id organizationId r = true → r.id = id := by
    intro r hr
    simp only [isAttempted, Bool.and_eq_true, beq_iff_eq] at hr
    exact hr.1
  obtain hnone | ⟨row, hrow, hmet, -, hrep⟩ := Table.update_cases
    (f := WebhookEndpoint.attempted success completed threshold) hids hkey
  · left
    exact ⟨by simpa using hnone, Table.update_of_forall_not hnone⟩
  · right
    exact ⟨List.any_eq_true.mpr ⟨row, hrow, hmet⟩, row, hkey row hmet, hrep⟩

/-! ## Steps -/

variable {envelopes : Envelopes} {s s' : AdminStore}

/-- Every endpoint is still there, in its organization, and it is not enabled again unless that
was asked for. -/
def Persists (asked : Prop) (s s' : AdminStore) : Prop :=
  ∀ row ∈ s.webhooks, ∃ row' ∈ s'.webhooks, row'.id = row.id ∧
    row'.organizationId = row.organizationId ∧
    (row.enabled = false → row'.enabled = true → asked)

theorem Persists.refl (asked : Prop) (s : AdminStore) : Persists asked s s :=
  fun row hrow => ⟨row, hrow, rfl, rfl, fun hoff hon => by simp [hoff] at hon⟩

theorem persists_of_replaces {asked : Prop} {rows' : List WebhookEndpoint}
    {old new : WebhookEndpoint} {acts : List AdminAct}
    (h : Table.Replaces s.webhooks old new rows') (hid : new.id = old.id)
    (horg : new.organizationId = old.organizationId)
    (hasked : old.enabled = false → new.enabled = true → asked) :
    Persists asked s ⟨rows', acts⟩ := by
  intro row hrow
  by_cases hold : row = old
  · subst hold
    exact ⟨new, h.new_mem, hid, horg, hasked⟩
  · exact ⟨row, h.mem_of_ne hrow hold, rfl, rfl, fun hoff hon => by simp [hoff] at hon⟩

/-- What a call remembers of the endpoint it works on. -/
def AdminPhaseSound (envelopes : Envelopes) (s : AdminStore) : AdminPhase → Prop
  | .editing _ read => ∃ row ∈ s.webhooks, row.id = read.id ∧ row.organizationId = read.organizationId
  | .ready request read prepared =>
      (∃ row ∈ s.webhooks, row.id = read.id ∧ row.organizationId = read.organizationId) ∧
        Prepared envelopes request read prepared
  | .idle | .returned _ => True

theorem AdminPhaseSound.persists {asked : Prop} {phase : AdminPhase}
    (h : AdminPhaseSound envelopes s phase) (hpersists : Persists asked s s') : AdminPhaseSound envelopes s' phase := by
  cases phase with
  | idle | returned answer => trivial
  | editing request read =>
      obtain ⟨row, hrow, hid, horg⟩ := h
      obtain ⟨row', hrow', hid', horg', -⟩ := hpersists row hrow
      exact ⟨row', hrow', hid'.trans hid, horg'.trans horg⟩
  | ready request read prepared =>
      obtain ⟨⟨row, hrow, hid, horg⟩, hprepared⟩ := h
      obtain ⟨row', hrow', hid', horg', -⟩ := hpersists row hrow
      exact ⟨⟨row', hrow', hid'.trans hid, horg'.trans horg⟩, hprepared⟩

/-- **A change of one endpoint** keeps the table when the act accounts for it. -/
theorem Kept.replace (h : Kept envelopes s) {rows' : List WebhookEndpoint}
    {old new : WebhookEndpoint} {act : AdminAct} (hrep : Table.Replaces s.webhooks old new rows')
    (hid : new.id = old.id) (hact : act.webhookId = old.id)
    (hnew : Reflects envelopes (s.acts ++ [act]) new) :
    Kept envelopes ⟨rows', s.acts ++ [act]⟩ := by
  constructor
  · rw [show rows'.map (·.id) = s.webhooks.map (·.id) from hrep.map_key hid]
    exact h.ids
  · intro row hrow
    obtain rfl | ⟨hmem, hne⟩ := hrep.eq_or_mem h.ids hrow
    · exact hnew
    · exact (h.reflects row hmem).append_ne fun heq => hne (by rw [← heq, hact])
  · intro a ha
    rcases List.mem_append.mp ha with ha | ha
    · obtain ⟨row, hrow, hrowid⟩ := h.known a ha
      by_cases hold : row = old
      · exact ⟨new, hrep.new_mem, by rw [hid, ← hold, hrowid]⟩
      · exact ⟨row, hrep.mem_of_ne hrow hold, hrowid⟩
    · rw [List.mem_singleton.mp ha]
      exact ⟨new, hrep.new_mem, by rw [hid, hact]⟩

/-- **An attempt** is counted, and changes nothing else that is reflected. -/
theorem Reflects.attempted {acts : List AdminAct} {row : WebhookEndpoint}
    (h : Reflects envelopes acts row) (success : Bool) (completed : DateTime) (threshold : Int) :
    Reflects envelopes (acts ++ [.attempted row.id success])
      (row.attempted success completed threshold) := by
  have hid : (AdminAct.attempted row.id success).webhookId = row.id := rfl
  have hpatch {α : Type} (f : AdminAct → Option α) (hf : f (.attempted row.id success) = none) :
      lastPatch f (acts ++ [.attempted row.id success]) row.id = lastPatch f acts row.id := by
    rw [lastPatch_append hid, hf, Option.none_or]
  refine ⟨(hpatch _ rfl).trans h.name, (hpatch _ rfl).trans h.url, (hpatch _ rfl).trans h.description,
    (hpatch _ rfl).trans h.eventTypes, (hpatch _ rfl).trans h.enabled, ?_, ?_⟩
  · obtain ⟨secret, hsecret, hopens⟩ := h.secret
    exact ⟨secret, (hpatch _ rfl).trans hsecret, hopens⟩
  · rw [show (row.attempted success completed threshold).id = row.id from rfl,
      failures_append_some hid rfl]
    have hcount := h.failureCount
    cases success <;> simp [WebhookEndpoint.attempted, hcount]

/-- **A permitted write of an update** patches the endpoint and leaves the rest of it. -/
theorem Reflects.saved {acts : List AdminAct} {request : UpdateWebhookRequest}
    {read prepared row : WebhookEndpoint} (h : Reflects envelopes acts row)
    (hid : row.id = read.id) (horg : row.organizationId = read.organizationId)
    (hprepared : Prepared envelopes request read prepared)
    (hprotected : request.secret.isSome → envelopes.isProtected)
    (hunmoved : Unmoved request read row) :
    Reflects envelopes (acts ++ [.saved row.id request]) (prepared.overwrite row) := by
  have hact : (AdminAct.saved row.id request).webhookId = row.id := rfl
  obtain ⟨hname, hurl, hdescription, heventTypes, henabled, hsecret, hfailures⟩ := hunmoved
  refine ⟨?_, ?_, ?_, ?_, ?_, ?_, ?_⟩
  · exact (lastPatch_saved h.name hname).trans (congrArg some hprepared.name.symm)
  · exact (lastPatch_saved h.url hurl).trans (congrArg some hprepared.url.symm)
  · refine (lastPatch_saved h.description fun hnone => hdescription (by simpa using hnone)).trans
      (congrArg some (Eq.trans ?_ hprepared.description.symm))
    cases request.description <;> simp
  · exact (lastPatch_saved h.eventTypes heventTypes).trans (congrArg some hprepared.eventTypes.symm)
  · exact (lastPatch_saved h.enabled henabled).trans (congrArg some hprepared.enabled.symm)
  · obtain ⟨secret, hlast, hopens, hhint⟩ := h.secret
    have hlast' : lastPatch AdminAct.secret? (acts ++ [.saved row.id request]) row.id =
        request.secret.or (lastPatch AdminAct.secret? acts row.id) := lastPatch_append hact
    cases hpatch : request.secret with
    | none =>
        obtain ⟨henvelope, hkept⟩ := hprepared.kept_secret hpatch
        obtain ⟨hmoved, hmovedHint⟩ := hsecret hpatch
        refine ⟨secret, hlast'.trans (by simp [hpatch, hlast]), ?_, ?_⟩
        · simpa [WebhookEndpoint.overwrite, henvelope, ← hmoved] using hopens
        · simpa [WebhookEndpoint.overwrite, hkept, ← hmovedHint] using hhint
    | some new =>
        obtain ⟨hnew, hnewHint⟩ := hprepared.new_secret new hpatch (hprotected (by simp [hpatch]))
        refine ⟨new, hlast'.trans (by simp [hpatch]), ?_, hnewHint⟩
        simpa [WebhookEndpoint.overwrite, hid, horg] using hnew
  · have hcount : failures (acts ++ [.saved row.id request]) row.id = failures acts row.id :=
      failures_append_none hact rfl
    exact (hprepared.failureCount.trans hfailures.symm).trans
      (h.failureCount.trans (congrArg Int.ofNat hcount.symm))

/-- The record of a new endpoint, when its envelope can be stored. -/
theorem newWebhook_spec {answers : UpdateAnswers} {request : CreateWebhookRequest}
    {id generated : String} {webhook : WebhookEndpoint}
    (h : newWebhook envelopes.isProtected answers request id generated = .ok webhook)
    (hwraps : envelopes.wrapsRight request.organizationId id (request.secret.getD generated) answers)
    (hstored : webhook.secretEnvelope.isSome) :
    webhook.id = id ∧ webhook.failureCount = 0 ∧
      webhook.secretEnvelope.bind (envelopes.opens webhook.organizationId id) =
        some (request.secret.getD generated) ∧
      webhook.secretHint =
        some (String.ofList ((request.secret.getD generated).toList.take 4)) := by
  simp only [newWebhook, bind_eq_ok, exists_unit] at h
  obtain ⟨-, -, -, -, h⟩ := h
  obtain ⟨envelope, kept, rfl, hprotected, hplain⟩ := withSecret_eq_ok h
  refine ⟨rfl, rfl, ?_, rfl⟩
  cases hp : envelopes.isProtected with
  | false =>
      rw [hplain hp] at hstored
      cases hstored
  | true =>
      obtain ⟨ciphertext, hwrapped, rfl⟩ := hprotected hp
      exact Envelopes.opens_of_wrapsRight hwraps hwrapped

/-- **A new endpoint** is what its creation says. -/
theorem Reflects.created {acts : List AdminAct} {webhook : WebhookEndpoint} {secret : String}
    (hunknown : ∀ act ∈ acts, act.webhookId ≠ webhook.id) (hcount : webhook.failureCount = 0)
    (hopens : webhook.secretEnvelope.bind (envelopes.opens webhook.organizationId webhook.id) =
      some secret)
    (hhint : webhook.secretHint = some (String.ofList (secret.toList.take 4))) :
    Reflects envelopes (acts ++ [.created webhook secret]) { webhook with secret := "" } := by
  have hnone : actsOn acts webhook.id = [] := by
    simpa [actsOn] using hunknown
  have hacts : actsOn (acts ++ [.created webhook secret]) webhook.id = [.created webhook secret] := by
    have hact : (AdminAct.created webhook secret).webhookId = webhook.id := rfl
    rw [actsOn_append hact, hnone, List.nil_append]
  have hsilent : AdminAct.success? (.created webhook secret) = none := rfl
  constructor <;> simp [lastPatch, failures, hacts, AdminAct.patch, AdminAct.secret?, hcount,
    hopens, hhint, hsilent]

/-- The creation of an endpoint keeps the others. -/
theorem kept_create {asked : Prop} (h : Kept envelopes s) {request : CreateWebhookRequest}
    {id generated : String} {answers : UpdateAnswers} {delivery : Delivery}
    (hfresh : ∀ row ∈ s.webhooks, row.id ≠ id)
    (hwraps : envelopes.wrapsRight request.organizationId id (request.secret.getD generated) answers)
    {phase : AdminPhase}
    (hstep : createWebhook envelopes s request id generated answers delivery = (s', phase)) :
    Kept envelopes s' ∧ Persists asked s s' ∧ ∃ answer, phase = .returned answer := by
  have hsame {answer} (heq : (s, AdminPhase.returned answer) = (s', phase)) :
      Kept envelopes s' ∧ Persists asked s s' ∧ ∃ answer, phase = .returned answer := by
    cases heq
    exact ⟨h, .refl _ s, answer, rfl⟩
  unfold createWebhook at hstep
  split at hstep
  case h_1 => exact hsame hstep
  case h_2 webhook hnew =>
      split at hstep
      · exact hsame hstep
      split at hstep
      case h_1 => exact hsame hstep
      case h_2 webhooks hsave =>
          cases hstep
          have hstored : webhook.secretEnvelope.isSome := by
            simp only [saveWebhook, bind_eq_ok, rejectIf_eq_ok, exists_unit] at hsave
            cases henvelope : webhook.secretEnvelope with
            | none => simp [henvelope] at hsave
            | some envelope => rfl
          obtain ⟨rfl, hcount, hopens, hhint⟩ := newWebhook_spec hnew hwraps hstored
          obtain rfl := saveWebhook_adds hsave hfresh
          refine ⟨⟨?_, ?_, ?_⟩, ?_, _, rfl⟩
          · simp only [List.map_append, List.map_cons, List.map_nil, List.nodup_append,
              List.mem_map, List.mem_singleton, List.nodup_cons, List.not_mem_nil,
              not_false_eq_true, List.nodup_nil, and_self, true_and]
            refine ⟨h.ids, ?_⟩
            rintro _ ⟨row, hrow, rfl⟩ _ rfl
            exact hfresh row hrow
          · intro row hrow
            rcases List.mem_append.mp hrow with hrow | hrow
            · exact (h.reflects row hrow).append_ne fun heq => hfresh row hrow heq.symm
            · rw [List.mem_singleton.mp hrow]
              refine .created (fun act hact heq => ?_) hcount hopens hhint
              obtain ⟨row, hrow, hid⟩ := h.known act hact
              exact hfresh row hrow (hid.trans heq)
          · intro act hact
            rcases List.mem_append.mp hact with hact | hact
            · obtain ⟨row, hrow, hid⟩ := h.known act hact
              exact ⟨row, List.mem_append_left _ hrow, hid⟩
            · rw [List.mem_singleton.mp hact]
              exact ⟨_, List.mem_append_right _ (List.mem_singleton.mpr rfl), rfl⟩
          · intro row hrow
            exact ⟨row, List.mem_append_left _ hrow, rfl, rfl,
              fun hoff hon => by simp [hoff] at hon⟩

/-- **The write of an update** that is permitted keeps the endpoints. -/
theorem kept_save (h : Kept envelopes s) {request : UpdateWebhookRequest}
    {read prepared : WebhookEndpoint} {delivery : Delivery} {phase : AdminPhase}
    (hphase : AdminPhaseSound envelopes s (.ready request read prepared))
    (hpermitted : delivery = .refused ∨ ((request.secret.isSome → envelopes.isProtected) ∧
      ∀ row ∈ s.webhooks, row.id = read.id → Unmoved request read row))
    (hstep : saveUpdate envelopes s request prepared delivery = (s', phase)) :
    Kept envelopes s' ∧ Persists (request.enabled = some true) s s' ∧ ∃ answer, phase = .returned answer := by
  have hsame {answer} (heq : (s, AdminPhase.returned answer) = (s', phase)) :
      Kept envelopes s' ∧ Persists (request.enabled = some true) s s' ∧ ∃ answer, phase = .returned answer := by
    cases heq
    exact ⟨h, .refl _ s, answer, rfl⟩
  unfold saveUpdate at hstep
  split at hstep
  case isTrue => exact hsame hstep
  case isFalse hdelivery =>
      split at hstep
      case h_1 => exact hsame hstep
      case h_2 webhooks hsave =>
          cases hstep
          obtain ⟨⟨row, hrow, hid, horg⟩, hprepared⟩ := hphase
          obtain ⟨hprotected, hunmoved⟩ := hpermitted.resolve_left hdelivery
          have hsame : row.id = prepared.id := hid.trans hprepared.id.symm
          have hrep := saveWebhook_replaces hsave h.ids hrow hsame
          have hmoved := hunmoved row hrow hid
          refine ⟨?_, persists_of_replaces hrep rfl rfl fun hoff hon => ?_, _, rfl⟩
          · rw [← hsame]
            exact h.replace hrep rfl rfl
              ((h.reflects row hrow).saved hid horg hprepared hprotected hmoved)
          · rw [show (prepared.overwrite row).enabled = prepared.enabled from rfl,
              hprepared.enabled] at hon
            cases henabled : request.enabled with
            | none =>
                have hread := hmoved.2.2.2.2.1 henabled
                simp [henabled, ← hread, hoff] at hon
            | some enabled => simpa [henabled] using hon

/-- A recorded attempt keeps the endpoints. -/
theorem kept_attempt {asked : Prop} (h : Kept envelopes s) {id organizationId : String} {success recorded : Bool}
    {completed : DateTime} {threshold : Int} {webhooks : List WebhookEndpoint}
    (hrecord : recordWebhookAttempt s.webhooks id organizationId success completed threshold =
      .ok (webhooks, recorded))
    (hs' : s' = ⟨webhooks, if recorded then s.acts ++ [.attempted id success] else s.acts⟩) :
    Kept envelopes s' ∧ Persists asked s s' := by
  subst hs'
  obtain ⟨rfl, rfl⟩ | ⟨rfl, row, rfl, hrep⟩ := recordWebhookAttempt_cases hrecord h.ids
  · exact ⟨h, .refl _ s⟩
  · exact ⟨h.replace hrep rfl rfl ((h.reflects row hrep.mem).attempted success completed threshold),
      persists_of_replaces hrep rfl rfl fun hoff hon => absurd (hoff.symm.trans hon) (by simp)⟩

/-- The endpoints and what the calls remember of them. -/
structure AdminSound (envelopes : Envelopes) (c : Config AdminStore ι AdminPhase) : Prop where
  kept : Kept envelopes c.store
  calls : ∀ i, AdminPhaseSound envelopes c.store (c.calls i)

/-- The read of an update finds the endpoint that the call then remembers. -/
theorem beginUpdate_sound {id organizationId : String} {request : UpdateWebhookRequest}
    {readable : Bool} :
    AdminPhaseSound envelopes s (beginUpdate s id organizationId request readable) := by
  unfold beginUpdate
  split
  case isFalse => trivial
  case isTrue =>
      split
      case h_2 => trivial
      case h_1 webhook hfound =>
          obtain ⟨hget, -⟩ := Option.filter_eq_some_iff.mp hfound
          exact ⟨webhook, List.mem_of_find?_eq_some hget, rfl, rfl⟩

/-- The call is about to write an update that asks for its endpoint to be enabled. -/
def AsksToEnable (phase : AdminPhase) : Prop :=
  ∃ request read prepared, phase = .ready request read prepared ∧ request.enabled = some true

/-- **Every permitted step** keeps the endpoints, and what a call remembers. -/
theorem adminStep_sound {i : ι} {e : AdminEvent} {c : Config AdminStore ι AdminPhase}
    (h : AdminSound envelopes c) (hpermitted : PermittedStep envelopes c i e) {phase : AdminPhase}
    (hstep : adminStep envelopes i e c.store (c.calls i) = some (s', phase)) :
    Kept envelopes s' ∧ Persists (AsksToEnable (c.calls i)) c.store s' ∧
      AdminPhaseSound envelopes s' phase := by
  have hphase := h.calls i
  unfold adminStep at hstep
  unfold PermittedStep at hpermitted
  split at hstep
  case h_1 request id generated answers delivery hidle =>
      rw [Option.ite_none_right_eq_some, Option.some.injEq] at hstep
      obtain ⟨hguard, hstep⟩ := hstep
      simp only [Bool.and_eq_true, List.all_eq_true, bne_iff_ne, ne_eq] at hguard
      obtain ⟨hkept, hpersists, answer, rfl⟩ := kept_create h.kept hguard.1.1 hguard.2 hstep
      exact ⟨hkept, hpersists, trivial⟩
  case h_2 =>
      cases hstep
      exact ⟨h.kept, .refl _ _, beginUpdate_sound⟩
  case h_3 =>
      rw [Option.ite_none_right_eq_some] at hstep
      obtain ⟨-, hstep⟩ := hstep
      cases hstep
      exact ⟨h.kept, .refl _ _, beginUpdate_sound⟩
  case h_4 answers request webhook hediting =>
      rw [Option.ite_none_right_eq_some] at hstep
      obtain ⟨hwraps, hstep⟩ := hstep
      split at hstep
      case h_1 prepared hprepare =>
          cases hstep
          rw [hediting] at hphase
          exact ⟨h.kept, .refl _ _, hphase, prepareUpdate_spec hwraps hprepare⟩
      case h_2 =>
          cases hstep
          exact ⟨h.kept, .refl _ _, trivial⟩
  case h_5 delivery request read prepared hready =>
      rw [Option.some.injEq] at hstep
      rw [hready] at hphase hpermitted
      obtain ⟨hkept, hpersists, answer, rfl⟩ := kept_save h.kept hphase hpermitted hstep
      refine ⟨hkept, fun row hrow => ?_, trivial⟩
      obtain ⟨row', hrow', hid, horg, hasked⟩ := hpersists row hrow
      exact ⟨row', hrow', hid, horg, fun hoff hon => ⟨_, _, _, hready, hasked hoff hon⟩⟩
  case h_6 id organizationId success completed threshold hidle =>
      split at hstep
      case h_1 =>
          cases hstep
          exact ⟨h.kept, .refl _ _, trivial⟩
      case h_2 webhooks recorded hrecord =>
          cases hstep
          obtain ⟨hkept, hpersists⟩ := kept_attempt h.kept hrecord rfl
          exact ⟨hkept, hpersists, trivial⟩
  case h_7 => cases hstep

/-! ## Runs -/

theorem adminSound_noWebhooks : AdminSound envelopes (noWebhooks : Config AdminStore ι AdminPhase) := by
  constructor
  · constructor <;> simp [noWebhooks]
  · intro i
    trivial

section Runs

variable [DecidableEq ι]

theorem adminSound_next {i : ι} {e : AdminEvent} {c c' : Config AdminStore ι AdminPhase}
    (h : AdminSound envelopes c) (hpermitted : PermittedStep envelopes c i e)
    (hnext : (adminMachine envelopes).next c i e = some c') :
    AdminSound envelopes c' ∧ Persists (AsksToEnable (c.calls i)) c.store c'.store := by
  obtain ⟨s', phase, hstep, rfl⟩ := Machine.next_eq_some.mp hnext
  obtain ⟨hkept, hpersists, hphase⟩ := adminStep_sound h hpermitted hstep
  refine ⟨⟨hkept, fun j => ?_⟩, hpersists⟩
  by_cases hj : j = i
  · subst hj
    simpa using hphase
  · simpa [hj] using (h.calls j).persists hpersists

/-- **Endpoints reflect what was done to them** along every run in which an update that writes
finds the fields that it carries along unmoved: the secret is the last one that was returned,
every field has the last value that was asked for, the counter counts the failures since the
last success, and no endpoint is enabled again by a call that does not ask for it. -/
theorem updates_kept {t : List (ι × AdminEvent)} {c : Config AdminStore ι AdminPhase}
    (hpermitted : (adminMachine envelopes).Guarded (PermittedStep envelopes) noWebhooks t)
    (h : (adminMachine envelopes).run noWebhooks t = some c) :
    Kept envelopes c.store ∧
      ∀ i e c', PermittedStep envelopes c i e → (adminMachine envelopes).next c i e = some c' →
        ∀ row ∈ c.store.webhooks, ∀ row' ∈ c'.store.webhooks, row'.id = row.id →
          row.enabled = false → row'.enabled = true → AsksToEnable (c.calls i) := by
  have hsound : AdminSound envelopes c := Machine.guarded_induct
    (fun c i e c' hsound hstep hnext => (adminSound_next hsound hstep hnext).1)
    adminSound_noWebhooks hpermitted h
  refine ⟨hsound.kept, fun i e c' hstep hnext row hrow row' hrow' hid hoff hon => ?_⟩
  obtain ⟨hsound', hpersists⟩ := adminSound_next hsound hstep hnext
  obtain ⟨found, hfound, hfoundId, -, hasked⟩ := hpersists row hrow
  have hsame : row' = found :=
    List.inj_on_of_nodup_map hsound'.kept.ids hrow' hfound (hid.trans hfoundId.symm)
  exact hasked hoff (hsame ▸ hon)

end Runs

namespace Example

/-- A codec that marks what it has wrapped. -/
def plainEnvelopes : Envelopes where
  isStorable := fun ciphertext => Text.startsWith ciphertext "vault:"
  opens := fun _ _ ciphertext => Text.stripPrefix ciphertext "vault:"
  isProtected := true

def secretOf (digit : Char) : String := String.ofList (List.replicate 64 digit)

def wrapping (digit : Char) : UpdateAnswers where
  destination := .ok ()
  wrapped := .ok ("vault:" ++ secretOf digit)
  now := 0

def creation : AdminEvent :=
  .create ⟨"O", "orders", "https://receiver.example/", none, [], none, true⟩ "W" (secretOf '0')
    (wrapping '0') .answered

/-- The first call changes the name.  Before it writes, the secret is rotated, the endpoint is
disabled, and an attempt fails. -/
def staleRename : List (Fin 4 × AdminEvent) :=
  [(0, creation), (1, .update "W" "O" { name := some "renamed" } true), (1, .prepare (wrapping '1')),
    (2, .rotate "W" "O" (secretOf '2') true), (2, .prepare (wrapping '2')), (2, .save .answered),
    (3, .attempt "W" "O" false 0 5), (3, .update "W" "O" { enabled := some false } true),
    (3, .prepare (wrapping '3')), (3, .save .answered), (1, .save .answered)]

/-- Two rotations whose reads and writes overlap, an attempt, and a change of the name. -/
def overlappingRotations : List (Fin 4 × AdminEvent) :=
  [(0, creation), (1, .rotate "W" "O" (secretOf '1') true),
    (2, .rotate "W" "O" (secretOf '2') true), (2, .prepare (wrapping '2')), (2, .save .answered),
    (1, .prepare (wrapping '1')), (1, .save .answered), (3, .attempt "W" "O" false 0 5),
    (3, .update "W" "O" { name := some "renamed" } true), (3, .prepare (wrapping '3')),
    (3, .save .answered)]

/-- The endpoints, and the secrets that the calls were answered with. -/
structure Observation where
  names : List String
  secrets : List (Option String)
  enabled : List Bool
  failureCounts : List Int
  answers : List (Option (Option String))
  deriving DecidableEq

def observe (c : Config AdminStore (Fin 4) AdminPhase) : Observation where
  names := c.store.webhooks.map (·.name)
  secrets := c.store.webhooks.map fun row =>
    row.secretEnvelope.bind (plainEnvelopes.opens row.organizationId row.id)
  enabled := c.store.webhooks.map (·.enabled)
  failureCounts := c.store.webhooks.map (·.failureCount)
  answers := ([0, 1, 2, 3] : List (Fin 4)).map fun i => match c.calls i with
    | .returned (.ok (_, secret)) => some secret
    | _ => none

/-- **The rotation, the disabling and the failure are lost**, although every call has returned
with success. -/
theorem stale_rename_loses : ∃ c,
    (adminMachine plainEnvelopes).run noWebhooks staleRename = some c ∧
      observe c = ⟨["renamed"], [some (secretOf '0')], [true], [0],
        [some (some (secretOf '0')), some none, some (some (secretOf '2')), some none]⟩ ∧
      ¬ Kept plainEnvelopes c.store := by
  have hrun : ((adminMachine plainEnvelopes).run noWebhooks staleRename).map (fun c =>
      (observe c, c.store.webhooks.map (·.id), failures c.store.acts "W")) =
      some (⟨["renamed"], [some (secretOf '0')], [true], [0],
        [some (some (secretOf '0')), some none, some (some (secretOf '2')), some none]⟩,
        ["W"], 1) := by
    decide +kernel
  obtain ⟨c, hc, heq⟩ := Option.map_eq_some_iff.mp hrun
  simp only [Prod.mk.injEq] at heq
  obtain ⟨hobserved, hids, hfailures⟩ := heq
  refine ⟨c, hc, hobserved, fun hkept => ?_⟩
  obtain ⟨row, hrow⟩ : ∃ row, c.store.webhooks = [row] := by
    rw [← List.length_eq_one_iff, ← List.length_map, hids]
    rfl
  have hcount : c.store.webhooks.map (·.failureCount) = [0] :=
    congrArg Observation.failureCounts hobserved
  rw [hrow] at hids hcount
  have hid : row.id = "W" := by simpa using hids
  have hzero : row.failureCount = 0 := by simpa using hcount
  have hreflects := (hkept.reflects row (by simp [hrow])).failureCount
  rw [hid, hfailures, hzero] at hreflects
  cases hreflects

theorem updates_kept_overlapping : ∃ c,
    (adminMachine plainEnvelopes).run noWebhooks overlappingRotations = some c ∧
      Kept plainEnvelopes c.store ∧
      observe c = ⟨["renamed"], [some (secretOf '1')], [true], [1],
        [some (some (secretOf '0')), some (some (secretOf '1')), some (some (secretOf '2')),
          some none]⟩ := by
  have hpermitted : (adminMachine plainEnvelopes).Guarded (PermittedStep plainEnvelopes) noWebhooks
      overlappingRotations := by
    decide +kernel
  have hrun : ((adminMachine plainEnvelopes).run noWebhooks overlappingRotations).map observe =
      some ⟨["renamed"], [some (secretOf '1')], [true], [1],
        [some (some (secretOf '0')), some (some (secretOf '1')), some (some (secretOf '2')),
          some none]⟩ := by
    decide +kernel
  obtain ⟨c, hc, hobserved⟩ := Option.map_eq_some_iff.mp hrun
  exact ⟨c, hc, (updates_kept hpermitted hc).1, hobserved⟩

end Example

end Marty.Notification
