import Marty.Notification.OutboxWorkers

/-!
# Leases and attempts of the outbox

The rows keep what they were queued with.  The claims of a row are numbered from one on, the
token of the last of them is the lease that the row is delivered under, and an outcome is
written under that token alone.  An attempt in which the receiver was tried and which is not
the last leaves a number below the limit, so that the outcomes of such attempts never exceed
it.

## Main definitions

* `queuedOf`, `claimsOf`, `triesOf` — what the acts say of the rows.
* `RowSound`, `OutboxSound` — what holds of a row and of the store in every state.
* `Warranted` — what holds when an act is done.
* `OutboxContinues` — what later states keep of earlier ones.

## Main results

* `outbox_sound` — soundness along every run, with the warrant of every act.
-/

namespace Marty.Notification

open Lib Lib.Checked

/-! ## What the acts say -/

/-- The events that were queued. -/
def queuedOf (acts : List OutboxAct) : List WebhookOutboxEvent :=
  acts.filterMap fun act => match act with
    | .queued item => some item
    | _ => none

/-- The claims of a row: their tokens and their numbers. -/
def claimsOf (acts : List OutboxAct) (id : String) : List (String × Int) :=
  acts.filterMap fun act => match act with
    | .claimed rowId token attempt => if rowId = id then some (token, attempt) else none
    | _ => none

/-- The outcomes of attempts of a row in which the receiver was tried. -/
def triesOf (acts : List OutboxAct) (id : String) : Nat :=
  acts.countP fun act => match act with
    | .recorded rowId _ _ attempted => rowId == id && attempted
    | _ => false

/-- The row that an act is about. -/
def OutboxAct.rowId : OutboxAct → String
  | .queued item => item.id
  | .claimed id _ _ | .readWebhook id _ _ | .recorded id _ _ _ => id
  | .sent event _ _ => event.id

variable {acts new : List OutboxAct} {id : String}

@[simp] theorem queuedOf_append : queuedOf (acts ++ new) = queuedOf acts ++ queuedOf new := by
  simp [queuedOf]

@[simp] theorem claimsOf_append : claimsOf (acts ++ new) id = claimsOf acts id ++ claimsOf new id := by
  simp [claimsOf]

@[simp] theorem triesOf_append : triesOf (acts ++ new) id = triesOf acts id + triesOf new id := by
  simp [triesOf]

@[simp] theorem tokensOf_append : tokensOf (acts ++ new) = tokensOf acts ++ tokensOf new := by
  simp [tokensOf]

/-- Nothing was done for a row that no act is about. -/
theorem claimsOf_eq_nil (h : ∀ act ∈ acts, act.rowId ≠ id) : claimsOf acts id = [] := by
  rw [claimsOf, List.filterMap_eq_nil_iff]
  intro act hact
  have hne := h act hact
  cases act <;> simp_all [OutboxAct.rowId]

theorem triesOf_eq_zero (h : ∀ act ∈ acts, act.rowId ≠ id) : triesOf acts id = 0 := by
  rw [triesOf, List.countP_eq_zero]
  intro act hact
  have hne := h act hact
  cases act <;> simp_all [OutboxAct.rowId]

/-- The token of a claim was given out. -/
theorem token_mem_of_claim {token : String} {attempt : Int} (h : (token, attempt) ∈ claimsOf acts id) :
    token ∈ tokensOf acts := by
  rw [claimsOf, List.mem_filterMap] at h
  obtain ⟨act, hact, h⟩ := h
  rw [tokensOf, List.mem_filterMap]
  refine ⟨act, hact, ?_⟩
  cases act with
  | claimed rowId token' attempt' =>
      simp only [Option.ite_none_right_eq_some, Option.some.injEq, Prod.mk.injEq] at h
      simp [h.2.1]
  | queued item | readWebhook rowId token' webhook | sent event token' webhook
    | recorded rowId token' attempt' attempted => cases h

/-- **A token is given out once**: two claims under one token are one claim. -/
theorem claim_unique {token id' : String} {attempt attempt' : Int}
    (hnodup : (tokensOf acts).Nodup) (h : (token, attempt) ∈ claimsOf acts id)
    (h' : (token, attempt') ∈ claimsOf acts id') : attempt = attempt' := by
  induction acts with
  | nil => simp [claimsOf] at h
  | cons act acts ih =>
      have hcons (id : String) : claimsOf (act :: acts) id = claimsOf [act] id ++ claimsOf acts id := by
        rw [← claimsOf_append, List.singleton_append]
      have htokens : tokensOf (act :: acts) = tokensOf [act] ++ tokensOf acts := by
        rw [← tokensOf_append, List.singleton_append]
      rw [hcons, List.mem_append] at h h'
      rw [htokens, List.nodup_append] at hnodup
      obtain ⟨-, hrest, hdisjoint⟩ := hnodup
      rcases h with h | h <;> rcases h' with h' | h'
      · cases act <;> simp_all [claimsOf]
      · exact absurd rfl (hdisjoint _ (token_mem_of_claim h) _ (token_mem_of_claim h'))
      · exact absurd rfl (hdisjoint _ (token_mem_of_claim h') _ (token_mem_of_claim h))
      · exact ih hrest h h'

/-! ## Soundness -/

/-- **What holds of a row.**  An open row has the payload it was queued with, and a row that no
statement leaves any more has none.  Its claims are numbered from one on, the last of them is
its lease, and the receiver was tried less often than the limit allows while it is open. -/
structure RowSound (acts : List OutboxAct) (row : WebhookOutboxEvent) : Prop where
  queued : ∃ item ∈ queuedOf acts, item.content = row.content ∧
    (row.status.isTerminal = false → row.payload = item.payload)
  emptied : row.status.isTerminal = true → row.payload = []
  attempts : ∃ n : Nat, row.attemptCount = n ∧
    (claimsOf acts row.id).map Prod.snd = (List.range' 1 n).map Int.ofNat
  leased : row.status = .delivering → ∃ token, row.leaseToken = some token ∧
    (claimsOf acts row.id).getLast? = some (token, row.attemptCount)
  tries_le : (triesOf acts row.id : Int) ≤ row.maxAttempts
  tries_lt : row.status.isTerminal = false → (triesOf acts row.id : Int) < row.maxAttempts ∧
    (triesOf acts row.id : Int) ≤ row.attemptCount - if row.status = .delivering then 1 else 0

/-- **Soundness**: the rows are the events that were queued, in their order. -/
structure OutboxSound (s : WorkerStore) : Prop where
  contents : s.tables.outbox.rows.map (·.content) = (queuedOf s.acts).map (·.content)
  rows : ∀ row ∈ s.tables.outbox.rows, RowSound s.acts row
  tokens : (tokensOf s.acts).Nodup
  known : ∀ act ∈ s.acts, ∃ row ∈ s.tables.outbox.rows, row.id = act.rowId
  types : ∀ item ∈ queuedOf s.acts, (expectedStatus item.eventType).isSome

/-- What later states keep: every row with its content, its payload while it is open, and all
of it, without another claim, once it is not. -/
def OutboxContinues (s s' : WorkerStore) : Prop :=
  ∀ row ∈ s.tables.outbox.rows, ∃ row' ∈ s'.tables.outbox.rows, row'.content = row.content ∧
    (row'.status.isTerminal = false → row'.payload = row.payload) ∧
    (row.status.isTerminal = true → row' = row ∧ claimsOf s'.acts row.id = claimsOf s.acts row.id)

/-- **What holds when an act is done.**  A row is queued for a delivery that has none; an open
row is claimed under a new token with the next number; a request is made to a webhook that was
read from the table in this attempt, is enabled, belongs to the event's organization and takes
its type; and an outcome is written under the token of the last claim, which is the lease of
the row. -/
def Warranted (s : WorkerStore) : OutboxAct → Prop
  | .queued item => ∀ row ∈ s.tables.outbox.rows, row.logicalDelivery ≠ item.logicalDelivery
  | .claimed id token attempt => token ∉ tokensOf s.acts ∧
      ∃ row ∈ s.tables.outbox.rows, row.id = id ∧ row.status.isTerminal = false ∧
        attempt = row.attemptCount + 1
  | .readWebhook _ _ webhook => webhook ∈ s.tables.webhooks
  | .sent event token webhook => event.leaseToken = some token ∧
      (∃ row ∈ s.tables.outbox.rows, row.content = event.content) ∧
      .readWebhook event.id token webhook ∈ s.acts ∧ webhook.enabled = true ∧
      webhook.organizationId = event.organizationId ∧ webhook.accepts event.eventType = true
  | .recorded id token attempt _ => (claimsOf s.acts id).getLast? = some (token, attempt) ∧
      ∃ row ∈ s.tables.outbox.rows, row.id = id ∧ row.status = .delivering ∧
        row.leaseToken = some token ∧ row.attemptCount = attempt

/-- A step from a sound state. -/
structure Advances (s s' : WorkerStore) : Prop where
  sound : OutboxSound s'
  continues : OutboxContinues s s'
  warranted : ∃ new, s'.acts = s.acts ++ new ∧ ∀ act ∈ new, Warranted s act

theorem OutboxContinues.refl (s : WorkerStore) : OutboxContinues s s :=
  fun row hrow => ⟨row, hrow, rfl, fun _ => rfl, fun _ => ⟨rfl, rfl⟩⟩

theorem OutboxContinues.trans {s s' s'' : WorkerStore} (h : OutboxContinues s s')
    (h' : OutboxContinues s' s'') : OutboxContinues s s'' := by
  intro row hrow
  obtain ⟨row', hrow', hcontent, hpayload, hterminal⟩ := h row hrow
  obtain ⟨row'', hrow'', hcontent', hpayload', hterminal'⟩ := h' row' hrow'
  refine ⟨row'', hrow'', hcontent'.trans hcontent, fun hopen => ?_, fun hdone => ?_⟩
  · rw [hpayload' hopen]
    refine hpayload ?_
    by_contra hdone
    rw [Bool.not_eq_false] at hdone
    rw [(hterminal' hdone).1, hdone] at hopen
    cases hopen
  · obtain ⟨rfl, hclaims⟩ := hterminal hdone
    obtain ⟨rfl, hclaims'⟩ := hterminal' hdone
    exact ⟨rfl, hclaims'.trans hclaims⟩

/-! ## Changes of the store -/

variable {s s' : WorkerStore}

/-- Acts on other rows change nothing for a row. -/
theorem RowSound.append {row : WebhookOutboxEvent} (h : RowSound acts row)
    (hclaims : claimsOf new row.id = []) (htries : triesOf new row.id = 0) :
    RowSound (acts ++ new) row := by
  have hsame : claimsOf (acts ++ new) row.id = claimsOf acts row.id := by simp [hclaims]
  have htriesSame : triesOf (acts ++ new) row.id = triesOf acts row.id := by simp [htries]
  constructor
  case queued =>
      obtain ⟨item, hitem, hcontent, hpayload⟩ := h.queued
      exact ⟨item, by simp [hitem], hcontent, hpayload⟩
  case emptied => exact h.emptied
  case attempts => rw [hsame]; exact h.attempts
  case leased => rw [hsame]; exact h.leased
  case tries_le => rw [htriesSame]; exact h.tries_le
  case tries_lt => rw [htriesSame]; exact h.tries_lt

/-- **An update of open rows**, with the acts that account for it. -/
theorem advances_update (h : OutboxSound s) {p : WebhookOutboxEvent → Bool}
    {f : WebhookOutboxEvent → WebhookOutboxEvent} {hf : ∀ row, (f row).content = row.content}
    (houtbox : s'.tables.outbox = s.tables.outbox.update p f hf) (hacts : s'.acts = s.acts ++ new)
    (hqueued : queuedOf new = []) (htokens : (tokensOf (s.acts ++ new)).Nodup)
    (hmet : ∀ row ∈ s.tables.outbox.rows, p row = true → row.status.isTerminal = false ∧
      RowSound (s.acts ++ new) (f row) ∧
      ((f row).status.isTerminal = false → (f row).payload = row.payload))
    (hunmet : ∀ row ∈ s.tables.outbox.rows, p row = false →
      claimsOf new row.id = [] ∧ triesOf new row.id = 0)
    (hknown : ∀ act ∈ new, ∃ row ∈ s.tables.outbox.rows, row.id = act.rowId)
    (hwarranted : ∀ act ∈ new, Warranted s act) : Advances s s' := by
  have hrows : s'.tables.outbox.rows =
      s.tables.outbox.rows.map fun row => if p row then f row else row := by
    rw [houtbox]
    rfl
  have hcontent : ∀ row, (if p row then f row else row).content = row.content := by
    intro row
    split
    · exact hf row
    · rfl
  refine ⟨⟨?_, ?_, ?_, ?_, ?_⟩, ?_, new, hacts, hwarranted⟩
  · rw [hrows, hacts, queuedOf_append, hqueued, List.append_nil, ← h.contents, List.map_map]
    exact List.map_congr_left fun row _ => hcontent row
  · intro row' hrow'
    rw [hrows] at hrow'
    obtain ⟨row, hrow, rfl⟩ := List.mem_map.mp hrow'
    rw [hacts]
    split
    case isTrue hp => exact (hmet row hrow hp).2.1
    case isFalse hp =>
        rw [Bool.not_eq_true] at hp
        exact (h.rows row hrow).append (hunmet row hrow hp).1 (hunmet row hrow hp).2
  · rw [hacts]
    exact htokens
  · intro act hact
    have hold : ∃ row ∈ s.tables.outbox.rows, row.id = act.rowId := by
      rw [hacts] at hact
      rcases List.mem_append.mp hact with hact | hact
      · exact h.known act hact
      · exact hknown act hact
    obtain ⟨row, hrow, hid⟩ := hold
    rw [hrows]
    exact ⟨_, List.mem_map_of_mem hrow, (WebhookOutboxEvent.id_eq_of_content (hcontent row)).trans hid⟩
  · rw [hacts, queuedOf_append, hqueued, List.append_nil]
    exact h.types
  · intro row hrow
    refine ⟨_, hrows ▸ List.mem_map_of_mem hrow, hcontent row, ?_, ?_⟩
    · intro hopen
      by_cases hp : p row = true
      · rw [if_pos hp] at hopen ⊢
        exact (hmet row hrow hp).2.2 hopen
      · rw [if_neg hp]
    · intro hdone
      by_cases hp : p row = true
      · rw [(hmet row hrow hp).1] at hdone
        cases hdone
      · rw [Bool.not_eq_true] at hp
        rw [hacts, claimsOf_append, (hunmet row hrow hp).1, List.append_nil]
        simp [hp]

/-- Acts that are about rows that are there, and change none of them. -/
theorem advances_quiet (h : OutboxSound s) (houtbox : s'.tables.outbox = s.tables.outbox)
    (hacts : s'.acts = s.acts ++ new) (hqueued : queuedOf new = []) (htokens : tokensOf new = [])
    (hsilent : ∀ id, claimsOf new id = [] ∧ triesOf new id = 0)
    (hknown : ∀ act ∈ new, ∃ row ∈ s.tables.outbox.rows, row.id = act.rowId)
    (hwarranted : ∀ act ∈ new, Warranted s act) : Advances s s' := by
  refine ⟨⟨?_, ?_, ?_, ?_, ?_⟩, ?_, new, hacts, hwarranted⟩
  · rw [houtbox, hacts, queuedOf_append, hqueued, List.append_nil]
    exact h.contents
  · rw [houtbox, hacts]
    exact fun row hrow => (h.rows row hrow).append (hsilent _).1 (hsilent _).2
  · rw [hacts, tokensOf_append, htokens, List.append_nil]
    exact h.tokens
  · intro act hact
    rw [houtbox]
    rw [hacts] at hact
    rcases List.mem_append.mp hact with hact | hact
    · exact h.known act hact
    · exact hknown act hact
  · rw [hacts, queuedOf_append, hqueued, List.append_nil]
    exact h.types
  · intro row hrow
    refine ⟨row, houtbox ▸ hrow, rfl, fun _ => rfl, fun _ => ⟨rfl, ?_⟩⟩
    rw [hacts, claimsOf_append, (hsilent _).1, List.append_nil]

/-- Nothing is done to the outbox. -/
theorem advances_same (h : OutboxSound s) (houtbox : s'.tables.outbox = s.tables.outbox)
    (hacts : s'.acts = s.acts) : Advances s s' :=
  advances_quiet h houtbox (by rw [hacts, List.append_nil]) rfl rfl (fun _ => ⟨rfl, rfl⟩)
    (fun _ hact => by cases hact) (fun _ hact => by cases hact)

/-! ## Statements -/

variable {services : IngestServices}

theorem enqueueWebhookEvent_eq_ok {o o' : Outbox} {item : WebhookOutboxEvent} {inserted : Bool}
    (h : enqueueWebhookEvent services.toOutboxServices o item = .ok (o', inserted)) :
    (inserted = false ∧ o' = o) ∨
      (inserted = true ∧ o'.rows = o.rows ++ [item] ∧ 1 ≤ item.maxAttempts ∧
        (∀ row ∈ o.rows, row.id ≠ item.id) ∧
        ∀ row ∈ o.rows, row.logicalDelivery ≠ item.logicalDelivery) := by
  unfold enqueueWebhookEvent at h
  split at h
  · cases h
  split at h
  · cases h
  case isFalse hfits =>
    split at h
    · cases h
      exact .inl ⟨rfl, rfl⟩
    case isFalse hdelivery =>
      split at h
      · cases h
      case isFalse hid =>
        cases h
        rw [Bool.not_eq_false, WebhookOutboxEvent.fitsColumns] at hfits
        simp only [Bool.and_eq_true, decide_eq_true_eq] at hfits
        exact .inr ⟨rfl, rfl, hfits.1.1.1.2, fun row hrow heq => hid ⟨row, hrow, heq⟩,
          fun row hrow heq => hdelivery ⟨row, hrow, heq⟩⟩

/-- The row of a new event. -/
structure IsNew (item : WebhookOutboxEvent) : Prop where
  status : item.status = .pending
  attemptCount : item.attemptCount = 0
  eventType : (expectedStatus item.eventType).isSome

/-- **An event is queued** under keys that no row has. -/
theorem advances_queue (h : OutboxSound s) {item : WebhookOutboxEvent} (hitem : IsNew item)
    (hrows : s'.tables.outbox.rows = s.tables.outbox.rows ++ [item])
    (hacts : s'.acts = s.acts ++ [.queued item]) (hlimit : 1 ≤ item.maxAttempts)
    (hid : ∀ row ∈ s.tables.outbox.rows, row.id ≠ item.id)
    (hdelivery : ∀ row ∈ s.tables.outbox.rows, row.logicalDelivery ≠ item.logicalDelivery) :
    Advances s s' := by
  have hunknown : ∀ act ∈ s.acts, act.rowId ≠ item.id := by
    intro act hact heq
    obtain ⟨row, hrow, hrowId⟩ := h.known act hact
    exact hid row hrow (hrowId.trans heq)
  have hsilent (id : String) : claimsOf [OutboxAct.queued item] id = [] ∧
      triesOf [OutboxAct.queued item] id = 0 := ⟨rfl, rfl⟩
  have hopen : item.status.isTerminal = false := by rw [hitem.status, OutboxStatus.isTerminal]
  refine ⟨⟨?_, ?_, ?_, ?_, ?_⟩, ?_, _, hacts, ?_⟩
  · rw [hrows, hacts, queuedOf_append, List.map_append, List.map_append, h.contents]
    rfl
  · intro row hrow
    rw [hrows] at hrow
    rw [hacts]
    rcases List.mem_append.mp hrow with hrow | hrow
    · exact (h.rows row hrow).append (hsilent _).1 (hsilent _).2
    rw [List.mem_singleton.mp hrow]
    have hclaims : claimsOf (s.acts ++ [.queued item]) item.id = [] := by
      rw [claimsOf_append, claimsOf_eq_nil hunknown, (hsilent _).1, List.append_nil]
    have htries : triesOf (s.acts ++ [.queued item]) item.id = 0 := by
      rw [triesOf_append, triesOf_eq_zero hunknown, (hsilent _).2]
    constructor
    case queued => exact ⟨item, by simp [queuedOf], rfl, fun _ => rfl⟩
    case emptied => exact fun hdone => absurd hdone (by simp [hopen])
    case attempts => exact ⟨0, hitem.attemptCount, by rw [hclaims]; rfl⟩
    case leased => exact fun hleased => absurd (hitem.status.symm.trans hleased) (by simp)
    case tries_le => rw [htries]; omega
    case tries_lt =>
        intro _
        rw [htries, hitem.attemptCount, hitem.status]
        simp
        omega
  · rw [hacts, tokensOf_append]
    simpa [tokensOf] using h.tokens
  · intro act hact
    rw [hrows]
    rw [hacts] at hact
    rcases List.mem_append.mp hact with hact | hact
    · obtain ⟨row, hrow, hrowId⟩ := h.known act hact
      exact ⟨row, List.mem_append_left _ hrow, hrowId⟩
    · rw [List.mem_singleton.mp hact]
      exact ⟨item, List.mem_append_right _ (List.mem_singleton.mpr rfl), rfl⟩
  · intro queued hqueued
    rw [hacts, queuedOf_append] at hqueued
    rcases List.mem_append.mp hqueued with hqueued | hqueued
    · exact h.types queued hqueued
    · rw [List.mem_singleton.mp hqueued]
      exact hitem.eventType
  · intro row hrow
    refine ⟨row, by rw [hrows]; exact List.mem_append_left _ hrow, rfl, fun _ => rfl,
      fun _ => ⟨rfl, ?_⟩⟩
    rw [hacts, claimsOf_append, (hsilent _).1, List.append_nil]
  · intro act hact
    rw [List.mem_singleton.mp hact]
    exact hdelivery

/-- **A row is closed**: it keeps its content and its attempts, and loses its payload. -/
theorem RowSound.close {row row' : WebhookOutboxEvent} (h : RowSound acts row)
    (hcontent : row'.content = row.content) (hattempts : row'.attemptCount = row.attemptCount)
    (hdone : row'.status.isTerminal = true) (hpayload : row'.payload = []) : RowSound acts row' := by
  have hid : row'.id = row.id := WebhookOutboxEvent.id_eq_of_content hcontent
  have hmax : row'.maxAttempts = row.maxAttempts := congrArg OutboxContent.maxAttempts hcontent
  constructor
  case queued =>
      obtain ⟨item, hitem, hitemContent, -⟩ := h.queued
      exact ⟨item, hitem, hitemContent.trans hcontent.symm, fun hopen => by simp [hdone] at hopen⟩
  case emptied => exact fun _ => hpayload
  case attempts => rw [hid, hattempts]; exact h.attempts
  case leased =>
      intro hleased
      rw [hleased] at hdone
      cases hdone
  case tries_le => rw [hid, hmax]; exact h.tries_le
  case tries_lt => exact fun hopen => by simp [hdone] at hopen

/-- Rows whose retention is over are closed. -/
theorem advances_expire (h : OutboxSound s) {now : DateTime}
    (houtbox : s'.tables.outbox = expireWebhookEvents s.tables.outbox now)
    (hacts : s'.acts = s.acts) : Advances s s' := by
  rw [← List.append_nil s.acts] at hacts
  refine advances_update h houtbox hacts rfl (by simpa using h.tokens) ?_
    (fun _ _ _ => ⟨rfl, rfl⟩) (fun _ hact => by cases hact) fun _ hact => by cases hact
  intro row hrow hmet
  simp only [WebhookOutboxEvent.isOutdated, Bool.and_eq_true, Bool.not_eq_true'] at hmet
  refine ⟨hmet.2, ?_, fun hopen => by cases hopen⟩
  exact ((h.rows row hrow).append rfl rfl).close rfl rfl rfl rfl

/-! ## Claims -/

section Claims

variable {due : List WebhookOutboxEvent} {token : String → String}

/-- The acts of a claim. -/
def claimActs (due : List WebhookOutboxEvent) (token : String → String) : List OutboxAct :=
  due.map fun row => .claimed row.id (token row.id) (row.attemptCount + 1)

theorem queuedOf_claimActs : queuedOf (claimActs due token) = [] := by
  simp [queuedOf, claimActs, List.filterMap_map]

theorem tokensOf_claimActs : tokensOf (claimActs due token) = due.map fun row => token row.id := by
  simp [tokensOf, claimActs, List.filterMap_map]

theorem triesOf_claimActs : triesOf (claimActs due token) id = 0 := by
  simp [triesOf, claimActs]

theorem claimsOf_claimActs : claimsOf (claimActs due token) id =
    (due.filter fun row => row.id == id).map fun row => (token row.id, row.attemptCount + 1) := by
  induction due with
  | nil => rfl
  | cons row due ih =>
      have hcons : claimsOf (claimActs (row :: due) token) id =
          claimsOf [OutboxAct.claimed row.id (token row.id) (row.attemptCount + 1)] id ++
            claimsOf (claimActs due token) id := by
        rw [← claimsOf_append]
        rfl
      rw [hcons, ih]
      by_cases hid : row.id = id <;> simp [claimsOf, hid]

/-- The rows that a claim takes are due, each of them once. -/
theorem dueRows_spec (o : Outbox) (now : DateTime) (limit : Nat) (locked : List String) :
    ((dueRows o now limit locked).map (·.id)).Nodup ∧
      ∀ row ∈ dueRows o now limit locked, row ∈ o.rows ∧ row.isDue now = true := by
  unfold dueRows
  constructor
  · refine ((List.take_sublist _ _).map _).nodup ?_
    have hperm := (List.mergeSort_perm
      (o.rows.filter fun row => row.isDue now && !locked.contains row.id)
      fun a b => decide (a.createdAt ≤ b.createdAt)).map (·.id)
    rw [hperm.nodup_iff]
    exact (List.filter_sublist.map _).nodup o.ids
  · intro row hrow
    have hmem := List.mem_of_mem_take hrow
    rw [List.mem_mergeSort, List.mem_filter, Bool.and_eq_true] at hmem
    exact ⟨hmem.1, hmem.2.1⟩

/-- A row with a key that a list has once is the one that the key picks. -/
theorem filter_id_eq_singleton {row : WebhookOutboxEvent} (hids : (due.map (·.id)).Nodup)
    (hrow : row ∈ due) : (due.filter fun other => other.id == row.id) = [row] := by
  obtain ⟨l₁, l₂, rfl⟩ := List.append_of_mem hrow
  rw [List.map_append, List.map_cons, List.nodup_append, List.nodup_cons] at hids
  obtain ⟨-, ⟨hnot, -⟩, hdisjoint⟩ := hids
  have h1 : l₁.filter (fun other => other.id == row.id) = [] := by
    rw [List.filter_eq_nil_iff]
    intro other hother heq
    exact hdisjoint _ (List.mem_map_of_mem hother) _ List.mem_cons_self (by simpa using heq)
  have h2 : l₂.filter (fun other => other.id == row.id) = [] := by
    rw [List.filter_eq_nil_iff]
    intro other hother heq
    rw [beq_iff_eq] at heq
    exact hnot (heq ▸ List.mem_map_of_mem hother)
  simp [h1, h2]

/-- A row that is due is open. -/
theorem open_of_isDue {row : WebhookOutboxEvent} {now : DateTime} (h : row.isDue now = true) :
    row.status.isTerminal = false := by
  simp only [WebhookOutboxEvent.isDue, Bool.and_eq_true, Bool.or_eq_true, beq_iff_eq] at h
  rcases h.2 with ⟨hstatus | hstatus, -⟩ | ⟨hstatus, -⟩ <;> rw [hstatus, OutboxStatus.isTerminal]

/-- **A row is claimed**: its claim is the next one and the last. -/
theorem RowSound.lease {row : WebhookOutboxEvent} (h : RowSound acts row) {lease : String}
    {expiry : DateTime} (hopen : row.status.isTerminal = false)
    (hclaims : claimsOf new row.id = [(lease, row.attemptCount + 1)])
    (htries : triesOf new row.id = 0) : RowSound (acts ++ new) (row.lease lease expiry) := by
  obtain ⟨n, hn, hattempts⟩ := h.attempts
  have hid : (row.lease lease expiry).id = row.id := rfl
  have hnow : claimsOf (acts ++ new) row.id =
      claimsOf acts row.id ++ [(lease, row.attemptCount + 1)] := by simp [hclaims]
  have htriesSame : triesOf (acts ++ new) row.id = triesOf acts row.id := by simp [htries]
  constructor
  case queued =>
      obtain ⟨item, hitem, hcontent, hpayload⟩ := h.queued
      exact ⟨item, by simp [hitem], hcontent, fun _ => hpayload hopen⟩
  case emptied => exact fun hdone => by cases hdone
  case attempts =>
      refine ⟨n + 1, ?_, ?_⟩
      · simp [WebhookOutboxEvent.lease, hn]
      · rw [hid, hnow, List.map_append, hattempts, List.range'_concat, List.map_append]
        simp [hn]
        omega
  case leased =>
      intro _
      refine ⟨lease, rfl, ?_⟩
      rw [hid, hnow, List.getLast?_concat]
      rfl
  case tries_le => rw [hid, htriesSame]; exact h.tries_le
  case tries_lt =>
      intro _
      obtain ⟨hlt, hle⟩ := h.tries_lt hopen
      rw [hid, htriesSame]
      simp only [WebhookOutboxEvent.lease, if_true]
      refine ⟨hlt, ?_⟩
      split at hle <;> omega

/-- **A claim** takes open rows under new tokens. -/
theorem advances_claim (h : OutboxSound s) {now leaseExpiresAt : DateTime} {limit : Nat}
    {locked : List String} {outbox : Outbox} {events : List WebhookOutboxEvent}
    (hfresh : FreshTokens s.acts (dueRows s.tables.outbox now limit locked) token)
    (hclaim : claimDueWebhookEvents s.tables.outbox now leaseExpiresAt limit locked token =
      .ok (outbox, events))
    (houtbox : s'.tables.outbox = outbox)
    (hacts : s'.acts = s.acts ++ claimActs (dueRows s.tables.outbox now limit locked) token) :
    Advances s s' := by
  obtain ⟨hids, hdue⟩ := dueRows_spec s.tables.outbox now limit locked
  unfold claimDueWebhookEvents at hclaim
  dsimp only at hclaim
  split at hclaim
  · cases hclaim
  cases hclaim
  have hmem : ∀ row ∈ s.tables.outbox.rows,
      ((dueRows s.tables.outbox now limit locked).any fun taken => taken.id == row.id) = true →
        row ∈ dueRows s.tables.outbox now limit locked := by
    intro row hrow hany
    obtain ⟨taken, htaken, hid⟩ := List.any_eq_true.mp hany
    have hsame : taken = row := List.inj_on_of_nodup_map s.tables.outbox.ids (hdue taken htaken).1
      hrow (by simpa using hid)
    exact hsame ▸ htaken
  refine advances_update h houtbox hacts queuedOf_claimActs ?_ ?_ ?_ ?_ ?_
  · rw [tokensOf_append, tokensOf_claimActs, List.nodup_append]
    refine ⟨h.tokens, hfresh.1, ?_⟩
    rintro old hold _ hnew rfl
    obtain ⟨row, hrow, rfl⟩ := List.mem_map.mp hnew
    exact hfresh.2 row hrow hold
  · intro row hrow hany
    have htaken := hmem row hrow hany
    have hopen := open_of_isDue (hdue row htaken).2
    refine ⟨hopen, (h.rows row hrow).lease hopen ?_ triesOf_claimActs, fun _ => rfl⟩
    rw [claimsOf_claimActs, filter_id_eq_singleton hids htaken]
    rfl
  · intro row hrow hany
    refine ⟨?_, triesOf_claimActs⟩
    rw [claimsOf_claimActs, List.map_eq_nil_iff, List.filter_eq_nil_iff]
    intro taken htaken hid
    exact absurd hid (List.any_eq_false.mp hany taken htaken)
  · intro act hact
    obtain ⟨row, hrow, rfl⟩ := List.mem_map.mp hact
    exact ⟨row, (hdue row hrow).1, rfl⟩
  · intro act hact
    obtain ⟨row, hrow, rfl⟩ := List.mem_map.mp hact
    exact ⟨hfresh.2 row hrow, row, (hdue row hrow).1, rfl, open_of_isDue (hdue row hrow).2, rfl⟩

end Claims

/-! ## Tasks -/

/-- **What a task knows of its event**: the content and the payload that were queued, and the
claim that its token stands for. -/
def EventSound (acts : List OutboxAct) (event : WebhookOutboxEvent) : Prop :=
  (∃ item ∈ queuedOf acts, item.content = event.content ∧ item.payload = event.payload) ∧
    ∃ token, event.leaseToken = some token ∧ (token, event.attemptCount) ∈ claimsOf acts event.id

theorem EventSound.append {event : WebhookOutboxEvent} (h : EventSound acts event) :
    EventSound (acts ++ new) event := by
  obtain ⟨⟨item, hitem, hcontent⟩, token, htoken, hclaim⟩ := h
  exact ⟨⟨item, by simp [hitem], hcontent⟩, token, htoken, by simp [hclaim]⟩

/-- The row of an event has its content. -/
theorem EventSound.content_eq (h : OutboxSound s) {event : WebhookOutboxEvent}
    (hevent : EventSound s.acts event) :
    ∃ row ∈ s.tables.outbox.rows, row.content = event.content := by
  obtain ⟨⟨item, hitem, hcontent, -⟩, -⟩ := hevent
  have hmem : item.content ∈ s.tables.outbox.rows.map (·.content) := by
    rw [h.contents]
    exact List.mem_map_of_mem hitem
  obtain ⟨row, hrow, hrowContent⟩ := List.mem_map.mp hmem
  exact ⟨row, hrow, hrowContent.trans hcontent⟩

/-- A task cannot settle a circuit that is open after it has tried the receiver. -/
def Outcome.Sound (outcome : Outcome) : Prop :=
  outcome.attempted = true → outcome.circuitUntil = none

theorem deliveryOutcome_sound (plan : Plan) (unwrapped : Except WebhookError String)
    (answers : AttemptAnswers) : (deliveryOutcome plan unwrapped answers).Sound := by
  cases plan with
  | refuse code retryable circuitUntil => exact fun h => by cases h
  | attempt webhook =>
      unfold deliveryOutcome Outcome.Sound
      dsimp only
      split
      · exact fun _ => rfl
      · exact fun _ => rfl

/-- What a task knows at each point. -/
def TaskSound (acts : List OutboxAct) : DeliveryTask → Prop
  | .claimed event => EventSound acts event
  | .subscriptionRead event _ => EventSound acts event
  | .planned event webhook plan => EventSound acts event ∧ ∀ value, plan = .attempt value →
      webhook = some value ∧ value.takes event = true ∧
        .readWebhook event.id (event.leaseToken.getD "") value ∈ acts
  | .sending event _ _ => EventSound acts event
  | .decided event _ outcome => EventSound acts event ∧ outcome.Sound
  | .marked _ _ _ _ | .finished _ => True

theorem TaskSound.append {task : DeliveryTask} (h : TaskSound acts task) :
    TaskSound (acts ++ new) task := by
  cases task with
  | claimed event | subscriptionRead event subscription | sending event webhook unwrapped =>
      exact EventSound.append h
  | planned event webhook plan =>
      refine ⟨h.1.append, fun value hplan => ?_⟩
      obtain ⟨hwebhook, htakes, hread⟩ := h.2 value hplan
      exact ⟨hwebhook, htakes, List.mem_append_left _ hread⟩
  | decided event webhook outcome => exact ⟨h.1.append, h.2⟩
  | marked event webhook outcome completed | finished answer => trivial

/-- An event that was queued is not a test. -/
theorem not_test (h : OutboxSound s) {event : WebhookOutboxEvent} (hevent : EventSound s.acts event) :
    isWebhookTestEvent event = false := by
  obtain ⟨⟨item, hitem, hcontent, -⟩, -⟩ := hevent
  have htype : item.eventType = event.eventType := congrArg OutboxContent.eventType hcontent
  have hexpected := h.types item hitem
  by_contra htest
  rw [Bool.not_eq_false, isWebhookTestEvent] at htest
  simp only [Bool.and_eq_true, beq_iff_eq] at htest
  rw [htype, htest.1.1.1.1.1.1.2] at hexpected
  revert hexpected
  decide

/-- The branch that makes an attempt has found a webhook that takes the event. -/
theorem attempt_of_planDelivery {event : WebhookOutboxEvent} {now : DateTime}
    {subscription : Option Subscription} {webhook : Option WebhookEndpoint}
    {value : WebhookEndpoint} (h : planDelivery event now subscription webhook = .attempt value) :
    webhook = some value ∧ value.takes event = true := by
  unfold planDelivery at h
  dsimp only at h
  split_ifs at h
  cases webhook with
  | none => cases h
  | some found =>
      unfold planAtEndpoint at h
      dsimp only at h
      split_ifs at h with htakes
      cases h
      exact ⟨rfl, by simpa using htakes⟩

/-- The events of a claim are its rows, under their new tokens. -/
theorem eventSound_of_claim (h : OutboxSound s) {now leaseExpiresAt : DateTime} {limit : Nat}
    {locked : List String} {token : String → String} {outbox : Outbox}
    {events : List WebhookOutboxEvent}
    (hclaim : claimDueWebhookEvents s.tables.outbox now leaseExpiresAt limit locked token =
      .ok (outbox, events)) : ∀ event ∈ events,
    EventSound (s.acts ++ claimActs (dueRows s.tables.outbox now limit locked) token) event := by
  obtain ⟨hids, hdue⟩ := dueRows_spec s.tables.outbox now limit locked
  unfold claimDueWebhookEvents at hclaim
  dsimp only at hclaim
  split at hclaim
  · cases hclaim
  cases hclaim
  intro event hevent
  obtain ⟨row, hrow, rfl⟩ := List.mem_map.mp hevent
  obtain ⟨hmem, hrowDue⟩ := hdue row hrow
  obtain ⟨item, hitem, hcontent, hpayload⟩ := (h.rows row hmem).queued
  refine ⟨⟨item, by simp [hitem], hcontent, (hpayload (open_of_isDue hrowDue)).symm⟩, token row.id,
    rfl, ?_⟩
  have hclaimed : claimsOf (claimActs (dueRows s.tables.outbox now limit locked) token) row.id =
      [(token row.id, row.attemptCount + 1)] := by
    rw [claimsOf_claimActs, filter_id_eq_singleton hids hrow]
    rfl
  have hlast : (token row.id, row.attemptCount + 1) ∈ claimsOf (s.acts ++
      claimActs (dueRows s.tables.outbox now limit locked) token) row.id := by
    rw [claimsOf_append, hclaimed]
    exact List.mem_append_right _ (List.mem_singleton.mpr rfl)
  exact hlast

/-! ## Outcomes -/

theorem settled_content (services : OutboxServices) (event : WebhookOutboxEvent)
    (outcome : Outcome) (completed : DateTime) (row : WebhookOutboxEvent) :
    (settled services event outcome completed row).content = row.content := by
  unfold settled
  split <;> rfl

theorem settle_eq (services : OutboxServices) (o : Outbox) (event : WebhookOutboxEvent)
    (lease : String) (outcome : Outcome) (completed : DateTime) :
    settle services o event lease outcome completed =
      o.mark event.id lease (settled services event outcome completed)
        (settled_content services event outcome completed) := by
  unfold settle
  split
  case isTrue hsuccess =>
      have hsettled : settled services event outcome completed =
          .deliver completed (outcome.attempt.responseStatusCode.getD 200) := if_pos hsuccess
      simp only [hsettled]
      rfl
  case isFalse hfailure =>
      have hsettled : settled services event outcome completed =
          .fail (nextAttempt services event completed outcome.circuitUntil) (outcome.isFinal event)
            (outcome.attempt.errorCode.getD "WEBHOOK_DELIVERY_FAILED")
            outcome.attempt.responseStatusCode := if_neg hfailure
      simp only [hsettled]
      rfl

/-- An outcome that leaves the row open was not the last attempt at the receiver. -/
theorem attempt_lt_of_not_isFinal {outcome : Outcome} {event : WebhookOutboxEvent}
    (hsound : outcome.Sound) (hattempted : outcome.attempted = true)
    (hopen : outcome.isFinal event = false) : event.attemptCount < event.maxAttempts := by
  simp only [Outcome.isFinal, hsound hattempted, Option.isNone_none, Bool.true_and,
    Bool.or_eq_false_iff, decide_eq_false_iff_not] at hopen
  omega

/-- A row that is still open after an outcome is to be tried again, with its payload. -/
theorem settled_of_open {services : OutboxServices} {event row : WebhookOutboxEvent}
    {outcome : Outcome} {completed : DateTime}
    (h : (settled services event outcome completed row).status.isTerminal = false) :
    outcome.isFinal event = false ∧
      (settled services event outcome completed row).payload = row.payload := by
  revert h
  unfold settled
  split
  · simp [WebhookOutboxEvent.deliver, OutboxStatus.isTerminal]
  · cases hfinal : outcome.isFinal event <;>
      simp [WebhookOutboxEvent.fail, OutboxStatus.isTerminal]

/-- **A row is settled** with the outcome of its last claim. -/
theorem RowSound.settle {row event : WebhookOutboxEvent} {lease : String} {outcome : Outcome}
    {completed : DateTime} {services : OutboxServices} (h : RowSound acts row)
    (hleased : row.status = .delivering) (hsound : outcome.Sound)
    (hcontent : row.content = event.content) (hattempt : row.attemptCount = event.attemptCount) :
    RowSound (acts ++ [.recorded event.id lease event.attemptCount outcome.attempted])
      (settled services event outcome completed row) := by
  have hid : row.id = event.id := WebhookOutboxEvent.id_eq_of_content hcontent
  have hmax : row.maxAttempts = event.maxAttempts := congrArg OutboxContent.maxAttempts hcontent
  have hopen : row.status.isTerminal = false := by rw [hleased, OutboxStatus.isTerminal]
  obtain ⟨hlt, hle⟩ := h.tries_lt hopen
  rw [if_pos hleased] at hle
  have hclaims : claimsOf (acts ++ [.recorded event.id lease event.attemptCount outcome.attempted])
      row.id = claimsOf acts row.id := by
    rw [claimsOf_append]
    exact List.append_nil _
  have htries : triesOf (acts ++ [.recorded event.id lease event.attemptCount outcome.attempted])
      row.id = triesOf acts row.id + if outcome.attempted then 1 else 0 := by
    rw [triesOf_append]
    simp [triesOf, hid]
  have hsettledContent := settled_content services event outcome completed row
  have hsettledId := WebhookOutboxEvent.id_eq_of_content hsettledContent
  have hsettledMax : (settled services event outcome completed row).maxAttempts = row.maxAttempts :=
    congrArg OutboxContent.maxAttempts hsettledContent
  have hsettledCount : (settled services event outcome completed row).attemptCount =
      row.attemptCount := by
    unfold settled
    split <;> rfl
  have hnotLeased : (settled services event outcome completed row).status ≠ .delivering := by
    unfold settled
    split
    · simp [WebhookOutboxEvent.deliver]
    · cases hfinal : outcome.isFinal event <;> simp [WebhookOutboxEvent.fail]
  have hemptied : (settled services event outcome completed row).status.isTerminal = true →
      (settled services event outcome completed row).payload = [] := by
    unfold settled
    split
    · simp [WebhookOutboxEvent.deliver]
    · cases hfinal : outcome.isFinal event <;>
        simp [WebhookOutboxEvent.fail, OutboxStatus.isTerminal]
  constructor
  case queued =>
      obtain ⟨item, hitem, hitemContent, hitemPayload⟩ := h.queued
      refine ⟨item, by simp [hitem], hitemContent.trans hsettledContent.symm, fun hstill => ?_⟩
      rw [(settled_of_open hstill).2]
      exact hitemPayload hopen
  case emptied => exact hemptied
  case attempts =>
      rw [hsettledId, hsettledCount, hclaims]
      exact h.attempts
  case leased => exact fun hdelivering => absurd hdelivering hnotLeased
  case tries_le =>
      rw [hsettledId, hsettledMax, htries]
      split <;> push_cast <;> omega
  case tries_lt =>
      intro hstill
      rw [hsettledId, hsettledMax, hsettledCount, htries, if_neg hnotLeased]
      by_cases hattempted : outcome.attempted = true
      · have hbelow := attempt_lt_of_not_isFinal hsound hattempted (settled_of_open hstill).1
        rw [if_pos hattempted]
        push_cast
        omega
      · rw [if_neg hattempted]
        push_cast
        omega

/-- **An outcome is written** under the lease of the row, or nothing is. -/
theorem advances_mark (h : OutboxSound s) {event : WebhookOutboxEvent} {outcome : Outcome}
    {completed : DateTime} {services : OutboxServices} (hevent : EventSound s.acts event)
    (hsound : outcome.Sound)
    (houtbox : s'.tables.outbox = (settle services s.tables.outbox event
      (event.leaseToken.getD "") outcome completed).1)
    (hacts : s'.acts = if (settle services s.tables.outbox event (event.leaseToken.getD "") outcome
        completed).2 then
      s.acts ++ [.recorded event.id (event.leaseToken.getD "") event.attemptCount outcome.attempted]
      else s.acts) : Advances s s' := by
  obtain ⟨owner, howner, hownerContent⟩ := hevent.content_eq h
  obtain ⟨-, token, htoken, hclaim⟩ := hevent
  rw [settle_eq] at houtbox hacts
  simp only [htoken, Option.getD_some, Outbox.mark] at houtbox hacts
  -- The row that is leased under the token is the one that the event was claimed from.
  have hleased : ∀ row ∈ s.tables.outbox.rows, row.isLeasedUnder event.id token = true →
      row.content = event.content ∧ row.status = .delivering ∧ row.leaseToken = some token ∧
        row.attemptCount = event.attemptCount ∧
        (claimsOf s.acts event.id).getLast? = some (token, event.attemptCount) := by
    intro row hrow hmet
    simp only [WebhookOutboxEvent.isLeasedUnder, Bool.and_eq_true, beq_iff_eq] at hmet
    obtain ⟨⟨hid, hdelivering⟩, hlease⟩ := hmet
    have hsame : row = owner := List.inj_on_of_nodup_map s.tables.outbox.ids hrow howner
      (hid.trans (WebhookOutboxEvent.id_eq_of_content hownerContent).symm)
    obtain ⟨lease, hleaseToken, hlast⟩ := (h.rows row hrow).leased hdelivering
    obtain rfl : lease = token := Option.some.inj (hleaseToken.symm.trans hlease)
    have hcount : row.attemptCount = event.attemptCount :=
      claim_unique h.tokens (List.mem_of_getLast? hlast) hclaim
    rw [hid, hcount] at hlast
    exact ⟨hsame ▸ hownerContent, hdelivering, hlease, hcount, hlast⟩
  by_cases hany : s.tables.outbox.rows.any (·.isLeasedUnder event.id token) = true
  · rw [if_pos hany] at hacts
    obtain ⟨met, hmetRow, hmet⟩ := List.any_eq_true.mp hany
    refine advances_update h houtbox hacts rfl ?_ ?_ ?_ ?_ ?_
    · rw [tokensOf_append]
      simpa [tokensOf] using h.tokens
    · intro row hrow hp
      obtain ⟨hcontent, hdelivering, -, hcount, -⟩ := hleased row hrow hp
      exact ⟨by rw [hdelivering, OutboxStatus.isTerminal],
        (h.rows row hrow).settle hdelivering hsound hcontent hcount,
        fun hstill => (settled_of_open hstill).2⟩
    · intro row hrow hp
      refine ⟨rfl, ?_⟩
      have hne : event.id ≠ row.id := by
        intro hid
        have hsame : row = met := List.inj_on_of_nodup_map s.tables.outbox.ids hrow hmetRow
          (hid.symm.trans (WebhookOutboxEvent.id_eq_of_content (hleased met hmetRow hmet).1).symm)
        rw [hsame, hmet] at hp
        cases hp
      simp [triesOf, hne]
    · intro act hact
      rw [List.mem_singleton.mp hact]
      exact ⟨owner, howner, WebhookOutboxEvent.id_eq_of_content hownerContent⟩
    · intro act hact
      rw [List.mem_singleton.mp hact]
      obtain ⟨hcontent, hdelivering, hlease, hcount, hlast⟩ := hleased met hmetRow hmet
      exact ⟨hlast, met, hmetRow, WebhookOutboxEvent.id_eq_of_content hcontent, hdelivering, hlease,
        hcount⟩
  · rw [if_neg hany] at hacts
    rw [Bool.not_eq_true, List.any_eq_false] at hany
    rw [← List.append_nil s.acts] at hacts
    refine advances_update h houtbox hacts rfl (by simpa using h.tokens) ?_
      (fun _ _ _ => ⟨rfl, rfl⟩) (fun _ hact => by cases hact) fun _ hact => by cases hact
    intro row hrow hp
    exact absurd hp (hany row hrow)

/-! ## Steps -/

/-- What a call knows between its steps. -/
def OutboxPhaseSound (acts : List OutboxAct) : OutboxPhase → Prop
  | .ingesting ingestion => (expectedStatus ingestion.event.eventType).isSome
  | .queueing ingestion item => (expectedStatus ingestion.event.eventType).isSome ∧ IsNew item
  | .working _ tasks => ∀ task ∈ tasks, TaskSound acts task
  | .idle | .ingested _ | .claiming _ _ _ => True

theorem OutboxPhaseSound.append {phase : OutboxPhase} (h : OutboxPhaseSound acts phase) :
    OutboxPhaseSound (acts ++ new) phase := by
  cases phase with
  | working now tasks => exact fun task htask => (h task htask).append
  | idle | ingesting ingestion | queueing ingestion item | ingested answer
    | claiming now leaseExpiresAt limit => exact h

theorem expectedStatus_of_validateEvent {event : EventIngestRequest}
    (h : validateEvent services event = .ok ()) : (expectedStatus event.eventType).isSome := by
  simp only [validateEvent, bind_eq_ok, exists_unit] at h
  obtain ⟨-, -, -, -, -, h⟩ := h
  cases hstatus : expectedStatus event.eventType with
  | none => simp [hstatus] at h
  | some status => rfl

theorem beginIngestion_sound {tables : Tables} {event : EventIngestRequest} {now : DateTime}
    {readable : Bool} :
    OutboxPhaseSound acts (beginIngestion services tables event now readable) := by
  unfold beginIngestion
  split
  · trivial
  case h_2 hvalid =>
      split
      · exact expectedStatus_of_validateEvent hvalid
      · trivial

theorem nextTarget_sound {tables : Tables} {ingestion : Ingestion} {readable : Bool}
    (h : (expectedStatus ingestion.event.eventType).isSome) :
    OutboxPhaseSound acts (nextTarget services tables ingestion readable) := by
  unfold nextTarget
  split
  · trivial
  split
  · exact h
  split
  case isFalse => trivial
  case isTrue =>
    split
    · exact h
    · exact h
    case h_3 item htarget =>
        refine ⟨h, ?_⟩
        unfold targetOf at htarget
        split at htarget
        · cases htarget
        split at htarget
        · cases htarget
        split at htarget
        · cases htarget
        split at htarget
        · cases htarget
        cases htarget
        exact ⟨rfl, rfl, h⟩

/-- The insertion of a row. -/
theorem queueStep_sound (h : OutboxSound s) {ingestion : Ingestion} {item : WebhookOutboxEvent}
    {delivery : Delivery} (hphase : OutboxPhaseSound s.acts (.queueing ingestion item))
    {phase : OutboxPhase} (hstep : queueStep services s ingestion item delivery = (s', phase)) :
    Advances s s' ∧ OutboxPhaseSound s'.acts phase := by
  obtain ⟨htype, hitem⟩ := hphase
  unfold queueStep at hstep
  split at hstep
  · cases hstep
    exact ⟨advances_same h rfl rfl, trivial⟩
  split at hstep
  · cases hstep
    exact ⟨advances_same h rfl rfl, trivial⟩
  case h_2 outbox inserted henqueue =>
      cases hstep
      constructor
      case right =>
          by_cases hlost : delivery = .lost
          · rw [if_pos hlost]
            trivial
          · rw [if_neg hlost]
            exact htype
      obtain ⟨rfl, rfl⟩ | ⟨rfl, hrows, hlimit, hid, hdelivery⟩ := enqueueWebhookEvent_eq_ok henqueue
      · exact advances_same h rfl rfl
      · exact advances_queue h hitem hrows rfl hlimit hid hdelivery

/-- The second statement of a claim. -/
theorem claimStep_sound (h : OutboxSound s) {now leaseExpiresAt : DateTime} {limit : Nat}
    {locked : List String} {token : String → String} {received : Bool} {phase : OutboxPhase}
    (hstep : claimStep services s now leaseExpiresAt limit locked token received =
      some (s', phase)) : Advances s s' ∧ OutboxPhaseSound s'.acts phase := by
  unfold claimStep at hstep
  dsimp only at hstep
  rw [Option.ite_none_right_eq_some] at hstep
  obtain ⟨hfresh, hstep⟩ := hstep
  split at hstep
  · cases hstep
    exact ⟨advances_same h rfl rfl, fun task htask => by cases htask⟩
  case h_2 outbox events hclaim =>
      cases hstep
      refine ⟨advances_claim h hfresh hclaim rfl rfl, fun task htask => ?_⟩
      split at htask
      · obtain ⟨event, hevent, rfl⟩ := List.mem_map.mp htask
        exact eventSound_of_claim h hclaim event hevent
      · cases htask

theorem taskSound_ite {c : Prop} [Decidable c] {task task' : DeliveryTask}
    (h : TaskSound acts task) (h' : TaskSound acts task') :
    TaskSound acts (if c then task else task') := by
  split
  · exact h
  · exact h'

/-- **A step of a delivery** is a step of the store, and the task knows what it has to. -/
theorem taskStep_sound (h : OutboxSound s) {now : DateTime} {e : TaskEvent}
    {task task' : DeliveryTask} (htask : TaskSound s.acts task)
    (hstep : taskStep services now e s task = some (s', task')) :
    Advances s s' ∧ TaskSound s'.acts task' := by
  unfold taskStep at hstep
  split at hstep
  case h_1 event readable =>
      split at hstep
      · cases hstep
        exact ⟨advances_same h rfl rfl, trivial⟩
      · cases hstep
        exact ⟨advances_same h rfl rfl, htask⟩
  case h_2 event subscription readable =>
      cases hstep
      have hevent : EventSound s.acts event := htask
      obtain ⟨row, hrow, hcontent⟩ := hevent.content_eq h
      have hfound : ∀ value, (if readable then getWebhook s.tables.webhooks event.webhookId
          else none) = some value → value ∈ s.tables.webhooks := by
        intro value hvalue
        rw [Option.ite_none_right_eq_some] at hvalue
        exact List.mem_of_find?_eq_some hvalue.2
      generalize (if readable then getWebhook s.tables.webhooks event.webhookId else none) = webhook
        at hfound
      refine ⟨?_, hevent.append, fun value hplan => ?_⟩
      · cases webhook with
        | none => exact advances_same h rfl (List.append_nil _)
        | some value =>
            refine advances_quiet h rfl rfl rfl rfl (fun _ => ⟨rfl, rfl⟩) ?_ ?_
            · intro act hact
              rw [List.mem_singleton.mp hact]
              exact ⟨row, hrow, WebhookOutboxEvent.id_eq_of_content hcontent⟩
            · intro act hact
              rw [List.mem_singleton.mp hact]
              exact hfound value rfl
      · obtain ⟨rfl, htakes⟩ := attempt_of_planDelivery hplan
        exact ⟨rfl, htakes, List.mem_append_right _ (List.mem_singleton.mpr rfl)⟩
  case h_3 event webhook code retryable circuitUntil =>
      cases hstep
      exact ⟨advances_same h rfl rfl, htask.1, fun hattempted => by cases hattempted⟩
  case h_4 event webhook value unwrapped destination client =>
      obtain ⟨hevent, hplan⟩ := htask
      obtain ⟨hwebhook, htakes, hread⟩ := hplan value rfl
      obtain ⟨row, hrow, hcontent⟩ := hevent.content_eq h
      split at hstep
      · cases hstep
        refine ⟨advances_quiet h rfl rfl rfl rfl (fun _ => ⟨rfl, rfl⟩) ?_ ?_, hevent.append⟩
        · intro act hact
          rw [List.mem_singleton.mp hact]
          exact ⟨row, hrow, WebhookOutboxEvent.id_eq_of_content hcontent⟩
        · intro act hact
          rw [List.mem_singleton.mp hact]
          simp only [WebhookEndpoint.takes, not_test h hevent, Bool.false_or, Bool.and_eq_true,
            beq_iff_eq] at htakes
          obtain ⟨⟨henabled, horg⟩, haccepts⟩ := htakes
          obtain ⟨-, token, htoken, -⟩ := hevent
          exact ⟨by simp [htoken], ⟨row, hrow, hcontent⟩, hread, henabled, horg, haccepts⟩
      · cases hstep
        exact ⟨advances_same h rfl rfl, hevent, deliveryOutcome_sound _ _ _⟩
  case h_5 event webhook unwrapped response =>
      cases hstep
      exact ⟨advances_same h rfl rfl, htask, deliveryOutcome_sound _ _ _⟩
  case h_6 event webhook outcome delivery completed =>
      obtain ⟨hevent, hsound⟩ := htask
      dsimp only at hstep
      split at hstep
      · cases hstep
        exact ⟨advances_same h rfl rfl, trivial⟩
      · cases hstep
        exact ⟨advances_mark h hevent hsound rfl rfl, taskSound_ite trivial trivial⟩
  case h_7 event webhook outcome completed threshold recorded saved =>
      cases hstep
      exact ⟨advances_same h rfl rfl, trivial⟩
  case h_8 => cases hstep

/-! ## Runs -/

section Runs

variable {ι : Type*}

/-- The store and what the calls know. -/
structure WorkersSound (c : Config WorkerStore ι OutboxPhase) : Prop where
  store : OutboxSound c.store
  calls : ∀ i, OutboxPhaseSound c.store.acts (c.calls i)

/-- **Every step** is a step of the store. -/
theorem outboxStep_sound {i : ι} {e : OutboxEvent} {phase phase' : OutboxPhase}
    (h : OutboxSound s) (hphase : OutboxPhaseSound s.acts phase)
    (hstep : outboxStep services i e s phase = some (s', phase')) :
    Advances s s' ∧ OutboxPhaseSound s'.acts phase' := by
  unfold outboxStep at hstep
  split at hstep
  case h_1 =>
      cases hstep
      exact ⟨advances_same h rfl rfl, hphase⟩
  case h_2 =>
      cases hstep
      exact ⟨advances_same h rfl rfl, beginIngestion_sound⟩
  case h_3 =>
      cases hstep
      exact ⟨advances_same h rfl rfl, nextTarget_sound hphase⟩
  case h_4 =>
      rw [Option.some.injEq] at hstep
      exact queueStep_sound h hphase hstep
  case h_5 =>
      rw [Option.ite_none_right_eq_some] at hstep
      obtain ⟨-, hstep⟩ := hstep
      cases hstep
      exact ⟨advances_expire h rfl rfl, trivial⟩
  case h_6 => exact claimStep_sound h hstep
  case h_7 index e now tasks =>
      obtain ⟨task, htask, hstep⟩ := Option.bind_eq_some_iff.mp hstep
      obtain ⟨⟨s₁, task'⟩, htaken, heq⟩ := Option.map_eq_some_iff.mp hstep
      cases heq
      obtain ⟨hadvances, htask'⟩ := taskStep_sound h (hphase task (List.mem_of_getElem? htask)) htaken
      refine ⟨hadvances, fun other hother => ?_⟩
      obtain ⟨new, hacts, -⟩ := hadvances.warranted
      rcases List.mem_or_eq_of_mem_set hother with hother | rfl
      · rw [hacts]
        exact (hphase other hother).append
      · exact htask'
  case h_8 => cases hstep

theorem workersSound_noEvents (subscriptions : List Subscription)
    (webhooks : List WebhookEndpoint) :
    WorkersSound (noEvents subscriptions webhooks : Config WorkerStore ι OutboxPhase) := by
  constructor
  · constructor <;> simp [noEvents, Outbox.empty, queuedOf, tokensOf]
  · intro i
    trivial

variable [DecidableEq ι]

theorem workersSound_next {i : ι} {e : OutboxEvent} {c c' : Config WorkerStore ι OutboxPhase}
    (h : WorkersSound c) (hnext : (outboxMachine services).next c i e = some c') :
    WorkersSound c' ∧ Advances c.store c'.store := by
  obtain ⟨s', phase', hstep, rfl⟩ := Machine.next_eq_some.mp hnext
  obtain ⟨hadvances, hphase'⟩ := outboxStep_sound h.store (h.calls i) hstep
  refine ⟨⟨hadvances.sound, fun j => ?_⟩, hadvances⟩
  by_cases hj : j = i
  · subst hj
    simpa using hphase'
  · obtain ⟨new, hacts, -⟩ := hadvances.warranted
    simp only [Function.update_of_ne hj, hacts]
    exact (h.calls j).append

/-- **Delivery is leased, bounded and without duplicates** along every run of ingestions and
workers.  Every queued delivery has one row, for good, with its content; its claims are numbered
from one on; an open row has its payload, and a row that is not open has none and stays as it
is, without another claim; the receiver is tried in at most `max_attempts` outcomes; and
every claim, request and outcome is warranted when it is made. -/
theorem outbox_sound {subscriptions : List Subscription} {webhooks : List WebhookEndpoint}
    {t u : List (ι × OutboxEvent)} {c c' : Config WorkerStore ι OutboxPhase}
    (h : (outboxMachine services).run (noEvents subscriptions webhooks) t = some c)
    (h' : (outboxMachine services).run c u = some c') :
    OutboxSound c.store ∧ OutboxContinues c.store c'.store ∧
      ∀ i e c'', (outboxMachine services).next c i e = some c'' →
        ∃ new, c''.store.acts = c.store.acts ++ new ∧ ∀ act ∈ new, Warranted c.store act := by
  have hsound : WorkersSound c := Machine.run_induct
    (fun c i e c' hsound hnext => (workersSound_next hsound hnext).1)
    (workersSound_noEvents subscriptions webhooks) h
  refine ⟨hsound.store, ?_, fun i e c'' hnext => (workersSound_next hsound hnext).2.warranted⟩
  exact (Machine.run_induct_rel (R := fun a b => OutboxContinues a.store b.store)
    (fun c => OutboxContinues.refl c.store) (fun _ _ _ => OutboxContinues.trans)
    (fun c i e c' hsound hnext => ⟨(workersSound_next hsound hnext).1,
      (workersSound_next hsound hnext).2.continues⟩) hsound h').2

end Runs

namespace LeaseExample

open FailedReadExample (plainServices)

def ingestServices : IngestServices where
  toOutboxServices := plainServices
  readRfc3339 := fun _ => none
  writeRfc3339 := fun _ => "1970-01-01T00:00:00+00:00"
  validateInternalEventData := fun _ _ => .ok ()

def approval : EventIngestRequest where
  eventId := "E"
  eventType := "application.approved"
  aggregateId := "A"
  aggregateType := "application"
  organizationId := "O"
  correlationId := "00000000-0000-4000-8000-000000000000"
  data := [("applicant_id", .string "P"), ("application_id", .string "A"),
    ("credential_template_id", .string "T"), ("status", .string "APPROVED")]
  timestamp := none

def secret : String := String.ofList (List.replicate 32 's')

def subscription : Subscription :=
  ⟨"S", "O", ["application.*"], [], ⟨3, 1, 30⟩, some "W", true⟩

def webhook : WebhookEndpoint where
  id := "W"
  organizationId := "O"
  name := "approvals"
  url := "https://receiver.example/"
  secret := ""
  secretEnvelope := some "vault:s"
  secretHint := some "ssss"
  description := none
  eventTypes := []
  enabled := true
  failureCount := 0
  lastFailureAt := none
  lastTriggeredAt := none
  circuitBreakerOpenUntil := none
  createdAt := 0
  updatedAt := 0

def sendNow : TaskEvent := .send (.ok secret) (.ok ()) (.ok ())

/-- The event is ingested twice.  The first worker is still sending when its lease expires, and
the second worker takes the event over and delivers it. -/
def takenOver : List (Fin 4 × OutboxEvent) :=
  [(0, .ingest approval 0 true), (0, .target true), (0, .enqueue .answered), (0, .target true),
    (2, .expire 0 30 10), (2, .claim [] (fun _ => "first") true),
    (2, .task 0 (.readSubscription true)), (2, .task 0 (.readWebhook true)), (2, .task 0 sendNow),
    (1, .ingest approval 1 true), (1, .target true), (1, .enqueue .answered), (1, .target true),
    (3, .expire (seconds 60) 30 10), (3, .claim [] (fun _ => "second") true),
    (3, .task 0 (.readSubscription true)), (3, .task 0 (.readWebhook true)), (3, .task 0 sendNow),
    (3, .task 0 (.respond (some (200, 5)))), (3, .task 0 (.mark .answered (seconds 61))),
    (3, .task 0 (.record 5 true true)), (2, .task 0 (.respond (some (500, 5)))),
    (2, .task 0 (.mark .answered (seconds 62)))]

/-- The rows, the claims of the event, and the outcomes in which the receiver was tried. -/
structure Observation where
  rows : List OutboxStatus
  claims : List (String × Int)
  tries : Nat
  deriving DecidableEq

def observe (c : Config WorkerStore (Fin 4) OutboxPhase) : Observation where
  rows := c.store.tables.outbox.rows.map (·.status)
  claims := claimsOf c.store.acts "E:S:W"
  tries := triesOf c.store.acts "E:S:W"

theorem outbox_sound_taken_over : ∃ c c',
    (outboxMachine ingestServices).run (noEvents [subscription] [webhook]) (takenOver.take 15) =
        some c ∧
      (outboxMachine ingestServices).run c (takenOver.drop 15) = some c' ∧
      OutboxSound c.store ∧ OutboxContinues c.store c'.store ∧
      observe c = ⟨[.delivering], [("first", 1), ("second", 2)], 0⟩ ∧
      observe c' = ⟨[.delivered], [("first", 1), ("second", 2)], 1⟩ := by
  have hrun : ((outboxMachine ingestServices).run (noEvents [subscription] [webhook])
      (takenOver.take 15)).bind (fun c => ((outboxMachine ingestServices).run c
        (takenOver.drop 15)).map fun c' => (observe c, observe c')) =
      some (⟨[.delivering], [("first", 1), ("second", 2)], 0⟩,
        ⟨[.delivered], [("first", 1), ("second", 2)], 1⟩) := by
    decide +kernel
  obtain ⟨c, hc, hobserved⟩ := Option.bind_eq_some_iff.mp hrun
  obtain ⟨c', hc', heq⟩ := Option.map_eq_some_iff.mp hobserved
  rw [Prod.mk.injEq] at heq
  obtain ⟨hsound, hcontinues, -⟩ := outbox_sound hc hc'
  exact ⟨c, c', hc, hc', hsound, hcontinues, heq.1, heq.2⟩

end LeaseExample

end Marty.Notification
