import Marty.Flow.Projection

/-!
# The callback outbox

The finalization of a verification leaves its callback in a table, and the dispatchers
take it from there: each row is leased to one of them at a time, under a token, and what
became of a delivery is recorded by an `UPDATE` that names the token.  A row past its
retention is emptied by whichever claim comes next.

## Main definitions

* `CallbackRow`, `CallbackOutbox` — the table.
* `insertCallback`, `claimDueCallbacks`, `markCallbackDelivered`, `markCallbackFailed` —
  its statements.
* `claimDueCallbacks_eq_ok` — what a claim does to the row of each event.
-/

namespace Marty.Flow

open Lib Lib.Checked

/-! ## The table -/

inductive CallbackStatus
  | pending | retry | delivering | delivered | deadLetter | expired
  deriving DecidableEq, Repr

/-- A row of `flow_callback_outbox`, under its `event_id`. -/
structure CallbackRow where
  flowInstanceId : String
  organizationId : String
  destinationUrl : String
  audience : String
  eventType : String
  payload : Value
  status : CallbackStatus
  attemptCount : Nat
  nextAttemptAt : DateTime
  leaseToken : Option String
  leaseExpiresAt : Option DateTime
  lastErrorCode : Option String
  createdAt : DateTime
  deliveredAt : Option DateTime
  expiresAt : DateTime
  deriving Repr

abbrev CallbackOutbox := TextMap CallbackRow

structure ClaimedCallback where
  eventId : String
  flowInstanceId : String
  organizationId : String
  destinationUrl : String
  audience : String
  eventType : String
  payload : Value
  attemptCount : Nat
  leaseToken : String
  leaseExpiresAt : Utc
  deriving Repr

/-! ## Insertion -/

/-- What the outbox reads of a message. -/
structure Message where
  messageId : String
  correlationId : Option String
  tenantId : Option String
  createdAtMs : Nat
  scheduledAtMs : Option Nat
  expiresAtMs : Option Nat
  headers : TextMap String
  messageType : String
  replyTo : Option String
  payload : Value

def timestamp (value : Nat) : Except RepositoryError Utc :=
  okOr ((toI64 value).bind Utc.fromTimestampMillis) (.storage "timestamp is out of range")

/-- A new row; the table holds one row for an event, and one for a flow instance. -/
def insertCallback (outbox : CallbackOutbox) (callback : Message) :
    Except RepositoryError CallbackOutbox := do
  let destination ← okOr callback.replyTo (.storage "callback destination is missing")
  let organization ← okOr callback.tenantId (.storage "callback organization is missing")
  let flowInstance ← okOr callback.correlationId (.storage "callback flow identity is missing")
  let audience ← okOr (callback.headers.get "X-MIP-Audience")
    (.storage "callback audience is missing")
  let created ← timestamp callback.createdAtMs
  let nextAttempt ← timestamp (callback.scheduledAtMs.getD callback.createdAtMs)
  let expiresAtMs ← okOr callback.expiresAtMs (.storage "callback expiry is missing")
  let expires ← timestamp expiresAtMs
  rejectIf (outbox.containsKey callback.messageId) (.storage "duplicate event")
  rejectIf (∃ row ∈ outbox.values, row.flowInstanceId = flowInstance)
    (.storage "duplicate flow instance")
  return outbox.insert callback.messageId
    { flowInstanceId := flowInstance
      organizationId := organization
      destinationUrl := destination
      audience := audience
      eventType := callback.messageType
      payload := callback.payload
      status := .pending
      attemptCount := 0
      nextAttemptAt := nextAttempt.stored
      leaseToken := none
      leaseExpiresAt := none
      lastErrorCode := none
      createdAt := created.stored
      deliveredAt := none
      expiresAt := expires.stored }

/-! ## Claims -/

/-- Past its retention a row that is not settled is emptied. -/
def CallbackRow.sweep (now : DateTime) (row : CallbackRow) : CallbackRow :=
  if row.expiresAt ≤ now ∧ row.status ∈
      [CallbackStatus.pending, .retry, .delivering, .deadLetter] then
    { row with
      status := .expired
      destinationUrl := ""
      payload := .object []
      leaseToken := none
      leaseExpiresAt := none
      lastErrorCode := some "retention_expired" }
  else row

/-- A delivery is due: the row waits for it, or the lease on the row has run out. -/
def CallbackRow.Due (now : DateTime) (row : CallbackRow) : Prop :=
  now < row.expiresAt ∧
    (row.status ∈ [CallbackStatus.pending, .retry] ∧ row.nextAttemptAt ≤ now ∨
      row.status = .delivering ∧ ∃ lease ∈ row.leaseExpiresAt, lease ≤ now)

instance (now : DateTime) (row : CallbackRow) : Decidable (row.Due now) :=
  inferInstanceAs (Decidable (_ ∧ _))

def i32Max : Nat := 2147483647

/-- The row leased under a token; the count of attempts saturates. -/
def CallbackRow.lease (token : String) (leaseExpiresAt : DateTime) (row : CallbackRow) :
    CallbackRow :=
  { row with
    status := .delivering
    attemptCount := min (row.attemptCount + 1) i32Max
    leaseToken := some token
    leaseExpiresAt := some leaseExpiresAt }

/-- The rows that a query meets, in its order.  A row locked by another transaction is
skipped, and no row is met twice. -/
structure RowScan where
  eventIds : List String
  nodup : eventIds.Nodup

def dueCallbacks (outbox : CallbackOutbox) (now : DateTime) (limit : Nat) (scan : RowScan) :
    List (String × CallbackRow) :=
  let met := scan.eventIds.filterMap fun eventId => (outbox.get eventId).map (eventId, ·)
  let due := met.filter fun entry => entry.2.Due now
  (due.insertionSort fun a b => a.2.createdAt ≤ b.2.createdAt).take limit

section

variable (packages : Packages)

def claimedCallback (token : String → String) (leaseExpiresAt : Utc)
    (entry : String × CallbackRow) : Except RepositoryError ClaimedCallback := do
  checkedPublicRecord packages entry.2.payload
  return {
    eventId := entry.1
    flowInstanceId := entry.2.flowInstanceId
    organizationId := entry.2.organizationId
    destinationUrl := entry.2.destinationUrl
    audience := entry.2.audience
    eventType := entry.2.eventType
    payload := entry.2.payload
    attemptCount := min (entry.2.attemptCount + 1) i32Max
    leaseToken := token entry.1
    leaseExpiresAt := leaseExpiresAt }

/-- One transaction: it sweeps the table and leases the rows that are due, or a payload
that cannot be shown undoes it. -/
def claimDueCallbacks (outbox : CallbackOutbox) (now leaseExpiresAt : Utc) (limit : Nat)
    (scan : RowScan) (token : String → String) :
    Except RepositoryError (CallbackOutbox × List ClaimedCallback) := do
  rejectIf (limit = 0 ∨ 100 < limit ∨ leaseExpiresAt ≤ now)
    (.storage "callback claim requires a bounded limit and future lease")
  let swept := outbox.mapValues (·.sweep now.stored)
  let rows := dueCallbacks swept now.stored limit scan
  let claimed ← mapEach (claimedCallback packages token leaseExpiresAt) rows
  return ((rows.map fun row => (row.1, row.2.lease (token row.1) leaseExpiresAt.stored)).foldl
    (fun outbox row => outbox.insert row.1 row.2) swept, claimed)

end

/-! ## Outcomes -/

/-- The row is leased, and under this token. -/
def CallbackRow.LeasedUnder (row : CallbackRow) (token : String) : Prop :=
  row.status = .delivering ∧ row.leaseToken = some token

instance (row : CallbackRow) (token : String) : Decidable (row.LeasedUnder token) :=
  inferInstanceAs (Decidable (_ ∧ _))

def CallbackRow.delivered (deliveredAt : DateTime) (row : CallbackRow) : CallbackRow :=
  { row with
    status := .delivered
    destinationUrl := ""
    payload := .object []
    deliveredAt := some deliveredAt
    leaseToken := none
    leaseExpiresAt := none
    lastErrorCode := none }

def CallbackRow.failed (nextAttemptAt : DateTime) (terminal : Bool) (errorCode : String)
    (row : CallbackRow) : CallbackRow :=
  { row with
    status := if terminal then .deadLetter else .retry
    nextAttemptAt := nextAttemptAt
    leaseToken := none
    leaseExpiresAt := none
    lastErrorCode := some (String.ofList (errorCode.toList.take 128)) }

/-- Change the row leased under a token; the answer says whether there was one. -/
def updateLeased (outbox : CallbackOutbox) (eventId leaseToken : String)
    (change : CallbackRow → CallbackRow) : CallbackOutbox × Bool :=
  match outbox.get eventId with
  | some row =>
      if row.LeasedUnder leaseToken then (outbox.insert eventId (change row), true)
      else (outbox, false)
  | none => (outbox, false)

def markCallbackDelivered (outbox : CallbackOutbox) (eventId leaseToken : String)
    (deliveredAt : Utc) : CallbackOutbox × Bool :=
  updateLeased outbox eventId leaseToken (·.delivered deliveredAt.stored)

def markCallbackFailed (outbox : CallbackOutbox) (eventId leaseToken : String)
    (nextAttemptAt : Utc) (terminal : Bool) (errorCode : String) : CallbackOutbox × Bool :=
  updateLeased outbox eventId leaseToken (·.failed nextAttemptAt.stored terminal errorCode)

theorem updateLeased_cases (outbox : CallbackOutbox) (eventId leaseToken : String)
    (change : CallbackRow → CallbackRow) :
    (∃ row, outbox.get eventId = some row ∧ row.LeasedUnder leaseToken ∧
      updateLeased outbox eventId leaseToken change =
        (outbox.insert eventId (change row), true)) ∨
    (∀ row, outbox.get eventId = some row → ¬ row.LeasedUnder leaseToken) ∧
      updateLeased outbox eventId leaseToken change = (outbox, false) := by
  unfold updateLeased
  cases hrow : outbox.get eventId with
  | none =>
      refine .inr ⟨?_, rfl⟩
      intro row h
      cases h
  | some row =>
      by_cases hlease : row.LeasedUnder leaseToken
      · exact .inl ⟨row, rfl, hlease, if_pos hlease⟩
      · refine .inr ⟨?_, if_neg hlease⟩
        intro row' h
        cases h
        exact hlease

/-! ## What a claim does -/

theorem CallbackRow.sweep_of_due {now : DateTime} {row : CallbackRow}
    (h : (row.sweep now).Due now) : row.sweep now = row := by
  unfold CallbackRow.sweep at h ⊢
  split
  · next hswept =>
      rw [if_pos hswept] at h
      exact absurd h.1 (not_lt.mpr hswept.1)
  · rfl

theorem mem_dueCallbacks {outbox : CallbackOutbox} {now : DateTime} {limit : Nat}
    {scan : RowScan} {entry : String × CallbackRow}
    (h : entry ∈ dueCallbacks outbox now limit scan) :
    outbox.get entry.1 = some entry.2 ∧ entry.2.Due now := by
  have hsorted := List.mem_of_mem_take h
  rw [List.mem_insertionSort, List.mem_filter, List.mem_filterMap] at hsorted
  obtain ⟨⟨eventId, -, hmet⟩, hdue⟩ := hsorted
  obtain ⟨row, hrow, rfl⟩ := Option.map_eq_some_iff.mp hmet
  exact ⟨hrow, of_decide_eq_true hdue⟩

theorem dueCallbacks_nodup (outbox : CallbackOutbox) (now : DateTime) (limit : Nat)
    (scan : RowScan) : ((dueCallbacks outbox now limit scan).map Prod.fst).Nodup := by
  have hmet : ((scan.eventIds.filterMap fun eventId =>
      (outbox.get eventId).map (eventId, ·)).map Prod.fst).Sublist scan.eventIds := by
    induction scan.eventIds with
    | nil => exact List.Sublist.slnil
    | cons eventId ids ih =>
        cases hrow : outbox.get eventId with
        | none => simpa [hrow] using ih.cons eventId
        | some row => simpa [hrow] using ih.cons_cons eventId
  have hdue : ((((scan.eventIds.filterMap fun eventId =>
      (outbox.get eventId).map (eventId, ·)).filter fun entry =>
        entry.2.Due now)).map Prod.fst).Nodup :=
    scan.nodup.sublist ((List.filter_sublist.map _).trans hmet)
  have hsorted := ((List.perm_insertionSort
    (fun a b : String × CallbackRow => a.2.createdAt ≤ b.2.createdAt) _).map Prod.fst).nodup_iff.mpr
      hdue
  exact hsorted.sublist ((List.take_sublist _ _).map _)

/-- The callback handed out for a row. -/
def CallbackRow.claimed (row : CallbackRow) (eventId token : String) (leaseExpiresAt : Utc) :
    ClaimedCallback where
  eventId := eventId
  flowInstanceId := row.flowInstanceId
  organizationId := row.organizationId
  destinationUrl := row.destinationUrl
  audience := row.audience
  eventType := row.eventType
  payload := row.payload
  attemptCount := min (row.attemptCount + 1) i32Max
  leaseToken := token
  leaseExpiresAt := leaseExpiresAt

theorem find?_map_of_nodup {rows : List (String × CallbackRow)} (h : (rows.map Prod.fst).Nodup)
    {token : String → String} {leaseExpiresAt : Utc} {entry : String × CallbackRow}
    (hmem : entry ∈ rows) :
    (rows.map fun row => row.2.claimed row.1 (token row.1) leaseExpiresAt).find?
        (·.eventId == entry.1) =
      some (entry.2.claimed entry.1 (token entry.1) leaseExpiresAt) := by
  induction rows with
  | nil => cases hmem
  | cons row rows ih =>
      have hnodup := List.nodup_cons.mp h
      rcases List.mem_cons.mp hmem with rfl | hrest
      · exact List.find?_cons_of_pos (by simp [CallbackRow.claimed])
      · rw [List.map_cons, List.find?_cons_of_neg, ih hnodup.2 hrest]
        intro heq
        exact hnodup.1 (List.mem_map.mpr ⟨entry, hrest, (beq_iff_eq.mp heq).symm⟩)

theorem claimedCallbacks_eq_ok {packages : Packages} {token : String → String}
    {leaseExpiresAt : Utc} {rows : List (String × CallbackRow)} {claimed : List ClaimedCallback}
    (h : mapEach (claimedCallback packages token leaseExpiresAt) rows = .ok claimed) :
    claimed = rows.map fun row => row.2.claimed row.1 (token row.1) leaseExpiresAt := by
  refine (mapEach_eq_ok (p := fun _ => True) ?_ h).1
  intro entry callback hentry
  simp only [claimedCallback, bind_eq_ok, exists_unit] at hentry
  cases hentry.2
  exact ⟨rfl, trivial⟩

/-- A callback carries the token drawn for its event. -/
theorem claimDueCallbacks_token {packages : Packages} {outbox outbox' : CallbackOutbox}
    {now leaseExpiresAt : Utc} {limit : Nat} {scan : RowScan} {token : String → String}
    {claimed : List ClaimedCallback}
    (h : claimDueCallbacks packages outbox now leaseExpiresAt limit scan token =
      .ok (outbox', claimed)) {callback : ClaimedCallback} (hmem : callback ∈ claimed) :
    callback.leaseToken = token callback.eventId := by
  simp only [claimDueCallbacks, bind_eq_ok, exists_unit] at h
  obtain ⟨-, claims, hclaims, hok⟩ := h
  cases hok
  rw [claimedCallbacks_eq_ok hclaims] at hmem
  obtain ⟨entry, -, rfl⟩ := List.mem_map.mp hmem
  rfl

/-- **A claim** leases the rows it hands out, each of them due, and sweeps the others. -/
theorem claimDueCallbacks_eq_ok {packages : Packages} {outbox outbox' : CallbackOutbox}
    {now leaseExpiresAt : Utc} {limit : Nat} {scan : RowScan} {token : String → String}
    {claimed : List ClaimedCallback}
    (h : claimDueCallbacks packages outbox now leaseExpiresAt limit scan token =
      .ok (outbox', claimed)) (eventId : String) :
    (claimed.find? (·.eventId == eventId) = none ∧
      outbox'.get eventId = (outbox.get eventId).map (·.sweep now.stored)) ∨
    ∃ row, outbox.get eventId = some row ∧ row.Due now.stored ∧
      outbox'.get eventId = some (row.lease (token eventId) leaseExpiresAt.stored) ∧
      claimed.find? (·.eventId == eventId) =
        some (row.claimed eventId (token eventId) leaseExpiresAt) := by
  simp only [claimDueCallbacks, bind_eq_ok, exists_unit, rejectIf_eq_ok] at h
  obtain ⟨-, claims, hclaims, hok⟩ := h
  cases hok
  set swept := outbox.mapValues (·.sweep now.stored) with hswept
  set rows := dueCallbacks swept now.stored limit scan with hrows
  have hclaimed := claimedCallbacks_eq_ok hclaims
  have hnodup : (rows.map Prod.fst).Nodup := dueCallbacks_nodup _ _ _ _
  have hkeys : ((rows.map fun row => (row.1, row.2.lease (token row.1)
      leaseExpiresAt.stored)).map Prod.fst) = rows.map Prod.fst := by
    rw [List.map_map]
    rfl
  by_cases hmem : eventId ∈ rows.map Prod.fst
  · obtain ⟨entry, hentry, rfl⟩ := List.mem_map.mp hmem
    obtain ⟨hget, hdue⟩ := mem_dueCallbacks hentry
    rw [hswept, BTreeMap.mapValues, BTreeMap.get_mapEntries] at hget
    obtain ⟨row, hrow, hsame⟩ := Option.map_eq_some_iff.mp hget
    rw [← hsame] at hdue
    rw [CallbackRow.sweep_of_due hdue] at hsame hdue
    refine .inr ⟨row, hrow, hdue, ?_, ?_⟩
    · rw [BTreeMap.get_foldl_insert _ (hkeys ▸ hnodup)]
      exact .inl (List.mem_map.mpr ⟨entry, hentry, by rw [hsame]⟩)
    · rw [hclaimed, hsame]
      exact find?_map_of_nodup hnodup hentry
  · refine .inl ⟨?_, ?_⟩
    · rw [hclaimed, List.find?_eq_none]
      intro callback hcallback heq
      obtain ⟨entry, hentry, rfl⟩ := List.mem_map.mp hcallback
      exact hmem (List.mem_map.mpr ⟨entry, hentry, beq_iff_eq.mp heq⟩)
    · ext row
      rw [BTreeMap.get_foldl_insert _ (hkeys ▸ hnodup), hkeys, hswept, BTreeMap.mapValues,
        BTreeMap.get_mapEntries]
      constructor
      · rintro (hin | ⟨-, hget⟩)
        · exact absurd (hkeys ▸ List.mem_map_of_mem hin) hmem
        · exact hget
      · intro hget
        exact .inr ⟨hmem, hget⟩

end Marty.Flow
