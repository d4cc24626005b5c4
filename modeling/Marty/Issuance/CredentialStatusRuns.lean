import Mathlib.Data.List.Nodup
import Marty.Issuance.CredentialStatus
import Marty.Lib.Log

/-!
# What the status of a credential is for good

Along every run a row is written by a transition or by a renewal only while it is not revoked, so
whatever a revocation has stored stays as it is.  Each transition is audited in the commit that
stores it, and it is published before that, so the events of a credential replay to its row.  A
renewal links the source to a successor that was issued for it; since a transaction is bound to a
source that is already there, the sources of a credential lead back in the order of issuance.

## Main definitions

* `StatusColumns.replay` — the columns of a row, from the events of its credential.
* `Rows`, `Audited` — what the tables have to do with each other.
* `Later` — what is there stays, and what is revoked stays as it is.
* `Consistent` — the tables, and what the calls know of them.
* `status_kept` — all of it holds along every run.
-/

namespace Marty.Issuance.Management

open Lib Lib.Checked

/-! ## The columns of the status -/

/-- The columns that a transition writes. -/
structure StatusColumns where
  status : ManagedCredentialStatus
  statusUpdatedAt : DateTime
  revoked : Bool
  revokedAt : Option DateTime
  revocationReason : Option String
  deriving DecidableEq

def ManagedCredential.columns (credential : ManagedCredential) : StatusColumns :=
  ⟨credential.status, credential.statusUpdatedAt, credential.revoked, credential.revokedAt,
    credential.revocationReason⟩

/-- The columns of a credential that is issued at a time. -/
def StatusColumns.issued (issuedAt : DateTime) : StatusColumns :=
  ⟨.active, issuedAt, false, none, none⟩

/-- The columns after an event, when the event follows them. -/
def StatusColumns.next (columns : StatusColumns) (event : LifecycleEvent) :
    Option StatusColumns :=
  if event.audit.previousStatus = columns.status ∧
      validateTransition columns.status event.audit.action = .ok () ∧
      event.status = event.audit.action.targetStatus then
    some (if event.audit.action = .revoke then
        ⟨.revoked, event.createdAt, true, some event.createdAt, event.audit.reason⟩
      else { columns with status := event.status, statusUpdatedAt := event.createdAt })
  else none

/-- **The columns that the events leave.** -/
def StatusColumns.replay (columns : StatusColumns) (events : List LifecycleEvent) :
    Option StatusColumns :=
  events.foldlM StatusColumns.next columns

theorem StatusColumns.replay_append {columns columns' columns'' : StatusColumns}
    {events : List LifecycleEvent} {event : LifecycleEvent}
    (h : columns.replay events = some columns') (hnext : columns'.next event = some columns'') :
    columns.replay (events ++ [event]) = some columns'' := by
  rw [replay] at h ⊢
  rw [List.foldlM_append, h]
  simp [hnext]

/-- The events of a credential. -/
def eventsOf (events : List LifecycleEvent) (credentialId : String) : List LifecycleEvent :=
  events.filter fun event => event.credentialId = credentialId

theorem eventsOf_append_self {events : List LifecycleEvent} {event : LifecycleEvent} :
    eventsOf (events ++ [event]) event.credentialId =
      eventsOf events event.credentialId ++ [event] := by
  simp [eventsOf]

theorem eventsOf_append_of_ne {events : List LifecycleEvent} {event : LifecycleEvent}
    {id : String} (h : event.credentialId ≠ id) :
    eventsOf (events ++ [event]) id = eventsOf events id := by
  simp [eventsOf, h]

/-- The other columns agree with the status. -/
structure ManagedCredential.Flagged (credential : ManagedCredential) : Prop where
  revoked : credential.revoked = decide (credential.status = .revoked)
  revokedAt : credential.revokedAt.isSome = decide (credential.status = .revoked)
  reason : credential.status ≠ .revoked → credential.revocationReason = none

/-- A credential that is not revoked has the columns of one that never was. -/
theorem ManagedCredential.Flagged.columns_eq {credential : ManagedCredential}
    (h : credential.Flagged) (hlive : credential.status ≠ .revoked) :
    credential.columns = ⟨credential.status, credential.statusUpdatedAt, false, none, none⟩ := by
  have hrevoked := h.revoked
  have hat := h.revokedAt
  simp only [hlive, decide_false, Option.isSome_eq_false_iff, Option.isNone_iff_eq_none]
    at hrevoked hat
  rw [columns, hrevoked, hat, h.reason hlive]

/-- The columns that no statement writes. -/
def CredentialRow.fixed (row : CredentialRow) : CredentialRow :=
  { row with
    status := .active
    statusUpdatedAt := 0
    revoked := false
    revokedAt := none
    revocationReason := none
    renewedToCredentialId := none }

theorem fixed_id {a b : CredentialRow} (h : a.fixed = b.fixed) : a.id = b.id :=
  congrArg (·.id) h

theorem fixed_transactionId {a b : CredentialRow} (h : a.fixed = b.fixed) :
    a.transactionId = b.transactionId := congrArg (·.transactionId) h

theorem fixed_organizationId {a b : CredentialRow} (h : a.fixed = b.fixed) :
    a.organizationId = b.organizationId := congrArg (·.organizationId) h

theorem fixed_renewedFrom {a b : CredentialRow} (h : a.fixed = b.fixed) :
    a.renewedFromCredentialId = b.renewedFromCredentialId :=
  congrArg (·.renewedFromCredentialId) h

/-! ## The tables -/

/-- The source of a renewed credential was issued before it. -/
def SourceBefore (before : List CredentialRow) (row : CredentialRow) : Prop :=
  ∀ x, Signing.renewalSourceId row.renewedFromCredentialId = some x → ∃ r ∈ before, r.id = x

/-- A renewal that is complete. -/
structure Superseded (credentials : List CredentialRow) (row : CredentialRow)
    (successorId : String) : Prop where
  revoked : row.status = .revoked
  reason : row.revocationReason = some supersededReason
  successor : ∃ r ∈ credentials, r.id = successorId ∧ r.id ≠ row.id ∧
    r.organizationId = row.organizationId ∧ r.renewedFromCredentialId = some row.id

structure Rows (s : ManagementStore) : Prop where
  keyed : ∀ id t, s.transactions id = some t → t.id = id
  ids : (s.credentials.map (·.id)).Nodup
  flagged : ∀ r ∈ s.credentials, r.Flagged
  owned : ∀ r ∈ s.credentials, ∃ t, s.transactions r.transactionId = some t ∧
    Signing.renewalSourceId t.renewalOfCredentialId =
      Signing.renewalSourceId r.renewedFromCredentialId
  sources : ∀ id t x, s.transactions id = some t →
    Signing.renewalSourceId t.renewalOfCredentialId = some x → ∃ r ∈ s.credentials, r.id = x
  ordered : Justified SourceBefore (s.credentials.map CredentialRow.fixed)
  linked : ∀ r ∈ s.credentials, ∀ x, r.renewedToCredentialId = some x →
    Superseded s.credentials r x

/-- The status lists have taken the action for a credential. -/
def Published (s : ManagementStore) (credentialId : String) (action : CredentialLifecycleAction)
    (reason : Option String) : Prop :=
  ∃ p ∈ s.published, p.credentialId = credentialId ∧ p.status = action.eventType ∧
    p.reason = reason

/-- The events of a credential replay to its row, or to what a renewal has superseded. -/
def Trail (s : ManagementStore) (row : CredentialRow) : Prop :=
  ∃ issuedAt columns, (StatusColumns.issued issuedAt).replay (eventsOf s.events row.id) =
      some columns ∧
    (row.renewedToCredentialId = none → row.columns = columns) ∧
    (row.renewedToCredentialId ≠ none → columns.status = .active ∧
      Published s row.id .revoke (some supersededReason))

structure Audited (s : ManagementStore) : Prop where
  trail : ∀ r ∈ s.credentials, Trail s r
  recorded : ∀ e ∈ s.events, ∃ r ∈ s.credentials, r.id = e.credentialId ∧
    r.transactionId = e.transactionId ∧ r.organizationId = e.organizationId
  published : ∀ e ∈ s.events, Published s e.credentialId e.audit.action e.audit.reason

/-- What is there stays, and what is revoked stays as it is. -/
structure Later (s s' : ManagementStore) : Prop where
  fixed : s.credentials.map CredentialRow.fixed <+: s'.credentials.map CredentialRow.fixed
  revoked : ∀ r ∈ s.credentials, r.status = .revoked → r ∈ s'.credentials
  events : s.events <+: s'.events
  published : s.published <+: s'.published
  bound : ∀ id t x, s.transactions id = some t → t.renewalOfCredentialId = some x →
    ∃ t', s'.transactions id = some t' ∧ t'.renewalOfCredentialId = some x ∧
      t'.applicationId = t.applicationId

theorem Later.refl (s : ManagementStore) : Later s s :=
  ⟨List.prefix_rfl, fun _ hr _ => hr, List.prefix_rfl, List.prefix_rfl, fun _ t _ ht hx =>
    ⟨t, ht, hx, rfl⟩⟩

theorem Later.trans {s s' s'' : ManagementStore} (h : Later s s') (h' : Later s' s'') :
    Later s s'' where
  fixed := h.fixed.trans h'.fixed
  revoked := fun r hr hrevoked => h'.revoked r (h.revoked r hr hrevoked) hrevoked
  events := h.events.trans h'.events
  published := h.published.trans h'.published
  bound := fun id t x ht hx => by
    obtain ⟨t', ht', hx', happlication⟩ := h.bound id t x ht hx
    obtain ⟨t'', ht'', hx'', happlication'⟩ := h'.bound id t' x ht' hx'
    exact ⟨t'', ht'', hx'', happlication'.trans happlication⟩

section

variable {s s' : ManagementStore}

theorem exists_fixed {rows rows' : List CredentialRow}
    (h : ∀ f ∈ rows.map CredentialRow.fixed, f ∈ rows'.map CredentialRow.fixed)
    {r : CredentialRow} (hr : r ∈ rows) : ∃ r' ∈ rows', r'.fixed = r.fixed :=
  List.mem_map.mp (h _ (List.mem_map_of_mem hr))

theorem Later.row (h : Later s s') {r : CredentialRow} (hr : r ∈ s.credentials) :
    ∃ r' ∈ s'.credentials, r'.fixed = r.fixed :=
  exists_fixed (fun _ hf => h.fixed.subset hf) hr

theorem Published.later {id : String} {action : CredentialLifecycleAction}
    {reason : Option String} (h : Published s id action reason) (hlater : Later s s') :
    Published s' id action reason := by
  obtain ⟨p, hp, hspec⟩ := h
  exact ⟨p, hlater.published.subset hp, hspec⟩

/-! ## One row is written -/

/-- How a row is written: it was not revoked, and only the columns of its status change. -/
structure Written (old new : CredentialRow) : Prop where
  live : old.status ≠ .revoked
  fixed : new.fixed = old.fixed
  flagged : new.Flagged

/-- A row that is not revoked has no successor. -/
theorem Rows.unlinked (h : Rows s) {r : CredentialRow} (hr : r ∈ s.credentials)
    (hlive : r.status ≠ .revoked) : r.renewedToCredentialId = none := by
  cases hto : r.renewedToCredentialId with
  | none => rfl
  | some x => exact absurd (h.linked r hr x hto).revoked hlive

theorem Rows.map_id (h : s'.credentials.map CredentialRow.fixed =
    s.credentials.map CredentialRow.fixed) :
    s'.credentials.map (·.id) = s.credentials.map (·.id) := by
  have hids := congrArg (List.map fun f : CredentialRow => f.id) h
  rw [List.map_map, List.map_map] at hids
  exact hids

theorem Superseded.of_fixed {rows rows' : List CredentialRow} {r : CredentialRow} {x : String}
    (h : Superseded rows r x)
    (hfixed : ∀ f ∈ rows.map CredentialRow.fixed, f ∈ rows'.map CredentialRow.fixed) :
    Superseded rows' r x where
  revoked := h.revoked
  reason := h.reason
  successor := by
    obtain ⟨r', hr', hid, hne, horganization, hfrom⟩ := h.successor
    obtain ⟨r'', hr'', hsame⟩ := exists_fixed hfixed hr'
    exact ⟨r'', hr'', (fixed_id hsame).trans hid, by rwa [fixed_id hsame],
      (fixed_organizationId hsame).trans horganization,
      (fixed_renewedFrom hsame).trans hfrom⟩

/-- **One row is written.** -/
theorem Rows.write (h : Rows s) {old new : CredentialRow}
    (hrep : Table.Replaces s.credentials old new s'.credentials)
    (htransactions : s'.transactions = s.transactions) (hwritten : Written old new)
    (hlink : ∀ x, new.renewedToCredentialId = some x → Superseded s.credentials new x) :
    Rows s' := by
  have hfixed := hrep.map_key hwritten.fixed
  have hsub : ∀ f ∈ s.credentials.map CredentialRow.fixed,
      f ∈ s'.credentials.map CredentialRow.fixed := fun f hf => hfixed ▸ hf
  refine ⟨fun id t ht => h.keyed id t (htransactions ▸ ht), ?_, hrep.forall h.flagged
    hwritten.flagged, fun r hr => ?_, fun id t x ht hx => ?_, ?_, fun r hr x hx => ?_⟩
  · rw [Rows.map_id hfixed]
    exact h.ids
  · obtain ⟨r', hr', hsame⟩ := exists_fixed (fun f hf => hfixed ▸ hf) hr
    rw [htransactions, ← fixed_transactionId hsame, ← fixed_renewedFrom hsame]
    exact h.owned r' hr'
  · obtain ⟨r, hr, hid⟩ := h.sources id t x (htransactions ▸ ht) hx
    obtain ⟨r', hr', hsame⟩ := exists_fixed hsub hr
    exact ⟨r', hr', (fixed_id hsame).trans hid⟩
  · rw [hfixed]
    exact h.ordered
  · rcases hrep.mem_or_eq hr with hr | rfl
    · exact (h.linked r hr x hx).of_fixed hsub
    · exact (hlink x hx).of_fixed hsub

/-- **What is later when one row is written.** -/
theorem Later.write {old new : CredentialRow}
    (hrep : Table.Replaces s.credentials old new s'.credentials)
    (htransactions : s'.transactions = s.transactions) (hwritten : Written old new)
    (hevents : s.events <+: s'.events) (hpublished : s'.published = s.published) :
    Later s s' where
  fixed := by rw [hrep.map_key hwritten.fixed]
  revoked := fun r hr hrevoked => hrep.mem_of_ne hr fun heq => hwritten.live (heq ▸ hrevoked)
  events := hevents
  published := hpublished ▸ List.prefix_rfl
  bound := fun id t x ht hx => ⟨t, htransactions ▸ ht, hx, rfl⟩

/-! ## A transition -/

/-- What a transition stores is what its event says. -/
theorem columns_next {row : CredentialRow} {credential : ManagedCredential}
    {order : TransitionOrder} (now : DateTime) (hrow : row.Flagged)
    (hcredential : credential.Flagged) (hstatus : row.status = credential.status)
    (hvalid : validateTransition credential.status order.action = .ok ()) :
    row.columns.next (lifecycleEvent s (row.writtenBy (credential.updatedBy order now))
      (auditRecord credential order)) =
        some (row.writtenBy (credential.updatedBy order now)).columns ∧
      (row.writtenBy (credential.updatedBy order now)).Flagged := by
  have hlive : credential.status ≠ .revoked := by
    intro hrevoked
    rw [hrevoked] at hvalid
    cases haction : order.action <;> rw [haction] at hvalid <;> cases hvalid
  have hcolumns := hrow.columns_eq (hstatus ▸ hlive)
  have hcopy := hcredential.columns_eq hlive
  simp only [ManagedCredential.columns, StatusColumns.mk.injEq, true_and] at hcolumns hcopy
  obtain ⟨hr, hat, hreason⟩ := hcopy
  cases haction : order.action with
  | revoke =>
      rw [haction] at hvalid
      refine ⟨?_, ⟨?_, ?_, ?_⟩⟩ <;>
        simp [StatusColumns.next, ManagedCredential.columns, lifecycleEvent, auditRecord, haction,
          CredentialRow.writtenBy, ManagedCredential.updatedBy, hstatus, hvalid,
          CredentialLifecycleAction.targetStatus]
  | suspend =>
      rw [haction] at hvalid
      refine ⟨?_, ⟨?_, ?_, ?_⟩⟩ <;>
        simp [StatusColumns.next, ManagedCredential.columns, lifecycleEvent, auditRecord, haction,
          CredentialRow.writtenBy, ManagedCredential.updatedBy, hstatus, hvalid, hr, hat, hreason,
          hcolumns, CredentialLifecycleAction.targetStatus]
  | reinstate =>
      rw [haction] at hvalid
      refine ⟨?_, ⟨?_, ?_, ?_⟩⟩ <;>
        simp [StatusColumns.next, ManagedCredential.columns, lifecycleEvent, auditRecord, haction,
          CredentialRow.writtenBy, ManagedCredential.updatedBy, hstatus, hvalid, hr, hat, hreason,
          hcolumns, CredentialLifecycleAction.targetStatus]

/-- **The write of a transition** meets the one row that has kept its status. -/
theorem persist_eq_ok {containsPrivateKey : Json.Value → Bool} {credential : ManagedCredential}
    {expected : ManagedCredentialStatus} {audit : CredentialLifecycleAuditRecord}
    {row : CredentialRow} (hids : (s.credentials.map (·.id)).Nodup)
    (h : persist containsPrivateKey s credential expected audit = .ok (row, s')) :
    ∃ old ∈ s.credentials, old.id = credential.id ∧ old.status = expected ∧
      row = old.writtenBy credential ∧ Table.Replaces s.credentials old row s'.credentials ∧
      s'.transactions = s.transactions ∧ s'.published = s.published ∧
      s'.events = s.events ++ [lifecycleEvent s row audit] := by
  simp only [persist, bind_eq_ok, exists_unit, rejectIf_eq_ok, okOr_eq_ok] at h
  obtain ⟨-, old, hfound, ⟨⟩⟩ := h
  have hmem := List.mem_of_find?_eq_some hfound
  have hcondition := List.find?_some hfound
  simp only [decide_eq_true_eq] at hcondition
  obtain ⟨hid, hstatus, horganization⟩ := hcondition
  refine ⟨old, hmem, hid, hstatus, rfl, ?_, rfl, rfl, rfl⟩
  exact (Table.update_at hids hmem (by simp [hid, hstatus, horganization]) fun r hr => by
    simp only [decide_eq_true_eq] at hr
    rw [hr.1, hid]).2

theorem Audited.append (h : Audited s) (hrows : Rows s) {old new : CredentialRow}
    {event : LifecycleEvent} (hold : old ∈ s.credentials) (hlive : old.status ≠ .revoked)
    (hrep : Table.Replaces s.credentials old new s'.credentials) (hfixed : new.fixed = old.fixed)
    (hto : new.renewedToCredentialId = old.renewedToCredentialId)
    (hnext : old.columns.next event = some new.columns)
    (hevents : s'.events = s.events ++ [event]) (hpublished : s'.published = s.published)
    (hevent : event.credentialId = new.id ∧ event.transactionId = new.transactionId ∧
      event.organizationId = new.organizationId)
    (hannounced : Published s event.credentialId event.audit.action event.audit.reason) :
    Audited s' := by
  have hsame : ∀ id action reason, Published s id action reason →
      Published s' id action reason := fun id action reason hp => by
    obtain ⟨p, hp, hspec⟩ := hp
    exact ⟨p, hpublished ▸ hp, hspec⟩
  have hmap := hrep.map_key hfixed
  have hsub : ∀ f ∈ s.credentials.map CredentialRow.fixed,
      f ∈ s'.credentials.map CredentialRow.fixed := fun f hf => hmap ▸ hf
  refine ⟨fun r hr => ?_, fun e he => ?_, fun e he => ?_⟩
  · rcases hrep.eq_or_mem hrows.ids hr with rfl | ⟨hr, hne⟩
    · obtain ⟨issuedAt, columns, hreplay, hcolumns, -⟩ := h.trail old hold
      have hnone := hrows.unlinked hold hlive
      refine ⟨issuedAt, r.columns, ?_, fun _ => rfl, fun hlinked =>
        absurd (hto.trans hnone) hlinked⟩
      rw [hevents, ← hevent.1, eventsOf_append_self, hevent.1, fixed_id hfixed]
      exact StatusColumns.replay_append hreplay (hcolumns hnone ▸ hnext)
    · obtain ⟨issuedAt, columns, hreplay, hcolumns, hlinked⟩ := h.trail r hr
      refine ⟨issuedAt, columns, ?_, hcolumns, fun hne => ⟨(hlinked hne).1,
        hsame _ _ _ (hlinked hne).2⟩⟩
      rw [hevents, eventsOf_append_of_ne]
      · exact hreplay
      · rw [hevent.1, fixed_id hfixed]
        exact hne.symm
  · rw [hevents, List.mem_append, List.mem_singleton] at he
    rcases he with he | rfl
    · obtain ⟨r, hr, hid, htransaction, horganization⟩ := h.recorded e he
      obtain ⟨r', hr', hsame'⟩ := exists_fixed hsub hr
      exact ⟨r', hr', (fixed_id hsame').trans hid,
        (fixed_transactionId hsame').trans htransaction,
        (fixed_organizationId hsame').trans horganization⟩
    · exact ⟨new, hrep.new_mem, hevent.1.symm, hevent.2.1.symm, hevent.2.2.symm⟩
  · rw [hevents, List.mem_append, List.mem_singleton] at he
    rcases he with he | rfl
    · exact hsame _ _ _ (h.published e he)
    · exact hsame _ _ _ hannounced

/-! ## A renewal -/

/-- A text of which nothing is left is white space. -/
theorem isWhitespace_of_trim {text : String} (h : Text.trim text = "") :
    ∀ c ∈ text.toList, Text.isWhitespace c = true := by
  rw [Text.trim, ← String.toList_inj, String.toList_ofList, String.toList_empty,
    List.rdropWhile_eq_nil_iff] at h
  intro c hc
  rw [← List.takeWhile_append_dropWhile (p := Text.isWhitespace) (l := text.toList),
    List.mem_append] at hc
  rcases hc with hc | hc
  · exact List.mem_takeWhile_imp hc
  · exact h c hc

theorem trim_trim_ne {text : String} (h : Text.trim text ≠ "") :
    Text.trim (Text.trim text) ≠ "" := by
  intro hempty
  have hne : (text.toList.dropWhile Text.isWhitespace).rdropWhile Text.isWhitespace ≠ [] :=
    fun hnil => h (by rw [Text.trim, hnil, String.ofList_nil])
  have hall := isWhitespace_of_trim hempty
  rw [Text.trim, String.toList_ofList] at hall
  exact List.rdropWhile_last_not _ _ hne (hall _ (List.getLast_mem hne))

/-- What a renewal has made sure of before it publishes. -/
structure Ready (s : ManagementStore) (credential : IssuedCredential) (sourceId : String) :
    Prop where
  source : ∃ r ∈ s.credentials, r.id = sourceId ∧ r.organizationId = credential.organizationId
  successor : ∃ r ∈ s.credentials, r.id = credential.id ∧
    r.organizationId = credential.organizationId ∧ r.renewedFromCredentialId = some sourceId
  distinct : sourceId ≠ credential.id

theorem Ready.later {credential : IssuedCredential} {sourceId : String}
    (h : Ready s credential sourceId) (hlater : Later s s') : Ready s' credential sourceId where
  source := by
    obtain ⟨r, hr, hid, horganization⟩ := h.source
    obtain ⟨r', hr', hsame⟩ := hlater.row hr
    exact ⟨r', hr', (fixed_id hsame).trans hid,
      (fixed_organizationId hsame).trans horganization⟩
  successor := by
    obtain ⟨r, hr, hid, horganization, hfrom⟩ := h.successor
    obtain ⟨r', hr', hsame⟩ := hlater.row hr
    exact ⟨r', hr', (fixed_id hsame).trans hid,
      (fixed_organizationId hsame).trans horganization, (fixed_renewedFrom hsame).trans hfrom⟩
  distinct := h.distinct

theorem renewalSourceId_eq_some {value : Option String} {x : String} :
    Signing.renewalSourceId value = some x ↔ value = some x ∧ Text.trim x ≠ "" := by
  simp [Signing.renewalSourceId, Option.filter_eq_some_iff]

/-- **What is selected** was issued by a transaction that renews the source. -/
theorem Rows.selectRenewal (h : Rows s) {transaction : CredentialTransaction}
    {credential : IssuedCredential} {sourceId : String} {source : CredentialRow}
    (hsolid : Text.trim sourceId ≠ "") (hne : sourceId ≠ credential.id)
    (hok : selectRenewal s transaction credential sourceId = .ok (some source)) :
    Ready s credential source.id := by
  simp only [Management.selectRenewal, bind_eq_ok, exists_unit, rejectIf_eq_ok, okOr_eq_ok] at hok
  obtain ⟨found, hfound, horganization, hbound, -, hsome⟩ := hok
  have hmem := List.mem_of_find?_eq_some hfound
  have hid : found.id = sourceId := by simpa using List.find?_some hfound
  have hsource : found = source := by
    by_cases hcomplete : sameSuccessorComplete s transaction credential found = true
    · simp [hcomplete, pure, Except.pure] at hsome
    · simpa [hcomplete, pure, Except.pure] using hsome
  subst hsource
  simp only [successorBound, Bool.not_eq_false, Bool.and_eq_true, renews, Option.any_eq_true,
    successorTransaction] at hbound
  obtain ⟨⟨t, ht, hrenews⟩, -⟩ := hbound
  obtain ⟨successor, hsuccessor, ht⟩ := Option.bind_eq_some_iff.mp ht
  have hcondition := List.find?_some hsuccessor
  simp only [decide_eq_true_eq] at hcondition hrenews
  have hrow := List.mem_of_find?_eq_some hsuccessor
  obtain ⟨t', ht', howned⟩ := h.owned successor hrow
  have heq : t' = t := by
    have ht := (Option.filter_eq_some_iff.mp ht).1
    exact Option.some.inj (ht'.symm.trans ht)
  subst heq
  have hfrom : Signing.renewalSourceId successor.renewedFromCredentialId = some found.id := by
    rw [← howned, renewalSourceId_eq_some]
    exact ⟨hrenews, hid ▸ hsolid⟩
  refine ⟨⟨found, hmem, rfl, by simpa using horganization⟩, ⟨successor, hrow, hcondition.1,
    hcondition.2.1, (renewalSourceId_eq_some.mp hfrom).1⟩, hid ▸ hne⟩

/-- **The commit of a renewal** writes the source, for the successor already names it. -/
theorem Rows.linkRenewal (h : Rows s) {transaction : CredentialTransaction}
    {credential : IssuedCredential} {sourceId : String} {statusAt revokedAt : DateTime}
    (hready : Ready s credential sourceId)
    (hok : linkRenewal s transaction credential sourceId statusAt revokedAt = .ok s') :
    ∃ old ∈ s.credentials, old.id = sourceId ∧ old.status = .active ∧
      Table.Replaces s.credentials old (old.supersededBy credential.id statusAt revokedAt)
        s'.credentials ∧
      Superseded s.credentials (old.supersededBy credential.id statusAt revokedAt)
        credential.id ∧
      s'.transactions = s.transactions ∧ s'.published = s.published ∧ s'.events = s.events := by
  simp only [Management.linkRenewal, bind_eq_ok, exists_unit, rejectIf_eq_ok] at hok
  obtain ⟨hsome, -, ⟨⟩⟩ := hok
  push Not at hsome
  obtain ⟨old, hold, hcondition⟩ := hsome
  have hmeets : supersedable sourceId credential.organizationId old = true := by
    simpa using hcondition
  have hmeets' := hmeets
  simp only [supersedable, decide_eq_true_eq] at hmeets'
  obtain ⟨hid, horganization, hactive, -⟩ := hmeets'
  have hrep := (Table.update_at (f := (·.supersededBy credential.id statusAt revokedAt)) h.ids hold
    hmeets fun r hr => by
      simp only [supersedable, decide_eq_true_eq] at hr
      rw [hr.1, hid]).2
  refine ⟨old, hold, hid, hactive, ?_, ⟨rfl, rfl, ?_⟩, rfl, rfl, rfl⟩
  · -- the second update finds the link that the issuance has stored
    have hsame : ∀ r ∈ Table.update s.credentials
        (supersedable sourceId credential.organizationId)
        (·.supersededBy credential.id statusAt revokedAt),
        (if succeeding transaction credential sourceId r then
          { r with renewedFromCredentialId := some sourceId } else r) = r := fun r hr => by
      split
      case isTrue hsucceeds =>
        simp only [succeeding, decide_eq_true_eq] at hsucceeds
        obtain ⟨successor, hsuccessor, hsid, -, hfrom⟩ := hready.successor
        have hfixed : r.fixed = successor.fixed := by
          have hmap : List.map CredentialRow.fixed _ = s.credentials.map CredentialRow.fixed :=
            hrep.map_key rfl
          obtain ⟨r', hr', hr'fixed⟩ := List.mem_map.mp (hmap ▸ List.mem_map_of_mem hr)
          rw [← hr'fixed, List.inj_on_of_nodup_map h.ids hr' hsuccessor
            ((fixed_id hr'fixed).trans (hsucceeds.1.trans hsid.symm))]
        rw [← (fixed_renewedFrom hfixed).trans hfrom]
      case isFalse => rfl
    have hupdate := List.map_congr_left hsame
    rw [List.map_id'] at hupdate
    exact Eq.substr (p := Table.Replaces s.credentials old _) hupdate hrep
  · obtain ⟨r, hr, hrid, hrorganization, hfrom⟩ := hready.successor
    exact ⟨r, hr, hrid, fun heq => hready.distinct (hid.symm.trans (heq.symm.trans hrid)),
      hrorganization.trans horganization.symm, hid ▸ hfrom⟩

theorem Audited.supersede (h : Audited s) (hrows : Rows s) {old : CredentialRow}
    {successorId : String} {statusAt revokedAt : DateTime} (hold : old ∈ s.credentials)
    (hactive : old.status = .active)
    (hrep : Table.Replaces s.credentials old (old.supersededBy successorId statusAt revokedAt)
      s'.credentials) (hevents : s'.events = s.events) (hpublished : s'.published = s.published)
    (hannounced : Published s old.id .revoke (some supersededReason)) : Audited s' := by
  have hsame : ∀ id action reason, Published s id action reason →
      Published s' id action reason := fun id action reason hp => by
    obtain ⟨p, hp, hspec⟩ := hp
    exact ⟨p, hpublished ▸ hp, hspec⟩
  have hmap : s'.credentials.map CredentialRow.fixed = s.credentials.map CredentialRow.fixed :=
    hrep.map_key rfl
  have hsub : ∀ f ∈ s.credentials.map CredentialRow.fixed,
      f ∈ s'.credentials.map CredentialRow.fixed := fun f hf => hmap ▸ hf
  refine ⟨hrep.forall (fun r hr => ?_) ?_, fun e he => ?_, fun e he =>
    hsame _ _ _ (h.published e (hevents ▸ he))⟩
  · obtain ⟨issuedAt, columns, hreplay, hcolumns, hlinked⟩ := h.trail r hr
    exact ⟨issuedAt, columns, hevents ▸ hreplay, hcolumns, fun hne => ⟨(hlinked hne).1,
      hsame _ _ _ (hlinked hne).2⟩⟩
  · obtain ⟨issuedAt, columns, hreplay, hcolumns, -⟩ := h.trail old hold
    have hlive : old.status ≠ .revoked := by simp [hactive]
    have hstatus := hcolumns (hrows.unlinked hold hlive)
    refine ⟨issuedAt, columns, hevents ▸ hreplay, ?_, ?_⟩
    · intro hnone
      cases hnone
    · intro _
      exact ⟨hstatus ▸ hactive, hsame _ _ _ hannounced⟩
  · obtain ⟨r, hr, hid, htransaction, horganization⟩ := h.recorded e (hevents ▸ he)
    obtain ⟨r', hr', hsame'⟩ := exists_fixed hsub hr
    exact ⟨r', hr', (fixed_id hsame').trans hid, (fixed_transactionId hsame').trans htransaction,
      (fixed_organizationId hsame').trans horganization⟩

/-! ## The other statements -/

/-- The tables are in order, and the events explain them. -/
structure Tables (s : ManagementStore) : Prop extends Rows s, Audited s

@[simp] theorem setTransaction_self (id : String) (row : CredentialTransaction) :
    (s.setTransaction id row).transactions id = some row := by
  simp [ManagementStore.setTransaction]

@[simp] theorem setTransaction_of_ne {id other : String} (h : other ≠ id)
    (row : CredentialTransaction) :
    (s.setTransaction id row).transactions other = s.transactions other := by
  simp [ManagementStore.setTransaction, h]

/-- **The row of a transaction is written**: its source is the one it had, or one that is there
and that no credential of the transaction disagrees with. -/
theorem Tables.setTransaction (h : Tables s) {id : String} {row : CredentialTransaction}
    (hid : row.id = id)
    (howned : ∀ r ∈ s.credentials, r.transactionId = id →
      Signing.renewalSourceId row.renewalOfCredentialId =
        Signing.renewalSourceId r.renewedFromCredentialId)
    (hsource : ∀ x, Signing.renewalSourceId row.renewalOfCredentialId = some x →
      ∃ r ∈ s.credentials, r.id = x)
    (hbound : ∀ t x, s.transactions id = some t → t.renewalOfCredentialId = some x →
      row.renewalOfCredentialId = some x ∧ row.applicationId = t.applicationId) :
    Tables (s.setTransaction id row) ∧ Later s (s.setTransaction id row) := by
  refine ⟨⟨⟨fun other t ht => ?_, h.ids, h.flagged, fun r hr => ?_, fun other t x ht hx => ?_,
    h.ordered, h.linked⟩, ⟨h.trail, h.recorded, h.published⟩⟩, List.prefix_rfl, fun _ hr _ => hr, List.prefix_rfl,
    List.prefix_rfl, fun other t x ht hx => ?_⟩
  · by_cases heq : other = id
    · subst heq
      rw [setTransaction_self, Option.some.injEq] at ht
      rw [← ht, hid]
    · rw [setTransaction_of_ne heq] at ht
      exact h.keyed other t ht
  · by_cases heq : r.transactionId = id
    · exact ⟨row, by rw [heq, setTransaction_self], howned r hr heq⟩
    · rw [setTransaction_of_ne heq]
      exact h.owned r hr
  · by_cases heq : other = id
    · subst heq
      rw [setTransaction_self, Option.some.injEq] at ht
      exact hsource x (ht ▸ hx)
    · rw [setTransaction_of_ne heq] at ht
      exact h.sources other t x ht hx
  · by_cases heq : other = id
    · subst heq
      exact ⟨row, setTransaction_self .., hbound t x ht hx⟩
    · exact ⟨t, by rwa [setTransaction_of_ne heq], hx, rfl⟩

/-- A row that keeps its links is written. -/
theorem Tables.rewriteTransaction (h : Tables s) {id : String} {t : CredentialTransaction}
    (row : CredentialTransaction) (ht : s.transactions id = some t) (hid : row.id = t.id)
    (hrenewal : row.renewalOfCredentialId = t.renewalOfCredentialId)
    (happlication : row.applicationId = t.applicationId) :
    Tables (s.setTransaction id row) ∧ Later s (s.setTransaction id row) := by
  refine h.setTransaction (hid.trans (h.keyed id t ht)) (fun r hr heq => ?_) (fun x hx => ?_)
    fun t' x ht' hx => ?_
  · obtain ⟨t', ht', howned⟩ := h.owned r hr
    rw [heq, ht, Option.some.injEq] at ht'
    rw [hrenewal, ht']
    exact howned
  · exact h.sources id t x ht (hrenewal ▸ hx)
  · rw [ht, Option.some.injEq] at ht'
    rw [hrenewal, happlication, ht']
    exact ⟨hx, rfl⟩

/-- **A reservation is bound** to a source that is there, once. -/
theorem Tables.bindReservation (h : Tables s) {transaction : CredentialTransaction}
    {source : CredentialRow} {applicationId : Option String} {checks : ReservationChecks}
    (hsource : ∃ r ∈ s.credentials, r.id = source.id)
    (hok : bindReservation s transaction source applicationId checks = .ok s') :
    Tables s' ∧ Later s s' ∧ ∃ t, s'.transactions transaction.id = some t ∧
      t.renewalOfCredentialId = some source.id := by
  simp only [Management.bindReservation, bind_eq_ok, exists_unit, rejectIf_eq_ok, okOr_eq_ok]
    at hok
  obtain ⟨-, row, hrow, -, hbindable, -, ⟨⟩⟩ := hok
  have hid := h.keyed _ row hrow
  rw [not_not] at hbindable
  obtain ⟨-, hcase, -⟩ := hbindable
  have hresult : Tables (s.setTransaction transaction.id { row with
        renewalOfCredentialId := some source.id, applicationId := applicationId }) ∧
      Later s (s.setTransaction transaction.id { row with
        renewalOfCredentialId := some source.id, applicationId := applicationId }) := by
    refine h.setTransaction hid (fun r hr heq => ?_) (fun x hx => ?_) fun t x ht hx => ?_
    · rcases hcase with ⟨hsame, -⟩ | ⟨-, -, -, -, hnone, -⟩
      · obtain ⟨t, ht, howned⟩ := h.owned r hr
        rw [heq, hrow, Option.some.injEq] at ht
        rw [← howned, ← ht, hsame]
      · exact absurd (heq.trans hid.symm) (hnone r hr)
    · rw [renewalSourceId_eq_some, Option.some.injEq] at hx
      exact hx.1 ▸ hsource
    · rw [hrow, Option.some.injEq] at ht
      subst ht
      rcases hcase with ⟨hsame, happlication⟩ | ⟨hnone, -⟩
      · exact ⟨hsame.symm.trans hx, happlication.symm⟩
      · rw [hnone] at hx
        cases hx
  exact ⟨hresult.1, hresult.2, _, setTransaction_self .., rfl⟩

/-- **A credential is issued** as a row of its own. -/
theorem Tables.issue (h : Tables s) {credential : IssuedCredential} {t : CredentialTransaction}
    (ht : s.transactions credential.transactionId = some t) (hissuable : issuable s t credential) :
    Tables { s with credentials := s.credentials ++ [.issued credential] } ∧
      Later s { s with credentials := s.credentials ++ [.issued credential] } := by
  obtain ⟨-, -, -, -, hrenewal, hfresh⟩ := hissuable
  have hold : ∀ r ∈ s.credentials, r ∈ s.credentials ++ [.issued credential] := fun r hr =>
    List.mem_append_left _ hr
  have hfixed : ∀ f ∈ s.credentials.map CredentialRow.fixed,
      f ∈ (s.credentials ++ [CredentialRow.issued credential]).map CredentialRow.fixed := fun f hf => by
    rw [List.map_append]
    exact List.mem_append_left _ hf
  refine ⟨⟨⟨h.keyed, ?_, ?_, ?_, fun id t x ht hx => ?_, ?_, fun r hr x hx => ?_⟩,
    fun r hr => ?_, fun e he => ?_, h.published⟩, ?_, fun r hr _ => hold r hr, List.prefix_rfl,
    List.prefix_rfl, fun id t x ht hx => ⟨t, ht, hx, rfl⟩⟩
  · rw [List.map_append, List.map_singleton]
    refine h.ids.append (List.nodup_singleton _) fun x hx hsame => ?_
    obtain ⟨r, hr, rfl⟩ := List.mem_map.mp hx
    exact (hfresh r hr).1 (List.mem_singleton.mp hsame)
  · rw [List.forall_mem_append]
    refine ⟨h.flagged, fun r hr => ?_⟩
    rw [List.mem_singleton.mp hr]
    exact ⟨rfl, rfl, fun _ => rfl⟩
  · rw [List.forall_mem_append]
    refine ⟨h.owned, fun r hr => ?_⟩
    rw [List.mem_singleton.mp hr]
    exact ⟨t, ht, hrenewal⟩
  · obtain ⟨r, hr, hid⟩ := h.sources id t x ht hx
    exact ⟨r, hold r hr, hid⟩
  · rw [List.map_append, List.map_singleton]
    refine h.ordered.append fun x hx => ?_
    obtain ⟨r, hr, hid⟩ := h.sources _ t x ht (hrenewal.trans hx)
    exact ⟨r.fixed, List.mem_map_of_mem hr, hid⟩
  · rcases List.mem_append.mp hr with hr | hr
    · exact (h.linked r hr x hx).of_fixed hfixed
    · rw [List.mem_singleton.mp hr] at hx
      cases hx
  · rcases List.mem_append.mp hr with hr | hr
    · exact h.trail r hr
    · rw [List.mem_singleton.mp hr]
      have hnone : eventsOf s.events credential.id = [] := by
        rw [eventsOf, List.filter_eq_nil_iff]
        intro e he
        obtain ⟨r, hr, hid, -⟩ := h.recorded e he
        simpa [← hid] using (hfresh r hr).1
      refine ⟨credential.issuedAt, .issued credential.issuedAt, ?_, fun _ => rfl, fun hne =>
        absurd rfl hne⟩
      rw [show (CredentialRow.issued credential).id = credential.id from rfl, hnone]
      rfl
  · obtain ⟨r, hr, hspec⟩ := h.recorded e he
    exact ⟨r, hold r hr, hspec⟩
  · rw [List.map_append]
    exact List.prefix_append _ _

theorem Tables.other (h : Tables s) (statement : IssuingStatement) :
    Tables (statement.apply s) ∧ Later s (statement.apply s) := by
  cases statement with
  | insert row =>
      rw [IssuingStatement.apply]
      split
      case isTrue hnew =>
        refine h.setTransaction rfl (fun r hr heq => ?_) (fun x hx => ?_) fun t x ht => ?_
        · obtain ⟨t, ht, -⟩ := h.owned r hr
          rw [heq, hnew.1] at ht
          cases ht
        · rw [hnew.2] at hx
          cases hx
        · rw [hnew.1] at ht
          cases ht
      case isFalse => exact ⟨h, Later.refl s⟩
  | progress id status reservedCredentialId =>
      rw [IssuingStatement.apply]
      cases ht : s.transactions id with
      | none => exact ⟨h, Later.refl s⟩
      | some t => exact h.rewriteTransaction _ ht rfl rfl rfl
  | issue credential =>
      rw [IssuingStatement.apply]
      cases ht : s.transactions credential.transactionId with
      | none => exact ⟨h, Later.refl s⟩
      | some t =>
          simp only
          split
          case isTrue hissuable =>
            obtain ⟨htables, hlater⟩ := h.issue ht hissuable
            have hwritten := htables.rewriteTransaction { t with status := .issued } ht rfl rfl rfl
            exact ⟨hwritten.1, hlater.trans hwritten.2⟩
          case isFalse => exact ⟨h, Later.refl s⟩

/-! ## The steps -/

/-- A view shows the row when the credential is revoked, and an event otherwise. -/
structure Shown (s : ManagementStore) (view : CredentialStatusView) : Prop where
  stored : view.status = .revoked → ∃ r ∈ s.credentials, r.status = .revoked ∧
    statusView r.toManagedCredential r.revocationReason = view
  audited : view.status ≠ .revoked → ∃ e ∈ s.events, e.credentialId = view.id ∧
    e.status = view.status ∧ e.createdAt = view.statusUpdatedAt ∧ e.audit.reason = view.reason

/-- The copy is one that the action is valid for. -/
def Admitted (credential : ManagedCredential) (action : CredentialLifecycleAction) : Prop :=
  credential.Flagged ∧ validateTransition credential.status action = .ok ()

def StoredRevoked (s : ManagementStore) (credential : ManagedCredential) : Prop :=
  ∃ r ∈ s.credentials, r.status = .revoked ∧ r.toManagedCredential = credential

/-- What is known of the tables where a call stands. -/
def LifecycleCall.Sound (s : ManagementStore) : LifecycleCall → Prop
  | .publishing order credential => Admitted credential order.action
  | .persisting order credential =>
      Admitted credential order.action ∧ Published s credential.id order.action order.reason
  | .synchronizing order updated => Shown s (statusView updated order.reason)
  | .republishing credential | .resynchronizing credential => StoredRevoked s credential
  | .answered view => Shown s view
  | .selecting _ credential sourceId => Text.trim sourceId ≠ "" ∧ sourceId ≠ credential.id
  | .superseding _ credential source => Ready s credential source.id
  | .linking _ credential source =>
      Ready s credential source.id ∧ Published s source.id .revoke (some supersededReason)
  | .tracing source | .reserving source _ | .binding source _ _ =>
      ∃ r ∈ s.credentials, r.id = source.id
  | .offered sourceId transactionId => ∃ t, s.transactions transactionId = some t ∧
      t.renewalOfCredentialId = some sourceId
  | _ => True

theorem Shown.later {view : CredentialStatusView} (h : Shown s view) (hlater : Later s s') :
    Shown s' view where
  stored := fun hrevoked => by
    obtain ⟨r, hr, hstatus, hview⟩ := h.stored hrevoked
    exact ⟨r, hlater.revoked r hr hstatus, hstatus, hview⟩
  audited := fun hlive => by
    obtain ⟨e, he, hspec⟩ := h.audited hlive
    exact ⟨e, hlater.events.subset he, hspec⟩

theorem StoredRevoked.later {credential : ManagedCredential} (h : StoredRevoked s credential)
    (hlater : Later s s') : StoredRevoked s' credential := by
  obtain ⟨r, hr, hstatus, hsame⟩ := h
  exact ⟨r, hlater.revoked r hr hstatus, hstatus, hsame⟩

/-- What is shown of a credential that is stored as revoked. -/
theorem StoredRevoked.shown {credential : ManagedCredential} (h : StoredRevoked s credential) :
    Shown s (statusView credential credential.revocationReason) := by
  obtain ⟨r, hr, hstatus, rfl⟩ := h
  exact ⟨fun _ => ⟨r, hr, hstatus, rfl⟩, fun hlive => absurd hstatus hlive⟩

theorem LifecycleCall.Sound.later {call : LifecycleCall} (h : call.Sound s)
    (hlater : Later s s') : call.Sound s' := by
  have hthere : ∀ id, (∃ r ∈ s.credentials, r.id = id) → ∃ r ∈ s'.credentials, r.id = id :=
    fun id hid => by
      obtain ⟨r, hr, rfl⟩ := hid
      obtain ⟨r', hr', hsame⟩ := hlater.row hr
      exact ⟨r', hr', fixed_id hsame⟩
  cases call with
  | publishing => exact h
  | persisting => exact ⟨h.1, h.2.later hlater⟩
  | synchronizing => exact Shown.later h hlater
  | republishing => exact StoredRevoked.later h hlater
  | resynchronizing => exact StoredRevoked.later h hlater
  | answered => exact Shown.later h hlater
  | selecting => exact h
  | superseding => exact Ready.later h hlater
  | linking => exact ⟨h.1.later hlater, h.2.later hlater⟩
  | tracing => exact hthere _ h
  | reserving => exact hthere _ h
  | binding => exact hthere _ h
  | offered =>
      obtain ⟨t, ht, hx⟩ := h
      obtain ⟨t', ht', hx', -⟩ := hlater.bound _ t _ ht hx
      exact ⟨t', ht', hx'⟩
  | _ => trivial

theorem publication_eq_ok {credential : ManagedCredential} {action : CredentialLifecycleAction}
    {reason : Option String} {p : Publication} (h : publication credential action reason = .ok p) :
    p.credentialId = credential.id ∧ p.status = action.eventType ∧ p.reason = reason := by
  simp only [publication, bind_eq_ok, exists_unit] at h
  obtain ⟨_, -, _, -, _, -, -, ⟨⟩⟩ := h
  exact ⟨rfl, rfl, rfl⟩

/-- What one step establishes. -/
structure Stepped (s s' : ManagementStore) (call' : LifecycleCall) : Prop where
  tables : Tables s'
  later : Later s s'
  sound : call'.Sound s'

theorem Tables.stepped (h : Tables s) {call' : LifecycleCall} (hsound : call'.Sound s) :
    Stepped s s call' := ⟨h, Later.refl s, hsound⟩

theorem Tables.publish (h : Tables s) (p : Publication) :
    Tables { s with published := s.published ++ [p] } ∧
      Later s { s with published := s.published ++ [p] } := by
  have hlater : Later s { s with published := s.published ++ [p] } :=
    ⟨List.prefix_rfl, fun _ hr _ => hr, List.prefix_rfl, List.prefix_append _ _,
      fun _ t _ ht hx => ⟨t, ht, hx, rfl⟩⟩
  refine ⟨⟨⟨h.keyed, h.ids, h.flagged, h.owned, h.sources, h.ordered, h.linked⟩,
    fun r hr => ?_, h.recorded, fun e he => (h.published e he).later hlater⟩, hlater⟩
  obtain ⟨issuedAt, columns, hreplay, hcolumns, hlinked⟩ := h.trail r hr
  exact ⟨issuedAt, columns, hreplay, hcolumns, fun hne =>
    ⟨(hlinked hne).1, (hlinked hne).2.later hlater⟩⟩

/-- **A publication** goes on only when its request was taken. -/
theorem Tables.publish_spec (h : Tables s) {credential : ManagedCredential}
    {action : CredentialLifecycleAction} {reason : Option String} {reply : Reply}
    {next call' : LifecycleCall} {failure : String → CallError}
    (hok : Management.publish s credential action reason reply next failure = (s', call'))
    (hnext : ∀ s', Later s s' → Published s' credential.id action reason → next.Sound s') :
    Stepped s s' call' := by
  unfold Management.publish at hok
  split at hok
  case h_1 =>
    cases hok
    exact h.stepped trivial
  case h_2 p hp =>
    cases hok
    obtain ⟨htables, hlater⟩ := h.publish p
    exact ⟨htables, hlater, hnext _ hlater ⟨p, by simp, publication_eq_ok hp⟩⟩
  case h_3 p text hp =>
    cases hok
    obtain ⟨htables, hlater⟩ := h.publish p
    exact ⟨htables, hlater, trivial⟩
  case h_4 =>
    cases hok
    exact h.stepped trivial

/-- **A transition is written** to the row that has kept its status, and audited. -/
theorem Tables.persist (h : Tables s) {containsPrivateKey : Json.Value → Bool}
    {order : TransitionOrder} {credential : ManagedCredential} {row : CredentialRow}
    {now : DateTime} (hadmitted : Admitted credential order.action)
    (hpublished : Published s credential.id order.action order.reason)
    (hok : persist containsPrivateKey s (credential.updatedBy order now) credential.status
      (auditRecord credential order) = .ok (row, s')) :
    Tables s' ∧ Later s s' ∧ Shown s' (statusView row.toManagedCredential order.reason) := by
  obtain ⟨old, hold, hid, hstatus, rfl, hrep, htransactions, hsame, hevents⟩ :=
    persist_eq_ok h.ids hok
  obtain ⟨hnext, hflagged⟩ := columns_next (s := s) now (h.flagged old hold) hadmitted.1 hstatus
    hadmitted.2
  have hcopy : (credential.updatedBy order now).id = credential.id := by
    unfold ManagedCredential.updatedBy
    split <;> rfl
  have htarget : (credential.updatedBy order now).status = order.action.targetStatus := by
    unfold ManagedCredential.updatedBy
    split <;> rfl
  have hlive : old.status ≠ .revoked := by
    intro hrevoked
    have hvalid := hadmitted.2
    rw [← hstatus, hrevoked] at hvalid
    cases haction : order.action <;> rw [haction] at hvalid <;> cases hvalid
  have hwritten : Written old (old.writtenBy (credential.updatedBy order now)) :=
    ⟨hlive, rfl, hflagged⟩
  have hannounced : Published s old.id order.action order.reason := by
    rw [hid, hcopy]
    exact hpublished
  refine ⟨⟨h.toRows.write hrep htransactions hwritten fun x hx => ?_,
    h.toAudited.append h.toRows hold hlive hrep rfl rfl hnext hevents hsame ⟨rfl, rfl, rfl⟩
      hannounced⟩, Later.write hrep htransactions hwritten (hevents ▸ List.prefix_append _ _) hsame,
    fun hrevoked => ?_, fun _ => ?_⟩
  · have hnone := h.unlinked hold hlive
    cases hnone.symm.trans hx
  · refine ⟨_, hrep.new_mem, hrevoked, ?_⟩
    have haction : order.action = .revoke := by
      have hrevoked : order.action.targetStatus = .revoked := htarget.symm.trans hrevoked
      cases haction : order.action with
      | revoke => rfl
      | suspend => rw [haction] at hrevoked; cases hrevoked
      | reinstate => rw [haction] at hrevoked; cases hrevoked
    simp [statusView, CredentialRow.writtenBy, ManagedCredential.updatedBy, haction]
  · exact ⟨_, hevents ▸ List.mem_append_right _ (List.mem_singleton_self _), rfl, rfl, rfl, rfl⟩

/-- **A renewal is finalized** in the row of its source. -/
theorem Tables.linkRenewal (h : Tables s) {transaction : CredentialTransaction}
    {credential : IssuedCredential} {sourceId : String} {statusAt revokedAt : DateTime}
    (hready : Ready s credential sourceId)
    (hpublished : Published s sourceId .revoke (some supersededReason))
    (hok : linkRenewal s transaction credential sourceId statusAt revokedAt = .ok s') :
    Tables s' ∧ Later s s' := by
  obtain ⟨old, hold, rfl, hactive, hrep, hsuperseded, htransactions, hsame, hevents⟩ :=
    h.toRows.linkRenewal hready hok
  have hwritten : Written old (old.supersededBy credential.id statusAt revokedAt) :=
    ⟨by simp [hactive], rfl, ⟨rfl, rfl, fun hlive => absurd rfl hlive⟩⟩
  refine ⟨⟨h.toRows.write hrep htransactions hwritten fun x hx => ?_,
    h.toAudited.supersede h.toRows hold hactive hrep hevents hsame hpublished⟩,
    Later.write hrep htransactions hwritten (hevents ▸ List.prefix_rfl) hsame⟩
  cases hx
  exact hsuperseded

/-- A call that goes on after a failed write knows nothing. -/
theorem unpersisted_sound (order : TransitionOrder) (id text : String) :
    (unpersisted order id text).Sound s := by
  unfold unpersisted
  split <;> trivial

theorem synchronized_sound {call : LifecycleCall} (h : call.Sound s)
    (answer : Except CanvasLifecycleSyncError Unit) : (synchronized call answer).Sound s := by
  unfold synchronized
  split
  case h_1 => exact h
  case h_2 => trivial
  case h_3 => trivial

theorem manage_sound {result : Except CredentialManagementError LifecycleCall}
    (h : ∀ call, result = .ok call → call.Sound s) : (manage result).Sound s := by
  cases result with
  | error => trivial
  | ok call => exact h call rfl

theorem load_eq_ok {credentialId : String} {row : CredentialRow}
    (h : s.load credentialId = .ok row) : row ∈ s.credentials ∧ row.id = credentialId := by
  rw [ManagementStore.load, okOr_eq_ok] at h
  exact ⟨List.mem_of_find?_eq_some h, by simpa using List.find?_some h⟩

theorem Rows.applyTransition (h : Rows s) {row : CredentialRow} (hrow : row ∈ s.credentials)
    {order : TransitionOrder} {call : LifecycleCall}
    (hok : applyTransition row.toManagedCredential order = .ok call) : call.Sound s := by
  simp only [Management.applyTransition, checkTransition, bind_eq_ok, exists_unit] at hok
  obtain ⟨⟨-, -, -, hvalid⟩, ⟨⟩⟩ := hok
  exact ⟨h.flagged row hrow, hvalid⟩

theorem Rows.startLifecycle (h : Rows s) (request : LifecycleRequest) :
    (startLifecycle s request).Sound s := by
  cases request with
  | transition credentialId trusted action reason context =>
      refine manage_sound fun call hok => ?_
      rw [bind_eq_ok] at hok
      obtain ⟨row, hload, hok⟩ := hok
      exact h.applyTransition (load_eq_ok hload).1 hok
  | reconcile credentialId trusted reason =>
      refine manage_sound fun call hok => ?_
      simp only [bind_eq_ok, exists_unit] at hok
      obtain ⟨row, hload, -, hok⟩ := hok
      have hrow := (load_eq_ok hload).1
      by_cases hrevoked : row.status = .revoked
      · rw [if_neg (not_not.mpr hrevoked)] at hok
        cases hok
        exact ⟨row, hrow, hrevoked, rfl⟩
      · rw [if_pos hrevoked] at hok
        exact h.applyTransition hrow hok
  | recover credentialId trusted reason =>
      refine manage_sound fun call hok => ?_
      simp only [bind_eq_ok, exists_unit] at hok
      obtain ⟨row, hload, -, -, ⟨⟩⟩ := hok
      have hrow := (load_eq_ok hload).1
      split
      case isTrue => trivial
      case isFalse hrevoked => exact ⟨row, hrow, not_not.mp hrevoked, rfl⟩
  | finalizeRenewal transaction credential =>
      rw [Management.startLifecycle]
      split
      case h_1 => trivial
      case h_2 sourceId hsource =>
        split
        case h_1 => trivial
        case h_2 hok =>
          rw [checkSuccessor, rejectIf_eq_ok] at hok
          simp only [renewalSource, Option.filter_eq_some_iff, Option.map_eq_some_iff,
            decide_eq_true_eq] at hsource
          obtain ⟨⟨x, -, rfl⟩, hsolid⟩ := hsource
          exact ⟨trim_trim_ne hsolid, by tauto⟩
  | renew sourceId =>
      rw [Management.startLifecycle]
      cases hfound : s.credential? sourceId with
      | none => trivial
      | some source =>
          simp only
          split
          case isTrue => trivial
          case isFalse =>
            split
            case isTrue => trivial
            case isFalse => exact ⟨source, List.mem_of_find?_eq_some hfound, rfl⟩

theorem Rows.readingStep (h : Rows s) {call call' : LifecycleCall} {input : LifecycleInput}
    (hsound : call.Sound s) (hstep : readingStep s call input = some call') : call'.Sound s := by
  unfold Management.readingStep at hstep
  split at hstep
  case h_1 request =>
    cases hstep
    exact h.startLifecycle request
  case h_2 order credentialId text =>
    cases hstep
    refine manage_sound fun call hok => ?_
    simp only [reconcileAgain, bind_eq_ok, exists_unit, rejectIf_eq_ok] at hok
    obtain ⟨row, hload, -, hrevoked, ⟨⟩⟩ := hok
    exact ⟨row, (load_eq_ok hload).1, not_not.mp hrevoked, rfl⟩
  case h_3 order updated answer =>
    cases hstep
    refine synchronized_sound ?_ answer
    exact hsound
  case h_4 credential answer =>
    cases hstep
    refine synchronized_sound ?_ answer
    exact StoredRevoked.shown hsound
  case h_5 transaction credential sourceId =>
    split at hstep
    case h_1 => cases hstep; trivial
    case h_2 => cases hstep; trivial
    case h_3 source hok =>
      cases hstep
      exact h.selectRenewal hsound.1 hsound.2 hok
  case h_6 source =>
    split at hstep
    case h_1 => cases hstep; trivial
    case h_2 => cases hstep; exact hsound
  case h_7 source applicationId transactionId =>
    obtain ⟨t, -, rfl⟩ := Option.map_eq_some_iff.mp hstep
    exact hsound
  all_goals cases hstep
  all_goals trivial

theorem Tables.writingStep (h : Tables s) {containsPrivateKey : Json.Value → Bool}
    {call call' : LifecycleCall} {input : LifecycleInput} (hsound : call.Sound s)
    (hstep : writingStep containsPrivateKey s call input = some (s', call')) :
    Stepped s s' call' := by
  unfold Management.writingStep at hstep
  split at hstep
  case h_1 order credential reply =>
    exact h.publish_spec (Option.some.inj hstep) fun _ _ hp => ⟨hsound, hp⟩
  case h_2 credential reply =>
    exact h.publish_spec (Option.some.inj hstep) fun _ hlater _ =>
      StoredRevoked.later hsound hlater
  case h_3 transaction credential source reply =>
    exact h.publish_spec (Option.some.inj hstep) fun _ hlater hp =>
      ⟨Ready.later hsound hlater, hp⟩
  case h_4 =>
    cases hstep
    exact h.stepped (unpersisted_sound ..)
  case h_5 order credential reply now _ =>
    split at hstep
    case h_1 =>
      cases hstep
      exact h.stepped (unpersisted_sound ..)
    case h_2 row committed hok =>
      cases hstep
      obtain ⟨htables, hlater, hshown⟩ := h.persist hsound.1 hsound.2 hok
      refine ⟨htables, hlater, ?_⟩
      split
      case h_1 => exact unpersisted_sound ..
      case h_2 => exact hshown
  case h_6 transaction credential source reply statusAt revokedAt =>
    split at hstep
    case h_1 => cases hstep; exact h.stepped trivial
    case h_2 => cases hstep; exact h.stepped trivial
    case h_3 hok =>
      cases hstep
      obtain ⟨htables, hlater⟩ := h.linkRenewal hsound.1 hsound.2 hok
      exact ⟨htables, hlater, trivial⟩
    case h_4 hok =>
      cases hstep
      obtain ⟨htables, hlater⟩ := h.linkRenewal hsound.1 hsound.2 hok
      exact ⟨htables, hlater, trivial⟩
  case h_7 source applicationId transaction reply checks =>
    split at hstep
    case h_1 => cases hstep; exact h.stepped trivial
    case h_2 => cases hstep; exact h.stepped trivial
    case h_3 hok =>
      cases hstep
      obtain ⟨htables, hlater, -⟩ := h.bindReservation hsound hok
      exact ⟨htables, hlater, trivial⟩
    case h_4 hok =>
      cases hstep
      obtain ⟨htables, hlater, hbound⟩ := h.bindReservation hsound hok
      exact ⟨htables, hlater, hbound⟩
  case h_8 => cases hstep

theorem lifecycleStep_stepped (h : Tables s) {containsPrivateKey : Json.Value → Bool}
    {input : LifecycleInput} {call call' : LifecycleCall} (hsound : call.Sound s)
    (hstep : lifecycleStep containsPrivateKey input s call = some (s', call')) :
    Stepped s s' call' := by
  unfold lifecycleStep at hstep
  split at hstep
  case h_1 statement =>
    cases hstep
    obtain ⟨htables, hlater⟩ := h.other statement
    exact ⟨htables, hlater, hsound.later hlater⟩
  case h_2 =>
    rcases Option.or_eq_some_iff.mp hstep with hwriting | ⟨-, hreading⟩
    · exact h.writingStep hsound hwriting
    · obtain ⟨next, hnext, ⟨⟩⟩ := Option.map_eq_some_iff.mp hreading
      exact h.stepped (h.toRows.readingStep hsound hnext)

end

/-! ## Runs -/

section Runs

variable {containsPrivateKey : Json.Value → Bool} {ι : Type} [DecidableEq ι]
  {c c' : Config ManagementStore ι LifecycleCall}

structure Consistent (c : Config ManagementStore ι LifecycleCall) : Prop where
  tables : Tables c.store
  sound : ∀ i, (c.calls i).Sound c.store

theorem Consistent.step (h : Consistent c) {i : ι} {input : LifecycleInput}
    (hnext : (lifecycleMachine containsPrivateKey ι).next c i input = some c') :
    Consistent c' ∧ Later c.store c'.store := by
  obtain ⟨s, call, hstep, rfl⟩ := Machine.next_eq_some.mp hnext
  have hstepped : Stepped c.store s call := lifecycleStep_stepped h.tables (h.sound i) hstep
  refine ⟨⟨hstepped.tables, fun j => ?_⟩, hstepped.later⟩
  by_cases heq : j = i
  · subst heq
    simpa using hstepped.sound
  · simpa [heq] using (h.sound j).later hstepped.later

theorem Consistent.run (h : Consistent c) {t : List (ι × LifecycleInput)}
    (hrun : (lifecycleMachine containsPrivateKey ι).run c t = some c') :
    Consistent c' ∧ Later c.store c'.store :=
  Machine.run_induct_rel (R := fun c c' => Later c.store c'.store) (fun c => Later.refl c.store)
    (fun _ _ _ => Later.trans) (fun _ _ _ _ hP hnext => hP.step hnext) h hrun

/-- The credential `x` is the source that `y` was issued to renew. -/
def IsSource (s : ManagementStore) (x y : String) : Prop :=
  ∃ r ∈ s.credentials, r.id = y ∧ Signing.renewalSourceId r.renewedFromCredentialId = some x

/-- Sources lead back in the order of issuance. -/
theorem Rows.wellFounded {s : ManagementStore} (h : Rows s) : WellFounded (IsSource s) := by
  have hids : (s.credentials.map CredentialRow.fixed).map (·.id) = s.credentials.map (·.id) := by
    rw [List.map_map]
    rfl
  refine h.ordered.wellFounded (hids.symm ▸ h.ids) ?_
  rintro x _ ⟨r, hr, rfl, hfrom⟩
  exact ⟨r.fixed, List.mem_map_of_mem hr, rfl, fun _ hbefore => hbefore x hfrom⟩

/-- What holds of the credentials at the end of a run that began in `s`. -/
structure StatusKept (s : ManagementStore) (c : Config ManagementStore ι LifecycleCall) :
    Prop where
  /-- A revoked row stays as it is, a link of a transaction stays, and nothing is lost. -/
  kept : Later s c.store
  flagged : ∀ r ∈ c.store.credentials, r.Flagged
  /-- The events of a credential replay to the columns of its row; they lead to an active
  credential when a renewal has superseded it. -/
  trail : ∀ r ∈ c.store.credentials, Trail c.store r
  /-- Nothing is stored before it is published. -/
  published : ∀ e ∈ c.store.events, Published c.store e.credentialId e.audit.action e.audit.reason
  /-- A renewed credential is revoked, and its successor names it. -/
  linked : ∀ r ∈ c.store.credentials, ∀ x, r.renewedToCredentialId = some x →
    Superseded c.store.credentials r x
  /-- A credential succeeds one credential at most. -/
  one : ∀ r ∈ c.store.credentials, ∀ r' ∈ c.store.credentials, ∀ x,
    r.renewedToCredentialId = some x → r'.renewedToCredentialId = some x → r = r'
  /-- Renewals do not go round. -/
  sources : WellFounded (IsSource c.store)
  /-- A view that was answered shows what is stored, or an event of the audit. -/
  answered : ∀ i view, c.calls i = .answered view → Shown c.store view
  offered : ∀ i sourceId transactionId, c.calls i = .offered sourceId transactionId →
    ∃ t, c.store.transactions transactionId = some t ∧ t.renewalOfCredentialId = some sourceId

end Runs

namespace Example

def start : Config ManagementStore Nat LifecycleCall :=
  ⟨⟨fun _ => none, [], [], []⟩, fun _ => .idle⟩

theorem start_tables : Tables start.store where
  keyed := fun _ _ ht => by cases ht
  ids := List.nodup_nil
  flagged := fun _ hr => by cases hr
  owned := fun _ hr => by cases hr
  sources := fun _ _ _ ht => by cases ht
  ordered := Justified.nil
  linked := fun _ hr => by cases hr
  trail := fun _ hr => by cases hr
  recorded := fun _ he => by cases he
  published := fun _ he => by cases he

def transaction (id : String) (source : Option String) : CredentialTransaction where
  id := id
  organizationId := "o"
  credentialTemplateId := ""
  revocationProfileId := none
  renewalOfCredentialId := source
  applicantId := none
  applicationId := none
  subjectDid := none
  status := .pending
  claims := []
  credentialType := none
  deliveryMode := ""
  reservedCredentialId := none

def credential (id transactionId : String) (source : Option String) : IssuedCredential where
  id := id
  transactionId := transactionId
  organizationId := "o"
  credentialTemplateId := ""
  applicantId := none
  subjectDid := none
  issuerDid := ""
  revocationProfileId := some "p"
  renewedFromCredentialId := source
  statusListEntries := [.object [("status_list_id", .string "p"), ("index", .number "3")]]
  credential := "jwt"
  credentialHash := ""
  issuedAt := 0
  expiresAt := 9

/-- A suspension and a reinstatement, a renewal, and a revocation of the whole transaction that
finds the source superseded. -/
def renewal : List (Nat × LifecycleInput) :=
  [(0, .other (.insert (transaction "t" none))), (0, .other (.progress "t" .signing (some "c"))),
    (0, .other (.issue (credential "c" "t" none))), (0, .other (.insert (transaction "u" none))),
    (0, .start (.transition "c" none .suspend (some "lost") ⟨none, none, none⟩)),
    (0, .publish .done), (0, .persist .done 1), (0, .synchronize (.ok ())),
    (1, .start (.transition "c" none .reinstate none ⟨none, none, none⟩)),
    (1, .publish .done), (1, .persist .done 2), (1, .synchronize (.ok ())),
    (2, .start (.renew "c")), (2, .exec), (2, .reserve "u"), (2, .bind .done ⟨true, true, true⟩),
    (0, .other (.progress "u" .signing (some "d"))),
    (0, .other (.issue (credential "d" "u" (some "c")))),
    (3, .start (.reconcile "c" none (some "fraud"))), (3, .publish .done),
    (4, .start (.finalizeRenewal (transaction "u" (some "c")) (credential "d" "u" (some "c")))),
    (4, .exec), (4, .publish .done), (4, .link .done 3 3), (3, .persist .done 4), (3, .exec),
    (3, .publish .done), (3, .synchronize (.ok ()))]

def renewalRun :
    {c' // (lifecycleMachine (fun _ => false) Nat).run start renewal = some c' ∧
      c'.calls 0 = .answered ⟨"c", some "", .suspended, 1, some "lost"⟩ ∧
      c'.calls 2 = .offered "c" "u" ∧ c'.calls 4 = .renewed ∧
      c'.calls 3 = .answered ⟨"c", some "", .revoked, 3, some supersededReason⟩} :=
  (lifecycleMachine (fun _ => false) Nat).observed (by decide +kernel)

end Example

end Marty.Issuance.Management
