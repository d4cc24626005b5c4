import Marty.Lib.Delivery
import Marty.Lib.Interleaving
import Marty.SigningKeys.CscaLifecycle

/-!
# Revocation and succession are permanent

Clients load the lifecycle document, change their copy of it, and store the copy when the
document still has the revision that they have loaded.  A renewal does not ask whether its
certificate is revoked already; as long as none is applied to such a certificate, the
revocation and the successor of a certificate are what they were first.

## Main definitions

* `CscaOperation`, `CscaChange` — the operations, and the changes that they make.
* `cscaMachine` — any clients of one document.
* `CscaInv` — what holds of the document and the changes that have been stored.
-/

namespace Marty.SigningKeys

open Lib Lib.Checked CscaLifecycleDocument

/-! ## Operations -/

inductive CscaOperation
  | importCertificate (certificateId : String) (request : ImportCscaCertificateRequest)
  | revoke (certificateId reason : String)
  | renew (certificateId replacementId : String) (request : ImportCscaCertificateRequest)
      (reuseKey : Bool)
  | acknowledge (eventId : String)

inductive CscaResult
  | view (view : CscaCertificateView)
  | event (event : CscaOutboxEvent)

inductive CscaChange
  | issued (certificateId : String)
  | revoked (certificateId : String)
  | renewed (certificateId replacementId : String)
  | acknowledged (eventId : String)
  deriving DecidableEq

/-- A change that has been stored, with the revision that it led to. -/
structure CscaCommit where
  revision : Nat
  change : CscaChange
  deriving DecidableEq

/-- The event that announces a change. -/
def CscaCommit.eventId (commit : CscaCommit) : Option String :=
  match commit.change with
  | .issued id => some (outboxEventId commit.revision "certificate.issued" id)
  | .revoked id => some (outboxEventId commit.revision "certificate.revoked" id)
  | .renewed _ id => some (outboxEventId commit.revision "certificate.renewed" id)
  | .acknowledged _ => none

def Change.mapResult {α β : Type} (change : Change α) (f : α → β) : Change β :=
  (change.1, change.2.map f)

variable (packages : CertificatePackages)

namespace CscaOperation

def apply (document : CscaLifecycleDocument) (now : Utc) : CscaOperation → Change CscaResult
  | importCertificate id request =>
      Change.mapResult (document.importCertificate packages id request now) .view
  | revoke id reason => Change.mapResult (document.revoke packages id reason now) .view
  | renew id replacementId request reuseKey =>
      Change.mapResult (document.renew packages id replacementId request reuseKey now) .view
  | acknowledge id => Change.mapResult (document.acknowledgeOutbox packages id now) .event

/-- The change that an operation makes when it succeeds; one that finds its work done makes
none. -/
def change (document : CscaLifecycleDocument) : CscaOperation → Option CscaChange
  | importCertificate id _ => some (.issued id)
  | revoke id _ =>
      if (document.certificates.get id).any fun record => record.revokedAt.isSome then none
      else some (.revoked id)
  | renew id replacementId _ _ => some (.renewed id replacementId)
  | acknowledge id =>
      if (document.outbox.get id).any fun event => event.publishedAt.isSome then none
      else some (.acknowledged id)

/-- A renewal finds a certificate that is not revoked, and an event is acknowledged while
the revision can be raised. -/
def Permitted (document : CscaLifecycleDocument) : CscaOperation → Prop
  | renew id _ _ _ => ∀ record ∈ document.certificates.get id, record.revokedAt = none
  | acknowledge id => document.revision < maxSafeRedisRevision ∨
      ∀ event ∈ document.outbox.get id, event.publishedAt.isSome
  | _ => True

instance (document : CscaLifecycleDocument) (op : CscaOperation) :
    Decidable (op.Permitted document) := by
  cases op <;> unfold Permitted <;> infer_instance

end CscaOperation

/-! ## What an operation does -/

/-- The change is announced by one new event, and the revision is raised. -/
structure Announced (document document' : CscaLifecycleDocument) (topic key : String) :
    Prop where
  revision : document'.revision = document.revision + 1
  inRange : document.revision < maxSafeRedisRevision
  outbox : ∃ event : CscaOutboxEvent,
    event.eventId = outboxEventId (document.revision + 1) topic key ∧
    event.publishedAt = none ∧
    document'.outbox = document.pruneOutbox.outbox.insert event.eventId event

/-- The document before a change and the one after it. -/
def ChangeEffect (document document' : CscaLifecycleDocument) : CscaChange → Prop
  | .issued id =>
      document.certificates.get id = none ∧
      (∃ record : CscaCertificateRecord, record.revokedAt = none ∧ record.renewedFrom = none ∧
        record.renewedTo = none ∧
        document'.certificates = document.certificates.insert id record) ∧
      Announced document document' "certificate.issued" id
  | .revoked id =>
      (∃ record record' : CscaCertificateRecord, document.certificates.get id = some record ∧
        record.revokedAt = none ∧ record'.revokedAt.isSome ∧
        record'.renewedFrom = record.renewedFrom ∧ record'.renewedTo = record.renewedTo ∧
        document'.certificates = document.certificates.insert id record') ∧
      Announced document document' "certificate.revoked" id
  | .renewed id replacementId =>
      id ≠ replacementId ∧ document.certificates.get replacementId = none ∧
      (∃ prior replacement : CscaCertificateRecord, ∃ now,
        document.certificates.get id = some prior ∧
        replacement.revokedAt = none ∧ replacement.renewedFrom = some id ∧
        replacement.renewedTo = none ∧
        document'.certificates =
          (document.certificates.insert id (prior.supersede packages replacementId now)).insert
            replacementId replacement) ∧
      Announced document document' "certificate.renewed" replacementId
  | .acknowledged id =>
      (∃ event event' : CscaOutboxEvent, document.outbox.get id = some event ∧
        event.publishedAt = none ∧ event'.publishedAt.isSome ∧
        event'.eventId = event.eventId ∧ document'.outbox = document.outbox.insert id event') ∧
      document'.certificates = document.certificates ∧
      document'.revision = document.revision + 1 ∧ document.revision < maxSafeRedisRevision

/-- The certificates and the events that are not published are as before. -/
def Untouched (document document' : CscaLifecycleDocument) : Prop :=
  document'.certificates = document.certificates ∧
    ∀ id event, event.publishedAt = none →
      (document'.outbox.get id = some event ↔ document.outbox.get id = some event)

theorem get_pruneOutbox (document : CscaLifecycleDocument) {id : String}
    {event : CscaOutboxEvent} (h : document.pruneOutbox.outbox.get id = some event) :
    document.outbox.get id = some event := by
  unfold pruneOutbox at h
  split at h
  · rw [BTreeMap.get_retain] at h
    exact (Option.filter_eq_some_iff.mp h).1
  · exact h

theorem get_pruneOutbox_unpublished (document : CscaLifecycleDocument) {id : String}
    {event : CscaOutboxEvent} (hevent : event.publishedAt = none) :
    document.pruneOutbox.outbox.get id = some event ↔ document.outbox.get id = some event := by
  constructor
  · exact get_pruneOutbox document
  · intro h
    unfold pruneOutbox
    split
    · rw [BTreeMap.get_retain, Option.filter_eq_some_iff]
      exact ⟨h, by rw [hevent]; rfl⟩
    · exact h

theorem pruneOutbox_eq (document : CscaLifecycleDocument) :
    document.pruneOutbox.certificates = document.certificates ∧
      document.pruneOutbox.revision = document.revision := by
  unfold pruneOutbox
  split <;> exact ⟨rfl, rfl⟩

theorem Untouched.refl (document : CscaLifecycleDocument) : Untouched document document :=
  ⟨rfl, fun _ _ _ => Iff.rfl⟩

theorem pruneOutbox_untouched (document : CscaLifecycleDocument) :
    Untouched document document.pruneOutbox :=
  ⟨(pruneOutbox_eq document).1, fun _ _ h => get_pruneOutbox_unpublished document h⟩

/-- **All that the preparation of an event does**: it makes room, or it fails. -/
theorem prepareOutbox_cases (document : CscaLifecycleDocument) (topic key : String) :
    (∃ document' error, Untouched document document' ∧
      document.prepareOutbox topic key = (document', .error error)) ∨
    (document.revision < maxSafeRedisRevision ∧
      document.pruneOutbox.outbox.get (outboxEventId (document.revision + 1) topic key) = none ∧
      document.prepareOutbox topic key = (document.pruneOutbox, .ok ())) := by
  unfold prepareOutbox
  dsimp only
  split
  · exact .inl ⟨document, _, Untouched.refl document, rfl⟩
  · next hrevision =>
      split
      · exact .inl ⟨_, _, pruneOutbox_untouched document, rfl⟩
      · split
        · exact .inl ⟨_, _, pruneOutbox_untouched document, rfl⟩
        · next hfree =>
            refine .inr ⟨not_le.mp hrevision, ?_, rfl⟩
            rw [BTreeMap.containsKey, Bool.not_eq_true, Option.isSome_eq_false_iff,
              Option.isNone_iff_eq_none] at hfree
            exact hfree

/-- An event that fits is put into the outbox. -/
theorem announce_eq {α : Type} {document : CscaLifecycleDocument} {topic key : String}
    (payload : Json.Value) (now : Utc) (result : α)
    (hrevision : document.revision < maxSafeRedisRevision)
    (hfree : document.outbox.get (outboxEventId (document.revision + 1) topic key) = none) :
    ∃ document' : CscaLifecycleDocument,
      document.announce packages topic key payload now result = (document', .ok result) ∧
      document'.certificates = document.certificates ∧
      document'.revision = document.revision + 1 ∧
      ∃ event : CscaOutboxEvent,
        event.eventId = outboxEventId (document.revision + 1) topic key ∧
        event.publishedAt = none ∧
        document'.outbox = document.outbox.insert event.eventId event := by
  have hqueue : document.outbox.containsKey (outboxEventId (document.revision + 1) topic key)
      = false := by
    rw [BTreeMap.containsKey, hfree]
    rfl
  let event : CscaOutboxEvent :=
    ⟨outboxEventId (document.revision + 1) topic key, topic, key, payload,
      timestamp packages now, none⟩
  let queued := { document with outbox := document.outbox.insert event.eventId event }
  have henqueue : document.enqueue packages topic key payload now = (queued, .ok ()) := by
    unfold enqueue
    rw [if_neg (by rw [hqueue]; exact Bool.false_ne_true)]
  have htouch : queued.touch packages now =
      ({ queued with
        revision := document.revision + 1
        updatedAt := timestamp packages now }, .ok ()) := by
    unfold touch
    rw [if_neg (not_le.mpr hrevision)]
  refine ⟨{ queued with
    revision := document.revision + 1
    updatedAt := timestamp packages now }, ?_, rfl, rfl, event, rfl, rfl, rfl⟩
  · unfold announce
    rw [henqueue, Change.andThen, htouch, Change.andThen]

/-- A change that is announced on the document that has made room for the event. -/
theorem announce_pruned {α : Type} {document : CscaLifecycleDocument}
    (changed : CscaLifecycleDocument) {topic key : String} (payload : Json.Value) (now : Utc)
    (result : α)
    (hrevision : document.revision < maxSafeRedisRevision)
    (hfree : document.pruneOutbox.outbox.get
      (outboxEventId (document.revision + 1) topic key) = none)
    (houtbox : changed.outbox = document.pruneOutbox.outbox)
    (hchanged : changed.revision = document.revision) :
    ∃ document', changed.announce packages topic key payload now result
        = (document', .ok result) ∧
      document'.certificates = changed.certificates ∧
      Announced document document' topic key := by
  rw [← houtbox, ← hchanged] at hfree
  rw [← hchanged] at hrevision
  obtain ⟨document', heq, hcertificates, hraised, event, hid, hunpublished, hinsert⟩ :=
    announce_eq packages payload now result hrevision hfree
  rw [hchanged] at hraised hid hrevision
  rw [houtbox] at hinsert
  exact ⟨document', heq, hcertificates, hraised, hrevision, event, hid, hunpublished, hinsert⟩

theorem buildRecord_eq_ok {id : String} {request : ImportCscaCertificateRequest} {now : Utc}
    {renewedFrom : Option String} {record : CscaCertificateRecord}
    (h : buildRecord packages id request now renewedFrom = .ok record) :
    record.revokedAt = none ∧ record.renewedFrom = renewedFrom ∧ record.renewedTo = none := by
  simp only [buildRecord, bind_eq_ok, exists_unit, pure, Except.pure, Except.ok.injEq] at h
  obtain ⟨-, -, -, -, _, -, _, -, -, -, _, -, -, _, -, _, -, -, rfl⟩ := h
  exact ⟨rfl, rfl, rfl⟩

theorem prepareImport_eq_ok {document : CscaLifecycleDocument} {id : String}
    {request : ImportCscaCertificateRequest} {now : Utc} {record : CscaCertificateRecord}
    {view : CscaCertificateView}
    (h : document.prepareImport packages id request now = .ok (record, view)) :
    document.certificates.get id = none ∧ record.revokedAt = none ∧
      record.renewedFrom = none ∧ record.renewedTo = none := by
  simp only [prepareImport, bind_eq_ok, exists_unit, rejectIf_eq_ok, pure, Except.pure,
    Except.ok.injEq, Prod.mk.injEq] at h
  obtain ⟨-, hfree, record', hbuild, _, -, rfl, -⟩ := h
  rw [BTreeMap.containsKey, Option.not_isSome_iff_eq_none] at hfree
  exact ⟨hfree, buildRecord_eq_ok packages hbuild⟩

theorem prepareRenewal_eq_ok {document : CscaLifecycleDocument} {id replacementId : String}
    {request : ImportCscaCertificateRequest} {reuseKey : Bool} {now : Utc}
    {prior replacement : CscaCertificateRecord} {view : CscaCertificateView}
    (h : document.prepareRenewal packages id replacementId request reuseKey now
      = .ok (prior, replacement, view)) :
    id ≠ replacementId ∧ document.certificates.get replacementId = none ∧
      document.certificates.get id = some prior ∧ replacement.revokedAt = none ∧
      replacement.renewedFrom = some id ∧ replacement.renewedTo = none := by
  simp only [prepareRenewal, bind_eq_ok, exists_unit, rejectIf_eq_ok, pure, Except.pure,
    Except.ok.injEq, Prod.mk.injEq, CscaLifecycleDocument.record, okOr_eq_ok] at h
  obtain ⟨-, hfree, prior', hprior, _, -, replacement', hbuild, _, -, -, _, -, -, -, -, -, rfl,
    rfl, -⟩ := h
  rw [not_or, BTreeMap.containsKey, Option.not_isSome_iff_eq_none] at hfree
  exact ⟨hfree.1, hfree.2, hprior, buildRecord_eq_ok packages hbuild⟩

/-- What can become of an operation: it fails; it finds its work done; or it makes its change.
Only an acknowledgement at the highest revision fails with part of its work done. -/
inductive Outcome (document : CscaLifecycleDocument) (op : CscaOperation) (now : Utc) : Prop
  | failed {document' : CscaLifecycleDocument} {error : CscaLifecycleError}
      (heq : op.apply packages document now = (document', .error error))
      (untouched : op.Permitted document → Untouched document document')
  | found {result : CscaResult} (heq : op.apply packages document now = (document, .ok result))
      (nothing : op.change document = none)
  | changed {document' : CscaLifecycleDocument} {result : CscaResult} {change : CscaChange}
      (heq : op.apply packages document now = (document', .ok result))
      (made : op.change document = some change)
      (effect : ChangeEffect packages document document' change)

theorem importCertificate_outcome (document : CscaLifecycleDocument) (now : Utc) (id : String)
    (request : ImportCscaCertificateRequest) :
    Outcome packages document (.importCertificate id request) now := by
  cases hprepare : document.prepareImport packages id request now with
  | error error =>
      refine .failed (?_ : _ = (document, Except.error error)) fun _ => Untouched.refl document
      simp only [CscaOperation.apply, importCertificate, hprepare, Change.mapResult]
      rfl
  | ok prepared =>
      obtain ⟨record, view⟩ := prepared
      obtain ⟨hfree, hrevoked, hfrom, hto⟩ := prepareImport_eq_ok packages hprepare
      rcases prepareOutbox_cases document "certificate.issued" id with
        ⟨document', error, huntouched, heq⟩ | ⟨hrevision, hslot, heq⟩
      · refine .failed (?_ : _ = (document', Except.error error)) fun _ => huntouched
        simp only [CscaOperation.apply, importCertificate, hprepare, heq, Change.andThen,
          Change.mapResult]
        rfl
      · obtain ⟨document', hannounce, hcertificates, hannounced⟩ :=
          announce_pruned packages (document.pruneOutbox.setRecord id record)
            (document.pruneOutbox.issuedPayload id view) now view hrevision hslot rfl (pruneOutbox_eq document).2
        refine .changed (?_ : _ = (document', Except.ok (CscaResult.view view))) rfl ?_
        · simp only [CscaOperation.apply, importCertificate, hprepare, heq, Change.andThen,
            Change.mapResult, hannounce]
          rfl
        · refine ⟨hfree, ⟨record, hrevoked, hfrom, hto, ?_⟩, hannounced⟩
          rw [hcertificates, setRecord, (pruneOutbox_eq document).1]

theorem viewAt_revoked {record : CscaCertificateRecord} {now : Utc}
    (h : record.revokedAt.isSome) :
    record.viewAt packages now = .ok ⟨record, .revoked⟩ := by
  rw [CscaCertificateRecord.viewAt, CscaCertificateRecord.statusAt, if_pos h]
  rfl

theorem revoke_outcome (document : CscaLifecycleDocument) (now : Utc) (id reason : String) :
    Outcome packages document (.revoke id reason) now := by
  cases hget : document.certificates.get id with
  | none =>
      refine .failed (?_ : _ = (document, Except.error (CscaLifecycleError.notFound id)))
        fun _ => Untouched.refl document
      simp only [CscaOperation.apply, revoke, CscaLifecycleDocument.record, hget, okOr,
        Change.mapResult]
      rfl
  | some record =>
      by_cases hrevoked : record.revokedAt.isSome
      · refine .found (?_ : _ = (document, Except.ok (CscaResult.view ⟨record, .revoked⟩))) ?_
        · simp only [CscaOperation.apply, revoke, CscaLifecycleDocument.record, hget, okOr,
            hrevoked, if_true, viewAt_revoked packages hrevoked, Change.mapResult]
          rfl
        · simp only [CscaOperation.change, hget, Option.any_some, hrevoked, if_true]
      · rcases prepareOutbox_cases document "certificate.revoked" id with
          ⟨document', error, huntouched, heq⟩ | ⟨hrevision, hslot, heq⟩
        · refine .failed (?_ : _ = (document', Except.error error)) fun _ => huntouched
          simp only [CscaOperation.apply, revoke, CscaLifecycleDocument.record, hget, okOr,
            hrevoked, if_false, Bool.false_eq_true, heq, Change.andThen, Change.mapResult]
          rfl
        · let revoked := record.revoke packages reason now
          have hview : revoked.viewAt packages now = .ok ⟨revoked, .revoked⟩ :=
            viewAt_revoked packages rfl
          obtain ⟨document', hannounce, hcertificates, hannounced⟩ :=
            announce_pruned packages (document.pruneOutbox.setRecord id revoked)
              ((document.pruneOutbox.setRecord id revoked).revokedPayload id
                ⟨revoked, .revoked⟩) now (⟨revoked, .revoked⟩ : CscaCertificateView) hrevision hslot rfl
              (pruneOutbox_eq document).2
          refine .changed (?_ : _ = (document', Except.ok (CscaResult.view ⟨revoked, .revoked⟩)))
            (?_ : _ = some (CscaChange.revoked id)) ?_
          · simp only [CscaOperation.apply, revoke, CscaLifecycleDocument.record, hget, okOr,
              hrevoked, if_false, Bool.false_eq_true, heq, Change.andThen, Change.mapResult]
            rw [hview]
            dsimp only
            rw [hannounce]
            rfl
          · simp only [CscaOperation.change, hget, Option.any_some, hrevoked, if_false,
              Bool.false_eq_true]
          · rw [Bool.not_eq_true, Option.isSome_eq_false_iff, Option.isNone_iff_eq_none]
              at hrevoked
            refine ⟨⟨record, revoked, hget, hrevoked, rfl, rfl, rfl, ?_⟩, hannounced⟩
            rw [hcertificates, setRecord, (pruneOutbox_eq document).1]

theorem renew_outcome (document : CscaLifecycleDocument) (now : Utc)
    (id replacementId : String) (request : ImportCscaCertificateRequest) (reuseKey : Bool) :
    Outcome packages document (.renew id replacementId request reuseKey) now := by
  cases hprepare : document.prepareRenewal packages id replacementId request reuseKey now with
  | error error =>
      refine .failed (?_ : _ = (document, Except.error error)) fun _ => Untouched.refl document
      simp only [CscaOperation.apply, renew, hprepare, Change.mapResult]
      rfl
  | ok prepared =>
      obtain ⟨prior, replacement, view⟩ := prepared
      obtain ⟨hne, hfree, hprior, hrevoked, hfrom, hto⟩ := prepareRenewal_eq_ok packages hprepare
      rcases prepareOutbox_cases document "certificate.renewed" replacementId with
        ⟨document', error, huntouched, heq⟩ | ⟨hrevision, hslot, heq⟩
      · refine .failed (?_ : _ = (document', Except.error error)) fun _ => huntouched
        simp only [CscaOperation.apply, renew, hprepare, heq, Change.andThen, Change.mapResult]
        rfl
      · obtain ⟨document', hannounce, hcertificates, hannounced⟩ :=
          announce_pruned packages
            ((document.pruneOutbox.setRecord id
              (prior.supersede packages replacementId now)).setRecord replacementId replacement)
            (document.pruneOutbox.renewedPayload id replacementId view reuseKey)
            now view hrevision hslot rfl (pruneOutbox_eq document).2
        refine .changed (?_ : _ = (document', Except.ok (CscaResult.view view))) rfl ?_
        · simp only [CscaOperation.apply, renew, hprepare, heq, Change.andThen,
            Change.mapResult, hannounce]
          rfl
        · refine ⟨hne, hfree, ⟨prior, replacement, now, hprior, hrevoked, hfrom, hto, ?_⟩,
            hannounced⟩
          rw [hcertificates, setRecord, setRecord, (pruneOutbox_eq document).1]

theorem acknowledge_outcome (document : CscaLifecycleDocument) (now : Utc) (id : String) :
    Outcome packages document (.acknowledge id) now := by
  cases hget : document.outbox.get id with
  | none =>
      refine .failed (?_ : _ = (document, Except.error (CscaLifecycleError.outboxEventNotFound id)))
        fun _ => Untouched.refl document
      simp only [CscaOperation.apply, acknowledgeOutbox, hget, Change.mapResult]
      rfl
  | some event =>
      by_cases hpublished : event.publishedAt.isSome
      · refine .found (?_ : _ = (document, Except.ok (CscaResult.event event))) ?_
        · simp only [CscaOperation.apply, acknowledgeOutbox, hget, hpublished, if_true,
            Change.mapResult]
          rfl
        · simp only [CscaOperation.change, hget, Option.any_some, hpublished, if_true]
      · let published := { event with publishedAt := some (timestamp packages now) }
        let acknowledged := { document with outbox := document.outbox.insert id published }
        by_cases hrevision : document.revision < maxSafeRedisRevision
        · have htouch : acknowledged.touch packages now =
              ({ acknowledged with
                revision := document.revision + 1
                updatedAt := timestamp packages now }, .ok ()) := by
            unfold touch
            rw [if_neg (not_le.mpr hrevision)]
          refine .changed
            (?_ : _ = ({ acknowledged with
              revision := document.revision + 1
              updatedAt := timestamp packages now }, Except.ok (CscaResult.event published)))
            (?_ : _ = some (CscaChange.acknowledged id)) ?_
          · simp only [CscaOperation.apply, acknowledgeOutbox, hget, hpublished, if_false,
              Bool.false_eq_true, Change.mapResult]
            rw [htouch]
            rfl
          · simp only [CscaOperation.change, hget, Option.any_some, hpublished, if_false,
              Bool.false_eq_true]
          · rw [Bool.not_eq_true, Option.isSome_eq_false_iff, Option.isNone_iff_eq_none]
              at hpublished
            exact ⟨⟨event, published, hget, hpublished, rfl, rfl, rfl⟩, rfl, rfl, hrevision⟩
        · have htouch : acknowledged.touch packages now =
              (acknowledged, Except.error
              (CscaLifecycleError.corrupt "revision counter overflowed")) := by
            unfold touch
            rw [if_pos (not_lt.mp hrevision)]
          refine .failed
            (?_ : _ = (acknowledged, Except.error
              (CscaLifecycleError.corrupt "revision counter overflowed"))) ?_
          · simp only [CscaOperation.apply, acknowledgeOutbox, hget, hpublished, if_false,
              Bool.false_eq_true, Change.mapResult]
            rw [htouch]
            rfl
          · rintro (hlt | hall)
            · exact absurd hlt hrevision
            · exact absurd (hall event hget) hpublished

/-- **All that an operation does.** -/
theorem apply_outcome (document : CscaLifecycleDocument) (op : CscaOperation) (now : Utc) :
    Outcome packages document op now := by
  cases op with
  | importCertificate id request => exact importCertificate_outcome packages document now id request
  | revoke id reason => exact revoke_outcome packages document now id reason
  | renew id replacementId request reuseKey =>
      exact renew_outcome packages document now id replacementId request reuseKey
  | acknowledge id => exact acknowledge_outcome packages document now id

/-! ## Clients of one document -/

/-- The document of an organization, with the guards of a save and the changes that have been
stored. -/
structure CscaStore where
  stored : Option CscaLifecycleDocument
  leaseOwner : Option String
  profileRevision : Nat
  commits : List CscaCommit

inductive CscaCall
  | idle
  | loaded (document : CscaLifecycleDocument)
  | saving (document : CscaLifecycleDocument) (change : CscaChange)
  | done (result : Lifecycle Unit)

inductive CscaEvent
  | load (now : Utc)
  | apply (op : CscaOperation) (now : Utc)
  /-- Save, with the owner and the profile revision that the save depends on, if any. -/
  | save (fence : Option (String × Nat)) (delivery : Delivery)
  | restart
  | lease (owner : Option String)
  | profiles (revision : Nat)

def CscaStore.revision (store : CscaStore) : Nat :=
  (store.stored.map (·.revision)).getD 0

/-- The checks of a load. -/
def loadDocument (organizationId : String) (store : CscaStore) (now : Utc) :
    Lifecycle CscaLifecycleDocument := do
  validateIdentifier "organization_id" organizationId
  let document := store.stored.getD (CscaLifecycleDocument.empty packages organizationId now)
  rejectIf (document.organizationId ≠ organizationId)
    (.corrupt "organization identifier does not match its storage key")
  validateStoredDocument packages document
  return document

/-- The checks of a save. -/
def admitSave (document : CscaLifecycleDocument) : Lifecycle Unit := do
  validateIdentifier "organization_id" document.organizationId
  validateStoredDocument packages document
  rejectIf (document.revision = 0 ∨ maxSafeRedisRevision < document.revision)
    (.invalid "an unchanged lifecycle document cannot be saved")

/-- The script stores the document when the guards hold and no other save came first. -/
def Saves (store : CscaStore) (document : CscaLifecycleDocument)
    (fence : Option (String × Nat)) : Prop :=
  (∀ f ∈ fence, store.leaseOwner = some f.1 ∧ store.profileRevision = f.2) ∧
    store.revision = document.revision - 1

instance (store : CscaStore) (document : CscaLifecycleDocument)
    (fence : Option (String × Nat)) : Decidable (Saves store document fence) := by
  unfold Saves
  infer_instance

def CscaStore.put (store : CscaStore) (document : CscaLifecycleDocument)
    (change : CscaChange) : CscaStore :=
  { store with
    stored := some document
    commits := store.commits ++ [⟨document.revision, change⟩] }

/-- The answer to a save: what the store holds then, and what the client is told. -/
def saveGuarded (store : CscaStore) (document : CscaLifecycleDocument) (change : CscaChange)
    (fence : Option (String × Nat)) (delivery : Delivery) : CscaStore × Lifecycle Unit :=
  match admitSave packages document with
  | .error error => (store, .error error)
  | .ok () =>
      match delivery with
      | .refused => (store, .error (.storage "refused"))
      | .lost =>
          (if Saves store document fence then store.put document change else store,
            .error (.storage "reply lost"))
      | .answered =>
          if Saves store document fence then (store.put document change, .ok ())
          else (store, .error .concurrentModification)

/-- The copy after an operation: it is saved when the operation has raised its revision. -/
def applied (document : CscaLifecycleDocument) (op : CscaOperation) (now : Utc) : CscaCall :=
  match op.apply packages document now with
  | (_, .error error) => .done (.error error)
  | (document', .ok _) =>
      match op.change document with
      | some change =>
          if document'.revision = document.revision then .done (.ok ())
          else .saving document' change
      | none => .done (.ok ())

def cscaStep (organizationId : String) (store : CscaStore) (call : CscaCall) :
    CscaEvent → Option (CscaStore × CscaCall)
  | .load now =>
      some (store, match loadDocument packages organizationId store now with
        | .error error => .done (.error error)
        | .ok document => .loaded document)
  | .apply op now =>
      match call with
      | .loaded document => some (store, applied packages document op now)
      | _ => none
  | .save fence delivery =>
      match call with
      | .saving document change =>
          let answer := saveGuarded packages store document change fence delivery
          some (answer.1, .done answer.2)
      | _ => none
  | .restart => some (store, .idle)
  | .lease owner => some ({ store with leaseOwner := owner }, call)
  | .profiles revision => some ({ store with profileRevision := revision }, call)

def cscaMachine (ι : Type) (organizationId : String) : Machine CscaStore ι CscaEvent CscaCall where
  step _ e store call := cscaStep packages organizationId store call e

/-- Nothing is stored yet, and no client has begun. -/
def cscaStart {ι : Type} (leaseOwner : Option String) (profileRevision : Nat) :
    Config CscaStore ι CscaCall where
  store := ⟨none, leaseOwner, profileRevision, []⟩
  calls _ := .idle

/-- The operations that are applied are permitted. -/
def PermittedStep {ι : Type} (c : Config CscaStore ι CscaCall) (i : ι) : CscaEvent → Prop
  | .apply op _ => match c.calls i with
      | .loaded document => op.Permitted document
      | _ => True
  | _ => True

instance {ι : Type} (c : Config CscaStore ι CscaCall) (i : ι) (e : CscaEvent) :
    Decidable (PermittedStep c i e) :=
  match e with
  | .apply op _ =>
      match h : c.calls i with
      | .loaded document =>
          decidable_of_iff (op.Permitted document) (by rw [PermittedStep, h])
      | .idle | .saving .. | .done _ => .isTrue (by rw [PermittedStep, h]; trivial)
  | .load _ | .save .. | .restart | .lease _ | .profiles _ => .isTrue trivial

/-! ## Certificates -/

/-- What later changes keep of the certificates. -/
def CertificatesKept (certificates certificates' : BTreeMap String CscaCertificateRecord) :
    Prop :=
  ∀ id record, certificates.get id = some record → ∃ record' : CscaCertificateRecord,
    certificates'.get id = some record' ∧ record'.renewedFrom = record.renewedFrom ∧
    (record.revokedAt.isSome → record'.revokedAt = record.revokedAt ∧
      record'.revocationReason = record.revocationReason) ∧
    (record.renewedTo.isSome → record'.renewedTo = record.renewedTo)

theorem CertificatesKept.refl (certificates : BTreeMap String CscaCertificateRecord) :
    CertificatesKept certificates certificates :=
  fun _ record h => ⟨record, h, rfl, fun _ => ⟨rfl, rfl⟩, fun _ => rfl⟩

theorem CertificatesKept.trans {m n k : BTreeMap String CscaCertificateRecord}
    (hmn : CertificatesKept m n) (hnk : CertificatesKept n k) : CertificatesKept m k := by
  intro id record hget
  obtain ⟨record', hget', hfrom', hrevoked', hto'⟩ := hmn id record hget
  obtain ⟨record'', hget'', hfrom'', hrevoked'', hto''⟩ := hnk id record' hget'
  refine ⟨record'', hget'', hfrom''.trans hfrom', ?_, ?_⟩
  · intro hrevoked
    obtain ⟨hat, hreason⟩ := hrevoked' hrevoked
    obtain ⟨hat', hreason'⟩ := hrevoked'' (by rw [hat]; exact hrevoked)
    exact ⟨hat'.trans hat, hreason'.trans hreason⟩
  · intro hto
    have heq := hto' hto
    exact (hto'' (by rw [heq]; exact hto)).trans heq

/-- A certificate that was not there. -/
theorem CertificatesKept.insert_new {certificates : BTreeMap String CscaCertificateRecord}
    {id : String} (hfree : certificates.get id = none) (record : CscaCertificateRecord) :
    CertificatesKept certificates (certificates.insert id record) := by
  intro other old hget
  have hne : other ≠ id := by
    rintro rfl
    rw [hfree] at hget
    cases hget
  exact ⟨old, by rw [BTreeMap.get_insert, if_neg hne, hget], rfl, fun _ => ⟨rfl, rfl⟩,
    fun _ => rfl⟩

/-- A certificate that was neither revoked nor renewed. -/
theorem CertificatesKept.insert_open {certificates : BTreeMap String CscaCertificateRecord}
    {id : String} {record record' : CscaCertificateRecord}
    (hget : certificates.get id = some record) (hrevoked : record.revokedAt = none)
    (hrenewed : record.renewedTo = none) (hfrom : record'.renewedFrom = record.renewedFrom) :
    CertificatesKept certificates (certificates.insert id record') := by
  intro other old hold
  by_cases hid : other = id
  · subst hid
    rw [hget, Option.some.injEq] at hold
    subst hold
    refine ⟨record', by rw [BTreeMap.get_insert, if_pos rfl], hfrom, ?_, ?_⟩
    · rw [hrevoked]
      exact fun h => absurd h Bool.false_ne_true
    · rw [hrenewed]
      exact fun h => absurd h Bool.false_ne_true
  · exact ⟨old, by rw [BTreeMap.get_insert, if_neg hid, hold], rfl, fun _ => ⟨rfl, rfl⟩,
      fun _ => rfl⟩

def successorOf (certificates : BTreeMap String CscaCertificateRecord) (id : String) :
    Option String :=
  (certificates.get id).bind (·.renewedTo)

def predecessorOf (certificates : BTreeMap String CscaCertificateRecord) (id : String) :
    Option String :=
  (certificates.get id).bind (·.renewedFrom)

@[simp] theorem successorOf_insert (certificates : BTreeMap String CscaCertificateRecord)
    (key : String) (record : CscaCertificateRecord) (id : String) :
    successorOf (certificates.insert key record) id =
      if id = key then record.renewedTo else successorOf certificates id := by
  rw [successorOf, BTreeMap.get_insert]
  split <;> rfl

@[simp] theorem predecessorOf_insert (certificates : BTreeMap String CscaCertificateRecord)
    (key : String) (record : CscaCertificateRecord) (id : String) :
    predecessorOf (certificates.insert key record) id =
      if id = key then record.renewedFrom else predecessorOf certificates id := by
  rw [predecessorOf, BTreeMap.get_insert]
  split <;> rfl

/-- Predecessor and successor name each other, and a predecessor is revoked. -/
structure Linked (certificates : BTreeMap String CscaCertificateRecord) : Prop where
  reciprocal : ∀ a b, successorOf certificates a = some b ↔ predecessorOf certificates b = some a
  revoked : ∀ {a record}, certificates.get a = some record → record.renewedTo.isSome →
    record.revokedAt.isSome

theorem Linked.empty : Linked BTreeMap.empty := by
  constructor
  · intro a b
    exact ⟨nofun, nofun⟩
  · intro a record hget
    cases hget

/-- A certificate that stands for itself. -/
theorem Linked.insert_new {certificates : BTreeMap String CscaCertificateRecord}
    (h : Linked certificates) {id : String} (hfree : certificates.get id = none)
    {record : CscaCertificateRecord} (hfrom : record.renewedFrom = none)
    (hto : record.renewedTo = none) : Linked (certificates.insert id record) := by
  have hsuccessor : ∀ a, successorOf (certificates.insert id record) a =
      successorOf certificates a := by
    intro a
    rw [successorOf_insert]
    split
    · next ha => rw [ha, successorOf, hfree, hto, Option.bind_none]
    · rfl
  have hpredecessor : ∀ b, predecessorOf (certificates.insert id record) b =
      predecessorOf certificates b := by
    intro b
    rw [predecessorOf_insert]
    split
    · next hb => rw [hb, predecessorOf, hfree, hfrom, Option.bind_none]
    · rfl
  constructor
  · intro a b
    rw [hsuccessor, hpredecessor]
    exact h.reciprocal a b
  · intro a r hget hrenewed
    rw [BTreeMap.get_insert] at hget
    split at hget
    · cases hget
      rw [hto] at hrenewed
      exact absurd hrenewed Bool.false_ne_true
    · exact h.revoked hget hrenewed

/-- A certificate that is revoked and keeps its links. -/
theorem Linked.insert_revoked {certificates : BTreeMap String CscaCertificateRecord}
    (h : Linked certificates) {id : String} {record record' : CscaCertificateRecord}
    (hget : certificates.get id = some record) (hrevoked : record'.revokedAt.isSome)
    (hfrom : record'.renewedFrom = record.renewedFrom)
    (hto : record'.renewedTo = record.renewedTo) : Linked (certificates.insert id record') := by
  constructor
  · intro a b
    have hsuccessor : successorOf (certificates.insert id record') a =
        successorOf certificates a := by
      rw [successorOf_insert]
      split
      · next ha => rw [ha, successorOf, hget, hto, Option.bind_some]
      · rfl
    have hpredecessor : predecessorOf (certificates.insert id record') b =
        predecessorOf certificates b := by
      rw [predecessorOf_insert]
      split
      · next hb => rw [hb, predecessorOf, hget, hfrom, Option.bind_some]
      · rfl
    rw [hsuccessor, hpredecessor]
    exact h.reciprocal a b
  · intro a r hr hrenewed
    rw [BTreeMap.get_insert] at hr
    split at hr
    · cases hr
      exact hrevoked
    · exact h.revoked hr hrenewed

/-- A certificate without a successor gets one that is new. -/
theorem Linked.insert_successor {certificates : BTreeMap String CscaCertificateRecord}
    (h : Linked certificates) {id replacementId : String} (hne : id ≠ replacementId)
    (hfree : certificates.get replacementId = none)
    {prior prior' replacement : CscaCertificateRecord}
    (hprior : certificates.get id = some prior) (hopen : prior.renewedTo = none)
    (hrevoked : prior'.revokedAt.isSome) (hto : prior'.renewedTo = some replacementId)
    (hfrom : prior'.renewedFrom = prior.renewedFrom)
    (hreplacement : replacement.renewedFrom = some id)
    (hlast : replacement.renewedTo = none) :
    Linked ((certificates.insert id prior').insert replacementId replacement) := by
  have hnone : successorOf certificates id = none := by
    rw [successorOf, hprior, Option.bind_some, hopen]
  have hnew : predecessorOf certificates replacementId = none := by
    rw [predecessorOf, hfree, Option.bind_none]
  have hkept : predecessorOf certificates id = prior.renewedFrom := by
    rw [predecessorOf, hprior, Option.bind_some]
  constructor
  · intro a b
    rw [successorOf_insert, successorOf_insert, predecessorOf_insert, predecessorOf_insert,
      hreplacement, hlast, hto, hfrom, ← hkept]
    have hpredecessor : (if b = id then predecessorOf certificates id
        else predecessorOf certificates b) = predecessorOf certificates b := by
      split
      · next hb => rw [hb]
      · rfl
    rw [hpredecessor]
    by_cases hb : b = replacementId
    · rw [if_pos hb]
      subst hb
      by_cases ha : a = b
      · -- the new certificate has no successor
        rw [if_pos ha]
        subst ha
        simp [hne]
      · rw [if_neg ha]
        by_cases haid : a = id
        · simp [haid]
        · rw [if_neg haid]
          have hnot : successorOf certificates a ≠ some b := by
            intro heq
            rw [(h.reciprocal a b).mp heq] at hnew
            cases hnew
          simp [hnot, Ne.symm haid]
    · rw [if_neg hb]
      by_cases ha : a = replacementId
      · -- nothing names the new certificate as its predecessor
        rw [if_pos ha]
        have hnot : predecessorOf certificates b ≠ some a := by
          intro heq
          rw [← h.reciprocal a b, ha, successorOf, hfree, Option.bind_none] at heq
          cases heq
        simp [hnot]
      · rw [if_neg ha]
        by_cases haid : a = id
        · rw [if_pos haid]
          have hnot : predecessorOf certificates b ≠ some a := by
            intro heq
            rw [← h.reciprocal a b, haid, hnone] at heq
            cases heq
          simp [hnot, Ne.symm hb]
        · rw [if_neg haid]
          exact h.reciprocal a b
  · intro a r hr hrenewed
    rw [BTreeMap.get_insert] at hr
    split at hr
    · cases hr
      rw [hlast] at hrenewed
      exact absurd hrenewed Bool.false_ne_true
    · rw [BTreeMap.get_insert] at hr
      split at hr
      · cases hr
        exact hrevoked
      · exact h.revoked hr hrenewed

/-! ## Events -/

/-- The identifiers of the events that announce the changes, in their order. -/
def announcements (commits : List CscaCommit) : List String := commits.filterMap CscaCommit.eventId

def Acknowledged (commits : List CscaCommit) (eventId : String) : Prop :=
  ∃ commit ∈ commits, commit.change = .acknowledged eventId

instance (commits : List CscaCommit) (eventId : String) :
    Decidable (Acknowledged commits eventId) := by
  unfold Acknowledged
  infer_instance

/-- The events that no stored change has acknowledged, the oldest one first. -/
def unacknowledged (commits : List CscaCommit) : List String :=
  (announcements commits).filter fun eventId => ¬ Acknowledged commits eventId

/-- The changes have raised the revision one by one, and the outbox holds their events. -/
structure OutboxOf (revision : Nat) (outbox : BTreeMap String CscaOutboxEvent)
    (commits : List CscaCommit) : Prop where
  revisions : commits.map (·.revision) = (List.range commits.length).map (· + 1)
  revision_eq : revision = commits.length
  increasing : (announcements commits).Pairwise (· < ·)
  queued : ∀ {id event}, outbox.get id = some event → event.eventId = id ∧
    id ∈ announcements commits
  acknowledged : ∀ {id}, Acknowledged commits id → id ∈ announcements commits
  unpublished : ∀ id, (∃ event, outbox.get id = some event ∧ event.publishedAt = none) ↔
    id ∈ announcements commits ∧ ¬ Acknowledged commits id

theorem outboxEventId_lt {m n : Nat} (h : m < n) (hn : n ≤ maxSafeRedisRevision)
    (topic key topic' key' : String) :
    outboxEventId m topic key < outboxEventId n topic' key' := by
  apply ofList_fixedHex_lt h
  exact hn.trans_lt (by decide)

theorem mem_announcements {commits : List CscaCommit} {id : String}
    (h : id ∈ announcements commits) :
    ∃ commit ∈ commits, ∃ topic key, id = outboxEventId commit.revision topic key := by
  obtain ⟨commit, hmem, heq⟩ := List.mem_filterMap.mp h
  refine ⟨commit, hmem, ?_⟩
  unfold CscaCommit.eventId at heq
  split at heq
  · exact ⟨_, _, (Option.some.inj heq).symm⟩
  · exact ⟨_, _, (Option.some.inj heq).symm⟩
  · exact ⟨_, _, (Option.some.inj heq).symm⟩
  · cases heq

theorem announcements_append (commits : List CscaCommit) (commit : CscaCommit) :
    announcements (commits ++ [commit]) = announcements commits ++ commit.eventId.toList := by
  rw [announcements, List.filterMap_append, announcements]
  cases heq : commit.eventId <;> simp [heq]

theorem acknowledged_append (commits : List CscaCommit) (commit : CscaCommit) (id : String) :
    Acknowledged (commits ++ [commit]) id ↔
      Acknowledged commits id ∨ commit.change = .acknowledged id := by
  simp only [Acknowledged, List.mem_append, List.mem_singleton]
  constructor
  · rintro ⟨commit', hmem | rfl, hchange⟩
    · exact .inl ⟨commit', hmem, hchange⟩
    · exact .inr hchange
  · rintro (⟨commit', hmem, hchange⟩ | hchange)
    · exact ⟨commit', .inl hmem, hchange⟩
    · exact ⟨commit, .inr rfl, hchange⟩

namespace OutboxOf

variable {revision : Nat} {outbox : BTreeMap String CscaOutboxEvent} {commits : List CscaCommit}

theorem empty : OutboxOf 0 BTreeMap.empty [] := by
  constructor
  · rfl
  · rfl
  · exact List.Pairwise.nil
  · intro id event hget
    cases hget
  · rintro id ⟨commit, hmem, -⟩
    cases hmem
  · intro id
    constructor
    · rintro ⟨event, hget, -⟩
      cases hget
    · rintro ⟨hmem, -⟩
      cases hmem

theorem revision_le (h : OutboxOf revision outbox commits) {commit : CscaCommit}
    (hmem : commit ∈ commits) : commit.revision ≤ revision := by
  have hmap : commit.revision ∈ commits.map (·.revision) := List.mem_map_of_mem hmem
  rw [h.revisions] at hmap
  obtain ⟨n, hn, heq⟩ := List.mem_map.mp hmap
  have hlt := List.mem_range.mp hn
  have hlength := h.revision_eq
  omega

/-- The events there are come before that of the next revision. -/
theorem lt_next (h : OutboxOf revision outbox commits)
    (hrevision : revision < maxSafeRedisRevision) (topic key : String) :
    ∀ id ∈ announcements commits, id < outboxEventId (revision + 1) topic key := by
  intro id hmem
  obtain ⟨commit, hcommit, topic', key', rfl⟩ := mem_announcements hmem
  exact outboxEventId_lt (Nat.lt_succ_of_le (h.revision_le hcommit)) hrevision _ _ _ _

theorem revisions_append (h : OutboxOf revision outbox commits) (change : CscaChange) :
    (commits ++ [CscaCommit.mk (revision + 1) change]).map (·.revision) =
      (List.range (commits ++ [CscaCommit.mk (revision + 1) change]).length).map (· + 1) := by
  rw [List.map_append, h.revisions, List.length_append, List.length_singleton,
    List.range_succ, List.map_append, h.revision_eq]
  rfl

/-- **An announced change** puts its event after all others. -/
theorem announce {document document' : CscaLifecycleDocument} {topic key : String}
    {change : CscaChange} (h : OutboxOf document.revision document.outbox commits)
    (hannounced : Announced document document' topic key)
    (hevent : (CscaCommit.mk (document.revision + 1) change).eventId =
      some (outboxEventId (document.revision + 1) topic key))
    (hchange : ∀ id, change ≠ .acknowledged id) :
    OutboxOf document'.revision document'.outbox
      (commits ++ [⟨document'.revision, change⟩]) := by
  obtain ⟨event, hid, hunpublished, houtbox⟩ := hannounced.outbox
  have hlt := h.lt_next hannounced.inRange topic key
  have hnew : outboxEventId (document.revision + 1) topic key ∉ announcements commits :=
    fun hmem => lt_irrefl _ (hlt _ hmem)
  have hannouncements : announcements (commits ++ [⟨document.revision + 1, change⟩]) =
      announcements commits ++ [outboxEventId (document.revision + 1) topic key] := by
    rw [announcements_append, hevent]
    rfl
  have hacknowledged : ∀ id, Acknowledged (commits ++ [⟨document.revision + 1, change⟩]) id ↔
      Acknowledged commits id := by
    intro id
    rw [acknowledged_append]
    exact or_iff_left (hchange id)
  rw [hannounced.revision, houtbox, hid]
  constructor
  · exact h.revisions_append change
  · rw [List.length_append, List.length_singleton, h.revision_eq]
  · rw [hannouncements, List.pairwise_append]
    refine ⟨h.increasing, List.pairwise_singleton _ _, ?_⟩
    intro id hmem id' hmem'
    rw [List.mem_singleton.mp hmem']
    exact hlt id hmem
  · intro id event' hget
    rw [hannouncements, List.mem_append, List.mem_singleton]
    rw [BTreeMap.get_insert] at hget
    split at hget
    · next heq =>
        cases hget
        exact ⟨hid.trans heq.symm, .inr heq⟩
    · obtain ⟨heventId, hmem⟩ := h.queued (get_pruneOutbox document hget)
      exact ⟨heventId, .inl hmem⟩
  · intro id hack
    rw [hannouncements, List.mem_append]
    exact .inl (h.acknowledged ((hacknowledged id).mp hack))
  · intro id
    rw [hannouncements, hacknowledged, List.mem_append, List.mem_singleton]
    by_cases hid' : id = outboxEventId (document.revision + 1) topic key
    · subst hid'
      constructor
      · intro _
        exact ⟨.inr rfl, fun hack => hnew (h.acknowledged hack)⟩
      · intro _
        exact ⟨event, by rw [BTreeMap.get_insert, if_pos rfl], hunpublished⟩
    · rw [or_iff_left hid', ← h.unpublished id]
      constructor
      · rintro ⟨event', hget, hpublished⟩
        rw [BTreeMap.get_insert, if_neg hid'] at hget
        exact ⟨event', get_pruneOutbox document hget, hpublished⟩
      · rintro ⟨event', hget, hpublished⟩
        refine ⟨event', ?_, hpublished⟩
        rw [BTreeMap.get_insert, if_neg hid']
        exact (get_pruneOutbox_unpublished document hpublished).mpr hget

/-- **An acknowledged event** stays in the outbox as a published one. -/
theorem acknowledge (h : OutboxOf revision outbox commits) {id : String}
    {event event' : CscaOutboxEvent} (hget : outbox.get id = some event)
    (hpublished : event'.publishedAt.isSome) (hid : event'.eventId = event.eventId) :
    OutboxOf (revision + 1) (outbox.insert id event')
      (commits ++ [⟨revision + 1, .acknowledged id⟩]) := by
  have hannouncements : announcements (commits ++ [⟨revision + 1, .acknowledged id⟩]) =
      announcements commits := by
    rw [announcements_append]
    exact List.append_nil _
  obtain ⟨heventId, hmem⟩ := h.queued hget
  constructor
  · exact h.revisions_append _
  · rw [List.length_append, List.length_singleton, h.revision_eq]
  · rw [hannouncements]
    exact h.increasing
  · intro id' event'' hget'
    rw [hannouncements]
    rw [BTreeMap.get_insert] at hget'
    split at hget'
    · next heq =>
        cases hget'
        subst heq
        exact ⟨hid.trans heventId, hmem⟩
    · exact h.queued hget'
  · intro id' hack
    rw [hannouncements]
    rcases (acknowledged_append ..).mp hack with hack | heq
    · exact h.acknowledged hack
    · cases heq
      exact hmem
  · intro id'
    rw [hannouncements, acknowledged_append]
    by_cases heq : id' = id
    · subst heq
      constructor
      · rintro ⟨event'', hget', hnone⟩
        rw [BTreeMap.get_insert, if_pos rfl, Option.some.injEq] at hget'
        rw [← hget'] at hnone
        rw [hnone] at hpublished
        exact absurd hpublished Bool.false_ne_true
      · rintro ⟨-, hnot⟩
        exact absurd (.inr rfl) hnot
    · have hother : CscaChange.acknowledged id ≠ .acknowledged id' := by
        intro hsame
        exact heq (CscaChange.acknowledged.inj hsame).symm
      rw [or_iff_left hother, BTreeMap.get_insert, if_neg heq]
      exact h.unpublished id'

/-- **The events to be sent** are those that nobody has acknowledged, the oldest one first. -/
theorem pending {document : CscaLifecycleDocument}
    (h : OutboxOf document.revision document.outbox commits) {limit : Option Nat}
    {events : List CscaOutboxEvent} (hpending : document.pendingOutbox limit = .ok events) :
    events.map (·.eventId) = (unacknowledged commits).take (limit.getD 100) := by
  rw [pendingOutbox] at hpending
  split at hpending
  · cases hpending
  · cases hpending
    rw [List.map_take]
    congr 1
    -- both lists are increasing, and they have the same members
    have hentries : (document.outbox.values.filter fun event => event.publishedAt.isNone).map
        (·.eventId) = (document.outbox.entries.filter fun e => e.2.publishedAt.isNone).map
          Prod.fst := by
      rw [BTreeMap.values, List.filter_map, List.map_map]
      apply List.map_congr_left
      intro e hmem
      have hget := (BTreeMap.get_eq_some document.outbox e.1 e.2).mpr (List.mem_filter.mp hmem).1
      exact (h.queued hget).1
    rw [hentries]
    apply List.Pairwise.eq_of_mem_iff (r := (· < ·))
    · exact List.Pairwise.sublist (List.Sublist.map _ List.filter_sublist) document.outbox.sorted
    · exact h.increasing.filter _
    · intro id
      rw [unacknowledged, List.mem_filter, decide_eq_true_iff, ← h.unpublished id, List.mem_map]
      constructor
      · rintro ⟨e, hmem, rfl⟩
        rw [List.mem_filter] at hmem
        refine ⟨e.2, (BTreeMap.get_eq_some _ _ _).mpr hmem.1, ?_⟩
        exact Option.isNone_iff_eq_none.mp hmem.2
      · rintro ⟨event, hget, hnone⟩
        refine ⟨(id, event), ?_, rfl⟩
        rw [List.mem_filter]
        exact ⟨(BTreeMap.get_eq_some _ _ _).mp hget, Option.isNone_iff_eq_none.mpr hnone⟩

end OutboxOf

end Marty.SigningKeys
