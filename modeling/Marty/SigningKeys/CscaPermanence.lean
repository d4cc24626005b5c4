import Marty.SigningKeys.CscaRuns

/-!
# What every run keeps

Every save that the store accepts makes one change on the document that is stored: the saving
client's copy had the stored revision, and a copy of the stored revision shows what is stored.

## Main definitions

* `Shows`, `CopyOf` — the copies of the stored document that clients hold.
* `StoreEffect` — what a step does to the store.
* `CscaInv` — what holds of the document and the changes that have been stored.
-/

namespace Marty.SigningKeys

open Lib Lib.Checked CscaLifecycleDocument

variable (packages : CertificatePackages)

def CscaStore.certificates (store : CscaStore) : BTreeMap String CscaCertificateRecord :=
  (store.stored.map (·.certificates)).getD BTreeMap.empty

def CscaStore.outbox (store : CscaStore) : BTreeMap String CscaOutboxEvent :=
  (store.stored.map (·.outbox)).getD BTreeMap.empty

/-- The document is what the store holds. -/
def Shows (store : CscaStore) (document : CscaLifecycleDocument) : Prop :=
  document.revision = store.revision ∧ document.certificates = store.certificates ∧
    document.outbox = store.outbox

/-- A copy of the document, which may be out of date. -/
def CopyOf (store : CscaStore) (document : CscaLifecycleDocument) : Prop :=
  document.revision < store.revision ∨ Shows store document

/-- A renewal is of a certificate that is not revoked. -/
def CscaChange.Fresh (document : CscaLifecycleDocument) : CscaChange → Prop
  | renewed id _ => ∀ record ∈ document.certificates.get id, record.revokedAt = none
  | _ => True

/-- The store is as before, or one change has been made on what it shows. -/
inductive StoreEffect (store store' : CscaStore) : Prop
  | same (stored : store'.stored = store.stored) (commits : store'.commits = store.commits)
  | changed {document document' : CscaLifecycleDocument} {change : CscaChange}
      (shown : Shows store document) (fresh : change.Fresh document)
      (effect : ChangeEffect packages document document' change)
      (stored : store'.stored = some document')
      (commits : store'.commits = store.commits ++ [⟨document'.revision, change⟩])

/-! ## One change -/

variable {packages}

theorem ChangeEffect.revision {document document' : CscaLifecycleDocument}
    {change : CscaChange} (h : ChangeEffect packages document document' change) :
    document'.revision = document.revision + 1 := by
  cases change with
  | issued id => exact h.2.2.revision
  | revoked id => exact h.2.revision
  | renewed id replacementId => exact h.2.2.2.revision
  | acknowledged id => exact h.2.2.1

/-- A certificate that is not revoked has no successor. -/
theorem Linked.renewedTo_eq_none {certificates : BTreeMap String CscaCertificateRecord}
    (h : Linked certificates) {id : String} {record : CscaCertificateRecord}
    (hget : certificates.get id = some record) (hrevoked : record.revokedAt = none) :
    record.renewedTo = none := by
  by_contra hne
  have hsome := h.revoked hget (Option.isSome_iff_ne_none.mpr hne)
  rw [hrevoked] at hsome
  exact Bool.false_ne_true hsome

/-- What a change does to the certificates. -/
theorem Linked.change {document document' : CscaLifecycleDocument} {change : CscaChange}
    (h : Linked document.certificates) (hfresh : change.Fresh document)
    (heffect : ChangeEffect packages document document' change) :
    Linked document'.certificates ∧
      CertificatesKept document.certificates document'.certificates := by
  cases change with
  | issued id =>
      obtain ⟨hfree, ⟨record, -, hfrom, hto, heq⟩, -⟩ := heffect
      rw [heq]
      exact ⟨h.insert_new hfree hfrom hto, CertificatesKept.insert_new hfree record⟩
  | revoked id =>
      obtain ⟨⟨record, record', hget, hrevoked, hrevoked', hfrom, hto, heq⟩, -⟩ := heffect
      rw [heq]
      exact ⟨h.insert_revoked hget hrevoked' hfrom hto,
        CertificatesKept.insert_open hget hrevoked (h.renewedTo_eq_none hget hrevoked) hfrom⟩
  | renewed id replacementId =>
      obtain ⟨hne, hfree, ⟨prior, replacement, now, hprior, -, hfrom, hto, heq⟩, -⟩ := heffect
      have hrevoked : prior.revokedAt = none := hfresh prior hprior
      have hopen := h.renewedTo_eq_none hprior hrevoked
      rw [heq]
      constructor
      · exact h.insert_successor hne hfree hprior hopen rfl rfl rfl hfrom hto
      · have hsuperseded : CertificatesKept document.certificates
            (document.certificates.insert id (prior.supersede packages replacementId now)) :=
          CertificatesKept.insert_open hprior hrevoked hopen rfl
        apply hsuperseded.trans
        apply CertificatesKept.insert_new
        rw [BTreeMap.get_insert, if_neg hne.symm, hfree]
  | acknowledged id =>
      obtain ⟨-, heq, -⟩ := heffect
      rw [heq]
      exact ⟨h, CertificatesKept.refl _⟩

/-- What a change does to the outbox. -/
theorem OutboxOf.change {document document' : CscaLifecycleDocument} {change : CscaChange}
    {commits : List CscaCommit} (h : OutboxOf document.revision document.outbox commits)
    (heffect : ChangeEffect packages document document' change) :
    OutboxOf document'.revision document'.outbox
      (commits ++ [⟨document'.revision, change⟩]) := by
  cases change with
  | issued id => exact h.announce heffect.2.2 rfl nofun
  | revoked id => exact h.announce heffect.2 rfl nofun
  | renewed id replacementId => exact h.announce heffect.2.2.2 rfl nofun
  | acknowledged id =>
      obtain ⟨⟨event, event', hget, -, hpublished, hid, houtbox⟩, -, hrevision, -⟩ := heffect
      rw [hrevision, houtbox]
      exact h.acknowledge hget hpublished hid

/-! ## One step -/

variable (packages)

/-- What a client knows of its copy. -/
def Prepared (store : CscaStore) : CscaCall → Prop
  | .loaded document => CopyOf store document
  | .saving document' change => ∃ document, CopyOf store document ∧ change.Fresh document ∧
      ChangeEffect packages document document' change
  | _ => True

structure CscaInv {ι : Type} (c : Config CscaStore ι CscaCall) : Prop where
  linked : Linked c.store.certificates
  outbox : OutboxOf c.store.revision c.store.outbox c.store.commits
  calls : ∀ i, Prepared packages c.store (c.calls i)

/-- What later states keep. -/
structure CscaKept (store store' : CscaStore) : Prop where
  certificates : CertificatesKept store.certificates store'.certificates
  commits : store.commits <+: store'.commits

theorem CscaKept.refl (store : CscaStore) : CscaKept store store :=
  ⟨CertificatesKept.refl _, List.prefix_rfl⟩

theorem CscaKept.trans {store₁ store₂ store₃ : CscaStore} (h : CscaKept store₁ store₂)
    (h' : CscaKept store₂ store₃) : CscaKept store₁ store₃ :=
  ⟨h.certificates.trans h'.certificates, h.commits.trans h'.commits⟩

variable {packages}

theorem Shows.of_stored {store : CscaStore} {document : CscaLifecycleDocument}
    (h : store.stored = some document) : Shows store document := by
  simp [Shows, CscaStore.revision, CscaStore.certificates, CscaStore.outbox, h]

theorem CopyOf.effect {store store' : CscaStore} {document : CscaLifecycleDocument}
    (h : CopyOf store document) (heffect : StoreEffect packages store store') :
    CopyOf store' document := by
  cases heffect with
  | same stored _ =>
      simpa [CopyOf, Shows, CscaStore.revision, CscaStore.certificates, CscaStore.outbox,
        stored] using h
  | changed hshows _ heffect stored _ =>
      -- the copy is out of date now
      left
      have hrevision := (Shows.of_stored stored).1
      rw [heffect.revision, hshows.1] at hrevision
      rw [← hrevision, Nat.lt_succ_iff]
      rcases h with h | h
      · exact h.le
      · exact h.1.le

theorem Prepared.effect {store store' : CscaStore} {call : CscaCall}
    (h : Prepared packages store call) (heffect : StoreEffect packages store store') :
    Prepared packages store' call := by
  cases call with
  | idle => trivial
  | loaded document => exact CopyOf.effect h heffect
  | saving document' change =>
      obtain ⟨document, hcopy, hfresh, hchange⟩ := h
      exact ⟨document, hcopy.effect heffect, hfresh, hchange⟩
  | done result => trivial

theorem CscaKept.effect {store store' : CscaStore} (hlinked : Linked store.certificates)
    (heffect : StoreEffect packages store store') : CscaKept store store' := by
  cases heffect with
  | same stored commits =>
      constructor
      · rw [CscaStore.certificates, CscaStore.certificates, stored]
        exact CertificatesKept.refl _
      · simp only [commits, List.prefix_rfl]
  | changed hshows hfresh heffect stored commits =>
      constructor
      · rw [← (Shows.of_stored stored).2.1, ← hshows.2.1]
        rw [← hshows.2.1] at hlinked
        exact (hlinked.change hfresh heffect).2
      · rw [commits]
        exact List.prefix_append _ _

/-- The parts of the invariant that are about the store. -/
theorem CscaInv.effect {ι : Type} [DecidableEq ι] {c : Config CscaStore ι CscaCall}
    (h : CscaInv packages c) {i : ι} {store : CscaStore} {call : CscaCall}
    (heffect : StoreEffect packages c.store store) (hcall : Prepared packages store call) :
    CscaInv packages ⟨store, Function.update c.calls i call⟩ := by
  have hcalls : ∀ j, Prepared packages store (Function.update c.calls i call j) := by
    intro j
    by_cases hj : j = i
    · subst hj
      rwa [Function.update_self]
    · rw [Function.update_of_ne hj]
      exact (h.calls j).effect heffect
  cases heffect with
  | same stored commits =>
      refine ⟨?_, ?_, hcalls⟩
      · simpa [CscaStore.certificates, stored] using h.linked
      · simpa [CscaStore.revision, CscaStore.outbox, stored, commits] using h.outbox
  | changed hshows hfresh heffect stored commits =>
      obtain ⟨hrevision, hcertificates, houtbox⟩ := hshows
      obtain ⟨hrevision', hcertificates', houtbox'⟩ := Shows.of_stored stored
      refine ⟨?_, ?_, hcalls⟩
      · have hlinked := h.linked
        rw [← hcertificates] at hlinked
        dsimp only
        rw [← hcertificates']
        exact (hlinked.change hfresh heffect).1
      · have hevents := h.outbox
        rw [← hrevision, ← houtbox] at hevents
        dsimp only
        rw [← hrevision', ← houtbox', commits]
        exact hevents.change heffect

theorem loadDocument_shows {organizationId : String} {store : CscaStore} {now : Utc}
    {document : CscaLifecycleDocument}
    (h : loadDocument packages organizationId store now = .ok document) :
    Shows store document := by
  simp only [loadDocument, bind_eq_ok, exists_unit, rejectIf_eq_ok, pure, Except.pure,
    Except.ok.injEq] at h
  obtain ⟨-, -, -, rfl⟩ := h
  cases hstored : store.stored with
  | none => simp [Shows, CscaStore.revision, CscaStore.certificates, CscaStore.outbox, hstored,
      CscaLifecycleDocument.empty]
  | some document => exact Shows.of_stored hstored

variable (packages) in
/-- **All that a save does to the store.** -/
theorem saveGuarded_store (store : CscaStore) (document : CscaLifecycleDocument)
    (change : CscaChange) (fence : Option (String × Nat)) (delivery : Delivery) :
    (saveGuarded packages store document change fence delivery).1 = store ∨
      Saves store document fence ∧
        (saveGuarded packages store document change fence delivery).1
          = store.put document change := by
  unfold saveGuarded
  split
  · exact .inl rfl
  · cases delivery with
    | refused => exact .inl rfl
    | lost =>
        by_cases hsaves : Saves store document fence
        · exact .inr ⟨hsaves, by simp [hsaves]⟩
        · exact .inl (by simp [hsaves])
    | answered =>
        by_cases hsaves : Saves store document fence
        · exact .inr ⟨hsaves, by simp [hsaves]⟩
        · exact .inl (by simp [hsaves])

/-- A save that the store accepts is that of an up-to-date copy. -/
theorem save_effect {store : CscaStore} {document' : CscaLifecycleDocument}
    {change : CscaChange} {fence : Option (String × Nat)}
    (h : Prepared packages store (.saving document' change))
    (hsaves : Saves store document' fence) :
    StoreEffect packages store (store.put document' change) := by
  obtain ⟨document, hcopy, hfresh, heffect⟩ := h
  have hguard := hsaves.2
  rw [heffect.revision, Nat.add_sub_cancel] at hguard
  rcases hcopy with hlt | hshows
  · exact absurd hguard.symm hlt.ne
  · exact .changed hshows hfresh heffect rfl rfl

theorem applied_prepared {store : CscaStore} {document : CscaLifecycleDocument}
    {op : CscaOperation} {now : Utc} (hcopy : CopyOf store document)
    (hpermitted : op.Permitted document) :
    Prepared packages store (applied packages document op now) := by
  unfold applied
  cases apply_outcome packages document op now with
  | failed heq _ =>
      rw [heq]
      trivial
  | found heq nothing =>
      rw [heq, nothing]
      trivial
  | @changed document' result change heq made effect =>
      rw [heq, made]
      dsimp only
      rw [if_neg (by rw [effect.revision]; exact Nat.succ_ne_self _)]
      refine ⟨document, hcopy, ?_, effect⟩
      cases op with
      | importCertificate id request =>
          cases made
          trivial
      | revoke id reason =>
          simp only [CscaOperation.change, Option.ite_none_left_eq_some, Option.some.injEq]
            at made
          rw [← made.2]
          trivial
      | renew id replacementId request reuseKey =>
          cases made
          exact hpermitted
      | acknowledge id =>
          simp only [CscaOperation.change, Option.ite_none_left_eq_some, Option.some.injEq]
            at made
          rw [← made.2]
          trivial

variable {ι : Type} [DecidableEq ι] {organizationId : String}

/-- **One step**, of an operation that is permitted. -/
theorem cscaMachine_next {c c' : Config CscaStore ι CscaCall} {i : ι} {e : CscaEvent}
    (h : CscaInv packages c) (hpermitted : PermittedStep c i e)
    (hnext : (cscaMachine packages ι organizationId).next c i e = some c') :
    CscaInv packages c' ∧ StoreEffect packages c.store c'.store := by
  obtain ⟨store, call, hstep, rfl⟩ := Machine.next_eq_some.mp hnext
  suffices hall : StoreEffect packages c.store store ∧ Prepared packages store call from
    ⟨h.effect hall.1 hall.2, hall.1⟩
  simp only [cscaMachine] at hstep
  cases e with
  | load now =>
      cases hstep
      refine ⟨.same rfl rfl, ?_⟩
      split
      · trivial
      · next document hload => exact .inr (loadDocument_shows hload)
  | apply op now =>
      cases hcall : c.calls i with
      | loaded document =>
          rw [hcall] at hstep
          cases hstep
          have hcopy := h.calls i
          rw [hcall] at hcopy
          rw [PermittedStep, hcall] at hpermitted
          exact ⟨.same rfl rfl, applied_prepared hcopy hpermitted⟩
      | idle => rw [hcall] at hstep; cases hstep
      | saving document change => rw [hcall] at hstep; cases hstep
      | done result => rw [hcall] at hstep; cases hstep
  | save fence delivery =>
      cases hcall : c.calls i with
      | saving document change =>
          rw [hcall] at hstep
          cases hstep
          have hprepared := h.calls i
          rw [hcall] at hprepared
          rcases saveGuarded_store packages c.store document change fence delivery
            with heq | ⟨hsaves, heq⟩
          · rw [heq]
            exact ⟨.same rfl rfl, trivial⟩
          · rw [heq]
            exact ⟨save_effect hprepared hsaves, trivial⟩
      | idle => rw [hcall] at hstep; cases hstep
      | loaded document => rw [hcall] at hstep; cases hstep
      | done result => rw [hcall] at hstep; cases hstep
  | restart =>
      cases hstep
      exact ⟨.same rfl rfl, trivial⟩
  | lease owner =>
      cases hstep
      refine ⟨.same rfl rfl, ?_⟩
      exact (h.calls i).effect (.same rfl rfl)
  | profiles revision =>
      cases hstep
      refine ⟨.same rfl rfl, ?_⟩
      exact (h.calls i).effect (.same rfl rfl)

omit [DecidableEq ι] in
theorem cscaStart_inv (leaseOwner : Option String) (profileRevision : Nat) :
    CscaInv packages (cscaStart (ι := ι) leaseOwner profileRevision) :=
  ⟨Linked.empty, OutboxOf.empty, fun _ => trivial⟩

/-! ## Runs -/

/-- What an operation that ends in an error leaves as it was, and what one that succeeds does
to the revision. -/
theorem operation_effect (document : CscaLifecycleDocument) (op : CscaOperation) (now : Utc) :
    (∀ document' error, op.Permitted document →
      op.apply packages document now = (document', .error error) →
        Untouched document document') ∧
    ∀ document' result, op.apply packages document now = (document', .ok result) →
      (op.change document = none ∧ document' = document) ∨
      ∃ change, op.change document = some change ∧
        ChangeEffect packages document document' change := by
  cases apply_outcome packages document op now with
  | failed heq untouched =>
      rw [heq]
      refine ⟨?_, nofun⟩
      intro document' error hpermitted h
      cases h
      exact untouched hpermitted
  | found heq nothing =>
      rw [heq]
      refine ⟨nofun, ?_⟩
      intro document' result h
      cases h
      exact .inl ⟨nothing, rfl⟩
  | changed heq made effect =>
      rw [heq]
      refine ⟨nofun, ?_⟩
      intro document' result h
      cases h
      exact .inr ⟨_, made, effect⟩

/-- **Revocation and succession are permanent, and every change is announced once**, as long
as no renewal is of a certificate that is revoked.  Every revocation and every successor
stays what it was; the links between certificates are mutual; the stored changes have raised
the revision one by one, and the outbox holds one event for each of them, in their order,
until the event is acknowledged; what is pending are the oldest events that are not; and an
operation that fails leaves certificates and unpublished events as they were. -/
theorem revocation_and_succession_permanent {leaseOwner : Option String} {profileRevision : Nat}
    {t u : List (ι × CscaEvent)} {c c' : Config CscaStore ι CscaCall}
    (ht : (cscaMachine packages ι organizationId).run (cscaStart leaseOwner profileRevision) t
      = some c)
    (hu : (cscaMachine packages ι organizationId).run c u = some c')
    (hpermitted : (cscaMachine packages ι organizationId).Guarded PermittedStep
      (cscaStart leaseOwner profileRevision) t)
    (hpermitted' : (cscaMachine packages ι organizationId).Guarded PermittedStep c u) :
    CertificatesKept c.store.certificates c'.store.certificates ∧
    Linked c'.store.certificates ∧
    c.store.commits <+: c'.store.commits ∧
    OutboxOf c'.store.revision c'.store.outbox c'.store.commits ∧
    (∀ i e c'', (cscaMachine packages ι organizationId).next c' i e = some c'' →
      PermittedStep c' i e → StoreEffect packages c'.store c''.store) ∧
    (∀ document limit events, Shows c'.store document →
      document.pendingOutbox limit = .ok events →
        events.map (·.eventId) = (unacknowledged c'.store.commits).take (limit.getD 100)) ∧
    ∀ document (op : CscaOperation) now document' error, op.Permitted document →
      op.apply packages document now = (document', .error error) →
        Untouched document document' := by
  have hinv : CscaInv packages c :=
    Machine.guarded_induct (fun _ _ _ _ h hg hnext => (cscaMachine_next h hg hnext).1)
      (cscaStart_inv leaseOwner profileRevision) hpermitted ht
  obtain ⟨hinv', hkept⟩ := Machine.guarded_induct_rel
    (R := fun c c' : Config CscaStore ι CscaCall => CscaKept c.store c'.store)
    (fun _ => CscaKept.refl _) (fun _ _ _ => CscaKept.trans)
    (fun _ _ _ _ h hg hnext =>
      have hstep := cscaMachine_next h hg hnext
      ⟨hstep.1, CscaKept.effect h.linked hstep.2⟩) hinv hpermitted' hu
  refine ⟨hkept.certificates, hinv'.linked, hkept.commits, hinv'.outbox, ?_, ?_, ?_⟩
  · intro i e c'' hnext hg
    exact (cscaMachine_next hinv' hg hnext).2
  · intro document limit events hshows hpending
    have hevents := hinv'.outbox
    rw [← hshows.1, ← hshows.2.2] at hevents
    exact hevents.pending hpending
  · intro document op now document' error
    exact (operation_effect document op now).1 document' error

namespace Example

def moments : List (Utc × String) :=
  [(1767225600000000000, "2026-01-01T00:00:00Z"), (1767225601000000000, "2026-01-01T00:00:01Z"),
    (1798761600000000000, "2027-01-01T00:00:00Z")]

/-- Certificates that name their own key and all have the same subject. -/
def certificatePackages : CertificatePackages where
  loadCertificatePem text := .ok (text.toList.map fun c => UInt8.ofNat c.toNat)
  getCertificateInfo _ :=
    .ok ⟨"CN=Country", "CN=Country", "2026-01-01T00:00:00Z", "2027-01-01T00:00:00Z", true⟩
  verifyCertificateSignature _ _ := .ok true
  certificatePemToJwk text := .ok (.object [("x", .string text)])
  samePublicJwk jwk jwk' := jwk == jwk'
  certificateBlocks _ := none
  hasPrivateKeyMarker _ := false
  containsPrivateKey _ := false
  parseFromRfc3339 text := (moments.find? fun moment => moment.2 == text).map (·.1)
  toRfc3339Secs t := ((moments.find? fun moment => moment.1 == t).map (·.2)).getD ""

def certificateRequest (pem : String) : ImportCscaCertificateRequest :=
  ⟨pem, "", "kms://" ++ pem, .object [("x", .string pem)], .object []⟩

def t0 : Utc := 1767225600000000000

def t1 : Utc := 1767225601000000000

/-- One client loads, applies an operation, and saves. -/
def commitOp (op : CscaOperation) (now : Utc) : List (Fin 2 × CscaEvent) :=
  [(0, .load now), (0, .apply op now), (0, .save none .answered)]

def importA : List (Fin 2 × CscaEvent) :=
  commitOp (.importCertificate "a" (certificateRequest "A")) t0

def observe (c : Config CscaStore (Fin 2) CscaCall) :
    Option (Option String × Option String × Option String) :=
  (c.store.certificates.get "a").map fun record =>
    (record.revokedAt, record.revocationReason, record.renewedTo)

/-- A certificate that has been revoked is renewed: its revocation is another one then.  It is
renewed once more, and so is its successor. -/
theorem renewal_rewrites_revocation :
    let M := cscaMachine certificatePackages (Fin 2) "org-1"
    let revoked := importA ++ commitOp (.revoke "a" "key_compromise") t0
    let renewed := revoked ++ commitOp (.renew "a" "b" (certificateRequest "B") false) t1
    (M.run (cscaStart none 0) revoked).bind observe
        = some (some "2026-01-01T00:00:00Z", some "key_compromise", none) ∧
      (M.run (cscaStart none 0) renewed).bind observe
        = some (some "2026-01-01T00:00:01Z", some "SUPERSEDED", some "b") ∧
      (M.run (cscaStart none 0) (renewed ++
          commitOp (.renew "a" "c" (certificateRequest "C") false) t1)).bind observe
        = some (some "2026-01-01T00:00:01Z", some "SUPERSEDED", some "c") := by
  decide +kernel

/-- Two clients change the document; the second one comes too late and tries again. -/
def twoClients : List (Fin 2 × CscaEvent) :=
  importA ++ [(0, .load t0), (1, .load t0),
    (0, .apply (.renew "a" "b" (certificateRequest "B") false) t1),
    (1, .apply (.revoke "a" "key_compromise") t1),
    (0, .save none .lost), (1, .save none .answered), (1, .load t1),
    (1, .apply (.acknowledge "0000000000000001-certificate.issued-a") t1),
    (1, .save none .answered)]

theorem succession_of_two_clients :
    ∃ c c', (cscaMachine certificatePackages (Fin 2) "org-1").run (cscaStart none 0)
        (twoClients.take 8) = some c ∧
      (cscaMachine certificatePackages (Fin 2) "org-1").run c (twoClients.drop 8) = some c' ∧
      CertificatesKept c.store.certificates c'.store.certificates ∧
      Linked c'.store.certificates ∧
      observe c' = some (some "2026-01-01T00:00:01Z", some "SUPERSEDED", some "b") ∧
      unacknowledged c'.store.commits = ["0000000000000002-certificate.renewed-b"] := by
  have hrun : ((cscaMachine certificatePackages (Fin 2) "org-1").run (cscaStart none 0)
      (twoClients.take 8)).bind (fun c => if
        (cscaMachine certificatePackages (Fin 2) "org-1").Guarded PermittedStep c
          (twoClients.drop 8) then
        ((cscaMachine certificatePackages (Fin 2) "org-1").run c (twoClients.drop 8)).map
          fun c' => (observe c', unacknowledged c'.store.commits) else none) =
      some (some (some "2026-01-01T00:00:01Z", some "SUPERSEDED", some "b"),
        ["0000000000000002-certificate.renewed-b"]) := by
    decide +kernel
  obtain ⟨c, hc, hobserved⟩ := Option.bind_eq_some_iff.mp hrun
  rw [Option.ite_none_right_eq_some] at hobserved
  obtain ⟨hpermitted', hobserved⟩ := hobserved
  obtain ⟨c', hc', heq⟩ := Option.map_eq_some_iff.mp hobserved
  rw [Prod.mk.injEq] at heq
  obtain ⟨hkept, hlinked, -⟩ := revocation_and_succession_permanent hc hc'
    (by decide +kernel) hpermitted'
  exact ⟨c, c', hc, hc', hkept, hlinked, heq⟩

end Example

end Marty.SigningKeys
