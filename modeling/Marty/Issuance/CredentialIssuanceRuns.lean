import Mathlib.Data.List.Nodup
import Marty.Issuance.CredentialIssuance

/-!
# A transaction issues one credential

Along every run the claim of a transaction has one holder, which alone can end it: whoever marks a
row as failed or releases it does so with its own claim, since a row is claimed only when it is
pending or authorized, and leaves those only for a status that no claim starts from.  So the
credential of a transaction is issued once, it is never replaced, and every call that is answered
with it is answered with the same notification.

## Main definitions

* `Tables` — what the rows of the three tables have to do with each other.
* `Later` — no credential and no binding is lost, and an issued row is at most revoked.
* `Consistent` — the tables, the holders of claims, and what the calls were answered.
* `issued_once` — all of it holds along every run.
-/

namespace Marty.Issuance.Signing

open Lib Lib.Checked

/-- A status that no claim starts from. -/
def Busy (status : CredentialTransactionStatus) : Prop :=
  status = .signing ∨ status = .issued ∨ status = .revoked

/-- A row leaves these only by a revocation. -/
def Settled (status : CredentialTransactionStatus) : Prop :=
  status = .issued ∨ status = .revoked

/-- How every statement but the finalization moves the status of a row. -/
def Moves (before after : CredentialTransactionStatus) : Prop :=
  after = before ∨ after = .revoked ∨ ¬ Settled before ∧ after ≠ .issued

section

variable (services : IssuanceServices)

structure Tables (s : IssuanceStore) : Prop where
  keyed : ∀ id row, s.transactions id = some row → row.id = id
  unique : (s.credentials.map (·.transactionId)).Nodup
  settled : ∀ x ∈ s.credentials, ∃ row, s.transactions x.transactionId = some row ∧
    Settled row.status
  issued : ∀ id row, s.transactions id = some row → row.status = .issued →
    ∃ x ∈ s.credentials, x.transactionId = id
  bindingIds : (s.bindings.map (·.id)).Nodup
  bound : ∀ b ∈ s.bindings, b.id = notificationBindingEventId services b.transactionId

end

structure Later (s s' : IssuanceStore) : Prop where
  credentials : s.credentials <+: s'.credentials
  bindings : s.bindings <+: s'.bindings
  rows : ∀ id row, s.transactions id = some row → ∃ row', s'.transactions id = some row' ∧
    (Settled row.status → Settled row'.status) ∧ (row.status = .revoked → row'.status = .revoked)

/-- The credential of the transaction is stored and bound to a notification as it was answered. -/
structure Announced (s : IssuanceStore) (transactionId : String) (existing : ExistingCredential) :
    Prop where
  credential : ∃ x ∈ s.credentials, x.transactionId = transactionId ∧ x.id = existing.id ∧
    x.credential = existing.credential
  binding : ∃ b ∈ s.bindings, b.transactionId = transactionId ∧
    b.notificationId = existing.notificationId

/-- The transaction that a call has claimed, and still works on or has issued. -/
def IssuanceCall.holds : IssuanceCall → Option String
  | .claimed transaction _ | .built transaction _ _ | .notifying transaction _ _ =>
      some transaction.id
  | .failing id _ | .staged id _ | .answered id _ .committed => some id
  | .packing claim _ | .staging claim _ | .releasing claim _ => some claim.transaction.id
  | _ => none

/-- What is known of the tables where a call stands. -/
def IssuanceCall.Sound (s : IssuanceStore) : IssuanceCall → Prop
  | .notifying transaction credential notificationId =>
      Announced s transaction.id ⟨credential.id, credential.credential, notificationId⟩
  | .answered id existing _ => Announced s id existing
  | .unbound id _ credential | .binding id _ credential _ | .verifying id _ credential _
  | .staged id credential => credential ∈ s.credentials ∧ credential.transactionId = id
  | .packing claim _ | .staging claim _ | .releasing claim _ =>
      claim.previousStatus = .pending ∨ claim.previousStatus = .authorized
  | _ => True

theorem Later.refl (s : IssuanceStore) : Later s s :=
  ⟨List.prefix_rfl, List.prefix_rfl, fun _ row hrow => ⟨row, hrow, id, id⟩⟩

theorem Later.trans {s s' s'' : IssuanceStore} (h : Later s s') (h' : Later s' s'') :
    Later s s'' where
  credentials := h.credentials.trans h'.credentials
  bindings := h.bindings.trans h'.bindings
  rows := fun id row hrow => by
    obtain ⟨row', hrow', hsettled, hrevoked⟩ := h.rows id row hrow
    obtain ⟨row'', hrow'', hsettled', hrevoked'⟩ := h'.rows id row' hrow'
    exact ⟨row'', hrow'', hsettled' ∘ hsettled, hrevoked' ∘ hrevoked⟩

section

variable {services : IssuanceServices} {s s' : IssuanceStore}

theorem Announced.later {id : String} {existing : ExistingCredential}
    (h : Announced s id existing) (hlater : Later s s') : Announced s' id existing := by
  obtain ⟨⟨x, hx, hid⟩, b, hb, hbound⟩ := h
  exact ⟨⟨x, hlater.credentials.subset hx, hid⟩, b, hlater.bindings.subset hb, hbound⟩

theorem IssuanceCall.Sound.later {call : IssuanceCall} (h : call.Sound s) (hlater : Later s s') :
    call.Sound s' := by
  cases call with
  | notifying => exact Announced.later h hlater
  | answered => exact Announced.later h hlater
  | unbound => exact ⟨hlater.credentials.subset h.1, h.2⟩
  | binding => exact ⟨hlater.credentials.subset h.1, h.2⟩
  | verifying => exact ⟨hlater.credentials.subset h.1, h.2⟩
  | staged => exact ⟨hlater.credentials.subset h.1, h.2⟩
  | packing => exact h
  | staging => exact h
  | releasing => exact h
  | _ => trivial

/-- Two answers about one transaction agree. -/
theorem Announced.unique {id : String} {existing existing' : ExistingCredential}
    (htables : Tables services s) (h : Announced s id existing)
    (h' : Announced s id existing') : existing = existing' := by
  obtain ⟨⟨x, hx, hxid, hid, htext⟩, b, hb, hbid, hnotification⟩ := h
  obtain ⟨⟨y, hy, hyid, hid', htext'⟩, b', hb', hbid', hnotification'⟩ := h'
  have hxy : x = y := List.inj_on_of_nodup_map htables.unique hx hy (hxid.trans hyid.symm)
  have hbb : b = b' := List.inj_on_of_nodup_map htables.bindingIds hb hb' <| by
    rw [htables.bound b hb, htables.bound b' hb', hbid, hbid']
  subst hxy hbb
  obtain ⟨i, text, notification⟩ := existing
  obtain ⟨i', text', notification'⟩ := existing'
  simp_all

/-! ## One row -/

@[simp] theorem setTransaction_credentials (id : String) (row : IssuanceRow) :
    (s.setTransaction id row).credentials = s.credentials := rfl

@[simp] theorem setTransaction_bindings (id : String) (row : IssuanceRow) :
    (s.setTransaction id row).bindings = s.bindings := rfl

@[simp] theorem setTransaction_self (id : String) (row : IssuanceRow) :
    (s.setTransaction id row).transactions id = some row := by
  simp [IssuanceStore.setTransaction]

@[simp] theorem setTransaction_of_ne {id other : String} (h : other ≠ id) (row : IssuanceRow) :
    (s.setTransaction id row).transactions other = s.transactions other := by
  simp [IssuanceStore.setTransaction, h]

theorem Moves.settled {before after : CredentialTransactionStatus} (h : Moves before after)
    (hsettled : Settled before) : Settled after := by
  rcases h with rfl | rfl | ⟨hfree, -⟩
  · exact hsettled
  · exact .inr rfl
  · exact absurd hsettled hfree

theorem Moves.issued {before after : CredentialTransactionStatus} (h : Moves before after)
    (hissued : after = .issued) : before = .issued := by
  rcases h with rfl | rfl | ⟨-, hne⟩
  · exact hissued
  · cases hissued
  · exact absurd hissued hne

theorem Tables.setTransaction (h : Tables services s) {id : String} {row row' : IssuanceRow}
    (hrow : s.transactions id = some row) (hid : row'.id = row.id)
    (hmoves : Moves row.status row'.status) : Tables services (s.setTransaction id row') where
  keyed := fun other found hfound => by
    by_cases heq : other = id
    · subst heq
      rw [setTransaction_self, Option.some.injEq] at hfound
      rw [← hfound, hid, h.keyed _ row hrow]
    · rw [setTransaction_of_ne heq] at hfound
      exact h.keyed other found hfound
  unique := h.unique
  settled := fun x hx => by
    obtain ⟨found, hfound, hsettled⟩ := h.settled x hx
    by_cases heq : x.transactionId = id
    · rw [heq, hrow, Option.some.injEq] at hfound
      exact ⟨row', by rw [heq, setTransaction_self], hmoves.settled (hfound ▸ hsettled)⟩
    · exact ⟨found, by rwa [setTransaction_of_ne heq], hsettled⟩
  issued := fun other found hfound hissued => by
    by_cases heq : other = id
    · subst heq
      rw [setTransaction_self, Option.some.injEq] at hfound
      exact h.issued other row hrow (hmoves.issued (hfound ▸ hissued))
    · rw [setTransaction_of_ne heq] at hfound
      exact h.issued other found hfound hissued
  bindingIds := h.bindingIds
  bound := h.bound

theorem Later.setTransaction {id : String} {row row' : IssuanceRow}
    (hrow : s.transactions id = some row) (hmoves : Moves row.status row'.status) :
    Later s (s.setTransaction id row') where
  credentials := List.prefix_rfl
  bindings := List.prefix_rfl
  rows := fun other found hfound => by
    by_cases heq : other = id
    · subst heq
      rw [hrow, Option.some.injEq] at hfound
      subst hfound
      refine ⟨row', setTransaction_self .., hmoves.settled, fun hrevoked => ?_⟩
      rcases hmoves with heq | heq | ⟨hfree, -⟩
      · exact heq.trans hrevoked
      · exact heq
      · exact absurd (.inr hrevoked) hfree
    · exact ⟨found, by rwa [setTransaction_of_ne heq], fun h => h, fun h => h⟩

/-! ## The statements -/

/-- What a statement does: the tables stay in order, nothing is lost, and every busy row stays
busy, unless the statement ends the claim of its transaction. -/
structure Written (services : IssuanceServices) (s s' : IssuanceStore) (ended : Option String) :
    Prop where
  tables : Tables services s'
  later : Later s s'
  kept : ∀ id row, s.transactions id = some row → Busy row.status → ended ≠ some id →
    ∃ row', s'.transactions id = some row' ∧ Busy row'.status

theorem Written.refl (h : Tables services s) (ended : Option String) :
    Written services s s ended :=
  ⟨h, Later.refl s, fun _ row hrow hbusy _ => ⟨row, hrow, hbusy⟩⟩

/-- **One row is rewritten.** -/
theorem Tables.written (h : Tables services s) {id : String} {row row' : IssuanceRow}
    {ended : Option String} (hrow : s.transactions id = some row) (hid : row'.id = row.id)
    (hmoves : Moves row.status row'.status)
    (hbusy : Busy row.status → ended ≠ some id → Busy row'.status) :
    Written services s (s.setTransaction id row') ended where
  tables := h.setTransaction hrow hid hmoves
  later := Later.setTransaction hrow hmoves
  kept := fun other found hfound hfoundBusy hended => by
    by_cases heq : other = id
    · subst heq
      rw [hrow, Option.some.injEq] at hfound
      subst hfound
      exact ⟨row', setTransaction_self .., hbusy hfoundBusy hended⟩
    · exact ⟨found, by rwa [setTransaction_of_ne heq], hfoundBusy⟩

theorem Tables.updateWhen (h : Tables services s) (id : String) {condition : IssuanceRow → Bool}
    {f : IssuanceRow → IssuanceRow} {ended : Option String}
    (hf : ∀ row, condition row = true → (f row).id = row.id ∧ Moves row.status (f row).status ∧
      (Busy row.status → ended ≠ some id → Busy (f row).status)) :
    Written services s (s.updateWhen id condition f) ended := by
  unfold IssuanceStore.updateWhen
  cases hrow : s.transactions id with
  | none => exact Written.refl h ended
  | some row =>
      by_cases hcondition : condition row = true
      · obtain ⟨hid, hmoves, hbusy⟩ := hf row hcondition
        simp only [if_pos hcondition]
        exact h.written hrow hid hmoves hbusy
      · simp only [if_neg hcondition]
        exact Written.refl h ended

theorem free_of_pending {status : CredentialTransactionStatus}
    (h : status = .pending ∨ status = .authorized) : ¬ Busy status ∧ ¬ Settled status := by
  rcases h with rfl | rfl <;> simp [Busy, Settled]

/-- **A claim** takes a row that nobody holds. -/
theorem Tables.claimWhen (h : Tables services s) (copy : IssuanceRow) (credentialId : String)
    {condition : IssuanceRow → Bool}
    (hcondition : ∀ row, condition row = true → row.status = .pending ∨ row.status = .authorized) :
    Written services s (claimWhen s copy credentialId condition).2 none ∧
      ∀ claimed, (claimWhen s copy credentialId condition).1 = some claimed →
        claimed.id = copy.id ∧
        (∃ row, s.transactions copy.id = some row ∧ ¬ Busy row.status) ∧
        ∃ row, (Signing.claimWhen s copy credentialId condition).2.transactions copy.id = some row ∧
          Busy row.status := by
  unfold Signing.claimWhen
  cases hrow : s.transactions copy.id with
  | none => exact ⟨Written.refl h none, fun _ hnone => by cases hnone⟩
  | some row =>
      by_cases hc : condition row = true
      · have hfree := free_of_pending (hcondition row hc)
        simp only [if_pos hc]
        refine ⟨h.written hrow rfl (.inr (.inr ⟨hfree.2, by simp [IssuanceRow.claimedBy]⟩))
          fun hbusy _ => absurd hbusy hfree.1, ?_⟩
        rintro claimed ⟨⟩
        exact ⟨h.keyed _ row hrow, ⟨row, rfl, hfree.1⟩, _, setTransaction_self .., .inl rfl⟩
      · simp only [if_neg hc]
        exact ⟨Written.refl h none, fun _ hnone => by cases hnone⟩

theorem Tables.markFailedIfSigning (h : Tables services s) (id : String) :
    Written services s (markFailedIfSigning s id) (some id) := by
  unfold Signing.markFailedIfSigning
  cases hrow : s.transactions id with
  | none => exact Written.refl h _
  | some row =>
      by_cases hsigning : row.status = .signing
      · simp only [if_pos hsigning]
        refine h.written hrow rfl (.inr (.inr ⟨?_, by simp⟩)) fun _ hne => absurd rfl hne
        simp [Settled, hsigning]
      · simp only [if_neg hsigning]
        exact Written.refl h _

theorem Tables.releaseRetryably (h : Tables services s) {claim : DidcommClaim}
    (hprevious : claim.previousStatus = .pending ∨ claim.previousStatus = .authorized) :
    Written services s (releaseRetryably s claim).2 (some claim.transaction.id) := by
  unfold Signing.releaseRetryably
  cases hrow : s.transactions claim.transaction.id with
  | none => exact Written.refl h _
  | some row =>
      simp only
      split
      case isTrue hcondition =>
        refine h.written hrow rfl (.inr (.inr ⟨?_, ?_⟩)) fun _ hne => absurd rfl hne
        · simp [Settled, hcondition.2.1]
        · rcases hprevious with hprevious | hprevious <;> simp [hprevious]
      case isFalse => exact Written.refl h _

/-- **The other statements** never take a row out of a busy status. -/
theorem Tables.other (h : Tables services s) (statement : OtherStatement) :
    Written services s (statement.apply s) none := by
  cases statement with
  | insert row =>
      rw [OtherStatement.apply]
      split
      case isTrue hnew =>
        have hother : ∀ id found, s.transactions id = some found →
            (s.setTransaction row.id row).transactions id = some found := fun id found hfound => by
          rw [setTransaction_of_ne, hfound]
          rintro rfl
          rw [hnew.1] at hfound
          cases hfound
        refine ⟨⟨fun id found hfound => ?_, h.unique, fun x hx => ?_, fun id found hfound hissued =>
          ?_, h.bindingIds, h.bound⟩, ⟨List.prefix_rfl, List.prefix_rfl, fun id found hfound =>
          ⟨found, hother id found hfound, fun h => h, fun h => h⟩⟩,
          fun id found hfound hbusy _ => ⟨found, hother id found hfound, hbusy⟩⟩
        · by_cases heq : id = row.id
          · subst heq
            rw [setTransaction_self, Option.some.injEq] at hfound
            rw [hfound]
          · rw [setTransaction_of_ne heq] at hfound
            exact h.keyed id found hfound
        · obtain ⟨found, hfound, hsettled⟩ := h.settled x hx
          exact ⟨found, hother _ found hfound, hsettled⟩
        · by_cases heq : id = row.id
          · subst heq
            rw [setTransaction_self, Option.some.injEq] at hfound
            rw [← hfound] at hissued
            rcases hnew.2 with hstatus | hstatus <;> rw [hstatus] at hissued <;> cases hissued
          · rw [setTransaction_of_ne heq] at hfound
            exact h.issued id found hfound hissued
      case isFalse => exact Written.refl h none
  | exchange id claims =>
      refine h.updateWhen id fun row hrow => ⟨rfl, ?_, ?_⟩
      · exact .inr (.inr ⟨(free_of_pending (.inl (of_decide_eq_true hrow))).2, by simp⟩)
      · exact fun hbusy => absurd hbusy (free_of_pending (.inl (of_decide_eq_true hrow))).1
  | bind id claims =>
      refine h.updateWhen id fun row _ => ⟨rfl, ?_, ?_⟩
      · by_cases hpending : row.status = .pending
        · simp [hpending, Moves, Settled]
        · simp [hpending, Moves]
      · by_cases hpending : row.status = .pending
        · simp [hpending, Busy]
        · simp [hpending]
  | refresh id prepared =>
      exact h.updateWhen id fun row _ => ⟨rfl, .inl rfl, fun hbusy _ => hbusy⟩
  | revoke id =>
      exact h.updateWhen id fun row _ => ⟨rfl, .inr (.inl rfl), fun _ _ => .inr (.inr rfl)⟩
  | cancel id =>
      exact h.updateWhen id fun row _ => ⟨rfl, .inr (.inl rfl), fun _ _ => .inr (.inr rfl)⟩

/-! ## The finalization -/

/-- An insertion that adds a binding adds the one of the transaction. -/
theorem insertBinding_cases (services : IssuanceServices) (s : IssuanceStore)
    (transactionId credentialId notificationId : String) :
    insertBinding services s transactionId credentialId notificationId = s ∨
      ∃ b, b.id = notificationBindingEventId services transactionId ∧
        b.transactionId = transactionId ∧ (∀ b' ∈ s.bindings, b'.id ≠ b.id) ∧
        insertBinding services s transactionId credentialId notificationId =
          { s with bindings := s.bindings ++ [b] } := by
  unfold insertBinding
  cases hrow : s.transactions transactionId with
  | none => exact .inl rfl
  | some row =>
      simp only
      split
      case isTrue hnew =>
        exact .inr ⟨_, rfl, rfl, fun b hb => (hnew.2 b hb).1, rfl⟩
      case isFalse => exact .inl rfl

@[simp] theorem insertBinding_transactions (s : IssuanceStore) (id credentialId n : String) :
    (insertBinding services s id credentialId n).transactions = s.transactions := by
  obtain h | ⟨b, -, -, -, h⟩ := insertBinding_cases services s id credentialId n <;>
    rw [h]

@[simp] theorem insertBinding_credentials (s : IssuanceStore) (id credentialId n : String) :
    (insertBinding services s id credentialId n).credentials = s.credentials := by
  obtain h | ⟨b, -, -, -, h⟩ := insertBinding_cases services s id credentialId n <;>
    rw [h]

theorem insertBinding_prefix (s : IssuanceStore) (id credentialId n : String) :
    s.bindings <+: (insertBinding services s id credentialId n).bindings := by
  obtain h | ⟨b, -, -, -, h⟩ := insertBinding_cases services s id credentialId n
  · exact ⟨[], by rw [List.append_nil, h]⟩
  · rw [h]
    exact List.prefix_append _ _

/-- The bindings keep their identifiers apart. -/
theorem insertBinding_bound (hids : (s.bindings.map (·.id)).Nodup)
    (hbound : ∀ b ∈ s.bindings, b.id = notificationBindingEventId services b.transactionId)
    (id credentialId n : String) :
    ((insertBinding services s id credentialId n).bindings.map (·.id)).Nodup ∧
      ∀ b ∈ (insertBinding services s id credentialId n).bindings,
        b.id = notificationBindingEventId services b.transactionId := by
  obtain h | ⟨b, hid, htransaction, hfresh, h⟩ :=
    insertBinding_cases services s id credentialId n
  · rw [h]
    exact ⟨hids, hbound⟩
  · rw [h]
    refine ⟨?_, List.forall_mem_append.mpr ⟨hbound, fun b' hb' => ?_⟩⟩
    · simp only [List.map_append, List.map_cons, List.map_nil]
      refine hids.append (List.nodup_singleton _) fun x hx hb => ?_
      obtain ⟨b', hb', rfl⟩ := List.mem_map.mp hx
      exact hfresh b' hb' (List.mem_singleton.mp hb)
    · rw [List.mem_singleton.mp hb', hid, htransaction]

theorem Tables.insertBinding (h : Tables services s) (id credentialId n : String) :
    Written services s (insertBinding services s id credentialId n) none where
  tables :=
    { keyed := by simpa using h.keyed
      unique := by simpa using h.unique
      settled := by simpa using h.settled
      issued := by simpa using h.issued
      bindingIds := (insertBinding_bound h.bindingIds h.bound id credentialId n).1
      bound := (insertBinding_bound h.bindingIds h.bound id credentialId n).2 }
  later := ⟨by simp, insertBinding_prefix s id credentialId n, fun other row hrow =>
    ⟨row, by simpa using hrow, fun h => h, fun h => h⟩⟩
  kept := fun other row hrow hbusy _ => ⟨row, by simpa using hrow, hbusy⟩

/-- A binding that was verified is stored. -/
theorem verifyBinding_eq_ok {id credentialId organizationId n : String}
    {applicationId : Option String}
    (h : verifyBinding services s id credentialId organizationId applicationId n = .ok ()) :
    ∃ b ∈ s.bindings, b.transactionId = id ∧ b.notificationId = n := by
  unfold verifyBinding at h
  split at h
  case h_1 b hb =>
    rw [validateNotificationBinding, rejectIf_eq_ok] at h
    have hmem : b ∈ s.bindings := List.mem_of_mem_filter (hb ▸ List.mem_singleton_self b)
    exact ⟨b, hmem, by tauto, by tauto⟩
  case h_2 => cases h

/-- What an announcement adds to the tables. -/
theorem announce_eq_ok {transaction : IssuanceRow} {credential : IssuedCredential}
    {notificationId : Option String}
    (h : announce services s transaction credential notificationId = .ok s') :
    s'.transactions = s.transactions ∧ s'.credentials = s.credentials ∧
      s.bindings <+: s'.bindings ∧
      (∀ n, notificationId = some n →
        ∃ b ∈ s'.bindings, b.transactionId = transaction.id ∧ b.notificationId = n) ∧
      ((s.bindings.map (·.id)).Nodup →
        (∀ b ∈ s.bindings, b.id = notificationBindingEventId services b.transactionId) →
        (s'.bindings.map (·.id)).Nodup ∧
          ∀ b ∈ s'.bindings, b.id = notificationBindingEventId services b.transactionId) := by
  cases notificationId with
  | none =>
      cases h
      exact ⟨rfl, rfl, List.prefix_rfl, fun _ hnone => (by cases hnone), fun hids hbound =>
        ⟨hids, hbound⟩⟩
  | some n =>
      simp only [announce, insertNotificationBinding, bind_eq_ok, exists_unit] at h
      obtain ⟨-, hverified, ⟨⟩⟩ := h
      refine ⟨by simp, by simp, insertBinding_prefix .., ?_, fun hids hbound =>
        insertBinding_bound hids hbound ..⟩
      rintro _ ⟨⟩
      exact verifyBinding_eq_ok hverified

/-- **A finalization** issues the credential of a row that is being signed. -/
theorem Tables.finalizeCredential (h : Tables services s) {transaction : IssuanceRow}
    {credential : IssuedCredential} {notificationId : Option String} {rest : Bool}
    (hok : finalizeCredential services s transaction credential notificationId rest = .ok s') :
    Written services s s' none ∧
      (credential ∈ s'.credentials ∧ credential.transactionId = transaction.id) ∧
      ∀ n, notificationId = some n →
        Announced s' transaction.id ⟨credential.id, credential.credential, n⟩ := by
  simp only [Signing.finalizeCredential, insertCredential, bind_eq_ok, exists_unit, rejectIf_eq_ok,
    okOr_eq_ok, validateFinalizationInput, validateAuthoritativeFinalization] at hok
  obtain ⟨hinput, row, hrow, hauthoritative, -, hnone, -, ⟨-, ⟨⟩⟩, announced, hannounced, -, ⟨⟩⟩ := hok
  obtain ⟨htransactions, hcredentials, hprefix, hbinding, hids⟩ := announce_eq_ok hannounced
  simp only at htransactions hcredentials hprefix hids
  obtain ⟨hbindingIds, hbound⟩ := hids h.bindingIds h.bound
  have hid : credential.transactionId = transaction.id := by tauto
  have hsigning : row.status = .signing := by tauto
  have hother : ∀ id found, id ≠ transaction.id →
      ((announced.setTransaction transaction.id
        { row with
          status := .issued, nonce := none, issuedAt := some credential.issuedAt }).transactions id
            = some found ↔ s.transactions id = some found) := fun id found hne => by
    rw [setTransaction_of_ne hne, htransactions]
  have hmem : ∀ x, x ∈ announced.credentials ↔ x ∈ s.credentials ∨ x = credential := fun x => by
    rw [hcredentials, List.mem_append, List.mem_singleton]
  refine ⟨⟨⟨fun id found hfound => ?_, ?_, fun x hx => ?_, fun id found hfound hissued => ?_,
    hbindingIds, hbound⟩, ⟨?_, hprefix, fun id found hfound => ?_⟩,
    fun id found hfound hbusy _ => ?_⟩, ⟨(hmem _).mpr (.inr rfl), hid⟩, fun n hn =>
    ⟨⟨credential, (hmem _).mpr (.inr rfl), hid, rfl, rfl⟩, hbinding n hn⟩⟩
  · by_cases heq : id = transaction.id
    · subst heq
      rw [setTransaction_self, Option.some.injEq] at hfound
      rw [← hfound]
      exact h.keyed _ row hrow
    · exact h.keyed id found ((hother id found heq).mp hfound)
  · rw [setTransaction_credentials, hcredentials, List.map_append, List.map_singleton]
    refine h.unique.append (List.nodup_singleton _) fun x hx hsame => ?_
    obtain ⟨y, hy, rfl⟩ := List.mem_map.mp hx
    exact hnone ⟨y, hy, (List.mem_singleton.mp hsame).trans hid⟩
  · rcases (hmem x).mp hx with hx | rfl
    · obtain ⟨found, hfound, hsettled⟩ := h.settled x hx
      have hne : x.transactionId ≠ transaction.id := fun heq => hnone ⟨x, hx, heq⟩
      exact ⟨found, (hother _ found hne).mpr hfound, hsettled⟩
    · exact ⟨_, by rw [hid, setTransaction_self], .inl rfl⟩
  · by_cases heq : id = transaction.id
    · exact ⟨credential, (hmem _).mpr (.inr rfl), hid.trans heq.symm⟩
    · obtain ⟨x, hx, hxid⟩ := h.issued id found ((hother id found heq).mp hfound) hissued
      exact ⟨x, (hmem x).mpr (.inl hx), hxid⟩
  · rw [setTransaction_credentials, hcredentials]
    exact List.prefix_append _ _
  · by_cases heq : id = transaction.id
    · subst heq
      rw [hrow, Option.some.injEq] at hfound
      subst hfound
      exact ⟨_, setTransaction_self .., by simp [Settled, hsigning], by simp [hsigning]⟩
    · exact ⟨found, (hother id found heq).mpr hfound, fun h => h, fun h => h⟩
  · by_cases heq : id = transaction.id
    · subst heq
      exact ⟨_, setTransaction_self .., .inr (.inl rfl)⟩
    · exact ⟨found, (hother id found heq).mpr hfound, hbusy⟩

/-! ## The steps -/

/-- A credential that is found for a transaction is one of its own. -/
theorem joined_eq_some {id : String} {credential : IssuedCredential} {row : IssuanceRow}
    (h : s.joined id = some (credential, row)) :
    credential ∈ s.credentials ∧ credential.transactionId = id := by
  simp only [IssuanceStore.joined, Option.bind_eq_bind, Option.bind_eq_some_iff] at h
  obtain ⟨found, hfound, row', -, hguard⟩ := h
  split at hguard
  case isTrue =>
    cases hguard
    rw [IssuanceStore.credential?] at hfound
    have hid := List.find?_some hfound
    exact ⟨List.mem_of_find?_eq_some hfound, of_decide_eq_true hid⟩
  case isFalse => cases hguard

theorem Lookup.answer_spec {id : String} {existing : ExistingCredential} (lookup : Lookup)
    (h : Announced s id existing) :
    (lookup.answer id existing).holds = none ∧ (lookup.answer id existing).Sound s := by
  rcases lookup with _ | issued
  · exact ⟨rfl, h⟩
  · cases issued
    · exact ⟨rfl, trivial⟩
    · exact ⟨rfl, h⟩

theorem lookUp_spec (id : String) (lookup : Lookup) :
    (lookUp services s id lookup).holds = none ∧ (lookUp services s id lookup).Sound s := by
  unfold lookUp
  split
  case h_1 => exact ⟨rfl, trivial⟩
  case h_2 credential row hjoined =>
    have hcredential := joined_eq_some hjoined
    split
    case h_1 => exact ⟨rfl, hcredential⟩
    case h_2 b hb =>
      split
      case h_1 => exact ⟨rfl, trivial⟩
      case h_2 existing hexisting =>
        have hbound := List.find?_some hb
        simp only [existingCredential, bind_eq_ok, exists_unit, rejectIf_eq_ok] at hexisting
        obtain ⟨-, ⟨⟩⟩ := hexisting
        refine lookup.answer_spec ⟨⟨credential, hcredential.1, hcredential.2, rfl, rfl⟩, b,
          List.mem_of_find?_eq_some hb, ?_, rfl⟩
        exact (of_decide_eq_true hbound).2

theorem verified_spec {id : String} {credential : IssuedCredential} {row : IssuanceRow}
    (lookup : Lookup) (h : credential ∈ s.credentials ∧ credential.transactionId = id) :
    (verified services s id lookup credential row).holds = none ∧
      (verified services s id lookup credential row).Sound s := by
  unfold verified
  split
  case h_1 => exact ⟨rfl, trivial⟩
  case h_2 hok =>
    exact lookup.answer_spec ⟨⟨credential, h.1, h.2, rfl, rfl⟩, verifyBinding_eq_ok hok⟩

/-- **A step without a claim** holds none afterwards. -/
theorem freeStep_spec {call call' : IssuanceCall} {event : IssuanceEvent} (hsound : call.Sound s)
    (h : freeStep services s call event = some call') :
    call'.holds = none ∧ call'.Sound s := by
  unfold freeStep at h
  split at h
  case h_1 id =>
    cases h
    cases s.transactions id <;> exact ⟨rfl, trivial⟩
  case h_2 id =>
    cases h
    cases s.transactions id with
    | none => exact ⟨rfl, trivial⟩
    | some row =>
        simp only [Option.elim_some]
        split <;> exact ⟨rfl, trivial⟩
  case h_3 transaction credentialType issuer =>
    cases h
    unfold admission
    split <;> exact ⟨rfl, trivial⟩
  case h_4 transaction answer =>
    cases h
    unfold consumed
    split <;> exact ⟨rfl, trivial⟩
  case h_5 => cases h; exact ⟨rfl, trivial⟩
  case h_6 id lookup => cases h; exact lookUp_spec id lookup
  case h_7 id lookup credential =>
    cases h
    cases hjoined : s.joined id with
    | none => exact ⟨rfl, trivial⟩
    | some found =>
        simp only [Option.elim_some]
        split
        case isTrue => exact ⟨rfl, hsound⟩
        case isFalse => exact ⟨rfl, trivial⟩
  case h_8 id lookup credential row => cases h; exact verified_spec lookup hsound
  all_goals cases h
  all_goals exact ⟨rfl, trivial⟩

/-- **A step with a claim** that leaves the tables goes on with the same claim, or ends. -/
theorem heldStep_spec {call call' : IssuanceCall} {event : IssuanceEvent} (hsound : call.Sound s)
    (h : heldStep services call event = some call') :
    (call'.holds = call.holds ∨ call'.holds = none) ∧ call'.Sound s := by
  unfold heldStep at h
  split at h
  case h_1 =>
    split at h
    case h_1 => cases h; exact ⟨.inl rfl, trivial⟩
    case h_2 => cases h; exact ⟨.inl rfl, trivial⟩
  case h_2 =>
    split at h <;> cases h <;> exact ⟨.inl rfl, hsound⟩
  case h_3 => cases h; exact ⟨.inl rfl, hsound⟩
  case h_4 => cases h; exact ⟨.inl rfl, trivial⟩
  case h_5 => cases h; exact ⟨.inl rfl, trivial⟩
  case h_6 => cases h; exact ⟨.inl rfl, hsound⟩
  case h_7 => cases h; exact ⟨.inl rfl, hsound⟩
  case h_8 => cases h; exact ⟨.inr rfl, trivial⟩
  case h_9 => cases h; exact ⟨.inr rfl, trivial⟩
  case h_10 => cases h

/-- What a step does to the tables and to the claim of the call that takes it. -/
structure Stepped (services : IssuanceServices) (s s' : IssuanceStore) (call call' : IssuanceCall) :
    Prop where
  tables : Tables services s'
  later : Later s s'
  sound : call'.Sound s'
  kept : ∀ id row, s.transactions id = some row → Busy row.status →
    (call.holds = some id ∧ call'.holds = none) ∨
      ∃ row', s'.transactions id = some row' ∧ Busy row'.status
  claims : ∀ id, call'.holds = some id → call.holds = some id ∨
    (∃ row, s.transactions id = some row ∧ ¬ Busy row.status) ∧
      ∃ row, s'.transactions id = some row ∧ Busy row.status

/-- A step that takes no new claim. -/
theorem Written.stepped {call call' : IssuanceCall} {ended : Option String}
    (h : Written services s s' ended) (hsound : call'.Sound s')
    (hholds : call'.holds = call.holds ∨ call'.holds = none)
    (hended : ∀ id, ended = some id → call.holds = some id ∧ call'.holds = none) :
    Stepped services s s' call call' where
  tables := h.tables
  later := h.later
  sound := hsound
  kept := fun id row hrow hbusy => by
    by_cases hend : ended = some id
    · exact .inl (hended id hend)
    · exact .inr (h.kept id row hrow hbusy hend)
  claims := fun id hid => by
    rcases hholds with heq | hnone
    · exact .inl (heq ▸ hid)
    · rw [hnone] at hid
      cases hid

/-- A step that claims a transaction, or fails to. -/
theorem Written.claimStepped {call call' : IssuanceCall} (h : Written services s s' none)
    (hsound : call'.Sound s')
    (hclaims : ∀ id, call'.holds = some id →
      (∃ row, s.transactions id = some row ∧ ¬ Busy row.status) ∧
        ∃ row, s'.transactions id = some row ∧ Busy row.status) :
    Stepped services s s' call call' where
  tables := h.tables
  later := h.later
  sound := hsound
  kept := fun id row hrow hbusy => .inr (h.kept id row hrow hbusy nofun)
  claims := fun id hid => .inr (hclaims id hid)

theorem claimForSigning_stepped (htables : Tables services s) (copy : IssuanceRow)
    (credentialId : String) (call : IssuanceCall) :
    Stepped services s (claimForSigning s copy credentialId).2 call
      (claimedSigning copy.id credentialId (claimForSigning s copy credentialId).1) := by
  obtain ⟨hwritten, hclaimed⟩ := htables.claimWhen copy credentialId
    fun row (hrow : decide (row.status = .authorized) = true) => .inr (of_decide_eq_true hrow)
  rw [← claimForSigning] at hwritten hclaimed
  cases hresult : (claimForSigning s copy credentialId).1 with
  | none => exact hwritten.claimStepped trivial nofun
  | some claimed =>
      obtain ⟨hid, hfree, hbusy⟩ := hclaimed claimed hresult
      refine hwritten.claimStepped trivial ?_
      rintro _ ⟨⟩
      rw [hid]
      exact ⟨hfree, hbusy⟩

theorem claimRetryably_stepped (htables : Tables services s) (copy : IssuanceRow)
    (credentialId : String) (call : IssuanceCall) :
    Stepped services s (claimRetryably s copy credentialId).2 call
      (claimedDelivery credentialId (claimRetryably s copy credentialId).1) := by
  unfold claimRetryably
  split
  case isTrue hfree =>
    obtain ⟨hwritten, hclaimed⟩ := htables.claimWhen copy credentialId
      fun row (hrow : decide (row.organizationId = copy.organizationId ∧
        row.status = copy.status) = true) => by
      rw [(of_decide_eq_true hrow).2]
      exact hfree
    simp only
    cases hresult : (claimWhen s copy credentialId fun row =>
        row.organizationId = copy.organizationId ∧ row.status = copy.status).1 with
    | none => exact hwritten.claimStepped trivial nofun
    | some claimed =>
        obtain ⟨hid, hrow, hbusy⟩ := hclaimed claimed hresult
        refine hwritten.claimStepped hfree ?_
        rintro _ ⟨⟩
        rw [hid]
        exact ⟨hrow, hbusy⟩
  case isFalse => exact (Written.refl htables none).claimStepped trivial nofun

/-- The same step when its call does not learn what it did. -/
theorem Stepped.unlearnt {call call' : IssuanceCall} {e : IssuanceError}
    (h : Stepped services s s' call call') (hcall : call.holds = none) :
    Stepped services s s' call (.failed e) where
  tables := h.tables
  later := h.later
  sound := trivial
  kept := fun id row hrow hbusy => .inr <| by
    rcases h.kept id row hrow hbusy with ⟨hholds, -⟩ | hkept
    · rw [hcall] at hholds
      cases hholds
    · exact hkept
  claims := nofun

/-- **A step that writes the tables.** -/
theorem writeStep_stepped (htables : Tables services s) {call call' : IssuanceCall}
    {event : IssuanceEvent} (hsound : call.Sound s)
    (h : writeStep services s call event = some (s', call')) :
    Stepped services s s' call call' := by
  unfold writeStep at h
  split at h
  case h_1 transaction issuer learnt =>
    cases h
    have hstepped := claimForSigning_stepped htables (applyIssuerContext transaction issuer)
      (reservedCredentialId services.uuidV5
        (applyIssuerContext transaction issuer).toCredentialTransaction) (.ready transaction)
    cases learnt
    · exact hstepped.unlearnt rfl
    · exact hstepped
  case h_2 transaction issuer learnt =>
    cases h
    have hstepped := claimRetryably_stepped htables (applyIssuerContext transaction issuer)
      (reservedCredentialId services.uuidV5
        (applyIssuerContext transaction issuer).toCredentialTransaction) (.prepared transaction)
    cases learnt
    · exact hstepped.unlearnt rfl
    · exact hstepped
  case h_3 transaction credential notificationId rest learnt =>
    split at h
    case h_1 =>
      cases h
      exact (Written.refl htables none).stepped trivial (.inl rfl) nofun
    case h_2 finalized hok =>
      cases h
      obtain ⟨hwritten, -, hannounced⟩ := htables.finalizeCredential hok
      cases learnt
      · exact hwritten.stepped trivial (.inl rfl) nofun
      · exact hwritten.stepped (hannounced notificationId rfl) (.inl rfl) nofun
  case h_4 claim credential rest learnt =>
    split at h
    case h_1 =>
      cases h
      exact (Written.refl htables none).stepped hsound (.inl rfl) nofun
    case h_2 finalized hok =>
      cases h
      obtain ⟨hwritten, hcredential, -⟩ := htables.finalizeCredential hok
      cases learnt
      · exact hwritten.stepped hsound (.inl rfl) nofun
      · exact hwritten.stepped hcredential (.inl rfl) nofun
  case h_5 id e =>
    cases h
    refine (htables.markFailedIfSigning id).stepped trivial (.inr rfl) ?_
    rintro _ ⟨⟩
    exact ⟨rfl, rfl⟩
  case h_6 claim e =>
    cases h
    refine (htables.releaseRetryably hsound).stepped ?_ ?_ ?_
    · split <;> trivial
    · right
      split <;> rfl
    · rintro _ ⟨⟩
      refine ⟨rfl, ?_⟩
      split <;> rfl
  case h_7 claim e =>
    cases h
    refine (htables.releaseRetryably hsound).stepped trivial (.inr rfl) ?_
    rintro _ ⟨⟩
    exact ⟨rfl, rfl⟩
  case h_8 id lookup credential row =>
    cases h
    have hwritten := htables.insertBinding id credential.id (legacyNotificationId services id)
    have hverifying : (IssuanceCall.verifying id lookup credential row).Sound s := hsound
    exact hwritten.stepped (hverifying.later hwritten.later) (.inl rfl) nofun
  case h_9 => cases h

/-- **One step.** -/
theorem issuanceStep_stepped (htables : Tables services s) {call call' : IssuanceCall}
    {event : IssuanceEvent} (hsound : call.Sound s)
    (h : issuanceStep services event s call = some (s', call')) :
    Stepped services s s' call call' := by
  unfold issuanceStep at h
  split at h
  case h_1 statement =>
    cases h
    have hwritten := htables.other statement
    exact hwritten.stepped (hsound.later hwritten.later) (.inl rfl) nofun
  case h_2 =>
    rcases Option.or_eq_some_iff.mp h with hwrite | ⟨-, hrest⟩
    · exact writeStep_stepped htables hsound hwrite
    · obtain ⟨found, hfound, ⟨⟩⟩ := Option.map_eq_some_iff.mp hrest
      rcases Option.or_eq_some_iff.mp hfound with hfree | ⟨-, hheld⟩
      · obtain ⟨hholds, hsound'⟩ := freeStep_spec hsound hfree
        exact (Written.refl htables none).stepped hsound' (.inr hholds) nofun
      · obtain ⟨hholds, hsound'⟩ := heldStep_spec hsound hheld
        exact (Written.refl htables none).stepped hsound' hholds nofun

end

/-! ## Runs -/

section Runs

variable {ι : Type} [DecidableEq ι] {services : IssuanceServices}
  {c c' : Config IssuanceStore ι IssuanceCall}

structure Consistent (services : IssuanceServices) (c : Config IssuanceStore ι IssuanceCall) :
    Prop where
  tables : Tables services c.store
  sound : ∀ i, (c.calls i).Sound c.store
  held : ∀ i id, (c.calls i).holds = some id →
    ∃ row, c.store.transactions id = some row ∧ Busy row.status
  exclusive : ∀ i j id, (c.calls i).holds = some id → (c.calls j).holds = some id → i = j

/-- **One step keeps the claims apart.** -/
theorem Consistent.step (h : Consistent services c) {i : ι} {event : IssuanceEvent}
    (hnext : (issuanceMachine services ι).next c i event = some c') :
    Consistent services c' ∧ Later c.store c'.store := by
  obtain ⟨s, call, hstep, rfl⟩ := Machine.next_eq_some.mp hnext
  have hstepped : Stepped services c.store s (c.calls i) call :=
    issuanceStep_stepped h.tables (h.sound i) hstep
  -- a claim that another call holds is not ended, and not taken
  have hothers : ∀ j id, j ≠ i → (c.calls j).holds = some id →
      (∃ row, s.transactions id = some row ∧ Busy row.status) ∧ call.holds ≠ some id := by
    intro j id hj hholds
    obtain ⟨row, hrow, hbusy⟩ := h.held j id hholds
    refine ⟨?_, fun htaken => ?_⟩
    · rcases hstepped.kept id row hrow hbusy with ⟨hown, -⟩ | hkept
      · exact absurd (h.exclusive j i id hholds hown) hj
      · exact hkept
    · rcases hstepped.claims id htaken with hown | ⟨⟨free, hfree, hnot⟩, -⟩
      · exact hj (h.exclusive j i id hholds hown)
      · rw [hrow, Option.some.injEq] at hfree
        exact hnot (hfree ▸ hbusy)
  refine ⟨⟨hstepped.tables, fun j => ?_, fun j id hholds => ?_, fun j k id hj hk => ?_⟩,
    hstepped.later⟩
  · by_cases heq : j = i
    · subst heq
      simpa using hstepped.sound
    · simpa [heq] using (h.sound j).later hstepped.later
  · by_cases heq : j = i
    · subst heq
      simp only [Function.update_self] at hholds
      rcases hstepped.claims id hholds with hown | ⟨-, hbusy⟩
      · obtain ⟨row, hrow, hbusy⟩ := h.held j id hown
        rcases hstepped.kept id row hrow hbusy with ⟨-, hnone⟩ | hkept
        · rw [hnone] at hholds
          cases hholds
        · exact hkept
      · exact hbusy
    · simp only [Function.update_of_ne heq] at hholds
      exact (hothers j id heq hholds).1
  · by_cases hji : j = i <;> by_cases hki : k = i
    · rw [hji, hki]
    · subst hji
      simp only [Function.update_self, Function.update_of_ne hki] at hj hk
      exact absurd hj (hothers k id hki hk).2
    · subst hki
      simp only [Function.update_self, Function.update_of_ne hji] at hj hk
      exact absurd hk (hothers j id hji hj).2
    · simp only [Function.update_of_ne hji, Function.update_of_ne hki] at hj hk
      exact h.exclusive j k id hj hk

/-- **A run** keeps the claims apart and loses nothing. -/
theorem Consistent.run (h : Consistent services c) {t : List (ι × IssuanceEvent)}
    (hrun : (issuanceMachine services ι).run c t = some c') :
    Consistent services c' ∧ Later c.store c'.store :=
  Machine.run_induct_rel (R := fun c c' => Later c.store c'.store) (fun c => Later.refl c.store)
    (fun _ _ _ => Later.trans) (fun _ _ _ _ hP hnext => hP.step hnext) h hrun

/-- What holds of the issuance at the end of a run that began in `s`. -/
structure IssuedOnce (services : IssuanceServices) (s : IssuanceStore)
    (c : Config IssuanceStore ι IssuanceCall) : Prop where
  /-- A transaction has one credential at most. -/
  one : ∀ x ∈ c.store.credentials, ∀ y ∈ c.store.credentials,
    x.transactionId = y.transactionId → x = y
  /-- It has one when it is issued, and can then only be revoked. -/
  issued : ∀ id row, c.store.transactions id = some row → row.status = .issued →
    ∃ x ∈ c.store.credentials, x.transactionId = id
  settled : ∀ x ∈ c.store.credentials, ∃ row, c.store.transactions x.transactionId = some row ∧
    Settled row.status
  /-- What was issued or announced stays. -/
  kept : Later s c.store
  /-- One call at most holds a claim of a transaction or has committed its credential. -/
  exclusive : ∀ i j id, (c.calls i).holds = some id → (c.calls j).holds = some id → i = j
  /-- Whoever is answered is answered with the stored credential and its notification. -/
  answered : ∀ i id existing disposition, c.calls i = .answered id existing disposition →
    Announced c.store id existing
  agree : ∀ i j id existing existing' disposition disposition',
    c.calls i = .answered id existing disposition →
    c.calls j = .answered id existing' disposition' → existing = existing'
  /-- A claim is ended by the call that holds it, or by a revocation. -/
  own : ∀ i event c', (issuanceMachine services ι).next c i event = some c' → ∀ id row row',
    c.store.transactions id = some row → row.status = .signing →
    c'.store.transactions id = some row' → row'.status ≠ .signing → row'.status ≠ .issued →
    row'.status ≠ .revoked → (c.calls i).holds = some id ∧ (c'.calls i).holds = none

end Runs

namespace Example

def services : IssuanceServices where
  uuidV5 := id
  sha256 := id
  containsPrivateKey _ := false
  retiredOpenBadge _ _ := false

def row : IssuanceRow where
  id := "t"
  organizationId := "o"
  credentialTemplateId := ""
  revocationProfileId := none
  renewalOfCredentialId := none
  applicantId := none
  applicationId := none
  subjectDid := none
  status := .authorized
  claims := []
  credentialType := none
  deliveryMode := ""
  reservedCredentialId := some "c"
  issuerProfileId := none
  issuerMode := ""
  issuerDid := none
  issuerAlgorithm := none
  signingServiceId := none
  nonce := none
  issuedAt := none

def start : Config IssuanceStore Nat IssuanceCall :=
  ⟨⟨fun id => if id = "t" then some row else none, [], []⟩, fun _ => .idle⟩

theorem start_tables : Tables services start.store where
  keyed := fun id found hfound => by
    by_cases h : id = "t"
    · simp only [start, if_pos h, Option.some.injEq] at hfound
      rw [← hfound, h]
      rfl
    · simp [start, h] at hfound
  unique := List.nodup_nil
  settled := nofun
  issued := fun id found hfound hissued => by
    by_cases h : id = "t"
    · simp only [start, if_pos h, Option.some.injEq] at hfound
      rw [← hfound] at hissued
      cases hissued
    · simp [start, h] at hfound
  bindingIds := List.nodup_nil
  bound := nofun

def issuer : IssuerContext := ⟨"", "", "", ""⟩

def materials : Materials := ⟨"c", "jwt", none, "", none, [], 0, 0⟩

/-- Two requests prove their keys, and the second one to claim recovers what the first has
issued. -/
def twoRequests : List (Nat × IssuanceEvent) :=
  [(0, .fetch "t"), (1, .fetch "t"), (0, .prove none issuer), (1, .prove none issuer),
    (0, .consumeNonce (.ok true)), (1, .consumeNonce (.ok true)), (0, .claim issuer true),
    (1, .claim issuer true), (0, .materialize (.ok materials) "n"), (0, .finalize true true),
    (1, .exec), (1, .exec), (0, .notify (.ok ()))]

def twoRequestsRun : {c' // (issuanceMachine services Nat).run start twoRequests = some c' ∧
    c'.calls 0 = .answered "t" ⟨"c", "jwt", "n"⟩ .committed ∧
    c'.calls 1 = .answered "t" ⟨"c", "jwt", "n"⟩ .concurrentRecovery} :=
  (issuanceMachine services Nat).observed (by decide +kernel)

end Example

end Marty.Issuance.Signing
