import Marty.Devices.CredentialCalls
import Mathlib.Data.List.Nodup

/-!
# One bearer for a device, and rotations that can be repeated

The calls on holder credentials interleave in any order.  A call that writes the credentials
of a registration holds the lock on it, so that what it has read of them is still so; and
what is read without the lock never changes: the registration of a bearer, a revocation, a
confirmed pairing, a deactivation.

## Main definitions

* `Later` — what never goes back.
* `Tables` — what holds of the rows.
* `Knows` — what a call knows of the rows that it has read.
* `RotationAccount` — what is promised of every state and every step.

## Main statements

* `rotation_account` — **the account holds** in every reachable state.
-/

namespace Marty.Devices

open Lib Lib.Checked

variable {ι : Type*} {sha256 : String → Digest} {db db' : Database ι} {i j : ι}
  {id registrationId : String} {record : HolderCredentialRecord} {action : Action}
  {call call' call'' : Call} {event : Event}

/-! ## What never goes back -/

/-- The record is the same but for its revocation. -/
def HolderCredentialRecord.Same (record record' : HolderCredentialRecord) : Prop :=
  record' = { record with revokedAt := record'.revokedAt }

def Database.Confirmed (db : Database ι) (registrationId : String) : Prop :=
  ∃ row ∈ db.pairings, row.Confirms registrationId

/-- A later state of the database: time has passed, rows are kept, and revocations,
deactivations and confirmations stand. -/
structure Later (db db' : Database ι) : Prop where
  clock : db.clock ≤ db'.clock
  kept : ∀ r ∈ db.credentials, ∃ r' ∈ db'.credentials,
    r.Same r' ∧ (r.revokedAt ≠ none → r' = r)
  registered : ∀ id d, db.registrations id = some d → ∃ d', db'.registrations id = some d' ∧
    (d' = d ∨ d' = { d with isActive := false })
  confirmed : ∀ id, db.Confirmed id → db'.Confirmed id
  rotations : db.rotations <+: db'.rotations

theorem HolderCredentialRecord.Same.refl (record : HolderCredentialRecord) : record.Same record :=
  rfl

theorem HolderCredentialRecord.Same.trans {r₁ r₂ r₃ : HolderCredentialRecord} (h : r₁.Same r₂)
    (h' : r₂.Same r₃) : r₁.Same r₃ := by
  unfold HolderCredentialRecord.Same at *
  rw [h', h]

theorem Later.refl (db : Database ι) : Later db db where
  clock := Int.le_refl _
  kept r hr := ⟨r, hr, .refl r, fun _ => rfl⟩
  registered _ d hd := ⟨d, hd, .inl rfl⟩
  confirmed _ h := h
  rotations := List.prefix_rfl

theorem Later.trans {db₁ db₂ db₃ : Database ι} (h : Later db₁ db₂) (h' : Later db₂ db₃) :
    Later db₁ db₃ where
  clock := Int.le_trans h.clock h'.clock
  kept r hr := by
    obtain ⟨r', hr', hsame, hrevoked⟩ := h.kept r hr
    obtain ⟨r'', hr'', hsame', hrevoked'⟩ := h'.kept r' hr'
    refine ⟨r'', hr'', hsame.trans hsame', fun hne => ?_⟩
    obtain rfl := hrevoked hne
    exact hrevoked' hne
  registered id d hd := by
    obtain ⟨d', hd', hcase⟩ := h.registered id d hd
    obtain ⟨d'', hd'', hcase'⟩ := h'.registered id d' hd'
    refine ⟨d'', hd'', ?_⟩
    obtain rfl | rfl := hcase <;> obtain rfl | rfl := hcase' <;> simp
  confirmed id hid := h'.confirmed id (h.confirmed id hid)
  rotations := h.rotations.trans h'.rotations

/-- The registration and its credentials are as they were. -/
structure Unchanged (db db' : Database ι) (id : String) : Prop where
  registration : db'.registrations id = db.registrations id
  credentials : ∀ r, r.registrationId = id → (r ∈ db'.credentials ↔ r ∈ db.credentials)

theorem Unchanged.refl (db : Database ι) (id : String) : Unchanged db db id :=
  ⟨rfl, fun _ _ => Iff.rfl⟩

/-! ## The rows -/

/-- What holds of the rows. -/
structure Tables (sha256 : String → Digest) (db : Database ι) : Prop where
  ids : ∀ id d, db.registrations id = some d → d.id = id
  digests : (db.credentials.map (·.tokenSha256)).Nodup
  /-- At most one credential of a registration is unrevoked. -/
  current : ∀ r ∈ db.credentials, ∀ r' ∈ db.credentials, r.revokedAt = none →
    r'.revokedAt = none → r.registrationId = r'.registrationId → r = r'
  issued : ∀ r ∈ db.credentials, r.issuedAt ≤ db.clock
  issuedFor : ∀ r ∈ db.credentials, ∃ d, db.registrations r.registrationId = some d ∧
    r.IssuedFor d ∧ (d.isActive = false → r.revokedAt ≠ none)
  /-- A rotation has revoked one credential at the time at which it issued the other. -/
  rotated : ∀ x ∈ db.rotations, canonicalBearer x.pair.current = true ∧
    canonicalBearer x.pair.replacement = true ∧ x.pair.current ≠ x.pair.replacement ∧
    x.replacement.tokenSha256 = sha256 x.pair.replacement ∧
    db.Confirmed x.replacement.registrationId ∧
    (∃ a ∈ db.credentials, a.tokenSha256 = sha256 x.pair.current ∧
      a.registrationId = x.replacement.registrationId ∧
      a.revokedAt = some x.replacement.issuedAt) ∧
    ∃ b ∈ db.credentials, x.replacement.Same b
  /-- No credential is rotated twice. -/
  once : (db.rotations.map fun x => sha256 x.pair.current).Nodup

/-- What a call must have made sure of before it acts. -/
def Permitted (sha256 : String → Digest) (db : Database ι) (i : ι) : Action → Prop
  | .read => True
  | .lock registrationId => db.locks registrationId = none
  | .rollback registrationId => db.locks registrationId = some i
  | .replace rotated record now => db.locks record.registrationId = some i ∧
      db.conflicts record = false ∧ record.revokedAt = none ∧ record.issuedAt = now ∧
      now ≤ db.clock ∧
      (∃ d, db.registrations record.registrationId = some d ∧ d.isActive = true ∧
        record.IssuedFor d) ∧
      ∀ pair, rotated = some pair → canonicalBearer pair.current = true ∧
        canonicalBearer pair.replacement = true ∧ pair.current ≠ pair.replacement ∧
        record.tokenSha256 = sha256 pair.replacement ∧ db.Confirmed record.registrationId ∧
        ∃ a ∈ db.credentials, a.tokenSha256 = sha256 pair.current ∧
          a.registrationId = record.registrationId ∧ a.revokedAt = none ∧ a.issuedAt ≤ now
  | .revoke registrationId _ => db.locks registrationId = some i
  | .deactivate registrationId _ => db.locks registrationId = some i
  | .pairings rows => ∀ id, db.Confirmed id → ∃ row ∈ rows, row.Confirms id
  | .tick now => db.clock ≤ now

theorem findByDigest_eq_some {digest : Digest} (h : db.findByDigest digest = some record) :
    record ∈ db.credentials ∧ record.tokenSha256 = digest :=
  ⟨List.mem_of_find?_eq_some h, by simpa using List.find?_some h⟩

/-- A digest names at most one row. -/
theorem Tables.eq_of_digest (h : Tables sha256 db) {r r' : HolderCredentialRecord}
    (hr : r ∈ db.credentials) (hr' : r' ∈ db.credentials)
    (hsame : r.tokenSha256 = r'.tokenSha256) : r = r' :=
  List.inj_on_of_nodup_map h.digests hr hr' hsame

theorem confirmed_iff : db.confirmed id = true ↔ db.Confirmed id := by
  simp [Database.confirmed, Database.Confirmed]

/-- What `UPDATE … SET revoked_at` makes of a row. -/
def revokedIn (registrationId : String) (now : DateTime) (r : HolderCredentialRecord) :
    HolderCredentialRecord :=
  if r.registrationId = registrationId ∧ r.revokedAt = none then
    { r with revokedAt := some (max now r.issuedAt) }
  else r

theorem credentials_revokeCurrent (db : Database ι) (registrationId : String) (now : DateTime) :
    (db.revokeCurrent registrationId now).credentials =
      db.credentials.map (revokedIn registrationId now) := by
  refine List.map_congr_left fun r _ => ?_
  simp [revokedIn]

section Revoked

variable {now : DateTime} {r r' : HolderCredentialRecord}

theorem revokedIn_of_revoked (h : r.revokedAt ≠ none) : revokedIn registrationId now r = r := by
  simp [revokedIn, h]

theorem revokedIn_of_ne (h : r.registrationId ≠ registrationId) :
    revokedIn registrationId now r = r := by
  simp [revokedIn, h]

theorem revokedIn_of_current (hid : r.registrationId = registrationId) (h : r.revokedAt = none) :
    revokedIn registrationId now r = { r with revokedAt := some (max now r.issuedAt) } :=
  if_pos ⟨hid, h⟩

theorem same_revokedIn : r.Same (revokedIn registrationId now r) := by
  unfold revokedIn
  split <;> rfl

@[simp] theorem revokedIn_tokenSha256 :
    (revokedIn registrationId now r).tokenSha256 = r.tokenSha256 := by
  unfold revokedIn
  split <;> rfl

@[simp] theorem revokedIn_registrationId :
    (revokedIn registrationId now r).registrationId = r.registrationId := by
  unfold revokedIn
  split <;> rfl

@[simp] theorem revokedIn_issuedAt :
    (revokedIn registrationId now r).issuedAt = r.issuedAt := by
  unfold revokedIn
  split <;> rfl

/-- What is unrevoked afterwards was unrevoked before, in another registration. -/
theorem revokedIn_eq_none (h : (revokedIn registrationId now r).revokedAt = none) :
    revokedIn registrationId now r = r ∧ r.revokedAt = none ∧
      r.registrationId ≠ registrationId := by
  by_cases hrow : r.registrationId = registrationId ∧ r.revokedAt = none
  · rw [revokedIn, if_pos hrow] at h
    cases h
  · have hsame : revokedIn registrationId now r = r := if_neg hrow
    rw [hsame] at h
    exact ⟨hsame, h, fun hid => hrow ⟨hid, h⟩⟩

theorem HolderCredentialRecord.IssuedFor.same {d : DeviceRegistration} (h : r.IssuedFor d)
    (hsame : r.Same r') : r'.IssuedFor d := by
  unfold HolderCredentialRecord.Same at hsame
  rw [hsame]
  exact ⟨h.registrationId, h.userId, h.organizationId, h.eligible, h.lifetime⟩

/-- A deactivation leaves a record what it was issued for. -/
theorem HolderCredentialRecord.IssuedFor.deactivated {d : DeviceRegistration}
    (h : r.IssuedFor d) : r.IssuedFor { d with isActive := false } :=
  ⟨h.registrationId, h.userId, h.organizationId, h.eligible, h.lifetime⟩

end Revoked

/-! ## Actions -/

theorem Tables.revokeCurrent (h : Tables sha256 db) (registrationId : String) (now : DateTime) :
    Tables sha256 (db.revokeCurrent registrationId now) := by
  have hcredentials := credentials_revokeCurrent db registrationId now
  have hrow : ∀ r' ∈ (db.revokeCurrent registrationId now).credentials,
      ∃ r ∈ db.credentials, r' = revokedIn registrationId now r := by
    intro r' hr'
    rw [hcredentials, List.mem_map] at hr'
    obtain ⟨r, hr, rfl⟩ := hr'
    exact ⟨r, hr, rfl⟩
  have hmem : ∀ r ∈ db.credentials,
      revokedIn registrationId now r ∈ (db.revokeCurrent registrationId now).credentials := by
    intro r hr
    rw [hcredentials]
    exact List.mem_map_of_mem hr
  constructor
  case ids => exact h.ids
  case digests =>
    rw [hcredentials, List.map_map]
    have hsame : ((·.tokenSha256) ∘ revokedIn registrationId now) = (·.tokenSha256) := by
      funext r
      simp
    rw [hsame]
    exact h.digests
  case current =>
    intro r₁ hr₁ r₂ hr₂ hnone₁ hnone₂ hid
    obtain ⟨r, hr, rfl⟩ := hrow r₁ hr₁
    obtain ⟨r', hr', rfl⟩ := hrow r₂ hr₂
    obtain ⟨hsame, hnone, -⟩ := revokedIn_eq_none hnone₁
    obtain ⟨hsame', hnone', -⟩ := revokedIn_eq_none hnone₂
    rw [hsame, hsame'] at hid ⊢
    exact h.current r hr r' hr' hnone hnone' hid
  case issued =>
    intro r₁ hr₁
    obtain ⟨r, hr, rfl⟩ := hrow r₁ hr₁
    show (revokedIn registrationId now r).issuedAt ≤ db.clock
    rw [revokedIn_issuedAt]
    exact h.issued r hr
  case issuedFor =>
    intro r₁ hr₁
    obtain ⟨r, hr, rfl⟩ := hrow r₁ hr₁
    obtain ⟨d, hd, hissued, hactive⟩ := h.issuedFor r hr
    have hd' : db.registrations (revokedIn registrationId now r).registrationId = some d := by
      rwa [revokedIn_registrationId]
    refine ⟨d, hd', hissued.same same_revokedIn, fun hinactive => ?_⟩
    rw [revokedIn_of_revoked (hactive hinactive)]
    exact hactive hinactive
  case rotated =>
    intro x hx
    obtain ⟨h₁, h₂, h₃, h₄, h₅, ⟨a, ha, hdigest, hid, hrevoked⟩, b, hb, hsame⟩ := h.rotated x hx
    have hkept : revokedIn registrationId now a = a := revokedIn_of_revoked (by simp [hrevoked])
    exact ⟨h₁, h₂, h₃, h₄, h₅, ⟨a, hkept ▸ hmem a ha, hdigest, hid, hrevoked⟩,
      _, hmem b hb, hsame.trans same_revokedIn⟩
  case once => exact h.once

theorem Later.revokeCurrent (db : Database ι) (registrationId : String) (now : DateTime) :
    Later db (db.revokeCurrent registrationId now) where
  clock := Int.le_refl _
  kept r hr := by
    refine ⟨revokedIn registrationId now r, ?_, same_revokedIn, fun hne => revokedIn_of_revoked hne⟩
    rw [credentials_revokeCurrent]
    exact List.mem_map_of_mem hr
  registered _ d hd := ⟨d, hd, .inl rfl⟩
  confirmed _ h := h
  rotations := List.prefix_rfl

/-- **A replacement** is permitted to stand for the credentials that it revokes. -/
theorem Tables.replace (h : Tables sha256 db) {rotated : Option Pair} {now : DateTime}
    (hp : Permitted sha256 db i (.replace rotated record now)) :
    Tables sha256 { db.replaceLocked record now with
      rotations := db.rotations ++ rotated.toList.map fun pair => ⟨pair, record⟩ } := by
  obtain ⟨-, hfresh, hunrevoked, hnow, hclock, ⟨d, hd, hactive, hissued⟩, hpair⟩ := hp
  have hrevoked := h.revokeCurrent record.registrationId now
  have hcredentials : (db.replaceLocked record now).credentials =
      (db.revokeCurrent record.registrationId now).credentials ++ [record] := rfl
  have hnone : ∀ r ∈ (db.revokeCurrent record.registrationId now).credentials,
      r.registrationId = record.registrationId → r.revokedAt ≠ none := by
    intro r hr hid hnone
    rw [credentials_revokeCurrent, List.mem_map] at hr
    obtain ⟨q, -, rfl⟩ := hr
    exact (revokedIn_eq_none hnone).2.2 (by simpa using hid)
  simp only [Database.conflicts, List.any_eq_false, Bool.or_eq_true, beq_iff_eq, not_or] at hfresh
  constructor
  case ids => exact h.ids
  case digests =>
    show ((db.replaceLocked record now).credentials.map _).Nodup
    rw [hcredentials, List.map_append, List.nodup_append]
    refine ⟨hrevoked.digests, by simp, ?_⟩
    intro x hx y hy
    simp only [List.map_cons, List.map_nil, List.mem_singleton] at hy
    obtain ⟨r, hr, rfl⟩ := List.mem_map.mp hx
    rw [credentials_revokeCurrent, List.mem_map] at hr
    obtain ⟨q, hq, rfl⟩ := hr
    rw [hy, revokedIn_tokenSha256]
    exact (hfresh q hq).1
  case current =>
    intro r hr r' hr' hrnone hrnone' hid
    rw [hcredentials, List.mem_append, List.mem_singleton] at hr hr'
    rcases hr with hr | rfl
    · rcases hr' with hr' | rfl
      · exact hrevoked.current r hr r' hr' hrnone hrnone' hid
      · exact absurd hrnone (hnone r hr hid)
    · rcases hr' with hr' | rfl
      · exact absurd hrnone' (hnone r' hr' hid.symm)
      · rfl
  case issued =>
    intro r hr
    rw [hcredentials, List.mem_append, List.mem_singleton] at hr
    rcases hr with hr | rfl
    · exact hrevoked.issued r hr
    · exact hnow ▸ hclock
  case issuedFor =>
    intro r hr
    rw [hcredentials, List.mem_append, List.mem_singleton] at hr
    rcases hr with hr | rfl
    · exact hrevoked.issuedFor r hr
    · exact ⟨d, hd, hissued, fun hinactive => by simp [hactive] at hinactive⟩
  case rotated =>
    intro x hx
    rw [List.mem_append] at hx
    rcases hx with hx | hx
    · obtain ⟨h₁, h₂, h₃, h₄, h₅, ⟨a, ha, hrest⟩, b, hb, hsame⟩ := hrevoked.rotated x hx
      exact ⟨h₁, h₂, h₃, h₄, h₅, ⟨a, by simp [hcredentials, ha], hrest⟩, b,
        by simp [hcredentials, hb], hsame⟩
    · obtain ⟨pair, hsome, rfl⟩ := List.mem_map.mp hx
      obtain ⟨h₁, h₂, h₃, h₄, h₅, a, ha, hdigest, hid, hanone, hale⟩ :=
        hpair pair (by simpa using hsome)
      refine ⟨h₁, h₂, h₃, h₄, h₅, ⟨revokedIn record.registrationId now a, ?_, ?_, ?_, ?_⟩, record,
        by simp [hcredentials], .refl _⟩
      · rw [hcredentials, credentials_revokeCurrent]
        exact List.mem_append_left _ (List.mem_map_of_mem ha)
      · simpa using hdigest
      · simpa using hid
      · rw [revokedIn_of_current hid hanone, max_eq_left hale, hnow]
  case once =>
    show (List.map _ (db.rotations ++ _)).Nodup
    cases rotated with
    | none => simpa using h.once
    | some pair =>
        obtain ⟨-, -, -, -, -, a, ha, hdigest, -, hanone, -⟩ := hpair pair rfl
        rw [List.map_append, List.nodup_append]
        refine ⟨h.once, by simp, ?_⟩
        intro digest hold y hy heq
        simp only [Option.toList_some, List.map_cons, List.map_nil, List.mem_singleton] at hy
        obtain ⟨x, hx, rfl⟩ := List.mem_map.mp hold
        -- the credential has not been revoked, so it was not rotated before
        obtain ⟨-, -, -, -, -, ⟨a', ha', hdigest', -, hrevoked'⟩, -⟩ := h.rotated x hx
        have hsame := h.eq_of_digest ha' ha (by rw [hdigest', hdigest, heq, hy])
        rw [hsame, hanone] at hrevoked'
        cases hrevoked'

theorem Tables.deactivate (h : Tables sha256 db) (registrationId : String) (now : DateTime) :
    Tables sha256 (db.deactivate registrationId now) := by
  have hrevoked := h.revokeCurrent registrationId now
  have hregistrations : ∀ id, (db.deactivate registrationId now).registrations id =
      if id = registrationId then
        (db.registrations registrationId).map fun device => { device with isActive := false }
      else db.registrations id := by
    intro id
    by_cases hid : id = registrationId
    · simp [Database.deactivate, Database.revokeCurrent, hid]
    · simp [Database.deactivate, Database.revokeCurrent, hid]
  constructor
  case ids =>
    intro id d hd
    rw [hregistrations] at hd
    split at hd
    case isTrue hid =>
      obtain ⟨d', hd', rfl⟩ := Option.map_eq_some_iff.mp hd
      exact (h.ids _ d' hd').trans hid.symm
    case isFalse => exact h.ids id d hd
  case digests => exact hrevoked.digests
  case current => exact hrevoked.current
  case issued => exact hrevoked.issued
  case issuedFor =>
    intro r hr
    obtain ⟨d, hd, hissued, hactive⟩ := hrevoked.issuedFor r hr
    rw [hregistrations]
    by_cases hid : r.registrationId = registrationId
    · have hd' : db.registrations registrationId = some d := hid ▸ hd
      refine ⟨{ d with isActive := false }, by simp [hid, hd'], hissued.deactivated, fun _ hnone => ?_⟩
      have hr : r ∈ (db.revokeCurrent registrationId now).credentials := hr
      rw [credentials_revokeCurrent, List.mem_map] at hr
      obtain ⟨q, -, rfl⟩ := hr
      exact (revokedIn_eq_none hnone).2.2 (by simpa using hid)
    · exact ⟨d, by rw [if_neg hid]; exact hd, hissued, hactive⟩
  case rotated => exact hrevoked.rotated
  case once => exact hrevoked.once

theorem Tables.pairings (h : Tables sha256 db) {rows : List PairingConfirmation}
    (hrows : ∀ id, db.Confirmed id → ∃ row ∈ rows, row.Confirms id) :
    Tables sha256 { db with pairings := rows } where
  ids := h.ids
  digests := h.digests
  current := h.current
  issued := h.issued
  issuedFor := h.issuedFor
  rotated x hx := by
    obtain ⟨h₁, h₂, h₃, h₄, h₅, hrest⟩ := h.rotated x hx
    exact ⟨h₁, h₂, h₃, h₄, hrows _ h₅, hrest⟩
  once := h.once

theorem Tables.apply (h : Tables sha256 db) (hp : Permitted sha256 db i action) :
    Tables sha256 (db.apply i action) := by
  cases action with
  | read => exact h
  | lock registrationId => exact ⟨h.ids, h.digests, h.current, h.issued, h.issuedFor, h.rotated, h.once⟩
  | rollback registrationId =>
      exact ⟨h.ids, h.digests, h.current, h.issued, h.issuedFor, h.rotated, h.once⟩
  | replace rotated record now =>
      have h := h.replace hp
      exact ⟨h.ids, h.digests, h.current, h.issued, h.issuedFor, h.rotated, h.once⟩
  | revoke registrationId now =>
      have h := h.revokeCurrent registrationId now
      exact ⟨h.ids, h.digests, h.current, h.issued, h.issuedFor, h.rotated, h.once⟩
  | deactivate registrationId now =>
      have h := h.deactivate registrationId now
      exact ⟨h.ids, h.digests, h.current, h.issued, h.issuedFor, h.rotated, h.once⟩
  | pairings rows => exact h.pairings hp
  | tick now =>
      exact ⟨h.ids, h.digests, h.current, fun r hr => Int.le_trans (h.issued r hr) hp,
        h.issuedFor, h.rotated, h.once⟩

theorem Later.apply (hp : Permitted sha256 db i action) : Later db (db.apply i action) := by
  have hsame := Later.refl db
  cases action with
  | read => exact hsame
  | lock registrationId =>
      exact ⟨hsame.clock, hsame.kept, hsame.registered, hsame.confirmed, hsame.rotations⟩
  | rollback registrationId =>
      exact ⟨hsame.clock, hsame.kept, hsame.registered, hsame.confirmed, hsame.rotations⟩
  | replace rotated record now =>
      have h := Later.revokeCurrent db record.registrationId now
      refine ⟨h.clock, fun r hr => ?_, h.registered, h.confirmed, List.prefix_append _ _⟩
      obtain ⟨r', hr', hkept⟩ := h.kept r hr
      exact ⟨r', List.mem_append_left _ hr', hkept⟩
  | revoke registrationId now =>
      have h := Later.revokeCurrent db registrationId now
      exact ⟨h.clock, h.kept, h.registered, h.confirmed, h.rotations⟩
  | deactivate registrationId now =>
      have h := Later.revokeCurrent db registrationId now
      refine ⟨h.clock, h.kept, fun id d hd => ?_, h.confirmed, h.rotations⟩
      by_cases hid : id = registrationId
      · subst hid
        exact ⟨{ d with isActive := false },
          by simp [Database.apply, Database.setLock, Database.deactivate, Database.revokeCurrent, hd],
          .inr rfl⟩
      · refine ⟨d, ?_, .inl rfl⟩
        simpa [Database.apply, Database.setLock, Database.deactivate, Database.revokeCurrent, hid]
          using hd
  | pairings rows => exact ⟨hsame.clock, hsame.kept, hsame.registered, hp, hsame.rotations⟩
  | tick now => exact ⟨hp, hsame.kept, hsame.registered, hsame.confirmed, hsame.rotations⟩

theorem Unchanged.revokeCurrent (db : Database ι) (now : DateTime) (h : id ≠ registrationId) :
    Unchanged db (db.revokeCurrent registrationId now) id where
  registration := rfl
  credentials r hr := by
    rw [credentials_revokeCurrent, List.mem_map]
    constructor
    · rintro ⟨q, hq, rfl⟩
      rw [revokedIn_registrationId] at hr
      rwa [revokedIn_of_ne (hr ▸ h)]
    · intro hmem
      exact ⟨r, hmem, revokedIn_of_ne (hr ▸ h)⟩

/-- **A lock keeps** the registration and its credentials from every other call. -/
theorem Unchanged.apply (hp : Permitted sha256 db i action) (hlock : db.locks id = some j)
    (hne : j ≠ i) :
    Unchanged db (db.apply i action) id ∧ (db.apply i action).locks id = some j := by
  have hother : ∀ registrationId, db.locks registrationId = some i → id ≠ registrationId := by
    rintro registrationId h rfl
    rw [hlock] at h
    exact hne (Option.some.inj h)
  have hlocks : ∀ (db' : Database ι) registrationId (holder : Option ι), id ≠ registrationId →
      db'.locks id = some j → (db'.setLock registrationId holder).locks id = some j := by
    intro db' registrationId holder hid h
    simpa [Database.setLock, hid] using h
  cases action with
  | read => exact ⟨.refl db id, hlock⟩
  | lock registrationId =>
      have hid : id ≠ registrationId := by
        rintro rfl
        simp [Permitted, hlock] at hp
      exact ⟨⟨rfl, fun _ _ => Iff.rfl⟩, hlocks db _ _ hid hlock⟩
  | rollback registrationId =>
      exact ⟨⟨rfl, fun _ _ => Iff.rfl⟩, hlocks db _ _ (hother _ hp) hlock⟩
  | replace rotated record now =>
      have hid := hother _ hp.1
      have h := Unchanged.revokeCurrent db now hid
      refine ⟨⟨rfl, fun r hr => ?_⟩, hlocks _ _ _ hid hlock⟩
      rw [← h.credentials r hr]
      show r ∈ (db.revokeCurrent record.registrationId now).credentials ++ [record] ↔ _
      simp only [List.mem_append, List.mem_singleton, or_iff_left_iff_imp]
      rintro rfl
      exact absurd hr.symm hid
  | revoke registrationId now =>
      have hid := hother _ hp
      have h := Unchanged.revokeCurrent db now hid
      exact ⟨⟨rfl, h.credentials⟩, hlocks _ _ _ hid hlock⟩
  | deactivate registrationId now =>
      have hid := hother _ hp
      have h := Unchanged.revokeCurrent db now hid
      refine ⟨⟨?_, h.credentials⟩, hlocks _ _ _ hid hlock⟩
      simp [Database.apply, Database.setLock, Database.deactivate, Database.revokeCurrent, hid]
  | pairings rows => exact ⟨⟨rfl, fun _ _ => Iff.rfl⟩, hlock⟩
  | tick now => exact ⟨⟨rfl, fun _ _ => Iff.rfl⟩, hlock⟩

/-! ## Calls -/

/-- The row of a bearer, and the registration that it belongs to. -/
def Found (db : Database ι) (digest : Digest) (registrationId : String) : Prop :=
  ∃ r ∈ db.credentials, r.tokenSha256 = digest ∧ r.registrationId = registrationId

/-- What a rotation knows once it has read the clock. -/
structure Timed (sha256 : String → Digest) (db : Database ι) (pair : Pair)
    (registrationId : String) (device : DeviceRegistration) (record : HolderCredentialRecord)
    (now : DateTime) : Prop where
  registration : db.registrations registrationId = some device
  mem : record ∈ db.credentials
  digest : record.tokenSha256 = sha256 pair.current
  scope : record.registrationId = registrationId
  active : device.isActive = true
  clock : now ≤ db.clock
  issued : ∀ r ∈ db.credentials, r.registrationId = registrationId → r.issuedAt ≤ now

def KnowsStage (sha256 : String → Digest) (db : Database ι) (pair : Pair) : RotateStage → Prop
  | .found registrationId => Found db (sha256 pair.current) registrationId
  | .locked registrationId device => Found db (sha256 pair.current) registrationId ∧
      db.registrations registrationId = some device
  | .current registrationId device record => db.registrations registrationId = some device ∧
      record ∈ db.credentials ∧ record.tokenSha256 = sha256 pair.current ∧
      record.registrationId = registrationId
  | .timed registrationId device record now =>
      Timed sha256 db pair registrationId device record now
  | .paired registrationId device record now =>
      Timed sha256 db pair registrationId device record now ∧ db.Confirmed registrationId
  | .member registrationId device record now =>
      Timed sha256 db pair registrationId device record now ∧ db.Confirmed registrationId

/-- What a call knows of the database. -/
def Knows (sha256 : String → Digest) (db : Database ι) : Call → Prop
  | .issuing registrationId device _ => db.registrations registrationId = some device
  | .issuingAt registrationId device _ now => db.registrations registrationId = some device ∧
      now ≤ db.clock
  | .rotating pair stage => (canonicalBearer pair.current = true ∧
      canonicalBearer pair.replacement = true ∧ pair.current ≠ pair.replacement) ∧
      KnowsStage sha256 db pair stage
  | .rotated pair registrationId credentialExpiresAt => ∃ b ∈ db.credentials,
      b.tokenSha256 = sha256 pair.replacement ∧ b.registrationId = registrationId ∧
        b.expiresAt = credentialExpiresAt
  | .deactivating registrationId device _ => db.registrations registrationId = some device
  | .deactivatingAt registrationId device _ _ => db.registrations registrationId = some device
  | _ => True

theorem Found.later {digest : Digest} (h : Found db digest registrationId) (hlater : Later db db') :
    Found db' digest registrationId := by
  obtain ⟨r, hr, hdigest, hid⟩ := h
  obtain ⟨r', hr', hsame, -⟩ := hlater.kept r hr
  unfold HolderCredentialRecord.Same at hsame
  exact ⟨r', hr', by rw [hsame]; exact hdigest, by rw [hsame]; exact hid⟩

theorem Timed.step {pair : Pair} {device : DeviceRegistration} {now : DateTime}
    (h : Timed sha256 db pair registrationId device record now) (hlater : Later db db')
    (hsame : Unchanged db db' registrationId) :
    Timed sha256 db' pair registrationId device record now where
  registration := hsame.registration ▸ h.registration
  mem := (hsame.credentials record h.scope).mpr h.mem
  digest := h.digest
  scope := h.scope
  active := h.active
  clock := Int.le_trans h.clock hlater.clock
  issued r hr hid := h.issued r ((hsame.credentials r hid).mp hr) hid

/-- What a call knows stays true while its lock keeps others away. -/
theorem Knows.step (h : Knows sha256 db call) (hlater : Later db db')
    (hsame : ∀ id, call.held = some id → Unchanged db db' id) : Knows sha256 db' call := by
  cases call with
  | issuing registrationId device lifetime =>
      exact (hsame _ rfl).registration.trans h
  | issuingAt registrationId device lifetime now =>
      exact ⟨(hsame _ rfl).registration ▸ h.1, Int.le_trans h.2 hlater.clock⟩
  | rotating pair stage =>
      refine ⟨h.1, ?_⟩
      have hstage := h.2
      cases stage with
      | found registrationId => exact hstage.later hlater
      | locked registrationId device =>
          exact ⟨hstage.1.later hlater, (hsame _ rfl).registration ▸ hstage.2⟩
      | current registrationId device record =>
          obtain ⟨hdevice, hmem, hdigest, hid⟩ := hstage
          exact ⟨(hsame _ rfl).registration ▸ hdevice,
            ((hsame _ rfl).credentials record hid).mpr hmem, hdigest, hid⟩
      | timed registrationId device record now => exact Timed.step hstage hlater (hsame _ rfl)
      | paired registrationId device record now =>
          exact ⟨hstage.1.step hlater (hsame _ rfl), hlater.confirmed _ hstage.2⟩
      | member registrationId device record now =>
          exact ⟨hstage.1.step hlater (hsame _ rfl), hlater.confirmed _ hstage.2⟩
  | rotated pair registrationId credentialExpiresAt =>
      obtain ⟨b, hb, hdigest, hid, hexpires⟩ := h
      obtain ⟨b', hb', hsame', -⟩ := hlater.kept b hb
      unfold HolderCredentialRecord.Same at hsame'
      exact ⟨b', hb', by rw [hsame']; exact hdigest, by rw [hsame']; exact hid,
        by rw [hsame']; exact hexpires⟩
  | deactivating registrationId device after => exact (hsame _ rfl).registration.trans h
  | deactivatingAt registrationId device after now => exact (hsame _ rfl).registration.trans h
  | _ => trivial

/-- The lock that a call holds after an action. -/
def HeldAfter (call call' : Call) : Action → Prop
  | .read => call'.held = call.held
  | .lock registrationId => call.held = none ∧ call'.held = some registrationId
  | _ => call'.held = none

/-- **The invariant**: the rows are sound, the locks are held by those who think so, and what
the calls know is true. -/
structure Sound (sha256 : String → Digest) (c : Config (Database ι) ι Call) : Prop where
  tables : Tables sha256 c.store
  held : ∀ i id, (c.calls i).held = some id → c.store.locks id = some i
  knows : ∀ i, Knows sha256 c.store (c.calls i)

/-- What a call may do, with what it holds and knows afterwards. -/
structure Acts (sha256 : String → Digest) (db : Database ι) (i : ι) (call : Call)
    (action : Action) (call' : Call) : Prop where
  permitted : Permitted sha256 db i action
  held : HeldAfter call call' action
  knows : Knows sha256 (db.apply i action) call'

/-! ## What each call does -/

theorem Acts.read (hheld : call'.held = call.held) (hknows : Knows sha256 db call') :
    Acts sha256 db i call .read call' :=
  ⟨trivial, hheld, hknows⟩

theorem Acts.rollback (hlock : db.locks registrationId = some i) (hheld : call'.held = none)
    (hknows : Knows sha256 (db.setLock registrationId none) call') :
    Acts sha256 db i call (.rollback registrationId) call' :=
  ⟨hlock, hheld, hknows⟩

theorem lockRow_acts (h : lockRow db registrationId call' = some (action, call''))
    (hheld : call.held = none) (hheld' : call'.held = some registrationId)
    (hknows : Knows sha256 (db.setLock registrationId (some i)) call') :
    Acts sha256 db i call action call'' := by
  unfold lockRow at h
  split at h
  case isTrue hfree =>
    cases h
    have hlock : db.locks registrationId = none := by simpa using hfree
    exact ⟨hlock, ⟨hheld, hheld'⟩, hknows⟩
  case isFalse => cases h

theorem beginDeactivate_acts {after : After}
    (h : beginDeactivate db registrationId after = some (action, call'))
    (hheld : call.held = none) : Acts sha256 db i call action call' := by
  have hresume : ∀ answer, (after.resume answer).held = none ∧
      Knows sha256 db (after.resume answer) := by
    intro answer
    cases after <;> exact ⟨rfl, trivial⟩
  unfold beginDeactivate at h
  split at h
  case h_1 =>
    cases h
    exact .read ((hresume _).1.trans hheld.symm) (hresume _).2
  case h_2 device hdevice =>
    split at h
    case isTrue => exact lockRow_acts h hheld rfl hdevice
    case isFalse =>
      split at h
      case isTrue =>
        cases h
        exact .read ((hresume _).1.trans hheld.symm) (hresume _).2
      case isFalse => cases h

/-- A statement on pairings leaves alone what is confirmed. -/
theorem confirmed_update {p : PairingConfirmation → Bool}
    {f : PairingConfirmation → PairingConfirmation}
    (hp : ∀ row, p row = true → row.confirmedAt = none) (id : String) (h : db.Confirmed id) :
    ∃ row ∈ Table.update db.pairings p f, row.Confirms id := by
  obtain ⟨row, hrow, hid, hconfirmed, hexpired⟩ := h
  refine ⟨row, ?_, hid, hconfirmed, hexpired⟩
  refine List.mem_map.mpr ⟨row, hrow, if_neg fun h => ?_⟩
  simp [hp row h] at hconfirmed

theorem planFirst_acts (h : planFirst sha256 db event = some (action, call')) :
    Acts sha256 db i .idle action call' := by
  unfold planFirst at h
  split at h
  case h_1 now =>
    split at h
    case isTrue hnow =>
      cases h
      exact ⟨hnow, rfl, trivial⟩
    case isFalse => cases h
  case h_2 registrationId userId organizationId lifetime =>
    split at h
    case h_1 =>
      cases h
      exact .read rfl trivial
    case h_2 device hdevice =>
      split at h
      case isTrue =>
        cases h
        exact .read rfl trivial
      case isFalse => exact lockRow_acts h rfl rfl hdevice
  case h_3 pair =>
    split at h
    case isTrue =>
      cases h
      exact .read rfl trivial
    case isFalse hpair =>
      simp only [not_or, Bool.not_eq_false] at hpair
      split at h
      case h_1 =>
        cases h
        exact .read rfl trivial
      case h_2 record hrecord =>
        cases h
        obtain ⟨hmem, hdigest⟩ := findByDigest_eq_some hrecord
        exact .read rfl ⟨hpair, record, hmem, hdigest, rfl⟩
  case h_4 registrationId now =>
    split at h
    case h_1 =>
      cases h
      exact .read rfl trivial
    case h_2 => exact lockRow_acts h rfl rfl trivial
  case h_5 registrationId => exact beginDeactivate_acts h rfl
  case h_6 rows =>
    split at h
    case isTrue =>
      cases h
      exact .read rfl trivial
    case isFalse => cases h
  case h_7 bearer userId organizationId now =>
    split at h <;>
    · cases h
      exact .read rfl trivial
  case h_8 row =>
    split at h
    case isTrue =>
      cases h
      exact .read rfl trivial
    case isFalse =>
      cases h
      refine ⟨fun id ⟨row, hrow, hconfirms⟩ => ?_, rfl, trivial⟩
      exact ⟨row, List.mem_append_left _ hrow, hconfirms⟩
  case h_9 pairingId userId organizationId registrationId =>
    split at h
    case isTrue =>
      split at h
      case isTrue =>
        cases h
        exact .read rfl trivial
      case isFalse =>
        cases h
        refine ⟨confirmed_update fun row hrow => ?_, rfl, trivial⟩
        simp only [Database.redeemable, Bool.and_eq_true, Option.isNone_iff_eq_none] at hrow
        exact hrow.1.1.2
    case isFalse =>
      cases h
      exact .read rfl trivial
  case h_10 pairingId bearer =>
    split at h
    case isTrue =>
      cases h
      refine ⟨confirmed_update fun row hrow => ?_, rfl, trivial⟩
      simp only [Database.confirmable, Bool.and_eq_true, Option.isNone_iff_eq_none] at hrow
      exact hrow.1.1.2
    case isFalse =>
      split at h <;>
      · cases h
        exact .read rfl trivial
  case h_11 => cases h

theorem rotateIssue_eq_ok {pair : Pair} {device : DeviceRegistration} {now : DateTime}
    {issued : IssuedHolderCredential}
    (h : rotateIssue sha256 pair record device now id = .ok issued) :
    validRecordFor record device now = true ∧ eligible device = true ∧
      issued.record.tokenSha256 = sha256 pair.replacement ∧ issued.record.issuedAt = now ∧
      issued.record.revokedAt = none ∧ issued.record.IssuedFor device := by
  simp only [rotateIssue, bind_eq_ok, exists_unit] at h
  obtain ⟨hauthorize, hissue⟩ := h
  obtain ⟨-, -, heligible, hdigest, hissued, hrevoked, hfor⟩ := issueWithBearer_eq_ok hissue
  exact ⟨(authorize_eq_ok hauthorize).2.2, heligible, hdigest, hissued, hrevoked, hfor⟩

theorem rotateRetry_eq_ok {replacement : Option HolderCredentialRecord}
    {device : DeviceRegistration} {now revokedAt expiresAt : DateTime} :
    rotateRetry replacement device now revokedAt = .ok expiresAt ↔
      ∃ r, replacement = some r ∧ validRecordFor r device now = true ∧
        revokedAt ≤ r.issuedAt ∧ r.expiresAt = expiresAt := by
  simp only [rotateRetry, bind_eq_ok, okOr_eq_ok, rejectIf_eq_ok, exists_unit, pure, Except.pure,
    Except.ok.injEq, not_or, Bool.not_eq_false, Int.not_lt, and_assoc]

/-- **The end of a rotation** that has read a current credential: it replaces it. -/
theorem Timed.commit {pair : Pair} {device : DeviceRegistration} {now : DateTime}
    {issued : IssuedHolderCredential}
    (h : Timed sha256 db pair registrationId device record now) (htables : Tables sha256 db)
    (hconfirmed : db.Confirmed registrationId)
    (hpair : canonicalBearer pair.current = true ∧ canonicalBearer pair.replacement = true ∧
      pair.current ≠ pair.replacement)
    (hrevoked : record.revokedAt = none) (hlock : db.locks registrationId = some i)
    (hissue : rotateIssue sha256 pair record device now id = .ok issued)
    (hfresh : db.conflicts issued.record = false) :
    issued.record.registrationId = registrationId ∧
      Permitted sha256 db i (.replace (some pair) issued.record now) := by
  obtain ⟨-, -, hdigest, hissued, hnone, hfor⟩ := rotateIssue_eq_ok hissue
  have hid : issued.record.registrationId = registrationId :=
    hfor.registrationId.trans (htables.ids _ _ h.registration)
  refine ⟨hid, hid ▸ hlock, hfresh, hnone, hissued, h.clock, ⟨device, hid ▸ h.registration, h.active,
    hfor⟩, ?_⟩
  rintro _ ⟨⟩
  refine ⟨hpair.1, hpair.2.1, hpair.2.2, hdigest, hid ▸ hconfirmed, record, h.mem, h.digest, ?_, hrevoked,
    h.issued record h.mem h.scope⟩
  rw [hid, h.scope]

theorem planRotate_acts {pair : Pair} {stage : RotateStage} (htables : Tables sha256 db)
    (hlock : ∀ id, stage.held = some id → db.locks id = some i)
    (hknows : Knows sha256 db (.rotating pair stage))
    (h : planRotate sha256 db pair event stage = some (action, call')) :
    Acts sha256 db i (.rotating pair stage) action call' := by
  obtain ⟨hpair, hstage⟩ := hknows
  unfold planRotate at h
  split at h
  case h_1 registrationId =>
    split at h
    case h_1 =>
      cases h
      exact .read rfl trivial
    case h_2 device hdevice => exact lockRow_acts h rfl rfl ⟨hpair, hstage, hdevice⟩
  case h_2 registrationId device =>
    split at h
    case h_1 =>
      cases h
      exact .rollback (hlock _ rfl) rfl trivial
    case h_2 record hrecord =>
      cases h
      obtain ⟨⟨r, hr, hdigest, hid⟩, hdevice⟩ := hstage
      obtain ⟨hmem, hdigest'⟩ := findByDigest_eq_some hrecord
      obtain rfl := htables.eq_of_digest hr hmem (hdigest.trans hdigest'.symm)
      exact .read rfl ⟨hpair, hdevice, hmem, hdigest', hid⟩
  case h_3 registrationId device record =>
    split at h
    case isTrue =>
      cases h
      exact .rollback (hlock _ rfl) rfl trivial
    case isFalse hscope =>
      cases h
      simp only [not_or, Bool.not_eq_false] at hscope
      obtain ⟨hdevice, hmem, hdigest, hid⟩ := hstage
      exact .read rfl ⟨hpair, hdevice, hmem, hdigest, hid, hscope.1, Int.le_refl _,
        fun r hr _ => htables.issued r hr⟩
  case h_4 registrationId device record now =>
    split at h
    case isTrue hconfirmed =>
      cases h
      exact .read rfl ⟨hpair, hstage, confirmed_iff.mp hconfirmed⟩
    case isFalse =>
      cases h
      exact .rollback (hlock _ rfl) rfl trivial
  case h_5 answer registrationId device record now =>
    split at h
    case h_1 =>
      cases h
      exact .rollback (hlock _ rfl) rfl trivial
    case h_2 =>
      cases h
      exact .read rfl ⟨hpair, hstage⟩
  case h_6 id random registrationId device record now =>
    obtain ⟨htimed, hconfirmed⟩ := hstage
    split at h
    case h_1 revokedAt hrevoked =>
      split at h
      case h_1 =>
        cases h
        exact .rollback (hlock _ rfl) rfl trivial
      case h_2 expiresAt hretry =>
        cases h
        obtain ⟨r, hr, -, -, hexpires⟩ := rotateRetry_eq_ok.mp hretry
        have hfound := List.find?_some hr
        simp only [Bool.and_eq_true, beq_iff_eq] at hfound
        exact .rollback (hlock _ rfl) rfl
          ⟨r, List.mem_of_find?_eq_some hr, hfound.1, hfound.2, hexpires⟩
    case h_2 hrevoked =>
      split at h
      case h_1 =>
        cases h
        exact .rollback (hlock _ rfl) rfl trivial
      case h_2 issued hissue =>
        split at h
        case isTrue =>
          cases h
          exact .rollback (hlock _ rfl) rfl trivial
        case isFalse hfresh =>
          cases h
          obtain ⟨hid, hpermitted⟩ := htimed.commit htables hconfirmed hpair hrevoked (hlock _ rfl)
            hissue (by simpa using hfresh)
          obtain ⟨-, -, hdigest, -⟩ := rotateIssue_eq_ok hissue
          refine ⟨hpermitted, rfl, issued.record, ?_, hdigest, hid, rfl⟩
          exact List.mem_append_right _ (List.mem_singleton.mpr rfl)
  case h_7 => cases h

theorem fail_acts (hlock : ∀ id, call.held = some id → db.locks id = some i)
    {error : DeviceError} : Acts sha256 db i call (fail call error).1 (fail call error).2 := by
  unfold fail
  cases hheld : call.held with
  | none => exact .read hheld.symm trivial
  | some id => exact .rollback (hlock id hheld) rfl trivial

/-- **What a call does** it is permitted to do, and what it knows afterwards is true. -/
theorem plan_acts (htables : Tables sha256 db)
    (hlock : ∀ id, call.held = some id → db.locks id = some i) (hknows : Knows sha256 db call)
    (h : plan sha256 db event call = some (action, call')) : Acts sha256 db i call action call' := by
  unfold plan at h
  split at h
  case h_1 => exact planFirst_acts h
  case h_2 =>
    split at h
    case h_8 =>
      cases h
      exact fail_acts hlock
    all_goals cases h
  case h_3 registrationId device lifetime =>
    cases h
    exact .read rfl ⟨hknows, Int.le_refl _⟩
  case h_4 id random registrationId device lifetime now =>
    obtain ⟨hdevice, hclock⟩ := hknows
    split at h
    case h_1 =>
      cases h
      exact .rollback (hlock _ rfl) rfl trivial
    case h_2 issued hissue =>
      split at h
      case isTrue =>
        cases h
        exact .rollback (hlock _ rfl) rfl trivial
      case isFalse hfresh =>
        cases h
        obtain ⟨-, -, heligible, hdigest, hissued, hrevoked, hfor⟩ := issueWithBearer_eq_ok hissue
        have hid : issued.record.registrationId = registrationId :=
          hfor.registrationId.trans (htables.ids _ _ hdevice)
        refine ⟨⟨hid ▸ hlock _ rfl, by simpa using hfresh, hrevoked, hissued, hclock,
          ⟨device, hid ▸ hdevice, eligible_isActive heligible, hfor⟩, nofun⟩, rfl, trivial⟩
  case h_5 => exact planRotate_acts htables hlock hknows h
  case h_6 registrationId now =>
    cases h
    exact ⟨hlock _ rfl, rfl, trivial⟩
  case h_7 =>
    cases h
    exact .read rfl hknows
  case h_8 registrationId device after now =>
    cases h
    refine ⟨hlock _ rfl, ?_, ?_⟩
    · cases after <;> rfl
    · cases after <;> trivial
  case h_9 =>
    cases h
    exact .read rfl trivial
  case h_10 row rows =>
    split at h
    case h_1 =>
      cases h
      exact .read rfl trivial
    case h_2 => exact beginDeactivate_acts h rfl
  case h_11 pairingId rows =>
    cases h
    refine ⟨confirmed_update fun row hrow => ?_, rfl, trivial⟩
    simp only [Bool.and_eq_true, Option.isNone_iff_eq_none] at hrow
    exact hrow.1.1.2
  case h_12 bearer userId organizationId now record =>
    split at h
    case h_1 =>
      cases h
      exact .read rfl trivial
    case h_2 =>
      split at h <;>
      · cases h
        exact .read rfl trivial
  case h_13 => cases h

variable [DecidableEq ι]

theorem Sound.act {c : Config (Database ι) ι Call} (hc : Sound sha256 c)
    (h : Acts sha256 c.store i (c.calls i) action call') :
    Sound sha256 ⟨c.store.apply i action, Function.update c.calls i call'⟩ := by
  have hothers : ∀ j, j ≠ i → ∀ id, (c.calls j).held = some id →
      Unchanged c.store (c.store.apply i action) id ∧
        (c.store.apply i action).locks id = some j :=
    fun j hj id hid => Unchanged.apply h.permitted (hc.held j id hid) hj
  constructor
  case tables => exact hc.tables.apply h.permitted
  case held =>
    intro j id hid
    by_cases hj : j = i
    · subst hj
      simp only [Function.update_self] at hid
      have hheld := h.held
      cases action with
      | read => exact hc.held j id (by rw [← hid]; exact hheld.symm)
      | lock registrationId =>
          obtain rfl : registrationId = id := Option.some.inj (hheld.2.symm.trans hid)
          simp [Database.apply, Database.setLock]
      | _ => cases hheld.symm.trans hid
    · exact (hothers j hj id (by simpa [hj] using hid)).2
  case knows =>
    intro j
    by_cases hj : j = i
    · subst hj
      simpa using h.knows
    · have hknows := hc.knows j
      have := hknows.step (Later.apply h.permitted) fun id hid => (hothers j hj id hid).1
      simpa [hj] using this

variable {c c' : Config (Database ι) ι Call}

/-- A step is what the call planned. -/
theorem next_plan (h : (credentialMachine sha256 ι).next c i event = some c') :
    ∃ action call', plan sha256 c.store event (c.calls i) = some (action, call') ∧
      c' = ⟨c.store.apply i action, Function.update c.calls i call'⟩ := by
  obtain ⟨db, call', hstep, rfl⟩ := Machine.next_eq_some.mp h
  obtain ⟨⟨action, _⟩, hplan, heq⟩ := Option.map_eq_some_iff.mp hstep
  cases heq
  exact ⟨action, call', hplan, rfl⟩

omit [DecidableEq ι] in
theorem Sound.plan_acts (hc : Sound sha256 c)
    (h : plan sha256 c.store event (c.calls i) = some (action, call')) :
    Acts sha256 c.store i (c.calls i) action call' :=
  Devices.plan_acts hc.tables (hc.held i) (hc.knows i) h

theorem Sound.step (hc : Sound sha256 c) (h : (credentialMachine sha256 ι).next c i event = some c') :
    Sound sha256 c' ∧ Later c.store c'.store := by
  obtain ⟨action, call', hplan, rfl⟩ := next_plan h
  have hacts := hc.plan_acts hplan
  exact ⟨hc.act hacts, Later.apply hacts.permitted⟩

omit [DecidableEq ι] in
theorem sound_start (registrations : List DeviceRegistration)
    (pairings : List PairingConfirmation) (clock : DateTime) :
    Sound sha256 (⟨.start registrations pairings clock, fun _ => .idle⟩ :
      Config (Database ι) ι Call) where
  tables := {
    ids := by
      intro id d hd
      simpa using List.find?_some hd
    digests := List.nodup_nil
    current := nofun
    issued := nofun
    issuedFor := nofun
    rotated := nofun
    once := List.nodup_nil }
  held := nofun
  knows _ := trivial

/-! ## Rotations -/

/-- A rotation has left or found its replacement as the only unrevoked credential of an
active registration with a confirmed pairing. -/
def Succeeded (sha256 : String → Digest) (db : Database ι) (pair : Pair)
    (registrationId : String) (credentialExpiresAt : DateTime) : Prop :=
  ∃ b ∈ db.credentials, b.tokenSha256 = sha256 pair.replacement ∧
    b.registrationId = registrationId ∧ b.expiresAt = credentialExpiresAt ∧ b.revokedAt = none ∧
    (∀ r ∈ db.credentials, r.registrationId = registrationId → r.revokedAt = none → r = b) ∧
    (∃ d, db.registrations registrationId = some d ∧ d.isActive = true) ∧
    db.Confirmed registrationId

/-- How a rotation ends well: with the row of the replacement, or with a new one. -/
inductive Ends (sha256 : String → Digest) (db : Database ι) (pair : Pair) :
    RotateStage → Action → DateTime → Prop
  | retry {registrationId : String} {device : DeviceRegistration}
      {record : HolderCredentialRecord} {now revokedAt : DateTime} {b : HolderCredentialRecord}
      (hrevoked : record.revokedAt = some revokedAt) (hmem : b ∈ db.credentials)
      (hdigest : b.tokenSha256 = sha256 pair.replacement)
      (hscope : b.registrationId = registrationId) (hvalid : validRecordFor b device now = true) :
      Ends sha256 db pair (.member registrationId device record now) (.rollback registrationId)
        b.expiresAt
  | issue {registrationId id : String} {device : DeviceRegistration}
      {record : HolderCredentialRecord} {now : DateTime} {issued : IssuedHolderCredential}
      (hrevoked : record.revokedAt = none)
      (hissue : rotateIssue sha256 pair record device now id = .ok issued) :
      Ends sha256 db pair (.member registrationId device record now)
        (.replace (some pair) issued.record now) issued.record.expiresAt

omit [DecidableEq ι] in
theorem planRotate_rotated {pair pair' : Pair} {stage : RotateStage}
    {credentialExpiresAt : DateTime}
    (h : planRotate sha256 db pair event stage =
      some (action, .rotated pair' registrationId credentialExpiresAt)) :
    pair' = pair ∧ stage.held = some registrationId ∧
      Ends sha256 db pair stage action credentialExpiresAt := by
  unfold planRotate at h
  split at h
  case h_6 id random registrationId device record now =>
    split at h
    case h_1 revokedAt hrevoked =>
      split at h
      case h_1 => cases h
      case h_2 expiresAt hretry =>
        cases h
        obtain ⟨r, hr, hvalid, -, rfl⟩ := rotateRetry_eq_ok.mp hretry
        have hfound := List.find?_some hr
        simp only [Bool.and_eq_true, beq_iff_eq] at hfound
        exact ⟨rfl, rfl, .retry hrevoked (List.mem_of_find?_eq_some hr) hfound.1 hfound.2 hvalid⟩
    case h_2 hrevoked =>
      split at h
      case h_1 => cases h
      case h_2 issued hissue =>
        split at h
        case isTrue => cases h
        case isFalse =>
          cases h
          exact ⟨rfl, rfl, .issue hrevoked hissue⟩
  case h_1 =>
    unfold lockRow at h
    repeat' split at h
    all_goals cases h
  all_goals
    repeat' split at h
    all_goals cases h

omit [DecidableEq ι] in
/-- Only a rotation ends as one. -/
theorem plan_rotated {pair : Pair} {credentialExpiresAt : DateTime}
    (h : plan sha256 db event call =
      some (action, .rotated pair registrationId credentialExpiresAt)) :
    ∃ stage, call = .rotating pair stage ∧ stage.held = some registrationId ∧
      Ends sha256 db pair stage action credentialExpiresAt := by
  have hbegin : ∀ {id after}, beginDeactivate db id after ≠
      some (action, .rotated pair registrationId credentialExpiresAt) := by
    intro id after h
    unfold beginDeactivate lockRow at h
    repeat' split at h
    all_goals cases after <;> cases h
  unfold plan at h
  split at h
  case h_1 =>
    unfold planFirst lockRow at h
    repeat' split at h
    all_goals first | cases h | exact absurd h hbegin
  case h_5 pair' stage hevent =>
    obtain ⟨rfl, hheld, hends⟩ := planRotate_rotated h
    exact ⟨stage, rfl, hheld, hends⟩
  case h_8 registrationId device after now => cases after <;> cases h
  case h_10 row rows =>
    split at h
    case h_1 => cases h
    case h_2 => exact absurd h hbegin
  case h_2 =>
    split at h
    case h_8 => cases congrArg Prod.snd (Option.some.inj h)
    all_goals cases h
  all_goals
    repeat' split at h
    all_goals cases h

/-- **A rotation that ends well** has one unrevoked credential, the one it names. -/
theorem Sound.succeeded (hc : Sound sha256 c)
    (h : (credentialMachine sha256 ι).next c i event = some c') {pair : Pair}
    {credentialExpiresAt : DateTime}
    (hrotated : c'.calls i = .rotated pair registrationId credentialExpiresAt) :
    Succeeded sha256 c'.store pair registrationId credentialExpiresAt := by
  have hc' := (hc.step h).1
  obtain ⟨action, call', hplan, rfl⟩ := next_plan h
  obtain rfl : call' = _ := by simpa using hrotated
  obtain ⟨stage, hcall, hheld, hends⟩ := plan_rotated hplan
  have hknows := hc.knows i
  rw [hcall] at hknows
  have honly : ∀ b ∈ (c.store.apply i action).credentials, b.registrationId = registrationId →
      b.revokedAt = none → ∀ r ∈ (c.store.apply i action).credentials,
      r.registrationId = registrationId → r.revokedAt = none → r = b :=
    fun b hb hid hnone r hr hid' hnone' =>
      hc'.tables.current r hr b hb hnone' hnone (hid'.trans hid.symm)
  cases hends with
  | retry hrevoked hmem hdigest hscope hvalid =>
      cases hheld
      obtain ⟨-, htimed, hconfirmed⟩ := hknows
      have hnone := (validRecordFor_iff.mp hvalid).2.2.2.2.1
      exact ⟨_, hmem, hdigest, hscope, rfl, hnone, honly _ hmem hscope hnone,
        ⟨_, htimed.registration, htimed.active⟩, hconfirmed⟩
  | @issue _ id device record now issued hrevoked hissue =>
      cases hheld
      obtain ⟨-, htimed, hconfirmed⟩ := hknows
      obtain ⟨-, -, hdigest, -, hnone, hfor⟩ := rotateIssue_eq_ok hissue
      have hid := hfor.registrationId.trans (hc.tables.ids _ _ htimed.registration)
      have hmem : issued.record ∈
          (c.store.apply i (.replace (some pair) issued.record now)).credentials :=
        List.mem_append_right _ (List.mem_singleton.mpr rfl)
      exact ⟨_, hmem, hdigest, hid, rfl, hnone, honly _ hmem hid hnone,
        ⟨_, htimed.registration, htimed.active⟩, hconfirmed⟩

omit [DecidableEq ι] in
/-- What a rotation under the lock knows of a pair that was rotated before: it has read the
credential that was revoked then, and the replacement is as it was issued. -/
theorem Tables.repeated (h : Tables sha256 db) {x : Rotation} (hx : x ∈ db.rotations)
    {device : DeviceRegistration} {now : DateTime}
    (htimed : Timed sha256 db x.pair registrationId device record now) :
    record.revokedAt = some x.replacement.issuedAt ∧
      x.replacement.registrationId = registrationId := by
  obtain ⟨-, -, -, -, -, ⟨a, ha, hdigest, hid, hrevoked⟩, -⟩ := h.rotated x hx
  obtain rfl := h.eq_of_digest ha htimed.mem (hdigest.trans htimed.digest.symm)
  exact ⟨hrevoked, hid.symm.trans htimed.scope⟩

omit [DecidableEq ι] in
/-- A rotation writes only when it has read a credential that is not revoked. -/
theorem planRotate_writes {pair : Pair} {stage : RotateStage}
    (h : planRotate sha256 db pair event stage = some (action, call')) (i : ι) :
    ((db.apply i action).credentials = db.credentials ∧
        (db.apply i action).rotations = db.rotations) ∨
      ∃ registrationId device record now, stage = .member registrationId device record now ∧
        record.revokedAt = none := by
  unfold planRotate at h
  split at h
  case h_6 id random registrationId device record now =>
    split at h
    case h_1 =>
      split at h <;>
      · cases h
        exact .inl ⟨rfl, rfl⟩
    case h_2 hrevoked => exact .inr ⟨registrationId, device, record, now, rfl, hrevoked⟩
  case h_1 registrationId =>
    unfold lockRow at h
    repeat' split at h
    all_goals cases h <;> exact .inl ⟨rfl, rfl⟩
  case h_7 => cases h
  all_goals
    split at h <;>
    · cases h
      exact .inl ⟨rfl, rfl⟩

omit [DecidableEq ι] in
theorem plan_rotating {pair : Pair} {stage : RotateStage} (hevent : event ≠ .abort) :
    plan sha256 db event (.rotating pair stage) = planRotate sha256 db pair event stage := by
  cases event with
  | abort => exact absurd rfl hevent
  | _ => rfl

/-- **A credential that was rotated is not rotated again.** -/
theorem Sound.kept (hc : Sound sha256 c)
    (h : (credentialMachine sha256 ι).next c i event = some c') {x : Rotation}
    (hx : x ∈ c.store.rotations) {stage : RotateStage} (hcall : c.calls i = .rotating x.pair stage) :
    c'.store.credentials = c.store.credentials ∧ c'.store.rotations = c.store.rotations := by
  obtain ⟨action, call', hplan, rfl⟩ := next_plan h
  have hknows := hc.knows i
  rw [hcall] at hknows hplan
  by_cases hevent : event = .abort
  · subst hevent
    have haction : action = (fail (.rotating x.pair stage) (.persistence "aborted")).1 :=
      (congrArg Prod.fst (Option.some.inj hplan)).symm
    subst haction
    unfold fail
    split <;> exact ⟨rfl, rfl⟩
  · rw [plan_rotating hevent] at hplan
    obtain hsame | ⟨registrationId, device, record, now, rfl, hnone⟩ :=
      planRotate_writes hplan i
    · exact hsame
    · have hrevoked := (hc.tables.repeated hx hknows.2.1).1
      rw [hnone] at hrevoked
      cases hrevoked

omit [DecidableEq ι] in
theorem Tables.findByDigest (h : Tables sha256 db) (hmem : record ∈ db.credentials) :
    db.findByDigest record.tokenSha256 = some record := by
  cases hfind : db.findByDigest record.tokenSha256 with
  | none =>
      have hnone := List.find?_eq_none.mp hfind record hmem
      simp at hnone
  | some r =>
      obtain ⟨hr, hdigest⟩ := findByDigest_eq_some hfind
      rw [h.eq_of_digest hr hmem hdigest]

omit [DecidableEq ι] in
/-- The registration of an unrevoked replacement is active, and the credential that it
replaces belongs to it. -/
theorem Tables.standing (h : Tables sha256 db) {x : Rotation} (hx : x ∈ db.rotations)
    {b : HolderCredentialRecord} (hb : b ∈ db.credentials) (hsame : x.replacement.Same b)
    (hunrevoked : b.revokedAt = none) :
    ∃ a ∈ db.credentials, ∃ d, a.tokenSha256 = sha256 x.pair.current ∧
      db.registrations a.registrationId = some d ∧ a.IssuedFor d ∧ b.IssuedFor d ∧
      d.isActive = true ∧ b.registrationId = a.registrationId ∧
      db.Confirmed a.registrationId := by
  obtain ⟨-, -, -, -, hconfirmed, ⟨a, ha, hdigest, hid, -⟩, -⟩ := h.rotated x hx
  unfold HolderCredentialRecord.Same at hsame
  have hscope : b.registrationId = a.registrationId := by rw [hsame, hid]
  obtain ⟨d, hd, hissued, hactive⟩ := h.issuedFor b hb
  obtain ⟨d', hd', hissued', -⟩ := h.issuedFor a ha
  rw [hscope, hd'] at hd
  cases hd
  refine ⟨a, ha, d, hdigest, hd', hissued', hissued, ?_, hscope, hid ▸ hconfirmed⟩
  by_contra hinactive
  exact hactive (by simpa using hinactive) hunrevoked

omit [DecidableEq ι] in
/-- **A repeated rotation ends well** until its replacement is revoked or has expired, unless
the membership is refused. -/
theorem planRotate_repeats (h : Tables sha256 db) {x : Rotation} (hx : x ∈ db.rotations)
    {b : HolderCredentialRecord} (hb : b ∈ db.credentials) (hsame : x.replacement.Same b)
    (hunrevoked : b.revokedAt = none) {stage : RotateStage}
    (hstage : KnowsStage sha256 db x.pair stage) {error : DeviceError}
    (hplan : planRotate sha256 db x.pair event stage = some (action, .failed error)) :
    event = .membership (.error error) ∨ ∃ registrationId device record now,
      stage = .member registrationId device record now ∧ b.expiresAt ≤ now := by
  obtain ⟨a, ha, d, hdigest, hd, hfor, hfor', hactive, hscope, hconfirmed⟩ :=
    h.standing hx hb hsame hunrevoked
  unfold planRotate at hplan
  split at hplan
  case h_1 registrationId =>
    obtain ⟨r, hr, hdigest', rfl⟩ := hstage
    obtain rfl := h.eq_of_digest hr ha (hdigest'.trans hdigest.symm)
    simp only [hd, lockRow] at hplan
    split at hplan <;> cases hplan
  case h_2 registrationId device =>
    rw [← hdigest, h.findByDigest ha] at hplan
    cases hplan
  case h_3 registrationId device record =>
    obtain ⟨hdevice, hmem, hdigest', hid⟩ := hstage
    obtain rfl := h.eq_of_digest hmem ha (hdigest'.trans hdigest.symm)
    rw [hid, hdevice] at hd
    cases hd
    split at hplan
    case isTrue hwrong =>
      simp [hactive, hfor.userId, hfor.organizationId, hid] at hwrong
    case isFalse => cases hplan
  case h_4 registrationId device record now =>
    obtain rfl := h.eq_of_digest hstage.mem ha (hstage.digest.trans hdigest.symm)
    split at hplan
    case isTrue => cases hplan
    case isFalse hnot =>
      rw [← hstage.scope, confirmed_iff] at hnot
      exact absurd hconfirmed hnot
  case h_5 answer registrationId device record now =>
    split at hplan
    case h_1 e =>
      cases hplan
      exact .inl rfl
    case h_2 => cases hplan
  case h_6 id random registrationId device record now =>
    obtain ⟨htimed, -⟩ := hstage
    obtain rfl := h.eq_of_digest htimed.mem ha (htimed.digest.trans hdigest.symm)
    have hrevoked := (h.repeated hx htimed).1
    have hdevice := htimed.registration
    rw [← htimed.scope, hd] at hdevice
    cases hdevice
    refine .inr ⟨registrationId, d, record, now, rfl, ?_⟩
    by_contra hlive
    have hrow := hscope.trans htimed.scope
    have hvalid := hfor'.valid hactive hunrevoked (htimed.issued b hb hrow) (Int.not_le.mp hlive)
    have hdigest' : b.tokenSha256 = sha256 x.pair.replacement := by
      unfold HolderCredentialRecord.Same at hsame
      rw [hsame]
      exact (h.rotated x hx).2.2.2.1
    have hfind : (db.credentials.find? fun row => row.tokenSha256 == sha256 x.pair.replacement &&
        row.registrationId == registrationId) = some b := by
      rw [← hdigest']
      cases hfind : db.credentials.find? fun row => row.tokenSha256 == b.tokenSha256 &&
          row.registrationId == registrationId with
      | none =>
          have hnone := List.find?_eq_none.mp hfind b hb
          simp [hrow] at hnone
      | some r =>
          have hfound := List.find?_some hfind
          simp only [Bool.and_eq_true, beq_iff_eq] at hfound
          rw [h.eq_of_digest (List.mem_of_find?_eq_some hfind) hb hfound.1]
    have hissued : x.replacement.issuedAt ≤ b.issuedAt := by
      unfold HolderCredentialRecord.Same at hsame
      rw [hsame]
    have hretry := rotateRetry_eq_ok.mpr ⟨b, rfl, hvalid, hissued, rfl⟩
    split at hplan
    case h_1 revokedAt hsome =>
      rw [hrevoked] at hsome
      cases hsome
      rw [hfind, hretry] at hplan
      cases hplan
    case h_2 hnone =>
      rw [hrevoked] at hnone
      cases hnone
  case h_7 => cases hplan

omit [DecidableEq ι] in
/-- A bearer is accepted only while its registration is active. -/
theorem plan_authorized
    (h : plan sha256 db event call = some (action, .authorized record)) :
    ∃ d, db.registrations record.registrationId = some d ∧ d.isActive = true := by
  have hbegin : ∀ {id after}, beginDeactivate db id after ≠ some (action, .authorized record) := by
    intro id after h
    unfold beginDeactivate lockRow at h
    repeat' split at h
    all_goals cases after <;> cases h
  unfold plan at h
  split at h
  case h_1 =>
    unfold planFirst lockRow at h
    repeat' split at h
    all_goals first | cases h | exact absurd h hbegin
  case h_2 =>
    split at h
    case h_8 => cases congrArg Prod.snd (Option.some.inj h)
    all_goals cases h
  case h_5 =>
    unfold planRotate lockRow at h
    repeat' split at h
    all_goals cases h
  case h_8 registrationId device after now => cases after <;> cases h
  case h_10 row rows =>
    split at h
    case h_1 => cases h
    case h_2 => exact absurd h hbegin
  case h_12 bearer userId organizationId now record =>
    split at h
    case h_1 => cases h
    case h_2 registration hregistration =>
      split at h
      case h_1 => cases h
      case h_2 hauthorize =>
        cases h
        have hvalid := (authorize_eq_ok hauthorize).2.2
        exact ⟨registration, hregistration, eligible_isActive (validRecordFor_iff.mp hvalid).1⟩
  all_goals
    repeat' split at h
    all_goals cases h

/-! ## The account -/

/-- **What is promised** in a state, and of the next step from it. -/
structure RotationAccount (sha256 : String → Digest) (c : Config (Database ι) ι Call) : Prop where
  /-- A device has one current bearer. -/
  current : ∀ r ∈ c.store.credentials, ∀ r' ∈ c.store.credentials, r.revokedAt = none →
    r'.revokedAt = none → r.registrationId = r'.registrationId → r = r'
  succeeded : ∀ i event c' pair registrationId credentialExpiresAt,
    (credentialMachine sha256 ι).next c i event = some c' →
    c'.calls i = .rotated pair registrationId credentialExpiresAt →
    Succeeded sha256 c'.store pair registrationId credentialExpiresAt
  /-- A rotation has revoked its current credential and stored its replacement. -/
  rotated : ∀ x ∈ c.store.rotations,
    (∃ a ∈ c.store.credentials, a.tokenSha256 = sha256 x.pair.current ∧ a.revokedAt ≠ none) ∧
      ∃ b ∈ c.store.credentials, b.tokenSha256 = sha256 x.pair.replacement ∧ x.replacement.Same b
  /-- The same pair is not rotated again. -/
  once : (c.store.rotations.map fun x => sha256 x.pair.current).Nodup ∧
    ∀ x ∈ c.store.rotations, ∀ i event c' stage,
      (credentialMachine sha256 ι).next c i event = some c' →
      c.calls i = .rotating x.pair stage → c'.store.credentials = c.store.credentials
  /-- Whoever is answered for the same pair is answered with the same expiry. -/
  answered : ∀ x ∈ c.store.rotations, ∀ i registrationId credentialExpiresAt,
    c.calls i = .rotated x.pair registrationId credentialExpiresAt →
    credentialExpiresAt = x.replacement.expiresAt
  started : ∀ x ∈ c.store.rotations, ∀ i c',
    (credentialMachine sha256 ι).next c i (.rotate x.pair) = some c' → c.calls i = .idle →
    ∃ registrationId, c'.calls i = .rotating x.pair (.found registrationId)
  /-- Until its replacement is revoked, a repeated rotation fails only when it is cut off,
  when the membership is refused, and when the replacement has expired. -/
  repeated : ∀ x ∈ c.store.rotations, ∀ b ∈ c.store.credentials, x.replacement.Same b →
    b.revokedAt = none → ∀ i event c' stage error,
    (credentialMachine sha256 ι).next c i event = some c' →
    c.calls i = .rotating x.pair stage → c'.calls i = .failed error →
    event = .abort ∨ event = .membership (.error error) ∨ ∃ registrationId device record now,
      stage = .member registrationId device record now ∧ b.expiresAt ≤ now
  /-- No rotation of an unrevoked credential succeeds when it had expired. -/
  unexpired : ∀ i event c' pair registrationId credentialExpiresAt,
    (credentialMachine sha256 ι).next c i event = some c' →
    c'.calls i = .rotated pair registrationId credentialExpiresAt →
    ∃ device record now, c.calls i = .rotating pair (.member registrationId device record now) ∧
      ∀ a ∈ c.store.credentials, a.tokenSha256 = sha256 pair.current → a.revokedAt = none →
        now < a.expiresAt
  /-- A bearer is accepted only while its registration is active. -/
  authorized : ∀ i event c' record,
    (credentialMachine sha256 ι).next c i event = some c' →
    c'.calls i = .authorized record →
    ∃ d, c.store.registrations record.registrationId = some d ∧ d.isActive = true

theorem Sound.account (hc : Sound sha256 c) : RotationAccount sha256 c where
  current := hc.tables.current
  succeeded _ _ _ _ _ _ h hrotated := hc.succeeded h hrotated
  rotated := by
    intro x hx
    obtain ⟨-, -, -, hdigest, -, ⟨a, ha, hdigest', -, hrevoked⟩, b, hb, hsame⟩ :=
      hc.tables.rotated x hx
    refine ⟨⟨a, ha, hdigest', by simp [hrevoked]⟩, b, hb, ?_, hsame⟩
    unfold HolderCredentialRecord.Same at hsame
    rw [hsame, hdigest]
  once := ⟨hc.tables.once, fun x hx i event c' stage h hcall => (hc.kept h hx hcall).1⟩
  answered := by
    intro x hx i registrationId credentialExpiresAt hcall
    have hknows := hc.knows i
    rw [hcall] at hknows
    obtain ⟨r, hr, hdigest, -, rfl⟩ := hknows
    obtain ⟨-, -, -, hdigest', -, -, b, hb, hsame⟩ := hc.tables.rotated x hx
    unfold HolderCredentialRecord.Same at hsame
    have heq := hc.tables.eq_of_digest hr hb (by rw [hdigest, hsame, hdigest'])
    rw [heq, hsame]
  started := by
    intro x hx i c' h hcall
    obtain ⟨hcurrent, hreplacement, hne, -, -, ⟨a, ha, hdigest, -⟩, -⟩ := hc.tables.rotated x hx
    obtain ⟨action, call', hplan, rfl⟩ := next_plan h
    have hfind := hc.tables.findByDigest ha
    rw [hdigest] at hfind
    simp only [hcall, plan, planFirst, hcurrent, hreplacement, hne, hfind, Bool.true_eq_false,
      or_self, if_false, Option.some.injEq, Prod.mk.injEq] at hplan
    exact ⟨a.registrationId, by simp [← hplan.2]⟩
  repeated := by
    intro x hx b hb hsame hunrevoked i event c' stage error h hcall hfailed
    by_cases hevent : event = .abort
    · exact .inl hevent
    · right
      obtain ⟨action, call', hplan, rfl⟩ := next_plan h
      obtain rfl : call' = _ := by simpa using hfailed
      have hknows := hc.knows i
      rw [hcall] at hknows hplan
      rw [plan_rotating hevent] at hplan
      exact planRotate_repeats hc.tables hx hb hsame hunrevoked hknows.2 hplan
  unexpired := by
    intro i event c' pair registrationId credentialExpiresAt h hrotated
    obtain ⟨action, call', hplan, rfl⟩ := next_plan h
    obtain rfl : call' = _ := by simpa using hrotated
    obtain ⟨stage, hcall, hheld, hends⟩ := plan_rotated hplan
    have hknows := hc.knows i
    rw [hcall] at hknows
    cases hends with
    | retry hrevoked hmem hdigest hscope hvalid =>
        cases hheld
        obtain ⟨-, htimed, -⟩ := hknows
        refine ⟨_, _, _, hcall, fun a ha hdigest hnone => ?_⟩
        obtain rfl := hc.tables.eq_of_digest ha htimed.mem (hdigest.trans htimed.digest.symm)
        rw [hnone] at hrevoked
        cases hrevoked
    | issue hrevoked hissue =>
        cases hheld
        obtain ⟨-, htimed, -⟩ := hknows
        refine ⟨_, _, _, hcall, fun a ha hdigest hnone => ?_⟩
        obtain rfl := hc.tables.eq_of_digest ha htimed.mem (hdigest.trans htimed.digest.symm)
        have hvalid := (rotateIssue_eq_ok hissue).1
        exact (validRecordFor_iff.mp hvalid).2.2.2.2.2.2.1
  authorized := by
    intro i event c' record h hauthorized
    obtain ⟨action, call', hplan, rfl⟩ := next_plan h
    obtain rfl : call' = _ := by simpa using hauthorized
    exact plan_authorized hplan

/-- **A device has one current bearer, and rotation can be repeated**: the account holds in
every reachable state, what has been revoked is never valid again, and after a deactivation
no bearer of the registration is accepted. -/
theorem rotation_account (registrations : List DeviceRegistration)
    (pairings : List PairingConfirmation) (clock : DateTime) (schedule : List (ι × Event))
    (h : (credentialMachine sha256 ι).run
      ⟨.start registrations pairings clock, fun _ => .idle⟩ schedule = some c) :
    RotationAccount sha256 c ∧ ∀ later c',
      (credentialMachine sha256 ι).run c later = some c' →
      (∀ r ∈ c.store.credentials, r.revokedAt ≠ none → r ∈ c'.store.credentials ∧
        ∀ d now, validRecordFor r d now = false) ∧
      ∀ id d, c.store.registrations id = some d → d.isActive = false →
        ∀ i event c'' record, (credentialMachine sha256 ι).next c' i event = some c'' →
          c''.calls i = .authorized record → record.registrationId ≠ id := by
  have hsteps := fun (c : Config (Database ι) ι Call) i event c' (hc : Sound sha256 c) =>
    fun (h : (credentialMachine sha256 ι).next c i event = some c') => hc.step h
  have hc : Sound sha256 c := Machine.run_induct
    (fun c i event c' hc h => (hsteps c i event c' hc h).1)
    (sound_start registrations pairings clock) h
  refine ⟨hc.account, fun later c' hlater => ?_⟩
  obtain ⟨hc', hl⟩ := Machine.run_induct_rel (R := fun c c' => Later c.store c'.store)
    (fun c => .refl c.store) (fun _ _ _ h h' => h.trans h') hsteps hc hlater
  constructor
  · intro r hr hrevoked
    obtain ⟨r', hr', -, hkept⟩ := hl.kept r hr
    refine ⟨hkept hrevoked ▸ hr', fun d now => ?_⟩
    by_contra hvalid
    exact hrevoked (validRecordFor_iff.mp (by simpa using hvalid)).2.2.2.2.1
  · rintro id d hd hinactive i event c'' record hnext haccepted rfl
    obtain ⟨d', hd', hactive⟩ := hc'.account.authorized i event c'' record hnext haccepted
    obtain ⟨d'', hd'', hcase⟩ := hl.registered _ d hd
    rw [hd'] at hd''
    cases hd''
    obtain rfl | rfl := hcase
    · simp [hinactive] at hactive
    · simp at hactive

namespace Example

def first : String := "AAAAAAAAAAAAAAAAAAAAAAAAAAAAAAAAAAAAAAAAAAA"

def second : String := "ERERERERERERERERERERERERERERERERERERERERERE"

/-- The digests of the two bearers. -/
def digests (bearer : String) : Digest :=
  if bearer = first then
    [15, 0, 115, 133, 182, 249, 212, 183, 238, 178, 116, 134, 5, 175, 225, 169, 132, 160, 163,
      191, 163, 240, 20, 208, 158, 42, 120, 76, 233, 229, 205, 26]
  else if bearer = second then
    [181, 158, 101, 196, 2, 166, 41, 230, 197, 178, 131, 85, 199, 98, 138, 16, 2, 38, 43, 85, 180,
      58, 82, 249, 65, 192, 39, 64, 227, 189, 250, 252]
  else []

def device : DeviceRegistration := ⟨"registration", "user", some "organization", "device", true⟩

def rotation (i : Nat) (id : String) : List (Nat × Event) :=
  [(i, .rotate ⟨first, second⟩), (i, .lock), (i, .current), (i, .clock), (i, .pairing),
    (i, .membership (.ok ())), (i, .commit id [])]

/-- A bearer is issued, its pairing is confirmed, and it is rotated; the answer is lost, and
the rotation is repeated. -/
def repeated : List (Nat × Event) :=
  [(0, .issue "registration" "user" "organization" credentialLifetime), (0, .clock),
    (0, .commit "credential-1" (List.replicate 32 0)),
    (1, .recordIssued ⟨"pairing", "user", "organization", none, 600000000, none, none⟩),
    (2, .recordRedeemed "pairing" "user" "organization" "registration"),
    (3, .confirm "pairing" first)] ++ rotation 4 "credential-2" ++ rotation 5 "credential-3"

def beginning : Config (Database Nat) Nat Call := ⟨.start [device] [] 0, fun _ => .idle⟩

/-- Both are answered with the expiry of the one replacement. -/
theorem rotation_account_repeated :
    ∃ c, (credentialMachine digests Nat).run beginning repeated = some c ∧
      (c.calls 4 = .rotated ⟨first, second⟩ "registration" 86400000000 ∧
        c.calls 5 = .rotated ⟨first, second⟩ "registration" 86400000000 ∧
        c.store.rotations.length = 1) ∧ RotationAccount digests c := by
  have hobserved : ((credentialMachine digests Nat).run beginning repeated).any (fun c =>
      c.calls 4 = .rotated ⟨first, second⟩ "registration" 86400000000 ∧
        c.calls 5 = .rotated ⟨first, second⟩ "registration" 86400000000 ∧
        c.store.rotations.length = 1) = true := by
    decide +kernel
  obtain ⟨c, hrun, hc⟩ := (Option.any_eq_true _ _).mp hobserved
  exact ⟨c, hrun, of_decide_eq_true hc, (rotation_account [device] [] 0 repeated hrun).1⟩

/-- **A repeated rotation is refused** when its replacement has expired, although the
replacement has not been revoked. -/
theorem repeated_expired :
    ∃ c, (credentialMachine digests Nat).run beginning
        (repeated ++ (6, .tick 86400000000) :: rotation 7 "credential-4") = some c ∧
      ∃ x ∈ c.store.rotations, x.pair = ⟨first, second⟩ ∧ x.replacement ∈ c.store.credentials ∧
        x.replacement.revokedAt = none ∧
        c.calls 5 = .rotated x.pair "registration" x.replacement.expiresAt ∧
        c.calls 7 = .failed invalidRotation := by
  have hobserved : ((credentialMachine digests Nat).run beginning
      (repeated ++ (6, .tick 86400000000) :: rotation 7 "credential-4")).any (fun c =>
      ∃ x ∈ c.store.rotations, x.pair = ⟨first, second⟩ ∧ x.replacement ∈ c.store.credentials ∧
        x.replacement.revokedAt = none ∧
        c.calls 5 = .rotated x.pair "registration" x.replacement.expiresAt ∧
        c.calls 7 = .failed invalidRotation) = true := by
    decide +kernel
  obtain ⟨c, hrun, hc⟩ := (Option.any_eq_true _ _).mp hobserved
  exact ⟨c, hrun, of_decide_eq_true hc⟩

end Example

end Marty.Devices
