import Marty.Devices.HolderKeyCalls
import Mathlib.Data.List.Nodup

/-!
# The custody of remote keys

Three tables and the key service are kept in step by single transactions and single requests,
with the worker reading the tables without a lock.  Whatever the order of the steps, a purpose
of a registration has one current key, and none when the registration is deactivated.  As
long as no step comes too late, the key service has every key that is bound, and no key that
the tables have lost sight of.

## Main definitions

* `Condemned` — what the worker may remove.
* `Tables` — what holds of the rows and of the key service.
* `Knows` — what a call knows of them.
* `KeyCustody` — what is promised of every state.
-/

namespace Marty.Devices.HolderKeys

open Lib Lib.Checked Lib.Json Database

variable {ι : Type*} {sha256 : String → Digest} {containsPrivateKey : Value → Bool}
variable {db db' : Database ι} {i j : ι} {action : Action} {call call' : Call} {event : Event}
variable {key : HolderKeyRecord} {row : HolderKeyProvision} {reference registrationId : String}

/-- A pass of the worker has listed the reservation, or the key has been revoked. -/
def Condemned (db : Database ι) (reference : String) : Prop :=
  reference ∈ db.listed ∨
    ∃ key ∈ db.keys, key.providerReference = reference ∧ key.revokedAt ≠ none

/-- The name has been reserved. -/
def Named (db : Database ι) (reference : String) : Prop :=
  ∃ row ∈ db.provisions, row.providerReference = reference

/-- What holds of the rows and of the key service. -/
structure Tables (db : Database ι) : Prop where
  ids : ∀ id d, db.registrations id = some d → d.id = id
  names : (db.keys.map (·.providerReference)).Nodup
  reservations : (db.provisions.map (·.providerReference)).Nodup
  /-- At most one key of a purpose is unrevoked. -/
  current : ∀ k ∈ db.keys, ∀ k' ∈ db.keys, k.revokedAt = none → k'.revokedAt = none →
    k.registrationId = k'.registrationId → k.purpose = k'.purpose → k = k'
  active : ∀ k ∈ db.keys, k.revokedAt = none →
    ∃ d, db.registrations k.registrationId = some d ∧ d.isActive = true
  bound : ∀ k ∈ db.keys, ∃ p ∈ db.provisions,
    p.providerReference = k.providerReference ∧ p.boundAt ≠ none
  key : ∀ p ∈ db.provisions, p.boundAt ≠ none →
    ∃ k ∈ db.keys, k.providerReference = p.providerReference
  queued : ∀ k ∈ db.keys, k.revokedAt ≠ none →
    ∃ d ∈ db.deletions, d.providerReference = k.providerReference
  named : ∀ r, r ∈ db.service.keys ∨ r ∈ db.service.creating → Named db r
  missing : ∀ r ∈ db.service.missing, r ∉ db.service.keys
  cleaned : ∀ p ∈ db.provisions, p.cleanedAt ≠ none → p.providerReference ∈ db.service.missing
  deleted : ∀ d ∈ db.deletions, d.deletedAt ≠ none → d.providerReference ∈ db.service.missing
  condemned : ∀ r, r ∈ db.service.deleting ∨ r ∈ db.service.deleted → Condemned db r
  unlisted : ∀ k ∈ db.keys, k.providerReference ∉ db.listed

/-- What a call must have made sure of before it acts. -/
def Permitted (db : Database ι) (i : ι) : Action → Prop
  | .lock registrationId => db.locks registrationId = none
  | .lockProvision reference => db.provisionLocks reference = none
  | .register device => db.registrations device.id = none
  | .reserve row => db.reserveConflicts row = false ∧ row.boundAt = none ∧ row.cleanedAt = none
  | .bind key _ _ => db.provisionLocks key.providerReference = some i ∧
      (∃ d, db.registrations key.registrationId = some d ∧ d.isActive = true) ∧
      key.revokedAt = none ∧ db.keyConflicts key = false ∧
      (∃ p ∈ db.provisions, isOpen p key.providerReference = true) ∧
      key.providerReference ∉ db.listed
  | .deactivate registrationId _ => db.locks registrationId = some i
  | .abandon reference _ => db.provisionLocks reference = none
  | .clean reference _ _ => db.provisionLocks reference = none ∧ reference ∈ db.service.missing
  | .postponeProvision reference _ _ => db.provisionLocks reference = none
  | .markDeleted reference _ => reference ∈ db.service.missing
  | .list references => ∀ r ∈ references, ∃ p ∈ db.provisions, p.providerReference = r ∧
      p.boundAt = none
  | .requestCreate reference => Named db reference
  | .create reference => reference ∈ db.service.creating ∧ reference ∉ db.service.missing
  | .requestDelete reference => Condemned db reference
  | .delete reference => reference ∈ db.service.deleting
  | .missing reference => reference ∉ db.service.keys
  | .read | .release | .revoke _ _ | .postponeDeletion _ _ | .tick _ => True

/-! ## Rows -/

theorem mem_update {ρ : Type*} {rows : List ρ} {p : ρ → Bool} {f : ρ → ρ} {r : ρ} :
    r ∈ Table.update rows p f ↔ ∃ q ∈ rows, (if p q then f q else q) = r := List.mem_map

/-- An update that leaves the key alone. -/
theorem map_update {ρ κ : Type*} (rows : List ρ) (p : ρ → Bool) {f : ρ → ρ} {k : ρ → κ}
    (hf : ∀ r, k (f r) = k r) : (Table.update rows p f).map k = rows.map k := by
  rw [Table.update, List.map_map]
  refine List.map_congr_left fun r _ => ?_
  simp only [Function.comp]
  split
  case isTrue => exact hf r
  case isFalse => rfl

theorem isOpen_iff : isOpen row reference = true ↔
    row.providerReference = reference ∧ row.boundAt = none ∧ row.cleanedAt = none := by
  simp [isOpen, and_assoc]

theorem stale_isOpen {start : DateTime} (h : stale row reference start = true) :
    isOpen row reference = true := by
  simp only [stale, Bool.and_eq_true] at h
  exact h.1

theorem bindable_isOpen {start : DateTime} (h : bindable row key start = true) :
    isOpen row key.providerReference = true := by
  simp only [bindable, Bool.and_eq_true] at h
  exact h.1.1.1.1.1.1

/-- What `revoke_and_queue` makes of a key. -/
def retire (registrationId : String) (purpose : Option String) (now : DateTime)
    (key : HolderKeyRecord) : HolderKeyRecord :=
  if retired registrationId purpose key then
    { key with revokedAt := some (max now key.createdAt) }
  else key

section Retired

variable {purpose : Option String} {now : DateTime}

theorem mem_revokeAndQueue
    (h : key ∈ (db.revokeAndQueue registrationId purpose now).keys) :
    ∃ k ∈ db.keys, retire registrationId purpose now k = key := List.mem_map.mp h

theorem keys_revokeAndQueue : (db.revokeAndQueue registrationId purpose now).keys =
    db.keys.map (retire registrationId purpose now) := rfl

@[simp] theorem retire_providerReference :
    (retire registrationId purpose now key).providerReference = key.providerReference := by
  unfold retire
  split <;> rfl

@[simp] theorem retire_registrationId :
    (retire registrationId purpose now key).registrationId = key.registrationId := by
  unfold retire
  split <;> rfl

@[simp] theorem retire_purpose :
    (retire registrationId purpose now key).purpose = key.purpose := by
  unfold retire
  split <;> rfl

/-- What is unrevoked afterwards was so before, and was not meant. -/
theorem retire_eq_none (h : (retire registrationId purpose now key).revokedAt = none) :
    retire registrationId purpose now key = key ∧ key.revokedAt = none ∧
      retired registrationId purpose key = false := by
  unfold retire at h ⊢
  split at h
  case isTrue => cases h
  case isFalse hnot => exact ⟨if_neg hnot, h, by simpa using hnot⟩

/-- What is revoked afterwards was so before, or was meant. -/
theorem retire_ne_none (h : (retire registrationId purpose now key).revokedAt ≠ none) :
    key.revokedAt ≠ none ∨ retired registrationId purpose key = true := by
  by_cases hretired : retired registrationId purpose key = true
  · exact .inr hretired
  · left
    rwa [retire, if_neg hretired] at h

theorem retire_of_revoked (h : key.revokedAt ≠ none) :
    (retire registrationId purpose now key).revokedAt ≠ none := by
  unfold retire
  split
  case isTrue => simp
  case isFalse => exact h

theorem Condemned.revokeAndQueue (h : Condemned db reference) (registrationId : String)
    (purpose : Option String) (now : DateTime) :
    Condemned (db.revokeAndQueue registrationId purpose now) reference := by
  obtain hlisted | ⟨k, hk, hname, hrevoked⟩ := h
  · exact .inl hlisted
  · exact .inr ⟨retire registrationId purpose now k, List.mem_map_of_mem hk, by simpa using hname,
      retire_of_revoked hrevoked⟩

theorem Tables.revokeAndQueue (h : Tables db) (registrationId : String)
    (purpose : Option String) (now : DateTime) :
    Tables (db.revokeAndQueue registrationId purpose now) := by
  have hkey : ∀ k' ∈ (db.revokeAndQueue registrationId purpose now).keys,
      ∃ k ∈ db.keys, retire registrationId purpose now k = k' := fun _ => mem_revokeAndQueue
  constructor
  case ids => exact h.ids
  case names =>
    rw [keys_revokeAndQueue, List.map_map]
    have hsame : ((·.providerReference) ∘ retire registrationId purpose now) =
        (·.providerReference) := by
      funext k
      simp
    rw [hsame]
    exact h.names
  case reservations => exact h.reservations
  case current =>
    intro k₁ hk₁ k₂ hk₂ hnone₁ hnone₂ hid hpurpose
    obtain ⟨k, hk, rfl⟩ := hkey k₁ hk₁
    obtain ⟨k', hk', rfl⟩ := hkey k₂ hk₂
    obtain ⟨hsame, hnone, -⟩ := retire_eq_none hnone₁
    obtain ⟨hsame', hnone', -⟩ := retire_eq_none hnone₂
    rw [hsame, hsame'] at hid hpurpose ⊢
    exact h.current k hk k' hk' hnone hnone' hid hpurpose
  case active =>
    intro k₁ hk₁ hnone₁
    obtain ⟨k, hk, rfl⟩ := hkey k₁ hk₁
    rw [retire_registrationId]
    exact h.active k hk (retire_eq_none hnone₁).2.1
  case bound =>
    intro k₁ hk₁
    obtain ⟨k, hk, rfl⟩ := hkey k₁ hk₁
    rw [retire_providerReference]
    exact h.bound k hk
  case key =>
    intro p hp hbound
    obtain ⟨k, hk, hname⟩ := h.key p hp hbound
    exact ⟨retire registrationId purpose now k, List.mem_map_of_mem hk,
      by rw [retire_providerReference, hname]⟩
  case queued =>
    intro k₁ hk₁ hrevoked
    obtain ⟨k, hk, rfl⟩ := hkey k₁ hk₁
    rw [retire_providerReference]
    obtain hold | hretired := retire_ne_none hrevoked
    · obtain ⟨d, hd, hname⟩ := h.queued k hk hold
      exact ⟨d, List.mem_append_left _ hd, hname⟩
    · by_cases hqueued : db.deletions.any (·.providerReference == k.providerReference) = true
      · obtain ⟨d, hd, hname⟩ := List.any_eq_true.mp hqueued
        exact ⟨d, List.mem_append_left _ hd, by simpa using hname⟩
      · refine ⟨_, List.mem_append_right _ (List.mem_map.mpr ⟨k, ?_, rfl⟩), rfl⟩
        simp only [List.mem_filter, hk, hretired, hqueued, and_self, Bool.not_false]
  case named => exact h.named
  case missing => exact h.missing
  case cleaned => exact h.cleaned
  case deleted =>
    intro d hd hdeleted
    rcases List.mem_append.mp hd with hd | hd
    · exact h.deleted d hd hdeleted
    · obtain ⟨k, -, rfl⟩ := List.mem_map.mp hd
      exact absurd rfl hdeleted
  case condemned => exact fun r hr => (h.condemned r hr).revokeAndQueue _ _ _
  case unlisted =>
    intro k₁ hk₁
    obtain ⟨k, hk, rfl⟩ := hkey k₁ hk₁
    rw [retire_providerReference]
    exact h.unlisted k hk

end Retired

/-! ## Actions -/

/-- A reservation is rewritten under its name; it stays bound, and cleaned only when the key
is missing. -/
theorem Tables.provisions (h : Tables db) (p : HolderKeyProvision → Bool)
    {f : HolderKeyProvision → HolderKeyProvision}
    (hname : ∀ r, (f r).providerReference = r.providerReference)
    (hbound : ∀ r, (f r).boundAt = r.boundAt)
    (hcleaned : ∀ r ∈ db.provisions, p r = true → (f r).cleanedAt ≠ none →
      r.providerReference ∈ db.service.missing) :
    Tables { db with provisions := Table.update db.provisions p f } := by
  have hrow : ∀ r ∈ db.provisions, ∃ r' ∈ Table.update db.provisions p f,
      r'.providerReference = r.providerReference ∧ r'.boundAt = r.boundAt := by
    intro r hr
    refine ⟨_, mem_update.mpr ⟨r, hr, rfl⟩, ?_⟩
    split
    case isTrue => exact ⟨hname r, hbound r⟩
    case isFalse => exact ⟨rfl, rfl⟩
  constructor
  case ids => exact h.ids
  case names => exact h.names
  case reservations =>
    show (List.map _ (Table.update db.provisions p f)).Nodup
    rw [map_update _ _ hname]
    exact h.reservations
  case current => exact h.current
  case active => exact h.active
  case bound =>
    intro k hk
    obtain ⟨r, hr, hsame, hrbound⟩ := h.bound k hk
    obtain ⟨r', hr', hname', hbound'⟩ := hrow r hr
    exact ⟨r', hr', hname'.trans hsame, hbound' ▸ hrbound⟩
  case key =>
    intro r' hr' hr'bound
    obtain ⟨r, hr, rfl⟩ := mem_update.mp hr'
    split at hr'bound
    case isTrue hp =>
      rw [if_pos hp, hname]
      exact h.key r hr (hbound r ▸ hr'bound)
    case isFalse hp =>
      rw [if_neg hp]
      exact h.key r hr hr'bound
  case queued => exact h.queued
  case named =>
    intro r hr
    obtain ⟨q, hq, rfl⟩ := h.named r hr
    obtain ⟨q', hq', hname', -⟩ := hrow q hq
    exact ⟨q', hq', hname'⟩
  case missing => exact h.missing
  case cleaned =>
    intro r' hr' hr'cleaned
    obtain ⟨r, hr, rfl⟩ := mem_update.mp hr'
    split at hr'cleaned
    case isTrue hp =>
      rw [if_pos hp, hname]
      exact hcleaned r hr hp hr'cleaned
    case isFalse hp =>
      rw [if_neg hp]
      exact h.cleaned r hr hr'cleaned
  case deleted => exact h.deleted
  case condemned => exact h.condemned
  case unlisted => exact h.unlisted

/-- A deletion is rewritten under its name, and done only when the key is missing. -/
theorem Tables.deletions (h : Tables db) (p : HolderKeyDeletion → Bool)
    {f : HolderKeyDeletion → HolderKeyDeletion}
    (hname : ∀ r, (f r).providerReference = r.providerReference)
    (hdeleted : ∀ r ∈ db.deletions, p r = true → (f r).deletedAt ≠ none →
      r.providerReference ∈ db.service.missing) :
    Tables { db with deletions := Table.update db.deletions p f } := by
  refine { h with queued := fun k hk hrevoked => ?_, deleted := fun r' hr' hr'deleted => ?_ }
  · obtain ⟨r, hr, hsame⟩ := h.queued k hk hrevoked
    refine ⟨_, mem_update.mpr ⟨r, hr, rfl⟩, ?_⟩
    split
    case isTrue => exact (hname r).trans hsame
    case isFalse => exact hsame
  · obtain ⟨r, hr, rfl⟩ := mem_update.mp hr'
    split at hr'deleted
    case isTrue hp =>
      rw [if_pos hp, hname]
      exact hdeleted r hr hp hr'deleted
    case isFalse hp =>
      rw [if_neg hp]
      exact h.deleted r hr hr'deleted

/-- **A key is bound** in the place of those that it revokes. -/
theorem Tables.bind (h : Tables db) {now start : DateTime}
    (hp : Permitted db i (.bind key now start)) : Tables (db.bind key now start) := by
  obtain ⟨-, ⟨d, hd, hactive⟩, hunrevoked, hfresh, ⟨q, hq, hopen⟩, hunlisted⟩ := hp
  have hrevoked := h.revokeAndQueue key.registrationId (some key.purpose) now
  have hkeys : (db.bind key now start).keys =
      db.keys.map (retire key.registrationId (some key.purpose) now) ++ [key] := rfl
  have hold : ∀ k ∈ (db.bind key now start).keys, k = key ∨
      k ∈ (db.revokeAndQueue key.registrationId (some key.purpose) now).keys := by
    intro k hk
    rw [hkeys, List.mem_append, List.mem_singleton] at hk
    exact hk.symm
  have hnone : ∀ k ∈ (db.revokeAndQueue key.registrationId (some key.purpose) now).keys,
      k.registrationId = key.registrationId → k.purpose = key.purpose → k.revokedAt ≠ none := by
    intro k₁ hk₁ hid hpurpose hnone
    obtain ⟨k, -, rfl⟩ := mem_revokeAndQueue hk₁
    obtain ⟨-, hnone', hnot⟩ := retire_eq_none hnone
    rw [retire_registrationId] at hid
    rw [retire_purpose] at hpurpose
    simp [retired, hid, hpurpose, hnone'] at hnot
  have hprovisions : ∀ p ∈ db.provisions, ∃ p' ∈ (db.bind key now start).provisions,
      p'.providerReference = p.providerReference ∧ (p.boundAt ≠ none → p'.boundAt ≠ none) := by
    intro p hp
    refine ⟨_, mem_update.mpr ⟨p, hp, rfl⟩, ?_⟩
    split
    case isTrue => exact ⟨rfl, fun _ => by simp⟩
    case isFalse => exact ⟨rfl, id⟩
  simp only [keyConflicts, List.any_eq_false, Bool.or_eq_true, beq_iff_eq, not_or] at hfresh
  constructor
  case ids => exact h.ids
  case names =>
    rw [hkeys, List.map_append, List.nodup_append]
    refine ⟨hrevoked.names, by simp, ?_⟩
    intro x hx y hy
    simp only [List.map_cons, List.map_nil, List.mem_singleton] at hy
    obtain ⟨k₁, hk₁, rfl⟩ := List.mem_map.mp hx
    obtain ⟨k, hk, rfl⟩ := mem_revokeAndQueue hk₁
    rw [hy, retire_providerReference]
    exact (hfresh k hk).2
  case reservations =>
    show (List.map _ (Table.update db.provisions _ _)).Nodup
    rw [map_update]
    · exact h.reservations
    · exact fun _ => rfl
  case current =>
    intro k hk k' hk' hnone₁ hnone₂ hid hpurpose
    obtain rfl | hk := hold k hk
    · obtain rfl | hk' := hold k' hk'
      · rfl
      · exact absurd hnone₂ (hnone k' hk' hid.symm hpurpose.symm)
    · obtain rfl | hk' := hold k' hk'
      · exact absurd hnone₁ (hnone k hk hid hpurpose)
      · exact hrevoked.current k hk k' hk' hnone₁ hnone₂ hid hpurpose
  case active =>
    intro k hk hknone
    obtain rfl | hk := hold k hk
    · exact ⟨d, hd, hactive⟩
    · exact hrevoked.active k hk hknone
  case bound =>
    intro k hk
    obtain rfl | hk := hold k hk
    · refine ⟨_, mem_update.mpr ⟨q, hq, if_pos hopen⟩, ?_⟩
      exact ⟨(isOpen_iff.mp hopen).1, by simp⟩
    · obtain ⟨p, hp, hname, hbound⟩ := hrevoked.bound k hk
      obtain ⟨p', hp', hname', hbound'⟩ := hprovisions p hp
      exact ⟨p', hp', hname'.trans hname, hbound' hbound⟩
  case key =>
    intro p' hp' hbound
    obtain ⟨p, hp, rfl⟩ := mem_update.mp hp'
    split at hbound
    case isTrue hpopen =>
      refine ⟨key, by simp [hkeys], ?_⟩
      rw [if_pos hpopen]
      exact (isOpen_iff.mp hpopen).1.symm
    case isFalse hpopen =>
      obtain ⟨k, hk, hname⟩ := hrevoked.key p hp hbound
      refine ⟨k, List.mem_append_left _ hk, ?_⟩
      rwa [if_neg hpopen]
  case queued =>
    intro k hk hkrevoked
    obtain rfl | hk := hold k hk
    · exact absurd hunrevoked hkrevoked
    · exact hrevoked.queued k hk hkrevoked
  case named =>
    intro r hr
    obtain ⟨p, hp, rfl⟩ := h.named r hr
    obtain ⟨p', hp', hname, -⟩ := hprovisions p hp
    exact ⟨p', hp', hname⟩
  case missing => exact h.missing
  case cleaned =>
    intro p' hp' hcleaned
    obtain ⟨p, hp, rfl⟩ := mem_update.mp hp'
    split at hcleaned
    case isTrue hpopen => exact absurd (isOpen_iff.mp hpopen).2.2 hcleaned
    case isFalse hpopen =>
      rw [if_neg hpopen]
      exact h.cleaned p hp hcleaned
  case deleted => exact hrevoked.deleted
  case condemned =>
    intro r hr
    obtain hlisted | ⟨k, hk, hname, hkrevoked⟩ := hrevoked.condemned r hr
    · exact .inl hlisted
    · exact .inr ⟨k, List.mem_append_left _ hk, hname, hkrevoked⟩
  case unlisted =>
    intro k hk
    obtain rfl | hk := hold k hk
    · exact hunlisted
    · exact hrevoked.unlisted k hk

theorem Tables.deactivate (h : Tables db) (registrationId : String) (now : DateTime) :
    Tables (db.deactivate registrationId now) := by
  have hrevoked := h.revokeAndQueue registrationId none now
  refine { hrevoked with ids := fun id d hd => ?_, active := fun k hk hnone => ?_ }
  · by_cases hid : id = registrationId
    · simp only [Database.deactivate, Database.revokeAndQueue, hid, Function.update_self,
        Option.map_eq_some_iff] at hd
      obtain ⟨d', hd', rfl⟩ := hd
      exact (h.ids _ d' hd').trans hid.symm
    · simp only [Database.deactivate, Database.revokeAndQueue, Function.update_of_ne hid] at hd
      exact h.ids id d hd
  · obtain ⟨d, hd, hactive⟩ := hrevoked.active k hk hnone
    refine ⟨d, ?_, hactive⟩
    have hid : k.registrationId ≠ registrationId := by
      intro hid
      obtain ⟨q, -, rfl⟩ := mem_revokeAndQueue hk
      obtain ⟨-, hnone', hnot⟩ := retire_eq_none hnone
      rw [retire_registrationId] at hid
      simp [retired, hid, hnone'] at hnot
    simp only [Database.deactivate, Function.update_of_ne hid]
    exact hd

/-- A transaction that ends changes no row. -/
theorem Tables.release [DecidableEq ι] (h : Tables db) (i : ι) : Tables (db.release i) :=
  { h with }

theorem Condemned.mono (h : Condemned db reference) (hlisted : db.listed ⊆ db'.listed)
    (hkeys : db'.keys = db.keys) : Condemned db' reference :=
  h.imp (fun h => hlisted h) (by rw [hkeys]; exact id)

theorem reserveConflicts_eq_false (h : db.reserveConflicts row = false) :
    ∀ p ∈ db.provisions, p.providerReference ≠ row.providerReference := by
  simp only [reserveConflicts, List.any_eq_false, Bool.or_eq_true, beq_iff_eq, not_or] at h
  exact fun p hp => (h p hp).1

theorem Tables.apply [DecidableEq ι] (h : Tables db) (hp : Permitted db i action) :
    Tables (db.apply i action) := by
  cases action with
  | read => exact h
  | lock registrationId => exact { h with }
  | lockProvision reference => exact { h with }
  | release => exact h.release i
  | register device =>
      refine { h with ids := fun id d hd => ?_, active := fun k hk hnone => ?_ }
      · by_cases hid : id = device.id
        · simp only [Database.apply, hid, Function.update_self, Option.some.injEq] at hd
          exact hd ▸ hid.symm
        · simp only [Database.apply, Function.update_of_ne hid] at hd
          exact h.ids id d hd
      · obtain ⟨d, hd, hactive⟩ := h.active k hk hnone
        refine ⟨d, ?_, hactive⟩
        have hid : k.registrationId ≠ device.id := by
          intro hid
          rw [hid, show db.registrations device.id = none from hp] at hd
          cases hd
        simp only [Database.apply, Function.update_of_ne hid]
        exact hd
  | reserve row =>
      obtain ⟨hfresh, hbound, hcleaned⟩ := hp
      have hfresh := reserveConflicts_eq_false hfresh
      have hmem : ∀ p ∈ db.provisions ++ [row], p ∈ db.provisions ∨ p = row := by simp
      have hreserved : Tables { db with provisions := db.provisions ++ [row] } := by
        refine { h with
          reservations := ?_, bound := fun k hk => ?_, key := fun p hp hpbound => ?_
          named := fun r hr => ?_, cleaned := fun p hp hpcleaned => ?_ }
        · show (List.map _ (db.provisions ++ [row])).Nodup
          rw [List.map_append, List.nodup_append]
          refine ⟨h.reservations, by simp, ?_⟩
          intro x hx y hy
          simp only [List.map_cons, List.map_nil, List.mem_singleton] at hy
          obtain ⟨p, hp, rfl⟩ := List.mem_map.mp hx
          exact hy ▸ hfresh p hp
        · obtain ⟨p, hp, hrest⟩ := h.bound k hk
          exact ⟨p, List.mem_append_left _ hp, hrest⟩
        · obtain hp | rfl := hmem p hp
          · exact h.key p hp hpbound
          · exact absurd hbound hpbound
        · obtain ⟨p, hp, hname⟩ := h.named r hr
          exact ⟨p, List.mem_append_left _ hp, hname⟩
        · obtain hp | rfl := hmem p hp
          · exact h.cleaned p hp hpcleaned
          · exact absurd hcleaned hpcleaned
      exact hreserved.release i
  | bind key now start => exact (h.bind hp).release i
  | revoke registrationId now => exact (h.revokeAndQueue registrationId none now).release i
  | deactivate registrationId now => exact (h.deactivate registrationId now).release i
  | abandon reference start =>
      refine h.provisions _ (fun _ => rfl) (fun _ => rfl) ?_
      exact fun r _ hopen hcleaned => absurd (isOpen_iff.mp hopen).2.2 hcleaned
  | clean reference now start =>
      refine h.provisions _ (fun _ => rfl) (fun _ => rfl) ?_
      intro r _ hstale _
      rw [(isOpen_iff.mp (stale_isOpen hstale)).1]
      exact hp.2
  | postponeProvision reference now start =>
      refine h.provisions _ (fun _ => rfl) (fun _ => rfl) ?_
      exact fun r _ hstale hcleaned => absurd (isOpen_iff.mp (stale_isOpen hstale)).2.2 hcleaned
  | markDeleted reference now =>
      refine h.deletions _ (fun _ => rfl) ?_
      intro r _ hpending _
      simp only [pendingDeletion, Bool.and_eq_true, beq_iff_eq] at hpending
      rw [hpending.1]
      exact hp
  | postponeDeletion reference now =>
      refine h.deletions _ (fun _ => rfl) ?_
      intro r _ hpending hdeleted
      simp only [pendingDeletion, Bool.and_eq_true, Option.isNone_iff_eq_none] at hpending
      exact absurd hpending.2 hdeleted
  | list references =>
      refine { h with
        condemned := fun r hr => (h.condemned r hr).mono (List.subset_append_left _ _) rfl
        unlisted := fun k hk hlisted => ?_ }
      rcases List.mem_append.mp hlisted with hlisted | hlisted
      · exact h.unlisted k hk hlisted
      · -- the reservation of a key is bound, and a listed one is not
        obtain ⟨p, hp, hname, hnone⟩ := hp _ hlisted
        obtain ⟨p', hp', hname', hbound⟩ := h.bound k hk
        have hsame := List.inj_on_of_nodup_map h.reservations hp hp' (hname.trans hname'.symm)
        exact hbound (hsame ▸ hnone)
  | requestCreate reference =>
      refine { h with named := fun r hr => ?_ }
      rcases hr with hr | hr
      · exact h.named r (.inl hr)
      · rcases List.mem_cons.mp hr with rfl | hr
        · exact hp
        · exact h.named r (.inr hr)
  | create reference =>
      refine { h with named := fun r hr => ?_, missing := fun r hr hkeys => ?_ }
      · rcases hr with hr | hr
        · rcases List.mem_cons.mp hr with rfl | hr
          · exact h.named r (.inr hp.1)
          · exact h.named r (.inl hr)
        · exact h.named r (.inr (List.mem_of_mem_erase hr))
      · rcases List.mem_cons.mp hkeys with rfl | hkeys
        · exact hp.2 hr
        · exact h.missing r hr hkeys
  | requestDelete reference =>
      refine { h with condemned := fun r hr => ?_ }
      rcases hr with hr | hr
      · rcases List.mem_cons.mp hr with rfl | hr
        · exact hp
        · exact h.condemned r (.inl hr)
      · exact h.condemned r (.inr hr)
  | delete reference =>
      refine { h with
        named := fun r hr => ?_, missing := fun r hr hkeys => ?_, condemned := fun r hr => ?_ }
      · exact h.named r (hr.imp_left List.mem_of_mem_filter)
      · exact h.missing r hr (List.mem_of_mem_filter hkeys)
      · rcases hr with hr | hr
        · exact h.condemned r (.inl (List.mem_of_mem_erase hr))
        · rcases List.mem_cons.mp hr with rfl | hr
          · exact h.condemned r (.inl hp)
          · exact h.condemned r (.inr hr)
  | missing reference =>
      have hmono : db.service.missing ⊆ reference :: db.service.missing := List.subset_cons_self _ _
      refine { h with
        missing := fun r hr => ?_
        cleaned := fun p hp' hcleaned => hmono (h.cleaned p hp' hcleaned)
        deleted := fun d hd hdeleted => hmono (h.deleted d hd hdeleted) }
      rcases List.mem_cons.mp hr with rfl | hr
      · exact hp
      · exact h.missing r hr
  | tick now => exact { h with }

/-! ## What stays -/

/-- What never goes back. -/
structure Later (db db' : Database ι) : Prop where
  named : ∀ r, Named db r → Named db' r
  condemned : ∀ r, Condemned db r → Condemned db' r
  missing : db.service.missing ⊆ db'.service.missing

/-- What the locks of call `j` keep from the others. -/
structure Keeps (db db' : Database ι) (j : ι) : Prop where
  lock : ∀ id, db.locks id = some j → db'.locks id = some j ∧
    ∀ d, db.registrations id = some d → db'.registrations id = some d
  provision : ∀ r, db.provisionLocks r = some j → db'.provisionLocks r = some j ∧
    ∀ p ∈ db.provisions, isOpen p r = true → p ∈ db'.provisions

/-- A step that leaves the locks, the registrations and the reservations alone. -/
theorem Keeps.of_same (hlocks : db'.locks = db.locks)
    (hregistrations : db'.registrations = db.registrations)
    (hprovisionLocks : db'.provisionLocks = db.provisionLocks)
    (hprovisions : db'.provisions = db.provisions) : Keeps db db' j where
  lock id h := ⟨by rw [hlocks, h], fun d hd => by rw [hregistrations, hd]⟩
  provision r h := ⟨by rw [hprovisionLocks, h], fun p hp _ => by rwa [hprovisions]⟩

theorem Keeps.release [DecidableEq ι] (h : Keeps db db' j) (hne : j ≠ i) :
    Keeps db (db'.release i) j where
  lock id hid := by
    obtain ⟨hlock, hregistration⟩ := h.lock id hid
    refine ⟨?_, hregistration⟩
    simp [Database.release, hlock, hne]
  provision r hr := by
    obtain ⟨hlock, hrow⟩ := h.provision r hr
    refine ⟨?_, hrow⟩
    simp [Database.release, hlock, hne]

/-- A row under another name, or one that the update does not meet, stays as it is. -/
theorem mem_update_of_not {ρ : Type*} {rows : List ρ} {p : ρ → Bool} {f : ρ → ρ} {r : ρ}
    (hr : r ∈ rows) (h : p r = false) : r ∈ Table.update rows p f :=
  mem_update.mpr ⟨r, hr, by rw [h]; rfl⟩

/-- An update of the reservation of one name, which call `j` has not locked. -/
theorem Keeps.provisions {p : HolderKeyProvision → Bool}
    {f : HolderKeyProvision → HolderKeyProvision}
    (hp : ∀ r, p r = true → r.providerReference = reference)
    (hlock : db.provisionLocks reference ≠ some j) :
    Keeps db { db with provisions := Table.update db.provisions p f } j where
  lock id h := ⟨h, fun _ hd => hd⟩
  provision r h := by
    refine ⟨h, fun q hq hopen => mem_update_of_not hq ?_⟩
    by_contra hmeets
    have hname := hp q (by simpa using hmeets)
    rw [(isOpen_iff.mp hopen).1] at hname
    exact hlock (hname ▸ h)

theorem Named.provisions {p : HolderKeyProvision → Bool}
    {f : HolderKeyProvision → HolderKeyProvision}
    (hname : ∀ r, (f r).providerReference = r.providerReference) (h : Named db reference) :
    Named { db with provisions := Table.update db.provisions p f } reference := by
  obtain ⟨q, hq, rfl⟩ := h
  refine ⟨_, mem_update.mpr ⟨q, hq, rfl⟩, ?_⟩
  split
  case isTrue => exact hname q
  case isFalse => rfl

section Steps

variable [DecidableEq ι]

theorem Later.apply (hp : Permitted db i action) : Later db (db.apply i action) := by
  have hsame : ∀ r, Condemned db r → Condemned db r := fun _ h => h
  have hnamed : ∀ r, Named db r → Named db r := fun _ h => h
  have hsubset : db.service.missing ⊆ db.service.missing := List.Subset.refl _
  cases action with
  | read | lock | lockProvision | release | register | markDeleted | postponeDeletion
  | requestCreate | create | requestDelete | delete | tick => exact ⟨hnamed, hsame, hsubset⟩
  | reserve row =>
      refine ⟨fun r h => ?_, hsame, hsubset⟩
      obtain ⟨p, hp, hname⟩ := h
      exact ⟨p, List.mem_append_left _ hp, hname⟩
  | bind key now start =>
      refine ⟨fun r h => h.provisions fun _ => rfl, fun r h => ?_, hsubset⟩
      obtain hlisted | ⟨k, hk, hname, hrevoked⟩ :=
        h.revokeAndQueue key.registrationId (some key.purpose) now
      · exact .inl hlisted
      · exact .inr ⟨k, List.mem_append_left _ hk, hname, hrevoked⟩
  | revoke registrationId now => exact ⟨hnamed, fun r h => h.revokeAndQueue _ _ _, hsubset⟩
  | deactivate registrationId now => exact ⟨hnamed, fun r h => h.revokeAndQueue _ _ _, hsubset⟩
  | abandon reference start => exact ⟨fun r h => h.provisions fun _ => rfl, hsame, hsubset⟩
  | clean reference now start => exact ⟨fun r h => h.provisions fun _ => rfl, hsame, hsubset⟩
  | postponeProvision reference now start =>
      exact ⟨fun r h => h.provisions fun _ => rfl, hsame, hsubset⟩
  | list references => exact ⟨hnamed, fun r h => h.mono (List.subset_append_left _ _) rfl, hsubset⟩
  | missing reference => exact ⟨hnamed, hsame, List.subset_cons_self _ _⟩

/-- **A lock keeps** the row from every other call. -/
theorem Keeps.apply (hp : Permitted db i action) (hne : j ≠ i) :
    Keeps db (db.apply i action) j := by
  have hother : ∀ {x : Option ι}, x = some i → x ≠ some j := by
    rintro x rfl h
    exact hne (Option.some.inj h).symm
  have hfree : ∀ {x : Option ι}, x = none → x ≠ some j := by
    rintro x rfl h
    cases h
  cases action with
  | read | markDeleted | postponeDeletion | list | requestCreate | create | requestDelete | delete
  | missing | tick => exact .of_same rfl rfl rfl rfl
  | lock registrationId =>
      refine ⟨fun id h => ⟨?_, fun d hd => hd⟩, fun r h => ⟨h, fun p hp _ => hp⟩⟩
      have hid : id ≠ registrationId := fun hid => hfree hp (hid ▸ h)
      simpa only [Database.apply, Function.update_of_ne hid] using h
  | lockProvision reference =>
      refine ⟨fun id h => ⟨h, fun d hd => hd⟩, fun r h => ⟨?_, fun p hp _ => hp⟩⟩
      have hr : r ≠ reference := fun hr => hfree hp (hr ▸ h)
      simpa only [Database.apply, Function.update_of_ne hr] using h
  | release => exact (Keeps.of_same rfl rfl rfl rfl).release hne
  | register device =>
      refine ⟨fun id h => ⟨h, fun d hd => ?_⟩, fun r h => ⟨h, fun p hp _ => hp⟩⟩
      have hid : id ≠ device.id := by
        intro hid
        rw [hid, show db.registrations device.id = none from hp] at hd
        cases hd
      simpa only [Database.apply, Function.update_of_ne hid] using hd
  | reserve row =>
      have hkeeps : Keeps db { db with provisions := db.provisions ++ [row] } j :=
        ⟨fun id h => ⟨h, fun d hd => hd⟩, fun r h => ⟨h, fun p hp _ => List.mem_append_left _ hp⟩⟩
      exact hkeeps.release hne
  | bind key now start =>
      have hkeeps : Keeps db (db.bind key now start) j := by
        have hupdate := Keeps.provisions (p := (isOpen · key.providerReference))
          (f := fun row => { row with boundAt := some start })
          (fun r h => (isOpen_iff.mp h).1) (hother hp.1)
        exact ⟨hupdate.lock, hupdate.provision⟩
      exact hkeeps.release hne
  | revoke registrationId now =>
      have hkeeps : Keeps db (db.revokeAndQueue registrationId none now) j :=
        .of_same rfl rfl rfl rfl
      exact hkeeps.release hne
  | deactivate registrationId now =>
      have hkeeps : Keeps db (db.deactivate registrationId now) j := by
        refine ⟨fun id h => ⟨h, fun d hd => ?_⟩, fun r h => ⟨h, fun p hp _ => hp⟩⟩
        have hid : id ≠ registrationId := fun hid => hother hp (hid ▸ h)
        simpa only [Database.deactivate, Database.revokeAndQueue, Function.update_of_ne hid]
          using hd
      exact hkeeps.release hne
  | abandon reference start => exact .provisions (fun r h => (isOpen_iff.mp h).1) (hfree hp)
  | clean reference now start =>
      exact .provisions (fun r h => (isOpen_iff.mp (stale_isOpen h)).1) (hfree hp.1)
  | postponeProvision reference now start =>
      exact .provisions (fun r h => (isOpen_iff.mp (stale_isOpen h)).1) (hfree hp)

end Steps

/-! ## Calls -/

/-- What a pass may remove. -/
def Pass.Condemned (db : Database ι) (pass : Pass) : Prop :=
  HolderKeys.Condemned db pass.reference ∧
    ∀ e ∈ pass.rest, HolderKeys.Condemned db e.1.providerReference

/-- The registration is locked by the call, and the key may be bound to it. -/
def Binds (db : Database ι) (i : ι) (key : HolderKeyRecord) : Prop :=
  db.locks key.registrationId = some i ∧ key.revokedAt = none ∧
    ∃ d, db.registrations key.registrationId = some d ∧ d.isActive = true

/-- What a call knows of the rows. -/
def Knows (db : Database ι) (i : ι) : Call → Prop
  | .reservingRow p row => row.providerReference = p.reference ∧ row.boundAt = none ∧
      row.cleanedAt = none
  | .reserved p => Named db p.reference
  | .bindingLocked _ key _ _ => Binds db i key
  | .bindingReserved _ key _ _ => Binds db i key ∧
      db.provisionLocks key.providerReference = some i ∧
      ∃ p ∈ db.provisions, isOpen p key.providerReference = true
  | .deactivating registrationId _ => db.locks registrationId = some i
  | .deactivatingAt registrationId _ _ => db.locks registrationId = some i
  | .listing pending => ∀ e ∈ pending, Condemned db e.1.providerReference
  | .cleaning rest _ _ => ∀ e ∈ rest, Condemned db e.1.providerReference
  | .revokingRemote pass => pass.Condemned db
  | .refused pass => pass.Condemned db
  | .gone pass => pass.Condemned db ∧ pass.reference ∈ db.service.missing
  | .unmarked pass => pass.Condemned db
  | _ => True

theorem Pass.Condemned.later {pass : Pass} (h : pass.Condemned db) (hlater : Later db db') :
    pass.Condemned db' :=
  ⟨hlater.condemned _ h.1, fun e he => hlater.condemned _ (h.2 e he)⟩

theorem Binds.keeps (h : Binds db j key) (hkeeps : Keeps db db' j) : Binds db' j key := by
  obtain ⟨hlock, hunrevoked, d, hd, hactive⟩ := h
  obtain ⟨hlock', hregistration⟩ := hkeeps.lock _ hlock
  exact ⟨hlock', hunrevoked, d, hregistration d hd, hactive⟩

/-- What a call knows stays true while its locks keep others away. -/
theorem Knows.step (h : Knows db j call) (hlater : Later db db') (hkeeps : Keeps db db' j) :
    Knows db' j call := by
  cases call with
  | reservingRow p row => exact h
  | reserved p => exact hlater.named _ h
  | bindingLocked p key now start => exact Binds.keeps h hkeeps
  | bindingReserved p key now start =>
      obtain ⟨hbinds, hlock, q, hq, hopen⟩ := h
      obtain ⟨hlock', hrow⟩ := hkeeps.provision _ hlock
      exact ⟨hbinds.keeps hkeeps, hlock', q, hrow q hq hopen, hopen⟩
  | deactivating registrationId device => exact (hkeeps.lock _ h).1
  | deactivatingAt registrationId device now => exact (hkeeps.lock _ h).1
  | listing pending => exact fun e he => hlater.condemned _ (h e he)
  | cleaning rest deleted postponed => exact fun e he => hlater.condemned _ (h e he)
  | revokingRemote pass => exact Pass.Condemned.later h hlater
  | refused pass => exact Pass.Condemned.later h hlater
  | gone pass => exact ⟨h.1.later hlater, hlater.missing h.2⟩
  | unmarked pass => exact Pass.Condemned.later h hlater
  | _ => trivial

/-! ## What each call does -/

theorem bindScope_eq_ok {registration : Option DeviceRegistration} {now : DateTime} {u : Unit}
    (h : bindScope sha256 registration key now = .ok u) :
    key.revokedAt = none ∧ ∃ d, registration = some d ∧ d.isActive = true := by
  simp only [bindScope, bind_eq_ok, okOr_eq_ok, rejectIf_eq_ok, not_or, Bool.not_eq_false] at h
  obtain ⟨d, hd, hvalid, -⟩ := h
  simp only [HolderKeyRecord.validFor, Bool.and_eq_true, Option.isNone_iff_eq_none] at hvalid
  obtain ⟨⟨⟨⟨⟨⟨⟨⟨⟨⟨⟨heligible, hnone⟩, -⟩, -⟩, -⟩, -⟩, -⟩, -⟩, -⟩, -⟩, -⟩, -⟩ := hvalid
  exact ⟨hnone, d, hd, eligible_isActive heligible⟩

theorem reserveRow_eq_ok {registration : Option DeviceRegistration} {start : DateTime}
    {request : CreateHolderKeyRequest}
    (h : reserveRow sha256 registration request start = .ok row) :
    row.providerReference = request.scope.providerReference ∧ row.boundAt = none ∧
      row.cleanedAt = none := by
  simp only [reserveRow, bind_eq_ok, okOr_eq_ok, rejectIf_eq_ok, exists_unit, pure, Except.pure,
    Except.ok.injEq] at h
  obtain ⟨d, -, organizationId, -, -, rfl⟩ := h
  exact ⟨rfl, rfl, rfl⟩

/-- What the worker lists is a key that has been revoked. -/
theorem pendingDeletions_condemned {start : DateTime} {scope : HolderKeyScope}
    (h : scope ∈ db.pendingDeletions start) : Condemned db scope.providerReference := by
  obtain ⟨k, hk, rfl⟩ := List.mem_map.mp h
  obtain ⟨d, -, hfound⟩ := List.mem_filterMap.mp (List.mem_of_mem_take hk)
  have hrow := List.find?_some hfound
  simp only [Bool.and_eq_true, Option.isSome_iff_ne_none] at hrow
  exact .inr ⟨k, List.mem_of_find?_eq_some hfound, rfl, hrow.2⟩

/-- What the worker lists is a reservation that has not been bound. -/
theorem expiredProvisions_unbound {start : DateTime} {scope : HolderKeyScope}
    (h : scope ∈ db.expiredProvisions start) :
    ∃ p ∈ db.provisions, p.providerReference = scope.providerReference ∧ p.boundAt = none := by
  obtain ⟨p, hp, rfl⟩ := List.mem_map.mp h
  have hdue := (List.mem_insertionSort _).mp (List.mem_of_mem_take hp)
  simp only [List.mem_filter, Bool.and_eq_true, Option.isNone_iff_eq_none] at hdue
  exact ⟨p, hdue.1, rfl, hdue.2.1.1.1⟩

theorem Pass.Condemned.next {pass : Pass} (h : pass.Condemned db) (deleted postponed : Nat) :
    Knows db i (pass.next deleted postponed) := h.2

section Acts

variable [DecidableEq ι]

/-- What a call may do, with what it knows afterwards. -/
structure Acts (db : Database ι) (i : ι) (action : Action) (call' : Call) : Prop where
  permitted : Permitted db i action
  knows : Knows (db.apply i action) i call'

theorem Acts.read (hknows : Knows db i call') : Acts db i .read call' := ⟨trivial, hknows⟩

theorem lockRow_acts (h : lockRow db registrationId call = some (action, call'))
    (hknows : Knows (db.apply i (.lock registrationId)) i call) : Acts db i action call' := by
  unfold lockRow at h
  split at h
  case isTrue hfree =>
    cases h
    have hlock : db.locks registrationId = none := by simpa using hfree
    exact ⟨hlock, hknows⟩
  case isFalse => cases h

theorem writeProvision_acts {meets : HolderKeyProvision → Bool} {write : Action}
    {next otherwise : Call}
    (h : writeProvision db reference meets write next otherwise = some (action, call'))
    (hwrite : db.provisionLocks reference = none → Acts db i write next)
    (hotherwise : Knows db i otherwise) : Acts db i action call' := by
  unfold writeProvision at h
  split at h
  case isTrue =>
    split at h
    case isTrue hfree =>
      cases h
      exact hwrite (by simpa using hfree)
    case isFalse => cases h
  case isFalse =>
    cases h
    exact .read hotherwise

theorem planFirst_acts (h : planFirst sha256 db event = some (action, call'))
    (hcreate : ∀ r, event = .create r → r ∉ db.service.missing) : Acts db i action call' := by
  unfold planFirst at h
  split at h
  case h_1 now =>
    split at h
    case isTrue =>
      cases h
      exact ⟨trivial, trivial⟩
    case isFalse => cases h
  case h_2 reference =>
    split at h
    case isTrue hmem =>
      cases h
      exact ⟨⟨hmem, hcreate _ rfl⟩, trivial⟩
    case isFalse => cases h
  case h_3 reference =>
    split at h
    case isTrue hmem =>
      cases h
      exact ⟨hmem, trivial⟩
    case isFalse => cases h
  case h_4 device =>
    split at h
    case isTrue hnew =>
      cases h
      have hnone : db.registrations device.id = none := by simpa using hnew
      exact ⟨hnone, trivial⟩
    case isFalse => cases h
  case h_5 =>
    split at h <;>
    · cases h
      exact .read trivial
  case h_6 registrationId now =>
    split at h
    case h_1 =>
      cases h
      exact .read trivial
    case h_2 => exact lockRow_acts h trivial
  case h_7 registrationId =>
    split at h
    case h_1 =>
      cases h
      exact .read trivial
    case h_2 device hdevice =>
      split at h
      case isTrue => exact lockRow_acts h (Function.update_self ..)
      case isFalse =>
        split at h
        case isTrue =>
          cases h
          exact .read trivial
        case isFalse => cases h
  case h_8 registrationId =>
    split at h
    case isTrue => exact lockRow_acts h trivial
    case isFalse => cases h
  case h_9 start =>
    split at h
    case isTrue =>
      cases h
      refine .read fun e he => ?_
      obtain ⟨scope, hscope, rfl⟩ := List.mem_map.mp he
      exact pendingDeletions_condemned hscope
    case isFalse => cases h
  case h_10 => cases h

theorem planProvision_acts
    (h : planProvision sha256 containsPrivateKey db event call = some (action, call'))
    (hknows : Knows db i call)
    (hbind : ∀ p key now start lost, call = .bindingReserved p key now start →
      event = .commit lost → key.providerReference ∉ db.listed) : Acts db i action call' := by
  unfold planProvision at h
  split at h
  case h_1 p =>
    cases h
    exact .read trivial
  case h_2 p start =>
    split at h
    case h_1 =>
      cases h
      exact .read trivial
    case h_2 row hrow => exact lockRow_acts h (reserveRow_eq_ok hrow)
  case h_3 lost p row =>
    obtain ⟨hname, hbound, hcleaned⟩ := hknows
    split at h
    case isTrue =>
      cases h
      exact ⟨trivial, trivial⟩
    case isFalse hfresh =>
      cases h
      refine ⟨⟨by simpa using hfresh, hbound, hcleaned⟩, ?_⟩
      cases lost with
      | true => exact trivial
      | false => exact ⟨row, List.mem_append_right _ List.mem_cons_self, hname⟩
  case h_4 p =>
    split at h
    case isTrue =>
      cases h
      exact .read trivial
    case isFalse =>
      cases h
      exact ⟨hknows, trivial⟩
  case h_5 answer now id p =>
    split at h
    case isTrue => cases h
    case isFalse =>
      split at h <;>
      · cases h
        exact .read trivial
  case h_6 p key now =>
    cases h
    exact .read trivial
  case h_7 p key now start =>
    split at h
    case h_1 =>
      cases h
      exact .read trivial
    case h_2 hscope =>
      obtain ⟨hunrevoked, d, hd, hactive⟩ := bindScope_eq_ok hscope
      exact lockRow_acts h ⟨Function.update_self .., hunrevoked, d, hd, hactive⟩
  case h_8 p key now start =>
    split at h
    case isTrue hreserved =>
      obtain ⟨q, hq, hbindable⟩ := List.any_eq_true.mp hreserved
      split at h
      case isTrue hfree =>
        cases h
        have hlock : db.provisionLocks key.providerReference = none := by simpa using hfree
        exact ⟨hlock, hknows, Function.update_self .., q, hq, bindable_isOpen hbindable⟩
      case isFalse => cases h
    case isFalse =>
      cases h
      exact ⟨trivial, trivial⟩
  case h_9 lost p key now start =>
    obtain ⟨⟨-, hunrevoked, hactive⟩, hlock, hopen⟩ := hknows
    split at h
    case isTrue =>
      cases h
      exact ⟨trivial, trivial⟩
    case isFalse hfresh =>
      cases h
      refine ⟨⟨hlock, hactive, hunrevoked, by simpa using hfresh, hopen,
        hbind _ _ _ _ _ rfl rfl⟩, ?_⟩
      cases lost <;> exact trivial
  case h_10 start now p error =>
    split at h
    case isTrue => exact writeProvision_acts h (fun hfree => ⟨hfree, trivial⟩) trivial
    case isFalse => cases h
  case h_11 => cases h

theorem planCleanup_acts (h : planCleanup sha256 db event call = some (action, call'))
    (hknows : Knows db i call) : Acts db i action call' := by
  unfold planCleanup at h
  split at h
  case h_1 start pending =>
    split at h
    case isTrue =>
      cases h
      refine ⟨fun r hr => ?_, fun e he => ?_⟩
      · obtain ⟨scope, hscope, rfl⟩ := List.mem_map.mp hr
        exact expiredProvisions_unbound hscope
      · rcases List.mem_append.mp he with he | he
        · exact (hknows e he).mono (List.subset_append_left _ _) rfl
        · obtain ⟨scope, hscope, rfl⟩ := List.mem_map.mp he
          exact .inl (List.mem_append_right _ (List.mem_map_of_mem hscope))
    case isFalse => cases h
  case h_2 rest deleted postponed =>
    split at h
    case h_1 =>
      cases h
      exact .read trivial
    case h_2 entry unbound rest =>
      have hentry := hknows _ List.mem_cons_self
      have hrest := fun e he => hknows e (List.mem_cons_of_mem _ he)
      split at h
      case isTrue =>
        cases h
        exact ⟨hentry, hentry, hrest⟩
      case isFalse =>
        cases h
        exact .read ⟨hentry, hrest⟩
  case h_3 pass =>
    split at h
    case isTrue => cases h
    case isFalse hgone =>
      cases h
      exact ⟨hgone, hknows, List.mem_cons_self⟩
  case h_4 pass =>
    cases h
    exact .read hknows
  case h_5 pass =>
    cases h
    exact .read hknows.1
  case h_6 start now pass =>
    obtain ⟨hcondemned, hmissing⟩ := hknows
    split at h
    case isTrue =>
      split at h
      case isTrue =>
        exact writeProvision_acts h (fun hfree => ⟨⟨hfree, hmissing⟩, hcondemned.2⟩)
          hcondemned
      case isFalse =>
        split at h
        case isTrue =>
          cases h
          exact ⟨hmissing, hcondemned.2⟩
        case isFalse =>
          cases h
          exact .read hcondemned
    case isFalse => cases h
  case h_7 pass =>
    have hnext := Pass.Condemned.next (i := i) hknows 1 0
    split at h
    case isTrue =>
      split at h
      case isTrue =>
        cases h
        exact .read hnext
      case isFalse =>
        cases h
        exact .read trivial
    case isFalse =>
      split at h
      case isTrue =>
        cases h
        exact .read hnext
      case isFalse =>
        cases h
        exact .read trivial
  case h_8 start now pass =>
    have hnext := Pass.Condemned.next (i := i) hknows 0 1
    split at h
    case isTrue =>
      split at h
      case isTrue => exact writeProvision_acts h (fun hfree => ⟨hfree, hnext⟩) hnext
      case isFalse =>
        cases h
        exact ⟨trivial, hnext⟩
    case isFalse => cases h
  case h_9 => cases h

theorem abort_acts (h : abort call = some (action, call')) : Acts db i action call' := by
  unfold abort at h
  split at h <;>
  · cases h
    try exact ⟨trivial, trivial⟩

/-- **What a call does** is permitted, and it knows what it goes on from. -/
theorem plan_acts (h : plan sha256 containsPrivateKey db event call = some (action, call'))
    (hknows : Knows db i call)
    (hcreate : ∀ r, event = .create r → call = .idle → r ∉ db.service.missing)
    (hbind : ∀ p key now start lost, call = .bindingReserved p key now start →
      event = .commit lost → key.providerReference ∉ db.listed) : Acts db i action call' := by
  unfold plan at h
  split at h
  case h_1 => exact planFirst_acts h fun r hr => hcreate r hr rfl
  case h_2 =>
    cases h
    exact ⟨trivial, trivial⟩
  case h_3 => exact abort_acts h
  case h_4 registrationId now =>
    cases h
    exact ⟨trivial, trivial⟩
  case h_5 registrationId device =>
    cases h
    exact .read hknows
  case h_6 registrationId device now =>
    cases h
    exact ⟨hknows, trivial⟩
  case h_7 =>
    cases h
    exact ⟨trivial, trivial⟩
  case h_14 => exact planProvision_acts h hknows hbind
  all_goals exact planCleanup_acts h hknows

/-- **The invariant**: the rows are sound, and what the calls know is true. -/
structure Sound (c : Config (Database ι) ι Call) : Prop where
  tables : Tables c.store
  knows : ∀ i, Knows c.store i (c.calls i)

omit [DecidableEq ι] in
theorem inTime_create {c : Config (Database ι) ι Call} (h : inTime c i event = true) {r : String}
    (hevent : event = .create r) (hcall : c.calls i = .idle) : r ∉ c.store.service.missing := by
  subst hevent
  simpa [inTime, hcall] using h

omit [DecidableEq ι] in
theorem inTime_bind {c : Config (Database ι) ι Call} (h : inTime c i event = true)
    {p : Provisioning} {now start : DateTime} {lost : Bool}
    (hcall : c.calls i = .bindingReserved p key now start) (hevent : event = .commit lost) :
    key.providerReference ∉ c.store.listed := by
  subst hevent
  simpa [inTime, hcall] using h

/-- **Step lemma.** -/
theorem Sound.step (c : Config (Database ι) ι Call) (i : ι) (event : Event)
    (c' : Config (Database ι) ι Call) (h : Sound c) (hintime : inTime c i event = true)
    (hnext : (keyMachine sha256 containsPrivateKey).next c i event = some c') : Sound c' := by
  obtain ⟨db, call, hstep, rfl⟩ := Machine.next_eq_some.mp hnext
  obtain ⟨⟨action, call'⟩, hplan, heq⟩ := Option.map_eq_some_iff.mp hstep
  cases heq
  have hacts := plan_acts hplan (h.knows i) (fun r => inTime_create hintime)
    fun p key now start lost => inTime_bind hintime
  have hlater := Later.apply hacts.permitted
  refine ⟨h.tables.apply hacts.permitted, fun j => ?_⟩
  by_cases hj : j = i
  · subst hj
    simpa using hacts.knows
  · show Knows _ j (Function.update c.calls i call' j)
    rw [Function.update_of_ne hj]
    exact (h.knows j).step hlater (Keeps.apply hacts.permitted hj)

end Acts

theorem Initial.sound {c : Config (Database ι) ι Call} (h : Initial c) : Sound c where
  tables := by
    constructor
    case ids => exact h.ids
    all_goals simp [h.keys, h.provisions, h.deletions, h.service]
  knows i := by
    rw [h.calls]
    trivial

/-! ## Custody -/

/-- The key is bound to a registration. -/
def Live (db : Database ι) (reference : String) : Prop :=
  ∃ key ∈ db.keys, key.providerReference = reference ∧ key.revokedAt = none

/-- A row has the key for a pass of the worker to remove. -/
def Pending (db : Database ι) (reference : String) : Prop :=
  (∃ row ∈ db.provisions, row.providerReference = reference ∧ row.boundAt = none ∧
      row.cleanedAt = none) ∨
    ∃ row ∈ db.deletions, row.providerReference = reference ∧ row.deletedAt = none ∧
      ∃ key ∈ db.keys, key.providerReference = reference ∧ key.revokedAt ≠ none

/-- What is promised of every state. -/
structure KeyCustody (db : Database ι) : Prop where
  oneCurrent : ∀ registrationId purpose,
    (db.keys.filter (retired registrationId (some purpose))).length ≤ 1
  kept : ∀ key ∈ db.keys, key.revokedAt = none →
    key.providerReference ∉ db.service.deleted
  accounted : ∀ r ∈ db.service.keys, Live db r ∨ Pending db r
  inactive : ∀ key ∈ db.keys, key.revokedAt = none →
    ∀ d, db.registrations key.registrationId = some d → d.isActive = true

/-- **A pending key is listed** by every pass that comes when its time is up, as long as a
hundred rows are enough. -/
theorem Pending.listed (h : Pending db reference) (hdeletions : db.deletions.length ≤ 100)
    (hprovisions : db.provisions.length ≤ 100) :
    ∃ due, ∀ start, due ≤ start →
      ∃ scope ∈ db.pendingDeletions start ++ db.expiredProvisions start,
        scope.providerReference = reference := by
  obtain ⟨p, hp, hname, hbound, hcleaned⟩ | ⟨d, hd, hname, hdeleted, k, hk, hkname, hrevoked⟩ := h
  · refine ⟨max p.cleanupAfter p.retryAfter, fun start hdue => ?_⟩
    refine ⟨p.scope, List.mem_append_right _ (List.mem_map_of_mem ?_), hname⟩
    rw [List.take_of_length_le]
    · rw [List.mem_insertionSort, List.mem_filter]
      simp [hp, hbound, hcleaned, (max_le_iff.mp hdue).1, (max_le_iff.mp hdue).2]
    · rw [List.length_insertionSort]
      exact (List.length_filter_le _ _).trans hprovisions
  · refine ⟨d.retryAfter, fun start hdue => ?_⟩
    obtain ⟨q, hq⟩ : ∃ q, db.keys.find? (fun key =>
        key.providerReference == d.providerReference && key.revokedAt.isSome) = some q := by
      rw [← Option.isSome_iff_exists, List.find?_isSome]
      refine ⟨k, hk, ?_⟩
      simp [hkname, hname, Option.isSome_iff_ne_none, hrevoked]
    have hqname := List.find?_some hq
    simp only [Bool.and_eq_true, beq_iff_eq] at hqname
    refine ⟨q.scope, List.mem_append_left _ (List.mem_map_of_mem ?_), hqname.1.trans hname⟩
    rw [List.take_of_length_le]
    · rw [List.mem_filterMap]
      refine ⟨d, ?_, hq⟩
      rw [List.mem_insertionSort, List.mem_filter]
      simp [hd, hdeleted, hdue]
    · refine (List.length_filterMap_le _ _).trans ?_
      rw [List.length_insertionSort]
      exact (List.length_filter_le _ _).trans hdeletions

theorem Tables.oneCurrent (h : Tables db) (registrationId purpose : String) :
    (db.keys.filter (retired registrationId (some purpose))).length ≤ 1 := by
  have hnodup := (List.Nodup.of_map _ h.names).filter (retired registrationId (some purpose))
  have hsame : ∀ k ∈ db.keys.filter (retired registrationId (some purpose)),
      ∀ k' ∈ db.keys.filter (retired registrationId (some purpose)), k = k' := by
    intro k hk k' hk'
    simp only [List.mem_filter, retired, Option.all_some, Bool.and_eq_true, beq_iff_eq,
      Option.isNone_iff_eq_none] at hk hk'
    obtain ⟨hk, ⟨hid, hpurpose⟩, hnone⟩ := hk
    obtain ⟨hk', ⟨hid', hpurpose'⟩, hnone'⟩ := hk'
    exact h.current k hk k' hk' hnone hnone' (hid.trans hid'.symm) (hpurpose.trans hpurpose'.symm)
  generalize db.keys.filter (retired registrationId (some purpose)) = rows at hnodup hsame
  match rows with
  | [] => exact Nat.zero_le _
  | [_] => exact Nat.le_refl _
  | k :: k' :: _ =>
      have heq : k = k' := hsame k List.mem_cons_self k' (by simp)
      simp [heq] at hnodup

theorem Tables.custody (h : Tables db) : KeyCustody db where
  oneCurrent := h.oneCurrent
  kept key hkey hnone hdeleted := by
    obtain hlisted | ⟨k, hk, hname, hrevoked⟩ := h.condemned _ (.inr hdeleted)
    · exact h.unlisted key hkey hlisted
    · exact hrevoked (List.inj_on_of_nodup_map h.names hk hkey hname ▸ hnone)
  accounted r hr := by
    have hpresent : r ∉ db.service.missing := fun hmissing => h.missing r hmissing hr
    obtain ⟨p, hp, rfl⟩ := h.named r (.inl hr)
    by_cases hbound : p.boundAt = none
    · exact .inr (.inl ⟨p, hp, rfl, hbound, by_contra fun hcleaned =>
        hpresent (h.cleaned p hp hcleaned)⟩)
    · obtain ⟨k, hk, hname⟩ := h.key p hp hbound
      by_cases hnone : k.revokedAt = none
      · exact .inl ⟨k, hk, hname, hnone⟩
      · obtain ⟨d, hd, hdname⟩ := h.queued k hk hnone
        refine .inr (.inr ⟨d, hd, hdname.trans hname, by_contra fun hdeleted => ?_,
          k, hk, hname, hnone⟩)
        exact hpresent (hname ▸ hdname ▸ h.deleted d hd hdeleted)
  inactive key hkey hnone d hd := by
    obtain ⟨d', hd', hactive⟩ := h.active key hkey hnone
    exact Option.some.inj (hd'.symm.trans hd) ▸ hactive

/-- **Run theorem.** In every run in which no step comes too late, the tables and the key
service account for each other. -/
theorem holderKey_custody [DecidableEq ι] {c c' : Config (Database ι) ι Call}
    {schedule : List (ι × Event)} (h : Initial c)
    (hintime : (keyMachine sha256 containsPrivateKey).Guarded
      (fun c i event => inTime c i event = true) c schedule)
    (hrun : (keyMachine sha256 containsPrivateKey).run c schedule = some c') :
    KeyCustody c'.store :=
  (Machine.guarded_induct Sound.step h.sound hintime hrun).tables.custody

namespace Example

def digest (_ : String) : Digest := List.replicate 32 0

def uuid : String := "5f0c1d2e3a4b5c6d7e8f90a1b2c3d4e5"

def keyReference : String :=
  "cred-holder-00000000000000000000000000000000-00000000000000000000000000000000-5f0c1d2e3a4b5c6d7e8f90a1b2c3d4e5"

def metadata : Value := .object [("status", .string "active"), ("type", .string "ed25519"),
  ("latest_version", .number "1"), ("selected_version", .string "1"), ("exportable", .bool false),
  ("allow_plaintext_backup", .bool false), ("deletion_allowed", .bool false),
  ("public_jwk", .object [("kty", .string "OKP"), ("crv", .string "Ed25519"),
    ("x", .string "BwcHBwcHBwcHBwcHBwcHBwcHBwcHBwcHBwcHBwcHBwc"), ("kid", .string keyReference)])]

/-- One active device, and four callers. -/
def start : Config (Database (Fin 4)) (Fin 4) Call where
  store := {
    registrations := fun id => if id = "phone" then some ⟨"phone", "ann", some "org", "d", true⟩
      else none
    keys := []
    provisions := []
    deletions := []
    clock := 0
    locks := fun _ => none
    provisionLocks := fun _ => none
    service := ⟨[], [], [], [], [], []⟩
    listed := [] }
  calls := fun _ => .idle

abbrev machine : Machine (Database (Fin 4)) (Fin 4) Event Call := keyMachine digest fun _ => false

theorem start_initial : Initial start where
  ids id d h := by
    simp only [start] at h
    split at h
    case isTrue hid =>
      cases h
      exact hid.symm
    case isFalse => cases h
  keys := rfl
  provisions := rfl
  deletions := rfl
  locks _ := rfl
  provisionLocks _ := rfl
  service := rfl
  listed := rfl
  calls _ := rfl

/-- The name is reserved and the key asked for. -/
def requested : List (Fin 4 × Event) :=
  [(0, .provision "ann" "org" "phone" "holder_binding" "EdDSA" uuid), (0, .begin), (0, .lock),
    (0, .commit false), (0, .send)]

/-- The key is created, and the transaction that binds it has begun. -/
def bindingBegun : List (Fin 4 × Event) :=
  requested ++ [(3, .create keyReference), (0, .metadata (.ok metadata) 1 "k1"), (0, .begin)]

/-- A pass of the worker that removes the key. -/
def pass (now : DateTime) : List (Fin 4 × Event) :=
  [(2, .pendingDeletions now), (2, .expiredProvisions now), (2, .send), (3, .delete keyReference),
    (2, .missing)]

/-- The key is bound in time, the device is deactivated, and the worker removes the key. -/
def inTurn : List (Fin 4 × Event) :=
  bindingBegun ++ [(0, .lock), (0, .reservation), (0, .commit false), (1, .deactivate "phone"),
    (1, .clock), (1, .commit false), (3, .tick (seconds 5))] ++ pass (seconds 5) ++
    [(2, .statement (seconds 5) (seconds 5)), (2, .send)]

/-- The transaction that binds the key waits for the registration until the worker has removed
the key. -/
def lateBind : List (Fin 4 × Event) :=
  bindingBegun ++ [(1, .hold "phone"), (3, .tick (seconds 61))] ++ pass (seconds 61) ++
    [(1, .commit false), (0, .lock), (0, .reservation), (0, .commit false)]

/-- The key is created when its reservation has been cleaned. -/
def lateCreate : List (Fin 4 × Event) :=
  requested ++ [(0, .metadata (.error unavailable) 1 "k1"), (3, .tick (seconds 61)),
    (2, .pendingDeletions (seconds 61)), (2, .expiredProvisions (seconds 61)), (2, .send),
    (2, .missing), (2, .statement (seconds 61) (seconds 61)), (3, .create keyReference)]

def inTurnRun : {c' // machine.run start inTurn = some c' ∧
    (c'.store.service.deleted = [keyReference] ∧ c'.store.service.keys = [] ∧
      ∃ d ∈ c'.store.deletions, d.deletedAt ≠ none) ∧
    machine.Guarded (fun c i event => inTime c i event = true) start inTurn} :=
  machine.observed (by decide +kernel)

def lateBindRun : {c' // machine.run start lateBind = some c' ∧ ∃ key ∈ c'.store.keys,
    key.revokedAt = none ∧ key.providerReference ∈ c'.store.service.deleted} :=
  machine.observed (by decide +kernel)

def lateCreateRun : {c' // machine.run start lateCreate = some c' ∧
    ∃ r ∈ c'.store.service.keys,
      (∀ key ∈ c'.store.keys, key.providerReference ≠ r) ∧
      (∀ row ∈ c'.store.provisions, row.providerReference = r → row.cleanedAt ≠ none) ∧
      ∀ row ∈ c'.store.deletions, row.providerReference ≠ r} :=
  machine.observed (by decide +kernel)

theorem holderKey_custody_inTurn : ∃ c', machine.run start inTurn = some c' ∧
    (c'.store.service.deleted = [keyReference] ∧ c'.store.service.keys = [] ∧
      ∃ d ∈ c'.store.deletions, d.deletedAt ≠ none) ∧ KeyCustody c'.store := by
  obtain ⟨hrun, hc', hguarded⟩ := inTurnRun.2
  exact ⟨inTurnRun, hrun, hc', holderKey_custody start_initial hguarded hrun⟩

/-- **The claim fails twice**: a key is bound that the worker has removed, and a key is left
that no row accounts for. -/
theorem late_steps_lose_keys :
    (∃ c', machine.run start lateBind = some c' ∧ ∃ key ∈ c'.store.keys,
      key.revokedAt = none ∧ key.providerReference ∈ c'.store.service.deleted) ∧
    ∃ c', machine.run start lateCreate = some c' ∧ ∃ r ∈ c'.store.service.keys,
      (∀ key ∈ c'.store.keys, key.providerReference ≠ r) ∧
      (∀ row ∈ c'.store.provisions, row.providerReference = r → row.cleanedAt ≠ none) ∧
      ∀ row ∈ c'.store.deletions, row.providerReference ≠ r :=
  ⟨⟨lateBindRun, lateBindRun.2⟩, lateCreateRun, lateCreateRun.2⟩

end Example

end Marty.Devices.HolderKeys
