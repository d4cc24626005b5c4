import Marty.Lib.Base64
import Marty.Lib.BTree
import Marty.Lib.Delivery
import Marty.Lib.Interleaving
import Marty.Lib.Json
import Marty.Lib.Succession
import Mathlib.Data.String.Basic

/-!
# Publishing revocation lists

The public revocation list of an issuer certificate.  A publisher reads the list and the
documents that authorize it as one snapshot, prepares a replacement, and stores it by a
script that compares all of them with the snapshot, byte by byte, under the lease of the
tenant.

## Main definitions

* `GovernedMdocCrl` — a list; `GovernedMdocCrl.isSuccessorOf` — the check of a replacement.
* `MdocCrlSnapshot` — what a publisher has read; `commit` — the store of a replacement.
* `publishing` — any publishers, with leases and documents that change at any time.
* `stored_crls_succeed` — the lists of one issuer, in the order in which they were stored.
-/

namespace Marty.SigningKeys

open Lib

/-! ## Lists -/

structure RevokedMdocDsc where
  receiptId : String
  serialHex : String
  revokedAtUnix : Nat
  reason : String
  revokedBy : String
  deriving DecidableEq

/-- A revocation list; its numbers are unsigned sixty-four bit numbers. -/
structure GovernedMdocCrl where
  schemaVersion : Nat
  organizationId : String
  issuerDid : String
  iacaCertificateId : String
  iacaCertificateSha256 : String
  distributionUri : String
  number : Nat
  thisUpdateUnix : Nat
  nextUpdateUnix : Nat
  revoked : BTreeMap String RevokedMdocDsc
  derB64 : String
  publishedBy : String
  deriving DecidableEq

def schema : Nat := 1

def standard : Base64.Engine := ⟨false, true⟩

namespace GovernedMdocCrl

/-- A list that is missing or expired says nothing about a certificate. -/
def availableDer (crl : GovernedMdocCrl) (nowUnix : Nat) : Option (List UInt8) :=
  if nowUnix < crl.thisUpdateUnix ∨ crl.nextUpdateUnix ≤ nowUnix then none
  else (Base64.decode standard crl.derB64).filter (· ≠ [])

/-- The two lists are those of one issuer. -/
def SameIssuer (crl prior : GovernedMdocCrl) : Prop :=
  crl.organizationId = prior.organizationId ∧ crl.issuerDid = prior.issuerDid ∧
    crl.iacaCertificateId = prior.iacaCertificateId ∧
    crl.iacaCertificateSha256 = prior.iacaCertificateSha256 ∧
    crl.distributionUri = prior.distributionUri

instance (crl prior : GovernedMdocCrl) : Decidable (crl.SameIssuer prior) :=
  inferInstanceAs (Decidable (_ ∧ _))

def isSuccessorOf (crl prior : GovernedMdocCrl) : Bool :=
  decide (crl.SameIssuer prior) &&
    -- the number does not wrap around
    (prior.number + 1 < 2 ^ 64 && prior.number + 1 == crl.number) &&
    prior.thisUpdateUnix < crl.thisUpdateUnix && prior.nextUpdateUnix < crl.nextUpdateUnix &&
    prior.revoked.entries.all fun e => crl.revoked.get e.1 == some e.2

end GovernedMdocCrl

/-! ## The store -/

inductive MdocCrlError
  | conflict | corrupt | storage
  deriving DecidableEq, Repr

/-- An organization and an issuer certificate. -/
abbrev IssuerKey := String × String

/-- The bytes of a document, what a JSON reader takes them for, and how a list is written. -/
structure DocumentCodec (β : Type) where
  readValue : β → Option Json.Value
  readCrl : β → Option GovernedMdocCrl
  writeCrl : GovernedMdocCrl → β
  /-- A list is read as it was written. -/
  readCrl_writeCrl : ∀ crl, readCrl (writeCrl crl) = some crl

/-- The documents of a tenant, the list of an issuer: five keys that are read together. -/
structure RawDocuments (β : Type) where
  profiles : Option β
  registry : Option β
  lifecycle : Option β
  certificates : Option β
  crl : Option β
  deriving DecidableEq

/-- The keys of the store, by organization and by issuer. -/
structure CrlRedis (β : Type) where
  profiles : String → Option β
  registry : String → Option β
  lifecycle : String → Option β
  certificates : String → Option β
  crls : IssuerKey → Option β
  /-- The owner of the lease of an organization. -/
  leases : String → Option String

def CrlRedis.raw {β : Type} (redis : CrlRedis β) (key : IssuerKey) : RawDocuments β where
  profiles := redis.profiles key.1
  registry := redis.registry key.1
  lifecycle := redis.lifecycle key.1
  certificates := redis.certificates key.1
  crl := redis.crls key

/-- The text of a UUID as the library writes it. -/
def isCanonicalUuid (text : String) : Bool :=
  text.toList.length == 36 && text.toList.zipIdx.all fun c =>
    if c.2 ∈ [8, 13, 18, 23] then c.1 == '-'
    else (48 ≤ c.1.toNat && c.1.toNat ≤ 57) || (97 ≤ c.1.toNat && c.1.toNat ≤ 102)

def isResourceChar (c : Char) : Bool :=
  (48 ≤ c.toNat && c.toNat ≤ 57) || (65 ≤ c.toNat && c.toNat ≤ 90) ||
    (97 ≤ c.toNat && c.toNat ≤ 122) || c == '-' || c == '_'

def validResourceId (key : IssuerKey) : Bool :=
  isCanonicalUuid key.1 && !key.2.isEmpty && key.2.utf8ByteSize ≤ 128 &&
    key.2.toList.all isResourceChar

section

variable {β : Type} (codec : DocumentCodec β)

/-! ## Snapshots -/

/-- What a publisher has read; the list is the one that the bytes hold. -/
structure MdocCrlSnapshot where
  lifecycle : Json.Value
  certificates : Json.Value
  crl : Option GovernedMdocCrl
  raw : RawDocuments β
  decoded : raw.crl.map codec.readCrl = crl.map some

/-- A document is an object, or it is missing. -/
def readDocument (bytes : Option β) : Except MdocCrlError Json.Value :=
  match bytes.map codec.readValue with
  | none | some (some .null) => .ok .null
  | some (some (.object entries)) => .ok (.object entries)
  | _ => .error .corrupt

def governs (key : IssuerKey) (crl : GovernedMdocCrl) : Bool :=
  crl.schemaVersion == schema && crl.organizationId == key.1 && crl.iacaCertificateId == key.2

/-- The list that the bytes hold, with the reason to take it for theirs. -/
def readStoredCrl (key : IssuerKey) (bytes : Option β) :
    Except MdocCrlError { crl : Option GovernedMdocCrl //
      bytes.map codec.readCrl = crl.map some } :=
  match bytes with
  | none => .ok ⟨none, rfl⟩
  | some bytes =>
      match h : codec.readCrl bytes with
      | none => .error .corrupt
      | some crl =>
          if governs key crl then .ok ⟨some crl, congrArg some h⟩ else .error .corrupt

def snapshot (redis : CrlRedis β) (key : IssuerKey) :
    Except MdocCrlError (MdocCrlSnapshot codec) :=
  if validResourceId key = false then .error .corrupt
  else do
    let raw := redis.raw key
    let _ ← readDocument codec raw.profiles
    let _ ← readDocument codec raw.registry
    let lifecycle ← readDocument codec raw.lifecycle
    let certificates ← readDocument codec raw.certificates
    let crl ← readStoredCrl codec key raw.crl
    return ⟨lifecycle, certificates, crl.1, raw, crl.2⟩

/-! ## Storing a replacement -/

/-- The lease of a tenant, as its holder knows it. -/
structure RotationLease where
  organizationId : String
  owner : String

def GovernedMdocCrl.key (crl : GovernedMdocCrl) : IssuerKey :=
  (crl.organizationId, crl.iacaCertificateId)

/-- The replacement is well formed, and it follows the list of the snapshot. -/
def Admissible (lease : RotationLease) (prior : Option GovernedMdocCrl)
    (replacement : GovernedMdocCrl) : Prop :=
  lease.organizationId = replacement.organizationId ∧
    validResourceId replacement.key = true ∧
    replacement.schemaVersion = schema ∧
    replacement.thisUpdateUnix < replacement.nextUpdateUnix ∧
    replacement.publishedBy ≠ "" ∧ replacement.publishedBy.utf8ByteSize ≤ 128 ∧
    (∀ e ∈ replacement.revoked.entries, e.1 = e.2.receiptId ∧ e.2.revokedBy ≠ "" ∧
      e.2.revokedBy.utf8ByteSize ≤ 128) ∧
    (replacement.availableDer replacement.thisUpdateUnix).isSome ∧
    (prior = none → replacement.number = 0) ∧
    ∀ crl ∈ prior, replacement.isSuccessorOf crl = true

instance (lease : RotationLease) (prior : Option GovernedMdocCrl)
    (replacement : GovernedMdocCrl) : Decidable (Admissible lease prior replacement) := by
  unfold Admissible
  infer_instance

variable [DecidableEq β]

/-- The script: nothing has changed since the snapshot, and the lease is still held. -/
def storeScript (redis : CrlRedis β) (lease : RotationLease) (prior : RawDocuments β)
    (key : IssuerKey) (bytes : β) : CrlRedis β × Int :=
  if redis.leases lease.organizationId ≠ some lease.owner then (redis, -1)
  else if redis.raw key ≠ prior then (redis, 0)
  else ({ redis with crls := Function.update redis.crls key (some bytes) }, 1)

def replyOf : Int → Except MdocCrlError Unit
  | 1 => .ok ()
  | 0 | -1 => .error .conflict
  | _ => .error .corrupt

def commit (redis : CrlRedis β) (lease : RotationLease) (snapshot : MdocCrlSnapshot codec)
    (replacement : GovernedMdocCrl) (delivery : Delivery) :
    CrlRedis β × Except MdocCrlError Unit :=
  if Admissible lease snapshot.crl replacement then
    let answer := storeScript redis lease snapshot.raw replacement.key
      (codec.writeCrl replacement)
    match delivery with
    | .refused => (redis, .error .storage)
    | .lost => (answer.1, .error .storage)
    | .answered => (answer.1, replyOf answer.2)
  else (redis, .error .corrupt)

/-- The store, with the lists that each issuer has had. -/
structure PublishingStore (β : Type) where
  redis : CrlRedis β
  stored : IssuerKey → List GovernedMdocCrl

inductive PublishingEvent (β : Type)
  | snapshot (key : IssuerKey)
  | commit (lease : RotationLease) (replacement : GovernedMdocCrl) (delivery : Delivery)
  /-- Other writers change the documents of a tenant. -/
  | write (organizationId : String) (documents : RawDocuments β)
  /-- A lease is taken, released or expires. -/
  | lease (organizationId : String) (owner : Option String)
  /-- The publisher starts anew. -/
  | restart

/-- What a publisher has read, and what its last commit returned. -/
structure PublisherCall where
  snapshot : Option (MdocCrlSnapshot codec)
  result : Option (Except MdocCrlError Unit)

def CrlRedis.write (redis : CrlRedis β) (organizationId : String) (documents : RawDocuments β) :
    CrlRedis β :=
  { redis with
    profiles := Function.update redis.profiles organizationId documents.profiles
    registry := Function.update redis.registry organizationId documents.registry
    lifecycle := Function.update redis.lifecycle organizationId documents.lifecycle
    certificates := Function.update redis.certificates organizationId documents.certificates }

/-- The script is carried out, and it stores the replacement. -/
def Stores (redis : CrlRedis β) (lease : RotationLease) (snapshot : MdocCrlSnapshot codec)
    (replacement : GovernedMdocCrl) (delivery : Delivery) : Prop :=
  Admissible lease snapshot.crl replacement ∧ delivery ≠ .refused ∧
    redis.leases lease.organizationId = some lease.owner ∧
    redis.raw replacement.key = snapshot.raw

instance (redis : CrlRedis β) (lease : RotationLease) (snapshot : MdocCrlSnapshot codec)
    (replacement : GovernedMdocCrl) (delivery : Delivery) :
    Decidable (Stores codec redis lease snapshot replacement delivery) := by
  unfold Stores
  infer_instance

def PublishingStore.commit (store : PublishingStore β) (lease : RotationLease)
    (snapshot : MdocCrlSnapshot codec) (replacement : GovernedMdocCrl) (delivery : Delivery) :
    PublishingStore β × Except MdocCrlError Unit :=
  let answer := SigningKeys.commit codec store.redis lease snapshot replacement delivery
  (⟨answer.1,
    if Stores codec store.redis lease snapshot replacement delivery then
      Function.update store.stored replacement.key
        (store.stored replacement.key ++ [replacement])
    else store.stored⟩, answer.2)

def publishingStep (store : PublishingStore β) (call : PublisherCall codec) :
    PublishingEvent β → Option (PublishingStore β × PublisherCall codec)
  | .snapshot key => some (store, ⟨(snapshot codec store.redis key).toOption, call.result⟩)
  | .commit lease replacement delivery =>
      call.snapshot.map fun snapshot =>
        let answer := store.commit codec lease snapshot replacement delivery
        (answer.1, ⟨some snapshot, some answer.2⟩)
  | .write organizationId documents =>
      some ({ store with redis := store.redis.write organizationId documents }, call)
  | .lease organizationId owner =>
      some ({ store with
        redis := { store.redis with
          leases := Function.update store.redis.leases organizationId owner } }, call)
  | .restart => some (store, ⟨none, none⟩)

variable {ι : Type}

def publishing : Machine (PublishingStore β) ι (PublishingEvent β) (PublisherCall codec) where
  step _ e store call := publishingStep codec store call e

/-- No list is stored yet, and no publisher has begun. -/
def publishingStart (redis : CrlRedis β) :
    Config (PublishingStore β) ι (PublisherCall codec) where
  store := ⟨{ redis with crls := fun _ => none }, fun _ => []⟩
  calls _ := ⟨none, none⟩

/-! ## One commit -/

/-- **All that a commit does**: nothing, and it fails; or it stores the replacement, and it
fails only when the reply is lost. -/
theorem commit_cases (store : PublishingStore β) (lease : RotationLease)
    (snapshot : MdocCrlSnapshot codec) (replacement : GovernedMdocCrl) (delivery : Delivery) :
    (∃ error, store.commit codec lease snapshot replacement delivery = (store, .error error)) ∨
    (Stores codec store.redis lease snapshot replacement delivery ∧
      (store.commit codec lease snapshot replacement delivery).1 =
        ⟨{ store.redis with
          crls := Function.update store.redis.crls replacement.key
            (some (codec.writeCrl replacement)) },
          Function.update store.stored replacement.key
            (store.stored replacement.key ++ [replacement])⟩ ∧
      (store.commit codec lease snapshot replacement delivery).2 =
        if delivery = .lost then .error .storage else .ok ()) := by
  by_cases hstores : Stores codec store.redis lease snapshot replacement delivery
  · right
    obtain ⟨hadmissible, hsent, hlease, hraw⟩ := hstores
    have hscript : storeScript store.redis lease snapshot.raw replacement.key
        (codec.writeCrl replacement) =
          ({ store.redis with
            crls := Function.update store.redis.crls replacement.key
              (some (codec.writeCrl replacement)) }, 1) := by
      rw [storeScript, if_neg (not_not.mpr hlease), if_neg (not_not.mpr hraw)]
    refine ⟨⟨hadmissible, hsent, hlease, hraw⟩, ?_⟩
    unfold PublishingStore.commit
    rw [if_pos ⟨hadmissible, hsent, hlease, hraw⟩]
    cases delivery with
    | refused => exact absurd rfl hsent
    | lost => simp [SigningKeys.commit, hadmissible, hscript]
    | answered => simp [SigningKeys.commit, hadmissible, hscript, replyOf]
  · left
    unfold PublishingStore.commit
    rw [if_neg hstores]
    by_cases hadmissible : Admissible lease snapshot.crl replacement
    · by_cases hrefused : delivery = .refused
      · subst hrefused
        exact ⟨.storage, by simp [SigningKeys.commit, hadmissible]⟩
      · -- the script finds that the lease is lost, or that a document has changed
        have hscript : ∃ code, replyOf code = .error .conflict ∧
            storeScript store.redis lease snapshot.raw replacement.key
              (codec.writeCrl replacement) = (store.redis, code) := by
          by_cases hlease : store.redis.leases lease.organizationId = some lease.owner
          · refine ⟨0, rfl, ?_⟩
            rw [storeScript, if_neg (not_not.mpr hlease), if_pos]
            exact fun hraw => hstores ⟨hadmissible, hrefused, hlease, hraw⟩
          · exact ⟨-1, rfl, by rw [storeScript, if_pos hlease]⟩
        obtain ⟨code, hreply, hscript⟩ := hscript
        cases delivery with
        | refused => exact absurd rfl hrefused
        | lost => exact ⟨.storage, by simp [SigningKeys.commit, hadmissible, hscript]⟩
        | answered => exact ⟨.conflict, by simp [SigningKeys.commit, hadmissible, hscript, hreply]⟩
    · exact ⟨.corrupt, by simp [SigningKeys.commit, hadmissible]⟩

/-! ## The lists of one issuer -/

/-- What holds between two lists of one issuer, the earlier one and the later one. -/
def Extends (prior crl : GovernedMdocCrl) : Prop :=
  crl.SameIssuer prior ∧ prior.thisUpdateUnix < crl.thisUpdateUnix ∧
    prior.nextUpdateUnix < crl.nextUpdateUnix ∧
    ∀ id entry, prior.revoked.get id = some entry → crl.revoked.get id = some entry

theorem Extends.trans {a b c : GovernedMdocCrl} (hab : Extends a b) (hbc : Extends b c) :
    Extends a c := by
  obtain ⟨⟨horg, hdid, hid, hsha, huri⟩, hthis, hnext, hkept⟩ := hab
  obtain ⟨⟨horg', hdid', hid', hsha', huri'⟩, hthis', hnext', hkept'⟩ := hbc
  refine ⟨⟨?_, ?_, ?_, ?_, ?_⟩, hthis.trans hthis', hnext.trans hnext', ?_⟩
  · rw [horg', horg]
  · rw [hdid', hdid]
  · rw [hid', hid]
  · rw [hsha', hsha]
  · rw [huri', huri]
  · intro id entry hget
    exact hkept' id entry (hkept id entry hget)

theorem extends_of_isSuccessorOf {prior crl : GovernedMdocCrl}
    (h : crl.isSuccessorOf prior = true) :
    crl.number = prior.number + 1 ∧ Extends prior crl := by
  simp only [GovernedMdocCrl.isSuccessorOf, Bool.and_eq_true, decide_eq_true_eq,
    List.all_eq_true, beq_iff_eq] at h
  obtain ⟨⟨⟨⟨hissuer, -, hnumber⟩, hthis⟩, hnext⟩, hkept⟩ := h
  refine ⟨hnumber.symm, hissuer, hthis, hnext, ?_⟩
  intro id entry hget
  exact hkept (id, entry) ((BTreeMap.get_eq_some _ _ _).mp hget)

/-- The lists of an issuer succeed one another, and the store holds the last one. -/
structure Published (codec : DocumentCodec β) (redis : CrlRedis β) (key : IssuerKey)
    (stored : List GovernedMdocCrl) : Prop where
  succession : Succession GovernedMdocCrl.number Extends stored
  current : redis.crls key = stored.getLast?.map codec.writeCrl

omit [DecidableEq β] in
/-- The list of a snapshot that is still up to date is the last one that was stored. -/
theorem Published.crl_of_raw {redis : CrlRedis β} {key : IssuerKey}
    {stored : List GovernedMdocCrl} (h : Published codec redis key stored)
    {snapshot : MdocCrlSnapshot codec} (hraw : redis.raw key = snapshot.raw) :
    snapshot.crl = stored.getLast? := by
  have hdecoded := snapshot.decoded
  rw [← hraw] at hdecoded
  change (redis.crls key).map codec.readCrl = _ at hdecoded
  rw [h.current, Option.map_map] at hdecoded
  cases hlast : stored.getLast? with
  | none =>
      rw [hlast] at hdecoded
      exact (Option.map_eq_none_iff.mp hdecoded.symm)
  | some last =>
      rw [hlast] at hdecoded
      obtain ⟨crl, hcrl, hread⟩ := Option.map_eq_some_iff.mp hdecoded.symm
      rw [Function.comp_apply, codec.readCrl_writeCrl, Option.some.injEq] at hread
      rw [hcrl, hread]

omit [DecidableEq β] in
theorem Published.store {redis : CrlRedis β} {key : IssuerKey}
    {stored : List GovernedMdocCrl} (h : Published codec redis key stored)
    {lease : RotationLease} {snapshot : MdocCrlSnapshot codec} {replacement : GovernedMdocCrl}
    (hadmissible : Admissible lease snapshot.crl replacement)
    (hraw : redis.raw key = snapshot.raw) {redis' : CrlRedis β}
    (hcrls : redis'.crls key = some (codec.writeCrl replacement)) :
    Published codec redis' key (stored ++ [replacement]) := by
  have hcrl := h.crl_of_raw codec hraw
  obtain ⟨-, -, -, -, -, -, -, -, hfirst, hnext⟩ := hadmissible
  constructor
  · apply h.succession.append fun _ _ _ => Extends.trans
    · intro hnone
      exact hfirst (hcrl.trans hnone)
    · intro last hlast
      exact extends_of_isSuccessorOf (hnext last (hcrl.trans hlast))
  · rw [hcrls, List.getLast?_append, List.getLast?_singleton, Option.some_or, Option.map_some]

variable {codec} [DecidableEq ι]

def CrlsPublished (c : Config (PublishingStore β) ι (PublisherCall codec)) : Prop :=
  ∀ key, Published codec c.store.redis key (c.store.stored key)

/-- The lists that an issuer has had are not taken back. -/
def ListsKept (c c' : Config (PublishingStore β) ι (PublisherCall codec)) : Prop :=
  ∀ key, c.store.stored key <+: c'.store.stored key

theorem publishing_next {c c' : Config (PublishingStore β) ι (PublisherCall codec)} {i : ι}
    {e : PublishingEvent β} (h : CrlsPublished c)
    (hnext : (publishing codec).next c i e = some c') :
    CrlsPublished c' ∧ ListsKept c c' := by
  obtain ⟨store, call, hstep, rfl⟩ := Machine.next_eq_some.mp hnext
  cases e with
  | snapshot key =>
      cases hstep
      exact ⟨h, fun key => List.prefix_rfl⟩
  | commit lease replacement delivery =>
      obtain ⟨snapshot, hsnapshot, heq⟩ := Option.map_eq_some_iff.mp hstep
      cases heq
      rcases commit_cases codec c.store lease snapshot replacement delivery with
        ⟨error, heq⟩ | ⟨hstores, heq, -⟩
      · constructor
        · intro key
          dsimp only
          rw [heq]
          exact h key
        · intro key
          simp only [heq, List.prefix_rfl]
      · constructor
        · intro key
          dsimp only
          rw [heq]
          dsimp only
          by_cases hkey : key = replacement.key
          · subst hkey
            rw [Function.update_self]
            exact (h _).store codec hstores.1 hstores.2.2.2 (Function.update_self ..)
          · rw [Function.update_of_ne hkey]
            refine ⟨(h key).succession, ?_⟩
            dsimp only
            rw [Function.update_of_ne hkey]
            exact (h key).current
        · intro key
          dsimp only
          rw [heq]
          dsimp only
          by_cases hkey : key = replacement.key
          · subst hkey
            rw [Function.update_self]
            exact List.prefix_append _ _
          · simp only [Function.update_of_ne hkey, List.prefix_rfl]
  | write organizationId documents =>
      cases hstep
      exact ⟨fun key => ⟨(h key).succession, (h key).current⟩, fun key => List.prefix_rfl⟩
  | lease organizationId owner =>
      cases hstep
      exact ⟨fun key => ⟨(h key).succession, (h key).current⟩, fun key => List.prefix_rfl⟩
  | restart =>
      cases hstep
      exact ⟨h, fun key => List.prefix_rfl⟩

omit [DecidableEq β] [DecidableEq ι] in
theorem publishingStart_published (redis : CrlRedis β) :
    CrlsPublished (publishingStart codec redis : Config (PublishingStore β) ι _) :=
  fun _ => ⟨Succession.nil, rfl⟩

/-- What the step of a commit leaves behind: a result, and a new list or nothing new. -/
def CommitEffect (c c' : Config (PublishingStore β) ι (PublisherCall codec)) (i : ι)
    (replacement : GovernedMdocCrl) (delivery : Delivery) : Prop :=
  (∃ error, (c'.calls i).result = some (.error error) ∧ c'.store = c.store) ∨
    ((c'.calls i).result = some (if delivery = .lost then .error .storage else .ok ()) ∧
      c'.store.stored = Function.update c.store.stored replacement.key
        (c.store.stored replacement.key ++ [replacement]))

/-- **The lists of an issuer form one chain**: they are numbered from zero on without a gap,
and each keeps the issuer and the revocations of all before it and has later times.  None is
ever taken back, the store holds the last one, and a commit that fails has changed nothing,
unless only its reply was lost. -/
theorem stored_crls_succeed {redis : CrlRedis β} {t u : List (ι × PublishingEvent β)}
    {c c' : Config (PublishingStore β) ι (PublisherCall codec)}
    (ht : (publishing codec).run (publishingStart codec redis) t = some c)
    (hu : (publishing codec).run c u = some c') :
    (∀ key, Succession GovernedMdocCrl.number Extends (c'.store.stored key) ∧
      c.store.stored key <+: c'.store.stored key ∧
      c'.store.redis.crls key = (c'.store.stored key).getLast?.map codec.writeCrl) ∧
    ∀ i lease replacement delivery c'',
      (publishing codec).next c' i (.commit lease replacement delivery) = some c'' →
        CommitEffect c' c'' i replacement delivery := by
  have hpublished : CrlsPublished c :=
    Machine.run_induct (fun _ _ _ _ h hnext => (publishing_next h hnext).1)
      (publishingStart_published redis) ht
  obtain ⟨hpublished', hkept⟩ := Machine.run_induct_rel (R := ListsKept)
    (fun _ _ => List.prefix_rfl) (fun _ _ _ hab hbc key => (hab key).trans (hbc key))
    (fun _ _ _ _ h hnext => publishing_next h hnext) hpublished hu
  refine ⟨fun key => ⟨(hpublished' key).succession, hkept key, (hpublished' key).current⟩, ?_⟩
  intro i lease replacement delivery c'' hnext
  obtain ⟨store, call, hstep, rfl⟩ := Machine.next_eq_some.mp hnext
  obtain ⟨snapshot, -, heq⟩ := Option.map_eq_some_iff.mp hstep
  cases heq
  unfold CommitEffect
  dsimp only
  rw [Function.update_self]
  rcases commit_cases codec c'.store lease snapshot replacement delivery with
    ⟨error, heq⟩ | ⟨-, hstore, hresult⟩
  · left
    rw [heq]
    exact ⟨error, rfl, rfl⟩
  · right
    rw [hstore, hresult]
    exact ⟨rfl, rfl⟩

end

/-! ## Runs -/

namespace Example

/-- Bytes that hold lists, and nothing else. -/
def crlCodec : DocumentCodec GovernedMdocCrl := ⟨fun _ => none, some, id, fun _ => rfl⟩

def issuer : IssuerKey := ("00000000-0000-0000-0000-000000000001", "iaca-1")

def crl (number : Nat) (revoked : BTreeMap String RevokedMdocDsc) : GovernedMdocCrl where
  schemaVersion := schema
  organizationId := issuer.1
  issuerDid := "did:example:iaca"
  iacaCertificateId := issuer.2
  iacaCertificateSha256 := "00"
  distributionUri := "https://issuer.example/iaca.crl"
  number := number
  thisUpdateUnix := 100 + number
  nextUpdateUnix := 200 + number
  revoked := revoked
  derB64 := "MAA="
  publishedBy := "operator"

def revokedOne : BTreeMap String RevokedMdocDsc :=
  BTreeMap.empty.insert "receipt" ⟨"receipt", "01", 100, "key_compromise", "operator"⟩

def noDocuments : CrlRedis GovernedMdocCrl :=
  ⟨fun _ => none, fun _ => none, fun _ => none, fun _ => none, fun _ => none, fun _ => none⟩

def lease : RotationLease := ⟨issuer.1, "owner-1"⟩

/-- Two publishers; the first one loses the reply to its commit, and the second one goes on
from the list that was stored. -/
def publishTwice : List (Fin 2 × PublishingEvent GovernedMdocCrl) :=
  [(0, .lease issuer.1 (some "owner-1")), (0, .snapshot issuer), (1, .snapshot issuer),
    (0, .commit lease (crl 0 revokedOne) .lost), (1, .commit lease (crl 0 .empty) .answered),
    (1, .snapshot issuer), (1, .commit lease (crl 1 revokedOne) .answered)]

/-- The two lists that are stored, under the numbers zero and one. -/
theorem stored_crls_succeed_twice :
    ∃ c, (publishing crlCodec).run (publishingStart crlCodec noDocuments) publishTwice = some c ∧
      Succession GovernedMdocCrl.number Extends (c.store.stored issuer) ∧
      c.store.redis.crls issuer = (c.store.stored issuer).getLast? ∧
      (c.store.stored issuer).map (·.number) = [0, 1] := by
  have hrun : ((publishing crlCodec).run (publishingStart crlCodec noDocuments)
      publishTwice).map (fun c => (c.store.stored issuer).map (·.number)) = some [0, 1] := by
    decide +kernel
  obtain ⟨c, hc, hnumbers⟩ := Option.map_eq_some_iff.mp hrun
  obtain ⟨hsuccession, -, hcurrent⟩ := (stored_crls_succeed hc (Machine.run_nil)).1 issuer
  refine ⟨c, hc, hsuccession, ?_, hnumbers⟩
  rw [hcurrent]
  cases (c.store.stored issuer).getLast? <;> rfl

/-- A commit fails, since its reply is lost, and its list is stored. -/
theorem failed_commit_stores :
    (((publishing crlCodec).run (publishingStart crlCodec noDocuments)
        (publishTwice.take 3)).map fun c => (c.store.stored issuer).map (·.number))
      = some [] ∧
    (((publishing crlCodec).run (publishingStart crlCodec noDocuments)
        (publishTwice.take 4)).map fun c =>
          ((c.calls 0).result, (c.store.stored issuer).map (·.number)))
      = some (some (.error .storage), [0]) := by
  decide +kernel

end Example

end Marty.SigningKeys
