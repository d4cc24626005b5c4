import Marty.Lib.Log
import Marty.Issuance.DidcommDelivery

/-!
# One request for every staged message

The acts of an attempt follow one another in a fixed course, and the outcome of an attempt
can be recorded only while its row stands in that attempt.  A row is claimed again only after
its attempts were recorded as unattempted by their own holders; an attempt whose lease has
expired is never followed by another.

## Main definitions

* `Course` — what the holder of an attempt has done so far, in its order.
* `RowSound`, `Sound` — what holds of a delivery and of the table in every state.
* `Warranted` — what has happened before an attempt is claimed, and before it sends.
* `Continues` — what later states keep of earlier ones.
* `Change` — what a call does to the table, and when.

## Main results

* `sent_once` — soundness along every run, with the change that the next step makes.
-/

namespace Marty.Issuance.Didcomm

open Lib Lib.Checked Lib.Table

variable {ι : Type*}

/-! ## Attempts -/

/-- The attempt that its holder acts in. -/
def Act.attempt? : Act ι → Option String
  | .claimed _ _ attemptId _ | .sent _ _ attemptId | .posted _ _ attemptId _ _
  | .recorded _ _ attemptId _ => some attemptId
  | .staged _ _ | .lapsed _ _ _ => none

/-- Who acts in an attempt, and for which delivery. -/
def Act.holder? : Act ι → Option (ι × String)
  | .claimed holder d _ _ | .sent holder d _ | .posted holder d _ _ _ | .recorded holder d _ _ =>
      some (holder, d)
  | .staged _ _ | .lapsed _ _ _ => none

/-- What was done in an attempt. -/
def courseOf (acts : List (Act ι)) (attemptId : String) : List (Act ι) :=
  acts.filter fun act => act.attempt? = some attemptId

/-- How far an attempt has come, before its outcome is recorded. -/
inductive Reached
  | claimed
  | sent
  | posted

/-- The acts of call `i` up to the point that it has reached. -/
def ReachedBy (i : ι) (d a : String) (course : List (Act ι)) : Reached → Prop
  | .claimed => ∃ e, course = [.claimed i d a e]
  | .sent => ∃ e, course = [.claimed i d a e, .sent i d a]
  | .posted => ∃ e endpoint message,
      course = [.claimed i d a e, .sent i d a, .posted i d a endpoint message]

/-- The outcomes that may be recorded at a point: as unattempted until the request is made,
and with the other outcomes from then on. -/
def Reached.allows : Reached → DeliveryStatus → Prop
  | .claimed, status | .sent, status => status = .transportRetryable
  | .posted, status => status = .transported ∨ status = .deliveryUnknown

/-- **The course of an attempt**: up to some point, and then perhaps its outcome. -/
def Course (i : ι) (d a : String) (course : List (Act ι)) : Prop :=
  ∃ before reached, ReachedBy i d a before reached ∧
    (course = before ∨
      ∃ status, reached.allows status ∧ course = before ++ [.recorded i d a status])

theorem mem_courseOf {acts : List (Act ι)} {a : String} {act : Act ι}
    (hact : act.attempt? = some a) : act ∈ courseOf acts a ↔ act ∈ acts := by
  simp [courseOf, hact]

theorem courseOf_append_ne {acts : List (Act ι)} {a : String} {act : Act ι}
    (hact : act.attempt? ≠ some a) : courseOf (acts ++ [act]) a = courseOf acts a := by
  simp [courseOf, hact]

theorem courseOf_append {acts : List (Act ι)} {a : String} {act : Act ι}
    (hact : act.attempt? = some a) : courseOf (acts ++ [act]) a = courseOf acts a ++ [act] := by
  simp [courseOf, hact]

/-- Everything in the course of an attempt was done by its holder, for its delivery. -/
theorem Course.holder {i : ι} {d a : String} {course : List (Act ι)} (h : Course i d a course)
    {act : Act ι} (hact : act ∈ course) : act.holder? = some (i, d) := by
  obtain ⟨before, reached, hreached, hcourse⟩ := h
  have hbefore : ∀ act ∈ before, act.holder? = some (i, d) := by
    cases reached with
    | claimed =>
        obtain ⟨e, rfl⟩ := hreached
        simp [Act.holder?]
    | sent =>
        obtain ⟨e, rfl⟩ := hreached
        simp [Act.holder?]
    | posted =>
        obtain ⟨e, endpoint, message, rfl⟩ := hreached
        simp [Act.holder?]
  obtain rfl | ⟨status, -, rfl⟩ := hcourse
  · exact hbefore act hact
  · rcases List.mem_append.mp hact with hmem | hmem
    · exact hbefore act hmem
    · rw [List.mem_singleton.mp hmem]
      rfl

/-- An attempt that was recorded as unattempted has made no request. -/
theorem Course.not_posted {i : ι} {d a : String} {course : List (Act ι)} (h : Course i d a course)
    (hrecorded : .recorded i d a .transportRetryable ∈ course) (endpoint message : String) :
    .posted i d a endpoint message ∉ course := by
  obtain ⟨before, reached, hreached, hcourse⟩ := h
  cases reached with
  | claimed =>
      obtain ⟨e, rfl⟩ := hreached
      obtain rfl | ⟨status, -, rfl⟩ := hcourse <;> simp
  | sent =>
      obtain ⟨e, rfl⟩ := hreached
      obtain rfl | ⟨status, -, rfl⟩ := hcourse <;> simp
  | posted =>
      obtain ⟨e, endpoint', message', rfl⟩ := hreached
      obtain rfl | ⟨status, hstatus, rfl⟩ := hcourse
      · simp at hrecorded
      · simp only [List.cons_append, List.nil_append, List.mem_cons, List.not_mem_nil, or_false,
          reduceCtorEq, false_or, Act.recorded.injEq, true_and] at hrecorded
        rcases hstatus with hstatus | hstatus <;> rw [hstatus] at hrecorded <;> cases hrecorded

/-! ## Soundness -/

variable (services : Services)

/-- The row has the texts that were staged, the encrypted message until it is delivered. -/
structure Carries (delivery : StagedDelivery) (row : DeliveryRow) : Prop where
  holderDid : metadataText row.metadata "holder_did" = some delivery.holderDid
  serviceEndpoint : metadataText row.metadata "service_endpoint" = some delivery.serviceEndpoint
  messageId : metadataText row.metadata "didcomm_message_id" = some delivery.messageId
  encryptedMessage : row.status ≠ .delivered →
    metadataText row.metadata "encrypted_message" = some delivery.encryptedMessage

/-- The row stands in attempt `a`, whose lease expires at `e`. -/
structure InLease (row : DeliveryRow) (a : String) (e : DateTime) : Prop where
  attempt : metadataText row.metadata attemptKey = some a
  lease : metadataText row.metadata leaseKey = some (services.leaseText e)
  canonical : Uuid.isCanonical a = true
  year : FourDigitYear e

structure RowSound (acts : List (Act ι)) (row : DeliveryRow) : Prop where
  staged : ∃ delivery, .staged row.id delivery ∈ acts
  carries : ∀ delivery, .staged row.id delivery ∈ acts → Carries delivery row
  known : row.status ∈ [.transportReady, .transportRetryable, .transporting, .transported,
    .deliveryUnknown, .delivered]
  /-- Whoever may claim the row finds all its attempts recorded as unattempted. -/
  claimable : row.status = .transportReady ∨ row.status = .transportRetryable →
    ∀ j a e, .claimed j row.id a e ∈ acts → .recorded j row.id a .transportRetryable ∈ acts
  transporting : row.status = .transporting → ∃ j a e, .claimed j row.id a e ∈ acts ∧
    InLease services row a e ∧ (∀ k status, .recorded k row.id a status ∉ acts) ∧
    ∀ k b e', .claimed k row.id b e' ∈ acts → b ≠ a →
      .recorded k row.id b .transportRetryable ∈ acts

/-- What has happened when an attempt is claimed, when it calls the transport, and when it
makes the request. -/
def Warranted (before : List (Act ι)) : Act ι → Prop
  | .claimed _ d _ _ => ∀ i a e, .claimed i d a e ∈ before →
      .recorded i d a .transportRetryable ∈ before
  | .sent _ d _ => ∀ i a, .sent i d a ∈ before → .recorded i d a .transportRetryable ∈ before
  | .posted _ d _ _ _ => ∀ i a endpoint message, .posted i d a endpoint message ∉ before
  | .staged d _ => ∀ delivery, .staged d delivery ∉ before
  | .lapsed _ _ _ | .recorded _ _ _ _ => True

/-- The table has the delivery. -/
def HasDelivery (rows : List DeliveryRow) (d : String) : Prop :=
  ∃ row ∈ rows, row.id = d ∧ row.deliveryTarget = didcommV2

/-- An attempt is under way, or its holder has recorded an outcome, or its lease was found
expired. -/
def Settles (rows : List DeliveryRow) (acts : List (Act ι)) (i : ι) (d a : String)
    (e : DateTime) : Prop :=
  (∃ row ∈ rows, row.id = d ∧ row.deliveryTarget = didcommV2 ∧ row.status = .transporting ∧
      InLease services row a e) ∨
    (∃ status, .recorded i d a status ∈ acts) ∨ ∃ now, e ≤ now ∧ .lapsed d a now ∈ acts

structure Sound (s : Store ι) : Prop where
  ids : (s.rows.map (·.id)).Nodup
  rows : ∀ row ∈ s.rows, row.deliveryTarget = didcommV2 → RowSound services s.acts row
  courses : ∀ i d a e, .claimed i d a e ∈ s.acts → Course i d a (courseOf s.acts a)
  claims : ∀ act ∈ s.acts, ∀ a, act.attempt? = some a → ∃ i d e, .claimed i d a e ∈ s.acts
  claimed : ∀ i d a e, .claimed i d a e ∈ s.acts → HasDelivery s.rows d ∧
    Settles services s.rows s.acts i d a e
  staged : ∀ d delivery, .staged d delivery ∈ s.acts → HasDelivery s.rows d
  warranted : Justified Warranted s.acts

/-- Later states keep what has happened, and every delivery with its texts; one that is
delivered or of unknown outcome stays as it is. -/
structure Continues (s s' : Store ι) : Prop where
  acts : s.acts <+: s'.acts
  rows : ∀ row ∈ s.rows, row.deliveryTarget = didcommV2 → ∃ row' ∈ s'.rows, row'.id = row.id ∧
    row'.deliveryTarget = didcommV2 ∧ row'.credentialId = row.credentialId ∧
    row'.transactionId = row.transactionId ∧ row'.organizationId = row.organizationId ∧
    (∀ key ∈ ["holder_did", "service_endpoint", "didcomm_message_id"],
      metadataText row'.metadata key = metadataText row.metadata key) ∧
    (row'.status ≠ .delivered → metadataText row'.metadata "encrypted_message" =
      metadataText row.metadata "encrypted_message") ∧
    (row.status = .delivered ∨ row.status = .deliveryUnknown → row' = row)

/-! ## Changes -/

/-- `excluded` projects the row as delivered, with the texts that it has. -/
structure Projects (row excluded : DeliveryRow) : Prop where
  credentialId : excluded.credentialId = row.credentialId
  transactionId : excluded.transactionId = row.transactionId
  organizationId : excluded.organizationId = row.organizationId
  deliveryTarget : excluded.deliveryTarget = didcommV2
  status : excluded.status = .delivered
  serviceEndpoint : metadataText excluded.metadata "service_endpoint" =
    metadataText row.metadata "service_endpoint"
  messageId : metadataText excluded.metadata "didcomm_message_id" =
    metadataText row.metadata "didcomm_message_id"

/-- **What call `i` does to the table**: each change with the condition it is made under. -/
inductive Change (i : ι) : Store ι → Store ι → Prop
  | staged {s : Store ι} {row : DeliveryRow} {delivery : StagedDelivery}
      (hfresh : ∀ r ∈ s.rows, r.id ≠ row.id) (htarget : row.deliveryTarget = didcommV2)
      (hstatus : row.status = .transportReady) (hmetadata : row.metadata = delivery.metadata) :
      Change i s ⟨s.rows ++ [row], s.acts ++ [.staged row.id delivery]⟩
  | claimed {s : Store ι} {row : DeliveryRow} {rows : List DeliveryRow} {a : String}
      {e now : DateTime} (htarget : row.deliveryTarget = didcommV2)
      (hstatus : row.status = .transportReady ∨ row.status = .transportRetryable)
      (hcanonical : Uuid.isCanonical a = true) (hyear : FourDigitYear e)
      (hfresh : ∀ act ∈ s.acts, act.attempt? ≠ some a)
      (hrep : Replaces s.rows row (row.claimedBy a (services.leaseText e) now) rows) :
      Change i s ⟨rows, s.acts ++ [.claimed i row.id a e]⟩
  /-- The lease has expired: the outcome of its attempt is unknown for good. -/
  | lapsed {s : Store ι} {row : DeliveryRow} {rows : List DeliveryRow} {a : String}
      {e now now' : DateTime} (htarget : row.deliveryTarget = didcommV2)
      (hstatus : row.status = .transporting) (hlease : InLease services row a e)
      (hexpired : e ≤ now) (hrep : Replaces s.rows row (row.outcomeUnknown now') rows) :
      Change i s ⟨rows, s.acts ++ [.lapsed row.id a now]⟩
  /-- The holder of the attempt that the row stands in records its outcome. -/
  | recorded {s : Store ι} {row : DeliveryRow} {rows : List DeliveryRow} {a : String}
      {e now : DateTime} {reached : Reached} {status : DeliveryStatus} {lastError : Option String}
      (htarget : row.deliveryTarget = didcommV2) (hstatus : row.status = .transporting)
      (hlease : InLease services row a e)
      (hreached : ReachedBy i row.id a (courseOf s.acts a) reached)
      (hallows : reached.allows status)
      (hrep : Replaces s.rows row (row.finished status lastError now) rows) :
      Change i s ⟨rows, s.acts ++ [.recorded i row.id a status]⟩
  | sent {s : Store ι} {d a : String} (hreached : ReachedBy i d a (courseOf s.acts a) .claimed) :
      Change i s { s with acts := s.acts ++ [.sent i d a] }
  | posted {s : Store ι} {d a endpoint message : String}
      (hreached : ReachedBy i d a (courseOf s.acts a) .sent) :
      Change i s { s with acts := s.acts ++ [.posted i d a endpoint message] }
  | delivered {s : Store ι} {row excluded : DeliveryRow} {rows : List DeliveryRow}
      (htarget : row.deliveryTarget = didcommV2) (hstatus : row.status = .transported)
      (hprojects : Projects row excluded)
      (hrep : Replaces s.rows row (excluded.mergedInto row) rows) :
      Change i s { s with rows := rows }
  | mirrorAdded {s : Store ι} {row : DeliveryRow} (hfresh : ∀ r ∈ s.rows, r.id ≠ row.id)
      (htarget : row.deliveryTarget ≠ didcommV2) : Change i s { s with rows := s.rows ++ [row] }
  | mirrorReplaced {s : Store ι} {row row' : DeliveryRow} {rows : List DeliveryRow}
      (htarget : row.deliveryTarget ≠ didcommV2) (htarget' : row'.deliveryTarget ≠ didcommV2)
      (hid : row'.id = row.id) (hrep : Replaces s.rows row row' rows) :
      Change i s { s with rows := rows }

variable {services}

/-! ### Facts about sound tables -/

theorem ReachedBy.course {i : ι} {d a : String} {course : List (Act ι)} {reached : Reached}
    (h : ReachedBy i d a course reached) : Course i d a course :=
  ⟨course, reached, h, .inl rfl⟩

theorem ReachedBy.claimed_mem {i : ι} {d a : String} {course : List (Act ι)} {reached : Reached}
    (h : ReachedBy i d a course reached) : ∃ e, .claimed i d a e ∈ course := by
  cases reached with
  | claimed =>
      obtain ⟨e, rfl⟩ := h
      exact ⟨e, List.mem_cons_self⟩
  | sent =>
      obtain ⟨e, rfl⟩ := h
      exact ⟨e, List.mem_cons_self⟩
  | posted =>
      obtain ⟨e, endpoint, message, rfl⟩ := h
      exact ⟨e, List.mem_cons_self⟩

theorem ReachedBy.not_recorded {i : ι} {d a : String} {course : List (Act ι)} {reached : Reached}
    (h : ReachedBy i d a course reached) (k : ι) (d' b : String) (status : DeliveryStatus) :
    .recorded k d' b status ∉ course := by
  cases reached with
  | claimed =>
      obtain ⟨e, rfl⟩ := h
      simp
  | sent =>
      obtain ⟨e, rfl⟩ := h
      simp
  | posted =>
      obtain ⟨e, endpoint, message, rfl⟩ := h
      simp

theorem Sound.claimed_mem {s : Store ι} {i : ι} {d a : String} {reached : Reached}
    (hreached : ReachedBy i d a (courseOf s.acts a) reached) :
    ∃ e, .claimed i d a e ∈ s.acts := by
  obtain ⟨e, he⟩ := hreached.claimed_mem
  exact ⟨e, (mem_courseOf rfl).mp he⟩

/-- Whoever acts in an attempt has claimed it, for the same delivery. -/
theorem Sound.claimed_of {s : Store ι} (hs : Sound services s) {act : Act ι} (hact : act ∈ s.acts)
    {i : ι} {d a : String} (hattempt : act.attempt? = some a) (hholder : act.holder? = some (i, d)) :
    ∃ e, .claimed i d a e ∈ s.acts := by
  obtain ⟨j, d', e, hclaimed⟩ := hs.claims act hact a hattempt
  have hcourse := (hs.courses j d' a e hclaimed).holder ((mem_courseOf hattempt).mpr hact)
  rw [hholder, Option.some.injEq, Prod.mk.injEq] at hcourse
  obtain ⟨rfl, rfl⟩ := hcourse
  exact ⟨e, hclaimed⟩

/-- An attempt has one holder, and is for one delivery. -/
theorem Sound.holder_eq {s : Store ι} (hs : Sound services s) {i j : ι} {d d' a : String}
    {e e' : DateTime} (h : .claimed i d a e ∈ s.acts) (h' : .claimed j d' a e' ∈ s.acts) :
    i = j ∧ d = d' := by
  have hcourse := (hs.courses j d' a e' h').holder ((mem_courseOf rfl).mpr h)
  simpa [Act.holder?] using hcourse

/-- Of two attempts of one delivery, one was recorded as unattempted. -/
theorem Sound.unattempted {s : Store ι} (hs : Sound services s) {i j : ι} {d a b : String}
    {e e' : DateTime} (ha : .claimed i d a e ∈ s.acts) (hb : .claimed j d b e' ∈ s.acts)
    (hne : a ≠ b) : .recorded i d a .transportRetryable ∈ s.acts ∨
      .recorded j d b .transportRetryable ∈ s.acts := by
  have hacts : (.claimed i d a e : Act ι) ≠ .claimed j d b e' := by
    intro heq
    cases heq
    exact hne rfl
  obtain ⟨l, hl, ⟨hmem, hlater⟩ | ⟨hmem, hlater⟩⟩ := hs.warranted.total ha hb hacts
  · exact .inl (hl _ (hlater i a e hmem))
  · exact .inr (hl _ (hlater j b e' hmem))

/-- While this attempt has recorded nothing, any other of its delivery was unattempted. -/
theorem Sound.others_unattempted {s : Store ι} (hs : Sound services s) {i j : ι} {d a b : String}
    {reached : Reached} (hreached : ReachedBy j d b (courseOf s.acts b) reached)
    {act : Act ι} (hact : act ∈ s.acts) (hattempt : act.attempt? = some a)
    (hholder : act.holder? = some (i, d)) (hne : a ≠ b) :
    .recorded i d a .transportRetryable ∈ s.acts := by
  obtain ⟨e, ha⟩ := hs.claimed_of hact hattempt hholder
  obtain ⟨e', hb⟩ := Sound.claimed_mem hreached
  rcases hs.unattempted ha hb hne with h | h
  · exact h
  · exact (hreached.not_recorded _ _ _ _ ((mem_courseOf rfl).mpr h)).elim

theorem HasDelivery.replaced {rows rows' : List DeliveryRow} {old new : DeliveryRow} {d : String}
    (h : HasDelivery rows d) (hrep : Replaces rows old new rows') (hid : new.id = old.id)
    (htarget : new.deliveryTarget = old.deliveryTarget) : HasDelivery rows' d := by
  obtain ⟨row, hrow, hrowid, hrowtarget⟩ := h
  by_cases heq : row = old
  · subst heq
    exact ⟨new, hrep.new_mem, hid.trans hrowid, htarget.trans hrowtarget⟩
  · exact ⟨row, hrep.mem_of_ne hrow heq, hrowid, hrowtarget⟩

@[simp] theorem DeliveryRow.claimedBy_id (row : DeliveryRow) (a lease : String) (now : DateTime) :
    (row.claimedBy a lease now).id = row.id := rfl

@[simp] theorem DeliveryRow.outcomeUnknown_id (row : DeliveryRow) (now : DateTime) :
    (row.outcomeUnknown now).id = row.id := rfl

@[simp] theorem DeliveryRow.finished_id (row : DeliveryRow) (status : DeliveryStatus)
    (lastError : Option String) (now : DateTime) :
    (row.finished status lastError now).id = row.id := rfl

theorem metadataText_unclaimed (metadata : Json.Map) {key : String} (hattempt : key ≠ attemptKey)
    (hlease : key ≠ leaseKey) :
    metadataText (unclaimed metadata) key = metadataText metadata key := by
  rw [metadataText, metadataText, unclaimed, Json.Map.get_remove, if_neg hlease,
    Json.Map.get_remove, if_neg hattempt]

/-- The keys of the texts that are staged. -/
def stagedKeys : List String :=
  ["holder_did", "service_endpoint", "didcomm_message_id", "encrypted_message"]

theorem not_claimKey {key : String} (h : key ∈ stagedKeys) : key ≠ attemptKey ∧ key ≠ leaseKey := by
  simp only [stagedKeys, List.mem_cons, List.not_mem_nil, or_false] at h
  rcases h with rfl | rfl | rfl | rfl <;> decide

/-- The rows have the same staged texts. -/
def SameTexts (row row' : DeliveryRow) : Prop :=
  ∀ key ∈ stagedKeys, metadataText row'.metadata key = metadataText row.metadata key

theorem sameTexts_unclaimed {row row' : DeliveryRow} (h : row'.metadata = unclaimed row.metadata) :
    SameTexts row row' := by
  intro key hkey
  obtain ⟨hattempt, hlease⟩ := not_claimKey hkey
  rw [h, metadataText_unclaimed _ hattempt hlease]

theorem sameTexts_claimedBy (row : DeliveryRow) (a lease : String) (now : DateTime) :
    SameTexts row (row.claimedBy a lease now) := by
  intro key hkey
  obtain ⟨hattempt, hlease⟩ := not_claimKey hkey
  have hother : ∀ e ∈ [(attemptKey, Json.Value.string a), (leaseKey, .string lease)], e.1 ≠ key := by
    intro e he
    simp only [List.mem_cons, List.not_mem_nil, or_false] at he
    rcases he with rfl | rfl
    · exact Ne.symm hattempt
    · exact Ne.symm hlease
  rw [← metadataText_unclaimed row.metadata hattempt hlease, metadataText, metadataText,
    DeliveryRow.claimedBy, Json.Map.get_extend_of_notMem hother]

theorem Carries.sameTexts {delivery : StagedDelivery} {row row' : DeliveryRow}
    (h : Carries delivery row) (hsame : SameTexts row row') (hstatus : row.status ≠ .delivered) :
    Carries delivery row' where
  holderDid := (hsame _ (by simp [stagedKeys])).trans h.holderDid
  serviceEndpoint := (hsame _ (by simp [stagedKeys])).trans h.serviceEndpoint
  messageId := (hsame _ (by simp [stagedKeys])).trans h.messageId
  encryptedMessage := fun _ => (hsame _ (by simp [stagedKeys])).trans (h.encryptedMessage hstatus)

/-- A claimed row stands in the lease that it was claimed for. -/
theorem inLease_claimedBy {row : DeliveryRow} {a : String} {e now : DateTime}
    (hcanonical : Uuid.isCanonical a = true) (hyear : FourDigitYear e) :
    InLease services (row.claimedBy a (services.leaseText e) now) a e := by
  have hne : attemptKey ≠ leaseKey := by decide
  constructor
  · simp only [metadataText, DeliveryRow.claimedBy, Json.Map.extend, List.foldl_cons, List.foldl_nil,
      Json.Map.get_insert, if_neg hne, if_true, Option.bind_some, Json.Value.asStr]
  · simp only [metadataText, DeliveryRow.claimedBy, Json.Map.extend, List.foldl_cons, List.foldl_nil,
      Json.Map.get_insert, if_true, Option.bind_some, Json.Value.asStr]
  · exact hcanonical
  · exact hyear

theorem InLease.deadline {row : DeliveryRow} {a : String} {e : DateTime}
    (h : InLease services row a e) : row.leaseDeadline services = some e := by
  rw [DeliveryRow.leaseDeadline, h.attempt, h.lease]
  simp [Uuid.trim_of_isCanonical h.canonical, Option.filter_some,
    Uuid.parses_of_isCanonical h.canonical, services.readLease_leaseText e h.year]

theorem InLease.expiry_eq {row : DeliveryRow} {a b : String} {e e' : DateTime}
    (h : InLease services row a e) (h' : InLease services row b e') : e = e' :=
  Option.some.inj (h.deadline.symm.trans h'.deadline)

/-! ### One change -/

/-- The act is one of those that a row of the delivery depends on. -/
def Act.touches (d : String) : Act ι → Prop
  | .staged d' _ | .claimed _ d' _ _ | .recorded _ d' _ _ => d' = d
  | .lapsed _ _ _ | .sent _ _ _ | .posted _ _ _ _ _ => False

theorem RowSound.append {acts : List (Act ι)} {row : DeliveryRow} {act : Act ι}
    (h : RowSound services acts row) (hact : ¬ act.touches row.id) :
    RowSound services (acts ++ [act]) row := by
  have hold : ∀ {x : Act ι}, x.touches row.id → x ∈ acts ++ [act] → x ∈ acts := by
    intro x hx hmem
    rcases List.mem_append.mp hmem with hmem | hmem
    · exact hmem
    · rw [List.mem_singleton] at hmem
      exact absurd (hmem ▸ hx) hact
  refine ⟨?_, fun delivery hmem => h.carries delivery (hold rfl hmem), h.known, ?_, ?_⟩
  · obtain ⟨delivery, hmem⟩ := h.staged
    exact ⟨delivery, List.mem_append_left _ hmem⟩
  · intro hstatus j a e hmem
    exact List.mem_append_left _ (h.claimable hstatus j a e (hold rfl hmem))
  · intro hstatus
    obtain ⟨j, a, e, hclaimed, hlease, hnot, hothers⟩ := h.transporting hstatus
    refine ⟨j, a, e, List.mem_append_left _ hclaimed, hlease,
      fun k status hmem => hnot k status (hold rfl hmem), fun k b e' hmem hne => ?_⟩
    exact List.mem_append_left _ (hothers k b e' (hold rfl hmem) hne)

theorem Settles.mono {rows : List DeliveryRow} {acts acts' : List (Act ι)} {i : ι} {d a : String}
    {e : DateTime} (h : Settles services rows acts i d a e) (hacts : ∀ x ∈ acts, x ∈ acts') :
    Settles services rows acts' i d a e := by
  rcases h with h | ⟨status, h⟩ | ⟨now, hnow, h⟩
  · exact .inl h
  · exact .inr (.inl ⟨status, hacts _ h⟩)
  · exact .inr (.inr ⟨now, hnow, hacts _ h⟩)

theorem Settles.added {rows rows' : List DeliveryRow} {acts : List (Act ι)} {i : ι} {d a : String}
    {e : DateTime} (h : Settles services rows acts i d a e) (hrows : ∀ r ∈ rows, r ∈ rows') :
    Settles services rows' acts i d a e := by
  refine h.imp_left ?_
  rintro ⟨row, hrow, hrest⟩
  exact ⟨row, hrows row hrow, hrest⟩

/-- An attempt stays settled, unless the row that is replaced stands in it. -/
theorem Settles.replaced {rows rows' : List DeliveryRow} {old new : DeliveryRow}
    {acts : List (Act ι)} {i : ι} {d a : String} {e : DateTime}
    (h : Settles services rows acts i d a e) (hrep : Replaces rows old new rows')
    (hold : old.id = d → old.status = .transporting → InLease services old a e →
      Settles services rows' acts i d a e) : Settles services rows' acts i d a e := by
  rcases h with ⟨row, hrow, hid, htarget, hstatus, hlease⟩ | h
  · by_cases heq : row = old
    · subst heq
      exact hold hid hstatus hlease
    · exact .inl ⟨row, hrep.mem_of_ne hrow heq, hid, htarget, hstatus, hlease⟩
  · exact .inr h

theorem Sound.ids_replaced {s : Store ι} (hs : Sound services s) {row row' : DeliveryRow}
    {rows : List DeliveryRow} (hrep : Replaces s.rows row row' rows) (hid : row'.id = row.id) :
    (rows.map (·.id)).Nodup := by
  have hkeys : rows.map (·.id) = s.rows.map (·.id) := hrep.map_key hid
  exact hkeys ▸ hs.ids

theorem Sound.ids_append {s : Store ι} (hs : Sound services s) {row : DeliveryRow}
    (hfresh : ∀ r ∈ s.rows, r.id ≠ row.id) : ((s.rows ++ [row]).map (·.id)).Nodup := by
  rw [List.map_append, List.nodup_append]
  refine ⟨hs.ids, List.nodup_singleton _, ?_⟩
  intro x hx y hy
  obtain ⟨r, hr, rfl⟩ := List.mem_map.mp hx
  rw [List.map_singleton, List.mem_singleton] at hy
  exact hy ▸ hfresh r hr

/-- The rows of a table in which one row was replaced, with one act more. -/
theorem Sound.rows_replaced {s : Store ι} (hs : Sound services s) {row row' : DeliveryRow}
    {rows : List DeliveryRow} (hrep : Replaces s.rows row row' rows) {act : Act ι}
    (hnew : RowSound services (s.acts ++ [act]) row') (hact : ∀ d, act.touches d → d = row.id) :
    ∀ r ∈ rows, r.deliveryTarget = didcommV2 → RowSound services (s.acts ++ [act]) r := by
  intro r hr htarget
  rcases hrep.eq_or_mem hs.ids hr with rfl | ⟨hmem, hne⟩
  · exact hnew
  · exact (hs.rows r hmem htarget).append fun htouches => hne (hact _ htouches)

/-- **One more act of a holder** continues the course of its attempt, and no other. -/
theorem Sound.courses_append {s : Store ι} (hs : Sound services s) {i : ι} {d a : String}
    {act : Act ι} (hattempt : act.attempt? = some a) {e : DateTime}
    (hclaimed : .claimed i d a e ∈ s.acts) (hcourse : Course i d a (courseOf s.acts a ++ [act]))
    (hact : ∀ j d' b e', act ≠ .claimed j d' b e') :
    (∀ j d' b e', .claimed j d' b e' ∈ s.acts ++ [act] →
        Course j d' b (courseOf (s.acts ++ [act]) b)) ∧
      ∀ x ∈ s.acts ++ [act], ∀ b, x.attempt? = some b →
        ∃ j d' e', .claimed j d' b e' ∈ s.acts ++ [act] := by
  constructor
  · intro j d' b e' hmem
    rcases List.mem_append.mp hmem with hmem | hmem
    · by_cases hb : b = a
      · subst hb
        obtain ⟨rfl, rfl⟩ := hs.holder_eq hmem hclaimed
        rw [courseOf_append hattempt]
        exact hcourse
      · rw [courseOf_append_ne fun h => hb (Option.some.inj (h.symm.trans hattempt))]
        exact hs.courses j d' b e' hmem
    · exact absurd (List.mem_singleton.mp hmem).symm (hact j d' b e')
  · intro x hx b hb
    rcases List.mem_append.mp hx with hmem | hmem
    · obtain ⟨j, d', e', h⟩ := hs.claims x hmem b hb
      exact ⟨j, d', e', List.mem_append_left _ h⟩
    · rw [List.mem_singleton] at hmem
      subst hmem
      rw [hattempt, Option.some.injEq] at hb
      exact ⟨i, d, e, List.mem_append_left _ (hb ▸ hclaimed)⟩

theorem Sound.stage {s : Store ι} (hs : Sound services s) {row : DeliveryRow}
    {delivery : StagedDelivery} (hfresh : ∀ r ∈ s.rows, r.id ≠ row.id)
    (htarget : row.deliveryTarget = didcommV2) (hstatus : row.status = .transportReady)
    (hmetadata : row.metadata = delivery.metadata) :
    Sound services ⟨s.rows ++ [row], s.acts ++ [.staged row.id delivery]⟩ := by
  have hnone : ¬ HasDelivery s.rows row.id := fun ⟨r, hr, hid, _⟩ => hfresh r hr hid
  have hkept : ∀ d, HasDelivery s.rows d → HasDelivery (s.rows ++ [row]) d :=
    fun d ⟨r, hr, hrest⟩ => ⟨r, List.mem_append_left _ hr, hrest⟩
  have hunclaimed : ∀ j a e, .claimed j row.id a e ∉ s.acts :=
    fun j a e h => hnone (hs.claimed j row.id a e h).1
  have hcarries : Carries delivery row := by
    constructor <;> simp [metadataText, hmetadata, StagedDelivery.metadata, Json.Map.get,
      Json.Value.asStr]
  refine ⟨hs.ids_append hfresh, ?_, ?_, ?_, ?_, ?_,
    hs.warranted.append fun old h => hnone (hs.staged _ _ h)⟩
  · intro r hr hrtarget
    rcases List.mem_append.mp hr with hr | hr
    · exact (hs.rows r hr hrtarget).append fun heq => hfresh r hr heq.symm
    · rw [List.mem_singleton] at hr
      subst hr
      refine ⟨⟨delivery, by simp⟩, ?_, by simp [hstatus], ?_, by simp [hstatus]⟩
      · intro other hmem
        rcases List.mem_append.mp hmem with hmem | hmem
        · exact absurd (hs.staged _ _ hmem) hnone
        · cases List.mem_singleton.mp hmem
          exact hcarries
      · intro _ j a e hmem
        rcases List.mem_append.mp hmem with hmem | hmem
        · exact absurd hmem (hunclaimed j a e)
        · cases List.mem_singleton.mp hmem
  · intro i d a e hmem
    rw [courseOf_append_ne (by simp [Act.attempt?])]
    exact hs.courses i d a e (by simpa using hmem)
  · intro act hact a ha
    rcases List.mem_append.mp hact with hmem | hmem
    · obtain ⟨i, d, e, h⟩ := hs.claims act hmem a ha
      exact ⟨i, d, e, List.mem_append_left _ h⟩
    · rw [List.mem_singleton.mp hmem] at ha
      cases ha
  · intro i d a e hmem
    obtain ⟨hrow, hsettles⟩ := hs.claimed i d a e (by simpa using hmem)
    refine ⟨hkept d hrow, ?_⟩
    exact (hsettles.mono fun x hx => List.mem_append_left _ hx).added
      fun r hr => List.mem_append_left _ hr
  · intro d other hmem
    rcases List.mem_append.mp hmem with hmem | hmem
    · exact hkept d (hs.staged d other hmem)
    · cases List.mem_singleton.mp hmem
      exact ⟨row, by simp, rfl, htarget⟩

theorem Sound.claim {s : Store ι} (hs : Sound services s) (i : ι) {row : DeliveryRow}
    {rows : List DeliveryRow} {a : String} {e now : DateTime}
    (htarget : row.deliveryTarget = didcommV2)
    (hstatus : row.status = .transportReady ∨ row.status = .transportRetryable)
    (hcanonical : Uuid.isCanonical a = true) (hyear : FourDigitYear e)
    (hfresh : ∀ act ∈ s.acts, act.attempt? ≠ some a)
    (hrep : Replaces s.rows row (row.claimedBy a (services.leaseText e) now) rows) :
    Sound services ⟨rows, s.acts ++ [.claimed i row.id a e]⟩ := by
  have hrow := hs.rows row hrep.mem htarget
  have hlease : InLease services (row.claimedBy a (services.leaseText e) now) a e :=
    inLease_claimedBy hcanonical hyear
  have hnotDelivered : row.status ≠ .delivered := by
    rcases hstatus with h | h <;> simp [h]
  have hempty : courseOf s.acts a = [] := by
    simpa [courseOf] using hfresh
  have hdelivery : ∀ d, HasDelivery s.rows d → HasDelivery rows d :=
    fun d h => h.replaced hrep rfl rfl
  refine ⟨hs.ids_replaced hrep rfl, hs.rows_replaced hrep ?_ ?_, ?_, ?_, ?_, ?_, ?_⟩
  · refine ⟨?_, fun delivery hmem => ?_, by simp [DeliveryRow.claimedBy], ?_, fun _ => ?_⟩
    · obtain ⟨delivery, h⟩ := hrow.staged
      exact ⟨delivery, List.mem_append_left _ h⟩
    · exact (hrow.carries delivery (by simpa using hmem)).sameTexts
        (sameTexts_claimedBy row a _ now) hnotDelivered
    · rintro (h | h) <;> cases h
    · refine ⟨i, a, e, by simp [DeliveryRow.claimedBy], hlease, fun k status hmem => ?_, ?_⟩
      · exact hfresh _ (by simpa using hmem) rfl
      · intro k b e' hmem hne
        have hold : .claimed k row.id b e' ∈ s.acts := by
          rcases List.mem_append.mp hmem with hmem | hmem
          · exact hmem
          · cases List.mem_singleton.mp hmem
            exact absurd rfl hne
        exact List.mem_append_left _ (hrow.claimable hstatus k b e' hold)
  · exact fun d h => h.symm
  · intro j d b e' hmem
    rcases List.mem_append.mp hmem with hmem | hmem
    · have hne : (Act.claimed i row.id a e).attempt? ≠ some b := fun heq => hfresh _ hmem heq.symm
      rw [courseOf_append_ne hne]
      exact hs.courses j d b e' hmem
    · cases List.mem_singleton.mp hmem
      rw [courseOf_append rfl, hempty]
      have hreached : ReachedBy i row.id a [.claimed i row.id a e] .claimed := ⟨e, rfl⟩
      exact hreached.course
  · intro act hact b hb
    rcases List.mem_append.mp hact with hmem | hmem
    · obtain ⟨j, d, e', h⟩ := hs.claims act hmem b hb
      exact ⟨j, d, e', List.mem_append_left _ h⟩
    · cases List.mem_singleton.mp hmem
      cases hb
      exact ⟨i, row.id, e, by simp⟩
  · intro j d b e' hmem
    rcases List.mem_append.mp hmem with hmem | hmem
    · obtain ⟨hhas, hsettles⟩ := hs.claimed j d b e' hmem
      refine ⟨hdelivery d hhas, ?_⟩
      refine (hsettles.mono fun x hx => List.mem_append_left _ hx).replaced hrep ?_
      intro _ hold _
      rw [hold] at hstatus
      rcases hstatus with h | h <;> cases h
    · cases List.mem_singleton.mp hmem
      exact ⟨hdelivery _ ⟨row, hrep.mem, rfl, htarget⟩,
        .inl ⟨_, hrep.new_mem, rfl, htarget, rfl, hlease⟩⟩
  · intro d delivery hmem
    exact hdelivery d (hs.staged d delivery (by simpa using hmem))
  · exact hs.warranted.append (hrow.claimable hstatus)

theorem Sound.lapse {s : Store ι} (hs : Sound services s) {row : DeliveryRow}
    {rows : List DeliveryRow} {a : String} {e now now' : DateTime}
    (htarget : row.deliveryTarget = didcommV2) (hstatus : row.status = .transporting)
    (hlease : InLease services row a e) (hexpired : e ≤ now)
    (hrep : Replaces s.rows row (row.outcomeUnknown now') rows) :
    Sound services ⟨rows, s.acts ++ [.lapsed row.id a now]⟩ := by
  have hrow := hs.rows row hrep.mem htarget
  have hdelivery : ∀ d, HasDelivery s.rows d → HasDelivery rows d :=
    fun d h => h.replaced hrep rfl rfl
  refine ⟨hs.ids_replaced hrep rfl, hs.rows_replaced hrep ?_ ?_, ?_, ?_, ?_, ?_,
    hs.warranted.append trivial⟩
  · refine ⟨?_, fun delivery hmem => ?_, by simp [DeliveryRow.outcomeUnknown], ?_, ?_⟩
    · obtain ⟨delivery, h⟩ := hrow.staged
      exact ⟨delivery, List.mem_append_left _ h⟩
    · exact (hrow.carries delivery (by simpa using hmem)).sameTexts (sameTexts_unclaimed rfl)
        (by simp [hstatus])
    · rintro (h | h) <;> cases h
    · intro h
      cases h
  · exact fun d h => h.elim
  · intro j d b e' hmem
    rw [courseOf_append_ne (by simp [Act.attempt?])]
    exact hs.courses j d b e' (by simpa using hmem)
  · intro act hact b hb
    rcases List.mem_append.mp hact with hmem | hmem
    · obtain ⟨j, d, e', h⟩ := hs.claims act hmem b hb
      exact ⟨j, d, e', List.mem_append_left _ h⟩
    · cases List.mem_singleton.mp hmem
      cases hb
  · intro j d b e' hmem
    obtain ⟨hhas, hsettles⟩ := hs.claimed j d b e' (by simpa using hmem)
    refine ⟨hdelivery d hhas, ?_⟩
    refine (hsettles.mono fun x hx => List.mem_append_left _ hx).replaced hrep ?_
    rintro rfl - hold
    have hattempt : b = a := Option.some.inj (hold.attempt.symm.trans hlease.attempt)
    exact .inr (.inr ⟨now, hold.expiry_eq hlease ▸ hexpired, by simp [hattempt]⟩)
  · intro d delivery hmem
    exact hdelivery d (hs.staged d delivery (by simpa using hmem))

theorem Sound.record {s : Store ι} (hs : Sound services s) {i : ι} {row : DeliveryRow}
    {rows : List DeliveryRow} {a : String} {e now : DateTime} {reached : Reached}
    {status : DeliveryStatus} {lastError : Option String}
    (htarget : row.deliveryTarget = didcommV2) (hstatus : row.status = .transporting)
    (hlease : InLease services row a e)
    (hreached : ReachedBy i row.id a (courseOf s.acts a) reached)
    (hallows : reached.allows status)
    (hrep : Replaces s.rows row (row.finished status lastError now) rows) :
    Sound services ⟨rows, s.acts ++ [.recorded i row.id a status]⟩ := by
  have hrow := hs.rows row hrep.mem htarget
  have hdelivery : ∀ d, HasDelivery s.rows d → HasDelivery rows d :=
    fun d h => h.replaced hrep rfl rfl
  have hknown : status = .transportRetryable ∨ status = .transported ∨
      status = .deliveryUnknown := by
    cases reached with
    | claimed | sent => exact .inl hallows
    | posted => exact .inr hallows
  obtain ⟨e₀, hclaimed⟩ := Sound.claimed_mem hreached
  have hcourse : Course i row.id a (courseOf s.acts a ++ [.recorded i row.id a status]) :=
    ⟨_, reached, hreached, .inr ⟨status, hallows, rfl⟩⟩
  obtain ⟨hcourses, hclaims⟩ := hs.courses_append rfl hclaimed hcourse nofun
  refine ⟨hs.ids_replaced hrep rfl, hs.rows_replaced hrep ?_ ?_, hcourses, hclaims, ?_, ?_,
    hs.warranted.append trivial⟩
  · refine ⟨?_, fun delivery hmem => ?_, ?_, ?_, ?_⟩
    · obtain ⟨delivery, h⟩ := hrow.staged
      exact ⟨delivery, List.mem_append_left _ h⟩
    · exact (hrow.carries delivery (by simpa using hmem)).sameTexts (sameTexts_unclaimed rfl)
        (by simp [hstatus])
    · rcases hknown with rfl | rfl | rfl <;> simp [DeliveryRow.finished]
    · -- only an attempt that is recorded as unattempted makes the row claimable again
      intro hclaimable j b e' hmem
      have hretryable : status = .transportRetryable := by
        rcases hknown with rfl | rfl | rfl
        · rfl
        · rcases hclaimable with h | h <;> cases h
        · rcases hclaimable with h | h <;> cases h
      have hold : .claimed j row.id b e' ∈ s.acts := by simpa using hmem
      obtain ⟨k, c, e₁, hc, hclease, -, hothers⟩ := hrow.transporting hstatus
      have hca : c = a := Option.some.inj (hclease.attempt.symm.trans hlease.attempt)
      by_cases hb : b = a
      · subst hb
        obtain ⟨rfl, -⟩ := hs.holder_eq hold hclaimed
        exact List.mem_append_right _ (by simp [DeliveryRow.finished, hretryable])
      · exact List.mem_append_left _ (hothers j b e' hold (hca ▸ hb))
    · intro h
      have htransporting : status = .transporting := h
      rcases hknown with rfl | rfl | rfl <;> cases htransporting
  · exact fun d h => h.symm
  · intro j d b e' hmem
    have hold : .claimed j d b e' ∈ s.acts := by simpa using hmem
    obtain ⟨hhas, hsettles⟩ := hs.claimed j d b e' hold
    refine ⟨hdelivery d hhas, ?_⟩
    refine (hsettles.mono fun x hx => List.mem_append_left _ hx).replaced hrep ?_
    rintro rfl - hblease
    have hattempt : b = a := Option.some.inj (hblease.attempt.symm.trans hlease.attempt)
    subst hattempt
    obtain ⟨rfl, -⟩ := hs.holder_eq hold hclaimed
    exact .inr (.inl ⟨status, by simp⟩)
  · intro d delivery hmem
    exact hdelivery d (hs.staged d delivery (by simpa using hmem))

/-- Acts that leave the table as it is. -/
theorem Sound.act {s : Store ι} (hs : Sound services s) {i : ι} {d a : String} {act : Act ι}
    {reached reached' : Reached} (hreached : ReachedBy i d a (courseOf s.acts a) reached)
    (hattempt : act.attempt? = some a)
    (hcourse : ReachedBy i d a (courseOf s.acts a ++ [act]) reached')
    (htouches : ∀ d', ¬ act.touches d') (hwarranted : Warranted s.acts act) :
    Sound services { s with acts := s.acts ++ [act] } := by
  obtain ⟨e, hclaimed⟩ := Sound.claimed_mem hreached
  have hold : ∀ {x : Act ι} {d' : String}, x.touches d' → x ∈ s.acts ++ [act] → x ∈ s.acts := by
    intro x d' hx hmem
    rcases List.mem_append.mp hmem with hmem | hmem
    · exact hmem
    · exact absurd (List.mem_singleton.mp hmem ▸ hx) (htouches d')
  obtain ⟨hcourses, hclaims⟩ := hs.courses_append hattempt hclaimed hcourse.course
    (fun j d' b e' h => htouches d' (h ▸ rfl))
  refine ⟨hs.ids, fun r hr htarget => (hs.rows r hr htarget).append (htouches _), hcourses, hclaims,
    ?_, fun d' delivery hmem => hs.staged d' delivery (hold rfl hmem),
    hs.warranted.append hwarranted⟩
  intro j d' b e' hmem
  obtain ⟨hhas, hsettles⟩ := hs.claimed j d' b e' (hold rfl hmem)
  exact ⟨hhas, hsettles.mono fun x hx => List.mem_append_left _ hx⟩

theorem Sound.send {s : Store ι} (hs : Sound services s) {i : ι} {d a : String}
    (hreached : ReachedBy i d a (courseOf s.acts a) .claimed) :
    Sound services { s with acts := s.acts ++ [.sent i d a] } := by
  obtain ⟨e, hcourse⟩ := id hreached
  have hnext : ReachedBy i d a (courseOf s.acts a ++ [.sent i d a]) .sent :=
    ⟨e, by rw [hcourse]; rfl⟩
  refine hs.act hreached rfl hnext (fun _ h => h) ?_
  intro j b hsent
  by_cases hb : b = a
  · subst hb
    have hmem := (mem_courseOf rfl).mpr hsent
    simp [hcourse] at hmem
  · exact hs.others_unattempted hreached hsent rfl rfl hb

theorem Sound.post {s : Store ι} (hs : Sound services s) {i : ι} {d a endpoint message : String}
    (hreached : ReachedBy i d a (courseOf s.acts a) .sent) :
    Sound services { s with acts := s.acts ++ [.posted i d a endpoint message] } := by
  obtain ⟨e, hcourse⟩ := id hreached
  have hnext : ReachedBy i d a (courseOf s.acts a ++ [.posted i d a endpoint message]) .posted :=
    ⟨e, endpoint, message, by rw [hcourse]; rfl⟩
  refine hs.act hreached rfl hnext (fun _ h => h) ?_
  intro j b endpoint' message' hposted
  by_cases hb : b = a
  · subst hb
    have hmem := (mem_courseOf rfl).mpr hposted
    simp [hcourse] at hmem
  · -- an attempt that was unattempted has made no request
    have hunattempted := hs.others_unattempted hreached hposted rfl rfl hb
    obtain ⟨e', hclaimed⟩ := hs.claimed_of hposted rfl rfl
    exact (hs.courses j d b e' hclaimed).not_posted ((mem_courseOf rfl).mpr hunattempted)
      endpoint' message' ((mem_courseOf rfl).mpr hposted)

theorem Projects.texts {row excluded : DeliveryRow} (h : Projects row excluded)
    (hholder : (metadataText row.metadata "holder_did").isSome) :
    ∀ key ∈ ["holder_did", "service_endpoint", "didcomm_message_id"],
      metadataText (excluded.mergedInto row).metadata key = metadataText row.metadata key := by
  intro key hkey
  have hmetadata : (excluded.mergedInto row).metadata =
      excluded.metadata.insert "holder_did" ((row.metadata.get "holder_did").getD .null) :=
    if_pos h.deliveryTarget
  rw [hmetadata, metadataText, Json.Map.get_insert]
  simp only [List.mem_cons, List.not_mem_nil, or_false] at hkey
  rcases hkey with rfl | rfl | rfl
  · rw [if_pos rfl, metadataText]
    cases hget : row.metadata.get "holder_did" with
    | none => simp [metadataText, hget] at hholder
    | some value => rfl
  · rw [if_neg (by decide)]
    exact h.serviceEndpoint
  · rw [if_neg (by decide)]
    exact h.messageId

theorem Sound.deliver {s : Store ι} (hs : Sound services s) {row excluded : DeliveryRow}
    {rows : List DeliveryRow} (htarget : row.deliveryTarget = didcommV2)
    (hstatus : row.status = .transported) (hprojects : Projects row excluded)
    (hrep : Replaces s.rows row (excluded.mergedInto row) rows) :
    Sound services { s with rows := rows } := by
  have hrow := hs.rows row hrep.mem htarget
  have hid : (excluded.mergedInto row).id = row.id := rfl
  have hnew : (excluded.mergedInto row).status = .delivered := hprojects.status
  have hdelivery : ∀ d, HasDelivery s.rows d → HasDelivery rows d :=
    fun d h => h.replaced hrep rfl (hprojects.deliveryTarget.trans htarget.symm)
  refine ⟨hs.ids_replaced hrep rfl, ?_, hs.courses, hs.claims, ?_,
    fun d delivery h => hdelivery d (hs.staged d delivery h), hs.warranted⟩
  · intro r hr hrtarget
    rcases hrep.eq_or_mem hs.ids hr with rfl | ⟨hmem, -⟩
    · refine ⟨hrow.staged, fun delivery hstaged => ?_, by simp [hnew], ?_, by simp [hnew]⟩
      · have hcarries := hrow.carries delivery hstaged
        have htexts := hprojects.texts (by simp [hcarries.holderDid])
        exact ⟨(htexts _ (by simp)).trans hcarries.holderDid,
          (htexts _ (by simp)).trans hcarries.serviceEndpoint,
          (htexts _ (by simp)).trans hcarries.messageId, fun h => absurd hnew h⟩
      · rw [hnew]
        rintro (h | h) <;> cases h
    · exact hs.rows r hmem hrtarget
  · intro i d a e hmem
    obtain ⟨hhas, hsettles⟩ := hs.claimed i d a e hmem
    refine ⟨hdelivery d hhas, hsettles.replaced hrep fun _ htransporting _ => ?_⟩
    rw [hstatus] at htransporting
    cases htransporting

/-- A table with the same deliveries, and others of other targets. -/
theorem Sound.mirror {s : Store ι} (hs : Sound services s) {rows : List DeliveryRow}
    (hids : (rows.map (·.id)).Nodup)
    (hsame : ∀ row, row.deliveryTarget = didcommV2 → (row ∈ rows ↔ row ∈ s.rows)) :
    Sound services { s with rows := rows } := by
  have hdelivery : ∀ d, HasDelivery s.rows d → HasDelivery rows d :=
    fun d ⟨row, hrow, hid, htarget⟩ => ⟨row, (hsame row htarget).mpr hrow, hid, htarget⟩
  refine ⟨hids, fun row hrow htarget => hs.rows row ((hsame row htarget).mp hrow) htarget,
    hs.courses, hs.claims, fun i d a e hmem => ?_,
    fun d delivery h => hdelivery d (hs.staged d delivery h), hs.warranted⟩
  obtain ⟨hhas, hsettles⟩ := hs.claimed i d a e hmem
  refine ⟨hdelivery d hhas, hsettles.imp_left ?_⟩
  rintro ⟨row, hrow, hid, htarget, hrest⟩
  exact ⟨row, (hsame row htarget).mpr hrow, hid, htarget, hrest⟩

/-! ### What later states keep -/

theorem Continues.refl (s : Store ι) : Continues s s :=
  ⟨List.prefix_refl _, fun row hrow htarget =>
    ⟨row, hrow, rfl, htarget, rfl, rfl, rfl, fun _ _ => rfl, fun _ => rfl, fun _ => rfl⟩⟩

theorem Continues.trans {s₁ s₂ s₃ : Store ι} (h : Continues s₁ s₂) (h' : Continues s₂ s₃) :
    Continues s₁ s₃ := by
  refine ⟨h.acts.trans h'.acts, fun row hrow htarget => ?_⟩
  obtain ⟨row₂, h₂, hid, htarget₂, hcredential, htransaction, horg, htexts, hmessage, hfinal⟩ :=
    h.rows row hrow htarget
  obtain ⟨row₃, h₃, hid', htarget₃, hcredential', htransaction', horg', htexts', hmessage',
    hfinal'⟩ := h'.rows row₂ h₂ htarget₂
  refine ⟨row₃, h₃, hid'.trans hid, htarget₃, hcredential'.trans hcredential,
    htransaction'.trans htransaction, horg'.trans horg,
    fun key hkey => (htexts' key hkey).trans (htexts key hkey), fun hstatus => ?_, fun hstatus => ?_⟩
  · have hstatus₂ : row₂.status ≠ .delivered := by
      intro hdelivered
      exact hstatus (hfinal' (.inl hdelivered) ▸ hdelivered)
    exact (hmessage' hstatus).trans (hmessage hstatus₂)
  · have hsame := hfinal hstatus
    rw [hfinal' (hsame ▸ hstatus), hsame]

theorem Continues.replaced {s s' : Store ι} {row row' : DeliveryRow}
    (hrep : Replaces s.rows row row' s'.rows) (hacts : s.acts <+: s'.acts)
    (hid : row'.id = row.id) (htarget : row'.deliveryTarget = row.deliveryTarget)
    (hcredential : row'.credentialId = row.credentialId)
    (htransaction : row'.transactionId = row.transactionId)
    (horg : row'.organizationId = row.organizationId)
    (htexts : ∀ key ∈ ["holder_did", "service_endpoint", "didcomm_message_id"],
      metadataText row'.metadata key = metadataText row.metadata key)
    (hmessage : row'.status ≠ .delivered → metadataText row'.metadata "encrypted_message" =
      metadataText row.metadata "encrypted_message")
    (hopen : row.status ≠ .delivered ∧ row.status ≠ .deliveryUnknown) : Continues s s' := by
  refine ⟨hacts, fun r hr hrtarget => ?_⟩
  by_cases heq : r = row
  · subst heq
    refine ⟨row', hrep.new_mem, hid, htarget.trans hrtarget, hcredential, htransaction, horg, htexts,
      hmessage, ?_⟩
    rintro (h | h)
    · exact absurd h hopen.1
    · exact absurd h hopen.2
  · exact ⟨r, hrep.mem_of_ne hr heq, rfl, hrtarget, rfl, rfl, rfl, fun _ _ => rfl, fun _ => rfl,
      fun _ => rfl⟩

theorem Continues.sameTexts {s s' : Store ι} {row row' : DeliveryRow}
    (hrep : Replaces s.rows row row' s'.rows) (hacts : s.acts <+: s'.acts)
    (hid : row'.id = row.id) (htarget : row'.deliveryTarget = row.deliveryTarget)
    (hcredential : row'.credentialId = row.credentialId)
    (htransaction : row'.transactionId = row.transactionId)
    (horg : row'.organizationId = row.organizationId) (hsame : SameTexts row row')
    (hopen : row.status ≠ .delivered ∧ row.status ≠ .deliveryUnknown) : Continues s s' := by
  refine .replaced hrep hacts hid htarget hcredential htransaction horg (fun key hkey => ?_)
    (fun _ => hsame _ (by simp [stagedKeys])) hopen
  apply hsame
  simp only [List.mem_cons, List.not_mem_nil, or_false] at hkey
  rcases hkey with rfl | rfl | rfl <;> simp [stagedKeys]

theorem Continues.kept {s s' : Store ι} (hacts : s.acts <+: s'.acts)
    (hrows : ∀ row ∈ s.rows, row.deliveryTarget = didcommV2 → row ∈ s'.rows) : Continues s s' :=
  ⟨hacts, fun row hrow htarget => ⟨row, hrows row hrow htarget, rfl, htarget, rfl, rfl, rfl,
    fun _ _ => rfl, fun _ => rfl, fun _ => rfl⟩⟩

/-- **A change keeps the table sound**, and continues what was there. -/
theorem Change.sound {i : ι} {s s' : Store ι} (hs : Sound services s)
    (h : Change services i s s') : Sound services s' ∧ Continues s s' := by
  cases h with
  | staged hfresh htarget hstatus hmetadata =>
      exact ⟨hs.stage hfresh htarget hstatus hmetadata,
        .kept (List.prefix_append _ _) fun r hr _ => List.mem_append_left _ hr⟩
  | claimed htarget hstatus hcanonical hyear hfresh hrep =>
      refine ⟨hs.claim i htarget hstatus hcanonical hyear hfresh hrep,
        .sameTexts hrep (List.prefix_append _ _) rfl rfl rfl rfl rfl (sameTexts_claimedBy _ _ _ _) ?_⟩
      rcases hstatus with h | h <;> simp [h]
  | lapsed htarget hstatus hlease hexpired hrep =>
      exact ⟨hs.lapse htarget hstatus hlease hexpired hrep,
        .sameTexts hrep (List.prefix_append _ _) rfl rfl rfl rfl rfl (sameTexts_unclaimed rfl)
          (by simp [hstatus])⟩
  | recorded htarget hstatus hlease hreached hallows hrep =>
      exact ⟨hs.record htarget hstatus hlease hreached hallows hrep,
        .sameTexts hrep (List.prefix_append _ _) rfl rfl rfl rfl rfl (sameTexts_unclaimed rfl)
          (by simp [hstatus])⟩
  | sent hreached =>
      exact ⟨hs.send hreached, .kept (List.prefix_append _ _) fun r hr _ => hr⟩
  | posted hreached =>
      exact ⟨hs.post hreached, .kept (List.prefix_append _ _) fun r hr _ => hr⟩
  | delivered htarget hstatus hprojects hrep =>
      have hrow := hs.rows _ hrep.mem htarget
      obtain ⟨delivery, hstaged⟩ := hrow.staged
      have hholder := (hrow.carries delivery hstaged).holderDid
      refine ⟨hs.deliver htarget hstatus hprojects hrep, ?_⟩
      exact .replaced hrep List.prefix_rfl rfl (hprojects.deliveryTarget.trans htarget.symm)
        hprojects.credentialId hprojects.transactionId hprojects.organizationId
        (hprojects.texts (by simp [hholder])) (fun h => absurd hprojects.status h)
        (by simp [hstatus])
  | mirrorAdded hfresh htarget =>
      refine ⟨hs.mirror (hs.ids_append hfresh) fun r hr => ?_,
        .kept List.prefix_rfl fun r hr _ => List.mem_append_left _ hr⟩
      rw [List.mem_append, List.mem_singleton, or_iff_left]
      rintro rfl
      exact htarget hr
  | @mirrorReplaced row row' rows htarget htarget' hid hrep =>
      have hsame : ∀ r, r.deliveryTarget = didcommV2 → (r ∈ rows ↔ r ∈ s.rows) := by
        intro r hr
        constructor
        · intro hmem
          rcases hrep.eq_or_mem hs.ids hmem with rfl | ⟨hold, -⟩
          · exact absurd hr htarget'
          · exact hold
        · intro hmem
          exact hrep.mem_of_ne hmem fun heq => htarget (heq ▸ hr)
      exact ⟨hs.mirror (hs.ids_replaced hrep hid) hsame,
        .kept List.prefix_rfl fun r hr htarget => (hsame r htarget).mpr hr⟩

/-! ## What the operations do -/

/-- **An update of one row by its identifier** that has met exactly one row. -/
theorem Sound.update_one {s : Store ι} (hs : Sound services s) {p : DeliveryRow → Bool}
    {f : DeliveryRow → DeliveryRow} {id : String} (hp : ∀ r, p r = true → r.id = id)
    (hone : ¬ (updated s.rows p f).length ≠ 1) :
    ∃ row, p row = true ∧ Replaces s.rows row (f row) (update s.rows p f) := by
  rcases update_cases (f := f) hs.ids hp with hnone | ⟨row, -, hrow, -, hrep⟩
  · rw [updated_of_forall_not hnone] at hone
    simp at hone
  · exact ⟨row, hrow, hrep⟩

theorem Sound.row_eq {s : Store ι} (hs : Sound services s) {row row' : DeliveryRow}
    (h : row ∈ s.rows) (h' : row' ∈ s.rows) (hid : row.id = row'.id) : row = row' :=
  List.inj_on_of_nodup_map hs.ids h h' hid

theorem stageDelivery_change {s : Store ι} (i : ι) {transaction : CredentialTransaction}
    {credential : IssuedCredential} {delivery : StagedDelivery} {finalized : Bool}
    {clock : StatementClock} {rows : List DeliveryRow}
    (h : stageDelivery services transaction credential delivery finalized clock s.rows = .ok rows) :
    Change services i s ⟨rows, s.acts ++ [.staged (deliveryRecordId services.uuidV5 credential.id
      didcommV2 none) delivery]⟩ := by
  simp only [stageDelivery, bind_eq_ok, rejectIf_eq_ok, exists_unit, pure, Except.pure,
    Except.ok.injEq] at h
  obtain ⟨-, -, hfresh, rfl⟩ := h
  have hnew : ∀ r ∈ s.rows, r.id ≠ (stagedRow services transaction credential delivery clock).id := by
    simpa using hfresh
  exact .staged hnew rfl rfl rfl

/-- What a claim of a row that was found and checked can come to. -/
theorem claimPending_cases {s : Store ι} (hs : Sound services s) {row : DeliveryRow}
    (hrow : row ∈ s.rows) (htarget : row.deliveryTarget = didcommV2) {pending : PendingDelivery}
    {clock : StatementClock} {attemptId : String} {rows : List DeliveryRow}
    {outcome : TransportClaimOutcome}
    (h : claimPending services row pending clock attemptId s.rows = .ok (rows, outcome)) :
    (rows = s.rows ∧ ((row.status = .transported ∧ outcome = .transported pending) ∨
        (outcome = .busy ∧ row.status = .transporting ∧
          ∃ deadline ∈ row.leaseDeadline services, clock.reads 0 < deadline) ∨
        row.status = .deliveryUnknown ∧ ∃ failure, outcome = .outcomeUnknown pending failure)) ∨
      (outcome = .outcomeUnknown pending .generic ∧ row.status = .transporting ∧
        (∀ deadline ∈ row.leaseDeadline services, deadline ≤ clock.reads 0) ∧
        Replaces s.rows row (row.outcomeUnknown (clock.reads 1)) rows) ∨
      outcome = .claimed ⟨pending, row.id, attemptId⟩ ∧
        (row.status = .transportReady ∨ row.status = .transportRetryable) ∧
        Replaces s.rows row (row.claimedBy attemptId (services.leaseText (leaseExpiry clock))
          (clock.reads 2)) rows := by
  have hknown := (hs.rows row hrow htarget).known
  have hmark : row.status = .transporting → ∀ rows',
      markLockedOutcomeUnknown row.id (clock.reads 1) s.rows = .ok rows' →
        Replaces s.rows row (row.outcomeUnknown (clock.reads 1)) rows' := by
    intro hstatus rows' hmarked
    unfold markLockedOutcomeUnknown at hmarked
    dsimp only at hmarked
    split at hmarked
    · cases hmarked
    · cases hmarked
      exact (update_at hs.ids hrow (by simp [hstatus, htarget]) (by simp +contextual)).2
  unfold claimPending at h
  dsimp only at h
  split at h
  case h_1 hstatus | h_2 hstatus =>
    simp [hstatus] at hknown
  case h_3 hstatus =>
    cases h
    exact .inl ⟨rfl, .inl ⟨hstatus, rfl⟩⟩
  case h_4 hstatus =>
    cases h
    exact .inl ⟨rfl, .inr (.inr ⟨hstatus, _, rfl⟩)⟩
  case h_5 hstatus =>
    split at h
    · rename_i hheld
      cases h
      obtain ⟨deadline, hdeadline, hlater⟩ := (Option.any_eq_true _ _).mp hheld
      exact .inl ⟨rfl, .inr (.inl ⟨rfl, hstatus, deadline, hdeadline, of_decide_eq_true hlater⟩)⟩
    · rename_i hexpired
      simp only [bind_eq_ok, pure, Except.pure, Except.ok.injEq, Prod.mk.injEq] at h
      obtain ⟨rows', hmarked, rfl, rfl⟩ := h
      refine .inr (.inl ⟨rfl, hstatus, fun deadline hdeadline => ?_, hmark hstatus _ hmarked⟩)
      by_contra hlater
      refine hexpired ((Option.any_eq_true _ _).mpr ⟨deadline, hdeadline, ?_⟩)
      exact decide_eq_true (not_le.mp hlater)
  case h_6 hstatus | h_7 hstatus =>
    split at h
    · cases h
    · rename_i hone
      cases h
      obtain ⟨old, hold, hrep⟩ := hs.update_one
        (fun r hr => by
          simp only [DeliveryRow.delivers, Bool.and_eq_true, beq_iff_eq] at hr
          exact hr.1.1.1.1.1.1) hone
      simp only [DeliveryRow.delivers, Bool.and_eq_true, beq_iff_eq] at hold
      have heq : old = row := hs.row_eq hrep.mem hrow hold.1.1.1.1.1.1
      subst heq
      exact .inr (.inr ⟨rfl, by simp [hstatus], hrep⟩)
  case h_8 | h_9 =>
    cases h

/-- A claim answers for the one delivery of the transaction: it refuses it, finds it delivered,
or goes by its status. -/
theorem claimTransport_cases {s : Store ι} {organizationId transactionId holderDid : String}
    {found : Except RepositoryError (Option (CredentialTransaction × IssuedCredential))}
    {clock : StatementClock} {attemptId : String} {rows : List DeliveryRow}
    {outcome : TransportClaimOutcome}
    (h : claimTransport services organizationId transactionId holderDid found clock attemptId
      s.rows = .ok (rows, outcome)) :
    (rows = s.rows ∧ (outcome = .bindingMismatch ∨
        (outcome = .absent ∧ deliveriesOf organizationId transactionId s.rows = []) ∨
        ∃ row delivered, deliveriesOf organizationId transactionId s.rows = [row] ∧
          row.status = .delivered ∧ outcome = .delivered delivered)) ∨
      ∃ row pending, deliveriesOf organizationId transactionId s.rows = [row] ∧
        row.id = deliveryRecordId services.uuidV5 pending.credential.id didcommV2 none ∧
        claimPending services row pending clock attemptId s.rows = .ok (rows, outcome) := by
  unfold claimTransport at h
  split at h
  case h_1 hfound =>
    cases h
    exact .inl ⟨rfl, .inr (.inl ⟨rfl, hfound⟩)⟩
  case h_2 =>
    cases h
  case h_3 row hfound =>
    simp only [bind_eq_ok, rejectIf_eq_ok, exists_unit] at h
    obtain ⟨-, holder, -, endpoint, -, messageId, -, h⟩ := h
    split at h
    · cases h
      exact .inl ⟨rfl, .inl rfl⟩
    · simp only [bind_eq_ok] at h
      obtain ⟨answer, -, h⟩ := h
      split at h
      · cases h
        exact .inl ⟨rfl, .inl rfl⟩
      · rename_i transaction credential
        split at h
        · cases h
          exact .inl ⟨rfl, .inl rfl⟩
        · rename_i hbound
          push Not at hbound
          split at h
          · rename_i hstatus
            cases h
            exact .inl ⟨rfl, .inr (.inr ⟨row, _, hfound, hstatus, rfl⟩)⟩
          · simp only [bind_eq_ok] at h
            obtain ⟨message, -, h⟩ := h
            refine .inr ⟨row, ⟨transaction, credential,
              ⟨holder, endpoint, messageId, message⟩, row.status = .transported⟩, hfound, ?_, h⟩
            exact hbound.2.2.1

theorem mem_deliveriesOf {organizationId transactionId : String} {rows : List DeliveryRow}
    {row : DeliveryRow} : row ∈ deliveriesOf organizationId transactionId rows ↔
      row ∈ rows ∧ row.transactionId = transactionId ∧ row.organizationId = organizationId ∧
        row.deliveryTarget = didcommV2 := by
  simp [deliveriesOf, and_assoc]

theorem claimDrawn_fresh {acts : List (Act ι)} {clock : StatementClock} {attemptId : String}
    (hs : ∀ act ∈ acts, ∀ a, act.attempt? = some a → ∃ i d e, .claimed i d a e ∈ acts)
    (h : claimDrawn acts clock attemptId = true) :
    FourDigitYear (leaseExpiry clock) ∧ Uuid.isCanonical attemptId = true ∧
      ∀ act ∈ acts, act.attempt? ≠ some attemptId := by
  simp only [claimDrawn, Bool.and_eq_true, decide_eq_true_eq, Bool.not_eq_true',
    List.any_eq_false] at h
  obtain ⟨⟨hyear, hcanonical⟩, hfresh⟩ := h
  refine ⟨hyear, hcanonical, fun act hact hattempt => ?_⟩
  obtain ⟨i, d, e, hclaimed⟩ := hs act hact attemptId hattempt
  exact hfresh _ hclaimed (by simp [Act.claims])

/-- **What a claim does**: nothing, or it ends an expired attempt, or it begins a new one. -/
theorem claimTransport_change {s : Store ι} (hs : Sound services s) (i : ι)
    {organizationId transactionId holderDid : String}
    {found : Except RepositoryError (Option (CredentialTransaction × IssuedCredential))}
    {clock : StatementClock} {attemptId : String} {rows : List DeliveryRow}
    {outcome : TransportClaimOutcome} (hdrawn : claimDrawn s.acts clock attemptId = true)
    (h : claimTransport services organizationId transactionId holderDid found clock attemptId
      s.rows = .ok (rows, outcome)) :
    let s' : Store ι := ⟨rows, s.acts ++ claimActs services i clock s.rows outcome⟩
    (s' = s ∨ Change services i s s') ∧ ∀ claim, outcome = .claimed claim →
      ReachedBy i claim.deliveryId claim.attemptId (courseOf s'.acts claim.attemptId) .claimed := by
  obtain ⟨hyear, hcanonical, hfresh⟩ := claimDrawn_fresh hs.claims hdrawn
  have hsame : s = ⟨s.rows, s.acts ++ []⟩ := by rw [List.append_nil]
  rcases claimTransport_cases h with ⟨rfl, hplain⟩ | ⟨row, pending, hfound, hid, hpending⟩
  · have hacts : claimActs services i clock s.rows outcome = [] := by
      rcases hplain with rfl | ⟨rfl, -⟩ | ⟨_, delivered, -, -, rfl⟩ <;> rfl
    refine ⟨.inl ?_, ?_⟩
    · rw [hacts]
      exact hsame.symm
    · rintro claim rfl
      rcases hplain with h | ⟨h, -⟩ | ⟨_, _, -, -, h⟩ <;> cases h
  · obtain ⟨hrow, -, -, htarget⟩ := mem_deliveriesOf.mp (hfound ▸ List.mem_singleton_self row)
    -- the acts of a delivery of unknown outcome are those of its row
    have hlapsed : ∀ failure, claimActs services i clock s.rows (.outcomeUnknown pending failure) =
        if row.status = .transporting then [.lapsed row.id row.attempt (clock.reads 0)] else [] := by
      intro failure
      split
      · rename_i hstatus
        have hone := (update_at (f := id) hs.ids hrow
          (p := fun r => r.id == deliveryRecordId services.uuidV5 pending.credential.id didcommV2 none
            && r.status == .transporting) (by simp [hid, hstatus]) (by
              intro r hr
              simp only [Bool.and_eq_true, beq_iff_eq] at hr
              rw [hr.1, hid])).1
        rw [updated, List.map_id] at hone
        rw [claimActs, hone]
        rfl
      · rename_i hstatus
        rw [claimActs, List.map_eq_nil_iff, List.filter_eq_nil_iff]
        intro r hr hmatch
        simp only [Bool.and_eq_true, beq_iff_eq] at hmatch
        have heq : r = row := hs.row_eq hr hrow (hmatch.1.trans hid.symm)
        exact hstatus (heq ▸ hmatch.2)
    rcases claimPending_cases hs hrow htarget hpending with
      ⟨rfl, hplain⟩ | ⟨rfl, hstatus, hexpired, hrep⟩ | ⟨rfl, hstatus, hrep⟩
    · have hacts : claimActs services i clock s.rows outcome = [] := by
        rcases hplain with ⟨-, rfl⟩ | ⟨rfl, -⟩ | ⟨hstatus, failure, rfl⟩
        · rfl
        · rfl
        · rw [hlapsed, if_neg (by simp [hstatus])]
      refine ⟨.inl ?_, ?_⟩
      · rw [hacts]
        exact hsame.symm
      · rintro claim rfl
        rcases hplain with ⟨-, h⟩ | ⟨h, -⟩ | ⟨-, _, h⟩ <;> cases h
    · obtain ⟨j, a, e, -, hlease, -⟩ := (hs.rows row hrow htarget).transporting hstatus
      have hattempt : row.attempt = a := by rw [DeliveryRow.attempt, hlease.attempt]; rfl
      refine ⟨.inr ?_, fun claim heq => by cases heq⟩
      rw [hlapsed, if_pos hstatus, hattempt]
      exact .lapsed htarget hstatus hlease (hexpired e hlease.deadline) hrep
    · refine ⟨.inr (.claimed htarget hstatus hcanonical hyear hfresh hrep), ?_⟩
      rintro claim ⟨⟩
      have hempty : courseOf s.acts attemptId = [] := by simpa [courseOf] using hfresh
      refine ⟨leaseExpiry clock, ?_⟩
      rw [claimActs, courseOf_append rfl, hempty]
      rfl

/-- **An outcome that could be recorded** is one of the attempt that the row stands in, which
has recorded nothing so far. -/
theorem markTransport_change {s : Store ι} (hs : Sound services s) {i : ι} {claim : TransportClaim}
    {mark : Mark} {now : DateTime} {rows : List DeliveryRow}
    (hreached : (∃ reached, ReachedBy i claim.deliveryId claim.attemptId
        (courseOf s.acts claim.attemptId) reached ∧ reached.allows mark.status) ∨
      ∃ status, .recorded i claim.deliveryId claim.attemptId status ∈ s.acts)
    (h : markTransport claim mark now s.rows = .ok rows) :
    Change services i s
      ⟨rows, s.acts ++ [.recorded i claim.deliveryId claim.attemptId mark.status]⟩ := by
  unfold markTransport finishTransportClaim at h
  dsimp only at h
  split at h
  · cases h
  · rename_i hone
    cases h
    obtain ⟨row, hin, hrep⟩ := hs.update_one
      (fun r hr => by
        simp only [DeliveryRow.inAttempt, DeliveryRow.delivers, Bool.and_eq_true, beq_iff_eq] at hr
        exact hr.1.1.1.1.1.1.1) hone
    simp only [DeliveryRow.inAttempt, DeliveryRow.delivers, Bool.and_eq_true, beq_iff_eq] at hin
    obtain ⟨⟨⟨⟨⟨⟨⟨hid, -⟩, -⟩, -⟩, htarget⟩, hstatus⟩, hattempt⟩, -⟩ := hin
    obtain ⟨j, a, e, -, hlease, hnot, -⟩ := (hs.rows row hrep.mem htarget).transporting hstatus
    have ha : a = claim.attemptId := Option.some.inj (hlease.attempt.symm.trans hattempt)
    subst ha
    rcases hreached with ⟨reached, hreached, hallows⟩ | ⟨status, hrecorded⟩
    · rw [← hid] at hreached ⊢
      exact .recorded htarget hstatus hlease hreached hallows hrep
    · exact absurd (hid ▸ hrecorded) (hnot i status)

/-- The row is the delivery that is to be projected, with the texts of the projection. -/
def Projectable (services : Services) (s : Store ι) (pending : PendingDelivery) : Prop :=
  ∃ row ∈ s.rows, row.id = deliveryRecordId services.uuidV5 pending.credential.id didcommV2 none ∧
    row.deliveryTarget = didcommV2 ∧ row.credentialId = pending.credential.id ∧
    row.transactionId = pending.transaction.id ∧
    row.organizationId = pending.credential.organizationId ∧
    metadataText row.metadata "service_endpoint" = some pending.delivery.serviceEndpoint ∧
    metadataText row.metadata "didcomm_message_id" = some pending.delivery.messageId

theorem projectable_of_isTransported {s : Store ι} {pending : PendingDelivery}
    (h : isTransported services pending s.rows = true) : Projectable services s pending := by
  simp only [isTransported, List.any_eq_true, Bool.and_eq_true, beq_iff_eq] at h
  obtain ⟨row, hrow, ⟨⟨⟨⟨⟨⟨hid, hcredential⟩, htransaction⟩, horg⟩, htarget⟩, -⟩, hendpoint⟩,
    hmessage⟩ := h
  exact ⟨row, hrow, hid, htarget, hcredential, htransaction, horg, hendpoint, hmessage⟩

theorem Projectable.continues {s s' : Store ι} {pending : PendingDelivery}
    (h : Projectable services s pending) (hcontinues : Continues s s') :
    Projectable services s' pending := by
  obtain ⟨row, hrow, hid, htarget, hcredential, htransaction, horg, hendpoint, hmessage⟩ := h
  obtain ⟨row', hrow', hid', htarget', hcredential', htransaction', horg', htexts, -⟩ :=
    hcontinues.rows row hrow htarget
  exact ⟨row', hrow', hid'.trans hid, htarget', hcredential'.trans hcredential,
    htransaction'.trans htransaction, horg'.trans horg,
    (htexts _ (by simp)).trans hendpoint, (htexts _ (by simp)).trans hmessage⟩

/-- **Projecting a delivery** makes it delivered from transported. -/
theorem deliveredRow_change {s : Store ι} (hs : Sound services s) (i : ι)
    {pending : PendingDelivery} {clock : StatementClock} {rows : List DeliveryRow}
    (hprojectable : Projectable services s pending)
    (h : upsertDelivery (deliveredRow services pending clock) s.rows = .ok rows) :
    Change services i s { s with rows := rows } := by
  obtain ⟨row, hrow, hid, htarget, hcredential, htransaction, horg, hendpoint, hmessage⟩ :=
    hprojectable
  unfold upsertDelivery at h
  dsimp only at h
  split at h
  · split at h
    · cases h
    · rename_i hone
      cases h
      obtain ⟨old, hold, hrep⟩ := hs.update_one
        (fun r hr => beq_iff_eq.mp ((Bool.and_eq_true _ _).mp hr).1) hone
      simp only [deliveredRow, bne_self_eq_false, Bool.false_or, Bool.and_eq_true,
        beq_iff_eq] at hold
      have heq : old = row := hs.row_eq hrep.mem hrow (hold.1.trans hid.symm)
      subst heq
      refine .delivered htarget hold.2 ⟨hcredential.symm, htransaction.symm, horg.symm, rfl, rfl,
        ?_, ?_⟩ hrep
      · rw [hendpoint]
        rfl
      · rw [hmessage]
        rfl
  · rename_i hnone
    refine absurd (List.any_eq_true.mpr ⟨row, hrow, ?_⟩) hnone
    exact beq_iff_eq.mpr hid

theorem mirror_change {s : Store ι} (hs : Sound services s) (i : ι) {row : DeliveryRow}
    {rows : List DeliveryRow} (htarget : row.deliveryTarget ≠ didcommV2)
    (hothers : ∀ r ∈ s.rows, r.deliveryTarget = didcommV2 → r.id ≠ row.id)
    (h : upsertDelivery row s.rows = .ok rows) : Change services i s { s with rows := rows } := by
  unfold upsertDelivery at h
  dsimp only at h
  split at h
  · split at h
    · cases h
    · rename_i hone
      cases h
      obtain ⟨old, hold, hrep⟩ := hs.update_one
        (fun r hr => beq_iff_eq.mp ((Bool.and_eq_true _ _).mp hr).1) hone
      have hid : old.id = row.id := beq_iff_eq.mp ((Bool.and_eq_true _ _).mp hold).1
      have hmerged : (row.mergedInto old).deliveryTarget ≠ didcommV2 := htarget
      exact .mirrorReplaced (fun h => hothers old hrep.mem h hid) hmerged rfl hrep
  · rename_i hnone
    cases h
    refine .mirrorAdded (fun r hr hid => hnone ?_) htarget
    exact List.any_eq_true.mpr ⟨r, hr, beq_iff_eq.mpr hid⟩

/-! ## Steps of a call -/

/-- What a call knows of the attempt that it holds. -/
def PhaseSound (services : Services) (s : Store ι) (i : ι) : Phase → Prop
  | .validating claim | .ready claim _ =>
      ReachedBy i claim.deliveryId claim.attemptId (courseOf s.acts claim.attemptId) .claimed
  | .sending claim _ =>
      ReachedBy i claim.deliveryId claim.attemptId (courseOf s.acts claim.attemptId) .sent
  | .posted claim | .markingSucceeded claim =>
      ReachedBy i claim.deliveryId claim.attemptId (courseOf s.acts claim.attemptId) .posted
  | .marking claim mark _ => ∃ reached, ReachedBy i claim.deliveryId claim.attemptId
      (courseOf s.acts claim.attemptId) reached ∧ reached.allows mark.status
  | .salvaging claim =>
      ReachedBy i claim.deliveryId claim.attemptId (courseOf s.acts claim.attemptId) .posted ∨
        ∃ status, .recorded i claim.deliveryId claim.attemptId status ∈ s.acts
  | .upserting pending => Projectable services s pending
  | .idle | .claiming _ _ _ | .preparing _ _ | .staging _ _ | .projecting _ | .ended _ => True

theorem checked_sound {s : Store ι} {i : ι} {transaction : CredentialTransaction}
    {holderDid : String} {pending : PendingDelivery} {next : Phase}
    (h : PhaseSound services s i next) :
    PhaseSound services s i (Phase.checked services transaction holderDid pending next) := by
  rw [Phase.checked]
  split
  · exact h
  · trivial

theorem afterClaim_sound {s : Store ι} {i : ι} (transaction : CredentialTransaction)
    (holderDid : String) (endpoint : Option String) {outcome : TransportClaimOutcome}
    (h : ∀ claim, outcome = .claimed claim → ReachedBy i claim.deliveryId claim.attemptId
      (courseOf s.acts claim.attemptId) .claimed) :
    PhaseSound services s i (afterClaim services transaction holderDid endpoint outcome) := by
  unfold afterClaim
  split
  · split
    · exact ⟨.claimed, h _ rfl, rfl⟩
    · trivial
  · split
    case h_1 | h_2 => exact checked_sound (h _ rfl)
    case h_3 => exact checked_sound trivial
    case h_7 => exact checked_sound trivial
    case h_5 => split <;> trivial
    case h_9 => split <;> trivial
    all_goals trivial

theorem afterTransport_sound {s : Store ι} {i : ι} {claim : TransportClaim}
    {outcome : TransportOutcome}
    (h : outcome = .failed ∨ outcome = .tlsUnavailable → ReachedBy i claim.deliveryId
      claim.attemptId (courseOf s.acts claim.attemptId) .sent)
    (h' : outcome ≠ .failed → outcome ≠ .tlsUnavailable → ReachedBy i claim.deliveryId
      claim.attemptId (courseOf s.acts claim.attemptId) .posted) :
    PhaseSound services s i (afterTransport claim outcome) := by
  cases outcome with
  | delivered => exact h' nofun nofun
  | failed => exact ⟨.sent, h (.inl rfl), rfl⟩
  | tlsUnavailable => exact ⟨.sent, h (.inr rfl), rfl⟩
  | outcomeUnknown failure => exact ⟨.posted, h' nofun nofun, .inr rfl⟩

/-- The call has changed the table, or nothing has happened. -/
def Steps (services : Services) (i : ι) (s s' : Store ι) : Prop :=
  s' = s ∨ Change services i s s'

/-- What a call knows of its attempt stays true while nothing is done in the attempt. -/
theorem PhaseSound.mono {s s' : Store ι} {i : ι} {phase : Phase}
    (h : PhaseSound services s i phase) (hcontinues : Continues s s')
    (hcourse : ∀ d a e, .claimed i d a e ∈ s.acts → courseOf s'.acts a = courseOf s.acts a) :
    PhaseSound services s' i phase := by
  have hkept : ∀ (claim : TransportClaim) (reached : Reached),
      ReachedBy i claim.deliveryId claim.attemptId (courseOf s.acts claim.attemptId) reached →
        ReachedBy i claim.deliveryId claim.attemptId (courseOf s'.acts claim.attemptId) reached := by
    intro claim reached hreached
    obtain ⟨e, hclaimed⟩ := Sound.claimed_mem hreached
    rw [hcourse _ _ e hclaimed]
    exact hreached
  cases phase with
  | idle | claiming _ _ _ | preparing _ _ | staging _ _ | projecting _ | ended _ => trivial
  | validating claim | ready claim _ => exact hkept claim .claimed h
  | sending claim _ => exact hkept claim .sent h
  | posted claim | markingSucceeded claim => exact hkept claim .posted h
  | marking claim mark answer =>
      obtain ⟨reached, hreached, hallows⟩ := h
      exact ⟨reached, hkept claim reached hreached, hallows⟩
  | salvaging claim =>
      refine h.imp (hkept claim _) ?_
      rintro ⟨status, hrecorded⟩
      exact ⟨status, hcontinues.acts.subset hrecorded⟩
  | upserting pending => exact Projectable.continues h hcontinues

/-- **A step of a call** is a change that its own attempt allows. -/
theorem deliveryStep_steps {s s' : Store ι} (hs : Sound services s) {i : ι} {event : Event}
    {phase phase' : Phase} (hphase : PhaseSound services s i phase)
    (h : deliveryStep services i event s phase = some (s', phase')) :
    Steps services i s s' ∧ PhaseSound services s' i phase' := by
  have hidle : Steps services i s s := .inl rfl
  unfold deliveryStep at h
  split at h
  case h_1 | h_2 | h_4 | h_5 | h_16 | h_17 =>
    cases h
    exact ⟨hidle, trivial⟩
  case h_3 reply found clock attemptId transaction holderDid endpoint =>
    dsimp only at h
    split at h
    · cases h
      exact ⟨hidle, trivial⟩
    · split at h
      · rename_i hdrawn
        split at h
        · cases h
          exact ⟨hidle, trivial⟩
        · rename_i rows outcome hclaim
          cases h
          obtain ⟨hsteps, hclaimed⟩ := claimTransport_change hs i hdrawn hclaim
          refine ⟨hsteps, ?_⟩
          split
          · exact afterClaim_sound transaction holderDid endpoint hclaimed
          · trivial
      · cases h
  case h_6 reply finalized released clock prepared holderDid =>
    dsimp only at h
    split at h
    · cases h
      exact ⟨hidle, trivial⟩
    · split at h
      · cases h
        exact ⟨hidle, trivial⟩
      · rename_i rows hstage
        cases h
        refine ⟨.inr (stageDelivery_change i hstage), ?_⟩
        split <;> trivial
  case h_7 endpoint claim =>
    cases h
    exact ⟨hidle, hphase⟩
  case h_8 reason claim =>
    cases h
    exact ⟨hidle, .claimed, hphase, rfl⟩
  case h_9 claim endpoint =>
    cases h
    obtain ⟨e, hcourse⟩ := id hphase
    refine ⟨.inr (.sent hphase), e, ?_⟩
    rw [courseOf_append rfl, hcourse]
    rfl
  case h_10 tls claim endpoint =>
    cases h
    refine ⟨hidle, afterTransport_sound (fun _ => hphase) fun hfailed htls => ?_⟩
    cases tls
    · exact absurd rfl hfailed
    · exact absurd rfl htls
  case h_11 claim endpoint =>
    cases h
    obtain ⟨e, hcourse⟩ := id hphase
    refine ⟨.inr (.posted hphase), e, endpoint, claim.pending.delivery.encryptedMessage, ?_⟩
    rw [courseOf_append rfl, hcourse]
    rfl
  case h_12 status claim =>
    cases h
    refine ⟨hidle, afterTransport_sound (fun hunsent => ?_) fun _ _ => hphase⟩
    unfold responseOutcome at hunsent
    split at hunsent
    · split at hunsent <;> simp at hunsent
    · simp at hunsent
  case h_13 reply now claim mark answer =>
    split at h
    case h_1 | h_2 =>
      cases h
      exact ⟨hidle, trivial⟩
    case h_3 rows _ hmark =>
      cases h
      exact ⟨.inr (markTransport_change hs (.inl hphase) hmark), trivial⟩
  case h_14 reply now claim =>
    split at h
    case h_1 | h_2 =>
      cases h
      exact ⟨hidle, .inl hphase⟩
    case h_3 rows _ hmark =>
      cases h
      refine ⟨.inr (markTransport_change hs (.inl ⟨.posted, hphase, .inl rfl⟩) hmark), ?_⟩
      split
      · trivial
      · exact .inr ⟨.transported, by simp⟩
  case h_15 reply now claim =>
    split at h
    case h_1 | h_2 =>
      cases h
      exact ⟨hidle, trivial⟩
    case h_3 rows _ hmark =>
      cases h
      refine ⟨.inr (markTransport_change hs ?_ hmark), trivial⟩
      exact hphase.imp_left fun hreached => ⟨.posted, hreached, .inr rfl⟩
  case h_18 reply pending =>
    cases h
    refine ⟨hidle, ?_⟩
    split
    · rename_i htransported
      exact projectable_of_isTransported htransported.2
    · trivial
  case h_19 reply clock pending =>
    split at h
    case h_1 | h_2 =>
      cases h
      exact ⟨hidle, trivial⟩
    case h_3 rows _ hupsert =>
      cases h
      exact ⟨.inr (deliveredRow_change hs i hphase hupsert), trivial⟩
  case h_20 row =>
    split at h
    · rename_i hmirror
      split at h
      · cases h
        exact ⟨hidle, hphase⟩
      · rename_i rows hupsert
        cases h
        have hchange := mirror_change hs i hmirror.1 hmirror.2 hupsert
        exact ⟨.inr hchange, hphase.mono (hchange.sound hs).2 fun _ _ _ _ => rfl⟩
    · cases h
  case h_21 => cases h

/-! ## Leases -/

/-- Call `i` holds an unexpired lease of the delivery: it has recorded no outcome of its
attempt, and nobody has found the lease expired. -/
def Holds (acts : List (Act ι)) (i : ι) (d a : String) : Prop :=
  ∃ e, .claimed i d a e ∈ acts ∧ (∀ status, .recorded i d a status ∉ acts) ∧
    ∀ now, .lapsed d a now ∈ acts → now < e

/-- **An unexpired lease has one holder.** -/
theorem Sound.holds_unique {s : Store ι} (hs : Sound services s) {i j : ι} {d a b : String}
    (h : Holds s.acts i d a) (h' : Holds s.acts j d b) : i = j ∧ a = b := by
  have hrow : ∀ {k : ι} {c : String}, Holds s.acts k d c → ∃ row ∈ s.rows, row.id = d ∧
      ∃ e, InLease services row c e := by
    rintro k c ⟨e, hclaimed, hnot, hlapsed⟩
    rcases (hs.claimed k d c e hclaimed).2 with ⟨row, hrow, hid, -, -, hlease⟩ | ⟨status, h⟩ |
      ⟨now, hnow, h⟩
    · exact ⟨row, hrow, hid, e, hlease⟩
    · exact absurd h (hnot status)
    · exact absurd (hlapsed now h) (not_lt.mpr hnow)
  obtain ⟨row, hmem, hid, e, hlease⟩ := hrow h
  obtain ⟨row', hmem', hid', e', hlease'⟩ := hrow h'
  have hsame := hs.row_eq hmem hmem' (hid.trans hid'.symm)
  subst hsame
  have hattempt : a = b := Option.some.inj (hlease.attempt.symm.trans hlease'.attempt)
  subst hattempt
  obtain ⟨_, hclaimed, -⟩ := h
  obtain ⟨_, hclaimed', -⟩ := h'
  exact ⟨(hs.holder_eq hclaimed hclaimed').1, rfl⟩

/-- What a claim can come to that finds the row in an attempt whose lease expires at `e`. -/
def FindsLease (row : DeliveryRow) (e : DateTime) (clock : StatementClock)
    (rows rows' : List DeliveryRow) (outcome : TransportClaimOutcome) : Prop :=
  (rows' = rows ∧ (outcome = .bindingMismatch ∨ outcome = .busy ∧ clock.reads 0 < e)) ∨
    e ≤ clock.reads 0 ∧ Replaces rows row (row.outcomeUnknown (clock.reads 1)) rows' ∧
      ∃ pending, outcome = .outcomeUnknown pending .generic

/-- **A lease keeps others off until it has expired**, and then its delivery is of unknown
outcome. -/
theorem Sound.findsLease {s : Store ι} (hs : Sound services s) {row : DeliveryRow}
    (hrow : row ∈ s.rows) (htarget : row.deliveryTarget = didcommV2)
    (hstatus : row.status = .transporting) {holderDid : String}
    {found : Except RepositoryError (Option (CredentialTransaction × IssuedCredential))}
    {clock : StatementClock} {attemptId : String} {rows : List DeliveryRow}
    {outcome : TransportClaimOutcome}
    (h : claimTransport services row.organizationId row.transactionId holderDid found clock
      attemptId s.rows = .ok (rows, outcome)) :
    ∃ j a e, .claimed j row.id a e ∈ s.acts ∧ FindsLease row e clock s.rows rows outcome := by
  have hmem := mem_deliveriesOf.mpr ⟨hrow, rfl, rfl, htarget⟩
  obtain ⟨j, a, e, hclaimed, hlease, -⟩ := (hs.rows row hrow htarget).transporting hstatus
  refine ⟨j, a, e, hclaimed, ?_⟩
  rcases claimTransport_cases h with ⟨rfl, hplain⟩ | ⟨row', pending, hfound, -, hpending⟩
  · rcases hplain with rfl | ⟨-, hnone⟩ | ⟨row', _, hfound, hdelivered, -⟩
    · exact .inl ⟨rfl, .inl rfl⟩
    · rw [hnone] at hmem
      cases hmem
    · rw [hfound, List.mem_singleton] at hmem
      rw [← hmem, hstatus] at hdelivered
      cases hdelivered
  · rw [hfound, List.mem_singleton] at hmem
    subst hmem
    rcases claimPending_cases hs hrow htarget hpending with
      ⟨rfl, ⟨htransported, -⟩ | ⟨rfl, -, deadline, hdeadline, hheld⟩ | ⟨hunknown, -⟩⟩ |
        ⟨rfl, -, hexpired, hrep⟩ | ⟨-, hready | hretryable, -⟩
    · rw [hstatus] at htransported
      cases htransported
    · have hsame : deadline = e := Option.some.inj (hdeadline.symm.trans hlease.deadline)
      exact .inl ⟨rfl, .inr ⟨rfl, hsame ▸ hheld⟩⟩
    · rw [hstatus] at hunknown
      cases hunknown
    · exact .inr ⟨hexpired e hlease.deadline, hrep, pending, rfl⟩
    · rw [hstatus] at hready
      cases hready
    · rw [hstatus] at hretryable
      cases hretryable

/-! ## Runs -/

/-- The table is sound, and every call knows how far its attempt has come. -/
structure Inv (services : Services) (c : Config (Store ι) ι Phase) : Prop where
  sound : Sound services c.store
  phases : ∀ i, PhaseSound services c.store i (c.calls i)

/-- Nothing is done in the attempt of another call. -/
theorem Change.course_of_ne {i j : ι} {s s' : Store ι} (hs : Sound services s)
    (h : Change services i s s') (hj : j ≠ i) {d a : String} {e : DateTime}
    (hclaimed : .claimed j d a e ∈ s.acts) : courseOf s'.acts a = courseOf s.acts a := by
  have hother : ∀ {d' b : String} {reached : Reached},
      ReachedBy i d' b (courseOf s.acts b) reached → b ≠ a := by
    rintro d' b reached hreached rfl
    obtain ⟨e', hclaimed'⟩ := Sound.claimed_mem hreached
    exact hj (hs.holder_eq hclaimed hclaimed').1
  cases h with
  | staged _ _ _ _ => exact courseOf_append_ne nofun
  | lapsed _ _ _ _ _ => exact courseOf_append_ne nofun
  | delivered _ _ _ _ | mirrorAdded _ _ | mirrorReplaced _ _ _ _ => rfl
  | claimed _ _ _ _ hfresh _ =>
      refine courseOf_append_ne fun heq => hfresh _ hclaimed ?_
      exact heq.symm
  | recorded _ _ _ hreached _ _ =>
      exact courseOf_append_ne fun heq => hother hreached (Option.some.inj heq)
  | sent hreached => exact courseOf_append_ne fun heq => hother hreached (Option.some.inj heq)
  | posted hreached => exact courseOf_append_ne fun heq => hother hreached (Option.some.inj heq)

variable [DecidableEq ι]

theorem Inv.step {c c' : Config (Store ι) ι Phase} {i : ι} {event : Event}
    (hc : Inv services c) (h : (deliveryMachine services).next c i event = some c') :
    Steps services i c.store c'.store ∧ Continues c.store c'.store ∧ Inv services c' := by
  obtain ⟨s, phase, hstep, rfl⟩ := Machine.next_eq_some.mp h
  obtain ⟨hsteps, hphase⟩ := deliveryStep_steps hc.sound (hc.phases i) hstep
  have hnext : Sound services s ∧ Continues c.store s := by
    rcases hsteps with rfl | hchange
    · exact ⟨hc.sound, .refl _⟩
    · exact hchange.sound hc.sound
  refine ⟨hsteps, hnext.2, hnext.1, fun j => ?_⟩
  dsimp only
  by_cases hj : j = i
  · subst hj
    rw [Function.update_self]
    exact hphase
  · rw [Function.update_of_ne hj]
    refine (hc.phases j).mono hnext.2 fun d a e hclaimed => ?_
    rcases hsteps with rfl | hchange
    · rfl
    · exact hchange.course_of_ne hc.sound hj hclaimed

/-- No delivery, and no call. -/
def emptyConfig (ι : Type*) : Config (Store ι) ι Phase := ⟨⟨[], []⟩, fun _ => .idle⟩

omit [DecidableEq ι] in
theorem Inv.empty : Inv services (emptyConfig ι) where
  sound := ⟨List.nodup_nil, nofun, nofun, nofun, nofun, nofun, .nil⟩
  phases := fun _ => trivial

/-- **A staged message is sent once**, in every interleaving of any number of calls with
crashes, lost replies and expired leases.  In every state the table is sound: the course of an
attempt is that of its holder, another attempt is claimed and calls the transport only after
the ones before it were recorded as unattempted, and a request is made at most once for each
delivery.  An unexpired lease has one holder, and whoever finds it expired leaves the delivery
with an unknown outcome.  Later states keep the staged texts, and every delivery that is
delivered or of unknown outcome.  A step is a change: only the holder of the attempt that a row
stands in records an outcome, and only a transported delivery becomes delivered. -/
theorem sent_once {t u : List (ι × Event)} {c c' : Config (Store ι) ι Phase}
    (ht : (deliveryMachine services).run (emptyConfig ι) t = some c)
    (hu : (deliveryMachine services).run c u = some c') :
    Sound services c.store ∧
      (∀ i j d a b, Holds c.store.acts i d a → Holds c.store.acts j d b → i = j ∧ a = b) ∧
      (∀ row ∈ c.store.rows, row.deliveryTarget = didcommV2 → row.status = .transporting →
        ∀ holderDid found clock attemptId rows outcome,
          claimTransport services row.organizationId row.transactionId holderDid found clock
            attemptId c.store.rows = .ok (rows, outcome) →
          ∃ j a e, .claimed j row.id a e ∈ c.store.acts ∧
            FindsLease row e clock c.store.rows rows outcome) ∧
      Continues c.store c'.store ∧
      ∀ i event c₁, (deliveryMachine services).next c i event = some c₁ →
        Steps services i c.store c₁.store := by
  have hc : Inv services c :=
    Machine.run_induct (fun _ _ _ _ hc h => (hc.step h).2.2) Inv.empty ht
  have hcontinues : Inv services c' ∧ Continues c.store c'.store :=
    Machine.run_induct_rel (P := Inv services) (R := fun c c' => Continues c.store c'.store)
      (fun c => .refl c.store) (fun _ _ _ h h' => h.trans h')
      (fun c i event c' hc h => ⟨(hc.step h).2.2, (hc.step h).2.1⟩) hc hu
  exact ⟨hc.sound, fun i j d a b => hc.sound.holds_unique,
    fun row hrow htarget hstatus _ _ _ _ _ _ h => hc.sound.findsLease hrow htarget hstatus h,
    hcontinues.2, fun i event c₁ h => (hc.step h).1⟩

namespace Example

def minute : String := "1970-01-01T00:01:00+00:00"

/-- The names and the moments of one delivery, with other names and moments written plainly. -/
def plainServices : Services where
  uuidV5 := fun name =>
    if name = "C:didcomm_v2:-" then "005870e6-4e43-5562-a7ee-2cf3ea4c8dce" else name
  containsPrivateKey := fun _ => false
  retiredOpenBadge := fun _ _ => false
  leaseText := fun t => if t = seconds 60 then minute else toString t
  readLease := fun text =>
    if text = minute then some (seconds 60) else (Json.Value.number text).asInteger
  readLease_leaseText := by
    intro t _
    by_cases ht : t = seconds 60
    · simp [ht]
    · have hread := Json.Value.asInteger_ofInt t
      have hne : toString t ≠ minute := by
        intro heq
        have hnone : (Json.Value.number minute).asInteger = none := by decide +kernel
        rw [Json.Value.ofInt, heq, hnone] at hread
        cases hread
      rw [if_neg ht, if_neg hne]
      exact hread

def transaction (status : CredentialTransactionStatus) : CredentialTransaction where
  id := "T"
  organizationId := "O"
  credentialTemplateId := "template"
  revocationProfileId := none
  renewalOfCredentialId := none
  applicantId := none
  applicationId := none
  subjectDid := none
  status := status
  claims := []
  credentialType := none
  deliveryMode := "wallet_only"
  reservedCredentialId := some "C"

def credential : IssuedCredential where
  id := "C"
  transactionId := "T"
  organizationId := "O"
  credentialTemplateId := "template"
  applicantId := none
  subjectDid := none
  issuerDid := "did:web:issuer.example"
  revocationProfileId := none
  renewedFromCredentialId := none
  statusListEntries := []
  credential := "jwt"
  credentialHash := "hash"
  issuedAt := 0
  expiresAt := seconds 86400

def holder : String := "did:key:zHolder"

def endpoint : String := "https://holder.example/didcomm"

def attempt (digit : Char) : String :=
  "00000000-0000-4000-8000-00000000000" ++ String.ofList [digit]

def claimEvent (digit : Char) : Event :=
  .claim .answered (.ok (some (transaction .issued, credential))) (.still 0) (attempt digit)

/-- The first call stages the message, and cannot load its trust configuration.  The second
sends it, and the third comes while it is being sent. -/
def deliveries : List (Fin 3 × Event) :=
  [(0, .request (transaction .pending) holder), (0, claimEvent '0'),
    (0, .prepare (.ok ⟨transaction .signing, credential, endpoint, "urn:uuid:m", "jwe"⟩)),
    (0, .stage .answered true true (.still 0)), (0, claimEvent '1'), (0, .send),
    (0, .unsent true), (0, .mark .answered 0),
    (1, .request (transaction .issued) holder), (1, claimEvent '2'),
    (1, .validate (.ok endpoint)), (1, .send), (1, .post),
    (2, .request (transaction .issued) holder), (2, claimEvent '3'),
    (1, .response (some 202)), (1, .mark .answered 0), (1, .checkTransported .answered),
    (1, .upsert .answered (.still 0))]

/-- The deliveries and how the calls have ended. -/
structure Observation where
  statuses : List DeliveryStatus
  posts : Nat
  answers : List (Option (DeliveryError ⊕ Bool))
  deriving DecidableEq

def observe (c : Config (Store (Fin 3)) (Fin 3) Phase) : Observation where
  statuses := c.store.rows.map (·.status)
  posts := (c.store.acts.filter fun act => match act with
    | .posted _ _ _ _ _ => true
    | _ => false).length
  answers := ([0, 1, 2] : List (Fin 3)).map fun i => match c.calls i with
    | .ended (.ok receipt) => some (.inr receipt.delivered)
    | .ended (.error error) => some (.inl error)
    | _ => none

theorem sent_once_by_three_calls :
    ∃ c c', (deliveryMachine plainServices).run (emptyConfig (Fin 3)) (deliveries.take 15) = some c ∧
      (deliveryMachine plainServices).run c (deliveries.drop 15) = some c' ∧
      Sound plainServices c.store ∧ Continues c.store c'.store ∧
      observe c = ⟨[.transporting], 1, [some (.inl (.prerequisite .tlsUnavailable)), none,
        some (.inl .concurrentDelivery)]⟩ ∧
      observe c' = ⟨[.delivered], 1, [some (.inl (.prerequisite .tlsUnavailable)),
        some (.inr true), some (.inl .concurrentDelivery)]⟩ := by
  have hrun : ((deliveryMachine plainServices).run (emptyConfig (Fin 3)) (deliveries.take 15)).bind
      (fun c => ((deliveryMachine plainServices).run c (deliveries.drop 15)).map fun c' =>
        (observe c, observe c')) =
      some (⟨[.transporting], 1, [some (.inl (.prerequisite .tlsUnavailable)), none,
          some (.inl .concurrentDelivery)]⟩,
        ⟨[.delivered], 1, [some (.inl (.prerequisite .tlsUnavailable)), some (.inr true),
          some (.inl .concurrentDelivery)]⟩) := by
    decide +kernel
  obtain ⟨c, hc, hobserved⟩ := Option.bind_eq_some_iff.mp hrun
  obtain ⟨c', hc', heq⟩ := Option.map_eq_some_iff.mp hobserved
  rw [Prod.mk.injEq] at heq
  obtain ⟨hsound, -, -, hcontinues, -⟩ := sent_once hc hc'
  exact ⟨c, c', hc, hc', hsound, hcontinues, heq.1, heq.2⟩

end Example

end Marty.Issuance.Didcomm
