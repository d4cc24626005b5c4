import Marty.Lib.Log
import Marty.Verification.SessionStore

/-!
# What the calls do to the sessions

The texts in the store are those that the service wrote, so that a read never rewrites one.  A
swap that succeeds has found the record that the call had read, and whatever the call worked
out from it still stands.

## Main definitions

* `claimsOf`, `decisionsOf` — what the acts say of a session.
* `RecordSound`, `CallSound`, `Sound` — what holds of a record, of a call and of the system.
* `Warranted` — what holds when an act is done.
* `Change` — what one step does to the store.

## Main results

* `sound_quiet`, `sound_write` — the steps that write no record, and those that write one.
* `RecordSound.claim`, `RecordSound.expire`, `RecordSound.decide` — the records after a write.
-/

namespace Marty.Verification

open Lib VerificationSession

/-! ## Scripts -/

namespace Redis

variable {r r' : Redis} {id : String} {expected replacement : VerificationSession} {b : Bool}

/-- **A swap that keeps the time to live** finds the record that it expects, or does nothing. -/
theorem casKeepTtl_cases (hdeadline : ∀ e, r.sessions id = some e → e.deadline.isSome)
    (h : r.casKeepTtl id expected replacement = some (r', b)) :
    (b = false ∧ r' = r) ∨ (b = true ∧ ∃ d, r.sessions id = some ⟨expected, some d⟩ ∧
      r.millis ≤ d ∧ r' = { r with sessions := r.sessions.set id replacement (some d) }) := by
  unfold casKeepTtl at h
  split at h
  case h_1 =>
      cases h
      exact .inl ⟨rfl, rfl⟩
  case h_2 entry hentry =>
      obtain ⟨hstored, halive⟩ := Keyspace.entry_eq_some.mp hentry
      split at h
      case isTrue =>
          cases h
          exact .inl ⟨rfl, rfl⟩
      case isFalse heq =>
          obtain ⟨value, deadline⟩ := entry
          obtain ⟨d, rfl⟩ := Option.isSome_iff_exists.mp (hdeadline _ hstored)
          obtain rfl : value = expected := not_not.mp heq
          have hle : r.millis ≤ d := by simpa [Entry.isAlive] using halive
          have hnonneg : 0 ≤ d - r.millis := by omega
          have hsum : r.millis + (d - r.millis) = d := by omega
          simp only [Keyspace.pttl, if_pos hnonneg, hsum, Option.ite_none_left_eq_some,
            Option.some.injEq, Prod.mk.injEq] at h
          obtain ⟨-, rfl, rfl⟩ := h
          exact .inr ⟨rfl, d, hstored, hle, rfl⟩

/-- **A swap that resets the time to live** finds the record that it expects, or does nothing. -/
theorem casResetTtl_cases (h : r.casResetTtl id expected replacement = (r', b)) :
    (b = false ∧ r' = r) ∨ (b = true ∧ ∃ d, r.sessions id = some ⟨expected, d⟩ ∧
      (Entry.mk expected d).isAlive r.millis = true ∧ r' = { r with sessions := r.sessions.set id replacement r.fullTtl }) := by
  unfold casResetTtl at h
  split at h
  case h_1 =>
      cases h
      exact .inl ⟨rfl, rfl⟩
  case h_2 entry hentry =>
      obtain ⟨hstored, halive⟩ := Keyspace.entry_eq_some.mp hentry
      split at h
      case isTrue =>
          cases h
          exact .inl ⟨rfl, rfl⟩
      case isFalse heq =>
          cases h
          obtain rfl : entry.value = expected := not_not.mp heq
          exact .inr ⟨rfl, entry.deadline, hstored, halive, rfl⟩

end Redis

/-! ## Records as they are stored -/

/-- A record that its text reads back as. -/
structure Canonical (P : Platform) (r : VerificationSession) : Prop where
  decoded : decode P r = r
  bare : r.vpToken = none

variable {P : Platform} {r : VerificationSession} {digest token : String} {now : Utc}

theorem encode_of_none (h : r.vpToken = none) : encode r = r := by
  cases r
  cases h
  rfl

theorem clearCallback_of_none (h : r.callbackUrl = none) : { r with callbackUrl := none } = r := by
  cases r
  cases h
  rfl

theorem Canonical.encode (h : Canonical P r) : encode r = r := encode_of_none h.bare

/-- A pending record without a callback and without a presentation. -/
theorem canonical_of_pending (hstatus : r.status = .pending) (hcallback : r.callbackUrl = none)
    (hbare : r.vpToken = none) : Canonical P r := by
  refine ⟨?_, hbare⟩
  rw [decode, clearCallback_of_none hcallback, minimizeTerminal_of_pending hstatus]

theorem canonical_minimizeTerminal (h : r.status ≠ .pending) : Canonical P (minimizeTerminal P r) := by
  refine ⟨?_, vpToken_minimizeTerminal P r h⟩
  rw [decode, clearCallback_of_none (callbackUrl_minimizeTerminal P r h), minimizeTerminal_idempotent]

/-- A pending record that reads back as itself has no callback. -/
theorem Canonical.callbackUrl (h : Canonical P r) (hstatus : r.status = .pending) :
    r.callbackUrl = none := by
  have hmin : decode P r = { r with callbackUrl := none } := minimizeTerminal_of_pending hstatus
  rw [← h.decoded, hmin]

theorem Canonical.claimRecord (h : Canonical P r) (hstatus : r.status = .pending) :
    Canonical P (claimRecord r digest token now) :=
  canonical_of_pending hstatus (h.callbackUrl hstatus) h.bare

theorem canonical_expireSession : Canonical P (expireSession P r now) :=
  canonical_minimizeTerminal (by simp)

@[simp] theorem status_expireSession : (expireSession P r now).status = .expired := by
  simp [expireSession]

@[simp] theorem organizationId_expireSession :
    (expireSession P r now).organizationId = r.organizationId := by
  simp [expireSession]

@[simp] theorem expiresAt_expireSession : (expireSession P r now).expiresAt = r.expiresAt := by
  simp [expireSession]

@[simp] theorem result_expireSession : (expireSession P r now).result = r.result := by
  simp [expireSession]

@[simp] theorem decision_expireSession : (expireSession P r now).decision = r.decision := by
  simp [expireSession]

theorem vpTokenSha256_expireSession (h : r.vpToken = none) :
    (expireSession P r now).vpTokenSha256 = r.vpTokenSha256 := by
  rw [expireSession, vpTokenSha256_minimizeTerminal]
  exact h

@[simp] theorem status_terminalRecord : (terminalRecord P r digest).status = r.status := by
  simp [terminalRecord]

@[simp] theorem organizationId_terminalRecord :
    (terminalRecord P r digest).organizationId = r.organizationId := by
  simp [terminalRecord]

@[simp] theorem vpTokenSha256_terminalRecord :
    (terminalRecord P r digest).vpTokenSha256 = some digest :=
  vpTokenSha256_minimizeTerminal_some P _ rfl

theorem canonical_terminalRecord (h : r.status ≠ .pending) : Canonical P (terminalRecord P r digest) :=
  canonical_minimizeTerminal h

/-! ## What the answers say of a record -/

/-- A submission that may claim a session finds it pending, unbound and not expired, or bound
to its own digest after the lease has ended. -/
theorem submissionState_eq_none (h : submissionState r digest now = none) :
    r.status = .pending ∧
      ((r.vpTokenSha256 = none ∧ now ≤ r.expiresAt) ∨ r.vpTokenSha256 = some digest) ∧
      (r.processingToken.isSome → ∀ at' ∈ r.processingExpiresAt, at' ≤ now) := by
  unfold submissionState at h
  split at h
  case isTrue => cases h
  case isFalse =>
      split at h
      case isTrue => cases h
      case isFalse hpending =>
          split at h
          case isTrue => cases h
          case isFalse hbound =>
              split at h
              case isTrue => cases h
              case isFalse hbusy =>
                  refine ⟨not_not.mp hpending, ?_, ?_⟩
                  · split at h
                    case isTrue hsame => exact .inr hsame
                    case isFalse hne =>
                        left
                        have hnone : r.vpTokenSha256 = none := by
                          cases hd : r.vpTokenSha256 with
                          | none => rfl
                          | some existing =>
                              rw [hd] at hbound hne
                              simp_all
                        refine ⟨hnone, ?_⟩
                        by_contra hlate
                        simp [isExpiredAt, not_le.mp hlate] at h
                  · intro htoken at' hat'
                    by_contra hlate
                    apply hbusy
                    refine ⟨htoken, ?_⟩
                    rw [Option.mem_def] at hat'
                    simpa [hat'] using hlate

/-- A session that is to be expired has expired, or is bound to nothing. -/
theorem submissionState_eq_expired (h : submissionState r digest now = some .expired) :
    r.status = .expired ∨ (r.status = .pending ∧ r.vpTokenSha256 = none) := by
  unfold submissionState at h
  split at h
  case isTrue hexpired => exact .inl hexpired
  case isFalse =>
      split at h
      case isTrue =>
          split at h <;> cases h
      case isFalse hpending =>
          split at h
          case isTrue => cases h
          case isFalse hbound =>
              split at h
              case isTrue => cases h
              case isFalse =>
                  split at h
                  case isTrue => cases h
                  case isFalse hne =>
                      refine .inr ⟨not_not.mp hpending, ?_⟩
                      cases hd : r.vpTokenSha256 with
                      | none => rfl
                      | some existing =>
                          rw [hd] at hbound hne
                          simp_all

/-- Another digest than the one that a session is bound to is refused. -/
theorem submissionState_conflict {bound : String} (hstatus : r.status ≠ .expired)
    (hbound : r.vpTokenSha256 = some bound) (hne : bound ≠ digest) :
    submissionState r digest now = some .conflict := by
  simp [submissionState, hstatus, hbound, hne]

/-- A session that the digest is not bound to answers conflict, unless it has expired. -/
theorem submissionState_other {outcome : SubmissionOutcome}
    (h : submissionState r digest now = some outcome) (hexpired : outcome ≠ .expired)
    (hother : r.vpTokenSha256 ≠ some digest)
    (hleased : r.status = .pending → r.processingToken.isSome → r.vpTokenSha256.isSome) :
    outcome = .conflict := by
  cases hd : r.vpTokenSha256 with
  | some bound =>
      have hne : bound ≠ digest := fun heq => hother (heq ▸ hd)
      by_cases hstatus : r.status = .expired
      · simp only [submissionState, if_pos hstatus, Option.some.injEq] at h
        exact absurd h.symm hexpired
      · rw [submissionState_conflict hstatus hd hne] at h
        exact (Option.some.inj h).symm
  | none =>
      have hidle : r.status = .pending → r.processingToken.isSome = false := by
        intro hpending
        by_contra htoken
        have hsome := hleased hpending (Bool.of_not_eq_false htoken)
        rw [hd] at hsome
        cases hsome
      unfold submissionState at h
      split at h
      case isTrue => exact absurd (Option.some.inj h).symm hexpired
      case isFalse =>
          split at h
          case isTrue => simpa [hd] using h.symm
          case isFalse hpending =>
              simp only [hd, hidle (not_not.mp hpending), Option.any_none, Bool.false_eq_true,
                if_false, false_and, Option.ite_none_right_eq_some,
                Option.some.injEq] at h
              exact absurd h.2.symm hexpired

/-- An answer of duplicate is about the digest that the session is bound to. -/
theorem submissionState_duplicate (h : submissionState r digest now = some .duplicate) :
    r.status ≠ .pending ∧ r.status ≠ .expired ∧ r.vpTokenSha256 = some digest := by
  unfold submissionState at h
  split at h
  case isTrue => cases h
  case isFalse hexpired =>
      split at h
      case isTrue hdecided =>
          split at h
          case isTrue hsame => exact ⟨hdecided, hexpired, hsame⟩
          case isFalse => cases h
      case isFalse =>
          repeat' split at h
          all_goals cases h

theorem submissionState_ne_committed : submissionState r digest now ≠ some .committed := by
  unfold submissionState
  repeat' split
  all_goals simp

theorem finalizeState_eq_none (h : finalizeState r digest token = none) :
    r.status = .pending ∧ r.vpTokenSha256 = some digest ∧ r.processingToken = some token := by
  unfold finalizeState at h
  split at h
  case isTrue => cases h
  case isFalse hpending =>
      split at h
      case isTrue => cases h
      case isFalse hbound =>
          split at h
          case isTrue => cases h
          case isFalse htoken => exact ⟨not_not.mp hpending, not_not.mp hbound, not_not.mp htoken⟩

theorem finalizeState_conflict {bound : String} (hbound : r.vpTokenSha256 = some bound)
    (hne : bound ≠ digest) : finalizeState r digest token = some .conflict := by
  simp [finalizeState, hbound, hne]

/-- A session that the digest is not bound to answers conflict. -/
theorem finalizeState_other {outcome : SubmissionOutcome}
    (h : finalizeState r digest token = some outcome) (hother : r.vpTokenSha256 ≠ some digest) :
    outcome = .conflict := by
  simpa [finalizeState, hother, eq_comm] using h

theorem finalizeState_duplicate (h : finalizeState r digest token = some .duplicate) :
    r.status ≠ .pending ∧ r.vpTokenSha256 = some digest := by
  unfold finalizeState at h
  split at h
  case isTrue hdecided =>
      split at h
      case isTrue hsame => exact ⟨hdecided, hsame⟩
      case isFalse => cases h
  case isFalse =>
      repeat' split at h
      all_goals cases h

theorem finalizeState_ne_committed : finalizeState r digest token ≠ some .committed := by
  unfold finalizeState
  repeat' split
  all_goals simp

/-- An accepted candidate is the session that was claimed, and it is decided. -/
theorem validateTerminalCandidate_ok {candidate : VerificationSession}
    (h : validateTerminalCandidate r candidate = .ok ()) :
    candidate.sessionId = r.sessionId ∧ candidate.organizationId = r.organizationId ∧
      candidate.expiresAt = r.expiresAt ∧ candidate.status ≠ .pending := by
  unfold validateTerminalCandidate at h
  split at h
  case isTrue => cases h
  case isFalse himmutable =>
      split at h
      case isTrue => cases h
      case isFalse hdecided =>
          obtain ⟨hid, -, -, horg, -, -, -, -, -, hexpires⟩ := not_not.mp himmutable
          exact ⟨hid.symm, horg.symm, hexpires.symm, fun hpending => hdecided (.inl hpending)⟩

/-! ## What the acts say -/

variable {ι : Type*} {acts new : List (Act ι)} {id : String}

/-- The claims of a session, in their order. -/
def claimsOf (acts : List (Act ι)) (id : String) : List (Claim ι) :=
  acts.filterMap fun act => match act with
    | .claimed id' claim => if id' = id then some claim else none
    | _ => none

/-- The decisions of a session. -/
def decisionsOf (acts : List (Act ι)) (id : String) : List (Decision ι) :=
  acts.filterMap fun act => match act with
    | .decided id' decision _ => if id' = id then some decision else none
    | _ => none

/-- The session that an act changes the record of. -/
def Act.subject : Act ι → Option String
  | .saved session _ => some session.sessionId
  | .claimed id _ | .decided id _ _ => some id
  | .opened _ | .evaluated .. | .answered .. => none

@[simp] theorem claimsOf_append : claimsOf (acts ++ new) id = claimsOf acts id ++ claimsOf new id := by
  simp [claimsOf]

@[simp] theorem decisionsOf_append :
    decisionsOf (acts ++ new) id = decisionsOf acts id ++ decisionsOf new id := by
  simp [decisionsOf]

theorem mem_decisionsOf {decision : Decision ι} :
    decision ∈ decisionsOf acts id ↔ ∃ clock, .decided id decision clock ∈ acts := by
  rw [decisionsOf, List.mem_filterMap]
  constructor
  · rintro ⟨act, hact, h⟩
    cases act with
    | decided id' decision' clock =>
        simp only [Option.ite_none_right_eq_some, Option.some.injEq] at h
        obtain ⟨rfl, rfl⟩ := h
        exact ⟨clock, hact⟩
    | opened | saved | claimed | evaluated | answered => cases h
  · rintro ⟨clock, hact⟩
    exact ⟨_, hact, by simp⟩

theorem claimsOf_eq_nil (h : ∀ act ∈ acts, act.subject ≠ some id) : claimsOf acts id = [] := by
  rw [claimsOf, List.filterMap_eq_nil_iff]
  intro act hact
  have hne := h act hact
  cases act <;> simp_all [Act.subject]

theorem decisionsOf_eq_nil (h : ∀ act ∈ acts, act.subject ≠ some id) : decisionsOf acts id = [] := by
  rw [decisionsOf, List.filterMap_eq_nil_iff]
  intro act hact
  have hne := h act hact
  cases act <;> simp_all [Act.subject]

/-! ## Soundness -/

/-- **What holds of a record**: it is pending and under its last claim, or it has expired without
one, or it is what the one decision has stored. -/
structure RecordSound (P : Platform) (acts : List (Act ι)) (id : String)
    (e : Entry VerificationSession) : Prop where
  named : e.value.sessionId = id
  canonical : Canonical P e.value
  deadline : e.deadline.isSome
  opened : .opened id ∈ acts
  bound : e.value.vpTokenSha256 = (claimsOf acts id).getLast?.map (·.digest)
  one_digest : ∀ claim ∈ claimsOf acts id, e.value.vpTokenSha256 = some claim.digest
  pending : e.value.status = .pending → decisionsOf acts id = [] ∧
    e.value.processingToken = (claimsOf acts id).getLast?.map (·.token) ∧
    e.value.processingExpiresAt =
      (claimsOf acts id).getLast?.map (·.now + utcSeconds submissionLeaseSeconds)
  expired : e.value.status = .expired → claimsOf acts id = [] ∧ decisionsOf acts id = []
  decided : e.value.status ≠ .pending → e.value.status ≠ .expired →
    ∃ decision, decisionsOf acts id = [decision] ∧ e.value = decision.terminal ∧
      e.value.vpTokenSha256 = some decision.digest

/-- **What a record that was read says for good**: the claim that it is bound by and the decision
that it holds are among the acts. -/
structure Seen (P : Platform) (acts : List (Act ι)) (id : String) (raw : VerificationSession) :
    Prop where
  canonical : Canonical P raw
  claimed : ∀ digest, raw.vpTokenSha256 = some digest →
    ∃ claim ∈ claimsOf acts id, claim.digest = digest
  leased : raw.status = .pending → raw.processingToken.isSome → raw.vpTokenSha256.isSome
  decided : raw.status ≠ .pending → raw.status ≠ .expired →
    ∃ decision ∈ decisionsOf acts id, raw = decision.terminal ∧
      raw.vpTokenSha256 = some decision.digest

/-- The call has evaluated the candidate. -/
def Evaluated (i : ι) (acts : List (Act ι)) (sub : Submission) (token : String)
    (candidate : VerificationSession) : Prop :=
  ∃ session, .evaluated i sub token session candidate ∈ acts

/-- What a claim has worked out from the record that it has read. -/
inductive ClaimOf (P : Platform) (sub : Submission) (raw : VerificationSession) (now : Utc) :
    VerificationSession → SubmissionTransition → Prop
  | expired (h : submissionState raw (sub.digest P) now = some .expired) :
      ClaimOf P sub raw now (expireSession P raw now)
        ⟨.expired, some (expireSession P raw now), none⟩
  | claimed (token : String) (h : submissionState raw (sub.digest P) now = none) :
      ClaimOf P sub raw now (claimRecord raw (sub.digest P) token now)
        ⟨.claimed, some (claimRecord raw (sub.digest P) token now), some token⟩

/-- **What holds of a call**, wherever it stands. -/
def CallSound (P : Platform) (i : ι) (s : Store ι) : Call → Prop
  | .saving session => session.status = .pending ∧ Canonical P session ∧
      session.vpTokenSha256 = none ∧ session.processingToken = none ∧
      session.processingExpiresAt = none ∧ s.redis.sessions session.sessionId = none ∧
      .opened session.sessionId ∈ s.acts
  | .rewriting .. => False
  | .claimTiming sub _ raw => Seen P s.acts sub.sessionId raw
  | .claimSwapping sub _ raw replacement reply =>
      Canonical P raw ∧ ∃ now, now ≤ s.redis.clock ∧ ClaimOf P sub raw now replacement reply
  | .evaluating sub token _ => ∃ claim ∈ claimsOf s.acts sub.sessionId,
      claim.caller = i ∧ claim.digest = sub.digest P ∧ claim.token = token
  | .finalizing sub token candidate _ => Evaluated i s.acts sub token candidate
  | .finalizeSwapping sub token candidate _ raw terminal =>
      Evaluated i s.acts sub token candidate ∧ Canonical P raw ∧
        finalizeState raw (sub.digest P) token = none ∧
        validateTerminalCandidate raw candidate = .ok () ∧
        terminal = terminalRecord P candidate (sub.digest P)
  | .idle | .reading .. | .projecting .. | .resolving .. | .claiming .. | .ended => True

/-- **What holds when an act is done**, with the acts before it. -/
def Warranted (P : Platform) (prior : List (Act ι)) : Act ι → Prop
  | .claimed id claim => decisionsOf prior id = [] ∧
      match (claimsOf prior id).getLast? with
      | none => claim.now ≤ claim.expiresAt
      | some last => claim.digest = last.digest ∧
          last.now + utcSeconds submissionLeaseSeconds ≤ claim.now
  | .evaluated i sub token session candidate =>
      (∃ claim ∈ claimsOf prior sub.sessionId,
        claim.caller = i ∧ claim.digest = sub.digest P ∧ claim.token = token) ∧
      ∃ evaluation inspection at', candidate = conclude session evaluation inspection at'
  | .decided id decision _ => decisionsOf prior id = [] ∧
      (∃ last, (claimsOf prior id).getLast? = some last ∧ last.token = decision.token ∧
        last.digest = decision.digest) ∧
      ∃ sub, sub.sessionId = id ∧ decision.digest = sub.digest P ∧
        Evaluated decision.caller prior sub decision.token decision.candidate ∧
        decision.terminal = terminalRecord P decision.candidate decision.digest
  | .answered _ id digest found reply =>
      (reply.outcome = .duplicate → ∃ decision, decision ∈ decisionsOf prior id ∧
        decision.digest = digest ∧ reply.session = some decision.terminal) ∧
      reply.outcome ≠ .committed ∧
      ∀ claim ∈ claimsOf prior id, claim.digest ≠ digest →
        match found with
        | some _ => reply.outcome = .conflict
        | none => reply.outcome = .missing
  | .opened _ | .saved .. => True

/-- **Soundness** of the whole system. -/
structure Sound (P : Platform) (c : Config (Store ι) ι Call) : Prop where
  records : ∀ id e, c.store.redis.sessions id = some e → RecordSound P c.store.acts id e
  unknown : ∀ id, c.store.redis.sessions id = none → ∀ act ∈ c.store.acts, act.subject ≠ some id
  calls : ∀ i, CallSound P i c.store (c.calls i)
  unique : ∀ i j a b, c.calls i = .saving a → c.calls j = .saving b → a.sessionId = b.sessionId → i = j
  warranted : Justified (Warranted P) c.store.acts

/-- What a later record keeps of an earlier one. -/
structure RecordKeeps (old new : VerificationSession) : Prop where
  organizationId : new.organizationId = old.organizationId
  expiresAt : new.expiresAt = old.expiresAt
  bound : ∀ digest, old.vpTokenSha256 = some digest → new.vpTokenSha256 = some digest
  settled : old.status ≠ .pending →
    new.status = old.status ∧ new.result = old.result ∧ new.decision = old.decision

theorem RecordKeeps.refl (r : VerificationSession) : RecordKeeps r r :=
  ⟨rfl, rfl, fun _ h => h, fun _ => ⟨rfl, rfl, rfl⟩⟩

theorem RecordKeeps.trans {a b c : VerificationSession} (h : RecordKeeps a b) (h' : RecordKeeps b c) :
    RecordKeeps a c := by
  refine ⟨h'.organizationId.trans h.organizationId, h'.expiresAt.trans h.expiresAt,
    fun digest hd => h'.bound digest (h.bound digest hd), fun hsettled => ?_⟩
  obtain ⟨hstatus, hresult, hdecision⟩ := h.settled hsettled
  obtain ⟨hstatus', hresult', hdecision'⟩ := h'.settled (hstatus ▸ hsettled)
  exact ⟨hstatus'.trans hstatus, hresult'.trans hresult, hdecision'.trans hdecision⟩

/-- **What one step does to the store**, when a call that stands at `l` meets the event. -/
inductive Change (e : Event) (l : Call) (s : Store ι) : Store ι → Prop
  | tick (clock : Utc) (he : e = .tick clock) (h : s.redis.clock ≤ clock) :
      Change e l s ⟨{ s.redis with clock := clock }, s.acts⟩
  | quiet (new : List (Act ι)) (h : ∀ act ∈ new, act.subject = none) :
      Change e l s (s.record s.redis new)
  | saved (session : VerificationSession) (he : e = .command) (hl : l = .saving session)
      (hfresh : s.redis.sessions session.sessionId = none) (hpending : session.status = .pending) :
      Change e l s (s.record (s.redis.save session) [.saved session s.redis.clock])
  | kept (id : String) (old replacement : VerificationSession) (d : Int) (new : List (Act ι))
      (hold : s.redis.sessions id = some ⟨old, some d⟩) (hkeeps : RecordKeeps old replacement)
      (hnew : ∀ act ∈ new, act.subject = none ∨ ∃ claim, act = .claimed id claim) :
      Change e l s (s.record
        { s.redis with sessions := s.redis.sessions.set id replacement (some d) } new)
  | decided (id : String) (old : VerificationSession) (d : Option Int) (decision : Decision ι)
      (hold : s.redis.sessions id = some ⟨old, d⟩)
      (halive : (Entry.mk old d).isAlive s.redis.millis = true) (hpending : old.status = .pending)
      (hkeeps : RecordKeeps old decision.terminal) (hdecided : decision.terminal.status ≠ .pending) :
      Change e l s (s.record
        { s.redis with sessions := s.redis.sessions.set id decision.terminal s.redis.fullTtl }
        [.decided id decision s.redis.clock])

/-! ## One step -/

section Steps

variable {s s' : Store ι} {c : Config (Store ι) ι Call} {i : ι} {e : Event} {l l' : Call}

theorem RecordSound.mono {e : Entry VerificationSession} (h : RecordSound P acts id e)
    (hnew : ∀ act ∈ new, act.subject ≠ some id) : RecordSound P (acts ++ new) id e := by
  have hclaims : claimsOf (acts ++ new) id = claimsOf acts id := by
    rw [claimsOf_append, claimsOf_eq_nil hnew, List.append_nil]
  have hdecisions : decisionsOf (acts ++ new) id = decisionsOf acts id := by
    rw [decisionsOf_append, decisionsOf_eq_nil hnew, List.append_nil]
  constructor
  · exact h.named
  · exact h.canonical
  · exact h.deadline
  · exact List.mem_append_left _ h.opened
  · rw [hclaims]
    exact h.bound
  · rw [hclaims]
    exact h.one_digest
  · rw [hclaims, hdecisions]
    exact h.pending
  · rw [hclaims, hdecisions]
    exact h.expired
  · rw [hdecisions]
    exact h.decided

theorem Seen.mono (h : Seen P acts id r) : Seen P (acts ++ new) id r := by
  refine ⟨h.canonical, fun d hd => ?_, h.leased, fun hpending hexpired => ?_⟩
  · obtain ⟨claim, hclaim, hdigest⟩ := h.claimed d hd
    rw [claimsOf_append]
    exact ⟨claim, List.mem_append_left _ hclaim, hdigest⟩
  · obtain ⟨decision, hdecision, hrest⟩ := h.decided hpending hexpired
    rw [decisionsOf_append]
    exact ⟨decision, List.mem_append_left _ hdecision, hrest⟩

/-- A record that is stored can be read. -/
theorem RecordSound.seen {e : Entry VerificationSession} (h : RecordSound P acts id e) :
    Seen P acts id e.value := by
  refine ⟨h.canonical, fun d hd => ?_, fun hpending htoken => ?_, fun hpending hexpired => ?_⟩
  · rw [h.bound, Option.map_eq_some_iff] at hd
    obtain ⟨claim, hlast, hdigest⟩ := hd
    exact ⟨claim, List.mem_of_getLast? hlast, hdigest⟩
  · rw [(h.pending hpending).2.1] at htoken
    rw [h.bound]
    simpa using htoken
  · obtain ⟨decision, hdecision, hrest⟩ := h.decided hpending hexpired
    exact ⟨decision, by rw [hdecision]; exact List.mem_singleton_self _, hrest⟩

/-- What holds of a call still does when others act, as long as the session that it is to save
is not there yet. -/
theorem CallSound.mono (h : CallSound P i s l) (hclock : s.redis.clock ≤ s'.redis.clock)
    (hacts : s'.acts = s.acts ++ new)
    (hsaving : ∀ session, l = .saving session →
      s.redis.sessions session.sessionId = none → s'.redis.sessions session.sessionId = none) :
    CallSound P i s' l := by
  cases l with
  | saving session =>
      obtain ⟨hpending, hcanonical, hbound, htoken, hlease, hfresh, hopened⟩ := h
      refine ⟨hpending, hcanonical, hbound, htoken, hlease, hsaving session rfl hfresh, ?_⟩
      rw [hacts]
      exact List.mem_append_left _ hopened
  | claimTiming sub tries raw =>
      change Seen P s'.acts sub.sessionId raw
      rw [hacts]
      exact Seen.mono h
  | claimSwapping sub tries raw replacement reply =>
      obtain ⟨hcanonical, now, hnow, hclaim⟩ := h
      exact ⟨hcanonical, now, le_trans hnow hclock, hclaim⟩
  | evaluating sub token session =>
      obtain ⟨claim, hclaim, hrest⟩ := h
      refine ⟨claim, ?_, hrest⟩
      rw [hacts, claimsOf_append]
      exact List.mem_append_left _ hclaim
  | finalizing sub token candidate tries =>
      obtain ⟨session, hevaluated⟩ := h
      refine ⟨session, ?_⟩
      rw [hacts]
      exact List.mem_append_left _ hevaluated
  | finalizeSwapping sub token candidate tries raw terminal =>
      obtain ⟨⟨session, hevaluated⟩, hrest⟩ := h
      refine ⟨⟨session, ?_⟩, hrest⟩
      rw [hacts]
      exact List.mem_append_left _ hevaluated
  | rewriting | idle | reading | projecting | resolving | claiming | ended => exact h

/-- **A step that writes no record**, and whose acts are warranted. -/
theorem sound_quiet (hc : Sound P c) (hsubject : ∀ act ∈ new, act.subject = none)
    (hwarranted : Justified (Warranted P) (c.store.acts ++ new))
    (hcall : CallSound P i (c.store.record c.store.redis new) l')
    (hunique : ∀ a, l' = .saving a → ∀ j b, j ≠ i → c.calls j = .saving b →
      a.sessionId ≠ b.sessionId) [DecidableEq ι] :
    Sound P ⟨c.store.record c.store.redis new, Function.update c.calls i l'⟩ := by
  have hne (id : String) : ∀ act ∈ new, act.subject ≠ some id := by
    intro act hact
    rw [hsubject act hact]
    simp
  constructor
  · exact fun id e he => (hc.records id e he).mono (hne id)
  · intro id hid act hact
    rcases List.mem_append.mp hact with hact | hact
    · exact hc.unknown id hid act hact
    · exact hne id act hact
  · intro j
    change CallSound P j _ (Function.update c.calls i l' j)
    by_cases hj : j = i
    · subst hj
      simpa using hcall
    · rw [Function.update_of_ne hj]
      exact (hc.calls j).mono (le_refl _) rfl fun _ _ h => h
  · intro j k a b hj hk hid
    dsimp only at hj hk
    by_cases hji : j = i <;> by_cases hki : k = i
    · rw [hji, hki]
    · subst hji
      rw [Function.update_self] at hj
      rw [Function.update_of_ne hki] at hk
      exact absurd hid (hunique a hj k b hki hk)
    · subst hki
      rw [Function.update_self] at hk
      rw [Function.update_of_ne hji] at hj
      exact absurd hid.symm (hunique b hk j a hji hj)
    · rw [Function.update_of_ne hji] at hj
      rw [Function.update_of_ne hki] at hk
      exact hc.unique j k a b hj hk hid
  · exact hwarranted

/-- A quiet step without an act. -/
theorem sound_quiet_nil (hc : Sound P c) (hcall : CallSound P i (c.store.record c.store.redis []) l')
    (hsaving : ∀ a, l' ≠ .saving a) [DecidableEq ι] :
    Sound P ⟨c.store.record c.store.redis [], Function.update c.calls i l'⟩ ∧
      Change e l c.store (c.store.record c.store.redis []) :=
  ⟨sound_quiet hc (by simp) (by simpa using hc.warranted) hcall (fun a ha => absurd ha (hsaving a)),
    .quiet [] (by simp)⟩

/-- A step that does nothing but move on. -/
theorem sound_move (hc : Sound P c) (hcall : CallSound P i c.store l')
    (hsaving : ∀ a, l' ≠ .saving a) [DecidableEq ι] :
    Sound P ⟨c.store, Function.update c.calls i l'⟩ ∧ Change e l c.store c.store := by
  have hsame : c.store.record c.store.redis [] = c.store := by simp [Store.record]
  have hquiet := sound_quiet_nil (e := e) (l := l) hc (hsame.symm ▸ hcall) hsaving
  rwa [hsame] at hquiet

/-- A quiet step with one act. -/
theorem sound_act (hc : Sound P c) {act : Act ι} (hsubject : act.subject = none)
    (hwarranted : Warranted P c.store.acts act)
    (hcall : CallSound P i (c.store.record c.store.redis [act]) l')
    (hsaving : ∀ a, l' ≠ .saving a) [DecidableEq ι] :
    Sound P ⟨c.store.record c.store.redis [act], Function.update c.calls i l'⟩ ∧
      Change e l c.store (c.store.record c.store.redis [act]) :=
  ⟨sound_quiet hc (by simpa using hsubject) (hc.warranted.append hwarranted) hcall
    (fun a ha => absurd ha (hsaving a)), .quiet [act] (by simpa using hsubject)⟩

/-- **A step that writes one record**, and whose acts are about it. -/
theorem sound_write (hc : Sound P c) (redis : Redis) {e : Entry VerificationSession}
    (hredis : redis.sessions = Function.update c.store.redis.sessions id (some e))
    (hclock : redis.clock = c.store.redis.clock)
    (hsubject : ∀ act ∈ new, act.subject = none ∨ act.subject = some id)
    (hrecord : RecordSound P (c.store.acts ++ new) id e)
    (hothers : ∀ j, j ≠ i → ∀ a, c.calls j = .saving a → a.sessionId ≠ id)
    (hwarranted : Justified (Warranted P) (c.store.acts ++ new))
    (hcall : CallSound P i (c.store.record redis new) l') (hsaving : ∀ a, l' ≠ .saving a)
    [DecidableEq ι] : Sound P ⟨c.store.record redis new, Function.update c.calls i l'⟩ := by
  have hne (id' : String) (h : id' ≠ id) : ∀ act ∈ new, act.subject ≠ some id' := by
    intro act hact heq
    rcases hsubject act hact with hnone | hsome
    · rw [hnone] at heq
      cases heq
    · rw [hsome] at heq
      exact h (Option.some.inj heq).symm
  have hsessions : (c.store.record redis new).redis.sessions =
      Function.update c.store.redis.sessions id (some e) := hredis
  constructor
  · intro id' e' he'
    rw [hsessions] at he'
    by_cases hid : id' = id
    · subst hid
      rw [Function.update_self] at he'
      exact Option.some.inj he' ▸ hrecord
    · rw [Function.update_of_ne hid] at he'
      exact (hc.records id' e' he').mono (hne id' hid)
  · intro id' hid' act hact
    rw [hsessions] at hid'
    by_cases hid : id' = id
    · subst hid
      rw [Function.update_self] at hid'
      cases hid'
    · rw [Function.update_of_ne hid] at hid'
      rcases List.mem_append.mp hact with hact | hact
      · exact hc.unknown id' hid' act hact
      · exact hne id' hid act hact
  · intro j
    change CallSound P j _ (Function.update c.calls i l' j)
    by_cases hj : j = i
    · subst hj
      simpa using hcall
    · rw [Function.update_of_ne hj]
      refine (hc.calls j).mono (le_of_eq hclock.symm) rfl fun a ha hfresh => ?_
      rw [hsessions, Function.update_of_ne (hothers j hj a ha)]
      exact hfresh
  · intro j k a b hj hk hid
    dsimp only at hj hk
    have hji : j ≠ i := by
      rintro rfl
      rw [Function.update_self] at hj
      exact hsaving a hj
    have hki : k ≠ i := by
      rintro rfl
      rw [Function.update_self] at hk
      exact hsaving b hk
    rw [Function.update_of_ne hji] at hj
    rw [Function.update_of_ne hki] at hk
    exact hc.unique j k a b hj hk hid
  · exact hwarranted

/-- No call is about to save a session that is there. -/
theorem Sound.not_saving (hc : Sound P c) {e : Entry VerificationSession}
    (hid : c.store.redis.sessions id = some e) (j : ι) (a : VerificationSession)
    (ha : c.calls j = .saving a) : a.sessionId ≠ id := by
  rintro rfl
  have hcall := hc.calls j
  rw [ha] at hcall
  obtain ⟨-, -, -, -, -, hfresh, -⟩ := hcall
  rw [hid] at hfresh
  cases hfresh

/-- **A step that writes a record that is there**, and whose acts are about it. -/
theorem sound_set [DecidableEq ι] (hc : Sound P c) {e : Entry VerificationSession}
    (hold : c.store.redis.sessions id = some e) {value : VerificationSession} {d : Option Int}
    (hsubject : ∀ act ∈ new, act.subject = none ∨ act.subject = some id)
    (hrecord : RecordSound P (c.store.acts ++ new) id ⟨value, d⟩)
    (hwarranted : Justified (Warranted P) (c.store.acts ++ new))
    (hcall : CallSound P i (c.store.record
      { c.store.redis with sessions := c.store.redis.sessions.set id value d } new) l')
    (hsaving : ∀ a, l' ≠ .saving a) :
    Sound P ⟨c.store.record
        { c.store.redis with sessions := c.store.redis.sessions.set id value d } new,
      Function.update c.calls i l'⟩ :=
  sound_write hc { c.store.redis with sessions := c.store.redis.sessions.set id value d } rfl rfl
    hsubject hrecord (fun j _ => hc.not_saving hold j) hwarranted hcall hsaving

/-! Records after a write. -/

theorem RecordSound.claims_eq_nil {e : Entry VerificationSession} (h : RecordSound P acts id e)
    (hnone : e.value.vpTokenSha256 = none) : claimsOf acts id = [] := by
  have hbound := h.bound
  rw [hnone, eq_comm, Option.map_eq_none_iff, List.getLast?_eq_none_iff] at hbound
  exact hbound

/-- An answer is about no record. -/
theorem RecordSound.answered {e : Entry VerificationSession} (h : RecordSound P acts id e) {i : ι}
    {id' digest' : String} {found : Option VerificationSession} {reply : SubmissionTransition} :
    RecordSound P (acts ++ [.answered i id' digest' found reply]) id e :=
  h.mono (by simp [Act.subject])

/-- The record of a session that expires. -/
theorem RecordSound.expire {d : Option Int} (h : RecordSound P acts id ⟨r, d⟩)
    (hstate : submissionState r digest now = some .expired) :
    RecordSound P acts id ⟨expireSession P r now, d⟩ := by
  have hnone : claimsOf acts id = [] ∧ decisionsOf acts id = [] := by
    rcases submissionState_eq_expired hstate with hexpired | ⟨hpending, hunbound⟩
    · exact h.expired hexpired
    · exact ⟨h.claims_eq_nil hunbound, (h.pending hpending).1⟩
  constructor
  · exact (sessionId_minimizeTerminal _ _).trans h.named
  · exact canonical_expireSession
  · exact h.deadline
  · exact h.opened
  · rw [vpTokenSha256_expireSession h.canonical.bare]
    exact h.bound
  · rw [hnone.1]
    simp
  · intro hpending
    rw [status_expireSession] at hpending
    cases hpending
  · exact fun _ => hnone
  · intro _ hexpired
    exact absurd status_expireSession hexpired

/-- The record of a session that is claimed. -/
theorem RecordSound.claim {d : Option Int} (h : RecordSound P acts id ⟨r, d⟩)
    (hstate : submissionState r digest now = none) :
    RecordSound P (acts ++ [.claimed id ⟨i, digest, token, now, r.expiresAt⟩]) id
      ⟨claimRecord r digest token now, d⟩ := by
  obtain ⟨hpending, hbound, -⟩ := submissionState_eq_none hstate
  have hclaims : claimsOf (acts ++ [.claimed id ⟨i, digest, token, now, r.expiresAt⟩]) id =
      claimsOf acts id ++ [⟨i, digest, token, now, r.expiresAt⟩] := by
    simp [claimsOf]
  have hdecisions : decisionsOf (acts ++ [.claimed id ⟨i, digest, token, now, r.expiresAt⟩]) id = [] := by
    rw [decisionsOf_append, (h.pending hpending).1]
    rfl
  constructor
  · exact h.named
  · exact h.canonical.claimRecord hpending
  · exact h.deadline
  · exact List.mem_append_left _ h.opened
  · rw [hclaims]
    simp [claimRecord]
  · intro claim hclaim
    rw [hclaims, List.mem_append, List.mem_singleton] at hclaim
    rcases hclaim with hclaim | rfl
    · have hdigest := h.one_digest claim hclaim
      rcases hbound with ⟨hunbound, -⟩ | hsame
      · rw [hunbound] at hdigest
        cases hdigest
      · exact hsame.symm.trans hdigest
    · rfl
  · rw [hclaims]
    exact fun _ => ⟨hdecisions, by simp [claimRecord], by simp [claimRecord]⟩
  · intro hexpired
    exact absurd (hpending.symm.trans hexpired) (by simp)
  · intro hne
    exact absurd hpending hne

/-- The record of a session that is decided. -/
theorem RecordSound.decide {d d' : Option Int} (h : RecordSound P acts id ⟨r, d⟩)
    {decision : Decision ι} {clock : Utc} (hpending : r.status = .pending)
    (hbound : r.vpTokenSha256 = some decision.digest) (hnamed : decision.terminal.sessionId = r.sessionId)
    (hcanonical : Canonical P decision.terminal) (hdeadline : d'.isSome)
    (hdigest : decision.terminal.vpTokenSha256 = some decision.digest)
    (hstatus : decision.terminal.status = .completed ∨ decision.terminal.status = .failed) :
    RecordSound P (acts ++ [.decided id decision clock]) id ⟨decision.terminal, d'⟩ := by
  have hclaims : claimsOf (acts ++ [.decided id decision clock]) id = claimsOf acts id := by
    rw [claimsOf_append]
    exact List.append_nil _
  have hdecisions : decisionsOf (acts ++ [.decided id decision clock]) id = [decision] := by
    rw [decisionsOf_append, (h.pending hpending).1]
    simp [decisionsOf]
  have hsame : decision.terminal.vpTokenSha256 = r.vpTokenSha256 := hdigest.trans hbound.symm
  constructor
  · exact hnamed.trans h.named
  · exact hcanonical
  · exact hdeadline
  · exact List.mem_append_left _ h.opened
  · rw [hclaims, hsame]
    exact h.bound
  · rw [hclaims, hsame]
    exact h.one_digest
  · intro hp
    rcases hstatus with hs | hs <;> exact absurd (hs.symm.trans hp) (by simp)
  · intro hp
    rcases hstatus with hs | hs <;> exact absurd (hs.symm.trans hp) (by simp)
  · exact fun _ _ => ⟨decision, hdecisions, rfl, hdigest⟩

/-- The record of a session that is saved. -/
theorem recordSound_saved {d : Option Int} {clock : Utc} (hpending : r.status = .pending)
    (hcanonical : Canonical P r) (hunbound : r.vpTokenSha256 = none)
    (htoken : r.processingToken = none) (hlease : r.processingExpiresAt = none) (hdeadline : d.isSome)
    (hopened : .opened r.sessionId ∈ acts) (hnew : ∀ act ∈ acts, act.subject ≠ some r.sessionId) :
    RecordSound P (acts ++ [.saved r clock]) r.sessionId ⟨r, d⟩ := by
  have hclaims : claimsOf (acts ++ [.saved r clock]) r.sessionId = [] := by
    rw [claimsOf_append, claimsOf_eq_nil hnew]
    rfl
  have hdecisions : decisionsOf (acts ++ [.saved r clock]) r.sessionId = [] := by
    rw [decisionsOf_append, decisionsOf_eq_nil hnew]
    rfl
  constructor
  · rfl
  · exact hcanonical
  · exact hdeadline
  · exact List.mem_append_left _ hopened
  · rw [hclaims]
    exact hunbound
  · rw [hclaims]
    simp
  · rw [hclaims]
    exact fun _ => ⟨hdecisions, htoken, hlease⟩
  · intro hexpired
    exact absurd (hpending.symm.trans hexpired) (by simp)
  · intro hne
    exact absurd hpending hne

/-! Records that a step keeps. -/

theorem recordKeeps_expire (hbare : r.vpToken = none)
    (hstate : submissionState r digest now = some .expired) : RecordKeeps r (expireSession P r now) := by
  constructor
  · simp
  · simp
  · rw [vpTokenSha256_expireSession hbare]
    exact fun _ h => h
  · intro hne
    rcases submissionState_eq_expired hstate with hexpired | ⟨hpending, -⟩
    · simp [hexpired]
    · exact absurd hpending hne

theorem recordKeeps_claim (hstate : submissionState r digest now = none) :
    RecordKeeps r (claimRecord r digest token now) := by
  obtain ⟨hpending, hbound, -⟩ := submissionState_eq_none hstate
  refine ⟨rfl, rfl, fun d hd => ?_, fun hne => absurd hpending hne⟩
  rcases hbound with ⟨hunbound, -⟩ | hsame
  · rw [hunbound] at hd
    cases hd
  · exact hsame.symm.trans hd

theorem recordKeeps_terminal {candidate : VerificationSession}
    (hstate : finalizeState r digest token = none)
    (hvalid : validateTerminalCandidate r candidate = .ok ()) :
    RecordKeeps r (terminalRecord P candidate digest) := by
  obtain ⟨hpending, hbound, -⟩ := finalizeState_eq_none hstate
  obtain ⟨-, horg, hexpires, -⟩ := validateTerminalCandidate_ok hvalid
  refine ⟨?_, ?_, fun d hd => ?_, fun hne => absurd hpending hne⟩
  · rw [organizationId_terminalRecord, horg]
  · rw [terminalRecord, expiresAt_minimizeTerminal]
    exact hexpires
  · rw [vpTokenSha256_terminalRecord]
    exact hbound.symm.trans hd

end Steps

end Marty.Verification
