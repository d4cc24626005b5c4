import Marty.Verification.SessionChanges

/-!
# Submissions to a session

Whatever the calls do, and in whatever order, a session is bound to the first presentation that
claims it and decided once, by the holder of the token that was issued last.

## Main definitions

* `Kept` — what later states keep of the records.
* `DecidedOnce` — what the acts and the records say in every state.

## Main results

* `step_sound` — every step keeps soundness and is one of the changes.
* `session_decided_once` — sessions along every run.
-/

namespace Marty.Verification

open Lib VerificationSession

variable {P : Platform} {managementAuthorization : Bool} {ι : Type*}
variable {c c' : Config (Store ι) ι Call} {i : ι} {e : Event} {l : Call} {id : String}

/-! ## The steps -/

/-- The claims of a session are of one digest. -/
theorem Sound.one_digest (hc : Sound P c) {a b : Claim ι} (ha : a ∈ claimsOf c.store.acts id)
    (hb : b ∈ claimsOf c.store.acts id) : a.digest = b.digest := by
  cases he : c.store.redis.sessions id with
  | none =>
      rw [claimsOf_eq_nil (hc.unknown id he)] at ha
      cases ha
  | some e =>
      have hrecord := hc.records id e he
      exact Option.some.inj ((hrecord.one_digest a ha).symm.trans (hrecord.one_digest b hb))

/-- A record that is read is sound. -/
theorem Sound.raw (hc : Sound P c) {raw : VerificationSession}
    (h : c.store.redis.raw id = some raw) : Seen P c.store.acts id raw := by
  obtain ⟨e, he, -, rfl⟩ := Keyspace.get_eq_some.mp h
  exact (hc.records id e he).seen

/-- An answer that a submission gets from the record that it has read. -/
theorem warranted_answer (hc : Sound P c) {raw : VerificationSession} {digest : String}
    {outcome : SubmissionOutcome} (hseen : Seen P c.store.acts id raw)
    (hduplicate : outcome = .duplicate → raw.status ≠ .pending ∧ raw.status ≠ .expired ∧
      raw.vpTokenSha256 = some digest)
    (hcommitted : outcome ≠ .committed)
    (hother : raw.vpTokenSha256 ≠ some digest → outcome = .conflict) :
    Warranted P c.store.acts (.answered i id digest (some raw) ⟨outcome, some raw, none⟩) := by
  refine ⟨fun hdup => ?_, hcommitted, fun claim hclaim hne => ?_⟩
  · obtain ⟨hpending, hexpired, hdigest⟩ := hduplicate hdup
    obtain ⟨decision, hdecision, hterminal, hbound⟩ := hseen.decided hpending hexpired
    exact ⟨decision, hdecision, Option.some.inj (hbound.symm.trans hdigest), congrArg some hterminal⟩
  · apply hother
    intro hbound
    obtain ⟨own, hown, hdigest⟩ := hseen.claimed digest hbound
    exact hne ((hc.one_digest hclaim hown).trans hdigest)

theorem warranted_missing {digest : String} :
    Warranted P c.store.acts (.answered i id digest none (SubmissionTransition.new .missing)) :=
  ⟨nofun, by simp [SubmissionTransition.new], fun _ _ _ => rfl⟩

theorem sound_tick (hc : Sound P c) {clock : Utc} (hclock : c.store.redis.clock ≤ clock) :
    Sound P ⟨⟨{ c.store.redis with clock := clock }, c.store.acts⟩, c.calls⟩ := by
  constructor
  · exact hc.records
  · exact hc.unknown
  · intro j
    have hacts : c.store.acts = c.store.acts ++ [] := (List.append_nil _).symm
    exact (hc.calls j).mono hclock hacts fun _ _ h => h
  · exact hc.unique
  · exact hc.warranted

/-- A claim that has read the time is answered, or goes on to its swap. -/
theorem sound_claimTimed [DecidableEq ι] (hc : Sound P c) {sub : Submission} {tries : Nat}
    {raw : VerificationSession} (hl : c.calls i = .claimTiming sub tries raw) (token : String) :
    Sound P ⟨(claimTimed P i c.store sub tries raw token).1,
        Function.update c.calls i (claimTimed P i c.store sub tries raw token).2⟩ ∧
      Change e l c.store (claimTimed P i c.store sub tries raw token).1 := by
  have hseen : Seen P c.store.acts sub.sessionId raw := by
    have hcall := hc.calls i
    rwa [hl] at hcall
  have hnow : c.store.redis.serverTime ≤ c.store.redis.clock :=
     Int.ediv_mul_le c.store.redis.clock (by decide)
  unfold claimTimed
  simp only [hseen.canonical.decoded]
  split
  case h_1 outcome hstate =>
      split
      case isTrue hexpired =>
          subst hexpired
          rw [canonical_expireSession.encode]
          refine sound_move hc ?_ (by simp)
          exact ⟨hseen.canonical, _, hnow, .expired hstate⟩
      case isFalse hexpired =>
          refine sound_act hc rfl (warranted_answer hc hseen ?_ ?_ ?_) (by trivial) (by simp)
          · rintro rfl
            exact submissionState_duplicate hstate
          · rintro rfl
            exact submissionState_ne_committed hstate
          · exact fun hother => submissionState_other hstate hexpired hother hseen.leased
  case h_2 hstate =>
      rw [(hseen.canonical.claimRecord (submissionState_eq_none hstate).1).encode]
      refine sound_move hc ?_ (by simp)
      exact ⟨hseen.canonical, _, hnow, .claimed token hstate⟩

/-- A claim whose swap has succeeded. -/
theorem sound_claimed [DecidableEq ι] (hc : Sound P c) {sub : Submission} {tries : Nat}
    {raw replacement : VerificationSession} {reply : SubmissionTransition} {d : Int}
    (hl : c.calls i = .claimSwapping sub tries raw replacement reply)
    (hold : c.store.redis.sessions sub.sessionId = some ⟨raw, some d⟩) :
    Sound P ⟨c.store.record { c.store.redis with
          sessions := c.store.redis.sessions.set sub.sessionId replacement (some d) }
          (claimActs P i sub raw reply),
        Function.update c.calls i (afterClaim sub reply)⟩ ∧
      Change e l c.store (c.store.record { c.store.redis with
        sessions := c.store.redis.sessions.set sub.sessionId replacement (some d) }
        (claimActs P i sub raw reply)) := by
  have hrecord := hc.records _ _ hold
  have hcall := hc.calls i
  rw [hl] at hcall
  obtain ⟨hcanonical, now, hnow, hclaim⟩ := hcall
  cases hclaim with
  | expired hstate =>
      have hacts : claimActs P i sub raw
          ⟨.expired, some (expireSession P raw now), none⟩ =
          [.answered i sub.sessionId (sub.digest P) (some raw)
            ⟨.expired, some (expireSession P raw now), none⟩] := rfl
      have hexpired := hrecord.expire hstate
      rw [hacts]
      refine ⟨sound_set hc hold (by simp [Act.subject]) hexpired.answered ?_ (by trivial)
        (by simp [afterClaim]), .kept _ raw _ d _ hold (recordKeeps_expire hcanonical.bare hstate)
        (by simp [Act.subject])⟩
      refine hc.warranted.append ⟨(fun h => by cases h), by simp, fun claim hmem _ => ?_⟩
      rw [(hexpired.expired status_expireSession).1] at hmem
      cases hmem
  | claimed token hstate =>
      obtain ⟨hpending, hbound, hlease⟩ := submissionState_eq_none hstate
      have hacts : claimActs P i sub raw
          ⟨.claimed, some (claimRecord raw (sub.digest P) token now), some token⟩ =
          [.claimed sub.sessionId ⟨i, sub.digest P, token, now, raw.expiresAt⟩] ++
            [.answered i sub.sessionId (sub.digest P) (some raw)
              ⟨.claimed, some (claimRecord raw (sub.digest P) token now), some token⟩] := rfl
      have hclaimed : RecordSound P (c.store.acts ++
          [.claimed sub.sessionId ⟨i, sub.digest P, token, now, raw.expiresAt⟩]) sub.sessionId
          ⟨claimRecord raw (sub.digest P) token now, _⟩ := hrecord.claim hstate
      have hone := hclaimed.one_digest
      have hdecisions := (hrecord.pending hpending).1
      have hwarrant : Warranted P c.store.acts
          (.claimed sub.sessionId ⟨i, sub.digest P, token, now, raw.expiresAt⟩) := by
        refine ⟨hdecisions, ?_⟩
        cases hlast : (claimsOf c.store.acts sub.sessionId).getLast? with
        | none =>
            have hunbound := hrecord.bound
            rw [hlast, Option.map_none] at hunbound
            rcases hbound with ⟨-, hle⟩ | hsame
            · exact hle
            · rw [hunbound] at hsame
              cases hsame
        | some last =>
            obtain ⟨-, htoken, hends⟩ := hrecord.pending hpending
            have hdigest := hrecord.bound
            rw [hlast, Option.map_some] at hdigest htoken hends
            refine ⟨?_, hlease (by rw [htoken]; rfl) _ hends⟩
            rcases hbound with ⟨hunbound, -⟩ | hsame
            · rw [hunbound] at hdigest
              cases hdigest
            · exact Option.some.inj (hsame.symm.trans hdigest)
      rw [hacts]
      refine ⟨sound_set hc hold (by simp [Act.subject]) ?_ ?_ ?_
        (by simp [afterClaim]), .kept _ raw _ d _ hold (recordKeeps_claim hstate)
        (by simp [Act.subject])⟩
      · rw [← List.append_assoc]
        exact hclaimed.answered
      · rw [← List.append_assoc]
        refine (hc.warranted.append hwarrant).append
          ⟨(fun h => by cases h), by simp, fun claim hmem hne => ?_⟩
        exact absurd (Option.some.inj (hone claim hmem)).symm hne
      · refine ⟨⟨i, sub.digest P, token, now, raw.expiresAt⟩, ?_, rfl, rfl, rfl⟩
        simp [Store.record, claimsOf]

/-- A finalization that has read the record is answered, or goes on to its swap. -/
theorem sound_finalizeRead [DecidableEq ι] (hc : Sound P c) {sub : Submission} {token : String}
    {candidate : VerificationSession} {n : Nat} {raw : VerificationSession}
    (hl : c.calls i = .finalizing sub token candidate n) (tries : Nat)
    (hraw : c.store.redis.raw sub.sessionId = some raw) :
    Sound P ⟨(finalizeRead P i c.store sub token candidate tries raw).1,
        Function.update c.calls i (finalizeRead P i c.store sub token candidate tries raw).2⟩ ∧
      Change e l c.store (finalizeRead P i c.store sub token candidate tries raw).1 := by
  have hevaluated := hc.calls i
  rw [hl] at hevaluated
  obtain ⟨e, he, -, rfl⟩ := Keyspace.get_eq_some.mp hraw
  have hrecord := hc.records _ _ he
  have hseen := hrecord.seen
  unfold finalizeRead
  simp only [hseen.canonical.decoded]
  split
  case h_1 outcome hstate =>
      refine sound_act hc rfl (warranted_answer hc hseen ?_ ?_ ?_) (by trivial) (by simp)
      · rintro rfl
        obtain ⟨hpending, hdigest⟩ := finalizeState_duplicate hstate
        refine ⟨hpending, fun hexpired => ?_, hdigest⟩
        -- what has expired is bound to nothing
        obtain ⟨claim, hclaim, -⟩ := hseen.claimed _ hdigest
        rw [(hrecord.expired hexpired).1] at hclaim
        cases hclaim
      · rintro rfl
        exact finalizeState_ne_committed hstate
      · exact finalizeState_other hstate
  case h_2 hstate =>
      split
      case h_1 => exact sound_move hc (by trivial) (by simp)
      case h_2 hvalid =>
          refine sound_move hc ?_ (by simp)
          exact ⟨hevaluated, hseen.canonical, hstate, hvalid, rfl⟩

/-- What an evaluation has come to, by whom and for which claim. -/
theorem Sound.evaluated (hc : Sound P c) {sub : Submission} {token : String}
    {candidate : VerificationSession} (h : Evaluated i c.store.acts sub token candidate) :
    candidate.status = .completed ∨ candidate.status = .failed := by
  obtain ⟨session, hact⟩ := h
  obtain ⟨l₁, l₂, hsplit⟩ := List.append_of_mem hact
  obtain ⟨-, evaluation, inspection, at', rfl⟩ := hc.warranted l₁ _ l₂ hsplit
  exact status_conclude _ _ _ _

/-- A finalization whose swap has succeeded. -/
theorem sound_decided [DecidableEq ι] (hc : Sound P c) {sub : Submission} {token : String}
    {candidate raw terminal : VerificationSession} {tries : Nat} {d : Option Int}
    (hl : c.calls i = .finalizeSwapping sub token candidate tries raw terminal)
    (hold : c.store.redis.sessions sub.sessionId = some ⟨raw, d⟩)
    (halive : (Entry.mk raw d).isAlive c.store.redis.millis = true) :
    Sound P ⟨c.store.record { c.store.redis with
          sessions := c.store.redis.sessions.set sub.sessionId (encode terminal) c.store.redis.fullTtl }
          [.decided sub.sessionId ⟨i, sub.digest P, token, candidate, terminal⟩ c.store.redis.clock],
        Function.update c.calls i .ended⟩ ∧
      Change e l c.store (c.store.record { c.store.redis with
          sessions := c.store.redis.sessions.set sub.sessionId (encode terminal) c.store.redis.fullTtl }
          [.decided sub.sessionId ⟨i, sub.digest P, token, candidate, terminal⟩ c.store.redis.clock]) := by
  have hrecord := hc.records _ _ hold
  have hcall := hc.calls i
  rw [hl] at hcall
  obtain ⟨hevaluated, hcanonical, hstate, hvalid, rfl⟩ := hcall
  obtain ⟨hpending, hbound, htoken⟩ := finalizeState_eq_none hstate
  obtain ⟨hid, -, -, hdecided⟩ := validateTerminalCandidate_ok hvalid
  have hterminal : Canonical P (terminalRecord P candidate (sub.digest P)) :=
    canonical_terminalRecord hdecided
  have hstored : RecordSound P (c.store.acts ++ [.decided sub.sessionId
      ⟨i, sub.digest P, token, candidate, terminalRecord P candidate (sub.digest P)⟩
        c.store.redis.clock]) sub.sessionId
      ⟨terminalRecord P candidate (sub.digest P), c.store.redis.fullTtl⟩ := by
    refine hrecord.decide hpending hbound
      ?_ hterminal rfl (by simp) ?_
    · rw [terminalRecord, sessionId_minimizeTerminal]
      exact hid
    · simpa using hc.evaluated hevaluated
  obtain ⟨hnone, hissued, -⟩ := hrecord.pending hpending
  obtain ⟨last, hlast, hlasttoken⟩ := Option.map_eq_some_iff.mp (hissued.symm.trans htoken)
  have hlastdigest : last.digest = sub.digest P := by
    have hdigest := hrecord.bound
    rw [hlast, Option.map_some, hbound] at hdigest
    exact (Option.some.inj hdigest).symm
  have hwarrant : Warranted P c.store.acts (.decided sub.sessionId
      ⟨i, sub.digest P, token, candidate, terminalRecord P candidate (sub.digest P)⟩
        c.store.redis.clock) :=
    ⟨hnone, ⟨last, hlast, hlasttoken, hlastdigest⟩, sub, rfl, rfl, hevaluated, rfl⟩
  have hstatus : (terminalRecord P candidate (sub.digest P)).status ≠ .pending := by
    rwa [status_terminalRecord]
  rw [hterminal.encode]
  refine ⟨sound_set hc hold (by simp [Act.subject]) ?_ ?_ (by trivial) (by simp), .decided _ raw d
    ⟨i, sub.digest P, token, candidate, terminalRecord P candidate (sub.digest P)⟩ hold halive hpending
    (recordKeeps_terminal hstate hvalid) hstatus⟩
  · exact hstored
  · exact hc.warranted.append hwarrant

/-- A session that is saved. -/
theorem sound_saved [DecidableEq ι] (hc : Sound P c) {session : VerificationSession}
    (hl : c.calls i = .saving session) :
    Sound P ⟨c.store.record (c.store.redis.save (encode (minimizeTerminal P session)))
          [.saved (encode (minimizeTerminal P session)) c.store.redis.clock],
        Function.update c.calls i .ended⟩ ∧
      Change .command (c.calls i) c.store
        (c.store.record (c.store.redis.save (encode (minimizeTerminal P session)))
          [.saved (encode (minimizeTerminal P session)) c.store.redis.clock]) := by
  have hcall := hc.calls i
  rw [hl] at hcall
  obtain ⟨hpending, hcanonical, hunbound, htoken, hlease, hfresh, hopened⟩ := hcall
  rw [minimizeTerminal_of_pending hpending, hcanonical.encode]
  have hrecord : RecordSound P (c.store.acts ++ [.saved session c.store.redis.clock])
      session.sessionId ⟨session, c.store.redis.fullTtl⟩ :=
    recordSound_saved hpending hcanonical hunbound htoken hlease rfl hopened (hc.unknown _ hfresh)
  refine ⟨sound_write hc (c.store.redis.save _) rfl rfl (by simp [Act.subject]) hrecord ?_ ?_
    (by trivial) (by simp), .saved session rfl hl hfresh hpending⟩
  · intro j hj a ha hid
    exact hj (hc.unique j i a session ha hl hid)
  · exact hc.warranted.append (by trivial)

/-- What `start_session` saves is a pending session of its own identifier. -/
theorem startSession_ok {body : StartVerificationRequest} {principal : ManagementPrincipal}
    {authorized resolved : Except VerificationError Unit} {sessionId flowId nonce : String}
    {now : Utc} {session : VerificationSession}
    (h : startSession managementAuthorization body principal authorized resolved sessionId flowId
      nonce now = .ok session) :
    session.sessionId = sessionId ∧ session.status = .pending ∧ Canonical P session ∧
      session.vpTokenSha256 = none ∧ session.processingToken = none ∧
      session.processingExpiresAt = none := by
  unfold startSession VerificationSession.new at h
  split at h
  case h_1 => cases h
  case h_2 =>
      split at h
      case h_1 => cases h
      case h_2 =>
          cases h
          exact ⟨rfl, rfl, canonical_of_pending rfl rfl rfl, rfl, rfl, rfl⟩

/-- A session that is opened has an identifier that no other one has. -/
theorem sound_opened [DecidableEq ι] (hc : Sound P c) {session : VerificationSession}
    (hfresh : ∀ act ∈ c.store.acts, act ≠ .opened session.sessionId)
    (hpending : session.status = .pending) (hcanonical : Canonical P session)
    (hunbound : session.vpTokenSha256 = none) (htoken : session.processingToken = none)
    (hlease : session.processingExpiresAt = none) :
    Sound P ⟨c.store.record c.store.redis [.opened session.sessionId],
        Function.update c.calls i (.saving session)⟩ ∧
      Change e l c.store (c.store.record c.store.redis [.opened session.sessionId]) := by
  refine ⟨sound_quiet hc (by simp [Act.subject]) (hc.warranted.append (by trivial)) ?_ ?_,
    .quiet _ (by simp [Act.subject])⟩
  · refine ⟨hpending, hcanonical, hunbound, htoken, hlease, ?_, by simp [Store.record]⟩
    cases he : c.store.redis.sessions session.sessionId with
    | none => exact he
    | some e => exact absurd rfl (hfresh _ (hc.records _ e he).opened)
  · intro a ha j b hj hb hid
    obtain rfl : session = a := Call.saving.inj ha
    have hcall := hc.calls j
    rw [hb] at hcall
    obtain ⟨-, -, -, -, -, -, hopened⟩ := hcall
    exact hfresh _ hopened (congrArg Act.opened hid.symm)

/-- What `get` does with the record that it has read. -/
theorem callSound_getDecoded (s : Store ι) (session : VerificationSession)
    (submission : Option Submission) : CallSound P i s (getDecoded session submission) ∧
      ∀ a, getDecoded session submission ≠ .saving a := by
  unfold getDecoded afterGet
  repeat' split
  all_goals exact ⟨trivial, by simp⟩

/-- **Every step keeps soundness**, and is one of the changes. -/
theorem step_sound [DecidableEq ι] (hc : Sound P c)
    (h : (sessionMachine P managementAuthorization ι).next c i e = some c') :
    Sound P c' ∧ Change e (c.calls i) c.store c'.store := by
  obtain ⟨s, l, hstep, rfl⟩ := Machine.next_eq_some.mp h
  change step P managementAuthorization i e c.store (c.calls i) = some (s, l) at hstep
  have hdeadlines (id : String) : ∀ e, c.store.redis.sessions id = some e → e.deadline.isSome :=
    fun e he => (hc.records id e he).deadline
  unfold step at hstep
  split at hstep
  case h_1 clock =>
      split at hstep
      case isTrue hclock =>
          cases hstep
          rw [Function.update_eq_self]
          exact ⟨sound_tick hc hclock, .tick clock rfl hclock⟩
      case isFalse => cases hstep
  case h_2 =>
      cases hstep
      exact sound_move hc (by trivial) (by simp)
  case h_3 body principal authorized resolved sessionId flowId nonce =>
      split at hstep
      case h_1 =>
          split at hstep
          case isTrue => cases hstep
          case isFalse hfresh =>
              split at hstep
              case h_1 =>
                  cases hstep
                  exact sound_move hc (by trivial) (by simp)
              case h_2 session hstart =>
                  cases hstep
                  obtain ⟨rfl, hpending, hcanonical, hunbound, htoken, hlease⟩ :=
                    startSession_ok hstart
                  refine sound_opened hc ?_ hpending hcanonical hunbound htoken hlease
                  intro act hact heq
                  exact hfresh (List.any_eq_true.mpr ⟨act, hact, by simp [heq]⟩)
      case h_2 => cases hstep
  case h_4 id =>
      split at hstep
      case h_1 =>
          cases hstep
          exact sound_move hc (by trivial) (by simp)
      case h_2 => cases hstep
  case h_5 sub validateReferences =>
      split at hstep
      case h_1 =>
          repeat' split at hstep
          all_goals
            cases hstep
            exact sound_move hc (by trivial) (by simp)
      case h_2 => cases hstep
  case h_6 token =>
      split at hstep
      case h_1 sub tries raw hl =>
          have hresult := sound_claimTimed (e := .time token) (l := c.calls i) hc hl token
          rwa [Option.some.inj hstep] at hresult
      case h_2 => cases hstep
  case h_7 answer =>
      split at hstep
      case h_1 =>
          split at hstep
          all_goals
            cases hstep
            exact sound_move hc (by trivial) (by simp)
      case h_2 => cases hstep
  case h_8 evaluation inspection =>
      split at hstep
      case h_1 sub token session hl =>
          cases hstep
          have hclaim := hc.calls i
          rw [hl] at hclaim
          refine sound_act hc rfl ?_ ?_ (by simp)
          · exact ⟨hclaim, evaluation, inspection, _, rfl⟩
          · exact ⟨session, by simp [Store.record]⟩
      case h_2 => cases hstep
  case h_9 =>
      split at hstep
      case h_1 session hl =>
          cases hstep
          exact sound_saved hc hl
      case h_2 id submission hl =>
          split at hstep
          case h_1 =>
              cases hstep
              exact sound_move hc (by trivial) (by simp)
          case h_2 raw hraw =>
              have hseen := hc.raw hraw
              -- the text of a record is what it is written as
              simp only [hseen.canonical.decoded, hseen.canonical.encode, ne_eq, not_true_eq_false,
                if_false, Option.some.injEq, Prod.mk.injEq] at hstep
              obtain ⟨rfl, rfl⟩ := hstep
              obtain ⟨hcall, hsaving⟩ := callSound_getDecoded (P := P) (i := i) c.store raw submission
              exact sound_move hc hcall hsaving
      case h_3 id raw canonical submission hl =>
          have hcall := hc.calls i
          rw [hl] at hcall
          exact hcall.elim
      case h_4 session submission hl =>
          cases hstep
          refine sound_move hc ?_ ?_
          · unfold afterGet
            repeat' split
            all_goals trivial
          · unfold afterGet
            repeat' split
            all_goals simp
      case h_5 =>
          cases hstep
          exact sound_move hc (by trivial) (by simp)
      case h_6 sub tries hl =>
          split at hstep
          case h_1 =>
              cases hstep
              exact sound_act hc rfl warranted_missing (by trivial) (by simp)
          case h_2 raw hraw =>
              cases hstep
              exact sound_move hc (by exact hc.raw hraw) (by simp)
      case h_7 sub tries raw replacement reply hl =>
          split at hstep
          case h_1 =>
              cases hstep
              exact sound_move hc (by trivial) (by simp)
          case h_2 redis hcas =>
              cases hstep
              obtain ⟨hfalse, -⟩ | ⟨-, d, hold, -, rfl⟩ := Redis.casKeepTtl_cases (hdeadlines _) hcas
              · cases hfalse
              · exact sound_claimed hc hl hold
          case h_3 redis hcas =>
              cases hstep
              obtain ⟨-, rfl⟩ | ⟨htrue, -⟩ := Redis.casKeepTtl_cases (hdeadlines _) hcas
              · exact sound_quiet_nil hc (by trivial) (by simp)
              · cases htrue
      case h_8 =>
          cases hstep
          exact sound_move hc (by trivial) (by simp)
      case h_9 sub token candidate tries hl =>
          split at hstep
          case h_1 =>
              cases hstep
              exact sound_act hc rfl warranted_missing (by trivial) (by simp)
          case h_2 raw hraw =>
              have hresult :=
                sound_finalizeRead (e := .command) (l := c.calls i) hc hl tries hraw
              rwa [Option.some.inj hstep] at hresult
      case h_10 sub token candidate tries raw terminal hl =>
          have hcall := hc.calls i
          rw [hl] at hcall
          split at hstep
          case h_1 redis hcas =>
              cases hstep
              obtain ⟨hfalse, -⟩ | ⟨-, d, hold, halive, rfl⟩ := Redis.casResetTtl_cases hcas
              · cases hfalse
              · exact sound_decided hc hl hold halive
          case h_2 redis hcas =>
              cases hstep
              obtain ⟨-, rfl⟩ | ⟨htrue, -⟩ := Redis.casResetTtl_cases hcas
              · refine sound_quiet_nil hc ?_ (by simp)
                obtain ⟨session, hevaluated⟩ := hcall.1
                exact ⟨session, List.mem_append_left _ hevaluated⟩
              · cases htrue
      case h_11 => cases hstep

/-! ## Runs -/

/-- **What the acts and the records say**: every act was warranted when it was done, a session is
decided at most once, and the decision is what is stored. -/
structure DecidedOnce (P : Platform) (s : Store ι) : Prop where
  warranted : Justified (Warranted P) s.acts
  once : ∀ id, (decisionsOf s.acts id).length ≤ 1
  stored : ∀ id, ∀ decision ∈ decisionsOf s.acts id, ∃ e, s.redis.sessions id = some e ∧
    e.value = decision.terminal ∧ e.value.vpTokenSha256 = some decision.digest

/-- Every record is still there, bound and settled as it was. -/
def RecordsKept (s s' : Store ι) : Prop :=
  ∀ id e, s.redis.sessions id = some e →
    ∃ e', s'.redis.sessions id = some e' ∧ RecordKeeps e.value e'.value

theorem Sound.decidedOnce (hc : Sound P c) : DecidedOnce P c.store := by
  have hdecisions (id : String) : decisionsOf c.store.acts id = [] ∨
      ∃ e decision, c.store.redis.sessions id = some e ∧ decisionsOf c.store.acts id = [decision] ∧
        e.value = decision.terminal ∧ e.value.vpTokenSha256 = some decision.digest := by
    cases he : c.store.redis.sessions id with
    | none => exact .inl (decisionsOf_eq_nil (hc.unknown id he))
    | some e =>
        have hrecord := hc.records id e he
        by_cases hpending : e.value.status = .pending
        · exact .inl (hrecord.pending hpending).1
        · by_cases hexpired : e.value.status = .expired
          · exact .inl (hrecord.expired hexpired).2
          · obtain ⟨decision, hone, hrest⟩ := hrecord.decided hpending hexpired
            exact .inr ⟨e, decision, rfl, hone, hrest⟩
  refine ⟨hc.warranted, fun id => ?_, fun id decision hmem => ?_⟩
  · rcases hdecisions id with hnil | ⟨e, decision, -, hone, -⟩
    · simp [hnil]
    · simp [hone]
  · rcases hdecisions id with hnil | ⟨e, own, he, hone, hrest⟩
    · rw [hnil] at hmem
      cases hmem
    · rw [hone, List.mem_singleton] at hmem
      exact ⟨e, he, hmem ▸ hrest⟩

theorem Change.recordsKept {s s' : Store ι} (h : Change e l s s') : RecordsKept s s' := by
  intro id e he
  cases h with
  | tick clock hevent hclock => exact ⟨e, he, .refl _⟩
  | quiet new hquiet => exact ⟨e, he, .refl _⟩
  | saved session hevent hcall hfresh hpending =>
      have hne : id ≠ session.sessionId := by
        rintro rfl
        rw [hfresh] at he
        cases he
      exact ⟨e, (Keyspace.set_of_ne hne _ _).trans he, .refl _⟩
  | kept id' old replacement d new hold hkeeps hnew =>
      by_cases hid : id = id'
      · subst hid
        rw [hold] at he
        cases he
        exact ⟨_, Keyspace.set_self _ _, hkeeps⟩
      · exact ⟨e, (Keyspace.set_of_ne hid _ _).trans he, .refl _⟩
  | decided id' old d decision hold halive hpending hkeeps hdecided =>
      by_cases hid : id = id'
      · subst hid
        rw [hold] at he
        cases he
        exact ⟨_, Keyspace.set_self _ _, hkeeps⟩
      · exact ⟨e, (Keyspace.set_of_ne hid _ _).trans he, .refl _⟩

theorem RecordsKept.trans {a b d : Store ι} (h : RecordsKept a b) (h' : RecordsKept b d) :
    RecordsKept a d := by
  intro id e he
  obtain ⟨e₁, he₁, hkeeps⟩ := h id e he
  obtain ⟨e₂, he₂, hkeeps'⟩ := h' id e₁ he₁
  exact ⟨e₂, he₂, hkeeps.trans hkeeps'⟩

theorem sound_noSessions (P : Platform) (ι : Type*) (clock : Utc) : Sound P (noSessions ι clock) := by
  constructor
  · intro id e he
    cases he
  · intro id _ act hact
    cases hact
  · exact fun _ => trivial
  · intro i j a b ha
    cases ha
  · exact Justified.nil

variable [DecidableEq ι]

theorem run_sound {t : List (ι × Event)} {clock : Utc}
    (h : (sessionMachine P managementAuthorization ι).run (noSessions ι clock) t = some c) : Sound P c :=
  Machine.run_induct (fun _ _ _ _ hP hnext => (step_sound hP hnext).1) (sound_noSessions P ι clock) h

/-- **A session is decided once, by the presentation that it is bound to.**  In every state every
act was warranted, and whatever happens next, every record stays bound and settled as it is. -/
theorem session_decided_once {t : List (ι × Event)} {clock : Utc}
    (h : (sessionMachine P managementAuthorization ι).run (noSessions ι clock) t = some c) :
    DecidedOnce P c.store ∧ ∀ u c',
      (sessionMachine P managementAuthorization ι).run c u = some c' →
        RecordsKept c.store c'.store := by
  have hsound := run_sound h
  refine ⟨hsound.decidedOnce, fun u c' hrun => ?_⟩
  exact Machine.run_rel (R := fun a b => RecordsKept a.store b.store)
    (fun _ _ e he => ⟨e, he, .refl _⟩) (fun _ _ _ hab hbd => hab.trans hbd)
    (fun _ _ _ _ hP hnext => (step_sound hP hnext).1)
    (fun _ _ _ _ hP hnext => (step_sound hP hnext).2.recordsKept) hsound hrun

namespace SubmissionExample

/-- The digests of the two presentations below. -/
def platform : Platform where
  sha256Text := fun text =>
    if text = "presentation-a" then "9d9cee8865cc107c85163d949cb7f0e4514981ccd2a7549aab5ec990b880c9e8"
    else "facda4963232bc1e8cbd2914c5afa7555aeac068fd07631bc01a835d81cfbb5d"
  readJson := fun _ => none

def request : StartVerificationRequest where
  organizationId := "org-1"
  presentationPolicyId := some "policy-1"
  responseType := "vp_token"
  trustProfileId := none
  deploymentProfileId := none
  externalReference := none
  callbackUrl := none
  expiryMinutes := 15
  purpose := "Age verification"

def evaluation : EvaluationResult where
  result := "passed"
  decision := "allow"
  decisionReason := ""
  verifiedClaims := BTreeMap.empty
  credentialResults := []
  holderBindingEvidence := none
  totalRequirements := 1
  satisfiedRequirements := 1
  evaluationTimestamp := "1970-01-01T00:00:31Z"
  nonce := "N"

/-- Two presentations race for the session.  The one that was first is evaluated twice: its lease
ends, and the call that takes it over decides the session. -/
def takenOver : List (Fin 4 × Event) :=
  [(0, .start request ⟨"user-1", "org-1"⟩ (.ok ()) (.ok ()) "S" "F" "N"), (0, .command),
    (1, .submit ⟨"S", "presentation-a"⟩ false), (2, .submit ⟨"S", "presentation-b"⟩ false),
    (1, .command), (2, .command), (1, .time "first"), (2, .time "other"), (1, .command),
    (2, .command), (2, .command), (2, .time "other"),
    (0, .tick (utcSeconds 31)), (3, .submit ⟨"S", "presentation-a"⟩ true), (3, .command),
    (3, .resolve (.ok ())), (3, .command), (3, .time "second"), (3, .command),
    (1, .evaluate (some evaluation) none), (3, .evaluate (some evaluation) none), (1, .command),
    (3, .command), (3, .command)]

/-- The status of the session, its claims, who decided it, and the answers. -/
structure Observation where
  status : Option SessionStatus
  claims : List (Fin 4 × String)
  decisions : List (Fin 4)
  answers : List (Fin 4 × SubmissionOutcome)
  deriving DecidableEq

def observe (c : Config (Store (Fin 4)) (Fin 4) Call) : Observation where
  status := (c.store.redis.raw "S").map (·.status)
  claims := (claimsOf c.store.acts "S").map fun claim => (claim.caller, claim.token)
  decisions := (decisionsOf c.store.acts "S").map (·.caller)
  answers := c.store.acts.filterMap fun act => match act with
    | .answered caller _ _ _ reply => some (caller, reply.outcome)
    | _ => none

theorem session_decided_once_taken_over : ∃ c c',
    (sessionMachine platform true (Fin 4)).run (noSessions (Fin 4) 0) (takenOver.take 12) = some c ∧
      (sessionMachine platform true (Fin 4)).run c (takenOver.drop 12) = some c' ∧
      DecidedOnce platform c.store ∧ RecordsKept c.store c'.store ∧
      observe c = ⟨some .pending, [(1, "first")], [], [(1, .claimed), (2, .conflict)]⟩ ∧
      observe c' = ⟨some .completed, [(1, "first"), (3, "second")], [3],
        [(1, .claimed), (2, .conflict), (3, .claimed), (1, .busy)]⟩ := by
  have hrun : ((sessionMachine platform true (Fin 4)).run (noSessions (Fin 4) 0)
      (takenOver.take 12)).bind (fun c => ((sessionMachine platform true (Fin 4)).run c
        (takenOver.drop 12)).map fun c' => (observe c, observe c')) =
      some (⟨some .pending, [(1, "first")], [], [(1, .claimed), (2, .conflict)]⟩,
        ⟨some .completed, [(1, "first"), (3, "second")], [3],
          [(1, .claimed), (2, .conflict), (3, .claimed), (1, .busy)]⟩) := by
    decide +kernel
  obtain ⟨c, hc, hobserved⟩ := Option.bind_eq_some_iff.mp hrun
  obtain ⟨c', hc', heq⟩ := Option.map_eq_some_iff.mp hobserved
  rw [Prod.mk.injEq] at heq
  obtain ⟨honce, hkept⟩ := session_decided_once hc
  exact ⟨c, c', hc, hc', honce, hkept _ c' hc', heq.1, heq.2⟩

end SubmissionExample

end Marty.Verification
